import Sysgaze.Configurations

/-! # Where the command begins

    `getopt_long` consumes the `--` in front of the command, and
    `separator_index` looks for it once more, with its own list of options that
    take a value.  Both walk over the same words as long as every separate
    value is stepped over.

    `past` is the walk of `separator_index` over the options that `getopt_long`
    has read.  `boundary_iff`: the two agree on the command just when this walk
    comes to the end of the options, or when there is no `--` to be found and
    it has not taken a value for it.
-/

open Getopt

namespace Sysgaze

/-! ### The walk of `separator_index` -/

instance : LawfulBEq Text := List.instLawfulBEq

/-- Does `separator_index` look at the value of an option?  `skips` says that it steps over the
    word of the option. -/
def looks_at_value (skips : Bool) (word : Text) : Bool := skips || word ∉ listed

/-- The walk of `separator_index` over options: whether it steps over the word behind them, or
    `none` if it ends before.  It ends at a value that is `--` or does not begin with `-`. -/
def past (skips : Bool) : List Item → Option Bool
  | [] => some skips
  | ⟨_, none⟩ :: items => past false items
  | ⟨word, some value⟩ :: items =>
    if looks_at_value skips word then
      if value = cstr "--" ∨ value.head? ≠ some 45 then none
      else past (value ∈ listed) items
    else past false items

/-- A value `--` at the end of the options is taken for the separator. -/
def Mistakes (items : List Item) : Prop :=
  ∃ front word skips, items = front ++ [⟨word, some (cstr "--")⟩] ∧ past false front = some skips ∧
    looks_at_value skips word = true

/-- The loop of `separator_index`, when it may have to step over a word first. -/
def separator_from (skips : Bool) (index : Nat) (args : List Text) : Int :=
  if skips then
    match args with
    | [] => -1
    | _ :: args => separator_loop (index + 1) args
  else separator_loop index args

section walk
variable {index : Nat} {args rest : List Text} {items : List Item} {skips skips' : Bool}

/-- What is found is not before the place where the loop begins. -/
theorem separator_loop_range (index : Nat) (args : List Text) :
    separator_loop index args = -1 ∨ (index : Int) ≤ separator_loop index args := by
  fun_induction separator_loop index args with
  | case1 => exact Or.inl rfl
  | case2 => exact Or.inr (Int.le_refl _)
  | case3 => exact Or.inl rfl
  | case4 => exact Or.inl rfl
  | case5 index arg _ _ _ next args ih => omega
  | case6 index arg args _ _ _ ih => omega

/-- The words of options that `getopt_long` has read. -/
structure Options (items : List Item) : Prop where
  words : ∀ item ∈ items, is_option item.word = true
  values : ∀ item ∈ items, item.value.isSome = options.takes_next item.word

theorem Options.tail {item : Item} (h : Options (item :: items)) : Options items :=
  ⟨fun other hother => h.words other (List.mem_cons_of_mem _ hother),
    fun other hother => h.values other (List.mem_cons_of_mem _ hother)⟩

/-- A word of options begins with `-`, and is not `--`. -/
theorem option_dash {word : Text} (h : is_option word = true) :
    word.head? = some 45 ∧ word ≠ cstr "--" := by
  constructor
  · by_contra hdash
    have hkind : kind word = .operand := by
      unfold kind
      split
      · rename_i first second rest
        rw [if_pos fun heq => hdash (by rw [heq]; rfl)]
      · rfl
    rw [is_option, hkind] at h
    cases h
  · rintro rfl
    exact absurd h (by decide)

/-- A word that begins with `-` is passed, and the next one too if it is the value of a listed
    option. -/
theorem separator_loop_dash {word : Text} (hdash : word.head? = some 45) (hne : word ≠ cstr "--")
    (index : Nat) (args : List Text) :
    separator_loop index (word :: args) = separator_from (word ∈ listed) (index + 1) args := by
  rw [separator_loop.eq_def]
  unfold separator_from
  simp only [if_neg hne, hdash, ne_eq, not_true_eq_false, if_false]
  by_cases hlisted : word ∈ listed
  · simp only [hlisted, if_true, decide_true] <;> rfl
  · simp only [hlisted, if_false, decide_false, Bool.false_eq_true]

/-- An option without a separate value is passed. -/
theorem separator_alone {word : Text} (hoption : is_option word = true)
    (htakes : options.takes_next word = false) (skips : Bool) (index : Nat) (args : List Text) :
    separator_from skips index (word :: args) = separator_from false (index + 1) args := by
  have hlisted : word ∉ listed := by
    intro hin
    have hall : ∀ word ∈ listed, options.takes_next word = true := by decide
    rw [hall word hin] at htakes
    cases htakes
  cases skips with
  | true => rfl
  | false =>
    obtain ⟨hdash, hne⟩ := option_dash hoption
    show separator_loop index (word :: args) = _
    rw [separator_loop_dash hdash hne]
    simp [hlisted]

/-- The value of an option is looked at, or it is stepped over. -/
theorem separator_paired {word : Text} (hoption : is_option word = true) (value : Text)
    (skips : Bool) (index : Nat) (args : List Text) :
    separator_from skips index (word :: value :: args) =
      if looks_at_value skips word then separator_loop (index + 1) (value :: args)
      else separator_from false (index + 2) args := by
  unfold looks_at_value
  cases skips with
  | true => rfl
  | false =>
    obtain ⟨hdash, hne⟩ := option_dash hoption
    show separator_loop index (word :: value :: args) = _
    rw [separator_loop_dash hdash hne]
    by_cases hlisted : word ∈ listed
    · simp [hlisted, separator_from]
    · simp [hlisted, separator_from]

theorem length_words (item : Item) (items : List Item) :
    ((item :: items).flatMap Item.words).length =
      1 + item.value.toList.length + (items.flatMap Item.words).length := by
  rw [List.flatMap_cons, List.length_append, Item.words, List.length_cons]
  omega

/-- The walk passes the options. -/
theorem separator_past (h : Options items) (hpast : past skips items = some skips') :
    separator_from skips index (items.flatMap Item.words ++ rest) =
      separator_from skips' (index + (items.flatMap Item.words).length) rest := by
  induction items generalizing skips index with
  | nil =>
    rw [← Option.some.inj hpast]
    rfl
  | cons item items ih =>
    obtain ⟨word, value⟩ := item
    have hoption := h.words ⟨word, value⟩ (by simp)
    cases value with
    | none =>
      have htakes : options.takes_next word = false := (h.values ⟨word, none⟩ (by simp)).symm
      have hpast : past false items = some skips' := hpast
      show separator_from skips index (word :: (items.flatMap Item.words ++ rest)) = _
      rw [separator_alone hoption htakes, ih h.tail hpast, length_words]
      congr 1
      show _ = index + (1 + 0 + _)
      omega
    | some value =>
      have hpast : (if looks_at_value skips word then
          if value = cstr "--" ∨ value.head? ≠ some 45 then none
          else past (value ∈ listed) items
        else past false items) = some skips' := hpast
      show separator_from skips index (word :: value :: (items.flatMap Item.words ++ rest)) = _
      rw [separator_paired hoption]
      split at hpast
      · rename_i hlooks
        split at hpast
        · simp at hpast
        · rename_i hdash
          rw [not_or, not_not] at hdash
          rw [if_pos hlooks, separator_loop_dash hdash.2 hdash.1, ih h.tail hpast, length_words]
          congr 1
          show _ = index + (1 + 1 + _)
          omega
      · rename_i hlooks
        rw [if_neg hlooks, ih h.tail hpast, length_words]
        congr 1
        show _ = index + (1 + 1 + _)
        omega

/-- The walk ends inside the options: at a value that is no option, or that is `--`. -/
theorem separator_stops (h : Options items) (hpast : past skips items = none) :
    separator_from skips index (items.flatMap Item.words ++ rest) = -1 ∨
      ∃ front word back skips', items = front ++ ⟨word, some (cstr "--")⟩ :: back ∧
        past skips front = some skips' ∧ looks_at_value skips' word = true ∧
        separator_from skips index (items.flatMap Item.words ++ rest) =
          (index + (front.flatMap Item.words).length + 1 : Nat) := by
  induction items generalizing skips index with
  | nil => simp [past] at hpast
  | cons item items ih =>
    -- An option that is passed stands in front of where the walk ends.
    have hnext : ∀ {skips₁ : Bool} {n : Nat}, n = index + 1 + item.value.toList.length →
        past skips₁ items = none →
        (∀ {front : List Item}, past skips (item :: front) = past skips₁ front) →
        separator_from skips index ((item :: items).flatMap Item.words ++ rest) =
          separator_from skips₁ n (items.flatMap Item.words ++ rest) →
        separator_from skips index ((item :: items).flatMap Item.words ++ rest) = -1 ∨
          ∃ front word back skips', item :: items = front ++ ⟨word, some (cstr "--")⟩ :: back ∧
            past skips front = some skips' ∧ looks_at_value skips' word = true ∧
            separator_from skips index ((item :: items).flatMap Item.words ++ rest) =
              (index + (front.flatMap Item.words).length + 1 : Nat) := by
      intro skips₁ n hn hstops hpasses hsame
      rw [hsame]
      obtain hnone | ⟨front, word, back, skips', hitems, hfront, hlooks, hfound⟩ :=
        @ih n skips₁ h.tail hstops
      · exact Or.inl hnone
      · refine Or.inr ⟨item :: front, word, back, skips', ?_, ?_, hlooks, ?_⟩
        · rw [hitems]
          rfl
        · rw [hpasses, hfront]
        · rw [hfound, length_words]
          congr 1
          omega
    obtain ⟨word, value⟩ := item
    have hoption := h.words ⟨word, value⟩ (by simp)
    cases value with
    | none =>
      have htakes : options.takes_next word = false := (h.values ⟨word, none⟩ (by simp)).symm
      exact hnext rfl hpast rfl (separator_alone hoption htakes _ _ _)
    | some value =>
      have hpaired := separator_paired hoption value skips index (items.flatMap Item.words ++ rest)
      have hunfold : ∀ {items : List Item}, past skips (⟨word, some value⟩ :: items) =
          if looks_at_value skips word then
            if value = cstr "--" ∨ value.head? ≠ some 45 then none
            else past (value ∈ listed) items
          else past false items := rfl
      by_cases hlooks : looks_at_value skips word = true
      · rw [if_pos hlooks] at hpaired
        by_cases hend : value = cstr "--" ∨ value.head? ≠ some 45
        · by_cases hdashes : value = cstr "--"
          · refine Or.inr ⟨[], word, items, skips, by rw [hdashes]; rfl, rfl, hlooks, ?_⟩
            refine hpaired.trans ?_
            rw [separator_loop.eq_def]
            simp [hdashes]
          · refine Or.inl (hpaired.trans ?_)
            rw [separator_loop.eq_def]
            simp [hdashes, hend.resolve_left hdashes]
        · rw [hunfold, if_pos hlooks, if_neg hend] at hpast
          rw [not_or, not_not] at hend
          refine hnext rfl hpast ?_ ?_
          · intro front
            rw [hunfold, if_pos hlooks, if_neg]
            exact fun h => h.elim hend.1 fun hne => hne hend.2
          · exact hpaired.trans (separator_loop_dash hend.2 hend.1 _ _)
      · rw [if_neg hlooks] at hpaired
        rw [hunfold, if_neg hlooks] at hpast
        refine hnext rfl hpast ?_ hpaired
        intro front
        rw [hunfold, if_neg hlooks]

/-- A value `--` at the end of the options is found. -/
theorem separator_mistaken (h : Options items) (hmistakes : Mistakes items) :
    separator_from false index (items.flatMap Item.words ++ rest) + 1 =
      (index + (items.flatMap Item.words).length : Nat) := by
  obtain ⟨front, word, skips, rfl, hfront, hlooks⟩ := hmistakes
  have hoptions : Options front :=
    ⟨fun item hitem => h.words item (List.mem_append_left _ hitem),
      fun item hitem => h.values item (List.mem_append_left _ hitem)⟩
  have hoption := h.words ⟨word, some (cstr "--")⟩ (by simp)
  rw [List.flatMap_append, List.append_assoc, separator_past hoptions hfront]
  show separator_from skips _ (word :: cstr "--" :: rest) + 1 = _
  rw [separator_paired hoption, if_pos hlooks, separator_loop.eq_def]
  simp [Item.words]
  omega

end walk

/-! ### The command -/

/-- The call at `last` ends the scan because it consumes a `--`. -/
def Terminated (argv : List Text) (last : Cursor) : Prop :=
  last.nextchar = [] ∧ argv[last.optind]? = some (cstr "--")

/-- What the command line promises about the command: it is run just when the options end with a
    `--` and something follows, and it begins behind that `--`. -/
structure BoundaryKept (argv : List Text) (last : Cursor) (result : CliResult) : Prop where
  run_iff : result.action = .SG_CLI_RUN ↔ Terminated argv last ∧ last.optind + 1 < argv.length
  command : result.action = .SG_CLI_RUN → result.config.command_argv = some (last.optind + 1)
  separator : result.action = .SG_CLI_RUN → separator_index argv = last.optind

/-- The options are valid and fit together, and none of them is `-p`, `--help` or `--version`. -/
def launches (argv : List Text) (error_size : Nat) : Bool :=
  match option_loop argv error_size ⟨1, []⟩ ⟨config_init, false, false⟩ with
  | .ok (parsed, _) => !parsed.saw_attach && (check_combinations parsed.config).isNone
  | .error _ => false

/-- The options that `getopt_long` reads. -/
def read_options (argv : List Text) : List Item := (options.read argv.tail).1

/-- The two walks agree about a command that follows the options. -/
structure Agrees (argv : List Text) (last : Cursor) : Prop where
  found : Terminated argv last → last.optind + 1 < argv.length →
    past false (read_options argv) = some false
  absent : ¬Terminated argv last → last.optind < argv.length → ¬Mistakes (read_options argv)

section command
variable {argv : List Text} {error_size : Nat} {config : SgConfig} {parsed : Parsed}
  {optind : Nat} {founds : List Found} {last : Cursor}

theorem launches_loop (h : launches argv error_size = true) :
    ∃ parsed optind,
      option_loop argv error_size ⟨1, []⟩ ⟨config_init, false, false⟩ = .ok (parsed, optind) ∧
        parsed.saw_attach = false ∧ check_combinations parsed.config = none := by
  unfold launches at h
  split at h
  · rename_i parsed optind hloop
    rw [Bool.and_eq_true, Bool.not_eq_true', Option.isNone_iff_eq_none] at h
    exact ⟨parsed, optind, hloop, h⟩
  · cases h

/-- What is run when nothing else is wrong with the options. -/
theorem validate_config_run (hattach : parsed.saw_attach = false)
    (hvalid : check_combinations parsed.config = none) (separator : Int) (optind : Nat) :
    let result := validate_config argv error_size parsed.config parsed.saw_attach separator optind
    (result.action = .SG_CLI_RUN ↔
      0 ≤ separator ∧ separator + 1 = optind ∧ optind < argv.length) ∧
      (result.action = .SG_CLI_RUN → result.config.command_argv = some optind) := by
  have hvalid' : check_combinations { parsed.config with command_argv := some optind } = none :=
    hvalid
  unfold validate_config finish_config
  simp only [hattach, Bool.false_eq_true, if_false, hvalid']
  by_cases hseparator : separator < 0 ∨ separator ≠ (optind : Int) - 1
  · rw [if_pos hseparator]
    refine ⟨iff_of_false (by simp [cli_error]) ?_, by simp [cli_error]⟩
    intro h
    omega
  · rw [if_neg hseparator]
    by_cases hend : optind ≥ argv.length
    · rw [if_pos hend]
      refine ⟨iff_of_false (by simp [cli_error]) ?_, by simp [cli_error]⟩
      intro h
      omega
    · rw [if_neg hend]
      exact ⟨iff_of_true rfl ⟨by omega, by omega, by omega⟩, fun _ => rfl⟩

/-- What `separator_index` finds, from where `getopt_long` has stopped. -/
theorem separator_index_spec (hscan : Scans options argv ⟨1, []⟩ founds last)
    (hknown : ∀ found ∈ founds, found.known) :
    last.nextchar = [] ∧ 1 ≤ last.optind ∧
      (Terminated argv last →
        (separator_index argv = last.optind ↔ past false (read_options argv) = some false)) ∧
      (¬Terminated argv last →
        (separator_index argv + 1 = last.optind ↔ Mistakes (read_options argv))) := by
  obtain ⟨hvalues, hstop⟩ := Scans.read List.drop_one hscan hknown
  have hoptions : Options (read_options argv) := ⟨read_words options argv.tail, hvalues⟩
  obtain ⟨rest, hrest⟩ : ∃ rest, rest = (options.read argv.tail).2 := ⟨_, rfl⟩
  obtain ⟨items, hitems⟩ : ∃ items, items = read_options argv := ⟨_, rfl⟩
  have hsplit : items.flatMap Item.words ++ rest = argv.tail := by
    rw [hitems, hrest]
    exact read_append options argv.tail
  have hstop : last = ⟨1 + (items.flatMap Item.words).length, []⟩ := by
    rw [hstop, hitems]
    rfl
  -- The word at which the last call begins is the first one that is no option.
  have hhead : argv[last.optind]? = rest.head? := by
    have htail : argv[1 + (items.flatMap Item.words).length]? =
        argv.tail[(items.flatMap Item.words).length]? := by
      rw [← List.drop_one, List.getElem?_drop]
    rw [hstop, htail, ← hsplit, List.getElem?_append_right (le_refl _), Nat.sub_self,
      List.head?_eq_getElem?]
  have hfind : separator_index argv =
      separator_from false 1 (items.flatMap Item.words ++ rest) := by
    rw [hsplit]
    rfl
  have hoptind : last.optind = 1 + (items.flatMap Item.words).length := by rw [hstop]
  rw [← hitems] at hoptions ⊢
  have hmistaken := @separator_mistaken 1 rest items hoptions
  have hpast : ∀ {skips' : Bool}, Options items → past false items = some skips' → _ :=
    fun {skips'} => @separator_past 1 rest items false skips'
  have hstops := @separator_stops 1 rest items false hoptions
  rw [← hfind] at hmistaken hstops
  rw [← hoptind] at hmistaken
  refine ⟨by rw [hstop], by omega, fun hterm => ?_, fun hterm => ⟨fun heq => ?_, hmistaken⟩⟩
  · have hdashes : rest.head? = some (cstr "--") := hhead.symm.trans hterm.2
    obtain ⟨more, rfl⟩ : ∃ more, rest = cstr "--" :: more := by
      cases rest with
      | nil => simp at hdashes
      | cons first more => exact ⟨more, by rw [Option.some.inj hdashes]⟩
    cases hwalk : past false items with
    | none =>
      refine iff_of_false (fun heq => ?_) (by simp)
      obtain hnone | ⟨front, word, back, _, hfront, _, _, hfound⟩ := hstops hwalk
      · omega
      · rw [hfront, List.flatMap_append, List.length_append, length_words] at hoptind
        simp only [Option.toList_some, List.length_singleton] at hoptind
        omega
    | some skips =>
      have hsep := hpast hoptions hwalk
      rw [← hfind, ← hoptind] at hsep
      cases skips with
      | false =>
        refine iff_of_true (hsep.trans ?_) rfl
        show separator_loop last.optind (cstr "--" :: more) = _
        rw [separator_loop.eq_def]
        simp
      | true =>
        refine iff_of_false (fun heq => ?_) (by simp)
        have hsep : separator_index argv = separator_loop (last.optind + 1) more := hsep
        have hrange := separator_loop_range (last.optind + 1) more
        omega
  · cases hwalk : past false items with
    | none =>
      obtain hnone | ⟨front, word, back, skips, hfront, hpasses, hlooks, hfound⟩ := hstops hwalk
      · omega
      · have hlength := hoptind
        rw [hfront, List.flatMap_append, List.length_append, length_words] at hlength
        simp only [Option.toList_some, List.length_singleton] at hlength
        cases back with
        | nil => exact ⟨front, word, skips, hfront, hpasses, hlooks⟩
        | cons item back =>
          rw [length_words] at hlength
          omega
    | some skips =>
      have hsep := hpast hoptions hwalk
      rw [← hfind, ← hoptind] at hsep
      have hrange : separator_index argv = -1 ∨ (last.optind : Int) ≤ separator_index argv := by
        rw [hsep]
        unfold separator_from
        split
        · split
          · exact Or.inl rfl
          · rename_i more
            have h := separator_loop_range (last.optind + 1) more
            omega
        · exact separator_loop_range _ _
      omega

/-- **The command boundary**: the promise is kept just when the two walks agree. -/
theorem boundary_iff (hlaunches : launches argv error_size = true)
    (hscan : Scans options argv ⟨1, []⟩ founds last) :
    BoundaryKept argv last (sg_cli_parse argv config error_size) ↔ Agrees argv last := by
  obtain ⟨parsed, optind, hloop, hattach, hvalid⟩ := launches_loop hlaunches
  obtain ⟨founds', last', hscan', hoptind, hknown, -⟩ := option_loop_run (I := fun _ _ => True)
    (fun _ _ _ _ _ _ _ => trivial) ⟨1, []⟩ [] _ trivial hloop
  obtain ⟨rfl, rfl⟩ := hscan.unique hscan'
  obtain ⟨hnext, hpos, hfound, habsent⟩ := separator_index_spec hscan hknown
  have hdashes : cstr "--" = [45, 45] := by decide
  have hlast := getopt_long_last (scans_last hscan)
  by_cases hargv : argv = []
  · -- Without arguments there is no scan.
    subst hargv
    have herror : (sg_cli_parse [] config error_size).action ≠ .SG_CLI_RUN := by
      simp [sg_cli_parse, cli_error]
    refine iff_of_true ⟨iff_of_false herror ?_, fun h => absurd h herror, fun h => absurd h herror⟩
      ⟨?_, ?_⟩
    · simp
    · simp
    · simp
  · have hresult : sg_cli_parse argv config error_size =
        validate_config argv error_size parsed.config parsed.saw_attach (separator_index argv)
          optind := by
      unfold sg_cli_parse
      rw [if_neg hargv, hloop]
    obtain ⟨hrun, hcommand⟩ := @validate_config_run argv error_size parsed hattach hvalid
      (separator_index argv) optind
    rw [← hresult] at hrun hcommand
    by_cases hterm : Terminated argv last
    · have hoptind : optind = last.optind + 1 := by
        rw [hoptind, hlast, if_pos (hterm.2.trans (by rw [hdashes]))]
      constructor
      · intro h
        refine ⟨fun _ hfollows => ?_, fun hno => absurd hterm hno⟩
        obtain ⟨-, hsep, -⟩ := hrun.mp (h.run_iff.mpr ⟨hterm, hfollows⟩)
        exact (hfound hterm).mp (by omega)
      · intro h
        refine ⟨⟨fun hr => ⟨hterm, ?_⟩, fun hmeant => ?_⟩, fun hr => ?_, fun hr => ?_⟩
        · have hless := (hrun.mp hr).2.2
          omega
        · have hsep := (hfound hterm).mpr (h.found hterm hmeant.2)
          exact hrun.mpr ⟨by omega, by omega, by omega⟩
        · rw [hcommand hr, hoptind]
        · have hsep := (hrun.mp hr).2.1
          omega
    · have hoptind : optind = last.optind := by
        rw [hoptind, hlast, if_neg, Nat.add_zero]
        exact fun heq => hterm ⟨hnext, heq.trans (by rw [hdashes])⟩
      constructor
      · intro h
        refine ⟨fun hyes => absurd hyes hterm, fun _ hfollows hmistakes => ?_⟩
        have hsep := (habsent hterm).mpr hmistakes
        have hr := hrun.mpr ⟨by omega, by omega, by omega⟩
        exact hterm (h.run_iff.mp hr).1
      · intro h
        have hno : (sg_cli_parse argv config error_size).action ≠ .SG_CLI_RUN := by
          intro hr
          obtain ⟨-, hsep, hless⟩ := hrun.mp hr
          exact h.absent hterm (by omega) ((habsent hterm).mp (by omega))
        exact ⟨iff_of_false hno fun hyes => hterm hyes.1, fun hr => absurd hr hno,
          fun hr => absurd hr hno⟩

end command

/-- Two options with a value of their own, one of which looks like an option. -/
def spelled_out : List Text :=
  [cstr "sysgaze", cstr "-f", cstr "-o", cstr "-x", cstr "--format=text", cstr "--", cstr "echo"]

theorem boundary_iff_spelled_out :
    BoundaryKept spelled_out ⟨5, []⟩ (sg_cli_parse spelled_out config_init 256) ↔
      Agrees spelled_out ⟨5, []⟩ := by
  have hfollow : getopt_long options spelled_out ⟨1, []⟩ =
      (some (.option 'f'.toNat none), ⟨2, []⟩) := by decide +kernel
  have hpath : getopt_long options spelled_out ⟨2, []⟩ =
      (some (.option 'o'.toNat (some (cstr "-x"))), ⟨4, []⟩) := by decide +kernel
  have hformat : getopt_long options spelled_out ⟨4, []⟩ =
      (some (.option OPT_FORMAT (some (cstr "text"))), ⟨5, []⟩) := by decide +kernel
  exact boundary_iff (by decide +kernel)
    (.found hfollow (.found hpath (.found hformat (.stop (by decide +kernel)))))

/-- The value of `-o` is the next argument, which `separator_index` does not step over in a
    group. -/
def grouped (value : Text) (rest : List Text) : List Text :=
  [cstr "sysgaze", cstr "-fo", value] ++ rest

theorem scans_grouped (value : Text) {rest : List Text}
    (h : (getopt_long options (grouped value rest) ⟨3, []⟩).1 = none) :
    Scans options (grouped value rest) ⟨1, []⟩
      [.option 'f'.toNat none, .option 'o'.toNat (some value)] ⟨3, []⟩ := by
  have hfollow : getopt_long options (grouped value rest) ⟨1, []⟩ =
      (some (.option 'f'.toNat none), ⟨1, cstr "o"⟩) := rfl
  have hpath : getopt_long options (grouped value rest) ⟨1, cstr "o"⟩ =
      (some (.option 'o'.toNat (some value)), ⟨3, []⟩) := rfl
  exact .found hfollow (.found hpath (.stop h))

/-- A command line with a separator is refused, and one in which `--` is a value is run. -/
theorem boundary_broken :
    (∃ argv founds last, Scans options argv ⟨1, []⟩ founds last ∧ launches argv 256 = true ∧
      Terminated argv last ∧ ¬BoundaryKept argv last (sg_cli_parse argv config_init 256)) ∧
    (∃ argv founds last, Scans options argv ⟨1, []⟩ founds last ∧ launches argv 256 = true ∧
      ¬Terminated argv last ∧ ¬BoundaryKept argv last (sg_cli_parse argv config_init 256)) := by
  refine ⟨?_, ?_⟩
  · refine ⟨grouped (cstr "out") [cstr "--", cstr "echo"], _, _,
      scans_grouped _ (by decide +kernel), by decide +kernel, ⟨rfl, by decide +kernel⟩, fun h => ?_⟩
    have hrun := h.run_iff.mpr ⟨⟨rfl, by decide +kernel⟩, by decide +kernel⟩
    exact absurd hrun (by decide +kernel)
  · have hno : ¬Terminated (grouped (cstr "--") [cstr "echo"]) ⟨3, []⟩ :=
      fun h => absurd h.2 (by decide +kernel)
    refine ⟨grouped (cstr "--") [cstr "echo"], _, _, scans_grouped _ (by decide +kernel),
      by decide +kernel, hno, fun h => ?_⟩
    exact hno (h.run_iff.mp (by decide +kernel)).1

end Sysgaze
