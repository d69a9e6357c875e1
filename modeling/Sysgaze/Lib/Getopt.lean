import Mathlib.Algebra.GroupWithZero.Nat
import Mathlib.Data.List.TakeWhile
import Mathlib.Tactic.Common

/-! # Reading the options of a command line

    `getopt_long` of the C library, for an option string that begins with `+`:
    the arguments are scanned in order, up to the first one that is no option
    or to `--`, which is consumed.  Short options may share a word, a value is
    the rest of the word or the next argument, and the name of a long option
    may be cut short as long as it is clear which one is meant.

    `Scans` is the sequence of calls that a program makes.  `Table.read` reads
    word by word: which words take the next argument as their value, and where
    the options end.  `Scans.read` connects the two.
-/

namespace Getopt

/-- The bytes of an argument. -/
abbrev Word := List UInt8

/-- An entry of the table of long options. -/
structure LongOption where
  name : Word
  has_arg : Bool
  val : Nat

/-- The options of a program; for a letter `short` says whether it takes a value. -/
structure Table where
  short : UInt8 → Option Bool
  long : List LongOption

/-- What a letter is in an option string: an option, with a value if a colon follows. -/
def short_of : Word → UInt8 → Option Bool
  | [], _ => none
  | first :: rest, letter =>
    if first = letter then
      if letter = 58 ∨ letter = 59 then none else some (rest.head? = some 58)
    else short_of rest letter

/-- What a call finds: the code of an option and its value, or `?` with `optopt`. -/
inductive Found where
  | option (code : Nat) (optarg : Option Word)
  | unknown (optopt : Nat)
  deriving DecidableEq

/-- Where the scan is: the next argument, and what is left of a word of short options. -/
structure Cursor where
  optind : Nat
  nextchar : Word
  deriving DecidableEq

/-- What the scan sees in a word. -/
inductive Kind where
  | terminator
  | operand
  | long (text : Word)
  | short (letter : UInt8) (nextchar : Word)

/-- The kind of a word, by its first two bytes. -/
def kind : Word → Kind
  | first :: second :: rest =>
    if first ≠ 45 then .operand
    else if second = 45 then if rest = [] then .terminator else .long rest
    else .short second rest
  | _ => .operand

section scan
variable (t : Table) (argv : List Word)

/-- The long option with the name, or the only one that it may stand for. -/
def Table.find_long (name : Word) : Option LongOption :=
  match t.long.find? fun o => o.name == name with
  | some o => some o
  | none =>
    match t.long.filter fun o => name.isPrefixOf o.name with
    | [] => none
    | o :: others =>
      if others.all fun other => other.has_arg == o.has_arg && other.val == o.val then some o
      else none

/-- A long option, at the word `optind`. -/
def Table.long_option (optind : Nat) (text : Word) : Found × Cursor :=
  match t.find_long (text.takeWhile (· != 61)) with
  | none => (.unknown 0, ⟨optind + 1, []⟩)
  | some o =>
    match text.dropWhile (· != 61) with
    | _ :: value =>
      if o.has_arg then (.option o.val (some value), ⟨optind + 1, []⟩)
      else (.unknown o.val, ⟨optind + 1, []⟩)
    | [] =>
      if o.has_arg then
        match argv[optind + 1]? with
        | some value => (.option o.val (some value), ⟨optind + 2, []⟩)
        | none => (.unknown o.val, ⟨optind + 1, []⟩)
      else (.option o.val none, ⟨optind + 1, []⟩)

/-- A short option, in the word `optind`, which goes on with `nextchar`. -/
def Table.short_option (optind : Nat) (letter : UInt8) (nextchar : Word) : Found × Cursor :=
  let after : Cursor := ⟨if nextchar = [] then optind + 1 else optind, nextchar⟩
  match t.short letter with
  | none => (.unknown letter.toNat, after)
  | some false => (.option letter.toNat none, after)
  | some true =>
    if nextchar ≠ [] then (.option letter.toNat (some nextchar), ⟨optind + 1, []⟩)
    else
      match argv[optind + 1]? with
      | some value => (.option letter.toNat (some value), ⟨optind + 2, []⟩)
      | none => (.unknown letter.toNat, ⟨optind + 1, []⟩)

/-- `getopt_long`; `none` stands for -1. -/
def getopt_long (s : Cursor) : Option Found × Cursor :=
  match s.nextchar with
  | letter :: nextchar =>
    let (found, after) := t.short_option argv s.optind letter nextchar
    (some found, after)
  | [] =>
    match argv[s.optind]? with
    | none => (none, s)
    | some word =>
      match kind word with
      | .terminator => (none, ⟨s.optind + 1, []⟩)
      | .operand => (none, s)
      | .long text =>
        let (found, after) := t.long_option argv s.optind text
        (some found, after)
      | .short letter nextchar =>
        let (found, after) := t.short_option argv s.optind letter nextchar
        (some found, after)

/-- The calls of a program until -1 is returned: what they find, and where the last one begins. -/
inductive Scans : Cursor → List Found → Cursor → Prop
  | stop {s : Cursor} : (getopt_long t argv s).1 = none → Scans s [] s
  | found {s s' s'' : Cursor} {found : Found} {more : List Found} :
      getopt_long t argv s = (some found, s') → Scans s' more s'' → Scans s (found :: more) s''

end scan

/-! ### Every call moves on -/

/-- The length of the arguments, with one for each. -/
def size (args : List Word) : Nat := (args.map fun arg => arg.length + 1).sum

/-- How much is left to scan. -/
def Cursor.left (argv : List Word) (s : Cursor) : Nat :=
  if s.nextchar = [] then size (argv.drop s.optind)
  else s.nextchar.length + size (argv.drop (s.optind + 1))

section left
variable {t : Table} {argv : List Word}

theorem size_drop_of_getElem {n : Nat} {word : Word} (h : argv[n]? = some word) :
    size (argv.drop n) = word.length + 1 + size (argv.drop (n + 1)) := by
  obtain ⟨hn, hword⟩ := List.getElem?_eq_some_iff.mp h
  rw [List.drop_eq_getElem_cons hn, hword]
  simp [size]

variable (argv) in
theorem size_drop_succ_le (n : Nat) : size (argv.drop (n + 1)) ≤ size (argv.drop n) := by
  cases h : argv[n]? with
  | some word =>
    rw [size_drop_of_getElem h]
    omega
  | none =>
    have hlength : argv.length ≤ n := List.getElem?_eq_none_iff.mp h
    rw [List.drop_eq_nil_of_le (by omega)]
    exact Nat.zero_le _

theorem short_option_left (optind : Nat) (letter : UInt8) (nextchar : Word) :
    (t.short_option argv optind letter nextchar).2.left argv ≤
      nextchar.length + size (argv.drop (optind + 1)) := by
  have hnext : size (argv.drop (optind + 2)) ≤ size (argv.drop (optind + 1)) :=
    size_drop_succ_le argv (optind + 1)
  have hafter : Cursor.left argv ⟨if nextchar = [] then optind + 1 else optind, nextchar⟩ ≤
      nextchar.length + size (argv.drop (optind + 1)) := by
    unfold Cursor.left
    by_cases hn : nextchar = []
    · simp [hn]
    · simp [hn]
  unfold Table.short_option
  dsimp only
  split
  · exact hafter
  · exact hafter
  · split
    · simp [Cursor.left]
    · split
      · simp only [Cursor.left, if_true]
        omega
      · simp [Cursor.left]

theorem long_option_left (optind : Nat) (text : Word) :
    (t.long_option argv optind text).2.left argv ≤ size (argv.drop (optind + 1)) := by
  have hnext : size (argv.drop (optind + 2)) ≤ size (argv.drop (optind + 1)) :=
    size_drop_succ_le argv (optind + 1)
  unfold Table.long_option
  split
  · simp [Cursor.left]
  · split
    · split
      · simp [Cursor.left]
      · simp [Cursor.left]
    · split
      · split
        · simp only [Cursor.left, if_true]
          omega
        · simp [Cursor.left]
      · simp [Cursor.left]

theorem length_of_short {word : Word} {letter : UInt8} {nextchar : Word}
    (h : kind word = .short letter nextchar) : word.length = nextchar.length + 2 := by
  unfold kind at h
  split at h
  · split at h
    · cases h
    · split at h
      · split at h
        · cases h
        · cases h
      · cases h
        rfl
  · cases h

/-- **Progress**: a call that finds something has less to scan. -/
theorem getopt_long_left {s s' : Cursor} {found : Found}
    (h : getopt_long t argv s = (some found, s')) : s'.left argv < s.left argv := by
  obtain ⟨optind, nextchar⟩ := s
  unfold getopt_long at h
  cases nextchar with
  | cons letter nextchar =>
    have hle := @short_option_left t argv optind letter nextchar
    simp only [Prod.mk.injEq] at h
    rw [h.2] at hle
    have hleft : Cursor.left argv ⟨optind, letter :: nextchar⟩ =
        nextchar.length + 1 + size (argv.drop (optind + 1)) := by simp [Cursor.left]
    omega
  | nil =>
    cases hword : argv[optind]? with
    | none => simp [hword] at h
    | some word =>
      have hsize := size_drop_of_getElem hword
      simp only [hword] at h
      show s'.left argv < size (argv.drop optind)
      cases hkind : kind word with
      | terminator => simp [hkind] at h
      | operand => simp [hkind] at h
      | long text =>
        have hle := @long_option_left t argv optind text
        simp only [hkind, Prod.mk.injEq] at h
        rw [h.2] at hle
        omega
      | short letter nextchar =>
        have hle := @short_option_left t argv optind letter nextchar
        have hlength := length_of_short hkind
        simp only [hkind, Prod.mk.injEq] at h
        rw [h.2] at hle
        omega

end left

/-! ### Word by word -/

/-- Is the word scanned for options? -/
def is_option (word : Word) : Bool :=
  match kind word with
  | .long _ => true
  | .short _ _ => true
  | _ => false

/-- A word of options, with the argument that it takes as its value. -/
structure Item where
  word : Word
  value : Option Word

/-- The arguments of an item. -/
def Item.words (item : Item) : List Word := item.word :: item.value.toList

section read
variable (t : Table)

/-- Does the last of these short options take the next argument? -/
def Table.group_takes_next : Word → Bool
  | [] => false
  | letter :: nextchar =>
    match t.short letter with
    | some true => nextchar.isEmpty
    | some false => Table.group_takes_next nextchar
    | none => false

/-- Does the word take the next argument as its value? -/
def Table.takes_next (word : Word) : Bool :=
  match kind word with
  | .long text => !text.contains 61 && (t.find_long text).any LongOption.has_arg
  | .short letter nextchar => t.group_takes_next (letter :: nextchar)
  | _ => false

/-- The options at the beginning of the arguments, and the arguments from where they end. -/
def Table.read : List Word → List Item × List Word
  | [] => ([], [])
  | word :: args =>
    if !is_option word then ([], word :: args)
    else if !t.takes_next word then (⟨word, none⟩ :: (Table.read args).1, (Table.read args).2)
    else
      match args with
      | [] => ([⟨word, none⟩], [])
      | value :: args => (⟨word, some value⟩ :: (Table.read args).1, (Table.read args).2)

end read

/-- Was a call successful? -/
def Found.known : Found → Prop
  | .option _ _ => True
  | .unknown _ => False

section reading
variable {t : Table} {argv : List Word} {s s' : Cursor} {founds : List Found}

/-- A scan in front of another one, whose calls are the last ones. -/
def Scans.Ends (t : Table) (argv : List Word) (i : Nat) (founds : List Found) (s' : Cursor) : Prop :=
  ∃ more, more <:+ founds ∧ Scans t argv ⟨i, []⟩ more s'

theorem Scans.Ends.cons {i : Nat} {found : Found} (h : Scans.Ends t argv i founds s') :
    Scans.Ends t argv i (found :: founds) s' := by
  obtain ⟨more, hmore, hscan⟩ := h
  exact ⟨more, hmore.trans (List.suffix_cons _ _), hscan⟩

/-- The calls for a group of short options, if they are known: the next word, or the one behind
    the value, comes then. -/
theorem scans_group {i : Nat} : ∀ {group : Word} {founds : List Found},
    group ≠ [] → Scans t argv ⟨i, group⟩ founds s' → (∀ found ∈ founds, found.known) →
    (t.group_takes_next group = true → (argv[i + 1]?).isSome) ∧
      Scans.Ends t argv (i + if t.group_takes_next group then 2 else 1) founds s' := by
  intro group
  induction group with
  | nil => exact fun h => absurd rfl h
  | cons letter nextchar ih =>
    intro founds _ hscan hknown
    cases hscan with
    | stop h => simp [getopt_long] at h
    | @found _ next _ found more h hmore =>
      have hhead := hknown found (by simp)
      have htail : ∀ f ∈ more, f.known := fun f hf => hknown f (by simp [hf])
      unfold getopt_long Table.short_option at h
      unfold Table.group_takes_next
      cases hletter : t.short letter with
      | none =>
        simp only [hletter, Prod.mk.injEq, Option.some.injEq] at h
        rw [← h.1] at hhead
        exact hhead.elim
      | some takes =>
        cases takes with
        | false =>
          simp only [hletter, Prod.mk.injEq, Option.some.injEq] at h
          rw [← h.2] at hmore
          by_cases hlast : nextchar = []
          · subst hlast
            simp only [if_true] at hmore
            exact ⟨by simp [Table.group_takes_next], ⟨more, List.suffix_cons _ _, hmore⟩⟩
          · rw [if_neg hlast] at hmore
            obtain ⟨hvalue, hends⟩ := ih hlast hmore htail
            exact ⟨hvalue, hends.cons⟩
        | true =>
          simp only [hletter] at h
          by_cases hlast : nextchar = []
          · subst hlast
            cases hvalue : argv[i + 1]? with
            | none =>
              simp only [hvalue, ne_eq, not_true_eq_false, if_false, Prod.mk.injEq,
                Option.some.injEq] at h
              rw [← h.1] at hhead
              exact hhead.elim
            | some value =>
              simp only [hvalue, ne_eq, not_true_eq_false, if_false, Prod.mk.injEq,
                Option.some.injEq] at h
              rw [← h.2] at hmore
              exact ⟨fun _ => rfl, ⟨more, List.suffix_cons _ _, hmore⟩⟩
          · simp only [ne_eq, hlast, not_false_eq_true, if_true, Prod.mk.injEq,
              Option.some.injEq] at h
            rw [← h.2] at hmore
            have hempty : nextchar.isEmpty = false := by simpa using hlast
            simp only [hempty, Bool.false_eq_true, if_false, false_implies, true_and]
            exact ⟨more, List.suffix_cons _ _, hmore⟩

/-- A text without `=` is all name. -/
theorem split_name {text : Word} :
    text.contains 61 = false ∧ text.takeWhile (· != 61) = text ∧ text.dropWhile (· != 61) = [] ∨
      text.contains 61 = true ∧ text.dropWhile (· != 61) ≠ [] := by
  cases h : text.contains 61 with
  | false =>
    have hall : ∀ byte ∈ text, (byte != 61) = true := by
      intro byte hbyte
      rw [bne_iff_ne]
      rintro rfl
      simp [hbyte] at h
    refine Or.inl ⟨rfl, ?_, ?_⟩
    · exact List.takeWhile_eq_self_iff.mpr hall
    · exact List.dropWhile_eq_nil_iff.mpr hall
  | true =>
    refine Or.inr ⟨rfl, fun hnil => ?_⟩
    have hmem : (61 : UInt8) ∈ text := by simpa using h
    exact absurd (List.dropWhile_eq_nil_iff.mp hnil 61 hmem) (by decide)

/-- The call for a long option, if it is known. -/
theorem scans_long {i : Nat} {text word : Word} (hword : argv[i]? = some word)
    (hkind : kind word = .long text) (hscan : Scans t argv ⟨i, []⟩ founds s')
    (hknown : ∀ found ∈ founds, found.known) :
    (t.takes_next word = true → (argv[i + 1]?).isSome) ∧
      Scans.Ends t argv (i + if t.takes_next word then 2 else 1) founds s' := by
  cases hscan with
  | stop h => simp [getopt_long, hword, hkind] at h
  | @found _ next _ found more h hmore =>
    have hhead := hknown found (by simp)
    simp only [getopt_long, hword, hkind, Prod.mk.injEq, Option.some.injEq] at h
    obtain ⟨hfound, hnext⟩ := h
    unfold Table.long_option at hfound hnext
    unfold Table.takes_next
    simp only [hkind]
    cases hlong : t.find_long (text.takeWhile (· != 61)) with
    | none =>
      simp only [hlong] at hfound
      rw [← hfound] at hhead
      exact hhead.elim
    | some o =>
      simp only [hlong] at hfound hnext
      obtain ⟨hcontains, htake, hdrop⟩ | ⟨hcontains, hdrop⟩ := @split_name text
      · rw [htake] at hlong
        simp only [hdrop] at hfound hnext
        simp only [hcontains, hlong, Option.any_some, Bool.not_false, Bool.true_and]
        cases hhas : o.has_arg with
        | false =>
          simp only [hhas, Bool.false_eq_true, if_false] at hnext
          rw [← hnext] at hmore
          exact ⟨by simp, ⟨more, List.suffix_cons _ _, hmore⟩⟩
        | true =>
          simp only [hhas, if_true] at hfound hnext
          cases hvalue : argv[i + 1]? with
          | none =>
            simp only [hvalue] at hfound
            rw [← hfound] at hhead
            exact hhead.elim
          | some value =>
            simp only [hvalue] at hnext
            rw [← hnext] at hmore
            exact ⟨fun _ => rfl, ⟨more, List.suffix_cons _ _, hmore⟩⟩
      · simp only [hcontains, Bool.not_true, Bool.false_and, Bool.false_eq_true, if_false,
          false_implies, true_and]
        cases hrest : text.dropWhile (· != 61) with
        | nil => exact absurd hrest hdrop
        | cons first value =>
          simp only [hrest] at hfound hnext
          cases hhas : o.has_arg with
          | false =>
            simp only [hhas, Bool.false_eq_true, if_false] at hfound
            rw [← hfound] at hhead
            exact hhead.elim
          | true =>
            simp only [hhas, if_true] at hnext
            rw [← hnext] at hmore
            exact ⟨more, List.suffix_cons _ _, hmore⟩

/-- **A word of options** is left behind, with its value if it takes the next argument. -/
theorem scans_word {i : Nat} {word : Word} (hword : argv[i]? = some word)
    (hoption : is_option word = true) (hscan : Scans t argv ⟨i, []⟩ founds s')
    (hknown : ∀ found ∈ founds, found.known) :
    (t.takes_next word = true → (argv[i + 1]?).isSome) ∧
      Scans.Ends t argv (i + if t.takes_next word then 2 else 1) founds s' := by
  cases hkind : kind word with
  | terminator => simp [is_option, hkind] at hoption
  | operand => simp [is_option, hkind] at hoption
  | long text => exact scans_long hword hkind hscan hknown
  | short letter nextchar =>
    -- The first call begins the group.
    have hgroup : Scans t argv ⟨i, letter :: nextchar⟩ founds s' := by
      cases hscan with
      | stop h => simp [getopt_long, hword, hkind] at h
      | found h hmore =>
        simp only [getopt_long, hword, hkind] at h
        exact .found h hmore
    have htakes : t.takes_next word = t.group_takes_next (letter :: nextchar) := by
      unfold Table.takes_next
      rw [hkind]
    rw [htakes]
    exact scans_group (List.cons_ne_nil _ _) hgroup hknown

theorem Scans.unique {founds' : List Found} {s₁ s₂ : Cursor} (h : Scans t argv s founds s₁)
    (h' : Scans t argv s founds' s₂) : founds = founds' ∧ s₁ = s₂ := by
  induction h generalizing founds' with
  | stop hcall =>
    cases h' with
    | stop _ => exact ⟨rfl, rfl⟩
    | found hcall' _ => simp [hcall'] at hcall
  | found hcall _ ih =>
    cases h' with
    | stop hcall' => simp [hcall] at hcall'
    | found hcall' hmore =>
      obtain ⟨hfound, rfl⟩ := Prod.mk.inj (hcall.symm.trans hcall')
      obtain ⟨rfl, rfl⟩ := ih hmore
      exact ⟨by rw [Option.some.inj hfound], rfl⟩

theorem scans_last (h : Scans t argv s founds s') : (getopt_long t argv s').1 = none := by
  induction h with
  | stop hcall => exact hcall
  | found _ _ ih => exact ih

/-- What the reading says about a scan from the argument `i` on. -/
structure Scans.Read (t : Table) (args : List Word) (i : Nat) (s' : Cursor) : Prop where
  /-- Each word has its value. -/
  values : ∀ item ∈ (t.read args).1, item.value.isSome = t.takes_next item.word
  /-- The last call begins where the options end. -/
  stop : s' = ⟨i + ((t.read args).1.flatMap Item.words).length, []⟩

theorem read_append (t : Table) (args : List Word) :
    (t.read args).1.flatMap Item.words ++ (t.read args).2 = args := by
  induction args using Table.read.induct t with
  | case1 => simp [Table.read]
  | case2 word args hoption =>
    rw [Table.read.eq_def]
    simp [hoption]
  | case3 word args hoption htakes ih =>
    rw [Table.read.eq_def]
    simpa [hoption, htakes, Item.words] using ih
  | case4 word hoption htakes =>
    rw [Table.read.eq_def]
    simp [hoption, htakes, Item.words]
  | case5 word hoption htakes value args ih =>
    rw [Table.read.eq_def]
    simpa [hoption, htakes, Item.words] using ih

theorem drop_cons {i : Nat} {word : Word} {args : List Word} (h : argv.drop i = word :: args) :
    argv[i]? = some word ∧ argv.drop (i + 1) = args := by
  constructor
  · rw [← List.head?_drop, h]
    rfl
  · rw [← List.tail_drop, h]
    rfl

theorem terminator_iff {word : Word} : kind word = .terminator ↔ word = [45, 45] := by
  constructor
  · intro h
    unfold kind at h
    split at h
    · rename_i first second rest
      by_cases hfirst : first = 45
      · by_cases hsecond : second = 45
        · by_cases hrest : rest = []
          · rw [hfirst, hsecond, hrest]
          · simp [hfirst, hsecond, hrest] at h
        · simp [hfirst, hsecond] at h
      · simp [hfirst] at h
    · cases h
  · rintro rfl
    rfl

/-- The last call consumes a terminator, and nothing else. -/
theorem getopt_long_last (h : (getopt_long t argv s).1 = none) :
    (getopt_long t argv s).2.optind = s.optind + if argv[s.optind]? = some [45, 45] then 1 else 0 := by
  obtain ⟨i, nextchar⟩ := s
  cases nextchar with
  | cons letter nextchar => simp [getopt_long] at h
  | nil =>
    unfold getopt_long at h ⊢
    cases hword : argv[i]? with
    | none => simp [hword]
    | some word =>
      simp only [hword] at h ⊢
      cases hkind : kind word with
      | terminator => simp [terminator_iff.mp hkind]
      | operand =>
        have hne : word ≠ [45, 45] := fun heq => by simp [terminator_iff.mpr heq] at hkind
        simp [hne]
      | long text => simp [hkind] at h
      | short letter nextchar => simp [hkind] at h

/-- The end of the options: nothing is left, or a word that is no option. -/
theorem scans_stop {i : Nat} {args : List Word} (hargs : argv.drop i = args)
    (hend : ∀ word ∈ args.head?, is_option word = false) (hscan : Scans t argv ⟨i, []⟩ founds s') :
    s' = ⟨i, []⟩ := by
  have hhead : argv[i]? = args.head? := by rw [← hargs, List.head?_drop]
  cases hscan with
  | stop _ => rfl
  | found h hmore =>
    unfold getopt_long at h
    cases hword : args.head? with
    | none => simp [hhead, hword] at h
    | some word =>
      have hno := hend word hword
      simp only [hhead, hword] at h
      cases hkind : kind word with
      | terminator => simp [hkind] at h
      | operand => simp [hkind] at h
      | long text => simp [is_option, hkind] at hno
      | short letter nextchar => simp [is_option, hkind] at hno

/-- The words of the items are options. -/
theorem read_words (t : Table) (args : List Word) :
    ∀ item ∈ (t.read args).1, is_option item.word = true := by
  induction args using Table.read.induct t with
  | case1 => simp [Table.read]
  | case2 word args hoption =>
    rw [Table.read.eq_def]
    simp [hoption]
  | case3 word args hoption htakes ih =>
    rw [Table.read.eq_def]
    simpa [hoption, htakes] using ⟨by simpa using hoption, ih⟩
  | case4 word hoption htakes =>
    have hword : is_option word = true := by simpa using hoption
    rw [Table.read.eq_def]
    simp [hword, htakes]
  | case5 word hoption htakes value args ih =>
    rw [Table.read.eq_def]
    simpa [hoption, htakes] using ⟨by simpa using hoption, ih⟩

/-- **The scan is the reading**: with known options only, it stops where the options end. -/
theorem Scans.read {args : List Word} : ∀ {i : Nat} {founds : List Found}, argv.drop i = args →
    Scans t argv ⟨i, []⟩ founds s' → (∀ found ∈ founds, found.known) →
    Scans.Read t args i s' := by
  induction args using Table.read.induct t with
  | case1 =>
    intro i founds hargs hscan _
    exact ⟨by simp [Table.read], scans_stop hargs (by simp) hscan⟩
  | case2 word args hoption =>
    intro i founds hargs hscan _
    have hread : t.read (word :: args) = ([], word :: args) := by
      rw [Table.read.eq_def]
      simp [hoption]
    rw [Bool.not_eq_true'] at hoption
    have hend : ∀ first ∈ (word :: args).head?, is_option first = false := by
      intro first hfirst
      rwa [← Option.some.inj hfirst]
    refine ⟨by simp [hread], ?_⟩
    rw [hread]
    exact scans_stop hargs hend hscan
  | case3 word args hoption htakes ih =>
    intro i founds hargs hscan hknown
    obtain ⟨hword, hrest⟩ := drop_cons hargs
    simp only [Bool.not_eq_true', Bool.not_eq_false] at hoption htakes
    obtain ⟨-, more, hmore, hscan'⟩ := scans_word hword hoption hscan hknown
    rw [htakes] at hscan'
    obtain ⟨hvalues, hstop⟩ := ih hrest hscan' fun found hf => hknown found (hmore.subset hf)
    have hread : t.read (word :: args) = (⟨word, none⟩ :: (t.read args).1, (t.read args).2) := by
      rw [Table.read.eq_def]
      simp [hoption, htakes]
    refine ⟨?_, ?_⟩
    · rw [hread]
      intro item hitem
      obtain rfl | hitem := List.mem_cons.mp hitem
      · exact htakes.symm
      · exact hvalues item hitem
    · rw [hread, hstop]
      simp [Item.words]
      omega
  | case4 word hoption htakes =>
    intro i founds hargs hscan hknown
    obtain ⟨hword, hrest⟩ := drop_cons hargs
    simp only [Bool.not_eq_true', Bool.not_eq_false] at hoption htakes
    obtain ⟨hvalue, -⟩ := scans_word hword hoption hscan hknown
    have hvalue := hvalue htakes
    rw [← List.head?_drop, hrest] at hvalue
    simp at hvalue
  | case5 word hoption htakes value args ih =>
    intro i founds hargs hscan hknown
    obtain ⟨hword, hrest⟩ := drop_cons hargs
    obtain ⟨-, hrest⟩ := drop_cons hrest
    simp only [Bool.not_eq_true', Bool.not_eq_false] at hoption htakes
    obtain ⟨-, more, hmore, hscan'⟩ := scans_word hword hoption hscan hknown
    rw [htakes] at hscan'
    obtain ⟨hvalues, hstop⟩ := ih hrest hscan' fun found hf => hknown found (hmore.subset hf)
    have hread : t.read (word :: value :: args) =
        (⟨word, some value⟩ :: (t.read args).1, (t.read args).2) := by
      rw [Table.read.eq_def]
      simp [hoption, htakes]
    refine ⟨?_, ?_⟩
    · rw [hread]
      intro item hitem
      obtain rfl | hitem := List.mem_cons.mp hitem
      · exact htakes.symm
      · exact hvalues item hitem
    · rw [hread, hstop]
      simp [Item.words]
      omega

end reading

end Getopt
