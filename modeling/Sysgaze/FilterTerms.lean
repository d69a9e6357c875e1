import Mathlib.Data.Set.Lattice
import Sysgaze.FilterParse

/-! # What a filter expression means

    The grammar of the expression, apart from the parser: a list of terms, each
    of which names a call or a class.

    * `sg_filter_parse_spec`: the parser accepts just the texts of the grammar,
      and gives the numbers that the terms add and take out from left to right;
      otherwise the filter is left as it was.
    * `filter_meaning_iff`: a number is selected as documented, by some positive
      term and no negated one, unless a positive term brings back a number that
      has been taken out.
-/

namespace Sysgaze

/-! ### Terms -/

/-- What a term names: a call, or the class of a bit. -/
inductive Selector where
  | call (descriptor : SyscallDescriptor)
  | class_bit (bit : Nat)
  deriving DecidableEq

namespace Selector

def text : Selector → Text
  | call descriptor => descriptor.name
  | class_bit bit => cstr "%" ++ (sg_syscall_class_name bit).getD []

@[simp] theorem call_text (descriptor : SyscallDescriptor) :
    (call descriptor).text = descriptor.name := rfl

@[simp] theorem class_bit_text (bit : Nat) :
    (class_bit bit).text = cstr "%" ++ (sg_syscall_class_name bit).getD [] := rfl

/-- The call is in the catalog, or the class is one of the six. -/
def Valid : Selector → Prop
  | call descriptor => descriptor ∈ syscalls
  | class_bit bit => bit < 6

/-- The numbers of the call or of the calls of the class. -/
def numbers : Selector → List Int
  | call descriptor => [descriptor.number]
  | class_bit bit =>
    (syscalls.filter fun descriptor =>
      descriptor.classes &&& ((1 : UInt32) <<< UInt32.ofNat bit) ≠ 0).map SyscallDescriptor.number

end Selector

/-- A term of a filter expression. -/
structure Term where
  negated : Bool
  selector : Selector
  deriving DecidableEq

namespace Term

def text (term : Term) : Text := (if term.negated then cstr "!" else []) ++ term.selector.text

/-- The term names something, in 1 to 127 bytes. -/
structure Valid (term : Term) : Prop where
  selector : term.selector.Valid
  length : 1 ≤ term.selector.text.length ∧ term.selector.text.length ≤ 127

/-- The numbers of calls. -/
def all_numbers : Set Int := { number | 0 ≤ number ∧ number < SG_SYSCALL_LIMIT }

instance (number : Int) : Decidable (number ∈ all_numbers) :=
  inferInstanceAs (Decidable (0 ≤ number ∧ number < SG_SYSCALL_LIMIT))

/-- A term adds its numbers below the limit, or takes them out. -/
def apply (selected : Set Int) (term : Term) : Set Int :=
  if term.negated then selected \ { number | number ∈ term.selector.numbers }
  else selected ∪ ({ number | number ∈ term.selector.numbers } ∩ all_numbers)

/-- Does some term add numbers? -/
def some_positive (terms : List Term) : Bool := terms.any fun term => !term.negated

/-- The terms from left to right, from no number if one of them adds numbers, and else from
    all. -/
def selected (terms : List Term) : Set Int :=
  terms.foldl apply (if some_positive terms then ∅ else all_numbers)

end Term

/-- A specification of terms. -/
def spec_text (terms : List Term) : Text :=
  cstr "trace=" ++ (cstr ",").intercalate (terms.map Term.text)

/-- The text is that of one or more terms. -/
structure Spells (spec : Text) (terms : List Term) : Prop where
  some_term : terms ≠ []
  valid : ∀ term ∈ terms, term.Valid
  text : spec = spec_text terms

/-- What the filter contains. -/
def Filter.selection (filter : Filter) : Set Int := { number | sg_filter_contains filter number = true }

/-! ### One term -/

/-- A name that cannot be taken for anything else. -/
def plain_name (name : Text) : Bool :=
  name.length ≤ 126 && name.all fun byte => byte ≠ 33 && byte ≠ 37 && byte ≠ 44

theorem syscalls_plain : ∀ descriptor ∈ syscalls,
    plain_name descriptor.name = true ∧ descriptor.name ≠ [] := by decide +kernel

/-- The names of the classes, their masks, and that they cannot be taken for anything else. -/
theorem class_names : ∀ bit < 6, ∃ name, sg_syscall_class_name bit = some name ∧
    plain_name name = true ∧
    sg_syscall_class_by_name name = some ((1 : UInt32) <<< UInt32.ofNat bit) := by
  decide +kernel

theorem plain_name_head {name : Text} (h : plain_name name = true) :
    name.head? ≠ some 33 ∧ name.head? ≠ some 37 ∧ 44 ∉ name := by
  unfold plain_name at h
  rw [Bool.and_eq_true, List.all_eq_true] at h
  have hbyte : ∀ byte ∈ name, byte ≠ 33 ∧ byte ≠ 37 ∧ byte ≠ 44 := by
    intro byte hbyte
    simpa [and_assoc] using h.2 byte hbyte
  refine ⟨?_, ?_, fun hmem => (hbyte 44 hmem).2.2 rfl⟩
  · intro hhead
    exact (hbyte 33 (List.mem_of_head? hhead)).1 rfl
  · intro hhead
    exact (hbyte 37 (List.mem_of_head? hhead)).2.1 rfl

/-- The text of a selector does not start with `!` and has no comma, and the `%` in front tells
    classes from calls. -/
theorem selector_text_head {selector : Selector} (h : selector.Valid) :
    selector.text.head? ≠ some 33 ∧ 44 ∉ selector.text ∧
      (selector.text.head? = some 37 ↔ ∃ bit, selector = .class_bit bit) := by
  have hpercent : cstr "%" = [37] := by decide
  cases selector with
  | call descriptor =>
    obtain ⟨hbang, hclass, hcomma⟩ := plain_name_head (syscalls_plain descriptor h).1
    exact ⟨hbang, hcomma, by simpa using hclass⟩
  | class_bit bit =>
    obtain ⟨name, hname, hplain, -⟩ := class_names bit h
    obtain ⟨_, _, hcomma⟩ := plain_name_head hplain
    rw [Selector.class_bit_text, hname, hpercent]
    refine ⟨by simp, ?_, by simp⟩
    rw [Option.getD_some, List.mem_append, not_or]
    exact ⟨by decide, hcomma⟩

/-- What `apply_text` does to the filter for a term. -/
def Term.run (candidate : Filter) (term : Term) : Filter :=
  match term.selector with
  | .call descriptor => set_number candidate descriptor.number (!term.negated)
  | .class_bit bit =>
    apply_class candidate ((1 : UInt32) <<< UInt32.ofNat bit) (!term.negated)

/-- `apply_text`, without pointers. -/
theorem apply_text_eq (candidate : Filter) (text : Text) : apply_text candidate text =
    let (enabled, name) := if text.head? = some 33 then (false, text.tail) else (true, text)
    if name.length = 0 then .error .empty_term
    else if name.length ≥ sizeof_name then .error .long_term
    else if name.head? = some 37 then
      match sg_syscall_class_by_name name.tail with
      | none => .error (.unknown_class name)
      | some class_mask => .ok (apply_class candidate class_mask enabled)
    else
      match sg_syscall_by_name name with
      | none => .error (.unknown_syscall name)
      | some descriptor => .ok (set_number candidate descriptor.number enabled) := by
  unfold apply_text apply_term
  simp only [List.length_nil, Nat.sub_zero, List.take_length] <;> rfl

/-- What is left of the text of a term without its `!`. -/
theorem term_text_split {term : Term} (h : term.selector.Valid) :
    (if term.text.head? = some 33 then (false, term.text.tail) else (true, term.text)) =
      (!term.negated, term.selector.text) := by
  have hbang : cstr "!" = [33] := by decide
  obtain ⟨hhead, -, -⟩ := selector_text_head h
  unfold Term.text
  cases term.negated with
  | false => exact if_neg hhead
  | true =>
    rw [if_pos rfl, hbang]
    exact if_pos rfl

/-- **The text of a term** does what the term says. -/
theorem apply_text_term (candidate : Filter) {term : Term} (h : term.Valid) :
    apply_text candidate term.text = .ok (term.run candidate) := by
  have hsize : sizeof_name = 128 := rfl
  obtain ⟨hselector, hpos, hle⟩ := h
  obtain ⟨-, -, hclass⟩ := selector_text_head hselector
  rw [apply_text_eq, term_text_split hselector]
  dsimp only
  rw [if_neg (by omega), if_neg (by omega)]
  unfold Term.run
  cases hterm : term.selector with
  | call descriptor =>
    rw [hterm] at hselector hclass
    have hfound : sg_syscall_by_name descriptor.name = some descriptor :=
      find_by_name SyscallDescriptor.name syscalls_names hselector
    have hcall : (Selector.call descriptor).text.head? ≠ some 37 := by
      intro hhead
      obtain ⟨bit, hbit⟩ := hclass.mp hhead
      exact absurd hbit (by simp)
    rw [if_neg hcall, Selector.call_text, hfound]
  | class_bit bit =>
    rw [hterm] at hselector hclass
    obtain ⟨name, hname, -, hmask⟩ := class_names bit hselector
    have htail : (Selector.class_bit bit).text.tail = name := by
      rw [Selector.class_bit_text, hname, (by decide : cstr "%" = [37])]
      rfl
    rw [if_pos (hclass.mpr ⟨bit, rfl⟩), htail, hmask]

/-- A selector is found by a text that is accepted. -/
theorem apply_text_ok {candidate candidate' : Filter} {text : Text}
    (h : apply_text candidate text = .ok candidate') : ∃ term : Term, term.Valid ∧ term.text = text := by
  have hsize : sizeof_name = 128 := rfl
  have hbang : cstr "!" = [33] := by decide
  have hpercent : cstr "%" = [37] := by decide
  rw [apply_text_eq] at h
  -- The `!` is put back in front of what has been found.
  have hback : ∀ (negated : Bool) (name : Text), (if negated then cstr "!" else []) ++ name = text →
      (if name.length = 0 then Except.error FilterError.empty_term
      else if name.length ≥ sizeof_name then .error .long_term
      else if name.head? = some 37 then
        match sg_syscall_class_by_name name.tail with
        | none => .error (.unknown_class name)
        | some class_mask => .ok (apply_class candidate class_mask (!negated))
      else
        match sg_syscall_by_name name with
        | none => .error (.unknown_syscall name)
        | some descriptor => .ok (set_number candidate descriptor.number (!negated))) =
          .ok candidate' →
      ∃ term : Term, term.Valid ∧ term.text = text := by
    intro negated name htext hok
    split at hok
    · simp at hok
    · split at hok
      · simp at hok
      · split at hok
        · rename_i hempty hlong hclass
          cases hfound : sg_syscall_class_by_name name.tail with
          | none => simp [hfound] at hok
          | some class_mask =>
            unfold sg_syscall_class_by_name at hfound
            obtain ⟨bit, hbit, -⟩ := Option.map_eq_some_iff.mp hfound
            have hlt : bit < 6 := List.mem_range.mp (List.mem_of_find?_eq_some hbit)
            have hname : sg_syscall_class_name bit = some name.tail := by
              simpa using List.find?_some hbit
            have hselector : (Selector.class_bit bit).text = name := by
              rw [Selector.class_bit_text, hname, hpercent]
              cases name with
              | nil => simp at hclass
              | cons first name =>
                rw [Option.some.inj hclass]
                rfl
            refine ⟨⟨negated, .class_bit bit⟩, ⟨hlt, ?_⟩, ?_⟩
            · rw [hselector]
              omega
            · unfold Term.text
              rw [hselector]
              exact htext
        · rename_i hempty hlong hclass
          cases hfound : sg_syscall_by_name name with
          | none => simp [hfound] at hok
          | some descriptor =>
            unfold sg_syscall_by_name at hfound
            have hname : descriptor.name = name := by simpa using List.find?_some hfound
            refine ⟨⟨negated, .call descriptor⟩, ⟨List.mem_of_find?_eq_some hfound, ?_⟩, ?_⟩
            · rw [Selector.call_text, hname]
              omega
            · unfold Term.text
              rw [Selector.call_text, hname]
              exact htext
  by_cases hhead : text.head? = some 33
  · rw [if_pos hhead] at h
    apply hback true text.tail _ h
    cases text with
    | nil => simp at hhead
    | cons first text =>
      rw [Option.some.inj hhead, hbang]
      rfl
  · rw [if_neg hhead] at h
    exact hback false text rfl h

/-! ### The selection -/

theorem mem_selection (filter : Filter) (number : Int) :
    number ∈ filter.selection ↔ sg_filter_contains filter number = true := Iff.rfl

@[simp] theorem set_number_active (filter : Filter) (number : Int) (enabled : Bool) :
    (set_number filter number enabled).active = filter.active := by
  unfold set_number
  split
  · rfl
  · rfl

/-- A filter contains numbers below the limit only. -/
theorem selection_subset (filter : Filter) : filter.selection ⊆ Term.all_numbers := by
  intro n hn
  by_contra hout
  have hlimit : SG_SYSCALL_LIMIT = 512 := rfl
  have hrange : n < 0 ∨ SG_SYSCALL_LIMIT ≤ n.toNat := by
    by_contra hin
    exact hout ⟨by omega, by omega⟩
  rw [mem_selection, sg_filter_contains_of_ge _ hrange] at hn
  exact absurd hn (by decide)

/-- Numbers are added or taken out. -/
def change (enabled : Bool) (numbers selected : Set Int) : Set Int :=
  if enabled then selected ∪ (numbers ∩ Term.all_numbers) else selected \ numbers

theorem apply_eq_change (selected : Set Int) (term : Term) : term.apply selected =
    change (!term.negated) { number | number ∈ term.selector.numbers } selected := by
  unfold Term.apply change
  cases term.negated with
  | false => rfl
  | true => rfl

theorem change_nothing (enabled : Bool) (selected : Set Int) :
    change enabled ∅ selected = selected := by
  unfold change
  cases enabled with
  | false => simp
  | true => simp

theorem change_change (enabled : Bool) (numbers numbers' selected : Set Int) :
    change enabled numbers (change enabled numbers' selected) =
      change enabled (numbers' ∪ numbers) selected := by
  unfold change
  cases enabled with
  | false => exact Set.sdiff_sdiff
  | true =>
    rw [if_pos rfl, if_pos rfl, if_pos rfl, Set.union_inter_distrib_right, Set.union_assoc]

/-- `set_number` adds the number or takes it out. -/
theorem selection_set_number (filter : Filter) (number : Int) (enabled : Bool) :
    (set_number filter number enabled).selection = change enabled {number} filter.selection := by
  ext n
  have hlimit : SG_SYSCALL_LIMIT = 512 := rfl
  have hall : n ∈ Term.all_numbers ↔ 0 ≤ n ∧ n < SG_SYSCALL_LIMIT := Iff.rfl
  have hsub : n ∈ filter.selection → n ∈ Term.all_numbers := fun h => selection_subset filter h
  rw [mem_selection, sg_filter_contains_set_number]
  unfold change
  by_cases hsame : n = number
  · subst hsame
    by_cases hin : n ∈ Term.all_numbers
    · rw [if_pos ⟨rfl, hall.mp hin⟩]
      cases enabled with
      | false => simp
      | true => simp [hin]
    · rw [if_neg fun h => hin (hall.mpr h.2), ← mem_selection]
      cases enabled with
      | false => simpa using fun h => hin (hsub h)
      | true => simp [hin]
  · rw [if_neg fun h => hsame h.1, ← mem_selection]
    cases enabled with
    | false => simp [hsame]
    | true => simp [hsame]

/-- Setting the numbers of the entries of a class. -/
theorem foldl_set_number (enabled : Bool) (mask : UInt32) (table : List SyscallDescriptor) :
    ∀ filter : Filter,
    (table.foldl (fun filter descriptor =>
      if descriptor.classes &&& mask ≠ 0 then set_number filter descriptor.number enabled
      else filter) filter).active = filter.active ∧
    (table.foldl (fun filter descriptor =>
      if descriptor.classes &&& mask ≠ 0 then set_number filter descriptor.number enabled
      else filter) filter).selection = change enabled
        { n | n ∈ (table.filter fun descriptor => descriptor.classes &&& mask ≠ 0).map
          SyscallDescriptor.number } filter.selection := by
  induction table with
  | nil =>
    intro filter
    exact ⟨rfl, by simp [change_nothing]⟩
  | cons descriptor table ih =>
    intro filter
    rw [List.foldl_cons]
    by_cases hclass : descriptor.classes &&& mask ≠ 0
    · obtain ⟨hactive, hselection⟩ := ih (set_number filter descriptor.number enabled)
      have hnumbers : ({ n | n ∈ ((descriptor :: table).filter fun descriptor =>
          descriptor.classes &&& mask ≠ 0).map SyscallDescriptor.number } : Set Int) =
          {descriptor.number} ∪ { n | n ∈ (table.filter fun descriptor =>
            descriptor.classes &&& mask ≠ 0).map SyscallDescriptor.number } := by
        rw [List.filter_cons_of_pos (by simpa using hclass), List.map_cons]
        ext n
        rw [Set.mem_ofPred_eq, List.mem_cons]
        rfl
      rw [if_pos hclass, hselection, hactive, set_number_active, selection_set_number,
        change_change, hnumbers]
      exact ⟨rfl, rfl⟩
    · rw [if_neg hclass, List.filter_cons_of_neg (by simpa using hclass)]
      exact ih filter

/-- **A term** changes the selection as it says. -/
theorem selection_run (candidate : Filter) (term : Term) :
    (term.run candidate).active = candidate.active ∧
      (term.run candidate).selection = term.apply candidate.selection := by
  rw [apply_eq_change]
  unfold Term.run
  cases term.selector with
  | call descriptor =>
    refine ⟨set_number_active _ _ _, ?_⟩
    rw [selection_set_number]
    simp [Selector.numbers]
  | class_bit bit => exact foldl_set_number _ _ _ _

/-- **All terms**, one after the other. -/
theorem foldlM_terms {terms : List Term} : ∀ {candidate : Filter}, (∀ term ∈ terms, term.Valid) →
    ∃ filter, (terms.map Term.text).foldlM apply_text candidate = .ok filter ∧
      filter.active = candidate.active ∧
      filter.selection = terms.foldl Term.apply candidate.selection := by
  induction terms with
  | nil => exact fun _ => ⟨_, rfl, rfl, rfl⟩
  | cons term terms ih =>
    intro candidate hvalid
    obtain ⟨hactive, hselection⟩ := selection_run candidate term
    obtain ⟨filter, hfilter, hactive', hselection'⟩ :=
      @ih (term.run candidate) fun other hother => hvalid other (by simp [hother])
    refine ⟨filter, ?_, hactive'.trans hactive, by rw [hselection', hselection]; rfl⟩
    rw [List.map_cons, List.foldlM_cons, apply_text_term candidate (hvalid term (by simp))]
    exact hfilter

/-- Texts that are accepted are the texts of terms. -/
theorem terms_of_foldlM {texts : List Text} : ∀ {candidate filter : Filter},
    texts.foldlM apply_text candidate = .ok filter →
      ∃ terms : List Term, (∀ term ∈ terms, term.Valid) ∧ terms.map Term.text = texts := by
  induction texts with
  | nil => exact fun _ => ⟨[], by simp, rfl⟩
  | cons text texts ih =>
    intro candidate filter h
    rw [List.foldlM_cons] at h
    cases happly : apply_text candidate text with
    | error error => rw [happly] at h; exact absurd h (by simp [bind, Except.bind])
    | ok candidate' =>
      rw [happly] at h
      obtain ⟨term, hterm, htext⟩ := apply_text_ok happly
      obtain ⟨terms, hterms, htexts⟩ := @ih candidate' filter h
      refine ⟨term :: terms, ?_, by rw [List.map_cons, htext, htexts]⟩
      intro other hother
      rcases List.mem_cons.mp hother with rfl | hother
      · exact hterm
      · exact hterms other hother

/-! ### The grammar -/

theorem term_text_ok {term : Term} (h : term.Valid) :
    44 ∉ term.text ∧ is_positive term.text = !term.negated := by
  obtain ⟨hhead, hcomma, -⟩ := selector_text_head h.selector
  have hlength := h.length
  have hbang : cstr "!" = [33] := by decide
  unfold Term.text
  cases hnegated : term.negated with
  | false =>
    refine ⟨hcomma, ?_⟩
    cases htext : term.selector.text with
    | nil =>
      rw [htext, List.length_nil] at hlength
      omega
    | cons first rest =>
      rw [htext] at hhead
      show is_positive (first :: rest) = true
      rw [is_positive_cons]
      simpa using hhead
  | true =>
    rw [if_pos rfl, hbang]
    exact ⟨by simpa using hcomma, rfl⟩

/-- The pieces of a specification are the texts of its terms. -/
theorem splitOn_terms {terms : List Term} (hsome : terms ≠ []) (h : ∀ term ∈ terms, term.Valid) :
    ((cstr ",").intercalate (terms.map Term.text)).splitOn 44 = terms.map Term.text := by
  have hcomma : cstr "," = [44] := by decide
  rw [hcomma]
  apply List.splitOn_intercalate
  · intro text htext
    obtain ⟨term, hterm, rfl⟩ := List.mem_map.mp htext
    exact (term_text_ok (h term hterm)).1
  · simpa using hsome

theorem any_is_positive {terms : List Term} (h : ∀ term ∈ terms, term.Valid) :
    (terms.map Term.text).any is_positive = Term.some_positive terms := by
  unfold Term.some_positive
  rw [List.any_map, Bool.eq_iff_iff, List.any_eq_true, List.any_eq_true]
  constructor
  · rintro ⟨term, hterm, hpositive⟩
    exact ⟨term, hterm, (term_text_ok (h term hterm)).2 ▸ hpositive⟩
  · rintro ⟨term, hterm, hpositive⟩
    exact ⟨term, hterm, (term_text_ok (h term hterm)).2.trans hpositive⟩

theorem selection_clear : ({ sg_filter_clear with active := true } : Filter).selection = ∅ := by
  ext n
  rw [mem_selection]
  by_cases hrange : n < 0 ∨ SG_SYSCALL_LIMIT ≤ n.toNat
  · simp [sg_filter_contains_of_ge _ hrange]
  · have hlimit : SG_SYSCALL_LIMIT = 512 := rfl
    obtain ⟨m, rfl⟩ := Int.eq_ofNat_of_zero_le (show 0 ≤ n by omega)
    rw [sg_filter_contains_eq _ (by omega)]
    have hword : ((Vector.replicate SG_FILTER_WORDS (0 : UInt64)).toList[m / 64]?.getD 0) = 0 := by
      rw [List.getElem?_eq_getElem (by rw [Vector.length_toList]; show m / 64 < 8; omega)]
      simp
    show ((Vector.replicate SG_FILTER_WORDS (0 : UInt64)).toList[m / 64]?.getD 0).toNat.testBit
      (m % 64) = true ↔ _
    rw [hword]
    simp

theorem selection_fill : sg_filter_fill.selection = Term.all_numbers := by
  ext n
  have hlimit : SG_SYSCALL_LIMIT = 512 := rfl
  have hall : n ∈ Term.all_numbers ↔ 0 ≤ n ∧ n < SG_SYSCALL_LIMIT := Iff.rfl
  constructor
  · exact fun h => selection_subset _ h
  · intro hn
    rw [hall] at hn
    obtain ⟨m, rfl⟩ := Int.eq_ofNat_of_zero_le hn.1
    rw [mem_selection, sg_filter_contains_eq _ (by omega)]
    have hword : (sg_filter_fill.words.toList[m / 64]?.getD 0) = 0xffffffffffffffff := by
      rw [List.getElem?_eq_getElem (by rw [Vector.length_toList]; show m / 64 < 8; omega)]
      simp [sg_filter_fill]
    have hones : ∀ bit < 64, (0xffffffffffffffff : UInt64).toNat.testBit bit = true := by decide
    rw [hword]
    exact hones _ (by omega)

/-- **A text of the grammar** is accepted, and gives what its terms select. -/
theorem parse_spec_terms {spec : Text} {terms : List Term} (h : Spells spec terms) :
    ∃ filter, parse_spec (some spec) = .ok filter ∧ filter.active = true ∧
      filter.selection = Term.selected terms := by
  obtain ⟨hsome, hvalid, rfl⟩ := h
  have hsix : (cstr "trace=").length = 6 := by decide
  have hstart : (spec_text terms).take 6 = cstr "trace=" := by
    unfold spec_text
    rw [← hsix, List.take_left]
  have hrest : (spec_text terms).drop 6 = (cstr ",").intercalate (terms.map Term.text) := by
    unfold spec_text
    rw [← hsix, List.drop_left]
  have hpieces := splitOn_terms hsome hvalid
  have hexpression : (cstr ",").intercalate (terms.map Term.text) ≠ [] := by
    intro hempty
    rw [hempty] at hpieces
    -- The only piece would be empty.
    cases terms with
    | nil => exact hsome rfl
    | cons term terms =>
      have htext : [] = term.text := (List.cons.inj hpieces).1
      have hlength := (hvalid term (by simp)).length
      unfold Term.text at htext
      rw [List.nil_eq, List.append_eq_nil_iff] at htext
      rw [htext.2, List.length_nil] at hlength
      omega
  unfold parse_spec Term.selected
  dsimp only
  rw [hstart, hrest, if_neg (fun hne => hne rfl), if_neg hexpression,
    parse_terms_eq _ _ hexpression, has_positive_term_eq, hpieces, any_is_positive hvalid]
  obtain ⟨filter, hfilter, hactive, hselection⟩ := @foldlM_terms terms
    (if Term.some_positive terms then { sg_filter_clear with active := true } else sg_filter_fill)
    hvalid
  refine ⟨filter, hfilter, ?_, ?_⟩
  · rw [hactive]
    split
    · rfl
    · rfl
  · rw [hselection]
    split
    · rw [selection_clear]
    · rw [selection_fill]

/-- **A text that is accepted** is a text of the grammar. -/
theorem spells_of_parse_spec {spec : Text} {filter : Filter} (h : parse_spec (some spec) = .ok filter) :
    ∃ terms, Spells spec terms := by
  unfold parse_spec at h
  dsimp only at h
  split at h
  · simp at h
  · rename_i hstart
    split at h
    · simp at h
    · rename_i hexpression
      rw [parse_terms_eq _ _ hexpression] at h
      obtain ⟨terms, hvalid, htexts⟩ := terms_of_foldlM h
      refine ⟨terms, ?_, hvalid, ?_⟩
      · rintro rfl
        exact List.splitOn_ne_nil _ _ htexts.symm
      · have hcomma : cstr "," = [44] := by decide
        unfold spec_text
        rw [htexts, hcomma, List.intercalate_splitOn, ← not_not.mp hstart, List.take_append_drop]

/-- **The parser** accepts the texts of the grammar, and gives what the terms select from left
    to right; otherwise the filter is left as it was. -/
theorem sg_filter_parse_spec (filter : Filter) (spec : Text) (error_size : Nat) :
    let result := sg_filter_parse filter (some spec) error_size
    (result.1 = true ↔ ∃ terms, Spells spec terms) ∧
    (result.1 = false → result.2.1 = filter) ∧
    ∀ terms, Spells spec terms →
      result.2.1.active = true ∧ result.2.1.selection = Term.selected terms := by
  unfold sg_filter_parse
  cases hparse : parse_spec (some spec) with
  | error error =>
    have hno : ∀ terms, ¬Spells spec terms := by
      intro terms hspells
      obtain ⟨filter', hok, -, -⟩ := parse_spec_terms hspells
      rw [hparse] at hok
      exact absurd hok (by simp)
    exact ⟨⟨fun h => absurd h (by simp), fun h => absurd h (not_exists.mpr hno)⟩, fun _ => rfl,
      fun terms h => absurd h (hno terms)⟩
  | ok candidate =>
    refine ⟨⟨fun _ => spells_of_parse_spec hparse, fun _ => rfl⟩, fun h => absurd h (by simp), ?_⟩
    intro terms hspells
    obtain ⟨filter', hok, hactive, hselection⟩ := parse_spec_terms hspells
    rw [hparse] at hok
    rw [Except.ok.inj hok]
    exact ⟨hactive, hselection⟩

/-! ### The documented meaning -/

/-- Does the term name the number? -/
def Term.names (term : Term) (number : Int) : Bool := number ∈ term.selector.numbers

/-- What the documentation says: the positive terms form the set, and the negated ones are
    taken from it. -/
def Documented (terms : List Term) (number : Int) : Prop :=
  ((∃ term ∈ terms, term.negated = false) →
    ∃ term ∈ terms, term.negated = false ∧ term.names number = true) ∧
  ¬∃ term ∈ terms, term.negated = true ∧ term.names number = true

/-- The last term that names a number. -/
def last_naming (terms : List Term) (number : Int) : Option Term :=
  terms.reverse.find? fun term => term.names number

/-- A number is taken out by a negated term, and a positive term brings it back for good. -/
def Readmitted (terms : List Term) (number : Int) : Prop :=
  (∃ term ∈ terms, term.negated = true ∧ term.names number = true) ∧
    ∃ term, last_naming terms number = some term ∧ term.negated = false

/-- Some term adds the number, and some term takes it out. -/
def Contested (terms : List Term) (number : Int) : Prop :=
  (∃ term ∈ terms, term.negated = false ∧ term.names number = true) ∧
    ∃ term ∈ terms, term.negated = true ∧ term.names number = true

section meaning
variable {terms terms' : List Term} {number : Int}

theorem last_naming_append (term : Term) : last_naming (terms ++ [term]) number =
    if term.names number then some term else last_naming terms number := by
  unfold last_naming
  rw [List.reverse_append, List.reverse_singleton, List.singleton_append, List.find?_cons]
  cases term.names number with
  | true => rfl
  | false => rfl

theorem last_naming_some {term : Term} (h : last_naming terms number = some term) :
    term ∈ terms ∧ term.names number = true :=
  ⟨List.mem_reverse.mp (List.mem_of_find?_eq_some h), by simpa using List.find?_some h⟩

theorem last_naming_none (h : last_naming terms number = none) :
    ∀ term ∈ terms, term.names number = false := by
  intro term hterm
  unfold last_naming at h
  rw [List.find?_eq_none] at h
  simpa using h term (List.mem_reverse.mpr hterm)

/-- **The last term decides** about the numbers it names. -/
theorem mem_foldl_apply (start : Set Int) (hnumber : number ∈ Term.all_numbers) :
    number ∈ terms.foldl Term.apply start ↔
      match last_naming terms number with
      | some term => term.negated = false
      | none => number ∈ start := by
  induction terms using List.reverseRecOn with
  | nil => exact Iff.rfl
  | append_singleton terms term ih =>
    rw [List.foldl_append, last_naming_append, List.foldl_cons, List.foldl_nil]
    have hnames : term.names number = decide (number ∈ term.selector.numbers) := rfl
    generalize terms.foldl Term.apply start = selected at ih
    unfold Term.apply
    cases hnegated : term.negated with
    | true =>
      rw [if_pos rfl, Set.mem_sdiff, ih]
      by_cases hnamed : number ∈ term.selector.numbers
      · simp [hnames, hnamed, hnegated]
      · simp [hnames, hnamed]
    | false =>
      rw [if_neg (by simp), Set.mem_union, ih]
      by_cases hnamed : number ∈ term.selector.numbers
      · simp [hnames, hnamed, hnegated, hnumber]
      · simp [hnames, hnamed]

/-- The same for the whole selection. -/
theorem mem_selected (hnumber : number ∈ Term.all_numbers) :
    number ∈ Term.selected terms ↔
      match last_naming terms number with
      | some term => term.negated = false
      | none => Term.some_positive terms = false := by
  unfold Term.selected
  rw [mem_foldl_apply _ hnumber]
  cases last_naming terms number with
  | some term => exact Iff.rfl
  | none =>
    cases Term.some_positive terms with
    | true => simp
    | false => simpa using hnumber

theorem some_positive_eq_true : Term.some_positive terms = true ↔
    ∃ term ∈ terms, term.negated = false := by
  simp [Term.some_positive]

/-- **A number is selected as documented** unless it is brought back. -/
theorem documented_iff (hnumber : number ∈ Term.all_numbers) :
    (number ∈ Term.selected terms ↔ Documented terms number) ↔ ¬Readmitted terms number := by
  rw [mem_selected hnumber]
  unfold Documented Readmitted
  cases hlast : last_naming terms number with
  | some term =>
    obtain ⟨hterm, hnames⟩ := last_naming_some hlast
    cases hnegated : term.negated with
    | true =>
      -- The number is taken out at last, which is what is documented.
      have hout : ∃ term ∈ terms, term.negated = true ∧ term.names number = true :=
        ⟨term, hterm, hnegated, hnames⟩
      simp [hout, hnegated]
    | false =>
      have hin : ∃ term ∈ terms, term.negated = false ∧ term.names number = true :=
        ⟨term, hterm, hnegated, hnames⟩
      simp [hin, hnegated]
  | none =>
    have hnone := last_naming_none hlast
    have hin : ¬∃ term ∈ terms, term.negated = false ∧ term.names number = true := by
      rintro ⟨term, hterm, -, hnames⟩
      rw [hnone term hterm] at hnames
      exact absurd hnames (by decide)
    have hout : ¬∃ term ∈ terms, term.negated = true ∧ term.names number = true := by
      rintro ⟨term, hterm, -, hnames⟩
      rw [hnone term hterm] at hnames
      exact absurd hnames (by decide)
    simp only [hin, hout, imp_false, not_false_eq_true, and_true, false_and, iff_true]
    rw [← some_positive_eq_true, Bool.not_eq_true]

/-! ### The order of the terms -/

theorem contested_of_readmitted (h : Readmitted terms number) : Contested terms number := by
  obtain ⟨hout, term, hlast, hnegated⟩ := h
  obtain ⟨hterm, hnames⟩ := last_naming_some hlast
  exact ⟨⟨term, hterm, hnegated, hnames⟩, hout⟩

theorem documented_perm (hperm : terms'.Perm terms) :
    Documented terms' number ↔ Documented terms number := by
  unfold Documented
  simp only [hperm.mem_iff]

theorem contested_perm (hperm : terms'.Perm terms) :
    Contested terms' number ↔ Contested terms number := by
  unfold Contested
  simp only [hperm.mem_iff]

theorem foldl_apply_subset (terms : List Term) : ∀ start : Set Int, start ⊆ Term.all_numbers →
    terms.foldl Term.apply start ⊆ Term.all_numbers := by
  induction terms with
  | nil => exact fun _ h => h
  | cons term terms ih =>
    intro start h
    apply ih
    unfold Term.apply
    split
    · exact Set.sdiff_subset.trans h
    · exact Set.union_subset h Set.inter_subset_right

theorem selected_subset : Term.selected terms ⊆ Term.all_numbers := by
  apply foldl_apply_subset
  split
  · exact Set.empty_subset _
  · exact subset_refl _

/-- **The order does not matter** if and only if no number is both added and taken out. -/
theorem selected_perm_iff : (∀ terms' : List Term, terms'.Perm terms →
    Term.selected terms' = Term.selected terms) ↔
      ∀ number ∈ Term.all_numbers, ¬Contested terms number := by
  constructor
  · rintro h number hnumber ⟨⟨term, hterm, hnegated, hnames⟩, other, hother, hnegated', hnames'⟩
    -- Whichever of the two terms is last decides.
    have hin := h (terms.erase term ++ [term])
      ((List.perm_append_singleton _ _).trans (List.perm_cons_erase hterm).symm)
    have hout := h (terms.erase other ++ [other])
      ((List.perm_append_singleton _ _).trans (List.perm_cons_erase hother).symm)
    have hmem := @mem_selected (terms.erase term ++ [term]) _ hnumber
    have hmem' := @mem_selected (terms.erase other ++ [other]) _ hnumber
    rw [last_naming_append, if_pos hnames, hin] at hmem
    rw [last_naming_append, if_pos hnames', hout] at hmem'
    have hcontra : other.negated = false := hmem'.mp (hmem.mpr hnegated)
    rw [hnegated'] at hcontra
    exact absurd hcontra (by decide)
  · intro h terms' hperm
    ext number
    constructor
    · intro hin
      have hnumber := selected_subset hin
      have hcalm := h number hnumber
      have hcalm' := mt (contested_perm hperm).mp hcalm
      rw [(documented_iff hnumber).mpr (mt contested_of_readmitted hcalm), ← documented_perm hperm,
        ← (documented_iff hnumber).mpr (mt contested_of_readmitted hcalm')]
      exact hin
    · intro hin
      have hnumber := selected_subset hin
      have hcalm := h number hnumber
      have hcalm' := mt (contested_perm hperm).mp hcalm
      rw [(documented_iff hnumber).mpr (mt contested_of_readmitted hcalm'), documented_perm hperm,
        ← (documented_iff hnumber).mpr (mt contested_of_readmitted hcalm)]
      exact hin

end meaning

theorem Spells.perm {terms terms' : List Term} {spec : Text} (h : Spells spec terms)
    (hperm : terms'.Perm terms) : Spells (spec_text terms') terms' := by
  refine ⟨?_, fun term hterm => h.valid term (hperm.mem_iff.mp hterm), rfl⟩
  rintro rfl
  exact h.some_term hperm.nil_eq.symm

/-- **The meaning of a filter.**  A number is selected as documented if and only if it is not
    brought back by a positive term after it has been taken out; and the terms give the same
    filter in every order if and only if no number is both added and taken out. -/
theorem filter_meaning_iff (filter : Filter) (spec : Text) (error_size : Nat)
    (haccepted : (sg_filter_parse filter (some spec) error_size).1 = true) :
    ∃ terms, Spells spec terms ∧
      (∀ number ∈ Term.all_numbers,
        (sg_filter_contains (sg_filter_parse filter (some spec) error_size).2.1 number = true ↔
          Documented terms number) ↔ ¬Readmitted terms number) ∧
      ((∀ terms' : List Term, terms'.Perm terms →
        sg_filter_parse filter (some (spec_text terms')) error_size =
          sg_filter_parse filter (some spec) error_size) ↔
        ∀ number ∈ Term.all_numbers, ¬Contested terms number) := by
  -- What the parser gives for any text of the grammar.
  have hparse : ∀ {spec : Text} {terms : List Term}, Spells spec terms → ∃ filter',
      sg_filter_parse filter (some spec) error_size = (true, filter', none) ∧
        filter'.active = true ∧ filter'.selection = Term.selected terms := by
    intro spec terms hspells
    obtain ⟨filter', hok, hactive, hselection⟩ := parse_spec_terms hspells
    unfold sg_filter_parse
    rw [hok]
    exact ⟨filter', rfl, hactive, hselection⟩
  obtain ⟨terms, hspells⟩ := (sg_filter_parse_spec filter spec error_size).1.mp haccepted
  obtain ⟨filter', hresult, hactive, hselection⟩ := hparse hspells
  refine ⟨terms, hspells, ?_, ?_⟩
  · intro number hnumber
    rw [hresult, ← mem_selection, hselection]
    exact documented_iff hnumber
  · rw [← selected_perm_iff]
    constructor
    · intro h terms' hperm
      obtain ⟨filter'', hresult', -, hselection'⟩ := hparse (hspells.perm hperm)
      have hsame := h terms' hperm
      rw [hresult, hresult', Prod.mk.injEq, Prod.mk.injEq] at hsame
      rw [← hselection, ← hselection', hsame.2.1]
    · intro h terms' hperm
      obtain ⟨filter'', hresult', hactive', hselection'⟩ := hparse (hspells.perm hperm)
      have hsame : filter'' = filter' := by
        apply filter_ext (hactive'.trans hactive.symm)
        intro number
        rw [Bool.eq_iff_iff, ← mem_selection, ← mem_selection, hselection, hselection',
          h terms' hperm]
      rw [hresult, hresult', hsame]

/-- `read` is a call of the class of files. -/
theorem read_descriptor : ∃ descriptor ∈ syscalls, descriptor.name = cstr "read" ∧
    descriptor.number = 0 ∧
    descriptor.classes &&& ((1 : UInt32) <<< UInt32.ofNat 0) ≠ 0 := by
  decide +kernel

theorem filter_meaning_iff_read : ∃ terms, Spells (cstr "trace=read") terms ∧
    ∀ number ∈ Term.all_numbers,
      (sg_filter_contains (sg_filter_parse sg_filter_clear (some (cstr "trace=read")) 128).2.1
        number = true ↔ Documented terms number) ↔ ¬Readmitted terms number := by
  obtain ⟨read, hread, hname, -, -⟩ := read_descriptor
  have hspells : Spells (cstr "trace=read") [⟨false, .call read⟩] := by
    refine ⟨by simp, ?_, ?_⟩
    · intro term hterm
      rw [List.mem_singleton.mp hterm]
      refine ⟨hread, ?_⟩
      rw [Selector.call_text, hname]
      decide
    · simp only [spec_text, List.map_cons, List.map_nil, Term.text, Selector.call_text, hname,
        Bool.false_eq_true, if_false]
      decide
  obtain ⟨terms, hterms, hmeaning, -⟩ := filter_meaning_iff sg_filter_clear (cstr "trace=read") 128
    ((sg_filter_parse_spec _ _ _).1.mpr ⟨_, hspells⟩)
  exact ⟨terms, hterms, hmeaning⟩

/-- **A call is brought back**: `trace=!read,%file` selects `read`. -/
theorem read_brought_back : ¬∀ (filter : Filter) (spec : Text) (error_size : Nat),
    (sg_filter_parse filter (some spec) error_size).1 = true →
      ∀ terms, Spells spec terms → ∀ number ∈ Term.all_numbers,
        (sg_filter_contains (sg_filter_parse filter (some spec) error_size).2.1 number = true ↔
          Documented terms number) := by
  intro h
  obtain ⟨read, hread, hname, hnumber, hclass⟩ := read_descriptor
  have hspells : Spells (cstr "trace=!read,%file") [⟨true, .call read⟩, ⟨false, .class_bit 0⟩] := by
    refine ⟨by simp, ?_, ?_⟩
    · intro term hterm
      rcases List.mem_cons.mp hterm with rfl | hterm
      · refine ⟨hread, ?_⟩
        rw [Selector.call_text, hname]
        decide
      · rw [List.mem_singleton.mp hterm]
        exact ⟨(by decide : 0 < 6), by decide⟩
    · simp only [spec_text, List.map_cons, List.map_nil, Term.text, Selector.call_text, hname,
        Bool.false_eq_true, if_false, if_true]
      decide
  have hall : (0 : Int) ∈ Term.all_numbers := by decide
  obtain ⟨haccepts, -, hselects⟩ := sg_filter_parse_spec sg_filter_clear
    (cstr "trace=!read,%file") 128
  have hmeaning := h sg_filter_clear _ 128 (haccepts.mpr ⟨_, hspells⟩) _ hspells 0 hall
  obtain ⟨-, hselection⟩ := hselects _ hspells
  rw [← mem_selection, hselection] at hmeaning
  refine (documented_iff hall).mp hmeaning
    ⟨⟨_, List.mem_cons_self, rfl, ?_⟩, ⟨false, .class_bit 0⟩, ?_, rfl⟩
  · simp [Term.names, Selector.numbers, hnumber]
  · have hnames : (⟨false, .class_bit 0⟩ : Term).names 0 = true := by
      unfold Term.names
      rw [decide_eq_true_iff]
      exact List.mem_map.mpr ⟨read, List.mem_filter.mpr ⟨hread, by simpa using hclass⟩, hnumber⟩
    unfold last_naming
    rw [List.reverse_cons, List.reverse_singleton, List.singleton_append, List.find?_cons, hnames]

end Sysgaze
