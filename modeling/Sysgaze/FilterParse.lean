import Sysgaze.Catalog

/-! # The filter of the command line (`filter.c`, `syscall_catalog.c`)

    `-e trace=EXPR` gives a filter: terms with commas between them, each the
    name of a system call or `%` and the name of a class, with `!` in front to
    take out instead of adding.  A C string is the list of its bytes before
    the terminating zero, and a pointer into it is what is left from there on.
-/

namespace Sysgaze

/-! ### The source -/

/-- `set_error`: what is written to a buffer of `error_size` bytes, if anything. -/
def set_error (error_size : Nat) (text : Text) : Option Text :=
  if error_size = 0 then none else some (text.take (error_size - 1))

/-- `strchr`, for a byte that is not zero. -/
def strchr : Text → UInt8 → Option Text
  | [], _ => none
  | first :: rest, byte => if first = byte then some (first :: rest) else strchr rest byte

/-- `sg_syscall_class_name`. -/
def sg_syscall_class_name (class_bit : Nat) : Option Text :=
  [cstr "file", cstr "process", cstr "memory", cstr "network", cstr "signal", cstr "ipc"][class_bit]?

/-- `sg_syscall_class_by_name`: the class mask. -/
def sg_syscall_class_by_name (name : Text) : Option UInt32 :=
  ((List.range 6).find? fun bit => sg_syscall_class_name bit == some name).map fun bit =>
    (1 : UInt32) <<< UInt32.ofNat bit

/-- `apply_class`. -/
def apply_class (filter : Filter) (class_mask : UInt32) (enabled : Bool) : Filter :=
  syscalls.foldl (fun filter descriptor =>
    if descriptor.classes &&& class_mask ≠ 0 then set_number filter descriptor.number enabled
    else filter) filter

theorem strchr_length {text rest : Text} {byte : UInt8} (h : strchr text byte = some rest) :
    0 < rest.length ∧ rest.length ≤ text.length := by
  induction text with
  | nil => simp [strchr] at h
  | cons first text ih =>
    unfold strchr at h
    split at h
    · rw [← Option.some.inj h]
      simp
    · obtain ⟨hpos, hle⟩ := ih h
      exact ⟨hpos, hle.trans (by simp)⟩

/-- `has_positive_term`. -/
def has_positive_term (cursor : Text) : Bool :=
  match cursor with
  | [] => false
  | first :: rest =>
    if first ≠ 33 ∧ first ≠ 44 then true
    else
      match _h : strchr (first :: rest) 44 with
      | none => false
      | some comma => has_positive_term comma.tail
termination_by cursor.length
decreasing_by
  obtain ⟨hpos, hle⟩ := strchr_length _h
  rw [List.length_tail]
  omega

/-- The texts of the errors of `sg_filter_parse`. -/
inductive FilterError where
  | missing
  | wrong_start
  | empty_expression
  | empty_term
  | long_term
  | unknown_class (name : Text)
  | unknown_syscall (name : Text)
  deriving DecidableEq, Repr

@[inherit_doc FilterError]
def FilterError.text : FilterError → Text
  | missing => cstr "filter specification is missing"
  | wrong_start => cstr "filter must start with 'trace='"
  | empty_expression => cstr "filter expression is empty"
  | empty_term => cstr "filter contains an empty term"
  | long_term => cstr "filter term is too long"
  | unknown_class name => cstr "unknown syscall class '" ++ name ++ cstr "'"
  | unknown_syscall name => cstr "unknown syscall '" ++ name ++ cstr "'"

/-- `sizeof(name)` in `sg_filter_parse`. -/
abbrev sizeof_name : Nat := 128

/-- The body of the loop of `sg_filter_parse` up to the comma: `term` and `term_end` point
    into the text, and `name` is what is between them. -/
def apply_term (candidate : Filter) (term term_end : Text) : Except FilterError Filter :=
  let (enabled, term) := if term.head? = some 33 then (false, term.tail) else (true, term)
  let term_length := term.length - term_end.length
  if term_length = 0 then .error .empty_term
  else if term_length ≥ sizeof_name then .error .long_term
  else
    let name := term.take term_length
    if name.head? = some 37 then
      match sg_syscall_class_by_name name.tail with
      | none => .error (.unknown_class name)
      | some class_mask => .ok (apply_class candidate class_mask enabled)
    else
      match sg_syscall_by_name name with
      | none => .error (.unknown_syscall name)
      | some descriptor => .ok (set_number candidate descriptor.number enabled)

/-- The loop of `sg_filter_parse`. -/
def parse_terms (candidate : Filter) (cursor : Text) : Except FilterError Filter :=
  match cursor with
  | [] => .ok candidate
  | first :: rest =>
    match _h : strchr (first :: rest) 44 with
    | none => apply_term candidate (first :: rest) []
    | some comma =>
      match apply_term candidate (first :: rest) comma with
      | .error error => .error error
      | .ok candidate =>
        if comma.tail = [] then .error .empty_term else parse_terms candidate comma.tail
termination_by cursor.length
decreasing_by
  obtain ⟨hpos, hle⟩ := strchr_length _h
  rw [List.length_tail]
  omega

/-- What `sg_filter_parse` makes of the specification, which is `none` for `NULL`. -/
def parse_spec (spec : Option Text) : Except FilterError Filter :=
  match spec with
  | none => .error .missing
  | some spec =>
    if spec.take 6 ≠ cstr "trace=" then .error .wrong_start
    else
      let expression := spec.drop 6
      if expression = [] then .error .empty_expression
      else
        let candidate :=
          if has_positive_term expression then { sg_filter_clear with active := true }
          else sg_filter_fill
        parse_terms candidate expression

/-- `sg_filter_parse`: the result, the filter, and what is written to the error buffer. -/
def sg_filter_parse (filter : Filter) (spec : Option Text) (error_size : Nat) :
    Bool × Filter × Option Text :=
  match parse_spec spec with
  | .error error => (false, filter, set_error error_size error.text)
  | .ok candidate => (true, candidate, none)

/-! ### The scan is a split at the commas -/

theorem strchr_none {text : Text} {byte : UInt8} (h : strchr text byte = none) : byte ∉ text := by
  induction text with
  | nil => simp
  | cons first text ih =>
    unfold strchr at h
    split at h
    · simp at h
    · rename_i hne
      rw [List.mem_cons, not_or]
      exact ⟨fun heq => hne heq.symm, ih h⟩

theorem strchr_some {text rest : Text} {byte : UInt8} (h : strchr text byte = some rest) :
    ∃ piece, byte ∉ piece ∧ rest = byte :: rest.tail ∧ text = piece ++ rest := by
  induction text with
  | nil => simp [strchr] at h
  | cons first text ih =>
    unfold strchr at h
    split at h
    · rename_i heq
      rw [← Option.some.inj h, heq]
      exact ⟨[], by simp, rfl, rfl⟩
    · rename_i hne
      obtain ⟨piece, hpiece, hrest, htext⟩ := ih h
      refine ⟨first :: piece, ?_, hrest, by rw [htext]; rfl⟩
      rw [List.mem_cons, not_or]
      exact ⟨fun heq => hne heq.symm, hpiece⟩

/-- What a term does, by its text alone. -/
def apply_text (candidate : Filter) (text : Text) : Except FilterError Filter :=
  apply_term candidate text []

/-- The text behind a term does not matter. -/
theorem apply_term_append (candidate : Filter) {piece rest : Text} (h : rest.head? ≠ some 33) :
    apply_term candidate (piece ++ rest) rest = apply_text candidate piece := by
  have hlength : ∀ term : Text, (term ++ rest).length - rest.length = term.length := by
    intro term
    rw [List.length_append]
    omega
  unfold apply_text apply_term
  cases piece with
  | nil =>
    rw [List.nil_append, if_neg h]
    simp
  | cons first piece =>
    by_cases hfirst : first = 33
    · have hhead : (first :: piece).head? = some 33 := by rw [hfirst]; rfl
      have hhead' : (first :: piece ++ rest).head? = some 33 := hhead
      rw [if_pos hhead, if_pos hhead']
      dsimp only [List.cons_append, List.tail_cons]
      rw [hlength, List.take_left, List.length_nil, Nat.sub_zero, List.take_length]
    · have hhead : (first :: piece).head? ≠ some 33 := by simpa using hfirst
      have hhead' : (first :: piece ++ rest).head? ≠ some 33 := hhead
      rw [if_neg hhead, if_neg hhead']
      dsimp only
      rw [hlength, List.take_left, List.length_nil, Nat.sub_zero, List.take_length]

theorem splitOn_none {text : Text} {byte : UInt8} (h : byte ∉ text) : text.splitOn byte = [text] := by
  rw [List.splitOn_eq_splitOnP]
  apply List.splitOnP_eq_singleton
  intro other hother
  rw [beq_eq_false_iff_ne]
  rintro rfl
  exact h hother

theorem splitOn_first {piece rest : Text} {byte : UInt8} (h : byte ∉ piece) :
    (piece ++ byte :: rest).splitOn byte = piece :: rest.splitOn byte := by
  rw [List.splitOn_eq_splitOnP, List.splitOn_eq_splitOnP]
  apply List.splitOnP_append_cons_of_forall_mem
  · intro other hother
    rw [beq_eq_false_iff_ne]
    rintro rfl
    exact h hother
  · exact beq_self_eq_true _

/-- What is left behind a comma. -/
theorem splitOn_comma {text comma : Text} (h : strchr text 44 = some comma) :
    ∃ piece, 44 ∉ piece ∧ text = piece ++ comma ∧ comma.head? ≠ some 33 ∧
      text.splitOn 44 = piece :: comma.tail.splitOn 44 := by
  obtain ⟨piece, hpiece, hcomma, htext⟩ := strchr_some h
  refine ⟨piece, hpiece, htext, by rw [hcomma]; simp, ?_⟩
  rw [htext, hcomma]
  exact splitOn_first hpiece

/-- **The loop** treats the terms between the commas from left to right. -/
theorem parse_terms_eq (candidate : Filter) (cursor : Text) (h : cursor ≠ []) :
    parse_terms candidate cursor = (cursor.splitOn 44).foldlM apply_text candidate := by
  induction candidate, cursor using parse_terms.induct with
  | case1 candidate => exact absurd rfl h
  | case2 candidate first rest hcomma =>
    rw [parse_terms, hcomma]
    dsimp only
    rw [splitOn_none (strchr_none hcomma)]
    exact (bind_pure _).symm
  | case3 candidate first rest comma hcomma error happly =>
    obtain ⟨piece, _, htext, hbang, hsplit⟩ := splitOn_comma hcomma
    rw [parse_terms, hcomma, hsplit, List.foldlM_cons]
    dsimp only
    rw [happly]
    rw [htext, apply_term_append _ hbang] at happly
    rw [happly]
    rfl
  | case4 candidate first rest comma hcomma next happly hempty =>
    -- Nothing follows the last comma, which is an empty term for the fold.
    obtain ⟨piece, _, htext, hbang, hsplit⟩ := splitOn_comma hcomma
    rw [parse_terms, hcomma, hsplit, List.foldlM_cons]
    dsimp only
    rw [happly]
    rw [htext, apply_term_append _ hbang] at happly
    rw [happly, hempty]
    rfl
  | case5 candidate first rest comma hcomma next happly hmore ih =>
    obtain ⟨piece, _, htext, hbang, hsplit⟩ := splitOn_comma hcomma
    rw [parse_terms, hcomma, hsplit, List.foldlM_cons]
    dsimp only
    rw [happly]
    rw [htext, apply_term_append _ hbang] at happly
    rw [happly]
    dsimp only
    rw [if_neg hmore, ih hmore]
    rfl

/-- A term without `!` in front. -/
def is_positive (text : Text) : Bool := text ≠ [] ∧ text.head? ≠ some 33

theorem is_positive_cons (first : UInt8) (rest : Text) :
    is_positive (first :: rest) = decide (first ≠ 33) := by
  simp [is_positive]

/-- The separate scan sees the same terms. -/
theorem has_positive_term_eq (cursor : Text) :
    has_positive_term cursor = (cursor.splitOn 44).any is_positive := by
  induction cursor using has_positive_term.induct with
  | case1 =>
    rw [has_positive_term]
    rfl
  | case2 first rest hfirst =>
    obtain ⟨piece, pieces, hpieces⟩ := List.exists_cons_of_ne_nil (List.splitOn_ne_nil 44 rest)
    have hcomma : ¬(first == 44) = true := by simpa using hfirst.2
    rw [has_positive_term, if_pos hfirst, List.splitOn_cons_eq_if_modifyHead, if_neg hcomma,
      hpieces, List.modifyHead_cons, List.any_cons, is_positive_cons, decide_eq_true hfirst.1,
      Bool.true_or]
  | case3 first rest hfirst hcomma =>
    have hbang : first = 33 := by
      by_contra hbang
      have hfirst' : first = 44 := by
        by_contra hne
        exact hfirst ⟨hbang, hne⟩
      rw [hfirst', strchr, if_pos rfl] at hcomma
      simp at hcomma
    rw [has_positive_term, if_neg hfirst, hcomma, splitOn_none (strchr_none hcomma), hbang]
    rfl
  | case4 first rest hfirst comma hcomma ih =>
    obtain ⟨piece, hpiece, htext, hbang, hsplit⟩ := splitOn_comma hcomma
    rw [has_positive_term, if_neg hfirst, hcomma, hsplit, List.any_cons]
    dsimp only
    -- The piece is empty or starts with `!`.
    have hnot : is_positive piece = false := by
      cases piece with
      | nil => rfl
      | cons first' piece =>
        have hsame : first = first' := (List.cons.inj htext).1
        have hcomma' : first ≠ 44 := by
          rintro rfl
          exact hpiece (by simp [← hsame])
        rw [is_positive_cons, ← hsame]
        simpa [hcomma'] using hfirst
    rw [hnot, Bool.false_or, ih]

end Sysgaze
