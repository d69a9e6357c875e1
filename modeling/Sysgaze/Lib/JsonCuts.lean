import Sysgaze.Lib.Json

/-! # JSON texts that end too early

    `OpenDocument T n t` says that the text `t` ends inside a string of a JSON
    document, that the values begun in it are nested at most `n` deep, and that
    the part of the string after its last whole character is one of `T`.  The
    rest of the document may be anything.

    No such text is a document (`OpenDocument.not_document`).
-/

namespace Json

/-! ### How deep the values are nested -/

mutual

/-- How deep the values of a value are nested, itself included. -/
def Value.nesting : Value → Nat
  | .array items => nesting_items items + 1
  | .object members => nesting_members members + 1
  | _ => 1

/-- How deep the items are nested. -/
def nesting_items : List Value → Nat
  | [] => 0
  | v :: vs => max v.nesting (nesting_items vs)

/-- How deep the values of the members are nested. -/
def nesting_members : List (Bytes × Value) → Nat
  | [] => 0
  | (_, v) :: members => max v.nesting (nesting_members members)

end

theorem nesting_items_le {n : Nat} {vs : List Value} :
    nesting_items vs ≤ n ↔ ∀ v ∈ vs, v.nesting ≤ n := by
  induction vs with
  | nil => simp [nesting_items]
  | cons v vs ih => simp [nesting_items, ih]

theorem nesting_members_le {n : Nat} {members : List (Bytes × Value)} :
    nesting_members members ≤ n ↔ ∀ member ∈ members, member.2.nesting ≤ n := by
  induction members with
  | nil => simp [nesting_members]
  | cons member members ih => simp [nesting_members, ih]

/-! ### The grammar of the texts that end inside a string -/

/-- The inside of a string that is not closed: whole characters, and then a tail. -/
inductive OpenChars (T : Bytes → Prop) : Bytes → Prop
  | tail {t : Bytes} : T t → OpenChars T t
  | plain {byte : UInt8} {t : Bytes} : 32 ≤ byte → byte ≠ 34 → byte ≠ 92 →
      OpenChars T t → OpenChars T (byte :: t)
  | simple {letter byte : UInt8} {t : Bytes} : simple_escape letter = some byte →
      OpenChars T t → OpenChars T (92 :: letter :: t)
  | unicode {a b c d : UInt8} {code : Nat} {t : Bytes} : hex_code a b c d = some code →
      OpenChars T t → OpenChars T (92 :: 117 :: a :: b :: c :: d :: t)

/-- A string that is closed ends in its closing quote. -/
theorem Chars.to_open {bytes t r : Bytes} (h : Chars bytes t r) :
    OpenChars (fun tail => tail = 34 :: r) t := by
  induction h with
  | done => exact .tail rfl
  | plain hcontrol hquote hslash _ ih => exact .plain hcontrol hquote hslash ih
  | simple hescape _ ih => exact .simple hescape ih
  | unicode hcode _ ih => exact .unicode hcode ih

mutual

/-- The text ends inside a string of a value. -/
inductive OpenValue (T : Bytes → Prop) : Nat → Bytes → Prop
  | string {n : Nat} {t : Bytes} : OpenChars T t → OpenValue T (n + 1) (34 :: t)
  | array {n : Nat} {t : Bytes} : OpenItems T n (skip t) → OpenValue T (n + 1) (91 :: t)
  | object {n : Nat} {t : Bytes} : OpenMembers T n (skip t) → OpenValue T (n + 1) (123 :: t)

/-- The text ends inside a string of the items of an array. -/
inductive OpenItems (T : Bytes → Prop) : Nat → Bytes → Prop
  | here {n : Nat} {t : Bytes} : OpenValue T n t → OpenItems T n t
  | later {n : Nat} {v : Value} {t t' t'' : Bytes} : Reads v t t' → v.nesting ≤ n →
      skip t' = 44 :: t'' → OpenItems T n (skip t'') → OpenItems T n t

/-- The text ends inside a string of the members of an object. -/
inductive OpenMembers (T : Bytes → Prop) : Nat → Bytes → Prop
  | key {n : Nat} {t : Bytes} : OpenChars T t → OpenMembers T n (34 :: t)
  | here {n : Nat} {key t t₁ t₂ : Bytes} : Chars key t t₁ → skip t₁ = 58 :: t₂ →
      OpenValue T n (skip t₂) → OpenMembers T n (34 :: t)
  | later {n : Nat} {key : Bytes} {v : Value} {t t₁ t₂ t₃ t₄ : Bytes} : Chars key t t₁ →
      skip t₁ = 58 :: t₂ → Reads v (skip t₂) t₃ → v.nesting ≤ n → skip t₃ = 44 :: t₄ →
      OpenMembers T n (skip t₄) → OpenMembers T n (34 :: t)

end

/-- The text ends inside a string of a document. -/
def OpenDocument (T : Bytes → Prop) (n : Nat) (text : Bytes) : Prop := OpenValue T n (skip text)

/-- The string ends behind the backslash of an escape. -/
def BehindBackslash (tail : Bytes) : Prop := tail = [92]

/-- The string ends between two characters, or in an escape of four digits behind the `u`. -/
def BehindLetter (tail : Bytes) : Prop :=
  tail = [] ∨ ∃ digits : Bytes, digits.length < 4 ∧ (∀ digit ∈ digits, hex_value digit ≠ none) ∧
    tail = 92 :: 117 :: digits

/-- The string ends anywhere. -/
def InsideString (tail : Bytes) : Prop := BehindBackslash tail ∨ BehindLetter tail

theorem OpenValue.head {T : Bytes → Prop} {n : Nat} {t : Bytes} (h : OpenValue T n t) :
    ∃ byte rest, t = byte :: rest ∧ ¬Between byte := by
  cases h with
  | string _ => exact ⟨34, _, rfl, by unfold Between; decide⟩
  | array _ => exact ⟨91, _, rfl, by unfold Between; decide⟩
  | object _ => exact ⟨123, _, rfl, by unfold Between; decide⟩

theorem OpenItems.head {T : Bytes → Prop} {n : Nat} {t : Bytes} (h : OpenItems T n t) :
    ∃ byte rest, t = byte :: rest ∧ ¬Between byte := by
  cases h with
  | here hv => exact hv.head
  | later hv _ _ _ => exact hv.head

theorem OpenMembers.head {T : Bytes → Prop} {n : Nat} {t : Bytes} (h : OpenMembers T n t) :
    ∃ byte rest, t = byte :: rest ∧ ¬Between byte := by
  cases h with
  | key _ => exact ⟨34, _, rfl, by unfold Between; decide⟩
  | here _ _ _ => exact ⟨34, _, rfl, by unfold Between; decide⟩
  | later _ _ _ _ _ _ => exact ⟨34, _, rfl, by unfold Between; decide⟩

/-! ### No such text is a document -/

section unique
variable {v w : Value} {key t r r' : Bytes}

theorem Chars.unique {key' : Bytes} (h : Chars key t r) (h' : Chars key' t r') : r = r' := by
  have hsame := (parse_chars_of_chars h).symm.trans (parse_chars_of_chars h')
  exact (Prod.mk.inj (Option.some.inj hsame)).2

theorem Reads.unique (h : Reads v t r) (hr : Delimited r) (h' : Reads w t r')
    (hr' : Delimited r') : r = r' := by
  have hsame := (h.parse (2 * t.length) (by omega) hr).symm.trans
    (h'.parse (2 * t.length) (by omega) hr')
  exact (Prod.mk.inj (Option.some.inj hsame)).2

theorem next_unique {byte byte' : UInt8} {t₁ t₁' : Bytes} (h : Reads v t r)
    (hskip : skip r = byte :: t₁) (hbyte : is_number_byte byte = false) (h' : Reads w t r')
    (hskip' : skip r' = byte' :: t₁') (hbyte' : is_number_byte byte' = false) :
    byte = byte' ∧ t₁ = t₁' := by
  have hsame := h.unique (delimited_of_skip hskip hbyte) h' (delimited_of_skip hskip' hbyte')
  rw [← hsame, hskip] at hskip'
  exact List.cons.inj hskip'

end unique

section closed
variable {T : Bytes → Prop}

/-- A string that is closed is not open. -/
theorem Chars.not_open (hT : ∀ tail, T tail → ∀ bytes r, ¬Chars bytes tail r) {bytes t r : Bytes}
    (h : Chars bytes t r) : ¬OpenChars T t := by
  induction h with
  | done =>
    intro hopen
    cases hopen with
    | tail htail => exact hT _ htail _ _ .done
    | plain _ hquote _ _ => exact hquote rfl
  | plain hcontrol hquote hslash hchars ih =>
    intro hopen
    cases hopen with
    | tail htail => exact hT _ htail _ _ (.plain hcontrol hquote hslash hchars)
    | plain _ _ _ hlater => exact ih hlater
    | simple _ _ => exact hslash rfl
    | unicode _ _ => exact hslash rfl
  | simple hescape hchars ih =>
    intro hopen
    cases hopen with
    | tail htail => exact hT _ htail _ _ (.simple hescape hchars)
    | plain _ _ hslash _ => exact hslash rfl
    | simple _ hlater => exact ih hlater
    | unicode _ _ => simp [simple_escape] at hescape
  | unicode hcode hchars ih =>
    intro hopen
    cases hopen with
    | tail htail => exact hT _ htail _ _ (.unicode hcode hchars)
    | plain _ _ hslash _ => exact hslash rfl
    | simple hescape _ => simp [simple_escape] at hescape
    | unicode _ hlater => exact ih hlater

mutual

theorem Reads.not_open (hT : ∀ tail, T tail → ∀ bytes r, ¬Chars bytes tail r) {v : Value} {n : Nat}
    {t r : Bytes} : Reads v t r → ¬OpenValue T n t
  | .null => by
    intro hopen
    cases hopen
  | .true => by
    intro hopen
    cases hopen
  | .false => by
    intro hopen
    cases hopen
  | .number hnumber => by
    obtain ⟨hall, first, rest, rfl, -⟩ := is_number_bytes hnumber
    rw [List.all_cons, Bool.and_eq_true] at hall
    have hfirst := hall.1
    rw [List.cons_append]
    intro hopen
    cases hopen with
    | string _ => exact absurd hfirst (by decide)
    | array _ => exact absurd hfirst (by decide)
    | object _ => exact absurd hfirst (by decide)
  | .string hchars => by
    intro hopen
    cases hopen with
    | string hinside => exact hchars.not_open hT hinside
  | .empty_array hskip => by
    intro hopen
    cases hopen with
    | array hitems =>
      obtain ⟨byte, rest, heq, hbyte⟩ := hitems.head
      rw [hskip] at heq
      exact hbyte (Or.inr (Or.inl (List.cons.inj heq).1.symm))
  | .array hitems => by
    intro hopen
    cases hopen with
    | array hinside => exact hitems.not_open hT hinside
  | .empty_object hskip => by
    intro hopen
    cases hopen with
    | object hmembers =>
      obtain ⟨byte, rest, heq, hbyte⟩ := hmembers.head
      rw [hskip] at heq
      exact hbyte (Or.inr (Or.inr (List.cons.inj heq).1.symm))
  | .object hmembers => by
    intro hopen
    cases hopen with
    | object hinside => exact hmembers.not_open hT hinside

theorem Items.not_open (hT : ∀ tail, T tail → ∀ bytes r, ¬Chars bytes tail r) {vs : List Value}
    {n : Nat} {t r : Bytes} : Items vs t r → ¬OpenItems T n t
  | .last hv hskip => by
    intro hopen
    cases hopen with
    | here hvalue => exact hv.not_open hT hvalue
    | later hother _ hcomma _ =>
      have hnext := next_unique hv hskip (by decide) hother hcomma (by decide)
      exact absurd hnext.1 (by decide)
  | .more hv hskip hitems => by
    intro hopen
    cases hopen with
    | here hvalue => exact hv.not_open hT hvalue
    | later hother _ hcomma hlater =>
      have hnext := next_unique hv hskip (by decide) hother hcomma (by decide)
      rw [← hnext.2] at hlater
      exact hitems.not_open hT hlater

theorem Members.not_open (hT : ∀ tail, T tail → ∀ bytes r, ¬Chars bytes tail r)
    {members : List (Bytes × Value)} {n : Nat} {t r : Bytes} :
    Members members t r → ¬OpenMembers T n t
  | .last hkey hcolon hv hskip => by
    intro hopen
    cases hopen with
    | key hinside => exact hkey.not_open hT hinside
    | here hkey' hcolon' hvalue =>
      rw [← hkey.unique hkey', hcolon] at hcolon'
      rw [← (List.cons.inj hcolon').2] at hvalue
      exact hv.not_open hT hvalue
    | later hkey' hcolon' hother _ hcomma _ =>
      rw [← hkey.unique hkey', hcolon] at hcolon'
      rw [← (List.cons.inj hcolon').2] at hother
      have hnext := next_unique hv hskip (by decide) hother hcomma (by decide)
      exact absurd hnext.1 (by decide)
  | .more hkey hcolon hv hskip hmembers => by
    intro hopen
    cases hopen with
    | key hinside => exact hkey.not_open hT hinside
    | here hkey' hcolon' hvalue =>
      rw [← hkey.unique hkey', hcolon] at hcolon'
      rw [← (List.cons.inj hcolon').2] at hvalue
      exact hv.not_open hT hvalue
    | later hkey' hcolon' hother _ hcomma hlater =>
      rw [← hkey.unique hkey', hcolon] at hcolon'
      rw [← (List.cons.inj hcolon').2] at hother
      have hnext := next_unique hv hskip (by decide) hother hcomma (by decide)
      rw [← hnext.2] at hlater
      exact hmembers.not_open hT hlater

end

/-- A document does not end inside a string. -/
theorem OpenDocument.not_document {n : Nat} {text : Bytes}
    (h : OpenDocument InsideString n text) (v : Value) : ¬Document v text := by
  rintro ⟨r, hreads, -⟩
  refine hreads.not_open ?_ h
  rintro tail htail bytes r' hchars
  rcases htail with rfl | rfl | ⟨digits, hfew, -, rfl⟩
  · cases hchars with
    | plain _ _ hslash _ => exact hslash rfl
  · cases hchars
  · cases hchars with
    | plain _ _ hslash _ => exact hslash rfl
    | simple hescape _ => simp [simple_escape] at hescape
    | unicode _ _ =>
      simp only [List.length_cons] at hfew
      omega

end closed

/-! ### No cut object is a document -/

section prefixes
variable {v w : Value} {t r r' : Bytes}

theorem skip_append {byte : UInt8} {rest : Bytes} (h : skip t = byte :: rest) (more : Bytes) :
    skip (t ++ more) = byte :: (rest ++ more) := by
  unfold skip at h ⊢
  rw [List.dropWhile_append, h]
  rfl

theorem skip_append_head (h : ∃ byte rest, skip t = byte :: rest ∧ ¬Between byte) (more : Bytes) :
    skip (t ++ more) = skip t ++ more := by
  obtain ⟨byte, rest, hskip, -⟩ := h
  rw [skip_append hskip, hskip, List.cons_append]

theorem Chars.append {bytes : Bytes} (h : Chars bytes t r) (more : Bytes) :
    Chars bytes (t ++ more) (r ++ more) := by
  induction h with
  | done => exact .done
  | plain hcontrol hquote hslash _ ih => exact .plain hcontrol hquote hslash ih
  | simple hescape _ ih => exact .simple hescape ih
  | unicode hcode _ ih => exact .unicode hcode ih

-- Whatever stands behind a value, it is read from the same bytes.
mutual

theorem Reads.append (more : Bytes) {v : Value} {t r : Bytes} :
    Reads v t r → Reads v (t ++ more) (r ++ more)
  | .null => .null
  | .true => .true
  | .false => .false
  | .number hnumber => by
    rw [List.append_assoc]
    exact .number hnumber
  | .string hchars => .string (hchars.append more)
  | .empty_array hskip => .empty_array (skip_append hskip more)
  | .array hitems => by
    refine .array (t := _ ++ more) ?_
    rw [skip_append_head hitems.head]
    exact hitems.append more
  | .empty_object hskip => .empty_object (skip_append hskip more)
  | .object hmembers => by
    refine .object (t := _ ++ more) ?_
    rw [skip_append_head hmembers.head]
    exact hmembers.append more

theorem Items.append (more : Bytes) {vs : List Value} {t r : Bytes} :
    Items vs t r → Items vs (t ++ more) (r ++ more)
  | .last hv hskip => .last (hv.append more) (skip_append hskip more)
  | .more hv hskip hitems => by
    refine .more (hv.append more) (skip_append hskip more) ?_
    rw [skip_append_head hitems.head]
    exact hitems.append more

theorem Members.append (more : Bytes) {members : List (Bytes × Value)} {t r : Bytes} :
    Members members t r → Members members (t ++ more) (r ++ more)
  | .last hkey hcolon hv hskip => by
    refine .last (hkey.append more) (skip_append hcolon more) ?_ (skip_append hskip more)
    rw [skip_append_head hv.head]
    exact hv.append more
  | .more hkey hcolon hv hskip hmembers => by
    refine .more (hkey.append more) (skip_append hcolon more) ?_ (skip_append hskip more) ?_
    · rw [skip_append_head hv.head]
      exact hv.append more
    · rw [skip_append_head hmembers.head]
      exact hmembers.append more

end

/-- What begins with a brace and can be read is an object. -/
theorem Reads.members (h : Reads v (123 :: t) r) :
    skip t = 125 :: r ∨ ∃ members, Members members (skip t) r := by
  generalize htext : (123 :: t : Bytes) = text at h
  cases h with
  | number hnumber =>
    obtain ⟨-, first, rest, rfl, hfirst⟩ := is_number_bytes hnumber
    obtain rfl : 123 = first := (List.cons.inj htext).1
    exact absurd hfirst (by decide)
  | empty_object hskip =>
    obtain rfl := (List.cons.inj htext).2
    exact Or.inl hskip
  | object hmembers =>
    obtain rfl := (List.cons.inj htext).2
    exact Or.inr ⟨_, hmembers⟩
  | _ => simp at htext

/-- An object ends at its brace, whatever stands behind it. -/
theorem Reads.unique_object (h : Reads v (123 :: t) r) (h' : Reads w (123 :: t) r') : r = r' := by
  have hbrace : ∀ {members : List (Bytes × Value)} {end_ end' : Bytes},
      skip t = 125 :: end_ → ¬Members members (skip t) end' := by
    intro members end_ end' hskip hmembers
    obtain ⟨byte, rest, heq, hbyte⟩ := hmembers.head
    rw [hskip] at heq
    exact hbyte (Or.inr (Or.inr (List.cons.inj heq).1.symm))
  obtain hskip | ⟨members, hmembers⟩ := h.members
  · obtain hskip' | ⟨members', hmembers'⟩ := h'.members
    · rw [hskip] at hskip'
      exact (List.cons.inj hskip').2
    · exact absurd hmembers' (hbrace hskip)
  · obtain hskip' | ⟨members', hmembers'⟩ := h'.members
    · exact absurd hmembers (hbrace hskip')
    · have hsame := (hmembers.parse (2 * (skip t).length + 1) (by omega)).symm.trans
        (hmembers'.parse (2 * (skip t).length + 1) (by omega))
      exact (Prod.mk.inj (Option.some.inj hsame)).2

/-- **A cut object**: no document is the beginning of the spelling of an object and not all of it. -/
theorem Document.not_cut {members : List (Bytes × Value)} (hproper : (Value.object members).Proper)
    {rest : Bytes} (hcut : t ++ rest = (Value.object members).compact) (hrest : rest ≠ []) :
    ¬Document v t := by
  rintro ⟨r, hreads, hskip⟩
  obtain ⟨t', rfl⟩ : ∃ t', t = 123 :: t' := by
    cases t with
    | nil =>
      obtain ⟨byte, rest', heq, -⟩ := hreads.head
      simp [skip] at heq
    | cons byte t' =>
      have hbrace := (List.cons.inj (show byte :: (t' ++ rest) = 123 :: _ from hcut)).1
      exact ⟨t', by rw [hbrace]⟩
  have hwhole := (Value.object members).reads_compact hproper delimited_nil
  rw [List.append_nil, ← hcut] at hwhole
  have hbegun := hreads.append rest
  have hend : r ++ rest = [] := hbegun.unique_object hwhole
  exact hrest (List.append_eq_nil_iff.mp hend).2

end prefixes

end Json
