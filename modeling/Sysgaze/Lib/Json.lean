import Mathlib.Data.List.TakeWhile
import Sysgaze.Lib.Numerals

/-! # JSON as bytes

    The grammar of JSON over bytes, where a string may hold any bytes from 128
    on.  `Reads v t r` says that the bytes `t` begin with a spelling of the
    value `v` and that `r` is left behind it.

    `parse` reads a document, and reads whatever the grammar spells
    (`parse_of_document`), so that no text is a spelling of two values.
    `compact` writes a value with no blanks and the shortest escapes; it is a
    spelling (`document_compact`), and without control bytes.
-/

namespace Json

open Numerals

abbrev Bytes := List UInt8

/-- A value; a number is kept as it is written. -/
inductive Value where
  | null
  | bool (b : Bool)
  | number (numeral : Bytes)
  | string (bytes : Bytes)
  | array (items : List Value)
  | object (members : List (Bytes × Value))

/-! ### Tokens -/

/-- Is the byte a blank? -/
def is_space (byte : UInt8) : Bool := byte == 32 || byte == 9 || byte == 10 || byte == 13

/-- What comes after the blanks. -/
def skip (text : Bytes) : Bytes := text.dropWhile is_space

/-- An exponent, or nothing. -/
def is_exponent : Bytes → Bool
  | [] => true
  | byte :: rest =>
    (byte == 101 || byte == 69) &&
      match rest with
      | [] => false
      | sign :: digits =>
        if sign == 43 || sign == 45 then !digits.isEmpty && digits.all is_digit
        else rest.all is_digit

/-- A fraction or nothing, and then an exponent or nothing. -/
def is_fraction : Bytes → Bool
  | 46 :: first :: rest => is_digit first && is_exponent (rest.dropWhile is_digit)
  | text => is_exponent text

/-- A number without its sign: no digit follows a leading zero. -/
def is_unsigned : Bytes → Bool
  | [] => false
  | first :: rest =>
    if first == 48 then is_fraction rest
    else is_digit first && is_fraction (rest.dropWhile is_digit)

/-- Is the text a number? -/
def is_number : Bytes → Bool
  | 45 :: text => is_unsigned text
  | text => is_unsigned text

/-- A byte that may stand in a number. -/
def is_number_byte (byte : UInt8) : Bool :=
  is_digit byte || byte == 43 || byte == 45 || byte == 46 || byte == 69 || byte == 101

/-- The byte for which an escape of one letter stands. -/
def simple_escape (letter : UInt8) : Option UInt8 :=
  if letter = 34 then some 34
  else if letter = 92 then some 92
  else if letter = 47 then some 47
  else if letter = 98 then some 8
  else if letter = 102 then some 12
  else if letter = 110 then some 10
  else if letter = 114 then some 13
  else if letter = 116 then some 9
  else none

/-- The number of a hexadecimal digit. -/
def hex_value (byte : UInt8) : Option Nat :=
  if 48 ≤ byte ∧ byte ≤ 57 then some (byte.toNat - 48)
  else if 97 ≤ byte ∧ byte ≤ 102 then some (byte.toNat - 87)
  else if 65 ≤ byte ∧ byte ≤ 70 then some (byte.toNat - 55)
  else none

/-- The code of four hexadecimal digits. -/
def hex_code (a b c d : UInt8) : Option Nat := do
  let a ← hex_value a
  let b ← hex_value b
  let c ← hex_value c
  let d ← hex_value d
  pure (((a * 16 + b) * 16 + c) * 16 + d)

/-- The bytes of a code of 16 bits. -/
def utf8 (code : Nat) : Bytes :=
  if code < 128 then [UInt8.ofNat code]
  else if code < 2048 then [UInt8.ofNat (192 + code / 64), UInt8.ofNat (128 + code % 64)]
  else [UInt8.ofNat (224 + code / 4096), UInt8.ofNat (128 + code / 64 % 64),
    UInt8.ofNat (128 + code % 64)]

/-! ### The grammar -/

/-- The text begins with the inside of a string, the closing quote included. -/
inductive Chars : Bytes → Bytes → Bytes → Prop
  | done {r : Bytes} : Chars [] (34 :: r) r
  | plain {byte : UInt8} {bytes t r : Bytes} : 32 ≤ byte → byte ≠ 34 → byte ≠ 92 →
      Chars bytes t r → Chars (byte :: bytes) (byte :: t) r
  | simple {letter byte : UInt8} {bytes t r : Bytes} : simple_escape letter = some byte →
      Chars bytes t r → Chars (byte :: bytes) (92 :: letter :: t) r
  | unicode {a b c d : UInt8} {code : Nat} {bytes t r : Bytes} : hex_code a b c d = some code →
      Chars bytes t r → Chars (utf8 code ++ bytes) (92 :: 117 :: a :: b :: c :: d :: t) r

mutual

/-- The text begins with the value. -/
inductive Reads : Value → Bytes → Bytes → Prop
  | null {r : Bytes} : Reads .null (110 :: 117 :: 108 :: 108 :: r) r
  | true {r : Bytes} : Reads (.bool true) (116 :: 114 :: 117 :: 101 :: r) r
  | false {r : Bytes} : Reads (.bool false) (102 :: 97 :: 108 :: 115 :: 101 :: r) r
  | number {numeral r : Bytes} : is_number numeral = true → Reads (.number numeral) (numeral ++ r) r
  | string {bytes t r : Bytes} : Chars bytes t r → Reads (.string bytes) (34 :: t) r
  | empty_array {t r : Bytes} : skip t = 93 :: r → Reads (.array []) (91 :: t) r
  | array {items : List Value} {t r : Bytes} : Items items (skip t) r →
      Reads (.array items) (91 :: t) r
  | empty_object {t r : Bytes} : skip t = 125 :: r → Reads (.object []) (123 :: t) r
  | object {members : List (Bytes × Value)} {t r : Bytes} : Members members (skip t) r →
      Reads (.object members) (123 :: t) r

/-- The text begins with the items of an array, the closing bracket included. -/
inductive Items : List Value → Bytes → Bytes → Prop
  | last {v : Value} {t t' r : Bytes} : Reads v t t' → skip t' = 93 :: r → Items [v] t r
  | more {v : Value} {vs : List Value} {t t' t'' r : Bytes} : Reads v t t' →
      skip t' = 44 :: t'' → Items vs (skip t'') r → Items (v :: vs) t r

/-- The text begins with the members of an object, the closing brace included. -/
inductive Members : List (Bytes × Value) → Bytes → Bytes → Prop
  | last {key : Bytes} {v : Value} {t t₁ t₂ t₃ r : Bytes} : Chars key t t₁ →
      skip t₁ = 58 :: t₂ → Reads v (skip t₂) t₃ → skip t₃ = 125 :: r →
      Members [(key, v)] (34 :: t) r
  | more {key : Bytes} {v : Value} {members : List (Bytes × Value)} {t t₁ t₂ t₃ t₄ r : Bytes} :
      Chars key t t₁ → skip t₁ = 58 :: t₂ → Reads v (skip t₂) t₃ → skip t₃ = 44 :: t₄ →
      Members members (skip t₄) r → Members ((key, v) :: members) (34 :: t) r

end

/-- The whole text is a spelling of the value. -/
def Document (v : Value) (text : Bytes) : Prop := ∃ r, Reads v (skip text) r ∧ skip r = []

/-! ### The parser -/

/-- The inside of a string, and what is left behind the closing quote. -/
def parse_chars : Bytes → Option (Bytes × Bytes)
  | [] => none
  | byte :: t =>
    if byte = 34 then some ([], t)
    else if byte = 92 then
      match t with
      | [] => none
      | letter :: t =>
        if letter = 117 then
          match t with
          | a :: b :: c :: d :: t => do
            let code ← hex_code a b c d
            let (bytes, r) ← parse_chars t
            pure (utf8 code ++ bytes, r)
          | _ => none
        else do
          let byte ← simple_escape letter
          let (bytes, r) ← parse_chars t
          pure (byte :: bytes, r)
    else if byte < 32 then none
    else do
      let (bytes, r) ← parse_chars t
      pure (byte :: bytes, r)

/-- What is left behind the byte. -/
def expect (byte : UInt8) : Bytes → Option Bytes
  | [] => none
  | first :: rest => if first = byte then some rest else none

/-- A literal or a number. -/
def parse_word (t : Bytes) : Option (Value × Bytes) :=
  match t with
  | 110 :: 117 :: 108 :: 108 :: r => some (.null, r)
  | 116 :: 114 :: 117 :: 101 :: r => some (.bool true, r)
  | 102 :: 97 :: 108 :: 115 :: 101 :: r => some (.bool false, r)
  | _ =>
    let numeral := t.takeWhile is_number_byte
    if is_number numeral then some (.number numeral, t.dropWhile is_number_byte) else none

mutual

/-- A value, and what is left behind it. -/
def parse_value : Nat → Bytes → Option (Value × Bytes)
  | 0, _ => none
  | n + 1, t =>
    match expect 34 t with
    | some t => do
      let (bytes, r) ← parse_chars t
      pure (.string bytes, r)
    | none =>
      match expect 91 t with
      | some t =>
        match expect 93 (skip t) with
        | some r => some (.array [], r)
        | none => do
          let (items, r) ← parse_items n (skip t)
          pure (.array items, r)
      | none =>
        match expect 123 t with
        | some t =>
          match expect 125 (skip t) with
          | some r => some (.object [], r)
          | none => do
            let (members, r) ← parse_members n (skip t)
            pure (.object members, r)
        | none => parse_word t

/-- The items of an array, and what is left behind the bracket. -/
def parse_items : Nat → Bytes → Option (List Value × Bytes)
  | 0, _ => none
  | n + 1, t => do
    let (v, t) ← parse_value n t
    match expect 93 (skip t) with
    | some r => some ([v], r)
    | none => do
      let t ← expect 44 (skip t)
      let (vs, r) ← parse_items n (skip t)
      pure (v :: vs, r)

/-- The members of an object, and what is left behind the brace. -/
def parse_members : Nat → Bytes → Option (List (Bytes × Value) × Bytes)
  | 0, _ => none
  | n + 1, t => do
    let t ← expect 34 t
    let (key, t) ← parse_chars t
    let t ← expect 58 (skip t)
    let (v, t) ← parse_value n (skip t)
    match expect 125 (skip t) with
    | some r => some ([(key, v)], r)
    | none => do
      let t ← expect 44 (skip t)
      let (members, r) ← parse_members n (skip t)
      pure ((key, v) :: members, r)

end

/-- The value that the text spells. -/
def parse (text : Bytes) : Option Value :=
  match parse_value (2 * text.length + 2) (skip text) with
  | none => none
  | some (v, r) => if skip r = [] then some v else none

/-! ### The parser reads what the grammar spells -/

section tokens
variable {byte : UInt8} {text t r : Bytes}

theorem is_digit_bounds (h : is_digit byte = true) : 48 ≤ byte.toNat ∧ byte.toNat ≤ 57 := by
  unfold is_digit at h
  simp only [Bool.and_eq_true, decide_eq_true_eq, UInt8.le_iff_toNat_le] at h
  exact h

theorem is_number_byte_of_digit (h : is_digit byte = true) : is_number_byte byte = true := by
  unfold is_number_byte
  rw [h]
  rfl

theorem all_of_dropWhile (hdigits : (t.dropWhile is_digit).all is_number_byte = true) :
    t.all is_number_byte = true := by
  induction t with
  | nil => rfl
  | cons byte t ih =>
    rw [List.all_cons]
    by_cases hdigit : is_digit byte = true
    · rw [List.dropWhile_cons_of_pos hdigit] at hdigits
      rw [is_number_byte_of_digit hdigit, ih hdigits]
      rfl
    · rw [List.dropWhile_cons_of_neg hdigit, List.all_cons] at hdigits
      exact hdigits

theorem all_of_digits (hdigits : t.all is_digit = true) : t.all is_number_byte = true := by
  rw [List.all_eq_true] at *
  exact fun byte hbyte => is_number_byte_of_digit (hdigits byte hbyte)

theorem is_exponent_bytes (h : is_exponent text = true) : text.all is_number_byte = true := by
  unfold is_exponent at h
  split at h
  · rfl
  · rename_i byte rest
    rw [Bool.and_eq_true, Bool.or_eq_true, beq_iff_eq, beq_iff_eq] at h
    obtain ⟨hletter, hrest⟩ := h
    have hbyte : is_number_byte byte = true := by
      obtain rfl | rfl := hletter
      · decide
      · decide
    rw [List.all_cons, hbyte, Bool.true_and]
    split at hrest
    · simp at hrest
    · rename_i sign digits
      split at hrest
      · rename_i hsign
        rw [Bool.and_eq_true] at hrest
        rw [List.all_cons, all_of_digits hrest.2, Bool.and_true]
        rw [Bool.or_eq_true, beq_iff_eq, beq_iff_eq] at hsign
        obtain rfl | rfl := hsign
        · decide
        · decide
      · exact all_of_digits hrest

theorem is_fraction_bytes (h : is_fraction text = true) : text.all is_number_byte = true := by
  unfold is_fraction at h
  split at h
  · rename_i first rest
    rw [Bool.and_eq_true] at h
    have hrest := all_of_dropWhile (is_exponent_bytes h.2)
    rw [List.all_cons, List.all_cons, is_number_byte_of_digit h.1, hrest]
    decide
  · exact is_exponent_bytes h

theorem is_unsigned_bytes (h : is_unsigned text = true) :
    text.all is_number_byte = true ∧ ∃ first rest, text = first :: rest ∧ is_digit first = true := by
  unfold is_unsigned at h
  split at h
  · simp at h
  · rename_i first rest
    split at h
    · rename_i hzero
      rw [beq_iff_eq] at hzero
      subst hzero
      rw [List.all_cons, is_fraction_bytes h]
      exact ⟨by decide, 48, rest, rfl, by decide⟩
    · rw [Bool.and_eq_true] at h
      rw [List.all_cons, is_number_byte_of_digit h.1, all_of_dropWhile (is_fraction_bytes h.2)]
      exact ⟨rfl, first, rest, rfl, h.1⟩

/-- A number consists of its own bytes and begins with a digit or a sign. -/
theorem is_number_bytes (h : is_number text = true) : text.all is_number_byte = true ∧
    ∃ first rest, text = first :: rest ∧ (is_digit first = true ∨ first = 45) := by
  unfold is_number at h
  split at h
  · obtain ⟨hall, -⟩ := is_unsigned_bytes h
    rw [List.all_cons, hall]
    exact ⟨by decide, 45, _, rfl, Or.inr rfl⟩
  · obtain ⟨hall, first, rest, htext, hfirst⟩ := is_unsigned_bytes h
    exact ⟨hall, first, rest, htext, Or.inl hfirst⟩

/-- No byte of a number comes next. -/
def Delimited (r : Bytes) : Prop := ∀ byte rest, r = byte :: rest → is_number_byte byte = false

theorem delimited_nil : Delimited [] := by
  intro byte rest h
  simp at h

theorem delimited_cons {rest : Bytes} (h : is_number_byte byte = false) :
    Delimited (byte :: rest) := by
  intro byte' rest' heq
  rw [← (List.cons.inj heq).1]
  exact h

theorem is_number_byte_of_space (h : is_space byte = true) : is_number_byte byte = false := by
  unfold is_space at h
  simp only [Bool.or_eq_true, beq_iff_eq] at h
  obtain ((rfl | rfl) | rfl) | rfl := h
  · decide
  · decide
  · decide
  · decide

/-- Blanks and then a byte of another kind delimit a number. -/
theorem delimited_of_skip (h : skip t = byte :: r) (hbyte : is_number_byte byte = false) :
    Delimited t := by
  intro first rest ht
  subst ht
  by_cases hspace : is_space first = true
  · exact is_number_byte_of_space hspace
  · unfold skip at h
    rw [List.dropWhile_cons_of_neg hspace] at h
    rw [(List.cons.inj h).1]
    exact hbyte

theorem delimited_of_blanks (h : skip t = []) : Delimited t := by
  intro first rest ht
  subst ht
  apply is_number_byte_of_space
  by_contra hspace
  unfold skip at h
  rw [List.dropWhile_cons_of_neg hspace] at h
  simp at h

theorem skip_length_le : (skip t).length ≤ t.length := by
  unfold skip
  exact (List.dropWhile_sublist _).length_le

theorem length_of_skip (h : skip t = byte :: r) : r.length < t.length := by
  have hle := skip_length_le (t := t)
  rw [h, List.length_cons] at hle
  omega

theorem Chars.length_lt {bytes : Bytes} (h : Chars bytes t r) : r.length < t.length := by
  induction h with
  | done => simp
  | plain _ _ _ _ ih =>
    rw [List.length_cons]
    omega
  | simple _ _ ih =>
    simp only [List.length_cons]
    omega
  | unicode _ _ ih =>
    simp only [List.length_cons]
    omega

theorem parse_chars_of_chars {bytes : Bytes} (h : Chars bytes t r) :
    parse_chars t = some (bytes, r) := by
  induction h with
  | done =>
    rw [parse_chars.eq_def]
    exact if_pos rfl
  | plain hcontrol hquote hslash _ ih =>
    rw [parse_chars.eq_def]
    dsimp only
    rw [if_neg hquote, if_neg hslash, if_neg (by
      rw [UInt8.not_lt]
      exact hcontrol), ih]
    rfl
  | @simple letter byte bytes t r hescape _ ih =>
    have hletter : letter ≠ 117 := by
      rintro rfl
      simp [simple_escape] at hescape
    rw [parse_chars.eq_def]
    simp only [show ¬((92 : UInt8) = 34) by decide, if_true, if_false, hletter, hescape, ih]
    rfl
  | unicode hcode _ ih =>
    rw [parse_chars.eq_def]
    simp only [show ¬((92 : UInt8) = 34) by decide, if_true, if_false, hcode, ih]
    rfl

@[simp] theorem expect_self : expect byte (byte :: r) = some r := if_pos rfl

theorem expect_ne {other : UInt8} (h : other ≠ byte) : expect byte (other :: r) = none := if_neg h

end tokens

/-- A byte with which no value begins: a blank, a closing bracket or a closing brace. -/
def Between (byte : UInt8) : Prop := is_space byte = true ∨ byte = 93 ∨ byte = 125

section complete
variable {v : Value} {t r : Bytes}

/-- **A value** begins with its own byte. -/
theorem Reads.head (h : Reads v t r) : ∃ byte rest, t = byte :: rest ∧ ¬Between byte := by
  cases h with
  | null => exact ⟨_, _, rfl, by unfold Between; decide⟩
  | true => exact ⟨_, _, rfl, by unfold Between; decide⟩
  | false => exact ⟨_, _, rfl, by unfold Between; decide⟩
  | number hnumber =>
    obtain ⟨-, first, rest, rfl, hfirst⟩ := is_number_bytes hnumber
    refine ⟨first, rest ++ r, rfl, ?_⟩
    unfold Between is_space
    obtain hdigit | rfl := hfirst
    · obtain ⟨hlow, hhigh⟩ := is_digit_bounds hdigit
      simp only [Bool.or_eq_true, beq_iff_eq, ← UInt8.toNat_inj, UInt8.reduceToNat]
      omega
    · decide
  | string _ => exact ⟨_, _, rfl, by unfold Between; decide⟩
  | empty_array _ => exact ⟨_, _, rfl, by unfold Between; decide⟩
  | array _ => exact ⟨_, _, rfl, by unfold Between; decide⟩
  | empty_object _ => exact ⟨_, _, rfl, by unfold Between; decide⟩
  | object _ => exact ⟨_, _, rfl, by unfold Between; decide⟩

theorem parse_word_number {numeral : Bytes} (h : is_number numeral = true) (hr : Delimited r) :
    parse_word (numeral ++ r) = some (.number numeral, r) := by
  obtain ⟨hall, first, rest, rfl, hfirst⟩ := is_number_bytes h
  have htaken : ((first :: rest) ++ r).takeWhile is_number_byte = first :: rest := by
    rw [List.takeWhile_append_of_pos (List.all_eq_true.mp hall)]
    cases r with
    | nil => simp
    | cons byte r => simp [hr byte r rfl]
  have hleft : ((first :: rest) ++ r).dropWhile is_number_byte = r := by
    rw [List.dropWhile_append_of_pos (List.all_eq_true.mp hall)]
    cases r with
    | nil => rfl
    | cons byte r => simp [hr byte r rfl]
  -- The first byte is none of the letters.
  have hletter : first.toNat < 58 := by
    obtain hdigit | rfl := hfirst
    · have := is_digit_bounds hdigit
      omega
    · decide
  unfold parse_word
  split
  · rename_i heq
    rw [(List.cons.inj heq).1] at hletter
    exact absurd hletter (by decide)
  · rename_i heq
    rw [(List.cons.inj heq).1] at hletter
    exact absurd hletter (by decide)
  · rename_i heq
    rw [(List.cons.inj heq).1] at hletter
    exact absurd hletter (by decide)
  · rw [htaken, hleft, if_pos h]

mutual

theorem Reads.length_lt {v : Value} {t r : Bytes} : Reads v t r → r.length < t.length
  | .null => by
    simp only [List.length_cons]
    omega
  | .true => by
    simp only [List.length_cons]
    omega
  | .false => by
    simp only [List.length_cons]
    omega
  | .number hnumber => by
    obtain ⟨-, first, rest, rfl, -⟩ := is_number_bytes hnumber
    rw [List.length_append, List.length_cons]
    omega
  | .string hchars => by
    have := hchars.length_lt
    rw [List.length_cons]
    omega
  | .empty_array hskip => by
    have := length_of_skip hskip
    rw [List.length_cons]
    omega
  | @Reads.array _ t _ hitems => by
    have := hitems.length_lt
    have := skip_length_le (t := t)
    rw [List.length_cons]
    omega
  | .empty_object hskip => by
    have := length_of_skip hskip
    rw [List.length_cons]
    omega
  | @Reads.object _ t _ hmembers => by
    have := hmembers.length_lt
    have := skip_length_le (t := t)
    rw [List.length_cons]
    omega

theorem Items.length_lt {vs : List Value} {t r : Bytes} : Items vs t r → r.length < t.length
  | .last hv hskip => by
    have := hv.length_lt
    have := length_of_skip hskip
    omega
  | @Items.more _ _ _ _ t'' _ hv hskip hitems => by
    have := hv.length_lt
    have := length_of_skip hskip
    have := hitems.length_lt
    have := skip_length_le (t := t'')
    omega

theorem Members.length_lt {members : List (Bytes × Value)} {t r : Bytes} :
    Members members t r → r.length < t.length
  | @Members.last _ _ _ _ t₂ _ _ hkey hcolon hv hskip => by
    have := hkey.length_lt
    have := length_of_skip hcolon
    have := hv.length_lt
    have := length_of_skip hskip
    have := skip_length_le (t := t₂)
    rw [List.length_cons]
    omega
  | @Members.more _ _ _ _ _ t₂ _ t₄ _ hkey hcolon hv hskip hmembers => by
    have := hkey.length_lt
    have := length_of_skip hcolon
    have := hv.length_lt
    have := length_of_skip hskip
    have := hmembers.length_lt
    have := skip_length_le (t := t₂)
    have := skip_length_le (t := t₄)
    rw [List.length_cons]
    omega

end

theorem expect_close_none {byte : UInt8} (hbyte : byte = 93 ∨ byte = 125)
    (h : ∃ first rest, t = first :: rest ∧ ¬Between first) : expect byte t = none := by
  obtain ⟨first, rest, rfl, hfirst⟩ := h
  apply expect_ne
  rintro rfl
  exact hfirst (Or.inr hbyte)

theorem Items.head {vs : List Value} (h : Items vs t r) :
    ∃ byte rest, t = byte :: rest ∧ ¬Between byte := by
  cases h with
  | last hv _ => exact hv.head
  | more hv _ _ => exact hv.head

theorem Members.head {members : List (Bytes × Value)} (h : Members members t r) :
    ∃ byte rest, t = byte :: rest ∧ ¬Between byte := by
  cases h with
  | last _ _ _ _ => exact ⟨34, _, rfl, by unfold Between; decide⟩
  | more _ _ _ _ _ => exact ⟨34, _, rfl, by unfold Between; decide⟩

/-- A value that begins with no quote, bracket or brace is a word. -/
theorem parse_value_word {n : Nat} {word : Value × Bytes} (hpos : 0 < n)
    (h : expect 34 t = none ∧ expect 91 t = none ∧ expect 123 t = none)
    (hword : parse_word t = some word) : parse_value n t = some word := by
  obtain ⟨n, rfl⟩ := Nat.exists_eq_succ_of_ne_zero (Nat.ne_of_gt hpos)
  rw [parse_value, h.1, h.2.1, h.2.2]
  exact hword

theorem expect_number {numeral : Bytes} (h : is_number numeral = true) {byte : UInt8}
    (hbyte : is_number_byte byte = false) : expect byte (numeral ++ r) = none := by
  obtain ⟨hall, first, rest, rfl, -⟩ := is_number_bytes h
  rw [List.all_cons, Bool.and_eq_true] at hall
  apply expect_ne
  rintro rfl
  rw [hall.1] at hbyte
  exact absurd hbyte (by decide)

-- Each byte takes at most two rounds, one for a list and one for its first entry.
mutual

theorem Reads.parse {v : Value} {t r : Bytes} (n : Nat) (hn : 2 * t.length ≤ n + 2 * r.length)
    (hr : Delimited r) : Reads v t r → parse_value n t = some (v, r)
  | .null => by
    simp only [List.length_cons] at hn
    exact parse_value_word (by omega) ⟨rfl, rfl, rfl⟩ rfl
  | .true => by
    simp only [List.length_cons] at hn
    exact parse_value_word (by omega) ⟨rfl, rfl, rfl⟩ rfl
  | .false => by
    simp only [List.length_cons] at hn
    exact parse_value_word (by omega) ⟨rfl, rfl, rfl⟩ rfl
  | .number hnumber => by
    have hlength := (Reads.number (r := r) hnumber).length_lt
    have hnone : ∀ byte, is_number_byte byte = false → expect byte _ = none :=
      fun byte hbyte => expect_number (r := r) hnumber hbyte
    exact parse_value_word (by omega) ⟨hnone 34 (by decide), hnone 91 (by decide),
      hnone 123 (by decide)⟩ (parse_word_number hnumber hr)
  | .string hchars => by
    have hlength := hchars.length_lt
    obtain ⟨m, rfl⟩ : ∃ m, n = m + 1 := ⟨n - 1, by simp only [List.length_cons] at hn; omega⟩
    rw [parse_value, expect_self]
    dsimp only
    rw [parse_chars_of_chars hchars]
    rfl
  | .empty_array hskip => by
    have hlength := length_of_skip hskip
    obtain ⟨m, rfl⟩ : ∃ m, n = m + 1 := ⟨n - 1, by simp only [List.length_cons] at hn; omega⟩
    rw [parse_value, expect_ne (by decide), expect_self]
    dsimp only
    rw [hskip, expect_self]
  | @Reads.array _ t _ hitems => by
    have hlength := hitems.length_lt
    have hskip := skip_length_le (t := t)
    rw [List.length_cons] at hn
    obtain ⟨m, rfl⟩ : ∃ m, n = m + 1 := ⟨n - 1, by omega⟩
    rw [parse_value, expect_ne (by decide), expect_self]
    dsimp only
    rw [expect_close_none (Or.inl rfl) hitems.head]
    dsimp only
    rw [hitems.parse m (by omega)]
    rfl
  | .empty_object hskip => by
    have hlength := length_of_skip hskip
    obtain ⟨m, rfl⟩ : ∃ m, n = m + 1 := ⟨n - 1, by simp only [List.length_cons] at hn; omega⟩
    rw [parse_value, expect_ne (by decide), expect_ne (by decide), expect_self]
    dsimp only
    rw [hskip, expect_self]
  | @Reads.object _ t _ hmembers => by
    have hlength := hmembers.length_lt
    have hskip := skip_length_le (t := t)
    rw [List.length_cons] at hn
    obtain ⟨m, rfl⟩ : ∃ m, n = m + 1 := ⟨n - 1, by omega⟩
    rw [parse_value, expect_ne (by decide), expect_ne (by decide), expect_self]
    dsimp only
    rw [expect_close_none (Or.inr rfl) hmembers.head]
    dsimp only
    rw [hmembers.parse m (by omega)]
    rfl

theorem Items.parse {vs : List Value} {t r : Bytes} (n : Nat)
    (hn : 2 * t.length + 1 ≤ n + 2 * r.length) : Items vs t r → parse_items n t = some (vs, r)
  | .last hv hskip => by
    have hlength := hv.length_lt
    have hrest := length_of_skip hskip
    obtain ⟨m, rfl⟩ : ∃ m, n = m + 1 := ⟨n - 1, by omega⟩
    rw [parse_items, hv.parse m (by omega) (delimited_of_skip hskip (by decide))]
    dsimp only [Option.bind_eq_bind, Option.bind_some]
    rw [hskip, expect_self]
  | @Items.more _ _ _ _ t'' _ hv hskip hitems => by
    have hlength := hv.length_lt
    have hrest := length_of_skip hskip
    have hlater := hitems.length_lt
    have hskipped := skip_length_le (t := t'')
    obtain ⟨m, rfl⟩ : ∃ m, n = m + 1 := ⟨n - 1, by omega⟩
    rw [parse_items, hv.parse m (by omega) (delimited_of_skip hskip (by decide))]
    dsimp only [Option.bind_eq_bind, Option.bind_some]
    rw [hskip, expect_ne (by decide), expect_self]
    dsimp only [Option.bind_some]
    rw [hitems.parse m (by omega)]
    rfl

theorem Members.parse {members : List (Bytes × Value)} {t r : Bytes} (n : Nat)
    (hn : 2 * t.length + 1 ≤ n + 2 * r.length) :
    Members members t r → parse_members n t = some (members, r)
  | @Members.last _ _ _ _ t₂ _ _ hkey hcolon hv hskip => by
    have hchars := hkey.length_lt
    have hafter := length_of_skip hcolon
    have hlength := hv.length_lt
    have hrest := length_of_skip hskip
    have hskipped := skip_length_le (t := t₂)
    rw [List.length_cons] at hn
    obtain ⟨m, rfl⟩ : ∃ m, n = m + 1 := ⟨n - 1, by omega⟩
    rw [parse_members, expect_self]
    dsimp only [Option.bind_eq_bind, Option.bind_some]
    rw [parse_chars_of_chars hkey]
    dsimp only [Option.bind_some]
    rw [hcolon, expect_self]
    dsimp only [Option.bind_some]
    rw [hv.parse m (by omega) (delimited_of_skip hskip (by decide))]
    dsimp only [Option.bind_some]
    rw [hskip, expect_self]
  | @Members.more _ _ _ _ _ t₂ _ t₄ _ hkey hcolon hv hskip hmembers => by
    have hchars := hkey.length_lt
    have hafter := length_of_skip hcolon
    have hlength := hv.length_lt
    have hrest := length_of_skip hskip
    have hlater := hmembers.length_lt
    have hskipped := skip_length_le (t := t₂)
    have hskipped' := skip_length_le (t := t₄)
    rw [List.length_cons] at hn
    obtain ⟨m, rfl⟩ : ∃ m, n = m + 1 := ⟨n - 1, by omega⟩
    rw [parse_members, expect_self]
    dsimp only [Option.bind_eq_bind, Option.bind_some]
    rw [parse_chars_of_chars hkey]
    dsimp only [Option.bind_some]
    rw [hcolon, expect_self]
    dsimp only [Option.bind_some]
    rw [hv.parse m (by omega) (delimited_of_skip hskip (by decide))]
    dsimp only [Option.bind_some]
    rw [hskip, expect_ne (by decide), expect_self]
    dsimp only [Option.bind_some]
    rw [hmembers.parse m (by omega)]
    rfl

end

/-- **The parser** reads every document. -/
theorem parse_of_document {text : Bytes} (h : Document v text) : Json.parse text = some v := by
  obtain ⟨r, hreads, hskip⟩ := h
  have hlength := skip_length_le (t := text)
  unfold Json.parse
  rw [hreads.parse _ (by omega) (delimited_of_blanks hskip)]
  exact if_pos hskip

end complete

/-! ### The compact spelling -/

/-- A byte inside a string. -/
def compact_byte (byte : UInt8) : Bytes :=
  if byte = 34 ∨ byte = 92 then [92, byte]
  else if byte = 8 then [92, 98]
  else if byte = 12 then [92, 102]
  else if byte = 10 then [92, 110]
  else if byte = 13 then [92, 114]
  else if byte = 9 then [92, 116]
  else if byte < 32 then [92, 117, 48, 48, digit (byte.toNat / 16), digit (byte.toNat % 16)]
  else [byte]

/-- A string with its quotes. -/
def compact_string (bytes : Bytes) : Bytes := 34 :: (bytes.flatMap compact_byte ++ [34])

mutual

/-- A value without blanks. -/
def Value.compact : Value → Bytes
  | .null => [110, 117, 108, 108]
  | .bool true => [116, 114, 117, 101]
  | .bool false => [102, 97, 108, 115, 101]
  | .number numeral => numeral
  | .string bytes => compact_string bytes
  | .array items => 91 :: (compact_items items ++ [93])
  | .object members => 123 :: (compact_members members ++ [125])

/-- The items of an array with commas between them. -/
def compact_items : List Value → Bytes
  | [] => []
  | [v] => v.compact
  | v :: v' :: vs => v.compact ++ 44 :: compact_items (v' :: vs)

/-- The members of an object with commas between them. -/
def compact_members : List (Bytes × Value) → Bytes
  | [] => []
  | [(key, v)] => compact_string key ++ 58 :: v.compact
  | (key, v) :: member :: members =>
    compact_string key ++ 58 :: (v.compact ++ 44 :: compact_members (member :: members))

end

mutual

/-- Every number in the value is one. -/
def Value.Proper : Value → Prop
  | .number numeral => is_number numeral = true
  | .array items => ProperItems items
  | .object members => ProperMembers members
  | _ => True

/-- Every number in the items is one. -/
def ProperItems : List Value → Prop
  | [] => True
  | v :: vs => v.Proper ∧ ProperItems vs

/-- Every number in the members is one. -/
def ProperMembers : List (Bytes × Value) → Prop
  | [] => True
  | (_, v) :: members => v.Proper ∧ ProperMembers members

end

section compact
variable {v : Value} {bytes t r : Bytes}

theorem compact_number (numeral : Bytes) : (Value.number numeral).compact = numeral := by
  rw [Value.compact]

theorem hex_code_low : ∀ k < 32,
    hex_code 48 48 (digit (k / 16)) (digit (k % 16)) = some k := by decide

theorem chars_byte (byte : UInt8) (h : Chars bytes t r) :
    Chars (byte :: bytes) (compact_byte byte ++ t) r := by
  unfold compact_byte
  split
  · rename_i hquoted
    refine .simple ?_ h
    obtain rfl | rfl := hquoted
    · rfl
    · rfl
  · rename_i hquoted
    rw [not_or] at hquoted
    split
    · rename_i heq
      subst heq
      exact .simple rfl h
    · split
      · rename_i heq
        subst heq
        exact .simple rfl h
      · split
        · rename_i heq
          subst heq
          exact .simple rfl h
        · split
          · rename_i heq
            subst heq
            exact .simple rfl h
          · split
            · rename_i heq
              subst heq
              exact .simple rfl h
            · split
              · -- A control byte without a letter is written as a code.
                rename_i hlow
                rw [UInt8.lt_iff_toNat_lt] at hlow
                have hcode := hex_code_low byte.toNat hlow
                have hutf8 : utf8 byte.toNat = [byte] := by
                  unfold utf8
                  rw [if_pos (by simp only [UInt8.reduceToNat] at hlow; omega), UInt8.ofNat_toNat]
                have hchars := Chars.unicode hcode h
                rw [hutf8] at hchars
                exact hchars
              · rename_i hhigh
                exact .plain (UInt8.not_lt.mp hhigh) hquoted.1 hquoted.2 h

theorem chars_compact (bytes r : Bytes) : Chars bytes (bytes.flatMap compact_byte ++ 34 :: r) r := by
  induction bytes with
  | nil => exact .done
  | cons byte bytes ih =>
    rw [List.flatMap_cons, List.append_assoc]
    exact chars_byte byte ih

/-- Nothing is skipped before a value. -/
theorem skip_head (h : ∃ byte rest, t = byte :: rest ∧ ¬Between byte) : skip t = t := by
  obtain ⟨byte, rest, rfl, hbyte⟩ := h
  unfold skip
  rw [List.dropWhile_cons_of_neg]
  exact fun hspace => hbyte (Or.inl hspace)

mutual

theorem Value.reads_compact : (v : Value) → v.Proper → ∀ {r : Bytes}, Delimited r →
    Reads v (v.compact ++ r) r
  | .null, _, _, _ => .null
  | .bool true, _, _, _ => .true
  | .bool false, _, _, _ => .false
  | .number _, h, _, _ => .number h
  | .string bytes, _, r, _ => by
    have heq : compact_string bytes ++ r = 34 :: (bytes.flatMap compact_byte ++ 34 :: r) := by
      simp [compact_string]
    rw [Value.compact, heq]
    exact .string (chars_compact bytes r)
  | .array [], _, _, _ => .empty_array rfl
  | .array (item :: items), h, r, _ => by
    have hitems := reads_items (item :: items) (by simp) h r
    have heq : (Value.array (item :: items)).compact ++ r =
        91 :: (compact_items (item :: items) ++ 93 :: r) := by
      simp [Value.compact]
    rw [heq]
    refine .array ?_
    rw [skip_head hitems.head]
    exact hitems
  | .object [], _, _, _ => .empty_object rfl
  | .object (member :: members), h, r, _ => by
    have hmembers := reads_members (member :: members) (by simp) h r
    have heq : (Value.object (member :: members)).compact ++ r =
        123 :: (compact_members (member :: members) ++ 125 :: r) := by
      simp [Value.compact]
    rw [heq]
    refine .object ?_
    rw [skip_head hmembers.head]
    exact hmembers

theorem reads_items : (vs : List Value) → vs ≠ [] → ProperItems vs → ∀ r : Bytes,
    Items vs (compact_items vs ++ 93 :: r) r
  | [], hne, _, _ => absurd rfl hne
  | [v], _, h, r => by
    rw [compact_items]
    exact .last (v.reads_compact h.1 (delimited_cons (by decide))) rfl
  | v :: v' :: vs, _, h, r => by
    have hlater := reads_items (v' :: vs) (by simp) h.2 r
    have heq : compact_items (v :: v' :: vs) ++ 93 :: r =
        v.compact ++ 44 :: (compact_items (v' :: vs) ++ 93 :: r) := by
      simp [compact_items]
    rw [heq]
    refine .more (v.reads_compact h.1 (delimited_cons (by decide))) rfl ?_
    rw [skip_head hlater.head]
    exact hlater

theorem reads_members : (members : List (Bytes × Value)) → members ≠ [] →
    ProperMembers members → ∀ r : Bytes,
    Members members (compact_members members ++ 125 :: r) r
  | [], hne, _, _ => absurd rfl hne
  | [(key, v)], _, h, r => by
    have hend : Delimited (125 :: r) := delimited_cons (by decide)
    have hv := v.reads_compact h.1 hend
    have heq : compact_members [(key, v)] ++ 125 :: r =
        34 :: (key.flatMap compact_byte ++ 34 :: 58 :: (v.compact ++ 125 :: r)) := by
      simp [compact_members, compact_string]
    have hread : Reads v (skip (v.compact ++ 125 :: r)) (125 :: r) := by
      rw [skip_head hv.head]
      exact hv
    rw [heq]
    exact .last (chars_compact key _) rfl hread rfl
  | (key, v) :: member :: members, _, h, r => by
    have hlater := reads_members (member :: members) (by simp) h.2 r
    have hcomma : Delimited (44 :: (compact_members (member :: members) ++ 125 :: r)) :=
      delimited_cons (by decide)
    have hv := v.reads_compact h.1 hcomma
    have heq : compact_members ((key, v) :: member :: members) ++ 125 :: r =
        34 :: (key.flatMap compact_byte ++ 34 :: 58 ::
          (v.compact ++ 44 :: (compact_members (member :: members) ++ 125 :: r))) := by
      simp [compact_members, compact_string]
    have hread : Reads v (skip (v.compact ++ 44 :: (compact_members (member :: members) ++ 125 :: r)))
        (44 :: (compact_members (member :: members) ++ 125 :: r)) := by
      rw [skip_head hv.head]
      exact hv
    rw [heq]
    refine .more (chars_compact key _) rfl hread rfl ?_
    rw [skip_head hlater.head]
    exact hlater

end

/-- **A compact value**, with blanks behind it, is a document. -/
theorem document_compact (hproper : v.Proper) (blanks : Bytes)
    (hblanks : blanks.all is_space = true) : Document v (v.compact ++ blanks) := by
  have hend : Delimited blanks := by
    rintro byte rest rfl
    rw [List.all_cons, Bool.and_eq_true] at hblanks
    exact is_number_byte_of_space hblanks.1
  have hreads := v.reads_compact hproper hend
  refine ⟨blanks, ?_, ?_⟩
  · rw [skip_head hreads.head]
    exact hreads
  · exact List.dropWhile_eq_nil_iff.mpr (List.all_eq_true.mp hblanks)

/-! ### Texts that need no escapes -/

theorem compact_string_plain (h : ∀ byte ∈ bytes, 32 ≤ byte ∧ byte ≠ 34 ∧ byte ≠ 92) :
    compact_string bytes = 34 :: (bytes ++ [34]) := by
  have hinside : bytes.flatMap compact_byte = bytes := by
    induction bytes with
    | nil => rfl
    | cons byte bytes ih =>
      obtain ⟨hlow, hquote, hslash⟩ := h byte List.mem_cons_self
      have hbyte : compact_byte byte = [byte] := by
        unfold compact_byte
        have hcontrol : ∀ control : UInt8, control < 32 → byte ≠ control := by
          rintro control hlt rfl
          exact UInt8.not_lt.mpr hlow hlt
        rw [if_neg (by simp [hquote, hslash]), if_neg (hcontrol 8 (by decide)),
          if_neg (hcontrol 12 (by decide)), if_neg (hcontrol 10 (by decide)),
          if_neg (hcontrol 13 (by decide)), if_neg (hcontrol 9 (by decide)),
          if_neg (UInt8.not_lt.mpr hlow)]
      rw [List.flatMap_cons, hbyte, ih fun other hother => h other (List.mem_cons_of_mem _ hother)]
      rfl
  unfold compact_string
  rw [hinside]

theorem plain_of_is_hex_digit {byte : UInt8} (h : is_hex_digit byte = true) :
    32 ≤ byte ∧ byte ≠ 34 ∧ byte ≠ 92 := by
  unfold is_hex_digit is_digit at h
  simp only [Bool.or_eq_true, Bool.and_eq_true, decide_eq_true_eq, UInt8.le_iff_toNat_le] at h
  simp only [UInt8.reduceToNat] at h
  refine ⟨?_, ?_, ?_⟩
  · rw [UInt8.le_iff_toNat_le]
    simp only [UInt8.reduceToNat]
    omega
  · rintro rfl
    simp at h
  · rintro rfl
    simp at h

theorem plain_numeral {base : Nat} (hbase : 1 < base) (hle : base ≤ 16) (n : Nat) :
    ∀ byte ∈ numeral base n, 32 ≤ byte ∧ byte ≠ 34 ∧ byte ≠ 92 :=
  fun _ hbyte => plain_of_is_hex_digit (is_hex_digit_of_mem hbase hle hbyte)

theorem compact_numeral (n : Nat) :
    compact_string (numeral 10 n) = 34 :: (numeral 10 n ++ [34]) :=
  compact_string_plain (plain_numeral (by omega) (by omega) n)

theorem compact_signed (n : Int) : compact_string (signed n) = 34 :: (signed n ++ [34]) := by
  apply compact_string_plain
  unfold signed
  split
  · intro byte hbyte
    obtain rfl | hmem := List.mem_cons.mp hbyte
    · decide
    · exact plain_numeral (by omega) (by omega) _ byte hmem
  · exact plain_numeral (by omega) (by omega) _

theorem is_unsigned_numeral (n : Nat) : is_unsigned (numeral 10 n) = true := by
  obtain rfl | hpos := Nat.eq_zero_or_pos n
  · rw [numeral_zero (by omega) (by omega)]
    rfl
  · have hdecimal : 1 < 10 ∧ 10 ≤ 16 := by decide
    obtain ⟨first, rest, heq, hfirst⟩ := head_numeral hdecimal.1 hdecimal.2 hpos
    have hdigits : ∀ byte ∈ first :: rest, is_digit byte = true := by
      intro byte hbyte
      rw [← heq] at hbyte
      exact is_digit_of_mem hbyte
    have hrest : rest.dropWhile is_digit = [] :=
      List.dropWhile_eq_nil_iff.mpr fun byte hbyte => hdigits byte (List.mem_cons_of_mem _ hbyte)
    rw [heq, is_unsigned, if_neg (by simpa using hfirst), hrest, hdigits first List.mem_cons_self]
    rfl

theorem is_number_numeral (n : Nat) : is_number (numeral 10 n) = true := by
  rcases hcase : numeral 10 n with _ | ⟨first, rest⟩
  · exact absurd hcase (numeral_ne_nil (by omega) (by omega))
  · have hdigit : is_digit first = true := is_digit_of_mem (hcase ▸ List.mem_cons_self)
    have hunsigned := is_unsigned_numeral n
    rw [hcase] at hunsigned
    have hsign : first ≠ 45 := by
      rintro rfl
      simp [is_digit] at hdigit
    rw [is_number.eq_def]
    split
    · rename_i heq
      exact absurd (List.cons.inj heq).1 hsign
    · exact hunsigned

theorem is_number_signed (n : Int) : is_number (signed n) = true := by
  unfold signed
  split
  · exact is_unsigned_numeral n.natAbs
  · exact is_number_numeral n.natAbs

/-! ### Sequences -/

theorem compact_items_cons (v : Value) (vs : List Value) :
    compact_items (v :: vs) = v.compact ++ vs.flatMap fun v => 44 :: v.compact := by
  induction vs generalizing v with
  | nil => simp [compact_items]
  | cons v' vs ih =>
    rw [compact_items, ih v', List.flatMap_cons]
    rfl

/-- No byte takes more than six. -/
theorem length_compact_byte (byte : UInt8) : (compact_byte byte).length ≤ 6 := by
  unfold compact_byte
  split_ifs <;> simp

theorem length_compact_string (bytes : Bytes) :
    (compact_string bytes).length ≤ 6 * bytes.length + 2 := by
  have hinside : (bytes.flatMap compact_byte).length ≤ 6 * bytes.length := by
    induction bytes with
    | nil => exact Nat.zero_le _
    | cons byte bytes ih =>
      have hbyte := length_compact_byte byte
      rw [List.flatMap_cons, List.length_append, List.length_cons]
      omega
  unfold compact_string
  rw [List.length_cons, List.length_append, List.length_singleton]
  omega

theorem length_compact_items {vs : List Value} {n : Nat} (h : ∀ v ∈ vs, v.compact.length ≤ n) :
    (compact_items vs).length ≤ vs.length * (n + 1) := by
  rcases vs with _ | ⟨v, vs⟩
  · exact Nat.zero_le _
  · have hv := h v List.mem_cons_self
    have hlater : (vs.flatMap fun v => 44 :: v.compact).length ≤ vs.length * (n + 1) := by
      have hvs : ∀ w ∈ vs, w.compact.length ≤ n := fun w hw => h w (List.mem_cons_of_mem _ hw)
      clear h
      induction vs with
      | nil => exact Nat.zero_le _
      | cons v' vs ih =>
        have hv' := hvs v' List.mem_cons_self
        have hrest := ih fun w hw => hvs w (List.mem_cons_of_mem _ hw)
        rw [List.flatMap_cons, List.length_append, List.length_cons, List.length_cons,
          Nat.succ_mul]
        omega
    rw [compact_items_cons, List.length_append, List.length_cons, Nat.succ_mul]
    omega

theorem compact_members_append (members : List (Bytes × Value)) (hne : members ≠ [])
    (member : Bytes × Value) (rest : List (Bytes × Value)) :
    compact_members (members ++ member :: rest) =
      compact_members members ++ 44 :: compact_members (member :: rest) := by
  induction members with
  | nil => exact absurd rfl hne
  | cons first members ih =>
    obtain ⟨key, v⟩ := first
    rcases members with _ | ⟨second, members⟩
    · simp [compact_members]
    · have hlater := ih (by simp)
      rw [List.cons_append] at hlater
      rw [List.cons_append, List.cons_append, compact_members, compact_members, hlater]
      simp

theorem properMembers_iff {members : List (Bytes × Value)} :
    ProperMembers members ↔ ∀ member ∈ members, member.2.Proper := by
  induction members with
  | nil => simp [ProperMembers]
  | cons member members ih =>
    obtain ⟨key, v⟩ := member
    simp [ProperMembers, ih]

theorem properItems_iff {vs : List Value} : ProperItems vs ↔ ∀ v ∈ vs, v.Proper := by
  induction vs with
  | nil => simp [ProperItems]
  | cons v vs ih => simp [ProperItems, ih]

/-! ### No control bytes -/

/-- No byte is a control byte; bytes from 128 on are allowed. -/
def Clear (text : Bytes) : Prop := ∀ byte ∈ text, 32 ≤ byte

theorem clear_nil : Clear [] := by
  intro byte hbyte
  simp at hbyte

theorem Clear.cons {byte : UInt8} (hbyte : 32 ≤ byte) (h : Clear t) : Clear (byte :: t) := by
  intro other hother
  obtain rfl | hmem := List.mem_cons.mp hother
  · exact hbyte
  · exact h other hmem

theorem Clear.append (h : Clear t) (h' : Clear r) : Clear (t ++ r) := by
  intro byte hbyte
  obtain hmem | hmem := List.mem_append.mp hbyte
  · exact h byte hmem
  · exact h' byte hmem

theorem clear_number (h : is_number t = true) : Clear t := by
  intro byte hbyte
  have hnumber := List.all_eq_true.mp (is_number_bytes h).1 byte hbyte
  unfold is_number_byte at hnumber
  simp only [Bool.or_eq_true, beq_iff_eq] at hnumber
  obtain ((((hdigit | rfl) | rfl) | rfl) | rfl) | rfl := hnumber
  · have hlow := (is_digit_bounds hdigit).1
    rw [UInt8.le_iff_toNat_le]
    simp only [UInt8.reduceToNat]
    omega
  · decide
  · decide
  · decide
  · decide
  · decide

theorem clear_hex_digit : ∀ k < 16, 32 ≤ digit k := by decide

theorem clear_byte (byte : UInt8) : Clear (compact_byte byte) := by
  have hplain : ∀ letter : UInt8, 32 ≤ letter → Clear [92, letter] :=
    fun letter hletter => (clear_nil.cons hletter).cons (by decide)
  unfold compact_byte
  split
  · rename_i hquoted
    apply hplain
    obtain rfl | rfl := hquoted
    · decide
    · decide
  · split
    · exact hplain 98 (by decide)
    · split
      · exact hplain 102 (by decide)
      · split
        · exact hplain 110 (by decide)
        · split
          · exact hplain 114 (by decide)
          · split
            · exact hplain 116 (by decide)
            · split
              · have hlow : byte.toNat < 256 := byte.toNat_lt
                have hhigh := clear_hex_digit (byte.toNat / 16) (by omega)
                have hdigit := clear_hex_digit (byte.toNat % 16) (by omega)
                exact (((((clear_nil.cons hdigit).cons hhigh).cons (by decide)).cons
                  (by decide)).cons (by decide)).cons (by decide)
              · rename_i hhigh
                exact clear_nil.cons (UInt8.not_lt.mp hhigh)

theorem clear_string (bytes : Bytes) : Clear (compact_string bytes) := by
  have hinside : Clear (bytes.flatMap compact_byte) := by
    intro byte hbyte
    obtain ⟨source, _, hmem⟩ := List.mem_flatMap.mp hbyte
    exact clear_byte source byte hmem
  exact (hinside.append (clear_nil.cons (by decide))).cons (by decide)

mutual

/-- **A compact value** has no control bytes. -/
theorem Value.clear_compact : (v : Value) → v.Proper → Clear v.compact
  | .null, _ => by
    show Clear [110, 117, 108, 108]
    unfold Clear
    decide +kernel
  | .bool true, _ => by
    show Clear [116, 114, 117, 101]
    unfold Clear
    decide +kernel
  | .bool false, _ => by
    show Clear [102, 97, 108, 115, 101]
    unfold Clear
    decide +kernel
  | .number _, h => clear_number h
  | .string bytes, _ => clear_string bytes
  | .array items, h =>
    ((clear_items items h).append (clear_nil.cons (by decide))).cons (by decide)
  | .object members, h =>
    ((clear_members members h).append (clear_nil.cons (by decide))).cons (by decide)

theorem clear_items : (vs : List Value) → ProperItems vs → Clear (compact_items vs)
  | [], _ => clear_nil
  | [v], h => by
    rw [compact_items]
    exact v.clear_compact h.1
  | v :: v' :: vs, h => by
    rw [compact_items]
    exact (v.clear_compact h.1).append ((clear_items (v' :: vs) h.2).cons (by decide))

theorem clear_members : (members : List (Bytes × Value)) → ProperMembers members →
    Clear (compact_members members)
  | [], _ => clear_nil
  | [(key, v)], h => by
    rw [compact_members]
    exact (clear_string key).append ((v.clear_compact h.1).cons (by decide))
  | (key, v) :: member :: members, h => by
    rw [compact_members]
    exact (clear_string key).append (((v.clear_compact h.1).append
      ((clear_members (member :: members) h.2).cons (by decide))).cons (by decide))

end

end compact

/-! ### Looking into a value -/

/-- The value of the first member with this key. -/
def Value.member (key : Bytes) : Value → Option Value
  | .object members => members.lookup key
  | _ => none

/-- The bytes of a string. -/
def Value.bytes : Value → Option Bytes
  | .string bytes => some bytes
  | _ => none

/-- The items of an array. -/
def Value.items : Value → Option (List Value)
  | .array items => some items
  | _ => none

/-- The text of a number. -/
def Value.numeral : Value → Option Bytes
  | .number numeral => some numeral
  | _ => none

end Json
