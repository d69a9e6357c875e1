import Sysgaze.Lib.Numerals

/-! # Quoted strings with escapes

    A quoted string holds printable bytes.  A backslash begins an escape: of one letter, or
    `\x` with exactly two lowercase hexadecimal digits.  `Inside d t r` says that `t` begins
    with a spelling of the bytes `d`, the closing quote included, and that `r` is left.

    `parse` reads whatever the grammar spells (`parse_of_inside`), so that a text spells one
    string only (`Inside.unique`), and what stands behind an escape cannot change it.
-/

namespace Escapes

open Numerals

abbrev Bytes := List UInt8

/-- The byte for which an escape of one letter stands. -/
def letter_escape (letter : UInt8) : Option UInt8 :=
  if letter = 92 then some 92
  else if letter = 34 then some 34
  else if letter = 110 then some 10
  else if letter = 114 then some 13
  else if letter = 116 then some 9
  else if letter = 48 then some 0
  else none

/-- The number of a lowercase hexadecimal digit. -/
def lowercase_hex (byte : UInt8) : Option Nat :=
  if 48 ≤ byte ∧ byte ≤ 57 then some (byte.toNat - 48)
  else if 97 ≤ byte ∧ byte ≤ 102 then some (byte.toNat - 87)
  else none

/-- The byte of two hexadecimal digits. -/
def hex_byte (a b : UInt8) : Option UInt8 := do
  let high ← lowercase_hex a
  let low ← lowercase_hex b
  pure (UInt8.ofNat (high * 16 + low))

/-- The text begins with the inside of a string, the closing quote included. -/
inductive Inside : Bytes → Bytes → Bytes → Prop
  | done {r : Bytes} : Inside [] (34 :: r) r
  | plain {byte : UInt8} {d t r : Bytes} : 32 ≤ byte → byte ≤ 126 → byte ≠ 34 → byte ≠ 92 →
      Inside d t r → Inside (byte :: d) (byte :: t) r
  | letter {letter byte : UInt8} {d t r : Bytes} : letter_escape letter = some byte →
      Inside d t r → Inside (byte :: d) (92 :: letter :: t) r
  | hex {a b byte : UInt8} {d t r : Bytes} : hex_byte a b = some byte →
      Inside d t r → Inside (byte :: d) (92 :: 120 :: a :: b :: t) r

/-- The text begins with a quoted string. -/
def Quoted (d t r : Bytes) : Prop := ∃ inside, t = 34 :: inside ∧ Inside d inside r

/-- The inside of a string, and what is left behind the closing quote. -/
def parse_inside : Bytes → Option (Bytes × Bytes)
  | [] => none
  | byte :: t =>
    if byte = 34 then some ([], t)
    else if byte = 92 then
      match t with
      | [] => none
      | letter :: t =>
        if letter = 120 then
          match t with
          | a :: b :: t => do
            let byte ← hex_byte a b
            let (d, r) ← parse_inside t
            pure (byte :: d, r)
          | _ => none
        else do
          let byte ← letter_escape letter
          let (d, r) ← parse_inside t
          pure (byte :: d, r)
    else if 32 ≤ byte ∧ byte ≤ 126 then do
      let (d, r) ← parse_inside t
      pure (byte :: d, r)
    else none

/-- A quoted string, and what is left behind it. -/
def parse : Bytes → Option (Bytes × Bytes)
  | [] => none
  | byte :: t => if byte = 34 then parse_inside t else none

section grammar
variable {d d' t r r' : Bytes}

theorem letter_escape_ne {letter byte : UInt8} (h : letter_escape letter = some byte) :
    letter ≠ 120 := by
  rintro rfl
  have hnone : letter_escape 120 = none := by decide
  rw [hnone] at h
  exact absurd h (by simp)

/-- The parser reads whatever the grammar spells. -/
theorem parse_of_inside (h : Inside d t r) : parse_inside t = some (d, r) := by
  have hslash : ¬((92 : UInt8) = 34) := by decide
  induction h with
  | done =>
    rw [parse_inside.eq_def]
    exact if_pos rfl
  | plain hlow hhigh hquote hslash _ ih =>
    rw [parse_inside.eq_def]
    dsimp only
    rw [if_neg hquote, if_neg hslash, if_pos ⟨hlow, hhigh⟩, ih]
    rfl
  | letter hletter _ ih =>
    rw [parse_inside.eq_def]
    dsimp only
    rw [if_neg hslash, if_pos rfl, if_neg (letter_escape_ne hletter), hletter, ih]
    rfl
  | hex hhex _ ih =>
    rw [parse_inside.eq_def]
    dsimp only
    rw [if_neg hslash, if_pos rfl, if_pos rfl, hhex, ih]
    rfl

theorem parse_of_quoted (h : Quoted d t r) : parse t = some (d, r) := by
  obtain ⟨inside, rfl, h⟩ := h
  exact parse_of_inside h

/-- **No text begins with two strings.** -/
theorem Quoted.unique (h : Quoted d t r) (h' : Quoted d' t r') : d = d' ∧ r = r' := by
  have hsame := (parse_of_quoted h).symm.trans (parse_of_quoted h')
  exact Prod.mk.inj (Option.some.inj hsame)

/-- The byte is printable. -/
def Printable (byte : UInt8) : Prop := 32 ≤ byte ∧ byte ≤ 126

instance (byte : UInt8) : Decidable (Printable byte) := inferInstanceAs (Decidable (_ ∧ _))

theorem letter_printable {letter byte : UInt8} (h : letter_escape letter = some byte) :
    Printable letter := by
  unfold letter_escape at h
  by_contra hnot
  have hother : ∀ known : UInt8, Printable known → letter ≠ known := by
    rintro known hknown rfl
    exact hnot hknown
  rw [if_neg (hother 92 (by decide)), if_neg (hother 34 (by decide)),
    if_neg (hother 110 (by decide)), if_neg (hother 114 (by decide)),
    if_neg (hother 116 (by decide)), if_neg (hother 48 (by decide))] at h
  exact absurd h (by simp)

theorem hex_printable {byte : UInt8} {k : Nat} (h : lowercase_hex byte = some k) :
    Printable byte := by
  unfold lowercase_hex at h
  split at h
  · rename_i hdigit
    exact ⟨UInt8.le_trans (by decide) hdigit.1, UInt8.le_trans hdigit.2 (by decide)⟩
  · split at h
    · rename_i hletter
      exact ⟨UInt8.le_trans (by decide) hletter.1, UInt8.le_trans hletter.2 (by decide)⟩
    · exact absurd h (by simp)

theorem hex_byte_printable {a b byte : UInt8} (h : hex_byte a b = some byte) :
    Printable a ∧ Printable b := by
  unfold hex_byte at h
  cases ha : lowercase_hex a with
  | none =>
    rw [ha] at h
    exact absurd h (by simp)
  | some high =>
    cases hb : lowercase_hex b with
    | none =>
      rw [ha, hb] at h
      exact absurd h (by simp)
    | some low => exact ⟨hex_printable ha, hex_printable hb⟩

/-- **A string is printable.** -/
theorem Inside.printable (h : Inside d t r) : ∃ s, t = s ++ r ∧ ∀ byte ∈ s, Printable byte := by
  induction h with
  | done => exact ⟨[34], rfl, by decide +kernel⟩
  | plain hlow hhigh _ _ _ ih =>
    obtain ⟨s, rfl, hs⟩ := ih
    exact ⟨_ :: s, rfl, List.forall_mem_cons.mpr ⟨⟨hlow, hhigh⟩, hs⟩⟩
  | letter hletter _ ih =>
    obtain ⟨s, rfl, hs⟩ := ih
    exact ⟨92 :: _ :: s, rfl, List.forall_mem_cons.mpr ⟨by decide,
      List.forall_mem_cons.mpr ⟨letter_printable hletter, hs⟩⟩⟩
  | hex hhex _ ih =>
    obtain ⟨s, rfl, hs⟩ := ih
    obtain ⟨ha, hb⟩ := hex_byte_printable hhex
    exact ⟨92 :: 120 :: _ :: _ :: s, rfl, List.forall_mem_cons.mpr ⟨by decide,
      List.forall_mem_cons.mpr ⟨by decide, List.forall_mem_cons.mpr ⟨ha,
        List.forall_mem_cons.mpr ⟨hb, hs⟩⟩⟩⟩⟩

theorem lowercase_hex_digit : ∀ k < 16, lowercase_hex (digit k) = some k := by decide

/-- The digits of a byte. -/
theorem hex_byte_digits (byte : UInt8) :
    hex_byte (digit (byte.toNat / 16)) (digit (byte.toNat % 16)) = some byte := by
  have hbyte := byte.toNat_lt
  unfold hex_byte
  rw [lowercase_hex_digit _ (by omega), lowercase_hex_digit _ (by omega)]
  show some (UInt8.ofNat (byte.toNat / 16 * 16 + byte.toNat % 16)) = some byte
  rw [Nat.div_add_mod', UInt8.ofNat_toNat]

end grammar

end Escapes
