import Mathlib.Tactic.Common
import Mathlib.Tactic.IntervalCases

/-! # Numerals as bytes

    What the `printf` conversions `%u`, `%d`, `%x` and `%o` write: the digits
    of a number in a base up to 16, the most significant first, in lower case.
    Reading the digits back gives the number (`value_numeral`), no numeral but
    that of zero begins with a zero, and its length is bounded by the number.
-/

namespace Numerals

/-- The byte of a digit. -/
def digit (d : Nat) : UInt8 := if d < 10 then UInt8.ofNat (48 + d) else UInt8.ofNat (87 + d)

/-- The number of a digit; other bytes are not told apart. -/
def digit_value (byte : UInt8) : Nat := if byte < 58 then byte.toNat - 48 else byte.toNat - 87

/-- The number in the base, at least one digit. -/
def numeral (base n : Nat) : List UInt8 :=
  (Nat.toDigits base n).map fun c => UInt8.ofNat c.toNat

/-- A number with its sign, in base ten. -/
def signed (n : Int) : List UInt8 :=
  if n < 0 then UInt8.ofNat 45 :: numeral 10 n.natAbs else numeral 10 n.natAbs

/-- The number that digits stand for. -/
def value (base : Nat) (digits : List UInt8) : Nat :=
  digits.foldl (fun n byte => n * base + digit_value byte) 0

/-- Is the byte a decimal digit? -/
def is_digit (byte : UInt8) : Bool := decide (48 ≤ byte) && decide (byte ≤ 57)

/-- Is the byte a hexadecimal digit, in lower case? -/
def is_hex_digit (byte : UInt8) : Bool :=
  is_digit byte || (decide (97 ≤ byte) && decide (byte ≤ 102))

section
variable {base n : Nat}

theorem digitChar_byte {d : Nat} (hd : d < 16) : UInt8.ofNat d.digitChar.toNat = digit d := by
  interval_cases d <;> rfl

theorem digit_value_digit {d : Nat} (hd : d < 16) : digit_value (digit d) = d := by
  interval_cases d <;> rfl

theorem is_digit_digit {d : Nat} (hd : d < 10) : is_digit (digit d) = true := by
  interval_cases d <;> rfl

theorem is_hex_digit_digit {d : Nat} (hd : d < 16) : is_hex_digit (digit d) = true := by
  interval_cases d <;> rfl

theorem digit_ne_zero {d : Nat} (hpos : 0 < d) (hd : d < 16) : digit d ≠ 48 := by
  interval_cases d <;> decide

/-- **The last digit** comes off the end. -/
theorem numeral_eq (hbase : 1 < base) (hle : base ≤ 16) (n : Nat) :
    numeral base n = (if n < base then [] else numeral base (n / base)) ++ [digit (n % base)] := by
  have hmod : n % base < 16 := (Nat.mod_lt _ (by omega)).trans_le hle
  unfold numeral
  rw [Nat.toDigits_eq_if hbase]
  split
  · rename_i hlt
    rw [Nat.mod_eq_of_lt hlt] at hmod ⊢
    simp [digitChar_byte hmod]
  · simp [digitChar_byte hmod]

theorem numeral_ne_nil (hbase : 1 < base) (hle : base ≤ 16) : numeral base n ≠ [] := by
  rw [numeral_eq hbase hle]
  simp

/-- Every byte of a numeral is the byte of a digit. -/
theorem mem_numeral (hbase : 1 < base) (hle : base ≤ 16) :
    ∀ byte ∈ numeral base n, ∃ d < base, byte = digit d := by
  induction n using Nat.strongRecOn with
  | ind n ih =>
    intro byte hbyte
    rw [numeral_eq hbase hle, List.mem_append, List.mem_singleton] at hbyte
    obtain hbyte | rfl := hbyte
    · split at hbyte
      · simp at hbyte
      · exact ih (n / base) (Nat.div_lt_self (by omega) hbase) byte hbyte
    · exact ⟨n % base, Nat.mod_lt _ (by omega), rfl⟩

theorem is_hex_digit_of_mem (hbase : 1 < base) (hle : base ≤ 16) {byte : UInt8}
    (h : byte ∈ numeral base n) : is_hex_digit byte = true := by
  obtain ⟨d, hd, rfl⟩ := mem_numeral hbase hle byte h
  exact is_hex_digit_digit (by omega)

theorem is_digit_of_mem {byte : UInt8} (h : byte ∈ numeral 10 n) : is_digit byte = true := by
  obtain ⟨d, hd, rfl⟩ := mem_numeral (by omega) (by omega) byte h
  exact is_digit_digit hd

/-- **Reading back.** -/
theorem value_numeral (hbase : 1 < base) (hle : base ≤ 16) : value base (numeral base n) = n := by
  induction n using Nat.strongRecOn with
  | ind n ih =>
    have hdigit : digit_value (digit (n % base)) = n % base :=
      digit_value_digit ((Nat.mod_lt _ (by omega)).trans_le hle)
    rw [numeral_eq hbase hle, value, List.foldl_append]
    split
    · rename_i hlt
      rw [Nat.mod_eq_of_lt hlt] at hdigit ⊢
      simp [hdigit]
    · rename_i hge
      have := ih (n / base) (Nat.div_lt_self (by omega) hbase)
      rw [value] at this
      rw [this, List.foldl_cons, List.foldl_nil, hdigit, Nat.mul_comm, Nat.div_add_mod]

/-- A numeral of at most `k` digits. -/
theorem length_numeral_le (hbase : 1 < base) (hle : base ≤ 16) {k : Nat} (hk : 0 < k) :
    n < base ^ k → (numeral base n).length ≤ k := by
  intro hn
  unfold numeral
  rw [List.length_map]
  exact (Nat.length_toDigits_le_iff hbase hk).mpr hn

/-- Only zero begins with a zero. -/
theorem head_numeral (hbase : 1 < base) (hle : base ≤ 16) (hn : 0 < n) :
    ∃ first rest, numeral base n = first :: rest ∧ first ≠ 48 := by
  induction n using Nat.strongRecOn with
  | ind n ih =>
    rw [numeral_eq hbase hle]
    split
    · rename_i hlt
      refine ⟨digit (n % base), [], rfl, ?_⟩
      rw [Nat.mod_eq_of_lt hlt]
      exact digit_ne_zero hn (by omega)
    · rename_i hge
      obtain ⟨first, rest, heq, hfirst⟩ := ih (n / base) (Nat.div_lt_self (by omega) hbase)
        (Nat.div_pos (by omega) (by omega))
      exact ⟨first, rest ++ [digit (n % base)], by rw [heq]; rfl, hfirst⟩

theorem numeral_zero (hbase : 1 < base) (hle : base ≤ 16) : numeral base 0 = [48] := by
  rw [numeral_eq hbase hle, if_pos (by omega)]
  simp [digit]

end

/-! ### Signed numerals -/

/-- The number that a signed numeral stands for. -/
def signed_value (digits : List UInt8) : Int :=
  match digits with
  | 45 :: digits => -(value 10 digits : Int)
  | digits => value 10 digits

theorem signed_value_signed (n : Int) : signed_value (signed n) = n := by
  have hvalue : value 10 (numeral 10 n.natAbs) = n.natAbs := value_numeral (by omega) (by omega)
  unfold signed
  split
  · show -(value 10 (numeral 10 n.natAbs) : Int) = n
    rw [hvalue]
    omega
  · rw [signed_value.eq_def]
    split
    · -- A numeral has no sign.
      rename_i digits heq
      have hmem : (45 : UInt8) ∈ numeral 10 n.natAbs := heq ▸ List.mem_cons_self
      have hdigit := is_digit_of_mem hmem
      simp [is_digit] at hdigit
    · rw [hvalue]
      omega

end Numerals
