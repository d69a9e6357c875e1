import Mathlib.Algebra.BigOperators.Group.List.Basic
import Mathlib.Algebra.GroupWithZero.Nat
import Mathlib.Data.List.Nodup
import Mathlib.Data.List.Range
import Mathlib.Tactic.Common

/-! # Counting bits by clearing the lowest one

    `w &&& (w - 1)` is `w` without its lowest set bit.  Repeating this until
    nothing is left takes as many rounds as `w` has set bits; `clearCount`
    is that loop and `clearCount_eq` the count it computes.

    At the end, bits as marks: `distinctFrom` looks for repetitions in a list.
-/

namespace BitCount

/-- The number of set bits of `w` among its lowest `n`. -/
def bitCount (n w : Nat) : Nat := (List.range n).countP w.testBit

@[simp] theorem bitCount_zero_width (w : Nat) : bitCount 0 w = 0 := rfl

@[simp] theorem bitCount_zero (n : Nat) : bitCount n 0 = 0 := by
  simp [bitCount]

theorem bitCount_le (n w : Nat) : bitCount n w ≤ n := by
  have := List.countP_le_length (p := w.testBit) (l := List.range n)
  simpa [bitCount] using this

/-- The count, split into the lowest bit and the rest. -/
theorem bitCount_succ (n w : Nat) :
    bitCount (n + 1) w = w % 2 + bitCount n (w / 2) := by
  have hrest : (fun i => w.testBit (i + 1)) = (w / 2).testBit := by
    funext i
    rw [Nat.testBit_succ]
  rw [bitCount, List.range_succ_eq_map, List.countP_cons, List.countP_map, bitCount]
  show List.countP (fun i => w.testBit (i + 1)) _ + _ = _
  rw [hrest, Nat.testBit_zero]
  rcases Nat.mod_two_eq_zero_or_one w with h | h <;> simp [h, Nat.add_comm]

/-- Clearing the lowest set bit removes exactly one bit. -/
theorem bitCount_clear {n w : Nat} (hw : w ≠ 0) (hlt : w < 2 ^ n) :
    bitCount n w = bitCount n (w &&& (w - 1)) + 1 := by
  induction n generalizing w with
  | zero => simp at hlt; omega
  | succ n ih =>
    rw [bitCount_succ, bitCount_succ, Nat.and_div_two]
    have hmod := Nat.and_mod_two_eq_one (a := w) (b := w - 1)
    rcases Nat.mod_two_eq_zero_or_one w with heven | hodd
    · -- The lowest bit is clear: the work is done on `w / 2`.
      have hhalf : (w - 1) / 2 = w / 2 - 1 := by omega
      have hrec := ih (w := w / 2) (by omega) (by rw [Nat.pow_succ] at hlt; omega)
      rw [hhalf]
      omega
    · -- The lowest bit is set, and is the one that is cleared.
      have hhalf : (w - 1) / 2 = w / 2 := by omega
      rw [hhalf, Nat.and_self]
      omega

/-- Clearing a bit makes a number smaller. -/
theorem clear_lt {w : Nat} (hw : w ≠ 0) : w &&& (w - 1) < w := by
  have : w &&& (w - 1) ≤ w - 1 := Nat.and_le_right
  omega

/-- Count the rounds of clearing the lowest bit, on top of `count`. -/
def clearCount (w count : Nat) : Nat :=
  if h : w = 0 then count
  else
    have := clear_lt h
    clearCount (w &&& (w - 1)) (count + 1)
termination_by w

/-- The loop counts the set bits. -/
theorem clearCount_eq {n w : Nat} (hlt : w < 2 ^ n) (count : Nat) :
    clearCount w count = count + bitCount n w := by
  induction w, count using clearCount.induct with
  | case1 count => simp [clearCount]
  | case2 w count hw hclear ih =>
    rw [clearCount, dif_neg hw, ih (by omega), bitCount_clear hw hlt]
    omega

/-- A running sum, as a sum. -/
theorem foldl_add {α : Type*} (f : α → Nat) (xs : List α) :
    xs.foldl (fun count x => count + f x) 0 = (xs.map f).sum := by
  rw [List.sum_eq_foldl, List.foldl_map]

/-- The set bits of a sequence of `width`-bit words, numbered through. -/
theorem countP_words (width : Nat) (hwidth : 0 < width) (words : List Nat) :
    (List.range (width * words.length)).countP
        (fun n => (words[n / width]?.getD 0).testBit (n % width)) =
      (words.map (bitCount width)).sum := by
  induction words with
  | nil => simp
  | cons word words ih =>
    have hlen : width * (word :: words).length = width + width * words.length := by
      rw [List.length_cons, Nat.mul_succ]; omega
    rw [hlen, List.range_add, List.countP_append, List.countP_map, List.map_cons,
      List.sum_cons, ← ih]
    congr 1
    · -- The first word.
      refine List.countP_congr fun n hn => ?_
      rw [List.mem_range] at hn
      rw [Nat.div_eq_of_lt hn, Nat.mod_eq_of_lt hn]
      simp
    · -- The words after it.
      refine List.countP_congr fun n _ => ?_
      simp only [Function.comp_apply]
      rw [Nat.add_div_left _ hwidth, Nat.add_mod_left]
      simp

/-! ### Distinct numbers

    A list of numbers is checked for repetitions by marking each of them as a
    bit of one number, which takes one pass. -/

/-- Are the numbers distinct, and none of them marked? -/
def distinctFrom : Nat → List Nat → Bool
  | _, [] => true
  | marked, n :: ns => !marked.testBit n && distinctFrom (marked ||| 1 <<< n) ns

/-- What the check finds: no number is marked, and none comes twice. -/
theorem distinctFrom_spec (ns : List Nat) : ∀ {marked : Nat}, distinctFrom marked ns = true →
    (∀ n ∈ ns, marked.testBit n = false) ∧ ns.Nodup := by
  induction ns with
  | nil =>
    intro marked _
    exact ⟨by simp, List.nodup_nil⟩
  | cons n ns ih =>
    intro marked h
    rw [distinctFrom, Bool.and_eq_true, Bool.not_eq_true'] at h
    obtain ⟨hnew, hrest⟩ := h
    obtain ⟨hmarked, hnodup⟩ := ih hrest
    -- A bit that is not marked afterwards was not marked before, and is not `n`.
    have hbits : ∀ m ∈ ns, marked.testBit m = false ∧ n ≠ m := by
      intro m hm
      have := hmarked m hm
      rw [Nat.testBit_or, Bool.or_eq_false_iff, Nat.testBit_shiftLeft] at this
      obtain ⟨hm, hbit⟩ := this
      refine ⟨hm, ?_⟩
      rintro rfl
      simp at hbit
    refine ⟨?_, ?_⟩
    · intro m hm
      obtain rfl | hm := List.mem_cons.mp hm
      · exact hnew
      · exact (hbits m hm).1
    · rw [List.nodup_cons]
      exact ⟨fun hin => (hbits n hin).2 rfl, hnodup⟩

/-- A list whose images under `f` are distinct has no repetitions. -/
theorem nodup_of_distinct {α : Type*} (f : α → Nat) {l : List α}
    (h : distinctFrom 0 (l.map f) = true) : l.Nodup :=
  List.Nodup.of_map f (distinctFrom_spec _ h).2

end BitCount
