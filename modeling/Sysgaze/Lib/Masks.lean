import Mathlib.Data.List.Basic
import Mathlib.Data.UInt
import Mathlib.Tactic.Common

/-! # Words as sets of bits

    A word of 64 bits is taken apart by a table of masks: a mask whose bits are
    all left is taken, in the order of the table (`greedy`).  Nothing is lost
    (`union_greedy`), and what has been taken is disjoint (`pairwise_greedy`).
    Masks may have several bits and may overlap.
-/

namespace Masks

/-- All bits of `part` are bits of `word`. -/
def Within (part word : UInt64) : Prop := word &&& part = part

instance (part word : UInt64) : Decidable (Within part word) := by
  unfold Within
  infer_instance

/-- No bit is in both words. -/
def Apart (a b : UInt64) : Prop := a &&& b = 0

instance (a b : UInt64) : Decidable (Apart a b) := by
  unfold Apart
  infer_instance

/-- The bits of all the words. -/
def union (words : List UInt64) : UInt64 := words.foldr (· ||| ·) 0

@[simp] theorem union_nil : union [] = 0 := rfl

@[simp] theorem union_cons (a : UInt64) (words : List UInt64) :
    union (a :: words) = a ||| union words := rfl

theorem union_append (words words' : List UInt64) :
    union (words ++ words') = union words ||| union words' := by
  induction words with
  | nil => exact (UInt64.zero_or).symm
  | cons a words ih => rw [List.cons_append, union_cons, union_cons, ih, UInt64.or_assoc]

/-! ### Bits -/

theorem ext_bits {a b : UInt64} (h : ∀ i, a.toBitVec.getLsbD i = b.toBitVec.getLsbD i) : a = b :=
  UInt64.toBitVec_inj.mp (BitVec.eq_of_getLsbD_eq fun i _ => h i)

theorem within_iff {part word : UInt64} : Within part word ↔
    ∀ i, part.toBitVec.getLsbD i = true → word.toBitVec.getLsbD i = true := by
  constructor
  · intro h i hi
    rw [← h, UInt64.toBitVec_and, BitVec.getLsbD_and, Bool.and_eq_true] at hi
    exact hi.1
  · intro h
    apply ext_bits
    intro i
    rw [UInt64.toBitVec_and, BitVec.getLsbD_and]
    cases hi : part.toBitVec.getLsbD i with
    | false => exact Bool.and_false _
    | true => rw [h i hi]; rfl

theorem apart_iff {a b : UInt64} : Apart a b ↔
    ∀ i, a.toBitVec.getLsbD i = true → b.toBitVec.getLsbD i = false := by
  constructor
  · intro h i hi
    have hbit := congrArg (fun word : UInt64 => word.toBitVec.getLsbD i) h
    simpa [hi] using hbit
  · intro h
    apply ext_bits
    intro i
    rw [UInt64.toBitVec_and, BitVec.getLsbD_and]
    cases hi : a.toBitVec.getLsbD i with
    | false => simp
    | true => rw [h i hi]; simp

theorem Within.trans {a b c : UInt64} (h : Within a b) (h' : Within b c) : Within a c :=
  within_iff.mpr fun i hi => within_iff.mp h' i (within_iff.mp h i hi)

theorem Apart.symm {a b : UInt64} (h : Apart a b) : Apart b a :=
  (UInt64.and_comm b a).trans h

theorem Apart.mono {a b a' b' : UInt64} (h : Apart a b) (ha : Within a' a) (hb : Within b' b) :
    Apart a' b' := by
  rw [apart_iff] at h ⊢
  intro i hi
  have hno := h i (within_iff.mp ha i hi)
  cases hbit : b'.toBitVec.getLsbD i with
  | false => rfl
  | true => rw [within_iff.mp hb i hbit] at hno; exact hno

/-- Each word is a part of the union. -/
theorem within_union {part : UInt64} {words : List UInt64} (h : part ∈ words) :
    Within part (union words) := by
  induction words with
  | nil => exact absurd h (by simp)
  | cons word words ih =>
    rw [union_cons, within_iff]
    intro i hi
    rw [UInt64.toBitVec_or, BitVec.getLsbD_or, Bool.or_eq_true]
    rcases List.mem_cons.mp h with rfl | h
    · exact Or.inl hi
    · exact Or.inr (within_iff.mp (ih h) i hi)

/-- What is left without the bits of a mask. -/
theorem without_within (word mask : UInt64) : Within (word &&& ~~~mask) word := by
  rw [within_iff]
  intro i hi
  rw [UInt64.toBitVec_and, BitVec.getLsbD_and, Bool.and_eq_true] at hi
  exact hi.1

theorem apart_without (word mask : UInt64) : Apart mask (word &&& ~~~mask) := by
  rw [apart_iff]
  intro i hi
  simp [hi]

theorem or_without {word mask : UInt64} (h : Within mask word) : mask ||| (word &&& ~~~mask) = word := by
  apply ext_bits
  intro i
  simp only [UInt64.toBitVec_or, UInt64.toBitVec_and, UInt64.toBitVec_not, BitVec.getLsbD_or,
    BitVec.getLsbD_and, BitVec.getLsbD_not]
  cases hi : mask.toBitVec.getLsbD i with
  | true => rw [within_iff.mp h i hi]; rfl
  | false =>
    by_cases hlt : i < 64
    · simp [hlt]
    · simp [BitVec.getLsbD_of_ge word.toBitVec i (by omega)]

/-- A mask of one bit is within a word or apart from it. -/
theorem within_of_bit {mask word : UInt64} {k : Nat}
    (hbit : ∀ i < 64, mask.toBitVec.getLsbD i = true → i = k) (h : word &&& mask ≠ 0) :
    Within mask word := by
  rw [within_iff]
  intro i hi
  by_contra hword
  apply h
  have hlt : i < 64 := by
    by_contra hge
    rw [BitVec.getLsbD_of_ge mask.toBitVec i (by omega)] at hi
    simp at hi
  have happart : Apart mask word := by
    rw [apart_iff]
    intro j hj
    have hjlt : j < 64 := by
      by_contra hge
      rw [BitVec.getLsbD_of_ge mask.toBitVec j (by omega)] at hj
      simp at hj
    rw [hbit j hjlt hj, ← hbit i hlt hi]
    exact Bool.eq_false_iff.mpr hword
  exact happart.symm

/-! ### Taking a word apart -/

variable {γ : Type} (mask : γ → UInt64)

/-- The entries whose masks are taken in the order of the table, and what is left. -/
def greedy : List γ → UInt64 → List γ × UInt64
  | [], left => ([], left)
  | entry :: table, left =>
    if mask entry ≠ 0 ∧ Within (mask entry) left then
      (entry :: (greedy table (left &&& ~~~mask entry)).1, (greedy table (left &&& ~~~mask entry)).2)
    else greedy table left

variable {mask}

theorem greedy_cons_taken {entry : γ} {table : List γ} {left : UInt64}
    (h : mask entry ≠ 0 ∧ Within (mask entry) left) : greedy mask (entry :: table) left =
      (entry :: (greedy mask table (left &&& ~~~mask entry)).1,
        (greedy mask table (left &&& ~~~mask entry)).2) := if_pos h

theorem greedy_cons_skipped {entry : γ} {table : List γ} {left : UInt64}
    (h : ¬(mask entry ≠ 0 ∧ Within (mask entry) left)) :
    greedy mask (entry :: table) left = greedy mask table left := if_neg h

/-- **Nothing is lost**: the masks that are taken and what is left make the word. -/
theorem union_greedy (table : List γ) : ∀ left : UInt64,
    union ((greedy mask table left).1.map mask) ||| (greedy mask table left).2 = left := by
  induction table with
  | nil => exact fun left => UInt64.zero_or
  | cons entry table ih =>
    intro left
    by_cases htaken : mask entry ≠ 0 ∧ Within (mask entry) left
    · rw [greedy_cons_taken htaken, List.map_cons, union_cons, UInt64.or_assoc, ih]
      exact or_without htaken.2
    · rw [greedy_cons_skipped htaken]
      exact ih left

/-- What is taken, and what is left, are parts of the word. -/
theorem within_greedy (table : List γ) : ∀ left : UInt64,
    (∀ entry ∈ (greedy mask table left).1, mask entry ≠ 0 ∧ Within (mask entry) left) ∧
      Within (greedy mask table left).2 left := by
  induction table with
  | nil => exact fun left => ⟨by simp [greedy], UInt64.and_self⟩
  | cons entry table ih =>
    intro left
    by_cases htaken : mask entry ≠ 0 ∧ Within (mask entry) left
    · rw [greedy_cons_taken htaken]
      obtain ⟨hrest, hleft⟩ := ih (left &&& ~~~mask entry)
      constructor
      · intro e he
        rcases List.mem_cons.mp he with rfl | he
        · exact htaken
        · exact ⟨(hrest e he).1, (hrest e he).2.trans (without_within _ _)⟩
      · exact hleft.trans (without_within _ _)
    · rw [greedy_cons_skipped htaken]
      exact ih left

/-- **What is taken is disjoint**, from each other and from what is left. -/
theorem pairwise_greedy (table : List γ) : ∀ left : UInt64,
    ((greedy mask table left).1.map mask ++ [(greedy mask table left).2]).Pairwise Apart := by
  induction table with
  | nil => exact fun left => List.pairwise_singleton _ _
  | cons entry table ih =>
    intro left
    by_cases htaken : mask entry ≠ 0 ∧ Within (mask entry) left
    · rw [greedy_cons_taken htaken, List.map_cons, List.cons_append, List.pairwise_cons]
      refine ⟨?_, ih _⟩
      obtain ⟨hrest, hleft⟩ : (∀ e ∈ (greedy mask table (left &&& ~~~mask entry)).1,
          mask e ≠ 0 ∧ Within (mask e) (left &&& ~~~mask entry)) ∧
          Within (greedy mask table (left &&& ~~~mask entry)).2 (left &&& ~~~mask entry) :=
        within_greedy table _
      have happart := apart_without left (mask entry)
      intro word hword
      rcases List.mem_append.mp hword with hword | hword
      · obtain ⟨e, he, rfl⟩ := List.mem_map.mp hword
        exact happart.mono UInt64.and_self (hrest e he).2
      · rw [List.mem_singleton.mp hword]
        exact happart.mono UInt64.and_self hleft
    · rw [greedy_cons_skipped htaken]
      exact ih left

/-- The entries are taken in the order of the table. -/
theorem sublist_greedy (table : List γ) : ∀ left : UInt64,
    ((greedy mask table left).1).Sublist table := by
  induction table with
  | nil => exact fun left => List.Sublist.refl _
  | cons entry table ih =>
    intro left
    by_cases htaken : mask entry ≠ 0 ∧ Within (mask entry) left
    · rw [greedy_cons_taken htaken]
      exact (ih _).cons_cons entry
    · rw [greedy_cons_skipped htaken]
      exact (ih left).cons entry

/-- A part of a word that has nothing in common with it is empty. -/
theorem Within.eq_zero {part word : UInt64} (h : Within part word) (hapart : Apart part word) :
    part = 0 := by
  have hsame : word &&& part = part := h
  rw [← hsame, UInt64.and_comm]
  exact hapart

theorem greedy_left_within (table : List γ) (left : UInt64) :
    Within (greedy mask table left).2 left := (within_greedy table left).2

/-- **Nothing more can be taken**: no mask of the table is a part of what is left. -/
theorem greedy_maximal (table : List γ) : ∀ left : UInt64, ∀ entry ∈ table, mask entry ≠ 0 →
    ¬Within (mask entry) (greedy mask table left).2 := by
  induction table with
  | nil => exact fun left entry h => absurd h (by simp)
  | cons first table ih =>
    intro left entry hentry hne hwithin
    by_cases htaken : mask first ≠ 0 ∧ Within (mask first) left
    · rw [greedy_cons_taken htaken] at hwithin
      obtain rfl | hentry := List.mem_cons.mp hentry
      · -- Its bits have been taken.
        have hrest := hwithin.trans (greedy_left_within table (left &&& ~~~mask entry))
        exact hne (hrest.eq_zero (apart_without left (mask entry)))
      · exact ih _ entry hentry hne hwithin
    · rw [greedy_cons_skipped htaken] at hwithin
      obtain rfl | hentry := List.mem_cons.mp hentry
      · -- Not all of its bits were left when it was looked at.
        exact htaken ⟨hne, hwithin.trans (greedy_left_within table left)⟩
      · exact ih left entry hentry hne hwithin

end Masks
