import Mathlib.Data.Finset.Card
import Mathlib.Data.Finset.Range
import Mathlib.Data.Nat.Bitwise
import Mathlib.Logic.Function.Iterate
import Sysgaze.Lib.BitCount

/-! # The syscall filter (`filter.h`, `filter.c`)

    A selection of syscall numbers below 512, as eight 64-bit words.
-/

namespace Sysgaze

/-- `SG_SYSCALL_LIMIT`. -/
abbrev SG_SYSCALL_LIMIT : Nat := 512

/-- `SG_FILTER_WORD_BITS`. -/
abbrev SG_FILTER_WORD_BITS : Nat := 64

/-- `SG_FILTER_WORDS`. -/
abbrev SG_FILTER_WORDS : Nat := SG_SYSCALL_LIMIT / SG_FILTER_WORD_BITS

/-- `struct sg_filter`. -/
structure Filter where
  words : Vector UInt64 SG_FILTER_WORDS
  active : Bool
  deriving DecidableEq, Repr

/-- `sg_filter_clear`. -/
def sg_filter_clear : Filter where
  words := Vector.replicate SG_FILTER_WORDS 0
  active := false

/-- `set_number`, on the words of the filter. -/
def set_number (filter : Filter) (number : Int) (enabled : Bool) : Filter :=
  if h : number < 0 ∨ SG_SYSCALL_LIMIT ≤ number.toNat then filter
  else
    have hindex : number.toNat / SG_FILTER_WORD_BITS < SG_FILTER_WORDS := by
      simp only [SG_SYSCALL_LIMIT, SG_FILTER_WORD_BITS, SG_FILTER_WORDS] at *
      omega
    let index := number.toNat / SG_FILTER_WORD_BITS
    let mask : UInt64 := 1 <<< (number.toNat % SG_FILTER_WORD_BITS).toUInt64
    let word := filter.words[index]
    { filter with
      words := filter.words.set index (if enabled then word ||| mask else word &&& ~~~mask) }

/-- `sg_filter_fill`. -/
def sg_filter_fill : Filter where
  words := Vector.replicate SG_FILTER_WORDS 0xffffffffffffffff
  active := true

/-- `sg_filter_contains`. -/
def sg_filter_contains (filter : Filter) (syscall_number : Int) : Bool :=
  if h : syscall_number < 0 ∨ SG_SYSCALL_LIMIT ≤ syscall_number.toNat then false
  else
    have hindex : syscall_number.toNat / SG_FILTER_WORD_BITS < SG_FILTER_WORDS := by
      simp only [SG_SYSCALL_LIMIT, SG_FILTER_WORD_BITS, SG_FILTER_WORDS] at *
      omega
    filter.words[syscall_number.toNat / SG_FILTER_WORD_BITS] &&&
      (1 <<< (syscall_number.toNat % SG_FILTER_WORD_BITS).toUInt64) != 0

/-- Clearing the lowest set bit of a word, as a number. -/
theorem clear_bit_toNat {word : UInt64} (h : word ≠ 0) :
    (word &&& (word - 1)).toNat = word.toNat &&& (word.toNat - 1) := by
  have hpos : 1 ≤ word := by
    rw [UInt64.le_iff_toNat_le]
    have : word.toNat ≠ 0 := fun h0 => h (UInt64.toNat_inj.mp (by simpa using h0))
    simp only [UInt64.reduceToNat]
    omega
  rw [UInt64.toNat_and, UInt64.toNat_sub_of_le _ _ hpos]
  rfl

/-- The inner loop of `sg_filter_count`: clear the lowest set bit until the
    word is zero. -/
def count_word (word : UInt64) (count : Nat) : Nat :=
  if h : word = 0 then count else count_word (word &&& (word - 1)) (count + 1)
termination_by word.toNat
decreasing_by
  rw [clear_bit_toNat h]
  exact BitCount.clear_lt fun h0 => h (UInt64.toNat_inj.mp (by simpa using h0))

/-- `sg_filter_count`. -/
def sg_filter_count (filter : Filter) : Nat :=
  filter.words.toList.foldl (fun count word => count_word word count) 0

/-! ### The filter as a set of numbers -/

theorem mask_toNat {offset : Nat} (h : offset < 64) :
    ((1 : UInt64) <<< offset.toUInt64).toNat = 2 ^ offset := by
  rw [UInt64.toNat_shiftLeft]
  have : offset.toUInt64.toNat = offset := by
    simp [Nat.toUInt64]; omega
  rw [this, Nat.mod_eq_of_lt h, show (1 : UInt64).toNat = 1 from rfl, Nat.one_shiftLeft,
    Nat.mod_eq_of_lt (Nat.pow_lt_pow_right (by omega) h)]

/-- The mask test of `sg_filter_contains` reads one bit of the word. -/
theorem mask_test (word : UInt64) {offset : Nat} (h : offset < 64) :
    (word &&& (1 <<< offset.toUInt64) != 0) = word.toNat.testBit offset := by
  have hmask := mask_toNat h
  rw [Bool.eq_iff_iff, bne_iff_ne, ne_eq, ← UInt64.toNat_inj, UInt64.toNat_and, hmask,
    Nat.and_two_pow]
  cases word.toNat.testBit offset <;> simp

/-- Setting or clearing a bit by its mask. -/
theorem mask_update (word : UInt64) (enabled : Bool) {offset bit : Nat} (h : offset < 64)
    (hbit : bit < 64) :
    (if enabled then word ||| (1 <<< offset.toUInt64)
      else word &&& ~~~(1 <<< offset.toUInt64)).toNat.testBit bit =
      if bit = offset then enabled else word.toNat.testBit bit := by
  have hmask : ((1 : UInt64) <<< offset.toUInt64).toBitVec.getLsbD bit = decide (offset = bit) := by
    show ((1 : UInt64) <<< offset.toUInt64).toNat.testBit bit = _
    rw [mask_toNat h, Nat.testBit_two_pow]
  show (if enabled then word ||| (1 <<< offset.toUInt64)
    else word &&& ~~~(1 <<< offset.toUInt64)).toBitVec.getLsbD bit = _
  cases enabled with
  | true =>
    simp only [if_true, UInt64.toBitVec_or, BitVec.getLsbD_or, hmask]
    by_cases hsame : bit = offset
    · simp [hsame]
    · simp [hsame, Ne.symm hsame]
      rfl
  | false =>
    simp only [if_false, Bool.false_eq_true, UInt64.toBitVec_and, UInt64.toBitVec_not,
      BitVec.getLsbD_and, BitVec.getLsbD_not, hmask]
    by_cases hsame : bit = offset
    · simp [hsame]
    · simp [hsame, Ne.symm hsame, hbit]
      rfl

/-- The bit of `number` in the words of the filter. -/
theorem sg_filter_contains_eq (filter : Filter) {number : Nat} (h : number < SG_SYSCALL_LIMIT) :
    sg_filter_contains filter number =
      (filter.words.toList[number / 64]?.getD 0).toNat.testBit (number % 64) := by
  unfold sg_filter_contains
  rw [dif_neg (by simp only [Int.toNat_natCast]; omega)]
  simp only [Int.toNat_natCast, SG_FILTER_WORD_BITS]
  rw [mask_test _ (by omega)]
  have hindex : number / 64 < filter.words.toList.length := by
    have hwords : filter.words.toList.length = 8 := filter.words.length_toList
    simp only [SG_SYSCALL_LIMIT] at h
    omega
  rw [List.getElem?_eq_getElem hindex]
  simp

theorem sg_filter_contains_of_ge (filter : Filter) {number : Int}
    (h : number < 0 ∨ SG_SYSCALL_LIMIT ≤ number.toNat) :
    sg_filter_contains filter number = false := by
  unfold sg_filter_contains
  rw [dif_pos h]

/-- **Setting a number** changes the answer for that number only. -/
theorem sg_filter_contains_set_number (filter : Filter) (number syscall_number : Int)
    (enabled : Bool) : sg_filter_contains (set_number filter number enabled) syscall_number =
      if syscall_number = number ∧ 0 ≤ number ∧ number < SG_SYSCALL_LIMIT then enabled
      else sg_filter_contains filter syscall_number := by
  have hlimit : SG_SYSCALL_LIMIT = 512 := rfl
  by_cases hrange : syscall_number < 0 ∨ SG_SYSCALL_LIMIT ≤ syscall_number.toNat
  · rw [sg_filter_contains_of_ge _ hrange, sg_filter_contains_of_ge _ hrange, if_neg (by omega)]
  · unfold set_number
    split
    · rename_i hnumber
      rw [if_neg (by omega)]
    · rename_i hnumber
      have hbits : SG_FILTER_WORD_BITS = 64 := rfl
      obtain ⟨n, rfl⟩ := Int.eq_ofNat_of_zero_le (show 0 ≤ syscall_number by omega)
      obtain ⟨m, rfl⟩ := Int.eq_ofNat_of_zero_le (show 0 ≤ number by omega)
      have hwords : m / 64 < filter.words.toList.length := by
        rw [filter.words.length_toList]
        show m / 64 < 8
        omega
      rw [sg_filter_contains_eq _ (by omega), sg_filter_contains_eq _ (by omega)]
      simp only [Int.toNat_natCast, hbits, Vector.toList_set, List.getElem?_set]
      by_cases hword : m / 64 = n / 64
      · rw [if_pos hword, if_pos hwords, Option.getD_some, mask_update _ _ (by omega) (by omega),
          ← hword, List.getElem?_eq_getElem hwords, Option.getD_some, Vector.getElem_toList]
        by_cases hsame : n % 64 = m % 64
        · rw [if_pos hsame, if_pos (by omega)]
        · rw [if_neg hsame, if_neg (by omega)]
      · rw [if_neg hword, if_neg (by omega)]

/-- A filter is what it contains. -/
theorem filter_ext {filter filter' : Filter} (hactive : filter.active = filter'.active)
    (h : ∀ number : Int, sg_filter_contains filter number = sg_filter_contains filter' number) :
    filter = filter' := by
  obtain ⟨words, active⟩ := filter
  obtain ⟨words', active'⟩ := filter'
  have hwords : words = words' := by
    apply Vector.ext
    intro i hi
    have hlt : i < 8 := hi
    have hword : ∀ words : Vector UInt64 SG_FILTER_WORDS, words.toList[i]?.getD 0 = words[i] := by
      intro words
      have hlength : i < words.toList.length := by rwa [words.length_toList]
      rw [List.getElem?_eq_getElem hlength, Option.getD_some, Vector.getElem_toList]
    rw [← UInt64.toNat_inj]
    apply Nat.eq_of_testBit_eq
    intro bit
    by_cases hbit : bit < 64
    · have hsame := h ((64 * i + bit : Nat) : Int)
      rw [sg_filter_contains_eq _ (show 64 * i + bit < 512 by omega),
        sg_filter_contains_eq _ (show 64 * i + bit < 512 by omega),
        (by omega : (64 * i + bit) / 64 = i), (by omega : (64 * i + bit) % 64 = bit)] at hsame
      exact (hword words) ▸ (hword words') ▸ hsame
    · rw [Nat.testBit_lt_two_pow, Nat.testBit_lt_two_pow]
      · exact lt_of_lt_of_le (UInt64.toNat_lt _) (Nat.pow_le_pow_right (by omega) (by omega))
      · exact lt_of_lt_of_le (UInt64.toNat_lt _) (Nat.pow_le_pow_right (by omega) (by omega))
  rw [hwords, show active = active' from hactive]

theorem count_word_eq (word : UInt64) (count : Nat) :
    count_word word count = BitCount.clearCount word.toNat count := by
  induction word, count using count_word.induct with
  | case1 count => simp [count_word, BitCount.clearCount]
  | case2 word count h ih =>
    have hne : word.toNat ≠ 0 := fun h0 => h (UInt64.toNat_inj.mp (by simpa using h0))
    rw [count_word, dif_neg h, ih, clear_bit_toNat h, BitCount.clearCount.eq_def word.toNat,
      dif_neg hne]

theorem count_word_add (word : UInt64) (count : Nat) :
    count_word word count = count + BitCount.bitCount 64 word.toNat := by
  rw [count_word_eq, BitCount.clearCount_eq word.toNat_lt]

/-- **The count is the size of the set**: `sg_filter_count` counts the numbers
    below 512 that `sg_filter_contains` accepts. -/
theorem sg_filter_count_eq (filter : Filter) :
    sg_filter_count filter =
      (List.range SG_SYSCALL_LIMIT).countP fun number : Nat => sg_filter_contains filter number := by
  -- The bits of the words, as numbers.
  obtain ⟨words, hwords⟩ : ∃ words, words = filter.words.toList.map UInt64.toNat := ⟨_, rfl⟩
  have hlimit : 64 * words.length = SG_SYSCALL_LIMIT := by
    rw [hwords, List.length_map, filter.words.length_toList]; rfl
  have hcontains : ∀ number ∈ List.range SG_SYSCALL_LIMIT,
      sg_filter_contains filter number = (words[number / 64]?.getD 0).testBit (number % 64) := by
    intro number hn
    rw [sg_filter_contains_eq filter (List.mem_range.mp hn), hwords, List.getElem?_map]
    cases filter.words.toList[number / 64]? <;> simp
  calc sg_filter_count filter
      = (words.map (BitCount.bitCount 64)).sum := by
        rw [sg_filter_count, hwords, List.map_map]
        simp only [count_word_add]
        exact BitCount.foldl_add _ _
    _ = (List.range SG_SYSCALL_LIMIT).countP fun number =>
          (words[number / 64]?.getD 0).testBit (number % 64) := by
        rw [← BitCount.countP_words 64 (by decide) words, hlimit]
    _ = _ := List.countP_congr fun number hn => by rw [hcontains number hn]

/-- One round of the inner loop of `sg_filter_count`. -/
def clear_lowest (word : UInt64) : UInt64 := word &&& (word - 1)

/-- The loop reaches zero, in as many rounds as it counts. -/
theorem count_word_rounds (word : UInt64) (count : Nat) :
    ∃ rounds, clear_lowest^[rounds] word = 0 ∧ count_word word count = count + rounds := by
  induction word, count using count_word.induct with
  | case1 count => exact ⟨0, rfl, by simp [count_word]⟩
  | case2 word count h ih =>
    obtain ⟨rounds, hzero, hcount⟩ := ih
    refine ⟨rounds + 1, hzero, ?_⟩
    rw [count_word, dif_neg h, hcount]
    omega

/-- A word is zero after as many rounds as it has bits. -/
theorem clear_lowest_rounds (word : UInt64) :
    clear_lowest^[BitCount.bitCount 64 word.toNat] word = 0 := by
  obtain ⟨rounds, hzero, hcount⟩ := count_word_rounds word 0
  rw [count_word_add] at hcount
  have hrounds : rounds = BitCount.bitCount 64 word.toNat := by omega
  rwa [← hrounds]

/-- The numbers that are selected. -/
def Filter.numbers (filter : Filter) : Set Int :=
  {number | sg_filter_contains filter number = true}

theorem countP_range (n : Nat) (p : Nat → Bool) :
    (List.range n).countP p = ((Finset.range n).filter fun i => p i).card := by
  have hset : (Finset.range n).filter (fun i => p i) = ((List.range n).filter p).toFinset := by
    ext i
    simp
  rw [hset, List.toFinset_card_of_nodup (List.nodup_range.filter p), List.countP_eq_length_filter]

/-- **The words are a set** of numbers below 512: they are counted, in at most 64 rounds
    for a word, and a number is put in or taken out without touching another. -/
theorem filter_is_set (filter : Filter) :
    (∀ number ∈ filter.numbers, 0 ≤ number ∧ number < 512) ∧
    sg_filter_count filter =
      ((Finset.range 512).filter fun number : Nat => sg_filter_contains filter number).card ∧
    (∀ word ∈ filter.words.toList, ∃ rounds ≤ 64, clear_lowest^[rounds] word = 0 ∧
      ∀ count, count_word word count = count + rounds) ∧
    ∀ number : Int, if 0 ≤ number ∧ number < 512
      then (set_number filter number true).numbers = insert number filter.numbers ∧
        (set_number filter number false).numbers = filter.numbers \ {number}
      else ∀ enabled, set_number filter number enabled = filter := by
  have hlimit : SG_SYSCALL_LIMIT = 512 := rfl
  refine ⟨?_, ?_, ?_, ?_⟩
  · intro number hmem
    by_contra hrange
    have hno := sg_filter_contains_of_ge filter (show number < 0 ∨ SG_SYSCALL_LIMIT ≤ number.toNat by omega)
    rw [Filter.numbers, Set.mem_ofPred_eq, hno] at hmem
    cases hmem
  · rw [sg_filter_count_eq]
    exact countP_range _ _
  · intro word _
    exact ⟨BitCount.bitCount 64 word.toNat, BitCount.bitCount_le 64 _, clear_lowest_rounds word,
      count_word_add word⟩
  · intro number
    split
    · rename_i hrange
      constructor
      · ext other
        simp only [Filter.numbers, Set.mem_ofPred_eq, Set.mem_insert_iff,
          sg_filter_contains_set_number, hlimit]
        by_cases hsame : other = number
        · simp [hsame, hrange]
        · simp [hsame]
      · ext other
        simp only [Filter.numbers, Set.mem_ofPred_eq, Set.mem_sdiff, Set.mem_singleton_iff,
          sg_filter_contains_set_number, hlimit]
        by_cases hsame : other = number
        · simp [hsame, hrange]
        · simp [hsame]
    · intro enabled
      unfold set_number
      rw [dif_pos (by omega)]

end Sysgaze
