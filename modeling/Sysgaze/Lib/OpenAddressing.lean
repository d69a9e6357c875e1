import Mathlib.Data.List.Basic
import Mathlib.Data.Set.Card
import Mathlib.Tactic.Common

/-! # Open addressing with linear probing and tombstones

    A hash table kept in one flat list of slots.  A key is searched for from
    its hash slot onwards, one slot at a time and around the end of the list,
    until its record or an empty slot is met.  A removed record leaves a
    tombstone, which a search walks over and which the next insertion of an
    absent key may reuse.

    The file is generic in the record type, the key and the hash function:

    * `probe` is the search loop, run with explicit fuel, and `Stops` the
      same loop without;
    * `Valid` is the invariant: every record can be reached from its hash
      slot without crossing an empty slot, and no key has two records;
    * `probe_spec` says what the loop returns on a valid table with an
      empty slot, and that it does return;
    * `Valid.put`, `Valid.erase`, `Valid.replace` say that the three ways of
      writing a slot keep the invariant, and `lookup_put`, `lookup_erase`,
      `lookup_replace` what each does to the map the table stands for.
-/

namespace OpenAddressing

/-- One slot of the table. -/
inductive Slot (α : Type*) where
  | empty
  | occupied (record : α)
  | tombstone
  deriving DecidableEq, Repr

namespace Slot

variable {α : Type*}

/-- The record of an occupied slot. -/
def record? : Slot α → Option α
  | .occupied a => some a
  | _ => none

@[simp] theorem record?_empty : (Slot.empty : Slot α).record? = none := rfl
@[simp] theorem record?_tombstone : (Slot.tombstone : Slot α).record? = none := rfl
@[simp] theorem record?_occupied (a : α) : (Slot.occupied a).record? = some a := rfl

@[simp] theorem record?_eq_some {s : Slot α} {a : α} :
    s.record? = some a ↔ s = .occupied a := by
  cases s <;> simp

/-- Is this slot empty? -/
def isEmpty : Slot α → Bool
  | .empty => true
  | _ => false

/-- Does this slot hold a record? -/
def isOccupied : Slot α → Bool
  | .occupied _ => true
  | _ => false

/-- Is this slot a tombstone? -/
def isTombstone : Slot α → Bool
  | .tombstone => true
  | _ => false

@[simp] theorem isOccupied_empty : (Slot.empty : Slot α).isOccupied = false := rfl
@[simp] theorem isOccupied_tombstone : (Slot.tombstone : Slot α).isOccupied = false := rfl
@[simp] theorem isOccupied_occupied (a : α) : (Slot.occupied a).isOccupied = true := rfl
@[simp] theorem isTombstone_empty : (Slot.empty : Slot α).isTombstone = false := rfl
@[simp] theorem isTombstone_tombstone : (Slot.tombstone : Slot α).isTombstone = true := rfl
@[simp] theorem isTombstone_occupied (a : α) : (Slot.occupied a).isTombstone = false := rfl

end Slot

/-! ### The search loop -/

variable {α κ : Type*}

/-- The search loop: look at slot `index`, then at `next index`, and so on,
    until an empty slot or a record accepted by `wanted` is met.  The result
    is a slot and whether it holds a wanted record; for an absent record it
    is the first tombstone met, or else the empty slot.  `none` means that the
    fuel ran out or that an index left the table. -/
def probe (slots : List (Slot α)) (wanted : α → Bool) (next : Nat → Nat) :
    Nat → Nat → Option Nat → Option (Nat × Bool)
  | 0, _, _ => none
  | fuel + 1, index, firstTombstone =>
    match slots[index]? with
    | none => none
    | some .empty => some (firstTombstone.getD index, false)
    | some (.occupied a) =>
      if wanted a then some (index, true)
      else probe slots wanted next fuel (next index) firstTombstone
    | some .tombstone =>
      probe slots wanted next fuel (next index) (firstTombstone <|> some index)

/-- The search loop itself, which counts no rounds: started at slot `index`, it stops in
    its `n`-th round with the result `r`. -/
inductive Stops (slots : List (Slot α)) (wanted : α → Bool) (next : Nat → Nat) :
    Nat → Option Nat → Nat → Nat × Bool → Prop where
  /-- An empty slot ends the search. -/
  | empty {index t} : slots[index]? = some .empty →
      Stops slots wanted next index t 1 (t.getD index, false)
  /-- So does a wanted record. -/
  | wanted {index t a} : slots[index]? = some (.occupied a) → wanted a = true →
      Stops slots wanted next index t 1 (index, true)
  | other {index t a n r} : slots[index]? = some (.occupied a) → wanted a = false →
      Stops slots wanted next (next index) t n r → Stops slots wanted next index t (n + 1) r
  | tombstone {index t n r} : slots[index]? = some .tombstone →
      Stops slots wanted next (next index) (t <|> some index) n r →
      Stops slots wanted next index t (n + 1) r

/-- The search returns on some fuel if and only if its loop stops within that many rounds. -/
theorem probe_eq_some_iff {slots : List (Slot α)} {wanted : α → Bool} {next : Nat → Nat}
    {r : Nat × Bool} : ∀ {fuel index : Nat} {t : Option Nat},
    probe slots wanted next fuel index t = some r ↔
      ∃ n ≤ fuel, Stops slots wanted next index t n r := by
  intro fuel
  induction fuel with
  | zero =>
    intro index t
    constructor
    · intro h
      simp [probe] at h
    · rintro ⟨n, hn, hstops⟩
      cases hstops <;> omega
  | succ fuel ih =>
    intro index t
    constructor
    · intro h
      unfold probe at h
      split at h
      · simp at h
      · next hslot =>
        rw [← Option.some.inj h]
        exact ⟨1, by omega, .empty hslot⟩
      · next a hslot =>
        by_cases hwanted : wanted a = true
        · rw [if_pos hwanted] at h
          rw [← Option.some.inj h]
          exact ⟨1, by omega, .wanted hslot hwanted⟩
        · rw [if_neg hwanted] at h
          obtain ⟨n, hn, hstops⟩ := ih.mp h
          exact ⟨n + 1, by omega, .other hslot (Bool.eq_false_iff.mpr hwanted) hstops⟩
      · next hslot =>
        obtain ⟨n, hn, hstops⟩ := ih.mp h
        exact ⟨n + 1, by omega, .tombstone hslot hstops⟩
    · rintro ⟨n, hn, hstops⟩
      cases hstops with
      | empty hslot => simp only [probe, hslot]
      | wanted hslot hwanted => simp only [probe, hslot, hwanted, if_true]
      | other hslot hother hrest =>
        simp only [probe, hslot, hother, Bool.false_eq_true, if_false]
        exact ih.mpr ⟨_, by omega, hrest⟩
      | tombstone hslot hrest =>
        simp only [probe, hslot]
        exact ih.mpr ⟨_, by omega, hrest⟩

/-! ### The map a table stands for -/

section map
variable [DecidableEq κ] (key : α → κ)

/-- The record stored under a key. -/
def lookup (slots : List (Slot α)) (k : κ) : Option α :=
  slots.findSome? fun s => s.record?.filter fun a => key a = k

/-- The records of the table, in slot order. -/
def records (slots : List (Slot α)) : List α :=
  slots.filterMap Slot.record?

theorem mem_records {slots : List (Slot α)} {a : α} :
    a ∈ records slots ↔ ∃ i : Nat, slots[i]? = some (.occupied a) := by
  simp only [records, List.mem_filterMap, Slot.record?_eq_some, exists_eq_right]
  exact List.mem_iff_getElem?

theorem lookup_isSome_iff {slots : List (Slot α)} {k : κ} :
    (lookup key slots k).isSome ↔
      ∃ (i : Nat) (a : α), slots[i]? = some (.occupied a) ∧ key a = k := by
  rw [lookup, List.findSome?_isSome_iff]
  constructor
  · rintro ⟨s, hs, h⟩
    cases s with
    | empty => simp at h
    | tombstone => simp at h
    | occupied a =>
      obtain ⟨i, hi⟩ := List.mem_iff_getElem?.mp hs
      exact ⟨i, a, hi, by simpa using h⟩
  · rintro ⟨i, a, hi, hk⟩
    exact ⟨.occupied a, List.mem_iff_getElem?.mpr ⟨i, hi⟩, by simp [hk]⟩

/-- What a lookup returns is a record of the table under that key. -/
theorem lookup_eq_some {slots : List (Slot α)} {k : κ} {a : α}
    (h : lookup key slots k = some a) :
    (∃ i : Nat, slots[i]? = some (.occupied a)) ∧ key a = k := by
  obtain ⟨s, hs, hf⟩ := List.exists_of_findSome?_eq_some h
  rw [Option.filter_eq_some_iff] at hf
  obtain ⟨hr, hk⟩ := hf
  rw [Slot.record?_eq_some] at hr
  exact ⟨List.mem_iff_getElem?.mp (hr ▸ hs), by simpa using hk⟩

/-! ### The invariant -/

/-- No slot among the first `j` on the probe path from `h` is empty. -/
def Passes (slots : List (Slot α)) (h j : Nat) : Prop :=
  ∀ i < j, slots[(h + i) % slots.length]? ≠ some .empty

/-- The table invariant: every record is reached from its hash slot without
    crossing an empty slot, and no key has two records. -/
structure Valid (hash : κ → Nat) (slots : List (Slot α)) : Prop where
  /-- Every record lies on the probe path of its key. -/
  reachable : ∀ (i : Nat) (a : α), slots[i]? = some (.occupied a) →
    ∃ j < slots.length, (hash (key a) + j) % slots.length = i ∧
      Passes slots (hash (key a)) j
  /-- No key occupies two slots. -/
  distinct : ∀ (i i' : Nat) (a a' : α), slots[i]? = some (.occupied a) →
    slots[i']? = some (.occupied a') → key a = key a' → i = i'

variable {key} {hash : κ → Nat} {slots : List (Slot α)}

/-- In a valid table a lookup finds exactly the stored records. -/
theorem Valid.lookup_eq_some_iff (hv : Valid key hash slots) {k : κ} {a : α} :
    lookup key slots k = some a ↔
      (∃ i : Nat, slots[i]? = some (.occupied a)) ∧ key a = k := by
  refine ⟨lookup_eq_some key, ?_⟩
  rintro ⟨⟨i, hi⟩, hk⟩
  have hsome : (lookup key slots k).isSome := (lookup_isSome_iff key).mpr ⟨i, a, hi, hk⟩
  obtain ⟨b, hb⟩ := Option.isSome_iff_exists.mp hsome
  obtain ⟨⟨i', hi'⟩, hk'⟩ := lookup_eq_some key hb
  have : i = i' := hv.distinct i i' a b hi hi' (hk.trans hk'.symm)
  subst this
  rw [hi] at hi'
  simp only [Option.some.injEq, Slot.occupied.injEq] at hi'
  rw [hb, hi']

theorem lookup_eq_none_iff {k : κ} :
    lookup key slots k = none ↔
      ∀ (i : Nat) (a : α), slots[i]? = some (.occupied a) → key a ≠ k := by
  rw [← Option.not_isSome_iff_eq_none, lookup_isSome_iff]
  push Not
  rfl

/-- The records are exactly the values of the map. -/
theorem Valid.mem_records_iff (hv : Valid key hash slots) {a : α} :
    a ∈ records slots ↔ lookup key slots (key a) = some a := by
  rw [mem_records, hv.lookup_eq_some_iff]
  simp

/-! ### Probe positions -/

/-- Every slot is on the probe path that starts at `h`. -/
theorem exists_offset {n h i : Nat} (hi : i < n) : ∃ j < n, (h + j) % n = i := by
  have hn : 0 < n := by omega
  have hlt : h % n < n := Nat.mod_lt _ hn
  refine ⟨(i + n - h % n) % n, Nat.mod_lt _ hn, ?_⟩
  calc (h + (i + n - h % n) % n) % n
      = (h % n + (i + n - h % n)) % n := by rw [Nat.add_mod_mod, Nat.mod_add_mod]
    _ = (i + n) % n := by rw [show h % n + (i + n - h % n) = i + n by omega]
    _ = i := by rw [Nat.add_mod_right, Nat.mod_eq_of_lt hi]

theorem succ_position (n h j : Nat) : ((h + j) % n + 1) % n = (h + (j + 1)) % n := by
  rw [Nat.mod_add_mod]
  rfl

/-! ### What the search returns -/

/-- The result of a search for `k`: either the slot of its record, or, when the
    table has no record under `k`, a slot on the probe path of `k` that does
    not hold a record. -/
def Found (key : α → κ) (hash : κ → Nat) (slots : List (Slot α)) (k : κ) :
    Nat × Bool → Prop
  | (i, true) => ∃ a, slots[i]? = some (.occupied a) ∧ key a = k
  | (i, false) => lookup key slots k = none ∧
      (slots[i]? = some .empty ∨ slots[i]? = some .tombstone) ∧
      ∃ j < slots.length, (hash k + j) % slots.length = i ∧ Passes slots (hash k) j

/-- Loop invariant of the search after `j` steps from the hash slot of `k`. -/
structure Searching (key : α → κ) (hash : κ → Nat) (slots : List (Slot α)) (k : κ)
    (j : Nat) (firstTombstone : Option Nat) : Prop where
  /-- No empty slot has been met. -/
  passes : Passes slots (hash k) j
  /-- No record under `k` has been met. -/
  absent : ∀ i < j, ∀ a, slots[(hash k + i) % slots.length]? = some (.occupied a) →
    key a ≠ k
  /-- The tombstone remembered lies on the path walked so far. -/
  tombstone : ∀ t, firstTombstone = some t → slots[t]? = some .tombstone ∧
    ∃ i < j, (hash k + i) % slots.length = t

/-- Meeting an empty slot proves that the key is absent from the whole table. -/
theorem Searching.lookup_eq_none (hv : Valid key hash slots) {k : κ} {j : Nat}
    {t : Option Nat} (hs : Searching key hash slots k j t)
    (hempty : slots[(hash k + j) % slots.length]? = some .empty) :
    lookup key slots k = none := by
  rw [lookup_eq_none_iff]
  intro i a hi hk
  obtain ⟨j', hj', hpos, hpass⟩ := hv.reachable i a hi
  rw [hk] at hpos hpass
  rcases Nat.lt_trichotomy j' j with hlt | heq | hgt
  · -- The record was walked over, but no record under `k` was met.
    exact hs.absent j' hlt a (by rw [hpos]; exact hi) hk
  · rw [← heq, hpos, hi] at hempty
    simp at hempty
  · -- The empty slot would block the path to the record.
    exact hpass j hgt hempty

/-- The loop, started after `j` steps, returns and its result is right. -/
theorem probe_loop (hv : Valid key hash slots) {k : κ} {wanted : α → Bool}
    (hwanted : ∀ a, wanted a = true ↔ key a = k) {next : Nat → Nat}
    (hnext : ∀ i < slots.length, next i = (i + 1) % slots.length)
    (hempty : ∃ i : Nat, slots[i]? = some .empty) :
    ∀ (fuel j : Nat) (t : Option Nat), j + fuel = slots.length →
      Searching key hash slots k j t →
      ∃ r, probe slots wanted next fuel ((hash k + j) % slots.length) t = some r ∧
        Found key hash slots k r := by
  obtain ⟨e, he⟩ := hempty
  have helt : e < slots.length := by
    by_contra hge
    rw [List.getElem?_eq_none (by omega)] at he
    simp at he
  have hpos : 0 < slots.length := by omega
  intro fuel
  induction fuel with
  | zero =>
    -- All slots have been passed, so none is empty.
    intro j t hj hs
    obtain ⟨i, hi, hie⟩ := exists_offset (h := hash k) helt
    exact absurd (by rw [hie]; exact he) (hs.passes i (by omega))
  | succ fuel ih =>
    intro j t hj hs
    have hlt : (hash k + j) % slots.length < slots.length := Nat.mod_lt _ hpos
    have hstep : next ((hash k + j) % slots.length) = (hash k + (j + 1)) % slots.length := by
      rw [hnext _ hlt, succ_position]
    cases hslot : slots[(hash k + j) % slots.length]? with
    | none =>
      rw [List.getElem?_eq_none_iff] at hslot
      omega
    | some s =>
      cases s with
      | empty =>
        have hnone := hs.lookup_eq_none hv hslot
        simp only [probe, hslot]
        cases t with
        | none => exact ⟨_, rfl, hnone, Or.inl hslot, j, by omega, rfl, hs.passes⟩
        | some t =>
          obtain ⟨htomb, i, hij, hit⟩ := hs.tombstone t rfl
          exact ⟨_, rfl, hnone, Or.inr htomb, i, by omega, hit,
            fun i' hi' => hs.passes i' (by omega)⟩
      | occupied a =>
        simp only [probe, hslot]
        by_cases hk : key a = k
        · rw [if_pos ((hwanted a).mpr hk)]
          exact ⟨_, rfl, a, hslot, hk⟩
        · rw [if_neg (by simpa using (hwanted a).not.mpr hk), hstep]
          refine ih (j + 1) t (by omega) ⟨?_, ?_, ?_⟩
          · intro i hi
            rcases Nat.lt_succ_iff_lt_or_eq.mp hi with h | rfl
            · exact hs.passes i h
            · rw [hslot]; simp
          · intro i hi b hb
            rcases Nat.lt_succ_iff_lt_or_eq.mp hi with h | rfl
            · exact hs.absent i h b hb
            · rw [hslot] at hb
              simp only [Option.some.injEq, Slot.occupied.injEq] at hb
              exact hb ▸ hk
          · intro t' ht'
            obtain ⟨h, i, hi, hit⟩ := hs.tombstone t' ht'
            exact ⟨h, i, by omega, hit⟩
      | tombstone =>
        simp only [probe, hslot]
        rw [hstep]
        refine ih (j + 1) _ (by omega) ⟨?_, ?_, ?_⟩
        · intro i hi
          rcases Nat.lt_succ_iff_lt_or_eq.mp hi with h | rfl
          · exact hs.passes i h
          · rw [hslot]; simp
        · intro i hi b hb
          rcases Nat.lt_succ_iff_lt_or_eq.mp hi with h | rfl
          · exact hs.absent i h b hb
          · rw [hslot] at hb; simp at hb
        · intro t' ht'
          cases t with
          | none =>
            simp only [Option.orElse_eq_orElse, Option.orElse_none, Option.some.injEq] at ht'
            exact ⟨ht' ▸ hslot, j, by omega, ht'⟩
          | some t₀ =>
            simp only [Option.orElse_eq_orElse, Option.orElse_some, Option.some.injEq] at ht'
            obtain ⟨h, i, hi, hit⟩ := hs.tombstone t₀ rfl
            exact ⟨ht' ▸ h, i, by omega, ht' ▸ hit⟩

/-- **The search returns**, and its result is right, on every valid table that
    has an empty slot. -/
theorem probe_spec (hv : Valid key hash slots) {k : κ} {wanted : α → Bool}
    (hwanted : ∀ a, wanted a = true ↔ key a = k) {next : Nat → Nat}
    (hnext : ∀ i < slots.length, next i = (i + 1) % slots.length)
    (hempty : ∃ i : Nat, slots[i]? = some .empty) :
    ∃ r, probe slots wanted next slots.length (hash k % slots.length) none = some r ∧
      Found key hash slots k r := by
  refine probe_loop hv hwanted hnext hempty slots.length 0 none (by omega) ⟨?_, ?_, ?_⟩
  · intro i hi; omega
  · intro i hi; omega
  · intro t ht; simp at ht

/-! ### Writing a slot -/

/-- Writing a slot that is not emptied only shortens no probe path. -/
theorem Passes.set {h j i : Nat} {s : Slot α} (hp : Passes slots h j)
    (hs : s ≠ .empty) : Passes (slots.set i s) h j := by
  intro m hm
  rw [List.length_set, List.getElem?_set]
  split
  · split
    · simpa using hs
    · simp
  · exact hp m hm

/-- Placing the record of an absent key in the slot its search returned keeps the
    table valid. -/
theorem Valid.put (hv : Valid key hash slots) {a : α} {i : Nat}
    (hf : Found key hash slots (key a) (i, false)) :
    Valid key hash (slots.set i (.occupied a)) := by
  obtain ⟨hnone, -, j, hj, hpos, hpass⟩ := hf
  rw [lookup_eq_none_iff] at hnone
  have hi : i < slots.length := by rw [← hpos]; exact Nat.mod_lt _ (by omega)
  constructor
  · intro i' b hb
    rw [List.getElem?_set] at hb
    split at hb
    · next heq =>
      simp only [Option.some.injEq, Slot.occupied.injEq] at hb
      subst heq hb
      exact ⟨j, by simpa using hj, by simpa using hpos, hpass.set (by simp)⟩
    · obtain ⟨j', hj', hpos', hpass'⟩ := hv.reachable i' b hb
      exact ⟨j', by simpa using hj', by simpa using hpos', hpass'.set (by simp)⟩
  · intro i₁ i₂ b₁ b₂ h₁ h₂ hkey
    rw [List.getElem?_set] at h₁ h₂
    split at h₁ <;> split at h₂
    · omega
    · simp only [Option.some.injEq, Slot.occupied.injEq] at h₁
      exact absurd (h₁ ▸ hkey.symm) (hnone _ _ h₂)
    · simp only [Option.some.injEq, Slot.occupied.injEq] at h₂
      exact absurd (h₂ ▸ hkey) (hnone _ _ h₁)
    · exact hv.distinct _ _ _ _ h₁ h₂ hkey

omit [DecidableEq κ] in
/-- Leaving a tombstone in place of a record keeps the table valid. -/
theorem Valid.erase (hv : Valid key hash slots) (i : Nat) :
    Valid key hash (slots.set i .tombstone) := by
  have hold : ∀ (i' : Nat) (b : α), (slots.set i .tombstone)[i']? = some (.occupied b) →
      slots[i']? = some (.occupied b) := by
    intro i' b hb
    rw [List.getElem?_set] at hb
    split at hb
    · split at hb <;> simp at hb
    · exact hb
  constructor
  · intro i' b hb
    obtain ⟨j, hj, hpos, hpass⟩ := hv.reachable i' b (hold i' b hb)
    exact ⟨j, by simpa using hj, by simpa using hpos, hpass.set (by simp)⟩
  · intro i₁ i₂ b₁ b₂ h₁ h₂ hkey
    exact hv.distinct _ _ _ _ (hold _ _ h₁) (hold _ _ h₂) hkey

omit [DecidableEq κ] in
/-- Overwriting a record by one with the same key keeps the table valid. -/
theorem Valid.replace (hv : Valid key hash slots) {i : Nat} {a b : α}
    (hi : slots[i]? = some (.occupied a)) (hk : key b = key a) :
    Valid key hash (slots.set i (.occupied b)) := by
  have hlt : i < slots.length := (List.getElem?_eq_some_iff.mp hi).1
  -- Every record of the new table has a record with the same key in the same slot of the old.
  have hold : ∀ (i' : Nat) (c : α), (slots.set i (.occupied b))[i']? = some (.occupied c) →
      ∃ c', slots[i']? = some (.occupied c') ∧ key c' = key c := by
    intro i' c hc
    rw [List.getElem?_set] at hc
    split at hc
    · next heq =>
      simp only [Option.some.injEq, Slot.occupied.injEq] at hc
      exact ⟨a, heq ▸ hi, by rw [← hc, hk]⟩
    · exact ⟨c, hc, rfl⟩
  constructor
  · intro i' c hc
    obtain ⟨c', hc', hkey⟩ := hold i' c hc
    obtain ⟨j, hj, hpos, hpass⟩ := hv.reachable i' c' hc'
    rw [hkey] at hpos hpass
    exact ⟨j, by simpa using hj, by simpa using hpos, hpass.set (by simp)⟩
  · intro i₁ i₂ c₁ c₂ h₁ h₂ hkey
    obtain ⟨c₁', h₁', hk₁⟩ := hold _ _ h₁
    obtain ⟨c₂', h₂', hk₂⟩ := hold _ _ h₂
    exact hv.distinct _ _ _ _ h₁' h₂' (by rw [hk₁, hk₂, hkey])

/-! ### The map after a write -/

theorem lookup_put (hv : Valid key hash slots) {a : α} {i : Nat}
    (hf : Found key hash slots (key a) (i, false)) (k : κ) :
    lookup key (slots.set i (.occupied a)) k =
      if k = key a then some a else lookup key slots k := by
  have hv' := hv.put hf
  have hi : i < slots.length := by
    obtain ⟨-, -, j, hj, hpos, -⟩ := hf
    rw [← hpos]; exact Nat.mod_lt _ (by omega)
  have hfree : ∀ b, slots[i]? ≠ some (.occupied b) := by
    obtain ⟨-, h | h, -⟩ := hf <;> intro b <;> rw [h] <;> simp
  ext b
  rw [hv'.lookup_eq_some_iff]
  split
  · next heq =>
    constructor
    · rintro ⟨⟨i', hi'⟩, hk⟩
      have hself : (slots.set i (.occupied a))[i]? = some (.occupied a) := by
        rw [List.getElem?_set_self hi]
      have : i = i' := hv'.distinct i i' a b hself hi' (by rw [hk, heq])
      subst this
      rw [hself] at hi'
      simpa using hi'
    · intro hab
      simp only [Option.some.injEq] at hab
      exact ⟨⟨i, by rw [List.getElem?_set_self hi, hab]⟩, by rw [← hab, heq]⟩
  · next hne =>
    rw [hv.lookup_eq_some_iff]
    refine and_congr_left fun hk => ?_
    constructor
    · rintro ⟨i', hi'⟩
      rw [List.getElem?_set] at hi'
      split at hi'
      · simp only [Option.some.injEq, Slot.occupied.injEq] at hi'
        exact absurd (by rw [← hk, hi']) hne
      · exact ⟨i', hi'⟩
    · rintro ⟨i', hi'⟩
      have hne' : i ≠ i' := fun h => hfree b (h ▸ hi')
      exact ⟨i', by rw [List.getElem?_set_ne hne']; exact hi'⟩

theorem lookup_erase (hv : Valid key hash slots) {a : α} {i : Nat}
    (hi : slots[i]? = some (.occupied a)) (k : κ) :
    lookup key (slots.set i .tombstone) k =
      if k = key a then none else lookup key slots k := by
  have hv' := hv.erase i
  ext b
  rw [hv'.lookup_eq_some_iff]
  have hold : ∀ (i' : Nat), (slots.set i .tombstone)[i']? = some (.occupied b) ↔
      i ≠ i' ∧ slots[i']? = some (.occupied b) := by
    intro i'
    rw [List.getElem?_set]
    split
    · next h =>
      constructor
      · intro hb
        split at hb <;> simp at hb
      · rintro ⟨hne, -⟩; exact absurd h hne
    · next h => simp [h]
  simp only [hold]
  split
  · next heq =>
    constructor
    · rintro ⟨⟨i', hne, hi'⟩, hk⟩
      exact absurd (hv.distinct i i' a b hi hi' (by rw [hk, heq])) hne
    · intro h; simp at h
  · next hne =>
    rw [hv.lookup_eq_some_iff]
    refine and_congr_left fun hk => ⟨fun h => h.imp fun _ h => h.2, fun h => ?_⟩
    rcases h with ⟨i', hi'⟩
    refine ⟨i', ?_, hi'⟩
    rintro rfl
    rw [hi] at hi'
    simp only [Option.some.injEq, Slot.occupied.injEq] at hi'
    exact hne (by rw [← hk, hi'])

theorem lookup_replace (hv : Valid key hash slots) {i : Nat} {a b : α}
    (hi : slots[i]? = some (.occupied a)) (hk : key b = key a) (k : κ) :
    lookup key (slots.set i (.occupied b)) k =
      if k = key a then some b else lookup key slots k := by
  have hv' := hv.replace hi hk
  have hlt : i < slots.length := (List.getElem?_eq_some_iff.mp hi).1
  have hself : (slots.set i (.occupied b))[i]? = some (.occupied b) :=
    List.getElem?_set_self hlt
  split
  · next heq => exact hv'.lookup_eq_some_iff.mpr ⟨⟨i, hself⟩, by rw [hk, heq]⟩
  · next hne =>
    ext c
    rw [hv'.lookup_eq_some_iff, hv.lookup_eq_some_iff]
    refine and_congr_left fun hc => ?_
    have hother : ∀ i', i = i' →
        slots[i']? ≠ some (.occupied c) ∧
        (slots.set i (.occupied b))[i']? ≠ some (.occupied c) := by
      rintro i' rfl
      rw [hi, hself]
      constructor <;> simp only [ne_eq, Option.some.injEq, Slot.occupied.injEq] <;> rintro rfl
      · exact hne hc.symm
      · exact hne (by rw [← hc, hk])
    constructor
    · rintro ⟨i', hi'⟩
      by_cases h : i = i'
      · exact absurd hi' (hother i' h).2
      · exact ⟨i', by rwa [List.getElem?_set_ne h] at hi'⟩
    · rintro ⟨i', hi'⟩
      by_cases h : i = i'
      · exact absurd hi' (hother i' h).1
      · exact ⟨i', by rwa [List.getElem?_set_ne h]⟩

/-! ### Fresh tables and counting -/

omit [DecidableEq κ] in
/-- A table of empty slots is valid and stands for the empty map. -/
theorem valid_replicate (n : Nat) :
    Valid key hash (List.replicate n (Slot.empty : Slot α)) := by
  constructor
  · intro i a hi
    rw [List.getElem?_replicate] at hi
    split at hi <;> simp at hi
  · intro i i' a a' hi
    rw [List.getElem?_replicate] at hi
    split at hi <;> simp at hi

@[simp] theorem lookup_replicate (n : Nat) (k : κ) :
    lookup key (List.replicate n (Slot.empty : Slot α)) k = none := by
  rw [lookup, List.findSome?_eq_none_iff]
  intro s hs
  rw [List.eq_of_mem_replicate hs]
  rfl

end map

/-- Every slot is empty, occupied or a tombstone. -/
theorem count_slots (slots : List (Slot α)) :
    slots.countP Slot.isEmpty + slots.countP Slot.isOccupied +
      slots.countP Slot.isTombstone = slots.length := by
  induction slots with
  | nil => rfl
  | cons s slots ih =>
    simp only [List.countP_cons, List.length_cons]
    cases s <;> simp [Slot.isEmpty, Slot.isOccupied, Slot.isTombstone] <;> omega

/-- A table with fewer records and tombstones than slots has an empty slot. -/
theorem exists_empty {slots : List (Slot α)}
    (h : slots.countP Slot.isOccupied + slots.countP Slot.isTombstone < slots.length) :
    ∃ i : Nat, slots[i]? = some .empty := by
  have hpos : 0 < slots.countP Slot.isEmpty := by
    have := count_slots slots
    omega
  obtain ⟨s, hs, he⟩ := List.countP_pos_iff.mp hpos
  cases s with
  | empty => exact List.mem_iff_getElem?.mp hs
  | occupied a => simp [Slot.isEmpty] at he
  | tombstone => simp [Slot.isEmpty] at he

theorem length_records (slots : List (Slot α)) :
    (records slots).length = slots.countP Slot.isOccupied := by
  induction slots with
  | nil => rfl
  | cons s slots ih =>
    simp only [records, List.filterMap_cons, List.countP_cons] at ih ⊢
    cases s <;> simp [Slot.isOccupied, ih]

/-- What writing one slot does to a count. -/
theorem countP_set {slots : List (Slot α)} {i : Nat} {old : Slot α} (p : Slot α → Bool)
    (new : Slot α) (hi : slots[i]? = some old) :
    (slots.set i new).countP p + (if p old then 1 else 0) =
      slots.countP p + (if p new then 1 else 0) := by
  obtain ⟨hlt, hget⟩ := List.getElem?_eq_some_iff.mp hi
  rw [List.countP_set hlt, hget]
  have hpos : p old = true → 0 < slots.countP p := fun hp =>
    List.countP_pos_iff.mpr ⟨old, List.mem_iff_getElem?.mpr ⟨i, hi⟩, hp⟩
  cases hp : p old with
  | false => simp
  | true =>
    have := hpos hp
    simp only [if_true]
    omega

section size
variable [DecidableEq κ] {key : α → κ} {hash : κ → Nat} {slots : List (Slot α)}

omit [DecidableEq κ] in
/-- The keys of a valid table are pairwise different. -/
theorem Valid.nodup_keys (hv : Valid key hash slots) :
    ((records slots).map key).Nodup := by
  obtain ⟨-, hdist⟩ := hv
  induction slots with
  | nil => exact List.nodup_nil
  | cons s slots ih =>
    have hdist' : ∀ (i i' : Nat) (a a' : α), slots[i]? = some (.occupied a) →
        slots[i']? = some (.occupied a') → key a = key a' → i = i' := by
      intro i i' a a' h h' hk
      have := hdist (i + 1) (i' + 1) a a' (by simpa using h) (by simpa using h') hk
      omega
    have ih' := ih hdist'
    cases s with
    | empty => simpa [records, List.filterMap_cons] using ih'
    | tombstone => simpa [records, List.filterMap_cons] using ih'
    | occupied a =>
      simp only [records, List.filterMap_cons, Slot.record?_occupied, List.map_cons,
        List.nodup_cons]
      refine ⟨fun hmem => ?_, by simpa [records] using ih'⟩
      obtain ⟨b, hb, hk⟩ := List.mem_map.mp hmem
      obtain ⟨i, hi⟩ := mem_records.mp hb
      have := hdist 0 (i + 1) a b (by simp) (by simpa using hi) hk.symm
      omega

/-- The number of occupied slots is the size of the map. -/
theorem Valid.ncard_lookup (hv : Valid key hash slots) :
    Set.ncard {k | (lookup key slots k).isSome} = slots.countP Slot.isOccupied := by
  have hset : {k | (lookup key slots k).isSome} = ↑((records slots).map key).toFinset := by
    ext k
    simp only [Set.mem_ofPred_eq, List.coe_toFinset, List.mem_map]
    rw [lookup_isSome_iff]
    constructor
    · rintro ⟨i, a, hi, hk⟩
      exact ⟨a, mem_records.mpr ⟨i, hi⟩, hk⟩
    · rintro ⟨a, ha, hk⟩
      obtain ⟨i, hi⟩ := mem_records.mp ha
      exact ⟨i, a, hi, hk⟩
  rw [hset, Set.ncard_coe_finset, List.toFinset_card_of_nodup hv.nodup_keys, List.length_map,
    length_records]

/-- The records are the one under `k`, if there is one, and those under other keys. -/
theorem Valid.perm_records (hv : Valid key hash slots) (k : κ) :
    (records slots).Perm
      ((lookup key slots k).toList ++ (records slots).filter fun a => key a ≠ k) := by
  have hnodup : (records slots).Nodup := hv.nodup_keys.of_map
  rw [List.perm_ext_iff_of_nodup hnodup]
  · intro a
    simp only [List.mem_append, Option.mem_toList, List.mem_filter, decide_eq_true_eq,
      hv.mem_records_iff]
    constructor
    · intro ha
      by_cases hk : key a = k
      · exact Or.inl (hk ▸ ha)
      · exact Or.inr ⟨ha, hk⟩
    · rintro (ha | ⟨ha, -⟩)
      · rw [(lookup_eq_some key ha).2]
        exact ha
      · exact ha
  · rw [List.nodup_append]
    refine ⟨?_, hnodup.filter _, ?_⟩
    · cases lookup key slots k with
      | none => exact List.nodup_nil
      | some a => exact List.nodup_singleton a
    · intro a ha b hb hab
      rw [Option.mem_toList] at ha
      have hother := (List.mem_filter.mp hb).2
      rw [← hab] at hother
      simp [(lookup_eq_some key ha).2] at hother

variable {hash' : κ → Nat} {slots' : List (Slot α)}

/-- Tables that agree on every key but `k` have the same records under other keys. -/
theorem Valid.perm_other_records (hv : Valid key hash slots) (hv' : Valid key hash' slots') {k : κ}
    (h : ∀ other, other ≠ k → lookup key slots' other = lookup key slots other) :
    ((records slots').filter fun a => key a ≠ k).Perm
      ((records slots).filter fun a => key a ≠ k) := by
  rw [List.perm_ext_iff_of_nodup (hv'.nodup_keys.of_map.filter _) (hv.nodup_keys.of_map.filter _)]
  intro a
  simp only [List.mem_filter, decide_eq_true_eq, hv.mem_records_iff, hv'.mem_records_iff]
  constructor
  · rintro ⟨ha, hk⟩
    exact ⟨h _ hk ▸ ha, hk⟩
  · rintro ⟨ha, hk⟩
    exact ⟨(h _ hk).trans ha, hk⟩

/-- **An exchange**: tables that agree on every key but `k` hold the same contents, but for
    what stands under `k`. -/
theorem Valid.exchange {β : Type} (hv : Valid key hash slots) (hv' : Valid key hash' slots')
    {k : κ} (h : ∀ other, other ≠ k → lookup key slots' other = lookup key slots other)
    (content : α → List β) :
    ((records slots).flatMap content ++ (lookup key slots' k).toList.flatMap content).Perm
      ((records slots').flatMap content ++ (lookup key slots k).toList.flatMap content) := by
  have hhere := (hv.perm_records k).flatMap_right content
  have hthere := (hv'.perm_records k).flatMap_right content
  have hothers := (hv.perm_other_records hv' h).flatMap_right content
  rw [List.flatMap_append] at hhere hthere
  have hmoved : List.Perm
      (((records slots).filter fun a => key a ≠ k).flatMap content ++
        (lookup key slots' k).toList.flatMap content) ((records slots').flatMap content) :=
    (List.perm_append_comm.trans (hothers.symm.append_left _)).trans hthere.symm
  calc List.Perm
        ((records slots).flatMap content ++ (lookup key slots' k).toList.flatMap content)
        ((lookup key slots k).toList.flatMap content ++
          (((records slots).filter fun a => key a ≠ k).flatMap content ++
            (lookup key slots' k).toList.flatMap content)) := by
          rw [← List.append_assoc]
          exact hhere.append_right _
    List.Perm _ ((lookup key slots k).toList.flatMap content ++ (records slots').flatMap content) :=
          hmoved.append_left _
    List.Perm _ ((records slots').flatMap content ++ (lookup key slots k).toList.flatMap content) :=
          List.perm_append_comm

end size

end OpenAddressing
