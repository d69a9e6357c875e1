import Sysgaze.Event
import Sysgaze.Lib.OpenAddressing

/-! # The tracee table (`tracee.h`, `tracee_table.c`)

    One record for each traced task, kept in a hash table with linear probing
    and tombstones.  The raw operations below follow the C code.  They return
    `none` when the C code would not return, or would read outside the slot
    array; `Ok` is the invariant under which this never happens, and the
    subtype `Tracees` carries it.

    A `calloc` answers from the outside: every operation that may allocate
    takes the answer as its argument `granted`.

    Main results:

    * `find_slot_spec`, `resize_table_spec`, `ensure_capacity_spec`,
      `sg_tracee_table_insert_spec`, `sg_tracee_table_remove_spec`: one lemma
      for each function, in terms of the map `lookup`;
    * `table_refines_map`: every run of table operations is a run of a partial
      map from positive TIDs to tracees.
-/

open OpenAddressing

namespace Sysgaze

/-! ### Records -/

/-- `enum sg_tracee_phase`. -/
inductive TraceePhase where
  | SG_TRACEE_NEW
  | SG_TRACEE_RUNNING
  | SG_TRACEE_STOPPED
  | SG_TRACEE_IN_SYSCALL
  | SG_TRACEE_GROUP_STOPPED
  | SG_TRACEE_EXITING
  | SG_TRACEE_GONE
  deriving DecidableEq, Repr

/-- `struct sg_tracee`. -/
structure Tracee where
  tid : Pid
  tgid : Pid
  phase : TraceePhase
  pending_signal : Int
  attached : Bool
  newborn : Bool
  in_ptrace_stop : Bool
  options_installed : Bool
  has_pending_syscall : Bool
  has_interrupted_syscall : Bool
  interrupted_restart_ready : Bool
  pending_syscall : SyscallEvent
  interrupted_syscall : SyscallEvent
  deriving DecidableEq, Repr

/-- The record `memset` to zero. -/
def Tracee.zero : Tracee where
  tid := 0
  tgid := 0
  phase := .SG_TRACEE_NEW
  pending_signal := 0
  attached := false
  newborn := false
  in_ptrace_stop := false
  options_installed := false
  has_pending_syscall := false
  has_interrupted_syscall := false
  interrupted_restart_ready := false
  pending_syscall := .zero
  interrupted_syscall := .zero

/-- The record of a TID that has just been inserted. -/
def Tracee.fresh (tid tgid : Pid) (attached : Bool) : Tracee :=
  { Tracee.zero with
    tid := tid
    tgid := tgid
    attached := attached
    phase := .SG_TRACEE_NEW }

@[simp] theorem Tracee.fresh_tid (tid tgid : Pid) (attached : Bool) :
    (Tracee.fresh tid tgid attached).tid = tid := rfl

/-! ### The raw table -/

abbrev SG_TRACEE_INITIAL_CAPACITY : Nat := 16

/-- `sizeof(struct sg_tracee_slot)`. -/
abbrev sizeof_slot : Nat := 352

/-- `struct sg_tracee_table`. -/
structure TraceeTable where
  slots : List (Slot Tracee)
  capacity : Nat
  count : Nat
  tombstones : Nat
  deriving DecidableEq, Repr

/-- `hash_tid`. -/
def hash_tid (tid : Pid) : UInt64 :=
  let value := UInt64.ofInt tid
  let value := value ^^^ (value >>> 33)
  let value := value * 0xff51afd7ed558ccd
  value ^^^ (value >>> 33)

/-- `sg_tracee_table_init`. -/
def sg_tracee_table_init : TraceeTable := ⟨[], 0, 0, 0⟩

/-- `sg_tracee_table_destroy`. -/
def sg_tracee_table_destroy (_table : TraceeTable) : TraceeTable := sg_tracee_table_init

/-- `find_slot`: the slot and the value of `*found`. -/
def find_slot (table : TraceeTable) (tid : Pid) : Option (Nat × Bool) :=
  let mask := table.capacity - 1
  probe table.slots (fun tracee => tracee.tid == tid) (fun index => (index + 1) &&& mask)
    table.capacity ((hash_tid tid).toNat &&& mask) none

/-- Does `calloc(capacity, sizeof(struct sg_tracee_slot))` succeed?  It refuses a
    product that does not fit in a `size_t`. -/
def calloc_slots (granted : Bool) (capacity : Nat) : Bool :=
  granted && capacity * sizeof_slot < 2 ^ 64

/-- One round of the loop in `resize_table`. -/
def rehash_slot (table : TraceeTable) (slot : Slot Tracee) : Option TraceeTable :=
  match slot with
  | .occupied tracee => do
    let (destination, _) ← find_slot table tracee.tid
    some { table with
      slots := table.slots.set destination (.occupied tracee)
      count := table.count + 1 }
  | _ => some table

/-- `resize_table`. -/
def resize_table (table : TraceeTable) (capacity : Nat) (granted : Bool) :
    Option (Bool × TraceeTable) :=
  if !calloc_slots granted capacity then some (false, table)
  else do
    let fresh : TraceeTable := ⟨List.replicate capacity .empty, capacity, 0, 0⟩
    let resized ← table.slots.foldlM rehash_slot fresh
    some (true, resized)

/-- `ensure_capacity`. -/
def ensure_capacity (table : TraceeTable) (granted : Bool) : Option (Bool × TraceeTable) :=
  if table.capacity = 0 then resize_table table SG_TRACEE_INITIAL_CAPACITY granted
  else if (table.count + table.tombstones + 1) * 10 % 2 ^ 64 < table.capacity * 7 % 2 ^ 64 then
    some (true, table)
  else if table.capacity > (2 ^ 64 - 1) / 2 then some (false, table)
  else resize_table table (table.capacity * 2) granted

/-- `sg_tracee_table_get`: the record pointed to by the result. -/
def sg_tracee_table_get (table : TraceeTable) (tid : Pid) : Option (Option Tracee) :=
  if table.capacity = 0 ∨ tid ≤ 0 then some none
  else do
    let (index, found) ← find_slot table tid
    if found then
      let slot ← table.slots[index]?
      some slot.record?
    else some none

/-- `sg_tracee_table_insert`: the result, the value of `*inserted`, and the table. -/
def sg_tracee_table_insert (table : TraceeTable) (tid tgid : Pid) (attached granted : Bool) :
    Option ((Bool × Bool) × TraceeTable) :=
  if tid ≤ 0 ∨ tgid ≤ 0 then some ((false, false), table)
  else do
    let (ok, table) ← ensure_capacity table granted
    if !ok then some ((false, false), table)
    else
      let (index, found) ← find_slot table tid
      if found then some ((true, false), table)
      else
        let slot ← table.slots[index]?
        let tombstones := if slot.isTombstone then table.tombstones - 1 else table.tombstones
        some ((true, true), { table with
          slots := table.slots.set index (.occupied (Tracee.fresh tid tgid attached))
          count := table.count + 1
          tombstones := tombstones })

/-- `sg_tracee_table_remove`: the value of `*removed` when a record was found. -/
def sg_tracee_table_remove (table : TraceeTable) (tid : Pid) :
    Option (Option Tracee × TraceeTable) :=
  if table.capacity = 0 ∨ tid ≤ 0 then some (none, table)
  else do
    let (index, found) ← find_slot table tid
    if !found then some (none, table)
    else
      let slot ← table.slots[index]?
      some (slot.record?, { table with
        slots := table.slots.set index .tombstone
        count := table.count - 1
        tombstones := table.tombstones + 1 })

/-- Writing the record `tracee` through a pointer that `sg_tracee_table_get` has
    returned for its TID. -/
def write_record (table : TraceeTable) (tracee : Tracee) : Option TraceeTable :=
  if table.capacity = 0 ∨ tracee.tid ≤ 0 then some table
  else do
    let (index, found) ← find_slot table tracee.tid
    if found then some { table with slots := table.slots.set index (.occupied tracee) }
    else some table

/-! ### The invariant -/

namespace TraceeTable

/-- The hash of a TID as a number. -/
abbrev hash (tid : Pid) : Nat := (hash_tid tid).toNat

/-- The map the table stands for. -/
def lookup (table : TraceeTable) (tid : Pid) : Option Tracee :=
  OpenAddressing.lookup Tracee.tid table.slots tid

/-- What a search needs: a power of two of slots, a valid arrangement of the
    records in them, and an empty slot. -/
structure Searchable (table : TraceeTable) : Prop where
  length : table.slots.length = table.capacity
  power : ∃ k, table.capacity = 2 ^ k
  valid : Valid Tracee.tid hash table.slots
  space : table.slots.countP Slot.isOccupied + table.slots.countP Slot.isTombstone <
    table.slots.length

/-- The table invariant. -/
structure Ok (table : TraceeTable) : Prop where
  length : table.slots.length = table.capacity
  valid : Valid Tracee.tid hash table.slots
  count : table.count = table.slots.countP Slot.isOccupied
  tombstones : table.tombstones = table.slots.countP Slot.isTombstone
  capacity : table.capacity = 0 ∨ ∃ k, 4 ≤ k ∧ table.capacity = 2 ^ k
  /-- The slot array fits in the address space. -/
  bytes : table.capacity * sizeof_slot < 2 ^ 64
  /-- Seven tenths of the slots at most are in use. -/
  load : 0 < table.capacity → (table.count + table.tombstones) * 10 < table.capacity * 7
  positive : ∀ tid tracee, table.lookup tid = some tracee → 0 < tid

variable {table : TraceeTable}

theorem Ok.searchable (h : table.Ok) (hc : table.capacity ≠ 0) : table.Searchable := by
  refine ⟨h.length, ?_, h.valid, ?_⟩
  · obtain h0 | ⟨k, -, hk⟩ := h.capacity
    · exact absurd h0 hc
    · exact ⟨k, hk⟩
  · have := h.load (by omega)
    rw [← h.count, ← h.tombstones, h.length]
    omega

/-- An empty table stands for the empty map. -/
theorem Ok.lookup_of_capacity (h : table.Ok) (hc : table.capacity = 0) (tid : Pid) :
    table.lookup tid = none := by
  have : table.slots = [] := List.eq_nil_of_length_eq_zero (h.length.trans hc)
  rw [lookup, this]
  rfl

/-- Only positive TIDs are in the table. -/
theorem Ok.lookup_of_nonpos (h : table.Ok) {tid : Pid} (ht : tid ≤ 0) :
    table.lookup tid = none := by
  cases hl : table.lookup tid with
  | none => rfl
  | some tracee => exact absurd (h.positive tid tracee hl) (not_lt.mpr ht)

theorem lookup_tid {tid : Pid} {tracee : Tracee} (h : table.lookup tid = some tracee) :
    tracee.tid = tid :=
  (lookup_eq_some Tracee.tid h).2

@[simp] theorem lookup_init (tid : Pid) : sg_tracee_table_init.lookup tid = none := rfl

theorem ok_init : sg_tracee_table_init.Ok where
  length := rfl
  valid := valid_replicate 0
  count := rfl
  tombstones := rfl
  capacity := Or.inl rfl
  bytes := by simp [sg_tracee_table_init]
  load h := by simp [sg_tracee_table_init] at h
  positive tid tracee h := by rw [lookup_init] at h; simp at h

/-! ### `find_slot` -/

/-- The search of `find_slot` returns and finds the right slot. -/
theorem find_slot_spec (h : table.Searchable) (tid : Pid) :
    ∃ r, find_slot table tid = some r ∧ Found Tracee.tid hash table.slots tid r := by
  obtain ⟨k, hk⟩ := h.power
  have hmask : ∀ n : Nat, n &&& (table.capacity - 1) = n % table.slots.length := by
    intro n
    rw [h.length, hk, Nat.and_two_pow_sub_one_eq_mod]
  have hwanted : ∀ tracee : Tracee, (tracee.tid == tid) = true ↔ tracee.tid = tid :=
    fun tracee => beq_iff_eq
  obtain ⟨r, hr, hfound⟩ := probe_spec h.valid hwanted
    (fun index _ => hmask (index + 1)) (exists_empty h.space)
  refine ⟨r, ?_, hfound⟩
  rw [← hr, find_slot, hmask, h.length]

/-! ### Writing one slot -/

/-- Placing a record of an absent TID. -/
theorem Searchable.put (h : table.Searchable) {tracee : Tracee} {index : Nat} {old : Slot Tracee}
    (hfound : Found Tracee.tid hash table.slots tracee.tid (index, false))
    (hold : table.slots[index]? = some old) {table' : TraceeTable}
    (hslots : table'.slots = table.slots.set index (.occupied tracee)) :
    Valid Tracee.tid hash table'.slots ∧ table'.slots.length = table.slots.length ∧
      table'.slots.countP Slot.isOccupied = table.slots.countP Slot.isOccupied + 1 ∧
      table'.slots.countP Slot.isTombstone + (if old.isTombstone then 1 else 0) =
        table.slots.countP Slot.isTombstone ∧
      ∀ tid, table'.lookup tid = if tid = tracee.tid then some tracee else table.lookup tid := by
  have hfree : old.isOccupied = false := by
    obtain ⟨-, he | ht, -⟩ := hfound
    · rw [Option.some.inj (hold.symm.trans he), Slot.isOccupied_empty]
    · rw [Option.some.inj (hold.symm.trans ht), Slot.isOccupied_tombstone]
  have hocc := countP_set Slot.isOccupied (.occupied tracee) hold
  have htomb := countP_set Slot.isTombstone (.occupied tracee) hold
  rw [hslots]
  refine ⟨h.valid.put hfound, List.length_set .., ?_, ?_, ?_⟩
  · simpa [hfree] using hocc
  · simpa using htomb
  · intro tid
    rw [lookup, lookup, hslots]
    exact lookup_put h.valid hfound tid

/-! ### `resize_table` -/

/-- The table while it is being filled by `resize_table`: no tombstones yet. -/
structure Filling (table : TraceeTable) : Prop extends table.Searchable where
  count : table.count = table.slots.countP Slot.isOccupied
  tombstones : table.tombstones = 0
  no_tombstones : table.slots.countP Slot.isTombstone = 0

theorem filling_fresh {k capacity : Nat} (hk : capacity = 2 ^ k) :
    (⟨List.replicate capacity .empty, capacity, 0, 0⟩ : TraceeTable).Filling where
  length := List.length_replicate
  power := ⟨k, hk⟩
  valid := valid_replicate capacity
  space := by
    have : 0 < capacity := by rw [hk]; exact Nat.two_pow_pos k
    simp [List.countP_replicate, this]
  count := by simp [List.countP_replicate]
  tombstones := rfl
  no_tombstones := by simp [List.countP_replicate]

/-- One record is moved to the new array. -/
theorem rehash_record_spec (h : table.Filling) {tracee : Tracee}
    (habsent : table.lookup tracee.tid = none)
    (hroom : table.slots.countP Slot.isOccupied + 1 < table.slots.length) :
    ∃ table', rehash_slot table (.occupied tracee) = some table' ∧ table'.Filling ∧
      table'.capacity = table.capacity ∧
      table'.slots.countP Slot.isOccupied = table.slots.countP Slot.isOccupied + 1 ∧
      ∀ tid, table'.lookup tid = if tid = tracee.tid then some tracee else table.lookup tid := by
  obtain ⟨⟨index, found⟩, hfind, hfound⟩ := find_slot_spec h.toSearchable tracee.tid
  cases found with
  | true =>
    -- The TID is not in the new array yet, so the search cannot have found it.
    obtain ⟨a, ha, hk⟩ := hfound
    exact absurd hk (lookup_eq_none_iff.mp habsent index a ha)
  | false =>
    obtain ⟨old, hold⟩ : ∃ old, table.slots[index]? = some old := by
      obtain ⟨-, he | ht, -⟩ := hfound
      · exact ⟨_, he⟩
      · exact ⟨_, ht⟩
    let table' : TraceeTable := { table with
      slots := table.slots.set index (.occupied tracee)
      count := table.count + 1 }
    have hslots : table'.slots = table.slots.set index (.occupied tracee) := rfl
    obtain ⟨hvalid, hlen, hocc, htomb, hlookup⟩ := h.put hfound hold hslots
    have hnone : table'.slots.countP Slot.isTombstone = 0 := by
      have := h.no_tombstones
      omega
    refine ⟨table', ?_, ⟨⟨hlen.trans h.length, h.power, hvalid, ?_⟩, ?_, h.tombstones, hnone⟩,
      rfl, hocc, hlookup⟩
    · simp only [rehash_slot, hfind]
      rfl
    · rw [hocc, hnone, hlen]
      omega
    · rw [hocc, ← h.count]

/-- The loop of `resize_table` moves every record to the new array. -/
theorem rehash_spec (slots : List (Slot Tracee)) :
    ∀ table : TraceeTable, table.Filling →
      ((records slots).map Tracee.tid).Nodup →
      (∀ tracee ∈ records slots, table.lookup tracee.tid = none) →
      table.slots.countP Slot.isOccupied + slots.countP Slot.isOccupied < table.slots.length →
      ∃ table', slots.foldlM rehash_slot table = some table' ∧ table'.Filling ∧
        table'.capacity = table.capacity ∧
        table'.slots.countP Slot.isOccupied =
          table.slots.countP Slot.isOccupied + slots.countP Slot.isOccupied ∧
        ∀ tid, table'.lookup tid =
          (table.lookup tid <|> OpenAddressing.lookup Tracee.tid slots tid) := by
  induction slots with
  | nil =>
    intro table h _ _ _
    exact ⟨table, rfl, h, rfl, rfl, fun tid => by simp [OpenAddressing.lookup]⟩
  | cons slot slots ih =>
    intro table h hnodup habsent hroom
    cases slot with
    | empty => exact ih table h hnodup habsent hroom
    | tombstone => exact ih table h hnodup habsent hroom
    | occupied tracee =>
      have hnodup' : tracee.tid ∉ (records slots).map Tracee.tid ∧
          ((records slots).map Tracee.tid).Nodup := by
        simpa [records, List.filterMap_cons, -List.mem_map] using hnodup
      have hroom' : table.slots.countP Slot.isOccupied +
          (slots.countP Slot.isOccupied + 1) < table.slots.length := by
        simpa [List.countP_cons] using hroom
      obtain ⟨table₁, hrun, h₁, hcap, hocc, hlookup⟩ := rehash_record_spec h
        (habsent tracee (by simp [records])) (by omega)
      obtain ⟨table₂, hrun₂, h₂, hcap₂, hocc₂, hlookup₂⟩ := ih table₁ h₁ hnodup'.2
        (by
          intro other hother
          rw [hlookup, if_neg]
          · exact habsent other (by simpa [records, List.filterMap_cons] using Or.inr hother)
          · intro heq
            exact hnodup'.1 (List.mem_map.mpr ⟨other, hother, heq⟩))
        (by
          rw [hocc, show table₁.slots.length = table.slots.length by
            rw [h₁.length, hcap, h.length]]
          omega)
      refine ⟨table₂, ?_, h₂, hcap₂.trans hcap, ?_, ?_⟩
      · rw [List.foldlM_cons, hrun]
        exact hrun₂
      · rw [hocc₂, hocc]
        simp only [List.countP_cons, Slot.isOccupied_occupied, if_true]
        omega
      · intro tid
        rw [hlookup₂, hlookup]
        by_cases ht : tid = tracee.tid
        · have := habsent tracee (by simp [records])
          simp [ht, this, OpenAddressing.lookup, Option.filter]
        · have : tracee.tid ≠ tid := fun h => ht h.symm
          simp [ht, this, OpenAddressing.lookup, Option.filter]

/-- Growing to a larger power of two keeps the map, and forgets the tombstones. -/
theorem resize_table_spec (h : table.Ok) {k capacity : Nat} (hk : capacity = 2 ^ k)
    (h4 : 4 ≤ k) (hgrow : table.capacity < capacity) (granted : Bool) :
    ∃ ok table', resize_table table capacity granted = some (ok, table') ∧ table'.Ok ∧
      ok = calloc_slots granted capacity ∧
      (ok = false → table' = table) ∧
      (ok = true → table'.capacity = capacity ∧ table'.count = table.count ∧
        table'.tombstones = 0) ∧
      ∀ tid, table'.lookup tid = table.lookup tid := by
  by_cases hcalloc : calloc_slots granted capacity = true
  · have hfresh := filling_fresh hk
    have hused : table.slots.countP Slot.isOccupied ≤ table.capacity := by
      rw [← h.length]
      exact List.countP_le_length
    obtain ⟨table', hrun, hfill, hcap, hocc, hlookup⟩ := rehash_spec table.slots _ hfresh
      h.valid.nodup_keys (fun tracee _ => by simp [lookup])
      (by simp [List.countP_replicate]; omega)
    have hsame : ∀ tid, table'.lookup tid = table.lookup tid := by
      intro tid
      rw [hlookup]
      simp [lookup]
    have hcount : table'.count = table.count := by
      rw [hfill.count, hocc, h.count]
      simp [List.countP_replicate]
    simp only at hcap
    refine ⟨true, table', ?_, ?_, hcalloc.symm, by simp, fun _ => ⟨hcap, hcount, hfill.tombstones⟩,
      hsame⟩
    · simp only [resize_table, hcalloc, hrun]
      rfl
    · refine ⟨hfill.length, hfill.valid, hfill.count, ?_, Or.inr ⟨k, h4, hcap.trans hk⟩, ?_, ?_, ?_⟩
      · rw [hfill.tombstones, hfill.no_tombstones]
      · rw [hcap]
        simpa using (Bool.and_eq_true_iff.mp hcalloc).2
      · intro _
        -- The old load was below seven tenths, and the new array is larger.
        have h16 : 2 ^ 4 ≤ 2 ^ k := Nat.pow_le_pow_right (by omega) h4
        rw [hcount, hfill.tombstones, hcap]
        by_cases h0 : table.capacity = 0
        · have : table.count = 0 := by rw [h.count]; omega
          omega
        · have := h.load (by omega)
          omega
      · intro tid tracee ht
        exact h.positive tid tracee (hsame tid ▸ ht)
  · refine ⟨false, table, ?_, h, by simpa using hcalloc, fun _ => rfl, by simp, fun _ => rfl⟩
    simp [resize_table, hcalloc]

/-- The capacity `ensure_capacity` asks for when it has to grow. -/
def nextCapacity (table : TraceeTable) : Nat :=
  if table.capacity = 0 then SG_TRACEE_INITIAL_CAPACITY else table.capacity * 2

/-- `ensure_capacity` makes room for one more record, or fails and leaves the
    table as it was.  It fails only when an allocation is refused. -/
theorem ensure_capacity_spec (h : table.Ok) (granted : Bool) :
    ∃ ok table', ensure_capacity table granted = some (ok, table') ∧ table'.Ok ∧
      (ok = false → table' = table ∧ calloc_slots granted table.nextCapacity = false) ∧
      (ok = true → table'.capacity ≠ 0 ∧
        (table'.count + table'.tombstones + 1) * 10 < table'.capacity * 7) ∧
      table'.count = table.count ∧ ∀ tid, table'.lookup tid = table.lookup tid := by
  have hbytes : table.capacity * 352 < 2 ^ 64 := h.bytes
  have hinitial : SG_TRACEE_INITIAL_CAPACITY = 16 := rfl
  unfold ensure_capacity
  by_cases h0 : table.capacity = 0
  · rw [if_pos h0]
    obtain ⟨ok, table', hrun, hok, hcalloc, hfail, hdone, hlookup⟩ :=
      resize_table_spec h (rfl : SG_TRACEE_INITIAL_CAPACITY = 2 ^ 4) (le_refl 4)
        (by omega) granted
    have hcount : table.count = 0 := by
      have : table.slots = [] := List.eq_nil_of_length_eq_zero (h.length.trans h0)
      rw [h.count, this, List.countP_nil]
    cases ok with
    | false =>
      exact ⟨false, table', hrun, hok, fun _ => ⟨hfail rfl, by simp [nextCapacity, h0, hcalloc]⟩,
        by simp, by rw [hfail rfl], hlookup⟩
    | true =>
      obtain ⟨hcap, hcnt, htomb⟩ := hdone rfl
      exact ⟨true, table', hrun, hok, by simp, fun _ => ⟨by omega, by omega⟩, hcnt, hlookup⟩
  · rw [if_neg h0]
    have hload := h.load (by omega)
    -- Nothing wraps, since the slot array fits in the address space.
    rw [Nat.mod_eq_of_lt (by omega), Nat.mod_eq_of_lt (by omega)]
    by_cases hroom : (table.count + table.tombstones + 1) * 10 < table.capacity * 7
    · rw [if_pos hroom]
      exact ⟨true, table, rfl, h, by simp, fun _ => ⟨h0, hroom⟩, rfl, fun _ => rfl⟩
    · rw [if_neg hroom, if_neg (by omega)]
      obtain ⟨k, h4, hk⟩ : ∃ k, 4 ≤ k ∧ table.capacity = 2 ^ k := h.capacity.resolve_left h0
      have h16 : 2 ^ 4 ≤ 2 ^ k := Nat.pow_le_pow_right (by omega) h4
      have hdouble : table.capacity * 2 = 2 ^ (k + 1) := by rw [hk, Nat.pow_succ]
      obtain ⟨ok, table', hrun, hok, hcalloc, hfail, hdone, hlookup⟩ :=
        resize_table_spec h hdouble (by omega) (by omega) granted
      cases ok with
      | false =>
        exact ⟨false, table', hrun, hok,
          fun _ => ⟨hfail rfl, by simp [nextCapacity, h0, hcalloc]⟩, by simp, by rw [hfail rfl],
          hlookup⟩
      | true =>
        obtain ⟨hcap, hcnt, htomb⟩ := hdone rfl
        exact ⟨true, table', hrun, hok, by simp, fun _ => ⟨by omega, by omega⟩, hcnt, hlookup⟩

/-! ### The operations -/

/-- A search in a table that is in use: it returns, and tells whether the TID has
    a record. -/
theorem find_slot_lookup (h : table.Ok) (hc : table.capacity ≠ 0) (tid : Pid) :
    (∃ index tracee, find_slot table tid = some (index, true) ∧
      table.slots[index]? = some (.occupied tracee) ∧ tracee.tid = tid ∧
      table.lookup tid = some tracee) ∨
    (∃ index old, find_slot table tid = some (index, false) ∧
      table.slots[index]? = some old ∧ table.lookup tid = none ∧
      Found Tracee.tid hash table.slots tid (index, false)) := by
  obtain ⟨⟨index, found⟩, hfind, hfound⟩ := find_slot_spec (h.searchable hc) tid
  cases found with
  | true =>
    obtain ⟨tracee, hi, hk⟩ := hfound
    exact Or.inl ⟨index, tracee, hfind, hi, hk, h.valid.lookup_eq_some_iff.mpr ⟨⟨index, hi⟩, hk⟩⟩
  | false =>
    obtain ⟨hnone, he | ht, -⟩ := id hfound
    · exact Or.inr ⟨index, _, hfind, he, hnone, hfound⟩
    · exact Or.inr ⟨index, _, hfind, ht, hnone, hfound⟩

/-- `sg_tracee_table_get` returns the record of the TID. -/
theorem sg_tracee_table_get_spec (h : table.Ok) (tid : Pid) :
    sg_tracee_table_get table tid = some (table.lookup tid) := by
  unfold sg_tracee_table_get
  by_cases hskip : table.capacity = 0 ∨ tid ≤ 0
  · rw [if_pos hskip]
    obtain h0 | ht := hskip
    · rw [h.lookup_of_capacity h0]
    · rw [h.lookup_of_nonpos ht]
  · rw [if_neg hskip]
    push Not at hskip
    obtain ⟨index, tracee, hfind, hi, -, hl⟩ | ⟨index, old, hfind, -, hl, -⟩ :=
      find_slot_lookup h hskip.1 tid
    · simp [hfind, hi, hl]
    · simp [hfind, hl]

/-- What `sg_tracee_table_insert` does to a valid table. -/
structure Inserted (table : TraceeTable) (tid tgid : Pid) (attached granted : Bool)
    (ok inserted : Bool) (table' : TraceeTable) : Prop where
  /-- A positive TID is refused only when an allocation is refused. -/
  fails : ok = false → table' = table ∧ inserted = false ∧
    (0 < tid → 0 < tgid → calloc_slots granted table.nextCapacity = false)
  positive : ok = true → 0 < tid ∧ 0 < tgid
  /-- `*inserted` tells whether the TID was absent. -/
  absent : ok = true → (inserted = true ↔ table.lookup tid = none)
  count : table'.count = table.count + if inserted then 1 else 0
  lookup : ∀ other, table'.lookup other =
    if inserted = true ∧ other = tid then some (Tracee.fresh tid tgid attached)
    else table.lookup other

theorem sg_tracee_table_insert_spec (h : table.Ok) (tid tgid : Pid) (attached granted : Bool) :
    ∃ ok inserted table', sg_tracee_table_insert table tid tgid attached granted =
        some ((ok, inserted), table') ∧ table'.Ok ∧
      Inserted table tid tgid attached granted ok inserted table' := by
  unfold sg_tracee_table_insert
  by_cases hskip : tid ≤ 0 ∨ tgid ≤ 0
  · rw [if_pos hskip]
    refine ⟨false, false, table, rfl, h, ⟨fun _ => ⟨rfl, rfl, fun ht hg => ?_⟩, by simp, by simp,
      by simp, by simp⟩⟩
    obtain hle | hle := hskip
    · exact absurd ht (not_lt.mpr hle)
    · exact absurd hg (not_lt.mpr hle)
  · rw [if_neg hskip]
    push Not at hskip
    obtain ⟨ok, grown, hrun, hgrown, hfail, hroom, hcount, hlookup⟩ :=
      ensure_capacity_spec h granted
    cases ok with
    | false =>
      obtain ⟨rfl, hrefused⟩ := hfail rfl
      exact ⟨false, false, grown, by simp [hrun], h,
        ⟨fun _ => ⟨rfl, rfl, fun _ _ => hrefused⟩, by simp, by simp, by simp, by simp⟩⟩
    | true =>
      obtain ⟨hc, hload⟩ := hroom rfl
      obtain ⟨index, tracee, hfind, -, -, hl⟩ | ⟨index, old, hfind, hold, hl, hfound⟩ :=
        find_slot_lookup hgrown hc tid
      · -- The TID is present: only the growth may have happened.
        refine ⟨true, false, grown, by simp [hrun, hfind], hgrown,
          ⟨by simp, fun _ => hskip, fun _ => ?_, by simpa using hcount, by simpa using hlookup⟩⟩
        simp [← hlookup, hl]
      · let table' : TraceeTable := { grown with
          slots := grown.slots.set index (.occupied (Tracee.fresh tid tgid attached))
          count := grown.count + 1
          tombstones := if old.isTombstone then grown.tombstones - 1 else grown.tombstones }
        have hslots : table'.slots =
          grown.slots.set index (.occupied (Tracee.fresh tid tgid attached)) := rfl
        obtain ⟨hvalid, hlen, hocc, htomb, hput⟩ :=
          (hgrown.searchable hc).put hfound hold hslots
        have htombs : table'.tombstones = table'.slots.countP Slot.isTombstone := by
          have hg := hgrown.tombstones
          cases hold' : old.isTombstone with
          | false => simp only [table', hold'] at *; simp at *; omega
          | true => simp only [table', hold'] at *; simp at *; omega
        have hle : table'.tombstones ≤ grown.tombstones := by
          simp only [table']
          split <;> omega
        refine ⟨true, true, table', by simp [hrun, hfind, hold, table'], ?_,
          ⟨by simp, fun _ => hskip, fun _ => by simp [← hlookup, hl], ?_, fun other => ?_⟩⟩
        · refine ⟨hlen.trans hgrown.length, hvalid, ?_, htombs, hgrown.capacity, hgrown.bytes,
            fun _ => ?_, ?_⟩
          · rw [hocc, ← hgrown.count]
          · have : table'.count = grown.count + 1 := rfl
            have : table'.capacity = grown.capacity := rfl
            omega
          · intro other tracee ho
            rw [hput] at ho
            split at ho
            · next heq => rw [heq]; exact hskip.1
            · exact hgrown.positive other tracee ho
        · show grown.count + 1 = _
          rw [hcount, if_pos rfl]
        · rw [hput, hlookup, Tracee.fresh_tid]
          by_cases ht : other = tid <;> simp [ht]

/-- `sg_tracee_table_remove` removes the record of the TID and returns it. -/
theorem sg_tracee_table_remove_spec (h : table.Ok) (tid : Pid) :
    ∃ table', sg_tracee_table_remove table tid = some (table.lookup tid, table') ∧ table'.Ok ∧
      table'.count + (if (table.lookup tid).isSome then 1 else 0) = table.count ∧
      ∀ other, table'.lookup other = if other = tid then none else table.lookup other := by
  unfold sg_tracee_table_remove
  by_cases hskip : table.capacity = 0 ∨ tid ≤ 0
  · rw [if_pos hskip]
    have hnone : table.lookup tid = none := by
      obtain h0 | ht := hskip
      · exact h.lookup_of_capacity h0 tid
      · exact h.lookup_of_nonpos ht
    refine ⟨table, by rw [hnone], h, by simp [hnone], fun other => ?_⟩
    by_cases ht : other = tid <;> simp [ht, hnone]
  · rw [if_neg hskip]
    push Not at hskip
    obtain ⟨index, tracee, hfind, hi, hk, hl⟩ | ⟨index, old, hfind, hold, hl, -⟩ :=
      find_slot_lookup h hskip.1 tid
    · have hocc := countP_set Slot.isOccupied .tombstone hi
      have htomb := countP_set Slot.isTombstone .tombstone hi
      simp only [Slot.isOccupied_occupied, Slot.isOccupied_tombstone, Slot.isTombstone_occupied,
        Slot.isTombstone_tombstone, if_true, Bool.false_eq_true, if_false] at hocc htomb
      have hcount := h.count
      have htombs := h.tombstones
      have hload := h.load (by omega)
      let table' : TraceeTable := { table with
        slots := table.slots.set index .tombstone
        count := table.count - 1
        tombstones := table.tombstones + 1 }
      have hlookup : ∀ other, table'.lookup other =
          if other = tid then none else table.lookup other := by
        intro other
        rw [← hk]
        exact lookup_erase h.valid hi other
      refine ⟨table', by simp [hfind, hi, hl, table'], ?_, ?_, hlookup⟩
      · refine ⟨(List.length_set ..).trans h.length, h.valid.erase index, ?_, ?_, h.capacity,
          h.bytes, fun _ => ?_, fun other record ho => ?_⟩
        · show table.count - 1 = (table.slots.set index .tombstone).countP Slot.isOccupied
          omega
        · show table.tombstones + 1 = (table.slots.set index .tombstone).countP Slot.isTombstone
          omega
        · show (table.count - 1 + (table.tombstones + 1)) * 10 < table.capacity * 7
          omega
        · rw [hlookup] at ho
          split at ho
          · simp at ho
          · exact h.positive other record ho
      · show table.count - 1 + _ = table.count
        rw [hl, Option.isSome_some, if_pos rfl]
        omega
    · refine ⟨table, by simp [hfind, hl], h, by simp [hl], fun other => ?_⟩
      by_cases ht : other = tid <;> simp [ht, hl]

/-- Writing a record through the pointer of its TID changes that record only. -/
theorem write_record_spec (h : table.Ok) (tracee : Tracee) :
    ∃ table', write_record table tracee = some table' ∧ table'.Ok ∧
      table'.count = table.count ∧
      ∀ other, table'.lookup other =
        if other = tracee.tid ∧ (table.lookup tracee.tid).isSome then some tracee
        else table.lookup other := by
  unfold write_record
  by_cases hskip : table.capacity = 0 ∨ tracee.tid ≤ 0
  · rw [if_pos hskip]
    have hnone : table.lookup tracee.tid = none := by
      obtain h0 | ht := hskip
      · exact h.lookup_of_capacity h0 _
      · exact h.lookup_of_nonpos ht
    exact ⟨table, rfl, h, rfl, by simp [hnone]⟩
  · rw [if_neg hskip]
    push Not at hskip
    obtain ⟨index, old, hfind, hi, hk, hl⟩ | ⟨index, old, hfind, hold, hl, -⟩ :=
      find_slot_lookup h hskip.1 tracee.tid
    · have hocc := countP_set Slot.isOccupied (.occupied tracee) hi
      have htomb := countP_set Slot.isTombstone (.occupied tracee) hi
      simp only [Slot.isOccupied_occupied, Slot.isTombstone_occupied, if_true,
        Bool.false_eq_true, if_false, Nat.add_right_cancel_iff, Nat.add_zero] at hocc htomb
      let table' : TraceeTable :=
        { table with slots := table.slots.set index (.occupied tracee) }
      have hlookup : ∀ other, table'.lookup other =
          if other = tracee.tid ∧ (table.lookup tracee.tid).isSome then some tracee
          else table.lookup other := by
        intro other
        refine (lookup_replace h.valid hi hk.symm other).trans ?_
        rw [hk, show OpenAddressing.lookup Tracee.tid table.slots other = table.lookup other from rfl]
        by_cases ht : other = tracee.tid <;> simp [ht, hl]
      refine ⟨table', by simp [hfind, table'], ?_, rfl, hlookup⟩
      refine ⟨(List.length_set ..).trans h.length, h.valid.replace hi hk.symm, ?_, ?_, h.capacity,
        h.bytes, h.load, fun other record ho => ?_⟩
      · exact h.count.trans hocc.symm
      · exact h.tombstones.trans htomb.symm
      · rw [hlookup] at ho
        split at ho
        · next heq => rw [heq.1]; exact hskip.2
        · exact h.positive other record ho
    · exact ⟨table, by simp [hfind], h, rfl, by simp [hl]⟩

/-- `count` is the number of TIDs in the table. -/
theorem Ok.count_eq (h : table.Ok) :
    table.count = Set.ncard {tid | (table.lookup tid).isSome} :=
  h.count.trans h.valid.ncard_lookup.symm

end TraceeTable

/-! ### The table as a partial map -/

/-- One call of a table operation; `granted` is the answer of `calloc`. -/
inductive TableOp where
  | init
  | insert (tid tgid : Pid) (attached granted : Bool)
  | get (tid : Pid)
  | remove (tid : Pid)
  | destroy

/-- What a call returns. -/
inductive TableReply where
  | done
  | inserted (ok inserted : Bool)
  | got (tracee : Option Tracee)
  | removed (tracee : Option Tracee)

/-- The code of one call. -/
def TableOp.run (table : TraceeTable) : TableOp → Option (TableReply × TraceeTable)
  | .init => some (.done, sg_tracee_table_init)
  | .insert tid tgid attached granted => do
    let ((ok, inserted), table) ← sg_tracee_table_insert table tid tgid attached granted
    some (.inserted ok inserted, table)
  | .get tid => do
    let tracee ← sg_tracee_table_get table tid
    some (.got tracee, table)
  | .remove tid => do
    let (tracee, table) ← sg_tracee_table_remove table tid
    some (.removed tracee, table)
  | .destroy => some (.done, sg_tracee_table_destroy table)

/-- The code of a sequence of calls, and the replies to them. -/
def runTable (table : TraceeTable) : List TableOp → Option (List TableReply × TraceeTable)
  | [] => some ([], table)
  | op :: ops => do
    let (reply, table) ← op.run table
    let (replies, table) ← runTable table ops
    some (reply :: replies, table)

/-- What the calls mean: the table is a partial map from TIDs to tracees. -/
inductive MapStep : (Pid → Option Tracee) → TableOp → TableReply → (Pid → Option Tracee) → Prop
  | init (map) : MapStep map .init .done (fun _ => none)
  | destroy (map) : MapStep map .destroy .done (fun _ => none)
  | get (map tid) : MapStep map (.get tid) (.got (map tid)) map
  | remove (map tid) : MapStep map (.remove tid) (.removed (map tid))
      (fun other => if other = tid then none else map other)
  /-- A present TID keeps its record. -/
  | insert_present (map tid tgid attached granted) : map tid ≠ none →
      MapStep map (.insert tid tgid attached granted) (.inserted true false) map
  /-- An absent TID gets a fresh record. -/
  | insert_absent (map tid tgid attached granted) : map tid = none → 0 < tid → 0 < tgid →
      MapStep map (.insert tid tgid attached granted) (.inserted true true)
        (fun other => if other = tid then some (Tracee.fresh tid tgid attached) else map other)
  /-- A failed insertion leaves the map as it was. -/
  | insert_fails (map tid tgid attached granted) :
      MapStep map (.insert tid tgid attached granted) (.inserted false false) map

/-- A run of the partial map. -/
inductive MapRun : (Pid → Option Tracee) → List TableOp → List TableReply →
    (Pid → Option Tracee) → Prop
  | nil (map) : MapRun map [] [] map
  | cons {map map' map'' op reply ops replies} : MapStep map op reply map' →
      MapRun map' ops replies map'' → MapRun map (op :: ops) (reply :: replies) map''

/-- One call on a valid table is one step of the map. -/
theorem TableOp.run_spec {table : TraceeTable} (h : table.Ok) (op : TableOp) :
    ∃ reply table', op.run table = some (reply, table') ∧ table'.Ok ∧
      MapStep table.lookup op reply table'.lookup := by
  cases op with
  | init =>
    refine ⟨_, _, rfl, TraceeTable.ok_init, ?_⟩
    exact .init _
  | destroy =>
    refine ⟨_, _, rfl, TraceeTable.ok_init, ?_⟩
    exact .destroy _
  | get tid =>
    refine ⟨.got (table.lookup tid), table, ?_, h, .get _ _⟩
    simp [TableOp.run, TraceeTable.sg_tracee_table_get_spec h]
  | remove tid =>
    obtain ⟨table', hrun, hok, -, hlookup⟩ := TraceeTable.sg_tracee_table_remove_spec h tid
    refine ⟨.removed (table.lookup tid), table', by simp [TableOp.run, hrun], hok, ?_⟩
    rw [funext hlookup]
    exact .remove _ _
  | insert tid tgid attached granted =>
    obtain ⟨ok, inserted, table', hrun, hok, hins⟩ :=
      TraceeTable.sg_tracee_table_insert_spec h tid tgid attached granted
    refine ⟨.inserted ok inserted, table', by simp [TableOp.run, hrun], hok, ?_⟩
    cases ok with
    | false =>
      obtain ⟨rfl, rfl, -⟩ := hins.fails rfl
      exact .insert_fails _ _ _ _ _
    | true =>
      obtain ⟨ht, hg⟩ := hins.positive rfl
      cases inserted with
      | true =>
        have hmap : table'.lookup = fun other =>
            if other = tid then some (Tracee.fresh tid tgid attached) else table.lookup other := by
          funext other
          rw [hins.lookup]
          by_cases heq : other = tid <;> simp [heq]
        rw [hmap]
        exact .insert_absent _ _ _ _ _ ((hins.absent rfl).mp rfl) ht hg
      | false =>
        have hmap : table'.lookup = table.lookup := by
          funext other
          rw [hins.lookup, if_neg (by simp)]
        rw [hmap]
        refine .insert_present _ _ _ _ _ ?_
        intro hnone
        exact absurd ((hins.absent rfl).mpr hnone) (by simp)

/-- A sequence of calls on a valid table is a run of the map. -/
theorem runTable_spec (ops : List TableOp) : ∀ table : TraceeTable, table.Ok →
    ∃ replies table', runTable table ops = some (replies, table') ∧ table'.Ok ∧
      MapRun table.lookup ops replies table'.lookup := by
  induction ops with
  | nil => intro table h; exact ⟨[], table, rfl, h, .nil _⟩
  | cons op ops ih =>
    intro table h
    obtain ⟨reply, table₁, hrun, h₁, hstep⟩ := op.run_spec h
    obtain ⟨replies, table₂, hruns, h₂, hsteps⟩ := ih table₁ h₁
    exact ⟨reply :: replies, table₂, by simp [runTable, hrun, hruns], h₂, .cons hstep hsteps⟩

/-- **The tracee table is a partial map from positive TIDs to tracees.**  Every
    sequence of calls returns, with the replies of the map.  In the table it
    leaves, `count` is the size of the map, `tombstones` the number of
    tombstones, the capacity is zero or a power of two from 16 on, and no TID
    has two slots; a next insertion fails only for a TID that is not positive,
    or when the slot array has to grow and cannot. -/
theorem table_refines_map (ops : List TableOp) :
    ∃ replies table map, runTable sg_tracee_table_init ops = some (replies, table) ∧
      MapRun (fun _ => none) ops replies map ∧
      (∀ tid, sg_tracee_table_get table tid = some (map tid)) ∧
      (∀ tid, map tid ≠ none → 0 < tid) ∧
      (∀ tid tracee, map tid = some tracee ↔
        tracee.tid = tid ∧ ∃ index : Nat, table.slots[index]? = some (.occupied tracee)) ∧
      table.count = Set.ncard {tid | (map tid).isSome} ∧
      table.tombstones = table.slots.countP Slot.isTombstone ∧
      table.slots.length = table.capacity ∧
      (table.capacity = 0 ∨ ∃ k, 4 ≤ k ∧ table.capacity = 2 ^ k) ∧
      (∀ (i j : Nat) (a b : Tracee), table.slots[i]? = some (.occupied a) →
        table.slots[j]? = some (.occupied b) → a.tid = b.tid → i = j) ∧
      ∀ tid tgid attached granted inserted table',
        sg_tracee_table_insert table tid tgid attached granted = some ((false, inserted), table') →
        tid ≤ 0 ∨ tgid ≤ 0 ∨ calloc_slots granted table.nextCapacity = false := by
  obtain ⟨replies, table, hrun, hok, hmap⟩ := runTable_spec ops _ TraceeTable.ok_init
  refine ⟨replies, table, table.lookup, hrun, hmap, TraceeTable.sg_tracee_table_get_spec hok,
    ?_, ?_, hok.count_eq, hok.tombstones, hok.length, hok.capacity, hok.valid.distinct, ?_⟩
  · intro tid hne
    obtain ⟨tracee, ht⟩ := Option.ne_none_iff_exists'.mp hne
    exact hok.positive tid tracee ht
  · intro tid tracee
    exact hok.valid.lookup_eq_some_iff.trans and_comm
  · intro tid tgid attached granted inserted table' hfail
    obtain ⟨ok, ins, table'', hrun', -, hins⟩ :=
      TraceeTable.sg_tracee_table_insert_spec hok tid tgid attached granted
    rw [hfail] at hrun'
    simp only [Option.some.injEq, Prod.mk.injEq] at hrun'
    obtain ⟨⟨hf, -⟩, -⟩ := hrun'
    obtain ⟨-, -, hrefused⟩ := hins.fails hf.symm
    by_cases ht : 0 < tid
    · by_cases hg : 0 < tgid
      · exact Or.inr (Or.inr (hrefused ht hg))
      · exact Or.inr (Or.inl (not_lt.mp hg))
    · exact Or.inl (not_lt.mp ht)

/-! ### Valid tables -/

/-- A tracee table that satisfies its invariant. -/
abbrev Tracees := { table : TraceeTable // table.Ok }

namespace Tracees
variable (tracees : Tracees)

/-- The table after `sg_tracee_table_init`. -/
def init : Tracees := ⟨sg_tracee_table_init, TraceeTable.ok_init⟩

/-- The record of a TID. -/
def lookup (tid : Pid) : Option Tracee := tracees.1.lookup tid

/-- The records in slot order. -/
def records : List Tracee := OpenAddressing.records tracees.1.slots

/-- The number of TIDs in the table. -/
def count : Nat := tracees.1.count

theorem isSome_get (tid : Pid) : (sg_tracee_table_get tracees.1 tid).isSome := by
  rw [TraceeTable.sg_tracee_table_get_spec tracees.2]
  rfl

/-- `sg_tracee_table_get`. -/
def get (tid : Pid) : Option Tracee :=
  (sg_tracee_table_get tracees.1 tid).get (tracees.isSome_get tid)

theorem isSome_insert (tid tgid : Pid) (attached granted : Bool) :
    (sg_tracee_table_insert tracees.1 tid tgid attached granted).isSome := by
  obtain ⟨_, _, _, hrun, -⟩ :=
    TraceeTable.sg_tracee_table_insert_spec tracees.2 tid tgid attached granted
  rw [hrun]
  rfl

theorem ok_insert (tid tgid : Pid) (attached granted : Bool) :
    ((sg_tracee_table_insert tracees.1 tid tgid attached granted).get
      (tracees.isSome_insert tid tgid attached granted)).2.Ok := by
  obtain ⟨_, _, _, hrun, hok, -⟩ :=
    TraceeTable.sg_tracee_table_insert_spec tracees.2 tid tgid attached granted
  simpa only [hrun, Option.get_some] using hok

/-- `sg_tracee_table_insert`. -/
def insert (tid tgid : Pid) (attached granted : Bool) : (Bool × Bool) × Tracees :=
  (((sg_tracee_table_insert tracees.1 tid tgid attached granted).get
      (tracees.isSome_insert tid tgid attached granted)).1,
    ⟨_, tracees.ok_insert tid tgid attached granted⟩)

theorem isSome_remove (tid : Pid) : (sg_tracee_table_remove tracees.1 tid).isSome := by
  obtain ⟨_, hrun, -⟩ := TraceeTable.sg_tracee_table_remove_spec tracees.2 tid
  rw [hrun]
  rfl

theorem ok_remove (tid : Pid) :
    ((sg_tracee_table_remove tracees.1 tid).get (tracees.isSome_remove tid)).2.Ok := by
  obtain ⟨_, hrun, hok, -⟩ := TraceeTable.sg_tracee_table_remove_spec tracees.2 tid
  simpa only [hrun, Option.get_some] using hok

/-- `sg_tracee_table_remove`. -/
def remove (tid : Pid) : Option Tracee × Tracees :=
  (((sg_tracee_table_remove tracees.1 tid).get (tracees.isSome_remove tid)).1,
    ⟨_, tracees.ok_remove tid⟩)

theorem isSome_write (tracee : Tracee) : (write_record tracees.1 tracee).isSome := by
  obtain ⟨_, hrun, -⟩ := TraceeTable.write_record_spec tracees.2 tracee
  rw [hrun]
  rfl

theorem ok_write (tracee : Tracee) :
    ((write_record tracees.1 tracee).get (tracees.isSome_write tracee)).Ok := by
  obtain ⟨_, hrun, hok, -⟩ := TraceeTable.write_record_spec tracees.2 tracee
  simpa only [hrun, Option.get_some] using hok

/-- Writing a record through the pointer of its TID. -/
def write (tracee : Tracee) : Tracees := ⟨_, tracees.ok_write tracee⟩

/-! The operations in terms of the map. -/

variable {tracees}

@[simp] theorem get_eq (tid : Pid) : tracees.get tid = tracees.lookup tid := by
  simp only [get, TraceeTable.sg_tracee_table_get_spec tracees.2, Option.get_some]
  rfl

@[simp] theorem lookup_init (tid : Pid) : init.lookup tid = none := rfl

theorem lookup_tid {tid : Pid} {tracee : Tracee} (h : tracees.lookup tid = some tracee) :
    tracee.tid = tid :=
  TraceeTable.lookup_tid h

theorem lookup_pos {tid : Pid} {tracee : Tracee} (h : tracees.lookup tid = some tracee) :
    0 < tid :=
  tracees.2.positive tid tracee h

/-- The records are the records of the TIDs in the table. -/
theorem mem_records {tracee : Tracee} :
    tracee ∈ tracees.records ↔ tracees.lookup tracee.tid = some tracee :=
  tracees.2.valid.mem_records_iff

theorem count_eq : tracees.count = Set.ncard {tid | (tracees.lookup tid).isSome} :=
  tracees.2.count_eq

/-- Every TID has one record. -/
theorem nodup_records : (tracees.records.map Tracee.tid).Nodup := tracees.2.valid.nodup_keys

/-- The count is zero when no TID is in the table. -/
theorem count_eq_zero : tracees.count = 0 ↔ ∀ tid, tracees.lookup tid = none := by
  have hlen : tracees.records.length = tracees.count :=
    (OpenAddressing.length_records _).trans tracees.2.count.symm
  rw [← hlen, List.length_eq_zero_iff]
  constructor
  · intro hempty tid
    cases h : tracees.lookup tid with
    | none => rfl
    | some tracee =>
      have hmem : tracee ∈ tracees.records := mem_records.mpr (by rw [lookup_tid h]; exact h)
      rw [hempty] at hmem
      simp at hmem
  · intro hnone
    rw [List.eq_nil_iff_forall_not_mem]
    intro tracee hmem
    rw [mem_records, hnone] at hmem
    simp at hmem

/-- Tables that agree but for `tid` hold the same contents, but for what stands there. -/
theorem exchange {β : Type} {tracees' : Tracees} {tid : Pid}
    (h : ∀ other, other ≠ tid → tracees'.lookup other = tracees.lookup other)
    (content : Tracee → List β) :
    (tracees.records.flatMap content ++ (tracees'.lookup tid).toList.flatMap content).Perm
      (tracees'.records.flatMap content ++ (tracees.lookup tid).toList.flatMap content) :=
  tracees.2.valid.exchange tracees'.2.valid h content

theorem insert_spec (tid tgid : Pid) (attached granted : Bool) :
    TraceeTable.Inserted tracees.1 tid tgid attached granted
      (tracees.insert tid tgid attached granted).1.1
      (tracees.insert tid tgid attached granted).1.2
      (tracees.insert tid tgid attached granted).2.1 := by
  obtain ⟨_, _, _, hrun, -, hins⟩ :=
    TraceeTable.sg_tracee_table_insert_spec tracees.2 tid tgid attached granted
  simpa only [insert, hrun, Option.get_some] using hins

@[simp] theorem remove_fst (tid : Pid) : (tracees.remove tid).1 = tracees.lookup tid := by
  obtain ⟨_, hrun, -⟩ := TraceeTable.sg_tracee_table_remove_spec tracees.2 tid
  simp only [remove, hrun, Option.get_some]
  rfl

theorem lookup_remove (tid other : Pid) :
    (tracees.remove tid).2.lookup other = if other = tid then none else tracees.lookup other := by
  obtain ⟨_, hrun, -, -, hlookup⟩ := TraceeTable.sg_tracee_table_remove_spec tracees.2 tid
  simpa only [lookup, remove, hrun, Option.get_some] using hlookup other

theorem lookup_write (tracee : Tracee) (other : Pid) :
    (tracees.write tracee).lookup other =
      if other = tracee.tid ∧ (tracees.lookup tracee.tid).isSome then some tracee
      else tracees.lookup other := by
  obtain ⟨_, hrun, -, -, hlookup⟩ := TraceeTable.write_record_spec tracees.2 tracee
  simp only [lookup, write, hrun, Option.get_some]
  rw [hlookup other]
  congr

end Tracees

end Sysgaze
