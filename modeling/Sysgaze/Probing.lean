import Sysgaze.TraceeTable

/-! # Every search of the tracee table ends (`tracee_table.c`)

    The loop of `find_slot` counts nothing: it is left at an empty slot or at
    the record it looks for, and nowhere else.  The definitions below list the
    calls of `find_slot` that an operation makes, each with the table it is
    given, also those that `resize_table` makes while the new array is only
    partly filled.

    Main results:

    * `rehash_searches_searchable`: the half-filled table of a rehash can be
      searched at every record;
    * `probing_ends`: in every run of table operations every search ends
      within as many rounds as there are slots.
-/

open OpenAddressing

namespace Sysgaze

/-! ### The searches of an operation -/

/-- The loop of `find_slot` ends in its `rounds`-th round with the slot and the value of
    `*found` in `result`. -/
def find_slot_stops (table : TraceeTable) (tid : Pid) (rounds : Nat) (result : Nat × Bool) :
    Prop :=
  let mask := table.capacity - 1
  Stops table.slots (fun tracee => tracee.tid == tid) (fun index => (index + 1) &&& mask)
    ((hash_tid tid).toNat &&& mask) none rounds result

/-- The calls of `find_slot` in the loop of `resize_table`, from the slot reached on. -/
def rehash_searches (table : TraceeTable) : List (Slot Tracee) → List (TraceeTable × Pid)
  | [] => []
  | slot :: slots =>
    (slot.record?.map fun tracee => (table, tracee.tid)).toList ++
      match rehash_slot table slot with
      | some table' => rehash_searches table' slots
      | none => []

/-- The calls of `find_slot` in `resize_table`. -/
def resize_searches (table : TraceeTable) (capacity : Nat) (granted : Bool) :
    List (TraceeTable × Pid) :=
  if !calloc_slots granted capacity then []
  else rehash_searches ⟨List.replicate capacity .empty, capacity, 0, 0⟩ table.slots

/-- The calls of `find_slot` in `ensure_capacity`. -/
def ensure_searches (table : TraceeTable) (granted : Bool) : List (TraceeTable × Pid) :=
  if table.capacity = 0 then resize_searches table SG_TRACEE_INITIAL_CAPACITY granted
  else if (table.count + table.tombstones + 1) * 10 % 2 ^ 64 < table.capacity * 7 % 2 ^ 64 then []
  else if table.capacity > (2 ^ 64 - 1) / 2 then []
  else resize_searches table (table.capacity * 2) granted

/-- The calls of `find_slot` in one call of a table operation. -/
def TableOp.searches (table : TraceeTable) : TableOp → List (TraceeTable × Pid)
  | .init => []
  | .insert tid tgid _ granted =>
    if tid ≤ 0 ∨ tgid ≤ 0 then []
    else ensure_searches table granted ++
      match ensure_capacity table granted with
      | some (true, grown) => [(grown, tid)]
      | _ => []
  | .get tid => if table.capacity = 0 ∨ tid ≤ 0 then [] else [(table, tid)]
  | .remove tid => if table.capacity = 0 ∨ tid ≤ 0 then [] else [(table, tid)]
  | .destroy => []

/-- The calls of `find_slot` in a sequence of table operations. -/
def searches (table : TraceeTable) : List TableOp → List (TraceeTable × Pid)
  | [] => []
  | op :: ops =>
    op.searches table ++
      match op.run table with
      | some (_, table') => searches table' ops
      | none => []

/-! ### Each of them can be made -/

namespace TraceeTable

variable {table : TraceeTable} {granted : Bool}

/-- Every call of the loop of `resize_table` gets a table that can be searched: the array
    has room for the records still to come and for one more. -/
theorem rehash_searches_searchable (slots : List (Slot Tracee)) :
    ∀ table : TraceeTable, table.Filling →
      ((records slots).map Tracee.tid).Nodup →
      (∀ tracee ∈ records slots, table.lookup tracee.tid = none) →
      table.slots.countP Slot.isOccupied + slots.countP Slot.isOccupied < table.slots.length →
      ∀ call ∈ rehash_searches table slots, call.1.Searchable := by
  induction slots with
  | nil => simp [rehash_searches]
  | cons slot slots ih =>
    intro table h hnodup habsent hroom call hcall
    cases slot with
    | empty => exact ih table h hnodup habsent hroom call hcall
    | tombstone => exact ih table h hnodup habsent hroom call hcall
    | occupied tracee =>
      have hnodup' : tracee.tid ∉ (records slots).map Tracee.tid ∧
          ((records slots).map Tracee.tid).Nodup := by
        simpa [records, List.filterMap_cons, -List.mem_map] using hnodup
      have hroom' : table.slots.countP Slot.isOccupied +
          (slots.countP Slot.isOccupied + 1) < table.slots.length := by
        simpa [List.countP_cons] using hroom
      obtain ⟨table', hrun, h', hcap, hocc, hlookup⟩ := rehash_record_spec h
        (habsent tracee (by simp [records])) (by omega)
      rw [rehash_searches, hrun, List.mem_append] at hcall
      rcases hcall with hfirst | hlater
      · rw [List.mem_singleton.mp hfirst]
        exact h.toSearchable
      · refine ih table' h' hnodup'.2 ?_ ?_ call hlater
        · intro other hother
          have hdiffers : other.tid ≠ tracee.tid := by
            intro heq
            exact hnodup'.1 (List.mem_map.mpr ⟨other, hother, heq⟩)
          rw [hlookup, if_neg hdiffers]
          exact habsent other (by simpa [records, List.filterMap_cons] using Or.inr hother)
        · have hlength : table'.slots.length = table.slots.length := by
            rw [h'.length, hcap, h.length]
          omega

/-- A resize to a larger power of two searches nothing but tables that can be searched. -/
theorem resize_searches_searchable (h : table.Ok) {k capacity : Nat} (hk : capacity = 2 ^ k)
    (hgrow : table.capacity < capacity) :
    ∀ call ∈ resize_searches table capacity granted, call.1.Searchable := by
  intro call hcall
  rw [resize_searches] at hcall
  split at hcall
  · simp at hcall
  · refine rehash_searches_searchable table.slots _ (filling_fresh hk) h.valid.nodup_keys
      (fun tracee _ => by simp [lookup]) ?_ call hcall
    have hused : table.slots.countP Slot.isOccupied ≤ table.capacity := by
      rw [← h.length]
      exact List.countP_le_length
    simp only [List.countP_replicate, Slot.isOccupied_empty, List.length_replicate]
    simp only [Bool.false_eq_true, if_false]
    omega

theorem ensure_searches_searchable (h : table.Ok) :
    ∀ call ∈ ensure_searches table granted, call.1.Searchable := by
  intro call hcall
  rw [ensure_searches] at hcall
  by_cases h0 : table.capacity = 0
  · rw [if_pos h0] at hcall
    exact resize_searches_searchable (k := 4) h rfl (by rw [h0]; decide) call hcall
  · rw [if_neg h0] at hcall
    split at hcall
    · simp at hcall
    · split at hcall
      · simp at hcall
      · obtain ⟨k, -, hk⟩ : ∃ k, 4 ≤ k ∧ table.capacity = 2 ^ k := h.capacity.resolve_left h0
        have hdouble : table.capacity * 2 = 2 ^ (k + 1) := by rw [hk, Nat.pow_succ]
        exact resize_searches_searchable h hdouble (by omega) call hcall

/-- The loop of `find_slot` ends within as many rounds as there are slots, and finds no
    record under the TID only when there is none. -/
theorem Searchable.find_slot_ends (h : table.Searchable) (tid : Pid) :
    ∃ rounds index found, rounds ≤ table.capacity ∧
      find_slot_stops table tid rounds (index, found) ∧
      Found Tracee.tid hash table.slots tid (index, found) := by
  obtain ⟨⟨index, found⟩, hfind, hfound⟩ := find_slot_spec h tid
  obtain ⟨rounds, hrounds, hstops⟩ := probe_eq_some_iff.mp hfind
  exact ⟨rounds, index, found, hrounds, hstops, hfound⟩

end TraceeTable

open TraceeTable

/-- One operation on a valid table searches nothing but tables that can be searched. -/
theorem TableOp.searches_searchable {table : TraceeTable} (h : table.Ok) (op : TableOp) :
    ∀ call ∈ op.searches table, call.1.Searchable := by
  intro call hcall
  -- A lookup or a removal looks into the table as it is.
  have hself : ∀ tid : Pid,
      call ∈ (if table.capacity = 0 ∨ tid ≤ 0 then [] else [(table, tid)]) →
      call.1.Searchable := by
    intro tid hmem
    split at hmem
    · simp at hmem
    · next hused =>
      push Not at hused
      rw [List.mem_singleton.mp hmem]
      exact h.searchable hused.1
  cases op with
  | init => simp [TableOp.searches] at hcall
  | destroy => simp [TableOp.searches] at hcall
  | get tid => exact hself tid hcall
  | remove tid => exact hself tid hcall
  | insert tid tgid attached granted =>
    rw [TableOp.searches] at hcall
    split at hcall
    · simp at hcall
    · rcases List.mem_append.mp hcall with hensure | hplace
      · exact ensure_searches_searchable h call hensure
      · obtain ⟨ok, grown, hrun, hgrown, -, hroom, -⟩ := ensure_capacity_spec h granted
        rw [hrun] at hplace
        cases ok with
        | false => simp at hplace
        | true =>
          rw [List.mem_singleton.mp hplace]
          exact hgrown.searchable (hroom rfl).1

/-- So does a sequence of operations. -/
theorem searches_searchable (ops : List TableOp) : ∀ {table : TraceeTable}, table.Ok →
    ∀ call ∈ searches table ops, call.1.Searchable := by
  induction ops with
  | nil => simp [searches]
  | cons op ops ih =>
    intro table h call hcall
    obtain ⟨reply, table', hrun, h', -⟩ := op.run_spec h
    rw [searches, hrun] at hcall
    rcases List.mem_append.mp hcall with hfirst | hlater
    · exact op.searches_searchable h call hfirst
    · exact ih h' call hlater

/-- **Probing always ends.**  Every sequence of table operations returns, whatever the TIDs
    and whichever allocations are refused.  Each call of `find_slot` it makes, from an
    operation or from inside a rehash, meets a power of two of slots, one of them empty
    at least; the loop stops within that many rounds, and for an absent TID the slot
    it returns is empty or a tombstone. -/
theorem probing_ends (ops : List TableOp) :
    (runTable sg_tracee_table_init ops).isSome ∧
      ∀ call ∈ searches sg_tracee_table_init ops,
        (∃ k, call.1.capacity = 2 ^ k) ∧ call.1.slots.length = call.1.capacity ∧
        (∃ index : Nat, call.1.slots[index]? = some .empty) ∧
        ∃ rounds index found, rounds ≤ call.1.capacity ∧
          find_slot_stops call.1 call.2 rounds (index, found) ∧
          ((∀ (i : Nat) (tracee : Tracee), call.1.slots[i]? = some (.occupied tracee) →
              tracee.tid ≠ call.2) →
            found = false ∧
              (call.1.slots[index]? = some .empty ∨ call.1.slots[index]? = some .tombstone)) := by
  constructor
  · obtain ⟨replies, table, hrun, -⟩ := runTable_spec ops _ TraceeTable.ok_init
    rw [hrun]
    rfl
  · intro call hcall
    have h := searches_searchable ops TraceeTable.ok_init call hcall
    obtain ⟨rounds, index, found, hrounds, hstops, hfound⟩ := h.find_slot_ends call.2
    refine ⟨h.power, h.length, exists_empty h.space, rounds, index, found, hrounds, hstops, ?_⟩
    intro habsent
    cases found with
    | true =>
      obtain ⟨tracee, hslot, htid⟩ := hfound
      exact absurd htid (habsent index tracee hslot)
    | false => exact ⟨rfl, hfound.2.1⟩

end Sysgaze
