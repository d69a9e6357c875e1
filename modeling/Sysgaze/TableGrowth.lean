import Mathlib.Data.Finset.Lattice.Fold
import Mathlib.Order.Lattice.Nat
import Sysgaze.TraceeTable

/-! # The size of the tracee table (`tracee_table.c`)

    A removed tracee leaves a tombstone.  An insertion may reuse it, and a
    rehash drops it, but `ensure_capacity` counts it as a slot in use and knows
    one answer to a table that is full: twice the slots.  So the slot array
    follows the TIDs that are present only while the tombstones stay few.
-/

open OpenAddressing

namespace Sysgaze

namespace TraceeTable

/-- The number of TIDs in the table. -/
noncomputable def present (table : TraceeTable) : Nat :=
  Set.ncard {tid | (table.lookup tid).isSome}

/-- One more record would bring the slots in use to seven tenths. -/
def Full (table : TraceeTable) : Prop :=
  table.capacity ≠ 0 ∧ table.capacity * 7 ≤ (table.count + table.tombstones + 1) * 10

instance (table : TraceeTable) : Decidable table.Full :=
  inferInstanceAs (Decidable (_ ∧ _))

section capacity
variable {table table' : TraceeTable} {granted : Bool}

/-- A table that is full has as many slots as the slots in use ask for. -/
theorem Full.double_le_iff (hfull : table.Full) (h : table.Ok) (m : Nat) :
    table.capacity * 2 ≤ max 16 (8 * (m + 1)) ↔
      (table.count + table.tombstones) * 10 < (m + 1) * 28 := by
  obtain ⟨hc, hused⟩ := hfull
  obtain ⟨k, hk, hpow⟩ := h.capacity.resolve_left hc
  have hload := h.load (Nat.pos_of_ne_zero hc)
  have hsixteen : table.capacity = 16 * 2 ^ (k - 4) := by
    rw [hpow, show (16 : Nat) = 2 ^ 4 from rfl, ← Nat.pow_add, Nat.add_sub_cancel' hk]
  have hpos : 0 < 2 ^ (k - 4) := Nat.two_pow_pos _
  rw [le_max_iff]
  omega

/-- `ensure_capacity` doubles a full table if it gets the memory. -/
theorem ensure_capacity_grows (h : table.Ok) (hfull : table.Full)
    (hcalloc : calloc_slots granted (table.capacity * 2) = true) :
    ∃ table', ensure_capacity table granted = some (true, table') ∧
      table'.capacity = table.capacity * 2 := by
  obtain ⟨hc, hused⟩ := hfull
  have hbytes : table.capacity * 352 < 2 ^ 64 := h.bytes
  have hload := h.load (Nat.pos_of_ne_zero hc)
  obtain ⟨k, hk, hpow⟩ := h.capacity.resolve_left hc
  have hdouble : table.capacity * 2 = 2 ^ (k + 1) := by rw [hpow, Nat.pow_succ]
  obtain ⟨ok, table', hrun, -, hok, -, hdone, -⟩ :=
    resize_table_spec h hdouble (by omega) (by omega) granted
  rw [hcalloc] at hok
  rw [hok] at hrun
  refine ⟨table', ?_, (hdone hok).1⟩
  unfold ensure_capacity
  rw [if_neg hc, Nat.mod_eq_of_lt (by omega), Nat.mod_eq_of_lt (by omega), if_neg (by omega),
    if_neg (by omega)]
  exact hrun

/-- Otherwise the slot array is the old one or the first. -/
theorem ensure_capacity_stays (h : table.Ok)
    (hgrow : ¬(table.Full ∧ calloc_slots granted (table.capacity * 2) = true)) {ok : Bool}
    (hrun : ensure_capacity table granted = some (ok, table')) :
    table'.capacity ≤ max 16 table.capacity := by
  have hbytes : table.capacity * 352 < 2 ^ 64 := h.bytes
  unfold ensure_capacity at hrun
  by_cases hc : table.capacity = 0
  · rw [if_pos hc] at hrun
    obtain ⟨ok', first, hfirst, -, -, hfail, hdone, -⟩ :=
      resize_table_spec h (rfl : SG_TRACEE_INITIAL_CAPACITY = 2 ^ 4) (le_refl 4)
        (by rw [hc]; decide) granted
    rw [hrun] at hfirst
    obtain ⟨rfl, rfl⟩ := Prod.mk.inj (Option.some.inj hfirst)
    cases ok with
    | false => rw [hfail rfl]; exact le_max_right _ _
    | true => rw [(hdone rfl).1]; exact le_max_left _ _
  · have hload := h.load (Nat.pos_of_ne_zero hc)
    rw [if_neg hc, Nat.mod_eq_of_lt (by omega), Nat.mod_eq_of_lt (by omega)] at hrun
    split at hrun
    · obtain ⟨-, rfl⟩ := Prod.mk.inj (Option.some.inj hrun)
      exact le_max_right _ _
    · next hroom =>
      have hfull : table.Full := ⟨hc, by omega⟩
      have hrefused : calloc_slots granted (table.capacity * 2) = false :=
        Bool.eq_false_iff.mpr fun hcalloc => hgrow ⟨hfull, hcalloc⟩
      rw [if_neg (by omega), resize_table, hrefused] at hrun
      obtain ⟨-, rfl⟩ := Prod.mk.inj (Option.some.inj hrun)
      exact le_max_right _ _

/-- The insertion itself takes one of the slots that `ensure_capacity` has left. -/
theorem sg_tracee_table_insert_capacity {tid tgid : Pid} {attached : Bool} {reply : Bool × Bool}
    (hpos : ¬(tid ≤ 0 ∨ tgid ≤ 0))
    (hrun : sg_tracee_table_insert table tid tgid attached granted = some (reply, table')) :
    ∃ ok grown, ensure_capacity table granted = some (ok, grown) ∧
      table'.capacity = grown.capacity := by
  unfold sg_tracee_table_insert at hrun
  rw [if_neg hpos] at hrun
  obtain ⟨⟨ok, grown⟩, hensure, hrest⟩ := Option.bind_eq_some_iff.mp hrun
  refine ⟨ok, grown, hensure, ?_⟩
  cases ok with
  | false =>
    obtain ⟨-, rfl⟩ := Prod.mk.inj (Option.some.inj hrest)
    rfl
  | true =>
    obtain ⟨⟨index, found⟩, hfind, hplace⟩ := Option.bind_eq_some_iff.mp hrest
    cases found with
    | true =>
      obtain ⟨-, rfl⟩ := Prod.mk.inj (Option.some.inj hplace)
      rfl
    | false =>
      obtain ⟨slot, hslot, hput⟩ := Option.bind_eq_some_iff.mp hplace
      obtain ⟨-, rfl⟩ := Prod.mk.inj (Option.some.inj hput)
      rfl

/-- A removal gives no slot back. -/
theorem sg_tracee_table_remove_capacity {tid : Pid} {removed : Option Tracee}
    (hrun : sg_tracee_table_remove table tid = some (removed, table')) :
    table'.capacity = table.capacity := by
  unfold sg_tracee_table_remove at hrun
  split at hrun
  · obtain ⟨-, rfl⟩ := Prod.mk.inj (Option.some.inj hrun)
    rfl
  · obtain ⟨⟨index, found⟩, hfind, hrest⟩ := Option.bind_eq_some_iff.mp hrun
    cases found with
    | false =>
      obtain ⟨-, rfl⟩ := Prod.mk.inj (Option.some.inj hrest)
      rfl
    | true =>
      obtain ⟨slot, hslot, hput⟩ := Option.bind_eq_some_iff.mp hrest
      obtain ⟨-, rfl⟩ := Prod.mk.inj (Option.some.inj hput)
      rfl

end capacity

end TraceeTable

/-! ### Runs -/

/-- The call is an insertion that finds the table full and gets the memory to double it. -/
def TableOp.Grows (table : TraceeTable) : TableOp → Prop
  | .insert tid tgid _ granted =>
    0 < tid ∧ 0 < tgid ∧ table.Full ∧ calloc_slots granted (table.capacity * 2) = true
  | _ => False

instance (table : TraceeTable) : DecidablePred (TableOp.Grows table)
  | .insert _ _ _ _ => inferInstanceAs (Decidable (_ ∧ _))
  | .init => inferInstanceAs (Decidable False)
  | .get _ => inferInstanceAs (Decidable False)
  | .remove _ => inferInstanceAs (Decidable False)
  | .destroy => inferInstanceAs (Decidable False)

/-- The tables that a sequence of calls goes through, from the first to the last. -/
def tables (table : TraceeTable) : List TableOp → List TraceeTable
  | [] => [table]
  | op :: ops =>
    match op.run table with
    | some (_, table') => table :: tables table' ops
    | none => [table]

/-- Those of them that an insertion of the sequence doubles. -/
def growths (table : TraceeTable) : List TableOp → List TraceeTable
  | [] => []
  | op :: ops =>
    match op.run table with
    | some (_, table') =>
      if op.Grows table then table :: growths table' ops else growths table' ops
    | none => []

/-- The largest number of TIDs that are in the table at once. -/
def peak (table : TraceeTable) (ops : List TableOp) : Nat :=
  (tables table ops).toFinset.sup TraceeTable.count

section runs
variable {table table' : TraceeTable} {op : TableOp} {reply : TableReply} {m : Nat}

/-- What one call does to the size of the slot array. -/
theorem TableOp.run_capacity (h : table.Ok) (hrun : op.run table = some (reply, table')) :
    (op.Grows table → table'.capacity = table.capacity * 2) ∧
      (¬op.Grows table → table'.capacity ≤ max 16 table.capacity) := by
  cases op with
  | init =>
    obtain ⟨-, rfl⟩ := Prod.mk.inj (Option.some.inj hrun)
    exact ⟨False.elim, fun _ => Nat.zero_le _⟩
  | destroy =>
    obtain ⟨-, rfl⟩ := Prod.mk.inj (Option.some.inj hrun)
    exact ⟨False.elim, fun _ => Nat.zero_le _⟩
  | get tid =>
    obtain ⟨tracee, hget, hdone⟩ := Option.bind_eq_some_iff.mp hrun
    obtain ⟨-, rfl⟩ := Prod.mk.inj (Option.some.inj hdone)
    exact ⟨False.elim, fun _ => le_max_right _ _⟩
  | remove tid =>
    obtain ⟨⟨removed, left⟩, hremove, hdone⟩ := Option.bind_eq_some_iff.mp hrun
    obtain ⟨-, rfl⟩ := Prod.mk.inj (Option.some.inj hdone)
    refine ⟨False.elim, fun _ => ?_⟩
    rw [TraceeTable.sg_tracee_table_remove_capacity hremove]
    exact le_max_right _ _
  | insert tid tgid attached granted =>
    obtain ⟨⟨⟨ok, inserted⟩, after⟩, hinsert, hdone⟩ := Option.bind_eq_some_iff.mp hrun
    obtain ⟨-, rfl⟩ := Prod.mk.inj (Option.some.inj hdone)
    by_cases hpos : tid ≤ 0 ∨ tgid ≤ 0
    · rw [sg_tracee_table_insert, if_pos hpos] at hinsert
      obtain ⟨-, rfl⟩ := Prod.mk.inj (Option.some.inj hinsert)
      refine ⟨fun hgrows => ?_, fun _ => le_max_right _ _⟩
      rcases hgrows with ⟨htid, htgid, _⟩
      rcases hpos with hle | hle
      · exact absurd htid (not_lt.mpr hle)
      · exact absurd htgid (not_lt.mpr hle)
    · obtain ⟨ok, grown, hensure, hcap⟩ :=
        TraceeTable.sg_tracee_table_insert_capacity hpos hinsert
      rw [hcap]
      refine ⟨fun hgrows => ?_, fun hgrows => ?_⟩
      · rcases hgrows with ⟨_, _, hfull, hcalloc⟩
        obtain ⟨doubled, hdoubled, hsize⟩ := TraceeTable.ensure_capacity_grows h hfull hcalloc
        rw [hensure] at hdoubled
        rw [(Prod.mk.inj (Option.some.inj hdoubled)).2]
        exact hsize
      · refine TraceeTable.ensure_capacity_stays h (fun hdoubles => ?_) hensure
        push Not at hpos
        exact hgrows ⟨hpos.1, hpos.2, hdoubles⟩

/-- A table that an insertion doubles is full. -/
theorem TableOp.Grows.full (h : op.Grows table) : table.Full := by
  cases op with
  | insert tid tgid attached granted => exact h.2.2.1
  | init => exact h.elim
  | destroy => exact h.elim
  | get tid => exact h.elim
  | remove tid => exact h.elim

theorem mem_tables_self (table : TraceeTable) (ops : List TableOp) : table ∈ tables table ops := by
  cases ops with
  | nil => exact List.mem_singleton_self _
  | cons op ops =>
    rw [tables]
    split
    · exact List.mem_cons_self
    · exact List.mem_singleton_self _

theorem ok_of_mem_tables (ops : List TableOp) : ∀ {table : TraceeTable}, table.Ok →
    ∀ visited ∈ tables table ops, visited.Ok := by
  induction ops with
  | nil =>
    intro table h visited hvisited
    rw [List.mem_singleton.mp hvisited]
    exact h
  | cons op ops ih =>
    intro table h visited hvisited
    obtain ⟨reply, table', hrun, h', -⟩ := op.run_spec h
    rw [tables, hrun] at hvisited
    rcases List.mem_cons.mp hvisited with rfl | hvisited
    · exact h
    · exact ih h' visited hvisited

/-- While every table that is doubled has few slots in use, none becomes too large. -/
theorem tables_small (ops : List TableOp) : ∀ {table : TraceeTable}, table.Ok →
    table.capacity ≤ max 16 (8 * (m + 1)) →
    (∀ full ∈ growths table ops, (full.count + full.tombstones) * 10 < (m + 1) * 28) →
    ∀ visited ∈ tables table ops, visited.capacity ≤ max 16 (8 * (m + 1)) := by
  induction ops with
  | nil =>
    intro table _ hsmall _ visited hvisited
    rw [List.mem_singleton.mp hvisited]
    exact hsmall
  | cons op ops ih =>
    intro table h hsmall hgrowths visited hvisited
    obtain ⟨reply, table', hrun, h', -⟩ := op.run_spec h
    obtain ⟨hdoubles, hstays⟩ := TableOp.run_capacity h hrun
    simp only [tables, growths, hrun] at hvisited hgrowths
    have hrest : table'.capacity ≤ max 16 (8 * (m + 1)) ∧
        ∀ full ∈ growths table' ops, (full.count + full.tombstones) * 10 < (m + 1) * 28 := by
      by_cases hgrows : op.Grows table
      · rw [if_pos hgrows] at hgrowths
        refine ⟨?_, fun full hfull => hgrowths full (List.mem_cons_of_mem _ hfull)⟩
        rw [hdoubles hgrows, hgrows.full.double_le_iff h]
        exact hgrowths table List.mem_cons_self
      · rw [if_neg hgrows] at hgrowths
        exact ⟨(hstays hgrows).trans (max_le (le_max_left _ _) hsmall), hgrowths⟩
    rcases List.mem_cons.mp hvisited with rfl | hvisited
    · exact hsmall
    · exact ih h' hrest.1 hrest.2 visited hvisited

/-- A table that is doubled with too many slots in use becomes too large. -/
theorem growths_small (ops : List TableOp) : ∀ {table : TraceeTable}, table.Ok →
    (∀ visited ∈ tables table ops, visited.capacity ≤ max 16 (8 * (m + 1))) →
    ∀ full ∈ growths table ops, (full.count + full.tombstones) * 10 < (m + 1) * 28 := by
  induction ops with
  | nil => simp [growths]
  | cons op ops ih =>
    intro table h hsmall full hfull
    obtain ⟨reply, table', hrun, h', -⟩ := op.run_spec h
    obtain ⟨hdoubles, -⟩ := TableOp.run_capacity h hrun
    simp only [tables, growths, hrun] at hsmall hfull
    have hlater : ∀ visited ∈ tables table' ops, visited.capacity ≤ max 16 (8 * (m + 1)) :=
      fun visited hvisited => hsmall visited (List.mem_cons_of_mem _ hvisited)
    by_cases hgrows : op.Grows table
    · rw [if_pos hgrows] at hfull
      rcases List.mem_cons.mp hfull with rfl | hfull
      · rw [← hgrows.full.double_le_iff h, ← hdoubles hgrows]
        exact hlater table' (mem_tables_self table' ops)
      · exact ih h' hlater full hfull
    · rw [if_neg hgrows] at hfull
      exact ih h' hlater full hfull

/-- The peak is the least number that bounds the TIDs present. -/
theorem peak_le_iff {ops : List TableOp} (h : table.Ok) :
    peak table ops ≤ m ↔ ∀ visited ∈ tables table ops, visited.present ≤ m := by
  rw [peak, Finset.sup_le_iff]
  constructor
  · intro hcount visited hvisited
    rw [TraceeTable.present, ← (ok_of_mem_tables ops h visited hvisited).count_eq]
    exact hcount visited (List.mem_toFinset.mpr hvisited)
  · intro hpresent visited hvisited
    have hmem := List.mem_toFinset.mp hvisited
    rw [(ok_of_mem_tables ops h visited hmem).count_eq]
    exact hpresent visited hmem

/-- **When the slot array follows the TIDs that are present.**  In a sequence of calls it has
    at most `max 16 (8 * (m + 1))` slots for every `m` that bounds the TIDs present at
    once, if and only if every insertion that doubles it finds fewer than 2.8 slots in
    use, tombstones included, for each TID of the peak and one more. -/
theorem capacity_follows_iff (ops : List TableOp) :
    (∀ m, (∀ table ∈ tables sg_tracee_table_init ops, table.present ≤ m) →
      ∀ table ∈ tables sg_tracee_table_init ops, table.capacity ≤ max 16 (8 * (m + 1))) ↔
    ∀ table ∈ growths sg_tracee_table_init ops,
      (table.count + table.tombstones) * 10 < (peak sg_tracee_table_init ops + 1) * 28 := by
  have hinit : sg_tracee_table_init.Ok := TraceeTable.ok_init
  constructor
  · intro hfollows
    apply growths_small ops hinit
    exact hfollows _ ((peak_le_iff hinit).mp (le_refl _))
  · intro hgrowths m hpresent visited hvisited
    have hpeak : peak sg_tracee_table_init ops ≤ m := (peak_le_iff hinit).mpr hpresent
    have hsmall := tables_small ops hinit (Nat.zero_le _) hgrowths visited hvisited
    exact hsmall.trans (max_le_max (le_refl 16) (by omega))

/-- Tracees that come one after the other, each gone before the next. -/
def one_by_one (tids : List Pid) : List TableOp :=
  tids.flatMap fun tid => [.insert tid tid false true, .remove tid]

/-- **Eleven short-lived tracees** fill the first sixteen slots: the twelfth doubles them. -/
theorem capacity_outgrows : ¬∀ (m : Nat) (ops : List TableOp),
    (∀ table ∈ tables sg_tracee_table_init ops, table.present ≤ m) →
    ∀ table ∈ tables sg_tracee_table_init ops, table.capacity ≤ max 16 (8 * (m + 1)) := by
  intro hclaim
  let ops : List TableOp := one_by_one [1, 2, 3, 4, 5, 6, 7, 8, 9, 10, 11, 12]
  have hpeak : ∀ table ∈ tables sg_tracee_table_init ops, table.count ≤ 1 := by decide +kernel
  have hgrown : ∃ table ∈ tables sg_tracee_table_init ops, table.capacity = 32 := by decide +kernel
  obtain ⟨table, hvisited, hcapacity⟩ := hgrown
  have hbound := hclaim 1 ops (fun visited h => ?_) table hvisited
  · rw [hcapacity] at hbound
    exact absurd hbound (by decide)
  · rw [TraceeTable.present, ← (ok_of_mem_tables ops TraceeTable.ok_init visited h).count_eq]
    exact hpeak visited h

end runs

end Sysgaze
