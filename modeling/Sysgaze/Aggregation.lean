import Mathlib.Algebra.Order.BigOperators.Group.List
import Mathlib.Algebra.Order.Ring.Nat
import Mathlib.Data.List.Lex
import Mathlib.Data.List.Perm.Subperm
import Mathlib.Data.Prod.Lex
import Sysgaze.Stats

/-! # What the statistics say about the calls

    `Aggregates events stats` is the meaning of the statistics: one row for
    each number, in the order in which the numbers come up, with the count, the
    errors and the time of the calls of that number.

    * `record_spec`: recording one more call keeps this meaning, and is refused
      exactly when the calls can no longer be counted (`Countable`).
    * `sg_stats_report_perm`: whether a list of calls is accepted, and what is
      then reported, does not depend on the order of the calls; the report has
      one row for each number and is ordered by `SyscallStat.key`.
-/

namespace Sysgaze

/-! ### The aggregate of a list of calls -/

/-- The time that a call has taken. -/
def duration (event : SyscallEvent) : Nat := (elapsed_nanoseconds event).getD 0

/-- Does the call count as an error? -/
def SyscallEvent.failed (event : SyscallEvent) : Bool := event.error_number != 0

/-- The row that sums up the calls of one number. -/
def tally (events : List SyscallEvent) (number : Int) : SyscallStat where
  number := number
  calls := events.countP fun event => event.number == number
  errors := events.countP fun event => event.number == number && event.failed
  nanoseconds := ((events.filter fun event => event.number == number).map duration).sum

/-- The numbers of the calls, in the order in which they come up. -/
def numbers (events : List SyscallEvent) : List Int :=
  events.foldl (fun seen event => if event.number ∈ seen then seen else seen ++ [event.number]) []

/-- The capacity of the row array grows by doubling. -/
def Grown (count capacity : Nat) : Prop :=
  (count = 0 ∧ capacity = 0) ∨
    ∃ k ≤ 54, capacity = 16 * 2 ^ k ∧ 0 < count ∧ count ≤ capacity ∧ (k = 0 ∨ 8 * 2 ^ k < count)

/-- The statistics are those of the calls. -/
structure Aggregates (events : List SyscallEvent) (stats : Stats) : Prop where
  rows : stats.rows = (numbers events).map (tally events)
  total_calls : stats.total_calls = events.length
  total_errors : stats.total_errors = events.countP SyscallEvent.failed
  total_nanoseconds : stats.total_nanoseconds = (events.map duration).sum
  capacity : Grown stats.rows.length stats.capacity

/-- The number of rows that fit in the address space. -/
abbrev row_limit : Nat := 2 ^ 58

/-- The calls are complete, and their number, their time and the number of their rows
    can be represented. -/
structure Countable (events : List SyscallEvent) : Prop where
  completed : ∀ event ∈ events, event.completed = true
  measured : ∀ event ∈ events, (elapsed_nanoseconds event).isSome
  calls : events.length ≤ UINT64_MAX
  nanoseconds : (events.map duration).sum ≤ UINT64_MAX
  rows : (numbers events).length ≤ row_limit

/-- `sg_stats_record` for one call after the other; every allocation succeeds. -/
def record_all (stats : Stats) : List SyscallEvent → Bool × Stats
  | [] => (true, stats)
  | event :: events =>
    match sg_stats_record stats event true with
    | (true, stats) => record_all stats events
    | (false, stats) => (false, stats)

/-- The time of a call fits in 64 bits. -/
theorem elapsed_nanoseconds_le {event : SyscallEvent} {ns : Nat}
    (h : elapsed_nanoseconds event = some ns) : ns ≤ UINT64_MAX := by
  unfold elapsed_nanoseconds at h
  have hmax : UINT64_MAX = 2 ^ 64 - 1 := rfl
  dsimp only at h
  split at h
  · rw [Option.some.injEq] at h
    omega
  · simp only [Option.ite_none_left_eq_some, Option.some.injEq] at h
    omega

section numbers
variable {events events' : List SyscallEvent} {event : SyscallEvent} {number : Int}

theorem numbers_append : numbers (events ++ [event]) =
    if event.number ∈ numbers events then numbers events
    else numbers events ++ [event.number] := by
  unfold numbers
  rw [List.foldl_append]
  rfl

theorem mem_numbers : number ∈ numbers events ↔ ∃ event ∈ events, event.number = number := by
  induction events using List.reverseRecOn with
  | nil => simp [numbers]
  | append_singleton events event ih =>
    rw [numbers_append]
    split
    · rename_i hmem
      rw [ih]
      constructor
      · intro h
        rcases h with ⟨other, hother, hnum⟩
        exact ⟨other, by simp [hother], hnum⟩
      · intro h
        rcases h with ⟨other, hother, hnum⟩
        obtain hother | hother := List.mem_append.mp hother
        · exact ⟨other, hother, hnum⟩
        · rw [List.mem_singleton] at hother
          rw [hother] at hnum
          exact ih.mp (hnum ▸ hmem)
    · rw [List.mem_append, ih, List.mem_singleton]
      constructor
      · intro h
        obtain ⟨other, hother, hnum⟩ | hnum := h
        · exact ⟨other, by simp [hother], hnum⟩
        · exact ⟨event, by simp, hnum.symm⟩
      · intro h
        rcases h with ⟨other, hother, hnum⟩
        obtain hother | hother := List.mem_append.mp hother
        · exact Or.inl ⟨other, hother, hnum⟩
        · rw [List.mem_singleton] at hother
          exact Or.inr (by rw [← hnum, hother])

theorem nodup_numbers : (numbers events).Nodup := by
  induction events using List.reverseRecOn with
  | nil => simp [numbers]
  | append_singleton events event ih =>
    rw [numbers_append]
    split
    · exact ih
    · rename_i hnot
      rw [List.nodup_append]
      refine ⟨ih, by simp, ?_⟩
      intro a ha b hb
      rw [List.mem_singleton] at hb
      rintro rfl
      exact hnot (hb ▸ ha)

/-- The same numbers come up in any order. -/
theorem numbers_perm (hperm : events.Perm events') : (numbers events).Perm (numbers events') := by
  rw [List.perm_ext_iff_of_nodup nodup_numbers nodup_numbers]
  intro number
  rw [mem_numbers, mem_numbers]
  simp only [hperm.mem_iff]

theorem tally_perm (hperm : events.Perm events') : tally events number = tally events' number := by
  unfold tally
  rw [hperm.countP_eq, hperm.countP_eq, ((hperm.filter _).map duration).sum_eq]

/-- One more call changes the row of its number only. -/
theorem tally_append : tally (events ++ [event]) number =
    if event.number = number then
      { tally events number with
        calls := (tally events number).calls + 1
        errors := (tally events number).errors + if event.failed then 1 else 0
        nanoseconds := (tally events number).nanoseconds + duration event }
    else tally events number := by
  unfold tally
  by_cases hnum : event.number = number
  · rw [if_pos hnum]
    simp [List.countP_append, List.countP_cons, List.filter_append, hnum]
  · rw [if_neg hnum]
    simp [List.countP_append, List.filter_append, hnum]

/-- The row of a number that has not come up is empty. -/
theorem tally_of_absent (h : number ∉ numbers events) : tally events number = ⟨number, 0, 0, 0⟩ := by
  have hnone : ∀ event ∈ events, ¬event.number = number := by
    intro event hevent hnum
    exact h (mem_numbers.mpr ⟨event, hevent, hnum⟩)
  have hfilter : events.filter (fun event => event.number == number) = [] := by
    simpa using hnone
  unfold tally
  rw [hfilter, List.countP_eq_zero.mpr, List.countP_eq_zero.mpr]
  · rfl
  · simpa using fun event hevent hnum => absurd hnum (hnone event hevent)
  · simpa using hnone

/-- No row counts more than all calls together. -/
theorem tally_le : (tally events number).calls ≤ events.length ∧
    (tally events number).errors ≤ events.countP SyscallEvent.failed ∧
    (tally events number).nanoseconds ≤ (events.map duration).sum := by
  refine ⟨List.countP_le_length, ?_, ?_⟩
  · apply List.countP_mono_left
    intro event _ h
    rw [Bool.and_eq_true] at h
    exact h.2
  · exact ((List.filter_sublist).map duration).sum_le_sum (by simp)

end numbers

/-! ### Recording a call -/

section record
variable {events events' : List SyscallEvent} {event : SyscallEvent} {stats stats' : Stats}

theorem aggregates_nil : Aggregates [] sg_stats_init :=
  ⟨rfl, rfl, rfl, rfl, Or.inl ⟨rfl, rfl⟩⟩

theorem find_row_none (h : find_row stats event.number = none) (hagg : Aggregates events stats) :
    event.number ∉ numbers events := by
  unfold find_row at h
  rw [List.findIdx?_eq_none_iff, hagg.rows] at h
  intro hmem
  have := h (tally events event.number) (List.mem_map_of_mem hmem)
  simp [tally] at this

/-- The row that is found is the row of the number. -/
theorem find_row_some {index : Nat} (h : find_row stats event.number = some index)
    (hagg : Aggregates events stats) : (numbers events)[index]? = some event.number := by
  unfold find_row at h
  obtain ⟨hindex, hfound, -⟩ := List.findIdx?_eq_some_iff_getElem.mp h
  have hlen : index < (numbers events).length := by
    rw [hagg.rows, List.length_map] at hindex
    exact hindex
  rw [List.getElem?_eq_getElem hlen]
  have hrow : stats.rows[index] = tally events (numbers events)[index] := by
    simp only [hagg.rows, List.getElem_map]
  rw [hrow] at hfound
  simpa [tally] using hfound

/-- A row is updated where its number stands. -/
theorem rows_set {rows : List Int} {index : Nat} (hnodup : rows.Nodup)
    (hindex : rows[index]? = some event.number) :
    (rows.map (tally events)).set index (tally (events ++ [event]) event.number) =
      rows.map (tally (events ++ [event])) := by
  obtain ⟨hlt, hat⟩ := List.getElem?_eq_some_iff.mp hindex
  have hother : ∀ i (hi : i < rows.length), index ≠ i →
      tally (events ++ [event]) rows[i] = tally events rows[i] := by
    intro i hi hne
    rw [tally_append, if_neg]
    intro hsame
    exact hne (hnodup.getElem_inj_iff.mp (hat.trans hsame))
  apply List.ext_getElem
  · simp
  · intro i hi hi'
    have hlen : i < rows.length := by simpa using hi
    rw [List.getElem_set]
    by_cases heq : index = i
    · subst heq
      rw [if_pos rfl, List.getElem_map, hat]
    · rw [if_neg heq, List.getElem_map, List.getElem_map, hother i hlen heq]

/-- **The row** of a call is updated, when the totals have room for it. -/
theorem record_row_spec {rows : List Int} {index ns : Nat} (hrows : stats.rows = rows.map (tally events))
    (hnodup : rows.Nodup) (hindex : rows[index]? = some event.number)
    (hduration : duration event = ns) (hcalls : events.length < UINT64_MAX)
    (hns : (events.map duration).sum + ns ≤ UINT64_MAX) :
    record_row stats index ns event.failed =
      (true, { stats with
        rows := rows.map (tally (events ++ [event]))
        total_calls := stats.total_calls + 1
        total_errors := stats.total_errors + if event.failed then 1 else 0
        total_nanoseconds := stats.total_nanoseconds + ns }) := by
  have hrow : stats.rows[index]? = some (tally events event.number) := by
    rw [hrows, List.getElem?_map, hindex]
    rfl
  obtain ⟨hc, he, hn⟩ := @tally_le events event.number
  have herrors : events.countP SyscallEvent.failed ≤ events.length := List.countP_le_length
  have hroom : ¬((tally events event.number).calls = UINT64_MAX ∨
      (tally events event.number).nanoseconds > UINT64_MAX - ns ∨
      (event.failed = true ∧ (tally events event.number).errors = UINT64_MAX)) := by
    omega
  have hnew : tally (events ++ [event]) event.number =
      { tally events event.number with
        calls := (tally events event.number).calls + 1
        errors := (tally events event.number).errors + if event.failed then 1 else 0
        nanoseconds := (tally events event.number).nanoseconds + ns } := by
    rw [tally_append, if_pos rfl, hduration]
  unfold record_row
  rw [hrow]
  simp only [hroom, if_false]
  rw [← hnew, hrows, rows_set hnodup hindex]

/-- A row is added as long as the array can grow. -/
theorem add_row_spec (hcapacity : Grown stats.rows.length stats.capacity) (number : Int) :
    if stats.rows.length < row_limit then
      ∃ capacity, Grown (stats.rows.length + 1) capacity ∧
        add_row stats number true = some (stats.rows.length,
          { stats with rows := stats.rows ++ [⟨number, 0, 0, 0⟩], capacity := capacity })
    else add_row stats number true = none := by
  have hlimit : row_limit = 2 ^ 58 := rfl
  have hbytes : UINT64_MAX / sizeof_stat = 2 ^ 59 - 1 := rfl
  unfold add_row
  obtain ⟨hcount, hcap⟩ | ⟨k, hk, hcap, hpos, hle, hmin⟩ := hcapacity
  · -- The first row.
    rw [if_pos (by omega)]
    refine ⟨16, Or.inr ⟨0, by omega, by omega, by omega, by omega, Or.inl rfl⟩, ?_⟩
    rw [if_pos (by omega), if_pos hcap, if_neg (by rw [hbytes, hcap]; simp)]
  · have hpow : 2 ^ k ≤ 2 ^ 54 := Nat.pow_le_pow_right (by omega) hk
    by_cases hfull : stats.rows.length = stats.capacity
    · rw [if_pos hfull, if_neg (by omega : ¬stats.capacity = 0)]
      by_cases hlast : k = 54
      · -- The array cannot be doubled any more.
        subst hlast
        rw [if_neg (by omega)]
        dsimp only
        rw [if_pos]
        right
        left
        rw [hbytes]
        omega
      · have hpow' : 2 ^ k ≤ 2 ^ 53 := Nat.pow_le_pow_right (by omega) (by omega)
        have hdouble : stats.capacity * 2 % 2 ^ 64 = 16 * 2 ^ (k + 1) := by
          rw [Nat.pow_succ]
          omega
        rw [if_pos (by omega)]
        refine ⟨16 * 2 ^ (k + 1), Or.inr ⟨k + 1, by omega, rfl, by omega, ?_, Or.inr ?_⟩, ?_⟩
        · rw [Nat.pow_succ]
          omega
        · rw [Nat.pow_succ]
          omega
        · dsimp only
          rw [hdouble, if_neg]
          rw [hbytes, Nat.pow_succ]
          simp only [Bool.true_eq_false, or_false, not_or, not_lt]
          omega
    · rw [if_pos (by omega), if_neg hfull]
      exact ⟨stats.capacity, Or.inr ⟨k, hk, hcap, by omega, by omega, by omega⟩, rfl⟩

theorem Countable.of_append (h : Countable (events ++ events')) : Countable events := by
  refine ⟨fun event he => h.completed event (by simp [he]),
    fun event he => h.measured event (by simp [he]), ?_, ?_, ?_⟩
  · have := h.calls
    rw [List.length_append] at this
    omega
  · have := h.nanoseconds
    rw [List.map_append, List.sum_append] at this
    omega
  · have hsub : numbers events ⊆ numbers (events ++ events') := by
      intro number hnumber
      obtain ⟨event, hevent, hnum⟩ := mem_numbers.mp hnumber
      exact mem_numbers.mpr ⟨event, by simp [hevent], hnum⟩
    exact (nodup_numbers.subperm hsub).length_le.trans h.rows

/-- One more call is countable when it is complete and its row and time have room. -/
theorem countable_append (h : Countable events) : Countable (events ++ [event]) ↔
    event.completed = true ∧ (elapsed_nanoseconds event).isSome ∧ events.length < UINT64_MAX ∧
      (events.map duration).sum + duration event ≤ UINT64_MAX ∧
      (event.number ∈ numbers events ∨ (numbers events).length < row_limit) := by
  have hrows : (numbers (events ++ [event])).length ≤ row_limit ↔
      (event.number ∈ numbers events ∨ (numbers events).length < row_limit) := by
    have := h.rows
    rw [numbers_append]
    split
    · rename_i hmem
      simp [hmem, this]
    · rename_i hmem
      simp only [hmem, false_or, List.length_append, List.length_singleton]
      omega
  constructor
  · intro hall
    refine ⟨hall.completed event (by simp), hall.measured event (by simp), ?_, ?_,
      hrows.mp hall.rows⟩
    · have := hall.calls
      rw [List.length_append, List.length_singleton] at this
      omega
    · have := hall.nanoseconds
      rwa [List.map_append, List.sum_append, List.map_singleton, List.sum_singleton] at this
  · intro h
    rcases h with ⟨hcompleted, hmeasured, hcalls, hns, hroom⟩
    refine ⟨?_, ?_, ?_, ?_, hrows.mpr hroom⟩
    · intro other hother
      obtain hother | hother := List.mem_append.mp hother
      · exact h.completed other hother
      · exact (List.mem_singleton.mp hother) ▸ hcompleted
    · intro other hother
      obtain hother | hother := List.mem_append.mp hother
      · exact h.measured other hother
      · exact (List.mem_singleton.mp hother) ▸ hmeasured
    · rw [List.length_append, List.length_singleton]
      omega
    · rwa [List.map_append, List.sum_append, List.map_singleton, List.sum_singleton]

/-- **Recording a call** keeps the meaning of the statistics, as long as the calls can be
    counted. -/
theorem record_spec (hagg : Aggregates events stats) (hcountable : Countable (events ++ [event])) :
    ∃ stats', sg_stats_record stats event true = (true, stats') ∧
      Aggregates (events ++ [event]) stats' := by
  have hbefore := hcountable.of_append
  obtain ⟨hcompleted, hmeasured, hcalls, hns, hroom⟩ := (countable_append hbefore).mp hcountable
  obtain ⟨ns, hduration⟩ := Option.isSome_iff_exists.mp hmeasured
  have hd : duration event = ns := by
    unfold duration
    rw [hduration]
    rfl
  rw [hd] at hns
  have herrors : events.countP SyscallEvent.failed ≤ events.length := List.countP_le_length
  have htotals : ¬(stats.total_calls = UINT64_MAX ∨ stats.total_nanoseconds > UINT64_MAX - ns ∨
      (event.failed = true ∧ stats.total_errors = UINT64_MAX)) := by
    rw [hagg.total_calls, hagg.total_nanoseconds, hagg.total_errors]
    omega
  -- The totals of the new statistics, whatever happens to the rows.
  have hnew : ∀ (rows : List SyscallStat) (capacity : Nat), Grown rows.length capacity →
      rows = (numbers (events ++ [event])).map (tally (events ++ [event])) →
      Aggregates (events ++ [event])
        ⟨rows, capacity, stats.total_calls + 1,
          stats.total_errors + (if event.failed then 1 else 0), stats.total_nanoseconds + ns⟩ := by
    intro rows capacity hgrown hrows
    refine ⟨hrows, ?_, ?_, ?_, hgrown⟩
    · rw [hagg.total_calls, List.length_append, List.length_singleton]
    · rw [hagg.total_errors, List.countP_append, List.countP_singleton]
    · rw [hagg.total_nanoseconds, List.map_append, List.sum_append, List.map_singleton,
        List.sum_singleton, hd]
  unfold sg_stats_record
  rw [hcompleted, hduration]
  dsimp only
  rw [show (event.error_number != 0) = event.failed from rfl, if_neg htotals]
  cases hfound : find_row stats event.number with
  | some index =>
    have hindex := find_row_some hfound hagg
    have hsame : numbers (events ++ [event]) = numbers events := by
      rw [numbers_append, if_pos (List.mem_of_getElem? hindex)]
    refine ⟨_, record_row_spec hagg.rows nodup_numbers hindex hd hcalls hns,
      hnew _ _ ?_ (by rw [hsame])⟩
    have hgrown := hagg.capacity
    rw [hagg.rows, List.length_map] at hgrown
    rwa [List.length_map]
  | none =>
    have hnot := find_row_none hfound hagg
    have hlen : stats.rows.length = (numbers events).length := by rw [hagg.rows, List.length_map]
    have hadd := add_row_spec hagg.capacity event.number
    rw [if_pos (by rw [hlen]; exact hroom.resolve_left hnot)] at hadd
    obtain ⟨capacity, hgrown, hadd⟩ := hadd
    -- The new row is the row of a number that has not come up.
    have hsame : numbers (events ++ [event]) = numbers events ++ [event.number] := by
      rw [numbers_append, if_neg hnot]
    have hrows : stats.rows ++ [⟨event.number, 0, 0, 0⟩] =
        (numbers (events ++ [event])).map (tally events) := by
      rw [hsame, List.map_append, hagg.rows, List.map_singleton, tally_of_absent hnot]
    have hindex : (numbers (events ++ [event]))[stats.rows.length]? = some event.number := by
      rw [hsame, hlen]
      simp
    rw [hadd]
    dsimp only
    refine ⟨_, record_row_spec hrows nodup_numbers hindex hd hcalls hns, hnew _ _ ?_ rfl⟩
    rw [List.length_map, hsame, List.length_append, ← hlen]
    exact hgrown

/-- A call that is recorded can be counted. -/
theorem countable_of_recorded (hagg : Aggregates events stats) (h : Countable events)
    (hrecorded : (sg_stats_record stats event true).1 = true) : Countable (events ++ [event]) := by
  unfold sg_stats_record at hrecorded
  split at hrecorded
  · rename_i ns hcompleted hduration
    have hd : duration event = ns := by
      unfold duration
      rw [hduration]
      rfl
    have hcalls := h.calls
    have hns := h.nanoseconds
    have hle := elapsed_nanoseconds_le hduration
    dsimp only at hrecorded
    rw [hagg.total_calls, hagg.total_nanoseconds] at hrecorded
    split at hrecorded
    · simp at hrecorded
    · rename_i hroom
      rw [countable_append h, hd]
      refine ⟨hcompleted, by rw [hduration]; rfl, by omega, by omega, ?_⟩
      by_cases hmem : event.number ∈ numbers events
      · exact Or.inl hmem
      · -- The number has no row, so one must have been added.
        right
        by_contra hfull
        have hlen : stats.rows.length = (numbers events).length := by
          rw [hagg.rows, List.length_map]
        have hadd := add_row_spec hagg.capacity event.number
        rw [if_neg (by rw [hlen]; exact hfull)] at hadd
        have hfound : find_row stats event.number = none := by
          cases hfound : find_row stats event.number with
          | none => rfl
          | some index => exact absurd (List.mem_of_getElem? (find_row_some hfound hagg)) hmem
        rw [hfound, hadd] at hrecorded
        simp at hrecorded
  · simp at hrecorded

/-- **A list of calls** is accepted when the calls can be counted, and then the
    statistics are those of the calls. -/
theorem record_all_spec (events' : List SyscallEvent) : ∀ {events : List SyscallEvent}
    {stats : Stats}, Aggregates events stats → Countable events →
      ((record_all stats events').1 = true ↔ Countable (events ++ events')) ∧
      (Countable (events ++ events') → Aggregates (events ++ events') (record_all stats events').2) := by
  induction events' with
  | nil =>
    intro events stats hagg h
    rw [List.append_nil]
    exact ⟨by simp [record_all, h], fun _ => hagg⟩
  | cons event events' ih =>
    intro events stats hagg h
    have hsplit : events ++ event :: events' = (events ++ [event]) ++ events' := by simp
    rw [hsplit, record_all]
    by_cases hcountable : Countable (events ++ [event])
    · obtain ⟨stats', hrecorded, hagg'⟩ := record_spec hagg hcountable
      rw [hrecorded]
      exact ih hagg' hcountable
    · have hrefused : (sg_stats_record stats event true).1 = false := by
        rw [Bool.eq_false_iff]
        exact fun hrecorded => hcountable (countable_of_recorded hagg h hrecorded)
      have hnot : ¬Countable ((events ++ [event]) ++ events') := fun hall => hcountable hall.of_append
      rcases hresult : sg_stats_record stats event true with ⟨recorded, stats'⟩
      rw [hresult] at hrefused
      have hrefused : recorded = false := hrefused
      subst hrefused
      exact ⟨⟨fun h => absurd h (by simp), fun hall => absurd hall hnot⟩, fun hall => absurd hall hnot⟩

theorem countable_nil : Countable [] :=
  ⟨by simp, by simp, Nat.zero_le _, Nat.zero_le _, Nat.zero_le _⟩

theorem Countable.perm (h : Countable events) (hperm : events.Perm events') : Countable events' := by
  refine ⟨?_, ?_, ?_, ?_, ?_⟩
  · intro event hevent
    exact h.completed event (hperm.mem_iff.mpr hevent)
  · intro event hevent
    exact h.measured event (hperm.mem_iff.mpr hevent)
  · rw [← hperm.length_eq]
    exact h.calls
  · rw [← (hperm.map duration).sum_eq]
    exact h.nanoseconds
  · rw [← (numbers_perm hperm).length_eq]
    exact h.rows

/-- The rows of the same calls in another order are the same rows. -/
theorem rows_perm (hagg : Aggregates events stats) (hagg' : Aggregates events' stats')
    (hperm : events.Perm events') : stats.rows.Perm stats'.rows := by
  rw [hagg.rows, hagg'.rows]
  have hsame : tally events = tally events' := funext fun number => tally_perm hperm
  rw [hsame]
  exact (numbers_perm hperm).map _

end record

/-! ### The order of the report -/

/-- What the report is ordered by: decreasing time, then the calls that are known before
    the others, by name, then the number. -/
def SyscallStat.key (row : SyscallStat) : Natᵒᵈ ×ₗ Bool ×ₗ List Nat ×ₗ Int :=
  let descriptor := sg_syscall_by_number row.number
  toLex (OrderDual.toDual row.nanoseconds, toLex (descriptor.isNone,
    toLex ((descriptor.elim [] SyscallDescriptor.name).map UInt8.toNat, row.number)))

/-- The comparator is a strict total order on the rows. -/
structure StrictOrder (compare : SyscallStat → SyscallStat → Int) (rows : List SyscallStat) :
    Prop where
  irrefl : ∀ row ∈ rows, compare row row = 0
  opposite : ∀ row ∈ rows, ∀ row' ∈ rows, 0 < compare row row' ↔ compare row' row < 0
  trans : ∀ row ∈ rows, ∀ row' ∈ rows, ∀ row'' ∈ rows,
    compare row row' < 0 → compare row' row'' < 0 → compare row row'' < 0
  total : ∀ row ∈ rows, ∀ row' ∈ rows, row ≠ row' → compare row row' ≠ 0

/-- What is documented of `qsort`: rows without repetitions that the comparator orders
    strictly and totally are sorted. -/
def Qsort.Sorts (qsort : Qsort) : Prop :=
  ∀ compare rows, rows.Nodup → StrictOrder compare rows →
    (qsort compare rows).Perm rows ∧
      (qsort compare rows).Pairwise fun row row' => compare row row' < 0

section order

theorem strcmp_spec (a : Text) : ∀ b : Text,
    (strcmp a b < 0 ↔ a.map UInt8.toNat < b.map UInt8.toNat) ∧
    (0 < strcmp a b ↔ b.map UInt8.toNat < a.map UInt8.toNat) := by
  induction a with
  | nil =>
    intro b
    cases b with
    | nil => simp [strcmp]
    | cons b bs => simp [strcmp]
  | cons a as ih =>
    intro b
    cases b with
    | nil => simp [strcmp]
    | cons b bs =>
      obtain ⟨hneg, hpos⟩ := ih bs
      simp only [strcmp, List.map_cons, List.cons_lt_cons_iff, ← UInt8.lt_iff_toNat_lt]
      by_cases hlt : a < b
      · have hgt : ¬b < a := UInt8.lt_asymm hlt
        have hne : b.toNat ≠ a.toNat := by
          have := UInt8.lt_iff_toNat_lt.mp hlt
          omega
        simp [hlt, hgt, hne]
      · by_cases hgt : b < a
        · have hne : a.toNat ≠ b.toNat := by
            have := UInt8.lt_iff_toNat_lt.mp hgt
            omega
          simp [hlt, hgt, hne]
        · have heq : a.toNat = b.toNat := by
            rw [UInt8.lt_iff_toNat_lt] at hlt hgt
            omega
          simp [hlt, hgt, heq, hneg, hpos]

theorem compare_numbers_spec (n m : Int) :
    (compare_numbers n m < 0 ↔ n < m) ∧ (0 < compare_numbers n m ↔ m < n) := by
  unfold compare_numbers
  split
  · omega
  · split
    · omega
    · omega

/-- **The comparator** compares the keys. -/
theorem compare_rows_spec (left right : SyscallStat) :
    (compare_rows left right < 0 ↔ left.key < right.key) ∧
    (0 < compare_rows left right ↔ right.key < left.key) := by
  unfold compare_rows SyscallStat.key
  simp only [Prod.Lex.toLex_lt_toLex, OrderDual.toDual_lt_toDual, EmbeddingLike.apply_eq_iff_eq]
  by_cases hns : left.nanoseconds = right.nanoseconds
  · rw [if_neg (not_not_intro hns)]
    simp only [hns, lt_irrefl, false_or, true_and]
    obtain ⟨hless, hmore⟩ := compare_numbers_spec left.number right.number
    cases sg_syscall_by_number left.number with
    | none =>
      cases sg_syscall_by_number right.number with
      | none => simp [hless, hmore]
      | some r => simp
    | some l =>
      cases sg_syscall_by_number right.number with
      | none => simp
      | some r =>
        obtain ⟨hneg, hpos⟩ := strcmp_spec l.name r.name
        simp only [Option.isNone_some, lt_irrefl, false_or, true_and, Option.elim_some, ← hneg, ← hpos]
        by_cases hzero : strcmp l.name r.name = 0
        · -- The names are the same, and the numbers decide.
          have hsame : l.name.map UInt8.toNat = r.name.map UInt8.toNat := by
            apply le_antisymm
            · rw [← not_lt, ← hpos]
              omega
            · rw [← not_lt, ← hneg]
              omega
          simp [hzero, hsame, hless, hmore]
        · have hne : l.name.map UInt8.toNat ≠ r.name.map UInt8.toNat := by
            intro hsame
            rw [hsame] at hneg hpos
            have h₁ := mt hneg.mp (lt_irrefl _)
            have h₂ := mt hpos.mp (lt_irrefl _)
            omega
          simp [hzero, hne, Ne.symm hne]
  · have hne : right.nanoseconds ≠ left.nanoseconds := Ne.symm hns
    rw [if_pos hns]
    simp only [hns, hne, false_and, or_false]
    split
    · omega
    · omega

/-- Rows of different numbers are ordered strictly and totally. -/
theorem compare_rows_strict {rows : List SyscallStat}
    (hdistinct : (rows.map SyscallStat.number).Nodup) : StrictOrder compare_rows rows := by
  have hneg := fun left right => (compare_rows_spec left right).1
  have hpos := fun left right => (compare_rows_spec left right).2
  refine ⟨?_, ?_, ?_, ?_⟩
  · intro row _
    have h₁ := mt (hneg row row).mp (lt_irrefl _)
    have h₂ := mt (hpos row row).mp (lt_irrefl _)
    omega
  · intro row _ row' _
    rw [hpos, hneg]
  · intro row _ row' _ row'' _ h h'
    rw [hneg] at h h' ⊢
    exact h.trans h'
  · intro row hrow row' hrow' hne hzero
    apply hne
    apply List.inj_on_of_nodup_map hdistinct hrow hrow'
    have h₁ := mt (hneg row row').mpr (by omega)
    have h₂ := mt (hpos row row').mpr (by omega)
    have hkey : row.key = row'.key := le_antisymm (not_lt.mp h₂) (not_lt.mp h₁)
    unfold SyscallStat.key at hkey
    simp only [EmbeddingLike.apply_eq_iff_eq, Prod.mk.injEq] at hkey
    exact hkey.2.2.2

/-- What `qsort` makes of rows of different numbers. -/
theorem sorted_rows {qsort : Qsort} (hqsort : qsort.Sorts) {rows : List SyscallStat}
    (hdistinct : (rows.map SyscallStat.number).Nodup) :
    (qsort compare_rows rows).Perm rows ∧
      (qsort compare_rows rows).Pairwise fun row row' => row.key < row'.key := by
  obtain ⟨hperm, hsorted⟩ := hqsort compare_rows rows (hdistinct.of_map _)
    (compare_rows_strict hdistinct)
  refine ⟨hperm, hsorted.imp ?_⟩
  intro row row' h
  exact (compare_rows_spec row row').1.mp h

end order

/-! ### The report -/

section report
variable {events events' : List SyscallEvent} {stats : Stats}

/-- An accepted list of calls leaves its aggregate. -/
theorem aggregates_of_accepted (h : record_all sg_stats_init events = (true, stats)) :
    Countable events ∧ Aggregates events stats := by
  obtain ⟨haccepted, hagg⟩ := record_all_spec events aggregates_nil countable_nil
  have hcountable : Countable events := haccepted.mp (by rw [h])
  have := hagg hcountable
  rw [h] at this
  exact ⟨hcountable, this⟩

/-- The report of the aggregate of some calls. -/
theorem sg_stats_sorted_copy_spec {qsort : Qsort} (hqsort : qsort.Sorts)
    (hcountable : Countable events) (hagg : Aggregates events stats) :
    ∃ rows, sg_stats_sorted_copy qsort stats true = some rows ∧ rows.Perm stats.rows ∧
      rows.Pairwise fun row row' => row.key < row'.key := by
  have hnumbers : stats.rows.map SyscallStat.number = numbers events := by
    rw [hagg.rows, List.map_map]
    exact List.map_id _
  have hlimit : stats.rows.length ≤ row_limit := by
    rw [hagg.rows, List.length_map]
    exact hcountable.rows
  unfold sg_stats_sorted_copy
  by_cases hzero : stats.rows.length = 0
  · rw [if_pos hzero]
    refine ⟨[], rfl, ?_, List.Pairwise.nil⟩
    rw [List.length_eq_zero_iff.mp hzero]
  · obtain ⟨hperm, hsorted⟩ := sorted_rows hqsort (by rw [hnumbers]; exact nodup_numbers)
    refine ⟨qsort compare_rows stats.rows, ?_, hperm, hsorted⟩
    have hbytes : UINT64_MAX / sizeof_stat = 2 ^ 59 - 1 := rfl
    have hrows : row_limit = 2 ^ 58 := rfl
    rw [if_neg hzero, if_neg (by rw [hbytes]; omega), if_neg (by simp)]

/-- **The report does not depend on the order of the calls.**  When a list of calls is
    accepted, so is every permutation of it, with the same totals and the same rows in the
    report; the report has one row for each number, is a permutation of the rows that are
    stored, and is strictly ordered. -/
theorem sg_stats_report_perm {qsort : Qsort} (hqsort : qsort.Sorts)
    (hperm : events.Perm events') (haccepted : record_all sg_stats_init events = (true, stats)) :
    ∃ stats', record_all sg_stats_init events' = (true, stats') ∧
      stats'.total_calls = stats.total_calls ∧ stats'.total_errors = stats.total_errors ∧
      stats'.total_nanoseconds = stats.total_nanoseconds ∧
      ∃ rows, sg_stats_sorted_copy qsort stats true = some rows ∧
        sg_stats_sorted_copy qsort stats' true = some rows ∧
        rows.Perm stats.rows ∧ (rows.map SyscallStat.number).Nodup ∧
        (∀ number, number ∈ rows.map SyscallStat.number ↔ ∃ event ∈ events, event.number = number) ∧
        rows.Pairwise fun row row' => row.key < row'.key := by
  obtain ⟨hcountable, hagg⟩ := aggregates_of_accepted haccepted
  have hcountable' := hcountable.perm hperm
  obtain ⟨haccepted', hagg'⟩ := record_all_spec events' aggregates_nil countable_nil
  have hagg' : Aggregates events' (record_all sg_stats_init events').2 := hagg' hcountable'
  obtain ⟨rows, hcopy, hrows, hsorted⟩ := sg_stats_sorted_copy_spec hqsort hcountable hagg
  obtain ⟨rows', hcopy', hrows', hsorted'⟩ := sg_stats_sorted_copy_spec hqsort hcountable' hagg'
  -- Both reports are sorted, and have the same rows.
  have hsame : rows' = rows := by
    have hantisymm : ∀ row row' : SyscallStat, row ∈ rows' → row' ∈ rows → row.key < row'.key →
        row'.key < row.key → row = row' := by
      intro row row' _ _ h h'
      exact absurd (h.trans h') (lt_irrefl _)
    have hperm' := (hrows'.trans (rows_perm hagg hagg' hperm).symm).trans hrows.symm
    exact hperm'.eq_of_pairwise hantisymm hsorted' hsorted
  have hnumbers : (rows.map SyscallStat.number).Perm (numbers events) := by
    have := hrows.map SyscallStat.number
    rwa [hagg.rows, List.map_map, show SyscallStat.number ∘ tally events = id from rfl,
      List.map_id] at this
  refine ⟨_, Prod.ext (haccepted'.mpr hcountable') rfl, ?_, ?_, ?_, rows, hcopy, ?_, hrows, ?_, ?_,
    hsorted⟩
  · rw [hagg'.total_calls, hagg.total_calls, hperm.length_eq]
  · rw [hagg'.total_errors, hagg.total_errors, hperm.countP_eq]
  · rw [hagg'.total_nanoseconds, hagg.total_nanoseconds, (hperm.map duration).sum_eq]
  · rw [hcopy', hsame]
  · exact hnumbers.nodup_iff.mpr nodup_numbers
  · intro number
    rw [hnumbers.mem_iff, mem_numbers]

end report

/-! ### A report -/

/-- A `qsort` that merges. -/
def qsort_merge : Qsort := fun compare rows =>
  (rows.attach.mergeSort fun row row' => decide (compare row row' ≤ 0)).map Subtype.val

theorem qsort_merge_sorts : qsort_merge.Sorts := by
  intro compare rows hnodup horder
  have hperm : (qsort_merge compare rows).Perm rows := by
    have := (List.mergeSort_perm rows.attach
      fun row row' => decide (compare row row' ≤ 0)).map Subtype.val
    rwa [List.attach_map_subtype_val] at this
  -- The comparator is total on the rows and transitive there.
  have htrans : ∀ row row' row'' : { row // row ∈ rows },
      decide (compare row row' ≤ 0) = true → decide (compare row' row'' ≤ 0) = true →
      decide (compare row row'' ≤ 0) = true := by
    intro hpost hpost' hpost'' h h'
    rcases hpost with ⟨row, hrow⟩
    rcases hpost' with ⟨row', hrow'⟩
    rcases hpost'' with ⟨row'', hrow''⟩
    rw [decide_eq_true_iff] at h h' ⊢
    dsimp only at h h' ⊢
    by_cases hne : row = row'
    · exact hne ▸ h'
    · by_cases hne' : row' = row''
      · exact hne' ▸ h
      · have h₁ := horder.total row hrow row' hrow' hne
        have h₂ := horder.total row' hrow' row'' hrow'' hne'
        have := horder.trans row hrow row' hrow' row'' hrow'' (by omega) (by omega)
        omega
  have htotal : ∀ row row' : { row // row ∈ rows },
      (decide (compare row row' ≤ 0) || decide (compare row' row ≤ 0)) = true := by
    intro h h'
    rcases h with ⟨row, hrow⟩
    rcases h' with ⟨row', hrow'⟩
    have := horder.opposite row hrow row' hrow'
    rw [Bool.or_eq_true, decide_eq_true_iff, decide_eq_true_iff]
    dsimp only
    omega
  refine ⟨hperm, ?_⟩
  have hsorted := List.pairwise_mergeSort htrans htotal rows.attach
  have hdistinct : (rows.attach.mergeSort fun row row' => decide (compare row row' ≤ 0)).Nodup :=
    (List.mergeSort_perm _ _).nodup_iff.mpr (List.nodup_attach.mpr hnodup)
  unfold qsort_merge
  rw [List.pairwise_map]
  apply (hsorted.and hdistinct).imp
  intro h h' h''
  rcases h with ⟨row, hrow⟩
  rcases h' with ⟨row', hrow'⟩
  rcases h'' with ⟨hle, hne⟩
  rw [decide_eq_true_iff] at hle
  dsimp only at hle ⊢
  have := horder.total row hrow row' hrow' fun heq => hne (Subtype.ext heq)
  omega

/-- A call that has taken some nanoseconds. -/
def timed_call (number error_number : Int) (nanoseconds : Int) : SyscallEvent :=
  { SyscallEvent.zero with
    number := number
    error_number := error_number
    exited_at := ⟨0, nanoseconds⟩
    completed := true }

/-- Three calls, in two orders. -/
theorem sg_stats_report_three :
    ∃ stats stats' rows,
      record_all sg_stats_init [timed_call 0 0 300, timed_call 1 9 200, timed_call 39 0 200] =
        (true, stats) ∧
      record_all sg_stats_init [timed_call 39 0 200, timed_call 1 9 200, timed_call 0 0 300] =
        (true, stats') ∧
      sg_stats_sorted_copy qsort_merge stats true = some rows ∧
      sg_stats_sorted_copy qsort_merge stats' true = some rows := by
  have haccepted : record_all sg_stats_init
      [timed_call 0 0 300, timed_call 1 9 200, timed_call 39 0 200] =
      (true, ⟨[⟨0, 1, 0, 300⟩, ⟨1, 1, 1, 200⟩, ⟨39, 1, 0, 200⟩], 16, 3, 1, 700⟩) := by
    decide +kernel
  have hperm : List.Perm [timed_call 0 0 300, timed_call 1 9 200, timed_call 39 0 200]
      [timed_call 39 0 200, timed_call 1 9 200, timed_call 0 0 300] := by
    decide
  obtain ⟨stats', haccepted', -, -, -, rows, hcopy, hcopy', -⟩ :=
    sg_stats_report_perm qsort_merge_sorts hperm haccepted
  exact ⟨_, stats', rows, haccepted, haccepted', hcopy, hcopy'⟩

end Sysgaze
