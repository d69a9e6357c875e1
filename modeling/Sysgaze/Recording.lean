import Sysgaze.Aggregation

/-! # How a call is timed and recorded

    * `duration_exact_iff`: the time that `elapsed_nanoseconds` gives to a call
      is the time between its two stamps, or is refused because it does not fit
      in 64 bits; this fails just for the times between 2^64 nanoseconds and
      the next full second, where the last addition wraps.
    * `recording_atomic`: over any list of calls, with allocations that may
      fail, the rows and the totals are those of the accepted calls, and a call
      that is not accepted changes nothing.
-/

namespace Sysgaze

/-! ### Durations -/

/-- A time that the clock can show. -/
structure Timespec.Valid (time : Timespec) : Prop where
  tv_sec : 0 ≤ time.tv_sec ∧ time.tv_sec < 2 ^ 63
  tv_nsec : 0 ≤ time.tv_nsec ∧ time.tv_nsec < 1000000000

/-- A time in nanoseconds. -/
def Timespec.nanoseconds (time : Timespec) : Int := time.tv_sec * 1000000000 + time.tv_nsec

/-- The time from the entry of a call to its exit, 0 when the clock has gone backwards. -/
def SyscallEvent.elapsed (event : SyscallEvent) : Int :=
  max 0 (event.exited_at.nanoseconds - event.entered_at.nanoseconds)

/-- The results of the signed operations of `elapsed_nanoseconds`. -/
def signed_results (event : SyscallEvent) : List Int :=
  let seconds := event.exited_at.tv_sec - event.entered_at.tv_sec
  let nanoseconds := event.exited_at.tv_nsec - event.entered_at.tv_nsec
  if seconds < 0 ∨ (seconds = 0 ∧ nanoseconds < 0) then [seconds, nanoseconds]
  else if nanoseconds < 0 then [seconds, nanoseconds, seconds - 1, nanoseconds + 1000000000]
  else [seconds, nanoseconds]

/-- The results of its unsigned operations, before they are reduced to 64 bits. -/
def unsigned_results (event : SyscallEvent) : List Nat :=
  let seconds := event.exited_at.tv_sec - event.entered_at.tv_sec
  let nanoseconds := event.exited_at.tv_nsec - event.entered_at.tv_nsec
  if seconds < 0 ∨ (seconds = 0 ∧ nanoseconds < 0) then []
  else
    let (seconds, nanoseconds) :=
      if nanoseconds < 0 then (seconds - 1, nanoseconds + 1000000000) else (seconds, nanoseconds)
    if seconds.toNat > UINT64_MAX / 1000000000 then []
    else [seconds.toNat * 1000000000, seconds.toNat * 1000000000 + nanoseconds.toNat]

/-- The time of the call is exact, or refused when it does not fit, and no operation wraps. -/
structure SyscallEvent.ExactlyTimed (event : SyscallEvent) : Prop where
  result : elapsed_nanoseconds event =
    if event.elapsed ≤ UINT64_MAX then some event.elapsed.toNat else none
  signed : ∀ x ∈ signed_results event, -2 ^ 63 ≤ x ∧ x < 2 ^ 63
  unsigned : ∀ x ∈ unsigned_results event, x ≤ UINT64_MAX

/-- The seconds from which a time is refused. -/
abbrev SECONDS_LIMIT : Int := 18446744074

section durations
variable {event : SyscallEvent}

/-- The signed operations stay in range. -/
theorem signed_results_range (hentered : event.entered_at.Valid) (hexited : event.exited_at.Valid) :
    ∀ x ∈ signed_results event, -2 ^ 63 ≤ x ∧ x < 2 ^ 63 := by
  obtain ⟨⟨hes, hes'⟩, hen, hen'⟩ := hentered
  obtain ⟨⟨hxs, hxs'⟩, hxn, hxn'⟩ := hexited
  unfold signed_results
  dsimp only
  intro x hx
  split at hx
  · simp only [List.mem_cons, List.not_mem_nil, or_false] at hx
    omega
  · split at hx
    · simp only [List.mem_cons, List.not_mem_nil, or_false] at hx
      omega
    · simp only [List.mem_cons, List.not_mem_nil, or_false] at hx
      omega

/-- **What `elapsed_nanoseconds` does**: the clock has gone backwards, the seconds are too
    many, or the time is reduced to 64 bits. -/
theorem elapsed_cases (hentered : event.entered_at.Valid) (hexited : event.exited_at.Valid) :
    (event.elapsed = 0 ∧ elapsed_nanoseconds event = some 0 ∧ unsigned_results event = []) ∨
    (SECONDS_LIMIT * 1000000000 ≤ event.elapsed ∧ elapsed_nanoseconds event = none ∧
      unsigned_results event = []) ∨
    (event.elapsed < SECONDS_LIMIT * 1000000000 ∧
      elapsed_nanoseconds event = some (event.elapsed.toNat % 2 ^ 64) ∧
      ∃ product ≤ UINT64_MAX, unsigned_results event = [product, event.elapsed.toNat]) := by
  obtain ⟨-, hen, hen'⟩ := hentered
  obtain ⟨-, hxn, hxn'⟩ := hexited
  have hlimit : UINT64_MAX / 1000000000 = 18446744073 := rfl
  have hmax : UINT64_MAX = 18446744073709551615 := rfl
  have hseconds : SECONDS_LIMIT = 18446744074 := rfl
  have helapsed : event.elapsed = max 0
      ((event.exited_at.tv_sec * 1000000000 + event.exited_at.tv_nsec) -
        (event.entered_at.tv_sec * 1000000000 + event.entered_at.tv_nsec)) := rfl
  unfold elapsed_nanoseconds unsigned_results
  dsimp only
  by_cases hback : event.exited_at.tv_sec - event.entered_at.tv_sec < 0 ∨
      (event.exited_at.tv_sec - event.entered_at.tv_sec = 0 ∧
        event.exited_at.tv_nsec - event.entered_at.tv_nsec < 0)
  · left
    rw [if_pos hback, if_pos hback]
    exact ⟨by omega, rfl, rfl⟩
  · right
    rw [if_neg hback, if_neg hback, hlimit]
    -- The seconds and nanoseconds after borrowing make the time.
    have hborrowed : ∃ seconds nanoseconds : Int,
        (if event.exited_at.tv_nsec - event.entered_at.tv_nsec < 0 then
          (event.exited_at.tv_sec - event.entered_at.tv_sec - 1,
            event.exited_at.tv_nsec - event.entered_at.tv_nsec + 1000000000)
        else (event.exited_at.tv_sec - event.entered_at.tv_sec,
          event.exited_at.tv_nsec - event.entered_at.tv_nsec)) = (seconds, nanoseconds) ∧
        0 ≤ seconds ∧ 0 ≤ nanoseconds ∧ nanoseconds < 1000000000 ∧
        event.elapsed = seconds * 1000000000 + nanoseconds := by
      split
      · exact ⟨_, _, rfl, by omega, by omega, by omega, by omega⟩
      · exact ⟨_, _, rfl, by omega, by omega, by omega, by omega⟩
    obtain ⟨seconds, nanoseconds, hpair, hs, hn, hn', hsum⟩ := hborrowed
    rw [hpair]
    dsimp only
    by_cases hrefused : seconds.toNat > 18446744073
    · left
      rw [if_pos hrefused, if_pos hrefused]
      exact ⟨by omega, rfl, rfl⟩
    · right
      have htotal : seconds.toNat * 1000000000 + nanoseconds.toNat = event.elapsed.toNat := by omega
      rw [if_neg hrefused, if_neg hrefused, htotal]
      exact ⟨by omega, rfl, seconds.toNat * 1000000000, by omega, rfl⟩

/-- **Durations are exact or refused**, unless the time is between 2^64 nanoseconds and the
    next full second. -/
theorem duration_exact_iff (hentered : event.entered_at.Valid) (hexited : event.exited_at.Valid) :
    event.ExactlyTimed ↔
      (event.elapsed ≤ UINT64_MAX ∨ SECONDS_LIMIT * 1000000000 ≤ event.elapsed) := by
  have hmax : UINT64_MAX = 18446744073709551615 := rfl
  have hseconds : SECONDS_LIMIT = 18446744074 := rfl
  have hpos : 0 ≤ event.elapsed := le_max_left _ _
  have hsigned := signed_results_range hentered hexited
  rcases elapsed_cases hentered hexited with ⟨hzero, hresult, hunsigned⟩ |
    ⟨hlarge, hresult, hunsigned⟩ | ⟨hsmall, hresult, product, hproduct, hunsigned⟩
  · constructor
    · exact fun _ => Or.inl (by omega)
    · intro _
      refine ⟨?_, hsigned, by simp [hunsigned]⟩
      rw [hresult, if_pos (by omega), hzero]
      rfl
  · constructor
    · exact fun _ => Or.inr hlarge
    · intro _
      refine ⟨?_, hsigned, by simp [hunsigned]⟩
      rw [hresult, if_neg (by omega)]
  · constructor
    · -- The sum is one of the unsigned results.
      intro hexact
      have hsum := hexact.unsigned event.elapsed.toNat (by simp [hunsigned])
      exact Or.inl (by omega)
    · intro h
      have hfits : event.elapsed ≤ UINT64_MAX := by omega
      refine ⟨?_, hsigned, ?_⟩
      · rw [hresult, if_pos hfits, Nat.mod_eq_of_lt (by omega)]
      · rw [hunsigned]
        simp only [List.mem_cons, List.not_mem_nil, or_false]
        omega

end durations

/-- A call that lasts for some seconds and nanoseconds. -/
def lasting_call (seconds nanoseconds : Int) : SyscallEvent :=
  { SyscallEvent.zero with exited_at := ⟨seconds, nanoseconds⟩, completed := true }

theorem duration_exact_iff_day : (lasting_call 86400 1).ExactlyTimed := by
  exact (duration_exact_iff ⟨by decide, by decide⟩ ⟨by decide, by decide⟩).mpr
    (Or.inl (by decide))

/-- **A wrapped duration**: 2^64 nanoseconds are taken for none. -/
theorem duration_wraps : ¬∀ event : SyscallEvent, event.completed = true →
    event.entered_at.Valid → event.exited_at.Valid → event.ExactlyTimed := by
  intro h
  have hexact := h (lasting_call 18446744073 709551616) rfl ⟨by decide, by decide⟩
    ⟨by decide, by decide⟩
  exact absurd hexact.result (by decide)

/-! ### Recording call after call -/

/-- One `sg_stats_record` after the other, where each allocation is granted or not: the
    statistics, and the calls that have been accepted. -/
def record_each (stats : Stats) (accepted : List SyscallEvent) :
    List (SyscallEvent × Bool) → Stats × List SyscallEvent
  | [] => (stats, accepted)
  | (event, granted) :: calls =>
    match sg_stats_record stats event granted with
    | (true, stats) => record_each stats (accepted ++ [event]) calls
    | (false, stats) => record_each stats accepted calls

/-- The reasons for which a call is not accepted. -/
inductive Unrecorded (stats : Stats) (event : SyscallEvent) (granted : Bool) : Prop
  | incomplete (h : event.completed = false)
  | duration (h : elapsed_nanoseconds event = none)
  | calls (h : stats.total_calls + 1 > UINT64_MAX)
  | nanoseconds (h : stats.total_nanoseconds + duration event > UINT64_MAX)
  | errors (h : event.failed = true) (h' : stats.total_errors + 1 > UINT64_MAX)
  | rows (h : find_row stats event.number = none) (h' : add_row stats event.number granted = none)

section recording
variable {events : List SyscallEvent} {event : SyscallEvent} {stats : Stats} {granted : Bool}

theorem duration_of_elapsed {ns : Nat} (h : elapsed_nanoseconds event = some ns) :
    duration event = ns := by
  unfold duration
  rw [h]
  rfl

/-- A call that is not accepted changes nothing. -/
theorem record_refused (hagg : Aggregates events stats) (h : Countable events)
    (hrefused : Unrecorded stats event granted) :
    sg_stats_record stats event granted = (false, stats) := by
  have hcalls := h.calls
  have hns := h.nanoseconds
  have herrors : events.countP SyscallEvent.failed ≤ events.length := List.countP_le_length
  unfold sg_stats_record
  cases hcompleted : event.completed with
  | false => rfl
  | true =>
    cases helapsed : elapsed_nanoseconds event with
    | none => rfl
    | some ns =>
      have hd := duration_of_elapsed helapsed
      have hle := elapsed_nanoseconds_le helapsed
      dsimp only
      rw [hagg.total_calls, hagg.total_nanoseconds, hagg.total_errors]
      cases hrefused with
      | incomplete h => rw [hcompleted] at h; exact absurd h (by decide)
      | duration h => rw [helapsed] at h; exact absurd h (by simp)
      | calls h =>
        rw [hagg.total_calls] at h
        rw [if_pos (Or.inl (by omega))]
      | nanoseconds h =>
        rw [hagg.total_nanoseconds] at h
        rw [if_pos (Or.inr (Or.inl (by omega)))]
      | errors h h' =>
        rw [hagg.total_errors] at h'
        rw [if_pos (Or.inr (Or.inr ⟨h, by omega⟩))]
      | rows h h' =>
        rw [h]
        dsimp only
        rw [h', ite_self]

/-- The answer of the allocation matters for a new row only. -/
theorem record_granted (h : ¬Unrecorded stats event granted) :
    sg_stats_record stats event granted = sg_stats_record stats event true := by
  have hadd : find_row stats event.number = none →
      add_row stats event.number granted = add_row stats event.number true := by
    intro hfound
    have hsome : add_row stats event.number granted ≠ none := fun hnone => h (.rows hfound hnone)
    cases granted with
    | true => rfl
    | false =>
      unfold add_row at hsome ⊢
      by_cases hfull : stats.rows.length = stats.capacity
      · simp [if_pos hfull] at hsome
      · rw [if_neg hfull, if_neg hfull]
  unfold sg_stats_record
  cases hfound : find_row stats event.number with
  | some index => rfl
  | none => rw [hadd hfound]

/-- A call that nothing speaks against can be counted. -/
theorem countable_of_not_refused (hagg : Aggregates events stats) (hcountable : Countable events)
    (h : ¬Unrecorded stats event granted) : Countable (events ++ [event]) := by
  have hcompleted : event.completed = true := by
    by_contra hcompleted
    exact h (.incomplete (Bool.eq_false_iff.mpr hcompleted))
  have hmeasured : elapsed_nanoseconds event ≠ none := fun hnone => h (.duration hnone)
  have hcalls : ¬stats.total_calls + 1 > UINT64_MAX := fun hfull => h (.calls hfull)
  have hns : ¬stats.total_nanoseconds + duration event > UINT64_MAX :=
    fun hfull => h (.nanoseconds hfull)
  rw [hagg.total_calls] at hcalls
  rw [hagg.total_nanoseconds] at hns
  rw [countable_append hcountable]
  refine ⟨hcompleted, Option.isSome_iff_ne_none.mpr hmeasured, by omega, by omega, ?_⟩
  by_cases hmem : event.number ∈ numbers events
  · exact Or.inl hmem
  · -- A row has to be added for the number, and there is room for it.
    right
    have hfound : find_row stats event.number = none := by
      cases hfound : find_row stats event.number with
      | none => rfl
      | some index => exact absurd (List.mem_of_getElem? (find_row_some hfound hagg)) hmem
    have hlen : stats.rows.length = (numbers events).length := by rw [hagg.rows, List.length_map]
    by_contra hfull
    have hadd := add_row_spec hagg.capacity event.number
    rw [if_neg (by rw [hlen]; exact hfull)] at hadd
    have hnone : add_row stats event.number granted = none := by
      cases granted with
      | true => exact hadd
      | false =>
        unfold add_row at hadd ⊢
        by_cases hroom : stats.rows.length = stats.capacity
        · simp [if_pos hroom]
        · simp [if_neg hroom] at hadd
    exact h (.rows hfound hnone)

/-- **One call** is accepted, or refused for one of the reasons. -/
theorem record_step (hagg : Aggregates events stats) (hcountable : Countable events)
    (event : SyscallEvent) (granted : Bool) :
    (Unrecorded stats event granted ∧ sg_stats_record stats event granted = (false, stats)) ∨
    (¬Unrecorded stats event granted ∧ ∃ stats', sg_stats_record stats event granted = (true, stats') ∧
      Aggregates (events ++ [event]) stats' ∧ Countable (events ++ [event])) := by
  by_cases hrefused : Unrecorded stats event granted
  · exact Or.inl ⟨hrefused, record_refused hagg hcountable hrefused⟩
  · have hmore := countable_of_not_refused hagg hcountable hrefused
    obtain ⟨stats', hrecorded, hagg'⟩ := record_spec hagg hmore
    exact Or.inr ⟨hrefused, stats', (record_granted hrefused).trans hrecorded, hagg', hmore⟩

/-- **All calls**: the statistics are those of the accepted ones. -/
theorem record_each_spec (calls : List (SyscallEvent × Bool)) : ∀ {events : List SyscallEvent}
    {stats : Stats}, Aggregates events stats → Countable events →
      Aggregates (record_each stats events calls).2 (record_each stats events calls).1 ∧
      Countable (record_each stats events calls).2 := by
  induction calls with
  | nil => exact fun hagg hcountable => ⟨hagg, hcountable⟩
  | cons call calls ih =>
    obtain ⟨event, granted⟩ := call
    intro events stats hagg hcountable
    unfold record_each
    rcases record_step hagg hcountable event granted with ⟨_, hrecorded⟩ |
      ⟨_, stats', hrecorded, hagg', hcountable'⟩
    · rw [hrecorded]
      exact ih hagg hcountable
    · rw [hrecorded]
      exact ih hagg' hcountable'

/-! ### Totals and rows -/

/-- One member of a list without repetitions weighs more. -/
theorem sum_map_update {numbers : List Int} (h : numbers.Nodup) (weight : Int → Nat) (number : Int)
    (more : Nat) : (numbers.map fun n => weight n + if number = n then more else 0).sum =
      (numbers.map weight).sum + if number ∈ numbers then more else 0 := by
  induction numbers with
  | nil => rfl
  | cons n numbers ih =>
    rw [List.nodup_cons] at h
    simp only [List.map_cons, List.sum_cons, ih h.2, List.mem_cons]
    by_cases hn : number = n
    · rw [if_pos hn, if_pos (Or.inl hn), if_neg (hn ▸ h.1)]
      omega
    · simp only [hn, if_false, false_or]
      omega

/-- What is added up in the rows is added up over the calls. -/
theorem sum_tally {count : SyscallStat → Nat} {weight : SyscallEvent → Nat}
    (hzero : ∀ number, count ⟨number, 0, 0, 0⟩ = 0)
    (hstep : ∀ events event number, count (tally (events ++ [event]) number) =
      count (tally events number) + if event.number = number then weight event else 0) :
    (((numbers events).map (tally events)).map count).sum = (events.map weight).sum := by
  induction events using List.reverseRecOn with
  | nil => rfl
  | append_singleton events event ih =>
    have hrows : ∀ rows : List Int, rows.Nodup →
        ((rows.map (tally (events ++ [event]))).map count).sum =
          ((rows.map (tally events)).map count).sum +
            if event.number ∈ rows then weight event else 0 := by
      intro rows hnodup
      rw [List.map_map, List.map_map, ← sum_map_update hnodup]
      exact congrArg List.sum (List.map_congr_left fun number _ => hstep events event number)
    rw [hrows _ nodup_numbers, List.map_append, List.sum_append, List.map_singleton,
      List.sum_singleton, ← ih, numbers_append]
    split
    · rfl
    · rename_i hmem
      have hempty := congrArg count (tally_of_absent hmem)
      rw [hzero] at hempty
      simp [hempty]

/-- The totals are the sums over the rows. -/
theorem totals_of_rows (h : Aggregates events stats) :
    stats.total_calls = (stats.rows.map SyscallStat.calls).sum ∧
    stats.total_errors = (stats.rows.map SyscallStat.errors).sum ∧
    stats.total_nanoseconds = (stats.rows.map SyscallStat.nanoseconds).sum := by
  have hstep : ∀ events event number,
      (tally (events ++ [event]) number).calls =
        (tally events number).calls + (if event.number = number then 1 else 0) ∧
      (tally (events ++ [event]) number).errors = (tally events number).errors +
        (if event.number = number then (if event.failed then 1 else 0) else 0) ∧
      (tally (events ++ [event]) number).nanoseconds =
        (tally events number).nanoseconds +
          (if event.number = number then duration event else 0) := by
    intro events event number
    rw [tally_append]
    split
    · exact ⟨rfl, rfl, rfl⟩
    · exact ⟨rfl, rfl, rfl⟩
  rw [h.rows, h.total_calls, h.total_errors, h.total_nanoseconds]
  refine ⟨?_, ?_, ?_⟩
  · rw [sum_tally (fun _ => rfl) fun _ _ _ => (hstep _ _ _).1]
    simp
  · rw [sum_tally (fun _ => rfl) fun _ _ _ => (hstep _ _ _).2.1]
    simp [List.countP_eq_length_filter, List.sum_map_ite]
  · rw [sum_tally (fun _ => rfl) fun _ _ _ => (hstep _ _ _).2.2]

end recording

/-- **Recording is atomic.**  After any calls the rows have distinct numbers and hold what
    the accepted calls add up to, the totals are the sums over the rows, and everything is
    within 64 bits; one more call changes nothing when it is refused, which has one of the
    reasons of `Unrecorded`. -/
theorem recording_atomic (calls : List (SyscallEvent × Bool)) :
    let (stats, accepted) := record_each sg_stats_init [] calls
    (stats.rows.map SyscallStat.number).Nodup ∧
    (∀ row ∈ stats.rows, row = tally accepted row.number) ∧
    (∀ event ∈ accepted, ∃ row ∈ stats.rows, row.number = event.number) ∧
    (stats.total_calls = (stats.rows.map SyscallStat.calls).sum ∧
      stats.total_errors = (stats.rows.map SyscallStat.errors).sum ∧
      stats.total_nanoseconds = (stats.rows.map SyscallStat.nanoseconds).sum) ∧
    (stats.total_calls ≤ UINT64_MAX ∧ stats.total_errors ≤ UINT64_MAX ∧
      stats.total_nanoseconds ≤ UINT64_MAX) ∧
    (∀ row ∈ stats.rows, row.calls ≤ stats.total_calls ∧ row.errors ≤ stats.total_errors ∧
      row.nanoseconds ≤ stats.total_nanoseconds) ∧
    ∀ event granted,
      ((sg_stats_record stats event granted).1 = false ↔ Unrecorded stats event granted) ∧
      ((sg_stats_record stats event granted).1 = false →
        (sg_stats_record stats event granted).2 = stats) := by
  obtain ⟨hagg, hcountable⟩ := record_each_spec calls aggregates_nil countable_nil
  revert hagg hcountable
  rcases record_each sg_stats_init [] calls with ⟨stats, accepted⟩
  intro hagg hcountable
  dsimp only at hagg hcountable ⊢
  have hcalls := hcountable.calls
  have hns := hcountable.nanoseconds
  have herrors : accepted.countP SyscallEvent.failed ≤ accepted.length := List.countP_le_length
  refine ⟨?_, ?_, ?_, totals_of_rows hagg, ?_, ?_, ?_⟩
  · have hnumbers : stats.rows.map SyscallStat.number = numbers accepted := by
      rw [hagg.rows, List.map_map]
      exact List.map_id _
    rw [hnumbers]
    exact nodup_numbers
  · intro row hrow
    rw [hagg.rows] at hrow
    obtain ⟨number, _, rfl⟩ := List.mem_map.mp hrow
    rfl
  · intro event hevent
    have hnumber : event.number ∈ numbers accepted := mem_numbers.mpr ⟨event, hevent, rfl⟩
    exact ⟨_, hagg.rows ▸ List.mem_map_of_mem hnumber, rfl⟩
  · rw [hagg.total_calls, hagg.total_errors, hagg.total_nanoseconds]
    omega
  · intro row hrow
    rw [hagg.rows] at hrow
    obtain ⟨number, _, rfl⟩ := List.mem_map.mp hrow
    rw [hagg.total_calls, hagg.total_errors, hagg.total_nanoseconds]
    exact tally_le
  · intro event granted
    rcases record_step hagg hcountable event granted with ⟨hrefused, hrecorded⟩ |
      ⟨hrefused, stats', hrecorded, -, -⟩
    · rw [hrecorded]
      exact ⟨⟨fun _ => hrefused, fun _ => rfl⟩, fun _ => rfl⟩
    · rw [hrecorded]
      exact ⟨⟨fun h => absurd h (by simp), fun h => absurd h hrefused⟩,
        fun h => absurd h (by simp)⟩

end Sysgaze
