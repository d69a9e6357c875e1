import Sysgaze.Aggregation
import Sysgaze.Calls
import Sysgaze.RestartErrors
import Sysgaze.Lib.Coupling

/-! # The summary is the aggregate of the stream

    With `-c` the tracer writes nothing and adds every completed call to the
    statistics.  The same stops, seen at the same times, make the same calls
    complete as without `-c`: the statistics are the aggregate of the records
    that the stream holds (`summary_of_stream`).

    The two runs go side by side.  Their contexts are twins: the same calls
    are pending, interrupted and recorded, but for the captured arguments, and
    with the same times as long as both clocks have shown the same.  The
    summary can be refused only when the calls cannot be counted.
-/

open Fallible

namespace Sysgaze

/-! ### The time of a call in a record -/

/-- `elapsed_nanoseconds` of `output.c`, the `duration_ns` of a record: it is not checked
    for overflow. -/
def Output.elapsed_nanoseconds (event : SyscallEvent) : Nat :=
  let seconds := event.exited_at.tv_sec - event.entered_at.tv_sec
  let nanoseconds := event.exited_at.tv_nsec - event.entered_at.tv_nsec
  if seconds < 0 ∨ (seconds = 0 ∧ nanoseconds < 0) then 0
  else
    let (seconds, nanoseconds) :=
      if nanoseconds < 0 then (seconds - 1, nanoseconds + 1000000000) else (seconds, nanoseconds)
    (seconds.toNat * 1000000000 + nanoseconds.toNat) % 2 ^ 64

/-- The two functions agree where the checked one succeeds. -/
theorem elapsed_nanoseconds_eq {event : SyscallEvent} {ns : Nat}
    (h : elapsed_nanoseconds event = some ns) : Output.elapsed_nanoseconds event = ns := by
  unfold elapsed_nanoseconds at h
  unfold Output.elapsed_nanoseconds
  dsimp only at h ⊢
  split at h
  · rename_i hearly
    rw [if_pos hearly]
    exact Option.some.inj h
  · rename_i hlate
    rw [if_neg hlate]
    rw [Option.ite_none_left_eq_some] at h
    exact Option.some.inj h.2

/-- The row that sums up the records of one number in the stream. -/
def stream_row (records : List SyscallEvent) (number : Int) : SyscallStat where
  number := number
  calls := records.countP fun record => record.number == number
  errors := records.countP fun record => record.number == number && record.error_number != 0
  nanoseconds :=
    ((records.filter fun record => record.number == number).map Output.elapsed_nanoseconds).sum

/-! ### Calls without their captured arguments -/

/-- The event without its captured arguments. -/
def SyscallEvent.bare (event : SyscallEvent) : SyscallEvent :=
  { event with decoded_arguments := Vector.replicate 6 none, argument_count := 0 }

section bare
variable {events events' : List SyscallEvent}

theorem numbers_bare : numbers (events.map SyscallEvent.bare) = numbers events := by
  unfold numbers
  rw [List.foldl_map]
  rfl

theorem countable_bare : Countable (events.map SyscallEvent.bare) ↔ Countable events := by
  have hdurations : (events.map SyscallEvent.bare).map duration = events.map duration := by
    rw [List.map_map]
    rfl
  constructor
  · intro h
    refine ⟨?_, ?_, ?_, ?_, ?_⟩
    · intro event hevent
      exact h.completed event.bare (List.mem_map_of_mem hevent)
    · intro event hevent
      exact h.measured event.bare (List.mem_map_of_mem hevent)
    · simpa using h.calls
    · rw [← hdurations]
      exact h.nanoseconds
    · rw [← numbers_bare]
      exact h.rows
  · intro h
    refine ⟨?_, ?_, ?_, ?_, ?_⟩
    · intro event hevent
      obtain ⟨event', hevent', rfl⟩ := List.mem_map.mp hevent
      exact h.completed event' hevent'
    · intro event hevent
      obtain ⟨event', hevent', rfl⟩ := List.mem_map.mp hevent
      exact h.measured event' hevent'
    · simpa using h.calls
    · rw [hdurations]
      exact h.nanoseconds
    · rw [numbers_bare]
      exact h.rows

theorem aggregates_bare {stats : Stats} :
    Aggregates (events.map SyscallEvent.bare) stats ↔ Aggregates events stats := by
  have hdurations : (events.map SyscallEvent.bare).map duration = events.map duration := by
    rw [List.map_map]
    rfl
  have hfailed : (events.map SyscallEvent.bare).countP SyscallEvent.failed =
      events.countP SyscallEvent.failed := by
    rw [List.countP_map]
    rfl
  have htally : tally (events.map SyscallEvent.bare) = tally events := by
    funext number
    unfold tally
    rw [List.countP_map, List.countP_map, List.filter_map, List.map_map]
    rfl
  constructor
  · intro h
    exact ⟨by rw [h.rows, numbers_bare, htally], by rw [h.total_calls, List.length_map],
      by rw [h.total_errors, hfailed], by rw [h.total_nanoseconds, hdurations], h.capacity⟩
  · intro h
    exact ⟨by rw [h.rows, numbers_bare, htally], by rw [h.total_calls, List.length_map],
      by rw [h.total_errors, hfailed], by rw [h.total_nanoseconds, hdurations], h.capacity⟩

end bare

/-! ### Twins -/

/-- The same call, seen in the two runs; `same` says that both clocks have shown the
    same. -/
structure SyscallEvent.Twin (same : Prop) (event event' : SyscallEvent) : Prop where
  number : event.number = event'.number
  bare : same → event.bare = event'.bare

/-- The same task, seen in the two runs. -/
structure Tracee.Twin (same : Prop) (tracee tracee' : Tracee) : Prop where
  tid : tracee.tid = tracee'.tid
  has_pending : tracee.has_pending_syscall = tracee'.has_pending_syscall
  has_interrupted : tracee.has_interrupted_syscall = tracee'.has_interrupted_syscall
  ready : tracee.interrupted_restart_ready = tracee'.interrupted_restart_ready
  pending : tracee.pending_syscall.Twin same tracee'.pending_syscall
  interrupted : tracee.interrupted_syscall.Twin same tracee'.interrupted_syscall

/-- The calls that a context has recorded and that are selected. -/
def Context.reported (config : Config) (c : Context) : List SyscallEvent :=
  (c.records.map Prod.snd).filter fun event => selected config event.number

/-- The clocks of the two runs have shown the same. -/
def SameTimes (s u : Context) : Prop := s.readings = u.readings

/-- What the stream holds. -/
structure Context.Streamed (config : Config) (s : Context) : Prop where
  written : s.completed = s.records.filter fun record => selected config record.2.number
  counted : s.event_count = (s.reported config).length
  complete : ∀ record ∈ s.records, record.2.completed = true

/-- What the statistics hold. -/
structure Context.Summed (config : Config) (u : Context) : Prop where
  aggregates : Aggregates (u.reported config) u.stats
  countable : Countable (u.reported config)
  counted : u.event_count = (u.reported config).length

/-- **The two runs** after the same stops. -/
structure Twins (config : Config) (s u : Context) : Prop where
  streamed : s.Streamed config
  summed : u.Summed config
  tracees : ∀ tid, Option.Rel (Tracee.Twin (SameTimes s u)) (s.tracees.lookup tid)
    (u.tracees.lookup tid)
  readings : s.readings.length = u.readings.length
  records : SameTimes s u →
    (s.records.map Prod.snd).map SyscallEvent.bare = (u.records.map Prod.snd).map SyscallEvent.bare

/-- The summary has been refused: if both clocks have shown the same so far, the calls
    cannot be counted. -/
structure TotalsRefused (config : Config) (s u : Context) : Prop where
  streamed : s.Streamed config
  readings : u.readings.length ≤ s.readings.length
  refused : u.readings <+: s.readings → ¬Countable (s.reported config)

/-- The histories have only grown, and the stream still holds what is recorded. -/
structure GoesOn (config : Config) (c c' : Context) : Prop where
  readings : c.readings <+: c'.readings
  records : c.records <+: c'.records
  streamed : c.Streamed config → c'.Streamed config

instance (config : Config) : IsPreorder Context (GoesOn config) where
  refl _ := ⟨List.prefix_rfl, List.prefix_rfl, id⟩
  trans _ _ _ h h' :=
    ⟨h.readings.trans h'.readings, h.records.trans h'.records, h'.streamed ∘ h.streamed⟩

/-- The histories and counters of a context. -/
def Context.counts (c : Context) : Nat × List Timespec × List (Pid × SyscallEvent) :=
  (c.event_count, c.readings, c.records)

/-- The histories and counters are the same. -/
def SameCounts (c c' : Context) : Prop := c'.counts = c.counts

instance : IsPreorder Context SameCounts where
  refl _ := rfl
  trans _ _ _ h h' := h'.trans h

section twins
variable {config : Config} {env : Env} {s s' u u' : Context} {tracee tracee' : Tracee}
  {event event' : SyscallEvent} {same same' : Prop}

theorem SyscallEvent.Twin.mono (h : event.Twin same event') (hsame : same' → same) :
    event.Twin same' event' := ⟨h.number, fun h' => h.bare (hsame h')⟩

theorem Tracee.Twin.mono (h : tracee.Twin same tracee') (hsame : same' → same) :
    tracee.Twin same' tracee' :=
  ⟨h.tid, h.has_pending, h.has_interrupted, h.ready, h.pending.mono hsame, h.interrupted.mono hsame⟩

theorem SameCounts.goes_on (h : SameCounts s s') (hcompleted : s'.completed = s.completed) :
    GoesOn config s s' := by
  unfold SameCounts Context.counts at h
  simp only [Prod.mk.injEq] at h
  obtain ⟨hcount, hreadings, hrecords⟩ := h
  refine ⟨by rw [hreadings], by rw [hrecords], fun hs => ⟨?_, ?_, ?_⟩⟩
  · rw [hcompleted, hrecords]
    exact hs.written
  · unfold Context.reported
    rw [hcount, hrecords]
    exact hs.counted
  · rw [hrecords]
    exact hs.complete

/-- A refusal stays a refusal. -/
theorem TotalsRefused.goes_on (hg : GoesOn config s s') (h : TotalsRefused config s u) : TotalsRefused config s' u := by
  refine ⟨hg.streamed h.streamed, h.readings.trans hg.readings.length_le,
    fun hshown hcountable => ?_⟩
  apply h.refused (List.prefix_of_prefix_length_le hshown hg.readings h.readings)
  obtain ⟨more, hmore⟩ := hg.records
  unfold Context.reported at hcountable ⊢
  rw [← hmore, List.map_append, List.filter_append] at hcountable
  exact hcountable.of_append

theorem selected_bare (events : List SyscallEvent) :
    (events.filter fun event => selected config event.number).map SyscallEvent.bare =
      (events.map SyscallEvent.bare).filter fun event => selected config event.number := by
  rw [List.filter_map]
  rfl

/-- Seen at the same times, the same calls are reported. -/
theorem reported_bare (h : (s.records.map Prod.snd).map SyscallEvent.bare =
      (u.records.map Prod.snd).map SyscallEvent.bare) :
    (s.reported config).map SyscallEvent.bare = (u.reported config).map SyscallEvent.bare := by
  unfold Context.reported
  rw [selected_bare, selected_bare, h]

theorem Twins.isSome (h : Twins config s u) (tid : Pid) :
    (s.tracees.lookup tid).isSome = (u.tracees.lookup tid).isSome := by
  have hrel := h.tracees tid
  generalize s.tracees.lookup tid = found at hrel
  generalize u.tracees.lookup tid = found' at hrel
  cases hrel with
  | some _ => rfl
  | none => rfl

/-- Storing twin records. -/
theorem Twins.store (h : Twins config s u) (ht : tracee.Twin (SameTimes s u) tracee') :
    Twins config { s with tracees := s.tracees.write tracee }
      { u with tracees := u.tracees.write tracee' } := by
  refine ⟨⟨h.streamed.written, h.streamed.counted, h.streamed.complete⟩,
    ⟨h.summed.aggregates, h.summed.countable, h.summed.counted⟩, ?_, h.readings, h.records⟩
  intro tid
  show Option.Rel (Tracee.Twin (SameTimes s u)) ((s.tracees.write tracee).lookup tid)
    ((u.tracees.write tracee').lookup tid)
  rw [Tracees.lookup_write, Tracees.lookup_write, ← ht.tid, h.isSome]
  split
  · exact .some ht
  · exact h.tracees tid

/-- Freeing texts is not seen. -/
theorem Twins.release (h : Twins config s u) (event event' : SyscallEvent) :
    Twins config (s.release event) (u.release event') :=
  ⟨⟨h.streamed.written, h.streamed.counted, h.streamed.complete⟩,
    ⟨h.summed.aggregates, h.summed.countable, h.summed.counted⟩, h.tracees, h.readings, h.records⟩

/-! ### The stream goes on -/

/-- The record of a context that has noted one more call. -/
theorem Context.reported_append {c c' : Context} {tid : Pid}
    (h : c'.records = c.records ++ [(tid, event)]) :
    c'.reported config = c.reported config ++ report (selected config) event := by
  unfold Context.reported report
  rw [h, List.map_append, List.filter_append, List.map_singleton, List.filter_cons, List.filter_nil]

theorem emit_event_counts (event : Event) : Advances (emit_event config env event) SameCounts :=
  advances_bind (advances_modify fun _ => rfl) fun _ => advances_zoom _ fun _ _ => rfl

/-- The flush writes to the output only. -/
theorem flush_unfinished_syscalls_counts (except_tid : Pid) :
    Advances (flush_unfinished_syscalls config env except_tid) SameCounts := by
  unfold flush_unfinished_syscalls
  apply advances_ite (advances_pure _)
  apply advances_bind advances_get
  intro c
  apply advances_forM
  intro tracee
  unfold flush_tracee
  apply advances_ite (advances_pure _)
  cases tracee.current_call with
  | none => exact advances_pure _
  | some call => exact advances_ite (advances_pure _) (emit_event_counts _)

/-- The flush completes no call. -/
theorem flush_unfinished_syscalls_quiet (hsummary : config.summary = false) (except_tid : Pid) :
    Holds (flush_unfinished_syscalls config env except_tid) s
      (fun _ s' => s'.tracees = s.tracees ∧ SameCounts s s' ∧ s'.completed = s.completed)
      (fun _ _ => True) := by
  apply ((flush_unfinished_syscalls_spec except_tid).and
    (flush_unfinished_syscalls_counts except_tid s)).mono
  · intro _ s' hpost
    rcases hpost with ⟨⟨events, hevents, hw⟩, hsame⟩
    refine ⟨hw.tracees, hsame, ?_⟩
    show s'.output.log.completed = _
    rw [hw.log, completed_foldl hsummary, filterMap_flush hevents, List.append_nil]
    rfl
  · intro _ _ _
    trivial

/-- The stream: a selected call is written. -/
theorem write_syscall_streamed (hsummary : config.summary = false) (tracee : Tracee)
    (hcompleted : event.completed = true) :
    Holds (write_syscall config env tracee event) s
      (fun _ s' => s'.tracees = s.tracees ∧ s'.readings = s.readings ∧
        s'.records = s.records ++ [(tracee.tid, event)] ∧
        (s.Streamed config → s'.Streamed config))
      (fun _ _ => True) := by
  have hcounts : Holds (write_syscall config env tracee event) s
      (fun _ s' => s'.readings = s.readings ∧ s'.records = s.records ++ [(tracee.tid, event)] ∧
        s'.event_count = s.event_count + (report (selected config) event).length)
      (fun _ _ => True) := by
    unfold write_syscall report
    rw [holds_bind, holds_modify]
    by_cases hsel : selected config event.number = true
    · simp only [hsel, hsummary, Bool.not_true, Bool.false_eq_true, if_false, if_true]
      rw [holds_bind, holds_modify]
      apply ((advances_bind (flush_unfinished_syscalls_counts tracee.tid)
        fun _ => emit_event_counts _) _).mono
      · intro _ s' hsame
        simp only [SameCounts, Context.counts, Prod.mk.injEq] at hsame
        exact ⟨hsame.2.1, hsame.2.2, hsame.1⟩
      · intro _ _ _
        trivial
    · simp only [hsel, Bool.not_false, if_true, holds_pure, if_false, Bool.false_eq_true, true_and]
      rfl
  apply ((write_syscall_spec tracee event).and hcounts).mono
  · intro _ s' hpost
    rcases hpost with ⟨⟨events, hevents, hw⟩, hreadings, hrecords, hcount⟩
    refine ⟨hw.tracees, hreadings, hrecords, fun h => ⟨?_, ?_, ?_⟩⟩
    · show s'.output.log.completed = _
      rw [hw.log, completed_foldl hsummary, hrecords, List.filter_append]
      have hwritten : s.output.log.completed = _ := h.written
      rw [hwritten, List.filter_cons, List.filter_nil]
      congr 1
      split
      · rw [List.filterMap_append, filterMap_flush hevents]
        simp [Event.completed, syscall_event, hcompleted]
      · rfl
    · rw [hcount, h.counted, Context.reported_append hrecords, List.length_append]
    · intro record hrecord
      rw [hrecords, List.mem_append, List.mem_singleton] at hrecord
      obtain hrecord | rfl := hrecord
      · exact h.complete record hrecord
      · exact hcompleted
  · intro _ _ _
    trivial

theorem flush_unfinished_syscalls_goes_on (hsummary : config.summary = false) (except_tid : Pid) :
    Advances (flush_unfinished_syscalls config env except_tid) (GoesOn config) := by
  intro s
  exact (flush_unfinished_syscalls_quiet hsummary except_tid).mono
    (fun _ _ h => h.2.1.goes_on h.2.2) (fun _ _ h => h)

theorem store_goes_on (tracee : Tracee) : Advances (store tracee) (GoesOn config) :=
  advances_modify fun _ => ⟨List.prefix_rfl, List.prefix_rfl,
    fun h => ⟨h.written, h.counted, h.complete⟩⟩

theorem release_goes_on (event : SyscallEvent) :
    Advances (sg_decoder_release_event event) (GoesOn config) :=
  advances_bind (advances_modify fun _ => ⟨List.prefix_rfl, List.prefix_rfl,
    fun h => ⟨h.written, h.counted, h.complete⟩⟩) fun _ => advances_pure _

theorem clock_gettime_goes_on : Advances (clock_gettime env) (GoesOn config) := by
  intro c
  unfold clock_gettime
  simp only [holds_bind, holds_context_ask]
  cases env.clock c.asked with
  | none => trivial
  | some now => exact ⟨List.prefix_append _ _, List.prefix_rfl,
      fun h => ⟨h.written, h.counted, h.complete⟩⟩

theorem write_syscall_goes_on (hsummary : config.summary = false) (tracee : Tracee)
    {event : SyscallEvent} (hcompleted : event.completed = true) :
    Advances (write_syscall config env tracee event) (GoesOn config) := by
  intro s
  apply (write_syscall_streamed hsummary tracee hcompleted).mono
  · intro _ s' hpost
    rcases hpost with ⟨_, hreadings, hrecords, hstreamed⟩
    exact ⟨by rw [hreadings], by rw [hrecords]; exact List.prefix_append _ _, hstreamed⟩
  · intro _ _ _
    trivial

/-- A call that is over is written whole, whatever its slot. -/
theorem end_call_goes_on (hsummary : config.summary = false) (tracee : Tracee)
    {event : SyscallEvent} (hcompleted : event.completed = true)
    (keep leave : Tracee → SyscallEvent → Tracee) :
    Advances (end_call config env tracee event keep leave) (GoesOn config) := by
  unfold end_call
  apply advances_bind (store_goes_on _)
  intro _
  apply advances_bind clock_gettime_goes_on
  intro _
  apply advances_bind (store_goes_on _)
  intro _
  refine advances_bind (write_syscall_goes_on hsummary _ ?_) ?_
  · exact hcompleted
  intro _
  apply advances_bind (release_goes_on _)
  intro _
  apply advances_bind (store_goes_on _)
  intro _
  exact advances_pure _

theorem complete_exec_goes_on (hsummary : config.summary = false) (tracee : Tracee) :
    Advances (complete_exec config env tracee) (GoesOn config) := by
  rw [complete_exec_eq]
  exact end_call_goes_on hsummary _ rfl _ _

theorem restart_call_goes_on (hsummary : config.summary = false) (tracee : Tracee) :
    Advances (restart_call config env tracee) (GoesOn config) :=
  advances_bind (flush_unfinished_syscalls_goes_on hsummary _) fun _ => store_goes_on _

theorem report_interrupted_goes_on (hsummary : config.summary = false) (tracee : Tracee) :
    Advances (report_interrupted config env tracee) (GoesOn config) := by
  rw [report_interrupted_eq]
  exact advances_ite (end_call_goes_on hsummary _ rfl _ _) (advances_pure _)

theorem capture_entry_goes_on (tid : Pid) (event : SyscallEvent) :
    Advances (sg_decoder_capture_entry env tid event) (GoesOn config) := by
  intro c
  unfold sg_decoder_capture_entry
  simp only [holds_bind, holds_context_ask]
  cases env.capture c.asked tid event with
  | none => trivial
  | some captured => exact ⟨List.prefix_rfl, List.prefix_rfl,
      fun h => ⟨h.written, h.counted, h.complete⟩⟩

theorem enter_call_goes_on (hsummary : config.summary = false) (tracee : Tracee) (number : UInt64) (arguments : Vector UInt64 6) :
    Advances (enter_call config env tracee number arguments) (GoesOn config) := by
  unfold enter_call make_call
  apply advances_bind
  · apply advances_ite
    · exact advances_bind clock_gettime_goes_on fun _ =>
        advances_ite (advances_pure _) (capture_entry_goes_on _ _)
    · exact advances_pure _
  · intro event
    apply advances_ite
    · exact advances_bind (advances_onError _ (flush_unfinished_syscalls_goes_on hsummary _))
        fun _ => store_goes_on _
    · exact store_goes_on _

/-- What follows the first block of `begin_syscall`. -/
theorem new_call_goes_on (hsummary : config.summary = false) (tracee : Tracee) (number : UInt64) (arguments : Vector UInt64 6) :
    Advances (if tracee.restarts number.toNat then restart_call config env tracee
      else do
        let tracee ← report_interrupted config env tracee
        enter_call config env tracee number arguments) (GoesOn config) :=
  advances_ite (restart_call_goes_on hsummary _)
    (advances_bind (report_interrupted_goes_on hsummary _) fun _ => enter_call_goes_on hsummary _ _ _)

theorem begin_syscall_goes_on (hsummary : config.summary = false) (tracee : Tracee) (number : UInt64) (arguments : Vector UInt64 6) :
    Advances (begin_syscall config env tracee number arguments) (GoesOn config) := by
  unfold begin_syscall
  apply advances_ite (advances_throw _)
  refine advances_bind ?_ fun _ => new_call_goes_on hsummary _ _ _
  unfold leave_pending
  exact advances_ite (advances_ite (complete_exec_goes_on hsummary _) (advances_throw _)) (advances_pure _)

theorem settle_interrupted_goes_on (tracee : Tracee) :
    Advances (settle_interrupted tracee) (GoesOn config) := by
  unfold settle_interrupted
  apply advances_ite
  · apply advances_ite (advances_pure _)
    exact advances_ite (advances_bind (release_goes_on _) fun _ => advances_pure _)
      (advances_pure _)
  · exact advances_pure _

theorem complete_call_goes_on (hsummary : config.summary = false) (tracee : Tracee) (rval : Int) (is_error : Bool) :
    Advances (complete_call config env tracee rval is_error) (GoesOn config) := by
  unfold complete_call stamp_exit
  apply advances_bind (store_goes_on _)
  intro _
  apply advances_bind (advances_ite (advances_bind clock_gettime_goes_on fun _ => advances_pure _)
    (advances_pure _))
  intro _
  apply advances_bind (store_goes_on _)
  intro _
  apply advances_bind (write_syscall_goes_on hsummary _ rfl)
  intro _
  apply advances_bind (settle_interrupted_goes_on _)
  intro _
  apply advances_bind (release_goes_on _)
  intro _
  exact store_goes_on _

theorem finish_syscall_goes_on (hsummary : config.summary = false) (tracee : Tracee) (rval : Int) (is_error : Bool) :
    Advances (finish_syscall config env tracee rval is_error) (GoesOn config) := by
  unfold finish_syscall interrupt_call
  apply advances_ite (store_goes_on _)
  refine advances_ite ?_ (complete_call_goes_on hsummary _ _ _)
  apply advances_ite
  · exact advances_bind (release_goes_on _) fun _ =>
      store_goes_on _
  · exact store_goes_on _

theorem handle_exec_event_goes_on (hsummary : config.summary = false) (tracee : Tracee) :
    Advances (handle_exec_event config env tracee) (GoesOn config) := by
  unfold handle_exec_event
  apply advances_bind
  · apply advances_modify
    intro c
    split
    · exact ⟨List.prefix_rfl, List.prefix_rfl, fun h => ⟨h.written, h.counted, h.complete⟩⟩
    · exact Std.Refl.refl c
  · intro _
    dsimp only
    split
    · exact advances_bind (complete_exec_goes_on hsummary _) fun _ => store_goes_on _
    · exact store_goes_on _

/-- One stop only adds to the histories. -/
theorem run_stop_goes_on (hsummary : config.summary = false) (tid : Pid) (stop : CallStop) :
    Advances (run_stop config env tid stop) (GoesOn config) := by
  unfold run_stop
  apply advances_bind advances_get
  intro c
  cases c.tracees.get tid with
  | none => exact advances_pure _
  | some tracee =>
    cases stop with
    | entry number arguments => exact begin_syscall_goes_on hsummary _ _ _
    | exit rval is_error => exact finish_syscall_goes_on hsummary _ _ _
    | exec => exact handle_exec_event_goes_on hsummary _

end twins

/-! ### The two runs side by side -/

/-- The same configuration with `-c`, whatever the format. -/
def Config.summing (config : Config) (format : OutputFormat) : Config :=
  { config with summary := true, format := format }

@[simp] theorem Config.summing_summary (config : Config) (format : OutputFormat) :
    (config.summing format).summary = true := rfl

/-- From `s` and `u` to `s'` and `u'` the two runs have stayed twins. -/
structure Passed (config : Config) (s u s' u' : Context) : Prop where
  twins : Twins config s' u'
  back : SameTimes s' u' → SameTimes s u

section sides
variable {config : Config} {env env' : Env} {format : OutputFormat} {s s' u u' : Context}
  {tracee tracee' : Tracee} {event event' : SyscallEvent} {same : Prop} {now now' : Timespec}

/-- The end of a call, seen in the two runs. -/
theorem SyscallEvent.Twin.result (h : event.Twin same event') (result error_number : Int)
    (completed : Bool) :
    ({ event with
        result := result, error_number := error_number, completed := completed } : SyscallEvent).Twin
      same
      { event' with result := result, error_number := error_number, completed := completed } := by
  refine ⟨h.number, fun hsame => ?_⟩
  show ({ event.bare with
        result := result, error_number := error_number, completed := completed } : SyscallEvent) =
      { event'.bare with result := result, error_number := error_number, completed := completed }
  rw [h.bare hsame]

theorem SyscallEvent.Twin.at_time (h : event.Twin same event') (hnow : same → now = now') :
    ({ event with exited_at := now } : SyscallEvent).Twin same { event' with exited_at := now' } := by
  refine ⟨h.number, fun hsame => ?_⟩
  show ({ event.bare with exited_at := now } : SyscallEvent) =
    { event'.bare with exited_at := now' }
  rw [h.bare hsame, hnow hsame]

theorem SyscallEvent.Twin.without_texts (h : event.Twin same event') :
    event.without_texts.Twin same event'.without_texts :=
  ⟨h.number, fun hsame => h.bare hsame⟩

theorem SyscallEvent.Twin.refl (event : SyscallEvent) : event.Twin same event :=
  ⟨rfl, fun _ => rfl⟩

theorem store_follows (h : Twins config s u) (ht : tracee.Twin (SameTimes s u) tracee') :
    Fallible.Follows (store tracee) (store tracee') s u (fun _ s' _ u' => Passed config s u s' u')
      (fun _ _ => False) :=
  follows_modify ⟨h.store ht, fun h => h⟩

theorem release_follows (h : Twins config s u) (event event' : SyscallEvent) :
    Fallible.Follows (sg_decoder_release_event event) (sg_decoder_release_event event') s u
      (fun e s' e' u' => Passed config s u s' u' ∧ e = event.without_texts ∧
        e' = event'.without_texts)
      (fun _ _ => False) := by
  intro e s' hm
  cases hm
  exact ⟨⟨h.release event event', fun h => h⟩, rfl, rfl⟩

theorem twin_or_none {same same' : Prop} {found found' : Option Tracee}
    (h : Option.Rel (Tracee.Twin same) found found') (hsame : same' → same) :
    Option.Rel (Tracee.Twin same') found found' := by
  cases h with
  | some ht => exact .some (ht.mono hsame)
  | none => exact .none

/-- Both clocks are read. -/
theorem clock_gettime_follows (hs : env'.Succeeds) (h : Twins config s u) :
    Fallible.Follows (clock_gettime env) (clock_gettime env') s u
      (fun now s' now' u' => Passed config s u s' u' ∧ (SameTimes s' u' → now = now'))
      (fun _ _ => False) := by
  have hread : ∀ (env : Env) (c : Context), Holds (clock_gettime env) c
      (fun now c' => c' = { c with asked := c.asked + 1, readings := c.readings ++ [now] })
      (fun _ _ => True) := by
    intro env c
    unfold clock_gettime
    simp only [holds_bind, holds_context_ask]
    cases env.clock c.asked with
    | none => trivial
    | some now => rfl
  apply (follows_of_holds (R := fun _ _ => False) (hread env s)
    ((hread env' u).and (clock_gettime_total hs)) (fun _ _ _ _ _ h => h.2)).mono
  · intro now s' now' u' hpost
    rcases hpost with ⟨hs', hu', _⟩
    subst hs' hu'
    have hback : SameTimes { s with asked := s.asked + 1, readings := s.readings ++ [now] }
        { u with asked := u.asked + 1, readings := u.readings ++ [now'] } →
        s.readings = u.readings ∧ now = now' := by
      intro hsame
      have hsame : s.readings ++ [now] = u.readings ++ [now'] := hsame
      obtain ⟨hbefore, hlast⟩ := List.append_inj hsame h.readings
      exact ⟨hbefore, List.head_eq_of_cons_eq hlast⟩
    refine ⟨⟨⟨⟨h.streamed.written, h.streamed.counted, h.streamed.complete⟩,
      ⟨h.summed.aggregates, h.summed.countable, h.summed.counted⟩, ?_, ?_, ?_⟩,
      fun hsame => (hback hsame).1⟩, fun hsame => (hback hsame).2⟩
    · intro tid
      exact twin_or_none (h.tracees tid) fun hsame => (hback hsame).1
    · simp [h.readings]
    · intro hsame
      exact h.records (hback hsame).1
  · intro _ _ hfalse
    exact hfalse

/-- The summary: a selected call is added to the statistics, or it cannot be counted. -/
theorem write_syscall_summed (format : OutputFormat) (hs : env.Succeeds) (h : u.Summed config) (tracee : Tracee)
    (event : SyscallEvent) :
    Holds (write_syscall (config.summing format) env tracee event) u
      (fun _ u' => u'.tracees = u.tracees ∧ u'.readings = u.readings ∧
        u'.records = u.records ++ [(tracee.tid, event)] ∧ u'.Summed config)
      (fun _ u' => u'.readings = u.readings ∧ u'.records = u.records ++ [(tracee.tid, event)] ∧
        ¬Countable (u'.reported config)) := by
  have hselected : selected (config.summing format) event.number = selected config event.number :=
    rfl
  have hsummary : (config.summing format).summary = true := rfl
  unfold write_syscall
  rw [holds_bind, holds_modify]
  by_cases hsel : selected config event.number = true
  · have hreported : ∀ u' : Context, u'.records = u.records ++ [(tracee.tid, event)] →
        u'.reported config = u.reported config ++ [event] := by
      intro u' hrecords
      rw [Context.reported_append hrecords, report, if_pos hsel]
    simp only [hselected, hsel, hsummary, Bool.not_true, Bool.false_eq_true, if_false, if_true,
      holds_bind, holds_modify, holds_context_ask, holds_get, hs.alloc]
    by_cases hcountable : Countable (u.reported config ++ [event])
    · obtain ⟨stats', hrecorded, haggregates⟩ := record_spec h.aggregates hcountable
      rw [hrecorded]
      refine ⟨rfl, rfl, rfl, ?_, ?_, ?_⟩
      · rw [hreported _ rfl]
        exact haggregates
      · rw [hreported _ rfl]
        exact hcountable
      · rw [hreported _ rfl, List.length_append, ← h.counted]
        rfl
    · have hrefused : (sg_stats_record u.stats event true).1 = false := by
        rw [Bool.eq_false_iff]
        exact fun hrecorded => hcountable (countable_of_recorded h.aggregates h.countable hrecorded)
      rw [hrefused]
      refine ⟨rfl, rfl, ?_⟩
      rw [hreported _ rfl]
      exact hcountable
  · simp only [hselected, hsel, Bool.not_false, if_true, holds_pure, true_and]
    have hreported : Context.reported config { u with records := u.records ++ [(tracee.tid, event)] } =
        u.reported config := by
      rw [Context.reported_append (c := u) rfl, report, if_neg hsel, List.append_nil]
    refine ⟨?_, ?_, ?_⟩
    · rw [hreported]
      exact h.aggregates
    · rw [hreported]
      exact h.countable
    · rw [hreported]
      exact h.counted

/-- When the summary has been refused, the stream goes on. -/
theorem follows_next {α β γ δ : Type} {m : TraceM α} {m' : TraceM β} {f : α → TraceM γ}
    {g : β → TraceM δ} {Q : α → Context → β → Context → Prop}
    {Q' : γ → Context → δ → Context → Prop} (h : Fallible.Follows m m' s u Q (TotalsRefused config))
    (hgrows : ∀ a, Advances (f a) (GoesOn config))
    (hnext : ∀ a s' b u', Q a s' b u' → Fallible.Follows (f a) (g b) s' u' Q' (TotalsRefused config)) :
    Fallible.Follows (m >>= f) (m' >>= g) s u Q' (TotalsRefused config) :=
  follows_bind (G := GoesOn config) (fun _ _ _ hg hr => hr.goes_on hg) h hgrows hnext

/-- A call is recorded in both runs. -/
theorem write_syscall_follows (hsummary : config.summary = false) (hs : env'.Succeeds)
    (h : Twins config s u) (hevent : event.Twin (SameTimes s u) event')
    (hcompleted : event.completed = true) :
    Fallible.Follows (write_syscall config env tracee event)
      (write_syscall (config.summing format) env' tracee' event') s u
      (fun _ s' _ u' => Passed config s u s' u') (TotalsRefused config) := by
  -- Seen at the same times, the calls that are recorded are the same.
  have hrecords : ∀ {s' u' : Context}, s'.records = s.records ++ [(tracee.tid, event)] →
      u'.records = u.records ++ [(tracee'.tid, event')] → SameTimes s u →
      (s'.records.map Prod.snd).map SyscallEvent.bare =
        (u'.records.map Prod.snd).map SyscallEvent.bare := by
    intro s' u' hrs hru hsame
    rw [hrs, hru]
    simp only [List.map_append, List.map_cons, List.map_nil]
    rw [h.records hsame, hevent.bare hsame]
  apply (follows_of_holds (R := TotalsRefused config)
    (write_syscall_streamed hsummary tracee hcompleted)
    (write_syscall_summed format hs h.summed tracee' event') ?_).mono
  · intro _ s' _ u' hpost
    rcases hpost with ⟨⟨htracees, hreadings, hrs, hstreamed⟩, htracees', hreadings', hru, hsummed⟩
    have hback : SameTimes s' u' ↔ SameTimes s u := by
      unfold SameTimes
      rw [hreadings, hreadings']
    refine ⟨⟨hstreamed h.streamed, hsummed, ?_, ?_, ?_⟩, hback.mp⟩
    · intro tid
      rw [htracees, htracees']
      exact twin_or_none (h.tracees tid) hback.mp
    · rw [hreadings, hreadings', h.readings]
    · intro hsame
      exact hrecords hrs hru (hback.mp hsame)
  · intro _ _ hr
    exact hr
  · intro _ s' _ u' hpost hpost'
    rcases hpost with ⟨_, hreadings, hrs, hstreamed⟩
    rcases hpost' with ⟨hreadings', hru, hnot⟩
    refine ⟨hstreamed h.streamed, by rw [hreadings, hreadings', h.readings],
      fun hshown hcountable => hnot ?_⟩
    rw [hreadings, hreadings'] at hshown
    have hsame : SameTimes s u := (hshown.eq_of_length h.readings.symm).symm
    rw [← countable_bare] at hcountable ⊢
    rwa [← reported_bare (hrecords hrs hru hsame)]

/-- The stream flushes the unfinished calls of other tasks, the summary does not. -/
theorem flush_follows (hsummary : config.summary = false) (h : Twins config s u) (tid tid' : Pid) :
    Fallible.Follows (flush_unfinished_syscalls config env tid)
      (flush_unfinished_syscalls (config.summing format) env' tid') s u
      (fun _ s' _ u' => Passed config s u s' u') (fun _ _ => False) := by
  have hsilent : Holds (flush_unfinished_syscalls (config.summing format) env' tid') u
      (fun _ u' => u' = u) (fun _ _ => False) := by
    unfold flush_unfinished_syscalls
    rw [if_pos (config.summing_summary format)]
    exact rfl
  apply (follows_of_holds (R := fun _ _ => False) (flush_unfinished_syscalls_quiet hsummary tid)
    hsilent fun _ _ _ _ _ h => h).mono
  · intro _ s' _ u' hpost
    rcases hpost with ⟨⟨htracees, hsame, hcompleted⟩, hu⟩
    subst hu
    have hgrows : GoesOn config s s' := hsame.goes_on hcompleted
    simp only [SameCounts, Context.counts, Prod.mk.injEq] at hsame
    obtain ⟨-, hreadings, hrecords⟩ := hsame
    have hback : SameTimes s' u' ↔ SameTimes s u' := by
      unfold SameTimes
      rw [hreadings]
    refine ⟨⟨hgrows.streamed h.streamed, h.summed, ?_, ?_, ?_⟩, hback.mp⟩
    · intro other
      rw [htracees]
      exact twin_or_none (h.tracees other) hback.mp
    · rw [hreadings]
      exact h.readings
    · intro htimes
      rw [hrecords]
      exact h.records (hback.mp htimes)
  · intro _ _ hfalse
    exact hfalse

/-! ### The blocks -/

/-- The two runs end a call of the same task.  `keep` and `leave` respect the likeness of
    records, and each read of the clock can only end it, so it is carried along (`back`). -/
theorem end_call_follows (hsummary : config.summary = false) (hs : env'.Succeeds)
    (h : Twins config s u) (ht : tracee.Twin (SameTimes s u) tracee')
    {event event' : SyscallEvent} (hevent : event.Twin (SameTimes s u) event')
    (hcompleted : event.completed = true)
    {keep leave : Tracee → SyscallEvent → Tracee}
    (hkeep : ∀ {same tracee tracee' event event'}, Tracee.Twin same tracee tracee' →
      event.Twin same event' → (keep tracee event).Twin same (keep tracee' event'))
    (hleave : ∀ {same tracee tracee' event event'}, Tracee.Twin same tracee tracee' →
      event.Twin same event' → (leave tracee event).Twin same (leave tracee' event')) :
    Fallible.Follows (end_call config env tracee event keep leave)
      (end_call (config.summing format) env' tracee' event' keep leave) s u
      (fun t s' t' u' => Twins config s' u' ∧ t.Twin (SameTimes s' u') t') (TotalsRefused config) := by
  unfold end_call
  refine follows_then (store_follows h (hkeep ht hevent)) ?_
  intro _ s₁ _ u₁ h₁
  have ht₁ := ht.mono h₁.back
  have hevent₁ := hevent.mono h₁.back
  apply follows_then (clock_gettime_follows hs h₁.twins)
  intro now s₂ now' u₂ hpost
  rcases hpost with ⟨h₂, hnow⟩
  have ht₂ := ht₁.mono h₂.back
  have hevent₂ := (hevent₁.mono h₂.back).at_time hnow
  refine follows_then (store_follows h₂.twins (hkeep ht₂ hevent₂)) ?_
  intro _ s₃ _ u₃ h₃
  have ht₃ := ht₂.mono h₃.back
  have hevent₃ := hevent₂.mono h₃.back
  refine follows_next (write_syscall_follows hsummary hs h₃.twins hevent₃ ?_) ?_ ?_
  · exact hcompleted
  · intro _
    exact advances_bind (release_goes_on _) fun _ =>
      advances_bind (store_goes_on _) fun _ => advances_pure _
  intro _ s₄ _ u₄ h₄
  have ht₄ := ht₃.mono h₄.back
  have hevent₄ := hevent₃.mono h₄.back
  apply follows_then (release_follows h₄.twins _ _)
  intro e s₅ e' u₅ hpost
  rcases hpost with ⟨h₅, he, he'⟩
  subst he he'
  have hleft := hleave (ht₄.mono h₅.back) (hevent₄.mono h₅.back).without_texts
  refine follows_then (store_follows h₅.twins hleft) ?_
  intro _ s₆ _ u₆ h₆
  exact follows_pure ⟨h₆.twins, hleft.mono h₆.back⟩

theorem complete_exec_follows (hsummary : config.summary = false) (hs : env'.Succeeds)
    (h : Twins config s u) (ht : tracee.Twin (SameTimes s u) tracee') :
    Fallible.Follows (complete_exec config env tracee)
      (complete_exec (config.summing format) env' tracee') s u
      (fun t s' t' u' => Twins config s' u' ∧ t.Twin (SameTimes s' u') t') (TotalsRefused config) := by
  rw [complete_exec_eq, complete_exec_eq]
  refine end_call_follows hsummary hs h ht (ht.pending.result 0 0 true) rfl ?_ ?_
  · intro _ _ _ _ _ ht hevent
    exact ⟨ht.tid, ht.has_pending, ht.has_interrupted, ht.ready, hevent, ht.interrupted⟩
  · intro _ _ _ _ _ ht hevent
    exact ⟨ht.tid, rfl, ht.has_interrupted, ht.ready, hevent, ht.interrupted⟩

theorem report_interrupted_follows (hsummary : config.summary = false) (hs : env'.Succeeds)
    (h : Twins config s u) (ht : tracee.Twin (SameTimes s u) tracee') :
    Fallible.Follows (report_interrupted config env tracee)
      (report_interrupted (config.summing format) env' tracee') s u
      (fun t s' t' u' => Twins config s' u' ∧ t.Twin (SameTimes s' u') t') (TotalsRefused config) := by
  rw [report_interrupted_eq, report_interrupted_eq]
  apply follows_ite (by rw [ht.has_interrupted, ht.ready])
  · intro _
    refine end_call_follows hsummary hs h ht (ht.interrupted.result (-1) EINTR true) rfl ?_ ?_
    · intro _ _ _ _ _ ht hevent
      exact ⟨ht.tid, ht.has_pending, ht.has_interrupted, ht.ready, ht.pending, hevent⟩
    · intro _ _ _ _ _ ht hevent
      exact ⟨ht.tid, ht.has_pending, rfl, rfl, ht.pending, hevent⟩
  · intro _
    exact follows_pure ⟨h, ht⟩

theorem restart_call_follows (hsummary : config.summary = false) (h : Twins config s u)
    (ht : tracee.Twin (SameTimes s u) tracee') :
    Fallible.Follows (restart_call config env tracee) (restart_call (config.summing format) env' tracee')
      s u (fun _ s' _ u' => Twins config s' u') (fun _ _ => False) := by
  unfold restart_call
  refine follows_then (flush_follows hsummary h _ _) ?_
  intro _ s₁ _ u₁ h₁
  have ht₁ := ht.mono h₁.back
  refine (store_follows h₁.twins ?_).mono (fun _ _ _ _ h => h.twins) (fun _ _ h => h)
  exact ⟨ht₁.tid, rfl, rfl, rfl, ht₁.interrupted, .refl .zero⟩

/-- A new call: only the stream captures its arguments. -/
theorem make_call_follows (hsummary : config.summary = false) (hs : env'.Succeeds)
    (h : Twins config s u) (number : UInt64) (arguments : Vector UInt64 6) :
    Fallible.Follows (make_call config env tracee number arguments)
      (make_call (config.summing format) env' tracee' number arguments) s u
      (fun event s' event' u' => Passed config s u s' u' ∧ event.Twin (SameTimes s' u') event')
      (fun _ _ => False) := by
  unfold make_call
  dsimp only
  apply follows_ite Iff.rfl
  · intro _
    refine follows_then (clock_gettime_follows hs h) ?_
    intro now s₁ now' u₁ hpost
    rcases hpost with ⟨h₁, hnow⟩
    rw [if_neg (by simp [hsummary]), if_pos (config.summing_summary format)]
    intro event s₂ hm
    -- The captured arguments do not show.
    have hcaptured : Holds (sg_decoder_capture_entry env tracee.tid
        { SyscallEvent.entered number arguments with entered_at := now }) s₁
        (fun event s₂ =>
          s₂ = { s₁ with asked := s₁.asked + 1, captured := s₁.captured ++ event.texts } ∧
          event.number = number.toNat ∧
          event.bare = { SyscallEvent.entered number arguments with entered_at := now })
        (fun _ _ => True) := by
      unfold sg_decoder_capture_entry
      simp only [holds_bind, holds_context_ask]
      cases env.capture s₁.asked tracee.tid _ with
      | none => trivial
      | some captured => exact ⟨rfl, rfl, rfl⟩
    obtain ⟨rfl, hnumber, hbare⟩ := hcaptured.of_ok hm
    have htwins := h₁.twins
    refine ⟨⟨⟨⟨htwins.streamed.written, htwins.streamed.counted, htwins.streamed.complete⟩,
      htwins.summed, htwins.tracees, htwins.readings, htwins.records⟩, h₁.back⟩, hnumber, ?_⟩
    intro hsame
    rw [hbare, hnow hsame]
    rfl
  · intro _
    exact follows_pure ⟨⟨h, fun h => h⟩, .refl _⟩

theorem enter_call_follows (hsummary : config.summary = false) (hs : env'.Succeeds)
    (h : Twins config s u) (ht : tracee.Twin (SameTimes s u) tracee') (number : UInt64)
    (arguments : Vector UInt64 6) :
    Fallible.Follows (enter_call config env tracee number arguments)
      (enter_call (config.summing format) env' tracee' number arguments) s u
      (fun _ s' _ u' => Twins config s' u') (fun _ _ => False) := by
  unfold enter_call
  refine follows_then (make_call_follows hsummary hs h number arguments) ?_
  intro event s₁ event' u₁ hpost
  rcases hpost with ⟨h₁, hevent⟩
  have ht₁ := ht.mono h₁.back
  have hentered : ∀ s₂ u₂, Passed config s₁ u₁ s₂ u₂ →
      Fallible.Follows (store (tracee.entered event)) (store (tracee'.entered event')) s₂ u₂
        (fun _ s' _ u' => Twins config s' u') (fun _ _ => False) := by
    intro s₂ u₂ h₂
    have ht₂ := ht₁.mono h₂.back
    refine (store_follows h₂.twins ?_).mono (fun _ _ _ _ h => h.twins) (fun _ _ h => h)
    exact ⟨ht₂.tid, rfl, ht₂.has_interrupted, ht₂.ready, hevent.mono h₂.back, ht₂.interrupted⟩
  dsimp only
  apply follows_ite
  · rw [hevent.number]
    exact Iff.rfl
  · intro _
    refine follows_then (follows_onError (fun _ _ h => h) (flush_follows hsummary h₁.twins _ _)) ?_
    intro _ s₂ _ u₂ h₂
    exact hentered s₂ u₂ h₂
  · intro _
    exact hentered s₁ u₁ ⟨h₁.twins, fun h => h⟩

theorem Tracee.Twin.restarts (ht : tracee.Twin same tracee') (number : Int) :
    tracee.restarts number = tracee'.restarts number := by
  unfold Tracee.restarts
  rw [ht.has_interrupted, ht.ready, ht.interrupted.number]

theorem begin_syscall_follows (hsummary : config.summary = false) (hs : env'.Succeeds)
    (h : Twins config s u) (ht : tracee.Twin (SameTimes s u) tracee') (number : UInt64)
    (arguments : Vector UInt64 6) :
    Fallible.Follows (begin_syscall config env tracee number arguments)
      (begin_syscall (config.summing format) env' tracee' number arguments) s u
      (fun _ s' _ u' => Twins config s' u') (TotalsRefused config) := by
  have hleft : Fallible.Follows (leave_pending config env tracee)
      (leave_pending (config.summing format) env' tracee') s u
      (fun t s' t' u' => Twins config s' u' ∧ t.Twin (SameTimes s' u') t') (TotalsRefused config) := by
    unfold leave_pending
    apply follows_ite (by rw [ht.has_pending])
    · intro _
      apply follows_ite (by rw [ht.pending.number])
      · intro _
        exact complete_exec_follows hsummary hs h ht
      · intro _
        exact follows_throw _ _
    · intro _
      exact follows_pure ⟨h, ht⟩
  unfold begin_syscall
  apply follows_ite Iff.rfl
  · intro _
    exact follows_throw _ _
  · intro _
    refine follows_next hleft (fun _ => new_call_goes_on hsummary _ _ _) ?_
    intro t s₁ t' u₁ hpost
    rcases hpost with ⟨h₁, ht₁⟩
    apply follows_ite (by rw [ht₁.restarts])
    · intro _
      exact (restart_call_follows hsummary h₁ ht₁).mono (fun _ _ _ _ h => h) (fun _ _ h => h.elim)
    · intro _
      refine follows_next (report_interrupted_follows hsummary hs h₁ ht₁)
        (fun _ => enter_call_goes_on hsummary _ _ _) ?_
      intro t₂ s₂ t₂' u₂ hpost
      rcases hpost with ⟨h₂, ht₂⟩
      exact (enter_call_follows hsummary hs h₂ ht₂ number arguments).mono
        (fun _ _ _ _ h => h) (fun _ _ h => h.elim)

theorem interrupt_call_follows (h : Twins config s u) (ht : tracee.Twin (SameTimes s u) tracee') :
    Fallible.Follows (interrupt_call tracee) (interrupt_call tracee') s u
      (fun _ s' _ u' => Twins config s' u') (fun _ _ => False) := by
  have hstored : ∀ s₁ u₁, Passed config s u s₁ u₁ →
      Fallible.Follows (store tracee.interrupted) (store tracee'.interrupted) s₁ u₁
        (fun _ s' _ u' => Twins config s' u') (fun _ _ => False) := by
    intro s₁ u₁ h₁
    have ht₁ := ht.mono h₁.back
    refine (store_follows h₁.twins ?_).mono (fun _ _ _ _ h => h.twins) (fun _ _ h => h)
    exact ⟨ht₁.tid, rfl, rfl, rfl, .refl .zero, ht₁.pending⟩
  unfold interrupt_call
  dsimp only
  apply follows_ite (by rw [ht.has_interrupted])
  · intro _
    refine follows_then (release_follows h _ _) ?_
    intro _ s₁ _ u₁ hpost
    rcases hpost with ⟨h₁, _, _⟩
    exact hstored s₁ u₁ h₁
  · intro _
    exact hstored s u ⟨h, fun h => h⟩

theorem settle_interrupted_follows (h : Twins config s u)
    (ht : tracee.Twin (SameTimes s u) tracee') :
    Fallible.Follows (settle_interrupted tracee) (settle_interrupted tracee') s u
      (fun t s' t' u' => Passed config s u s' u' ∧ t.Twin (SameTimes s' u') t')
      (fun _ _ => False) := by
  have hsame : Passed config s u s u := ⟨h, fun h => h⟩
  unfold settle_interrupted
  apply follows_ite (by rw [ht.has_interrupted])
  · intro _
    apply follows_ite (by rw [ht.pending.number])
    · intro _
      exact follows_pure ⟨hsame, ht.tid, ht.has_pending, ht.has_interrupted, rfl, ht.pending,
        ht.interrupted⟩
    · intro _
      apply follows_ite (by rw [ht.ready, ht.pending.number, ht.interrupted.number])
      · intro _
        refine follows_then (release_follows h _ _) ?_
        intro e s₁ e' u₁ hpost
        rcases hpost with ⟨h₁, he, he'⟩
        subst he he'
        have ht₁ := ht.mono h₁.back
        exact follows_pure ⟨h₁, ht₁.tid, ht₁.has_pending, rfl, ht₁.ready, ht₁.pending,
          ht₁.interrupted.without_texts⟩
      · intro _
        exact follows_pure ⟨hsame, ht⟩
  · intro _
    exact follows_pure ⟨hsame, ht⟩

theorem stamp_exit_follows (hs : env'.Succeeds) (h : Twins config s u)
    (hevent : event.Twin (SameTimes s u) event') :
    Fallible.Follows (stamp_exit config env event) (stamp_exit (config.summing format) env' event') s u
      (fun e s' e' u' => Passed config s u s' u' ∧
        ({ e with completed := true } : SyscallEvent).Twin (SameTimes s' u')
          { e' with completed := true })
      (fun _ _ => False) := by
  unfold stamp_exit
  apply follows_ite
  · rw [hevent.number]
    exact Iff.rfl
  · intro _
    refine follows_then (clock_gettime_follows hs h) ?_
    intro now s₁ now' u₁ hpost
    rcases hpost with ⟨h₁, hnow⟩
    have hevent₁ := hevent.mono h₁.back
    refine follows_pure ⟨h₁, hevent.number, fun hsame => ?_⟩
    show ({ event.bare with exited_at := now, completed := true } : SyscallEvent) =
      { event'.bare with exited_at := now', completed := true }
    rw [hevent₁.bare hsame, hnow hsame]
  · intro _
    refine follows_pure ⟨⟨h, fun h => h⟩, hevent.number, fun hsame => ?_⟩
    show ({ event.bare with completed := true } : SyscallEvent) =
      { event'.bare with completed := true }
    rw [hevent.bare hsame]

theorem complete_call_follows (hsummary : config.summary = false) (hs : env'.Succeeds)
    (h : Twins config s u) (ht : tracee.Twin (SameTimes s u) tracee') (rval : Int)
    (is_error : Bool) :
    Fallible.Follows (complete_call config env tracee rval is_error)
      (complete_call (config.summing format) env' tracee' rval is_error) s u
      (fun _ s' _ u' => Twins config s' u') (TotalsRefused config) := by
  have hresult : ({ tracee.pending_syscall with
        result := rval, error_number := exit_error rval is_error } : SyscallEvent).Twin
      (SameTimes s u) { tracee'.pending_syscall with
        result := rval, error_number := exit_error rval is_error } := by
    refine ⟨ht.pending.number, fun hsame => ?_⟩
    show ({ tracee.pending_syscall.bare with
        result := rval, error_number := exit_error rval is_error } : SyscallEvent) =
      { tracee'.pending_syscall.bare with
        result := rval, error_number := exit_error rval is_error }
    rw [ht.pending.bare hsame]
  unfold complete_call
  dsimp only
  refine follows_then (store_follows h ?_) ?_
  · exact ⟨ht.tid, ht.has_pending, ht.has_interrupted, ht.ready, hresult, ht.interrupted⟩
  intro _ s₁ _ u₁ h₁
  have ht₁ := ht.mono h₁.back
  refine follows_then (stamp_exit_follows hs h₁.twins (hresult.mono h₁.back)) ?_
  intro stamped s₂ stamped' u₂ hpost
  rcases hpost with ⟨h₂, hevent⟩
  have ht₂ := ht₁.mono h₂.back
  refine follows_then (store_follows h₂.twins ?_) ?_
  · exact ⟨ht₂.tid, ht₂.has_pending, ht₂.has_interrupted, ht₂.ready, hevent, ht₂.interrupted⟩
  intro _ s₃ _ u₃ h₃
  have ht₃ := ht₂.mono h₃.back
  have hevent₃ := hevent.mono h₃.back
  refine follows_next (write_syscall_follows hsummary hs h₃.twins hevent₃ rfl) ?_ ?_
  · intro _
    exact advances_bind (settle_interrupted_goes_on _) fun _ =>
      advances_bind (release_goes_on _) fun _ =>
        store_goes_on _
  intro _ s₄ _ u₄ h₄
  have ht₄ := ht₃.mono h₄.back
  have hevent₄ := hevent₃.mono h₄.back
  refine follows_then (settle_interrupted_follows h₄.twins ?_) ?_
  · exact ⟨ht₄.tid, ht₄.has_pending, ht₄.has_interrupted, ht₄.ready, hevent₄, ht₄.interrupted⟩
  intro t s₅ t' u₅ hpost
  rcases hpost with ⟨h₅, ht₅⟩
  refine follows_then (release_follows h₅.twins _ _) ?_
  intro e s₆ e' u₆ hpost
  rcases hpost with ⟨h₆, he, he'⟩
  subst he he'
  have ht₆ := ht₅.mono h₆.back
  have hevent₆ := ((hevent₄.mono h₅.back).mono h₆.back).without_texts
  refine (store_follows h₆.twins ?_).mono (fun _ _ _ _ h => h.twins) (fun _ _ h => h.elim)
  exact ⟨ht₆.tid, rfl, ht₆.has_interrupted, ht₆.ready, hevent₆, ht₆.interrupted⟩

theorem finish_syscall_follows (hsummary : config.summary = false) (hs : env'.Succeeds)
    (h : Twins config s u) (ht : tracee.Twin (SameTimes s u) tracee') (rval : Int)
    (is_error : Bool) :
    Fallible.Follows (finish_syscall config env tracee rval is_error)
      (finish_syscall (config.summing format) env' tracee' rval is_error) s u
      (fun _ s' _ u' => Twins config s' u') (TotalsRefused config) := by
  unfold finish_syscall
  apply follows_ite (by rw [ht.has_pending])
  · intro _
    refine (store_follows h ?_).mono (fun _ _ _ _ h => h.twins) (fun _ _ h => h.elim)
    exact ⟨ht.tid, ht.has_pending, ht.has_interrupted, ht.ready, ht.pending, ht.interrupted⟩
  · intro _
    apply follows_ite Iff.rfl
    · intro _
      exact (interrupt_call_follows h ht).mono (fun _ _ _ _ h => h) (fun _ _ h => h.elim)
    · intro _
      exact complete_call_follows hsummary hs h ht rval is_error

theorem handle_exec_event_follows (hsummary : config.summary = false) (hs : env'.Succeeds)
    (h : Twins config s u) (ht : tracee.Twin (SameTimes s u) tracee') :
    Fallible.Follows (handle_exec_event config env tracee)
      (handle_exec_event (config.summing format) env' tracee') s u
      (fun _ s' _ u' => Twins config s' u') (TotalsRefused config) := by
  have hobserved : ∀ (c : Context) (tid : Pid), ∃ observed,
      (if tid = c.root_tid then { c with root_exec_observed := true } else c) =
        { c with root_exec_observed := observed } := by
    intro c tid
    split
    · exact ⟨true, rfl⟩
    · exact ⟨c.root_exec_observed, rfl⟩
  have hmodified : Passed config s u
      (if tracee.tid = s.root_tid then { s with root_exec_observed := true } else s)
      (if tracee'.tid = u.root_tid then { u with root_exec_observed := true } else u) := by
    obtain ⟨observed, hs₁⟩ := hobserved s tracee.tid
    obtain ⟨observed', hu₁⟩ := hobserved u tracee'.tid
    rw [hs₁, hu₁]
    exact ⟨⟨⟨h.streamed.written, h.streamed.counted, h.streamed.complete⟩,
      ⟨h.summed.aggregates, h.summed.countable, h.summed.counted⟩, h.tracees, h.readings,
      h.records⟩, fun h => h⟩
  have hstored : ∀ {s₂ u₂ : Context} {t t' : Tracee}, Twins config s₂ u₂ →
      t.Twin (SameTimes s₂ u₂) t' → Fallible.Follows (store t) (store t') s₂ u₂
        (fun _ s' _ u' => Twins config s' u') (TotalsRefused config) := by
    intro s₂ u₂ t t' h₂ ht₂
    exact (store_follows h₂ ht₂).mono (fun _ _ _ _ h => h.twins) (fun _ _ h => h.elim)
  unfold handle_exec_event
  refine follows_then (follows_modify (Q := fun _ s' _ u' => Passed config s u s' u') hmodified) ?_
  intro _ s₁ _ u₁ h₁
  have ht₁ := ht.mono h₁.back
  dsimp only
  apply follows_ite (by rw [ht.has_pending])
  · intro _
    refine follows_next (complete_exec_follows hsummary hs h₁.twins ht₁)
      (fun _ => store_goes_on _) ?_
    intro t s₂ t' u₂ hpost
    rcases hpost with ⟨h₂, ht₂⟩
    apply hstored h₂
    exact ⟨ht₂.tid, ht₂.has_pending, ht₂.has_interrupted, ht₂.ready, ht₂.pending, ht₂.interrupted⟩
  · intro _
    apply hstored h₁.twins
    exact ⟨ht₁.tid, ht₁.has_pending, ht₁.has_interrupted, ht₁.ready, ht₁.pending, ht₁.interrupted⟩

/-- **One stop**: the two runs stay twins, or the summary is refused. -/
theorem run_stop_follows (hsummary : config.summary = false) (hs : env'.Succeeds)
    (h : Twins config s u) (tid : Pid) (stop : CallStop) :
    Fallible.Follows (run_stop config env tid stop) (run_stop (config.summing format) env' tid stop) s u
      (fun _ s' _ u' => Twins config s' u') (TotalsRefused config) := by
  unfold run_stop
  refine follows_then (follows_get (Q := fun c s' c' u' => c = s ∧ c' = u ∧ s' = s ∧ u' = u)
    ⟨rfl, rfl, rfl, rfl⟩) ?_
  intro c s' c' u' hpost
  rcases hpost with ⟨hc, hc', hs', hu'⟩
  subst hc hc' hs' hu'
  rw [Tracees.get_eq, Tracees.get_eq]
  have hrel := h.tracees tid
  generalize s'.tracees.lookup tid = found at hrel
  generalize u'.tracees.lookup tid = found' at hrel
  cases hrel with
  | none => exact follows_pure h
  | some ht =>
    cases stop with
    | entry number arguments => exact begin_syscall_follows hsummary hs h ht number arguments
    | exit rval is_error => exact finish_syscall_follows hsummary hs h ht rval is_error
    | exec => exact handle_exec_event_follows hsummary hs h ht

/-- **A run**, one stop after the other. -/
theorem run_calls_follows (hsummary : config.summary = false) (hs : env'.Succeeds)
    (stops : List (Pid × CallStop)) : ∀ {s u : Context}, Twins config s u →
      Fallible.Follows (run_calls config env stops) (run_calls (config.summing format) env' stops) s u
        (fun _ s' _ u' => Twins config s' u') (TotalsRefused config) := by
  induction stops with
  | nil =>
    intro s u h
    exact follows_pure h
  | cons stop stops ih =>
    intro s u h
    refine follows_next (run_stop_follows hsummary hs h stop.1 stop.2) ?_ ?_
    · intro _
      exact advances_forM stops fun stop => run_stop_goes_on hsummary stop.1 stop.2
    · intro _ s₁ _ u₁ h₁
      exact ih h₁

end sides

/-! ### Every run -/

section runs
variable {config : Config} {env env' : Env} {start c : Context}

/-- Nothing has been recorded, written or counted. -/
structure Context.Unreported (c : Context) : Prop where
  records : c.records = []
  written : c.completed = []
  event_count : c.event_count = 0
  stats : c.stats = sg_stats_init

/-- The totals of the records fit in 64 bits, and their rows in the address space. -/
structure Representable (records : List SyscallEvent) : Prop where
  measured : ∀ record ∈ records, (elapsed_nanoseconds record).isSome
  calls : records.length ≤ UINT64_MAX
  nanoseconds : (records.map Output.elapsed_nanoseconds).sum ≤ UINT64_MAX
  rows : (numbers records).length ≤ row_limit

/-- The calls that the stream has written. -/
def Context.stream (c : Context) : List SyscallEvent := c.completed.map Prod.snd

theorem Context.Unreported.twins (h : start.Unreported) : Twins config start start := by
  have hreported : start.reported config = [] := by
    unfold Context.reported
    rw [h.records]
    rfl
  refine ⟨⟨?_, ?_, ?_⟩, ⟨?_, ?_, ?_⟩, ?_, rfl, fun _ => rfl⟩
  · rw [h.written, h.records]
    rfl
  · rw [h.event_count, hreported]
    rfl
  · simp [h.records]
  · rw [hreported, h.stats]
    exact aggregates_nil
  · rw [hreported]
    exact countable_nil
  · rw [h.event_count, hreported]
    rfl
  · intro tid
    cases start.tracees.lookup tid with
    | none => exact .none
    | some tracee => exact .some ⟨rfl, rfl, rfl, rfl, .refl _, .refl _⟩

theorem Context.Streamed.stream {config : Config} (h : c.Streamed config) :
    c.stream = c.reported config := by
  unfold Context.stream Context.reported
  rw [h.written, List.filter_map]
  rfl

theorem Context.Streamed.complete_reported {config : Config} (h : c.Streamed config) :
    ∀ event ∈ c.reported config, event.completed = true := by
  intro event hevent
  obtain ⟨record, hrecord, rfl⟩ := List.mem_map.mp (List.mem_filter.mp hevent).1
  exact h.complete record hrecord

/-- Where the totals fit, the time in the records is the time in the statistics. -/
theorem Representable.durations {records : List SyscallEvent} (h : Representable records)
    (part : List SyscallEvent) (hsub : ∀ record ∈ part, record ∈ records) :
    part.map Output.elapsed_nanoseconds = part.map duration := by
  apply List.map_congr_left
  intro record hrecord
  obtain ⟨ns, hns⟩ := Option.isSome_iff_exists.mp (h.measured record (hsub record hrecord))
  rw [elapsed_nanoseconds_eq hns, duration, hns]
  rfl

theorem Representable.countable {records : List SyscallEvent} (h : Representable records)
    (hcomplete : ∀ record ∈ records, record.completed = true) : Countable records :=
  ⟨hcomplete, h.measured, h.calls, h.durations records (fun _ h => h) ▸ h.nanoseconds, h.rows⟩

theorem Representable.stream_row {records : List SyscallEvent} (h : Representable records)
    (number : Int) : stream_row records number = tally records number := by
  unfold Sysgaze.stream_row tally
  rw [h.durations _ fun record hrecord => (List.mem_filter.mp hrecord).1]
  rfl

/-- **The summary is the aggregate of the stream.**  Let a run without `-c` over any stops
    succeed, and let the totals of the records it has written fit in 64 bits.  Then the run
    with `-c` over the same stops, whose clock has shown the same, succeeds: the rows of
    its statistics are the rows of the stream, one for each number, and both runs have
    counted as many events as there are calls in the statistics. -/
theorem summary_of_stream (format : OutputFormat) (hsummary : config.summary = false)
    (hs : env'.Succeeds) (hstart : start.Unreported) (stops : List (Pid × CallStop))
    (hstream : (run_calls config env stops).exec start = (.ok (), c))
    (htimes : (finalState (run_calls (config.summing format) env' stops) start).readings <+:
      c.readings)
    (hfits : Representable c.stream) :
    ∃ c', (run_calls (config.summing format) env' stops).exec start = (.ok (), c') ∧
      c'.stats.rows = (numbers c.stream).map (stream_row c.stream) ∧
      c'.stats.total_calls = c.stream.length ∧
      c'.stats.total_errors = c.stream.countP (fun record => record.error_number != 0) ∧
      c'.stats.total_nanoseconds = (c.stream.map Output.elapsed_nanoseconds).sum ∧
      c'.event_count = c'.stats.total_calls ∧ c.event_count = c'.stats.total_calls := by
  have hfollows : Holds (run_calls (config.summing format) env' stops) start
      (fun _ c' => Twins config c c') (fun _ c' => TotalsRefused config c c') :=
    run_calls_follows hsummary hs stops hstart.twins _ _ hstream
  rcases hrun : (run_calls (config.summing format) env' stops).exec start with ⟨_ | _, c'⟩
  · -- A refusal says that the calls cannot be counted, but they can.
    have hrefused := hfollows.of_error hrun
    have hcountable : Countable c.stream := by
      apply hfits.countable
      rw [hrefused.streamed.stream]
      exact hrefused.streamed.complete_reported
    rw [hrefused.streamed.stream] at hcountable
    rw [finalState, hrun] at htimes
    exact absurd hcountable (hrefused.refused htimes)
  · have htwins := hfollows.of_ok hrun
    rw [finalState, hrun] at htimes
    have hsame : SameTimes c c' := (htimes.eq_of_length htwins.readings.symm).symm
    have hreported : (c.reported config).map SyscallEvent.bare =
        (c'.reported config).map SyscallEvent.bare := reported_bare (htwins.records hsame)
    have haggregates : Aggregates c.stream c'.stats := by
      rw [htwins.streamed.stream, ← aggregates_bare, hreported, aggregates_bare]
      exact htwins.summed.aggregates
    have hcounted : c.event_count = c.stream.length := by
      rw [htwins.streamed.stream]
      exact htwins.streamed.counted
    have hcounted' : c'.event_count = c.stream.length := by
      rw [htwins.summed.counted, htwins.streamed.stream]
      simpa using (congrArg List.length hreported).symm
    refine ⟨c', rfl, ?_, haggregates.total_calls, haggregates.total_errors, ?_, ?_, ?_⟩
    · rw [haggregates.rows]
      apply List.map_congr_left
      intro number _
      exact (hfits.stream_row number).symm
    · rw [haggregates.total_nanoseconds, hfits.durations _ fun _ h => h]
    · rw [hcounted', haggregates.total_calls]
    · rw [hcounted, haggregates.total_calls]

/-- A failed `read` and a `write`. -/
def read_and_write : List (Pid × CallStop) :=
  [(100, .entry 0 (Vector.replicate 6 7)), (100, .exit (-4) true),
    (100, .entry 1 (Vector.replicate 6 7)), (100, .exit 4 false)]

/-- With `-c` fewer questions are asked: the clock that shows the same times. -/
def Env.adjusted : Env :=
  { Env.reliable with clock := fun n => some ⟨if n % 3 = 2 then n + 1 else n, 0⟩ }

/-- The statistics of a failed `read` and a `write`, each of which takes two seconds. -/
theorem summary_of_read_and_write : ∃ c',
    (run_calls ((Config.plain .SG_FORMAT_NDJSON).summing .SG_FORMAT_JSON) .adjusted
      read_and_write).exec (.launched 100) = (.ok (), c') ∧
    c'.stats.rows = [⟨0, 1, 1, 2000000000⟩, ⟨1, 1, 0, 2000000000⟩] ∧ c'.event_count = 2 := by
  have hstart : (Context.launched 100).Unreported :=
    ⟨by decide +kernel, by decide +kernel, by decide +kernel, by decide +kernel⟩
  have hadjusted : Env.adjusted.Succeeds :=
    ⟨fun _ => rfl, fun _ => rfl, fun _ => rfl, fun _ => rfl, fun _ _ _ => rfl⟩
  have hstream : (run_calls (.plain .SG_FORMAT_NDJSON) .reliable read_and_write).exec
      (.launched 100) = (.ok (), _) := exec_of_succeeds (by decide +kernel)
  obtain ⟨c', hrun, hrows, hcalls, -, -, hcount, -⟩ :=
    summary_of_stream .SG_FORMAT_JSON rfl hadjusted hstart read_and_write hstream
      (by decide +kernel)
      ⟨by decide +kernel, by decide +kernel, by decide +kernel, by decide +kernel⟩
  refine ⟨c', hrun, ?_, ?_⟩
  · rw [hrows]
    decide +kernel
  · rw [hcount, hcalls]
    decide +kernel

end runs

end Sysgaze
