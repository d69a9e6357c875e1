import Sysgaze.Rounds

/-! # Restart pseudo-errors are never reported

    A call that is interrupted ends with one of the results `-512`, `-513`,
    `-514` and `-516`, which no program ever sees.  Whatever numbers, arguments
    and results the stops of any tasks carry, no such result reaches a record,
    and a call that is written as unfinished has no result at all.

    The invariant: a call that is still pending or interrupted is blank, and
    the histories of a context hold presentable records only.  The first half
    is broken for one task while its call is completed, which is why the flush
    leaves this task out.
-/

open Fallible

namespace Sysgaze

/-- The error numbers of the restart results. -/
def is_restart_error (error_number : Int) : Bool :=
  error_number == 512 || error_number == 513 || error_number == 514 || error_number == 516

/-- What a completed record may say. -/
structure SyscallEvent.Presentable (event : SyscallEvent) : Prop where
  completed : event.completed = true
  result : is_restart_result event.result = false
  error_number : is_restart_error event.error_number = false
  error_nonneg : 0 ≤ event.error_number
  error_negative : event.error_number ≠ 0 → event.result < 0

/-- A call without a result. -/
structure SyscallEvent.Blank (event : SyscallEvent) : Prop where
  result : event.result = 0
  error_number : event.error_number = 0

/-- An event about a call that has not completed says nothing about how it ended. -/
def Event.Silent (event : Event) : Prop :=
  ∀ call, event.data = .syscall call → call.completed = false → call.Blank

/-- The records and events so far are fit to be seen. -/
structure Context.Clean (c : Context) : Prop where
  records : ∀ record ∈ c.records, record.2.Presentable
  emitted : ∀ event ∈ c.emitted, event.Silent

/-- The calls of a record have no result. -/
structure Tracee.Blank (tracee : Tracee) : Prop where
  pending : tracee.has_pending_syscall = true → tracee.pending_syscall.Blank
  interrupted : tracee.has_interrupted_syscall = true → tracee.interrupted_syscall.Blank

/-- The calls of every task but one have no result. -/
def Context.BlankBut (c : Context) (tid : Pid) : Prop :=
  ∀ tracee, c.tracees.lookup tracee.tid = some tracee → tracee.tid ≠ tid → tracee.Blank

/-- The calls of every task have no result. -/
def Context.Blank (c : Context) : Prop :=
  ∀ tracee, c.tracees.lookup tracee.tid = some tracee → tracee.Blank

/-- **The invariant** between two stops. -/
structure Context.Steady (c : Context) : Prop where
  clean : c.Clean
  blank : c.Blank

/-- No task has a call, and nothing has been recorded. -/
structure Context.Idle (c : Context) : Prop where
  calls : ∀ tracee, c.tracees.lookup tracee.tid = some tracee → tracee.calls = .idle
  records : c.records = []
  emitted : c.emitted = []

/-- Stops of any tasks, one after the other, up to the first that fails. -/
def run_calls (config : Config) (env : Env) (stops : List (Pid × CallStop)) : TraceM Unit :=
  stops.forM fun stop => run_stop config env stop.1 stop.2

section clean
variable {config : Config} {env : Env} {c c' : Context} {tracee new : Tracee} {tid : Pid}

theorem Context.Clean.of_eq (h : c.Clean) (hrecords : c'.records = c.records)
    (hemitted : c'.emitted = c.emitted) : c'.Clean :=
  ⟨by rw [hrecords]; exact h.records, by rw [hemitted]; exact h.emitted⟩

theorem Context.Clean.write (h : c.Clean) (tracee : Tracee) :
    ({ c with tracees := c.tracees.write tracee } : Context).Clean := h.of_eq rfl rfl

theorem Context.Blank.but (h : c.Blank) (tid : Pid) : c.BlankBut tid := by
  intro tracee hold _
  exact h tracee hold

/-- Storing the record of the task that is left out. -/
theorem Context.BlankBut.write (h : c.BlankBut tid) (htid : new.tid = tid) :
    ({ c with tracees := c.tracees.write new } : Context).BlankBut tid := by
  intro other hother hne
  apply h other _ hne
  rwa [Tracees.lookup_write, if_neg (by rw [htid]; exact fun h => hne h.1)] at hother

/-- The record of the task that is left out has been stored. -/
theorem Context.BlankBut.stored (h : c.BlankBut tid) (htid : new.tid = tid)
    (heq : c'.tracees = c.tracees.write new) : c'.BlankBut tid := by
  intro other hother
  rw [heq] at hother
  exact h.write htid other hother

theorem Context.BlankBut.of_eq (h : c.BlankBut tid) (heq : c'.tracees = c.tracees) :
    c'.BlankBut tid := by
  intro other hother
  rw [heq] at hother
  exact h other hother

/-! ### The writers -/

theorem clock_gettime_clean (h : c.Clean) :
    Holds (clock_gettime env) c (fun _ c' => c'.Clean ∧ c'.tracees = c.tracees)
      (fun _ c' => c'.Clean) := by
  unfold clock_gettime
  simp only [holds_bind, holds_context_ask]
  cases env.clock c.asked with
  | some now => exact ⟨h.of_eq rfl rfl, rfl⟩
  | none => exact h.of_eq rfl rfl

theorem emit_event_clean (h : c.Clean) {event : Event} (hsilent : event.Silent) :
    Holds (emit_event config env event) c (fun _ c' => c'.Clean ∧ c'.tracees = c.tracees)
      (fun _ c' => c'.Clean) := by
  unfold emit_event
  rw [holds_bind, holds_modify, holds_zoom]
  have hclean : ∀ output : Output,
      ({ c with emitted := c.emitted ++ [event], output := output } : Context).Clean := by
    intro output
    refine ⟨h.records, ?_⟩
    intro other hother
    obtain hother | hother := List.mem_append.mp hother
    · exact h.emitted other hother
    · rw [List.mem_singleton.mp hother]
      exact hsilent
  apply (sg_output_write_event_spec event).mono
  · intro _ output _
    exact ⟨hclean output, rfl⟩
  · intro _ output _
    exact hclean output

/-- The flush writes calls of other tasks, which have no result. -/
theorem flush_unfinished_syscalls_clean (h : c.Clean) (hblank : c.BlankBut tid) :
    Holds (flush_unfinished_syscalls config env tid) c
      (fun _ c' => c'.Clean ∧ c'.tracees = c.tracees) (fun _ c' => c'.Clean) := by
  unfold flush_unfinished_syscalls
  by_cases hsummary : config.summary = true
  · rw [if_pos hsummary]
    exact ⟨h, rfl⟩
  · rw [if_neg hsummary, holds_bind, holds_get]
    apply holds_forM
    · intro tracee hmem c₁ hpost
      rcases hpost with ⟨h₁, htracees⟩
      have hold : c.tracees.lookup tracee.tid = some tracee := Tracees.mem_records.mp hmem
      unfold flush_tracee
      by_cases hexcept : tracee.tid = tid
      · rw [if_pos hexcept]
        exact ⟨h₁, htracees⟩
      · rw [if_neg hexcept]
        cases hcall : tracee.current_call with
        | none => exact ⟨h₁, htracees⟩
        | some call =>
          dsimp only
          split
          · exact ⟨h₁, htracees⟩
          · have hb := hblank tracee hold hexcept
            have hcallblank : call.Blank := by
              unfold Tracee.current_call at hcall
              split at hcall
              · rename_i hpending
                rw [← Option.some.inj hcall]
                exact hb.pending hpending
              · split at hcall
                · rename_i hinterrupted
                  rw [← Option.some.inj hcall]
                  exact hb.interrupted hinterrupted
                · simp at hcall
            have hsilent : (unfinished_event tracee call).Silent := by
              intro shown hshown _
              unfold unfinished_event at hshown
              rw [EventData.syscall.injEq] at hshown
              rw [← hshown]
              exact ⟨hcallblank.result, hcallblank.error_number⟩
            apply (emit_event_clean h₁ hsilent).mono
            · intro _ c₂ hpost
              rcases hpost with ⟨h₂, heq⟩
              exact ⟨h₂, heq.trans htracees⟩
            · intro _ _ h
              exact h
    · exact ⟨h, rfl⟩

/-- A presentable call is written. -/
theorem write_syscall_clean (h : c.Clean) (hblank : c.BlankBut tracee.tid) {event : SyscallEvent}
    (hevent : event.Presentable) :
    Holds (write_syscall config env tracee event) c
      (fun _ c' => c'.Clean ∧ c'.tracees = c.tracees) (fun _ c' => c'.Clean) := by
  have hnoted : ({ c with records := c.records ++ [(tracee.tid, event)] } : Context).Clean := by
    refine ⟨?_, h.emitted⟩
    intro record hrecord
    obtain hrecord | hrecord := List.mem_append.mp hrecord
    · exact h.records record hrecord
    · rw [List.mem_singleton.mp hrecord]
      exact hevent
  have hsilent : (syscall_event tracee event).Silent := by
    intro call hcall hincomplete
    unfold syscall_event at hcall
    rw [EventData.syscall.injEq] at hcall
    rw [← hcall, hevent.completed] at hincomplete
    simp at hincomplete
  unfold write_syscall
  rw [holds_bind, holds_modify, holds_ite]
  refine ⟨fun _ => ⟨hnoted, rfl⟩, fun _ => ?_⟩
  rw [holds_bind, holds_modify, holds_ite]
  constructor
  · intro _
    simp only [holds_bind, holds_context_ask, holds_get, holds_set, holds_ite, holds_throw,
      holds_pure]
    exact ⟨fun _ => hnoted.of_eq rfl rfl, fun _ => ⟨hnoted.of_eq rfl rfl, trivial⟩⟩
  · intro _
    rw [holds_bind]
    have hcounted : ({ c with
        records := c.records ++ [(tracee.tid, event)]
        event_count := c.event_count + 1 } : Context).Clean := hnoted.of_eq rfl rfl
    apply (flush_unfinished_syscalls_clean hcounted (hblank.of_eq rfl)).mono
    · intro _ c₁ hpost
      rcases hpost with ⟨h₁, htracees⟩
      apply (emit_event_clean h₁ hsilent).mono
      · intro _ c₂ hpost
        rcases hpost with ⟨h₂, htracees'⟩
        exact ⟨h₂, htracees'.trans htracees⟩
      · intro _ _ h
        exact h
    · intro _ _ h
      exact h

/-! ### The blocks that complete a call -/

theorem exec_done_presentable (event : SyscallEvent) (exited_at : Timespec) :
    (event.exec_done exited_at).Presentable :=
  ⟨rfl, rfl, rfl, le_refl 0, fun h => absurd rfl h⟩

theorem not_restarted_presentable (event : SyscallEvent) (exited_at : Timespec) :
    (event.not_restarted exited_at).Presentable :=
  ⟨rfl, rfl, rfl, Int.zero_le_ofNat 4, fun _ => Int.negSucc_lt_zero 0⟩

/-- A result that is no restart result gives no restart error. -/
theorem finished_presentable (event : SyscallEvent) {rval : Int} (is_error : Bool)
    (exited_at : Timespec) (hrval : is_restart_result rval = false) :
    (event.finished rval is_error exited_at).Presentable := by
  simp only [is_restart_result, Bool.or_eq_false_iff, beq_eq_false_iff_ne] at hrval
  have herror : exit_error rval is_error = -rval ∧ rval < 0 ∨ exit_error rval is_error = 0 := by
    unfold exit_error
    split
    · rename_i h
      exact Or.inl ⟨rfl, h.2.1⟩
    · exact Or.inr rfl
  refine ⟨rfl, ?_, ?_, ?_, ?_⟩
  · show is_restart_result rval = false
    simpa [is_restart_result] using hrval
  · show is_restart_error (exit_error rval is_error) = false
    simp only [is_restart_error, Bool.or_eq_false_iff, beq_eq_false_iff_ne]
    omega
  · show 0 ≤ exit_error rval is_error
    omega
  · intro hne
    have hne : exit_error rval is_error ≠ 0 := hne
    show rval < 0
    omega

/-- The record of the task is stored, and its call is written. -/
theorem write_stored_clean (h : c.Clean) (hblank : c.BlankBut tracee.tid) (htid : new.tid = tracee.tid)
    {event : SyscallEvent} (hevent : event.Presentable) :
    Holds (write_syscall config env tracee event) { c with tracees := c.tracees.write new }
      (fun _ c' => c'.Clean ∧ c'.BlankBut tracee.tid) (fun _ c' => c'.Clean) := by
  apply (write_syscall_clean (h.write new) (hblank.write htid) hevent).mono
  · intro _ c' hpost
    rcases hpost with ⟨h', htracees⟩
    exact ⟨h', hblank.stored htid htracees⟩
  · intro _ _ h
    exact h

/-- Once the record of the task is blank again, every record is. -/
theorem Context.Clean.steady (h : c.Clean) (hblank : c.BlankBut new.tid) (hnew : new.Blank) :
    ({ c with tracees := c.tracees.write new } : Context).Steady := by
  refine ⟨h.write new, ?_⟩
  intro other hother
  rw [Tracees.lookup_write] at hother
  split at hother
  · rw [Option.some.injEq] at hother
    exact hother ▸ hnew
  · rename_i hne
    by_cases htid : other.tid = new.tid
    · -- The task is not in the table.
      have hnone : (c.tracees.lookup new.tid).isSome = false := by
        rw [Bool.eq_false_iff]
        exact fun hsome => hne ⟨htid, hsome⟩
      rw [htid] at hother
      rw [hother] at hnone
      simp at hnone
    · exact hblank other hother htid

/-- The pending call is released, and the record is stored without it. -/
theorem Context.Clean.settled (h : c.Clean) (hblank : c.BlankBut tracee.tid)
    (hinterrupted : tracee.has_interrupted_syscall = true → tracee.interrupted_syscall.Blank)
    (event released : SyscallEvent) :
    ({ c.release event with
      tracees := c.tracees.write
        { tracee with
          pending_syscall := released
          has_pending_syscall := false
          phase := .SG_TRACEE_STOPPED } } : Context).Steady := by
  have hnew : ({ tracee with
      pending_syscall := released
      has_pending_syscall := false
      phase := .SG_TRACEE_STOPPED } : Tracee).Blank := by
    refine ⟨fun h => ?_, hinterrupted⟩
    simp at h
  have hreleased : (c.release event).Clean := h.of_eq rfl rfl
  exact hreleased.steady (hblank.of_eq rfl) hnew

theorem end_call_clean (h : c.Steady) {event : SyscallEvent}
    {keep leave : Tracee → SyscallEvent → Tracee}
    (hevent : ∀ exited_at, ({ event with exited_at := exited_at } : SyscallEvent).Presentable)
    (hkeep : ∀ event, (keep tracee event).tid = tracee.tid)
    (hleave : ∀ event, (leave tracee event).Blank ∧ (leave tracee event).tid = tracee.tid) :
    Holds (end_call config env tracee event keep leave) c
      (fun new c' => c'.Steady ∧ new.Blank ∧ new.tid = tracee.tid) (fun _ c' => c'.Clean) := by
  unfold end_call
  simp only [holds_bind, holds_store, holds_release, holds_pure]
  apply (clock_gettime_clean (h.clean.write _)).mono
  · intro exited_at c₁ hpost
    rcases hpost with ⟨h₁, htracees⟩
    have hblank₁ : c₁.BlankBut tracee.tid := (h.blank.but _).stored (hkeep event) htracees
    apply (write_stored_clean h₁ hblank₁ (hkeep _) (hevent exited_at)).mono
    · intro _ c₂ hpost
      rcases hpost with ⟨h₂, hblank₂⟩
      obtain ⟨hnew, htid⟩ := hleave
        ({ event with exited_at := exited_at } : SyscallEvent).without_texts
      have hblank : c₂.BlankBut (leave tracee
          ({ event with exited_at := exited_at } : SyscallEvent).without_texts).tid := by
        rw [htid]
        exact hblank₂
      exact ⟨Context.Clean.steady (h₂.of_eq rfl rfl) (hblank.of_eq rfl) hnew, hnew, htid⟩
    · intro _ _ h
      exact h
  · intro _ _ h
    exact h

theorem complete_exec_clean (h : c.Steady) (hold : tracee.Blank) :
    Holds (complete_exec config env tracee) c
      (fun new c' => c'.Steady ∧ new.Blank ∧ new.tid = tracee.tid) (fun _ c' => c'.Clean) := by
  rw [complete_exec_eq]
  apply end_call_clean h (exec_done_presentable tracee.pending_syscall) fun _ => rfl
  intro event
  refine ⟨⟨fun hpending => ?_, hold.interrupted⟩, rfl⟩
  simp at hpending

theorem report_interrupted_clean (h : c.Steady) (hold : tracee.Blank) :
    Holds (report_interrupted config env tracee) c
      (fun new c' => c'.Steady ∧ new.Blank ∧ new.tid = tracee.tid) (fun _ c' => c'.Clean) := by
  rw [report_interrupted_eq]
  split
  · apply end_call_clean h (not_restarted_presentable tracee.interrupted_syscall) fun _ => rfl
    intro event
    refine ⟨⟨hold.pending, fun hinterrupted => ?_⟩, rfl⟩
    simp at hinterrupted
  · exact ⟨h, hold, rfl⟩

/-- A call that is entered has no result yet. -/
theorem make_call_clean (h : c.Clean) (number : UInt64) (arguments : Vector UInt64 6) :
    Holds (make_call config env tracee number arguments) c
      (fun event c' => event.Blank ∧ c'.Clean ∧ c'.tracees = c.tracees) (fun _ c' => c'.Clean) := by
  unfold make_call
  rw [holds_ite]
  constructor
  · intro _
    rw [holds_bind]
    apply (clock_gettime_clean h).mono
    · intro entered_at c₁ hpost
      rcases hpost with ⟨h₁, htracees⟩
      rw [holds_ite]
      refine ⟨fun _ => ⟨⟨rfl, rfl⟩, h₁, htracees⟩, fun _ => ?_⟩
      unfold sg_decoder_capture_entry
      simp only [holds_bind, holds_context_ask]
      split
      · exact ⟨⟨rfl, rfl⟩, h₁.of_eq rfl rfl, htracees⟩
      · exact h₁.of_eq rfl rfl
    · intro _ _ h
      exact h
  · intro _
    exact ⟨⟨rfl, rfl⟩, h, rfl⟩

theorem enter_call_clean (h : c.Steady) (hold : tracee.Blank) (number : UInt64)
    (arguments : Vector UInt64 6) :
    Holds (enter_call config env tracee number arguments) c (fun _ c' => c'.Steady)
      (fun _ c' => c'.Clean) := by
  have hentered : ∀ {event : SyscallEvent}, event.Blank → (tracee.entered event).Blank :=
    fun hevent => ⟨fun _ => hevent, hold.interrupted⟩
  unfold enter_call
  simp only [holds_bind]
  apply (make_call_clean h.clean number arguments).mono
  · intro event c₁ hpost
    rcases hpost with ⟨hevent, h₁, htracees⟩
    have hblank₁ : c₁.BlankBut tracee.tid := (h.blank.but _).of_eq htracees
    rw [holds_ite]
    constructor
    · intro _
      rw [holds_bind, holds_onError]
      apply (flush_unfinished_syscalls_clean h₁ hblank₁).mono
      · intro _ c₂ hpost
        rcases hpost with ⟨h₂, htracees₂⟩
        exact h₂.steady (hblank₁.of_eq htracees₂) (hentered hevent)
      · intro _ c₂ h₂
        exact h₂.of_eq rfl rfl
    · intro _
      exact h₁.steady hblank₁ (hentered hevent)
  · intro _ _ h
    exact h

theorem restart_call_clean (h : c.Steady) (hold : tracee.Blank)
    (hinterrupted : tracee.has_interrupted_syscall = true) :
    Holds (restart_call config env tracee) c (fun _ c' => c'.Steady) (fun _ c' => c'.Clean) := by
  unfold restart_call
  rw [holds_bind]
  apply (flush_unfinished_syscalls_clean h.clean (h.blank.but _)).mono
  · intro _ c₁ hpost
    rcases hpost with ⟨h₁, htracees⟩
    have hnew : tracee.restarted.Blank := by
      refine ⟨fun _ => hold.interrupted hinterrupted, fun h => ?_⟩
      simp [Tracee.restarted] at h
    exact h₁.steady ((h.blank.but _).of_eq htracees) hnew
  · intro _ _ h
    exact h

theorem complete_call_clean (h : c.Steady) (hold : tracee.Blank) {rval : Int} (is_error : Bool)
    (hrval : is_restart_result rval = false) :
    Holds (complete_call config env tracee rval is_error) c (fun _ c' => c'.Steady)
      (fun _ c' => c'.Clean) := by
  have hstamp : ∀ event : SyscallEvent, ∀ {c₁ : Context}, c₁.Clean →
      Holds (stamp_exit config env event) c₁
        (fun stamped c' => (∃ exited_at, stamped = { event with exited_at := exited_at }) ∧
          c'.Clean ∧ c'.tracees = c₁.tracees)
        (fun _ c' => c'.Clean) := by
    intro event c₁ h₁
    unfold stamp_exit
    split
    · rw [holds_bind]
      apply (clock_gettime_clean h₁).mono
      · intro exited_at c₂ hpost
        rcases hpost with ⟨h₂, htracees⟩
        exact ⟨⟨exited_at, rfl⟩, h₂, htracees⟩
      · intro _ _ h
        exact h
    · exact ⟨⟨event.exited_at, rfl⟩, h₁, rfl⟩
  have hsettle : ∀ {t : Tracee} {c₁ : Context}, t.tid = tracee.tid →
      (t.has_interrupted_syscall = true → t.interrupted_syscall.Blank) → c₁.Clean →
      c₁.BlankBut tracee.tid →
      Holds (settle_interrupted t) c₁
        (fun t' c' => t'.tid = tracee.tid ∧
          (t'.has_interrupted_syscall = true → t'.interrupted_syscall.Blank) ∧
          c'.Clean ∧ c'.BlankBut tracee.tid)
        (fun _ c' => c'.Clean) := by
    intro t c₁ htid ht h₁ hblank₁
    unfold settle_interrupted
    split
    · rename_i hinterrupted
      split
      · exact ⟨htid, ht, h₁, hblank₁⟩
      · split
        · refine ⟨htid, fun h => ?_, h₁.of_eq rfl rfl, hblank₁.of_eq rfl⟩
          simp at h
        · exact ⟨htid, ht, h₁, hblank₁⟩
    · exact ⟨htid, ht, h₁, hblank₁⟩
  unfold complete_call
  simp only [holds_bind, holds_store, holds_release]
  apply (hstamp _ (h.clean.write _)).mono
  · intro stamped c₁ hpost
    rcases hpost with ⟨⟨exited_at, hstamped⟩, h₁, htracees⟩
    have hblank₁ : c₁.BlankBut tracee.tid := (h.blank.but _).stored (by rfl) htracees
    rw [hstamped]
    apply (write_stored_clean h₁ hblank₁ (by rfl)
      (finished_presentable tracee.pending_syscall is_error exited_at hrval)).mono
    · intro _ c₂ hpost
      rcases hpost with ⟨h₂, hblank₂⟩
      apply (hsettle (by rfl) (by exact hold.interrupted) h₂ hblank₂).mono
      · intro settled c₃ hpost
        rcases hpost with ⟨htid, hsettled, h₃, hblank₃⟩
        rw [← htid] at hblank₃
        exact h₃.settled hblank₃ hsettled _ _
      · intro _ _ h
        exact h
    · intro _ _ h
      exact h
  · intro _ _ h
    exact h

/-! ### The stops -/

theorem begin_syscall_clean (h : c.Steady) (hold : tracee.Blank) (number : UInt64)
    (arguments : Vector UInt64 6) :
    Holds (begin_syscall config env tracee number arguments) c (fun _ c' => c'.Steady)
      (fun _ c' => c'.Clean) := by
  have hafter : ∀ {mid : Tracee} {c₁ : Context}, c₁.Steady → mid.Blank →
      Holds (if mid.restarts number.toNat then restart_call config env mid
        else do
          let mid ← report_interrupted config env mid
          enter_call config env mid number arguments) c₁
        (fun _ c' => c'.Steady) (fun _ c' => c'.Clean) := by
    intro mid c₁ h₁ hmid
    rw [holds_ite]
    constructor
    · intro hrestarts
      simp only [Tracee.restarts, Bool.and_eq_true] at hrestarts
      exact restart_call_clean h₁ hmid hrestarts.1.1
    · intro _
      rw [holds_bind]
      apply (report_interrupted_clean h₁ hmid).mono
      · intro mid' c₂ hpost
        rcases hpost with ⟨h₂, hmid', _⟩
        exact enter_call_clean h₂ hmid' number arguments
      · intro _ _ h
        exact h
  unfold begin_syscall
  rw [holds_ite]
  refine ⟨fun _ => h.clean, fun _ => ?_⟩
  rw [holds_bind]
  unfold leave_pending
  rw [holds_ite]
  constructor
  · intro _
    rw [holds_ite]
    refine ⟨fun _ => ?_, fun _ => h.clean⟩
    apply (complete_exec_clean h hold).mono
    · intro mid c₁ hpost
      rcases hpost with ⟨h₁, hmid, _⟩
      exact hafter h₁ hmid
    · intro _ _ h
      exact h
  · intro _
    exact hafter h hold

theorem finish_syscall_clean (h : c.Steady) (hold : tracee.Blank) (rval : Int) (is_error : Bool) :
    Holds (finish_syscall config env tracee rval is_error) c (fun _ c' => c'.Steady)
      (fun _ c' => c'.Clean) := by
  unfold finish_syscall
  rw [holds_ite]
  constructor
  · intro _
    exact h.clean.steady (h.blank.but _) ⟨hold.pending, hold.interrupted⟩
  · intro hpending
    rw [holds_ite]
    constructor
    · intro _
      have hpending : tracee.has_pending_syscall = true := by simpa using hpending
      have hnew : tracee.interrupted.Blank := by
        refine ⟨fun h => ?_, fun _ => hold.pending hpending⟩
        simp [Tracee.interrupted] at h
      unfold interrupt_call
      dsimp only
      rw [holds_ite]
      constructor
      · intro _
        have hreleased : (c.release tracee.interrupted_syscall).Clean := h.clean.of_eq rfl rfl
        exact hreleased.steady ((h.blank.but _).of_eq rfl) hnew
      · intro _
        exact h.clean.steady (h.blank.but _) hnew
    · intro hrval
      exact complete_call_clean h hold is_error (by simpa using hrval)

theorem handle_exec_event_clean (h : c.Steady) (hold : tracee.Blank) :
    Holds (handle_exec_event config env tracee) c (fun _ c' => c'.Steady)
      (fun _ c' => c'.Clean) := by
  -- Only the root's flag changes before the call is completed.
  have h₀ : (c.exec_observed tracee).Steady := by
    unfold Context.exec_observed
    split
    · exact ⟨h.clean.of_eq rfl rfl, h.blank⟩
    · exact h
  rw [holds_handle_exec_event]
  constructor
  · intro _
    apply (complete_exec_clean h₀ hold).mono
    · intro mid c₁ hpost
      rcases hpost with ⟨h₁, hmid, _⟩
      have hnew : ({ mid with phase := .SG_TRACEE_STOPPED, newborn := false } : Tracee).Blank :=
        ⟨hmid.pending, hmid.interrupted⟩
      exact h₁.clean.steady (h₁.blank.but _) hnew
    · intro _ _ h
      exact h
  · intro _
    have hnew : ({ tracee with newborn := false } : Tracee).Blank :=
      ⟨hold.pending, hold.interrupted⟩
    exact h₀.clean.steady (h₀.blank.but _) hnew

/-- **One stop** keeps the invariant, or fails with clean histories. -/
theorem run_stop_clean (h : c.Steady) (tid : Pid) (stop : CallStop) :
    Holds (run_stop config env tid stop) c (fun _ c' => c'.Steady) (fun _ c' => c'.Clean) := by
  unfold run_stop
  rw [holds_bind, holds_get, Tracees.get_eq]
  cases hfound : c.tracees.lookup tid with
  | none => exact h
  | some tracee =>
    have htid := Tracees.lookup_tid hfound
    have hold : tracee.Blank := h.blank tracee (by rw [htid]; exact hfound)
    cases stop with
    | entry number arguments => exact begin_syscall_clean h hold number arguments
    | exit rval is_error => exact finish_syscall_clean h hold rval is_error
    | exec => exact handle_exec_event_clean h hold

end clean

/-! ### Every run -/

section runs
variable {config : Config} {env : Env} {start : Context}

/-- **Restart pseudo-errors are never reported.**  Whatever the stops of any tasks are, up
    to the first that fails: every record passed to `write_syscall` is presentable, and no
    call is written as unfinished with a result or an error. -/
theorem records_presentable (hidle : start.Idle) (stops : List (Pid × CallStop)) :
    (∀ record ∈ (finalState (run_calls config env stops) start).records, record.2.Presentable) ∧
    ∀ event ∈ (finalState (run_calls config env stops) start).emitted, event.Silent := by
  have hsteady : start.Steady := by
    refine ⟨⟨by simp [hidle.records], by simp [hidle.emitted]⟩, ?_⟩
    intro tracee hold
    have hcalls := hidle.calls tracee hold
    unfold Tracee.calls Calls.idle at hcalls
    simp only [Calls.mk.injEq, ite_eq_right_iff, reduceCtorEq, imp_false] at hcalls
    exact ⟨fun h => absurd h hcalls.1, fun h => absurd h hcalls.2.1⟩
  have hrun : Holds (run_calls config env stops) start (fun _ c' => c'.Steady)
      (fun _ c' => c'.Clean) :=
    holds_forM stops _ (fun stop _ c h => run_stop_clean h stop.1 stop.2) hsteady
  have hclean : (finalState (run_calls config env stops) start).Clean := by
    apply Holds.at_end
    apply hrun.mono
    · intro _ _ h
      exact h.clean
    · intro _ _ h
      exact h
  exact ⟨hclean.records, hclean.emitted⟩

/-- A `read` that is interrupted by a handler and not restarted: its record says `EINTR`. -/
theorem records_presentable_read :
    (finalState (run_calls (.plain .SG_FORMAT_TEXT) .reliable
        [(100, .entry 0 (Vector.replicate 6 7)), (100, .exit (-512) true),
          (100, .entry 15 (Vector.replicate 6 7)), (100, .exit 0 false),
          (100, .entry 1 (Vector.replicate 6 7)), (100, .exit 4 false)])
        (.launched 100)).records.map (fun record => (record.2.number, record.2.error_number)) =
      [(15, 0), (0, 4), (1, 0)] ∧
    ∀ record ∈ (finalState (run_calls (.plain .SG_FORMAT_TEXT) .reliable
        [(100, .entry 0 (Vector.replicate 6 7)), (100, .exit (-512) true),
          (100, .entry 15 (Vector.replicate 6 7)), (100, .exit 0 false),
          (100, .entry 1 (Vector.replicate 6 7)), (100, .exit 4 false)])
        (.launched 100)).records, record.2.Presentable := by
  have hidle : (Context.launched 100).Idle := by
    refine ⟨?_, by decide +kernel, by decide +kernel⟩
    intro tracee hold
    rw [(launched_spec (by decide)).1] at hold
    split at hold
    · rw [← Option.some.inj hold]
      rfl
    · simp at hold
  exact ⟨by decide +kernel, (records_presentable hidle _).1⟩

end runs

end Sysgaze
