import Sysgaze.Kernel
import Sysgaze.Killing

/-! # Entries and exits alternate

    `begin_syscall` refuses an entry while a call is pending, unless the call is
    an exec.  Which stops come depends on the requests that restart a task, and
    in seccomp mode the request depends on whether a call is pending, so that
    the alternation is a property of the loop and the kernel together.

    `Aligned` is the invariant: a pending call is a call that the kernel is in,
    and in seccomp mode a task is followed into a call only while one is
    pending.  `entry_before_exit_unreachable` draws the conclusion for every run.
-/

open Fallible Stepping

namespace Sysgaze

/-! ### The texts of the errors -/

/-- The error of an entry that comes before the exit of the pending call. -/
abbrev entry_before_exit : String := "received syscall entry before the previous exit"

/-- Another error; the first letters tell them apart. -/
def OtherError (error : String) : Prop := error.toList.head? ≠ some 'r'

theorem OtherError.ne {error : String} (h : OtherError error) : error ≠ entry_before_exit := by
  intro heq
  rw [heq] at h
  exact h (by decide)

section texts
variable {config : Config} {env : Env}

theorem clock_gettime_throws : Throws (clock_gettime env) OtherError := by
  unfold clock_gettime
  apply throws_bind
  · exact fun _ => trivial
  · intro n
    cases env.clock n with
    | none => exact throws_throw (by simp [OtherError, toString])
    | some now => exact throws_bind (throws_modify _) fun _ => throws_pure _

theorem render_throws {message : String} (h : OtherError message) :
    Throws (render env message) OtherError := by
  unfold render
  apply throws_bind
  · exact fun _ => trivial
  · intro n
    exact throws_ite (fun _ => throws_throw h) fun _ => throws_pure _

theorem write_buffer_throws (line : Line) : Throws (write_buffer env line) OtherError := by
  unfold write_buffer
  apply throws_bind
  · exact render_throws (by simp [OtherError])
  · intro _
    apply throws_bind
    · exact fun _ => trivial
    · intro n
      exact throws_ite (fun _ => throws_throw (by simp [OtherError, toString]))
        fun _ => throws_modify _

theorem unfinished_add_throws (tid : Pid) : Throws (unfinished_add env tid) OtherError := by
  unfold unfinished_add
  apply throws_bind throws_get
  intro output
  apply throws_ite
  · exact fun _ => throws_pure _
  · intro _
    apply throws_ite
    · exact fun _ => throws_bind (throws_set _) fun _ => throws_pure _
    · intro _
      apply throws_ite
      · exact fun _ => throws_pure _
      · intro _
        apply throws_bind
        · exact fun _ => trivial
        · intro n
          exact throws_ite (fun _ => throws_pure _)
            fun _ => throws_bind (throws_modify _) fun _ => throws_pure _

theorem unfinished_remove_throws (tid : Pid) : Throws (unfinished_remove tid) OtherError := by
  unfold unfinished_remove
  apply throws_bind throws_get
  intro output
  exact throws_ite (fun _ => throws_bind (throws_set _) fun _ => throws_pure _)
    fun _ => throws_pure _

theorem write_text_syscall_throws (event : Event) (call : SyscallEvent) :
    Throws (write_text_syscall env event call) OtherError := by
  have hmessage : OtherError s!"cannot render syscall {call.number}" := by
    simp [OtherError, toString]
  unfold write_text_syscall
  apply throws_bind throws_get
  intro output
  apply throws_ite
  · intro _
    apply throws_ite
    · exact fun _ => throws_pure _
    · intro _
      apply throws_bind (render_throws hmessage)
      intro _
      apply throws_bind (unfinished_add_throws _)
      intro added
      exact throws_ite (fun _ => throws_throw hmessage) fun _ => write_buffer_throws _
  · intro _
    apply throws_bind (unfinished_remove_throws _)
    intro removed
    exact throws_bind (render_throws hmessage) fun _ => write_buffer_throws _

theorem write_text_event_throws (event : Event) :
    Throws (write_text_event env event) OtherError := by
  have hline : Throws (do
      render env "cannot allocate trace output"
      write_buffer env (.text event)) OtherError :=
    throws_bind (render_throws (by simp [OtherError])) fun _ => write_buffer_throws _
  unfold write_text_event
  cases event.data with
  | syscall call => exact write_text_syscall_throws event call
  | signal _ => exact hline
  | process_start _ => exact hline
  | process_exit _ => exact throws_bind (unfinished_remove_throws _) fun _ => hline

theorem emit_event_throws (event : Event) : Throws (emit_event config env event) OtherError := by
  unfold emit_event
  apply throws_bind (throws_modify _)
  intro _
  apply throws_zoom
  unfold sg_output_write_event
  apply throws_ite
  · exact fun _ => throws_pure _
  · intro _
    apply throws_ite
    · exact fun _ => write_text_event_throws event
    · intro _
      apply throws_ite
      · exact fun _ => throws_pure _
      · exact fun _ => throws_bind (render_throws (by simp [OtherError])) fun _ =>
          write_buffer_throws _

theorem flush_throws (except_tid : Pid) :
    Throws (flush_unfinished_syscalls config env except_tid) OtherError := by
  unfold flush_unfinished_syscalls
  apply throws_ite
  · exact fun _ => throws_pure _
  · intro _
    apply throws_bind throws_get
    intro context
    apply throws_forM
    intro tracee
    unfold flush_tracee
    apply throws_ite
    · exact fun _ => throws_pure _
    · intro _
      cases tracee.current_call with
      | none => exact throws_pure _
      | some call => exact throws_ite (fun _ => throws_pure _) fun _ => emit_event_throws _

theorem write_syscall_throws (tracee : Tracee) (event : SyscallEvent) :
    Throws (write_syscall config env tracee event) OtherError := by
  unfold write_syscall
  apply throws_bind (throws_modify _)
  intro _
  apply throws_ite
  · exact fun _ => throws_pure _
  · intro _
    apply throws_bind (throws_modify _)
    intro _
    apply throws_ite
    · intro _
      apply throws_bind
      · exact fun _ => trivial
      · intro n
        apply throws_bind throws_get
        intro context
        rcases sg_stats_record context.stats event (env.alloc n) with ⟨recorded, stats⟩
        apply throws_bind (throws_set _)
        intro _
        exact throws_ite (fun _ => throws_throw (by simp [OtherError, toString]))
          fun _ => throws_pure _
    · exact fun _ => throws_bind (flush_throws _) fun _ => emit_event_throws _

theorem write_stamped_throws (tracee : Tracee) (data : EventData) :
    Throws (write_stamped config env tracee data) OtherError := by
  unfold write_stamped
  apply throws_bind (flush_throws _)
  intro _
  exact throws_bind clock_gettime_throws fun _ => emit_event_throws _

theorem end_call_throws (tracee : Tracee) (event : SyscallEvent)
    (keep leave : Tracee → SyscallEvent → Tracee) :
    Throws (end_call config env tracee event keep leave) OtherError := by
  unfold end_call
  apply throws_bind (throws_modify _)
  intro _
  apply throws_bind clock_gettime_throws
  intro exited_at
  apply throws_bind (throws_modify _)
  intro _
  apply throws_bind (write_syscall_throws _ _)
  intro _ c
  trivial

theorem complete_exec_throws (tracee : Tracee) :
    Throws (complete_exec config env tracee) OtherError := by
  rw [complete_exec_eq]
  exact end_call_throws _ _ _ _

theorem report_interrupted_throws (tracee : Tracee) :
    Throws (report_interrupted config env tracee) OtherError := by
  rw [report_interrupted_eq]
  exact throws_ite (fun _ => end_call_throws _ _ _ _) fun _ => throws_pure _

theorem restart_call_throws (tracee : Tracee) :
    Throws (restart_call config env tracee) OtherError := by
  unfold restart_call
  exact throws_bind (flush_throws _) fun _ => throws_modify _

theorem make_call_throws (tracee : Tracee) (number : UInt64) (arguments : Vector UInt64 6) :
    Throws (make_call config env tracee number arguments) OtherError := by
  unfold make_call
  apply throws_ite
  · intro _
    apply throws_bind clock_gettime_throws
    intro entered_at
    apply throws_ite
    · exact fun _ => throws_pure _
    · intro _
      unfold sg_decoder_capture_entry
      apply throws_bind
      · exact fun _ => trivial
      · intro n
        dsimp only
        split
        · apply throws_bind (throws_modify _)
          exact fun _ => throws_pure _
        · exact throws_throw (by simp [OtherError])
  · exact fun _ => throws_pure _

theorem enter_call_throws (tracee : Tracee) (number : UInt64) (arguments : Vector UInt64 6) :
    Throws (enter_call config env tracee number arguments) OtherError := by
  unfold enter_call
  apply throws_bind (make_call_throws _ _ _)
  intro event
  apply throws_ite
  · intro _
    exact throws_bind (throws_onError _ (flush_throws _)) fun _ => throws_modify _
  · intro _
    exact throws_bind (throws_pure _) fun _ => throws_modify _

theorem complete_call_throws (tracee : Tracee) (rval : Int) (is_error : Bool) :
    Throws (complete_call config env tracee rval is_error) OtherError := by
  unfold complete_call
  apply throws_bind (throws_modify _)
  intro _
  apply throws_bind
  · unfold stamp_exit
    exact throws_ite (fun _ => throws_bind clock_gettime_throws fun _ => throws_pure _)
      fun _ => throws_pure _
  · intro event
    apply throws_bind (throws_modify _)
    intro _
    apply throws_bind (write_syscall_throws _ _)
    intro _
    apply throws_bind
    · unfold settle_interrupted
      apply throws_ite
      · intro _
        apply throws_ite
        · exact fun _ => throws_pure _
        · intro _
          apply throws_ite
          · intro _ c
            trivial
          · exact fun _ => throws_pure _
      · exact fun _ => throws_pure _
    · intro settled c
      trivial

theorem listen_error_other (tid : Pid) : OtherError (listen_error env tid) := by
  unfold listen_error
  simp [OtherError, toString]

theorem resume_error_other (tracee : Tracee) : OtherError (resume_error config env tracee) := by
  unfold resume_error
  by_cases hsyscall : resume_request config tracee = .PTRACE_SYSCALL
  · simp [OtherError, toString, hsyscall]
  · simp [OtherError, toString, hsyscall]

theorem add_tracee_throws (tid tgid : Pid) (attached newborn : Bool) :
    Throws (add_tracee env tid tgid attached newborn) OtherError := by
  unfold add_tracee
  apply throws_bind
  · exact fun _ => trivial
  · intro n
    apply throws_bind throws_get
    intro context
    rcases context.tracees.insert tid tgid attached (env.alloc n) with ⟨⟨ok, inserted⟩, tracees⟩
    apply throws_bind (throws_set _)
    intro _
    apply throws_ite
    · exact fun _ => throws_throw (by simp [OtherError, toString])
    · intro _
      split
      · exact throws_modify _
      · exact throws_pure _

end texts

/-! ### The pending calls of a table -/

/-- The flags `has_pending_syscall`. -/
def Context.waiting (context : Context) : Pid → Option Bool :=
  fun tid => (context.tracees.lookup tid).map Tracee.has_pending_syscall

/-- From `c` to `c'` the other tasks keep their flags, or have been registered; nothing has
    been restarted. -/
structure Elsewhere (c : Context) (tid : Pid) (c' : Context) : Prop where
  others : ∀ other, other ≠ tid → c'.waiting other = c.waiting other ∨
    c.waiting other = none ∧ c'.waiting other = some false
  restarts : c'.restarts = c.restarts

section elsewhere
variable {config : Config} {c c' c'' : Context} {tracee : Tracee} {tid : Pid}

theorem Context.waiting_eq (hold : c.tracees.lookup tid = some tracee) :
    c.waiting tid = some tracee.has_pending_syscall := by
  unfold Context.waiting
  rw [hold]
  rfl

theorem Elsewhere.refl (c : Context) (tid : Pid) : Elsewhere c tid c := ⟨fun _ _ => Or.inl rfl, rfl⟩

theorem Elsewhere.trans (h : Elsewhere c tid c') (h' : Elsewhere c' tid c'') :
    Elsewhere c tid c'' := by
  refine ⟨fun other ho => ?_, h'.restarts.trans h.restarts⟩
  obtain heq | ⟨hnone, hfalse⟩ := h.others other ho
  · rw [← heq]
    exact h'.others other ho
  · right
    refine ⟨hnone, ?_⟩
    obtain heq' | ⟨hnone', _⟩ := h'.others other ho
    · rw [heq', hfalse]
    · rw [hfalse] at hnone'
      simp at hnone'

theorem restarts_of_requests (h : c'.requests = c.requests) : c'.restarts = c.restarts := by
  unfold Context.restarts
  rw [h]

theorem Elsewhere.of_eq (htracees : c'.tracees = c.tracees) (hrequests : c'.requests = c.requests) :
    Elsewhere c tid c' := by
  refine ⟨fun other _ => Or.inl ?_, restarts_of_requests hrequests⟩
  unfold Context.waiting
  rw [htracees]

theorem Frame.elsewhere (h : Frame c tid c') : Elsewhere c tid c' := by
  refine ⟨fun other ho => Or.inl ?_, restarts_of_requests (congrArg Context.Rest.requests h.rest)⟩
  unfold Context.waiting
  rw [h.others other ho]

theorem Writes.elsewhere {events : List Event} (h : Writes config c events c') :
    Elsewhere c tid c' :=
  .of_eq h.tracees (congrArg Context.Rest.requests h.rest)

/-- A question is no restart. -/
theorem Elsewhere.asking {request : PtraceRequest}
    (hquestion : Request.is_restart ⟨request, tid, 0⟩ = false) :
    Elsewhere c tid (c.asking request tid) := by
  refine ⟨fun _ _ => Or.inl rfl, ?_⟩
  have happend : (c.asking request tid).requests = c.requests ++ [⟨request, tid, 0⟩] := rfl
  unfold Context.restarts
  rw [happend, List.filter_append, List.filter_cons_of_neg (by simp [hquestion])]
  simp

theorem Elsewhere.store (h : Elsewhere c tid c') {t : Tracee} (htid : t.tid = tid) :
    Elsewhere c tid { c' with tracees := c'.tracees.write t } := by
  refine ⟨fun other ho => ?_, h.restarts⟩
  have hsame : ({ c' with tracees := c'.tracees.write t } : Context).waiting other =
      c'.waiting other := by
    unfold Context.waiting
    rw [Tracees.lookup_write, if_neg]
    intro hself
    exact ho (hself.1.trans htid)
  rw [hsame]
  exact h.others other ho

/-- A new task has no pending call. -/
theorem Registers.elsewhere {new tgid : Pid} {attached newborn : Bool}
    (h : Registers c new tgid attached newborn c') : Elsewhere c tid c' := by
  refine ⟨fun other _ => ?_, restarts_of_requests (congrArg Context.Rest.requests h.rest)⟩
  unfold Context.waiting
  rw [h.lookup]
  by_cases hnew : other = new ∧ c.tracees.lookup new = none
  · rw [if_pos hnew, hnew.1, hnew.2]
    exact Or.inr ⟨rfl, rfl⟩
  · rw [if_neg hnew]
    exact Or.inl rfl

/-- The flag of a record that has been stored. -/
theorem waiting_store {t : Tracee} (hknown : (c.tracees.lookup t.tid).isSome) :
    ({ c with tracees := c.tracees.write t } : Context).waiting t.tid =
      some t.has_pending_syscall := by
  apply Context.waiting_eq
  show (c.tracees.write t).lookup t.tid = some t
  rw [Tracees.lookup_write, if_pos ⟨rfl, hknown⟩]

theorem Updates.waiting {events : List Event} (h : Updates config c tracee events c') :
    c'.waiting tracee.tid = some tracee.has_pending_syscall :=
  Context.waiting_eq h.lookup_self

end elsewhere

/-! ### Stops -/

/-- Is a call pending after a stop?  An entry and a seccomp event leave one behind; an exit,
    an exec event and the end of the task leave none. -/
def Stop.pending (stop : Stop) (pending : Bool) : Bool :=
  match stop with
  | .entry | .seccomp => true
  | .exit | .exec _ | .ended => false
  | .child | .other => pending

/-- Does a stop begin a call? -/
def Stop.begins : Stop → Bool
  | .entry | .seccomp => true
  | _ => false

section stops
variable {config : Config} {env : Env} {c c' : Context} {tracee : Tracee}

/-- **An entry** while no call is pending leaves one pending. -/
theorem begin_syscall_pending (hold : c.tracees.lookup tracee.tid = some tracee)
    (hidle : tracee.has_pending_syscall = false) (number : UInt64) (arguments : Vector UInt64 6) :
    Holds (begin_syscall config env tracee number arguments) c
      (fun _ c' => c'.waiting tracee.tid = some true) (fun error _ => OtherError error) := by
  have hleave : leave_pending config env tracee = pure tracee := by
    unfold leave_pending
    rw [hidle]
    rfl
  have henter : ∀ {c₁ : Context} {mid : Tracee}, mid.tid = tracee.tid →
      c₁.tracees.lookup mid.tid = some mid →
      Holds (enter_call config env mid number arguments) c₁
        (fun _ c' => c'.waiting tracee.tid = some true) (fun error _ => OtherError error) := by
    intro c₁ mid htid hold₁
    apply ((enter_call_spec hold₁ number arguments).throwing (enter_call_throws _ _ _)).mono
    · intro _ c₂ hpost
      rcases hpost with ⟨event, events, _, _, hu⟩
      rw [← htid]
      exact hu.waiting
    · intro _ _ h
      exact h
  unfold begin_syscall
  rw [holds_ite]
  refine ⟨fun _ => by simp [OtherError], fun _ => ?_⟩
  rw [holds_bind, hleave, holds_pure, holds_ite]
  constructor
  · intro _
    apply ((restart_call_spec hold).throwing (restart_call_throws _)).mono
    · intro _ c₁ hpost
      rcases hpost with ⟨events, _, hu⟩
      exact hu.waiting
    · intro _ _ h
      exact h
  · intro _
    rw [holds_bind]
    apply ((report_interrupted_spec hold).throwing (report_interrupted_throws _)).mono
    · intro mid c₁ h
      obtain ⟨_, rfl, rfl⟩ | ⟨_, exited_at, events, _, hmid, hu⟩ := h
      · exact henter rfl hold
      · exact henter (by rw [hmid]) hu.lookup_self
    · intro _ _ h
      exact h

/-- **An exit** leaves no call pending. -/
theorem finish_syscall_pending (hold : c.tracees.lookup tracee.tid = some tracee) (rval : Int)
    (is_error : Bool) :
    Holds (finish_syscall config env tracee rval is_error) c
      (fun _ c' => c'.waiting tracee.tid = some false) (fun error _ => OtherError error) := by
  unfold finish_syscall
  cases hpending : tracee.has_pending_syscall with
  | false =>
    have h := waiting_store (c := c) (t := { tracee with phase := .SG_TRACEE_STOPPED })
      (by rw [hold]; rfl)
    rw [hpending] at h
    exact h
  | true =>
    simp only [Bool.not_true, Bool.false_eq_true, if_false]
    rw [holds_ite]
    constructor
    · intro _
      have hinterrupt : Holds (interrupt_call tracee) c
          (fun _ c' => Updates config c tracee.interrupted [] c')
          (fun error _ => OtherError error) := interrupt_call_spec hold
      apply hinterrupt.mono
      · intro _ c' hu
        exact hu.waiting
      · intro _ _ h
        exact h
    · intro _
      apply ((complete_call_spec hold rval is_error).throwing (complete_call_throws _ _ _)).mono
      · intro _ c' hpost
        rcases hpost with ⟨exited_at, events, _, hu⟩
        have htid : (tracee.completed (tracee.pending_syscall.finished rval is_error
            exited_at)).tid = tracee.tid := congrArg Shell.tid (Tracee.completed_shell tracee _)
        rw [← htid]
        exact hu.waiting
      · intro _ _ h
        exact h

/-- A system call stop: the stop that is read off the answer. -/
theorem handle_syscall_stop_pending (hold : c.tracees.lookup tracee.tid = some tracee)
    (ptrace_event : Nat) (answers : Answers)
    (hidle : (WaitStatus.stop (.stopped SYSCALL_STOP ptrace_event) answers).begins = true →
      tracee.has_pending_syscall = false) :
    Holds (handle_syscall_stop config env tracee answers.syscall_info) c
      (fun _ c' => Elsewhere c tracee.tid c' ∧ c'.waiting tracee.tid =
        some ((WaitStatus.stop (.stopped SYSCALL_STOP ptrace_event) answers).pending
          tracee.has_pending_syscall))
      (fun error _ => OtherError error) := by
  have h₀ : Elsewhere c tracee.tid (c.asking .PTRACE_GET_SYSCALL_INFO tracee.tid) := .asking rfl
  have hold₀ : (c.asking .PTRACE_GET_SYSCALL_INFO tracee.tid).tracees.lookup tracee.tid =
      some tracee := hold
  unfold handle_syscall_stop
  rw [holds_bind, holds_measured_ptrace]
  show Holds _ (c.asking .PTRACE_GET_SYSCALL_INFO tracee.tid) _ _
  unfold WaitStatus.stop at hidle ⊢
  dsimp only at hidle ⊢
  rw [if_pos rfl] at hidle ⊢
  generalize answers.syscall_info = answer at hidle ⊢
  cases answer with
  | none => simp [OtherError, toString]
  | some info =>
    dsimp only at hidle
    simp only [holds_ite, holds_throw]
    refine ⟨fun _ => by simp [OtherError], fun _ => ⟨fun _ => by simp [OtherError, toString],
      fun _ => ⟨fun hentry => ⟨fun _ => by simp [OtherError], fun _ => ?_⟩, fun hentry =>
        ⟨fun hexit => ⟨fun _ => by simp [OtherError], fun _ => ?_⟩, fun _ =>
          by simp [OtherError, toString]⟩⟩⟩⟩
    · rw [if_pos hentry] at hidle ⊢
      have hframe : Holds (begin_syscall config env tracee info.nr info.args)
          (c.asking .PTRACE_GET_SYSCALL_INFO tracee.tid) _ _ :=
        begin_syscall_frame hold₀ info.nr info.args
      apply (hframe.and (begin_syscall_pending hold₀ (hidle rfl) info.nr info.args)).mono
      · intro _ c' hpost
        rcases hpost with ⟨hf, hwaiting⟩
        exact ⟨h₀.trans hf.elsewhere, hwaiting⟩
      · intro _ _ h
        exact h.2
    · rw [if_neg hentry, if_pos hexit]
      have hframe : Holds (finish_syscall config env tracee info.rval info.is_error)
          (c.asking .PTRACE_GET_SYSCALL_INFO tracee.tid) _ _ :=
        finish_syscall_frame hold₀ info.rval info.is_error
      apply (hframe.and (finish_syscall_pending hold₀ info.rval info.is_error)).mono
      · intro _ c' hpost
        rcases hpost with ⟨hf, hwaiting⟩
        exact ⟨h₀.trans hf.elsewhere, hwaiting⟩
      · intro _ _ h
        exact h.2

/-- A seccomp event begins a call. -/
theorem handle_seccomp_stop_pending (hold : c.tracees.lookup tracee.tid = some tracee)
    (answer : Option SyscallInfo) (hidle : tracee.has_pending_syscall = false) :
    Holds (handle_seccomp_stop config env tracee answer) c
      (fun _ c' => Elsewhere c tracee.tid c' ∧ c'.waiting tracee.tid = some true)
      (fun error _ => OtherError error) := by
  have h₀ : Elsewhere c tracee.tid (c.asking .PTRACE_GET_SYSCALL_INFO tracee.tid) := .asking rfl
  have hold₀ : (c.asking .PTRACE_GET_SYSCALL_INFO tracee.tid).tracees.lookup tracee.tid =
      some tracee := hold
  unfold handle_seccomp_stop
  rw [holds_bind, holds_measured_ptrace]
  show Holds _ (c.asking .PTRACE_GET_SYSCALL_INFO tracee.tid) _ _
  cases answer with
  | none => simp [OtherError, toString]
  | some info =>
    simp only [holds_ite, holds_throw]
    refine ⟨fun _ => by simp [OtherError], fun _ => ⟨fun _ => by simp [OtherError, toString],
      fun _ => ⟨fun _ => by simp [OtherError, toString], fun _ => ⟨fun _ => by simp [OtherError],
        fun _ => ?_⟩⟩⟩⟩
    have hframe : Holds (begin_syscall config env tracee info.nr info.args)
        (c.asking .PTRACE_GET_SYSCALL_INFO tracee.tid) _ _ :=
      begin_syscall_frame hold₀ info.nr info.args
    apply (hframe.and (begin_syscall_pending hold₀ hidle info.nr info.args)).mono
    · intro _ c' hpost
      rcases hpost with ⟨hf, hwaiting⟩
      exact ⟨h₀.trans hf.elsewhere, hwaiting⟩
    · intro _ _ h
      exact h.2

/-- An exec event leaves no call pending, also in a record that had another task's call. -/
theorem handle_exec_event_pending (hold : c.tracees.lookup tracee.tid = some tracee) :
    Holds (handle_exec_event config env tracee) c
      (fun _ c' => Elsewhere c tracee.tid c' ∧ c'.waiting tracee.tid = some false)
      (fun error _ => OtherError error) := by
  have h₀ : Elsewhere c tracee.tid (c.exec_observed tracee) :=
    .of_eq (c.exec_observed_tracees tracee) (c.exec_observed_requests tracee)
  have hold₀ : (c.exec_observed tracee).tracees.lookup tracee.tid = some tracee := by
    rw [Context.exec_observed_tracees]
    exact hold
  rw [holds_handle_exec_event]
  constructor
  · intro _
    apply ((complete_exec_spec hold₀).throwing (complete_exec_throws _)).mono
    · intro mid c₁ hpost
      rcases hpost with ⟨exited_at, events, _, hmid, hu⟩
      have htid : mid.tid = tracee.tid := by rw [hmid]
      have hidle : mid.has_pending_syscall = false := by rw [hmid]
      have hknown : (c₁.tracees.lookup mid.tid).isSome := by
        rw [hu.lookup_self]
        rfl
      have h₁ : Elsewhere c tracee.tid c₁ :=
        h₀.trans (hu.frame hold₀ (by rw [hmid]; rfl)).elsewhere
      refine ⟨h₁.store htid, ?_⟩
      rw [← htid, ← hidle]
      exact waiting_store hknown
    · intro _ _ h
      exact h
  · intro hidle
    refine ⟨h₀.store rfl, ?_⟩
    have h := waiting_store (c := c.exec_observed tracee) (t := { tracee with newborn := false })
      (by rw [hold₀]; rfl)
    exact h.trans (congrArg some (Bool.eq_false_iff.mpr hidle))

/-- The event of a child changes no pending call. -/
theorem handle_child_event_pending (hold : c.tracees.lookup tracee.tid = some tracee)
    (ptrace_event : Nat) (answers : Answers) :
    Holds (handle_child_event config env tracee ptrace_event answers) c
      (fun _ c' => Elsewhere c tracee.tid c' ∧
        c'.waiting tracee.tid = some tracee.has_pending_syscall)
      (fun error _ => OtherError error) := by
  have h₀ : Elsewhere c tracee.tid (c.asking .PTRACE_GETEVENTMSG tracee.tid) := .asking rfl
  unfold handle_child_event
  rw [holds_bind, holds_measured_ptrace]
  show Holds _ (c.asking .PTRACE_GETEVENTMSG tracee.tid) _ _
  dsimp only
  rw [holds_ite]
  constructor
  · intro _
    exact show OtherError _ by simp [OtherError, toString]
  · intro _
    rw [holds_bind, holds_onError]
    apply ((add_tracee_spec _ _ _ _).throwing (add_tracee_throws _ _ _ _)).mono
    · intro _ c₁ hpost
      rcases hpost with ⟨_, _, hreg⟩
      have h₁ : Elsewhere c tracee.tid c₁ := h₀.trans hreg.elsewhere
      have hold₁ : c₁.tracees.lookup tracee.tid = some tracee := by
        have hsome : (c.asking .PTRACE_GETEVENTMSG tracee.tid).tracees.lookup tracee.tid =
            some tracee := hold
        rw [hreg.lookup, if_neg]
        · exact hold
        · rintro ⟨heq, hnone⟩
          rw [← heq, hsome] at hnone
          simp at hnone
      rw [holds_bind, holds_get, Tracees.get_eq, hold₁]
      apply ((write_stamped_spec tracee _).throwing (write_stamped_throws _ _)).mono
      · intro _ c₂ hpost
        rcases hpost with ⟨events, observed_at, _, hw⟩
        refine ⟨h₁.trans hw.elsewhere, ?_⟩
        apply Context.waiting_eq
        rw [hw.tracees]
        exact hold₁
      · intro _ _ h
        exact h
    · intro _ _ h
      exact h

/-- A signal stop changes no pending call. -/
theorem handle_signal_stop_pending (hold : c.tracees.lookup tracee.tid = some tracee) (stop : Int)
    (answer : SigInfoAnswer) :
    Holds (handle_signal_stop config env tracee stop answer) c
      (fun _ c' => Elsewhere c tracee.tid c' ∧
        c'.waiting tracee.tid = some tracee.has_pending_syscall)
      (fun error _ => OtherError error) := by
  have h₀ : Elsewhere c tracee.tid (c.asking .PTRACE_GETSIGINFO tracee.tid) := .asking rfl
  have hknown : ((c.asking .PTRACE_GETSIGINFO tracee.tid).tracees.lookup tracee.tid).isSome := by
    show (c.tracees.lookup tracee.tid).isSome = true
    rw [hold]
    rfl
  unfold handle_signal_stop
  rw [holds_bind, holds_measured_ptrace]
  show Holds _ (c.asking .PTRACE_GETSIGINFO tracee.tid) _ _
  cases answer with
  | ok signal_info =>
    simp only [holds_bind, holds_store, holds_pure]
    apply ((write_stamped_spec _ _).throwing (write_stamped_throws _ _)).mono
    · intro _ c₁ hpost
      rcases hpost with ⟨events, observed_at, _, hw⟩
      have h₁ := h₀.store (t := { tracee with newborn := false, pending_signal := stop }) rfl
      refine ⟨h₁.trans hw.elsewhere, ?_⟩
      unfold Context.waiting
      rw [hw.tracees]
      exact waiting_store (t := { tracee with newborn := false, pending_signal := stop }) hknown
    · intro _ _ h
      exact h
  | einval =>
    simp only [holds_ite, holds_bind, holds_store, holds_pure, holds_throw]
    refine ⟨fun _ => ⟨h₀.store rfl, ?_⟩, fun _ => by simp [OtherError, toString]⟩
    exact waiting_store (t := { tracee with phase := .SG_TRACEE_GROUP_STOPPED }) hknown
  | failed => simp [OtherError, toString]

/-- **A stop** of a registered task.  The task is only listened to when its stop has nothing
    to do with a call. -/
theorem handle_stop_pending (hold : c.tracees.lookup tracee.tid = some tracee) {stop : Int}
    {ptrace_event : Nat} {answers : Answers} {kind : Stop}
    (hkind : WaitStatus.stop (.stopped stop ptrace_event) answers = kind)
    (hmessage : ptrace_event = PTRACE_EVENT_EXEC → answers.eventmsg ≠ none)
    (hidle : kind.begins = true → tracee.has_pending_syscall = false) :
    Holds (handle_stop config env tracee stop ptrace_event answers) c
      (fun result c' => Elsewhere c tracee.tid c' ∧
        c'.waiting tracee.tid = some (kind.pending tracee.has_pending_syscall) ∧
        (result.2 = true → kind = .other))
      (fun error _ => OtherError error) := by
  have hstored : ∀ {t : Tracee}, t.tid = tracee.tid →
      t.has_pending_syscall = tracee.has_pending_syscall →
      Elsewhere c tracee.tid { c with tracees := c.tracees.write t } ∧
        ({ c with tracees := c.tracees.write t } : Context).waiting tracee.tid =
          some tracee.has_pending_syscall := by
    intro t htid hpending
    refine ⟨(Elsewhere.refl c _).store htid, ?_⟩
    rw [← htid, ← hpending]
    exact waiting_store (by rw [htid, hold]; rfl)
  unfold handle_stop
  rw [holds_ite]
  constructor
  · rintro rfl
    rw [holds_bind]
    apply (handle_syscall_stop_pending hold ptrace_event answers (hkind ▸ hidle)).mono
    · intro _ c' hpost
      rcases hpost with ⟨h, hwaiting⟩
      rw [hkind] at hwaiting
      exact ⟨h, hwaiting, by simp⟩
    · intro _ _ h
      exact h
  intro hsyscall
  unfold WaitStatus.stop at hkind
  dsimp only at hkind
  rw [if_neg hsyscall] at hkind
  rw [holds_ite]
  constructor
  · intro hstop
    have hother : kind = .other := by
      rw [← hkind, hstop]
      rfl
    subst hother
    rw [holds_ite]
    constructor
    · intro _
      obtain ⟨h, hwaiting⟩ := hstored (t := { tracee with
        newborn := false, phase := .SG_TRACEE_GROUP_STOPPED }) rfl rfl
      exact ⟨h, hwaiting, fun _ => rfl⟩
    · intro _
      obtain ⟨h, hwaiting⟩ := hstored (t := { tracee with newborn := false }) rfl rfl
      exact ⟨h, hwaiting, fun _ => rfl⟩
  intro _
  rw [holds_ite]
  constructor
  · intro _
    rw [holds_bind]
    unfold handle_ptrace_event
    split
    · rename_i hseccomp
      rw [if_pos hseccomp] at hkind
      subst hkind
      apply (handle_seccomp_stop_pending hold _ (hidle rfl)).mono
      · intro _ c' hpost
        rcases hpost with ⟨h, hwaiting⟩
        exact ⟨h, hwaiting, by simp⟩
      · intro _ _ h
        exact h
    · rename_i hseccomp
      rw [if_neg hseccomp] at hkind
      split
      · rename_i hexec
        obtain ⟨former, hformer⟩ := Option.ne_none_iff_exists'.mp (hmessage hexec)
        rw [if_pos hexec, hformer] at hkind
        subst hkind
        apply (handle_exec_event_pending hold).mono
        · intro _ c' hpost
          rcases hpost with ⟨h, hwaiting⟩
          exact ⟨h, hwaiting, by simp⟩
        · intro _ _ h
          exact h
      · rename_i hexec
        rw [if_neg hexec] at hkind
        split
        · exact show OtherError _ by simp [OtherError, toString]
        · rename_i hchild
          have hevent : is_child_event ptrace_event = true := by
            unfold is_child_event
            by_contra hno
            apply hchild
            simpa only [Bool.or_eq_true, beq_iff_eq, not_or, and_assoc] using hno
          rw [if_pos hevent] at hkind
          subst hkind
          apply (handle_child_event_pending hold ptrace_event answers).mono
          · intro _ c' hpost
            rcases hpost with ⟨h, hwaiting⟩
            exact ⟨h, hwaiting, by simp⟩
          · intro _ _ h
            exact h
  intro hevent
  have hother : kind = .other := by
    rw [← hkind, not_not.mp hevent]
    rfl
  subst hother
  rw [holds_ite]
  constructor
  · intro _
    obtain ⟨h, hwaiting⟩ := hstored (t := { tracee with newborn := false }) rfl rfl
    exact ⟨h, hwaiting, fun _ => rfl⟩
  · intro _
    apply (handle_signal_stop_pending hold stop answers.signal_info).mono
    · intro _ c' hpost
      rcases hpost with ⟨h, hwaiting⟩
      exact ⟨h, hwaiting, fun _ => rfl⟩
    · intro _ _ h
      exact h

end stops

/-! ### Rounds -/

/-- The request that restarts a task, when a call is pending or not. -/
def requested (config : Config) (pending : Bool) : PtraceRequest :=
  if config.seccomp_bpf && !pending then .PTRACE_CONT else .PTRACE_SYSCALL

/-- From `c` to `c'` a round has handled a stop of `waited`. -/
inductive Turned (config : Config) (c : Context) (waited : Pid) (stop : Stop)
    (answer : RestartAnswer) (c' : Context) : Prop
  /-- The task is not known. -/
  | ignored (hunknown : c.waiting waited = none)
      (hexec : ∀ former, stop = .exec former → former = waited)
      (hsame : c'.waiting = c.waiting) (hrestarts : c'.restarts = c.restarts)
  /-- The task has been continued. -/
  | continued (hstop : stop = .other) (hsame : c'.waiting = c.waiting)
      (hrestarts : c'.restarts = c.restarts)
  /-- The task is no more. -/
  | removed (hstop : stop = .ended) (hgone : c'.waiting waited = none)
      (hothers : ∀ other, other ≠ waited → c'.waiting other = c.waiting other)
      (hrestarts : c'.restarts = c.restarts)
  /-- The task has stopped and has been restarted. -/
  | restarted (pending : Bool) (request : PtraceRequest) (data : Int)
      (hself : c'.waiting waited = some (stop.pending pending))
      (hpending : (∀ former, stop ≠ .exec former) →
        (pending = true ↔ c.waiting waited = some true))
      (hothers : ∀ other, other ≠ waited → (∀ former, stop = .exec former → other ≠ former) →
        c'.waiting other = c.waiting other ∨
          c.waiting other = none ∧ c'.waiting other = some false)
      (hformer : ∀ former, stop = .exec former → former ≠ waited → c'.waiting former ≠ some true)
      (hrestarts : c'.restarts = c.restarts ++ [⟨request, waited, data⟩])
      (hrequest : request = requested config (stop.pending pending) ∨
        request = .PTRACE_LISTEN ∧ stop = .other)
      (hanswer : answer ≠ .failed)

section rounds
variable {config : Config} {env : Env} {c c' : Context} {tracee : Tracee}

theorem restart_tracee_restarts {waited : Pid} (hold : c.tracees.lookup waited = some tracee)
    (signal : Int) (listen : Bool) (answer : RestartAnswer) :
    Holds (restart_tracee config env waited signal listen answer) c
      (fun _ c' => c'.waiting = c.waiting ∧ answer ≠ .failed ∧ ∃ data, c'.restarts = c.restarts ++
        [⟨if listen then .PTRACE_LISTEN else requested config tracee.has_pending_syscall, waited,
          data⟩])
      (fun error _ => OtherError error) := by
  have hrestarts : ∀ known, c.tracees.lookup waited = some known →
      ∃ data, (c.asked_restart config known signal listen).restarts = c.restarts ++
        [⟨if listen then .PTRACE_LISTEN else requested config tracee.has_pending_syscall, waited,
          data⟩] := by
    intro known hknown
    obtain rfl : tracee = known := Option.some.inj (hold.symm.trans hknown)
    have htid : tracee.tid = waited := Tracees.lookup_tid hold
    rw [c.asked_restart_restarts, ← htid]
    cases listen with
    | true => exact ⟨0, rfl⟩
    | false => exact ⟨signal, rfl⟩
  apply holds_restart_tracee
  · intro hunknown
    rw [hold] at hunknown
    cases hunknown
  · intro known hknown hanswer
    refine ⟨?_, by simp [hanswer], hrestarts known hknown⟩
    have htid : known.tid = waited := Tracees.lookup_tid hknown
    funext other
    unfold Context.waiting
    show (Tracees.lookup (c.tracees.write (known.resumed listen)) other).map _ = _
    rw [Tracees.lookup_write]
    by_cases ho : other = waited
    · simp [ho, htid, hknown, Tracee.resumed]
    · simp [ho, htid, Tracee.resumed]
  · intro known hknown hanswer
    exact ⟨rfl, by simp [hanswer], hrestarts known hknown⟩
  · intro known _ _
    cases listen with
    | true => exact listen_error_other _
    | false => exact resume_error_other _

theorem exec_event_of_stop {stop : Int} {ptrace_event : Nat} {answers : Answers} {former : Pid}
    (h : WaitStatus.stop (.stopped stop ptrace_event) answers = .exec former) :
    ptrace_event = PTRACE_EVENT_EXEC := by
  unfold WaitStatus.stop at h
  dsimp only at h
  by_contra hexec
  split at h
  · split at h
    · simp at h
    · split at h
      · simp at h
      · split at h
        · simp at h
        · simp at h
  · split at h
    · simp at h
    · split at h
      · simp at h
      · simp at h

/-- The errors of a change of TID. -/
theorem migrate_exec_tid_throws (waited former : Pid) :
    Throws (migrate_exec_tid config env waited former) OtherError := by
  have hzoom : Throws (zoom Context.output (fun context output => { context with output := output })
      (sg_output_migrate_tid former waited)) OtherError := by
    apply throws_zoom
    unfold sg_output_migrate_tid
    apply throws_ite
    · exact fun _ => throws_pure _
    · intro _
      apply throws_bind (throws_modify _)
      intro _
      apply throws_bind throws_get
      intro output
      apply throws_ite
      · exact fun _ => throws_pure _
      · intro _
        apply throws_ite
        · exact fun _ => throws_bind (unfinished_remove_throws _) fun _ => throws_pure _
        · exact fun _ => throws_set _
  have hsource : ∀ source : Tracee,
      Throws (migrate_source env waited former source) OtherError := by
    intro source
    unfold migrate_source
    apply throws_bind (throws_onError _ (add_tracee_throws _ _ _ _))
    intro _
    apply throws_bind (throws_modify _)
    intro _
    exact throws_bind hzoom fun _ => throws_modify _
  unfold migrate_exec_tid
  apply throws_ite
  · exact fun _ => throws_pure _
  · intro _
    apply throws_bind throws_get
    intro context
    rcases context.tracees.remove former with ⟨source, tracees⟩
    dsimp only
    rcases tracees.remove waited with ⟨replaced, tracees⟩
    apply throws_bind (throws_set _)
    intro _
    cases source with
    | some source =>
      cases replaced with
      | some replaced => exact throws_bind (throws_modify _) fun _ => hsource source
      | none => exact hsource source
    | none =>
      cases replaced with
      | some replaced => exact hsource replaced
      | none => exact throws_bind (add_tracee_throws _ _ _ _) fun _ => hzoom

/-- From `c` to `c'` the task that has stopped may have taken the place of another one. -/
inductive Takes (c : Context) (waited : Pid) (stop : Stop) (c' : Context) : Prop
  | same (hsame : c'.waiting = c.waiting) (hexec : ∀ former, stop = .exec former → former = waited)
  | renamed (former : Pid) (hstop : stop = .exec former) (hne : former ≠ waited)
      (hformer : c'.waiting former = none) (hwaited : c'.waiting waited ≠ none)
      (hothers : ∀ other, other ≠ waited → other ≠ former → c'.waiting other = c.waiting other)

theorem observe_exec_takes {waited : Pid} {stop : Int} {ptrace_event : Nat} {answers : Answers}
    (hproper : WaitStatus.proper (.stopped stop ptrace_event) = true) :
    Holds (observe_exec config env waited (.stopped stop ptrace_event) answers) c
      (fun _ c' => c'.restarts = c.restarts ∧
        (ptrace_event = PTRACE_EVENT_EXEC → answers.eventmsg ≠ none) ∧
        Takes c waited (WaitStatus.stop (.stopped stop ptrace_event) answers) c')
      (fun error _ => OtherError error) := by
  unfold observe_exec
  dsimp only
  rw [holds_ite]
  constructor
  · intro hexec
    have hsyscall : stop ≠ SYSCALL_STOP := by
      intro hsyscall
      rw [WaitStatus.proper, hsyscall, hexec] at hproper
      exact absurd hproper (by decide)
    have h₀ : Elsewhere c waited (c.asking .PTRACE_GETEVENTMSG waited) := .asking rfl
    rw [holds_bind, holds_measured_ptrace]
    show Holds _ (c.asking .PTRACE_GETEVENTMSG waited) _ _
    cases hmessage : answers.eventmsg with
    | none => simp [OtherError, toString]
    | some former =>
      have hstop : WaitStatus.stop (.stopped stop ptrace_event) answers = .exec former := by
        unfold WaitStatus.stop
        dsimp only
        rw [if_neg hsyscall, if_neg (by rw [hexec]; decide), if_pos hexec, hmessage]
      rw [hstop]
      simp only [holds_ite, holds_throw]
      refine ⟨fun _ => by simp [OtherError], fun _ => ?_⟩
      apply ((migrate_exec_tid_spec waited former).throwing (migrate_exec_tid_throws _ _)).mono
      · intro _ c' h
        by_cases hsame : (former : Pid) = waited
        · rw [if_pos hsame] at h
          rw [h]
          refine ⟨h₀.restarts, by simp, .same rfl ?_⟩
          intro other hother
          rw [← Stop.exec.inj hother, hsame]
        · rw [if_neg hsame] at h
          have hlookup := h.lookup
          refine ⟨(restarts_of_requests h.requests).trans h₀.restarts, by simp,
            .renamed former rfl hsame ?_ ?_ ?_⟩
          · unfold Context.waiting
            rw [hlookup, if_neg hsame, if_pos rfl]
            rfl
          · unfold Context.waiting
            rw [hlookup, if_pos rfl]
            simp
          · intro other ho hf
            unfold Context.waiting
            rw [hlookup, if_neg ho, if_neg hf]
            rfl
      · intro _ _ h
        exact h
  · intro hexec
    refine ⟨rfl, fun h => absurd h hexec, .same rfl ?_⟩
    intro former hstop
    exact absurd (exec_event_of_stop hstop) hexec

/-- The lookup registers at most the task itself. -/
theorem find_tracee_waiting {waited : Pid} {status : WaitStatus} {answers : Answers} :
    Holds (find_tracee config env waited status answers) c
      (fun found c' => found = c'.tracees.lookup waited ∧ c'.restarts = c.restarts ∧
        (∀ other, other ≠ waited → c'.waiting other = c.waiting other) ∧
        (c'.waiting waited = c.waiting waited ∨
          c.waiting waited = none ∧ c'.waiting waited = some false))
      (fun error _ => OtherError error) := by
  unfold find_tracee
  rw [holds_bind, holds_get, Tracees.get_eq]
  cases hknown : c.tracees.lookup waited with
  | some tracee => exact ⟨hknown.symm, rfl, fun _ _ => rfl, Or.inl rfl⟩
  | none =>
    cases status with
    | stopped stop ptrace_event =>
      dsimp only
      rw [holds_ite]
      constructor
      · intro _
        rw [holds_bind]
        apply ((add_tracee_spec waited _ _ true).throwing (add_tracee_throws _ _ _ _)).mono
        · intro _ c' hpost
          rcases hpost with ⟨_, _, hreg⟩
          rw [holds_bind, holds_get, holds_pure, Tracees.get_eq]
          refine ⟨rfl, restarts_of_requests (congrArg Context.Rest.requests hreg.rest),
            fun other ho => ?_, Or.inr ⟨?_, ?_⟩⟩
          · unfold Context.waiting
            rw [hreg.lookup, if_neg fun h => ho h.1]
          · unfold Context.waiting
            rw [hknown]
            rfl
          · unfold Context.waiting
            rw [hreg.lookup, if_pos ⟨rfl, hknown⟩]
            rfl
        · intro _ _ h
          exact h
      · intro _
        exact ⟨hknown.symm, rfl, fun _ _ => rfl, Or.inl rfl⟩
    | _ => exact ⟨hknown.symm, rfl, fun _ _ => rfl, Or.inl rfl⟩

/-- The exit of a task takes its record away. -/
theorem handle_exit_waiting (status : WaitStatus) :
    Holds (handle_exit config env tracee tracee.tid status) c
      (fun _ c' => c'.waiting tracee.tid = none ∧
        (∀ other, other ≠ tracee.tid → c'.waiting other = c.waiting other) ∧
        c'.restarts = c.restarts)
      (fun error _ => OtherError error) := by
  let gone : Context := { c with tracees := c.tracees.write { tracee with phase := .SG_TRACEE_GONE } }
  have hgone : ∀ other, other ≠ tracee.tid → gone.waiting other = c.waiting other := by
    intro other ho
    unfold Context.waiting
    show (Tracees.lookup (c.tracees.write _) other).map _ = _
    rw [Tracees.lookup_write, if_neg fun h => ho h.1]
  apply holds_handle_exit fun c' => c'.waiting = gone.waiting ∧ c'.restarts = c.restarts
  · intro _
    simp [OtherError]
  · apply holds_report_exit
    · intro exit
      apply ((write_stamped_spec _ _).throwing (write_stamped_throws _ _)).mono
      · intro _ c' hpost
        rcases hpost with ⟨events, observed_at, _, hw⟩
        refine ⟨?_, restarts_of_requests (congrArg Context.Rest.requests hw.rest)⟩
        unfold Context.waiting
        rw [hw.tracees]
      · intro _ _ h
        exact h
    · exact ⟨rfl, rfl⟩
  · intro c₁ c₂ c₃ hpost htracees hrequests _ hd
    rcases hpost with ⟨hwaiting, hrestarts⟩
    have hlookup : ∀ other, c₃.waiting other =
        if other = tracee.tid then none else gone.waiting other := by
      intro other
      rw [← hwaiting]
      unfold Context.waiting
      rw [hd.lookup, htracees]
      by_cases ho : other = tracee.tid
      · simp [ho]
      · simp [ho]
    refine ⟨by rw [hlookup, if_pos rfl], fun other ho => ?_, ?_⟩
    · rw [hlookup, if_neg ho, hgone other ho]
    · rw [restarts_of_requests hd.requests, restarts_of_requests hrequests, hrestarts]

/-- A round that handles a stop of a registered task. -/
theorem stop_round_turned {c₀ : Context} {waited : Pid} {stop : Int} {ptrace_event : Nat}
    {answers : Answers} {kind : Stop}
    (hkind : WaitStatus.stop (.stopped stop ptrace_event) answers = kind)
    (hrestarts : c.restarts = c₀.restarts)
    (hmessage : ptrace_event = PTRACE_EVENT_EXEC → answers.eventmsg ≠ none)
    (hself : (∀ former, kind ≠ .exec former) → (c.waiting waited = c₀.waiting waited ∨
      c₀.waiting waited = none ∧ c.waiting waited = some false))
    (hothers : ∀ other, other ≠ waited → (∀ former, kind = .exec former → other ≠ former) →
      c.waiting other = c₀.waiting other)
    (hformer : ∀ former, kind = .exec former → former ≠ waited → c.waiting former = none)
    (hidle : kind.begins = true → c.waiting waited ≠ some true)
    (hold : c.tracees.lookup waited = some tracee) (shutdown_signal : Int) :
    Holds (do
        let tracee : Tracee := { tracee with in_ptrace_stop := true, phase := .SG_TRACEE_STOPPED }
        store tracee
        let (delivery_signal, listen) ← handle_stop config env tracee stop ptrace_event answers
        let restarted ← restart_tracee config env waited delivery_signal listen answers.restart
        pure (if restarted then test_shutdown shutdown_signal else .again)) c
      (fun _ c' => Turned config c₀ waited kind answers.restart c')
      (fun error _ => OtherError error) := by
  have htid : tracee.tid = waited := Tracees.lookup_tid hold
  subst htid
  have hwaiting : c.waiting tracee.tid = some tracee.has_pending_syscall := Context.waiting_eq hold
  let stopped : Tracee := { tracee with in_ptrace_stop := true, phase := .SG_TRACEE_STOPPED }
  have hold₁ : (c.tracees.write stopped).lookup stopped.tid = some stopped := by
    rw [Tracees.lookup_write]
    exact if_pos ⟨rfl, by show (c.tracees.lookup tracee.tid).isSome = true; rw [hold]; rfl⟩
  have h₁ : Elsewhere c tracee.tid { c with tracees := c.tracees.write stopped } :=
    (Elsewhere.refl c _).store rfl
  have hidle₁ : kind.begins = true → stopped.has_pending_syscall = false := by
    intro hbegins
    have hnot := hidle hbegins
    rw [hwaiting] at hnot
    simpa using hnot
  simp only [holds_bind, holds_store, holds_pure]
  apply (handle_stop_pending hold₁ hkind hmessage hidle₁).mono
  · intro result c₂ hpost
    rcases hpost with ⟨h₂, hpending, hlisten⟩
    have h := h₁.trans h₂
    obtain ⟨tracee₂, hold₂, hpending₂⟩ : ∃ tracee₂, c₂.tracees.lookup tracee.tid = some tracee₂ ∧
        tracee₂.has_pending_syscall = kind.pending tracee.has_pending_syscall := by
      have hpending : c₂.waiting tracee.tid = some (kind.pending tracee.has_pending_syscall) := hpending
      unfold Context.waiting at hpending
      exact Option.map_eq_some_iff.mp hpending
    apply (restart_tracee_restarts hold₂ result.1 result.2 answers.restart).mono
    · intro _ c₃ hpost
      rcases hpost with ⟨hsame, hanswer, data, hrestarted⟩
      have hnow : ∀ other, other ≠ tracee.tid → c₃.waiting other = c.waiting other ∨
          c.waiting other = none ∧ c₃.waiting other = some false := by
        intro other ho
        rw [hsame]
        exact h.others other ho
      rw [h.restarts, hrestarts, hpending₂] at hrestarted
      apply Turned.restarted tracee.has_pending_syscall _ data _ _ _ _ hrestarted _ hanswer
      · rw [hsame]
        exact hpending
      · intro hexec
        obtain heq | ⟨hnone, hfalse⟩ := hself hexec
        · rw [← heq, hwaiting]
          simp
        · rw [hwaiting] at hfalse
          rw [hnone, Option.some.inj hfalse]
          simp
      · intro other ho hf
        rw [← hothers other ho hf]
        exact hnow other ho
      · intro former hstop hne
        have hnone := hformer former hstop hne
        obtain heq | ⟨_, hfalse⟩ := hnow former hne
        · rw [heq, hnone]
          simp
        · rw [hfalse]
          simp
      · cases hresult : result.2 with
        | true => exact Or.inr ⟨rfl, hlisten hresult⟩
        | false => exact Or.inl rfl
    · intro _ _ h
      exact h
  · intro _ _ h
    exact h

/-- **A round** that does not fail has handled the stop; a round that fails has another
    error than an entry before an exit, if no call is pending where one begins. -/
theorem handle_status_turned {waited : Pid} {status : WaitStatus} {answers : Answers}
    (hproper : status.proper = true)
    (hidle : (status.stop answers).begins = true → c.waiting waited ≠ some true)
    (shutdown_signal : Int) :
    Holds (handle_status config env waited status answers shutdown_signal) c
      (fun _ c' => Turned config c waited (status.stop answers) answers.restart c')
      (fun error _ => OtherError error) := by
  have hunknown : c.tracees.lookup waited = none → c.waiting waited = none := by
    intro h
    unfold Context.waiting
    rw [h]
    rfl
  have hexit : ∀ {status : WaitStatus},
      (∃ code, status = .exited code) ∨ (∃ signal, status = .signaled signal) →
      status.stop answers = .ended →
      Holds (handle_status config env waited status answers shutdown_signal) c
        (fun _ c' => Turned config c waited (status.stop answers) answers.restart c')
        (fun error _ => OtherError error) := by
    intro status hends hended
    rw [hended]
    apply holds_handle_status_ended hends
    · intro hknown
      exact .ignored (hunknown hknown) (by simp) rfl rfl
    · intro tracee htid hknown
      subst htid
      apply (handle_exit_waiting status).mono
      · intro _ c' hpost
        rcases hpost with ⟨hgone, hothers, hrestarts⟩
        exact .removed rfl hgone hothers hrestarts
      · intro _ _ h
        exact h
  cases status with
  | continued =>
    apply holds_handle_status_continued
    · intro _
      exact .continued rfl rfl rfl
    · intro tracee htid hknown
      subst htid
      refine .continued rfl ?_ rfl
      funext other
      unfold Context.waiting
      show (Tracees.lookup (c.tracees.write _) other).map _ = _
      rw [Tracees.lookup_write]
      by_cases ho : other = tracee.tid
      · simp [ho, hknown]
      · simp [ho]
  | exited code => exact hexit (Or.inl ⟨code, rfl⟩) rfl
  | signaled signal => exact hexit (Or.inr ⟨signal, rfl⟩) rfl
  | stopped stop ptrace_event =>
    unfold handle_status
    generalize hkind : WaitStatus.stop (.stopped stop ptrace_event) answers = kind at hidle
    rw [holds_bind]
    apply (observe_exec_takes hproper).mono
    · intro _ c₁ hpost
      rcases hpost with ⟨hrestarts₁, hmessage, htakes⟩
      rw [hkind] at htakes
      rw [holds_bind]
      apply find_tracee_waiting.mono
      · intro found c₂ hpost
        rcases hpost with ⟨hfound, hrestarts₂, hothers, hwaited⟩
        have hrestarts := hrestarts₂.trans hrestarts₁
        rw [hfound]
        cases hknown : c₂.tracees.lookup waited with
        | none =>
          have hnone : c₂.waiting waited = none := by
            unfold Context.waiting
            rw [hknown]
            rfl
          have hwas : c₁.waiting waited = none := by
            obtain heq | ⟨h, _⟩ := hwaited
            · rw [← heq, hnone]
            · exact h
          have hsame : c₂.waiting = c₁.waiting := by
            funext other
            by_cases ho : other = waited
            · rw [ho, hnone, hwas]
            · exact hothers other ho
          cases htakes with
          | same heq hexec =>
            rw [heq] at hsame hwas
            exact .ignored hwas hexec hsame hrestarts
          | renamed former hstop hne hformer hsome _ => exact absurd hwas hsome
        | some tracee =>
          apply stop_round_turned hkind hrestarts hmessage _ _ _ _ hknown
          · intro hexec
            cases htakes with
            | same heq _ =>
              rw [← heq]
              exact hwaited
            | renamed former hstop => exact absurd hstop (hexec former)
          · intro other ho hf
            rw [hothers other ho]
            cases htakes with
            | same heq _ => rw [heq]
            | renamed former hstop hne hformer hsome hrest => exact hrest other ho (hf former hstop)
          · intro former hstop hne
            rw [hothers former hne]
            cases htakes with
            | same _ hexec => exact absurd (hexec former hstop) hne
            | renamed former' hstop' hne' hformer' =>
              rw [hstop] at hstop'
              rw [Stop.exec.inj hstop']
              exact hformer'
          · intro hbegins
            have hnot := hidle hbegins
            cases htakes with
            | same heq _ =>
              obtain h | ⟨_, h⟩ := hwaited
              · rw [h, heq]
                exact hnot
              · rw [h]
                simp
            | renamed former hstop =>
              rw [hstop] at hbegins
              simp [Stop.begins] at hbegins
      · intro _ _ h
        exact h
    · intro _ _ h
      exact h

end rounds

/-! ### The invariant -/

/-- **The invariant**, for one task: its flag `has_pending_syscall`, if it is registered, and
    the task of the kernel. -/
structure Aligned (config : Config) (pending : Option Bool) (task : Task) : Prop where
  /-- A pending call is a call that the kernel is in, and its exit will be shown. -/
  call : pending = some true → task.phase = .gone ∨
    (task.phase = .entered ∨ task.phase = .calling) ∧ task.syscall_trace = true
  /-- In seccomp mode a task is followed only while a call is pending. -/
  followed : config.seccomp_bpf = true → task.syscall_trace = true →
    task.phase = .gone ∨ task.phase = .calling ∧ pending = some true
  /-- In seccomp mode there are no entry stops. -/
  filtered : config.seccomp_bpf = true → task.phase ≠ .entered

/-- What is left of the invariant until the task is restarted. -/
structure Halted (config : Config) (pending : Option Bool) (task : Task) : Prop where
  call : pending = some true → task.phase = .gone ∨ task.phase = .entered ∨ task.phase = .calling
  filtered : config.seccomp_bpf = true → task.phase ≠ .entered

section aligned
variable {config : Config} {kernel : Kernel} {pending pending' : Option Bool} {task : Task}
  {tid former : Pid}

theorem aligned_new (h : pending ≠ some true) : Aligned config pending .new :=
  ⟨fun hp => absurd hp h, by simp [Task.new], by simp [Task.new]⟩

/-- Only a pending call matters. -/
theorem Aligned.congr (h : Aligned config pending task)
    (heq : pending' = some true ↔ pending = some true) : Aligned config pending' task :=
  ⟨fun hp => h.call (heq.mp hp), fun hs ht => (h.followed hs ht).imp id fun h => ⟨h.1, heq.mpr h.2⟩,
    h.filtered⟩

theorem Aligned.halted (h : Aligned config pending task) : Halted config pending task :=
  ⟨fun hp => (h.call hp).imp id And.left, h.filtered⟩

/-- A task that begins a call has none pending. -/
theorem Aligned.idle {stop : Stop} (h : Aligned config pending (kernel tid))
    (hallows : kernel.Allows config tid stop) (hbegins : stop.begins = true) :
    pending ≠ some true := by
  have huser : (kernel tid).in_user = true → pending ≠ some true := by
    intro huser hp
    obtain hgone | ⟨hphase | hphase, _⟩ := h.call hp
    · simp [Task.in_user, hgone] at huser
    · simp [Task.in_user, hphase] at huser
    · simp [Task.in_user, hphase] at huser
  cases stop with
  | entry => exact huser hallows.1
  | seccomp =>
    obtain ⟨hseccomp, hentered | ⟨hin, _⟩⟩ := hallows
    · exact absurd hentered (h.filtered hseccomp)
    · exact huser hin
  | exit => simp [Stop.begins] at hbegins
  | exec former => simp [Stop.begins] at hbegins
  | child => simp [Stop.begins] at hbegins
  | ended => simp [Stop.begins] at hbegins
  | other => simp [Stop.begins] at hbegins

/-- In seccomp mode there is no entry stop. -/
theorem Aligned.no_entry (h : Aligned config pending (kernel tid))
    (hallows : kernel.Allows config tid .entry) : config.seccomp_bpf = false := by
  rw [← Bool.not_eq_true]
  intro hseccomp
  have huser := hallows.1
  obtain hgone | ⟨hphase, _⟩ := h.followed hseccomp hallows.2
  · simp [Task.in_user, hgone] at huser
  · simp [Task.in_user, hphase] at huser

/-- The stop of a task that has no pending call afterwards, or has begun one. -/
theorem Aligned.stop {stop : Stop} {flag : Bool} (h : Aligned config pending (kernel tid))
    (hallows : kernel.Allows config tid stop)
    (hflag : (∀ former, stop ≠ .exec former) → (flag = true ↔ pending = some true)) :
    Halted config (some (stop.pending flag)) (kernel.stop tid stop tid) := by
  have hsame : (flag = true ↔ pending = some true) → Halted config (some flag) (kernel tid) := by
    intro hflag
    exact (h.congr (by rw [Option.some.injEq]; exact hflag)).halted
  cases stop with
  | entry =>
    refine ⟨fun _ => by simp [Kernel.stop], fun hseccomp => ?_⟩
    rw [h.no_entry hallows] at hseccomp
    simp at hseccomp
  | exit => exact ⟨by simp [Stop.pending], by simp [Kernel.stop]⟩
  | seccomp => exact ⟨fun _ => by simp [Kernel.stop], by simp [Kernel.stop]⟩
  | exec former =>
    refine ⟨by simp [Stop.pending], fun _ => ?_⟩
    simp only [Kernel.stop, Kernel.set_self]
    split
    · simp
    · simp
  | child => exact hsame (hflag (by simp))
  | ended => exact ⟨by simp [Kernel.stop, Task.new, Stop.pending], by simp [Kernel.stop, Task.new]⟩
  | other => exact hsame (hflag (by simp))

/-- The stop of a task that is not registered. -/
theorem Aligned.stop_unknown {stop : Stop} (h : Aligned config none (kernel tid))
    (hallows : kernel.Allows config tid stop) (hexec : ∀ former, stop = .exec former → former = tid) :
    Aligned config none (kernel.stop tid stop tid) := by
  have hsilent : config.seccomp_bpf = true → (kernel tid).syscall_trace = true →
      (kernel tid).phase = .gone := by
    intro hseccomp htrace
    exact (h.followed hseccomp htrace).resolve_right (by simp)
  -- A task that is followed does not stop, as it has been killed.
  have hcall : (kernel tid).in_call = true → config.seccomp_bpf = true →
      (kernel tid).syscall_trace = false := by
    intro hin hseccomp
    rw [← Bool.not_eq_true]
    intro htrace
    simp [Task.in_call, hsilent hseccomp htrace] at hin
  cases stop with
  | entry =>
    have hseccomp := h.no_entry hallows
    exact ⟨by simp, by simp [hseccomp], by simp [hseccomp]⟩
  | exit =>
    refine ⟨by simp, fun hseccomp htrace => ?_, by simp [Kernel.stop]⟩
    have hshown := hallows.2
    rw [hcall hallows.1 hseccomp] at hshown
    simp at hshown
  | seccomp =>
    refine ⟨by simp, fun hseccomp htrace => ?_, by simp [Kernel.stop]⟩
    obtain ⟨_, hentered | ⟨_, hfalse⟩⟩ := hallows
    · exact absurd hentered (h.filtered hseccomp)
    · simp [Kernel.stop, hfalse] at htrace
  | exec former =>
    have hformer := hexec former rfl
    subst hformer
    refine ⟨by simp, fun hseccomp htrace => ?_, fun _ => ?_⟩
    · simp [Kernel.stop, hcall hallows hseccomp] at htrace
    · simp only [Kernel.stop, Kernel.set_self]
      split
      · simp
      · simp
  | child => exact h
  | ended =>
    have hnew : kernel.stop tid .ended tid = .new := Kernel.set_self
    rw [hnew]
    exact aligned_new (by simp)
  | other => exact h

/-- The restart of a task: in seccomp mode it is followed when a call is pending. -/
theorem Halted.restart {flag : Bool} {answer : RestartAnswer} {data : Int}
    (h : Halted config (some flag) (kernel tid)) (hanswer : answer ≠ .failed) :
    Aligned config (some flag) (kernel.restart answer ⟨requested config flag, tid, data⟩ tid) := by
  cases answer with
  | failed => exact absurd rfl hanswer
  | esrch =>
    have hgone : kernel.restart .esrch ⟨requested config flag, tid, data⟩ tid =
        { kernel tid with phase := .gone } := Kernel.move_self _
    rw [hgone]
    exact ⟨fun _ => Or.inl rfl, fun _ _ => Or.inl rfl, by simp⟩
  | ok =>
    have hrequested : (requested config flag).syscall_trace =
        some (!config.seccomp_bpf || flag) := by
      unfold requested
      cases config.seccomp_bpf <;> cases flag <;> rfl
    have hnow : kernel.restart .ok ⟨requested config flag, tid, data⟩ tid =
        { kernel tid with syscall_trace := !config.seccomp_bpf || flag } := by
      unfold Kernel.restart
      dsimp only
      rw [hrequested]
      exact Kernel.set_self
    rw [hnow]
    refine ⟨fun hp => ?_, fun hseccomp htrace => ?_, h.filtered⟩
    · refine (h.call hp).imp id fun hphase => ⟨hphase, ?_⟩
      rw [Option.some.inj hp]
      simp
    · have hflag : flag = true := by simpa [hseccomp] using htrace
      subst hflag
      obtain hgone | hentered | hcalling := h.call rfl
      · exact Or.inl hgone
      · exact absurd hentered (h.filtered hseccomp)
      · exact Or.inr ⟨hcalling, rfl⟩

/-- `PTRACE_LISTEN` leaves the task as it is, or finds it killed. -/
theorem Aligned.listen {answer : RestartAnswer} {data : Int}
    (h : Aligned config pending (kernel tid)) :
    Aligned config pending (kernel.restart answer ⟨.PTRACE_LISTEN, tid, data⟩ tid) := by
  cases answer with
  | ok => exact h
  | failed => exact h
  | esrch =>
    have hgone : kernel.restart .esrch ⟨.PTRACE_LISTEN, tid, data⟩ tid =
        { kernel tid with phase := .gone } := Kernel.move_self _
    rw [hgone]
    exact ⟨fun _ => Or.inl rfl, fun _ _ => Or.inl rfl, by simp⟩

end aligned

/-! ### The loop and the kernel -/

/-- **The invariant** of the loop and the kernel. -/
def AllAligned (config : Config) (context : Context) (kernel : Kernel) : Prop :=
  ∀ tid, Aligned config (context.waiting tid) (kernel tid)

section machine
variable {config : Config} {env : Env} {c c' start : Context} {kernel : Kernel} {waited : Pid}

theorem drop_restarts {requests : List Request} (h : c'.restarts = c.restarts ++ requests) :
    c'.restarts.drop c.restarts.length = requests := by
  rw [h, List.drop_left]

/-- A round keeps the invariant. -/
theorem Turned.aligned {stop : Stop} {answer : RestartAnswer}
    (hturned : Turned config c waited stop answer c') (h : AllAligned config c kernel)
    (hallows : kernel.Allows config waited stop) :
    AllAligned config c' ((c'.restarts.drop c.restarts.length).foldl
      (fun kernel => kernel.restart answer) (kernel.stop waited stop)) := by
  intro tid
  cases hturned with
  | ignored hunknown hexec hsame hrestarts =>
    rw [hrestarts, List.drop_length, List.foldl_nil, hsame]
    by_cases ht : tid = waited
    · have haligned := h waited
      rw [hunknown] at haligned
      rw [ht, hunknown]
      exact haligned.stop_unknown hallows hexec
    · rw [Kernel.stop_of_ne ht fun former hstop hf => ht (hf.trans (hexec former hstop))]
      exact h tid
  | continued hstop hsame hrestarts =>
    rw [hrestarts, List.drop_length, List.foldl_nil, hsame, hstop]
    exact h tid
  | removed hstop hgone hothers hrestarts =>
    rw [hrestarts, List.drop_length, List.foldl_nil, hstop]
    by_cases ht : tid = waited
    · have hnew : kernel.stop waited .ended waited = .new := Kernel.set_self
      rw [ht, hgone, hnew]
      exact aligned_new (by simp)
    · rw [Kernel.stop_of_ne ht (by simp), hothers tid ht]
      exact h tid
  | restarted flag request data hself hpending hothers hformer hrestarts hrequest hanswer =>
    rw [drop_restarts hrestarts, List.foldl_cons, List.foldl_nil]
    by_cases ht : tid = waited
    · rw [ht, hself]
      obtain hrequest | ⟨hrequest, hother⟩ := hrequest
      · rw [hrequest]
        exact ((h waited).stop hallows hpending).restart hanswer
      · rw [hrequest, hother]
        rw [hother] at hpending
        apply Aligned.listen
        apply (h waited).congr
        rw [Option.some.injEq]
        exact hpending (by simp)
    · rw [Kernel.restart_of_ne ht]
      by_cases hf : stop = .exec tid
      · -- The TID that the task had before its exec.
        have hnew : kernel.stop waited stop tid = .new := by
          rw [hf]
          show (kernel.set tid .new).set waited _ tid = _
          rw [Kernel.set_of_ne ht, Kernel.set_self]
        rw [hnew]
        exact aligned_new (hformer tid hf ht)
      · have hnot : ∀ former, stop = .exec former → tid ≠ former := by
          intro former hstop heq
          exact hf (heq ▸ hstop)
        rw [Kernel.stop_of_ne ht hnot]
        apply (h tid).congr
        obtain heq | ⟨hnone, hfalse⟩ := hothers tid ht hnot
        · rw [heq]
        · rw [hnone, hfalse]
          simp

/-- **A round**: it keeps the invariant, or fails with another error. -/
theorem loop_round_aligned {report : Report} {h : List Turn}
    (hinv : AllAligned config c kernel)
    (hallows : KernelAllows config h (c, kernel) (.report report)) :
    Holds (loop_round config env report) c
      (fun _ c' => AllAligned config c' (kernel.round report c c'))
      (fun error _ => OtherError error) := by
  obtain ⟨waited, shutdown_signal⟩ := report
  have hsame : AllAligned config c (kernel.round ⟨waited, shutdown_signal⟩ c c) ∨
      ∃ tid status answers, waited = .status tid status answers := by
    cases waited with
    | status tid status answers => exact Or.inr ⟨tid, status, answers, rfl⟩
    | eintr =>
      left
      unfold Kernel.round
      rw [List.drop_length]
      exact hinv
    | failed =>
      left
      unfold Kernel.round
      rw [List.drop_length]
      exact hinv
  unfold loop_round
  cases waited with
  | eintr =>
    obtain hsame | ⟨_, _, _, h⟩ := hsame
    · exact hsame
    · simp at h
  | failed => simp [OtherError, toString]
  | status tid status answers =>
    obtain ⟨hstop, hproper⟩ := hallows
    have hidle : (status.stop answers).begins = true → c.waiting tid ≠ some true :=
      fun hbegins => (hinv tid).idle hstop hbegins
    apply (handle_status_turned hproper hidle shutdown_signal).mono
    · intro _ c' hturned
      exact hturned.aligned hinv hstop
    · intro _ _ h
      exact h

/-- What the loop starts from: no call is pending, and in seccomp mode no task is followed. -/
structure Starts (config : Config) (start : Context) : Prop where
  idle : ∀ tid, start.waiting tid ≠ some true
  restarts : config.seccomp_bpf = true →
    ∀ request ∈ start.restarts, request.request ≠ .PTRACE_SYSCALL

variable {h : List Turn} {report : Report}

/-- Nothing has been seen of a task, and in seccomp mode it is not followed. -/
def Task.Unseen (config : Config) (task : Task) : Prop :=
  task.phase = .unseen ∧ (config.seccomp_bpf = true → task.syscall_trace = false)

theorem Kernel.restart_unseen {request : Request}
    (hrequest : config.seccomp_bpf = true → request.request ≠ .PTRACE_SYSCALL)
    (h : ∀ tid, (kernel tid).Unseen config) (tid : Pid) :
    (kernel.restart .ok request tid).Unseen config := by
  by_cases ht : tid = request.tid
  · subst ht
    unfold Kernel.restart
    cases hflag : request.request.syscall_trace with
    | none => exact h _
    | some flag =>
      dsimp only
      rw [Kernel.set_self]
      refine ⟨(h _).1, fun hseccomp => ?_⟩
      cases hkind : request.request with
      | PTRACE_SYSCALL => exact absurd hkind (hrequest hseccomp)
      | PTRACE_CONT =>
        rw [hkind] at hflag
        exact (Option.some.inj hflag).symm
      | _ =>
        rw [hkind] at hflag
        simp [PtraceRequest.syscall_trace] at hflag
  · rw [Kernel.restart_of_ne ht]
    exact h tid

theorem Starts.unseen (hstart : Starts config start) (tid : Pid) :
    (Kernel.start start tid).Unseen config := by
  have hfold : ∀ (requests : List Request) (kernel : Kernel),
      (config.seccomp_bpf = true → ∀ request ∈ requests, request.request ≠ .PTRACE_SYSCALL) →
      (∀ tid, (kernel tid).Unseen config) →
      ∀ tid, (requests.foldl (fun kernel => kernel.restart .ok) kernel tid).Unseen config := by
    intro requests
    induction requests with
    | nil => exact fun _ _ h => h
    | cons request requests ih =>
      intro kernel hrequests hkernel
      apply ih
      · exact fun hseccomp other ho => hrequests hseccomp other (by simp [ho])
      · exact Kernel.restart_unseen (fun hseccomp => hrequests hseccomp request (by simp)) hkernel
  exact hfold start.restarts (fun _ => .new) hstart.restarts (fun _ => ⟨rfl, fun _ => rfl⟩) tid

theorem Starts.aligned (hstart : Starts config start) :
    AllAligned config start (Kernel.start start) := by
  intro tid
  obtain ⟨hphase, hflag⟩ := hstart.unseen tid
  refine ⟨fun hp => absurd hp (hstart.idle tid), fun hseccomp htrace => ?_, fun _ => ?_⟩
  · rw [hflag hseccomp] at htrace
    simp at htrace
  · rw [hphase]
    simp

/-- A task that is not followed enters or leaves a call. -/
theorem AllAligned.move {tid : Pid} {phase : TaskPhase} (hinv : AllAligned config c kernel)
    (hsilent : (kernel tid).syscall_trace = false) (hgone : (kernel tid).phase ≠ .gone)
    (hentered : phase ≠ .entered) : AllAligned config c (kernel.move tid phase) := by
  intro other
  by_cases ho : other = tid
  · rw [ho, Kernel.move_self]
    refine ⟨fun hp => ?_, fun _ htrace => ?_, fun _ => hentered⟩
    · -- A task with a pending call is followed, so it does not move unseen.
      obtain h | ⟨_, h⟩ := (hinv tid).call hp
      · exact absurd h hgone
      · rw [hsilent] at h
        simp at h
    · rw [hsilent] at htrace
      simp at htrace
  · rw [Kernel.move_of_ne ho]
    exact hinv other

/-- The invariant holds whenever the loop waits for a report. -/
theorem aligned_of_reaches {state : Context × Kernel} (hstart : Starts config start)
    (hr : Reaches (kernel_step config env) (KernelAllows config) (start, Kernel.start start) h
      state) : AllAligned config state.1 state.2 := by
  apply hr.invariant (I := fun _ state => AllAligned config state.1 state.2)
  · exact hstart.aligned
  · intro h hpost turn state' hinv hallows hstep
    rcases hpost with ⟨c, kernel⟩
    cases turn with
    | enters tid =>
      rw [← (Prod.mk.inj hstep).1]
      exact hinv.move hallows.2 (by rw [hallows.1]; simp) (by simp)
    | leaves tid =>
      rw [← (Prod.mk.inj hstep).1]
      apply AllAligned.move hinv hallows.2 _ (by simp)
      intro hgone
      have hgone : (kernel tid).phase = .gone := hgone
      have hin := hallows.1
      simp [Task.in_call, hgone] at hin
    | report report =>
      unfold kernel_step at hstep
      dsimp only at hstep
      rcases hloop : loop_step config env c report with ⟨c', again⟩
      rw [hloop] at hstep
      obtain ⟨hstate, rfl⟩ := Prod.mk.inj hstep
      rw [← hstate]
      exact (loop_round_aligned hinv hallows).of_ok (loop_step_true hloop).2

/-- **Entries and exits alternate.**  Whatever the tasks do, and however their stops are
    interleaved, no round of the loop ends with an entry that comes before the exit of the
    pending call. -/
theorem entry_before_exit_unreachable (hstart : Starts config start)
    (hr : Reaches (kernel_step config env) (KernelAllows config) (start, Kernel.start start) h
      (c, kernel))
    (hallows : KernelAllows config h (c, kernel) (.report report)) :
    ((loop_round config env report).exec c).1 ≠ .error entry_before_exit := by
  intro herror
  have hround : Holds (loop_round config env report) c _ _ :=
    loop_round_aligned (aligned_of_reaches hstart hr) hallows
  rcases hexec : (loop_round config env report).exec c with ⟨result, c'⟩
  rw [hexec] at herror
  have herror : result = .error entry_before_exit := herror
  subst herror
  exact (hround.of_error hexec).ne rfl

end machine

/-! ### The launch -/

section launch
variable {config : Config} {env : Env} {c c' : Context}

/-- No call is pending, and nothing has been restarted. -/
structure Untouched (context : Context) : Prop where
  idle : ∀ tid, context.waiting tid ≠ some true
  restarts : context.restarts = []

theorem Untouched.store (h : Untouched c) {t : Tracee} (hidle : t.has_pending_syscall = false) :
    Untouched { c with tracees := c.tracees.write t } := by
  refine ⟨fun tid => ?_, h.restarts⟩
  unfold Context.waiting
  show (Tracees.lookup (c.tracees.write t) tid).map _ ≠ _
  rw [Tracees.lookup_write]
  split
  · simp [hidle]
  · exact h.idle tid

theorem Untouched.elsewhere {tid : Pid} (h : Untouched c) (helse : Elsewhere c tid c')
    (hself : c'.waiting tid ≠ some true) : Untouched c' := by
  refine ⟨fun other => ?_, helse.restarts.trans h.restarts⟩
  by_cases ho : other = tid
  · rw [ho]
    exact hself
  · obtain heq | ⟨_, hfalse⟩ := helse.others other ho
    · rw [heq]
      exact h.idle other
    · rw [hfalse]
      simp

theorem launch_untouched (answers : LaunchAnswers) :
    Holds (launch config env answers) .init (fun _ c => Untouched c) (fun _ _ => True) := by
  unfold launch
  cases answers.child with
  | error error => trivial
  | ok child =>
    have hnone : ∀ tid, Context.init.tracees.lookup tid = none := Tracees.count_eq_zero.mp rfl
    have h₀ : Untouched { Context.init with root_tid := child } := by
      refine ⟨fun tid => ?_, rfl⟩
      unfold Context.waiting
      show (Context.init.tracees.lookup tid).map _ ≠ _
      rw [hnone tid]
      simp
    simp only [holds_bind, holds_modify]
    apply (add_tracee_spec child child false false).mono
    · intro _ c₁ hpost
      rcases hpost with ⟨_, _, hreg⟩
      have h₁ : Untouched c₁ := by
        have helse : Elsewhere { Context.init with root_tid := child } child c₁ := hreg.elsewhere
        have hidle : (Tracee.registered child child false false).has_pending_syscall = false := rfl
        apply h₀.elsewhere helse
        unfold Context.waiting
        rw [hreg.lookup, if_pos ⟨rfl, hnone child⟩]
        simp [hidle]
      apply holds_wait_for_initial_stop
      · rw [holds_get, Tracees.get_eq]
        cases hknown : c₁.tracees.lookup child with
        | none => trivial
        | some root =>
          have hidle : root.has_pending_syscall = false := by
            have hnot := h₁.idle child
            rw [Context.waiting_eq hknown] at hnot
            simpa using hnot
          have h₂ := h₁.store (t := { root with in_ptrace_stop := true, phase := .SG_TRACEE_STOPPED })
            hidle
          have h₃ : Untouched { c₁ with
              tracees := c₁.tracees.write { root with
                in_ptrace_stop := true, phase := .SG_TRACEE_STOPPED }
              requests := c₁.requests ++ [⟨.PTRACE_SETOPTIONS, child, ptrace_options config true⟩] } := by
            refine ⟨h₂.idle, ?_⟩
            show (c₁.requests ++ [_]).filter _ = []
            rw [List.filter_append, List.append_eq_nil_iff]
            exact ⟨h₁.restarts, rfl⟩
          unfold install_ptrace_options
          simp only [holds_bind, holds_store, holds_onError, holds_measured_ptrace, holds_ite,
            holds_pure, holds_throw, implies_true, and_true]
          intro _ _
          exact h₃.store hidle
      · exact fun _ => trivial
    · intro _ _ _
      trivial

/-- **A launched command** is a start: nothing but its root has been restarted, and in seccomp
    mode with `PTRACE_CONT`. -/
theorem begin_run_starts (answers : LaunchAnswers) :
    Holds (begin_run config env answers) .init (fun _ c => Starts config c) (fun _ _ => True) := by
  unfold begin_run
  rw [holds_bind]
  apply (launch_untouched answers).mono
  · intro _ c₁ h₁
    have hidle : Starts config c₁ := ⟨h₁.idle, by simp [h₁.restarts]⟩
    unfold resume_root
    cases config.mode with
    | SG_RUN_ATTACH => exact hidle
    | SG_RUN_LAUNCH =>
      simp only [holds_bind, holds_get, Tracees.get_eq]
      cases hknown : c₁.tracees.lookup c₁.root_tid with
      | none => trivial
      | some root =>
        have hroot : root.has_pending_syscall = false := by
          have hnot := h₁.idle c₁.root_tid
          rw [Context.waiting_eq hknown] at hnot
          simpa using hnot
        unfold resume_tracee
        simp only [holds_bind, holds_measured_ptrace, holds_ite, holds_store, holds_throw,
          implies_true, and_true]
        intro _
        refine ⟨(h₁.store (t := { root with in_ptrace_stop := false }) hroot).idle, ?_⟩
        intro hseccomp request hrequest
        have hone : request ∈ (c₁.requests ++
            [(⟨resume_request config root, root.tid, 0⟩ : Request)]).filter Request.is_restart :=
          hrequest
        rw [List.filter_append, List.mem_append] at hone
        obtain hold | hnew := hone
        · have hnil : c₁.requests.filter Request.is_restart = [] := h₁.restarts
          rw [hnil] at hold
          simp at hold
        · rw [List.mem_singleton.mp (List.mem_filter.mp hnew).1]
          simp [resume_request, hseccomp, hroot]
  · intro _ _ _
    trivial

end launch

/-! ### A run in seccomp mode -/

/-- Launched with `--seccomp-bpf`. -/
def Config.filtering : Config := { Config.plain .SG_FORMAT_TEXT with seccomp_bpf := true }

/-- The seccomp event of a call. -/
def seccomp_report (tid : Pid) (number : UInt64) : Report where
  waited := .status tid (.stopped SIGTRAP PTRACE_EVENT_SECCOMP) { Answers.plain none with
    syscall_info := some ⟨sizeof_entry, PTRACE_SYSCALL_INFO_SECCOMP, AUDIT_ARCH_X86_64, number,
      Vector.replicate 6 7, 0, false⟩ }
  shutdown_signal := 0

/-- Another program runs in the task that was `former`. -/
def exec_report (tid : Pid) (former : Nat) : Report where
  waited := .status tid (.stopped SIGTRAP PTRACE_EVENT_EXEC) (Answers.plain (some former))
  shutdown_signal := 0

/-- The child leaves the call in which it has waited for the tracer and runs the command,
    which is interrupted in `read`. -/
def filtered_turns : List Turn :=
  [.leaves 100, .report (seccomp_report 100 59), .report (exec_report 100 100), .leaves 100,
    .report (seccomp_report 100 0), .report (exit_report 100 (-512) true)]

/-- The next seccomp event, of `rt_sigreturn`, finds no call pending. -/
theorem entry_before_exit_sigreturn :
    ∃ start c kernel,
      Reaches (kernel_step .filtering .reliable) (KernelAllows .filtering)
        (start, Kernel.start start) filtered_turns (c, kernel) ∧
      ((loop_round .filtering .reliable (seccomp_report 100 15)).exec c).1 ≠
        .error entry_before_exit := by
  let begin : TraceM Unit := begin_run .filtering .reliable .plain
  let start : Context := begin.finalState .init
  have hsucceeds : begin.succeeds .init = true := by decide +kernel
  have hstart : Starts .filtering start :=
    (begin_run_starts .plain).of_ok (exec_of_succeeds hsucceeds)
  have hrun : (run (kernel_step .filtering .reliable) (start, Kernel.start start)
      filtered_turns).isSome := by decide +kernel
  obtain ⟨⟨c, kernel⟩, hc⟩ := Option.isSome_iff_exists.mp hrun
  have hallowed : ∀ k : Fin filtered_turns.length,
      ∀ state ∈ run (kernel_step .filtering .reliable) (start, Kernel.start start)
        (filtered_turns.take k),
      KernelAllows .filtering (filtered_turns.take k) state (filtered_turns.get k) := by
    decide +kernel
  have hnext : ∀ state ∈ run (kernel_step .filtering .reliable) (start, Kernel.start start)
      filtered_turns,
      KernelAllows .filtering filtered_turns state (.report (seccomp_report 100 15)) := by
    decide +kernel
  have hr : Reaches (kernel_step .filtering .reliable) (KernelAllows .filtering)
      (start, Kernel.start start) filtered_turns (c, kernel) :=
    reaches_of_run_at (fun k state hstate => hallowed k state hstate) hc
  exact ⟨start, c, kernel, hr, entry_before_exit_unreachable hstart hr (hnext _ hc)⟩

end Sysgaze
