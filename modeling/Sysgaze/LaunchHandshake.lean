import Sysgaze.Alternation
import Sysgaze.Killing

/-! # The launch of a command (`trace.c`)

    From the fork in `launch_tracee` on two programs run.  The child asks to be traced,
    stops itself, installs the filter of `--seccomp-bpf` and runs the command.  The tracer
    waits for the stop, sets the options, installs its handlers and restarts the child.

    The two and the kernel are one system here (`Launch.Step`).  Every call may fail, and
    signals may be sent to the child at any time.  `launch_handshake`: whatever the order of
    the steps, the command runs only under a tracer that has done its part, with the options
    set and the filter installed, and the first stop in it is that of its `execve`.
-/

open Fallible

namespace Sysgaze

abbrev SIGKILL : Int := 9

/-! ### The child -/

/-- What the child does, call by call. -/
inductive ChildCall where
  | PTRACE_TRACEME
  | raise_SIGSTOP
  | PR_SET_NO_NEW_PRIVS
  | SECCOMP_SET_MODE_FILTER
  | execvp
  deriving DecidableEq

/-- The calls of the child in `launch_tracee`, with those of `install_seccomp_program`. -/
def child_program (config : Config) : List ChildCall :=
  [.PTRACE_TRACEME, .raise_SIGSTOP] ++
    (if config.seccomp_bpf then [.PR_SET_NO_NEW_PRIVS, .SECCOMP_SET_MODE_FILTER] else []) ++
    [.execvp]

/-- What the child says when a call has failed, and its exit code: `child_fail`, and the failures
    of `install_seccomp_program`. -/
def ChildCall.failure (command strerror : String) : ChildCall → String × Int
  | .PTRACE_TRACEME => (s!"sysgaze: child PTRACE_TRACEME failed: {strerror}\n", 127)
  | .raise_SIGSTOP => (s!"sysgaze: child synchronization stop failed: {strerror}\n", 127)
  | .PR_SET_NO_NEW_PRIVS => (s!"sysgaze: child PR_SET_NO_NEW_PRIVS failed: {strerror}\n", 126)
  | .SECCOMP_SET_MODE_FILTER =>
    (s!"sysgaze: child seccomp-BPF installation failed: {strerror}\n", 126)
  | .execvp => (s!"sysgaze: cannot execute '{command}': {strerror}\n", 127)

/-- What a task does. -/
inductive TaskState where
  | running
  /-- It is in a stop that its tracer is told about. -/
  | stopped (signal : Int) (ptrace_event : Nat)
  /-- A signal has stopped it, and nobody traces it. -/
  | suspended
  | ended (status : WaitStatus)
  deriving DecidableEq

/-- The child, as the kernel knows it. -/
structure Child where
  /-- The calls that it still has to make. -/
  todo : List ChildCall
  state : TaskState
  traced : Bool
  /-- The options that its tracer has set. -/
  options : Nat
  no_new_privs : Bool
  filtered : Bool
  /-- Does it run the command? -/
  command : Bool
  /-- The signals that it has been sent. -/
  pending : List Int
  /-- What it has written to the standard error. -/
  said : List String

namespace Child

/-- The child after the fork. -/
def forked (config : Config) : Child where
  todo := child_program config
  state := .running
  traced := false
  options := 0
  no_new_privs := false
  filtered := false
  command := false
  pending := []
  said := []

variable (child : Child)

/-- A signal is sent. -/
def send (signal : Int) : Child := { child with pending := child.pending ++ [signal] }

/-- A call succeeds.  A task that is traced with `PTRACE_O_TRACEEXEC` stops in `execve`. -/
def succeed : ChildCall → Child
  | .PTRACE_TRACEME => { child with traced := true }
  | .raise_SIGSTOP => child.send SIGSTOP
  | .PR_SET_NO_NEW_PRIVS => { child with no_new_privs := true }
  | .SECCOMP_SET_MODE_FILTER => { child with filtered := true }
  | .execvp =>
    { child with
      command := true
      state := if child.traced && child.options.testBit 4 then .stopped SIGTRAP PTRACE_EVENT_EXEC
        else child.state }

/-- What `waitpid` reports about the child. -/
def reported : Option WaitStatus :=
  match child.state with
  | .stopped signal ptrace_event => some (.stopped signal ptrace_event)
  | .ended status => some status
  | _ => none

/-- The child and the kernel take a step.  The calls of a task go on when no signal is pending; a
    signal stops a task that is traced and has its default action, or none, otherwise. -/
inductive Step : Child → Child → Prop
  | succeeds {child : Child} {call : ChildCall} {rest : List ChildCall} :
      child.state = .running → child.pending = [] → child.todo = call :: rest →
      Step child ({ child with todo := rest }.succeed call)
  | fails {child : Child} {call : ChildCall} {rest : List ChildCall} (command strerror : String) :
      child.state = .running → child.pending = [] → child.todo = call :: rest →
      Step child { child with
        said := child.said ++ [(call.failure command strerror).1]
        state := .ended (.exited (call.failure command strerror).2) }
  | stops {child : Child} {signal : Int} :
      child.state = .running → signal ∈ child.pending → signal ≠ SIGKILL → child.traced = true →
      Step child { child with
        state := .stopped signal 0
        pending := child.pending.erase signal }
  | ignores {child : Child} {signal : Int} :
      child.state = .running → signal ∈ child.pending → signal ≠ SIGKILL → child.traced = false →
      Step child { child with pending := child.pending.erase signal }
  | suspends {child : Child} {signal : Int} :
      child.state = .running → signal ∈ child.pending → signal ≠ SIGKILL → child.traced = false →
      Step child { child with
        state := .suspended
        pending := child.pending.erase signal }
  | dies {child : Child} {signal : Int} :
      child.state = .running → signal ∈ child.pending → child.traced = false →
      Step child { child with state := .ended (.signaled signal) }
  | continues {child : Child} :
      child.state = .suspended → Step child { child with state := .running }
  | killed {child : Child} :
      (∀ status, child.state ≠ .ended status) → SIGKILL ∈ child.pending →
      Step child { child with state := .ended (.signaled SIGKILL) }
  | exits {child : Child} (code : Int) :
      child.state = .running → child.command = true →
      Step child { child with state := .ended (.exited code) }

end Child

/-! ### The tracer -/

/-- Where the tracer is. -/
inductive TracerPoint where
  /-- In `wait_for_initial_stop`. -/
  | waiting
  /-- In `install_ptrace_options`. -/
  | setting_options
  /-- In `install_shutdown_handlers`. -/
  | installing_handlers
  /-- At the beginning of `trace_loop`. -/
  | resuming
  /-- In the loop. -/
  | tracing
  /-- Something has failed. -/
  | failed
  /-- In the loop of `kill_all_tracees`, after the signals have been sent. -/
  | killing
  /-- `kill_all_tracees` has returned. -/
  | done
  deriving DecidableEq

/-- The system.  The answers that the tracer has got are kept; those that it has not got count as
    failures. -/
structure Launch where
  tracer : TracerPoint
  child : Child
  answers : LaunchAnswers

/-- Is it the stop that the tracer waits for? -/
def WaitStatus.synchronizes : WaitStatus → Bool
  | .stopped stop _ => stop = SIGSTOP
  | _ => false

/-- Is there room for the record of the child? -/
def has_room (env : Env) (pid : Pid) : Bool :=
  (add_tracee env pid pid false false).succeeds { Context.init with root_tid := pid }

namespace Launch

/-- After the fork, when the child has got its record or there was no room for it. -/
def start (config : Config) (env : Env) (pid : Pid) : Launch where
  tracer := if has_room env pid then .waiting else .failed
  child := .forked config
  answers := ⟨.ok pid, none, false, false, .failed⟩

/-- One step of the child, of the tracer, or of somebody who sends a signal. -/
inductive Step (config : Config) : Launch → Launch → Prop
  | child {s : Launch} {child : Child} : s.child.Step child →
      Step config s { s with child := child }
  | signal {s : Launch} (signal : Int) : Step config s { s with child := s.child.send signal }
  | waits {s : Launch} {status : WaitStatus} : s.tracer = .waiting →
      s.child.reported = some status → Step config s { s with
        tracer := if status.synchronizes then .setting_options else .failed
        answers := { s.answers with initial := some status } }
  | wait_fails {s : Launch} : s.tracer = .waiting → Step config s { s with tracer := .failed }
  | sets_options {s : Launch} : s.tracer = .setting_options →
      (∃ signal ptrace_event, s.child.state = .stopped signal ptrace_event) →
      Step config s { s with
        tracer := .installing_handlers
        child := { s.child with options := ptrace_options config true }
        answers := { s.answers with options := true } }
  | options_fail {s : Launch} : s.tracer = .setting_options →
      Step config s { s with tracer := .failed }
  | handlers {s : Launch} (installed : Bool) : s.tracer = .installing_handlers →
      Step config s { s with
        tracer := if installed then .resuming else .failed
        answers := { s.answers with handlers := installed } }
  | resumes {s : Launch} : s.tracer = .resuming →
      (∃ signal ptrace_event, s.child.state = .stopped signal ptrace_event) →
      Step config s { s with
        tracer := .tracing
        child := { s.child with state := .running }
        answers := { s.answers with resume := .ok } }
  | resume_fails {s : Launch} (answer : RestartAnswer) : s.tracer = .resuming → answer ≠ .ok →
      Step config s { s with
        tracer := .failed
        answers := { s.answers with resume := answer } }
  -- In its loop the tracer restarts the child whenever it has stopped, and may pass a signal on.
  | restarts {s : Launch} : s.tracer = .tracing →
      (∃ signal ptrace_event, s.child.state = .stopped signal ptrace_event) →
      Step config s { s with child := { s.child with state := .running } }
  | passes {s : Launch} (signal : Int) : s.tracer = .tracing →
      (∃ signal ptrace_event, s.child.state = .stopped signal ptrace_event) →
      Step config s { s with child := { s.child with state := .ended (.signaled signal) } }
  | kills {s : Launch} : s.tracer = .failed →
      Step config s { s with tracer := .killing, child := s.child.send SIGKILL }
  | reaps {s : Launch} : s.tracer = .killing → (∃ status, s.child.state = .ended status) →
      Step config s { s with tracer := .done }

/-- The states that can be reached. -/
inductive Runs (config : Config) (env : Env) (pid : Pid) : Launch → Prop
  | start : Runs config env pid (.start config env pid)
  | step {s s' : Launch} : Runs config env pid s → Step config s s' → Runs config env pid s'

end Launch

/-! ### What the tracer does -/

/-- The tracer has got all the answers that it needs. -/
structure LaunchAnswers.Favourable (answers : LaunchAnswers) : Prop where
  initial : ∃ status, answers.initial = some status ∧ status.synchronizes = true
  options : answers.options = true
  handlers : answers.handlers = true
  resume : answers.resume = .ok

section begins
variable {config : Config} {env : Env} {answers : LaunchAnswers} {pid : Pid}

theorem holds_wait_for_initial_stop_iff (initial : Option WaitStatus) (c : Context) :
    Holds (wait_for_initial_stop env initial) c
      (fun _ c' => c' = c ∧ ∃ status, initial = some status ∧ status.synchronizes = true)
      (fun _ _ => ¬∃ status, initial = some status ∧ status.synchronizes = true) := by
  unfold wait_for_initial_stop
  cases initial with
  | none =>
    intro h
    obtain ⟨status, hstatus, _⟩ := h
    simp at hstatus
  | some status =>
    have honly : (∃ status', some status = some status' ∧ status'.synchronizes = true) →
        status.synchronizes = true := by
      intro h
      obtain ⟨status', hsame, h⟩ := h
      rwa [Option.some.inj hsame]
    cases status with
    | stopped stop ptrace_event =>
      dsimp only
      rw [holds_ite]
      constructor
      · intro hstop
        exact ⟨rfl, _, rfl, decide_eq_true hstop⟩
      · intro hstop h
        exact hstop (of_decide_eq_true (honly h))
    | _ => exact fun h => absurd (honly h) Bool.false_ne_true

/-- **The launch succeeds** if and only if there is room for the child and every answer is
    favourable. -/
theorem begin_run_succeeds_iff (hmode : config.mode = .SG_RUN_LAUNCH)
    (hchild : answers.child = .ok pid) :
    (begin_run config env answers).succeeds .init = true ↔
      has_room env pid = true ∧ answers.Favourable := by
  apply Holds.succeeds_iff
  unfold begin_run launch
  rw [hchild]
  simp only [holds_bind, holds_modify]
  -- Without room for the first record the launch fails at once.
  have hadded : Holds (add_tracee env pid pid false false) { Context.init with root_tid := pid }
      (fun _ c => c.root_tid = pid ∧ (c.tracees.lookup pid).isSome ∧ has_room env pid = true)
      (fun _ _ => ¬(has_room env pid = true)) := by
    by_cases hroom : has_room env pid = true
    · obtain ⟨_, c₁, hexec⟩ := succeeds_iff.mp hroom
      rw [holds_of_ok hexec]
      obtain ⟨_, _, hreg⟩ := (add_tracee_spec pid pid false false).of_ok hexec
      refine ⟨congrArg Context.Rest.root_tid hreg.rest, ?_, hroom⟩
      rw [hreg.lookup]
      split
      · rfl
      · rename_i hold
        exact absurd ⟨rfl, Tracees.count_eq_zero.mp rfl pid⟩ hold
    · unfold Holds
      split
      · rename_i hexec
        exact absurd (succeeds_iff.mpr ⟨_, _, hexec⟩) hroom
      · exact hroom
  apply hadded.mono
  · intro _ c₁ hpost
    obtain ⟨hroot, hknown, hroom⟩ := hpost
    apply (holds_wait_for_initial_stop_iff answers.initial c₁).mono
    · intro _ c₂ hpost
      obtain ⟨rfl, hinitial⟩ := hpost
      rw [holds_get, Tracees.get_eq]
      obtain ⟨root, hold⟩ := Option.isSome_iff_exists.mp hknown
      have htid : root.tid = pid := Tracees.lookup_tid hold
      subst htid
      rw [hold]
      unfold install_ptrace_options resume_root
      rw [hmode]
      simp only [holds_bind, holds_store, holds_onError, holds_measured_ptrace, holds_ite,
        holds_pure, holds_throw, holds_get, Tracees.get_eq, hroot]
      -- Each answer stands for a step that can fail; behind the last one the child runs.
      refine ⟨fun hoptions => ⟨fun hhandlers => ?_, fun h hboth => h hboth.2.handlers⟩,
        fun h hboth => h hboth.2.options⟩
      have hwritten : ∀ t : Tracee, ((c₂.tracees.write t).lookup root.tid).isSome = true := by
        intro t
        rw [Tracees.lookup_write]
        split
        · rfl
        · exact hknown
      rw [Tracees.lookup_write, if_pos ⟨rfl, hwritten _⟩]
      unfold resume_tracee
      simp only [holds_bind, holds_measured_ptrace, holds_ite, holds_store, holds_throw]
      exact ⟨fun hresume => ⟨hroom, hinitial, hoptions, hhandlers, hresume⟩,
        fun h hboth => h hboth.2.resume⟩
    · exact fun _ _ h hboth => h hboth.2.initial
  · exact fun _ _ h hboth => h hboth.1

end begins

/-! ### The invariant -/

/-- How far the tracer has come. -/
def TracerPoint.progress : TracerPoint → Nat
  | .waiting => 1
  | .setting_options => 2
  | .installing_handlers => 3
  | .resuming => 4
  | .tracing => 5
  | .failed | .killing | .done => 0

/-- What the child still has to do after a call. -/
def ChildCall.after (config : Config) : ChildCall → List ChildCall
  | .PTRACE_TRACEME =>
    .raise_SIGSTOP ::
      ((if config.seccomp_bpf then [.PR_SET_NO_NEW_PRIVS, .SECCOMP_SET_MODE_FILTER] else []) ++
        [.execvp])
  | .raise_SIGSTOP =>
    (if config.seccomp_bpf then [.PR_SET_NO_NEW_PRIVS, .SECCOMP_SET_MODE_FILTER] else []) ++
      [.execvp]
  | .PR_SET_NO_NEW_PRIVS => [.SECCOMP_SET_MODE_FILTER, .execvp]
  | .SECCOMP_SET_MODE_FILTER => [.execvp]
  | .execvp => []

/-- The child has made the calls that it no longer has to make, and runs on from its
    synchronization stop only when the tracer has restarted it. -/
structure Child.Held (child : Child) (config : Config) (tracer : TracerPoint) : Prop where
  todo : child.todo <:+ child_program config
  traced : .PTRACE_TRACEME ∉ child.todo → child.traced = true
  awake : child.traced = true → child.state ≠ .suspended
  held : .raise_SIGSTOP ∉ child.todo → tracer ≠ .tracing → child.state = .running →
    SIGSTOP ∈ child.pending
  unprivileged : config.seccomp_bpf = true → .PR_SET_NO_NEW_PRIVS ∉ child.todo →
    child.no_new_privs = true
  installed : config.seccomp_bpf = true → .SECCOMP_SET_MODE_FILTER ∉ child.todo →
    child.filtered = true
  filtered : child.filtered = true → tracer = .tracing
  command : child.command = true → .execvp ∉ child.todo ∧ tracer = .tracing
  options : 3 ≤ tracer.progress → child.options = ptrace_options config true

/-- What the tracer has been answered, and what has become of the child after a failure. -/
structure Launch.Answered (env : Env) (pid : Pid) (s : Launch) : Prop where
  child : s.answers.child = .ok pid
  room : 1 ≤ s.tracer.progress → has_room env pid = true
  initial : 2 ≤ s.tracer.progress →
    ∃ status, s.answers.initial = some status ∧ status.synchronizes = true
  options : 3 ≤ s.tracer.progress → s.answers.options = true
  handlers : 4 ≤ s.tracer.progress → s.answers.handlers = true
  resume : s.answers.resume = .ok ↔ s.tracer = .tracing
  killed : s.tracer = .killing →
    SIGKILL ∈ s.child.pending ∨ ∃ status, s.child.state = .ended status
  reaped : s.tracer = .done → ∃ status, s.child.state = .ended status

section invariant
variable {config : Config} {env : Env} {pid : Pid} {s s' : Launch} {child child' : Child}
  {tracer : TracerPoint}

/-- What is left of the program after a call. -/
theorem rest_of_program {call : ChildCall} {rest : List ChildCall}
    (h : call :: rest <:+ child_program config) :
    rest = call.after config ∧
      (call = .PR_SET_NO_NEW_PRIVS ∨ call = .SECCOMP_SET_MODE_FILTER →
        config.seccomp_bpf = true) := by
  have hmem := (List.mem_tails _ _).mpr h
  unfold child_program at hmem
  cases hmode : config.seccomp_bpf with
  | false =>
    rw [hmode] at hmem
    cases call <;> simp_all [ChildCall.after]
  | true =>
    rw [hmode] at hmem
    cases call <;> simp_all [ChildCall.after]

/-- A call that succeeds. -/
theorem Child.Held.succeed {call : ChildCall} {rest : List ChildCall}
    (h : child.Held config tracer) (hrunning : child.state = .running)
    (hpending : child.pending = []) (htodo : child.todo = call :: rest) :
    ({ child with todo := rest }.succeed call).Held config tracer := by
  have hprogram := h.todo
  rw [htodo] at hprogram
  obtain ⟨hrest, hseccomp⟩ := rest_of_program hprogram
  have hsuffix : rest <:+ child_program config := (List.suffix_cons _ _).trans hprogram
  subst hrest
  have hawake : child.state ≠ .suspended := by
    rw [hrunning]
    simp
  have htraced : call ≠ .PTRACE_TRACEME → child.traced = true := by
    intro hcall
    apply h.traced
    rw [htodo]
    cases call <;> simp_all [ChildCall.after]
  -- After the synchronization stop the tracer has restarted the child.
  have htracing : call ≠ .PTRACE_TRACEME → call ≠ .raise_SIGSTOP → tracer = .tracing := by
    intro hcall hcall'
    by_contra hother
    have hmem : .raise_SIGSTOP ∉ child.todo := by
      rw [htodo]
      cases call <;> simp_all [ChildCall.after]
    have hheld := h.held hmem hother hrunning
    rw [hpending] at hheld
    simp at hheld
  have hprivs : call = .SECCOMP_SET_MODE_FILTER ∨ call = .execvp → config.seccomp_bpf = true →
      child.no_new_privs = true := by
    intro hcall hmode
    apply h.unprivileged hmode
    rw [htodo]
    obtain rfl | rfl := hcall
    · simp [ChildCall.after]
    · simp [ChildCall.after]
  have hcommand : child.command = false := by
    by_contra hcommand
    have hnot := (h.command (by simpa using hcommand)).1
    rw [htodo] at hnot
    cases call <;> simp [ChildCall.after] at hnot
  have hfiltered : child.filtered = true → tracer = .tracing := h.filtered
  -- What is still to be done is not done yet.
  have hlater : ∀ {call' : ChildCall} {P : Prop},
      call' ∈ call.after config → call' ∉ call.after config → P :=
    fun hin hnot => absurd hin hnot
  cases call with
  | PTRACE_TRACEME =>
    refine ⟨hsuffix, fun _ => rfl, fun _ => hawake, fun hnot => hlater ?_ hnot,
      fun hmode hnot => hlater ?_ hnot, fun hmode hnot => hlater ?_ hnot, hfiltered,
      fun hruns => absurd (hcommand.symm.trans hruns) Bool.false_ne_true, h.options⟩
    · simp [ChildCall.after]
    · simp [ChildCall.after, hmode]
    · simp [ChildCall.after, hmode]
  | raise_SIGSTOP =>
    refine ⟨hsuffix, fun _ => htraced (by simp), fun _ => hawake,
      fun _ _ _ => List.mem_append_right _ List.mem_cons_self,
      fun hmode hnot => hlater ?_ hnot, fun hmode hnot => hlater ?_ hnot, hfiltered,
      fun hruns => absurd (hcommand.symm.trans hruns) Bool.false_ne_true, h.options⟩
    · simp [ChildCall.after, hmode]
    · simp [ChildCall.after, hmode]
  | PR_SET_NO_NEW_PRIVS =>
    have htracing := htracing (by simp) (by simp)
    refine ⟨hsuffix, fun _ => htraced (by simp), fun _ => hawake, fun _ h => absurd htracing h,
      fun _ _ => rfl, fun _ hnot => hlater ?_ hnot, hfiltered,
      fun hruns => absurd (hcommand.symm.trans hruns) Bool.false_ne_true, h.options⟩
    simp [ChildCall.after]
  | SECCOMP_SET_MODE_FILTER =>
    have htracing := htracing (by simp) (by simp)
    exact ⟨hsuffix, fun _ => htraced (by simp), fun _ => hawake, fun _ h => absurd htracing h,
      fun hmode _ => hprivs (Or.inl rfl) hmode, fun _ _ => rfl, fun _ => htracing,
      fun hruns => absurd (hcommand.symm.trans hruns) Bool.false_ne_true, h.options⟩
  | execvp =>
    have htracing := htracing (by simp) (by simp)
    have hinstalled : config.seccomp_bpf = true → child.filtered = true := by
      intro hmode
      apply h.installed hmode
      rw [htodo]
      simp [ChildCall.after]
    refine ⟨hsuffix, fun _ => htraced (by simp), fun _ => ?_, fun _ h => absurd htracing h,
      fun hmode _ => hprivs (Or.inr rfl) hmode, fun hmode _ => hinstalled hmode, hfiltered,
      fun _ => ⟨?_, htracing⟩, h.options⟩
    · show (if _ then TaskState.stopped SIGTRAP PTRACE_EVENT_EXEC else child.state) ≠ .suspended
      split
      · simp
      · exact hawake
    · show ChildCall.execvp ∉ ([] : List ChildCall)
      simp

/-- The child is as it was, apart from its state and its signals. -/
theorem Child.Held.same {state : TaskState} {pending : List Int} (said : List String)
    (h : child.Held config tracer) (hawake : child.traced = true → state ≠ .suspended)
    (hheld : .raise_SIGSTOP ∉ child.todo → tracer ≠ .tracing → state = .running →
      SIGSTOP ∈ pending) :
    ({ child with state := state, pending := pending, said := said } : Child).Held config tracer :=
  ⟨h.todo, h.traced, hawake, hheld, h.unprivileged, h.installed, h.filtered, h.command, h.options⟩

/-- After its synchronization stop the child is traced. -/
theorem Child.Held.traced_of_raised (h : child.Held config tracer)
    (hraised : .raise_SIGSTOP ∉ child.todo) : child.traced = true := by
  apply h.traced
  intro hin
  apply hraised
  have hprogram := h.todo
  cases htodo : child.todo with
  | nil =>
    rw [htodo] at hin
    simp at hin
  | cons call rest =>
    rw [htodo] at hin hprogram
    obtain ⟨rfl, _⟩ := rest_of_program hprogram
    cases call <;> simp [ChildCall.after] at hin ⊢

/-- **A step of the child.** -/
theorem Child.Step.held (hstep : child.Step child') (h : child.Held config tracer) :
    child'.Held config tracer := by
  have hended : ∀ status, TaskState.ended status ≠ .running := by simp
  cases hstep with
  | succeeds hrunning hpending htodo => exact h.succeed hrunning hpending htodo
  | fails command strerror =>
    exact h.same _ (fun _ => by simp) fun _ _ hrunning => absurd hrunning (hended _)
  | stops => exact h.same _ (fun _ => by simp) fun _ _ hrunning => by simp at hrunning
  | ignores _ _ _ htraced =>
    refine h.same _ h.awake fun hraised _ _ => ?_
    rw [h.traced_of_raised hraised] at htraced
    simp at htraced
  | suspends _ _ _ htraced =>
    exact h.same _ (fun htraced' => absurd (htraced'.symm.trans htraced) (by simp))
      fun _ _ hrunning => by simp at hrunning
  | dies => exact h.same _ (fun _ => by simp) fun _ _ hrunning => absurd hrunning (hended _)
  | continues hsuspended =>
    refine h.same _ (fun _ => by simp) fun hraised _ _ => ?_
    exact absurd hsuspended (h.awake (h.traced_of_raised hraised))
  | killed => exact h.same _ (fun _ => by simp) fun _ _ hrunning => absurd hrunning (hended _)
  | exits => exact h.same _ (fun _ => by simp) fun _ _ hrunning => absurd hrunning (hended _)

/-- What only the tracer changes is kept. -/
theorem Child.Step.options (hstep : child.Step child') : child'.options = child.options := by
  cases hstep with
  | succeeds _ _ _ =>
    rename_i call rest _ _ _
    cases call <;> rfl
  | _ => rfl

/-- A task that has ended takes no step. -/
theorem Child.Step.not_ended (hstep : child.Step child') (status : WaitStatus) :
    child.state ≠ .ended status := by
  cases hstep with
  | continues hsuspended => rw [hsuspended]; simp
  | killed hnot => exact hnot status
  | succeeds hrunning => rw [hrunning]; simp
  | fails _ _ hrunning => rw [hrunning]; simp
  | stops hrunning => rw [hrunning]; simp
  | ignores hrunning => rw [hrunning]; simp
  | suspends hrunning => rw [hrunning]; simp
  | dies hrunning => rw [hrunning]; simp
  | exits _ hrunning => rw [hrunning]; simp

/-- A child that has been killed stays so. -/
theorem Child.Step.dead (hstep : child.Step child') (h : SIGKILL ∈ child.pending) :
    SIGKILL ∈ child'.pending ∨ ∃ status, child'.state = .ended status := by
  have herase : ∀ {signal : Int}, signal ≠ SIGKILL → SIGKILL ∈ child.pending.erase signal :=
    fun hne => (List.mem_erase_of_ne hne.symm).mpr h
  cases hstep with
  | succeeds _ hpending =>
    rw [hpending] at h
    simp at h
  | fails => exact Or.inr ⟨_, rfl⟩
  | stops _ _ hne => exact Or.inl (herase hne)
  | ignores _ _ hne => exact Or.inl (herase hne)
  | suspends _ _ hne => exact Or.inl (herase hne)
  | dies => exact Or.inr ⟨_, rfl⟩
  | continues => exact Or.inl h
  | killed => exact Or.inr ⟨_, rfl⟩
  | exits => exact Or.inr ⟨_, rfl⟩

/-- Only the child changes. -/
theorem Launch.Answered.same (h : s.Answered env pid)
    (hdead : (SIGKILL ∈ s.child.pending ∨ ∃ status, s.child.state = .ended status) →
      SIGKILL ∈ child'.pending ∨ ∃ status, child'.state = .ended status)
    (hended : (∃ status, s.child.state = .ended status) → ∃ status, child'.state = .ended status) :
    ({ s with child := child' } : Launch).Answered env pid :=
  ⟨h.child, h.room, h.initial, h.options, h.handlers, h.resume,
    fun hpoint => hdead (h.killed hpoint), fun hpoint => hended (h.reaped hpoint)⟩

/-- The point of the tracer changes, to one at which the child may do the same. -/
theorem Child.Held.point {tracer' : TracerPoint} (h : child.Held config tracer)
    (htracing : tracer = .tracing ↔ tracer' = .tracing)
    (hoptions : 3 ≤ tracer'.progress → 3 ≤ tracer.progress) : child.Held config tracer' :=
  ⟨h.todo, h.traced, h.awake, fun hraised hnot => h.held hraised fun heq => hnot (htracing.mp heq),
    h.unprivileged, h.installed, fun hfiltered => htracing.mp (h.filtered hfiltered),
    fun hcommand => ⟨(h.command hcommand).1, htracing.mp (h.command hcommand).2⟩,
    fun hlate => h.options (hoptions hlate)⟩

/-- The child changes while the tracer is in its loop. -/
theorem Launch.Answered.in_loop (h : s.Answered env pid) (hpoint : s.tracer = .tracing) :
    ({ s with child := child' } : Launch).Answered env pid :=
  ⟨h.child, h.room, h.initial, h.options, h.handlers, h.resume,
    fun heq => by simp [hpoint] at heq, fun heq => by simp [hpoint] at heq⟩

/-- The launch fails. -/
theorem Launch.Answered.fails (h : s.Answered env pid) (answers : LaunchAnswers)
    (hchild : answers.child = s.answers.child) (hresume : answers.resume ≠ .ok) :
    ({ s with tracer := .failed, answers := answers } : Launch).Answered env pid := by
  refine ⟨hchild.trans h.child, ?_, ?_, ?_, ?_, ⟨fun hok => absurd hok hresume, ?_⟩, ?_, ?_⟩
  all_goals simp [TracerPoint.progress]

theorem Child.Held.fails (h : child.Held config tracer) (hnot : tracer ≠ .tracing) :
    child.Held config .failed := by
  refine h.point ⟨fun heq => absurd heq hnot, ?_⟩ ?_
  all_goals simp [TracerPoint.progress]

/-- **A step of the system.** -/
theorem Launch.Step.invariant (hstep : Launch.Step config s s')
    (hheld : s.child.Held config s.tracer) (h : s.Answered env pid) :
    s'.child.Held config s'.tracer ∧ s'.Answered env pid := by
  have hno : ∀ {point : TracerPoint}, s.tracer = point → point ≠ .tracing → s.tracer ≠ .tracing :=
    fun hpoint hne heq => hne (hpoint.symm.trans heq)
  -- One case for each step of the child, of the kernel and of the tracer.
  cases hstep with
  | child hstep =>
    refine ⟨hstep.held hheld, h.same ?_ ?_⟩
    · intro hdead
      obtain hdead | ⟨status, hended⟩ := hdead
      · exact hstep.dead hdead
      · exact absurd hended (hstep.not_ended status)
    · intro hended
      obtain ⟨status, hended⟩ := hended
      exact absurd hended (hstep.not_ended status)
  | signal signal =>
    refine ⟨hheld.same s.child.said hheld.awake fun hraised hnot hrunning =>
      List.mem_append_left _ (hheld.held hraised hnot hrunning), h.same ?_ fun hended => hended⟩
    exact fun hdead => hdead.imp_left (List.mem_append_left _)
  | waits hpoint hreported =>
    rename_i status
    have hnot := hno hpoint (by simp)
    have hresume : s.answers.resume ≠ .ok := fun hok => hnot (h.resume.mp hok)
    have hroom := h.room (by rw [hpoint]; decide)
    -- The first status has to be the stop that the child has raised.
    cases hsync : status.synchronizes with
    | false => exact ⟨hheld.fails hnot, h.fails { s.answers with initial := some status } rfl hresume⟩
    | true =>
      refine ⟨hheld.point (by simp [hpoint]) (by simp [TracerPoint.progress]), h.child,
        fun _ => hroom, fun _ => ⟨status, rfl, hsync⟩, ?_, ?_, ⟨fun hok => absurd hok hresume, ?_⟩,
        ?_, ?_⟩
      all_goals simp [TracerPoint.progress]
  | wait_fails hpoint =>
    have hnot := hno hpoint (by simp)
    exact ⟨hheld.fails hnot, h.fails s.answers rfl fun hok => hnot (h.resume.mp hok)⟩
  | sets_options hpoint hstopped =>
    have hnot := hno hpoint (by simp)
    have hresume : s.answers.resume ≠ .ok := fun hok => hnot (h.resume.mp hok)
    have hroom := h.room (by rw [hpoint]; decide)
    have hinitial := h.initial (by rw [hpoint]; decide)
    constructor
    · exact ⟨hheld.todo, hheld.traced, hheld.awake, fun hraised _ => hheld.held hraised hnot,
        hheld.unprivileged, hheld.installed, fun hfiltered => absurd (hheld.filtered hfiltered) hnot,
        fun hcommand => absurd (hheld.command hcommand).2 hnot, fun _ => rfl⟩
    · refine ⟨h.child, fun _ => hroom, fun _ => hinitial, fun _ => rfl, ?_,
        ⟨fun hok => absurd hok hresume, ?_⟩, ?_, ?_⟩
      all_goals simp [TracerPoint.progress]
  | options_fail hpoint =>
    have hnot := hno hpoint (by simp)
    exact ⟨hheld.fails hnot, h.fails s.answers rfl fun hok => hnot (h.resume.mp hok)⟩
  | handlers installed hpoint =>
    have hnot := hno hpoint (by simp)
    have hresume : s.answers.resume ≠ .ok := fun hok => hnot (h.resume.mp hok)
    cases installed with
    | false => exact ⟨hheld.fails hnot, h.fails { s.answers with handlers := false } rfl hresume⟩
    | true =>
      have hbefore : 3 ≤ s.tracer.progress := by
        rw [hpoint]
        decide
      refine ⟨hheld.point (by simp [hpoint]) fun _ => hbefore, h.child,
        fun _ => h.room (by omega), fun _ => h.initial (by omega), fun _ => h.options hbefore,
        fun _ => rfl, ⟨fun hok => absurd hok hresume, ?_⟩, ?_, ?_⟩
      all_goals simp
  | resumes hpoint hstopped =>
    have hbefore : 4 ≤ s.tracer.progress := by
      rw [hpoint]
      decide
    constructor
    · exact ⟨hheld.todo, hheld.traced, fun _ => by simp, fun _ hnot => absurd rfl hnot,
        hheld.unprivileged, hheld.installed, fun _ => rfl,
        fun hcommand => ⟨(hheld.command hcommand).1, rfl⟩, fun _ => hheld.options (by omega)⟩
    · refine ⟨h.child, fun _ => h.room (by omega), fun _ => h.initial (by omega),
        fun _ => h.options (by omega), fun _ => h.handlers hbefore, ⟨fun _ => rfl, fun _ => rfl⟩,
        ?_, ?_⟩
      all_goals simp
  | resume_fails answer hpoint hanswer =>
    have hnot := hno hpoint (by simp)
    exact ⟨hheld.fails hnot, h.fails { s.answers with resume := answer } rfl hanswer⟩
  | restarts hpoint hstopped =>
    exact ⟨hheld.same s.child.said (fun _ => by simp) fun _ hnot => absurd hpoint hnot,
      h.in_loop hpoint⟩
  | passes signal hpoint hstopped =>
    exact ⟨hheld.same s.child.said (fun _ => by simp) fun _ hnot => absurd hpoint hnot,
      h.in_loop hpoint⟩
  | kills hpoint =>
    have hnot := hno hpoint (by simp)
    have hresume : s.answers.resume ≠ .ok := fun hok => hnot (h.resume.mp hok)
    -- The signal is only sent here; the child dies of it later.
    have hsent : (s.child.send SIGKILL).Held config s.tracer :=
      hheld.same s.child.said hheld.awake fun hraised hnot hrunning =>
        List.mem_append_left _ (hheld.held hraised hnot hrunning)
    refine ⟨hsent.point (by simp [hpoint]) (by simp [TracerPoint.progress]), h.child, ?_, ?_, ?_, ?_,
      ⟨fun hok => absurd hok hresume, ?_⟩,
      fun _ => Or.inl (List.mem_append_right _ List.mem_cons_self), ?_⟩
    all_goals simp [TracerPoint.progress]
  | reaps hpoint hended =>
    have hnot := hno hpoint (by simp)
    have hresume : s.answers.resume ≠ .ok := fun hok => hnot (h.resume.mp hok)
    refine ⟨hheld.point (by simp [hpoint]) (by simp [TracerPoint.progress]), h.child, ?_, ?_, ?_, ?_,
      ⟨fun hok => absurd hok hresume, ?_⟩, ?_, fun _ => hended⟩
    all_goals simp [TracerPoint.progress]

theorem Launch.start_invariant : (Launch.start config env pid).child.Held config
    (Launch.start config env pid).tracer ∧ (Launch.start config env pid).Answered env pid := by
  have hfirst : .PTRACE_TRACEME ∈ child_program config := List.mem_cons_self
  have hsecond : .raise_SIGSTOP ∈ child_program config := List.mem_cons_of_mem _ List.mem_cons_self
  have hfilter : config.seccomp_bpf = true → .PR_SET_NO_NEW_PRIVS ∈ child_program config ∧
      .SECCOMP_SET_MODE_FILTER ∈ child_program config := by
    intro hmode
    unfold child_program
    rw [hmode]
    simp
  have hheld : ∀ point : TracerPoint, point.progress < 3 →
      (Child.forked config).Held config point := by
    intro point hearly
    exact ⟨List.suffix_refl _, fun hnot => absurd hfirst hnot, fun h => by simp [Child.forked] at h,
      fun hnot => absurd hsecond hnot, fun hmode hnot => absurd (hfilter hmode).1 hnot,
      fun hmode hnot => absurd (hfilter hmode).2 hnot, fun h => by simp [Child.forked] at h,
      fun h => by simp [Child.forked] at h, fun hlate => by omega⟩
  unfold Launch.start
  cases hroom : has_room env pid with
  | false =>
    refine ⟨hheld .failed (by decide), rfl, ?_, ?_, ?_, ?_, ?_, ?_, ?_⟩
    all_goals simp [TracerPoint.progress]
  | true =>
    refine ⟨hheld .waiting (by decide), rfl, fun _ => hroom, ?_, ?_, ?_, ?_, ?_, ?_⟩
    all_goals simp [TracerPoint.progress]

theorem Launch.Runs.invariant (hr : Launch.Runs config env pid s) :
    s.child.Held config s.tracer ∧ s.Answered env pid := by
  induction hr with
  | start => exact Launch.start_invariant
  | step _ hstep ih => exact hstep.invariant ih.1 ih.2

/-- What the options of a launch contain. -/
theorem ptrace_options_exec (config : Config) : (ptrace_options config true).testBit 4 = true := by
  unfold ptrace_options
  cases config.follow <;> cases config.seccomp_bpf <;> decide

/-- The child that runs the command has nothing left to do. -/
theorem Child.Held.finished (h : child.Held config tracer) (hcommand : child.command = true) :
    child.todo = [] := by
  have hnot := (h.command hcommand).1
  have hprogram := h.todo
  cases htodo : child.todo with
  | nil => rfl
  | cons call rest =>
    rw [htodo] at hnot hprogram
    obtain ⟨rfl, _⟩ := rest_of_program hprogram
    cases call <;> simp [ChildCall.after] at hnot

/-- The child stops in the `execve` with which the command begins. -/
theorem Launch.Step.stops_in_exec (hstep : Launch.Step config s s')
    (hheld : s'.child.Held config s'.tracer) (hbefore : s.child.command = false)
    (hafter : s'.child.command = true) : s'.child.state = .stopped SIGTRAP PTRACE_EVENT_EXEC := by
  have hsame : s'.child.command = s.child.command →
      s'.child.state = .stopped SIGTRAP PTRACE_EVENT_EXEC := by
    intro heq
    rw [heq, hbefore] at hafter
    simp at hafter
  cases hstep with
  | child hstep =>
    cases hstep with
    | succeeds hrunning hpending htodo =>
      rename_i call rest
      cases call with
      | execvp =>
        have htraced := hheld.traced (by rw [hheld.finished hafter]; simp)
        have hoptions := hheld.options (by rw [(hheld.command hafter).2]; decide)
        show (if s.child.traced && s.child.options.testBit 4 then
          TaskState.stopped SIGTRAP PTRACE_EVENT_EXEC else s.child.state) = _
        have htraced : s.child.traced = true := htraced
        have hoptions : s.child.options = ptrace_options config true := hoptions
        rw [htraced, hoptions, ptrace_options_exec]
        rfl
      | _ => exact hsame rfl
    | _ => exact hsame rfl
  | _ => exact hsame rfl

/-- **The launch**: the loop begins exactly when `begin_run` succeeds on the answers that the tracer
    has got.  Only then the filter is installed or the command runs, the options are set, and the
    command begins with the stop of its `execve`; and `kill_all_tracees` returns only after the
    end of the child. -/
theorem launch_handshake (hmode : config.mode = .SG_RUN_LAUNCH)
    (hr : Launch.Runs config env pid s) :
    ((begin_run config env s.answers).succeeds .init = true ↔ s.tracer = .tracing) ∧
      (s.child.command = true ∨ s.child.filtered = true →
        s.tracer = .tracing ∧ s.child.options = ptrace_options config true) ∧
      (s.child.command = true → s.child.traced = true ∧
        (config.seccomp_bpf = true → s.child.no_new_privs = true ∧ s.child.filtered = true)) ∧
      (∀ s', Launch.Step config s s' → s.child.command = false → s'.child.command = true →
        s'.child.state = .stopped SIGTRAP PTRACE_EVENT_EXEC) ∧
      (s.tracer = .done → ∃ status, s.child.state = .ended status) := by
  obtain ⟨hheld, h⟩ := hr.invariant
  refine ⟨?_, ?_, ?_, ?_, h.reaped⟩
  · rw [begin_run_succeeds_iff hmode h.child]
    constructor
    · exact fun hboth => h.resume.mp hboth.2.resume
    · intro hpoint
      have hlate : s.tracer.progress = 5 := by
        rw [hpoint]
        rfl
      exact ⟨h.room (by omega), h.initial (by omega), h.options (by omega), h.handlers (by omega),
        h.resume.mpr hpoint⟩
  · intro heither
    have hpoint : s.tracer = .tracing := by
      obtain hcommand | hfiltered := heither
      · exact (hheld.command hcommand).2
      · exact hheld.filtered hfiltered
    exact ⟨hpoint, hheld.options (by rw [hpoint]; decide)⟩
  · intro hcommand
    have hdone : ∀ call, call ∉ s.child.todo := by
      intro call
      rw [hheld.finished hcommand]
      simp
    exact ⟨hheld.traced (hdone _), fun hseccomp =>
      ⟨hheld.unprivileged hseccomp (hdone _), hheld.installed hseccomp (hdone _)⟩⟩
  · exact fun s' hstep => hstep.stops_in_exec (hstep.invariant hheld h).1

end invariant

/-- Nothing fails, and nobody sends a signal. -/
theorem launch_handshake_undisturbed : ∃ s, Launch.Runs .filtering .reliable 100 s ∧
    s.child.command = true ∧ s.tracer = .tracing ∧ s.child.filtered = true := by
  have hroom : has_room .reliable 100 = true := by decide +kernel
  have hstart : Launch.Runs .filtering .reliable 100
      ⟨.waiting, .forked .filtering, ⟨.ok 100, none, false, false, .failed⟩⟩ := by
    have h : Launch.Runs .filtering .reliable 100 (.start .filtering .reliable 100) := .start
    unfold Launch.start at h
    rwa [hroom] at h
  -- The child stops itself.
  have hstopped := ((hstart.step (.child (.succeeds rfl rfl rfl))).step
    (.child (.succeeds rfl rfl rfl))).step
    (.child (.stops rfl List.mem_cons_self (by decide) rfl))
  -- The tracer restarts it.
  have hresumed := (((hstopped.step (.waits rfl rfl)).step (.sets_options rfl ⟨_, _, rfl⟩)).step
    (.handlers true rfl)).step (.resumes rfl ⟨_, _, rfl⟩)
  have hruns := ((hresumed.step (.child (.succeeds rfl rfl rfl))).step
    (.child (.succeeds rfl rfl rfl))).step (.child (.succeeds rfl rfl rfl))
  obtain ⟨_, hpoint, hfilter, _⟩ := launch_handshake rfl hruns
  exact ⟨_, hruns, rfl, (hpoint (Or.inl rfl)).1, ((hfilter rfl).2 rfl).2⟩

end Sysgaze
