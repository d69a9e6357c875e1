import Sysgaze.RootTask

/-! # The tasks of the kernel

    The other side of `ptrace`, as far as system calls are concerned: where a
    traced task is (`TaskPhase`), and whether the last request that restarted
    it was `PTRACE_SYSCALL`.  Which stop may come next depends on both, and the
    requests that the trace loop makes depend on the stops: `kernel_step` runs
    the loop and the kernel together.

    Nothing is known about a task that has not stopped yet, or that is inside a
    call whose entry was not shown: its next stop may be an exit.
-/

open Fallible Stepping

namespace Sysgaze

/-! ### Tasks -/

/-- Where a task is. -/
inductive TaskPhase where
  /-- In user code. -/
  | user
  /-- Stopped at the entry of a call; the seccomp filter has not run yet. -/
  | entered
  /-- In a call whose entry or seccomp event has been reported. -/
  | calling
  /-- In a call that has not been reported, or a task that is new. -/
  | unseen
  /-- Killed: it stops no more. -/
  | gone
  deriving DecidableEq, Repr

/-- A task as the kernel sees it.  `syscall_trace` is its flag `TIF_SYSCALL_TRACE`. -/
structure Task where
  phase : TaskPhase
  syscall_trace : Bool
  deriving DecidableEq, Repr

/-- A task that has not stopped yet. -/
def Task.new : Task := ⟨.unseen, false⟩

/-- May the task be in a call? -/
def Task.in_call (task : Task) : Bool :=
  task.phase == .entered || task.phase == .calling || task.phase == .unseen

/-- May the task be in user code? -/
def Task.in_user (task : Task) : Bool := task.phase == .user || task.phase == .unseen

/-- The tasks, by their TIDs. -/
abbrev Kernel := Pid → Task

namespace Kernel

/-- Another state for one task. -/
def set (kernel : Kernel) (tid : Pid) (task : Task) : Kernel :=
  fun other => if other = tid then task else kernel other

/-- One task moves on. -/
def move (kernel : Kernel) (tid : Pid) (phase : TaskPhase) : Kernel :=
  kernel.set tid { kernel tid with phase := phase }

end Kernel

/-! ### Stops -/

/-- What a wait status tells about a task. -/
inductive Stop where
  /-- The entry of a call. -/
  | entry
  /-- The exit of a call. -/
  | exit
  /-- The seccomp filter has asked for a stop. -/
  | seccomp
  /-- Another program runs; the TID that the task had before. -/
  | exec (former : Pid)
  /-- The task has made a child. -/
  | child
  /-- The end of the task. -/
  | ended
  /-- A signal, a group stop, a continuation, or a status that nothing is known about. -/
  | other
  deriving DecidableEq, Repr

/-- What is read off a wait status. -/
def WaitStatus.stop (status : WaitStatus) (answers : Answers) : Stop :=
  match status with
  | .exited _ | .signaled _ => .ended
  | .continued => .other
  | .stopped stop ptrace_event =>
    if stop = SYSCALL_STOP then
      match answers.syscall_info with
      | none => .other
      | some info =>
        if info.op = PTRACE_SYSCALL_INFO_ENTRY then .entry
        else if info.op = PTRACE_SYSCALL_INFO_EXIT then .exit
        else .other
    else if ptrace_event = PTRACE_EVENT_SECCOMP then .seccomp
    else if ptrace_event = PTRACE_EVENT_EXEC then
      match answers.eventmsg with
      | none => .other
      | some former => .exec former
    else if is_child_event ptrace_event then .child
    else .other

/-- **The stops that the kernel allows.**  An entry or an exit is shown only to a tracer
    that has asked for it with `PTRACE_SYSCALL`; the filter runs after the entry stop, and
    its event is asked for in seccomp mode only. -/
def Kernel.Allows (config : Config) (kernel : Kernel) (tid : Pid) : Stop → Prop
  | .entry => (kernel tid).in_user = true ∧ (kernel tid).syscall_trace = true
  | .exit => (kernel tid).in_call = true ∧ (kernel tid).syscall_trace = true
  | .seccomp => config.seccomp_bpf = true ∧ ((kernel tid).phase = .entered ∨
      (kernel tid).in_user = true ∧ (kernel tid).syscall_trace = false)
  | .exec former => (kernel former).in_call = true
  | .child => (kernel tid).in_call = true
  | .ended => True
  | .other => (kernel tid).phase ≠ .gone

instance (config : Config) (kernel : Kernel) (tid : Pid) (stop : Stop) :
    Decidable (kernel.Allows config tid stop) := by
  unfold Kernel.Allows
  cases stop <;> infer_instance

/-- The tasks after a stop.  The task that runs another program takes its state with it to
    its new TID, whose own task is no more. -/
def Kernel.stop (kernel : Kernel) (tid : Pid) : Stop → Kernel
  | .entry => kernel.move tid .entered
  | .exit => kernel.move tid .user
  | .seccomp => kernel.move tid .calling
  | .exec former =>
    let task := kernel former
    let phase := if task.phase = .unseen then .unseen else .calling
    (kernel.set former .new).set tid { task with phase := phase }
  | .ended => kernel.set tid .new
  | .child | .other => kernel

/-! ### Requests -/

/-- Is this one of the requests that restart a task? -/
def Request.is_restart (request : Request) : Bool :=
  request.request == .PTRACE_CONT || request.request == .PTRACE_SYSCALL ||
    request.request == .PTRACE_LISTEN

theorem restart_request_is_restart (config : Config) (tracee : Tracee) (signal : Int) (listen : Bool) :
    (restart_request config tracee signal listen).is_restart = true := by
  cases listen with
  | true => rfl
  | false =>
    show Request.is_restart ⟨resume_request config tracee, tracee.tid, signal⟩ = true
    unfold resume_request
    split
    · rfl
    · rfl

/-- The restarts that have been asked for. -/
def Context.restarts (context : Context) : List Request :=
  context.requests.filter Request.is_restart

theorem Context.asked_restart_restarts (context : Context) (config : Config) (tracee : Tracee)
    (signal : Int) (listen : Bool) :
    (context.asked_restart config tracee signal listen).restarts =
      context.restarts ++ [restart_request config tracee signal listen] := by
  show (context.requests ++ [restart_request config tracee signal listen]).filter _ = _
  rw [List.filter_append, List.filter_cons_of_pos (restart_request_is_restart _ _ _ _),
    List.filter_nil]
  rfl

/-- The flag that a restart gives its task; `PTRACE_LISTEN` does not touch it. -/
def PtraceRequest.syscall_trace : PtraceRequest → Option Bool
  | .PTRACE_CONT => some false
  | .PTRACE_SYSCALL => some true
  | _ => none

/-- A request restarts a task, unless it finds it killed. -/
def Kernel.restart (kernel : Kernel) (answer : RestartAnswer) (request : Request) : Kernel :=
  match answer with
  | .esrch => kernel.move request.tid .gone
  | .failed => kernel
  | .ok =>
    match request.request.syscall_trace with
    | some flag => kernel.set request.tid { kernel request.tid with syscall_trace := flag }
    | none => kernel

/-! ### The loop and the kernel -/

/-- One step: a task enters or leaves a call without a stop, or `waitpid` reports
    something. -/
inductive Turn where
  | enters (tid : Pid)
  | leaves (tid : Pid)
  | report (report : Report)
  deriving DecidableEq

/-- The tasks after a report, before anything is restarted. -/
def Kernel.after (kernel : Kernel) (report : Report) : Kernel :=
  match report.waited with
  | .status waited status answers => kernel.stop waited (status.stop answers)
  | _ => kernel

/-- The answer to the restart of a round. -/
def Report.restart (report : Report) : RestartAnswer :=
  match report.waited with
  | .status _ _ answers => answers.restart
  | _ => .ok

/-- The tasks after a round that has taken the context from `c` to `c'`. -/
def Kernel.round (kernel : Kernel) (report : Report) (c c' : Context) : Kernel :=
  (c'.restarts.drop c.restarts.length).foldl (fun kernel => kernel.restart report.restart)
    (kernel.after report)

/-- The loop and the kernel. -/
def kernel_step (config : Config) (env : Env) : Machine (Context × Kernel) Turn :=
  fun (context, kernel) turn =>
    match turn with
    | .enters tid => ((context, kernel.move tid .unseen), true)
    | .leaves tid => ((context, kernel.move tid .user), true)
    | .report report =>
      let (context', again) := loop_step config env context report
      ((context', kernel.round report context context'), again)

/-- A system call stop is no `ptrace` event. -/
def WaitStatus.proper : WaitStatus → Bool
  | .stopped stop ptrace_event => stop != SYSCALL_STOP || ptrace_event == 0
  | _ => true

/-- **The turns that the kernel allows.**  A call is entered or left without a stop only
    when no stop has been asked for. -/
def KernelAllows (config : Config) (_ : List Turn) (state : Context × Kernel) : Turn → Prop
  | .enters tid => (state.2 tid).phase = .user ∧ (state.2 tid).syscall_trace = false
  | .leaves tid => (state.2 tid).in_call = true ∧ (state.2 tid).syscall_trace = false
  | .report report =>
    match report.waited with
    | .status waited status answers =>
      state.2.Allows config waited (status.stop answers) ∧ status.proper = true
    | _ => True

instance (config : Config) (h : List Turn) (state : Context × Kernel) :
    ∀ turn, Decidable (KernelAllows config h state turn)
  | .enters _ => inferInstanceAs (Decidable (_ ∧ _))
  | .leaves _ => inferInstanceAs (Decidable (_ ∧ _))
  | .report ⟨.eintr, _⟩ => inferInstanceAs (Decidable True)
  | .report ⟨.failed, _⟩ => inferInstanceAs (Decidable True)
  | .report ⟨.status _ _ _, _⟩ => inferInstanceAs (Decidable (_ ∧ _))

/-- The tasks when the loop starts: the requests made before it have been granted. -/
def Kernel.start (context : Context) : Kernel :=
  context.restarts.foldl (fun kernel => kernel.restart .ok) fun _ => .new

/-! ### What is asked -/

section lemmas
variable {kernel : Kernel} {tid other : Pid} {task : Task}

@[simp] theorem Kernel.set_self : kernel.set tid task tid = task := if_pos rfl

theorem Kernel.set_of_ne (h : other ≠ tid) : kernel.set tid task other = kernel other := if_neg h

@[simp] theorem Kernel.move_self (phase : TaskPhase) :
    kernel.move tid phase tid = { kernel tid with phase := phase } := if_pos rfl

theorem Kernel.move_of_ne (h : other ≠ tid) (phase : TaskPhase) :
    kernel.move tid phase other = kernel other := if_neg h

/-- A stop changes no task but the one that has stopped and the one that it has been. -/
theorem Kernel.stop_of_ne {stop : Stop} (h : other ≠ tid)
    (hformer : ∀ former, stop = .exec former → other ≠ former) :
    kernel.stop tid stop other = kernel other := by
  cases stop with
  | entry => exact Kernel.move_of_ne h _
  | exit => exact Kernel.move_of_ne h _
  | seccomp => exact Kernel.move_of_ne h _
  | exec former =>
    show (kernel.set former .new).set tid _ other = _
    rw [Kernel.set_of_ne h, Kernel.set_of_ne (hformer former rfl)]
  | child => rfl
  | ended => exact Kernel.set_of_ne h
  | other => rfl

/-- A restart changes no other task. -/
theorem Kernel.restart_of_ne {request : Request} (h : other ≠ request.tid)
    (answer : RestartAnswer) : kernel.restart answer request other = kernel other := by
  unfold Kernel.restart
  cases answer with
  | ok =>
    cases request.request.syscall_trace with
    | some flag => exact Kernel.set_of_ne h
    | none => rfl
  | esrch => exact Kernel.move_of_ne h _
  | failed => rfl

end lemmas

end Sysgaze
