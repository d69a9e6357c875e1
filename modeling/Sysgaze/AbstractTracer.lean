import Sysgaze.Calls

/-! # The abstract tracer

    What a trace says, as a function of what the kernel reports.  The abstract tracer
    knows which tasks there are, to which group they belong, and which calls are pending
    or interrupted in them.  It has no clock, no filter, no output and no memory that can
    be exhausted: it tells everything, and someone else decides what is shown.

    `World.observe` is one report, `World.trace` a list of them.  `TraceRefinement.lean` says
    that the trace loop refines this.
-/

namespace Sysgaze

/-! ### Tasks -/

/-- A call, as it was entered. -/
structure Call where
  number : Int
  arguments : Vector UInt64 6
  deriving DecidableEq, Repr

/-- The outcome of the call. -/
def Call.ends (call : Call) (result error_number : Int) : Outcome :=
  ⟨call.number, call.arguments, result, error_number⟩

/-- A task.  At most one call is pending, and at most one has been interrupted; it is ready once a
    signal handler has returned. -/
structure TracedTask where
  tgid : Pid
  attached : Bool
  newborn : Bool
  pending : Option Call
  interrupted : Option Call
  ready : Bool
  deriving DecidableEq, Repr

namespace TracedTask

/-- A task that has just appeared. -/
def fresh (tgid : Pid) (attached newborn : Bool) : TracedTask :=
  ⟨tgid, attached, newborn, none, none, false⟩

/-- A task that has executed a program from another thread. -/
def renamed (task : TracedTask) (tid : Pid) : TracedTask :=
  { task with tgid := tid, newborn := false }

/-- Is this entry the restart of the interrupted call? -/
def restarts (task : TracedTask) (number : Int) : Bool :=
  match task.interrupted with
  | some call => task.ready && (number == call.number || number == SYS_restart_syscall)
  | none => false

/-- The task is about to enter a call with another one pending: that was an exec. -/
def leave_pending (task : TracedTask) : TracedTask × List Outcome :=
  match task.pending with
  | some call => ({ task with pending := none }, [call.ends 0 0])
  | none => (task, [])

/-- The interrupted call is not entered again: it has ended in `EINTR`. -/
def report_interrupted (task : TracedTask) : TracedTask × List Outcome :=
  match task.interrupted with
  | some call =>
    if task.ready then ({ task with interrupted := none, ready := false }, [call.ends (-1) EINTR])
    else (task, [])
  | none => (task, [])

/-- The entry of a call. -/
def enter (task : TracedTask) (number : UInt64) (arguments : Vector UInt64 6) :
    TracedTask × List Outcome :=
  let (task, left) := task.leave_pending
  if task.restarts number.toNat then
    ({ task with pending := task.interrupted, interrupted := none, ready := false }, left)
  else
    let (task, interrupted) := task.report_interrupted
    ({ task with pending := some ⟨number.toNat, arguments⟩ }, left ++ interrupted)

/-- What the end of a call means for the interrupted one. -/
def settle (task : TracedTask) (number : Int) : TracedTask :=
  match task.interrupted with
  | none => task
  | some call =>
    if number = SYS_rt_sigreturn then { task with ready := true }
    else if !task.ready && number == call.number then { task with interrupted := none }
    else task

/-- The exit of a call. -/
def leave (task : TracedTask) (rval : Int) (is_error : Bool) : TracedTask × List Outcome :=
  match task.pending with
  | none => (task, [])
  | some call =>
    if is_restart_result rval then
      ({ task with pending := none, interrupted := some call, ready := false }, [])
    else
      ({ task.settle call.number with pending := none },
        [call.ends rval (exit_error rval is_error)])

/-- An exec that has succeeded. -/
def exec (task : TracedTask) : TracedTask × List Outcome :=
  let (task, left) := task.leave_pending
  ({ task with newborn := false }, left)

end TracedTask

/-! ### What is told -/

/-- What is told of a task. -/
inductive Tale where
  | call (outcome : Outcome)
  | signal (signal : SignalEvent)
  | process_start (start : ProcessStart)
  | process_exit (exit : ProcessExit)
  deriving DecidableEq, Repr

/-- A tale, with the task that it is about. -/
structure Told where
  tid : Pid
  tgid : Pid
  tale : Tale
  deriving DecidableEq, Repr

/-- What is told of a task, when calls of it have ended. -/
def TracedTask.tell (task : TracedTask) (tid : Pid) (outcomes : List Outcome) : List Told :=
  outcomes.map fun outcome => ⟨tid, task.tgid, .call outcome⟩

/-! ### The world -/

/-- The tasks there are. -/
abbrev World := Pid → Option TracedTask

namespace World

/-- There are no tasks. -/
def empty : World := fun _ => none

variable (config : Config) (world : World)

/-- The task `tid` has changed; `none` removes it. -/
def set (tid : Pid) (task : Option TracedTask) : World :=
  fun other => if other = tid then task else world other

/-- A task appears, unless it is known. -/
def register (tid : Pid) (task : TracedTask) : World :=
  match world tid with
  | none => world.set tid (some task)
  | some _ => world

/-- The task that has the TID `waited` after the exec of `former`. -/
def successor (waited former : Pid) : TracedTask :=
  match world former, world waited with
  | some source, _ => source.renamed waited
  | none, some replaced => replaced.renamed waited
  | none, none => .fresh waited (config.mode = .SG_RUN_ATTACH) false

/-- The task `former` takes the TID `waited`. -/
def rename (waited former : Pid) : World :=
  if former = waited then world
  else (world.set former none).set waited (some (world.successor config waited former))

/-- The world when `waited` has stopped: an exec may have renamed it. -/
def renamed (waited : Pid) (ptrace_event : Nat) (answers : Answers) : World :=
  match (if ptrace_event = PTRACE_EVENT_EXEC then answers.eventmsg else none) with
  | some former => world.rename config waited former
  | none => world

/-- The world when a task has been reported: an exec has renamed it, and with `-f` an unknown
    task that has stopped appears. -/
def arrive (waited : Pid) (status : WaitStatus) (answers : Answers) : World :=
  match status with
  | .stopped _ ptrace_event =>
    let world := world.renamed config waited ptrace_event answers
    if config.follow then
      let tgid := if answers.waited_tgid ≤ 0 then waited else answers.waited_tgid
      world.register waited (.fresh tgid (config.mode = .SG_RUN_ATTACH) true)
    else world
  | _ => world

/-- The task has changed, and calls of it have ended. -/
def takes (waited : Pid) (task : TracedTask) (step : TracedTask × List Outcome) : World × List Told :=
  (world.set waited (some step.1), task.tell waited step.2)

/-- A task has made a child. -/
def fork (waited : Pid) (task : TracedTask) (ptrace_event : Nat) (answers : Answers) :
    World × List Told :=
  let child : Pid := (answers.eventmsg.getD 0 : Nat)
  let tgid :=
    if answers.child_tgid ≤ 0 then
      if ptrace_event = PTRACE_EVENT_CLONE then task.tgid else child
    else answers.child_tgid
  (world.register child (.fresh tgid task.attached true),
    [⟨waited, task.tgid, .process_start ⟨child, ptrace_event⟩⟩])

/-- A signal is about to be delivered to the task, or it has joined a group stop. -/
def signal (waited : Pid) (task : TracedTask) (answer : SigInfoAnswer) : World × List Told :=
  match answer with
  | .ok info =>
    (world.set waited (some { task with newborn := false }),
      [⟨waited, task.tgid, .signal ⟨info.si_signo, info.si_code, info.fault_address⟩⟩])
  | _ => (world, [])

/-- A task has stopped. -/
def stop (waited : Pid) (task : TracedTask) (stop : Int) (ptrace_event : Nat) (answers : Answers) :
    World × List Told :=
  if stop = SYSCALL_STOP then
    match answers.syscall_info with
    | none => (world, [])
    | some info =>
      if info.op = PTRACE_SYSCALL_INFO_ENTRY then
        world.takes waited task (task.enter info.nr info.args)
      else world.takes waited task (task.leave info.rval info.is_error)
  else if ptrace_event = PTRACE_EVENT_STOP then
    (world.set waited (some { task with newborn := false }), [])
  else if ptrace_event = PTRACE_EVENT_SECCOMP then
    match answers.syscall_info with
    | none => (world, [])
    | some info => world.takes waited task (task.enter info.nr info.args)
  else if ptrace_event = PTRACE_EVENT_EXEC then world.takes waited task task.exec
  else if ptrace_event ≠ 0 then world.fork waited task ptrace_event answers
  else if task.newborn && stop = SIGSTOP then
    (world.set waited (some { task with newborn := false }), [])
  else world.signal waited task answers.signal_info

/-- The task is gone. -/
def gone (waited : Pid) (exit : ProcessExit) : World × List Told :=
  match world waited with
  | none => (world, [])
  | some task => (world.set waited none, [⟨waited, task.tgid, .process_exit exit⟩])

/-- A task has been reported. -/
def handle (waited : Pid) (status : WaitStatus) (answers : Answers) : World × List Told :=
  let world := world.arrive config waited status answers
  match status with
  | .continued => (world, [])
  | .exited code => world.gone waited ⟨code, false⟩
  | .signaled signal => world.gone waited ⟨signal, true⟩
  | .stopped stop ptrace_event =>
    match world waited with
    | none => (world, [])
    | some task => world.stop waited task stop ptrace_event answers

/-- **One report**: the world after it, and what is told. -/
def observe (report : Report) : World × List Told :=
  match report.waited with
  | .status waited status answers => world.handle config waited status answers
  | _ => (world, [])

/-- Does the tracer go on after the report?  A task that has been restarted is the occasion to
    look at the shutdown signal. -/
def ends (report : Report) : RoundEnd :=
  match report.waited with
  | .status waited status answers =>
    match status, world.arrive config waited status answers waited with
    | .stopped _ _, some _ =>
      if answers.restart = .ok then test_shutdown report.shutdown_signal else .again
    | _, _ => .again
  | .eintr => test_shutdown report.shutdown_signal
  | .failed => .again

open Classical in
/-- **What is told of a list of reports.**  The tracer ends when no task is left, or when the
    shutdown signal has been seen. -/
noncomputable def trace : World → List Report → List Told
  | _, [] => []
  | world, report :: reports =>
    if world = World.empty then []
    else
      (world.observe config report).2 ++
        match world.ends config report with
        | .again => trace (world.observe config report).1 reports
        | .finished _ => []

end World

theorem TracedTask.tell_append (task : TracedTask) (tid : Pid) (outcomes outcomes' : List Outcome) :
    task.tell tid (outcomes ++ outcomes') = task.tell tid outcomes ++ task.tell tid outcomes' :=
  List.map_append

section world
variable {config : Config} {world : World} {tid : Pid}

theorem World.set_self {task : Option TracedTask} (h : world tid = task) :
    world.set tid task = world := by
  funext other
  unfold World.set
  split
  · rename_i ho
    rw [ho, h]
  · rfl

@[simp] theorem World.set_set (task task' : Option TracedTask) :
    (world.set tid task).set tid task' = world.set tid task' := by
  funext other
  unfold World.set
  split <;> rfl

theorem World.set_same (task : Option TracedTask) : world.set tid task tid = task := if_pos rfl

/-- A task that has stopped is still there. -/
theorem World.stop_keeps {task : TracedTask} (h : world tid = some task) (stop : Int)
    (ptrace_event : Nat) (answers : Answers) :
    ((world.stop tid task stop ptrace_event answers).1 tid).isSome := by
  have hself : (world tid).isSome := by
    rw [h]
    rfl
  have hset : ∀ task : TracedTask, ((world.set tid (some task)) tid).isSome := by
    intro task
    rw [World.set_same]
    rfl
  have hregister : ∀ (child : Pid) (task : TracedTask), ((world.register child task) tid).isSome := by
    intro child task
    unfold World.register
    cases world child with
    | some _ => exact hself
    | none =>
      unfold World.set
      dsimp only
      split
      · rfl
      · exact hself
  unfold World.stop
  split
  · split
    · exact hself
    · split
      · exact hset _
      · exact hset _
  · split
    · exact hset _
    · split
      · split
        · exact hself
        · exact hset _
      · split
        · exact hset _
        · split
          · exact hregister _ _
          · split
            · exact hset _
            · unfold World.signal
              split
              · exact hset _
              · exact hself

/-- Two configurations that follow the same tasks tell the same. -/
theorem World.trace_congr {config' : Config} (hfollow : config'.follow = config.follow)
    (hmode : config'.mode = config.mode) (reports : List Report) :
    ∀ world : World, world.trace config' reports = world.trace config reports := by
  have harrive : ∀ (world : World) (waited : Pid) (status : WaitStatus) (answers : Answers),
      world.arrive config' waited status answers = world.arrive config waited status answers := by
    intro world waited status answers
    unfold World.arrive World.renamed World.rename World.successor
    rw [hfollow, hmode]
  have hobserve : ∀ (world : World) (report : Report),
      world.observe config' report = world.observe config report := by
    intro world report
    unfold World.observe World.handle
    split
    · rw [harrive]
    · rfl
  have hends : ∀ (world : World) (report : Report),
      world.ends config' report = world.ends config report := by
    intro world report
    unfold World.ends
    simp only [harrive]
  induction reports with
  | nil => exact fun _ => rfl
  | cons report reports ih =>
    intro world
    rw [World.trace, World.trace, hobserve, hends]
    simp only [ih]

end world

end Sysgaze
