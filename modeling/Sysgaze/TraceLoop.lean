import Sysgaze.SyscallStop
import Sysgaze.Lib.Stepping

/-! # The trace loop (`trace.c`)

    One round of `trace_loop` takes what `waitpid` reported, with the answers
    to the `ptrace` requests made while the report is handled, and either goes
    on to the next round, ends the loop, or fails.

    `loop_step` is the round as a machine, and `trace_loop` the loop over a
    list of reports.  `detach_all_tracees` is what follows a loop in attach
    mode that has failed or been told to stop.
-/

open Fallible

namespace Sysgaze

/-! ### Reports -/

abbrev PTRACE_EVENT_FORK : Nat := 1
abbrev PTRACE_EVENT_VFORK : Nat := 2
abbrev PTRACE_EVENT_CLONE : Nat := 3
abbrev PTRACE_EVENT_EXEC : Nat := 4
abbrev PTRACE_EVENT_SECCOMP : Nat := 7
abbrev PTRACE_EVENT_STOP : Nat := 128

/-- The stop signal of a system call stop: `SIGTRAP | 0x80`. -/
abbrev SYSCALL_STOP : Int := 133

/-- A wait status, as the `W...` macros read it.  The event of a stop is
    `status >> 16`. -/
inductive WaitStatus where
  | exited (code : Int)
  | signaled (signal : Int)
  | stopped (signal : Int) (ptrace_event : Nat)
  | continued
  deriving DecidableEq, Repr

/-- What `PTRACE_GETSIGINFO` answers. -/
inductive SigInfoAnswer where
  | ok (signal_info : SigInfo)
  | einval
  | failed
  deriving DecidableEq, Repr

/-- What a restart request answers. -/
inductive RestartAnswer where
  | ok
  | esrch
  | failed
  deriving DecidableEq, Repr

/-- The answers to what the handling of one wait status asks. -/
structure Answers where
  /-- `PTRACE_GETEVENTMSG`. -/
  eventmsg : Option Nat
  /-- `PTRACE_GET_SYSCALL_INFO`. -/
  syscall_info : Option SyscallInfo
  /-- `PTRACE_GETSIGINFO`. -/
  signal_info : SigInfoAnswer
  /-- `read_tgid` of the task that stopped; not positive when it cannot be read. -/
  waited_tgid : Pid
  /-- `read_tgid` of a new child. -/
  child_tgid : Pid
  /-- `PTRACE_SYSCALL`, `PTRACE_CONT` or `PTRACE_LISTEN`. -/
  restart : RestartAnswer
  deriving DecidableEq, Repr

/-- What `waitpid` returns. -/
inductive Waited where
  /-- It failed with `EINTR`. -/
  | eintr
  /-- It failed otherwise. -/
  | failed
  | status (waited : Pid) (status : WaitStatus) (answers : Answers)
  deriving DecidableEq, Repr

/-- One round of the loop: what `waitpid` returns, and the value of
    `shutdown_signal` when the round tests it. -/
structure Report where
  waited : Waited
  shutdown_signal : Int
  deriving DecidableEq, Repr

/-- How a round of the loop ends, unless it fails. -/
inductive RoundEnd where
  | again
  | finished (command_status : Int)
  deriving DecidableEq, Repr

variable (config : Config) (env : Env)

/-! ### Restarting a tracee -/

/-- The request of `resume_tracee`. -/
def resume_request (tracee : Tracee) : PtraceRequest :=
  if config.seccomp_bpf && !tracee.has_pending_syscall then .PTRACE_CONT else .PTRACE_SYSCALL

/-- The error of `resume_tracee`. -/
def resume_error (tracee : Tracee) : String :=
  let name :=
    if resume_request config tracee = .PTRACE_SYSCALL then "PTRACE_SYSCALL" else "PTRACE_CONT"
  s!"{name} for {tracee.tid} failed: {env.strerror}"

/-- `resume_tracee`; the caller looks at the answer. -/
def resume_tracee (tracee : Tracee) (signal_number : Int) : TraceM Unit :=
  measured_ptrace (resume_request config tracee) tracee.tid signal_number

/-- The error of `listen_tracee`. -/
def listen_error (tid : Pid) : String := s!"PTRACE_LISTEN for {tid} failed: {env.strerror}"

/-- `listen_tracee`; the caller looks at the answer. -/
def listen_tracee (tid : Pid) : TraceM Unit := measured_ptrace .PTRACE_LISTEN tid 0

/-- `is_stopping_signal`. -/
def is_stopping_signal (signal_number : Int) : Bool :=
  signal_number == SIGSTOP || signal_number == SIGTSTP || signal_number == SIGTTIN ||
    signal_number == SIGTTOU

/-! ### Tracees come and go -/

/-- The context after `release_tracee`: the texts of both calls are freed. -/
def Context.release_tracee (context : Context) (tracee : Tracee) : Context :=
  (context.release tracee.pending_syscall).release tracee.interrupted_syscall

/-- `add_tracee`. -/
def add_tracee (tid tgid : Pid) (attached newborn : Bool) : TraceM Unit := do
  let n ← ask
  let context ← get
  let ((ok, inserted), tracees) := context.tracees.insert tid tgid attached (env.alloc n)
  set { context with tracees := tracees }
  if !ok then throw s!"cannot allocate tracee state for {tid}"
  else
    match tracees.get tid, inserted with
    | some tracee, true => store { tracee with newborn := newborn, options_installed := true }
    | _, _ => pure ()

/-- The end of `migrate_exec_tid`: the record `source` becomes the record of `waited`. -/
def migrate_source (waited former : Pid) (source : Tracee) : TraceM Unit := do
  let source : Tracee := { source with tid := waited, tgid := waited, newborn := false }
  onError (add_tracee env waited waited source.attached false) fun context =>
    context.release_tracee source
  store source
  zoom Context.output (fun context output => { context with output := output })
    (sg_output_migrate_tid former waited)
  modify fun context =>
    if context.root_tid = former then { context with root_tid := waited } else context

/-- `migrate_exec_tid`. -/
def migrate_exec_tid (waited former : Pid) : TraceM Unit :=
  if former = waited then pure ()
  else do
    let context ← get
    let (source, tracees) := context.tracees.remove former
    let (replaced, tracees) := tracees.remove waited
    set { context with tracees := tracees }
    match source, replaced with
    | some source, some replaced => do
      modify fun context => context.release_tracee replaced
      migrate_source env waited former source
    | some source, none => migrate_source env waited former source
    | none, some replaced => migrate_source env waited former replaced
    | none, none => do
      add_tracee env waited waited (config.mode = .SG_RUN_ATTACH) false
      zoom Context.output (fun context output => { context with output := output })
        (sg_output_migrate_tid former waited)

/-- The first part of a round: an exec event renames its task before the task is
    looked up. -/
def observe_exec (waited : Pid) (status : WaitStatus) (answers : Answers) : TraceM Unit :=
  match status with
  | .stopped _ ptrace_event =>
    if ptrace_event = PTRACE_EVENT_EXEC then do
      measured_ptrace .PTRACE_GETEVENTMSG waited 0
      match answers.eventmsg with
      | none => throw s!"cannot read former exec TID for {waited}: {env.strerror}"
      | some former =>
        if (former : Int) > INT_MAX then throw "former exec TID is outside the native range"
        else migrate_exec_tid config env waited former
    else pure ()
  | _ => pure ()

/-- The lookup of the task that was reported; with `-f` an unknown task that has
    stopped is registered. -/
def find_tracee (waited : Pid) (status : WaitStatus) (answers : Answers) :
    TraceM (Option Tracee) := do
  let context ← get
  match context.tracees.get waited, status with
  | none, .stopped _ _ =>
    if config.follow then do
      let tgid := if answers.waited_tgid ≤ 0 then waited else answers.waited_tgid
      add_tracee env waited tgid (config.mode = .SG_RUN_ATTACH) true
      let context ← get
      pure (context.tracees.get waited)
    else pure none
  | known, _ => pure known

/-! ### Exits -/

/-- `record_exit_status`. -/
def record_exit_status (tid : Pid) (status : WaitStatus) : TraceM Unit :=
  modify fun context =>
    if tid = context.root_tid then
      { context with
        root_status :=
          match status with
          | .exited code => code
          | .signaled signal => 128 + signal
          | _ => 0
        root_status_known := true }
    else context

/-- The exit of a task is written. -/
def report_exit (tracee : Tracee) (status : WaitStatus) : TraceM Unit :=
  match status with
  | .signaled signal => write_exit config env tracee signal true
  | .exited code => write_exit config env tracee code false
  | _ => pure ()

/-- A task is removed, and its texts are freed. -/
def remove_tracee (waited : Pid) : TraceM Unit :=
  modify fun context =>
    let (removed, tracees) := context.tracees.remove waited
    let context : Context := { context with tracees := tracees }
    match removed with
    | some removed => context.release_tracee removed
    | none => context

/-- The part of a round that handles the end of a task. -/
def handle_exit (tracee : Tracee) (waited : Pid) (status : WaitStatus) : TraceM Unit := do
  let tracee : Tracee := { tracee with phase := .SG_TRACEE_GONE }
  store tracee
  let context ← get
  if config.seccomp_bpf && waited = context.root_tid && !context.root_exec_observed &&
      status = .exited 126 then
    throw "seccomp-BPF setup failed before command execution"
  else do
    report_exit config env tracee status
    record_exit_status waited status
    remove_tracee waited

/-! ### Stops -/

/-- The exec part of `handle_ptrace_event`. -/
def handle_exec_event (tracee : Tracee) : TraceM Unit := do
  modify fun context =>
    if tracee.tid = context.root_tid then { context with root_exec_observed := true } else context
  let tracee : Tracee ←
    if tracee.has_pending_syscall then do
      let tracee ← complete_exec config env tracee
      pure { tracee with phase := .SG_TRACEE_STOPPED }
    else pure tracee
  store { tracee with newborn := false }

/-- What `handle_ptrace_event` does when a child cannot be added. -/
def Context.abandon_child (context : Context) (child : Pid) (attached : Bool) : Context :=
  if attached then
    { context with requests := context.requests ++ [⟨.PTRACE_DETACH, child, 0⟩] }
  else { context with kills := context.kills ++ [child] }

/-- The fork, vfork and clone part of `handle_ptrace_event`. -/
def handle_child_event (tracee : Tracee) (ptrace_event : Nat) (answers : Answers) :
    TraceM Unit := do
  measured_ptrace .PTRACE_GETEVENTMSG tracee.tid 0
  let message := answers.eventmsg.getD 0
  if message = 0 ∨ (message : Int) > INT_MAX then
    throw s!"cannot read child TID for {tracee.tid}: {env.strerror}"
  else do
    let child : Pid := message
    let tgid :=
      if answers.child_tgid ≤ 0 then
        if ptrace_event = PTRACE_EVENT_CLONE then tracee.tgid else child
      else answers.child_tgid
    onError (add_tracee env child tgid tracee.attached true) fun context =>
      context.abandon_child child tracee.attached
    let context ← get
    match context.tracees.get tracee.tid with
    | none => throw ""
    | some tracee => write_process_start config env tracee child ptrace_event

/-- `handle_ptrace_event`. -/
def handle_ptrace_event (tracee : Tracee) (ptrace_event : Nat) (answers : Answers) :
    TraceM Unit :=
  if ptrace_event = PTRACE_EVENT_SECCOMP then
    handle_seccomp_stop config env tracee answers.syscall_info
  else if ptrace_event = PTRACE_EVENT_EXEC then handle_exec_event config env tracee
  else if ptrace_event ≠ PTRACE_EVENT_FORK ∧ ptrace_event ≠ PTRACE_EVENT_VFORK ∧
      ptrace_event ≠ PTRACE_EVENT_CLONE then
    throw s!"unexpected ptrace event {ptrace_event}"
  else handle_child_event config env tracee ptrace_event answers

/-- A stop that is neither a system call stop nor a `ptrace` event: the signal to
    deliver, and whether the tracee is only listened to. -/
def handle_signal_stop (tracee : Tracee) (stop : Int) (answer : SigInfoAnswer) :
    TraceM (Int × Bool) := do
  measured_ptrace .PTRACE_GETSIGINFO tracee.tid 0
  match answer with
  | .ok signal_info => do
    let tracee : Tracee := { tracee with newborn := false, pending_signal := stop }
    store tracee
    write_signal config env tracee signal_info
    pure (stop, false)
  | .einval =>
    if is_stopping_signal stop then do
      store { tracee with phase := .SG_TRACEE_GROUP_STOPPED }
      pure (0, tracee.attached)
    else throw s!"PTRACE_GETSIGINFO for {tracee.tid} failed: {env.strerror}"
  | .failed => throw s!"PTRACE_GETSIGINFO for {tracee.tid} failed: {env.strerror}"

/-- The classification of a stop: the signal to deliver, and whether the tracee is
    only listened to. -/
def handle_stop (tracee : Tracee) (stop : Int) (ptrace_event : Nat) (answers : Answers) :
    TraceM (Int × Bool) :=
  if stop = SYSCALL_STOP then do
    handle_syscall_stop config env tracee answers.syscall_info
    pure (0, false)
  else if ptrace_event = PTRACE_EVENT_STOP then
    if stop ≠ SIGTRAP then do
      store { tracee with newborn := false, phase := .SG_TRACEE_GROUP_STOPPED }
      pure (0, tracee.attached)
    else do
      store { tracee with newborn := false }
      pure (0, false)
  else if ptrace_event ≠ 0 then do
    handle_ptrace_event config env tracee ptrace_event answers
    pure (0, false)
  else if tracee.newborn && stop = SIGSTOP then do
    store { tracee with newborn := false }
    pure (0, false)
  else handle_signal_stop config env tracee stop answers.signal_info

/-- The end of a round that handled a stop: the tracee is restarted.  The result
    tells whether it was; a tracee that has vanished leaves the loop running. -/
def restart_tracee (waited : Pid) (delivery_signal : Int) (listen : Bool)
    (answer : RestartAnswer) : TraceM Bool := do
  let context ← get
  match context.tracees.get waited with
  | none => pure false
  | some tracee => do
    if listen then listen_tracee waited else resume_tracee config tracee delivery_signal
    match answer with
    | .ok => do
      store { tracee with
        in_ptrace_stop := false
        pending_signal := 0
        phase := if listen then tracee.phase else .SG_TRACEE_RUNNING }
      pure true
    | .esrch => pure false
    | .failed => throw (if listen then listen_error env waited else resume_error config env tracee)

/-! ### The loop -/

/-- The test of `shutdown_signal`. -/
def test_shutdown (shutdown_signal : Int) : RoundEnd :=
  if shutdown_signal ≠ 0 then .finished (128 + shutdown_signal) else .again

/-- One round of `trace_loop`, for a wait status. -/
def handle_status (waited : Pid) (status : WaitStatus) (answers : Answers)
    (shutdown_signal : Int) : TraceM RoundEnd := do
  observe_exec config env waited status answers
  match ← find_tracee config env waited status answers with
  | none => pure .again
  | some tracee =>
    match status with
    | .continued => do
      store { tracee with phase := .SG_TRACEE_RUNNING, in_ptrace_stop := false }
      pure .again
    | .exited _ | .signaled _ => do
      handle_exit config env tracee waited status
      pure .again
    | .stopped stop ptrace_event => do
      let tracee : Tracee :=
        { tracee with in_ptrace_stop := true, phase := .SG_TRACEE_STOPPED }
      store tracee
      let (delivery_signal, listen) ← handle_stop config env tracee stop ptrace_event answers
      let restarted ← restart_tracee config env waited delivery_signal listen answers.restart
      pure (if restarted then test_shutdown shutdown_signal else .again)

/-- One round of `trace_loop`. -/
def loop_round (report : Report) : TraceM RoundEnd :=
  match report.waited with
  | .eintr => pure (test_shutdown report.shutdown_signal)
  | .failed => throw s!"waitpid failed: {env.strerror}"
  | .status waited status answers =>
    handle_status config env waited status answers report.shutdown_signal

/-- The command status of a loop that ends because no tracee is left. -/
def exit_status (context : Context) : Int :=
  if config.mode = .SG_RUN_ATTACH then 0
  else if context.root_status_known then context.root_status
  else 0

/-- The `while` loop of `trace_loop`, over the reports of `waitpid`: the command
    status, or `none` while the loop still waits for a report. -/
def trace_rounds : List Report → TraceM (Option Int)
  | [] => do
    let context ← get
    pure (if context.tracees.count = 0 then some (exit_status config context) else none)
  | report :: reports => do
    let context ← get
    if context.tracees.count = 0 then pure (some (exit_status config context))
    else
      match ← loop_round config env report with
      | .again => trace_rounds reports
      | .finished command_status => pure (some command_status)

/-- What `sg_trace_run` does about the table before the loop, for a launched command: the
    child is added, has stopped itself, and gets its options. -/
def launch_root (child : Pid) : TraceM Unit := do
  modify fun context => { context with root_tid := child }
  add_tracee env child child false false
  let context ← get
  match context.tracees.get child with
  | none => throw ""
  | some root => store { root with
      in_ptrace_stop := true
      phase := .SG_TRACEE_STOPPED
      options_installed := true }

/-- The beginning of `trace_loop`: a launched root tracee is resumed. -/
def resume_root (answer : RestartAnswer) : TraceM Unit :=
  match config.mode with
  | .SG_RUN_ATTACH => pure ()
  | .SG_RUN_LAUNCH => do
    let context ← get
    match context.tracees.get context.root_tid with
    | none => throw ""
    | some root => do
      resume_tracee config root 0
      if answer = .ok then store { root with in_ptrace_stop := false }
      else throw (resume_error config env root)

/-- `trace_loop`. -/
def trace_loop (answer : RestartAnswer) (reports : List Report) : TraceM (Option Int) := do
  resume_root config env answer
  trace_rounds config env reports

/-- The loop as a machine: a round is taken only while a tracee is left, and the
    machine goes on as long as the loop does. -/
def loop_step : Stepping.Machine Context Report := fun context report =>
  if context.tracees.count = 0 then (context, false)
  else
    match (loop_round config env report).exec context with
    | (.ok .again, context') => (context', true)
    | (_, context') => (context', false)

/-! ### Leaving the tracees -/

/-- What `interrupt_running_tracees` and `detach_all_tracees` are told about one
    tracee: whether `PTRACE_INTERRUPT` fails with `ESRCH`, and the wait status, or
    `none` when `waitpid` fails. -/
structure DetachAnswer where
  interrupt_esrch : Bool
  status : Option WaitStatus

/-- One round of the loop in `interrupt_running_tracees`. -/
def interrupt_running (answers : Pid → DetachAnswer) (tracee : Tracee) : TraceM Unit :=
  if tracee.in_ptrace_stop then pure ()
  else do
    measured_ptrace .PTRACE_INTERRUPT tracee.tid 0
    if (answers tracee.tid).interrupt_esrch then
      store { tracee with phase := .SG_TRACEE_GONE }
    else pure ()

/-- The signal that `detach_all_tracees` passes on for a wait status, or `none` when
    the tracee is left alone. -/
def detach_signal : Option WaitStatus → Option Int
  | none | some (.exited _) | some (.signaled _) => none
  | some .continued => some 0
  | some (.stopped stop ptrace_event) =>
    some (if stop ≠ SYSCALL_STOP ∧ ¬(stop = SIGTRAP ∧ ptrace_event ≠ 0) then stop else 0)

/-- One round of the loop in `detach_all_tracees`. -/
def detach_tracee (answers : Pid → DetachAnswer) (tracee : Tracee) : TraceM Unit :=
  if tracee.phase = .SG_TRACEE_GONE then pure ()
  else if tracee.in_ptrace_stop then
    measured_ptrace .PTRACE_DETACH tracee.tid tracee.pending_signal
  else
    match detach_signal (answers tracee.tid).status with
    | none => pure ()
    | some signal_number => measured_ptrace .PTRACE_DETACH tracee.tid signal_number

/-- `detach_all_tracees`. -/
def detach_all_tracees (answers : Pid → DetachAnswer) : TraceM Unit := do
  let context ← get
  context.tracees.records.forM (interrupt_running answers)
  let context ← get
  context.tracees.records.forM (detach_tracee answers)

end Sysgaze
