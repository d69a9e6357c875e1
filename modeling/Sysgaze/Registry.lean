import Sysgaze.Rounds

/-! # The registry of tasks

    What the trace loop knows about tasks, without their calls: which TIDs are
    in the table, and which of them are still newborn.  A report changes this
    registry as `Registry.observe` says, and makes the loop pass on the signal
    `Registry.delivered`.

    The refinement: a round that does not fail does exactly this to the table
    and to the requests (`loop_round_observes`), so the registry after a run is
    the registry before it with all reports observed (`Reaches.registry`).
-/

open Fallible Stepping

namespace Sysgaze

/-! ### The registry -/

/-- The tasks that are registered, with their flag `newborn`. -/
abbrev Registry := Pid → Option Bool

/-- The registry of a context. -/
def Context.registry (context : Context) : Registry :=
  fun tid => (context.tracees.lookup tid).map Tracee.newborn

namespace Registry

variable (registry : Registry)

/-- Another flag for one task; `none` removes it. -/
def set (tid : Pid) (flag : Option Bool) : Registry :=
  fun other => if other = tid then flag else registry other

/-- A task is registered, unless it is known. -/
def register (tid : Pid) : Registry :=
  if registry tid = none then registry.set tid (some true) else registry

/-- The task `former` takes the TID `waited`. -/
def rename (waited former : Pid) : Registry :=
  if former = waited then registry else (registry.set former none).set waited (some false)

end Registry

/-- The TID that a task had before an exec. -/
def WaitStatus.former (status : WaitStatus) (answers : Answers) : Option Pid :=
  match status with
  | .stopped _ ptrace_event =>
    if ptrace_event = PTRACE_EVENT_EXEC then answers.eventmsg.map fun message => (message : Pid)
    else none
  | _ => none

/-- Is this the event of a task that has made a child? -/
def is_child_event (ptrace_event : Nat) : Bool :=
  ptrace_event == PTRACE_EVENT_FORK || ptrace_event == PTRACE_EVENT_VFORK ||
    ptrace_event == PTRACE_EVENT_CLONE

/-- The child that a task has made. -/
def WaitStatus.child (status : WaitStatus) (answers : Answers) : Option Pid :=
  match status with
  | .stopped stop ptrace_event =>
    if stop ≠ SYSCALL_STOP ∧ is_child_event ptrace_event = true then
      answers.eventmsg.map fun message => (message : Pid)
    else none
  | _ => none

/-- Did `PTRACE_GETSIGINFO` succeed? -/
def SigInfoAnswer.isOk : SigInfoAnswer → Bool
  | .ok _ => true
  | _ => false

/-- The signal of a signal-delivery-stop: no system call stop, no `ptrace` event, and
    `PTRACE_GETSIGINFO` succeeds. -/
def WaitStatus.delivery (status : WaitStatus) (answers : Answers) : Option Int :=
  match status with
  | .stopped stop ptrace_event =>
    if stop = SYSCALL_STOP ∨ ptrace_event ≠ 0 then none
    else if answers.signal_info.isOk then some stop
    else none
  | _ => none

namespace Registry

variable (registry : Registry)

/-- Is a stop with this signal taken for the automatic `SIGSTOP` of a new task? -/
def swallows (waited : Pid) (stop : Int) : Bool :=
  registry waited == some true && stop == SIGSTOP

/-- The registry after a stop of a registered task. -/
def stopped (waited : Pid) (stop : Int) (ptrace_event : Nat) (answers : Answers) : Registry :=
  if stop = SYSCALL_STOP then registry
  else if ptrace_event = PTRACE_EVENT_STOP ∨ ptrace_event = PTRACE_EVENT_EXEC then
    registry.set waited (some false)
  else if ptrace_event ≠ 0 then
    match WaitStatus.child (.stopped stop ptrace_event) answers with
    | some child => registry.register child
    | none => registry
  else if registry.swallows waited stop ∨ answers.signal_info.isOk then
    registry.set waited (some false)
  else registry

/-- The signal that is passed on after a stop of a registered task. -/
def delivered (waited : Pid) (stop : Int) (ptrace_event : Nat) (answers : Answers) : Option Int :=
  if registry.swallows waited stop then none
  else WaitStatus.delivery (.stopped stop ptrace_event) answers

/-- The registry when the task that has stopped is looked up. -/
def arrive (config : Config) (waited : Pid) (status : WaitStatus) (answers : Answers) : Registry :=
  let registry :=
    match status.former answers with
    | some former => registry.rename waited former
    | none => registry
  if config.follow then registry.register waited else registry

/-- The registry once an exec event has renamed its task. -/
def migrate (waited : Pid) : Option Pid → Registry
  | some former => registry.rename waited former
  | none => registry

theorem arrive_eq (config : Config) (waited : Pid) (status : WaitStatus) (answers : Answers) :
    registry.arrive config waited status answers =
      if config.follow then (registry.migrate waited (status.former answers)).register waited
      else registry.migrate waited (status.former answers) := by
  unfold arrive
  cases status.former answers with
  | none => rfl
  | some former => rfl

/-- The registry after a report. -/
def observe (config : Config) (waited : Pid) (status : WaitStatus) (answers : Answers) : Registry :=
  match status with
  | .continued => registry
  | .exited _ | .signaled _ => registry.set waited none
  | .stopped stop ptrace_event =>
    let arrived := registry.arrive config waited status answers
    if arrived waited = none then arrived
    else arrived.stopped waited stop ptrace_event answers

/-- The signal that a report makes the loop pass on. -/
def passes (config : Config) (waited : Pid) (status : WaitStatus) (answers : Answers) :
    Option Int :=
  match status with
  | .stopped stop ptrace_event =>
    let arrived := registry.arrive config waited status answers
    if arrived waited = none then none
    else arrived.delivered waited stop ptrace_event answers
  | _ => none

end Registry

/-- The signals that a request with this signal passes on. -/
def signals_of (tid : Pid) : Option Int → List (Pid × Int)
  | some signal => if signal = 0 then [] else [(tid, signal)]
  | none => []

/-- The registry after a round. -/
def Registry.after (config : Config) (registry : Registry) (report : Report) : Registry :=
  match report.waited with
  | .status waited status answers => registry.observe config waited status answers
  | _ => registry

/-- The signals that a round passes on. -/
def Registry.signals (config : Config) (registry : Registry) (report : Report) : List (Pid × Int) :=
  match report.waited with
  | .status waited status answers =>
    signals_of waited (registry.passes config waited status answers)
  | _ => []

/-! ### The signals that have been passed on -/

/-- The tracee and the signal of a restart request that carries one. -/
def Request.signal (request : Request) : Option (Pid × Int) :=
  if request.data ≠ 0 ∧ (request.request = .PTRACE_CONT ∨ request.request = .PTRACE_SYSCALL ∨
      request.request = .PTRACE_LISTEN ∨ request.request = .PTRACE_DETACH) then
    some (request.tid, request.data)
  else none

/-- The signals that have been passed on. -/
def Context.passed (context : Context) : List (Pid × Int) :=
  context.requests.filterMap Request.signal

/-- From `c` to `c'` the registry has become `registry`, and the signals have been passed on. -/
structure Moves (c : Context) (registry : Registry) (signals : List (Pid × Int)) (c' : Context) :
    Prop where
  registry : c'.registry = registry
  passed : c'.passed = c.passed ++ signals

section moves
variable {config : Config} {env : Env} {c c' c'' : Context} {registry registry' : Registry}
  {signals signals' : List (Pid × Int)} {tracee : Tracee} {tid : Pid}

theorem Moves.refl (c : Context) : Moves c c.registry [] c := ⟨rfl, (List.append_nil _).symm⟩

theorem Moves.trans (h : Moves c registry signals c') (h' : Moves c' registry' signals' c'') :
    Moves c registry' (signals ++ signals') c'' :=
  ⟨h'.registry, by rw [h'.passed, h.passed, List.append_assoc]⟩

theorem Context.registry_eq (hold : c.tracees.lookup tracee.tid = some tracee) :
    c.registry tracee.tid = some tracee.newborn := by
  unfold Context.registry
  rw [hold]
  rfl

theorem Context.registry_none : c.registry tid = none ↔ c.tracees.lookup tid = none := by
  unfold Context.registry
  rw [Option.map_eq_none_iff]

/-- A question put to the kernel moves nothing. -/
theorem Moves.asking (request : PtraceRequest) (tid : Pid) :
    Moves c c.registry [] (c.asking request tid) := by
  refine ⟨rfl, ?_⟩
  have happend : (c.asking request tid).requests = c.requests ++ [⟨request, tid, 0⟩] := rfl
  unfold Context.passed
  rw [happend, List.filterMap_append]
  rfl

theorem Frame.moves (h : Frame c tid c') : Moves c c.registry [] c' := by
  refine ⟨?_, ?_⟩
  · funext other
    unfold Context.registry
    by_cases ho : other = tid
    · have hshell := congrArg (Option.map Shell.newborn) h.shell
      rw [Option.map_map, Option.map_map] at hshell
      rw [ho]
      exact hshell
    · rw [h.others other ho]
  · have hrequests : c'.requests = c.requests := congrArg Context.Rest.requests h.rest
    unfold Context.passed
    rw [hrequests, List.append_nil]

theorem Writes.moves {events : List Event} (h : Writes config c events c') :
    Moves c c.registry [] c' := by
  have hrequests : c'.requests = c.requests := congrArg Context.Rest.requests h.rest
  refine ⟨?_, ?_⟩
  · unfold Context.registry
    rw [h.tracees]
  · unfold Context.passed
    rw [hrequests, List.append_nil]

/-- A record is stored. -/
theorem Moves.store {t : Tracee} (h : Moves c registry signals c')
    (hknown : (c'.tracees.lookup t.tid).isSome) :
    Moves c (registry.set t.tid (some t.newborn)) signals
      { c' with tracees := c'.tracees.write t } := by
  refine ⟨?_, h.passed⟩
  rw [← h.registry]
  funext other
  unfold Context.registry Registry.set
  rw [Tracees.lookup_write]
  by_cases ho : other = t.tid
  · rw [if_pos ⟨ho, hknown⟩, if_pos ho]
    rfl
  · rw [if_neg (fun h => ho h.1), if_neg ho]

theorem Registry.set_self {flag : Option Bool} (h : registry tid = flag) :
    registry.set tid flag = registry := by
  funext other
  unfold Registry.set
  split
  · rw [← h]
    congr 1
    symm
    assumption
  · rfl

@[simp] theorem Registry.set_set (flag flag' : Option Bool) :
    (registry.set tid flag).set tid flag' = registry.set tid flag' := by
  funext other
  unfold Registry.set
  split <;> rfl

theorem Registry.set_same (flag : Option Bool) : registry.set tid flag tid = flag := if_pos rfl

/-- A record that was newborn or not stays so. -/
theorem Moves.restore (hold : c.tracees.lookup tracee.tid = some tracee) {t : Tracee}
    (htid : t.tid = tracee.tid) (hnewborn : t.newborn = tracee.newborn) :
    Moves c c.registry [] { c with tracees := c.tracees.write t } := by
  have h := (Moves.refl c).store (t := t) (by rw [htid, hold]; rfl)
  rwa [htid, hnewborn, Registry.set_self (Context.registry_eq hold)] at h

theorem Registers.moves {tgid : Pid} {attached : Bool}
    (h : Registers c tid tgid attached true c') : Moves c (c.registry.register tid) [] c' := by
  have hrequests : c'.requests = c.requests := congrArg Context.Rest.requests h.rest
  refine ⟨?_, ?_⟩
  · funext other
    unfold Context.registry Registry.register Registry.set
    rw [h.lookup]
    by_cases hnone : c.tracees.lookup tid = none
    · by_cases ho : other = tid
      · simp [ho, hnone, Tracee.registered]
      · simp [ho, hnone]
    · simp [hnone]
  · unfold Context.passed
    rw [hrequests, List.append_nil]

theorem Migrates.moves {former : Pid} (h : Migrates config c tid former c') (hne : former ≠ tid) :
    Moves c (c.registry.rename tid former) [] c' := by
  refine ⟨?_, ?_⟩
  · have hnewborn : (c.migrated config tid former).newborn = false := by
      unfold Context.migrated
      split <;> rfl
    funext other
    unfold Context.registry Registry.rename Registry.set
    rw [h.lookup, if_neg hne]
    by_cases ht : other = tid
    · simp [ht, hnewborn]
    · by_cases hf : other = former
      · simp [hf, hne]
      · simp [ht, hf]
  · unfold Context.passed
    rw [h.requests, List.append_nil]

theorem Drops.moves (h : Drops c [tid] c') : Moves c (c.registry.set tid none) [] c' := by
  refine ⟨?_, ?_⟩
  · funext other
    unfold Context.registry Registry.set
    rw [h.lookup]
    by_cases ho : other = tid
    · simp [ho]
    · simp [ho]
  · unfold Context.passed
    rw [h.requests, List.append_nil]

/-! ### Stops -/

variable (tid) in
/-- Flags of the context that are not part of the table move nothing. -/
theorem Moves.of_eq (htracees : c'.tracees = c.tracees) (hrequests : c'.requests = c.requests) :
    Moves c c.registry [] c' := by
  refine ⟨?_, ?_⟩
  · unfold Context.registry
    rw [htracees]
  · unfold Context.passed
    rw [hrequests, List.append_nil]

theorem handle_exec_event_moves (hold : c.tracees.lookup tracee.tid = some tracee) :
    Holds (handle_exec_event config env tracee) c
      (fun _ c' => Moves c (c.registry.set tracee.tid (some false)) [] c')
      (fun _ _ => True) := by
  have h₀ : Moves c c.registry [] (c.exec_observed tracee) :=
    .of_eq (c.exec_observed_tracees tracee) (c.exec_observed_requests tracee)
  have hold₀ : (c.exec_observed tracee).tracees.lookup tracee.tid = some tracee := by
    rw [Context.exec_observed_tracees]
    exact hold
  rw [holds_handle_exec_event]
  constructor
  · intro _
    apply (complete_exec_spec hold₀).mono
    · intro mid c₁ hpost
      rcases hpost with ⟨exited_at, events, _, hmid, hu⟩
      have hmidtid : mid.tid = tracee.tid := by rw [hmid]
      have h₁ := h₀.trans (hu.frame hold₀ (by rw [hmid]; rfl)).moves
      rw [h₀.registry] at h₁
      have hknown : (c₁.tracees.lookup mid.tid).isSome := by rw [hu.lookup_self]; rfl
      rw [← hmidtid]
      exact h₁.store (t := { mid with phase := .SG_TRACEE_STOPPED, newborn := false }) hknown
    · intro _ _ _
      trivial
  · intro _
    exact h₀.store (t := { tracee with newborn := false }) (by
      show ((c.exec_observed tracee).tracees.lookup tracee.tid).isSome = true
      rw [hold₀]
      rfl)

theorem handle_child_event_moves (ptrace_event : Nat) (answers : Answers) :
    Holds (handle_child_event config env tracee ptrace_event answers) c
      (fun _ c' => ∃ message : Nat, answers.eventmsg = some message ∧
        Moves c (c.registry.register message) [] c')
      (fun _ _ => True) := by
  unfold handle_child_event
  rw [holds_bind, holds_measured_ptrace]
  have h₀ : Moves c c.registry [] (c.asking .PTRACE_GETEVENTMSG tracee.tid) := .asking _ _
  show Holds _ (c.asking .PTRACE_GETEVENTMSG tracee.tid) _ _
  cases hmessage : answers.eventmsg with
  | none => simp
  | some message =>
    simp only [Option.getD_some, holds_ite, holds_throw, implies_true, true_and, holds_bind,
      holds_onError]
    intro _
    apply (add_tracee_spec _ _ _ _).mono
    · intro _ c₁ hpost
      rcases hpost with ⟨_, _, hreg⟩
      have h₁ := h₀.trans hreg.moves
      simp only [holds_get, Tracees.get_eq]
      cases c₁.tracees.lookup tracee.tid with
      | none => trivial
      | some parent =>
        apply (write_stamped_spec parent _).mono
        · intro _ c₂ hpost
          rcases hpost with ⟨events, observed_at, _, hw⟩
          have h₂ := h₁.trans hw.moves
          rw [hreg.moves.registry, h₀.registry] at h₂
          exact ⟨message, rfl, h₂⟩
        · intro _ _ _
          trivial
    · intro _ _ _
      trivial

theorem handle_signal_stop_moves (hold : c.tracees.lookup tracee.tid = some tracee) (stop : Int)
    (answer : SigInfoAnswer) :
    Holds (handle_signal_stop config env tracee stop answer) c
      (fun result c' =>
        ((∃ signal_info, answer = .ok signal_info) ∧ result = (stop, false) ∧
          Moves c (c.registry.set tracee.tid (some false)) [] c' ∧
          c'.tracees.lookup tracee.tid =
            some { tracee with newborn := false, pending_signal := stop }) ∨
        ((∀ signal_info, answer ≠ .ok signal_info) ∧ result.1 = 0 ∧ Moves c c.registry [] c'))
      (fun _ c' => ∀ signal_info, answer = .ok signal_info →
        c'.tracees.lookup tracee.tid =
          some { tracee with newborn := false, pending_signal := stop } ∧
        c'.passed = c.passed) := by
  unfold handle_signal_stop
  rw [holds_bind, holds_measured_ptrace]
  have h₀ : Moves c c.registry [] (c.asking .PTRACE_GETSIGINFO tracee.tid) := .asking _ _
  show Holds _ (c.asking .PTRACE_GETSIGINFO tracee.tid) _ _
  have hold₀ : (c.asking .PTRACE_GETSIGINFO tracee.tid).tracees.lookup tracee.tid =
      some tracee := hold
  cases answer with
  | ok signal_info =>
    simp only [holds_bind, holds_store, holds_pure]
    have hknown : ((c.asking .PTRACE_GETSIGINFO tracee.tid).tracees.lookup tracee.tid).isSome := by
      rw [hold₀]
      rfl
    have h₁ := h₀.store (t := { tracee with newborn := false, pending_signal := stop }) hknown
    have hstored : (c.tracees.write { tracee with newborn := false, pending_signal := stop }).lookup
        tracee.tid = some { tracee with newborn := false, pending_signal := stop } := by
      rw [Tracees.lookup_write]
      exact if_pos ⟨rfl, hknown⟩
    apply (write_stamped_spec _ _).mono
    · intro _ c' hpost
      rcases hpost with ⟨events, observed_at, _, hw⟩
      have h₂ := h₁.trans hw.moves
      rw [h₁.registry] at h₂
      exact Or.inl ⟨⟨signal_info, rfl⟩, trivial, h₂, by rw [hw.tracees]; exact hstored⟩
    · intro _ c' hpost _ _
      rcases hpost with ⟨events, _, hb⟩
      have hrequests : c'.requests = (c.asking .PTRACE_GETSIGINFO tracee.tid).requests :=
        congrArg Context.Rest.requests hb.rest
      refine ⟨by rw [hb.tracees]; exact hstored, ?_⟩
      have hpassed := h₀.passed
      unfold Context.passed at hpassed ⊢
      rw [hrequests, hpassed, List.append_nil]
  | einval =>
    simp only [holds_ite, holds_bind, holds_store, holds_pure, holds_throw]
    refine ⟨fun _ => Or.inr ⟨by simp, trivial, ?_⟩, by simp⟩
    have h₁ := Moves.restore hold₀ (t := { tracee with phase := .SG_TRACEE_GROUP_STOPPED }) rfl rfl
    exact ⟨h₁.registry, by rw [h₁.passed, h₀.passed, List.append_nil]⟩
  | failed => simp

theorem handle_ptrace_event_moves (hold : c.tracees.lookup tracee.tid = some tracee) {stop : Int}
    (hsyscall : stop ≠ SYSCALL_STOP) {ptrace_event : Nat} (hstop : ptrace_event ≠ PTRACE_EVENT_STOP)
    (hevent : ptrace_event ≠ 0) (answers : Answers) :
    Holds (handle_ptrace_event config env tracee ptrace_event answers) c
      (fun _ c' => Moves c (c.registry.stopped tracee.tid stop ptrace_event answers) [] c')
      (fun _ _ => True) := by
  unfold handle_ptrace_event Registry.stopped
  rw [if_neg hsyscall]
  by_cases hexec : ptrace_event = PTRACE_EVENT_EXEC
  · rw [if_neg (by rw [hexec]; decide), if_pos hexec, if_pos (Or.inr hexec)]
    exact handle_exec_event_moves hold
  · rw [if_neg (show ¬(ptrace_event = PTRACE_EVENT_STOP ∨ ptrace_event = PTRACE_EVENT_EXEC) from
      fun h => h.elim hstop hexec), if_pos hevent, if_neg hexec]
    by_cases hseccomp : ptrace_event = PTRACE_EVENT_SECCOMP
    · have hchild : WaitStatus.child (.stopped stop ptrace_event) answers = none := by
        unfold WaitStatus.child
        rw [hseccomp]
        exact if_neg (fun h => absurd h.2 (by decide))
      rw [if_pos hseccomp, hchild]
      apply (handle_seccomp_stop_frame hold _).mono
      · intro _ c' hframe
        exact (Moves.asking (c := c) .PTRACE_GET_SYSCALL_INFO tracee.tid).trans hframe.moves
      · intro _ _ _
        trivial
    · rw [if_neg hseccomp]
      split
      · trivial
      · rename_i hchild
        have hfork : is_child_event ptrace_event = true := by
          unfold is_child_event
          by_contra hno
          apply hchild
          simpa only [Bool.or_eq_true, beq_iff_eq, not_or, and_assoc] using hno
        apply (handle_child_event_moves ptrace_event answers).mono
        · intro _ c' hpost
          rcases hpost with ⟨message, hmessage, hmoves⟩
          have hnamed : WaitStatus.child (.stopped stop ptrace_event) answers =
              some (message : Pid) := by
            unfold WaitStatus.child
            rw [hmessage]
            exact if_pos ⟨hsyscall, hfork⟩
          rw [hnamed]
          exact hmoves
        · intro _ _ _
          trivial

/-- **A stop** of a registered task: its registry, and its signal, which the record keeps
    until the task has been restarted. -/
theorem handle_stop_moves (hold : c.tracees.lookup tracee.tid = some tracee) (stop : Int)
    (ptrace_event : Nat) (answers : Answers) :
    Holds (handle_stop config env tracee stop ptrace_event answers) c
      (fun result c' =>
        (result.1 = (c.registry.delivered tracee.tid stop ptrace_event answers).getD 0 ∧
          (result.2 = true → result.1 = 0) ∧
          Moves c (c.registry.stopped tracee.tid stop ptrace_event answers) [] c') ∧
        ∀ signal, c.registry.delivered tracee.tid stop ptrace_event answers = some signal →
          c'.tracees.lookup tracee.tid =
            some { tracee with newborn := false, pending_signal := signal })
      (fun _ c' => ∀ signal,
        c.registry.delivered tracee.tid stop ptrace_event answers = some signal →
        c'.tracees.lookup tracee.tid =
          some { tracee with newborn := false, pending_signal := signal } ∧
        c'.passed = c.passed) := by
  have hflag := Context.registry_eq hold
  have hstore : ∀ {t : Tracee}, t.tid = tracee.tid → t.newborn = false →
      Moves c (c.registry.set tracee.tid (some false)) []
        { c with tracees := c.tracees.write t } := by
    intro t htid hnewborn
    have h := (Moves.refl c).store (t := t) (by rw [htid, hold]; rfl)
    rwa [htid, hnewborn] at h
  unfold handle_stop
  by_cases hsyscall : stop = SYSCALL_STOP
  · -- A system call stop.
    have hdelivered : c.registry.delivered tracee.tid stop ptrace_event answers = none := by
      simp [Registry.delivered, WaitStatus.delivery, hsyscall]
    have hstopped : c.registry.stopped tracee.tid stop ptrace_event answers = c.registry :=
      if_pos hsyscall
    rw [if_pos hsyscall, hdelivered, hstopped, holds_bind]
    apply (handle_syscall_stop_frame hold _).mono
    · intro _ c' hframe
      have h := (Moves.asking (c := c) .PTRACE_GET_SYSCALL_INFO tracee.tid).trans hframe.moves
      exact ⟨⟨rfl, fun _ => rfl, h⟩, by simp⟩
    · intro _ _ _ signal h
      simp at h
  · rw [if_neg hsyscall]
    by_cases hevent : ptrace_event = 0
    · rw [hevent]
      rw [if_neg (by decide), if_neg (by decide)]
      by_cases hswallows : (tracee.newborn && decide (stop = SIGSTOP)) = true
      · -- The automatic `SIGSTOP`, as far as the loop can tell.
        have hsw : c.registry.swallows tracee.tid stop = true := by
          unfold Registry.swallows
          rw [hflag]
          simpa using hswallows
        have hdelivered : c.registry.delivered tracee.tid stop 0 answers = none := if_pos hsw
        have hstopped : c.registry.stopped tracee.tid stop 0 answers =
            c.registry.set tracee.tid (some false) := by
          simp [Registry.stopped, hsyscall, hsw]
        rw [if_pos hswallows, hdelivered, hstopped]
        exact ⟨⟨rfl, fun _ => rfl, hstore rfl rfl⟩, by simp⟩
      · have hsw : c.registry.swallows tracee.tid stop = false := by
          unfold Registry.swallows
          rw [hflag]
          simpa using hswallows
        rw [if_neg hswallows]
        apply (handle_signal_stop_moves hold stop answers.signal_info).mono
        · intro result c' hresult
          obtain ⟨⟨signal_info, hok⟩, hres, hmoves, hrecord⟩ | ⟨hnot, hzero, hmoves⟩ := hresult
          · -- A signal-delivery-stop.
            have hisok : answers.signal_info.isOk = true := by rw [hok]; rfl
            have hdelivered : c.registry.delivered tracee.tid stop 0 answers = some stop := by
              simp [Registry.delivered, WaitStatus.delivery, hsw, hsyscall, hisok]
            have hstopped : c.registry.stopped tracee.tid stop 0 answers =
                c.registry.set tracee.tid (some false) := by
              simp [Registry.stopped, hsw, hsyscall, hisok]
            rw [hdelivered, hstopped, hres]
            refine ⟨⟨rfl, by simp, hmoves⟩, ?_⟩
            intro signal hsignal
            rw [← Option.some.inj hsignal]
            exact hrecord
          · -- A group stop.
            have hisok : answers.signal_info.isOk = false := by
              cases h : answers.signal_info with
              | ok signal_info => exact absurd h (hnot signal_info)
              | einval => rfl
              | failed => rfl
            have hdelivered : c.registry.delivered tracee.tid stop 0 answers = none := by
              simp [Registry.delivered, WaitStatus.delivery, hsw, hisok]
            have hstopped : c.registry.stopped tracee.tid stop 0 answers = c.registry := by
              simp [Registry.stopped, hsw, hsyscall, hisok]
            rw [hdelivered, hstopped]
            exact ⟨⟨hzero, fun _ => hzero, hmoves⟩, by simp⟩
        · intro _ c' hfail signal hsignal
          simp only [Registry.delivered, hsw, Bool.false_eq_true, if_false, WaitStatus.delivery,
            hsyscall, ne_eq, not_true_eq_false, or_self] at hsignal
          cases hok : answers.signal_info with
          | ok signal_info =>
            rw [hok] at hsignal
            simp only [SigInfoAnswer.isOk, if_true, Option.some.injEq] at hsignal
            rw [← hsignal]
            exact hfail signal_info hok
          | einval =>
            rw [hok] at hsignal
            simp [SigInfoAnswer.isOk] at hsignal
          | failed =>
            rw [hok] at hsignal
            simp [SigInfoAnswer.isOk] at hsignal
    · have hdelivered : c.registry.delivered tracee.tid stop ptrace_event answers = none := by
        simp [Registry.delivered, WaitStatus.delivery, hevent]
      rw [hdelivered]
      by_cases hstop : ptrace_event = PTRACE_EVENT_STOP
      · have hstopped : c.registry.stopped tracee.tid stop ptrace_event answers =
            c.registry.set tracee.tid (some false) := by
          simp [Registry.stopped, hsyscall, hstop]
        rw [if_pos hstop, hstopped]
        split
        · exact ⟨⟨rfl, fun _ => rfl, hstore rfl rfl⟩, by simp⟩
        · exact ⟨⟨rfl, fun _ => rfl, hstore rfl rfl⟩, by simp⟩
      · rw [if_neg hstop, if_pos hevent, holds_bind]
        apply (handle_ptrace_event_moves hold hsyscall hstop hevent answers).mono
        · intro _ c' hmoves
          exact ⟨⟨rfl, fun _ => rfl, hmoves⟩, by simp⟩
        · intro _ _ _ signal h
          simp at h

theorem resume_signal (config : Config) (tracee : Tracee) (signal : Int) :
    Request.signal ⟨resume_request config tracee, tracee.tid, signal⟩ =
      if signal = 0 then none else some (tracee.tid, signal) := by
  unfold Request.signal resume_request
  by_cases hzero : signal = 0
  · simp [hzero]
  · by_cases hcont : (config.seccomp_bpf && !tracee.has_pending_syscall) = true
    · simp [hzero, hcont]
    · simp [hzero, hcont]

/-- A listening task gets no signal, any other restart passes it on. -/
theorem restart_request_signal (tracee : Tracee) {signal : Int} {listen : Bool}
    (hlisten : listen = true → signal = 0) :
    (restart_request config tracee signal listen).signal =
      if signal = 0 then none else some (tracee.tid, signal) := by
  cases listen with
  | true =>
    rw [hlisten rfl]
    rfl
  | false => exact resume_signal config tracee signal

/-- **The restart** passes the signal on, when there is one. -/
theorem restart_tracee_moves (hold : c.tracees.lookup tid = some tracee) {signal : Int}
    {listen : Bool} (hlisten : listen = true → signal = 0) (answer : RestartAnswer) :
    Holds (restart_tracee config env tid signal listen answer) c
      (fun _ c' => Moves c c.registry (signals_of tid (some signal)) c')
      (fun _ c' => c'.tracees = c.tracees ∧ answer = .failed) := by
  have hasked : ∀ known, c.tracees.lookup tid = some known →
      Moves c c.registry (signals_of tid (some signal))
        (c.asked_restart config known signal listen) := by
    intro known hknown
    have htid : known.tid = tid := Tracees.lookup_tid hknown
    refine ⟨rfl, ?_⟩
    have happend : (c.asked_restart config known signal listen).requests =
        c.requests ++ [restart_request config known signal listen] := rfl
    unfold Context.passed
    rw [happend, List.filterMap_append, signals_of, List.filterMap_cons,
      restart_request_signal known hlisten, htid]
    by_cases hzero : signal = 0
    · simp [hzero]
    · simp [hzero]
  apply holds_restart_tracee
  · intro hunknown
    rw [hold] at hunknown
    cases hunknown
  · intro known hknown _
    have htid : known.tid = tid := Tracees.lookup_tid hknown
    subst htid
    have hstored : ((c.asked_restart config known signal listen).tracees.lookup
        (known.resumed listen).tid).isSome := by
      show (c.tracees.lookup known.tid).isSome = true
      rw [hknown]
      rfl
    have h := (hasked known hknown).store hstored
    have hflag : c.registry known.tid = some known.newborn := Context.registry_eq hknown
    have hself : c.registry.set (known.resumed listen).tid (some (known.resumed listen).newborn) =
        c.registry := Registry.set_self hflag
    rwa [hself] at h
  · intro known hknown _
    exact hasked known hknown
  · intro _ _ hanswer
    exact ⟨rfl, hanswer⟩

/-! ### Rounds -/

theorem observe_exec_moves (waited : Pid) (stop : Int) (ptrace_event : Nat) (answers : Answers) :
    Holds (observe_exec config env waited (.stopped stop ptrace_event) answers) c
      (fun _ c' => Moves c
        (match WaitStatus.former (.stopped stop ptrace_event) answers with
          | some former => c.registry.rename waited former
          | none => c.registry) [] c' ∧ (ptrace_event ≠ PTRACE_EVENT_EXEC → c' = c))
      (fun _ _ => ptrace_event = PTRACE_EVENT_EXEC) := by
  unfold observe_exec WaitStatus.former
  by_cases hexec : ptrace_event = PTRACE_EVENT_EXEC
  · dsimp only
    rw [if_pos hexec, if_pos hexec, holds_bind, holds_measured_ptrace]
    have h₀ : Moves c c.registry [] (c.asking .PTRACE_GETEVENTMSG waited) := .asking _ _
    show Holds _ (c.asking .PTRACE_GETEVENTMSG waited) _ _
    cases answers.eventmsg with
    | none => exact hexec
    | some former =>
      simp only [holds_ite, holds_throw]
      refine ⟨fun _ => hexec, fun _ => ?_⟩
      apply (migrate_exec_tid_spec waited former).mono
      · intro _ c' h
        refine ⟨?_, fun hne => absurd hexec hne⟩
        by_cases hsame : (former : Pid) = waited
        · rw [if_pos hsame] at h
          have hrename : c.registry.rename waited former = c.registry := if_pos hsame
          show Moves c (c.registry.rename waited former) [] c'
          rw [hrename, h]
          exact h₀
        · rw [if_neg hsame] at h
          exact h₀.trans (h.moves hsame)
      · intro _ _ _
        exact hexec
  · dsimp only
    rw [if_neg hexec, if_neg hexec, holds_pure]
    exact ⟨.refl c, fun _ => rfl⟩

theorem find_tracee_moves (waited : Pid) (stop : Int) (ptrace_event : Nat) (answers : Answers) :
    Holds (find_tracee config env waited (.stopped stop ptrace_event) answers) c
      (fun found c' => found = c'.tracees.lookup waited ∧
        Moves c (if config.follow then c.registry.register waited else c.registry) [] c')
      (fun _ _ => c.tracees.lookup waited = none ∧
        (waited ≤ 0 ∨ calloc_slots (env.alloc c.asked) c.tracees.1.nextCapacity = false)) := by
  unfold find_tracee
  rw [holds_bind, holds_get, Tracees.get_eq]
  cases hknown : c.tracees.lookup waited with
  | some tracee =>
    have hregister : c.registry.register waited = c.registry := by
      unfold Registry.register
      rw [if_neg]
      rw [Context.registry_none, hknown]
      simp
    rw [hregister, ite_self]
    exact ⟨hknown.symm, .refl c⟩
  | none =>
    by_cases hfollow : config.follow = true
    · simp only [hfollow, if_true, holds_bind]
      apply (add_tracee_spec waited _ _ true).mono
      · intro _ c' hpost
        rcases hpost with ⟨_, _, hreg⟩
        rw [holds_get, Tracees.get_eq]
        exact ⟨rfl, hreg.moves⟩
      · intro _ _ hpost
        rcases hpost with ⟨_, hwhy⟩
        refine ⟨trivial, ?_⟩
        obtain h | h | h := hwhy
        · exact Or.inl h
        · left
          split at h
          · exact h
          · rename_i htgid
            exact absurd h htgid
        · exact Or.inr h
    · simp only [hfollow, Bool.false_eq_true, if_false, holds_pure]
      exact ⟨hknown.symm, .refl c⟩

/-- A registered task stays registered through its stop. -/
theorem Registry.stopped_ne_none (hself : registry tid ≠ none) (stop : Int) (ptrace_event : Nat)
    (answers : Answers) : registry.stopped tid stop ptrace_event answers tid ≠ none := by
  have hset : registry.set tid (some false) tid ≠ none := by
    rw [Registry.set_same]
    simp
  unfold Registry.stopped
  split
  · exact hself
  · split
    · exact hset
    · split
      · cases WaitStatus.child (.stopped stop ptrace_event) answers with
        | none => exact hself
        | some child =>
          show registry.register child tid ≠ none
          unfold Registry.register Registry.set
          split
          · dsimp only
            split
            · simp
            · exact hself
          · exact hself
      · split
        · exact hset
        · exact hself

theorem handle_exit_moves (hold : c.tracees.lookup tracee.tid = some tracee) (status : WaitStatus) :
    Holds (handle_exit config env tracee tracee.tid status) c
      (fun _ c' => Moves c (c.registry.set tracee.tid none) [] c')
      (fun _ _ => True) := by
  have h₁ := Moves.restore hold (t := { tracee with phase := .SG_TRACEE_GONE }) rfl rfl
  apply holds_handle_exit fun c' => Moves c c.registry [] c'
  · exact fun _ => trivial
  · apply holds_report_exit
    · intro exit
      apply (write_stamped_spec _ _).mono
      · intro _ c' hpost
        rcases hpost with ⟨events, observed_at, _, hw⟩
        have h := h₁.trans hw.moves
        rwa [h₁.registry] at h
      · intro _ _ _
        trivial
    · exact h₁
  · intro c₁ c₂ c₃ h htracees hrequests _ hd
    have h₂ := h.trans (.of_eq htracees hrequests)
    rw [h.registry] at h₂
    have h₃ := h₂.trans hd.moves
    rwa [h₂.registry] at h₃

/-- The record of a task that has not been restarted yet holds its signal. -/
def Holding (context : Context) (tid : Pid) (signal : Int) : Prop :=
  ∃ tracee, context.tracees.lookup tid = some tracee ∧ tracee.in_ptrace_stop = true ∧
    tracee.pending_signal = signal ∧ tracee.phase = .SG_TRACEE_STOPPED

/-- From `c` to `c'` a round has failed before the signal was passed on: no request with
    the signal was made, or it was refused, and the record holds the signal. -/
structure Withheld (c : Context) (tid : Pid) (signal : Int) (answer : RestartAnswer)
    (c' : Context) : Prop where
  holding : Holding c' tid signal
  refused : c'.passed = c.passed ∨ answer = .failed

/-- A round that handles a stop of a registered task. -/
theorem stop_round_moves (hold : c.tracees.lookup tracee.tid = some tracee) (stop : Int)
    (ptrace_event : Nat) (answers : Answers) (shutdown_signal : Int) :
    Holds (do
        let tracee : Tracee := { tracee with in_ptrace_stop := true, phase := .SG_TRACEE_STOPPED }
        store tracee
        let (delivery_signal, listen) ← handle_stop config env tracee stop ptrace_event answers
        let restarted ← restart_tracee config env tracee.tid delivery_signal listen answers.restart
        pure (if restarted then test_shutdown shutdown_signal else .again)) c
      (fun _ c' => Moves c (c.registry.stopped tracee.tid stop ptrace_event answers)
        (signals_of tracee.tid (c.registry.delivered tracee.tid stop ptrace_event answers)) c')
      (fun _ c' => ∀ signal,
        c.registry.delivered tracee.tid stop ptrace_event answers = some signal →
        Withheld c tracee.tid signal answers.restart c') := by
  let stopped : Tracee := { tracee with in_ptrace_stop := true, phase := .SG_TRACEE_STOPPED }
  have h₀ : Moves c c.registry [] { c with tracees := c.tracees.write stopped } :=
    Moves.restore hold rfl rfl
  have hold₀ : (c.tracees.write stopped).lookup stopped.tid = some stopped := by
    rw [Tracees.lookup_write]
    exact if_pos ⟨rfl, by show (c.tracees.lookup tracee.tid).isSome = true; rw [hold]; rfl⟩
  -- While the task has not been restarted, its record holds the signal.
  have hholding : ∀ {c' : Context} {signal : Int}, c'.tracees.lookup stopped.tid =
      some { stopped with newborn := false, pending_signal := signal } →
      Holding c' tracee.tid signal := fun h => ⟨_, h, rfl, rfl, rfl⟩
  simp only [holds_bind, holds_store, holds_pure]
  apply (handle_stop_moves hold₀ stop ptrace_event answers).mono
  · intro result c₁ hpost
    rcases hpost with ⟨⟨hsignal, hlisten, h₁⟩, hheld⟩
    rw [h₀.registry] at hsignal h₁ hheld
    have hmoves := h₀.trans h₁
    have hknown : c₁.registry tracee.tid ≠ none := by
      rw [h₁.registry]
      apply Registry.stopped_ne_none
      intro h
      rw [Context.registry_none, hold] at h
      simp at h
    obtain ⟨tracee₁, hold₁⟩ : ∃ tracee₁, c₁.tracees.lookup tracee.tid = some tracee₁ := by
      cases h : c₁.tracees.lookup tracee.tid with
      | none => exact absurd (Context.registry_none.mpr h) hknown
      | some tracee₁ => exact ⟨tracee₁, rfl⟩
    apply (restart_tracee_moves hold₁ hlisten answers.restart).mono
    · intro restarted c₂ h₂
      have hsignals : signals_of tracee.tid (some result.1) =
          signals_of tracee.tid (c.registry.delivered tracee.tid stop ptrace_event answers) := by
        have hresult : result.1 = (c.registry.delivered tracee.tid stop ptrace_event
            answers).getD 0 := hsignal
        rw [hresult]
        cases c.registry.delivered tracee.tid stop ptrace_event answers <;> rfl
      have h := hmoves.trans h₂
      rw [hsignals, hmoves.registry] at h
      exact h
    · intro _ c₂ hpost signal hdelivered
      rcases hpost with ⟨hsame, hfailed⟩
      refine ⟨hholding ?_, Or.inr hfailed⟩
      rw [hsame]
      exact hheld signal hdelivered
  · intro _ c₁ hheld signal hdelivered
    rw [h₀.registry] at hheld
    obtain ⟨hrecord, hpassed⟩ := hheld signal hdelivered
    exact ⟨hholding hrecord, Or.inl hpassed⟩

/-- A task that has not stopped is only looked up. -/
theorem find_tracee_of_not_stopped {waited : Pid} {status : WaitStatus} {answers : Answers}
    (hstopped : ∀ stop ptrace_event, status ≠ .stopped stop ptrace_event) :
    find_tracee config env waited status answers = (do
      let context ← get
      pure (context.tracees.get waited)) := by
  unfold find_tracee
  congr 1
  funext context
  split
  · exact absurd rfl (hstopped _ _)
  · rfl

/-- The round of a task that has continued. -/
theorem holds_handle_status_continued {waited : Pid} {answers : Answers} {shutdown_signal : Int}
    {Q : RoundEnd → Context → Prop} {E : String → Context → Prop}
    (hunknown : c.tracees.lookup waited = none → Q .again c)
    (hknown : ∀ tracee, tracee.tid = waited → c.tracees.lookup tracee.tid = some tracee →
      let running : Tracee := { tracee with phase := .SG_TRACEE_RUNNING, in_ptrace_stop := false }
      Q .again { c with tracees := c.tracees.write running }) :
    Holds (handle_status config env waited .continued answers shutdown_signal) c Q E := by
  unfold handle_status observe_exec find_tracee
  simp only [holds_bind, holds_pure, holds_get, Tracees.get_eq]
  cases hlookup : c.tracees.lookup waited with
  | none => exact hunknown hlookup
  | some tracee =>
    have htid : tracee.tid = waited := Tracees.lookup_tid hlookup
    simp only [holds_pure, holds_bind, holds_store]
    exact hknown tracee htid (by rw [htid, hlookup])

/-- The round of a task that has ended. -/
theorem holds_handle_status_ended {waited : Pid} {status : WaitStatus} {answers : Answers}
    {shutdown_signal : Int} {Q : RoundEnd → Context → Prop} {E : String → Context → Prop}
    (hended : (∃ code, status = .exited code) ∨ ∃ signal, status = .signaled signal)
    (hunknown : c.tracees.lookup waited = none → Q .again c)
    (hknown : ∀ tracee, tracee.tid = waited → c.tracees.lookup tracee.tid = some tracee →
      Holds (handle_exit config env tracee tracee.tid status) c (fun _ c' => Q .again c') E) :
    Holds (handle_status config env waited status answers shutdown_signal) c Q E := by
  have hstopped : ∀ stop ptrace_event, status ≠ .stopped stop ptrace_event := by
    obtain ⟨code, rfl⟩ | ⟨signal, rfl⟩ := hended
    · simp
    · simp
  have hobserve : observe_exec config env waited status answers = pure () := by
    obtain ⟨code, rfl⟩ | ⟨signal, rfl⟩ := hended
    · rfl
    · rfl
  unfold handle_status
  rw [hobserve, find_tracee_of_not_stopped hstopped]
  simp only [holds_bind, holds_get, holds_pure, Tracees.get_eq]
  cases hlookup : c.tracees.lookup waited with
  | none => exact hunknown hlookup
  | some tracee =>
    have htid : tracee.tid = waited := Tracees.lookup_tid hlookup
    subst htid
    have hexit := hknown tracee rfl hlookup
    obtain ⟨code, rfl⟩ | ⟨signal, rfl⟩ := hended
    · exact (holds_bind _ _).mpr hexit
    · exact (holds_bind _ _).mpr hexit

/-- **A round** does to the table and the requests what the registry says.  If it fails
    before a signal has been passed on, the record of the task holds the signal, unless
    the task is new and there is no room for it. -/
theorem handle_status_moves (waited : Pid) (status : WaitStatus) (answers : Answers)
    (shutdown_signal : Int) :
    Holds (handle_status config env waited status answers shutdown_signal) c
      (fun _ c' => Moves c (c.registry.observe config waited status answers)
        (signals_of waited (c.registry.passes config waited status answers)) c')
      (fun _ c' => ∀ signal, c.registry.passes config waited status answers = some signal →
        Withheld c waited signal answers.restart c' ∨ (c.tracees.lookup waited = none ∧
          (waited ≤ 0 ∨ calloc_slots (env.alloc c.asked) c.tracees.1.nextCapacity = false))) := by
  have hexit : ∀ {status : WaitStatus},
      (∃ code, status = .exited code) ∨ (∃ signal, status = .signaled signal) →
      Holds (handle_status config env waited status answers shutdown_signal) c
        (fun _ c' => Moves c (c.registry.set waited none) [] c') (fun _ _ => True) := by
    intro status hended
    apply holds_handle_status_ended hended
    · intro hknown
      have hnone : c.registry.set waited none = c.registry :=
        Registry.set_self (Context.registry_none.mpr hknown)
      rw [hnone]
      exact .refl c
    · intro tracee htid hknown
      subst htid
      exact handle_exit_moves hknown status
  cases status with
  | continued =>
    apply holds_handle_status_continued
    · intro _
      exact .refl c
    · intro tracee _ hold
      exact .restore hold rfl rfl
  | exited code =>
    apply (hexit (Or.inl ⟨code, rfl⟩)).mono
    · intro _ _ h
      exact h
    · intro _ _ _ signal h
      exact absurd h (by simp [Registry.passes])
  | signaled signal =>
    apply (hexit (Or.inr ⟨signal, rfl⟩)).mono
    · intro _ _ h
      exact h
    · intro _ _ _ signal h
      exact absurd h (by simp [Registry.passes])
  | stopped stop ptrace_event =>
    unfold handle_status
    rw [holds_bind]
    apply (observe_exec_moves waited stop ptrace_event answers).mono
    · intro _ c₁ hpost
      rcases hpost with ⟨h₁, hsame⟩
      rw [holds_bind]
      apply (find_tracee_moves waited stop ptrace_event answers).mono
      · intro found c₂ hpost
        rcases hpost with ⟨hfound, h₂⟩
        have harrive : Moves c (c.registry.arrive config waited (.stopped stop ptrace_event) answers)
            [] c₂ := by
          have h := h₁.trans h₂
          rw [h₁.registry] at h
          exact h
        have hregistry := harrive.registry
        rw [hfound]
        cases hknown : c₂.tracees.lookup waited with
        | none =>
          have hnone : c.registry.arrive config waited (.stopped stop ptrace_event) answers waited =
              none := by rw [← hregistry, Context.registry_none, hknown]
          have hobserve : c.registry.observe config waited (.stopped stop ptrace_event) answers =
              c.registry.arrive config waited (.stopped stop ptrace_event) answers := if_pos hnone
          have hpasses : c.registry.passes config waited (.stopped stop ptrace_event) answers =
              none := if_pos hnone
          rw [hobserve, hpasses]
          exact harrive
        | some tracee =>
          have htid : tracee.tid = waited := Tracees.lookup_tid hknown
          subst htid
          have hsome : c.registry.arrive config tracee.tid (.stopped stop ptrace_event) answers
              tracee.tid ≠ none := by
            rw [← hregistry]
            intro h
            rw [Context.registry_none, hknown] at h
            simp at h
          have hobserve : c.registry.observe config tracee.tid (.stopped stop ptrace_event) answers =
              c₂.registry.stopped tracee.tid stop ptrace_event answers := by
            rw [hregistry]
            exact if_neg hsome
          have hpasses : c.registry.passes config tracee.tid (.stopped stop ptrace_event) answers =
              c₂.registry.delivered tracee.tid stop ptrace_event answers := by
            rw [hregistry]
            exact if_neg hsome
          rw [hobserve, hpasses]
          apply (stop_round_moves hknown stop ptrace_event answers shutdown_signal).mono
          · intro _ c₃ h₃
            have h := harrive.trans h₃
            exact h
          · intro _ c₃ hwithheld signal hsignal
            obtain ⟨hholding, hrefused⟩ := hwithheld signal hsignal
            rw [harrive.passed, List.append_nil] at hrefused
            exact Or.inl ⟨hholding, hrefused⟩
      · intro _ c₂ hpost signal hsignal
        rcases hpost with ⟨hnone, hwhy⟩
        right
        have hevent : ptrace_event = 0 := by
          by_contra hne
          simp [Registry.passes, Registry.delivered, WaitStatus.delivery, hne] at hsignal
        have heq : c₁ = c := hsame (by rw [hevent]; decide)
        rw [heq] at hnone hwhy
        exact ⟨hnone, hwhy⟩
    · intro _ _ hexec signal hsignal
      simp [Registry.passes, Registry.delivered, WaitStatus.delivery, hexec] at hsignal

/-! ### The loop -/

theorem loop_round_moves (report : Report) :
    Holds (loop_round config env report) c
      (fun _ c' => Moves c (c.registry.after config report) (c.registry.signals config report) c')
      (fun _ c' => ∀ waited status answers signal,
        report.waited = .status waited status answers →
        c.registry.passes config waited status answers = some signal →
        Withheld c waited signal answers.restart c' ∨ (c.tracees.lookup waited = none ∧
          (waited ≤ 0 ∨ calloc_slots (env.alloc c.asked) c.tracees.1.nextCapacity = false))) := by
  unfold loop_round Registry.after Registry.signals
  cases hwaited : report.waited with
  | eintr => exact .refl c
  | failed => simp
  | status waited status answers =>
    apply (handle_status_moves waited status answers report.shutdown_signal).mono
    · intro _ _ h
      exact h
    · intro _ c' h waited' status' answers' signal heq hsignal
      cases heq
      exact h signal hsignal

/-- **A step of the loop** is a round that does not fail, while a tracee is left. -/
theorem loop_step_true {report : Report} (h : loop_step config env c report = (c', true)) :
    c.tracees.count ≠ 0 ∧ (loop_round config env report).exec c = (.ok .again, c') := by
  unfold loop_step at h
  split at h
  · simp at h
  · rename_i hcount
    refine ⟨hcount, ?_⟩
    split at h
    · rename_i heq
      rw [heq, (Prod.mk.inj h).1]
    · simp at h

theorem loop_step_moves {report : Report} (h : loop_step config env c report = (c', true)) :
    Moves c (c.registry.after config report) (c.registry.signals config report) c' :=
  (loop_round_moves report).of_ok (loop_step_true h).2

/-- The loop over the reports of a run comes to its last state. -/
theorem trace_rounds_of_reaches {ok : List Report → Context → Report → Prop} {start : Context}
    {h : List Report} (hr : Reaches (loop_step config env) ok start h c) (rest : List Report) :
    (trace_rounds config env (h ++ rest)).exec start = (trace_rounds config env rest).exec c := by
  induction hr generalizing rest with
  | refl => rfl
  | snoc _ _ hM ih =>
    rename_i h c₀ c₁ report _ _
    obtain ⟨hcount, hround⟩ := loop_step_true hM
    rw [List.append_assoc, ih, List.singleton_append, trace_rounds]
    rw [exec_bind_of_ok (exec_get c₀), if_neg hcount, exec_bind_of_ok hround]

/-- No tracee is left: the loop ends without waiting for another report. -/
theorem trace_rounds_of_count (hcount : c.tracees.count = 0) (reports : List Report) :
    (trace_rounds config env reports).exec c = (.ok (some (exit_status config c)), c) := by
  cases reports with
  | nil =>
    rw [trace_rounds, exec_bind_of_ok (exec_get c), if_pos hcount]
    rfl
  | cons report reports =>
    rw [trace_rounds, exec_bind_of_ok (exec_get c), if_pos hcount]
    rfl

end moves

end Sysgaze
