import Sysgaze.Attaching
import Sysgaze.SlotDiscipline

/-! # Requests are made of stopped tasks only

    The kernel refuses nearly every `ptrace` request about a task that is not in a stop that
    `waitpid` has reported.  What the tracer knows about this is the flag `in_ptrace_stop` of
    its records.

    Here the kernel's side is an automaton over what the two say to each other
    (`Stops.step`): it keeps the set of stopped tasks and allows a request or not.
    `requests_allowed`: along every run, from the launch or the attach on, whatever is
    reported, every request is allowed, and whenever the loop waits the flags are exactly the
    kernel's set (`Said`).  Therefore the requests of a detach are allowed as well, and they
    leave no task stopped (`DetachesLawfully`).  A round that fails has asked for nothing else
    but, at most, to detach a child that it could not add (`AllowedBut`).
-/

open Fallible Stepping

namespace Sysgaze

/-! ### The kernel's side -/

/-- What the kernel and the tracer say to each other: `waitpid` reports a task, with the TID that
    an exec has taken from it, or a request is made, which succeeds or not. -/
inductive Exchange where
  | reported (waited : Pid) (status : WaitStatus) (former : Option Pid)
  | requested (request : Request) (ok : Bool)

/-- The request that is made. -/
def Exchange.request : Exchange → Option Request
  | .reported _ _ _ => none
  | .requested request _ => some request

/-- The tasks that are in a stop that has been reported. -/
abbrev Stops := Pid → Bool

namespace Stops

/-- No task is stopped. -/
def empty : Stops := fun _ => false

variable (stops : Stops)

/-- The task `tid` is stopped, or runs. -/
def set (tid : Pid) (stopped : Bool) : Stops := fun other => if other = tid then stopped else stops other

/-- The task `waited` has stopped, and there is no task `former` any more. -/
def arrive (waited : Pid) (former : Option Pid) : Stops := fun tid =>
  if tid = waited then true else if former = some tid then false else stops tid

/-- What the kernel makes of an exchange: the tasks that are stopped afterwards, or nothing when the
    request is one that it does not allow.  A task is seized or interrupted while it runs. -/
def step : Exchange → Option Stops
  | .reported waited (.stopped _ _) former => some (stops.arrive waited former)
  | .reported waited _ _ => some (stops.set waited false)
  | .requested request ok =>
    match request.request with
    | .PTRACE_SEIZE | .PTRACE_INTERRUPT => some stops
    | .PTRACE_GETEVENTMSG | .PTRACE_GETSIGINFO | .PTRACE_GET_SYSCALL_INFO | .PTRACE_SETOPTIONS =>
      if stops request.tid then some stops else none
    | .PTRACE_CONT | .PTRACE_SYSCALL | .PTRACE_LISTEN | .PTRACE_DETACH =>
      if stops request.tid then some (if ok then stops.set request.tid false else stops)
      else none

/-- What the kernel makes of a conversation, one exchange after the other. -/
def run : Stops → List Exchange → Option Stops
  | stops, [] => some stops
  | stops, exchange :: exchanges =>
    match stops.step exchange with
    | some stops => run stops exchanges
    | none => none

end Stops

/-- Is it a question about a stop? -/
def Request.is_question (request : Request) : Bool :=
  request.request == .PTRACE_GETEVENTMSG || request.request == .PTRACE_GETSIGINFO ||
    request.request == .PTRACE_GET_SYSCALL_INFO || request.request == .PTRACE_SETOPTIONS

/-- Does the request end a stop? -/
def Request.ends_stop (request : Request) : Bool :=
  request.request == .PTRACE_CONT || request.request == .PTRACE_SYSCALL ||
    request.request == .PTRACE_LISTEN || request.request == .PTRACE_DETACH

/-! ### The tracer's side -/

/-- The tasks that are flagged as stopped. -/
def Context.stopped (context : Context) : Stops := fun tid =>
  match context.tracees.lookup tid with
  | some tracee => tracee.in_ptrace_stop
  | none => false

/-- The requests that have been added from `c` to `c'`. -/
def Context.requests_since (c' c : Context) : List Request := c'.requests.drop c.requests.length

/-- What is said in a round that leads from `c` to `c'`. -/
def Report.exchanges (report : Report) (c c' : Context) : List Exchange :=
  match report.waited with
  | .status waited status answers =>
    .reported waited status (status.former answers) ::
      (c'.requests_since c).map fun request => .requested request (answers.restart = .ok)
  | _ => []

/-- What is said in the rounds of a history. -/
def exchanges (config : Config) (env : Env) : Context → List Report → List Exchange
  | _, [] => []
  | c, report :: reports =>
    let c' := (loop_step config env c report).1
    report.exchanges c c' ++ exchanges config env c' reports

/-- The kernel reports the stops of traced tasks only: without `-f` these are the tasks in the
    table. -/
def TracedOnly (config : Config) (c : Context) (report : Report) : Prop :=
  ∀ waited stop ptrace_event answers,
    report.waited = .status waited (.stopped stop ptrace_event) answers →
    config.follow = true ∨ (c.tracees.lookup waited).isSome

/-- From `c` to `c'` only questions about `waited` have been asked. -/
def Questions (c : Context) (waited : Pid) (c' : Context) : Prop :=
  ∃ added, c'.requests = c.requests ++ added ∧
    ∀ request ∈ added, request.is_question = true ∧ request.tid = waited

/-- From `c` to `c'` only questions about `waited` have been asked, and the flags are `stops`. -/
structure Queries (c : Context) (waited : Pid) (stops : Stops) (c' : Context) : Prop where
  questions : Questions c waited c'
  stopped : c'.stopped = stops

section stops
variable {config : Config} {env : Env} {c c' c'' : Context} {stops stops' : Stops}
  {tracee : Tracee} {waited tid : Pid} {said said' : List Exchange}

theorem Stops.run_append : stops.run (said ++ said') =
    (stops.run said).bind fun stops' => stops'.run said' := by
  induction said generalizing stops with
  | nil => rfl
  | cons exchange said ih =>
    rw [List.cons_append, Stops.run, Stops.run]
    cases stops.step exchange with
    | none => rfl
    | some stops' => exact ih

theorem Stops.set_self {stopped : Bool} (h : stops tid = stopped) : stops.set tid stopped = stops := by
  funext other
  unfold Stops.set
  split
  · rename_i heq
    rw [heq, h]
  · rfl

/-- Questions about a stopped task are allowed. -/
theorem Stops.run_questions (hstopped : stops waited = true) (ok : Bool) (added : List Request)
    (hadded : ∀ request ∈ added, request.is_question = true ∧ request.tid = waited) :
    stops.run (added.map fun request => .requested request ok) = some stops := by
  induction added with
  | nil => rfl
  | cons request added ih =>
    obtain ⟨hquestion, htid⟩ := hadded request List.mem_cons_self
    have hstep : stops.step (.requested request ok) = some stops := by
      rcases request with ⟨kind, tid, data⟩
      have htid : tid = waited := htid
      subst htid
      unfold Stops.step
      cases kind <;> simp_all [Request.is_question]
    rw [List.map_cons, Stops.run, hstep]
    exact ih fun other hother => hadded other (List.mem_cons_of_mem _ hother)

/-- The stop of a stopped task can be ended. -/
theorem Stops.step_end {request : Request} (hstopped : stops request.tid = true)
    (hends : request.ends_stop = true) (ok : Bool) :
    stops.step (.requested request ok) =
      some (if ok then stops.set request.tid false else stops) := by
  rcases request with ⟨kind, tid, data⟩
  unfold Stops.step
  cases kind <;> simp_all [Request.ends_stop]

/-- A task is seized or interrupted in whatever state it is. -/
theorem Stops.step_running {request : Request}
    (h : request.request = .PTRACE_SEIZE ∨ request.request = .PTRACE_INTERRUPT) (ok : Bool) :
    stops.step (.requested request ok) = some stops := by
  unfold Stops.step
  dsimp only
  obtain h | h := h
  · rw [h]
  · rw [h]

/-! ### Questions -/

theorem Questions.refl (c : Context) (waited : Pid) : Questions c waited c :=
  ⟨[], (List.append_nil _).symm, by simp⟩

theorem Questions.trans (h : Questions c waited c') (h' : Questions c' waited c'') :
    Questions c waited c'' := by
  obtain ⟨added, hadded, hquestions⟩ := h
  obtain ⟨added', hadded', hquestions'⟩ := h'
  refine ⟨added ++ added', by rw [hadded', hadded, List.append_assoc], fun request hmem => ?_⟩
  obtain hmem | hmem := List.mem_append.mp hmem
  · exact hquestions request hmem
  · exact hquestions' request hmem

theorem Questions.of_eq (h : c'.requests = c.requests) : Questions c waited c' :=
  ⟨[], by rw [h, List.append_nil], by simp⟩

theorem Questions.asking {request : PtraceRequest}
    (h : Request.is_question ⟨request, waited, 0⟩ = true) :
    Questions c waited (c.asking request waited) :=
  ⟨[⟨request, waited, 0⟩], rfl, by simpa using h⟩

theorem Queries.trans (h : Queries c waited stops c') (h' : Queries c' waited stops' c'') :
    Queries c waited stops' c'' := ⟨h.questions.trans h'.questions, h'.stopped⟩

theorem Queries.refl (c : Context) (waited : Pid) : Queries c waited c.stopped c := ⟨.refl c waited, rfl⟩

theorem Queries.asking {request : PtraceRequest}
    (h : Request.is_question ⟨request, waited, 0⟩ = true) :
    Queries c waited c.stopped (c.asking request waited) := ⟨.asking h, rfl⟩

theorem Context.stopped_of (hold : c.tracees.lookup tracee.tid = some tracee) :
    c.stopped tracee.tid = tracee.in_ptrace_stop := by
  unfold Context.stopped
  rw [hold]

theorem Context.stopped_none (h : c.tracees.lookup tid = none) : c.stopped tid = false := by
  unfold Context.stopped
  rw [h]

/-- A record is stored. -/
theorem Queries.store {t : Tracee} (h : Queries c waited stops c')
    (hknown : (c'.tracees.lookup t.tid).isSome) :
    Queries c waited (stops.set t.tid t.in_ptrace_stop) { c' with tracees := c'.tracees.write t } := by
  refine ⟨h.questions, ?_⟩
  rw [← h.stopped]
  funext other
  unfold Context.stopped Stops.set
  rw [Tracees.lookup_write]
  by_cases ho : other = t.tid
  · rw [if_pos ⟨ho, hknown⟩, if_pos ho]
  · rw [if_neg fun h => ho h.1, if_neg ho]

/-- A record is stored that has the same flag. -/
theorem Queries.restore {t : Tracee} (h : Queries c waited stops c')
    (hold : c'.tracees.lookup tracee.tid = some tracee) (htid : t.tid = tracee.tid)
    (hflag : t.in_ptrace_stop = tracee.in_ptrace_stop) :
    Queries c waited stops { c' with tracees := c'.tracees.write t } := by
  have hstored := h.store (t := t) (by rw [htid, hold]; rfl)
  rwa [htid, hflag, Stops.set_self (by rw [← h.stopped, Context.stopped_of hold])] at hstored

theorem Queries.same (h : Queries c waited stops c') (htracees : c''.tracees = c'.tracees)
    (hrequests : c''.requests = c'.requests) : Queries c waited stops c'' := by
  refine ⟨h.questions.trans (.of_eq hrequests), ?_⟩
  rw [← h.stopped]
  unfold Context.stopped
  rw [htracees]

theorem Frame.queries (h : Frame c tid c') : Queries c waited c.stopped c' := by
  refine ⟨.of_eq (congrArg Context.Rest.requests h.rest), ?_⟩
  funext other
  unfold Context.stopped
  by_cases ho : other = tid
  · have hshell := congrArg (Option.map Shell.in_ptrace_stop) h.shell
    rw [Option.map_map, Option.map_map] at hshell
    rw [ho]
    cases hnew : c'.tracees.lookup tid with
    | none => cases hold : c.tracees.lookup tid <;> simp_all
    | some t => cases hold : c.tracees.lookup tid <;> simp_all [Tracee.shell]
  · rw [h.others other ho]

theorem Writes.queries {events : List Event} (h : Writes config c events c') :
    Queries c waited c.stopped c' :=
  (Queries.refl c waited).same h.tracees (congrArg Context.Rest.requests h.rest)

theorem Breaks.questions {events : List Event} (h : Breaks config c events c') :
    Questions c waited c' := .of_eq (congrArg Context.Rest.requests h.rest)

/-- A new task runs. -/
theorem Registers.queries {tgid : Pid} {attached newborn : Bool}
    (h : Registers c tid tgid attached newborn c') : Queries c waited c.stopped c' := by
  refine ⟨.of_eq (congrArg Context.Rest.requests h.rest), ?_⟩
  funext other
  unfold Context.stopped
  rw [h.lookup]
  split
  · rename_i heq
    split at heq
    · rename_i hnew
      rw [hnew.1, hnew.2]
      exact (congrArg Tracee.in_ptrace_stop (Option.some.inj heq)).symm
    · rw [heq]
  · rename_i heq
    split at heq
    · simp at heq
    · rw [heq]

/-- Apart from the task that was waited for, only the former task has changed. -/
theorem Migrates.stopped_other {former : Pid} (h : Migrates config c waited former c')
    (htid : tid ≠ waited) :
    c'.stopped tid = if tid = former then false else c.stopped tid := by
  unfold Context.stopped
  rw [h.lookup, if_neg htid]
  split <;> split <;> simp_all

theorem Drops.queries (h : Drops c [tid] c') : Queries c waited (c.stopped.set tid false) c' := by
  refine ⟨.of_eq h.requests, ?_⟩
  funext other
  unfold Context.stopped Stops.set
  rw [h.lookup]
  by_cases ho : other = tid
  · simp [ho]
  · simp [ho]

/-! ### Stops are handled -/

/-- A step has failed after questions about `waited`, and after its restart, or the `DETACH` of a
    child for which there was no room. -/
def LeavesOff (c : Context) (waited : Pid) (answers : Answers) (c' : Context) : Prop :=
  ∃ asked last, Questions c waited asked ∧ c'.requests = asked.requests ++ last ∧
    (last = [] ∨ (∃ request, last = [request] ∧ request.ends_stop = true ∧ request.tid = waited) ∨
      ∃ child : Nat, answers.eventmsg = some child ∧ last = [⟨.PTRACE_DETACH, child, 0⟩])

theorem Questions.leaves_off (h : Questions c waited c') (answers : Answers) :
    LeavesOff c waited answers c' := ⟨c', [], h, (List.append_nil _).symm, Or.inl rfl⟩

theorem Questions.then_leaves_off {answers : Answers} (h : Questions c waited c')
    (h' : LeavesOff c' waited answers c'') : LeavesOff c waited answers c'' := by
  obtain ⟨asked, last, hasked, hrequests, hlast⟩ := h'
  exact ⟨asked, last, h.trans hasked, hrequests, hlast⟩

theorem handle_syscall_stop_queries (hold : c.tracees.lookup tracee.tid = some tracee)
    (answer : Option SyscallInfo) :
    Holds (handle_syscall_stop config env tracee answer) c
      (fun _ c' => Queries c tracee.tid c.stopped c') (fun _ c' => Questions c tracee.tid c') :=
  (handle_syscall_stop_frame hold answer).mono (fun _ _ h => (Queries.asking rfl).trans h.queries)
    fun _ _ h => (Questions.asking rfl).trans h.queries.questions

theorem handle_seccomp_stop_queries (hold : c.tracees.lookup tracee.tid = some tracee)
    (answer : Option SyscallInfo) :
    Holds (handle_seccomp_stop config env tracee answer) c
      (fun _ c' => Queries c tracee.tid c.stopped c') (fun _ c' => Questions c tracee.tid c') :=
  (handle_seccomp_stop_frame hold answer).mono (fun _ _ h => (Queries.asking rfl).trans h.queries)
    fun _ _ h => (Questions.asking rfl).trans h.queries.questions

theorem handle_exec_event_queries (hold : c.tracees.lookup tracee.tid = some tracee) :
    Holds (handle_exec_event config env tracee) c
      (fun _ c' => Queries c tracee.tid c.stopped c') (fun _ c' => Questions c tracee.tid c') := by
  have h₀ : Queries c tracee.tid c.stopped (c.exec_observed tracee) :=
    (Queries.refl c _).same (c.exec_observed_tracees tracee) (c.exec_observed_requests tracee)
  have hold₀ : (c.exec_observed tracee).tracees.lookup tracee.tid = some tracee := by
    rw [Context.exec_observed_tracees]
    exact hold
  rw [holds_handle_exec_event]
  constructor
  · intro _
    apply (complete_exec_spec hold₀).mono
    · intro mid c₁ hpost
      rcases hpost with ⟨exited_at, events, _, hmid, hu⟩
      have h₁ := h₀.trans (hu.frame hold₀ (by rw [hmid]; rfl)).queries
      rw [h₀.stopped] at h₁
      exact h₁.restore hu.lookup_self rfl rfl
    · intro _ c₁ hpost
      rcases hpost with ⟨events, _, hf⟩
      exact h₀.questions.trans hf.toFrame.queries.questions
  · exact fun _ => h₀.restore hold₀ rfl rfl

theorem handle_child_event_queries (ptrace_event : Nat) (answers : Answers) :
    Holds (handle_child_event config env tracee ptrace_event answers) c
      (fun _ c' => Queries c tracee.tid c.stopped c')
      (fun _ c' => LeavesOff c tracee.tid answers c') := by
  have h₀ : Queries c tracee.tid c.stopped (c.asking .PTRACE_GETEVENTMSG tracee.tid) := .asking rfl
  unfold handle_child_event
  rw [holds_bind, holds_measured_ptrace]
  show Holds _ (c.asking .PTRACE_GETEVENTMSG tracee.tid) _ _
  cases hmessage : answers.eventmsg with
  | none => simpa using h₀.questions.leaves_off answers
  | some message =>
    simp only [Option.getD_some, holds_ite, holds_throw, holds_bind, holds_onError]
    refine ⟨fun _ => h₀.questions.leaves_off answers, fun _ => ?_⟩
    apply (add_tracee_spec _ _ _ _).mono
    · intro _ c₁ hpost
      rcases hpost with ⟨_, _, hreg⟩
      have h₁ : Queries c tracee.tid c.stopped c₁ := by
        have h := h₀.trans hreg.queries
        rwa [h₀.stopped] at h
      simp only [holds_get, Tracees.get_eq]
      cases c₁.tracees.lookup tracee.tid with
      | none => exact h₁.questions.leaves_off answers
      | some parent =>
        apply (write_stamped_spec parent _).mono
        · intro _ c₂ hpost
          rcases hpost with ⟨events, observed_at, _, hw⟩
          have h := h₁.trans hw.queries
          rwa [h₁.stopped] at h
        · intro _ c₂ hpost
          rcases hpost with ⟨events, _, hb⟩
          exact (h₁.questions.trans hb.questions).leaves_off answers
    · intro _ c₁ hpost
      rcases hpost with ⟨hsame, _⟩
      have hrequests : c₁.requests = (c.asking .PTRACE_GETEVENTMSG tracee.tid).requests :=
        congrArg Context.Rest.requests hsame.rest
      have h₁ : Questions c tracee.tid c₁ := h₀.questions.trans (.of_eq hrequests)
      unfold Context.abandon_child
      -- The child that has found no place is detached, or killed where it was launched.
      split
      · exact ⟨c₁, _, h₁, rfl, Or.inr (Or.inr ⟨message, hmessage, rfl⟩)⟩
      · exact ⟨c₁, [], h₁, (List.append_nil _).symm, Or.inl rfl⟩

theorem handle_signal_stop_queries (hold : c.tracees.lookup tracee.tid = some tracee) (stop : Int)
    (answer : SigInfoAnswer) :
    Holds (handle_signal_stop config env tracee stop answer) c
      (fun _ c' => Queries c tracee.tid c.stopped c') (fun _ c' => Questions c tracee.tid c') := by
  have h₀ : Queries c tracee.tid c.stopped (c.asking .PTRACE_GETSIGINFO tracee.tid) := .asking rfl
  have hold₀ : (c.asking .PTRACE_GETSIGINFO tracee.tid).tracees.lookup tracee.tid =
      some tracee := hold
  unfold handle_signal_stop
  rw [holds_bind, holds_measured_ptrace]
  show Holds _ (c.asking .PTRACE_GETSIGINFO tracee.tid) _ _
  cases answer with
  | ok signal_info =>
    simp only [holds_bind, holds_store, holds_pure]
    have h₁ := h₀.restore (t := { tracee with newborn := false, pending_signal := stop }) hold₀ rfl rfl
    apply (write_stamped_spec _ _).mono
    · intro _ c' hpost
      rcases hpost with ⟨events, observed_at, _, hw⟩
      have h := h₁.trans hw.queries
      rwa [h₁.stopped] at h
    · intro _ c' hpost
      rcases hpost with ⟨events, _, hb⟩
      exact h₁.questions.trans hb.questions
  | einval =>
    simp only [holds_ite, holds_bind, holds_store, holds_pure, holds_throw]
    exact ⟨fun _ => h₀.restore hold₀ rfl rfl, fun _ => h₀.questions⟩
  | failed => exact h₀.questions

/-- **A stop** is handled by asking questions about the task that has stopped; the flags stay. -/
theorem handle_stop_queries (hold : c.tracees.lookup tracee.tid = some tracee) (stop : Int)
    (ptrace_event : Nat) (answers : Answers) :
    Holds (handle_stop config env tracee stop ptrace_event answers) c
      (fun _ c' => Queries c tracee.tid c.stopped c')
      (fun _ c' => LeavesOff c tracee.tid answers c') := by
  have hstored : ∀ {t : Tracee}, t.tid = tracee.tid → t.in_ptrace_stop = tracee.in_ptrace_stop →
      Queries c tracee.tid c.stopped { c with tracees := c.tracees.write t } :=
    fun htid hflag => (Queries.refl c _).restore hold htid hflag
  unfold handle_stop
  simp only [holds_ite, holds_bind, holds_store, holds_pure]
  refine ⟨fun _ => ?_, fun _ => ⟨fun _ => ⟨fun _ => hstored rfl rfl, fun _ => hstored rfl rfl⟩,
    fun _ => ⟨fun _ => ?_, fun _ => ⟨fun _ => hstored rfl rfl, fun _ => ?_⟩⟩⟩⟩
  · exact (handle_syscall_stop_queries hold _).mono (fun _ _ h => h) fun _ _ h => h.leaves_off answers
  · unfold handle_ptrace_event
    simp only [holds_ite, holds_throw]
    refine ⟨fun _ => ?_, fun _ => ⟨fun _ => ?_, fun _ => ⟨fun _ => ?_, fun _ => ?_⟩⟩⟩
    · exact (handle_seccomp_stop_queries hold _).mono (fun _ _ h => h) fun _ _ h => h.leaves_off answers
    · exact (handle_exec_event_queries hold).mono (fun _ _ h => h) fun _ _ h => h.leaves_off answers
    · exact (Questions.refl c _).leaves_off answers
    · exact handle_child_event_queries _ _
  · exact (handle_signal_stop_queries hold _ _).mono (fun _ _ h => h) fun _ _ h => h.leaves_off answers

/-! ### Rounds -/

theorem migrate_exec_tid_requests (waited former : Pid) :
    Preserves (migrate_exec_tid config env waited former) Context.requests := by
  have hadd : ∀ (tid tgid : Pid) (attached newborn : Bool),
      Preserves (add_tracee env tid tgid attached newborn) Context.requests := fun _ _ _ _ c =>
    (add_tracee_spec _ _ _ _).mono
      (fun _ _ hpost => congrArg Context.Rest.requests hpost.2.2.rest)
      fun _ _ hpost => congrArg Context.Rest.requests hpost.1.rest
  have hrename : Preserves (zoom Context.output (fun context output => { context with output := output })
      (sg_output_migrate_tid former waited) : TraceM Unit) Context.requests :=
    preserves_zoom fun _ _ => rfl
  intro c
  apply holds_migrate_exec_tid
  · exact fun _ => rfl
  · intro source dropped _ hd _ _
    rw [← hd.requests]
    have hmigrate : Preserves (migrate_source env waited former source) Context.requests := by
      unfold migrate_source
      apply preserves_bind
      · exact preserves_onError (hadd _ _ _ _) fun _ => rfl
      · intro _
        apply preserves_bind
        · exact fun _ => rfl
        intro _
        apply preserves_bind hrename
        intro _
        apply preserves_modify
        intro c
        split
        · rfl
        · rfl
    exact hmigrate dropped
  · intro dropped _ hd _ _ _
    rw [← hd.requests]
    exact preserves_bind (hadd _ _ _ _) (fun _ => hrename) dropped

/-- **An exec** takes the former TID out of the table, and asks one question. -/
theorem observe_exec_queries (waited : Pid) (stop : Int) (ptrace_event : Nat) (answers : Answers) :
    Holds (observe_exec config env waited (.stopped stop ptrace_event) answers) c
      (fun _ c' => Questions c waited c' ∧
        (∀ tid, tid ≠ waited → c'.stopped tid =
          if WaitStatus.former (.stopped stop ptrace_event) answers = some tid then false
          else c.stopped tid) ∧
        ((c.tracees.lookup waited).isSome → (c'.tracees.lookup waited).isSome))
      (fun _ c' => Questions c waited c') := by
  have hasked : Questions c waited (c.asking .PTRACE_GETEVENTMSG waited) := .asking rfl
  unfold observe_exec WaitStatus.former
  dsimp only
  rw [holds_ite]
  constructor
  · intro hexec
    -- The kernel names the TID that the thread had before `execve`.
    rw [holds_bind, holds_measured_ptrace]
    show Holds _ (c.asking .PTRACE_GETEVENTMSG waited) _ _
    simp only [if_pos hexec]
    cases answers.eventmsg with
    | none => exact hasked
    | some former =>
      simp only [holds_ite, holds_throw]
      refine ⟨fun _ => hasked, fun _ => ?_⟩
      apply ((migrate_exec_tid_spec waited former).and
        (migrate_exec_tid_requests waited former (c.asking .PTRACE_GETEVENTMSG waited))).mono
      · intro _ c' hpost
        rcases hpost with ⟨hmigrates, hrequests⟩
        refine ⟨hasked.trans (.of_eq hrequests), ?_, ?_⟩
        · intro tid htid
          show c'.stopped tid = if some (former : Pid) = some tid then false else c.stopped tid
          simp only [Option.some.injEq]
          -- A leader that calls `execve` keeps its TID, and nothing moves.
          by_cases hsame : (former : Pid) = waited
          · rw [if_pos hsame] at hmigrates
            rw [if_neg (by rw [hsame]; exact Ne.symm htid), hmigrates]
            rfl
          · rw [if_neg hsame] at hmigrates
            rw [hmigrates.stopped_other htid]
            exact if_congr eq_comm rfl rfl
        · intro hknown
          by_cases hsame : (former : Pid) = waited
          · rw [if_pos hsame] at hmigrates
            rw [hmigrates]
            exact hknown
          · rw [if_neg hsame] at hmigrates
            rw [hmigrates.lookup, if_pos rfl]
            rfl
      · exact fun _ _ hpost => hasked.trans (.of_eq hpost.2)
  · intro hexec
    -- Any other stop: nothing is asked and nothing moves.
    simp only [if_neg hexec]
    exact ⟨.refl c waited, fun _ _ => rfl, id⟩

/-- A traced task is found, or registered. -/
theorem find_tracee_queries (waited : Pid) (stop : Int) (ptrace_event : Nat) (answers : Answers)
    (htraced : config.follow = true ∨ (c.tracees.lookup waited).isSome) :
    Holds (find_tracee config env waited (.stopped stop ptrace_event) answers) c
      (fun found c' => Queries c waited c.stopped c' ∧ ∃ tracee, found = some tracee ∧
        c'.tracees.lookup waited = some tracee)
      (fun _ c' => Questions c waited c') := by
  unfold find_tracee
  rw [holds_bind, holds_get, Tracees.get_eq]
  cases hknown : c.tracees.lookup waited with
  | some tracee => exact ⟨.refl c waited, tracee, rfl, hknown⟩
  | none =>
    have hfollow : config.follow = true := htraced.resolve_right (by rw [hknown]; simp)
    dsimp only
    rw [if_pos hfollow, holds_bind]
    apply (add_tracee_spec _ _ _ _).mono
    · intro _ c' hpost
      rcases hpost with ⟨_, _, hreg⟩
      have hself := hreg.lookup waited
      rw [if_pos ⟨rfl, hknown⟩] at hself
      rw [holds_bind, holds_get, holds_pure, Tracees.get_eq]
      exact ⟨hreg.queries, _, hself, hself⟩
    · intro _ c' hpost
      exact .of_eq (congrArg Context.Rest.requests hpost.1.rest)

/-- A stop has been handled: questions, and one request that ends the stop. -/
structure Answered (c : Context) (waited : Pid) (former : Option Pid) (answers : Answers)
    (c' : Context) : Prop where
  requests : ∃ asked request, Questions c waited asked ∧ c'.requests = asked.requests ++ [request] ∧
    request.ends_stop = true ∧ request.tid = waited
  stopped : c'.stopped =
    if answers.restart = .ok then (c.stopped.arrive waited former).set waited false
    else c.stopped.arrive waited former

theorem restart_request_ends (tracee : Tracee) (signal : Int) (listen : Bool) :
    (restart_request config tracee signal listen).ends_stop = true := by
  unfold restart_request resume_request
  cases listen with
  | true => rfl
  | false =>
    simp only [Bool.false_eq_true, if_false]
    split
    · rfl
    · rfl

/-- **The restart** is the one request that ends the stop. -/
theorem restart_tracee_answers {former : Option Pid}
    (h : Queries c waited (c.stopped.arrive waited former) c') (signal : Int) (listen : Bool)
    (answers : Answers) :
    Holds (restart_tracee config env waited signal listen answers.restart) c'
      (fun _ c'' => Answered c waited former answers c'')
      (fun _ c'' => LeavesOff c waited answers c'') := by
  have hself : c'.stopped waited = true := by
    rw [h.stopped]
    exact if_pos rfl
  have hasked : ∀ tracee, c'.tracees.lookup waited = some tracee →
      (restart_request config tracee signal listen).tid = waited := by
    intro tracee hold
    rw [restart_request_tid]
    exact Tracees.lookup_tid hold
  apply holds_restart_tracee
  · intro hunknown
    -- A task that is not in the table is not stopped.
    rw [Context.stopped_none hunknown] at hself
    simp at hself
  · intro tracee hold hok
    -- The restart ends the stop.
    have htid : tracee.tid = waited := Tracees.lookup_tid hold
    refine ⟨⟨c', _, h.questions, rfl, restart_request_ends tracee signal listen,
      hasked tracee hold⟩, ?_⟩
    rw [if_pos hok]
    have hstored := h.store (t := tracee.resumed listen) (by
      show (c'.tracees.lookup tracee.tid).isSome = true
      rw [htid, hold]
      rfl)
    have hstopped := hstored.stopped
    rw [show (tracee.resumed listen).tid = waited from htid] at hstopped
    exact hstopped
  · intro tracee hold hgone
    -- The task has vanished: the request is made, and the flag stays.
    refine ⟨⟨c', _, h.questions, rfl, restart_request_ends tracee signal listen,
      hasked tracee hold⟩, ?_⟩
    rw [if_neg (by rw [hgone]; decide)]
    exact h.stopped
  · intro tracee hold _
    -- Another failure: the request is the last thing that is said.
    exact ⟨c', _, h.questions, rfl, Or.inr (Or.inl ⟨_, rfl, restart_request_ends tracee signal listen,
      hasked tracee hold⟩)⟩

theorem handle_status_answers (waited : Pid) (stop : Int) (ptrace_event : Nat) (answers : Answers)
    (shutdown_signal : Int)
    (htraced : config.follow = true ∨ (c.tracees.lookup waited).isSome) :
    Holds (handle_status config env waited (.stopped stop ptrace_event) answers shutdown_signal) c
      (fun _ c' => Answered c waited (WaitStatus.former (.stopped stop ptrace_event) answers) answers
        c')
      (fun _ c' => LeavesOff c waited answers c') := by
  unfold handle_status
  rw [holds_bind]
  apply (observe_exec_queries waited stop ptrace_event answers).mono
  · intro _ c₁ hpost
    rcases hpost with ⟨hasked₁, hothers, hkept⟩
    rw [holds_bind]
    apply (find_tracee_queries waited stop ptrace_event answers (htraced.imp_right hkept)).mono
    · intro found c₂ hpost
      rcases hpost with ⟨h₂, tracee, rfl, hknown⟩
      have htid : tracee.tid = waited := Tracees.lookup_tid hknown
      subst htid
      dsimp only
      let stopped : Tracee := { tracee with in_ptrace_stop := true, phase := .SG_TRACEE_STOPPED }
      have hisSome : (c₂.tracees.lookup stopped.tid).isSome := by
        show (c₂.tracees.lookup tracee.tid).isSome = true
        rw [hknown]
        rfl
      have hstored := h₂.store (t := stopped) hisSome
      -- The task has stopped, its former TID is gone, and nothing is known of the others.
      have harrived : Queries c tracee.tid
          (c.stopped.arrive tracee.tid (WaitStatus.former (.stopped stop ptrace_event) answers))
          { c₂ with tracees := c₂.tracees.write stopped } := by
        refine ⟨hasked₁.trans hstored.questions, ?_⟩
        rw [hstored.stopped]
        funext tid
        unfold Stops.set Stops.arrive
        by_cases hsame : tid = tracee.tid
        · rw [if_pos hsame, if_pos hsame]
        · rw [if_neg hsame, if_neg hsame]
          exact hothers tid hsame
      have hself : ({ c₂ with tracees := c₂.tracees.write stopped } : Context).tracees.lookup
          stopped.tid = some stopped := by
        show (c₂.tracees.write stopped).lookup stopped.tid = some stopped
        rw [Tracees.lookup_write]
        exact if_pos ⟨rfl, hisSome⟩
      simp only [holds_bind, holds_store, holds_pure]
      apply (handle_stop_queries hself stop ptrace_event answers).mono
      · intro result c₄ h₄
        have h := harrived.trans h₄
        rw [harrived.stopped] at h
        exact restart_tracee_answers h result.1 result.2 answers
      · exact fun _ c₄ hleft => harrived.questions.then_leaves_off hleft
    · exact fun _ _ hasked => (hasked₁.trans hasked).leaves_off answers
  · exact fun _ _ hasked => hasked.leaves_off answers

/-- The end of a task asks nothing. -/
theorem handle_exit_stopped (hold : c.tracees.lookup tracee.tid = some tracee) (status : WaitStatus) :
    Holds (handle_exit config env tracee tracee.tid status) c
      (fun _ c' => c'.requests = c.requests ∧ c'.stopped = c.stopped.set tracee.tid false)
      (fun _ c' => c'.requests = c.requests) := by
  have h₀ : Queries c tracee.tid c.stopped
      { c with tracees := c.tracees.write { tracee with phase := .SG_TRACEE_GONE } } :=
    (Queries.refl c _).restore hold rfl rfl
  apply holds_handle_exit (fun c₁ => c₁.requests = c.requests ∧ c₁.stopped = c.stopped)
  · exact fun _ => rfl
  · apply holds_report_exit
    · intro exit
      apply (write_stamped_spec _ _).mono
      · intro _ c₁ hpost
        rcases hpost with ⟨events, observed_at, _, hw⟩
        have hasked : Queries _ tracee.tid _ c₁ := hw.queries
        exact ⟨congrArg Context.Rest.requests hw.rest, hasked.stopped.trans h₀.stopped⟩
      · intro _ c₁ hpost
        rcases hpost with ⟨events, _, hb⟩
        exact congrArg Context.Rest.requests hb.rest
    · exact ⟨rfl, h₀.stopped⟩
  · intro c₁ c₂ c₃ h₁ htracees hrequests _ hd
    have hsame : c₂.stopped = c₁.stopped := by
      unfold Context.stopped
      rw [htracees]
    have hasked : Queries c₂ tracee.tid (c₂.stopped.set tracee.tid false) c₃ := hd.queries
    refine ⟨hd.requests.trans (hrequests.trans h₁.1), ?_⟩
    rw [hasked.stopped, hsame, h₁.2]

/-! ### What is said in a round -/

theorem requests_since_append {added : List Request} (h : c'.requests = c.requests ++ added) :
    c'.requests_since c = added := by
  unfold Context.requests_since
  rw [h, List.drop_left]

theorem requests_of_requested (heard : Request → Bool) (requests : List Request) :
    (requests.map fun request => Exchange.requested request (heard request)).filterMap
      Exchange.request = requests := by
  rw [List.filterMap_map]
  exact List.filterMap_some

/-- The report with which a round begins. -/
def Report.opening (report : Report) : List Exchange :=
  match report.waited with
  | .status waited status answers => [.reported waited status (status.former answers)]
  | _ => []

/-- The requests in what is said in a round are those that have been added. -/
theorem filterMap_exchanges {report : Report} {status : WaitStatus} {answers : Answers}
    (hreport : report.waited = .status waited status answers) :
    (report.exchanges c c').filterMap Exchange.request = c'.requests_since c := by
  unfold Report.exchanges
  rw [hreport]
  exact requests_of_requested (fun _ => decide (answers.restart = .ok)) _

/-- What is said in a round is allowed, and leaves the flags as the kernel's set. -/
structure Lawful (c : Context) (report : Report) (c' : Context) : Prop where
  requests : c'.requests = c.requests ++ (report.exchanges c c').filterMap Exchange.request
  allowed : c.stopped.run (report.exchanges c c') = some c'.stopped

/-- What has been said in a round that has failed was allowed, apart from the `DETACH` of a child for
    which there was no room. -/
def AllowedBut (c : Context) (report : Report) (c' : Context) : Prop :=
  ∃ asked last, c'.requests_since c = asked ++ last ∧
    (c.stopped.run (report.opening ++ asked.map fun request => .requested request false)).isSome ∧
    (last = [] ∨ ∃ child, last = [⟨.PTRACE_DETACH, child, 0⟩])

section rounds
variable {report : Report} {answers : Answers} {stop : Int} {ptrace_event : Nat}

/-- A stop that has been answered has been answered lawfully. -/
theorem Answered.allowed
    (h : Answered c waited (WaitStatus.former (.stopped stop ptrace_event) answers) answers c')
    (hreport : report.waited = .status waited (.stopped stop ptrace_event) answers) :
    Lawful c report c' := by
  obtain ⟨asked, request, hquestions, hrequests, hends, htid⟩ := h.requests
  obtain ⟨added, hadded, hquestions⟩ := hquestions
  have hboth : c'.requests = c.requests ++ (added ++ [request]) := by
    rw [hrequests, hadded, List.append_assoc]
  have hsince : c'.requests_since c = added ++ [request] := requests_since_append hboth
  refine ⟨by rw [filterMap_exchanges hreport, hsince, hboth], ?_⟩
  -- The questions are about a stopped task, and the restart ends its stop.
  generalize harrived : c.stopped.arrive waited (WaitStatus.former (.stopped stop ptrace_event) answers)
    = arrived at h
  have hself : arrived waited = true := by
    rw [← harrived]
    exact if_pos rfl
  unfold Report.exchanges
  rw [hreport]
  dsimp only
  rw [hsince, List.map_append, Stops.run]
  show (c.stopped.arrive waited _).run _ = _
  rw [harrived, Stops.run_append, Stops.run_questions hself _ added hquestions, Option.bind_some,
    List.map_singleton, Stops.run, Stops.step_end (by rw [htid]; exact hself) hends]
  show some _ = _
  rw [h.stopped, harrived, htid]
  simp only [decide_eq_true_eq]

/-- A stop that has not been answered was handled lawfully up to the point of failure. -/
theorem LeavesOff.allowed (h : LeavesOff c waited answers c')
    (hreport : report.waited = .status waited (.stopped stop ptrace_event) answers) :
    AllowedBut c report c' := by
  obtain ⟨asked, last, hquestions, hrequests, hlast⟩ := h
  obtain ⟨added, hadded, hquestions⟩ := hquestions
  have hsince : c'.requests_since c = added ++ last :=
    requests_since_append (by rw [hrequests, hadded, List.append_assoc])
  let arrived := c.stopped.arrive waited (WaitStatus.former (.stopped stop ptrace_event) answers)
  have hself : arrived waited = true := if_pos rfl
  have hrun : ∀ asked : List Request,
      c.stopped.run (report.opening ++ asked.map fun request => .requested request false) =
        arrived.run (asked.map fun request => .requested request false) := by
    intro asked
    unfold Report.opening
    rw [hreport]
    rfl
  have hadded : arrived.run (added.map fun request => .requested request false) = some arrived :=
    Stops.run_questions hself false added hquestions
  -- Nothing more was said, or the restart has failed, or a child was abandoned.
  obtain rfl | ⟨request, rfl, hends, htid⟩ | ⟨child, _, rfl⟩ := hlast
  · exact ⟨added, [], hsince, by rw [hrun, hadded]; rfl, Or.inl rfl⟩
  · refine ⟨added ++ [request], [], by rw [hsince, List.append_nil], ?_, Or.inl rfl⟩
    rw [hrun, List.map_append, Stops.run_append, hadded, Option.bind_some, List.map_singleton,
      Stops.run, Stops.step_end (by rw [htid]; exact hself) hends]
    rfl
  · exact ⟨added, _, hsince, by rw [hrun, hadded]; rfl, Or.inr ⟨child, rfl⟩⟩

/-- **A round** says what is allowed, and leaves the flags as the kernel's set. -/
theorem loop_round_allowed (htraced : TracedOnly config c report) :
    Holds (loop_round config env report) c
      (fun _ c' => Lawful c report c') (fun _ c' => AllowedBut c report c') := by
  unfold loop_round
  cases hwaited : report.waited with
  | eintr =>
    -- `waitpid` was interrupted.
    have hnothing : report.exchanges c c = [] := by
      unfold Report.exchanges
      rw [hwaited]
    exact ⟨by rw [hnothing]; exact (List.append_nil _).symm, by rw [hnothing]; rfl⟩
  | failed =>
    -- `waitpid` has failed.
    refine ⟨[], [], requests_since_append (List.append_nil _).symm, ?_, Or.inl rfl⟩
    unfold Report.opening
    rw [hwaited]
    rfl
  | status waited status answers =>
    -- A status that is not a stop ends the stop of its task, and nothing is asked.
    have hquiet : ∀ {c' : Context}, (∀ stop ptrace_event, status ≠ .stopped stop ptrace_event) →
        c'.requests = c.requests → c'.stopped = c.stopped.set waited false →
        Lawful c report c' := by
      intro c' hstatus hrequests hstopped
      have hsince : c'.requests_since c = [] :=
        requests_since_append (by rw [hrequests, List.append_nil])
      refine ⟨by rw [filterMap_exchanges hwaited, hsince, hrequests, List.append_nil], ?_⟩
      unfold Report.exchanges
      rw [hwaited, hstopped]
      dsimp only
      rw [hsince, List.map_nil]
      cases status with
      | stopped stop ptrace_event => exact absurd rfl (hstatus stop ptrace_event)
      | _ => rfl
    have hfailed : ∀ {c' : Context}, (∀ stop ptrace_event, status ≠ .stopped stop ptrace_event) →
        c'.requests = c.requests → AllowedBut c report c' := by
      intro c' hstatus hrequests
      refine ⟨[], [], requests_since_append (by rw [hrequests]; simp), ?_, Or.inl rfl⟩
      unfold Report.opening
      rw [hwaited]
      cases status with
      | stopped stop ptrace_event => exact absurd rfl (hstatus stop ptrace_event)
      | _ => rfl
    -- The flag of a task that is not in the table is off already.
    have hunknown : c.tracees.lookup waited = none → c.stopped = c.stopped.set waited false :=
      fun hknown => (Stops.set_self (Context.stopped_none hknown)).symm
    have hended : (∃ code, status = .exited code) ∨ (∃ signal, status = .signaled signal) →
        Holds (handle_status config env waited status answers report.shutdown_signal) c
          (fun _ c' => Lawful c report c') (fun _ c' => AllowedBut c report c') := by
      intro hend
      have hstatus : ∀ stop ptrace_event, status ≠ .stopped stop ptrace_event := by
        obtain ⟨code, rfl⟩ | ⟨signal, rfl⟩ := hend
        · simp
        · simp
      apply holds_handle_status_ended hend
      · exact fun hknown => hquiet hstatus rfl (hunknown hknown)
      · intro tracee htid hold
        subst htid
        exact (handle_exit_stopped hold status).mono (fun _ _ h => hquiet hstatus h.1 h.2)
          fun _ _ h => hfailed hstatus h
    dsimp only
    cases status with
    | stopped stop ptrace_event =>
      apply (handle_status_answers waited stop ptrace_event answers report.shutdown_signal
        (htraced waited stop ptrace_event answers hwaited)).mono
      · exact fun _ _ h => h.allowed hwaited
      · exact fun _ _ h => h.allowed hwaited
    | continued =>
      apply holds_handle_status_continued
      · exact fun hknown => hquiet (by simp) rfl (hunknown hknown)
      · intro tracee htid hold
        have hstored := (Queries.refl c waited).store
          (t := { tracee with phase := .SG_TRACEE_RUNNING, in_ptrace_stop := false })
          (by rw [hold]; rfl)
        have hstopped := hstored.stopped
        rw [← htid] at hquiet
        exact hquiet (by simp) rfl hstopped
    | exited code => exact hended (Or.inl ⟨code, rfl⟩)
    | signaled signal => exact hended (Or.inr ⟨signal, rfl⟩)

end rounds

/-! ### Where the loop starts -/

/-- Where the loop starts, and what has been said before: the child of a launch has stopped itself,
    or a process has been attached to. -/
inductive Opens (config : Config) (env : Env) : List Exchange → Context → Prop
  | launch {answers : LaunchAnswers} {child : Pid} {status : WaitStatus} {start : Context} :
      answers.child = .ok child → answers.initial = some status →
      (begin_run config env answers).exec .init = (.ok (), start) →
      Opens config env
        (.reported child status none :: start.requests.map fun request => .requested request true) start
  | attach {attach_pid : Pid} {answers : AttachAnswers} {handlers : Bool} {start : Context}
      (heard : Request → Bool) :
      (attach config env attach_pid answers handlers).exec .init = (.ok (), start) →
      Opens config env (start.requests.map fun request => .requested request (heard request)) start

/-- What has been said is allowed, the requests in it are those that have been made, and the flags
    are the kernel's set. -/
structure Said (said : List Exchange) (c : Context) : Prop where
  allowed : Stops.empty.run said = some c.stopped
  requests : c.requests = said.filterMap Exchange.request

theorem init_stopped : Context.init.stopped = Stops.empty := by
  funext tid
  exact Context.stopped_none (Tracees.count_eq_zero.mp rfl tid)

/-- The child is stopped when it has got its options. -/
theorem launch_queries {answers : LaunchAnswers} {child : Pid} (hchild : answers.child = .ok child) :
    Holds (launch config env answers) .init
      (fun _ c => (∃ ptrace_event, answers.initial = some (.stopped SIGSTOP ptrace_event)) ∧
        c.root_tid = child ∧ Queries .init child (Stops.empty.set child true) c)
      (fun _ _ => True) := by
  unfold launch
  rw [hchild]
  simp only [holds_bind, holds_modify]
  apply (add_tracee_spec child child false false).mono
  · intro _ c₁ hpost
    rcases hpost with ⟨_, _, hreg⟩
    have h₁ : Queries .init child Stops.empty c₁ := by
      have h₀ : Queries .init child Context.init.stopped { Context.init with root_tid := child } :=
        (Queries.refl Context.init child).same rfl rfl
      have h := h₀.trans hreg.queries
      rwa [show Context.stopped { Context.init with root_tid := child } = Stops.empty
        from init_stopped] at h
    have hself := hreg.lookup child
    have hroot : c₁.root_tid = child := congrArg Context.Rest.root_tid hreg.rest
    -- The launch goes on only behind a `SIGSTOP`.
    have hstop : Holds (wait_for_initial_stop env answers.initial) c₁
        (fun _ c => c = c₁ ∧ ∃ ptrace_event, answers.initial = some (.stopped SIGSTOP ptrace_event))
        (fun _ _ => True) := by
      unfold wait_for_initial_stop
      cases answers.initial with
      | none => trivial
      | some status =>
        cases status with
        | stopped stop ptrace_event =>
          dsimp only
          rw [holds_ite]
          exact ⟨fun heq => ⟨rfl, ptrace_event, by rw [heq]⟩, fun _ => trivial⟩
        | _ => trivial
    apply hstop.mono
    · intro _ c₂ hpost
      rcases hpost with ⟨rfl, hinitial⟩
      rw [holds_get, Tracees.get_eq]
      cases hknown : c₂.tracees.lookup child with
      | none => trivial
      | some root =>
        have htid : root.tid = child := Tracees.lookup_tid hknown
        subst htid
        unfold install_ptrace_options
        simp only [holds_bind, holds_store, holds_onError, holds_measured_ptrace, holds_ite,
          holds_pure, holds_throw, implies_true, and_true]
        refine fun _ _ => ⟨hinitial, hroot, ?_⟩
        let stopped : Tracee := { root with in_ptrace_stop := true, phase := .SG_TRACEE_STOPPED }
        have hisSome : (c₂.tracees.lookup stopped.tid).isSome := by
          show (c₂.tracees.lookup root.tid).isSome = true
          rw [hknown]
          rfl
        have h₂ := h₁.store (t := stopped) hisSome
        -- The options are asked for while the flag says that the child is stopped.
        let asked : Context := { c₂ with
          tracees := c₂.tracees.write stopped
          requests := c₂.requests ++ [⟨.PTRACE_SETOPTIONS, root.tid, ptrace_options config true⟩] }
        have h₃ : Queries .init root.tid (Stops.empty.set root.tid true) asked := by
          refine ⟨h₂.questions.trans ⟨[_], rfl, ?_⟩, h₂.stopped⟩
          intro request hrequest
          rw [List.mem_singleton.mp hrequest]
          exact ⟨rfl, rfl⟩
        have hself : asked.tracees.lookup stopped.tid = some stopped := by
          show (c₂.tracees.write stopped).lookup stopped.tid = some stopped
          rw [Tracees.lookup_write]
          exact if_pos ⟨rfl, hisSome⟩
        exact h₃.restore hself rfl rfl
    · exact fun _ _ _ => trivial
  · exact fun _ _ _ => trivial

/-- What the launch of a command has said. -/
theorem begin_run_said {answers : LaunchAnswers} {child : Pid} {status : WaitStatus}
    (hchild : answers.child = .ok child) (hinitial : answers.initial = some status) :
    Holds (begin_run config env answers) .init
      (fun _ c => Said
        (.reported child status none :: c.requests.map fun request => .requested request true) c)
      (fun _ _ => True) := by
  unfold begin_run
  rw [holds_bind]
  apply (launch_queries hchild).mono
  · intro _ c₁ hpost
    rcases hpost with ⟨⟨ptrace_event, hstop⟩, hroot, ⟨⟨added, hadded, hquestions⟩, hstopped⟩⟩
    have hstatus : status = .stopped SIGSTOP ptrace_event := Option.some.inj (hinitial.symm.trans hstop)
    subst hstatus
    have hadded : c₁.requests = added := hadded
    have harrived : Stops.empty.arrive child none = Stops.empty.set child true := by
      funext tid
      unfold Stops.arrive Stops.set Stops.empty
      simp
    have hself : Stops.set Stops.empty child true child = true := if_pos rfl
    -- The child has reported its stop, and everything since then was about it.
    have hsaid : Stops.empty.run (.reported child (.stopped SIGSTOP ptrace_event) none ::
        added.map fun request => .requested request true) = some (Stops.empty.set child true) := by
      show (Stops.empty.arrive child none).run _ = _
      rw [harrived]
      exact Stops.run_questions hself true added hquestions
    unfold resume_root
    cases config.mode with
    | SG_RUN_ATTACH => exact ⟨by rw [hadded, hsaid, hstopped],
        (requests_of_requested (fun _ => true) c₁.requests).symm⟩
    | SG_RUN_LAUNCH =>
      simp only [holds_bind, holds_get, Tracees.get_eq, hroot]
      cases hknown : c₁.tracees.lookup child with
      | none => trivial
      | some root =>
        have htid : root.tid = child := Tracees.lookup_tid hknown
        subst htid
        unfold resume_tracee
        simp only [holds_bind, holds_measured_ptrace, holds_ite, holds_store, holds_throw,
          implies_true, and_true]
        intro _
        let request : Request := ⟨resume_request config root, root.tid, 0⟩
        have hends : request.ends_stop = true := by
          show Request.ends_stop ⟨resume_request config root, root.tid, 0⟩ = true
          unfold resume_request
          split
          · rfl
          · rfl
        refine ⟨?_, (requests_of_requested (fun _ => true) (c₁.requests ++ [request])).symm⟩
        show Stops.empty.run (.reported root.tid (.stopped SIGSTOP ptrace_event) none ::
          (c₁.requests ++ [request]).map fun request => .requested request true) = _
        rw [hadded, List.map_append, ← List.cons_append, Stops.run_append, hsaid, Option.bind_some,
          List.map_singleton, Stops.run, Stops.step_end hself hends]
        have hstored := ((Queries.refl c₁ root.tid).store
          (t := { root with in_ptrace_stop := false }) (by rw [hknown]; rfl)).stopped
        rw [hstopped] at hstored
        exact congrArg some hstored.symm
  · exact fun _ _ h => h

/-- From `c` to `c'` tasks have been seized and interrupted, and the flags have not changed. -/
structure Approaches (c c' : Context) : Prop where
  requests : ∃ added, c'.requests = c.requests ++ added ∧
    ∀ request ∈ added, request.request = .PTRACE_SEIZE ∨ request.request = .PTRACE_INTERRUPT
  stopped : c'.stopped = c.stopped

theorem Approaches.refl (c : Context) : Approaches c c := ⟨⟨[], (List.append_nil _).symm, by simp⟩, rfl⟩

theorem Approaches.trans (h : Approaches c c') (h' : Approaches c' c'') : Approaches c c'' := by
  obtain ⟨added, hadded, hseizes⟩ := h.requests
  obtain ⟨added', hadded', hseizes'⟩ := h'.requests
  refine ⟨⟨added ++ added', by rw [hadded', hadded, List.append_assoc], fun request hmem => ?_⟩,
    h'.stopped.trans h.stopped⟩
  obtain hmem | hmem := List.mem_append.mp hmem
  · exact hseizes request hmem
  · exact hseizes' request hmem

theorem Approaches.asking (c : Context) {request : Request}
    (h : request.request = .PTRACE_SEIZE ∨ request.request = .PTRACE_INTERRUPT) :
    Approaches c { c with requests := c.requests ++ [request] } :=
  ⟨⟨[request], rfl, by simpa using h⟩, rfl⟩

/-- A task is seized while it runs. -/
theorem seize_task_said {attach_pid : Pid} (answer : RestartAnswer) :
    Holds (seize_task config env attach_pid answer tid) c (fun _ c' => Approaches c c')
      (fun _ _ => True) := by
  unfold seize_task
  rw [holds_bind, holds_get, Tracees.get_eq]
  cases hknown : c.tracees.lookup tid with
  | some _ => exact Approaches.refl c
  | none =>
    dsimp only
    rw [holds_bind]
    apply (add_tracee_spec tid attach_pid true true).mono
    · intro _ c₁ hpost
      rcases hpost with ⟨_, _, hreg⟩
      have hasked : Queries c tid c.stopped c₁ := hreg.queries
      have h₁ : Approaches c c₁ := by
        refine ⟨⟨[], ?_, by simp⟩, hasked.stopped⟩
        rw [List.append_nil]
        exact congrArg Context.Rest.requests hreg.rest
      -- `PTRACE_SEIZE` is asked for with the record in the table.
      let seizing : Context := { c₁ with
        requests := c₁.requests ++ [⟨.PTRACE_SEIZE, tid, ptrace_options config false⟩] }
      have h₂ : Approaches c seizing := h₁.trans (.asking c₁ (Or.inl rfl))
      -- The record that is removed again was not flagged.
      have hremoved : ∀ {c₃ : Context}, Drops seizing [tid] c₃ → Approaches c c₃ := by
        intro c₃ hd
        have hdropped : Queries seizing tid (seizing.stopped.set tid false) c₃ := hd.queries
        have hrunning : seizing.stopped tid = false := by
          rw [h₂.stopped]
          exact Context.stopped_none hknown
        refine h₂.trans ⟨⟨[], ?_, by simp⟩, ?_⟩
        · rw [List.append_nil]
          exact hd.requests
        · rw [hdropped.stopped, Stops.set_self hrunning]
      rw [holds_bind, holds_measured_ptrace]
      cases answer with
      | ok => exact h₂
      | esrch =>
        -- The task has ended in the meantime, and its record goes again.
        rw [holds_bind]
        exact (remove_tracee_spec (E := fun _ _ => True) tid).mono (fun _ _ hd => hremoved hd)
          fun _ _ h => h
      | failed =>
        rw [holds_bind]
        exact (remove_tracee_spec (E := fun _ _ => True) tid).mono (fun _ _ _ => trivial)
          fun _ _ h => h
    · exact fun _ _ _ => trivial

theorem seize_tasks_said {attach_pid : Pid} (answers : Pid → RestartAnswer) (ids : List Pid) :
    ∀ c : Context, Holds (seize_tasks config env attach_pid answers ids) c
      (fun _ c' => Approaches c c') (fun _ _ => True) := by
  induction ids with
  | nil => exact Approaches.refl
  | cons tid ids ih =>
    intro c
    rw [seize_tasks, holds_bind]
    apply (seize_task_said (answers tid)).mono
    · intro _ c₁ h₁
      rw [holds_bind]
      exact (ih c₁).mono (fun _ _ h => h₁.trans h) fun _ _ h => h
    · exact fun _ _ h => h

theorem seize_rounds_said {attach_pid : Pid} (answers : AttachAnswers) (rounds : Nat) :
    ∀ (round : Nat) (c : Context), Holds (seize_rounds config env attach_pid answers rounds round) c
      (fun _ c' => Approaches c c') (fun _ _ => True) := by
  induction rounds with
  | zero => exact fun _ c => Approaches.refl c
  | succ rounds ih =>
    intro round c
    rw [seize_rounds]
    cases answers.task_ids round with
    | error error => trivial
    | ok ids =>
      dsimp only
      rw [holds_bind]
      apply (seize_tasks_said (answers.seize round) ids c).mono
      · intro added c₁ h₁
        rw [holds_ite]
        exact ⟨fun _ => h₁, fun _ => (ih (round + 1) c₁).mono (fun _ _ h => h₁.trans h)
          fun _ _ h => h⟩
      · exact fun _ _ h => h

theorem prepare_attach_said {attach_pid : Pid} (answers : AttachAnswers) :
    Holds (prepare_attach config env attach_pid answers) c (fun _ c' => Approaches c c')
      (fun _ _ => True) := by
  unfold prepare_attach
  cases answers.invalid with
  | some error => trivial
  | none =>
    dsimp only
    rw [holds_bind]
    apply (seize_rounds_said answers 64 0 c).mono
    · intro stable c₁ h₁
      simp only [holds_bind, holds_get, holds_ite, holds_throw, holds_context_ask, holds_modify,
        implies_true, true_and]
      intro _ _
      have hround : ∀ tid ∈ c₁.tracees.records.map Tracee.tid, ∀ c₂, Approaches c c₂ →
          Holds (interrupt_task env (answers.interrupt tid) tid) c₂ (fun _ c₃ => Approaches c c₃)
            (fun _ _ => True) := by
        intro tid _ c₂ h₂
        let interrupt : Request := ⟨.PTRACE_INTERRUPT, tid, 0⟩
        have h₃ : Approaches c { c₂ with requests := c₂.requests ++ [interrupt] } :=
          h₂.trans (.asking c₂ (Or.inr rfl))
        unfold interrupt_task
        rw [holds_bind, holds_measured_ptrace]
        cases answers.interrupt tid with
        | failed => trivial
        | ok => exact h₃
        | esrch => exact h₃
      have hasked : Approaches c { c₁ with asked := c₁.asked + 1 } := ⟨h₁.requests, h₁.stopped⟩
      exact (holds_forM _ _ hround hasked).mono (fun _ _ h => ⟨h.requests, h.stopped⟩) fun _ _ h => h
    · exact fun _ _ h => h

/-- Seizing and interrupting stops nothing yet. -/
theorem Stops.run_seizes (heard : Request → Bool) (added : List Request)
    (hadded : ∀ request ∈ added,
      request.request = .PTRACE_SEIZE ∨ request.request = .PTRACE_INTERRUPT) :
    stops.run (added.map fun request => .requested request (heard request)) = some stops := by
  induction added with
  | nil => rfl
  | cons request added ih =>
    rw [List.map_cons, Stops.run,
      Stops.step_running (hadded request List.mem_cons_self) (heard request)]
    exact ih fun other hother => hadded other (List.mem_cons_of_mem _ hother)

/-- Where the loop starts, the flags are the kernel's set. -/
theorem Opens.faithful {start : Context} (h : Opens config env said start) :
    Said said start := by
  cases h with
  | launch hchild hinitial hrun => exact (begin_run_said hchild hinitial).of_ok hrun
  | attach heard hrun =>
    rename_i attach_pid answers handlers
    have hattach : Holds (Sysgaze.attach config env attach_pid answers handlers) .init
        (fun _ c' => Approaches .init c') (fun _ _ => True) := by
      unfold Sysgaze.attach
      rw [holds_bind]
      apply (prepare_attach_said answers).mono
      · intro _ c₁ h₁
        rw [holds_ite]
        exact ⟨fun _ => h₁, fun _ => trivial⟩
      · exact fun _ _ h => h
    have hseizes := hattach.of_ok hrun
    obtain ⟨added, hadded, hkinds⟩ := hseizes.requests
    have hadded : start.requests = added := hadded
    refine ⟨?_, (requests_of_requested heard start.requests).symm⟩
    rw [hadded, Stops.run_seizes heard added hkinds, hseizes.stopped, init_stopped]

/-! ### The tasks are detached -/

/-- What `interrupt_running_tracees` says about a task. -/
def interrupt_said (tracee : Tracee) : List Exchange :=
  if tracee.in_ptrace_stop then [] else [.requested ⟨.PTRACE_INTERRUPT, tracee.tid, 0⟩ true]

/-- What the loop of `detach_all_tracees` says about a task; `heard` tells whether `PTRACE_DETACH`
    succeeds. -/
def detach_said (answers : Pid → DetachAnswer) (heard : Pid → Bool) (tracee : Tracee) :
    List Exchange :=
  if tracee.phase = .SG_TRACEE_GONE then []
  else if tracee.in_ptrace_stop then
    [.requested ⟨.PTRACE_DETACH, tracee.tid, tracee.pending_signal⟩ (heard tracee.tid)]
  else
    match (answers tracee.tid).status with
    | none => []
    | some status =>
      .reported tracee.tid status none ::
        (detach_signal (some status)).toList.map fun signal_number =>
          .requested ⟨.PTRACE_DETACH, tracee.tid, signal_number⟩ (heard tracee.tid)

/-- What is said while all tasks are detached. -/
def detach_exchanges (answers : Pid → DetachAnswer) (heard : Pid → Bool) (c : Context) :
    List Exchange :=
  let interrupted := finalState (c.tracees.records.forM (interrupt_running answers)) c
  c.tracees.records.flatMap interrupt_said ++
    interrupted.tracees.records.flatMap (detach_said answers heard)

/-- Wherever the tasks are detached after what has been said, the requests are allowed.  They have
    made every task run that is not gone. -/
def DetachesLawfully (said : List Exchange) (c : Context) : Prop :=
  ∀ (answers : Pid → DetachAnswer) (heard : Pid → Bool),
    (∀ tid, (answers tid).status ≠ some .continued) →
    Holds (detach_all_tracees answers) c
      (fun _ c' => c'.requests =
          (said ++ detach_exchanges answers heard c).filterMap Exchange.request ∧
        ∃ stops, Stops.empty.run (said ++ detach_exchanges answers heard c) = some stops ∧
          ((∀ tid, heard tid = true) → ∀ tid, stops tid = true →
            ∃ tracee, c'.tracees.lookup tid = some tracee ∧ tracee.phase = .SG_TRACEE_GONE))
      (fun _ _ => False)

/-- Flags and TIDs are those of the table. -/
def Listed (c : Context) (records : List Tracee) : Prop :=
  ∀ tracee ∈ records, (c.tracees.lookup tracee.tid).isSome ∧
    c.stopped tracee.tid = tracee.in_ptrace_stop

theorem listed_records (c : Context) : Listed c c.tracees.records := by
  intro tracee hmem
  have hold := Tracees.mem_records.mp hmem
  exact ⟨by rw [hold]; rfl, Context.stopped_of hold⟩

/-- The tasks that run are interrupted. -/
theorem interrupt_running_said (answers : Pid → DetachAnswer) (records : List Tracee) :
    ∀ c : Context, Listed c records →
      Holds (records.forM (interrupt_running answers)) c
        (fun _ c' => c'.stopped = c.stopped ∧
          c'.requests = c.requests ++ (records.flatMap interrupt_said).filterMap Exchange.request)
        (fun _ _ => False) := by
  induction records with
  | nil => exact fun c _ => ⟨rfl, (List.append_nil _).symm⟩
  | cons tracee records ih =>
    intro c hlisted
    obtain ⟨hknown, hflag⟩ := hlisted tracee List.mem_cons_self
    have hrest : Listed c records := fun t ht => hlisted t (List.mem_cons_of_mem _ ht)
    show Holds (interrupt_running answers tracee >>= fun _ =>
      records.forM (interrupt_running answers)) c _ _
    rw [holds_bind, List.flatMap_cons, List.filterMap_append]
    unfold interrupt_running interrupt_said
    by_cases hstop : tracee.in_ptrace_stop = true
    · rw [if_pos hstop, if_pos hstop]
      -- A stopped task needs no interrupt.
      exact ih c hrest
    · rw [if_neg hstop, if_neg hstop, holds_bind, holds_measured_ptrace]
      let asked : Context := { c with
        requests := c.requests ++ [⟨.PTRACE_INTERRUPT, tracee.tid, 0⟩] }
      -- Whatever the answer, the other records are treated from here on.
      have hdone : ∀ c₁ : Context, c₁.stopped = c.stopped → c₁.requests = asked.requests →
          (∀ tid, (c.tracees.lookup tid).isSome → (c₁.tracees.lookup tid).isSome) →
          Holds (records.forM (interrupt_running answers)) c₁
            (fun _ c' => c'.stopped = c.stopped ∧ c'.requests = c.requests ++
              (([.requested ⟨.PTRACE_INTERRUPT, tracee.tid, 0⟩ true] : List Exchange).filterMap
                Exchange.request ++ (records.flatMap interrupt_said).filterMap Exchange.request))
            (fun _ _ => False) := by
        intro c₁ hstopped hrequests hkept
        have hlisted₁ : Listed c₁ records := fun t ht =>
          ⟨hkept _ (hrest t ht).1, by rw [hstopped]; exact (hrest t ht).2⟩
        apply (ih c₁ hlisted₁).mono
        · intro _ c₂ hpost
          refine ⟨hpost.1.trans hstopped, ?_⟩
          rw [hpost.2, hrequests, ← List.append_assoc]
          rfl
        · exact fun _ _ h => h
      rw [holds_ite]
      constructor
      · intro _
        -- The task has ended in the meantime.
        rw [holds_store]
        have hstored := (Queries.refl asked tracee.tid).store
          (t := { tracee with phase := .SG_TRACEE_GONE }) hknown
        have hsame : asked.stopped.set tracee.tid tracee.in_ptrace_stop = c.stopped :=
          Stops.set_self hflag
        refine hdone _ (hstored.stopped.trans hsame) rfl fun tid hisSome => ?_
        show ((c.tracees.write { tracee with phase := .SG_TRACEE_GONE }).lookup tid).isSome = true
        rw [Tracees.lookup_write]
        split
        · rfl
        · exact hisSome
      · exact fun _ => hdone asked rfl rfl fun _ h => h

theorem interrupt_said_allowed (records : List Tracee) :
    stops.run (records.flatMap interrupt_said) = some stops := by
  induction records with
  | nil => rfl
  | cons tracee records ih =>
    rw [List.flatMap_cons, Stops.run_append]
    unfold interrupt_said
    split
    · exact ih
    · rw [Stops.run, Stops.step_running (Or.inr rfl)]
      exact ih

/-- The tasks are detached as it is said. -/
theorem detach_tracee_said (answers : Pid → DetachAnswer) (heard : Pid → Bool)
    (records : List Tracee) : ∀ c : Context,
    Holds (records.forM (detach_tracee answers)) c
      (fun _ c' => c'.tracees = c.tracees ∧ c'.requests = c.requests ++
        (records.flatMap (detach_said answers heard)).filterMap Exchange.request)
      (fun _ _ => False) := by
  induction records with
  | nil => exact fun c => ⟨rfl, (List.append_nil _).symm⟩
  | cons tracee records ih =>
    intro c
    show Holds (detach_tracee answers tracee >>= fun _ => records.forM (detach_tracee answers)) c _ _
    rw [holds_bind, List.flatMap_cons, List.filterMap_append]
    -- Whatever is added for this record, the others add to it.
    have hnext : ∀ added : List Request,
        Holds (records.forM (detach_tracee answers)) { c with requests := c.requests ++ added }
          (fun _ c' => c'.tracees = c.tracees ∧ c'.requests = c.requests ++ (added ++
            (records.flatMap (detach_said answers heard)).filterMap Exchange.request))
          (fun _ _ => False) := by
      intro added
      apply (ih _).mono
      · intro _ c' hpost
        exact ⟨hpost.1, by rw [hpost.2, ← List.append_assoc]⟩
      · exact fun _ _ h => h
    have hsilent := hnext []
    rw [List.append_nil] at hsilent
    unfold detach_tracee detach_said
    by_cases hgone : tracee.phase = .SG_TRACEE_GONE
    · rw [if_pos hgone, if_pos hgone]
      -- A task that has ended is passed over.
      exact hsilent
    · rw [if_neg hgone, if_neg hgone]
      by_cases hstop : tracee.in_ptrace_stop = true
      · rw [if_pos hstop, if_pos hstop, holds_measured_ptrace]
        -- A stopped task is detached at once.
        exact hnext [_]
      · rw [if_neg hstop, if_neg hstop]
        -- A running one is waited for, and detached if it reports a stop.
        cases (answers tracee.tid).status with
        | none => exact hsilent
        | some status =>
          dsimp only
          cases detach_signal (some status) with
          | none => exact hsilent
          | some signal_number =>
            dsimp only
            rw [holds_measured_ptrace]
            exact hnext [_]

/-- A task is detached when it is stopped, and only its own flag changes. -/
theorem detach_said_allowed (answers : Pid → DetachAnswer) (heard : Pid → Bool)
    (hstopped : stops tracee.tid = tracee.in_ptrace_stop)
    (hcontinued : (answers tracee.tid).status ≠ some .continued) :
    ∃ stops', stops.run (detach_said answers heard tracee) = some stops' ∧
      (∀ tid, tid ≠ tracee.tid → stops' tid = stops tid) ∧
      (heard tracee.tid = true → stops' tracee.tid = true → tracee.phase = .SG_TRACEE_GONE) := by
  have hset : ∀ (stops : Stops) (stopped : Bool) (tid : Pid), tid ≠ tracee.tid →
      stops.set tracee.tid stopped tid = stops tid := fun _ _ _ htid => if_neg htid
  have hself : ∀ (stops : Stops) (stopped : Bool), stops.set tracee.tid stopped tracee.tid = stopped :=
    fun _ _ => if_pos rfl
  unfold detach_said
  split
  · rename_i hgone
    -- Nothing is said about a task that has ended.
    exact ⟨stops, rfl, fun _ _ => rfl, fun _ _ => hgone⟩
  · split
    · rename_i hstop
      -- A stopped task is detached at once.
      rw [Stops.run, Stops.step_end (hstopped.trans hstop) rfl]
      refine ⟨_, rfl, ?_, ?_⟩
      · intro tid htid
        dsimp only
        split
        · exact hset _ _ tid htid
        · rfl
      · intro hheard hstill
        dsimp only at hstill
        rw [if_pos hheard, hself] at hstill
        simp at hstill
    · rename_i hrunning
      -- A running one is waited for, so that its status comes first.
      have hrunning : stops tracee.tid = false := hstopped.trans (by simpa using hrunning)
      cases hstatus : (answers tracee.tid).status with
      | none =>
        refine ⟨stops, rfl, fun _ _ => rfl, fun _ hstill => ?_⟩
        rw [hrunning] at hstill
        simp at hstill
      | some status =>
        dsimp only
        -- A status that is not a stop says that the task has ended.
        have hended : (detach_signal (some status) = none ∧
              stops.step (.reported tracee.tid status none) = some (stops.set tracee.tid false)) →
            ∃ stops', stops.run (.reported tracee.tid status none ::
                (detach_signal (some status)).toList.map fun signal_number =>
                  .requested ⟨.PTRACE_DETACH, tracee.tid, signal_number⟩ (heard tracee.tid)) =
                some stops' ∧
              (∀ tid, tid ≠ tracee.tid → stops' tid = stops tid) ∧
              (heard tracee.tid = true → stops' tracee.tid = true →
                tracee.phase = .SG_TRACEE_GONE) := by
          intro hended
          rw [Stops.run, hended.2, hended.1]
          refine ⟨_, rfl, fun tid htid => hset _ _ tid htid, fun _ hstill => ?_⟩
          rw [hself] at hstill
          simp at hstill
        cases status with
        | exited code => exact hended ⟨rfl, rfl⟩
        | signaled signal => exact hended ⟨rfl, rfl⟩
        | continued => exact absurd hstatus hcontinued
        | stopped stop ptrace_event =>
          -- It stops, and the detach ends the stop.
          have harrived : stops.arrive tracee.tid none = stops.set tracee.tid true := by
            funext tid
            unfold Stops.arrive Stops.set
            simp
          rw [Stops.run]
          show ∃ stops', (stops.arrive tracee.tid none).run
            [.requested ⟨.PTRACE_DETACH, tracee.tid, _⟩ (heard tracee.tid)] = some stops' ∧ _
          rw [harrived, Stops.run, Stops.step_end (hself _ _) rfl]
          refine ⟨_, rfl, ?_, ?_⟩
          · intro tid htid
            dsimp only
            split
            · rw [hset _ _ tid htid, hset _ _ tid htid]
            · exact hset _ _ tid htid
          · intro hheard hstill
            dsimp only at hstill
            rw [if_pos hheard, hself] at hstill
            simp at hstill

/-- All tasks are detached, one after the other. -/
theorem detach_all_allowed (answers : Pid → DetachAnswer) (heard : Pid → Bool)
    (hcontinued : ∀ tid, (answers tid).status ≠ some .continued) (records : List Tracee) :
    ∀ stops : Stops, (records.map Tracee.tid).Nodup →
      (∀ tracee ∈ records, stops tracee.tid = tracee.in_ptrace_stop) →
      ∃ stops', stops.run (records.flatMap (detach_said answers heard)) = some stops' ∧
        (∀ tid, tid ∉ records.map Tracee.tid → stops' tid = stops tid) ∧
        ((∀ tid, heard tid = true) → ∀ tracee ∈ records, stops' tracee.tid = true →
          tracee.phase = .SG_TRACEE_GONE) := by
  induction records with
  | nil => exact fun stops _ _ => ⟨stops, rfl, fun _ _ => rfl, by simp⟩
  | cons tracee records ih =>
    intro stops hnodup hlisted
    rw [List.map_cons, List.nodup_cons] at hnodup
    -- The first task changes only its own flag, and its TID does not come again.
    obtain ⟨stops₁, hrun₁, hothers₁, hself₁⟩ := detach_said_allowed answers heard
      (hlisted tracee List.mem_cons_self) (hcontinued tracee.tid)
    have hlisted₁ : ∀ t ∈ records, stops₁ t.tid = t.in_ptrace_stop := by
      intro t ht
      have hne : t.tid ≠ tracee.tid := fun heq => hnodup.1 (heq ▸ List.mem_map_of_mem ht)
      rw [hothers₁ _ hne]
      exact hlisted t (List.mem_cons_of_mem _ ht)
    obtain ⟨stops₂, hrun₂, hothers₂, hself₂⟩ := ih stops₁ hnodup.2 hlisted₁
    refine ⟨stops₂, ?_, ?_, ?_⟩
    · rw [List.flatMap_cons, Stops.run_append, hrun₁, Option.bind_some, hrun₂]
    · intro tid htid
      rw [List.map_cons, List.mem_cons, not_or] at htid
      rw [hothers₂ tid htid.2, hothers₁ tid htid.1]
    · intro hheard t ht hstill
      obtain rfl | ht := List.mem_cons.mp ht
      · rw [hothers₂ _ hnodup.1] at hstill
        exact hself₁ (hheard _) hstill
      · exact hself₂ hheard t ht hstill

/-- What the detach relies on is the kernel's set. -/
theorem Said.detaches (h : Said said c) : DetachesLawfully said c := by
  intro answers heard hcontinued
  -- `middle` is the context in which the running tasks have been interrupted.
  have hfirst := interrupt_running_said answers c.tracees.records c (listed_records c)
  have hexec := exec_of_succeeds hfirst.succeeds
  obtain ⟨hstopped, hrequests⟩ := hfirst.of_ok hexec
  generalize hmiddle : finalState (c.tracees.records.forM (interrupt_running answers)) c = middle
    at hexec hstopped hrequests
  have hsaid : detach_exchanges answers heard c = c.tracees.records.flatMap interrupt_said ++
      middle.tracees.records.flatMap (detach_said answers heard) := by
    unfold detach_exchanges
    rw [hmiddle]
  obtain ⟨stops, hrun, hothers, hgone⟩ := detach_all_allowed answers heard hcontinued
    middle.tracees.records c.stopped Tracees.nodup_records fun tracee hmem => by
      rw [← hstopped]
      exact (listed_records middle tracee hmem).2
  unfold detach_all_tracees
  rw [holds_bind, holds_get, holds_bind]
  rw [holds_of_ok hexec, holds_bind, holds_get]
  apply (detach_tracee_said answers heard middle.tracees.records middle).mono
  · intro _ c' hpost
    refine ⟨?_, stops, ?_, fun hheard tid hstill => ?_⟩
    · rw [hpost.2, hrequests, h.requests, hsaid, List.filterMap_append, List.filterMap_append,
        List.append_assoc]
    · rw [Stops.run_append, h.allowed, Option.bind_some, hsaid, Stops.run_append,
        interrupt_said_allowed, Option.bind_some, hrun]
    · -- A task that is still stopped is in the table.
      cases hknown : middle.tracees.lookup tid with
      | none =>
        have hunlisted : tid ∉ middle.tracees.records.map Tracee.tid := by
          intro hmem
          obtain ⟨tracee, hlisted, rfl⟩ := List.mem_map.mp hmem
          rw [Tracees.mem_records.mp hlisted] at hknown
          simp at hknown
        rw [hothers tid hunlisted, ← hstopped, Context.stopped_none hknown] at hstill
        simp at hstill
      | some tracee =>
        have htid : tracee.tid = tid := Tracees.lookup_tid hknown
        subst htid
        refine ⟨tracee, ?_, hgone hheard tracee (Tracees.mem_records.mpr hknown) hstill⟩
        rw [hpost.1]
        exact hknown
  · exact fun _ _ h => h

/-! ### Runs -/

theorem exchanges_append (h : List Report) (report : Report) : ∀ c : Context,
    exchanges config env c (h ++ [report]) = exchanges config env c h ++
      exchanges config env (h.foldl (fun c report => (loop_step config env c report).1) c) [report] := by
  induction h with
  | nil => exact fun _ => rfl
  | cons first h ih =>
    intro c
    rw [List.cons_append, exchanges, exchanges, ih, List.append_assoc]
    rfl

/-- The state that has been reached is the one after the rounds. -/
theorem after_rounds {ok : List Report → Context → Report → Prop} {start : Context}
    {h : List Report} (hr : Reaches (loop_step config env) ok start h c) :
    h.foldl (fun c report => (loop_step config env c report).1) start = c := by
  induction hr with
  | refl => rfl
  | snoc _ _ hstep ih => rw [List.foldl_append, ih, List.foldl_cons, List.foldl_nil, hstep]

/-- **Every request of a run is allowed.** -/
theorem Said.round {report : Report} (h : Said said c) (hround : Lawful c report c') :
    Said (said ++ report.exchanges c c') c' :=
  ⟨by rw [Stops.run_append, h.allowed, Option.bind_some, hround.allowed],
    by rw [hround.requests, h.requests, List.filterMap_append]⟩

theorem said_of_reaches {start : Context} {h : List Report} (hopens : Opens config env said start)
    (hr : Reaches (loop_step config env) (fun _ c report => TracedOnly config c report) start h c) :
    Said (said ++ exchanges config env start h) c := by
  induction hr with
  | refl =>
    show Said (said ++ []) start
    rw [List.append_nil]
    exact hopens.faithful
  | snoc hr htraced hstep ih =>
    rename_i h c₀ c₁ report
    have hround : Lawful c₀ report c₁ :=
      (loop_round_allowed htraced).of_ok (loop_step_true hstep).2
    have hlast : exchanges config env c₀ [report] = report.exchanges c₀ c₁ := by
      rw [exchanges, exchanges, hstep, List.append_nil]
    rw [exchanges_append, after_rounds hr, hlast, ← List.append_assoc]
    exact ih.round hround

/-- **Every request is allowed.** -/
theorem requests_allowed {start : Context} {h : List Report} (hopens : Opens config env said start)
    (hr : Reaches (loop_step config env) (fun _ c report => TracedOnly config c report) start h c) :
    Said (said ++ exchanges config env start h) c ∧
      ∀ report, TracedOnly config c report →
        Holds (loop_round config env report) c
          (fun _ c' =>
            Said (said ++ exchanges config env start h ++ report.exchanges c c') c' ∧
            DetachesLawfully (said ++ exchanges config env start h ++ report.exchanges c c') c')
          (fun _ c' => AllowedBut c report c') := by
  have hsaid := said_of_reaches hopens hr
  refine ⟨hsaid, fun report htraced => ?_⟩
  apply (loop_round_allowed htraced).mono
  · intro _ c' hround
    exact ⟨hsaid.round hround, (hsaid.round hround).detaches⟩
  · exact fun _ _ h => h

end stops

/-- The command has forked, and both tasks run. -/
theorem requests_allowed_forked : ∃ said start c,
    Opens .following .reliable said start ∧
      Said (said ++ exchanges .following .reliable start (reports_of (interrupted_run false))) c ∧
      c.requests.length = 5 := by
  let begin : TraceM Unit := begin_run .following .reliable .plain
  let start : Context := begin.finalState .init
  have hsucceeds : begin.succeeds .init = true := by decide +kernel
  have hlast : (run (loop_step .following .reliable) start (reports_of (interrupted_run false))).map
      (fun c => c.requests.length) = some 5 := by
    decide +kernel
  obtain ⟨c, hrun, hlength⟩ := Option.map_eq_some_iff.mp hlast
  have hopens : Opens .following .reliable (.reported 100 (.stopped SIGSTOP 0) none ::
      start.requests.map fun request => .requested request true) start :=
    .launch rfl rfl (exec_of_succeeds hsucceeds)
  have hr : Reaches (loop_step .following .reliable) (fun _ c report => TracedOnly .following c report)
      start (reports_of (interrupted_run false)) c :=
    reaches_of_run (fun _ _ _ _ _ _ _ => Or.inl rfl) hrun
  exact ⟨_, start, c, hopens, (requests_allowed hopens hr).1, hlength⟩

end Sysgaze
