import Sysgaze.Alternation
import Sysgaze.RootTask

/-! # Attaching to a process (`trace.c`)

    `prepare_attach` seizes the tasks of a process round after round until a
    round finds no new one.  Every task in the table is seized then, and
    nothing that a round of the loop does in attach mode puts a task in the
    table that is not (`Quiet`): the children and the tasks that an exec has
    renamed inherit the flag.
-/

open Fallible

namespace Sysgaze

/-- What the system answers while the tasks of a process are seized. -/
structure AttachAnswers where
  /-- The error of `validate_native_executable`, if there is one. -/
  invalid : Option String
  /-- The tasks that `collect_task_ids` finds in a round, or its error. -/
  task_ids : Nat → Except String (List Pid)
  /-- `PTRACE_SEIZE` of a task in a round. -/
  seize : Nat → Pid → RestartAnswer
  /-- `PTRACE_INTERRUPT` of a task. -/
  interrupt : Pid → RestartAnswer

section model
variable (config : Config) (env : Env) (attach_pid : Pid)

/-- One round of the inner loop of `prepare_attach`: is the task a new one? -/
def seize_task (answer : RestartAnswer) (tid : Pid) : TraceM Bool := do
  let context ← get
  match context.tracees.get tid with
  | some _ => pure false
  | none => do
    add_tracee env tid attach_pid true true
    measured_ptrace .PTRACE_SEIZE tid (ptrace_options config false)
    match answer with
    | .ok => pure true
    | .esrch => do
      remove_tracee tid
      pure false
    | .failed => do
      remove_tracee tid
      throw s!"cannot seize TID {tid}: {env.strerror} (check ptrace_scope/Yama)"

/-- The inner loop of `prepare_attach`: the number of new tasks. -/
def seize_tasks (answers : Pid → RestartAnswer) : List Pid → TraceM Nat
  | [] => pure 0
  | tid :: ids => do
    let seized ← seize_task config env attach_pid (answers tid) tid
    let added ← seize_tasks answers ids
    pure (if seized then added + 1 else added)

/-- The rounds of `prepare_attach`: does one of them find no new task? -/
def seize_rounds (answers : AttachAnswers) : Nat → Nat → TraceM Bool
  | 0, _ => pure false
  | rounds + 1, round =>
    match answers.task_ids round with
    | .error error => throw error
    | .ok ids => do
      let added ← seize_tasks config env attach_pid (answers.seize round) ids
      if added = 0 then pure true else seize_rounds answers rounds (round + 1)

/-- One round of the last loop of `prepare_attach`. -/
def interrupt_task (answer : RestartAnswer) (tid : Pid) : TraceM Unit := do
  measured_ptrace .PTRACE_INTERRUPT tid 0
  match answer with
  | .failed => throw s!"cannot interrupt TID {tid}: {env.strerror}"
  | _ => pure ()

/-- `prepare_attach`. -/
def prepare_attach (answers : AttachAnswers) : TraceM Unit :=
  match answers.invalid with
  | some error => throw error
  | none => do
    let stable ← seize_rounds config env attach_pid answers 64 0
    let context ← get
    if !stable ∨ context.tracees.count = 0 then throw "target task set did not stabilize"
    else do
      let n ← ask
      if !env.alloc n then throw "cannot allocate attach snapshot"
      else do
        (context.tracees.records.map Tracee.tid).forM fun tid =>
          interrupt_task env (answers.interrupt tid) tid
        modify fun context => { context with root_tid := attach_pid }

end model

/-- Every task in the table has been seized. -/
def AllSeized (tracees : Tracees) : Prop :=
  ∀ tid tracee, tracees.lookup tid = some tracee → tracee.attached = true

/-- From `c` to `c'` nothing has been restarted, and in attach mode every task is still seized. -/
structure Quiet (config : Config) (c c' : Context) : Prop where
  restarts : c'.restarts = c.restarts
  seized : config.mode = .SG_RUN_ATTACH → AllSeized c.tracees → AllSeized c'.tracees

section quiet
variable {config : Config} {env : Env} {c c' c'' : Context} {tracee old : Tracee} {tid : Pid}

theorem Quiet.refl (c : Context) : Quiet config c c := ⟨rfl, fun _ h => h⟩

theorem Quiet.trans (h : Quiet config c c') (h' : Quiet config c' c'') : Quiet config c c'' :=
  ⟨h'.restarts.trans h.restarts, fun hmode hseized => h'.seized hmode (h.seized hmode hseized)⟩

theorem Quiet.of_eq (htracees : c'.tracees = c.tracees) (hrequests : c'.requests = c.requests) :
    Quiet config c c' :=
  ⟨restarts_of_requests hrequests, fun _ h => htracees ▸ h⟩

theorem requests_of_rest (h : c'.rest = c.rest) : c'.requests = c.requests :=
  congrArg Context.Rest.requests h

theorem Writes.quiet {events : List Event} (h : Writes config c events c') : Quiet config c c' :=
  .of_eq h.tracees (requests_of_rest h.rest)

theorem Breaks.quiet {events : List Event} (h : Breaks config c events c') : Quiet config c c' :=
  .of_eq h.tracees (requests_of_rest h.rest)

theorem Unchanged.quiet (h : Unchanged c c') : Quiet config c c' :=
  .of_eq h.tracees (requests_of_rest h.rest)

theorem Quiet.asking {request : PtraceRequest}
    (hquestion : Request.is_restart ⟨request, tid, 0⟩ = false) :
    Quiet config c (c.asking request tid) :=
  ⟨(Elsewhere.asking hquestion).restarts, fun _ h => h⟩

/-- The handling of a call leaves the flag alone. -/
theorem Frame.quiet (h : Frame c tid c') : Quiet config c c' := by
  refine ⟨restarts_of_requests (requests_of_rest h.rest), fun _ hseized other t hknown => ?_⟩
  by_cases ho : other = tid
  · rw [ho] at hknown
    have hshell := h.shell
    rw [hknown] at hshell
    obtain ⟨t', hknown', hsame⟩ := Option.map_eq_some_iff.mp hshell.symm
    have hattached : t'.attached = t.attached := congrArg Shell.attached hsame
    rw [← hattached]
    exact hseized tid t' hknown'
  · rw [h.others other ho] at hknown
    exact hseized other t hknown

theorem AllSeized.registers {tgid : Pid} {attached newborn : Bool}
    (h : Registers c tid tgid attached newborn c') (hattached : attached = true)
    (hseized : AllSeized c.tracees) : AllSeized c'.tracees := by
  intro other t hknown
  rw [h.lookup] at hknown
  split at hknown
  · rw [← Option.some.inj hknown]
    exact hattached
  · exact hseized other t hknown

/-- A new task is seized in attach mode. -/
theorem Registers.quiet {tgid : Pid} {attached newborn : Bool}
    (h : Registers c tid tgid attached newborn c')
    (hattached : config.mode = .SG_RUN_ATTACH → AllSeized c.tracees → attached = true) :
    Quiet config c c' :=
  ⟨restarts_of_requests (requests_of_rest h.rest),
    fun hmode hseized => hseized.registers h (hattached hmode hseized)⟩

theorem AllSeized.write {tracees : Tracees} {t : Tracee} (hseized : AllSeized tracees)
    (hattached : t.attached = true) : AllSeized (tracees.write t) := by
  intro other t' hknown
  rw [Tracees.lookup_write] at hknown
  split at hknown
  · rw [← Option.some.inj hknown]
    exact hattached
  · exact hseized other t' hknown

/-- A record is stored that has the flag of one in the table. -/
theorem Quiet.store {t : Tracee} (h : Quiet config c c') (hold : c.tracees.lookup tid = some old)
    (hsame : t.attached = old.attached) :
    Quiet config c { c' with tracees := c'.tracees.write t } := by
  refine ⟨h.restarts, fun hmode hseized => (h.seized hmode hseized).write ?_⟩
  rw [hsame]
  exact hseized tid old hold

theorem AllSeized.drops {tids : List Pid} (hseized : AllSeized c.tracees) (h : Drops c tids c') :
    AllSeized c'.tracees := by
  intro other t hknown
  rw [h.lookup] at hknown
  split at hknown
  · simp at hknown
  · exact hseized other t hknown

theorem Drops.quiet {tids : List Pid} (h : Drops c tids c') : Quiet config c c' :=
  ⟨restarts_of_requests h.requests, fun _ hseized => hseized.drops h⟩

/-! ### Attaching -/

theorem seize_task_seizes {attach_pid : Pid} (answer : RestartAnswer) (hseized : AllSeized c.tracees) :
    Holds (seize_task config env attach_pid answer tid) c (fun _ c' => AllSeized c'.tracees)
      (fun _ _ => True) := by
  unfold seize_task
  rw [holds_bind, holds_get, Tracees.get_eq]
  cases c.tracees.lookup tid with
  | some _ => exact hseized
  | none =>
    dsimp only
    rw [holds_bind]
    apply (add_tracee_spec tid attach_pid true true).mono
    · intro _ c₁ hpost
      rcases hpost with ⟨_, _, hreg⟩
      have h₁ := hseized.registers hreg rfl
      rw [holds_bind, holds_measured_ptrace]
      cases answer with
      | ok => exact h₁
      | esrch =>
        rw [holds_bind]
        apply (remove_tracee_spec (E := fun _ _ => True) tid).mono
        · intro _ c₂ hd
          exact AllSeized.drops (by exact h₁) hd
        · intro _ _ h
          exact h
      | failed =>
        rw [holds_bind]
        apply (remove_tracee_spec tid).mono
        · intro _ _ _
          trivial
        · intro _ _ h
          exact h
    · intro _ _ _
      trivial

theorem seize_tasks_seizes {attach_pid : Pid} (answers : Pid → RestartAnswer) (ids : List Pid) :
    ∀ {c : Context}, AllSeized c.tracees →
      Holds (seize_tasks config env attach_pid answers ids) c (fun _ c' => AllSeized c'.tracees)
        (fun _ _ => True) := by
  induction ids with
  | nil => exact fun hseized => hseized
  | cons tid ids ih =>
    intro c hseized
    rw [seize_tasks, holds_bind]
    apply (seize_task_seizes (answers tid) hseized).mono
    · intro _ c₁ h₁
      rw [holds_bind]
      exact (ih h₁).mono (fun _ _ h => h) fun _ _ h => h
    · intro _ _ h
      exact h

theorem seize_rounds_seizes {attach_pid : Pid} (answers : AttachAnswers) (rounds : Nat) :
    ∀ (round : Nat) {c : Context}, AllSeized c.tracees →
      Holds (seize_rounds config env attach_pid answers rounds round) c (fun _ c' => AllSeized c'.tracees)
        (fun _ _ => True) := by
  induction rounds with
  | zero => exact fun _ _ hseized => hseized
  | succ rounds ih =>
    intro round c hseized
    rw [seize_rounds]
    cases answers.task_ids round with
    | error error => trivial
    | ok ids =>
      dsimp only
      rw [holds_bind]
      apply (seize_tasks_seizes (answers.seize round) ids hseized).mono
      · intro added c₁ h₁
        rw [holds_ite]
        exact ⟨fun _ => h₁, fun _ => ih (round + 1) h₁⟩
      · intro _ _ h
        exact h

/-- **After** `prepare_attach` every task in the table has been seized. -/
theorem prepare_attach_seizes {attach_pid : Pid} (answers : AttachAnswers) (hseized : AllSeized c.tracees) :
    Holds (prepare_attach config env attach_pid answers) c (fun _ c' => AllSeized c'.tracees)
      (fun _ _ => True) := by
  unfold prepare_attach
  cases answers.invalid with
  | some error => trivial
  | none =>
    dsimp only
    rw [holds_bind]
    apply (seize_rounds_seizes answers 64 0 hseized).mono
    · intro stable c₁ h₁
      simp only [holds_bind, holds_get, holds_ite, holds_throw, holds_context_ask, holds_modify,
        implies_true, true_and]
      intro _ _
      have hround : ∀ tid ∈ c₁.tracees.records.map Tracee.tid, ∀ c₂, AllSeized c₂.tracees →
          Holds (interrupt_task env (answers.interrupt tid) tid) c₂ (fun _ c₃ => AllSeized c₃.tracees)
            (fun _ _ => True) := by
        intro tid _ c₂ h₂
        unfold interrupt_task
        rw [holds_bind, holds_measured_ptrace]
        cases answers.interrupt tid with
        | failed => trivial
        | ok => exact h₂
        | esrch => exact h₂
      exact (holds_forM _ _ hround (by exact h₁)).mono (fun _ _ h => h) fun _ _ h => h
    · intro _ _ h
      exact h

theorem allSeized_init : AllSeized Context.init.tracees := by
  intro tid tracee hknown
  rw [show Context.init.tracees.lookup tid = none from Tracees.count_eq_zero.mp rfl tid] at hknown
  simp at hknown

end quiet

end Sysgaze
