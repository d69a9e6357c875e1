import Sysgaze.ExitStatus

/-! # Killing the tracees

    `sg_trace_run` in launch mode: the child is launched and resumed, the loop
    runs, and when it fails or has been told to stop, `kill_all_tracees` sends
    `SIGKILL` to every task in the table and to the root.

    A run is seen with what the loop is not told: that a task has been born.
    A task lives, for the kernel, until its exit has been collected by `waitpid`
    (`living`).  `only_living_killed` says when the tasks that are killed are
    alive; `reaped_root_killed` and its neighbours are runs in which they are not.
-/

open Fallible Stepping

namespace Sysgaze

/-! ### The launch -/

/-- What the system answers while the command is launched. -/
structure LaunchAnswers where
  /-- The child that `launch_tracee` has forked, or its error. -/
  child : Except String Pid
  /-- The first wait status of the child, or `none` when `waitpid` fails. -/
  initial : Option WaitStatus
  /-- Does `PTRACE_SETOPTIONS` succeed? -/
  options : Bool
  /-- Are the shutdown handlers installed? -/
  handlers : Bool
  /-- The answer to the first restart of the child. -/
  resume : RestartAnswer

variable (config : Config) (env : Env)

/-- `wait_for_initial_stop`. -/
def wait_for_initial_stop (initial : Option WaitStatus) : TraceM Unit :=
  match initial with
  | none => throw s!"initial waitpid failed: {env.strerror}"
  | some (.stopped stop _) =>
    if stop = SIGSTOP then pure () else throw "tracee did not enter the synchronization stop"
  | some _ => throw "tracee did not enter the synchronization stop"

/-- `ptrace_options`. -/
def ptrace_options (launched : Bool) : Nat :=
  0x1 ||| 0x10 ||| (if launched then 0x100000 else 0) |||
    (if config.follow then 0x2 ||| 0x4 ||| 0x8 else 0) ||| (if config.seccomp_bpf then 0x80 else 0)

/-- `install_ptrace_options`; `ok` is the answer. -/
def install_ptrace_options (child : Pid) (ok : Bool) : TraceM Unit := do
  measured_ptrace .PTRACE_SETOPTIONS child (ptrace_options config true)
  if ok then pure () else throw s!"PTRACE_SETOPTIONS failed: {env.strerror}"

/-- The part of `sg_trace_run` before the loop, in launch mode. -/
def launch (answers : LaunchAnswers) : TraceM Unit :=
  match answers.child with
  | .error error => throw error
  | .ok child => do
    modify fun context => { context with root_tid := child }
    add_tracee env child child false false
    wait_for_initial_stop env answers.initial
    let context ← get
    match context.tracees.get child with
    | none => throw ""
    | some root => do
      let root : Tracee := { root with in_ptrace_stop := true, phase := .SG_TRACEE_STOPPED }
      store root
      onError (install_ptrace_options config env child answers.options) fun context =>
        { context with tracees := context.tracees.write { root with options_installed := false } }
      store { root with options_installed := true }
      if answers.handlers then pure ()
      else throw s!"cannot install shutdown handlers: {env.strerror}"

/-- The launch and the beginning of `trace_loop`. -/
def begin_run (answers : LaunchAnswers) : TraceM Unit := do
  launch config env answers
  resume_root config env answers.resume

/-- The tasks that `kill_all_tracees` sends `SIGKILL`: those in the table, and the root. -/
def Context.kill_targets (context : Context) : List Pid :=
  context.tracees.records.map Tracee.tid ++
    if 0 < context.root_tid ∧ context.tracees.get context.root_tid = none then [context.root_tid]
    else []

/-- The context after `kill_all_tracees`. -/
def Context.kill_all_tracees (context : Context) : Context :=
  { context with kills := context.kills ++ context.kill_targets }

/-- `sg_trace_run` in launch mode, up to the end of its tracees; `shutdown_signal` is its
    value after the loop.  The result is the command status, or `none` while the loop still
    waits for a report. -/
def sg_trace_run (answers : LaunchAnswers) (reports : List Report) (shutdown_signal : Int) :
    TraceM (Option Int) := do
  let command_status ← onError (do
      begin_run config env answers
      trace_rounds config env reports) Context.kill_all_tracees
  match command_status with
  | none => pure none
  | some command_status => do
    if shutdown_signal ≠ 0 then modify Context.kill_all_tracees else pure ()
    pure (some command_status)

/-! ### Tasks are born and collected -/

/-- One step of a run: a task is born, or `waitpid` reports something. -/
inductive Observation where
  | born (tid : Pid)
  | report (report : Report)
  deriving DecidableEq

/-- What the loop is told. -/
def Observation.told : Observation → Option Report
  | .born _ => none
  | .report told => some told

/-- The reports of a run. -/
def reports_of (observations : List Observation) : List Report :=
  observations.filterMap Observation.told

/-- The tasks whose exit has not been collected. -/
def living (launched : List Pid) (observations : List Observation) : List Pid :=
  observations.foldl (fun tids observation =>
    match observation with
    | .born tid => tid :: tids
    | .report report => tids.filter fun tid => report.ends ≠ some tid) launched

/-- Has the exit of the child been collected by the initial wait? -/
def LaunchAnswers.collected (answers : LaunchAnswers) : Bool :=
  match answers.initial with
  | some (.exited _) | some (.signaled _) => true
  | _ => false

/-- The child that lives after the launch. -/
def LaunchAnswers.launched (answers : LaunchAnswers) : List Pid :=
  match answers.child with
  | .error _ => []
  | .ok child => if answers.collected then [] else [child]

/-- The loop over a run: what it is not told changes nothing. -/
def observation_step (config : Config) (env : Env) : Machine Context Observation :=
  fun context observation =>
    match observation with
    | .born _ => (context, true)
    | .report report => loop_step config env context report

/-- Nothing is reported about a task whose exit has been collected. -/
def LegalObservation (launched : List Pid) (h : List Observation) (_ : Context)
    (observation : Observation) : Prop :=
  ∀ tid ∈ observation.told.bind Report.task, tid ∈ living launched h

/-- **A run that has ended**, with the context in which it has: the launch has failed, or a
    round has failed or been the last one because of a signal, or no task is left. -/
inductive EndedRun (config : Config) (env : Env) (answers : LaunchAnswers) :
    List Observation → Context → Prop
  | launch {error : String} {c : Context} :
      (begin_run config env answers).exec .init = (.error error, c) →
      EndedRun config env answers [] c
  | round {start c c' : Context} {h : List Observation} {report : Report}
      {result : Except String RoundEnd} :
      (begin_run config env answers).exec .init = (.ok (), start) →
      Reaches (observation_step config env) (LegalObservation answers.launched) start h c →
      c.tracees.count ≠ 0 → LegalObservation answers.launched h c (.report report) →
      (loop_round config env report).exec c = (result, c') → result ≠ .ok .again →
      EndedRun config env answers (h ++ [.report report]) c'
  | empty {start c : Context} {h : List Observation} :
      (begin_run config env answers).exec .init = (.ok (), start) →
      Reaches (observation_step config env) (LegalObservation answers.launched) start h c →
      c.tracees.count = 0 → EndedRun config env answers h c

/-- Every child that is named lives. -/
def ChildrenLiving (launched : List Pid) (observations : List Observation) : Prop :=
  ∀ k : Fin observations.length, ∀ child ∈ (observations.get k).told.bind Report.child,
    child ∈ living launched (observations.take k)

/-- The run does not end in the round of an exit. -/
def EndsInNoExit (observations : List Observation) : Prop :=
  ∀ observation ∈ observations.getLast?, observation.told.bind Report.ends = none

section launch
variable {config : Config} {env : Env} {c c' : Context} {answers : LaunchAnswers}

theorem Context.kill_targets_of {P : Pid → Prop} (hknown : ∀ tid, c.registry tid ≠ none → P tid)
    (hroot : 0 < c.root.tid → P c.root.tid) : ∀ tid ∈ c.kill_targets, P tid := by
  intro tid htid
  unfold Context.kill_targets at htid
  obtain hrecord | hleft := List.mem_append.mp htid
  · obtain ⟨tracee, hmem, rfl⟩ := List.mem_map.mp hrecord
    apply hknown
    rw [Context.registry_ne_none, Tracees.mem_records.mp hmem]
    rfl
  · split at hleft
    · rename_i hpositive
      rw [List.mem_singleton.mp hleft]
      exact hroot hpositive.1
    · simp at hleft

/-- The child is the root, and no other task is in the table. -/
structure Context.Alone (context : Context) (child : Pid) : Prop where
  root : context.root = ⟨child, 0, false⟩
  table : ∀ tid, context.registry tid ≠ none → tid = child

theorem Context.Alone.grows {child : Pid} {tids : List Pid} (h : c.Alone child)
    (hgrows : Grows c tids c') (htids : ∀ tid ∈ tids, tid = child) : c'.Alone child :=
  ⟨hgrows.root.trans h.root, fun tid hknown => (hgrows.known tid hknown).elim (h.table tid) (htids tid)⟩

/-- **The rule of the first stop**: to wait for it changes nothing. -/
theorem holds_wait_for_initial_stop {initial : Option WaitStatus} {Q : Unit → Context → Prop}
    {E : String → Context → Prop} (hstopped : Q () c) (hfailed : ∀ error, E error c) :
    Holds (wait_for_initial_stop env initial) c Q E := by
  unfold wait_for_initial_stop
  split
  · exact hfailed _
  · split
    · exact hstopped
    · exact hfailed _
  · exact hfailed _

/-- **The launch**: when it succeeds the child is the only task in the table; when it fails
    there is no other. -/
theorem launch_alone {child : Pid} (hchild : answers.child = .ok child) :
    Holds (launch config env answers) .init
      (fun _ c => c.Alone child ∧ c.registry child ≠ none)
      (fun _ c => c.Alone child) := by
  have hinit : (Context.Alone { Context.init with root_tid := child } child) := by
    refine ⟨rfl, fun tid hknown => ?_⟩
    have hnone : Context.init.tracees.lookup tid = none := Tracees.count_eq_zero.mp rfl tid
    rw [Context.registry_ne_none] at hknown
    have hknown : (Context.init.tracees.lookup tid).isSome := hknown
    rw [hnone] at hknown
    simp at hknown
  have hself : ∀ tid ∈ [child], tid = child := fun tid htid => List.mem_singleton.mp htid
  unfold launch
  rw [hchild]
  simp only [holds_bind, holds_modify]
  apply (add_tracee_spec child child false false).mono
  · intro _ c₁ hpost
    rcases hpost with ⟨_, _, hreg⟩
    have h₁ : c₁.Alone child := hinit.grows hreg.grows hself
    apply holds_wait_for_initial_stop
    · rw [holds_get, Tracees.get_eq]
      cases hknown : c₁.tracees.lookup child with
      | none => exact h₁
      | some root =>
        have htid : root.tid = child := Tracees.lookup_tid hknown
        have hnothing : ∀ tid ∈ ([] : List Pid), tid = child := by simp
        -- Storing the record of the child changes neither the root nor the table.
        have hstored : ∀ {c₃ : Context} (t : Tracee), t.tid = child →
            c₃.Alone child ∧ c₃.registry child ≠ none →
            ({ c₃ with tracees := c₃.tracees.write t } : Context).Alone child ∧
              ({ c₃ with tracees := c₃.tracees.write t } : Context).registry child ≠ none := by
          intro c₃ t ht hpost
          rcases hpost with ⟨halone, hin⟩
          refine ⟨halone.grows (Grows.refl c₃).store hnothing, ?_⟩
          rw [Context.registry_ne_none] at hin ⊢
          show ((c₃.tracees.write t).lookup child).isSome = true
          rw [Tracees.lookup_write]
          split
          · rfl
          · exact hin
        have hin₁ : c₁.registry child ≠ none := by
          rw [Context.registry_ne_none, hknown]
          rfl
        have h₂ := hstored { root with in_ptrace_stop := true, phase := .SG_TRACEE_STOPPED } htid
          ⟨h₁, hin₁⟩
        have hasked : ∀ {c₃ : Context} (request : Request),
            c₃.Alone child ∧ c₃.registry child ≠ none →
            ({ c₃ with requests := c₃.requests ++ [request] } : Context).Alone child ∧
              ({ c₃ with requests := c₃.requests ++ [request] } : Context).registry child ≠ none :=
          fun _ h => ⟨h.1.grows (.of_eq rfl rfl) hnothing, h.2⟩
        unfold install_ptrace_options
        simp only [holds_bind, holds_store, holds_onError, holds_measured_ptrace, holds_ite,
          holds_pure, holds_throw]
        have h₃ := hasked ⟨.PTRACE_SETOPTIONS, child, ptrace_options config true⟩ h₂
        have hoptions := fun installed => hstored { root with
          in_ptrace_stop := true
          phase := .SG_TRACEE_STOPPED
          options_installed := installed } htid h₃
        exact ⟨fun _ => ⟨fun _ => hoptions true, fun _ => (hoptions true).1⟩,
          fun _ => (hoptions false).1⟩
    · exact fun _ => h₁
  · intro _ c₁ hpost
    rcases hpost with ⟨hsame, _⟩
    exact hinit.grows hsame.grows (by simp)

/-- A run begins with the child as the only task in the table. -/
theorem begin_run_alone {child : Pid} (hchild : answers.child = .ok child) :
    Holds (begin_run config env answers) .init
      (fun _ c => c.Alone child ∧ (config.mode = .SG_RUN_LAUNCH → c.registry child ≠ none))
      (fun _ c => c.Alone child) := by
  unfold begin_run
  rw [holds_bind]
  apply (launch_alone hchild).mono
  · intro _ c₁ hpost
    rcases hpost with ⟨h₁, hin⟩
    have hin : (c₁.tracees.lookup child).isSome := Context.registry_ne_none.mp hin
    have htid : c₁.root_tid = child := congrArg Root.tid h₁.root
    have hgrows : ∀ {c₂ : Context}, Grows c₁ [] c₂ → c₂.Alone child :=
      fun h => h₁.grows h (by simp)
    unfold resume_root
    cases config.mode with
    | SG_RUN_ATTACH => exact ⟨h₁, by simp⟩
    | SG_RUN_LAUNCH =>
      simp only [holds_bind, holds_get, Tracees.get_eq, htid]
      cases hknown : c₁.tracees.lookup child with
      | none => exact h₁
      | some root =>
        have h₂ : Grows c₁ [] { c₁ with
            requests := c₁.requests ++ [⟨resume_request config root, root.tid, 0⟩] } := .of_eq rfl rfl
        unfold resume_tracee
        simp only [holds_bind, holds_measured_ptrace, holds_ite, holds_store, holds_throw]
        refine ⟨fun _ => ⟨hgrows h₂.store, fun _ => ?_⟩, fun _ => hgrows h₂⟩
        rw [Context.registry_ne_none]
        show ((c₁.tracees.write { root with in_ptrace_stop := false }).lookup child).isSome = true
        rw [Tracees.lookup_write]
        split
        · rfl
        · exact hin
  · intro _ _ h
    exact h

/-- Without a child there is nothing to kill. -/
theorem begin_run_no_child {error : String} (hchild : answers.child = .error error) :
    (begin_run config env answers).exec .init = (.error error, .init) := by
  unfold begin_run launch
  rw [hchild]
  rfl

end launch

/-! ### Every run -/

section runs
variable {config : Config} {env : Env} {start c c' : Context} {answers : LaunchAnswers}
  {launched : List Pid} {h observations : List Observation} {report : Report} {child tid : Pid}

theorem living_append (observation : Observation) : living launched (h ++ [observation]) =
    match observation with
    | .born tid => tid :: living launched h
    | .report report => (living launched h).filter fun tid => report.ends ≠ some tid := by
  unfold living
  rw [List.foldl_append]
  rfl

theorem Registry.arrive_bound {registry : Registry} {waited : Pid} {status : WaitStatus}
    {answers : Answers} (htid : registry.arrive config waited status answers tid ≠ none) :
    tid = waited ∨ registry tid ≠ none := by
  have hrename : registry.migrate waited (status.former answers) tid ≠ none →
      tid = waited ∨ registry tid ≠ none := by
    intro hrenamed
    cases hformer : status.former answers with
    | none =>
      rw [hformer] at hrenamed
      exact Or.inr hrenamed
    | some former =>
      rw [hformer] at hrenamed
      exact Registry.rename_bound hrenamed
  rw [Registry.arrive_eq] at htid
  split at htid
  · obtain heq | hrenamed := Registry.register_bound htid
    · exact Or.inl heq
    · exact hrename hrenamed
  · exact hrename htid

theorem Registry.stopped_bound {registry : Registry} {waited : Pid} {stop : Int} {ptrace_event : Nat}
    {answers : Answers} (htid : registry.stopped waited stop ptrace_event answers tid ≠ none) :
    tid = waited ∨ registry tid ≠ none ∨
      WaitStatus.child (.stopped stop ptrace_event) answers = some tid := by
  have hset : ∀ {flag : Option Bool}, registry.set waited flag tid ≠ none →
      tid = waited ∨ registry tid ≠ none ∨
        WaitStatus.child (.stopped stop ptrace_event) answers = some tid :=
    fun hset => (Registry.set_bound hset).imp_right Or.inl
  unfold Registry.stopped at htid
  split at htid
  · exact Or.inr (Or.inl htid)
  · split at htid
    · exact hset htid
    · split at htid
      · cases hchild : WaitStatus.child (.stopped stop ptrace_event) answers with
        | none =>
          rw [hchild] at htid
          exact Or.inr (Or.inl htid)
        | some child =>
          rw [hchild] at htid
          obtain heq | hold := Registry.register_bound htid
          · exact Or.inr (Or.inr (by rw [heq]))
          · exact Or.inr (Or.inl hold)
      · split at htid
        · exact hset htid
        · exact Or.inr (Or.inl htid)

/-- A task that is in the table after a round was there before, has stopped, or has been
    named as a child; and it has not ended. -/
theorem Registry.after_bound {registry : Registry} (htid : registry.after config report tid ≠ none) :
    (registry tid ≠ none ∨ report.stops = some tid ∨ report.child = some tid) ∧
      report.ends ≠ some tid := by
  unfold Registry.after at htid
  unfold Report.stops Report.child Report.ends
  cases hwaited : report.waited with
  | eintr => simpa [hwaited] using htid
  | failed => simpa [hwaited] using htid
  | status waited status answers =>
    rw [hwaited] at htid
    -- A task that has ended is not in the table.
    have hended : registry.set waited none tid ≠ none → registry tid ≠ none ∧ some waited ≠ some tid := by
      intro hset
      have hne : tid ≠ waited := by
        rintro rfl
        rw [Registry.set_same] at hset
        exact hset rfl
      exact ⟨(Registry.set_bound hset).resolve_left hne, fun heq => hne (Option.some.inj heq).symm⟩
    cases status with
    | continued => exact ⟨Or.inl htid, by simp⟩
    | exited code => exact ⟨Or.inl (hended htid).1, (hended htid).2⟩
    | signaled signal => exact ⟨Or.inl (hended htid).1, (hended htid).2⟩
    | stopped stop ptrace_event =>
      refine ⟨?_, by simp⟩
      have harrived : ∀ {other : Pid}, registry.arrive config waited (.stopped stop ptrace_event)
          answers other ≠ none → registry other ≠ none ∨ some waited = some other := by
        intro other hother
        obtain rfl | hold := Registry.arrive_bound hother
        · exact Or.inr rfl
        · exact Or.inl hold
      have htid : registry.observe config waited (.stopped stop ptrace_event) answers tid ≠ none := htid
      unfold Registry.observe at htid
      dsimp only at htid
      split at htid
      · exact (harrived htid).imp_right Or.inl
      · obtain rfl | hold | hchild := Registry.stopped_bound htid
        · exact Or.inr (Or.inl rfl)
        · exact (harrived hold).imp_right Or.inl
        · exact Or.inr (Or.inr hchild)

/-- What is in the table lives, and the command is followed. -/
structure Attended (launched : List Pid) (child : Pid) (h : List Observation) (c : Context) :
    Prop where
  table : ∀ tid, c.registry tid ≠ none → tid ∈ living launched h
  follows : Follows ((reports_of h).foldl Command.observe ⟨child, none⟩) c

theorem reports_of_append (observation : Observation) :
    reports_of (h ++ [observation]) =
      match observation with
      | .born _ => reports_of h
      | .report report => reports_of h ++ [report] := by
  unfold reports_of
  rw [List.filterMap_append]
  cases observation with
  | born tid => exact List.append_nil _
  | report report => rfl

/-- The children that are named before the last step live, and so does one that it names. -/
theorem ChildrenLiving.of_append {observation : Observation}
    (hliving : ChildrenLiving launched (h ++ [observation])) :
    ChildrenLiving launched h ∧
      ∀ child ∈ observation.told.bind Report.child, child ∈ living launched h := by
  constructor
  · intro k
    have := hliving ⟨k.1, by rw [List.length_append]; omega⟩
    simpa [List.take_append_of_le_length (Nat.le_of_lt k.2)] using this
  · have := hliving ⟨h.length, by simp⟩
    simpa using this

theorem Report.task_of_stops (hstops : report.stops = some tid) : report.task = some tid := by
  unfold Report.stops at hstops
  unfold Report.task
  split at hstops
  · rename_i heq
    rw [heq]
    exact hstops
  · simp at hstops

/-- **One step** of a run keeps what is in the table alive, as long as a child that is named
    lives. -/
theorem Attended.step {observation : Observation} (hattended : Attended launched child h c)
    (hlegal : LegalObservation launched h c observation)
    (hchild : ∀ child ∈ observation.told.bind Report.child, child ∈ living launched h)
    (hstep : observation_step config env c observation = (c', true)) :
    Attended launched child (h ++ [observation]) c' := by
  cases observation with
  | born tid =>
    have hc : c = c' := (Prod.mk.inj hstep).1
    subst hc
    refine ⟨fun other hother => ?_, ?_⟩
    · rw [living_append]
      exact List.mem_cons_of_mem _ (hattended.table other hother)
    · rw [reports_of_append]
      exact hattended.follows
  | report report =>
    have hstep : loop_step config env c report = (c', true) := hstep
    obtain ⟨-, hround⟩ := loop_step_true hstep
    refine ⟨fun other hother => ?_, ?_⟩
    · rw [(loop_step_moves hstep).registry] at hother
      obtain ⟨hold, hends⟩ := Registry.after_bound hother
      rw [living_append]
      refine List.mem_filter.mpr ⟨?_, by simpa using hends⟩
      obtain hold | hstops | hnamed := hold
      · exact hattended.table other hold
      · exact hlegal other (Report.task_of_stops hstops)
      · exact hchild other hnamed
    · rw [reports_of_append, List.foldl_append]
      exact (hattended.follows.step hround).1

/-- **The invariant** at every head of the loop. -/
theorem attended_of_reaches (hstart : start.Alone child) (hin : start.registry child ≠ none)
    (hchild : child ∈ launched) (hliving : ChildrenLiving launched h)
    (hr : Reaches (observation_step config env) (LegalObservation launched) start h c) :
    Attended launched child h c := by
  induction hr with
  | refl =>
    refine ⟨fun tid htid => by rw [hstart.table tid htid]; exact hchild, fun _ => ?_, fun h => absurd rfl h⟩
    exact ⟨congrArg Root.tid hstart.root, congrArg Root.known hstart.root, hin⟩
  | snoc _ hlegal hstep ih =>
    obtain ⟨hbefore, hlast⟩ := hliving.of_append
    exact (ih hbefore).step hlegal hlast hstep

/-- The loop over the reports of a run comes to its last state. -/
theorem trace_rounds_of_observed
    (hr : Reaches (observation_step config env) (LegalObservation launched) start h c)
    (rest : List Report) :
    (trace_rounds config env (reports_of h ++ rest)).exec start =
      (trace_rounds config env rest).exec c := by
  induction hr generalizing rest with
  | refl => rfl
  | snoc _ _ hstep ih =>
    rename_i h c₀ c₁ observation _ _
    rw [reports_of_append]
    cases observation with
    | born tid =>
      have hc : c₀ = c₁ := (Prod.mk.inj hstep).1
      rw [ih, hc]
    | report report =>
      have hstep : loop_step config env c₀ report = (c₁, true) := hstep
      obtain ⟨hcount, hround⟩ := loop_step_true hstep
      show (trace_rounds config env ((reports_of h ++ [report]) ++ rest)).exec start = _
      rw [List.append_assoc, ih, List.singleton_append, trace_rounds,
        exec_bind_of_ok (exec_get c₀), if_neg hcount, exec_bind_of_ok hround]

/-- What `sg_trace_run` does when a run has ended: it kills what the table holds, and the
    root, or it kills nothing. -/
theorem EndedRun.kills (hrun : EndedRun config env answers observations c) (shutdown_signal : Int) :
    ∃ killed, (finalState (sg_trace_run config env answers (reports_of observations)
        shutdown_signal) .init).kills = c.kills ++ killed ∧
      (killed = c.kill_targets ∨ killed = []) := by
  have hexec : ∃ result, (do
        begin_run config env answers
        trace_rounds config env (reports_of observations)).exec .init = (result, c) := by
    cases hrun with
    | launch hbegin =>
      rw [exec_bind, hbegin]
      exact ⟨_, rfl⟩
    | @round start c₀ _ h report result hbegin hr hcount _ hround hresult =>
      rw [exec_bind_of_ok hbegin, reports_of_append]
      show ∃ result, (trace_rounds config env (reports_of h ++ [report])).exec start = _
      rw [trace_rounds_of_observed hr, trace_rounds, exec_bind_of_ok (exec_get c₀), if_neg hcount,
        exec_bind, hround]
      cases result with
      | error error => exact ⟨_, rfl⟩
      | ok ending =>
        cases ending with
        | again => exact absurd rfl hresult
        | finished command_status => exact ⟨_, rfl⟩
    | empty hbegin hr hcount =>
      rename_i start
      rw [exec_bind_of_ok hbegin]
      have := trace_rounds_of_observed hr []
      rw [List.append_nil] at this
      rw [this, trace_rounds_of_count hcount]
      exact ⟨_, rfl⟩
  obtain ⟨result, hexec⟩ := hexec
  unfold finalState sg_trace_run
  rw [exec_bind, exec_onError, hexec]
  cases result with
  | error error => exact ⟨c.kill_targets, rfl, Or.inl rfl⟩
  | ok command_status =>
    cases command_status with
    | none => exact ⟨[], (List.append_nil _).symm, Or.inr rfl⟩
    | some command_status =>
      by_cases hshutdown : shutdown_signal ≠ 0
      · refine ⟨c.kill_targets, ?_, Or.inl rfl⟩
        dsimp only
        rw [if_pos hshutdown]
        rfl
      · refine ⟨[], ?_, Or.inr rfl⟩
        dsimp only
        rw [if_neg hshutdown]
        exact (List.append_nil _).symm

/-- **Only the living are killed.**  In every run that ends, the tasks that are sent
    `SIGKILL` live, if the exit of the child was not collected by the initial wait, every
    child that is named lives, the run does not end in the round of an exit, and the exit of
    the command has not been reported. -/
theorem only_living_killed (hmode : config.mode = .SG_RUN_LAUNCH)
    (hrun : EndedRun config env answers observations c) (hinitial : answers.collected = false)
    (hliving : ChildrenLiving answers.launched observations)
    (hlast : EndsInNoExit observations)
    (hroot : ∀ child, answers.child = .ok child →
      first_exit child (reports_of observations) = none) (shutdown_signal : Int) :
    ∃ killed, (finalState (sg_trace_run config env answers (reports_of observations)
        shutdown_signal) .init).kills = c.kills ++ killed ∧
      ∀ tid ∈ killed, tid ∈ living answers.launched observations := by
  obtain ⟨killed, hkills, hkilled⟩ := hrun.kills shutdown_signal
  refine ⟨killed, hkills, ?_⟩
  suffices htargets : ∀ tid ∈ c.kill_targets, tid ∈ living answers.launched observations by
    obtain rfl | rfl := hkilled
    · exact htargets
    · simp
  have hlaunched : ∀ {child : Pid}, answers.child = .ok child → child ∈ answers.launched := by
    intro child hchild
    unfold LaunchAnswers.launched
    rw [hchild]
    dsimp only
    rw [hinitial]
    simp
  -- At the head of a round the command is the root, and everything in the table lives.
  have hhead : ∀ {start c₀ : Context} {h : List Observation},
      (begin_run config env answers).exec .init = (.ok (), start) →
      Reaches (observation_step config env) (LegalObservation answers.launched) start h c₀ →
      ChildrenLiving answers.launched h →
      (∀ child, answers.child = .ok child → first_exit child (reports_of h) = none) →
      (∀ tid, c₀.registry tid ≠ none → tid ∈ living answers.launched h) ∧
        c₀.registry c₀.root.tid ≠ none := by
    intro start c₀ h hbegin hr hliving hroot
    cases hchild : answers.child with
    | error error =>
      rw [begin_run_no_child hchild] at hbegin
      simp at hbegin
    | ok child =>
      have halone : Holds (begin_run config env answers) .init
          (fun _ c => c.Alone child ∧ (config.mode = .SG_RUN_LAUNCH → c.registry child ≠ none))
          (fun _ c => c.Alone child) := begin_run_alone hchild
      obtain ⟨halone, hin⟩ := halone.of_ok hbegin
      have hattended := attended_of_reaches halone (hin hmode) (hlaunched hchild) hliving hr
      obtain ⟨htid, -, hself⟩ := hattended.follows.alive (hroot child hchild)
      exact ⟨hattended.table, htid ▸ hself⟩
  cases hrun with
  | launch hbegin =>
    cases hchild : answers.child with
    | error error =>
      rw [begin_run_no_child hchild] at hbegin
      rw [← (Prod.mk.inj hbegin).2]
      intro tid htid
      have hnone : Context.init.kill_targets = [] := rfl
      rw [hnone] at htid
      simp at htid
    | ok child =>
      have halone : Holds (begin_run config env answers) .init
          (fun _ c => c.Alone child ∧ (config.mode = .SG_RUN_LAUNCH → c.registry child ≠ none))
          (fun _ c => c.Alone child) := begin_run_alone hchild
      have halone : c.Alone child := halone.of_error hbegin
      apply Context.kill_targets_of
      · intro tid htid
        rw [halone.table tid htid]
        exact hlaunched hchild
      · intro _
        rw [halone.root]
        exact hlaunched hchild
  | @round start c₀ _ h report result hbegin hr hcount hlegal hround hresult =>
    obtain ⟨hbefore, hnamed⟩ := hliving.of_append
    have hends : report.ends = none := hlast (.report report) (by simp)
    have hroot₀ : ∀ child, answers.child = .ok child → first_exit child (reports_of h) = none := by
      intro child hchild
      have hafter := hroot child hchild
      rw [reports_of_append] at hafter
      by_contra hsome
      obtain ⟨status, hstatus⟩ := Option.ne_none_iff_exists'.mp hsome
      unfold first_exit at hafter hstatus
      rw [List.foldl_append, Command.observe_ended hstatus] at hafter
      simp at hafter
    obtain ⟨htable, hself⟩ := hhead hbegin hr hbefore hroot₀
    have hsame : living answers.launched (h ++ [.report report]) = living answers.launched h := by
      rw [living_append]
      simp [hends]
    rw [hsame]
    have hstops : ∀ tid, report.stops = some tid → tid ∈ living answers.launched h :=
      fun tid hs => hlegal tid (Report.task_of_stops hs)
    have hall : ∀ tid, c₀.registry tid ≠ none ∨ report.stops = some tid ∨ report.child = some tid →
        tid ∈ living answers.launched h := by
      intro tid htid
      obtain hold | hs | hc := htid
      · exact htable tid hold
      · exact hstops tid hs
      · exact hnamed tid hc
    have hroot_tid : ∀ tid, tid = c₀.root.tid ∨ report.stops = some tid →
        tid ∈ living answers.launched h := by
      intro tid htid
      obtain rfl | hs := htid
      · exact htable _ hself
      · exact hstops tid hs
    apply Context.kill_targets_of
    · intro tid htid
      cases result with
      | error error =>
        have hleaves := (loop_round_root report).of_error hround
        exact hall tid (hleaves.known tid htid)
      | ok ending =>
        rw [((loop_round_moves report).of_ok hround).registry] at htid
        exact hall tid (Registry.after_bound htid).1
    · intro _
      cases result with
      | error error =>
        have hleaves := (loop_round_root report).of_error hround
        exact hroot_tid _ hleaves.root
      | ok ending =>
        have hafter : c.root = c₀.root.after c₀.registry report :=
          (loop_round_root report).of_ok hround
        rw [hafter]
        exact hroot_tid _ (Root.after_tid c₀.registry c₀.root report)
  | empty hbegin hr hcount =>
    obtain ⟨-, hself⟩ := hhead hbegin hr hliving hroot
    exact absurd (Context.registry_none.mpr (Tracees.count_eq_zero.mp hcount c.root.tid)) hself

end runs

/-! ### Runs -/

/-- The child `100` is launched, and everything succeeds. -/
def LaunchAnswers.plain : LaunchAnswers where
  child := .ok 100
  initial := some (.stopped SIGSTOP 0)
  options := true
  handlers := true
  resume := .ok

/-- The command forks `101`, and may have exited when the user interrupts the trace. -/
def interrupted_run (reaped : Bool) : List Observation :=
  let fork : Report := ⟨.status 100 (.stopped SIGTRAP PTRACE_EVENT_FORK) (.plain (some 101)), 0⟩
  let stop : Report := ⟨.status 101 (.stopped SIGSTOP 0) (.plain none), 0⟩
  let exit : Report := ⟨.status 100 (.exited 0) (.plain none), 0⟩
  [.born 101, .report fork, .report stop] ++ if reaped then [.report exit] else []

/-- `waitpid` is interrupted by `SIGINT`. -/
def interrupt : Report := ⟨.eintr, 2⟩

instance (launched : List Pid) (h : List Observation) (c : Context) (observation : Observation) :
    Decidable (LegalObservation launched h c observation) := by
  unfold LegalObservation
  infer_instance

instance (launched : List Pid) (observations : List Observation) :
    Decidable (ChildrenLiving launched observations) := by
  unfold ChildrenLiving
  infer_instance

instance (observations : List Observation) : Decidable (EndsInNoExit observations) := by
  unfold EndsInNoExit
  infer_instance

theorem interrupted_run_legal (reaped : Bool) (k : Fin (interrupted_run reaped).length) (c : Context) :
    LegalObservation [100] ((interrupted_run reaped).take k) c ((interrupted_run reaped).get k) := by
  have hall : ∀ reaped, ∀ k : Fin (interrupted_run reaped).length,
      ∀ tid ∈ ((interrupted_run reaped).get k).told.bind Report.task,
        tid ∈ living [100] ((interrupted_run reaped).take k) := by
    decide
  exact hall reaped k

theorem interrupted_run_ends (reaped : Bool) :
    ∃ c, EndedRun .following .reliable .plain (interrupted_run reaped ++ [.report interrupt]) c := by
  have hbegin : (begin_run .following .reliable .plain).succeeds .init = true := by decide +kernel
  have hrun : ∀ reaped, ((run (observation_step .following .reliable)
      ((begin_run .following .reliable .plain).finalState .init) (interrupted_run reaped)).map
        fun c => decide (c.tracees.count ≠ 0)) = some true := by
    decide +kernel
  obtain ⟨c, hc, hcount⟩ := Option.map_eq_some_iff.mp (hrun reaped)
  have hr : Reaches (observation_step .following .reliable) (LegalObservation [100])
      ((begin_run .following .reliable .plain).finalState .init) (interrupted_run reaped) c :=
    reaches_of_run (interrupted_run_legal reaped) hc
  have hlegal : LegalObservation [100] (interrupted_run reaped) c (.report interrupt) := by
    intro tid htid
    simp [interrupt, Observation.told, Report.task] at htid
  have hround : (loop_round .following .reliable interrupt).exec c = (.ok (.finished 130), c) := rfl
  exact ⟨c, .round (exec_of_succeeds hbegin) hr (by simpa using hcount) hlegal hround (by simp)⟩

/-- The command runs: it and its child are killed. -/
theorem only_living_killed_running :
    ∃ c killed, EndedRun .following .reliable .plain
        (interrupted_run false ++ [.report interrupt]) c ∧
      (finalState (sg_trace_run .following .reliable .plain
        (reports_of (interrupted_run false ++ [.report interrupt])) 2) .init).kills =
          c.kills ++ killed ∧
      ∀ tid ∈ killed, tid ∈ living [100] (interrupted_run false ++ [.report interrupt]) := by
  obtain ⟨c, hrun⟩ := interrupted_run_ends false
  have hroot : ∀ child, LaunchAnswers.plain.child = .ok child →
      first_exit child (reports_of (interrupted_run false ++ [.report interrupt])) = none := by
    intro child hchild
    rw [← Except.ok.inj hchild]
    decide
  obtain ⟨killed, hkills, hliving⟩ := only_living_killed rfl hrun rfl (by decide) (by decide) hroot 2
  exact ⟨c, killed, hrun, hkills, hliving⟩

/-- The command has exited, and its exit has been collected: its TID is sent `SIGKILL`. -/
theorem reaped_root_killed :
    (∃ c, EndedRun .following .reliable .plain (interrupted_run true ++ [.report interrupt]) c) ∧
      (finalState (sg_trace_run .following .reliable .plain
        (reports_of (interrupted_run true ++ [.report interrupt])) 2) .init).kills = [101, 100] ∧
      100 ∉ living [100] (interrupted_run true ++ [.report interrupt]) :=
  ⟨interrupted_run_ends true, by decide +kernel, by decide⟩

end Sysgaze
