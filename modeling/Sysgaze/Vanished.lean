import Sysgaze.ExitStatus

/-! # Tracees that vanish

    A task that has stopped may be killed before the tracer is done with it:
    every request that follows fails with `ESRCH`.  A round puts at most one
    question to the task (`PTRACE_GETEVENTMSG`, `PTRACE_GET_SYSCALL_INFO` or
    `PTRACE_GETSIGINFO`) and restarts it at the end.

    The restart may fail: `trace_loop` goes on.  A question may not:
    `trace_loop_fails_iff` says that the loop fails, in a run where nothing else
    does, exactly when the first restart of the root or some question is lost.
-/

open Fallible Stepping

namespace Sysgaze

/-- When a task that has stopped is killed. -/
inductive Vanish where
  | never
  | before_restart
  | before_question
  deriving DecidableEq

/-- The answers when the task is killed. -/
def Answers.vanished (answers : Answers) : Vanish → Answers
  | .never => answers
  | .before_restart => { answers with restart := .esrch }
  | .before_question =>
    { answers with
      eventmsg := none
      syscall_info := none
      signal_info := .failed
      restart := .esrch }

/-- The report when the task is killed. -/
def Report.vanished (report : Report) (vanish : Vanish) : Report :=
  match report.waited with
  | .status waited status answers =>
    { report with waited := .status waited status (answers.vanished vanish) }
  | _ => report

/-- Does the loop put a question to the task that has stopped? -/
def Asks (config : Config) (registry : Registry) (report : Report) : Prop :=
  match report.waited with
  | .status waited (.stopped stop ptrace_event) answers =>
    ptrace_event = PTRACE_EVENT_EXEC ∨
      (registry.arrive config waited (.stopped stop ptrace_event) answers waited ≠ none ∧
        (stop = SYSCALL_STOP ∨ (ptrace_event ≠ PTRACE_EVENT_STOP ∧ (ptrace_event ≠ 0 ∨
          (registry.arrive config waited (.stopped stop ptrace_event) answers).swallows waited stop =
            false))))
  | _ => False

/-- A report, and when its task is killed. -/
abbrev Input := Report × Vanish

/-- The report as the loop sees it. -/
def Input.seen (input : Input) : Report := input.1.vanished input.2

/-- The question of this round is lost. -/
def Loses (config : Config) (c : Context) (input : Input) : Prop :=
  input.2 = .before_question ∧ Asks config c.registry input.1

/-- **Nothing else fails**: wherever the loop comes to a report, the round succeeds if the
    task lives. -/
def Calm (config : Config) (env : Env) : Context → List Input → Prop
  | _, [] => True
  | c, input :: inputs =>
    (c.tracees.count ≠ 0 → (loop_round config env input.1).succeeds c = true) ∧
      ((loop_step config env c input.seen).2 = true →
        Calm config env (loop_step config env c input.seen).1 inputs)

/-- In some round of the loop the question is lost. -/
def LosesQuestion (config : Config) (env : Env) : Context → List Input → Prop
  | _, [] => False
  | c, input :: inputs =>
    (c.tracees.count ≠ 0 ∧ Loses config c input) ∨
      ((loop_step config env c input.seen).2 = true ∧
        LosesQuestion config env (loop_step config env c input.seen).1 inputs)

instance (config : Config) (registry : Registry) (report : Report) :
    Decidable (Asks config registry report) := by
  unfold Asks
  split <;> infer_instance

instance (config : Config) (c : Context) (input : Input) : Decidable (Loses config c input) := by
  unfold Loses
  infer_instance

/-- A run can be tested for other failures. -/
def decide_calm (config : Config) (env : Env) :
    ∀ (c : Context) (inputs : List Input), Decidable (Calm config env c inputs)
  | _, [] => isTrue trivial
  | c, input :: inputs =>
    have := decide_calm config env (loop_step config env c input.seen).1 inputs
    inferInstanceAs (Decidable (_ ∧ _))

/-- A run can be tested for lost questions. -/
def decide_loses (config : Config) (env : Env) :
    ∀ (c : Context) (inputs : List Input), Decidable (LosesQuestion config env c inputs)
  | _, [] => isFalse id
  | c, input :: inputs =>
    have := decide_loses config env (loop_step config env c input.seen).1 inputs
    inferInstanceAs (Decidable (_ ∨ _))

instance (config : Config) (env : Env) (c : Context) (inputs : List Input) :
    Decidable (Calm config env c inputs) := decide_calm config env c inputs

instance (config : Config) (env : Env) (c : Context) (inputs : List Input) :
    Decidable (LosesQuestion config env c inputs) := decide_loses config env c inputs

section rounds
variable {config : Config} {env : Env} {c c' : Context} {waited : Pid} {status : WaitStatus}
  {answers : Answers} {shutdown_signal : Int} {tracee : Tracee}

/-- The round of a stop, once the task has been found. -/
def finish_stop (config : Config) (env : Env) (tracee : Tracee) (waited : Pid) (stop : Int)
    (ptrace_event : Nat) (answers : Answers) (shutdown_signal : Int) : TraceM RoundEnd := do
  let tracee : Tracee := { tracee with in_ptrace_stop := true, phase := .SG_TRACEE_STOPPED }
  store tracee
  let (delivery_signal, listen) ← handle_stop config env tracee stop ptrace_event answers
  let restarted ← restart_tracee config env waited delivery_signal listen answers.restart
  pure (if restarted then test_shutdown shutdown_signal else .again)

/-- Does the handling of a stop ask something, unless it is an exec event? -/
def StopAsks (tracee : Tracee) (stop : Int) (ptrace_event : Nat) : Prop :=
  stop = SYSCALL_STOP ∨ (ptrace_event ≠ PTRACE_EVENT_STOP ∧
    (ptrace_event ≠ 0 ∨ (tracee.newborn && decide (stop = SIGSTOP)) = false))

/-- The restart of a task that has vanished does not fail. -/
theorem restart_tracee_esrch (delivery_signal : Int) (listen : Bool) :
    (restart_tracee config env waited delivery_signal listen .esrch).succeeds c = true := by
  have h : Holds (restart_tracee config env waited delivery_signal listen .esrch) c
      (fun _ _ => True) (fun _ _ => False) := by
    unfold restart_tracee listen_tracee resume_tracee
    rw [holds_bind, holds_get, Tracees.get_eq]
    cases c.tracees.lookup waited with
    | none => trivial
    | some tracee =>
      dsimp only
      cases listen with
      | true => trivial
      | false => trivial
  exact h.succeeds

/-- What comes after a stop has been handled without a failure does not fail when the task
    has vanished. -/
theorem finish_stop_esrch {stop : Int} {ptrace_event : Nat} {lost : Answers}
    (hrestart : lost.restart = .esrch)
    (hsame : ∀ c : Context,
      (handle_stop config env { tracee with in_ptrace_stop := true, phase := .SG_TRACEE_STOPPED }
        stop ptrace_event answers).succeeds c = true →
      (handle_stop config env { tracee with in_ptrace_stop := true, phase := .SG_TRACEE_STOPPED }
        stop ptrace_event lost).succeeds c = true)
    (h : (finish_stop config env tracee waited stop ptrace_event answers shutdown_signal).succeeds c =
      true) :
    (finish_stop config env tracee waited stop ptrace_event lost shutdown_signal).succeeds c =
      true := by
  unfold finish_stop at *
  obtain ⟨⟨⟩, c₁, hstore, h⟩ := succeeds_bind.mp h
  obtain ⟨result, c₂, hstop, -⟩ := succeeds_bind.mp h
  have hlost := hsame _ (succeeds_iff.mpr ⟨result, c₂, hstop⟩)
  obtain ⟨result', c₃, hstop'⟩ := succeeds_iff.mp hlost
  refine succeeds_bind.mpr ⟨_, c₁, hstore, succeeds_bind.mpr ⟨result', c₃, hstop', ?_⟩⟩
  rw [hrestart]
  obtain ⟨restarted, c₄, hrestarted⟩ :=
    succeeds_iff.mp (restart_tracee_esrch result'.1 result'.2)
  exact succeeds_bind.mpr ⟨restarted, c₄, hrestarted, rfl⟩

/-- A question that is put to the task and lost fails the round. -/
theorem handle_stop_asks {stop : Int} {ptrace_event : Nat}
    (hexec : ptrace_event ≠ PTRACE_EVENT_EXEC) (hasks : StopAsks tracee stop ptrace_event) :
    (handle_stop config env tracee stop ptrace_event (answers.vanished .before_question)).succeeds c =
      false := by
  have hlost : Holds (handle_stop config env tracee stop ptrace_event
      (answers.vanished .before_question)) c (fun _ _ => False) (fun _ _ => True) := by
    unfold handle_stop
    rw [holds_ite]
    refine ⟨fun _ => trivial, fun hsyscall => ?_⟩
    obtain hsyscall' | ⟨hstop, hquestion⟩ := hasks
    · exact absurd hsyscall' hsyscall
    rw [if_neg hstop, holds_ite]
    constructor
    · intro _
      unfold handle_ptrace_event
      rw [holds_bind, if_neg hexec]
      split
      · trivial
      · split
        · trivial
        · unfold handle_child_event
          rw [holds_bind, holds_measured_ptrace]
          dsimp only [Answers.vanished, Option.getD_none]
          rw [if_pos (Or.inl rfl)]
          trivial
    · intro hevent
      have hnot : ¬(tracee.newborn && decide (stop = SIGSTOP)) = true := by
        rw [hquestion.resolve_left hevent]
        simp
      rw [if_neg hnot]
      trivial
  rw [← Bool.not_eq_true]
  intro hsucceeds
  obtain ⟨result, c₁, hrun⟩ := succeeds_iff.mp hsucceeds
  exact hlost.of_ok hrun

/-- A stop that asks nothing is handled in the same way. -/
theorem handle_stop_silent {stop : Int} {ptrace_event : Nat}
    (hasks : ¬StopAsks tracee stop ptrace_event) :
    handle_stop config env tracee stop ptrace_event (answers.vanished .before_question) =
      handle_stop config env tracee stop ptrace_event answers := by
  unfold StopAsks at hasks
  push Not at hasks
  obtain ⟨hsyscall, hquestion⟩ := hasks
  unfold handle_stop
  rw [if_neg hsyscall, if_neg hsyscall]
  by_cases hstop : ptrace_event = PTRACE_EVENT_STOP
  · rw [if_pos hstop, if_pos hstop]
  · obtain ⟨hevent, hnewborn⟩ := hquestion hstop
    have hnewborn : (tracee.newborn && decide (stop = SIGSTOP)) = true := by simpa using hnewborn
    rw [if_neg hstop, if_neg hstop, if_neg (not_not_intro hevent), if_neg (not_not_intro hevent),
      if_pos hnewborn, if_pos hnewborn]

/-- The task that has been found asks what the registry says. -/
theorem asks_found {stop : Int} {ptrace_event : Nat} (hexec : ptrace_event ≠ PTRACE_EVENT_EXEC)
    {found : Option Tracee}
    (hfound : (find_tracee config env waited (.stopped stop ptrace_event) answers).exec c =
      (.ok found, c')) :
    Asks config c.registry ⟨.status waited (.stopped stop ptrace_event) answers, shutdown_signal⟩ ↔
      ∃ tracee, found = some tracee ∧ StopAsks tracee stop ptrace_event := by
  obtain ⟨hlookup, hmoves⟩ := (find_tracee_moves waited stop ptrace_event answers).of_ok hfound
  have hformer : WaitStatus.former (.stopped stop ptrace_event) answers = none := if_neg hexec
  have harrive : c.registry.arrive config waited (.stopped stop ptrace_event) answers =
      c'.registry := by
    rw [hmoves.registry]
    unfold Registry.arrive
    rw [hformer]
  unfold Asks StopAsks
  dsimp only
  rw [harrive]
  cases found with
  | none =>
    have hnone : c'.registry waited = none := Context.registry_none.mpr hlookup.symm
    simp [hexec, hnone]
  | some tracee =>
    have htid : tracee.tid = waited := Tracees.lookup_tid hlookup.symm
    have hsome : c'.registry waited = some tracee.newborn := by
      rw [← htid]
      exact Context.registry_eq (by rw [htid]; exact hlookup.symm)
    have hswallows : c'.registry.swallows waited stop =
        (tracee.newborn && decide (stop = SIGSTOP)) := by
      unfold Registry.swallows
      rw [hsome]
      cases tracee.newborn <;> rfl
    rw [hswallows, hsome]
    simp [hexec]

/-- A round of a stop ends in `finish_stop`. -/
theorem handle_status_finish (waited : Pid) (stop : Int) (ptrace_event : Nat) (answers : Answers)
    (shutdown_signal : Int) :
    handle_status config env waited (.stopped stop ptrace_event) answers shutdown_signal = (do
      observe_exec config env waited (.stopped stop ptrace_event) answers
      match ← find_tracee config env waited (.stopped stop ptrace_event) answers with
      | none => pure .again
      | some tracee =>
        finish_stop config env tracee waited stop ptrace_event answers shutdown_signal) := rfl

/-- The round of a stop is taken apart. -/
theorem status_succeeds {stop : Int} {ptrace_event : Nat} :
    (handle_status config env waited (.stopped stop ptrace_event) answers shutdown_signal).succeeds c =
        true ↔
      ∃ c₁ found c₂,
        (observe_exec config env waited (.stopped stop ptrace_event) answers).exec c = (.ok (), c₁) ∧
        (find_tracee config env waited (.stopped stop ptrace_event) answers).exec c₁ =
          (.ok found, c₂) ∧
        ∀ tracee, found = some tracee →
          (finish_stop config env tracee waited stop ptrace_event answers shutdown_signal).succeeds c₂ =
            true := by
  rw [handle_status_finish, succeeds_bind]
  constructor
  · intro h'
    rcases h' with ⟨⟨⟩, c₁, hobserve, h⟩
    obtain ⟨found, c₂, hfind, h⟩ := succeeds_bind.mp h
    refine ⟨c₁, found, c₂, hobserve, hfind, ?_⟩
    rintro tracee rfl
    exact h
  · intro h'
    rcases h' with ⟨c₁, found, c₂, hobserve, hfind, h⟩
    refine ⟨(), c₁, hobserve, succeeds_bind.mpr ⟨found, c₂, hfind, ?_⟩⟩
    cases found with
    | none => rfl
    | some tracee => exact h tracee rfl

/-- A stop that asks nothing, or whose question is answered, is survived. -/
theorem stop_survives {stop : Int} {ptrace_event : Nat} {lost : Answers}
    (hcalm : (handle_status config env waited (.stopped stop ptrace_event) answers
      shutdown_signal).succeeds c = true)
    (hrestart : lost.restart = .esrch) (htgid : lost.waited_tgid = answers.waited_tgid)
    (hobserve : observe_exec config env waited (.stopped stop ptrace_event) lost =
      observe_exec config env waited (.stopped stop ptrace_event) answers)
    (hsame : ∀ c₁ found c₂,
      (observe_exec config env waited (.stopped stop ptrace_event) answers).exec c = (.ok (), c₁) →
      (find_tracee config env waited (.stopped stop ptrace_event) answers).exec c₁ =
        (.ok found, c₂) →
      ∀ tracee, found = some tracee → ∀ c₃,
        (handle_stop config env { tracee with in_ptrace_stop := true, phase := .SG_TRACEE_STOPPED }
          stop ptrace_event answers).succeeds c₃ = true →
        (handle_stop config env { tracee with in_ptrace_stop := true, phase := .SG_TRACEE_STOPPED }
          stop ptrace_event lost).succeeds c₃ = true) :
    (handle_status config env waited (.stopped stop ptrace_event) lost shutdown_signal).succeeds c =
      true := by
  obtain ⟨c₁, found, c₂, hobserved, hfind, hfinish⟩ := status_succeeds.mp hcalm
  have hfind' : find_tracee config env waited (.stopped stop ptrace_event) lost =
      find_tracee config env waited (.stopped stop ptrace_event) answers := by
    unfold find_tracee
    rw [htgid]
  refine status_succeeds.mpr ⟨c₁, found, c₂, by rw [hobserve]; exact hobserved,
    by rw [hfind']; exact hfind, ?_⟩
  intro tracee hfound
  exact finish_stop_esrch hrestart (hsame c₁ found c₂ hobserved hfind tracee hfound)
    (hfinish tracee hfound)

/-- **A stop** whose task vanishes fails its round exactly when a question is lost. -/
theorem stop_vanished {stop : Int} {ptrace_event : Nat} {vanish : Vanish}
    (hcalm : (handle_status config env waited (.stopped stop ptrace_event) answers
      shutdown_signal).succeeds c = true) :
    (handle_status config env waited (.stopped stop ptrace_event) (answers.vanished vanish)
        shutdown_signal).succeeds c = true ↔
      ¬(vanish = .before_question ∧ Asks config c.registry
        ⟨.status waited (.stopped stop ptrace_event) answers, shutdown_signal⟩) := by
  cases vanish with
  | never => exact ⟨fun _ h => by simp at h, fun _ => hcalm⟩
  | before_restart =>
    exact ⟨fun _ h => by simp at h,
      fun _ => stop_survives hcalm rfl rfl rfl fun _ _ _ _ _ _ _ _ h => h⟩
  | before_question =>
    simp only [true_and]
    by_cases hexec : ptrace_event = PTRACE_EVENT_EXEC
    · -- The former TID is lost.
      have hasks : Asks config c.registry
          ⟨.status waited (.stopped stop ptrace_event) answers, shutdown_signal⟩ := Or.inl hexec
      refine ⟨fun h => ?_, fun h => absurd hasks h⟩
      obtain ⟨c₁, _, _, hobserved, -⟩ := status_succeeds.mp h
      have hthrow : Holds (observe_exec config env waited (.stopped stop ptrace_event)
          (answers.vanished .before_question)) c (fun _ _ => False) (fun _ _ => True) := by
        unfold observe_exec
        dsimp only
        rw [if_pos hexec]
        trivial
      exact (hthrow.of_ok hobserved).elim
    · have hnothing : ∀ answers : Answers,
          observe_exec config env waited (.stopped stop ptrace_event) answers = pure () :=
        fun _ => if_neg hexec
      constructor
      · intro h hasks
        obtain ⟨c₁, found, c₂, hobserved, hfind, hfinish⟩ := status_succeeds.mp h
        have hc : c = c₁ := by
          rw [hnothing] at hobserved
          exact (Prod.mk.inj hobserved).2
        have hfind : (find_tracee config env waited (.stopped stop ptrace_event) answers).exec c₁ =
            (.ok found, c₂) := hfind
        rw [← hc] at hfind
        obtain ⟨tracee, hfound, hstop⟩ := (asks_found hexec hfind).mp hasks
        have hsucceeds := hfinish tracee hfound
        unfold finish_stop at hsucceeds
        obtain ⟨⟨⟩, c₃, _, hsucceeds⟩ := succeeds_bind.mp hsucceeds
        obtain ⟨result, c₄, hhandled, -⟩ := succeeds_bind.mp hsucceeds
        have hfails : (handle_stop config env
            { tracee with in_ptrace_stop := true, phase := .SG_TRACEE_STOPPED } stop ptrace_event
            (answers.vanished .before_question)).succeeds c₃ = false := handle_stop_asks hexec hstop
        rw [succeeds_iff.mpr ⟨result, c₄, hhandled⟩] at hfails
        simp at hfails
      · intro hasks
        have hrestart : (answers.vanished .before_question).restart = .esrch := rfl
        apply stop_survives hcalm hrestart rfl ((hnothing _).trans (hnothing _).symm)
        intro c₁ found c₂ hobserved hfind tracee hfound c₃ h
        have hc : c = c₁ := by
          rw [hnothing] at hobserved
          exact (Prod.mk.inj hobserved).2
        rw [← hc] at hfind
        rw [handle_stop_silent]
        · exact h
        · exact fun hstop => hasks ((asks_found hexec hfind).mpr ⟨tracee, hfound, hstop⟩)

/-- Nothing is asked about a task that has not stopped. -/
theorem handle_status_of_not_stopped {lost : Answers}
    (hstopped : ∀ stop ptrace_event, status ≠ .stopped stop ptrace_event) :
    handle_status config env waited status lost shutdown_signal =
      handle_status config env waited status answers shutdown_signal := by
  unfold handle_status
  rw [find_tracee_of_not_stopped hstopped, find_tracee_of_not_stopped hstopped]
  cases status with
  | stopped stop ptrace_event => exact absurd rfl (hstopped stop ptrace_event)
  | _ => rfl

/-- **A round** in which nothing else fails is failed by a lost question, and by nothing
    else. -/
theorem loop_round_vanished {input : Input}
    (hcalm : (loop_round config env input.1).succeeds c = true) :
    (loop_round config env input.seen).succeeds c = true ↔ ¬Loses config c input := by
  obtain ⟨⟨reported, shutdown_signal⟩, vanish⟩ := input
  unfold Loses Input.seen Report.vanished
  cases reported with
  | eintr => exact ⟨fun _ h => h.2, fun _ => hcalm⟩
  | failed => exact ⟨fun _ h => h.2, fun _ => hcalm⟩
  | status waited status answers =>
    have hsilent : (∀ stop ptrace_event, status ≠ .stopped stop ptrace_event) →
        (handle_status config env waited status (answers.vanished vanish)
          shutdown_signal).succeeds c = true := by
      intro hstopped
      rw [handle_status_of_not_stopped hstopped]
      exact hcalm
    cases status with
    | stopped stop ptrace_event => exact stop_vanished hcalm
    | continued => exact ⟨fun _ h => h.2, fun _ => hsilent (by simp)⟩
    | exited code => exact ⟨fun _ h => h.2, fun _ => hsilent (by simp)⟩
    | signaled signal => exact ⟨fun _ h => h.2, fun _ => hsilent (by simp)⟩

/-! ### Every run -/

/-- The loop ends well: it still waits for a report, no task is left, or it was told to
    stop. -/
def EndsWell (inputs : List Input) (ending : Except String (Option Int) × Context) : Prop :=
  ending.1 = .ok none ∨ (∃ command_status, ending.1 = .ok (some command_status)) ∧
    (ending.2.tracees.count = 0 ∨ ∃ input ∈ inputs, input.1.shutdown_signal ≠ 0)

/-- A round that ends the loop was told to stop. -/
theorem loop_round_finished {report : Report} {command_status : Int}
    (h : (loop_round config env report).exec c = (.ok (.finished command_status), c')) :
    report.shutdown_signal ≠ 0 := by
  intro hquiet
  have := (loop_round_again hquiet).of_ok h
  simp at this

theorem seen_shutdown_signal (input : Input) :
    input.seen.shutdown_signal = input.1.shutdown_signal := by
  unfold Input.seen Report.vanished
  split <;> rfl

/-- The loop goes on as its first round ends. -/
theorem trace_rounds_of_round (hcount : c.tracees.count ≠ 0) (report : Report)
    (reports : List Report) :
    (trace_rounds config env (report :: reports)).exec c =
      match (loop_round config env report).exec c with
      | (.ok .again, c') => (trace_rounds config env reports).exec c'
      | (.ok (.finished command_status), c') => (.ok (some command_status), c')
      | (.error error, c') => (.error error, c') := by
  rw [trace_rounds, exec_bind_of_ok (exec_get c), if_neg hcount, exec_bind]
  rcases (loop_round config env report).exec c with ⟨_ | ⟨_ | _⟩, _⟩
  · rfl
  · rfl
  · rfl

/-- The loop over reports whose tasks may vanish. -/
theorem trace_rounds_vanished {inputs : List Input} :
    ∀ {c : Context}, Calm config env c inputs →
      (¬LosesQuestion config env c inputs →
        EndsWell inputs ((trace_rounds config env (inputs.map Input.seen)).exec c)) ∧
      (LosesQuestion config env c inputs →
        (trace_rounds config env (inputs.map Input.seen)).succeeds c = false) := by
  induction inputs with
  | nil =>
    intro c _
    refine ⟨fun _ => ?_, fun h => h.elim⟩
    rw [List.map_nil]
    by_cases hcount : c.tracees.count = 0
    · rw [trace_rounds_of_count hcount]
      exact Or.inr ⟨⟨_, rfl⟩, Or.inl hcount⟩
    · rw [trace_rounds, exec_bind_of_ok (exec_get c), if_neg hcount]
      exact Or.inl rfl
  | cons input inputs ih =>
    intro c hcalm
    rw [List.map_cons]
    by_cases hcount : c.tracees.count = 0
    · rw [trace_rounds_of_count hcount]
      refine ⟨fun _ => Or.inr ⟨⟨_, rfl⟩, Or.inl hcount⟩, fun h => ?_⟩
      obtain h | ⟨hstep, -⟩ := h
      · exact absurd hcount h.1
      · unfold loop_step at hstep
        rw [if_pos hcount] at hstep
        simp at hstep
    · obtain ⟨hlives, hnext⟩ := hcalm
      have hround := loop_round_vanished (hlives hcount)
      have hrounds := @trace_rounds_of_round config env c hcount input.seen
        (inputs.map Input.seen)
      have hagain : ∀ {c'}, (loop_round config env input.seen).exec c = (.ok .again, c') →
          loop_step config env c input.seen = (c', true) := by
        intro c' hexec
        unfold loop_step
        rw [if_neg hcount, hexec]
      constructor
      · intro hkept
        have hsurvives : ¬Loses config c input := fun h => hkept (Or.inl ⟨hcount, h⟩)
        obtain ⟨ending, c', hexec⟩ := succeeds_iff.mp (hround.mpr hsurvives)
        rw [hrounds, hexec]
        cases ending with
        | again =>
          have hstep := hagain hexec
          have hrest : ¬LosesQuestion config env c' inputs := by
            intro h
            apply hkept
            right
            rw [hstep]
            exact ⟨rfl, h⟩
          have hcalm' : Calm config env c' inputs := by
            rw [hstep] at hnext
            exact hnext rfl
          obtain hwaits | ⟨hstatus, hend | ⟨other, hother, hsignal⟩⟩ := (ih hcalm').1 hrest
          · exact Or.inl hwaits
          · exact Or.inr ⟨hstatus, Or.inl hend⟩
          · exact Or.inr ⟨hstatus, Or.inr ⟨other, by simp [hother], hsignal⟩⟩
        | finished command_status =>
          have hsignal := loop_round_finished hexec
          rw [seen_shutdown_signal] at hsignal
          exact Or.inr ⟨⟨_, rfl⟩, Or.inr ⟨input, by simp, hsignal⟩⟩
      · intro hlost
        unfold Fallible.succeeds
        rw [hrounds]
        obtain ⟨-, hlost⟩ | ⟨hstep, hlost⟩ := hlost
        · have hfails : ¬(loop_round config env input.seen).succeeds c = true :=
            fun h => hround.mp h hlost
          unfold Fallible.succeeds at hfails
          rcases hexec : (loop_round config env input.seen).exec c with ⟨error | ending, c'⟩
          · rfl
          · rw [hexec] at hfails
            exact absurd rfl hfails
        · obtain ⟨-, hexec⟩ := loop_step_true (Prod.ext rfl hstep)
          rw [hexec]
          exact (ih (hnext hstep)).2 hlost

/-- **A tracee that vanishes.**  In a run where nothing else fails, the loop fails exactly
    when the first restart of a launched root or a question of some round is lost;
    otherwise it ends only when no task is left or it is told to stop. -/
theorem trace_loop_fails_iff
    (hroot : config.mode = .SG_RUN_LAUNCH → (c.tracees.lookup c.root_tid).isSome)
    {answer : RestartAnswer} {inputs : List Input}
    (hcalm : Calm config env (finalState (resume_root config env .ok) c) inputs) :
    ((trace_loop config env answer (inputs.map Input.seen)).succeeds c = false ↔
      (config.mode = .SG_RUN_LAUNCH ∧ answer ≠ .ok) ∨
        LosesQuestion config env (finalState (resume_root config env .ok) c) inputs) ∧
    ((trace_loop config env answer (inputs.map Input.seen)).succeeds c = true →
      EndsWell inputs ((trace_loop config env answer (inputs.map Input.seen)).exec c)) := by
  have hresume : Holds (resume_root config env answer) c
      (fun _ c' => ¬(config.mode = .SG_RUN_LAUNCH ∧ answer ≠ .ok) ∧
        c' = finalState (resume_root config env .ok) c)
      (fun _ _ => config.mode = .SG_RUN_LAUNCH ∧ answer ≠ .ok) := by
    cases hmode : config.mode with
    | SG_RUN_ATTACH =>
      unfold resume_root
      rw [hmode]
      exact ⟨by simp, rfl⟩
    | SG_RUN_LAUNCH =>
      obtain ⟨root, hold⟩ := Option.isSome_iff_exists.mp (hroot hmode)
      have hfinal : finalState (resume_root config env .ok) c =
          { c with
            requests := c.requests ++ [⟨resume_request config root, root.tid, 0⟩]
            tracees := c.tracees.write { root with in_ptrace_stop := false } } := by
        unfold finalState resume_root
        rw [hmode]
        dsimp only
        rw [exec_bind_of_ok (exec_get c), Tracees.get_eq, hold]
        rfl
      rw [hfinal]
      unfold resume_root resume_tracee
      rw [hmode]
      simp only [holds_bind, holds_get, Tracees.get_eq, hold, holds_measured_ptrace, holds_ite,
        holds_store, holds_throw]
      exact ⟨fun h => ⟨fun hne => hne.2 h, trivial⟩, fun h => ⟨trivial, h⟩⟩
  rcases hexec : (resume_root config env answer).exec c with ⟨error | ⟨⟩, c₁⟩
  · -- The root cannot be restarted.
    have hlost := hresume.of_error hexec
    have hfails : (trace_loop config env answer (inputs.map Input.seen)).succeeds c = false := by
      rw [← Bool.not_eq_true]
      intro hsucceeds
      obtain ⟨⟨⟩, c₂, hok, -⟩ := succeeds_bind.mp hsucceeds
      rw [hexec] at hok
      simp at hok
    rw [hfails]
    exact ⟨⟨fun _ => Or.inl hlost, fun _ => rfl⟩, by simp⟩
  · -- The loop is entered.
    obtain ⟨hanswer, hc₁⟩ := hresume.of_ok hexec
    have hloop : (trace_loop config env answer (inputs.map Input.seen)).exec c =
        (trace_rounds config env (inputs.map Input.seen)).exec c₁ := exec_bind_of_ok hexec
    rw [← hc₁] at hcalm ⊢
    unfold Fallible.succeeds
    rw [hloop]
    obtain ⟨hkept, hlost⟩ := trace_rounds_vanished hcalm
    unfold Fallible.succeeds at hlost
    refine ⟨⟨fun hfails => ?_, fun h => hlost (h.resolve_left hanswer)⟩,
      fun hsucceeds => hkept fun h => ?_⟩
    · by_contra hnot
      obtain hwaits | ⟨⟨command_status, hstatus⟩, -⟩ := hkept fun h => hnot (Or.inr h)
      · rw [hwaits] at hfails
        simp at hfails
      · rw [hstatus] at hfails
        simp at hfails
    · rw [hlost h] at hsucceeds
      simp at hsucceeds

end rounds

/-! ### Runs -/

/-- The command forks `101`, whose first stop at a `read` is reported; the child is killed
    when it has been restarted, or before. -/
def killed_child (vanish : Vanish) : List Input :=
  let fork : Report := ⟨.status 100 (.stopped SIGTRAP PTRACE_EVENT_FORK) (.plain (some 101)), 0⟩
  let stop : Report := ⟨.status 101 (.stopped SIGSTOP 0) (.plain none), 0⟩
  let killed : Report := ⟨.status 101 (.signaled 9) (.plain none), 0⟩
  let exit : Report := ⟨.status 100 (.exited 0) (.plain none), 0⟩
  [(fork, .never), (stop, .never), (entry_report 101 0, vanish), (killed, .never), (exit, .never)]

/-- The child is killed before it is restarted: the loop goes on to the end. -/
theorem trace_loop_survives :
    (trace_loop .following .reliable .ok ((killed_child .before_restart).map Input.seen)).succeeds
        (.launched 100) = true ∧
      EndsWell (killed_child .before_restart) ((trace_loop .following .reliable .ok
        ((killed_child .before_restart).map Input.seen)).exec (.launched 100)) := by
  have hroot : Config.following.mode = .SG_RUN_LAUNCH →
      ((Context.launched 100).tracees.lookup (Context.launched 100).root_tid).isSome :=
    fun _ => by decide +kernel
  have hcalm : Calm .following .reliable (finalState (resume_root .following .reliable .ok)
      (.launched 100)) (killed_child .before_restart) := by decide +kernel
  have hsucceeds : (trace_loop .following .reliable .ok
      ((killed_child .before_restart).map Input.seen)).succeeds (.launched 100) = true := by
    decide +kernel
  exact ⟨hsucceeds, (trace_loop_fails_iff hroot hcalm).2 hsucceeds⟩

/-- The child is killed before `PTRACE_GET_SYSCALL_INFO`: the loop fails, and the command
    is not traced any more. -/
theorem trace_loop_loses_question :
    Calm .following .reliable (finalState (resume_root .following .reliable .ok) (.launched 100))
        (killed_child .before_question) ∧
      ((trace_loop .following .reliable .ok ((killed_child .before_question).map Input.seen)).exec
        (.launched 100)).1 = .error "PTRACE_GET_SYSCALL_INFO failed: " :=
  ⟨by decide +kernel, by decide +kernel⟩

end Sysgaze
