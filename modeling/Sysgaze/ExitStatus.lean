import Sysgaze.RootTask

/-! # The exit status of the command

    What the reports say about the command that was launched: it is followed
    through exec migrations until its exit is reported, and this first exit is
    its status.

    The loop compares `root_tid` with the TID of every task that ends, and never
    retires it.  Of the exits that it takes for the exit of the root
    (`root_exits`) the first is the command's, and the last is the status
    that is reported (`command_status_iff`).
-/

open Fallible Stepping

namespace Sysgaze

/-! ### What is reported about the command -/

/-- The TID that a task has after a report. -/
def Report.moved (report : Report) (tid : Pid) : Pid :=
  if report.leaves = some tid then report.task.getD tid else tid

/-- The status that is reported for a task that has ended. -/
def Report.exit_code (report : Report) : Int :=
  match report.waited with
  | .status _ status _ => status.exit_code
  | _ => 0

/-- The command that was launched: its TID, and its status once its exit has been
    reported. -/
structure Command where
  tid : Pid
  status : Option Int

/-- The command after a report. -/
def Command.observe (command : Command) (report : Report) : Command :=
  if command.status.isSome then command
  else if report.ends = some command.tid then { command with status := some report.exit_code }
  else { command with tid := report.moved command.tid }

/-- The status in the first exit that is reported for the command. -/
def first_exit (child : Pid) (reports : List Report) : Option Int :=
  (reports.foldl Command.observe ⟨child, none⟩).status

/-- The status in a report that the loop takes for the exit of the root. -/
def Report.root_exit (c : Context) (report : Report) : Option Int :=
  if report.ends = some c.root_tid ∧ (c.tracees.lookup c.root_tid).isSome then
    some report.exit_code
  else none

/-- The statuses in all reports that the loop takes for the exit of the root. -/
def root_exits (config : Config) (env : Env) : Context → List Report → List Int
  | _, [] => []
  | c, report :: reports =>
    (report.root_exit c).toList ++ root_exits config env (loop_step config env c report).1 reports

/-- The command has just been launched: it is the only task in the table. -/
structure Context.JustLaunched (context : Context) (child : Pid) : Prop where
  root_tid : context.root_tid = child
  unknown : context.root_status_known = false
  table : ∀ tid, (context.tracees.lookup tid).isSome ↔ tid = child

/-! ### A registered task stays registered until it ends -/

section registry
variable {config : Config} {registry : Registry} {tid waited : Pid}

theorem Registry.set_ne_none {flag : Bool} (h : registry tid ≠ none) :
    registry.set waited (some flag) tid ≠ none := by
  unfold Registry.set
  split
  · simp
  · exact h

theorem Registry.register_ne_none (h : registry tid ≠ none) : registry.register waited tid ≠ none := by
  unfold Registry.register
  split
  · exact Registry.set_ne_none h
  · exact h

theorem Registry.stopped_keeps (h : registry tid ≠ none) (stop : Int) (ptrace_event : Nat)
    (answers : Answers) : registry.stopped waited stop ptrace_event answers tid ≠ none := by
  unfold Registry.stopped
  split
  · exact h
  · split
    · exact Registry.set_ne_none h
    · split
      · cases WaitStatus.child (.stopped stop ptrace_event) answers with
        | none => exact h
        | some child => exact Registry.register_ne_none h
      · split
        · exact Registry.set_ne_none h
        · exact h

/-- A registered task stays registered when an exec event renames it, or another task. -/
theorem Registry.migrate_ne_none (h : registry tid ≠ none) (waited : Pid) (former : Option Pid) :
    registry.migrate waited former
      (if former.filter (fun former => former ≠ waited) = some tid then waited else tid) ≠ none := by
  cases former with
  | none => exact h
  | some former =>
    unfold Registry.migrate Registry.rename Registry.set
    by_cases hsame : former = waited
    · have hnot : ¬(waited = tid ∧ ¬tid = waited) := fun heq => heq.2 heq.1.symm
      simpa [hsame, hnot] using h
    · by_cases hleft : former = tid
      · simp [hleft ▸ hsame, hleft]
      · by_cases hw : tid = waited
        · simp [hsame, hw]
        · simp [hsame, hleft, hw, Ne.symm hleft, h]

/-- A registered task that has not ended is registered under the TID that it has now. -/
theorem Registry.after_ne_none (h : registry tid ≠ none) {report : Report}
    (hends : report.ends ≠ some tid) : registry.after config report (report.moved tid) ≠ none := by
  unfold Registry.after Report.moved Report.leaves Report.task
  unfold Report.ends at hends
  cases hwaited : report.waited with
  | status waited status answers =>
    rw [hwaited] at hends
    have hset : waited ≠ tid → registry.set waited none tid ≠ none := by
      intro hne
      unfold Registry.set
      rw [if_neg (Ne.symm hne)]
      exact h
    cases status with
    | exited code => exact hset fun heq => hends (congrArg some heq)
    | signaled signal => exact hset fun heq => hends (congrArg some heq)
    | continued => exact h
    | stopped stop ptrace_event =>
      -- The task has been renamed when it is looked up.
      have hrenamed := Registry.migrate_ne_none h waited
        (WaitStatus.former (.stopped stop ptrace_event) answers)
      have harrived : registry.arrive config waited (.stopped stop ptrace_event) answers
          (if (WaitStatus.former (.stopped stop ptrace_event) answers).filter
            (fun former => former ≠ waited) = some tid then waited else tid) ≠ none := by
        rw [Registry.arrive_eq]
        split
        · exact Registry.register_ne_none hrenamed
        · exact hrenamed
      show registry.observe config waited (.stopped stop ptrace_event) answers _ ≠ none
      unfold Registry.observe
      dsimp only
      split
      · exact harrived
      · exact Registry.stopped_keeps harrived stop ptrace_event answers
  | _ => exact h

end registry

/-! ### The first exit and the last -/

section status
variable {config : Config} {env : Env} {c c' : Context} {command : Command} {report : Report}

/-- The exit of the root is recorded. -/
theorem Root.after_exit (c : Context) (report : Report) :
    (c.root.after c.registry report).status = (report.root_exit c).getD c.root.status ∧
      (c.root.after c.registry report).known = (c.root.known || (report.root_exit c).isSome) := by
  have hregistry : c.registry c.root_tid ≠ none ↔ (c.tracees.lookup c.root_tid).isSome :=
    Context.registry_ne_none
  have hexit : ∀ waited status answers, report.waited = .status waited status answers →
      report.ends = some waited →
      (if waited = c.root.tid ∧ c.registry waited ≠ none then
        { c.root with status := status.exit_code, known := true } else c.root).status =
          (report.root_exit c).getD c.root.status ∧
      (if waited = c.root.tid ∧ c.registry waited ≠ none then
        { c.root with status := status.exit_code, known := true } else c.root).known =
          (c.root.known || (report.root_exit c).isSome) := by
    intro waited status answers hwaited hends
    unfold Report.root_exit Report.exit_code
    rw [hends, hwaited]
    by_cases hroot : waited = c.root_tid
    · have hroot' : waited = c.root.tid := hroot
      rw [hroot'] at hroot ⊢
      by_cases hknown : c.registry c.root_tid ≠ none
      · rw [if_pos ⟨rfl, hknown⟩, if_pos ⟨rfl, hregistry.mp hknown⟩]
        simp
      · rw [if_neg fun h => hknown h.2, if_neg fun h => hknown (hregistry.mpr h.2)]
        simp
    · rw [if_neg fun h => hroot h.1, if_neg fun h => hroot (Option.some.inj h.1)]
      simp
  have hother : report.ends = none → report.root_exit c = none := by
    intro hends
    unfold Report.root_exit
    rw [hends, if_neg (by simp)]
  unfold Root.after
  cases hwaited : report.waited with
  | eintr => simp [hother (by simp [Report.ends, hwaited])]
  | failed => simp [hother (by simp [Report.ends, hwaited])]
  | status waited status answers =>
    cases status with
    | exited code => exact hexit waited _ answers hwaited (by simp [Report.ends, hwaited])
    | signaled signal => exact hexit waited _ answers hwaited (by simp [Report.ends, hwaited])
    | continued => simp [hother (by simp [Report.ends, hwaited])]
    | stopped stop ptrace_event =>
      rw [hother (by simp [Report.ends, hwaited])]
      dsimp only
      split
      · simp
      · simp

/-- **The invariant**: until its exit is reported the command is the root, and its record is
    in the table; then its status is known. -/
structure Follows (command : Command) (c : Context) : Prop where
  alive : command.status = none →
    c.root.tid = command.tid ∧ c.root.known = false ∧ c.registry command.tid ≠ none
  ended : command.status ≠ none → c.root.known = true

/-- While the command has not ended, the root is renamed as it is. -/
theorem Root.after_moved (c : Context) (report : Report) (hknown : c.registry c.root.tid ≠ none) :
    (c.root.after c.registry report).tid = report.moved c.root.tid := by
  unfold Root.after Report.moved Report.leaves Report.task
  cases hwaited : report.waited with
  | eintr => rfl
  | failed => rfl
  | status waited status answers =>
    cases status with
    | continued => rfl
    | exited code =>
      dsimp only
      split <;> rfl
    | signaled signal =>
      dsimp only
      split <;> rfl
    | stopped stop ptrace_event =>
      dsimp only
      by_cases hleft : WaitStatus.former (.stopped stop ptrace_event) answers = some c.root.tid ∧
          c.root.tid ≠ waited
      · rw [if_pos ⟨hleft.1, hleft.2, Or.inl hknown⟩, if_pos]
        · rfl
        · rw [hleft.1]
          exact Option.filter_eq_some_iff.mpr ⟨rfl, by simpa using hleft.2⟩
      · rw [if_neg fun h => hleft ⟨h.1, h.2.1⟩, if_neg]
        intro h
        obtain ⟨hformer, hne⟩ := Option.filter_eq_some_iff.mp h
        exact hleft ⟨hformer, by simpa using hne⟩

/-- **One round** keeps the invariant, and the first exit that is taken for the root's is
    the command's. -/
theorem Follows.step (h : Follows command c)
    (hstep : (loop_round config env report).exec c = (.ok .again, c')) :
    Follows (command.observe report) c' ∧
      (command.observe report).status = command.status.or (report.root_exit c) ∧
      c'.root.status = (report.root_exit c).getD c.root.status := by
  have hroot : c'.root = c.root.after c.registry report := (loop_round_root report).of_ok hstep
  have hmoves := (loop_round_moves report).of_ok hstep
  obtain ⟨hstatus, hknown⟩ := Root.after_exit c report
  rw [← hroot] at hstatus hknown
  refine ⟨?_, ?_, hstatus⟩
  · unfold Command.observe
    by_cases hended : command.status.isSome = true
    · rw [if_pos hended]
      have hsome : command.status ≠ none := Option.isSome_iff_ne_none.mp hended
      refine ⟨fun hnone => absurd hnone hsome, fun _ => ?_⟩
      rw [hknown, h.ended hsome]
      rfl
    · have hnone : command.status = none := Option.not_isSome_iff_eq_none.mp hended
      obtain ⟨htid, hunknown, hself⟩ := h.alive hnone
      rw [if_neg hended]
      by_cases hends : report.ends = some command.tid
      · rw [if_pos hends]
        refine ⟨fun h => by simp at h, fun _ => ?_⟩
        have hexit : (report.root_exit c).isSome := by
          unfold Report.root_exit
          have htid' : c.root_tid = command.tid := htid
          rw [if_pos ⟨htid' ▸ hends, by rw [htid']; exact Context.registry_ne_none.mp hself⟩]
          rfl
        rw [hknown, hexit, Bool.or_true]
      · rw [if_neg hends]
        refine ⟨fun _ => ⟨?_, ?_, ?_⟩, fun h => absurd hnone h⟩
        · rw [hroot, Root.after_moved c report (htid ▸ hself), htid]
        · have hnoexit : report.root_exit c = none := by
            unfold Report.root_exit
            have htid' : c.root_tid = command.tid := htid
            rw [htid', if_neg fun h => hends h.1]
          rw [hknown, hunknown, hnoexit]
          rfl
        · rw [hmoves.registry]
          exact Registry.after_ne_none hself hends
  · unfold Command.observe
    by_cases hended : command.status.isSome = true
    · rw [if_pos hended]
      obtain ⟨status, hsome⟩ := Option.isSome_iff_exists.mp hended
      rw [hsome]
      rfl
    · have hnone : command.status = none := Option.not_isSome_iff_eq_none.mp hended
      obtain ⟨htid, -, hself⟩ := h.alive hnone
      have htid' : c.root_tid = command.tid := htid
      rw [if_neg hended, hnone]
      unfold Report.root_exit
      rw [htid']
      by_cases hends : report.ends = some command.tid
      · rw [if_pos hends, if_pos ⟨hends, Context.registry_ne_none.mp hself⟩]
        rfl
      · rw [if_neg hends, if_neg fun h => hends h.1]
        rfl

/-- Without a shutdown signal a round does not end the loop. -/
theorem loop_round_again (hquiet : report.shutdown_signal = 0) :
    Holds (loop_round config env report) c (fun result _ => result = .again) (fun _ _ => True) := by
  have htest : test_shutdown report.shutdown_signal = .again := by
    rw [hquiet]
    rfl
  unfold loop_round
  cases report.waited with
  | eintr => exact htest
  | failed => trivial
  | status waited status answers =>
    unfold handle_status
    rw [holds_bind]
    apply (holds_trivial _).mono
    · intro _ c₁ _
      rw [holds_bind]
      apply (holds_trivial _).mono
      · intro found c₂ _
        cases found with
        | none => exact rfl
        | some tracee =>
          have hexit : Holds (do
              handle_exit config env tracee waited status
              pure RoundEnd.again) c₂ (fun result _ => result = .again) (fun _ _ => True) := by
            rw [holds_bind]
            apply (holds_trivial _).mono
            · intro _ _ _
              exact rfl
            · intro _ _ _
              trivial
          cases status with
          | continued => exact rfl
          | exited code => exact hexit
          | signaled signal => exact hexit
          | stopped stop ptrace_event =>
            simp only [holds_bind, holds_store, holds_pure]
            apply (holds_trivial _).mono
            · intro result c₃ _
              apply (holds_trivial _).mono
              · intro restarted _ _
                rw [htest, ite_self]
              · intro _ _ _
                trivial
            · intro _ _ _
              trivial
      · intro _ _ _
        trivial
    · intro _ _ _
      trivial

/-- Nothing is taken for the exit of the root once the table is empty. -/
theorem root_exits_of_count (hcount : c.tracees.count = 0) (reports : List Report) :
    root_exits config env c reports = [] := by
  have hempty : c.tracees.lookup c.root_tid = none := (Tracees.count_eq_zero.mp hcount) c.root_tid
  induction reports with
  | nil => rfl
  | cons report reports ih =>
    have hstep : (loop_step config env c report).1 = c := by
      unfold loop_step
      rw [if_pos hcount]
    have hexit : report.root_exit c = none := by
      unfold Report.root_exit
      rw [hempty, if_neg (by simp)]
    rw [root_exits, hstep, ih, hexit]
    rfl

/-- The status of the command does not change any more. -/
theorem Command.observe_ended {status : Int} (h : command.status = some status) (reports : List Report) :
    (reports.foldl Command.observe command).status = some status := by
  induction reports generalizing command with
  | nil => exact h
  | cons report reports ih =>
    apply ih
    unfold Command.observe
    rw [h]
    exact h

/-- The table is empty: the command has ended, and its status is known. -/
theorem Follows.ends (h : Follows command c) (hcount : c.tracees.count = 0) :
    (∃ status, command.status = some status) ∧ c.root_status_known = true := by
  have hsome : command.status ≠ none := by
    intro hnone
    apply (h.alive hnone).2.2
    rw [Context.registry_none]
    exact (Tracees.count_eq_zero.mp hcount) command.tid
  exact ⟨Option.ne_none_iff_exists'.mp hsome, h.ended hsome⟩

/-- **A whole run** without a shutdown: the status is that of the last exit taken for the
    root's, and the first of them is the command's. -/
theorem Follows.run (hmode : config.mode = .SG_RUN_LAUNCH) {reports : List Report} {status : Int} :
    ∀ {c : Context} {command : Command}, Follows command c →
      (∀ report ∈ reports, report.shutdown_signal = 0) →
      (trace_rounds config env reports).exec c = (.ok (some status), c') →
      (reports.foldl Command.observe command).status =
          command.status.or (root_exits config env c reports).head? ∧
        (reports.foldl Command.observe command).status ≠ none ∧
        status = (root_exits config env c reports).getLast?.getD c.root.status := by
  -- The loop ends because no task is left.
  have hend : ∀ {c : Context} {command : Command} (reports : List Report), Follows command c →
      c.tracees.count = 0 → (trace_rounds config env reports).exec c = (.ok (some status), c') →
      (reports.foldl Command.observe command).status =
          command.status.or (root_exits config env c reports).head? ∧
        (reports.foldl Command.observe command).status ≠ none ∧
        status = (root_exits config env c reports).getLast?.getD c.root.status := by
    intro c command reports h hcount hrun
    obtain ⟨⟨ended, hended⟩, hknown⟩ := h.ends hcount
    rw [trace_rounds_of_count hcount] at hrun
    have hstatus : exit_status config c = status := by
      simpa using (Prod.mk.inj hrun).1
    rw [Command.observe_ended hended, hended, root_exits_of_count hcount]
    refine ⟨rfl, by simp, ?_⟩
    rw [← hstatus]
    unfold exit_status
    rw [hmode, if_neg (by decide), hknown, if_pos rfl]
    rfl
  induction reports with
  | nil =>
    intro c command h _ hrun
    by_cases hcount : c.tracees.count = 0
    · exact hend [] h hcount hrun
    · rw [trace_rounds, exec_bind_of_ok (exec_get c), if_neg hcount] at hrun
      simp at hrun
  | cons report reports ih =>
    intro c command h hquiet hrun
    by_cases hcount : c.tracees.count = 0
    · exact hend (report :: reports) h hcount hrun
    · have hrounds := hrun
      rw [trace_rounds, exec_bind_of_ok (exec_get c), if_neg hcount, exec_bind] at hrounds
      have hagain : Holds (loop_round config env report) c (fun result _ => result = .again)
          (fun _ _ => True) := loop_round_again (hquiet report (by simp))
      rcases hround : (loop_round config env report).exec c with ⟨_ | result, c₁⟩
      · rw [hround] at hrounds
        simp at hrounds
      · have hresult : result = .again := hagain.of_ok hround
        rw [hresult] at hround
        rw [hround] at hrounds
        obtain ⟨h₁, hobserved, hstatus⟩ := h.step hround
        have hstep : (loop_step config env c report).1 = c₁ := by
          unfold loop_step
          rw [if_neg hcount, hround]
        obtain ⟨hfirst, hsome, hlast⟩ := ih h₁ (fun other hother => hquiet other (by simp [hother])) hrounds
        rw [List.foldl_cons, root_exits, hstep]
        refine ⟨?_, hsome, ?_⟩
        · rw [hfirst, hobserved]
          cases report.root_exit c <;> cases command.status <;> simp
        · rw [hlast, hstatus]
          cases report.root_exit c with
          | none => rfl
          | some code => simp [List.getLast?_cons]

/-- **The exit status.**  When the loop over the reports of a launched command ends, with no
    task left and no shutdown, its status is the one in the first exit reported for the
    command exactly when the last exit that the loop takes for the root's has the status of
    the first. -/
theorem command_status_iff (hmode : config.mode = .SG_RUN_LAUNCH) {child : Pid}
    (hstart : c.JustLaunched child) {reports : List Report}
    (hquiet : ∀ report ∈ reports, report.shutdown_signal = 0) {status : Int}
    (hrun : (trace_rounds config env reports).exec c = (.ok (some status), c')) :
    first_exit child reports = some status ↔
      (root_exits config env c reports).getLast? = (root_exits config env c reports).head? := by
  have hfollows : Follows ⟨child, none⟩ c := by
    refine ⟨fun _ => ⟨hstart.root_tid, hstart.unknown, ?_⟩, fun h => absurd rfl h⟩
    rw [Context.registry_ne_none]
    exact (hstart.table child).mpr rfl
  obtain ⟨hfirst, hsome, hlast⟩ := hfollows.run hmode hquiet hrun
  have hfirst : first_exit child reports = (root_exits config env c reports).head? := hfirst
  have hsome : first_exit child reports ≠ none := hsome
  rw [hfirst] at hsome ⊢
  cases hexits : root_exits config env c reports with
  | nil =>
    rw [hexits] at hsome
    exact absurd rfl hsome
  | cons first rest =>
    rw [hexits, List.getLast?_cons] at hlast
    rw [hlast, List.getLast?_cons]
    simp [eq_comm]

/-- The child is the root, and nothing is known about its status. -/
theorem launch_root_root (child : Pid) :
    Holds (launch_root env child) c (fun _ c' => c'.root = { c.root with tid := child })
      (fun _ c' => c'.root = { c.root with tid := child }) := by
  unfold launch_root
  simp only [holds_bind, holds_modify, holds_get, Tracees.get_eq]
  apply (add_tracee_spec child child false false).mono
  · intro _ c₁ hpost
    rcases hpost with ⟨_, _, hreg⟩
    have h₁ : c₁.root = { c.root with tid := child } := root_of_rest hreg.rest
    cases c₁.tracees.lookup child with
    | none => exact h₁
    | some root => exact h₁
  · intro _ c₁ hpost
    rcases hpost with ⟨hsame, _⟩
    exact root_of_rest hsame.rest

theorem resume_root_grows (answer : RestartAnswer) :
    Holds (resume_root config env answer) c (fun _ c' => Grows c [] c')
      (fun _ c' => Grows c [] c') := by
  unfold resume_root
  cases config.mode with
  | SG_RUN_ATTACH => exact .refl c
  | SG_RUN_LAUNCH =>
    simp only [holds_bind, holds_get, Tracees.get_eq]
    cases c.tracees.lookup c.root_tid with
    | none => exact .refl c
    | some root =>
      have h₀ : Grows c [] { c with
          requests := c.requests ++ [⟨resume_request config root, root.tid, 0⟩] } := .of_eq rfl rfl
      unfold resume_tracee
      simp only [holds_bind, holds_measured_ptrace, holds_ite, holds_store, holds_throw]
      exact ⟨fun _ => h₀.store, fun _ => h₀⟩

/-- A launched command is the only task when the loop starts. -/
theorem started_just_launched (hmode : config.mode = .SG_RUN_LAUNCH) {child : Pid}
    (hchild : 0 < child) : (Context.started config child).JustLaunched child := by
  have hlaunched : (Context.launched child).root = ⟨child, 0, false⟩ := by
    have h : Holds (launch_root .reliable child) .init
        (fun _ c => c.root = { Context.init.root with tid := child })
        (fun _ c => c.root = { Context.init.root with tid := child }) := launch_root_root child
    exact h.at_end
  have hroot : (Context.started config child).root = ⟨child, 0, false⟩ := by
    rw [← hlaunched]
    have h : Holds (resume_root config .reliable .ok) (.launched child)
        (fun _ c' => Grows (.launched child) [] c') (fun _ c' => Grows (.launched child) [] c') :=
      resume_root_grows .ok
    exact h.at_end.root
  refine ⟨congrArg Root.tid hroot, congrArg Root.known hroot, fun tid => ?_⟩
  rw [(started_spec hmode hchild).1]
  split
  · rename_i htid
    exact ⟨fun _ => htid, fun _ => rfl⟩
  · rename_i htid
    exact ⟨fun h => by simp at h, fun h => absurd h htid⟩

end status

/-! ### Runs -/

/-- The command forks `101` and exits with 0; then `101` forks a task that gets the TID of
    the command, or another one, and exits with 7. -/
def reused_reports (tid : Nat) : List Report :=
  let fork (parent : Pid) (child : Nat) : Report :=
    ⟨.status parent (.stopped SIGTRAP PTRACE_EVENT_FORK) (.plain (some child)), 0⟩
  let stop (tid : Pid) : Report := ⟨.status tid (.stopped SIGSTOP 0) (.plain none), 0⟩
  let exit (tid : Pid) (code : Int) : Report := ⟨.status tid (.exited code) (.plain none), 0⟩
  [fork 100 101, stop 101, exit 100 0, fork 101 tid, stop tid, exit tid 7, exit 101 0]

/-- Another TID: the status is the command's. -/
theorem command_status_fresh :
    ∃ c, (trace_rounds .following .reliable (reused_reports 102)).exec (.started .following 100) =
        (.ok (some 0), c) ∧ first_exit 100 (reused_reports 102) = some 0 := by
  have hresult : ((trace_rounds .following .reliable (reused_reports 102)).exec
      (.started .following 100)).1 = .ok (some 0) := by decide +kernel
  rcases hrun : (trace_rounds .following .reliable (reused_reports 102)).exec
    (.started .following 100) with ⟨result, c⟩
  rw [hrun] at hresult
  have hresult : result = .ok (some 0) := hresult
  rw [hresult] at hrun
  refine ⟨c, by rw [hresult], (command_status_iff rfl (started_just_launched rfl (by decide))
    (by decide) hrun).mpr (by decide +kernel)⟩

/-- The TID of the command: the status is that of the task that got it. -/
theorem command_status_reused :
    (∀ report ∈ reused_reports 100, report.shutdown_signal = 0) ∧
      ((trace_loop .following .reliable .ok (reused_reports 100)).exec (.launched 100)).1 =
        .ok (some 7) ∧
      first_exit 100 (reused_reports 100) = some 0 :=
  ⟨by decide, by decide +kernel, by decide⟩

end Sysgaze
