import Sysgaze.Attaching

/-! # Group-stops

    A task that has entered a group-stop stays stopped until the kernel reports
    something else of it, provided that the loop does not restart it.  In attach
    mode the loop only listens to it (`group_stops_preserved`): every task has
    been seized, and a round restarts no task but the one that is reported.

    In launch mode tasks are not seized, and cannot be listened to: a task in a
    group-stop is restarted like any other (`group_stop_restarted`).
-/

open Fallible Stepping

namespace Sysgaze

/-! ### Stops -/

section stops
variable {config : Config} {env : Env} {c c' : Context} {tracee : Tracee}

theorem write_stamped_quiet (data : EventData) :
    Holds (write_stamped config env tracee data) c (fun _ c' => Quiet config c c')
      (fun _ c' => Quiet config c c') := by
  apply (write_stamped_spec tracee data).mono
  · intro _ c' hpost
    rcases hpost with ⟨_, _, _, hw⟩
    exact hw.quiet
  · intro _ c' hpost
    rcases hpost with ⟨_, _, hb⟩
    exact hb.quiet

theorem handle_exec_event_quiet (hold : c.tracees.lookup tracee.tid = some tracee) :
    Holds (handle_exec_event config env tracee) c (fun _ c' => Quiet config c c')
      (fun _ c' => Quiet config c c') := by
  have h₀ : Quiet config c (c.exec_observed tracee) :=
    .of_eq (c.exec_observed_tracees tracee) (c.exec_observed_requests tracee)
  have hold₀ : (c.exec_observed tracee).tracees.lookup tracee.tid = some tracee := by
    rw [Context.exec_observed_tracees]
    exact hold
  rw [holds_handle_exec_event]
  constructor
  · intro _
    apply (complete_exec_spec hold₀).mono
    · intro mid c₁ hpost
      rcases hpost with ⟨exited_at, events, _, hmid, hu⟩
      have hsame : mid.attached = tracee.attached := by rw [hmid]
      exact (h₀.trans (hu.frame hold₀ (by rw [hmid]; rfl)).quiet).store hold hsame
    · intro _ c₁ hpost
      rcases hpost with ⟨events, _, hf⟩
      exact h₀.trans hf.toFrame.quiet
  · intro _
    exact h₀.store hold rfl

theorem handle_child_event_quiet (hold : c.tracees.lookup tracee.tid = some tracee)
    (ptrace_event : Nat) (answers : Answers) :
    Holds (handle_child_event config env tracee ptrace_event answers) c
      (fun _ c' => Quiet config c c') (fun _ c' => Quiet config c c') := by
  have h₀ : Quiet config c (c.asking .PTRACE_GETEVENTMSG tracee.tid) := .asking rfl
  unfold handle_child_event
  rw [holds_bind, holds_measured_ptrace]
  show Holds _ (c.asking .PTRACE_GETEVENTMSG tracee.tid) _ _
  simp only [holds_ite, holds_throw, holds_bind, holds_onError]
  refine ⟨fun _ => h₀, fun _ => ?_⟩
  apply (add_tracee_spec _ _ _ _).mono
  · intro _ c₁ hpost
    rcases hpost with ⟨_, _, hreg⟩
    -- The child inherits the flag.
    have h₁ : Quiet config c c₁ := h₀.trans (hreg.quiet fun _ hseized => hseized _ _ hold)
    simp only [holds_get, Tracees.get_eq]
    cases c₁.tracees.lookup tracee.tid with
    | none => exact h₁
    | some parent =>
      apply (write_stamped_quiet _).mono
      · intro _ c₂ h₂
        exact h₁.trans h₂
      · intro _ c₂ h₂
        exact h₁.trans h₂
  · intro _ c₁ hpost
    rcases hpost with ⟨hsame, _⟩
    have h₁ : Quiet config c c₁ := h₀.trans hsame.quiet
    unfold Context.abandon_child
    split
    · refine ⟨Eq.trans ?_ h₁.restarts, h₁.seized⟩
      show (c₁.requests ++ [_]).filter Request.is_restart = _
      rw [List.filter_append, List.filter_cons_of_neg (by simp [Request.is_restart]), List.filter_nil,
        List.append_nil]
      rfl
    · exact ⟨h₁.restarts, h₁.seized⟩

/-- The flag of a result says whether the task is listened to. -/
theorem handle_signal_stop_quiet (hold : c.tracees.lookup tracee.tid = some tracee) (stop : Int)
    (answer : SigInfoAnswer) :
    Holds (handle_signal_stop config env tracee stop answer) c
      (fun result c' => Quiet config c c' ∧
        result.2 = (answer = .einval && is_stopping_signal stop && tracee.attached))
      (fun _ c' => Quiet config c c' ∧ ¬(answer = .einval ∧ is_stopping_signal stop = true)) := by
  have h₀ : Quiet config c (c.asking .PTRACE_GETSIGINFO tracee.tid) := .asking rfl
  unfold handle_signal_stop
  rw [holds_bind, holds_measured_ptrace]
  show Holds _ (c.asking .PTRACE_GETSIGINFO tracee.tid) _ _
  cases answer with
  | ok signal_info =>
    have hstored := h₀.store (t := { tracee with newborn := false, pending_signal := stop }) hold rfl
    simp only [holds_bind, holds_store, holds_pure]
    apply (write_stamped_quiet _).mono
    · intro _ c₁ h₁
      exact ⟨hstored.trans h₁, rfl⟩
    · intro _ c₁ h₁
      exact ⟨hstored.trans h₁, by simp⟩
  | einval =>
    simp only [holds_ite, holds_bind, holds_store, holds_pure, holds_throw]
    constructor
    · intro hstopping
      exact ⟨h₀.store hold rfl, by simp [hstopping]⟩
    · intro hstopping
      exact ⟨h₀, by simp [hstopping]⟩
  | failed => exact ⟨h₀, by simp⟩

end stops

/-- The stop is a group-stop: the kernel says so by `PTRACE_EVENT_STOP`, or by having no
    information about the signal.  The first `SIGSTOP` of a newborn is none. -/
def GroupStopped (newborn : Bool) (stop : Int) (ptrace_event : Nat) (answer : SigInfoAnswer) :
    Prop :=
  stop ≠ SYSCALL_STOP ∧
    ((ptrace_event = PTRACE_EVENT_STOP ∧ stop ≠ SIGTRAP) ∨
      (ptrace_event = 0 ∧ (newborn && stop = SIGSTOP) = false ∧ answer = .einval ∧
        is_stopping_signal stop = true))

instance (newborn : Bool) (stop : Int) (ptrace_event : Nat) (answer : SigInfoAnswer) :
    Decidable (GroupStopped newborn stop ptrace_event answer) :=
  inferInstanceAs (Decidable (_ ∧ _))

/-- The report tells something about the task. -/
def Report.tells (report : Report) (tid : Pid) : Prop :=
  ∃ status answers, report.waited = .status tid status answers

/-- The task has entered a group-stop; one that is not known is taken for a newborn. -/
def Report.group_stop (registry : Registry) (report : Report) (tid : Pid) : Prop :=
  ∃ stop ptrace_event answers, report.waited = .status tid (.stopped stop ptrace_event) answers ∧
    GroupStopped ((registry tid).getD true) stop ptrace_event answers.signal_info

/-- From `c` to `c'` no task has been restarted but those about which the report tells
    something, and in attach mode every task is still seized. -/
structure Restarts (config : Config) (c : Context) (report : Report) (c' : Context) : Prop where
  seized : config.mode = .SG_RUN_ATTACH → AllSeized c.tracees → AllSeized c'.tracees
  added : ∃ added, c'.restarts = c.restarts ++ added ∧ ∀ request ∈ added, report.tells request.tid

section rounds
variable {config : Config} {env : Env} {c c' c'' : Context} {tracee : Tracee} {report : Report}
  {tid : Pid}

/-- **A stop** is answered by listening to a task that has been seized if it is a group-stop,
    and such a stop is handled without an error. -/
theorem handle_stop_quiet (hold : c.tracees.lookup tracee.tid = some tracee) (stop : Int)
    (ptrace_event : Nat) (answers : Answers) :
    Holds (handle_stop config env tracee stop ptrace_event answers) c
      (fun result c' => Quiet config c c' ∧
        (GroupStopped tracee.newborn stop ptrace_event answers.signal_info →
          result.2 = tracee.attached))
      (fun _ c' => Quiet config c c' ∧
        ¬GroupStopped tracee.newborn stop ptrace_event answers.signal_info) := by
  have hasked : ∀ {c' : Context}, Frame (c.asking .PTRACE_GET_SYSCALL_INFO tracee.tid) tracee.tid c' →
      Quiet config c c' := by
    intro c' hframe
    have h₀ : Quiet config c (c.asking .PTRACE_GET_SYSCALL_INFO tracee.tid) := .asking rfl
    exact h₀.trans hframe.quiet
  unfold handle_stop
  by_cases hsyscall : stop = SYSCALL_STOP
  · have hno : ¬GroupStopped tracee.newborn stop ptrace_event answers.signal_info :=
      fun h => h.1 hsyscall
    rw [if_pos hsyscall, holds_bind]
    apply (handle_syscall_stop_frame hold _).mono
    · intro _ _ h
      exact ⟨hasked h, fun hgroup => absurd hgroup hno⟩
    · intro _ _ h
      exact ⟨hasked h, hno⟩
  rw [if_neg hsyscall]
  by_cases hevent : ptrace_event = PTRACE_EVENT_STOP
  · rw [if_pos hevent]
    by_cases htrap : stop = SIGTRAP
    · rw [if_neg (not_not.mpr htrap)]
      refine ⟨(Quiet.refl c).store hold rfl, fun hgroup => ?_⟩
      obtain ⟨_, hstop | ⟨hnone, _⟩⟩ := hgroup
      · exact absurd htrap hstop.2
      · rw [hevent] at hnone
        exact absurd hnone (by decide)
    · rw [if_pos htrap]
      exact ⟨(Quiet.refl c).store hold rfl, fun _ => rfl⟩
  rw [if_neg hevent]
  by_cases hzero : ptrace_event = 0
  · rw [if_neg (not_not.mpr hzero)]
    by_cases hnewborn : (tracee.newborn && decide (stop = SIGSTOP)) = true
    · rw [if_pos hnewborn]
      refine ⟨(Quiet.refl c).store hold rfl, fun hgroup => ?_⟩
      obtain ⟨_, hstop | ⟨_, hnot, _⟩⟩ := hgroup
      · exact absurd hstop.1 hevent
      · rw [hnewborn] at hnot
        exact absurd hnot (by decide)
    · rw [if_neg hnewborn]
      have hroute : GroupStopped tracee.newborn stop ptrace_event answers.signal_info →
          answers.signal_info = .einval ∧ is_stopping_signal stop = true := by
        rintro ⟨_, hstop | ⟨_, _, heinval, hstopping⟩⟩
        · exact absurd hstop.1 hevent
        · exact ⟨heinval, hstopping⟩
      apply (handle_signal_stop_quiet hold stop answers.signal_info).mono
      · intro result c' hpost
        rcases hpost with ⟨h, hlisten⟩
        refine ⟨h, fun hgroup => ?_⟩
        obtain ⟨heinval, hstopping⟩ := hroute hgroup
        rw [hlisten, heinval, hstopping]
        rfl
      · intro _ c' hpost
        rcases hpost with ⟨h, hno⟩
        exact ⟨h, fun hgroup => hno (hroute hgroup)⟩
  · -- Another event is no group-stop.
    have hno : ¬GroupStopped tracee.newborn stop ptrace_event answers.signal_info := by
      rintro ⟨_, hstop | hnone⟩
      · exact hevent hstop.1
      · exact hzero hnone.1
    have hboth : Holds (handle_ptrace_event config env tracee ptrace_event answers) c
        (fun _ c' => Quiet config c c') (fun _ c' => Quiet config c c') := by
      unfold handle_ptrace_event
      split
      · apply (handle_seccomp_stop_frame hold _).mono
        · intro _ _ h
          exact hasked h
        · intro _ _ h
          exact hasked h
      · split
        · exact handle_exec_event_quiet hold
        · split
          · exact .refl c
          · exact handle_child_event_quiet hold ptrace_event answers
    rw [if_pos hzero, holds_bind]
    apply hboth.mono
    · intro _ _ h
      exact ⟨h, fun hgroup => absurd hgroup hno⟩
    · intro _ _ h
      exact ⟨h, hno⟩

/-- The one restart of a round, whether it succeeds or not. -/
theorem restart_tracee_asks (hold : c.tracees.lookup tracee.tid = some tracee) (signal : Int)
    (listen : Bool) (answer : RestartAnswer) :
    let asked : Context → Prop := fun c' =>
      c'.restarts = c.restarts ++ [restart_request config tracee signal listen] ∧
        (AllSeized c.tracees → AllSeized c'.tracees)
    Holds (restart_tracee config env tracee.tid signal listen answer) c
      (fun _ c' => asked c') (fun _ c' => asked c') := by
  intro asked
  have hasked : ∀ known, c.tracees.lookup tracee.tid = some known →
      asked (c.asked_restart config known signal listen) := by
    intro known hknown
    obtain rfl : tracee = known := Option.some.inj (hold.symm.trans hknown)
    exact ⟨c.asked_restart_restarts config tracee signal listen, fun h => h⟩
  apply holds_restart_tracee
  · intro hunknown
    rw [hold] at hunknown
    cases hunknown
  · intro known hknown _
    have h₁ := hasked known hknown
    refine ⟨h₁.1, fun hseized => (h₁.2 hseized).write ?_⟩
    exact hseized tracee.tid known hknown
  · intro known hknown _
    exact hasked known hknown
  · intro known hknown _
    exact hasked known hknown

/-! ### Rounds -/

theorem migrate_exec_tid_quiet (waited former : Pid) :
    Holds (migrate_exec_tid config env waited former) c (fun _ c' => Quiet config c c')
      (fun _ c' => Quiet config c c') := by
  apply holds_migrate_exec_tid
  · intro _
    exact .refl c
  · intro source dropped _ hd _ hsource
    have h₀ : Quiet config c dropped := hd.quiet
    obtain ⟨tid, hold⟩ : ∃ tid, c.tracees.lookup tid = some source := by
      obtain h | ⟨_, h⟩ := hsource
      · exact ⟨_, h⟩
      · exact ⟨_, h⟩
    unfold migrate_source
    simp only [holds_bind, holds_onError, holds_store, holds_zoom, holds_modify]
    apply (add_tracee_spec waited waited source.attached false).mono
    · intro _ c₁ hpost
      rcases hpost with ⟨_, _, hreg⟩
      -- The task keeps the flag under its new TID.
      have h₁ : Quiet config c c₁ := by
        refine ⟨(restarts_of_requests (requests_of_rest hreg.rest)).trans h₀.restarts, ?_⟩
        intro hmode hseized
        exact (h₀.seized hmode hseized).registers hreg (hseized tid source hold)
      have h₂ := h₁.store (t := source.renamed waited) hold rfl
      apply (sg_output_migrate_tid_spec former waited).mono
      · intro _ o _
        split
        · exact ⟨h₂.restarts, h₂.seized⟩
        · exact ⟨h₂.restarts, h₂.seized⟩
      · intro _ _ h
        exact h
    · intro _ c₁ hpost
      rcases hpost with ⟨hsame, _⟩
      have h₁ := h₀.trans hsame.quiet
      exact ⟨h₁.restarts, h₁.seized⟩
  · intro dropped _ hd _ _ _
    have h₀ : Quiet config c dropped := hd.quiet
    simp only [holds_bind, holds_zoom]
    apply (add_tracee_spec waited waited _ false).mono
    · intro _ c₁ hpost
      rcases hpost with ⟨_, _, hreg⟩
      have h₁ : Quiet config c c₁ := h₀.trans (hreg.quiet fun hmode _ => decide_eq_true hmode)
      apply (sg_output_migrate_tid_spec former waited).mono
      · intro _ o _
        exact ⟨h₁.restarts, h₁.seized⟩
      · intro _ _ h
        exact h
    · intro _ c₁ hpost
      rcases hpost with ⟨hsame, _⟩
      exact h₀.trans hsame.quiet

theorem observe_exec_quiet (waited : Pid) (status : WaitStatus) (answers : Answers) :
    Holds (observe_exec config env waited status answers) c (fun _ c' => Quiet config c c')
      (fun _ c' => Quiet config c c') := by
  unfold observe_exec
  cases status with
  | stopped stop ptrace_event =>
    simp only [holds_ite, holds_bind, holds_measured_ptrace, holds_pure]
    refine ⟨fun _ => ?_, fun _ => .refl c⟩
    have h₀ : Quiet config c (c.asking .PTRACE_GETEVENTMSG waited) := .asking rfl
    show Holds _ (c.asking .PTRACE_GETEVENTMSG waited) _ _
    cases answers.eventmsg with
    | none => exact h₀
    | some former =>
      simp only [holds_ite, holds_throw]
      refine ⟨fun _ => h₀, fun _ => ?_⟩
      apply (migrate_exec_tid_quiet waited former).mono
      · intro _ _ h
        exact h₀.trans h
      · intro _ _ h
        exact h₀.trans h
  | exited _ => exact .refl c
  | signaled _ => exact .refl c
  | continued => exact .refl c

theorem find_tracee_quiet (waited : Pid) (status : WaitStatus) (answers : Answers) :
    Holds (find_tracee config env waited status answers) c
      (fun found c' => found = c'.tracees.lookup waited ∧ Quiet config c c')
      (fun _ c' => c.registry waited = none ∧ Quiet config c c') := by
  unfold find_tracee
  rw [holds_bind, holds_get, Tracees.get_eq]
  cases hknown : c.tracees.lookup waited with
  | some tracee => exact ⟨hknown.symm, .refl c⟩
  | none =>
    cases status with
    | stopped stop ptrace_event =>
      simp only [holds_ite, holds_bind, holds_pure]
      refine ⟨fun _ => ?_, fun _ => ⟨hknown.symm, .refl c⟩⟩
      apply (add_tracee_spec waited _ _ true).mono
      · intro _ c' hpost
        rcases hpost with ⟨_, _, hreg⟩
        rw [holds_get, Tracees.get_eq]
        exact ⟨rfl, hreg.quiet fun hmode _ => decide_eq_true hmode⟩
      · intro _ c' hpost
        rcases hpost with ⟨hsame, _⟩
        exact ⟨Context.registry_none.mpr hknown, hsame.quiet⟩
    | exited _ => exact ⟨hknown.symm, .refl c⟩
    | signaled _ => exact ⟨hknown.symm, .refl c⟩
    | continued => exact ⟨hknown.symm, .refl c⟩

theorem handle_exit_quiet (hold : c.tracees.lookup tracee.tid = some tracee) (waited : Pid)
    (status : WaitStatus) :
    Holds (handle_exit config env tracee waited status) c (fun _ c' => Quiet config c c')
      (fun _ c' => Quiet config c c') := by
  have h₀ : Quiet config c { c with
      tracees := c.tracees.write { tracee with phase := .SG_TRACEE_GONE } } :=
    (Quiet.refl c).store hold rfl
  apply holds_handle_exit fun c' => Quiet config c c'
  · exact fun _ => h₀
  · apply holds_report_exit
    · intro exit
      apply (write_stamped_quiet _).mono
      · intro _ _ h
        exact h₀.trans h
      · intro _ _ h
        exact h₀.trans h
    · exact h₀
  · intro c₁ c₂ c₃ h₁ htracees hrequests _ hd
    exact (h₁.trans (.of_eq htracees hrequests)).trans hd.quiet

theorem Quiet.asks (h : Quiet config c c') : Restarts config c report c' :=
  ⟨h.seized, [], by rw [h.restarts, List.append_nil], by simp⟩

/-- The end of a round restarts the task that is reported. -/
theorem Quiet.then_restart {waited : Pid} {status : WaitStatus} {answers : Answers}
    {shutdown_signal : Int} (h : Quiet config c c') (signal : Int) (listen : Bool)
    (answer : RestartAnswer) :
    Holds (restart_tracee config env waited signal listen answer) c'
      (fun _ c'' => Restarts config c ⟨.status waited status answers, shutdown_signal⟩ c'')
      (fun _ c'' => Restarts config c ⟨.status waited status answers, shutdown_signal⟩ c'') := by
  cases hknown : c'.tracees.lookup waited with
  | none =>
    unfold restart_tracee
    rw [holds_bind, holds_get, Tracees.get_eq, hknown]
    exact h.asks
  | some tracee =>
    have htid : tracee.tid = waited := Tracees.lookup_tid hknown
    subst htid
    have hasked : ∀ {c'' : Context}, c''.restarts = c'.restarts ++
        [restart_request config tracee signal listen] ∧
          (AllSeized c'.tracees → AllSeized c''.tracees) →
        Restarts config c ⟨.status tracee.tid status answers, shutdown_signal⟩ c'' := by
      intro c'' hpost
      rcases hpost with ⟨hrestarts, hseized⟩
      refine ⟨fun hmode hall => hseized (h.seized hmode hall),
        [restart_request config tracee signal listen], ?_, ?_⟩
      · rw [hrestarts, h.restarts]
      · intro request hrequest
        rw [List.mem_singleton.mp hrequest, restart_request_tid]
        exact ⟨_, _, rfl⟩
    apply (restart_tracee_asks hknown signal listen answer).mono
    · intro _ _ hrestarted
      exact hasked hrestarted
    · intro _ _ hrestarted
      exact hasked hrestarted

/-- **A round** restarts no task but the one that is reported. -/
theorem handle_status_restarts (waited : Pid) (status : WaitStatus) (answers : Answers)
    (shutdown_signal : Int) :
    Holds (handle_status config env waited status answers shutdown_signal) c
      (fun _ c' => Restarts config c ⟨.status waited status answers, shutdown_signal⟩ c')
      (fun _ c' => Restarts config c ⟨.status waited status answers, shutdown_signal⟩ c') := by
  unfold handle_status
  rw [holds_bind]
  apply (observe_exec_quiet waited status answers).mono
  · intro _ c₁ h₁
    rw [holds_bind]
    apply (find_tracee_quiet waited status answers).mono
    · intro found c₂ hpost
      rcases hpost with ⟨hfound, h₂⟩
      have h : Quiet config c c₂ := h₁.trans h₂
      rw [hfound]
      cases hknown : c₂.tracees.lookup waited with
      | none => exact h.asks
      | some tracee =>
        have htid : tracee.tid = waited := Tracees.lookup_tid hknown
        subst htid
        have hexit : Holds (do
            handle_exit config env tracee tracee.tid status
            pure RoundEnd.again) c₂
            (fun _ c' => Restarts config c ⟨.status tracee.tid status answers, shutdown_signal⟩ c')
            (fun _ c' =>
              Restarts config c ⟨.status tracee.tid status answers, shutdown_signal⟩ c') := by
          rw [holds_bind]
          apply (handle_exit_quiet hknown tracee.tid status).mono
          · intro _ _ h₃
            exact (h.trans h₃).asks
          · intro _ _ h₃
            exact (h.trans h₃).asks
        cases status with
        | exited code => exact hexit
        | signaled signal => exact hexit
        | continued =>
          have hsame : Quiet config c₂ c₂ := .refl c₂
          have hstored := hsame.store
            (t := { tracee with phase := .SG_TRACEE_RUNNING, in_ptrace_stop := false }) hknown rfl
          exact (h.trans hstored).asks
        | stopped stop ptrace_event =>
          let stopped : Tracee :=
            { tracee with in_ptrace_stop := true, phase := .SG_TRACEE_STOPPED }
          have hold : (c₂.tracees.write stopped).lookup stopped.tid = some stopped := by
            rw [Tracees.lookup_write]
            exact if_pos ⟨rfl, by
              show (c₂.tracees.lookup tracee.tid).isSome = true
              rw [hknown]
              rfl⟩
          have h₃ : Quiet config c { c₂ with tracees := c₂.tracees.write stopped } :=
            h.trans ((Quiet.refl c₂).store hknown rfl)
          simp only [holds_bind, holds_store, holds_pure]
          apply (handle_stop_quiet hold stop ptrace_event answers).mono
          · intro result c₄ hpost
            rcases hpost with ⟨h₄, _⟩
            have h' : Quiet config c c₄ := h₃.trans h₄
            exact h'.then_restart _ _ _
          · intro _ c₄ hpost
            rcases hpost with ⟨h₄, _⟩
            exact (h₃.trans h₄).asks
    · intro _ c₂ hpost
      rcases hpost with ⟨_, h₂⟩
      exact (h₁.trans h₂).asks
  · intro _ c₁ h₁
    exact h₁.asks

theorem loop_round_restarts (report : Report) :
    Holds (loop_round config env report) c (fun _ c' => Restarts config c report c')
      (fun _ c' => Restarts config c report c') := by
  obtain ⟨waited, shutdown_signal⟩ := report
  unfold loop_round
  cases waited with
  | eintr => exact (Quiet.refl c).asks
  | failed => exact (Quiet.refl c).asks
  | status waited status answers =>
    exact handle_status_restarts waited status answers shutdown_signal

/-- From `c` to `c'` the task has been listened to, but not restarted; it may not have been known
    before. -/
def Listens (c : Context) (tid : Pid) (c' : Context) : Prop :=
  c'.restarts = c.restarts ++ [⟨.PTRACE_LISTEN, tid, 0⟩] ∨
    c.registry tid = none ∧ c'.restarts = c.restarts

/-- **The round** of a group-stop listens to the task. -/
theorem group_round_listens (hmode : config.mode = .SG_RUN_ATTACH) (hseized : AllSeized c.tracees)
    (hgroup : report.group_stop c.registry tid) :
    Holds (loop_round config env report) c (fun _ c' => Listens c tid c')
      (fun _ c' => Listens c tid c') := by
  obtain ⟨stop, ptrace_event, answers, hwaited, hgroup⟩ := hgroup
  have hnone : ∀ {c' : Context}, c.registry tid = none → Quiet config c c' → Listens c tid c' :=
    fun hnone h => Or.inr ⟨hnone, h.restarts⟩
  -- The event is not that of an exec.
  have hexec : ptrace_event ≠ PTRACE_EVENT_EXEC := by
    rintro rfl
    obtain ⟨_, h | h⟩ := hgroup
    · exact absurd h.1 (by decide)
    · exact absurd h.1 (by decide)
  unfold loop_round
  rw [hwaited]
  show Holds (handle_status config env tid (.stopped stop ptrace_event) answers _) c _ _
  unfold handle_status
  have hobserve : observe_exec config env tid (.stopped stop ptrace_event) answers = pure () :=
    if_neg hexec
  rw [hobserve, holds_bind, holds_pure, holds_bind]
  apply ((find_tracee_quiet tid (.stopped stop ptrace_event) answers).and
    ((find_tracee_moves tid stop ptrace_event answers).mono (fun _ _ h => h.2.registry)
      fun _ _ _ => trivial)).mono
  · intro found c₁ hpost
    rcases hpost with ⟨⟨hfound, h₁⟩, hregistry⟩
    rw [hfound]
    cases hknown : c₁.tracees.lookup tid with
    | none =>
      refine hnone ?_ h₁
      have hnow : c₁.registry tid = none := Context.registry_none.mpr hknown
      rw [hregistry] at hnow
      split at hnow
      · unfold Registry.register at hnow
        split at hnow
        · assumption
        · exact hnow
      · exact hnow
    | some tracee =>
      have htid : tracee.tid = tid := Tracees.lookup_tid hknown
      subst htid
      have hflag : (c.registry tracee.tid).getD true = tracee.newborn := by
        have hnow : c₁.registry tracee.tid = some tracee.newborn := Context.registry_eq hknown
        rw [hregistry] at hnow
        split at hnow
        · unfold Registry.register at hnow
          split at hnow
          · rename_i hfresh
            rw [hfresh]
            rw [Registry.set_same] at hnow
            exact Option.some.inj hnow
          · rw [hnow]
            rfl
        · rw [hnow]
          rfl
      rw [hflag] at hgroup
      let stopped : Tracee := { tracee with in_ptrace_stop := true, phase := .SG_TRACEE_STOPPED }
      let c₂ : Context := { c₁ with tracees := c₁.tracees.write stopped }
      have hold : c₂.tracees.lookup stopped.tid = some stopped := by
        show (c₁.tracees.write stopped).lookup stopped.tid = _
        rw [Tracees.lookup_write]
        exact if_pos ⟨rfl, by
          show (c₁.tracees.lookup tracee.tid).isSome = true
          rw [hknown]
          rfl⟩
      have h₂ : Quiet config c c₂ := h₁.trans ((Quiet.refl c₁).store hknown rfl)
      have hattached : stopped.attached = true := h₁.seized hmode hseized tracee.tid tracee hknown
      simp only [holds_bind, holds_store, holds_pure]
      show Holds (handle_stop config env stopped stop ptrace_event answers) c₂ _ _
      apply ((handle_stop_quiet hold stop ptrace_event answers).and
        ((handle_stop_moves hold stop ptrace_event answers).mono
          (fun _ _ h => h.1.2.2.registry) fun _ _ _ => trivial)).mono
      · intro result c₃ hpost
        rcases hpost with ⟨⟨h₃, hlisten⟩, hregistry₃⟩
        have hleft : c₃.registry tracee.tid ≠ none := by
          rw [hregistry₃]
          apply Registry.stopped_ne_none
          rw [Context.registry_ne_none]
          rw [show c₂.tracees.lookup tracee.tid = some stopped from hold]
          rfl
        obtain ⟨left, hleft⟩ := Option.isSome_iff_exists.mp (Context.registry_ne_none.mp hleft)
        have htid : left.tid = tracee.tid := Tracees.lookup_tid hleft
        have hresult : result.2 = true := (hlisten hgroup).trans hattached
        have hasked : ∀ {c' : Context}, c'.restarts = c₃.restarts ++
            [restart_request config left result.1 result.2] → Listens c tracee.tid c' := by
          intro c' hrestarts
          left
          rw [hrestarts, (h₂.trans h₃).restarts, hresult, ← htid]
          rfl
        rw [← htid] at hleft
        show Holds (restart_tracee config env tracee.tid result.1 result.2 answers.restart) c₃ _ _
        rw [← htid]
        apply (restart_tracee_asks hleft result.1 result.2 answers.restart).mono
        · intro _ _ h
          rw [htid]
          exact hasked h.1
        · intro _ _ h
          rw [htid]
          exact hasked h.1
      · intro _ c₃ hpost
        rcases hpost with ⟨⟨_, hno⟩, _⟩
        exact absurd hgroup hno
  · intro _ c₁ hpost
    rcases hpost with ⟨⟨hunknown, h₁⟩, _⟩
    exact hnone hunknown h₁

/-! ### Runs -/

/-- A task about which no report tells anything is not restarted, however the loop goes on. -/
theorem trace_rounds_restarts (reports : List Report)
    (hquiet : ∀ report ∈ reports, ¬report.tells tid) : ∀ c : Context,
    let others : Context → Prop := fun c' =>
      ∃ added, c'.restarts = c.restarts ++ added ∧ ∀ request ∈ added, request.tid ≠ tid
    Holds (trace_rounds config env reports) c (fun _ c' => others c') (fun _ c' => others c') := by
  induction reports with
  | nil =>
    intro c others
    rw [trace_rounds, holds_bind, holds_get, holds_pure]
    exact ⟨[], (List.append_nil _).symm, by simp⟩
  | cons report reports ih =>
    intro c others
    have hreport : ¬report.tells tid := hquiet report (List.mem_cons_self ..)
    have hround : ∀ {c' : Context}, Restarts config c report c' → others c' := by
      intro c' hpost
      rcases hpost with ⟨_, added, hadded, htells⟩
      refine ⟨added, hadded, fun request hrequest heq => hreport ?_⟩
      rw [← heq]
      exact htells request hrequest
    rw [trace_rounds, holds_bind, holds_get, holds_ite]
    constructor
    · intro _
      exact ⟨[], (List.append_nil _).symm, by simp⟩
    · intro _
      rw [holds_bind]
      apply (loop_round_restarts report).mono
      · intro result c₁ h₁
        have hmid := hround h₁
        cases result with
        | finished command_status => exact hmid
        | again =>
          obtain ⟨added, hadded, hothers⟩ := hmid
          have hlater : ∀ {c' : Context}, (∃ later, c'.restarts = c₁.restarts ++ later ∧
              ∀ request ∈ later, request.tid ≠ tid) → others c' := by
            intro c' hpost
            rcases hpost with ⟨later, hlater, hnot⟩
            refine ⟨added ++ later, by rw [hlater, hadded, List.append_assoc], ?_⟩
            intro request hrequest
            obtain h | h := List.mem_append.mp hrequest
            · exact hothers request h
            · exact hnot request h
          apply (ih (fun report hmem => hquiet report (List.mem_cons_of_mem _ hmem)) c₁).mono
          · intro _ _ h
            exact hlater h
          · intro _ _ h
            exact hlater h
      · intro _ c₁ h₁
        exact hround h₁

/-- Every task is seized in every state that is reached in attach mode. -/
theorem AllSeized.of_reaches {start : Context} {h : List Report} (hmode : config.mode = .SG_RUN_ATTACH)
    (hstart : AllSeized start.tracees)
    (hreach : Reaches (loop_step config env) (fun _ _ _ => True) start h c) :
    AllSeized c.tracees := by
  apply hreach.invariant (I := fun _ c => AllSeized c.tracees) hstart
  intro _ c report c' hseized _ hstep
  exact ((loop_round_restarts report).of_ok (loop_step_true hstep).2).seized hmode hseized

/-- **Group-stops are preserved** in attach mode: in whatever state of a run a task enters one,
    it is listened to, and not restarted otherwise until the kernel reports something else of
    it, whether the loop goes on, ends or fails. -/
theorem group_stops_preserved {attach_pid : Pid} {answers : AttachAnswers} {start : Context}
    {h : List Report} {group : Report} {reports : List Report}
    (hmode : config.mode = .SG_RUN_ATTACH)
    (hstart : (prepare_attach config env attach_pid answers).exec .init = (.ok (), start))
    (hreach : Reaches (loop_step config env) (fun _ _ _ => True) start h c)
    (hgroup : group.group_stop c.registry tid) (hquiet : ∀ report ∈ reports, ¬report.tells tid) :
    ∃ added,
      ((trace_rounds config env (group :: reports)).finalState c).restarts = c.restarts ++ added ∧
      (∀ request ∈ added, request.tid = tid → request = ⟨.PTRACE_LISTEN, tid, 0⟩) ∧
      (c.registry tid ≠ none → ⟨.PTRACE_LISTEN, tid, 0⟩ ∈ added) := by
  have hseized : AllSeized c.tracees := by
    apply AllSeized.of_reaches hmode _ hreach
    exact (prepare_attach_seizes answers allSeized_init).of_ok hstart
  let listened : Context → Prop := fun c' => ∃ added, c'.restarts = c.restarts ++ added ∧
    (∀ request ∈ added, request.tid = tid → request = ⟨.PTRACE_LISTEN, tid, 0⟩) ∧
    (c.registry tid ≠ none → ⟨.PTRACE_LISTEN, tid, 0⟩ ∈ added)
  have hround : ∀ {c' : Context}, Listens c tid c' → listened c' := by
    intro c' hlistens
    obtain hlisten | ⟨hnone, hsame⟩ := hlistens
    · exact ⟨_, hlisten, by simp, by simp⟩
    · exact ⟨[], by rw [hsame, List.append_nil], by simp, fun hknown => absurd hnone hknown⟩
  have hboth : Holds (trace_rounds config env (group :: reports)) c (fun _ c' => listened c')
      (fun _ c' => listened c') := by
    rw [trace_rounds, holds_bind, holds_get, holds_ite]
    constructor
    · -- No tracee is left, and so the task is not known.
      intro hcount
      have hnone : c.registry tid = none :=
        Context.registry_none.mpr (Tracees.count_eq_zero.mp hcount tid)
      exact hround (Or.inr ⟨hnone, rfl⟩)
    · intro _
      rw [holds_bind]
      apply (group_round_listens hmode hseized hgroup).mono
      · intro result c₁ h₁
        cases result with
        | finished command_status => exact hround h₁
        | again =>
          obtain ⟨added, hadded, honly, hlisten⟩ := hround h₁
          have hlater : ∀ {c' : Context}, (∃ later, c'.restarts = c₁.restarts ++ later ∧
              ∀ request ∈ later, request.tid ≠ tid) → listened c' := by
            intro c' hpost
            rcases hpost with ⟨later, hlater, hnot⟩
            refine ⟨added ++ later, by rw [hlater, hadded, List.append_assoc], ?_, ?_⟩
            · intro request hrequest htid
              obtain h | h := List.mem_append.mp hrequest
              · exact honly request h htid
              · exact absurd htid (hnot request h)
            · exact fun hknown => List.mem_append_left _ (hlisten hknown)
          apply (trace_rounds_restarts reports hquiet c₁).mono
          · intro _ _ h
            exact hlater h
          · intro _ _ h
            exact hlater h
      · intro _ c₁ h₁
        exact hround h₁
  exact hboth.at_end

end rounds

/-! ### Runs on fixed inputs -/

/-- Attached to a process. -/
def Config.attaching : Config := { Config.plain .SG_FORMAT_TEXT with mode := .SG_RUN_ATTACH }

/-- The process has two tasks, and both are seized. -/
def AttachAnswers.plain : AttachAnswers where
  invalid := none
  task_ids _ := .ok [100, 101]
  seize _ _ := .ok
  interrupt _ := .ok

/-- A task has been stopped, as the kernel says of one that has been seized. -/
def stop_report (tid : Pid) : Report where
  waited := .status tid (.stopped SIGSTOP PTRACE_EVENT_STOP) (Answers.plain none)
  shutdown_signal := 0

/-- The other task goes on: it enters a call. -/
theorem group_stops_preserved_attached : ∃ start added,
    ((trace_rounds .attaching .reliable [stop_report 100, entry_report 101 0]).finalState
      start).restarts = start.restarts ++ added ∧
    (⟨.PTRACE_LISTEN, 100, 0⟩ : Request) ∈ added := by
  let attach : TraceM Unit := prepare_attach .attaching .reliable 100 .plain
  let start : Context := attach.finalState .init
  have hmode : Config.attaching.mode = .SG_RUN_ATTACH := rfl
  have hsucceeds : attach.succeeds .init = true := by decide +kernel
  have hgroup : (stop_report 100).group_stop start.registry 100 :=
    ⟨SIGSTOP, PTRACE_EVENT_STOP, Answers.plain none, rfl,
      by decide, Or.inl ⟨rfl, by decide⟩⟩
  have hquiet : ∀ report ∈ [entry_report 101 0], ¬report.tells 100 := by
    intro report hreport hpost
    rcases hpost with ⟨status, answers, hwaited⟩
    rw [List.mem_singleton.mp hreport] at hwaited
    exact absurd (Waited.status.inj hwaited).1 (by decide)
  obtain ⟨added, hadded, -, hlisten⟩ := group_stops_preserved hmode
    (exec_of_succeeds hsucceeds) .refl hgroup hquiet
  exact ⟨start, added, hadded, hlisten (by decide +kernel)⟩

/-- A task has been stopped, as the kernel says of one that has not been seized. -/
def tstp_report (tid : Pid) : Report where
  waited := .status tid (.stopped SIGTSTP 0) { Answers.plain none with signal_info := .einval }
  shutdown_signal := 0

/-- **A launched command** that has been stopped is restarted: it is not seized. -/
theorem group_stop_restarted : ¬∀ (config : Config) (env : Env) (start : Context),
    ((config.mode = .SG_RUN_LAUNCH ∧ ∃ answers,
        (begin_run config env answers).exec .init = (.ok (), start)) ∨
      (config.mode = .SG_RUN_ATTACH ∧ ∃ attach_pid answers,
        (prepare_attach config env attach_pid answers).exec .init = (.ok (), start))) →
    ∀ (h : List Report) (c : Context),
      Reaches (loop_step config env) (fun _ _ _ => True) start h c →
    ∀ (group : Report) (tid : Pid), group.group_stop c.registry tid →
    ∀ reports : List Report, (∀ report ∈ reports, ¬report.tells tid) →
    ∃ added,
      ((trace_rounds config env (group :: reports)).finalState c).restarts = c.restarts ++ added ∧
      ∀ request ∈ added, request.tid = tid → request.request = .PTRACE_LISTEN := by
  intro hclaim
  let begin : TraceM Unit := begin_run .following .reliable .plain
  let start : Context := begin.finalState .init
  have hsucceeds : begin.succeeds .init = true := by decide +kernel
  have hgroup : (tstp_report 100).group_stop start.registry 100 :=
    ⟨SIGTSTP, 0, _, rfl, by decide, Or.inr ⟨rfl, by simp [SIGTSTP, SIGSTOP], rfl, rfl⟩⟩
  obtain ⟨added, hadded, honly⟩ := hclaim .following .reliable start
    (Or.inl ⟨rfl, .plain, exec_of_succeeds hsucceeds⟩) [] start .refl (tstp_report 100) 100 hgroup []
    (by simp)
  have hafter : ((trace_rounds .following .reliable [tstp_report 100]).finalState start).restarts =
      start.restarts ++ [⟨.PTRACE_SYSCALL, 100, 0⟩] := by decide +kernel
  rw [List.append_cancel_left (hadded.symm.trans hafter)] at honly
  exact absurd (honly _ (List.mem_singleton.mpr rfl) rfl) (by decide)

end Sysgaze
