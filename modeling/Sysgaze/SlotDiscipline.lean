import Sysgaze.Attaching
import Sysgaze.Captures
import Sysgaze.Killing
import Sysgaze.Ownership

/-! # The slots of the tracees

    Every decoded argument that is captured is released exactly once by the end of
    `sg_trace_run`, whatever the kernel reports and whatever fails, in launch and in
    attach mode; between two operations of the loop it is in one slot of one record.

    The blocks of a round keep the balance of `Owned` (`Balances`), and so do the
    launch, the seizing of a process, and the detaching of its tasks.
    `release_all_tracees` then releases what is left in the slots.
-/

open Fallible

namespace Sysgaze

/-! ### A round of the loop -/

/-- The program, run from `c`, keeps the balance, whether it succeeds or fails. -/
abbrev Balances {α : Type} (env : Env) (c : Context) (m : TraceM α) : Prop :=
  Holds m c (fun _ c' => Owned env c' []) (fun _ c' => Owned env c' [])

section round
variable {config : Config} {env : Env} {c c' : Context} {tracee : Tracee} {tid : Pid}

/-- A program that leaves the slots alone keeps the balance. -/
theorem Owned.balances {α : Type} {m : TraceM α} (h : Owned env c []) (hm : Travels m SlotsKept) :
    Balances env c m :=
  (hm c).mono (fun _ _ hkept => h.kept hkept) (fun _ _ hkept => h.kept hkept)

theorem Balances.bind {α β : Type} {m : TraceM α} {f : α → TraceM β} (hm : Balances env c m)
    (hf : ∀ a c', Owned env c' [] → Balances env c' (f a)) : Balances env c (m >>= f) := by
  unfold Balances
  rw [holds_bind]
  exact hm.mono (fun a c' h => hf a c' h) (fun _ _ h => h)

theorem OwnedAt.asking (h : OwnedAt env c tracee []) (request : PtraceRequest) (tid : Pid)
    (data : Int) :
    OwnedAt env { c with requests := c.requests ++ [⟨request, tid, data⟩] } tracee [] :=
  h.kept ⟨⟨rfl, rfl, le_rfl⟩, rfl⟩

/-- A record is stored that differs in neither calls nor flags. -/
theorem OwnedAt.restate (h : OwnedAt env c tracee []) (tracee' : Tracee)
    (htid : tracee'.tid = tracee.tid)
    (hpending : tracee'.has_pending_syscall = tracee.has_pending_syscall)
    (hinterrupted : tracee'.has_interrupted_syscall = tracee.has_interrupted_syscall)
    (hready : tracee'.interrupted_restart_ready = tracee.interrupted_restart_ready)
    (hcall : tracee'.pending_syscall = tracee.pending_syscall)
    (hcall' : tracee'.interrupted_syscall = tracee.interrupted_syscall) :
    OwnedAt env { c with tracees := c.tracees.write tracee' } tracee' [] := by
  have hslots := h.slots _ _ h.known
  apply h.store tracee' htid
  · refine ⟨?_, ?_, ?_, ?_⟩
    · rw [hready, hinterrupted]
      exact hslots.ready
    · rw [hpending, hready]
      exact hslots.pending
    · rw [hpending, hcall]
      exact hslots.pending_empty
    · rw [hinterrupted, hcall']
      exact hslots.interrupted_empty
  · unfold Tracee.texts
    rw [hcall, hcall']

theorem handle_syscall_stop_owned (h : OwnedAt env c tracee []) (answer : Option SyscallInfo) :
    Balances env c (handle_syscall_stop config env tracee answer) := by
  have hasked := h.asking .PTRACE_GET_SYSCALL_INFO tracee.tid 0
  unfold Balances handle_syscall_stop
  rw [holds_bind, holds_measured_ptrace]
  cases answer with
  | none => exact hasked.toOwned
  | some info =>
    dsimp only
    split
    · exact hasked.toOwned
    · split
      · exact hasked.toOwned
      · split
        · split
          · exact hasked.toOwned
          · exact begin_syscall_owned hasked _ _
        · split
          · split
            · exact hasked.toOwned
            · exact finish_syscall_owned hasked _ _
          · exact hasked.toOwned

theorem handle_seccomp_stop_owned (h : OwnedAt env c tracee []) (answer : Option SyscallInfo) :
    Balances env c (handle_seccomp_stop config env tracee answer) := by
  have hasked := h.asking .PTRACE_GET_SYSCALL_INFO tracee.tid 0
  unfold Balances handle_seccomp_stop
  rw [holds_bind, holds_measured_ptrace]
  cases answer with
  | none => exact hasked.toOwned
  | some info =>
    simp only [holds_ite, holds_throw]
    refine ⟨fun _ => hasked.toOwned, fun _ => ⟨fun _ => hasked.toOwned, fun _ =>
      ⟨fun _ => hasked.toOwned, fun _ => ⟨fun _ => hasked.toOwned, fun _ => ?_⟩⟩⟩⟩
    exact begin_syscall_owned hasked _ _

/-- **An exec event** completes the pending call. -/
theorem handle_exec_event_owned (h : OwnedAt env c tracee []) :
    Balances env c (handle_exec_event config env tracee) := by
  have hobserved : OwnedAt env (c.exec_observed tracee) tracee [] := by
    unfold Context.exec_observed
    split
    · exact h.kept ⟨⟨rfl, rfl, le_rfl⟩, rfl⟩
    · exact h
  unfold Balances
  rw [holds_handle_exec_event]
  constructor
  · intro _
    apply (complete_exec_owned hobserved).mono
    · intro tracee₁ c₁ hpost
      exact OwnedAt.toOwned (hpost.1.restate _ rfl rfl rfl rfl rfl rfl)
    · exact fun _ _ h => h
  · intro _
    exact OwnedAt.toOwned (hobserved.restate _ rfl rfl rfl rfl rfl rfl)

theorem Owned.abandon_child (h : Owned env c []) (child : Pid) (attached : Bool) :
    Owned env (c.abandon_child child attached) [] := by
  unfold Context.abandon_child
  split
  · exact h.kept ⟨⟨rfl, rfl, le_rfl⟩, rfl⟩
  · exact h.kept ⟨⟨rfl, rfl, le_rfl⟩, rfl⟩

theorem handle_child_event_owned (h : OwnedAt env c tracee []) (ptrace_event : Nat)
    (answers : Answers) :
    Balances env c (handle_child_event config env tracee ptrace_event answers) := by
  have hasked := h.asking .PTRACE_GETEVENTMSG tracee.tid 0
  unfold Balances handle_child_event
  rw [holds_bind, holds_measured_ptrace]
  dsimp only
  split
  · exact hasked.toOwned
  · rw [holds_bind, holds_onError]
    apply (add_tracee_owned hasked.toOwned _ _ _ _).mono
    · intro _ c₁ hpost
      rw [holds_bind, holds_get]
      cases c₁.tracees.get tracee.tid with
      | none => exact hpost.1
      | some parent => exact hpost.1.balances (write_stamped_kept _)
    · exact fun _ c₁ h₁ => h₁.abandon_child _ _

theorem handle_ptrace_event_owned (h : OwnedAt env c tracee []) (ptrace_event : Nat)
    (answers : Answers) :
    Balances env c (handle_ptrace_event config env tracee ptrace_event answers) := by
  unfold Balances handle_ptrace_event
  split
  · exact handle_seccomp_stop_owned h _
  · split
    · exact handle_exec_event_owned h
    · split
      · exact h.toOwned
      · exact handle_child_event_owned h _ _

theorem handle_signal_stop_owned (h : OwnedAt env c tracee []) (stop : Int) (answer : SigInfoAnswer) :
    Balances env c (handle_signal_stop config env tracee stop answer) := by
  have hasked := h.asking .PTRACE_GETSIGINFO tracee.tid 0
  unfold Balances handle_signal_stop
  rw [holds_bind, holds_measured_ptrace]
  cases answer with
  | ok signal_info =>
    have hstored := hasked.restate { tracee with newborn := false, pending_signal := stop }
      rfl rfl rfl rfl rfl rfl
    simp only [holds_bind, holds_store, holds_pure]
    exact hstored.toOwned.balances (write_stamped_kept _)
  | einval =>
    dsimp only
    split
    · exact OwnedAt.toOwned (hasked.restate _ rfl rfl rfl rfl rfl rfl)
    · exact hasked.toOwned
  | failed => exact hasked.toOwned

/-- **A stop** keeps the balance. -/
theorem handle_stop_owned (h : OwnedAt env c tracee []) (stop : Int) (ptrace_event : Nat)
    (answers : Answers) :
    Balances env c (handle_stop config env tracee stop ptrace_event answers) := by
  have hstore : ∀ (tracee' : Tracee) (result : Int × Bool),
      OwnedAt env { c with tracees := c.tracees.write tracee' } tracee' [] →
      Balances env c (do
        store tracee'
        pure result) := fun _ _ h₁ => h₁.toOwned
  unfold handle_stop
  split
  · exact (handle_syscall_stop_owned h _).bind fun _ _ h => h
  · split
    · split
      · exact hstore _ _ (h.restate _ rfl rfl rfl rfl rfl rfl)
      · exact hstore _ _ (h.restate _ rfl rfl rfl rfl rfl rfl)
    · split
      · exact (handle_ptrace_event_owned h _ _).bind fun _ _ h => h
      · split
        · exact hstore _ _ (h.restate _ rfl rfl rfl rfl rfl rfl)
        · exact handle_signal_stop_owned h _ _

theorem restart_tracee_owned (h : Owned env c []) (waited : Pid) (signal : Int) (listen : Bool)
    (answer : RestartAnswer) :
    Balances env c (restart_tracee config env waited signal listen answer) := by
  have hasked : ∀ {tracee : Tracee}, c.tracees.lookup waited = some tracee →
      OwnedAt env (c.asked_restart config tracee signal listen) tracee [] := by
    intro tracee hknown
    have htid := Tracees.lookup_tid hknown
    exact ⟨h.kept ⟨⟨rfl, rfl, le_rfl⟩, rfl⟩, by rw [htid]; exact hknown⟩
  apply holds_restart_tracee
  · exact fun _ => h
  · intro tracee hknown _
    exact OwnedAt.toOwned ((hasked hknown).restate (tracee.resumed listen) rfl rfl rfl rfl rfl rfl)
  · exact fun tracee hknown _ => (hasked hknown).toOwned
  · exact fun tracee hknown _ => (hasked hknown).toOwned

theorem observe_exec_owned (h : Owned env c []) (waited : Pid) (status : WaitStatus)
    (answers : Answers) : Balances env c (observe_exec config env waited status answers) := by
  unfold Balances observe_exec
  cases status with
  | stopped stop ptrace_event =>
    dsimp only
    split
    · have hasked : Owned env (c.asking .PTRACE_GETEVENTMSG waited) [] :=
        h.kept ⟨⟨rfl, rfl, le_rfl⟩, rfl⟩
      rw [holds_bind, holds_measured_ptrace]
      cases answers.eventmsg with
      | none => exact hasked
      | some former =>
        dsimp only
        split
        · exact hasked
        · exact migrate_exec_tid_owned hasked _ _
    · exact h
  | exited _ => exact h
  | signaled _ => exact h
  | continued => exact h

/-- The record that is found is one of the table. -/
theorem find_tracee_owned (h : Owned env c []) (waited : Pid) (status : WaitStatus)
    (answers : Answers) :
    Holds (find_tracee config env waited status answers) c
      (fun found c' => Owned env c' [] ∧ found = c'.tracees.lookup waited)
      (fun _ c' => Owned env c' []) := by
  unfold find_tracee
  rw [holds_bind, holds_get, Tracees.get_eq]
  cases hknown : c.tracees.lookup waited with
  | some tracee => exact ⟨h, hknown.symm⟩
  | none =>
    cases status with
    | stopped stop ptrace_event =>
      dsimp only
      split
      · rw [holds_bind]
        apply (add_tracee_owned h _ _ _ _).mono
        · intro _ c₁ hpost
          rw [holds_bind, holds_get, Tracees.get_eq]
          exact ⟨hpost.1, rfl⟩
        · exact fun _ _ h => h
      · exact ⟨h, hknown.symm⟩
    | exited _ => exact ⟨h, hknown.symm⟩
    | signaled _ => exact ⟨h, hknown.symm⟩
    | continued => exact ⟨h, hknown.symm⟩

theorem report_exit_kept (status : WaitStatus) :
    Travels (report_exit config env tracee status) SlotsKept := by
  unfold report_exit
  cases status with
  | signaled signal => exact write_stamped_kept _
  | exited code => exact write_stamped_kept _
  | stopped stop ptrace_event => exact travels_pure _
  | continued => exact travels_pure _

theorem record_exit_status_kept (status : WaitStatus) :
    Travels (record_exit_status tid status) SlotsKept := by
  apply travels_modify
  intro c
  split
  · exact ⟨⟨rfl, rfl, le_rfl⟩, rfl⟩
  · exact .refl c

/-- **An exit** releases the texts of the task. -/
theorem handle_exit_owned (h : OwnedAt env c tracee []) (waited : Pid) (status : WaitStatus) :
    Balances env c (handle_exit config env tracee waited status) := by
  have hstored := h.restate { tracee with phase := .SG_TRACEE_GONE } rfl rfl rfl rfl rfl rfl
  unfold Balances handle_exit
  rw [holds_bind, holds_store, holds_bind, holds_get]
  split
  · exact hstored.toOwned
  · apply (hstored.toOwned.balances (report_exit_kept status)).bind
    intro _ c₁ h₁
    apply (h₁.balances (record_exit_status_kept status)).bind
    intro _ c₂ h₂
    exact remove_tracee_owned h₂ waited

/-- **A round of the loop** keeps the balance. -/
theorem handle_status_owned (h : Owned env c []) (waited : Pid) (status : WaitStatus)
    (answers : Answers) (shutdown_signal : Int) :
    Balances env c (handle_status config env waited status answers shutdown_signal) := by
  unfold handle_status
  apply (observe_exec_owned h waited status answers).bind
  intro _ c₁ h₁
  unfold Balances
  rw [holds_bind]
  apply (find_tracee_owned h₁ waited status answers).mono
  · intro found c₂ hpost
    obtain ⟨h₂, hfound⟩ := hpost
    cases found with
    | none => exact h₂
    | some tracee =>
      have htid := Tracees.lookup_tid hfound.symm
      have hat : OwnedAt env c₂ tracee [] := ⟨h₂, by rw [htid]; exact hfound.symm⟩
      cases status with
      | continued => exact OwnedAt.toOwned (hat.restate _ rfl rfl rfl rfl rfl rfl)
      | exited code => exact (handle_exit_owned hat _ _).bind fun _ _ h => h
      | signaled signal => exact (handle_exit_owned hat _ _).bind fun _ _ h => h
      | stopped stop ptrace_event =>
        have hstopped := hat.restate
          { tracee with in_ptrace_stop := true, phase := .SG_TRACEE_STOPPED } rfl rfl rfl rfl rfl rfl
        dsimp only
        rw [holds_bind, holds_store]
        apply (handle_stop_owned hstopped stop ptrace_event answers).bind
        intro result c₃ h₃
        apply (restart_tracee_owned h₃ _ _ _ _).bind
        exact fun _ _ h => h
  · exact fun _ _ h => h

theorem loop_round_owned (h : Owned env c []) (report : Report) :
    Balances env c (loop_round config env report) := by
  unfold loop_round
  cases report.waited with
  | eintr => exact h
  | failed => exact h
  | status waited status answers => exact handle_status_owned h _ _ _ _

/-- **The loop** keeps the balance, whatever is reported. -/
theorem trace_rounds_owned (reports : List Report) : ∀ {c : Context}, Owned env c [] →
    Balances env c (trace_rounds config env reports) := by
  induction reports with
  | nil => exact fun h => h
  | cons report reports ih =>
    intro c h
    unfold Balances
    rw [trace_rounds, holds_bind, holds_get]
    split
    · exact h
    · apply (loop_round_owned h report).bind
      intro ended c₁ h₁
      cases ended with
      | again => exact ih h₁
      | finished command_status => exact h₁

end round

/-! ### Runs -/

section model
variable (config : Config) (env : Env) (attach_pid : Pid)

/-- The part of `sg_trace_run` before the loop, in attach mode. -/
def attach (answers : AttachAnswers) (handlers : Bool) : TraceM Unit := do
  prepare_attach config env attach_pid answers
  if handlers then pure () else throw s!"cannot install shutdown handlers: {env.strerror}"

/-- `sg_trace_run` in attach mode, up to the end of its tracees: when the run fails or is told
    to stop, the tasks are detached.  The result is the command status, or `none` while the
    loop still waits for a report. -/
def sg_trace_run_attached (answers : AttachAnswers) (handlers : Bool) (reports : List Report)
    (shutdown_signal : Int) (detached : Pid → DetachAnswer) : TraceM (Option Int) := do
  let command_status ← onError (do
      attach config env attach_pid answers handlers
      trace_rounds config env reports) (finalState (detach_all_tracees detached))
  match command_status with
  | none => pure none
  | some command_status => do
    if shutdown_signal ≠ 0 then detach_all_tracees detached else pure ()
    pure (some command_status)

/-- `release_all_tracees`. -/
def Context.release_all_tracees (context : Context) : Context :=
  { context.tracees.records.foldl Context.release_tracee context with tracees := .init }

end model

section runs
variable {config : Config} {env : Env} {attach_pid : Pid} {c c' : Context} {tracee : Tracee}
  {tid : Pid}

theorem wait_for_initial_stop_kept (initial : Option WaitStatus) :
    Travels (wait_for_initial_stop env initial) SlotsKept := by
  unfold wait_for_initial_stop
  split
  · exact travels_throw _
  · exact travels_ite (travels_pure _) (travels_throw _)
  · exact travels_throw _

theorem install_ptrace_options_kept (child : Pid) (ok : Bool) :
    Travels (install_ptrace_options config env child ok) SlotsKept := by
  unfold install_ptrace_options
  apply travels_bind (measured_ptrace_kept _ _ _)
  exact fun _ => travels_ite (travels_pure _) (travels_throw _)

theorem launch_owned (h : Owned env c []) (answers : LaunchAnswers) :
    Balances env c (launch config env answers) := by
  unfold launch
  cases answers.child with
  | error error => exact h
  | ok child =>
    dsimp only
    have h₁ : Owned env { c with root_tid := child } [] := h.kept ⟨⟨rfl, rfl, le_rfl⟩, rfl⟩
    have hadded : Balances env { c with root_tid := child }
        (add_tracee env child child false false) :=
      (add_tracee_owned h₁ _ _ _ _).mono (fun _ _ hpost => hpost.1) (fun _ _ h => h)
    unfold Balances
    rw [holds_bind, holds_modify]
    apply hadded.bind
    intro _ c₂ h₂
    apply (h₂.balances (wait_for_initial_stop_kept _)).bind
    intro _ c₃ h₃
    unfold Balances
    rw [holds_bind, holds_get, Tracees.get_eq]
    cases hknown : c₃.tracees.lookup child with
    | none => exact h₃
    | some root =>
      have htid := Tracees.lookup_tid hknown
      have hat : OwnedAt env c₃ root [] := ⟨h₃, by rw [htid]; exact hknown⟩
      have hstored := hat.restate { root with in_ptrace_stop := true, phase := .SG_TRACEE_STOPPED }
        rfl rfl rfl rfl rfl rfl
      dsimp only
      rw [holds_bind, holds_store, holds_bind, holds_onError]
      apply hstored.then (install_ptrace_options_kept _ _)
      · intro _ c₄ h₄
        rw [holds_bind, holds_store]
        have h₅ := h₄.restate { root with
          in_ptrace_stop := true, phase := .SG_TRACEE_STOPPED, options_installed := true }
          rfl rfl rfl rfl rfl rfl
        split
        · exact h₅.toOwned
        · exact h₅.toOwned
      · intro _ c₄ h₄
        exact OwnedAt.toOwned (h₄.restate _ rfl rfl rfl rfl rfl rfl)

theorem resume_root_owned (h : Owned env c []) (answer : RestartAnswer) :
    Balances env c (resume_root config env answer) := by
  unfold resume_root
  cases config.mode with
  | SG_RUN_ATTACH => exact h
  | SG_RUN_LAUNCH =>
    unfold Balances
    dsimp only
    rw [holds_bind, holds_get, Tracees.get_eq]
    cases hknown : c.tracees.lookup c.root_tid with
    | none => exact h
    | some root =>
      have htid := Tracees.lookup_tid hknown
      have hat : OwnedAt env c root [] := ⟨h, by rw [htid]; exact hknown⟩
      have hasked := hat.asking (resume_request config root) root.tid 0
      dsimp only
      unfold resume_tracee
      rw [holds_bind, holds_measured_ptrace]
      split
      · exact OwnedAt.toOwned (hasked.restate _ rfl rfl rfl rfl rfl rfl)
      · exact hasked.toOwned

/-- **A launched run** keeps the balance, whatever is reported and whatever fails. -/
theorem sg_trace_run_owned (h : Owned env c []) (answers : LaunchAnswers) (reports : List Report)
    (shutdown_signal : Int) :
    Balances env c (sg_trace_run config env answers reports shutdown_signal) := by
  have hkilled : ∀ {c' : Context}, Owned env c' [] → Owned env c'.kill_all_tracees [] :=
    fun h' => h'.kept ⟨⟨rfl, rfl, le_rfl⟩, rfl⟩
  have hrun : Balances env c (do
      begin_run config env answers
      trace_rounds config env reports) := by
    apply Balances.bind
    · unfold begin_run
      apply (launch_owned h answers).bind
      exact fun _ _ h₁ => resume_root_owned h₁ _
    · exact fun _ _ h₁ => trace_rounds_owned reports h₁
  unfold sg_trace_run
  apply Balances.bind
  · unfold Balances
    rw [holds_onError]
    exact hrun.mono (fun _ _ h₁ => h₁) (fun _ _ h₁ => hkilled h₁)
  · intro command_status c₁ h₁
    cases command_status with
    | none => exact h₁
    | some command_status =>
      unfold Balances
      dsimp only
      split
      · exact hkilled h₁
      · exact h₁

theorem seize_task_owned (h : Owned env c []) (answer : RestartAnswer) (tid : Pid) :
    Balances env c (seize_task config env attach_pid answer tid) := by
  unfold Balances seize_task
  rw [holds_bind, holds_get]
  cases c.tracees.get tid with
  | some _ => exact h
  | none =>
    have hadded : Balances env c (add_tracee env tid attach_pid true true) :=
      (add_tracee_owned h _ _ _ _).mono (fun _ _ hpost => hpost.1) (fun _ _ h => h)
    apply hadded.bind
    intro _ c₁ h₁
    apply (h₁.balances (measured_ptrace_kept _ _ _)).bind
    intro _ c₂ h₂
    have hremoved : Balances env c₂ (remove_tracee tid) := remove_tracee_owned h₂ tid
    cases answer with
    | ok => exact h₂
    | esrch => exact hremoved.bind fun _ _ h => h
    | failed => exact hremoved.bind fun _ _ h => h

theorem seize_tasks_owned (answers : Pid → RestartAnswer) (ids : List Pid) :
    ∀ {c : Context}, Owned env c [] →
      Balances env c (seize_tasks config env attach_pid answers ids) := by
  induction ids with
  | nil => exact fun h => h
  | cons tid ids ih =>
    intro c h
    rw [seize_tasks]
    apply (seize_task_owned h _ tid).bind
    intro _ c₁ h₁
    apply (ih h₁).bind
    exact fun _ _ h => h

theorem seize_rounds_owned (answers : AttachAnswers) (rounds : Nat) :
    ∀ {round : Nat} {c : Context}, Owned env c [] →
      Balances env c (seize_rounds config env attach_pid answers rounds round) := by
  induction rounds with
  | zero => exact fun h => h
  | succ rounds ih =>
    intro round c h
    rw [seize_rounds]
    cases answers.task_ids round with
    | error error => exact h
    | ok ids =>
      apply (seize_tasks_owned _ ids h).bind
      intro added c₁ h₁
      split
      · exact h₁
      · exact ih h₁

theorem interrupt_task_kept (answer : RestartAnswer) :
    Travels (interrupt_task env answer tid) SlotsKept := by
  unfold interrupt_task
  apply travels_bind (measured_ptrace_kept _ _ _)
  intro _
  cases answer with
  | ok => exact travels_pure _
  | esrch => exact travels_pure _
  | failed => exact travels_throw _

theorem prepare_attach_owned (h : Owned env c []) (answers : AttachAnswers) :
    Balances env c (prepare_attach config env attach_pid answers) := by
  unfold prepare_attach
  cases answers.invalid with
  | some error => exact h
  | none =>
    apply (seize_rounds_owned answers 64 h).bind
    intro stable c₁ h₁
    unfold Balances
    rw [holds_bind, holds_get]
    split
    · exact h₁
    · apply (h₁.balances ask_kept).bind
      intro n c₂ h₂
      split
      · exact h₂
      · apply (h₂.balances (travels_forM _ fun _ => interrupt_task_kept _)).bind
        exact fun _ _ h₃ => h₃.balances (travels_modify fun _ => ⟨⟨rfl, rfl, le_rfl⟩, rfl⟩)

/-- Only the phases of the records change while the tasks are interrupted. -/
theorem interrupt_running_owned (h : Owned env c []) (answers : Pid → DetachAnswer) :
    Balances env c (c.tracees.records.forM (interrupt_running answers)) := by
  have hloop : Holds (c.tracees.records.forM (interrupt_running answers)) c
      (fun _ c' => Owned env c' [] ∧ ∀ tracee ∈ c.tracees.records, ∃ phase,
        c'.tracees.lookup tracee.tid = some { tracee with phase := phase })
      (fun _ c' => Owned env c' []) := by
    apply holds_forM
    · intro tracee hmem c₁ hpost
      obtain ⟨h₁, hrecords⟩ := hpost
      obtain ⟨phase, hknown⟩ := hrecords tracee hmem
      unfold interrupt_running
      split
      · exact ⟨h₁, hrecords⟩
      · have hat : OwnedAt env c₁ { tracee with phase := phase } [] := ⟨h₁, hknown⟩
        have hasked := hat.asking .PTRACE_INTERRUPT tracee.tid 0
        rw [holds_bind, holds_measured_ptrace]
        split
        · rw [holds_store]
          refine ⟨OwnedAt.toOwned (hasked.restate _ rfl rfl rfl rfl rfl rfl), ?_⟩
          intro other hother
          rw [Tracees.lookup_write]
          split
          · -- It is the record of the same task.
            rename_i hsame
            have hlookup := Tracees.mem_records.mp hother
            rw [hsame.1, Tracees.mem_records.mp hmem] at hlookup
            rw [Option.some.inj hlookup]
            exact ⟨_, rfl⟩
          · exact hrecords other hother
        · exact ⟨hasked.toOwned, hrecords⟩
    · exact ⟨h, fun tracee hmem => ⟨tracee.phase, Tracees.mem_records.mp hmem⟩⟩
  exact hloop.mono (fun _ _ hpost => hpost.1) (fun _ _ h => h)

theorem detach_tracee_kept (answers : Pid → DetachAnswer) :
    Travels (detach_tracee answers tracee) SlotsKept := by
  unfold detach_tracee
  apply travels_ite (travels_pure _)
  apply travels_ite (measured_ptrace_kept _ _ _)
  split
  · exact travels_pure _
  · exact measured_ptrace_kept _ _ _

theorem detach_all_tracees_owned (h : Owned env c []) (answers : Pid → DetachAnswer) :
    Balances env c (detach_all_tracees answers) := by
  unfold Balances detach_all_tracees
  rw [holds_bind, holds_get]
  apply (interrupt_running_owned h answers).bind
  intro _ c₁ h₁
  unfold Balances
  rw [holds_bind, holds_get]
  exact h₁.balances (travels_forM _ fun _ => detach_tracee_kept _)

/-- **An attached run** keeps the balance, whatever is reported and whatever fails. -/
theorem sg_trace_run_attached_owned (h : Owned env c []) (answers : AttachAnswers)
    (handlers : Bool) (reports : List Report) (shutdown_signal : Int)
    (detached : Pid → DetachAnswer) :
    Balances env c (sg_trace_run_attached config env attach_pid answers handlers reports
      shutdown_signal detached) := by
  have hrun : Balances env c (do
      attach config env attach_pid answers handlers
      trace_rounds config env reports) := by
    apply Balances.bind
    · unfold attach
      apply (prepare_attach_owned h answers).bind
      exact fun _ _ h₁ => h₁.balances (travels_ite (travels_pure _) (travels_throw _))
    · exact fun _ _ h₁ => trace_rounds_owned reports h₁
  unfold sg_trace_run_attached
  apply Balances.bind
  · unfold Balances
    rw [holds_onError]
    apply hrun.mono
    · exact fun _ _ h₁ => h₁
    · exact fun _ c₁ h₁ => (detach_all_tracees_owned h₁ detached).at_end
  · intro command_status c₁ h₁
    cases command_status with
    | none => exact h₁
    | some command_status =>
      dsimp only
      split
      · exact (detach_all_tracees_owned h₁ detached).bind fun _ _ h => h
      · exact h₁

/-! ### The end of a run -/

theorem foldl_release_tracee (records : List Tracee) : ∀ c : Context,
    (records.foldl Context.release_tracee c).captured = c.captured ∧
      (records.foldl Context.release_tracee c).released =
        c.released ++ records.flatMap Tracee.texts := by
  induction records with
  | nil => exact fun c => ⟨rfl, (List.append_nil _).symm⟩
  | cons tracee records ih =>
    intro c
    obtain ⟨hcaptured, hreleased⟩ := ih (c.release_tracee tracee)
    refine ⟨hcaptured, ?_⟩
    rw [List.foldl_cons, hreleased, List.flatMap_cons, ← List.append_assoc]
    exact congrArg (· ++ _) (List.append_assoc _ _ _)

/-- Every text has been captured once and released once, and none is left in the table. -/
structure Context.Settled (env : Env) (c : Context) : Prop where
  released : c.captured.Perm c.released
  once : env.Tokens → c.released.Nodup
  empty : c.tracees.texts = []

/-- **The end**: what is left in the slots is released. -/
theorem Owned.release_all_tracees (h : Owned env c []) : c.release_all_tracees.Settled env := by
  obtain ⟨hcaptured, hreleased⟩ := foldl_release_tracee c.tracees.records c
  have hperm : c.release_all_tracees.captured.Perm c.release_all_tracees.released := by
    have hbalance := h.balance
    rw [List.append_nil] at hbalance
    show (c.tracees.records.foldl _ c).captured.Perm (c.tracees.records.foldl _ c).released
    rw [hcaptured, hreleased]
    exact hbalance
  refine ⟨hperm, fun htokens => ?_, rfl⟩
  have hdistinct := h.distinct htokens
  rw [← hcaptured] at hdistinct
  exact hperm.nodup_iff.mp hdistinct

end runs

/-! ### Any order of operations -/

/-- What may be done to the records between two looks at the table. -/
inductive SlotOperation where
  | add_tracee (tid tgid : Pid) (attached newborn : Bool)
  | begin_syscall (tid : Pid) (number : UInt64) (arguments : Vector UInt64 6)
  | finish_syscall (tid : Pid) (rval : Int) (is_error : Bool)
  | exec_event (tid : Pid)
  | migrate_exec_tid (waited former : Pid)
  | exit (tid : Pid) (status : WaitStatus)

section model
variable (config : Config) (env : Env)

/-- The record of a task is handled, if there is one. -/
def with_tracee (tid : Pid) (handle : Tracee → TraceM Unit) : TraceM Unit := do
  let context ← get
  match context.tracees.get tid with
  | none => pure ()
  | some tracee => handle tracee

/-- The operation, as a program of the tracer. -/
def SlotOperation.run : SlotOperation → TraceM Unit
  | .add_tracee tid tgid attached newborn => Sysgaze.add_tracee env tid tgid attached newborn
  | .begin_syscall tid number arguments =>
    with_tracee tid fun tracee => Sysgaze.begin_syscall config env tracee number arguments
  | .finish_syscall tid rval is_error =>
    with_tracee tid fun tracee => Sysgaze.finish_syscall config env tracee rval is_error
  | .exec_event tid => with_tracee tid (handle_exec_event config env)
  | .migrate_exec_tid waited former => Sysgaze.migrate_exec_tid config env waited former
  | .exit tid status =>
    with_tracee tid fun tracee => handle_exit config env tracee tid status

end model

section discipline
variable {config : Config} {env : Env} {c : Context}

/-- The flags of every record agree with its slots, and every captured text has been released
    or is in one slot of one record. -/
structure Context.Disciplined (env : Env) (c : Context) : Prop where
  slots : ∀ tid tracee, c.tracees.lookup tid = some tracee → tracee.Slots
  balance : c.captured.Perm (c.released ++ c.tracees.texts)
  apart : env.Tokens → (c.released ++ c.tracees.texts).Nodup

theorem Owned.disciplined (h : Owned env c []) : c.Disciplined env := by
  have hbalance := h.balance
  rw [List.append_nil] at hbalance
  exact ⟨h.slots, hbalance, fun htokens => hbalance.nodup_iff.mp (h.distinct htokens)⟩

theorem with_tracee_owned (h : Owned env c []) (tid : Pid) {handle : Tracee → TraceM Unit}
    (hhandle : ∀ {tracee : Tracee}, OwnedAt env c tracee [] → Balances env c (handle tracee)) :
    Balances env c (with_tracee tid handle) := by
  unfold Balances with_tracee
  rw [holds_bind, holds_get, Tracees.get_eq]
  cases hknown : c.tracees.lookup tid with
  | none => exact h
  | some tracee =>
    have htid := Tracees.lookup_tid hknown
    exact hhandle ⟨h, by rw [htid]; exact hknown⟩

/-- **One operation** keeps the balance. -/
theorem operation_owned (h : Owned env c []) (operation : SlotOperation) :
    Balances env c (operation.run config env) := by
  cases operation with
  | add_tracee tid tgid attached newborn =>
    exact (add_tracee_owned h tid tgid attached newborn).mono (fun _ _ hpost => hpost.1)
      (fun _ _ h => h)
  | begin_syscall tid number arguments =>
    exact with_tracee_owned h tid fun hat => begin_syscall_owned hat number arguments
  | finish_syscall tid rval is_error =>
    exact with_tracee_owned h tid fun hat => finish_syscall_owned hat rval is_error
  | exec_event tid => exact with_tracee_owned h tid fun hat => handle_exec_event_owned hat
  | migrate_exec_tid waited former => exact migrate_exec_tid_owned h waited former
  | exit tid status => exact with_tracee_owned h tid fun hat => handle_exit_owned hat tid status

/-- **Any operations** keep the balance, up to the one that fails. -/
theorem operations_owned (h : Owned env c []) (operations : List SlotOperation) :
    Balances env c (operations.forM (SlotOperation.run config env)) :=
  holds_forM operations _ (fun operation _ _ h' => operation_owned h' operation) h

/-- **The discipline of the slots**.  After any operations, and at the end of the loop of
    `sg_trace_run` in launch and in attach mode, whatever is reported and whatever fails, the
    flags of a record agree with its slots, and a captured text has been released or is in one
    slot of one record; the final cleanup has then released every text once.  A capture that
    fails half-way has itself freed what it had saved. -/
theorem slots_disciplined (config : Config) (env : Env) :
    (∀ operations : List SlotOperation,
      let c := finalState (operations.forM (SlotOperation.run config env)) .init
      c.Disciplined env ∧ c.release_all_tracees.Settled env) ∧
    (∀ (answers : LaunchAnswers) (reports : List Report) (shutdown_signal : Int),
      let c := finalState (sg_trace_run config env answers reports shutdown_signal) .init
      c.Disciplined env ∧ c.release_all_tracees.Settled env) ∧
    (∀ (attach_pid : Pid) (answers : AttachAnswers) (handlers : Bool) (reports : List Report)
        (shutdown_signal : Int) (detached : Pid → DetachAnswer),
      let c := finalState (sg_trace_run_attached config env attach_pid answers handlers reports
        shutdown_signal detached) .init
      c.Disciplined env ∧ c.release_all_tracees.Settled env) ∧
    (∀ (heap : Heap) (libc : Libc) (decoder : Decoder) (tid : Pid) (number : UInt64)
        (arguments : Vector UInt64 6) (entered_at : Timespec),
      let event := { SyscallEvent.entered number arguments with entered_at := entered_at }
      CaptureLog.result <$> decoder.capture_entry_logged heap libc tid event =
        decoder.sg_decoder_capture_entry heap libc tid event ∧
      ∀ s, Holds (decoder.capture_entry_logged heap libc tid event) s
        (fun log _ => log.Balanced) (fun _ _ => False)) := by
  have hend : ∀ {α : Type} {m : TraceM α}, Balances env .init m →
      (finalState m .init).Disciplined env ∧
        (finalState m .init).release_all_tracees.Settled env := by
    intro α m hm
    have howned : Owned env (finalState m .init) [] := Holds.at_end hm
    exact ⟨howned.disciplined, howned.release_all_tracees⟩
  refine ⟨?_, ?_, ?_, ?_⟩
  · exact fun operations => hend (operations_owned (owned_init env) operations)
  · exact fun answers reports shutdown_signal =>
      hend (sg_trace_run_owned (owned_init env) answers reports shutdown_signal)
  · exact fun attach_pid answers handlers reports shutdown_signal detached =>
      hend (sg_trace_run_attached_owned (owned_init env) answers handlers reports shutdown_signal
        detached)
  · exact fun heap libc decoder tid number arguments entered_at =>
      ⟨capture_entry_logged_eq _, capture_entry_balanced _ rfl⟩

/-- An environment in which every capture gives one text, of the length of its question. -/
def Env.numbered : Env :=
  { Env.reliable with
    capture := fun n _ _ => some (1, #v[some (List.replicate n 0x61), none, none, none, none, none]) }

theorem Env.numbered_issues {n : Nat} {text : Text} (h : Env.numbered.Issues n text) :
    text = List.replicate n 0x61 := by
  obtain ⟨tid, event, argument_count, decoded_arguments, hcapture, hmem⟩ := h
  have hsame := Option.some.inj hcapture
  rw [← (Prod.mk.inj hsame).2] at hmem
  exact List.mem_singleton.mp hmem

theorem Env.numbered_tokens : Env.numbered.Tokens where
  once n tid event argument_count decoded_arguments hcapture := by
    have hsame := Option.some.inj hcapture
    rw [← (Prod.mk.inj hsame).2]
    exact List.nodup_singleton _
  fresh m n text hm hn := by
    have hlength := congrArg List.length ((numbered_issues hm).symm.trans (numbered_issues hn))
    rwa [List.length_replicate, List.length_replicate] at hlength

/-- A call is interrupted, another one is entered, and the task is renamed. -/
def renamed_in_call : List SlotOperation :=
  [.add_tracee 100 100 false false, .begin_syscall 100 0 (Vector.replicate 6 0),
    .finish_syscall 100 (-512) true, .begin_syscall 100 59 (Vector.replicate 6 0),
    .migrate_exec_tid 101 100]

/-- Both slots of the record are full when the cleanup begins. -/
theorem slots_disciplined_renamed :
    let c := finalState (renamed_in_call.forM
      (SlotOperation.run (.plain .SG_FORMAT_TEXT) .numbered)) .init
    c.tracees.texts.length = 2 ∧ c.released = [] ∧ c.release_all_tracees.released.Nodup ∧
      c.release_all_tracees.released.length = 2 :=
  ⟨by decide +kernel, by decide +kernel,
    (((slots_disciplined (.plain .SG_FORMAT_TEXT) .numbered).1 renamed_in_call).2.once
      Env.numbered_tokens), by decide +kernel⟩

end discipline

end Sysgaze
