import Sysgaze.Descendants

/-! # The root task

    `root_tid`, `root_status` and `root_status_known` say which task was launched
    and how it ended.  `Root.after` is what a report does to them: an exec renames
    the root, and the exit of a registered task with the TID of the root is
    recorded.  Nothing else touches them (`Grows`).

    The refinement: a round that does not fail does exactly this
    (`loop_round_root`).  A round that fails leaves no task in the table but
    those that were there, the one that has stopped and the child that is named
    (`loop_round_leaves`).
-/

open Fallible Stepping

namespace Sysgaze

/-- What the context says about the task that was launched. -/
structure Root where
  tid : Pid
  status : Int
  known : Bool

/-- The root of a context. -/
def Context.root (context : Context) : Root :=
  ⟨context.root_tid, context.root_status, context.root_status_known⟩

/-- The exit status of a task: its code, or 128 plus the signal. -/
def WaitStatus.exit_code : WaitStatus → Int
  | .exited code => code
  | .signaled signal => 128 + signal
  | _ => 0

/-- The root after a report. -/
def Root.after (registry : Registry) (root : Root) (report : Report) : Root :=
  match report.waited with
  | .status waited status answers =>
    match status with
    | .exited _ | .signaled _ =>
      if waited = root.tid ∧ registry waited ≠ none then
        { root with status := status.exit_code, known := true }
      else root
    | .stopped _ _ =>
      if status.former answers = some root.tid ∧ root.tid ≠ waited ∧
          (registry root.tid ≠ none ∨ registry waited ≠ none) then { root with tid := waited }
      else root
    | .continued => root
  | _ => root

/-- From `c` to `c'` the root is the same, and only these tasks may be new in the table. -/
structure Grows (c : Context) (tids : List Pid) (c' : Context) : Prop where
  root : c'.root = c.root
  known : ∀ tid, c'.registry tid ≠ none → c.registry tid ≠ none ∨ tid ∈ tids

section registry
variable {registry : Registry} {tid waited : Pid}

theorem Registry.set_bound {flag : Option Bool} (h : registry.set waited flag tid ≠ none) :
    tid = waited ∨ registry tid ≠ none := by
  unfold Registry.set at h
  split at h
  · rename_i heq
    exact Or.inl heq
  · exact Or.inr h

theorem Registry.register_bound (h : registry.register waited tid ≠ none) :
    tid = waited ∨ registry tid ≠ none := by
  unfold Registry.register at h
  split at h
  · exact Registry.set_bound h
  · exact Or.inr h

theorem Registry.rename_bound {former : Pid} (h : registry.rename waited former tid ≠ none) :
    tid = waited ∨ registry tid ≠ none := by
  unfold Registry.rename at h
  split at h
  · exact Or.inr h
  · obtain heq | hmid := Registry.set_bound h
    · exact Or.inl heq
    · unfold Registry.set at hmid
      split at hmid
      · exact absurd rfl hmid
      · exact Or.inr hmid

end registry

section grows
variable {config : Config} {env : Env} {c c' c'' : Context} {tracee : Tracee} {tid : Pid}
  {tids tids' : List Pid}

theorem Grows.refl (c : Context) : Grows c [] c := ⟨rfl, fun _ h => Or.inl h⟩

theorem Grows.trans (h : Grows c tids c') (h' : Grows c' tids' c'') :
    Grows c (tids ++ tids') c'' := by
  refine ⟨h'.root.trans h.root, fun tid hknown => ?_⟩
  obtain hmid | hnew := h'.known tid hknown
  · obtain hold | hnew := h.known tid hmid
    · exact Or.inl hold
    · exact Or.inr (List.mem_append_left _ hnew)
  · exact Or.inr (List.mem_append_right _ hnew)

theorem Grows.mono (h : Grows c tids c') (hsub : ∀ tid ∈ tids, tid ∈ tids') : Grows c tids' c' :=
  ⟨h.root, fun tid hknown => (h.known tid hknown).imp_right (hsub tid)⟩

theorem Context.registry_ne_none : c.registry tid ≠ none ↔ (c.tracees.lookup tid).isSome := by
  rw [ne_eq, Context.registry_none, Option.isSome_iff_ne_none]

/-- The table is the same, and so is the root. -/
theorem Grows.of_eq (hroot : c'.root = c.root) (htracees : c'.tracees = c.tracees) :
    Grows c [] c' := by
  refine ⟨hroot, fun tid hknown => Or.inl ?_⟩
  unfold Context.registry at *
  rwa [htracees] at hknown

theorem root_of_rest (h : c'.rest = c.rest) : c'.root = c.root := by
  have htid := congrArg Context.Rest.root_tid h
  have hstatus := congrArg Context.Rest.root_status h
  have hknown := congrArg Context.Rest.root_status_known h
  unfold Context.root
  rw [show c'.root_tid = c.root_tid from htid, show c'.root_status = c.root_status from hstatus,
    show c'.root_status_known = c.root_status_known from hknown]

theorem Frame.grows (h : Frame c tid c') : Grows c [] c' := by
  refine ⟨root_of_rest h.rest, fun other hknown => Or.inl ?_⟩
  rw [h.moves.registry] at hknown
  exact hknown

theorem Writes.grows {events : List Event} (h : Writes config c events c') : Grows c [] c' :=
  .of_eq (root_of_rest h.rest) h.tracees

theorem Breaks.grows {events : List Event} (h : Breaks config c events c') : Grows c [] c' :=
  .of_eq (root_of_rest h.rest) h.tracees

theorem Unchanged.grows (h : Unchanged c c') : Grows c [] c' :=
  .of_eq (root_of_rest h.rest) h.tracees

theorem Registers.grows {tgid : Pid} {attached newborn : Bool}
    (h : Registers c tid tgid attached newborn c') : Grows c [tid] c' := by
  refine ⟨root_of_rest h.rest, fun other hknown => ?_⟩
  rw [Context.registry_ne_none] at hknown ⊢
  rw [h.lookup] at hknown
  split at hknown
  · rename_i heq
    exact Or.inr (List.mem_singleton.mpr heq.1)
  · exact Or.inl hknown

/-- A record of the table is stored. -/
theorem Grows.store {t : Tracee} (h : Grows c tids c') :
    Grows c tids { c' with tracees := c'.tracees.write t } := by
  refine ⟨h.root, fun other hknown => h.known other ?_⟩
  rw [Context.registry_ne_none] at hknown ⊢
  have hknown : ((c'.tracees.write t).lookup other).isSome := hknown
  rw [Tracees.lookup_write] at hknown
  split at hknown
  · rename_i heq
    rw [heq.1]
    exact heq.2
  · exact hknown

/-! ### Stops -/

theorem write_stamped_grows (data : EventData) :
    Holds (write_stamped config env tracee data) c (fun _ c' => Grows c [] c')
      (fun _ c' => Grows c [] c') := by
  apply (write_stamped_spec tracee data).mono
  · intro _ c' hpost
    rcases hpost with ⟨_, _, _, hw⟩
    exact hw.grows
  · intro _ c' hpost
    rcases hpost with ⟨_, _, hb⟩
    exact hb.grows

theorem handle_exec_event_grows (hold : c.tracees.lookup tracee.tid = some tracee) :
    Holds (handle_exec_event config env tracee) c (fun _ c' => Grows c [] c')
      (fun _ c' => Grows c [] c') := by
  have h₀ : Grows c [] (c.exec_observed tracee) := by
    refine .of_eq ?_ (c.exec_observed_tracees tracee)
    unfold Context.exec_observed
    split
    · rfl
    · rfl
  have hold₀ : (c.exec_observed tracee).tracees.lookup tracee.tid = some tracee := by
    rw [Context.exec_observed_tracees]
    exact hold
  rw [holds_handle_exec_event]
  constructor
  · intro _
    apply (complete_exec_spec hold₀).mono
    · intro mid c₁ hpost
      rcases hpost with ⟨exited_at, events, _, hmid, hu⟩
      exact (h₀.trans (hu.frame hold₀ (by rw [hmid]; rfl)).grows).store
    · intro _ c₁ hpost
      rcases hpost with ⟨events, _, hf⟩
      exact h₀.trans hf.toFrame.grows
  · intro _
    exact h₀.store

theorem handle_child_event_grows {stop : Int} (hsyscall : stop ≠ SYSCALL_STOP) {ptrace_event : Nat}
    (hevent : is_child_event ptrace_event = true) (answers : Answers) :
    Holds (handle_child_event config env tracee ptrace_event answers) c
      (fun _ c' => Grows c (WaitStatus.child (.stopped stop ptrace_event) answers).toList c')
      (fun _ c' => Grows c (WaitStatus.child (.stopped stop ptrace_event) answers).toList c') := by
  have hchild : WaitStatus.child (.stopped stop ptrace_event) answers =
      answers.eventmsg.map fun message => (message : Pid) := if_pos ⟨hsyscall, hevent⟩
  rw [hchild]
  have h₀ : Grows c [] (c.asking .PTRACE_GETEVENTMSG tracee.tid) := .of_eq rfl rfl
  unfold handle_child_event
  rw [holds_bind, holds_measured_ptrace]
  show Holds _ (c.asking .PTRACE_GETEVENTMSG tracee.tid) _ _
  cases answers.eventmsg with
  | none =>
    simp only [Option.getD_none, true_or, if_true, holds_throw]
    exact h₀
  | some message =>
    simp only [Option.getD_some, holds_ite, holds_throw, holds_bind, holds_onError]
    refine ⟨fun _ => h₀.mono (by simp), fun _ => ?_⟩
    apply (add_tracee_spec _ _ _ _).mono
    · intro _ c₁ hpost
      rcases hpost with ⟨_, _, hreg⟩
      have h₁ : Grows c [(message : Pid)] c₁ := h₀.trans hreg.grows
      simp only [holds_get, Tracees.get_eq]
      cases c₁.tracees.lookup tracee.tid with
      | none => exact h₁
      | some parent =>
        apply (write_stamped_grows _).mono
        · intro _ c₂ h₂
          exact (h₁.trans h₂).mono (by simp)
        · intro _ c₂ h₂
          exact (h₁.trans h₂).mono (by simp)
    · intro _ c₁ hpost
      rcases hpost with ⟨hsame, _⟩
      have h₁ : Grows c [] c₁ := h₀.trans hsame.grows
      have habandon : Grows c₁ [] (c₁.abandon_child message tracee.attached) := by
        unfold Context.abandon_child
        split
        · exact .of_eq rfl rfl
        · exact .of_eq rfl rfl
      exact (h₁.trans habandon).mono (by simp)

theorem handle_signal_stop_grows (stop : Int) (answer : SigInfoAnswer) :
    Holds (handle_signal_stop config env tracee stop answer) c (fun _ c' => Grows c [] c')
      (fun _ c' => Grows c [] c') := by
  have h₀ : Grows c [] (c.asking .PTRACE_GETSIGINFO tracee.tid) := .of_eq rfl rfl
  unfold handle_signal_stop
  rw [holds_bind, holds_measured_ptrace]
  show Holds _ (c.asking .PTRACE_GETSIGINFO tracee.tid) _ _
  cases answer with
  | ok signal_info =>
    simp only [holds_bind, holds_store, holds_pure]
    apply (write_stamped_grows _).mono
    · intro _ c₁ h₁
      exact h₀.store.trans h₁
    · intro _ c₁ h₁
      exact h₀.store.trans h₁
  | einval =>
    simp only [holds_ite, holds_bind, holds_store, holds_pure, holds_throw]
    exact ⟨fun _ => h₀.store, fun _ => h₀⟩
  | failed => exact h₀

/-- **A stop** of a registered task adds at most the child that is named. -/
theorem handle_stop_grows (hold : c.tracees.lookup tracee.tid = some tracee) (stop : Int)
    (ptrace_event : Nat) (answers : Answers) :
    Holds (handle_stop config env tracee stop ptrace_event answers) c
      (fun _ c' => Grows c (WaitStatus.child (.stopped stop ptrace_event) answers).toList c')
      (fun _ c' => Grows c (WaitStatus.child (.stopped stop ptrace_event) answers).toList c') := by
  have hnothing : ∀ {c' : Context}, Grows c [] c' →
      Grows c (WaitStatus.child (.stopped stop ptrace_event) answers).toList c' :=
    fun h => h.mono (by simp)
  have hasked : ∀ {c' : Context}, Frame (c.asking .PTRACE_GET_SYSCALL_INFO tracee.tid) tracee.tid c' →
      Grows c [] c' := by
    intro c' hframe
    have h₀ : Grows c [] (c.asking .PTRACE_GET_SYSCALL_INFO tracee.tid) := .of_eq rfl rfl
    exact h₀.trans hframe.grows
  unfold handle_stop
  rw [holds_ite]
  constructor
  · intro _
    rw [holds_bind]
    apply (handle_syscall_stop_frame hold _).mono
    · intro _ _ h
      exact hnothing (hasked h)
    · intro _ _ h
      exact hnothing (hasked h)
  intro hsyscall
  rw [holds_ite]
  constructor
  · intro _
    rw [holds_ite]
    exact ⟨fun _ => hnothing (Grows.refl c).store, fun _ => hnothing (Grows.refl c).store⟩
  intro _
  rw [holds_ite]
  constructor
  · intro _
    rw [holds_bind]
    unfold handle_ptrace_event
    split
    · apply (handle_seccomp_stop_frame hold _).mono
      · intro _ _ h
        exact hnothing (hasked h)
      · intro _ _ h
        exact hnothing (hasked h)
    · split
      · apply (handle_exec_event_grows hold).mono
        · intro _ _ h
          exact hnothing h
        · intro _ _ h
          exact hnothing h
      · split
        · exact hnothing (.refl c)
        · rename_i hchild
          have hevent : is_child_event ptrace_event = true := by
            unfold is_child_event
            by_contra hno
            apply hchild
            simpa only [Bool.or_eq_true, beq_iff_eq, not_or, and_assoc] using hno
          exact handle_child_event_grows hsyscall hevent answers
  intro _
  rw [holds_ite]
  constructor
  · intro _
    exact hnothing (Grows.refl c).store
  · intro _
    apply (handle_signal_stop_grows stop answers.signal_info).mono
    · intro _ _ h
      exact hnothing h
    · intro _ _ h
      exact hnothing h

theorem restart_tracee_grows (delivery_signal : Int) (listen : Bool) (answer : RestartAnswer) :
    Holds (restart_tracee config env tid delivery_signal listen answer) c
      (fun _ c' => Grows c [] c') (fun _ c' => Grows c [] c') := by
  have hasked : ∀ tracee, Grows c [] (c.asked_restart config tracee delivery_signal listen) :=
    fun _ => .of_eq rfl rfl
  apply holds_restart_tracee
  · intro _
    exact .refl c
  · intro tracee _ _
    exact (hasked tracee).store
  · intro tracee _ _
    exact hasked tracee
  · intro tracee _ _
    exact hasked tracee

/-! ### Rounds -/

/-- Tasks have been removed from the table. -/
theorem Drops.grows (hd : Drops c tids c') (hroot : c'.root = c.root) : Grows c [] c' := by
  refine ⟨hroot, fun tid htid => Or.inl ?_⟩
  rw [Context.registry_ne_none] at htid ⊢
  rw [hd.lookup] at htid
  split at htid
  · simp at htid
  · exact htid

/-- The root is renamed when it is the task that has taken another TID. -/
theorem migrate_exec_tid_root (waited former : Pid) :
    Holds (migrate_exec_tid config env waited former) c
      (fun _ c' => c'.root =
        if former = c.root.tid ∧ c.root.tid ≠ waited ∧
            (c.registry c.root.tid ≠ none ∨ c.registry waited ≠ none) then
          { c.root with tid := waited }
        else c.root)
      (fun _ c' => Grows c [] c') := by
  apply holds_migrate_exec_tid
  · intro heq
    rw [if_neg]
    rw [heq]
    exact fun h => h.2.1 h.1.symm
  · intro source dropped hne hd hrest hsource
    have hroot : dropped.root = c.root := root_of_rest hrest
    have hknown : c.registry former ≠ none ∨ c.registry waited ≠ none := by
      rw [Context.registry_ne_none, Context.registry_ne_none]
      obtain hs | ⟨_, hw⟩ := hsource
      · exact Or.inl (by rw [hs]; rfl)
      · exact Or.inr (by rw [hw]; rfl)
    have hdropped : Grows c [] dropped := hd.grows hroot
    unfold migrate_source
    simp only [holds_bind, holds_onError, holds_store, holds_zoom, holds_modify]
    apply (add_tracee_spec waited waited source.attached false).mono
    · intro _ c₁ hpost
      rcases hpost with ⟨_, _, hreg⟩
      have hroot₁ : c₁.root = c.root := (root_of_rest hreg.rest).trans hroot
      have htid₁ : c₁.root_tid = c.root.tid := congrArg Root.tid hroot₁
      apply (sg_output_migrate_tid_spec former waited).mono
      · intro _ o _
        by_cases heq : former = c.root.tid
        · rw [if_pos (show c₁.root_tid = former by rw [htid₁, heq]),
            if_pos ⟨heq, heq ▸ hne, heq ▸ hknown⟩]
          show Root.mk waited c₁.root_status c₁.root_status_known = _
          rw [← hroot₁]
          rfl
        · rw [if_neg (show ¬c₁.root_tid = former by rw [htid₁]; exact fun h => heq h.symm),
            if_neg fun h => heq h.1]
          exact hroot₁
      · intro _ _ h
        exact h
    · intro _ c₁ hpost
      rcases hpost with ⟨hsame, _⟩
      have hreleased : Grows c₁ [] (c₁.release_tracee
          { source with tid := waited, tgid := waited, newborn := false }) := .of_eq rfl rfl
      exact (hdropped.trans hsame.grows).trans hreleased
  · intro dropped hne hd hrest hs hw
    have hnone : ∀ tid, tid = former ∨ tid = waited → c.registry tid = none := by
      intro tid htid
      rw [Context.registry_none]
      obtain rfl | rfl := htid
      · exact hs
      · exact hw
    have hdropped : Grows c [] dropped := hd.grows (root_of_rest hrest)
    simp only [holds_bind, holds_zoom]
    apply (add_tracee_spec waited waited _ false).mono
    · intro _ c₁ hpost
      rcases hpost with ⟨_, _, hreg⟩
      have hroot₁ : c₁.root = c.root := (root_of_rest hreg.rest).trans hdropped.root
      apply (sg_output_migrate_tid_spec former waited).mono
      · intro _ o _
        rw [if_neg]
        · exact hroot₁
        · intro h
          rcases h with ⟨hroot, _, hknown⟩
          obtain h | h := hknown
          · exact h (hnone _ (Or.inl hroot.symm))
          · exact h (hnone _ (Or.inr rfl))
      · intro _ _ h
        exact h
    · intro _ c₁ hpost
      rcases hpost with ⟨hsame, _⟩
      exact hdropped.trans hsame.grows

/-- The root after the exec event of a report has been looked at. -/
theorem observe_exec_root (waited : Pid) (stop : Int) (ptrace_event : Nat) (answers : Answers)
    (shutdown_signal : Int) :
    Holds (observe_exec config env waited (.stopped stop ptrace_event) answers) c
      (fun _ c' => c'.root = c.root.after c.registry
        ⟨.status waited (.stopped stop ptrace_event) answers, shutdown_signal⟩)
      (fun _ c' => Grows c [] c') := by
  -- What is known about the TID that is given up decides.
  have hafter : ∀ former, WaitStatus.former (.stopped stop ptrace_event) answers = former →
      c.root.after c.registry
          ⟨.status waited (.stopped stop ptrace_event) answers, shutdown_signal⟩ =
        if former = some c.root.tid ∧ c.root.tid ≠ waited ∧
            (c.registry c.root.tid ≠ none ∨ c.registry waited ≠ none) then
          { c.root with tid := waited }
        else c.root := by
    rintro _ rfl
    rfl
  unfold observe_exec
  dsimp only
  by_cases hexec : ptrace_event = PTRACE_EVENT_EXEC
  · rw [if_pos hexec, holds_bind, holds_measured_ptrace]
    have h₀ : Grows c [] (c.asking .PTRACE_GETEVENTMSG waited) := .of_eq rfl rfl
    show Holds _ (c.asking .PTRACE_GETEVENTMSG waited) _ _
    cases hmessage : answers.eventmsg with
    | none => exact h₀
    | some former =>
      have hformer : WaitStatus.former (.stopped stop ptrace_event) answers =
          some (former : Pid) := by
        unfold WaitStatus.former
        dsimp only
        rw [if_pos hexec, hmessage]
        rfl
      simp only [holds_ite, holds_throw]
      refine ⟨fun _ => h₀, fun _ => ?_⟩
      apply (migrate_exec_tid_root waited former).mono
      · intro _ c' h
        rw [hafter _ hformer, h]
        simp only [Option.some.injEq]
        rfl
      · intro _ c' h
        exact h₀.trans h
  · have hformer : WaitStatus.former (.stopped stop ptrace_event) answers = none := if_neg hexec
    rw [if_neg hexec, holds_pure, hafter _ hformer, if_neg (by simp)]

theorem find_tracee_grows (waited : Pid) (status : WaitStatus) (answers : Answers) :
    Holds (find_tracee config env waited status answers) c
      (fun found c' => found = c'.tracees.lookup waited ∧ Grows c [waited] c')
      (fun _ c' => Grows c [] c') := by
  have hsame : Grows c [waited] c := (Grows.refl c).mono (by simp)
  unfold find_tracee
  rw [holds_bind, holds_get, Tracees.get_eq]
  cases hknown : c.tracees.lookup waited with
  | some tracee => exact ⟨hknown.symm, hsame⟩
  | none =>
    cases status with
    | stopped stop ptrace_event =>
      dsimp only
      rw [holds_ite]
      constructor
      · intro _
        rw [holds_bind]
        apply (add_tracee_spec waited _ _ true).mono
        · intro _ c' hpost
          rcases hpost with ⟨_, _, hreg⟩
          rw [holds_bind, holds_get, holds_pure, Tracees.get_eq]
          exact ⟨rfl, hreg.grows⟩
        · intro _ c' hpost
          rcases hpost with ⟨hunchanged, _⟩
          exact hunchanged.grows
      · intro _
        exact ⟨hknown.symm, hsame⟩
    | _ => exact ⟨hknown.symm, hsame⟩

theorem remove_tracee_root (tid : Pid) {E : String → Context → Prop} :
    Holds (remove_tracee tid) c (fun _ c' => c'.root = c.root) E := by
  unfold remove_tracee
  rw [holds_modify]
  dsimp only
  split
  · rfl
  · rfl

/-- **The exit** of a task is recorded for the root. -/
theorem handle_exit_root (status : WaitStatus) :
    Holds (handle_exit config env tracee tracee.tid status) c
      (fun _ c' => c'.root =
        if tracee.tid = c.root.tid then { c.root with status := status.exit_code, known := true }
        else c.root)
      (fun _ c' => Grows c [] c') := by
  have h₀ : Grows c [] { c with
      tracees := c.tracees.write { tracee with phase := .SG_TRACEE_GONE } } := (Grows.refl c).store
  have hreported : Holds (report_exit config env { tracee with phase := .SG_TRACEE_GONE } status)
      { c with tracees := c.tracees.write { tracee with phase := .SG_TRACEE_GONE } }
      (fun _ c' => Grows c [] c') (fun _ c' => Grows c [] c') := by
    apply holds_report_exit
    · intro exit
      apply (write_stamped_grows _).mono
      · intro _ _ h
        exact h₀.trans h
      · intro _ _ h
        exact h₀.trans h
    · exact h₀
  unfold handle_exit
  rw [holds_bind, holds_store, holds_bind, holds_get, holds_ite]
  refine ⟨fun _ => h₀, fun _ => ?_⟩
  rw [holds_bind]
  apply hreported.mono
  · intro _ c₁ h₁
    have htid : c₁.root_tid = c.root.tid := congrArg Root.tid h₁.root
    unfold record_exit_status
    rw [holds_bind, holds_modify]
    apply (remove_tracee_root tracee.tid).mono
    · intro _ _ hremoved
      rw [hremoved]
      by_cases hroot : tracee.tid = c.root.tid
      · rw [if_pos hroot, if_pos (show tracee.tid = c₁.root_tid by rw [htid, hroot]), ← h₁.root]
        cases status with
        | _ => rfl
      · rw [if_neg hroot, if_neg (show ¬tracee.tid = c₁.root_tid by rw [htid]; exact hroot)]
        exact h₁.root
    · intro _ _ h
      exact h
  · intro _ _ h
    exact h

/-- From `c` to `c'` a round has failed: the root is the same, unless it is the task that has
    stopped, and no task is in the table but those that were there, the one that has stopped
    and the child that is named. -/
structure Leaves (c : Context) (report : Report) (c' : Context) : Prop where
  root : c'.root.tid = c.root.tid ∨ report.stops = some c'.root.tid
  known : ∀ tid, c'.registry tid ≠ none →
    c.registry tid ≠ none ∨ report.stops = some tid ∨ report.child = some tid
  exits : ∀ tid, report.ends = some tid → c.registry tid ≠ none

theorem Root.after_tid (registry : Registry) (root : Root) (report : Report) :
    (root.after registry report).tid = root.tid ∨
      report.stops = some (root.after registry report).tid := by
  unfold Root.after Report.stops
  cases report.waited with
  | status waited status answers =>
    cases status with
    | stopped stop ptrace_event =>
      dsimp only
      split
      · exact Or.inr rfl
      · exact Or.inl rfl
    | continued => exact Or.inl rfl
    | _ =>
      dsimp only
      split
      · exact Or.inl rfl
      · exact Or.inl rfl
  | _ => exact Or.inl rfl

theorem handle_status_root (waited : Pid) (status : WaitStatus) (answers : Answers)
    (shutdown_signal : Int) :
    Holds (handle_status config env waited status answers shutdown_signal) c
      (fun _ c' => c'.root =
        c.root.after c.registry ⟨.status waited status answers, shutdown_signal⟩)
      (fun _ c' => Leaves c ⟨.status waited status answers, shutdown_signal⟩ c') := by
  -- The end of a task.
  have hexit : (∃ code, status = .exited code) ∨ (∃ signal, status = .signaled signal) →
      Holds (handle_status config env waited status answers shutdown_signal) c
        (fun _ c' => c'.root =
          if waited = c.root.tid ∧ c.registry waited ≠ none then
            { c.root with status := status.exit_code, known := true }
          else c.root)
        (fun _ c' => Grows c [] c' ∧ c.registry waited ≠ none) := by
    intro hended
    apply holds_handle_status_ended hended
    · intro hknown
      rw [if_neg]
      exact fun h => h.2 (Context.registry_none.mpr hknown)
    · intro tracee htid hknown
      have hself : c.registry tracee.tid ≠ none := by
        rw [Context.registry_ne_none, hknown]
        rfl
      rw [← htid]
      apply (handle_exit_root status).mono
      · intro _ c' h
        rw [h]
        by_cases hroot : tracee.tid = c.root.tid
        · rw [if_pos hroot, if_pos ⟨hroot, hself⟩]
        · rw [if_neg hroot, if_neg fun h => hroot h.1]
      · intro _ c' h
        exact ⟨h, hself⟩
  have hends : ∀ {status : WaitStatus} {c' : Context}, Grows c [] c' → c.registry waited ≠ none →
      Leaves c ⟨.status waited status answers, shutdown_signal⟩ c' := by
    intro status c' h hself
    refine ⟨Or.inl (congrArg Root.tid h.root), fun tid hknown => ?_, fun tid hends => ?_⟩
    · exact Or.inl ((h.known tid hknown).elim id fun hnew => by simp at hnew)
    · unfold Report.ends at hends
      split at hends
      · rename_i heq
        cases heq
        rwa [← Option.some.inj hends]
      · rename_i heq
        cases heq
        rwa [← Option.some.inj hends]
      · simp at hends
  cases status with
  | continued =>
    apply holds_handle_status_continued
    · intro _
      exact rfl
    · intro _ _ _
      exact rfl
  | exited code =>
    apply (hexit (Or.inl ⟨code, rfl⟩)).mono
    · intro _ _ h
      exact h
    · intro _ _ hpost
      rcases hpost with ⟨h, hself⟩
      exact hends h hself
  | signaled signal =>
    apply (hexit (Or.inr ⟨signal, rfl⟩)).mono
    · intro _ _ h
      exact h
    · intro _ _ hpost
      rcases hpost with ⟨h, hself⟩
      exact hends h hself
  | stopped stop ptrace_event =>
    let report : Report := ⟨.status waited (.stopped stop ptrace_event) answers, shutdown_signal⟩
    have hstops : report.stops = some waited := rfl
    have hnone : ∀ tid, report.ends ≠ some tid := fun tid h => by simp [report, Report.ends] at h
    unfold handle_status
    rw [holds_bind]
    apply ((observe_exec_root waited stop ptrace_event answers shutdown_signal).and
      (observe_exec_moves waited stop ptrace_event answers)).mono
    · intro _ c₁ hpost
      rcases hpost with ⟨hroot₁, hmoves₁, _⟩
      -- Whatever is known now was known, or has stopped.
      have hknown₁ : ∀ tid, c₁.registry tid ≠ none →
          c.registry tid ≠ none ∨ report.stops = some tid := by
        intro tid htid
        rw [hmoves₁.registry] at htid
        cases hformer : WaitStatus.former (.stopped stop ptrace_event) answers with
        | none =>
          rw [hformer] at htid
          exact Or.inl htid
        | some former =>
          rw [hformer] at htid
          obtain hw | hold := Registry.rename_bound htid
          · exact Or.inr (by rw [hstops, hw])
          · exact Or.inl hold
      have hleaves : ∀ {c' : Context} {tids : List Pid}, Grows c₁ tids c' →
          (∀ tid ∈ tids, report.stops = some tid ∨ report.child = some tid) →
          Leaves c report c' := by
        intro c' tids h htids
        refine ⟨?_, fun tid hknown => ?_, fun tid hends => absurd hends (hnone tid)⟩
        · rw [h.root, hroot₁]
          exact Root.after_tid c.registry c.root report
        · obtain hmid | hnew := h.known tid hknown
          · exact (hknown₁ tid hmid).imp_right Or.inl
          · exact Or.inr (htids tid hnew)
      rw [holds_bind]
      apply (find_tracee_grows waited (.stopped stop ptrace_event) answers).mono
      · intro found c₂ hpost
        rcases hpost with ⟨hfound, h₂⟩
        rw [hfound]
        cases hknown : c₂.tracees.lookup waited with
        | none =>
          show c₂.root = _
          rw [h₂.root, hroot₁]
        | some tracee =>
          have htid : tracee.tid = waited := Tracees.lookup_tid hknown
          have hold : c₂.tracees.lookup tracee.tid = some tracee := by rw [htid, hknown]
          let stopped : Tracee :=
            { tracee with in_ptrace_stop := true, phase := .SG_TRACEE_STOPPED }
          have h₃ : Grows c₁ [waited] { c₂ with tracees := c₂.tracees.write stopped } := h₂.store
          have hold₃ : (c₂.tracees.write stopped).lookup stopped.tid = some stopped := by
            rw [Tracees.lookup_write]
            exact if_pos ⟨rfl, by show (c₂.tracees.lookup tracee.tid).isSome = true; rw [hold]; rfl⟩
          have hnew : ∀ tid ∈ [waited] ++
              (WaitStatus.child (.stopped stop ptrace_event) answers).toList,
              report.stops = some tid ∨ report.child = some tid := by
            intro tid htid
            obtain hw | hc := List.mem_append.mp htid
            · exact Or.inl (by rw [hstops, List.mem_singleton.mp hw])
            · exact Or.inr (Option.mem_toList.mp hc)
          simp only [holds_bind, holds_store, holds_pure]
          apply (handle_stop_grows hold₃ stop ptrace_event answers).mono
          · intro result c₄ h₄
            have h := h₃.trans h₄
            apply (restart_tracee_grows result.1 result.2 answers.restart).mono
            · intro _ c₅ h₅
              rw [h₅.root, h.root, hroot₁]
            · intro _ c₅ h₅
              exact hleaves (h.trans h₅) (by simpa using hnew)
          · intro _ c₄ h₄
            exact hleaves (h₃.trans h₄) hnew
      · intro _ c₂ h₂
        exact hleaves h₂ (by simp)
    · intro _ c₁ hpost
      rcases hpost with ⟨h₁, _⟩
      refine ⟨Or.inl (congrArg Root.tid h₁.root), fun tid hknown => ?_,
        fun tid hends => absurd hends (hnone tid)⟩
      exact Or.inl ((h₁.known tid hknown).elim id fun hnew => by simp at hnew)

/-- **A round** does to the root what the report says; one that fails adds no other tasks. -/
theorem loop_round_root (report : Report) :
    Holds (loop_round config env report) c
      (fun _ c' => c'.root = c.root.after c.registry report) (fun _ c' => Leaves c report c') := by
  obtain ⟨waited, shutdown_signal⟩ := report
  unfold loop_round
  cases waited with
  | eintr => exact rfl
  | failed => exact ⟨Or.inl rfl, fun _ h => Or.inl h, fun _ h => by simp [Report.ends] at h⟩
  | status waited status answers => exact handle_status_root waited status answers shutdown_signal

end grows

end Sysgaze
