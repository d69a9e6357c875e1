import Sysgaze.Registry

/-! # Descendants come and go in any order

    With `-f` a child can be reported before or after the `fork`, `vfork` or
    `clone` event of its parent.  The table should hold the tasks that are
    known and have not gone: those that were there from the start, have
    stopped, or have been named as a child, less those whose exit has been
    reported and those that have taken another TID in an exec.

    `tracks_tasks_iff`: at every head of the loop it does, exactly when no
    event names a child whose exit has already been reported.
    `tracks_tasks_ghost`: such a child is added to the table and never removed.
-/

open Fallible Stepping

namespace Sysgaze

/-! ### What a report says about tasks -/

/-- The task that is reported. -/
def Report.task (report : Report) : Option Pid :=
  match report.waited with
  | .status waited _ _ => some waited
  | _ => none

/-- The task that has stopped. -/
def Report.stops (report : Report) : Option Pid :=
  match report.waited with
  | .status waited (.stopped _ _) _ => some waited
  | _ => none

/-- The child that is named. -/
def Report.child (report : Report) : Option Pid :=
  match report.waited with
  | .status _ status answers => status.child answers
  | _ => none

/-- The task whose exit is reported. -/
def Report.ends (report : Report) : Option Pid :=
  match report.waited with
  | .status waited (.exited _) _ => some waited
  | .status waited (.signaled _) _ => some waited
  | _ => none

/-- The TID that is given up in an exec. -/
def Report.leaves (report : Report) : Option Pid :=
  match report.waited with
  | .status waited status answers => (status.former answers).filter fun former => former ≠ waited
  | _ => none

/-- The exit of the task has been reported. -/
def Exited (h : List Report) (tid : Pid) : Prop := ∃ report ∈ h, report.ends = some tid

/-- The task has taken another TID. -/
def Renamed (h : List Report) (tid : Pid) : Prop := ∃ report ∈ h, report.leaves = some tid

/-- There is no such task any more. -/
def Gone (h : List Report) (tid : Pid) : Prop := Exited h tid ∨ Renamed h tid

/-- The loop has been told of the task. -/
def Known (start : Context) (h : List Report) (tid : Pid) : Prop :=
  (start.tracees.lookup tid).isSome ∨ ∃ report ∈ h, report.stops = some tid ∨ report.child = some tid

/-- **The order of reports** that the kernel keeps: nothing is reported about a task that
    is gone, and a TID that was given up in an exec is not the TID of a new child. -/
def TaskOrder (h : List Report) (_ : Context) (report : Report) : Prop :=
  (∀ tid ∈ report.task, ¬Gone h tid) ∧ ∀ child ∈ report.child, ¬Renamed h child

instance (h : List Report) (tid : Pid) : Decidable (Exited h tid) := by
  unfold Exited
  infer_instance

instance (h : List Report) (tid : Pid) : Decidable (Renamed h tid) := by
  unfold Renamed
  infer_instance

instance (h : List Report) (c : Context) (report : Report) : Decidable (TaskOrder h c report) := by
  unfold TaskOrder Gone
  infer_instance

/-- No event names a child whose exit has already been reported. -/
def ChildrenFirst (h : List Report) : Prop :=
  ∀ k : Fin h.length, ∀ child ∈ (h.get k).child, ¬Exited (h.take k) child

instance (h : List Report) : Decidable (ChildrenFirst h) := by
  unfold ChildrenFirst
  infer_instance

/-! ### The table -/

/-- The table holds the tasks that are known and have not gone, each once; when there are
    none left, the loop over the reports ends with the status of the command. -/
structure TracksTasks (config : Config) (env : Env) (start : Context) (h : List Report)
    (c : Context) : Prop where
  live : ∀ tid, (c.tracees.lookup tid).isSome ↔ Known start h tid ∧ ¬Gone h tid
  once : (c.tracees.records.map Tracee.tid).Nodup
  ends : (∀ tid, Known start h tid → Gone h tid) → ∀ rest,
    (trace_rounds config env (h ++ rest)).exec start = (.ok (some (exit_status config c)), c)

section tasks
variable {config : Config} {env : Env} {start c : Context} {h h' : List Report} {report : Report}
  {tid : Pid}

theorem exited_append : Exited (h ++ [report]) tid ↔ Exited h tid ∨ report.ends = some tid := by
  simp [Exited, or_and_right, exists_or]

theorem gone_append : Gone (h ++ [report]) tid ↔
    Gone h tid ∨ report.ends = some tid ∨ report.leaves = some tid := by
  simp only [Gone, Exited, Renamed, List.mem_append, List.mem_singleton, or_and_right, exists_or,
    exists_eq_left]
  rw [or_or_or_comm]

theorem known_append : Known start (h ++ [report]) tid ↔
    Known start h tid ∨ report.stops = some tid ∨ report.child = some tid := by
  simp only [Known, List.mem_append, List.mem_singleton, or_and_right, exists_or, exists_eq_left]
  rw [or_assoc]

theorem childrenFirst_append : ChildrenFirst (h ++ [report]) ↔
    ChildrenFirst h ∧ ∀ child ∈ report.child, ¬Exited h child := by
  constructor
  · intro hall
    refine ⟨fun k => ?_, ?_⟩
    · have := hall ⟨k.1, by rw [List.length_append]; omega⟩
      simpa [List.take_append_of_le_length (Nat.le_of_lt k.2)] using this
    · have := hall ⟨h.length, by simp⟩
      simpa using this
  · intro hpost k
    rcases hpost with ⟨hall, hlast⟩
    by_cases hk : k.1 < h.length
    · have := hall ⟨k.1, hk⟩
      simpa [List.take_append_of_le_length (Nat.le_of_lt hk), List.getElem_append_left hk] using this
    · have hlen : k.1 = h.length := by
        have hlt := k.2
        simp only [List.length_append, List.length_singleton] at hlt
        omega
      simpa [hlen] using hlast

theorem Registry.set_isSome (registry : Registry) (waited : Pid) (flag : Bool) :
    (registry.set waited (some flag) tid).isSome ↔ tid = waited ∨ (registry tid).isSome := by
  unfold Registry.set
  by_cases ht : tid = waited
  · simp [ht]
  · simp [ht]

theorem Registry.register_isSome (registry : Registry) (waited : Pid) :
    (registry.register waited tid).isSome ↔ tid = waited ∨ (registry tid).isSome := by
  unfold Registry.register
  by_cases hnone : registry waited = none
  · rw [if_pos hnone]
    exact registry.set_isSome waited true
  · rw [if_neg hnone]
    constructor
    · exact Or.inr
    · intro h
      obtain rfl | h := h
      · exact Option.isSome_iff_ne_none.mpr hnone
      · exact h

theorem Registry.rename_isSome (registry : Registry) {waited former : Pid}
    (hne : former ≠ waited) : (registry.rename waited former tid).isSome ↔
      tid = waited ∨ ((registry tid).isSome ∧ tid ≠ former) := by
  unfold Registry.rename Registry.set
  rw [if_neg hne]
  by_cases ht : tid = waited
  · simp [ht]
  · by_cases hf : tid = former
    · simp [hf, hne]
    · simp [ht, hf]

/-- A stop of a registered task adds its child and nothing else. -/
theorem Registry.stopped_isSome (registry : Registry) {waited : Pid}
    (hself : (registry waited).isSome) (stop : Int) (ptrace_event : Nat) (answers : Answers) :
    (registry.stopped waited stop ptrace_event answers tid).isSome ↔
      (registry tid).isSome ∨ WaitStatus.child (.stopped stop ptrace_event) answers = some tid := by
  have hset : (registry.set waited (some false) tid).isSome ↔ (registry tid).isSome := by
    rw [registry.set_isSome]
    constructor
    · intro h
      obtain rfl | h := h
      · exact hself
      · exact h
    · exact Or.inr
  unfold Registry.stopped
  by_cases hsyscall : stop = SYSCALL_STOP
  · have hchild : WaitStatus.child (.stopped stop ptrace_event) answers = none :=
      if_neg fun h => h.1 hsyscall
    simp [hsyscall ▸ hchild, hsyscall]
  · rw [if_neg hsyscall]
    by_cases hevent : ptrace_event = PTRACE_EVENT_STOP ∨ ptrace_event = PTRACE_EVENT_EXEC
    · have hchild : WaitStatus.child (.stopped stop ptrace_event) answers = none := by
        apply if_neg
        intro h
        obtain rfl | rfl := hevent
        · exact absurd h.2 (by decide)
        · exact absurd h.2 (by decide)
      rw [if_pos hevent, hset, hchild]
      simp
    · rw [if_neg hevent]
      by_cases hzero : ptrace_event = 0
      · have hchild : WaitStatus.child (.stopped stop ptrace_event) answers = none := by
          apply if_neg
          rw [hzero]
          exact fun h => absurd h.2 (by decide)
        rw [if_neg (not_not_intro hzero), hchild]
        split
        · rw [hset]
          simp
        · simp
      · rw [if_pos hzero]
        cases WaitStatus.child (.stopped stop ptrace_event) answers with
        | none => simp
        | some child =>
          show (registry.register child tid).isSome = true ↔ _
          rw [registry.register_isSome, Option.some.injEq, or_comm, @eq_comm _ tid child]

/-- The task that has stopped is registered; the TID that it gives up is not. -/
theorem Registry.arrive_isSome (hfollow : config.follow = true) (registry : Registry)
    (waited : Pid) (status : WaitStatus) (answers : Answers) :
    (registry.arrive config waited status answers tid).isSome ↔
      tid = waited ∨ ((registry tid).isSome ∧
        (status.former answers).filter (fun former => former ≠ waited) ≠ some tid) := by
  unfold Registry.arrive
  rw [if_pos hfollow]
  cases status.former answers with
  | none =>
    show (registry.register waited tid).isSome = true ↔ _
    rw [registry.register_isSome]
    simp
  | some former =>
    show ((registry.rename waited former).register waited tid).isSome = true ↔ _
    rw [Registry.register_isSome]
    by_cases hsame : former = waited
    · rw [Registry.rename, if_pos hsame]
      have hnone : (some former).filter (fun former => former ≠ waited) = none := by simp [hsame]
      rw [hnone]
      simp
    · rw [registry.rename_isSome hsame]
      by_cases ht : tid = waited
      · simp [ht]
      · simp [ht, Option.filter_some, hsame, @eq_comm _ tid former]

/-- **A round** adds the task that has stopped and the child that is named, and drops the
    task that has ended and the TID that is given up. -/
theorem Registry.after_isSome (hfollow : config.follow = true) (registry : Registry) :
    (registry.after config report tid).isSome ↔
      report.stops = some tid ∨ report.child = some tid ∨
        ((registry tid).isSome ∧ report.ends ≠ some tid ∧ report.leaves ≠ some tid) := by
  unfold Registry.after Report.stops Report.child Report.ends Report.leaves
  cases report.waited with
  | eintr => simp
  | failed => simp
  | status waited status answers =>
    cases status with
    | continued => simp [Registry.observe, WaitStatus.child, WaitStatus.former]
    | exited code =>
      simp only [Registry.observe, WaitStatus.child, WaitStatus.former, Registry.set]
      by_cases ht : tid = waited
      · simp [ht]
      · simp [ht, Ne.symm ht]
    | signaled signal =>
      simp only [Registry.observe, WaitStatus.child, WaitStatus.former, Registry.set]
      by_cases ht : tid = waited
      · simp [ht]
      · simp [ht, Ne.symm ht]
    | stopped stop ptrace_event =>
      have hself : (registry.arrive config waited (.stopped stop ptrace_event) answers
          waited).isSome := (registry.arrive_isSome hfollow _ _ _).mpr (Or.inl rfl)
      have hobserve : registry.observe config waited (.stopped stop ptrace_event) answers =
          (registry.arrive config waited (.stopped stop ptrace_event) answers).stopped waited stop
            ptrace_event answers :=
        if_neg (Option.isSome_iff_ne_none.mp hself)
      show (registry.observe config waited (.stopped stop ptrace_event) answers tid).isSome ↔ _
      rw [hobserve, Registry.stopped_isSome _ hself, registry.arrive_isSome hfollow]
      simp only [Option.some.injEq, ne_eq, reduceCtorEq, not_false_eq_true, true_and]
      rw [or_right_comm, or_assoc, @eq_comm _ tid waited]

/-! ### Every run -/

/-- The event of a new child is neither an exit nor an exec. -/
theorem Report.of_child {child : Pid} (hchild : report.child = some child) :
    report.ends = none ∧ report.leaves = none := by
  unfold Report.child WaitStatus.child at hchild
  unfold Report.ends Report.leaves
  split at hchild
  · rename_i waited status answers hwaited
    rw [hwaited]
    split at hchild
    · rename_i stop ptrace_event
      split at hchild
      · rename_i hevent
        have hexec : ptrace_event ≠ PTRACE_EVENT_EXEC := by
          rintro rfl
          exact absurd hevent.2 (by decide)
        simp [WaitStatus.former, hexec]
      · simp at hchild
    · simp at hchild
  · simp at hchild

/-- **One round** keeps the table in step with what is known, as long as a child that is
    named has not been reported to have exited. -/
theorem live_step (hfollow : config.follow = true) {c' : Context}
    (hlive : ∀ tid, (c.registry tid).isSome ↔ Known start h tid ∧ ¬Gone h tid)
    (horder : TaskOrder h c report)
    (hchild : ∀ child, report.child = some child → ¬Exited h child)
    (hstep : loop_step config env c report = (c', true)) (tid : Pid) :
    (c'.registry tid).isSome ↔ Known start (h ++ [report]) tid ∧ ¬Gone (h ++ [report]) tid := by
  rw [(loop_step_moves hstep).registry, Registry.after_isSome hfollow, hlive, known_append,
    gone_append]
  have hstops : report.stops = some tid →
      ¬Gone h tid ∧ report.ends ≠ some tid ∧ report.leaves ≠ some tid := by
    intro hs
    unfold Report.stops at hs
    split at hs
    · rename_i waited stop ptrace_event answers hwaited
      have htid : waited = tid := Option.some.inj hs
      subst htid
      have htask : report.task = some waited := by simp [Report.task, hwaited]
      refine ⟨horder.1 waited htask, ?_, ?_⟩
      · simp [Report.ends, hwaited]
      · simp [Report.leaves, hwaited, Option.filter_eq_some_iff]
    · simp at hs
  have hnamed : report.child = some tid →
      ¬Gone h tid ∧ report.ends ≠ some tid ∧ report.leaves ≠ some tid := by
    intro hc
    obtain ⟨hends, hleaves⟩ := Report.of_child hc
    refine ⟨fun hgone => hgone.elim (hchild tid hc) (horder.2 tid hc), ?_, ?_⟩
    · simp [hends]
    · simp [hleaves]
  tauto

/-- The table at every head of the loop. -/
theorem live_of_reaches (hfollow : config.follow = true) (hchildren : ChildrenFirst h)
    (hr : Reaches (loop_step config env) TaskOrder start h c) (tid : Pid) :
    (c.registry tid).isSome ↔ Known start h tid ∧ ¬Gone h tid := by
  induction hr generalizing tid with
  | refl =>
    unfold Context.registry Known Gone Exited Renamed
    simp
  | snoc hr horder hstep ih =>
    obtain ⟨hbefore, hlast⟩ := childrenFirst_append.mp hchildren
    exact live_step hfollow (ih hbefore) horder hlast hstep tid

/-- **Descendants in any order.**  At every head of a run the table holds the tasks that
    are known and have not gone, exactly when no event names a child whose exit has
    already been reported. -/
theorem tracks_tasks_iff (hfollow : config.follow = true)
    (hr : Reaches (loop_step config env) TaskOrder start h c) :
    (∀ h₁ c₁, h₁ <+: h → Reaches (loop_step config env) TaskOrder start h₁ c₁ →
      TracksTasks config env start h₁ c₁) ↔ ChildrenFirst h := by
  have hlookup : ∀ (c : Context) (tid : Pid),
      (c.tracees.lookup tid).isSome = (c.registry tid).isSome := by
    intro c tid
    unfold Context.registry
    rw [Option.isSome_map]
  constructor
  · intro htracks
    induction hr with
    | refl =>
      intro k
      exact k.elim0
    | snoc hr horder hstep ih =>
      rename_i h₀ c₀ c₁ report
      rw [childrenFirst_append]
      refine ⟨ih fun h₁ c₁ hp => htracks h₁ c₁ (hp.trans (List.prefix_append _ _)), ?_⟩
      -- A child that has exited would be in the table.
      intro child hchild hexited
      have hlive := (htracks _ _ (List.prefix_refl _) (hr.snoc horder hstep)).live child
      have hin : (c₁.tracees.lookup child).isSome := by
        rw [hlookup, (loop_step_moves hstep).registry, Registry.after_isSome hfollow]
        exact Or.inr (Or.inl hchild)
      exact (hlive.mp hin).2 (Or.inl (exited_append.mpr (Or.inl hexited)))
  · intro hchildren h₁ c₁ hprefix hr₁
    have hbefore : ChildrenFirst h₁ := by
      obtain ⟨h₂, rfl⟩ := hprefix
      intro k
      have := hchildren ⟨k.1, by rw [List.length_append]; omega⟩
      simpa [List.take_append_of_le_length (Nat.le_of_lt k.2)] using this
    have hlive := live_of_reaches hfollow hbefore hr₁
    refine ⟨fun tid => by rw [hlookup]; exact hlive tid, Tracees.nodup_records, ?_⟩
    -- When everything known has gone, the table is empty.
    intro hall rest
    rw [trace_rounds_of_reaches hr₁]
    apply trace_rounds_of_count
    rw [Tracees.count_eq_zero]
    intro tid
    rw [← Context.registry_none, ← Option.not_isSome_iff_eq_none, hlive]
    intro h
    rcases h with ⟨hknown, hnot⟩
    exact hnot (hall tid hknown)

end tasks

/-! ### A run -/

/-- The command forks `101`, which is reported before or after the event. -/
def fork_reports (killed_first : Bool) : List Report :=
  let fork : Report := ⟨.status 100 (.stopped SIGTRAP PTRACE_EVENT_FORK) (.plain (some 101)), 0⟩
  let killed : Report := ⟨.status 101 (.signaled 9) (.plain none), 0⟩
  let exited : Report := ⟨.status 100 (.exited 0) (.plain none), 0⟩
  (if killed_first then [killed, fork] else [fork, killed]) ++ [exited]

theorem fork_reports_order (killed_first : Bool) (k : Fin (fork_reports killed_first).length)
    (c : Context) :
    TaskOrder ((fork_reports killed_first).take k) c ((fork_reports killed_first).get k) := by
  have hall : ∀ killed_first, ∀ k : Fin (fork_reports killed_first).length,
      TaskOrder ((fork_reports killed_first).take k) .init ((fork_reports killed_first).get k) := by
    decide
  exact hall killed_first k

/-- The child is reported after the event that names it. -/
theorem tracks_tasks_fork :
    ∃ c, Reaches (loop_step .following .reliable) TaskOrder (.started .following 100)
        (fork_reports false) c ∧
      TracksTasks .following .reliable (.started .following 100) (fork_reports false) c := by
  have hrun : (run (loop_step .following .reliable) (.started .following 100)
      (fork_reports false)).isSome := by decide +kernel
  obtain ⟨c, hc⟩ := Option.isSome_iff_exists.mp hrun
  have hr : Reaches (loop_step .following .reliable) TaskOrder (.started .following 100)
      (fork_reports false) c := reaches_of_run (fork_reports_order false) hc
  exact ⟨c, hr, (tracks_tasks_iff rfl hr).mpr (by decide) _ c (List.prefix_refl _) hr⟩

/-- The child is killed, and its exit is reported, before the event that names it: it is
    in the table after its exit, and the loop waits for it when every task has gone. -/
theorem tracks_tasks_ghost :
    ∃ c, Reaches (loop_step .following .reliable) TaskOrder (.started .following 100)
        (fork_reports true) c ∧
      Exited (fork_reports true) 101 ∧ (c.tracees.lookup 101).isSome ∧
      ¬TracksTasks .following .reliable (.started .following 100) (fork_reports true) c ∧
      ((trace_loop .following .reliable .ok (fork_reports true ++ [⟨.failed, 0⟩])).exec
        (.launched 100)).1 = .error "waitpid failed: " := by
  have hrun : ((run (loop_step .following .reliable) (.started .following 100)
      (fork_reports true)).map fun c => (c.tracees.lookup 101).isSome) = some true := by
    decide +kernel
  obtain ⟨c, hc, hghost⟩ := Option.map_eq_some_iff.mp hrun
  have hr : Reaches (loop_step .following .reliable) TaskOrder (.started .following 100)
      (fork_reports true) c := reaches_of_run (fork_reports_order true) hc
  have hexited : Exited (fork_reports true) 101 := by decide
  refine ⟨c, hr, hexited, hghost, ?_, by decide +kernel⟩
  intro htracks
  exact ((htracks.live 101).mp hghost).2 (Or.inl hexited)

end Sysgaze
