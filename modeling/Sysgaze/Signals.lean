import Sysgaze.Descendants

/-! # Genuine signals are passed on, exactly once

    The kernel queues a `SIGSTOP` for every child that it attaches on its own
    (but not for seized tasks); the loop should swallow this automatic signal
    and pass on every other one.  What is automatic is known to the kernel
    only: here it is part of what the loop observes, and nothing that the code
    looks at.

    `signals_passed_iff`: at every head of the loop the signals that have been
    passed on are the genuine ones, in order, exactly when every `SIGSTOP` is
    automatic if and only if its task is still newborn in the table.
    `signals_detached`: a round that fails before the restart leaves the signal
    in the record, and `detach_all_tracees` passes it on, once.
    `signals_passed_newborn`: a signal that overtakes the automatic `SIGSTOP`
    breaks the first.
-/

open Fallible Stepping

namespace Sysgaze

/-! ### Genuine signals -/

/-- A report, and whether its stop is the automatic `SIGSTOP` of a new task. -/
structure Observed where
  report : Report
  automatic : Bool
  deriving DecidableEq

/-- The task and the signal of a signal-delivery-stop. -/
def Report.delivery (report : Report) : Option (Pid × Int) :=
  match report.waited with
  | .status waited status answers => (status.delivery answers).map fun signal => (waited, signal)
  | _ => none

/-- The genuine signal that is observed. -/
def Observed.genuine (observed : Observed) : List (Pid × Int) :=
  if observed.automatic then [] else observed.report.delivery.toList

/-- The loop, which does not see what is automatic. -/
def observed_step (config : Config) (env : Env) : Machine Context Observed :=
  fun context observed => loop_step config env context observed.report

/-- **What the kernel does**: a signal is not zero, and comes from a task that is traced;
    without `-f` these are the tasks in the table.  An automatic `SIGSTOP` is sent to a
    child of a launched command, once. -/
structure KernelSignals (config : Config) (h : List Observed) (c : Context)
    (observed : Observed) : Prop where
  traced : ∀ delivery ∈ observed.report.delivery, delivery.2 ≠ 0 ∧
    (config.follow = true ∨ (c.tracees.lookup delivery.1).isSome)
  automatic : observed.automatic = true → config.mode = .SG_RUN_LAUNCH ∧
    ∃ tid, observed.report.delivery = some (tid, SIGSTOP) ∧
      ∀ earlier ∈ h, earlier.automatic = true → earlier.report.delivery ≠ some (tid, SIGSTOP)

/-- A `SIGSTOP` is automatic exactly when its task is still newborn, or not known yet. -/
def ToldApart (c : Context) (observed : Observed) : Prop :=
  ∀ tid, observed.report.delivery = some (tid, SIGSTOP) →
    (observed.automatic = true ↔ c.registry tid ≠ some false)

section signals
variable {config : Config} {env : Env} {start c c' : Context} {h : List Observed}
  {observed : Observed}

/-- A signal-delivery-stop is a stop with that signal and without an event. -/
theorem WaitStatus.of_delivery {status : WaitStatus} {answers : Answers} {signal : Int}
    (h : status.delivery answers = some signal) :
    status = .stopped signal 0 ∧ status.former answers = none := by
  unfold WaitStatus.delivery at h
  split at h
  · rename_i stop ptrace_event
    split at h
    · simp at h
    · rename_i hstop
      split at h
      · rw [not_or, not_not] at hstop
        obtain ⟨-, rfl⟩ := hstop
        cases h
        exact ⟨rfl, rfl⟩
      · simp at h
  · simp at h

/-- What the loop passes on at a signal-delivery-stop of a task that is traced. -/
theorem Registry.passes_delivery (registry : Registry) {waited : Pid} {status : WaitStatus}
    {answers : Answers} {signal : Int} (h : status.delivery answers = some signal)
    (htraced : config.follow = true ∨ registry waited ≠ none) :
    registry.passes config waited status answers =
      if registry waited ≠ some false ∧ signal = SIGSTOP then none else some signal := by
  obtain ⟨rfl, hformer⟩ := WaitStatus.of_delivery h
  -- The task is registered by now, and newborn if it was not known.
  obtain ⟨arrived, harrived⟩ : ∃ arrived,
      registry.arrive config waited (.stopped signal 0) answers = arrived := ⟨_, rfl⟩
  have hflag : arrived waited ≠ none ∧
      (arrived waited = some true ↔ registry waited ≠ some false) := by
    rw [← harrived, Registry.arrive, hformer]
    dsimp only
    cases hknown : registry waited with
    | none =>
      have hfollow : config.follow = true := htraced.resolve_right fun h => h hknown
      rw [if_pos hfollow, Registry.register, if_pos hknown, Registry.set_same]
      simp
    | some newborn =>
      have hregister : registry.register waited = registry := by
        rw [Registry.register, if_neg (by rw [hknown]; simp)]
      rw [hregister, ite_self, hknown]
      cases newborn <;> simp
  unfold Registry.passes
  dsimp only
  rw [harrived, if_neg hflag.1, Registry.delivered, h]
  have hswallows : arrived.swallows waited signal = true ↔
      registry waited ≠ some false ∧ signal = SIGSTOP := by
    unfold Registry.swallows
    rw [Bool.and_eq_true, beq_iff_eq, beq_iff_eq, hflag.2]
  by_cases hsw : registry waited ≠ some false ∧ signal = SIGSTOP
  · rw [if_pos hsw, if_pos (hswallows.mpr hsw)]
  · rw [if_neg hsw, if_neg fun h => hsw (hswallows.mp h)]

theorem Registry.passes_none (registry : Registry) {waited : Pid} {status : WaitStatus}
    {answers : Answers} (h : status.delivery answers = none) :
    registry.passes config waited status answers = none := by
  unfold Registry.passes
  split
  · dsimp only
    rw [Registry.delivered, h]
    split
    · rfl
    · split <;> rfl
  · rfl

/-- What a round passes on is the genuine signal, exactly when the automatic `SIGSTOP` is
    told apart. -/
theorem signals_eq_iff (hk : KernelSignals config h c observed) :
    c.registry.signals config observed.report = observed.genuine ↔ ToldApart c observed := by
  cases hdelivery : observed.report.delivery with
  | none =>
    have hsignals : c.registry.signals config observed.report = [] := by
      unfold Report.delivery at hdelivery
      unfold Registry.signals
      split
      · rename_i waited status answers hwaited
        rw [hwaited] at hdelivery
        rw [Registry.passes_none _ (Option.map_eq_none_iff.mp hdelivery)]
        rfl
      · rfl
    have hgenuine : observed.genuine = [] := by
      unfold Observed.genuine
      rw [hdelivery]
      split <;> rfl
    rw [hsignals, hgenuine]
    simp [ToldApart, hdelivery]
  | some delivery =>
    obtain ⟨tid, signal⟩ := delivery
    obtain ⟨hzero, htraced⟩ := hk.traced _ hdelivery
    have htraced : config.follow = true ∨ c.registry tid ≠ none := by
      apply htraced.imp_right
      intro hknown hnone
      rw [Context.registry_none.mp hnone] at hknown
      simp at hknown
    have hsignals : c.registry.signals config observed.report =
        if c.registry tid ≠ some false ∧ signal = SIGSTOP then [] else [(tid, signal)] := by
      unfold Report.delivery at hdelivery
      unfold Registry.signals
      split
      · rename_i waited status answers hwaited
        rw [hwaited] at hdelivery
        obtain ⟨signal', hsignal', heq⟩ := Option.map_eq_some_iff.mp hdelivery
        cases heq
        rw [Registry.passes_delivery _ hsignal' htraced]
        split
        · rfl
        · exact if_neg hzero
      · rename_i hnot
        split at hdelivery
        · rename_i waited status answers hwaited
          exact absurd hwaited (hnot _ _ _)
        · simp at hdelivery
    have hgenuine : observed.genuine = if observed.automatic then [] else [(tid, signal)] := by
      unfold Observed.genuine
      rw [hdelivery]
      rfl
    have htold : ToldApart c observed ↔
        (signal = SIGSTOP → (observed.automatic = true ↔ c.registry tid ≠ some false)) := by
      unfold ToldApart
      rw [hdelivery]
      constructor
      · rintro h rfl
        exact h tid rfl
      · intro h tid' heq
        cases heq
        exact h rfl
    -- Only a `SIGSTOP` is automatic.
    have hstop : observed.automatic = true → signal = SIGSTOP := by
      intro hauto
      obtain ⟨-, tid', htid', -⟩ := hk.automatic hauto
      rw [hdelivery] at htid'
      exact (Prod.mk.inj (Option.some.inj htid')).2
    rw [hsignals, hgenuine, htold]
    by_cases hs : signal = SIGSTOP
    · by_cases hn : c.registry tid = some false
      · cases observed.automatic <;> simp [hs, hn]
      · cases observed.automatic <;> simp [hs, hn]
    · have hauto : observed.automatic = false := by
        cases h : observed.automatic with
        | false => rfl
        | true => exact absurd (hstop h) hs
      simp [hs, hauto]

/-! ### Signals that are still held -/

/-- What `interrupt_running_tracees` leaves alone: a record that it does not mark as gone.  No
    task is detached, and one that has stopped is not interrupted. -/
theorem interrupt_running_spec {tracee : Tracee} (hold : c.tracees.lookup tracee.tid = some tracee)
    (answers : Pid → DetachAnswer)
    (hkept : tracee.in_ptrace_stop = true ∨ (answers tracee.tid).interrupt_esrch = false) :
    Holds (c.tracees.records.forM (interrupt_running answers)) c
      (fun _ c' => c'.tracees.lookup tracee.tid = some tracee ∧
        ∃ added, c'.requests = c.requests ++ added ∧
          ∀ request ∈ added, request.request = .PTRACE_INTERRUPT ∧
            (tracee.in_ptrace_stop = true → request.tid ≠ tracee.tid))
      (fun _ _ => False) := by
  apply holds_forM
  · intro other hother c₁ hpost
    rcases hpost with ⟨hold₁, added, hadded, hinterrupts⟩
    rw [Tracees.mem_records] at hother
    unfold interrupt_running
    by_cases hstopped : other.in_ptrace_stop = true
    · rw [if_pos hstopped]
      exact ⟨hold₁, added, hadded, hinterrupts⟩
    · have hself : other.tid = tracee.tid → other = tracee := by
        intro heq
        rw [heq, hold] at hother
        exact (Option.some.inj hother).symm
      have hrequests : ∀ request ∈ added ++ [⟨.PTRACE_INTERRUPT, other.tid, 0⟩],
          request.request = .PTRACE_INTERRUPT ∧
            (tracee.in_ptrace_stop = true → request.tid ≠ tracee.tid) := by
        intro request hrequest
        obtain h | h := List.mem_append.mp hrequest
        · exact hinterrupts request h
        · rw [List.mem_singleton.mp h]
          exact ⟨rfl, fun hstop heq => hstopped (hself heq ▸ hstop)⟩
      have happend : c₁.requests ++ [(⟨.PTRACE_INTERRUPT, other.tid, 0⟩ : Request)] =
          c.requests ++ (added ++ [⟨.PTRACE_INTERRUPT, other.tid, 0⟩]) := by
        rw [hadded, List.append_assoc]
      rw [if_neg hstopped, holds_bind, holds_measured_ptrace]
      split
      · -- The task that is gone is another one.
        rename_i hgone
        have hne : other.tid ≠ tracee.tid := by
          intro heq
          rw [hself heq] at hgone hstopped
          obtain hstop | hesrch := hkept
          · exact hstopped hstop
          · rw [hesrch] at hgone
            exact absurd hgone (by decide)
        rw [holds_store]
        refine ⟨?_, _, happend, hrequests⟩
        rw [Tracees.lookup_write, if_neg fun h => hne h.1.symm]
        exact hold₁
      · exact ⟨hold₁, _, happend, hrequests⟩
  · exact ⟨hold, [], (List.append_nil _).symm, by simp⟩

/-- The requests that `detach_all_tracees` makes for a record. -/
def detach_requests (answers : Pid → DetachAnswer) (tracee : Tracee) : List Request :=
  if tracee.phase = .SG_TRACEE_GONE then []
  else if tracee.in_ptrace_stop then [⟨.PTRACE_DETACH, tracee.tid, tracee.pending_signal⟩]
  else
    match detach_signal (answers tracee.tid).status with
    | none => []
    | some signal_number => [⟨.PTRACE_DETACH, tracee.tid, signal_number⟩]

theorem detach_tracees_exec (answers : Pid → DetachAnswer) (tracees : List Tracee) :
    ∀ c : Context, (tracees.forM (detach_tracee answers)).exec c = (.ok (),
      { c with requests := c.requests ++ tracees.flatMap (detach_requests answers) }) := by
  have hone : ∀ (tracee : Tracee) (c : Context), (detach_tracee answers tracee).exec c =
      (.ok (), { c with requests := c.requests ++ detach_requests answers tracee }) := by
    intro tracee c
    unfold detach_tracee detach_requests
    split
    · simp
    · split
      · rfl
      · cases detach_signal (answers tracee.tid).status with
        | none => simp
        | some signal_number => rfl
  induction tracees with
  | nil =>
    intro c
    rw [List.flatMap_nil, List.append_nil]
    rfl
  | cons tracee tracees ih =>
    intro c
    show (detach_tracee answers tracee >>= fun _ => tracees.forM (detach_tracee answers)).exec c = _
    rw [exec_bind_of_ok (hone tracee c), ih, List.flatMap_cons, List.append_assoc]

/-- What is asked for a record is that its task is detached. -/
theorem detach_requests_about (answers : Pid → DetachAnswer) (tracee : Tracee) :
    ∀ request ∈ detach_requests answers tracee,
      request.request = .PTRACE_DETACH ∧ request.tid = tracee.tid := by
  intro request hrequest
  unfold detach_requests at hrequest
  split at hrequest
  · simp at hrequest
  · split at hrequest
    · rw [List.mem_singleton.mp hrequest]
      exact ⟨rfl, rfl⟩
    · split at hrequest
      · simp at hrequest
      · rw [List.mem_singleton.mp hrequest]
        exact ⟨rfl, rfl⟩

/-- Of requests that are made record by record, those for one TID are those of its record. -/
theorem filter_requests {tracees : List Tracee} {requests : Tracee → List Request}
    (htid : ∀ tracee, ∀ request ∈ requests tracee, request.tid = tracee.tid)
    (hnodup : (tracees.map Tracee.tid).Nodup) {tracee : Tracee} (hmem : tracee ∈ tracees) :
    (tracees.flatMap requests).filter (fun request => request.tid = tracee.tid) =
      requests tracee := by
  have hall : ∀ other : Tracee, other.tid = tracee.tid →
      (requests other).filter (fun request => request.tid = tracee.tid) = requests other := by
    intro other heq
    rw [List.filter_eq_self]
    intro request hrequest
    simp [htid other request hrequest, heq]
  have hnone : ∀ other : Tracee, other.tid ≠ tracee.tid →
      (requests other).filter (fun request => request.tid = tracee.tid) = [] := by
    intro other hne
    rw [List.filter_eq_nil_iff]
    intro request hrequest
    simp [htid other request hrequest, hne]
  induction tracees with
  | nil => simp at hmem
  | cons other tracees ih =>
    rw [List.map_cons, List.nodup_cons] at hnodup
    rw [List.flatMap_cons, List.filter_append]
    obtain rfl | hrest := List.mem_cons.mp hmem
    · -- No other record has this TID.
      have hempty : (tracees.flatMap requests).filter
          (fun request => request.tid = tracee.tid) = [] := by
        rw [List.filter_flatMap, List.flatMap_eq_nil_iff]
        intro other hother
        apply hnone
        intro heq
        exact hnodup.1 (heq ▸ List.mem_map_of_mem hother)
      rw [hall tracee rfl, hempty, List.append_nil]
    · have hne : other.tid ≠ tracee.tid := fun heq => hnodup.1 (heq ▸ List.mem_map_of_mem hrest)
      rw [hnone other hne, List.nil_append, ih hnodup.2 hrest]

/-- **Detaching** interrupts first, and then detaches as `detach_requests` says. -/
theorem detach_all_tracees_adds {tracee : Tracee} (hold : c.tracees.lookup tracee.tid = some tracee)
    (answers : Pid → DetachAnswer)
    (hkept : tracee.in_ptrace_stop = true ∨ (answers tracee.tid).interrupt_esrch = false) :
    Holds (detach_all_tracees answers) c
      (fun _ c' => ∃ before after, c'.requests = c.requests ++ (before ++ after) ∧
        (∀ request ∈ before, request.request = .PTRACE_INTERRUPT ∧
          (tracee.in_ptrace_stop = true → request.tid ≠ tracee.tid)) ∧
        (∀ request ∈ after, request.request = .PTRACE_DETACH) ∧
        after.filter (fun request => request.tid = tracee.tid) = detach_requests answers tracee)
      (fun _ _ => False) := by
  unfold detach_all_tracees
  rw [holds_bind, holds_get, holds_bind]
  apply (interrupt_running_spec hold answers hkept).mono
  · intro _ c₁ hpost
    rcases hpost with ⟨hold₁, before, hbefore, hinterrupts⟩
    rw [holds_bind, holds_get, holds_of_ok (detach_tracees_exec answers _ c₁)]
    refine ⟨before, c₁.tracees.records.flatMap (detach_requests answers), ?_, hinterrupts, ?_, ?_⟩
    · show c₁.requests ++ _ = _
      rw [hbefore, List.append_assoc]
    · intro request hrequest
      obtain ⟨other, _, hother⟩ := List.mem_flatMap.mp hrequest
      exact (detach_requests_about answers other request hother).1
    · exact filter_requests
        (fun other request hrequest => (detach_requests_about answers other request hrequest).2)
        Tracees.nodup_records (Tracees.mem_records.mpr hold₁)
  · intro _ _ h
    exact h

/-- **Detaching** passes a signal on that a record still holds, once. -/
theorem detach_all_tracees_spec {tid : Pid} {signal : Int} (hholding : Holding c tid signal)
    (answers : Pid → DetachAnswer) :
    Holds (detach_all_tracees answers) c
      (fun _ c' => ∃ added, c'.requests = c.requests ++ added ∧
        added.filter (fun request => request.tid = tid) = [⟨.PTRACE_DETACH, tid, signal⟩])
      (fun _ _ => False) := by
  obtain ⟨tracee, hold, hstop, hsignal, hphase⟩ := hholding
  have htid : tracee.tid = tid := Tracees.lookup_tid hold
  subst htid
  apply (detach_all_tracees_adds hold answers (.inl hstop)).mono
  · intro _ c' hpost
    rcases hpost with ⟨before, after, hadded, hinterrupts, _, hafter⟩
    refine ⟨before ++ after, hadded, ?_⟩
    have hbefore : before.filter (fun request => request.tid = tracee.tid) = [] := by
      rw [List.filter_eq_nil_iff]
      intro request hrequest
      simp [(hinterrupts request hrequest).2 hstop]
    rw [List.filter_append, hbefore, List.nil_append, hafter]
    unfold detach_requests
    rw [if_neg (by rw [hphase]; decide), if_pos hstop, hsignal]
  · intro _ _ h
    exact h

/-! ### Every run -/

/-- The restart request of the round was refused. -/
def Report.Refused (report : Report) : Prop :=
  ∃ waited status answers, report.waited = .status waited status answers ∧ answers.restart = .failed

/-- The task is in the table, or there is room for it. -/
def HasRecord (env : Env) (c : Context) (tid : Pid) : Prop :=
  (c.tracees.lookup tid).isSome ∨
    (0 < tid ∧ calloc_slots (env.alloc c.asked) c.tracees.1.nextCapacity = true)

/-- From `c` to `c'` the loop has not passed the signal on, and `detach_all_tracees` does,
    once. -/
structure LeftToDetach (c : Context) (report : Report) (tid : Pid) (signal : Int) (c' : Context) :
    Prop where
  refused : c'.passed = c.passed ∨ report.Refused
  detached : ∀ answers, Holds (detach_all_tracees answers) c'
    (fun _ c'' => ∃ added, c''.requests = c'.requests ++ added ∧
      added.filter (fun request => request.tid = tid) = [⟨.PTRACE_DETACH, tid, signal⟩])
    (fun _ _ => False)

/-- A round in which the automatic `SIGSTOP` is told apart passes the genuine signal on, or
    leaves it to `detach_all_tracees`. -/
theorem loop_round_signals (hk : KernelSignals config h c observed) (htold : ToldApart c observed) :
    Holds (loop_round config env observed.report) c
      (fun _ c' => c'.passed = c.passed ++ observed.genuine)
      (fun _ c' => ∀ tid signal, (tid, signal) ∈ observed.genuine → HasRecord env c tid →
        LeftToDetach c observed.report tid signal c') := by
  have hsignals := (signals_eq_iff hk).mpr htold
  apply (loop_round_moves observed.report).mono
  · intro _ c' hmoves
    rw [hmoves.passed, hsignals]
  · intro _ c' hfail tid signal hgenuine hroom
    rw [← hsignals] at hgenuine
    unfold Registry.signals at hgenuine
    split at hgenuine
    · rename_i waited status answers hwaited
      cases hpasses : c.registry.passes config waited status answers with
      | none =>
        rw [hpasses] at hgenuine
        simp [signals_of] at hgenuine
      | some signal' =>
        rw [hpasses, signals_of] at hgenuine
        split at hgenuine
        · simp at hgenuine
        · cases List.mem_singleton.mp hgenuine
          obtain hwithheld | ⟨hnone, hwhy⟩ := hfail _ _ _ _ hwaited hpasses
          · refine ⟨?_, fun detach => detach_all_tracees_spec hwithheld.holding detach⟩
            apply hwithheld.refused.imp_right
            intro hfailed
            exact ⟨_, _, _, hwaited, hfailed⟩
          · -- There was room for the record.
            obtain hknown | ⟨hpos, hgranted⟩ := hroom
            · rw [hnone] at hknown
              simp at hknown
            · obtain hneg | hfull := hwhy
              · exact absurd hpos (not_lt.mpr hneg)
              · rw [hfull] at hgranted
                simp at hgranted
    · simp at hgenuine

/-- **Genuine signals only, exactly once.**  At every head of a run the signals that have
    been passed on are the genuine ones, in order, exactly when every automatic
    `SIGSTOP` is told apart.  The last round passes its signal on in the same way, or
    leaves it to `detach_all_tracees`. -/
theorem signals_passed_iff (hr : Reaches (observed_step config env) (KernelSignals config) start h c) :
    ((∀ h₁ c₁, h₁ <+: h → Reaches (observed_step config env) (KernelSignals config) start h₁ c₁ →
        c₁.passed = start.passed ++ h₁.flatMap Observed.genuine) ↔
      ∀ h₁ next c₁, h₁ ++ [next] <+: h →
        Reaches (observed_step config env) (KernelSignals config) start h₁ c₁ →
        ToldApart c₁ next) ∧
    ∀ next, KernelSignals config h c next → ToldApart c next →
      Holds (loop_round config env next.report) c
        (fun _ c' => c'.passed = c.passed ++ next.genuine)
        (fun _ c' => ∀ tid signal, (tid, signal) ∈ next.genuine → HasRecord env c tid →
          LeftToDetach c next.report tid signal c') := by
  refine ⟨⟨?_, ?_⟩, fun next hk htold => loop_round_signals hk htold⟩
  · -- If both heads of a round are right, so is the round.
    intro hheads h₁ next c₁ hprefix hr₁
    obtain ⟨h₂, rfl⟩ := hprefix
    obtain ⟨c₂, hr₂⟩ := hr.of_append
    obtain ⟨c₁', hr₁', hk, hstep⟩ := hr₂.of_snoc
    obtain rfl := hr₁.unique hr₁'
    have hbefore := hheads h₁ c₁ ((List.prefix_append _ _).trans (List.prefix_append _ h₂)) hr₁
    have hafter := hheads _ c₂ (List.prefix_append _ h₂) hr₂
    rw [← signals_eq_iff hk]
    have hmoves := loop_step_moves hstep
    rw [hmoves.passed, hbefore, List.flatMap_append, List.append_assoc,
      List.append_cancel_left_eq, List.append_cancel_left_eq] at hafter
    simpa using hafter
  · intro htold h₁ c₁ hprefix hr₁
    have htold₁ : ∀ h₀ next c₀, h₀ ++ [next] <+: h₁ →
        Reaches (observed_step config env) (KernelSignals config) start h₀ c₀ →
        ToldApart c₀ next := fun h₀ next c₀ hp => htold h₀ next c₀ (hp.trans hprefix)
    clear hprefix htold hr
    induction hr₁ with
    | refl => simp
    | snoc hr₀ hk hstep ih =>
      have hround := htold₁ _ _ _ (List.prefix_refl _) hr₀
      have hbefore := ih fun h₀ next c₀ hp => htold₁ h₀ next c₀ (hp.trans (List.prefix_append _ _))
      rw [(loop_step_moves hstep).passed, (signals_eq_iff hk).mpr hround, hbefore,
        List.flatMap_append, List.append_assoc]
      simp

end signals

/-! ### A run -/

/-- The child is sent `SIGUSR1` before it runs; the signal may overtake the automatic
    `SIGSTOP`. -/
def newborn_signals (overtakes : Bool) : List Observed :=
  let automatic : Observed := ⟨signal_report 101 SIGSTOP, true⟩
  let genuine : Observed := ⟨signal_report 101 SIGUSR1, false⟩
  if overtakes then [genuine, automatic] else [automatic, genuine]

theorem newborn_signals_legal (overtakes : Bool) (k : Fin (newborn_signals overtakes).length)
    (c : Context) :
    KernelSignals .following ((newborn_signals overtakes).take k) c
      ((newborn_signals overtakes).get k) := by
  have htraced : ∀ overtakes, ∀ k : Fin (newborn_signals overtakes).length,
      ∀ delivery ∈ ((newborn_signals overtakes).get k).report.delivery, delivery.2 ≠ 0 := by
    decide
  have hautomatic : ∀ overtakes, ∀ k : Fin (newborn_signals overtakes).length,
      ((newborn_signals overtakes).get k).automatic = true →
      ((newborn_signals overtakes).get k).report.delivery = some (101, SIGSTOP) ∧
        ∀ earlier ∈ (newborn_signals overtakes).take k, earlier.automatic = true →
          earlier.report.delivery ≠ some (101, SIGSTOP) := by
    decide
  refine ⟨fun delivery hdelivery => ⟨htraced overtakes k delivery hdelivery, Or.inl rfl⟩, ?_⟩
  intro hauto
  obtain ⟨hdelivery, honce⟩ := hautomatic overtakes k hauto
  exact ⟨rfl, 101, hdelivery, honce⟩

/-- The automatic `SIGSTOP` comes first: it is swallowed, and `SIGUSR1` is passed on. -/
theorem signals_passed_in_order :
    ∃ c, Reaches (observed_step .following .reliable) (KernelSignals .following)
        (.started .following 100) (newborn_signals false) c ∧ c.passed = [(101, SIGUSR1)] := by
  have hrun : (run (observed_step .following .reliable) (.started .following 100)
      (newborn_signals false)).isSome := by decide +kernel
  obtain ⟨c, hc⟩ := Option.isSome_iff_exists.mp hrun
  have hr : Reaches (observed_step .following .reliable) (KernelSignals .following)
      (.started .following 100) (newborn_signals false) c :=
    reaches_of_run (newborn_signals_legal false) hc
  refine ⟨c, hr, ?_⟩
  have hstart : (Context.started .following 100).passed = [] := by decide +kernel
  have hunknown : (Context.started .following 100).registry 101 = none := by decide +kernel
  have hpassed := (signals_passed_iff hr).1.mpr ?_ _ c (List.prefix_refl _) hr
  · rw [hpassed, hstart]
    rfl
  · intro h₁ next c₁ hprefix hr₁ tid hdelivery
    rcases h₁ with _ | ⟨first, _ | ⟨second, h₁⟩⟩
    · -- The first stop is of an unknown task.
      have hnext : next = ⟨signal_report 101 SIGSTOP, true⟩ := by
        simpa [newborn_signals] using hprefix
      have hfirst : Reaches (observed_step .following .reliable) (KernelSignals .following)
          (.started .following 100) [] (.started .following 100) := .refl
      obtain rfl := hr₁.unique hfirst
      subst hnext
      have htid : tid = 101 := by
        cases hdelivery
        rfl
      rw [htid, hunknown]
      simp
    · have hnext : next = ⟨signal_report 101 SIGUSR1, false⟩ := by
        have hcons := List.cons_prefix_cons.mp hprefix
        simpa using hcons.2
      subst hnext
      have hsignal : SIGUSR1 = SIGSTOP := (Prod.mk.inj (Option.some.inj hdelivery)).2
      exact absurd hsignal (by decide)
    · have hlen := hprefix.length_le
      simp [newborn_signals] at hlen

/-- `SIGUSR1` comes first: the automatic `SIGSTOP` is passed on as well. -/
theorem signals_passed_newborn :
    ∃ c, Reaches (observed_step .following .reliable) (KernelSignals .following)
        (.started .following 100) (newborn_signals true) c ∧
      c.passed = [(101, SIGUSR1), (101, SIGSTOP)] ∧
      c.passed ≠ (Context.started .following 100).passed ++
        (newborn_signals true).flatMap Observed.genuine := by
  have hrun : ((run (observed_step .following .reliable) (.started .following 100)
      (newborn_signals true)).map Context.passed) = some [(101, SIGUSR1), (101, SIGSTOP)] := by
    decide +kernel
  obtain ⟨c, hc, hpassed⟩ := Option.map_eq_some_iff.mp hrun
  refine ⟨c, reaches_of_run (newborn_signals_legal true) hc, hpassed, ?_⟩
  rw [hpassed]
  decide +kernel

end Sysgaze
