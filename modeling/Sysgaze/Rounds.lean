import Sysgaze.Calls

/-! # What the functions of the trace loop do

    One specification for each function of `TraceLoop.lean`, in any
    environment: what it does to the table, to the log and to the rest of the
    context, when it succeeds and when it fails.
-/

open Fallible

namespace Sysgaze

section spec
variable {config : Config} {env : Env} {c c' c'' : Context}

/-! ### Adding a tracee -/

/-- The record of a task that has just been registered. -/
def Tracee.registered (tid tgid : Pid) (attached newborn : Bool) : Tracee :=
  { Tracee.fresh tid tgid attached with newborn := newborn, options_installed := true }

/-- From `c` to `c'` the task `tid` has been registered, unless it was known. -/
structure Registers (c : Context) (tid tgid : Pid) (attached newborn : Bool) (c' : Context) :
    Prop where
  lookup : ∀ other, c'.tracees.lookup other =
    if other = tid ∧ c.tracees.lookup tid = none then
      some (Tracee.registered tid tgid attached newborn)
    else c.tracees.lookup other
  rest : c'.rest = c.rest
  output : c'.output = c.output

/-- From `c` to `c'` nothing has changed but counters. -/
structure Unchanged (c c' : Context) : Prop where
  tracees : c'.tracees = c.tracees
  rest : c'.rest = c.rest
  output : c'.output = c.output

theorem add_tracee_spec (tid tgid : Pid) (attached newborn : Bool) :
    Holds (add_tracee env tid tgid attached newborn) c
      (fun _ c' => 0 < tid ∧ 0 < tgid ∧ Registers c tid tgid attached newborn c')
      (fun _ c' => Unchanged c c' ∧ (tid ≤ 0 ∨ tgid ≤ 0 ∨
        calloc_slots (env.alloc c.asked) c.tracees.1.nextCapacity = false)) := by
  have hins : TraceeTable.Inserted c.tracees.1 tid tgid attached (env.alloc c.asked) _ _ _ :=
    Tracees.insert_spec tid tgid attached (env.alloc c.asked)
  unfold add_tracee
  simp only [holds_bind, holds_context_ask, holds_get, holds_set]
  rcases hres : c.tracees.insert tid tgid attached (env.alloc c.asked) with ⟨⟨ok, inserted⟩, tracees⟩
  rw [hres] at hins
  have hlookup : ∀ other, tracees.lookup other =
      if inserted = true ∧ other = tid then some (Tracee.fresh tid tgid attached)
      else c.tracees.lookup other := hins.lookup
  cases ok with
  | false =>
    obtain ⟨hsame, -, hwhy⟩ := hins.fails rfl
    simp only [Bool.not_false, if_true, holds_throw]
    refine ⟨⟨Subtype.ext hsame, rfl, rfl⟩, ?_⟩
    by_cases ht : 0 < tid
    · by_cases hg : 0 < tgid
      · exact Or.inr (Or.inr (hwhy ht hg))
      · exact Or.inr (Or.inl (not_lt.mp hg))
    · exact Or.inl (not_lt.mp ht)
  | true =>
    obtain ⟨ht, hg⟩ := hins.positive rfl
    have habsent : inserted = true ↔ c.tracees.lookup tid = none := hins.absent rfl
    simp only [Bool.not_true, Bool.false_eq_true, if_false]
    cases inserted with
    | true =>
      have hself : tracees.lookup tid = some (Tracee.fresh tid tgid attached) := by
        rw [hlookup]
        simp
      rw [Tracees.get_eq, hself]
      simp only [holds_store]
      refine ⟨ht, hg, fun other => ?_, rfl, rfl⟩
      show (tracees.write _).lookup other = _
      have hnone := habsent.mp rfl
      rw [Tracees.lookup_write, Tracee.fresh_tid, hself, hlookup]
      by_cases ho : other = tid
      · simp [ho, hnone, Tracee.registered]
      · simp [ho]
    | false =>
      have hsome : c.tracees.lookup tid ≠ none := fun h => absurd (habsent.mpr h) (by simp)
      have hsame : ∀ other, tracees.lookup other = c.tracees.lookup other := by
        intro other
        rw [hlookup]
        simp
      have hregisters : Registers c tid tgid attached newborn
          { c with asked := c.asked + 1, tracees := tracees } := by
        refine ⟨fun other => ?_, rfl, rfl⟩
        rw [if_neg (by simp [hsome])]
        exact hsame other
      cases tracees.get tid with
      | none => exact ⟨ht, hg, hregisters⟩
      | some tracee => exact ⟨ht, hg, hregisters⟩

/-! ### System call stops -/

theorem Frame.refl (c : Context) (tid : Pid) : Frame c tid c := ⟨fun _ _ => rfl, rfl, rfl⟩

theorem Frame.trans {tid : Pid} (h : Frame c tid c') (h' : Frame c' tid c'') : Frame c tid c'' :=
  ⟨fun other ho => (h'.others other ho).trans (h.others other ho), h'.shell.trans h.shell,
    h'.rest.trans h.rest⟩

/-- Nothing but the calls of the tracee changes at an entry. -/
theorem begin_syscall_frame {tracee : Tracee} (hold : c.tracees.lookup tracee.tid = some tracee)
    (number : UInt64) (arguments : Vector UInt64 6) :
    Holds (begin_syscall config env tracee number arguments) c
      (fun _ c' => Frame c tracee.tid c') (fun _ c' => Frame c tracee.tid c') := by
  -- Each block keeps the frame of a record with the same shell.
  have hblock : ∀ {c₁ c₂ : Context} {mid new : Tracee} {events : List Event},
      Frame c tracee.tid c₁ → c₁.tracees.lookup mid.tid = some mid → mid.tid = tracee.tid →
      Updates config c₁ new events c₂ → new.shell = mid.shell → Frame c tracee.tid c₂ := by
    intro c₁ c₂ mid new events hframe hold₁ htid hu hshell
    exact hframe.trans (htid ▸ hu.frame hold₁ hshell)
  have henter : ∀ {c₁ : Context} {mid : Tracee}, Frame c tracee.tid c₁ →
      c₁.tracees.lookup mid.tid = some mid → mid.tid = tracee.tid →
      Holds (enter_call config env mid number arguments) c₁
        (fun _ c' => Frame c tracee.tid c') (fun _ c' => Frame c tracee.tid c') := by
    intro c₁ mid hframe hold₁ htid
    apply (enter_call_spec hold₁ number arguments).mono
    · intro _ c₂ hpost
      rcases hpost with ⟨event, events, _, _, hu⟩
      exact hblock hframe hold₁ htid hu rfl
    · intro _ c₂ hpost
      rcases hpost with ⟨events, _, hf⟩
      exact hframe.trans (htid ▸ hf.toFrame)
  have hafter : ∀ {c₁ : Context} {mid : Tracee}, Frame c tracee.tid c₁ →
      c₁.tracees.lookup mid.tid = some mid → mid.tid = tracee.tid →
      Holds (if mid.restarts number.toNat then restart_call config env mid
        else do
          let mid ← report_interrupted config env mid
          enter_call config env mid number arguments) c₁
        (fun _ c' => Frame c tracee.tid c') (fun _ c' => Frame c tracee.tid c') := by
    intro c₁ mid hframe hold₁ htid
    by_cases hrestarts : mid.restarts number.toNat = true
    · rw [if_pos hrestarts]
      apply (restart_call_spec hold₁).mono
      · intro _ c₂ hpost
        rcases hpost with ⟨events, _, hu⟩
        exact hblock hframe hold₁ htid hu rfl
      · intro _ c₂ hpost
        rcases hpost with ⟨events, _, hf⟩
        exact hframe.trans (htid ▸ hf.toFrame)
    · rw [if_neg hrestarts, holds_bind]
      apply (report_interrupted_spec hold₁).mono
      · intro mid' c₂ hmid
        obtain ⟨-, rfl, rfl⟩ | ⟨-, exited_at, events, -, hmid', hu⟩ := hmid
        · exact henter hframe hold₁ htid
        · have hold₂ := hu.lookup_self
          have htid' : mid'.tid = tracee.tid := by rw [hmid', htid]
          exact henter (hblock hframe hold₁ htid hu (by rw [hmid']; rfl)) hold₂ htid'
      · intro _ c₂ hpost
        rcases hpost with ⟨events, _, hf⟩
        exact hframe.trans (htid ▸ hf.toFrame)
  unfold begin_syscall
  by_cases hrange : number.toNat > LONG_MAX
  · rw [if_pos hrange, holds_throw]
    exact .refl c _
  · rw [if_neg hrange, holds_bind]
    apply (leave_pending_spec hold).mono
    · intro mid c₁ hmid
      obtain ⟨-, rfl, rfl⟩ | ⟨-, -, exited_at, events, -, hmid', hu⟩ := hmid
      · exact hafter (.refl _ _) hold rfl
      · have hold₁ := hu.lookup_self
        have htid : mid.tid = tracee.tid := by rw [hmid']
        exact hafter (hu.frame hold (by rw [hmid']; rfl)) hold₁ htid
    · intro _ c₁ hpost
      rcases hpost with ⟨events, _, hf⟩
      exact hf.toFrame

/-- Nothing but the calls of the tracee changes at an exit. -/
theorem finish_syscall_frame {tracee : Tracee} (hold : c.tracees.lookup tracee.tid = some tracee)
    (rval : Int) (is_error : Bool) :
    Holds (finish_syscall config env tracee rval is_error) c
      (fun _ c' => Frame c tracee.tid c') (fun _ c' => Frame c tracee.tid c') := by
  have h₀ : Updates config c tracee [] c := .refl config hold
  unfold finish_syscall
  split
  · rw [holds_store]
    exact (h₀.store (t := { tracee with phase := .SG_TRACEE_STOPPED }) rfl).frame hold rfl
  · split
    · have hspec : Holds (interrupt_call tracee) c
          (fun _ c' => Updates config c tracee.interrupted [] c')
          (fun _ c' => Frame c tracee.tid c') := interrupt_call_spec hold
      apply hspec.mono
      · intro _ c' hu
        exact hu.frame hold rfl
      · intro _ _ h
        exact h
    · apply (complete_call_spec hold rval is_error).mono
      · intro _ c' hpost
        rcases hpost with ⟨exited_at, events, _, hu⟩
        exact hu.frame hold (Tracee.completed_shell _ _)
      · intro _ c' hpost
        rcases hpost with ⟨events, _, hf⟩
        exact hf.toFrame

/-- The context after a question has been put to the kernel. -/
def Context.asking (context : Context) (request : PtraceRequest) (tid : Pid) : Context :=
  { context with requests := context.requests ++ [⟨request, tid, 0⟩] }

theorem handle_syscall_stop_frame {tracee : Tracee}
    (hold : c.tracees.lookup tracee.tid = some tracee) (answer : Option SyscallInfo) :
    Holds (handle_syscall_stop config env tracee answer) c
      (fun _ c' => Frame (c.asking .PTRACE_GET_SYSCALL_INFO tracee.tid) tracee.tid c')
      (fun _ c' => Frame (c.asking .PTRACE_GET_SYSCALL_INFO tracee.tid) tracee.tid c') := by
  unfold handle_syscall_stop
  rw [holds_bind, holds_measured_ptrace]
  show Holds _ (c.asking .PTRACE_GET_SYSCALL_INFO tracee.tid) _ _
  have hold₀ : (c.asking .PTRACE_GET_SYSCALL_INFO tracee.tid).tracees.lookup tracee.tid =
      some tracee := hold
  cases answer with
  | none => exact .refl _ _
  | some info =>
    simp only [holds_ite, holds_throw]
    refine ⟨fun _ => .refl _ _, fun _ => ⟨fun _ => .refl _ _, fun _ => ⟨fun _ => ⟨fun _ =>
      .refl _ _, fun _ => ?_⟩, fun _ => ⟨fun _ => ⟨fun _ => .refl _ _, fun _ => ?_⟩, fun _ =>
      .refl _ _⟩⟩⟩⟩
    · exact begin_syscall_frame hold₀ info.nr info.args
    · exact finish_syscall_frame hold₀ info.rval info.is_error

theorem handle_seccomp_stop_frame {tracee : Tracee}
    (hold : c.tracees.lookup tracee.tid = some tracee) (answer : Option SyscallInfo) :
    Holds (handle_seccomp_stop config env tracee answer) c
      (fun _ c' => Frame (c.asking .PTRACE_GET_SYSCALL_INFO tracee.tid) tracee.tid c')
      (fun _ c' => Frame (c.asking .PTRACE_GET_SYSCALL_INFO tracee.tid) tracee.tid c') := by
  unfold handle_seccomp_stop
  rw [holds_bind, holds_measured_ptrace]
  show Holds _ (c.asking .PTRACE_GET_SYSCALL_INFO tracee.tid) _ _
  have hold₀ : (c.asking .PTRACE_GET_SYSCALL_INFO tracee.tid).tracees.lookup tracee.tid =
      some tracee := hold
  cases answer with
  | none => exact .refl _ _
  | some info =>
    simp only [holds_ite, holds_throw]
    refine ⟨fun _ => .refl _ _, fun _ => ⟨fun _ => .refl _ _, fun _ => ⟨fun _ => .refl _ _,
      fun _ => ⟨fun _ => .refl _ _, fun _ => ?_⟩⟩⟩⟩
    exact begin_syscall_frame hold₀ info.nr info.args

/-! ### Exec events rename a task -/

/-- The record of a task that has taken another TID. -/
def Tracee.renamed (tracee : Tracee) (tid : Pid) : Tracee :=
  { tracee with tid := tid, tgid := tid, newborn := false }

/-- The record that `migrate_exec_tid` leaves for `waited`. -/
def Context.migrated (context : Context) (config : Config) (waited former : Pid) : Tracee :=
  match context.tracees.lookup former, context.tracees.lookup waited with
  | some source, _ => source.renamed waited
  | none, some replaced => replaced.renamed waited
  | none, none => .registered waited waited (config.mode = .SG_RUN_ATTACH) false

/-- From `c` to `c'` the task `former` has taken the TID `waited`. -/
structure Migrates (config : Config) (c : Context) (waited former : Pid) (c' : Context) :
    Prop where
  lookup : ∀ tid, c'.tracees.lookup tid =
    if tid = waited then some (c.migrated config waited former)
    else if tid = former then none else c.tracees.lookup tid
  requests : c'.requests = c.requests
  log : c'.output.log = c.output.log.migrate former waited

/-- From `c` to `c'` the TIDs have been removed from the table. -/
structure Drops (c : Context) (tids : List Pid) (c' : Context) : Prop where
  lookup : ∀ tid, c'.tracees.lookup tid = if tid ∈ tids then none else c.tracees.lookup tid
  requests : c'.requests = c.requests
  output : c'.output = c.output

theorem migrate_source_spec {source : Tracee} {waited former : Pid} {dropped : Context}
    (hd : Drops c [former, waited] dropped)
    (hsource : c.migrated config waited former = source.renamed waited) :
    Holds (migrate_source env waited former source) dropped
      (fun _ c' => Migrates config c waited former c')
      (fun _ c' => c'.output.lines = c.output.lines) := by
  unfold migrate_source
  simp only [holds_bind, holds_onError, holds_store, holds_zoom, holds_modify]
  apply (add_tracee_spec waited waited source.attached false).mono
  · intro _ c₁ hpost
    rcases hpost with ⟨_, _, hreg⟩
    apply (sg_output_migrate_tid_spec former waited).mono
    · intro _ o ho
      have hnone : dropped.tracees.lookup waited = none := by rw [hd.lookup, if_pos (by simp)]
      have hself : (c₁.tracees.lookup waited).isSome := by
        rw [hreg.lookup, if_pos ⟨rfl, hnone⟩]
        rfl
      have hlookup : ∀ tid, (c₁.tracees.write (source.renamed waited)).lookup tid =
          if tid = waited then some (c.migrated config waited former)
          else if tid = former then none else c.tracees.lookup tid := by
        intro tid
        have htid : (source.renamed waited).tid = waited := rfl
        rw [Tracees.lookup_write, htid, hsource]
        by_cases hw : tid = waited
        · simp [hw, hself]
        · simp [hw, hreg.lookup, hd.lookup]
      have hlog : o.log = c.output.log.migrate former waited := by
        rw [ho]
        show c₁.output.log.migrate former waited = _
        rw [hreg.output, hd.output]
      have hrequests : c₁.requests = c.requests :=
        (congrArg Context.Rest.requests hreg.rest).trans hd.requests
      split
      · exact ⟨hlookup, hrequests, hlog⟩
      · exact ⟨hlookup, hrequests, hlog⟩
    · intro _ _ h
      exact h
  · intro _ c₁ hpost
    rcases hpost with ⟨hsame, _⟩
    show c₁.output.lines = c.output.lines
    rw [hsame.output, hd.output]

/-- The four ways through `migrate_exec_tid`: a record that one of the two tasks had is stored
    again, or a new one is added. -/
theorem holds_migrate_exec_tid {waited former : Pid} {Q : PUnit → Context → Prop}
    {E : String → Context → Prop} (hsame : former = waited → Q ⟨⟩ c)
    (hsource : ∀ {source : Tracee} {dropped : Context}, former ≠ waited →
      Drops c [former, waited] dropped → dropped.rest = c.rest →
      (c.tracees.lookup former = some source ∨
        c.tracees.lookup former = none ∧ c.tracees.lookup waited = some source) →
      Holds (migrate_source env waited former source) dropped Q E)
    (hnew : ∀ {dropped : Context}, former ≠ waited →
      Drops c [former, waited] dropped → dropped.rest = c.rest →
      c.tracees.lookup former = none → c.tracees.lookup waited = none →
      Holds (do
        add_tracee env waited waited (config.mode = .SG_RUN_ATTACH) false
        zoom Context.output (fun context output => { context with output := output })
          (sg_output_migrate_tid former waited)) dropped Q E) :
    Holds (migrate_exec_tid config env waited former) c Q E := by
  unfold migrate_exec_tid
  by_cases heq : former = waited
  · rw [if_pos heq, holds_pure]
    exact hsame heq
  · rw [if_neg heq]
    simp only [holds_bind, holds_get]
    have hfirst : (c.tracees.remove former).1 = c.tracees.lookup former := Tracees.remove_fst former
    have hsecond : ((c.tracees.remove former).2.remove waited).1 = c.tracees.lookup waited := by
      rw [Tracees.remove_fst, Tracees.lookup_remove, if_neg (Ne.symm heq)]
    have hlookup : ∀ tid, ((c.tracees.remove former).2.remove waited).2.lookup tid =
        if tid ∈ [former, waited] then none else c.tracees.lookup tid := by
      intro tid
      rw [Tracees.lookup_remove, Tracees.lookup_remove]
      by_cases hw : tid = waited
      · simp [hw]
      · by_cases hf : tid = former
        · simp [hf]
        · simp [hw, hf]
    rcases hr : c.tracees.remove former with ⟨source, tracees⟩
    rw [hr] at hfirst hsecond hlookup
    rcases hr' : tracees.remove waited with ⟨replaced, tracees'⟩
    rw [hr'] at hsecond hlookup
    have hfirst : source = c.tracees.lookup former := hfirst
    have hsecond : replaced = c.tracees.lookup waited := hsecond
    subst hfirst hsecond
    have hd : Drops c [former, waited] { c with tracees := tracees' } := ⟨hlookup, rfl, rfl⟩
    simp only [holds_set]
    cases hs : c.tracees.lookup former with
    | some source =>
      cases hw : c.tracees.lookup waited with
      | some replaced =>
        simp only [holds_bind, holds_modify]
        have hd' : Drops c [former, waited]
            (({ c with tracees := tracees' } : Context).release_tracee replaced) :=
          ⟨hlookup, rfl, rfl⟩
        exact hsource heq hd' rfl (Or.inl hs)
      | none => exact hsource heq hd rfl (Or.inl hs)
    | none =>
      cases hw : c.tracees.lookup waited with
      | some replaced => exact hsource heq hd rfl (Or.inr ⟨hs, hw⟩)
      | none => exact hnew heq hd rfl hs hw

theorem migrate_exec_tid_spec (waited former : Pid) :
    Holds (migrate_exec_tid config env waited former) c
      (fun _ c' => if former = waited then c' = c else Migrates config c waited former c')
      (fun _ c' => c'.output.lines = c.output.lines) := by
  apply holds_migrate_exec_tid
  · intro heq
    rw [if_pos heq]
  · intro source dropped hne hd _ hknown
    have hm : c.migrated config waited former = source.renamed waited := by
      unfold Context.migrated
      obtain hs | ⟨hs, hw⟩ := hknown
      · rw [hs]
      · rw [hs, hw]
    simp only [if_neg hne]
    exact migrate_source_spec hd hm
  · intro dropped hne hd _ hs hw
    have hm : c.migrated config waited former =
        .registered waited waited (config.mode = .SG_RUN_ATTACH) false := by
      unfold Context.migrated
      rw [hs, hw]
    simp only [if_neg hne, holds_bind, holds_zoom]
    apply (add_tracee_spec waited waited _ false).mono
    · intro _ c₁ hpost
      rcases hpost with ⟨_, _, hreg⟩
      apply (sg_output_migrate_tid_spec former waited).mono
      · intro _ o ho
        refine ⟨fun tid => ?_, (congrArg Context.Rest.requests hreg.rest).trans hd.requests, ?_⟩
        · show c₁.tracees.lookup tid = _
          rw [hreg.lookup, hd.lookup, hd.lookup, hm]
          by_cases ht : tid = waited
          · simp [ht]
          · simp [ht]
        · show o.log = _
          rw [ho]
          show c₁.output.log.migrate former waited = _
          rw [hreg.output, hd.output]
      · intro _ _ h
        exact h
    · intro _ c₁ hpost
      rcases hpost with ⟨hsame, _⟩
      show c₁.output.lines = c.output.lines
      rw [hsame.output, hd.output]

/-! ### Restarts -/

/-- The request that restarts a task. -/
def restart_request (config : Config) (tracee : Tracee) (signal : Int) (listen : Bool) : Request :=
  if listen then ⟨.PTRACE_LISTEN, tracee.tid, 0⟩
  else ⟨resume_request config tracee, tracee.tid, signal⟩

theorem restart_request_tid (tracee : Tracee) (signal : Int) (listen : Bool) :
    (restart_request config tracee signal listen).tid = tracee.tid := by
  cases listen with
  | true => rfl
  | false => rfl

/-- The record of a task that runs again. -/
def Tracee.resumed (tracee : Tracee) (listen : Bool) : Tracee :=
  { tracee with
    in_ptrace_stop := false
    pending_signal := 0
    phase := if listen then tracee.phase else .SG_TRACEE_RUNNING }

/-- The context once the kernel has been asked to restart a task. -/
def Context.asked_restart (context : Context) (config : Config) (tracee : Tracee) (signal : Int)
    (listen : Bool) : Context :=
  { context with requests := context.requests ++ [restart_request config tracee signal listen] }

/-- **The restart of a task** is one request, and a change of its record when
    the kernel accepts it. -/
theorem holds_restart_tracee {tid : Pid} {signal : Int} {listen : Bool} {answer : RestartAnswer}
    {Q : Bool → Context → Prop} {E : String → Context → Prop}
    (hunknown : c.tracees.lookup tid = none → Q false c)
    (hok : ∀ tracee, c.tracees.lookup tid = some tracee → answer = .ok →
      let asked := c.asked_restart config tracee signal listen
      Q true { asked with tracees := asked.tracees.write (tracee.resumed listen) })
    (hgone : ∀ tracee, c.tracees.lookup tid = some tracee → answer = .esrch →
      Q false (c.asked_restart config tracee signal listen))
    (hfailed : ∀ tracee, c.tracees.lookup tid = some tracee → answer = .failed →
      E (if listen then listen_error env tid else resume_error config env tracee)
        (c.asked_restart config tracee signal listen)) :
    Holds (restart_tracee config env tid signal listen answer) c Q E := by
  unfold restart_tracee
  rw [holds_bind, holds_get, Tracees.get_eq]
  cases hold : c.tracees.lookup tid with
  | none => exact hunknown hold
  | some tracee =>
    have htid : tracee.tid = tid := Tracees.lookup_tid hold
    subst htid
    cases listen with
    | true =>
      cases answer with
      | ok => exact hok tracee hold rfl
      | esrch => exact hgone tracee hold rfl
      | failed => exact hfailed tracee hold rfl
    | false =>
      cases answer with
      | ok => exact hok tracee hold rfl
      | esrch => exact hgone tracee hold rfl
      | failed => exact hfailed tracee hold rfl

/-! ### Exits -/

theorem record_exit_status_spec (tid : Pid) (status : WaitStatus) {E : String → Context → Prop} :
    Holds (record_exit_status tid status) c
      (fun _ c' => c'.tracees = c.tracees ∧ c'.requests = c.requests ∧ c'.output = c.output) E := by
  unfold record_exit_status
  rw [holds_modify]
  split
  · exact ⟨rfl, rfl, rfl⟩
  · exact ⟨rfl, rfl, rfl⟩

theorem remove_tracee_spec (tid : Pid) {E : String → Context → Prop} :
    Holds (remove_tracee tid) c (fun _ c' => Drops c [tid] c') E := by
  unfold remove_tracee
  rw [holds_modify]
  have hlookup : ∀ other, (c.tracees.remove tid).2.lookup other =
      if other ∈ [tid] then none else c.tracees.lookup other := by
    intro other
    rw [Tracees.lookup_remove]
    simp
  dsimp only
  split
  · exact ⟨hlookup, rfl, rfl⟩
  · exact ⟨hlookup, rfl, rfl⟩

/-- **The rule of a written exit**: a status that ends no task is not written. -/
theorem holds_report_exit {tracee : Tracee} {status : WaitStatus} {Q : Unit → Context → Prop}
    {E : String → Context → Prop}
    (hwritten : ∀ exit : ProcessExit,
      Holds (write_stamped config env tracee (.process_exit exit)) c Q E)
    (hother : Q () c) : Holds (report_exit config env tracee status) c Q E := by
  cases status with
  | signaled signal => exact hwritten _
  | exited code => exact hwritten _
  | stopped stop ptrace_event => exact hother
  | continued => exact hother

/-- **The rule of an exit**: it is written, the status of the root is kept, and the task is
    removed.  `R` is what holds when it has been written. -/
theorem holds_handle_exit {tracee : Tracee} {waited : Pid} {status : WaitStatus}
    {Q : Unit → Context → Prop} {E : String → Context → Prop} (R : Context → Prop)
    (hrefused : config.seccomp_bpf = true → E "seccomp-BPF setup failed before command execution"
      { c with tracees := c.tracees.write { tracee with phase := .SG_TRACEE_GONE } })
    (hreported : Holds (report_exit config env { tracee with phase := .SG_TRACEE_GONE } status)
      { c with tracees := c.tracees.write { tracee with phase := .SG_TRACEE_GONE } }
      (fun _ c₁ => R c₁) E)
    (hremoved : ∀ c₁ c₂ c₃, R c₁ → c₂.tracees = c₁.tracees → c₂.requests = c₁.requests →
      c₂.output = c₁.output → Drops c₂ [waited] c₃ → Q () c₃) :
    Holds (handle_exit config env tracee waited status) c Q E := by
  unfold handle_exit
  rw [holds_bind, holds_store, holds_bind, holds_get, holds_ite]
  refine ⟨fun hguard => hrefused ?_, fun _ => ?_⟩
  · simp only [Bool.and_eq_true] at hguard
    exact hguard.1.1.1
  rw [holds_bind]
  apply hreported.mono
  · intro _ c₁ h₁
    rw [holds_bind]
    apply (record_exit_status_spec waited status).mono
    · intro _ c₂ hpost
      rcases hpost with ⟨htracees, hrequests, houtput⟩
      apply (remove_tracee_spec waited).mono
      · exact fun _ c₃ hd => hremoved c₁ c₂ c₃ h₁ htracees hrequests houtput hd
      · exact fun _ _ h => h
    · exact fun _ _ h => h
  · exact fun _ _ h => h

/-! ### The launch -/

/-- The record of a launched child before the loop. -/
def Tracee.launched (child : Pid) : Tracee :=
  { Tracee.registered child child false false with
    in_ptrace_stop := true
    phase := .SG_TRACEE_STOPPED }

theorem launch_root_spec (hs : env.Succeeds) {child : Pid} (hchild : 0 < child) :
    Holds (launch_root env child) .init
      (fun _ c => (∀ tid, c.tracees.lookup tid =
          if tid = child then some (Tracee.launched child) else none) ∧
        c.output = sg_output_init ∧ c.root_tid = child ∧ c.requests = [])
      (fun _ _ => False) := by
  unfold launch_root
  simp only [holds_bind, holds_modify]
  apply (add_tracee_spec child child false false).mono
  · intro _ c hpost
    rcases hpost with ⟨_, _, hreg⟩
    have hlookup : ∀ tid, c.tracees.lookup tid =
        if tid = child then some (Tracee.registered child child false false) else none := by
      intro tid
      rw [hreg.lookup]
      by_cases ht : tid = child
      · simp [ht, Context.init]
      · simp [ht, Context.init]
    have hself : c.tracees.lookup child = some (Tracee.registered child child false false) := by
      rw [hlookup, if_pos rfl]
    have hrest := hreg.rest
    simp only [holds_get, Tracees.get_eq, hself, holds_store]
    refine ⟨fun tid => ?_, hreg.output, congrArg Context.Rest.root_tid hrest,
      congrArg Context.Rest.requests hrest⟩
    show (c.tracees.write (Tracee.launched child)).lookup tid = _
    have htid : (Tracee.launched child).tid = child := rfl
    rw [Tracees.lookup_write, htid, hself]
    by_cases ht : tid = child
    · simp [ht]
    · simp [ht, hlookup]
  · intro _ c hpost
    rcases hpost with ⟨_, hwhy⟩
    obtain h | h | h := hwhy
    · exact absurd hchild (not_lt.mpr h)
    · exact absurd hchild (not_lt.mpr h)
    · -- The first sixteen slots are granted.
      rw [hs.alloc] at h
      have h : calloc_slots true 16 = false := h
      exact absurd h (by decide)

/-- The context of a launched child before the loop, when nothing fails. -/
def Context.launched (child : Pid) : Context :=
  finalState (launch_root .reliable child) .init

theorem launched_spec {child : Pid} (hchild : 0 < child) :
    (∀ tid, (Context.launched child).tracees.lookup tid =
        if tid = child then some (Tracee.launched child) else none) ∧
      (Context.launched child).output = sg_output_init ∧
      (Context.launched child).root_tid = child ∧ (Context.launched child).requests = [] := by
  obtain ⟨⟨⟩, c, hrun, h⟩ := (launch_root_spec Env.reliable_succeeds hchild).exists_ok
  have : Context.launched child = c := by
    unfold Context.launched finalState
    rw [hrun]
  rw [this]
  exact h

/-- A launched child can be traced. -/
theorem launched_tracing {child : Pid} (hchild : 0 < child) (hevents : config.summary = false) :
    Tracing config .reliable (.launched child) (.launched child) := by
  obtain ⟨hlookup, houtput, -, -⟩ := launched_spec hchild
  refine ⟨Env.reliable_succeeds, hevents, ⟨?_, ?_⟩, ?_⟩
  · rw [houtput]
    exact List.nodup_nil
  · intro tid htid
    rw [houtput] at htid
    simp [sg_output_init] at htid
  · rw [hlookup]
    exact if_pos rfl

/-- Where the loop starts with a launched command. -/
def Context.started (config : Config) (child : Pid) : Context :=
  finalState (resume_root config .reliable .ok) (.launched child)

/-- The record of a launched child when the loop starts. -/
def Tracee.started (child : Pid) : Tracee :=
  { Tracee.launched child with in_ptrace_stop := false }

theorem started_spec (hmode : config.mode = .SG_RUN_LAUNCH) {child : Pid} (hchild : 0 < child) :
    (∀ tid, (Context.started config child).tracees.lookup tid =
        if tid = child then some (Tracee.started child) else none) ∧
      (Context.started config child).output = sg_output_init := by
  obtain ⟨hlookup, houtput, hroot, -⟩ := launched_spec hchild
  have hself : (Context.launched child).tracees.lookup child = some (Tracee.launched child) := by
    rw [hlookup, if_pos rfl]
  have hspec : Holds (resume_root config .reliable .ok) (.launched child)
      (fun _ c => (∀ tid, c.tracees.lookup tid =
          if tid = child then some (Tracee.started child) else none) ∧ c.output = sg_output_init)
      (fun _ _ => False) := by
    unfold resume_root resume_tracee
    rw [hmode]
    simp only [holds_bind, holds_get, Tracees.get_eq, hroot, hself, holds_measured_ptrace, if_true,
      holds_store]
    refine ⟨fun tid => ?_, houtput⟩
    show ((Context.launched child).tracees.write (Tracee.started child)).lookup tid = _
    have htid : (Tracee.started child).tid = child := rfl
    rw [Tracees.lookup_write, htid, hself, hlookup]
    by_cases ht : tid = child
    · simp [ht]
    · simp [ht]
  obtain ⟨⟨⟩, c, hrun, h⟩ := hspec.exists_ok
  have hstarted : Context.started config child = c := by
    unfold Context.started finalState
    rw [hrun]
  rw [hstarted]
  exact h

end spec

/-! ### Reports for runs on fixed inputs -/

/-- Launched with `-f`. -/
def Config.following : Config := { Config.plain .SG_FORMAT_TEXT with follow := true }

/-- The answers to a stop about which the kernel says nothing but `message`. -/
def Answers.plain (message : Option Nat) : Answers where
  eventmsg := message
  syscall_info := none
  signal_info := .failed
  waited_tgid := 0
  child_tgid := 0
  restart := .ok

/-- The stop at the entry of a call whose arguments are all 7. -/
def entry_report (tid : Pid) (number : UInt64) : Report where
  waited := .status tid (.stopped SYSCALL_STOP 0) { Answers.plain none with
    syscall_info := some ⟨sizeof_entry, PTRACE_SYSCALL_INFO_ENTRY, AUDIT_ARCH_X86_64, number,
      Vector.replicate 6 7, 0, false⟩ }
  shutdown_signal := 0

/-- The stop at the exit of a call. -/
def exit_report (tid : Pid) (rval : Int) (is_error : Bool) : Report where
  waited := .status tid (.stopped SYSCALL_STOP 0) { Answers.plain none with
    syscall_info := some ⟨sizeof_exit, PTRACE_SYSCALL_INFO_EXIT, AUDIT_ARCH_X86_64, 0,
      Vector.replicate 6 0, rval, is_error⟩ }
  shutdown_signal := 0

abbrev SIGUSR1 : Int := 10

/-- The stop for a signal that is sent to a task. -/
def signal_report (tid : Pid) (signal : Int) : Report where
  waited := .status tid (.stopped signal 0) { Answers.plain none with
    signal_info := .ok ⟨signal, 0, 0⟩ }
  shutdown_signal := 0

end Sysgaze
