import Sysgaze.SlotDiscipline
import Sysgaze.Lib.Keeping

/-! # Invariants of whole runs

    What a run of `sg_trace_run` keeps, in launch and in attach mode, whatever is
    reported and whatever fails.

    Most of what a round does writes nothing and starts no call: it adds, renames,
    marks and removes records (`Rearranged`).  An invariant about calls and lines
    need only be checked against five programs: the writer of stamped events, the
    entry and the exit of a call, the end of an exec, and the report of a call that
    is not restarted (`CallInvariant`).  The rules below carry it through a round,
    the loop, and `sg_trace_run`.
-/

open Fallible

namespace Sysgaze

/-! ### Steps that write nothing -/

/-- Is it a line of the file?  The log also keeps the places where a TID was renamed. -/
def Line.written : Line → Bool
  | .renamed _ _ => false
  | _ => true

/-- The lines that have been written. -/
def Context.written (context : Context) : List Line := context.output.lines.filter Line.written

/-- The part of a context that only the writers change. -/
structure Context.Ledger where
  stats : Stats
  event_count : Nat
  readings : List Timespec
  records : List (Pid × SyscallEvent)
  emitted : List Event

/-- The ledger of a context. -/
def Context.ledger (context : Context) : Context.Ledger :=
  ⟨context.stats, context.event_count, context.readings, context.records, context.emitted⟩

/-- From `c` to `c'` nothing has been written and the clock has not been read. -/
structure Silent (c c' : Context) : Prop where
  written : c'.written = c.written
  ledger : c'.ledger = c.ledger
  asked : c.asked ≤ c'.asked

/-- From `c` to `c'` nothing has been written, and no call has changed: a record has the calls
    that some record had before, or none. -/
structure Rearranged (c c' : Context) : Prop extends Silent c c' where
  calls : ∀ tid tracee, c'.tracees.lookup tid = some tracee →
    tracee.calls = .idle ∨
      ∃ former old, c.tracees.lookup former = some old ∧ tracee.calls = old.calls

section silent
variable {config : Config} {env : Env} {c c' c'' : Context} {tracee old : Tracee} {tid : Pid}

theorem Silent.refl (c : Context) : Silent c c := ⟨rfl, rfl, le_rfl⟩

theorem Silent.trans (h : Silent c c') (h' : Silent c' c'') : Silent c c'' :=
  ⟨h'.written.trans h.written, h'.ledger.trans h.ledger, h.asked.trans h'.asked⟩

instance : IsPreorder Context Silent where
  refl := Silent.refl
  trans _ _ _ h h' := h.trans h'

theorem Rearranged.of_tracees (h : Silent c c') (htracees : c'.tracees = c.tracees) :
    Rearranged c c' := by
  refine ⟨h, fun tid tracee hknown => Or.inr ⟨tid, tracee, ?_, rfl⟩⟩
  rw [← htracees]
  exact hknown

theorem Rearranged.refl (c : Context) : Rearranged c c := .of_tracees (.refl c) rfl

theorem Rearranged.trans (h : Rearranged c c') (h' : Rearranged c' c'') : Rearranged c c'' := by
  refine ⟨h.toSilent.trans h'.toSilent, fun tid tracee hknown => ?_⟩
  obtain hidle | ⟨former, old, hold, hsame⟩ := h'.calls tid tracee hknown
  · exact Or.inl hidle
  · obtain hidle | ⟨former', old', hold', hsame'⟩ := h.calls former old hold
    · exact Or.inl (hsame.trans hidle)
    · exact Or.inr ⟨former', old', hold', hsame.trans hsame'⟩

theorem Rearranged.asking (c : Context) (request : PtraceRequest) (tid : Pid) :
    Rearranged c (c.asking request tid) := .of_tracees ⟨rfl, rfl, le_rfl⟩ rfl

/-- A record is stored that has the calls of one in the table. -/
theorem Rearranged.store {t : Tracee} (tid : Pid) (old : Tracee)
    (hold : c.tracees.lookup tid = some old) (hsame : t.calls = old.calls) :
    Rearranged c { c with tracees := c.tracees.write t } := by
  refine ⟨⟨rfl, rfl, le_rfl⟩, fun other tracee hknown => ?_⟩
  rw [Tracees.lookup_write] at hknown
  split at hknown
  · rw [← Option.some.inj hknown]
    exact Or.inr ⟨tid, old, hold, hsame⟩
  · exact Or.inr ⟨other, tracee, hknown, rfl⟩

/-- Records are removed. -/
theorem Rearranged.removed {tracees : Tracees} (h : Silent c c') (htracees : c'.tracees = tracees)
    (hkept : ∀ other tracee, tracees.lookup other = some tracee →
      c.tracees.lookup other = some tracee) : Rearranged c c' := by
  refine ⟨h, fun other tracee hknown => Or.inr ⟨other, tracee, hkept other tracee ?_, rfl⟩⟩
  rw [← htracees]
  exact hknown

/-! ### The silent programs -/

theorem measured_ptrace_silent (request : PtraceRequest) (tid : Pid) (data : Int) :
    Travels (measured_ptrace request tid data) Silent := fun _ => ⟨rfl, rfl, le_rfl⟩

theorem store_silent (t : Tracee) : Travels (store t) Silent := fun _ => ⟨rfl, rfl, le_rfl⟩

theorem set_tracees_silent (tracees : Tracees) :
    Silent c { c with tracees := tracees } := ⟨rfl, rfl, le_rfl⟩

theorem add_tracee_silent (tid tgid : Pid) (attached newborn : Bool) :
    Travels (add_tracee env tid tgid attached newborn) Silent := by
  intro c
  unfold add_tracee
  simp only [holds_bind, holds_context_ask, holds_get, holds_set]
  have hasked : ∀ tracees : Tracees,
      Silent c { { c with asked := c.asked + 1 } with tracees := tracees } :=
    fun _ => ⟨rfl, rfl, Nat.le_succ _⟩
  rcases c.tracees.insert tid tgid attached (env.alloc c.asked) with ⟨⟨ok, inserted⟩, tracees⟩
  cases ok with
  | false => exact hasked tracees
  | true =>
    simp only [Bool.not_true, Bool.false_eq_true, if_false]
    cases inserted with
    | false =>
      cases tracees.get tid with
      | none => exact hasked tracees
      | some tracee => exact hasked tracees
    | true =>
      cases tracees.get tid with
      | none => exact hasked tracees
      | some tracee => exact hasked _

/-- Renaming a TID in the output writes no line. -/
theorem sg_output_migrate_tid_silent (former current : Pid) :
    Travels (zoom Context.output (fun context output => { context with output := output })
      (sg_output_migrate_tid former current) : TraceM Unit) Silent := by
  intro c
  rw [holds_zoom]
  apply (sg_output_migrate_tid_spec former current).mono
  · intro _ o ho
    refine ⟨?_, rfl, le_rfl⟩
    have hlines : o.lines = (c.output.log.migrate former current).lines :=
      congrArg Output.Log.lines ho
    show o.lines.filter Line.written = c.output.lines.filter Line.written
    rw [hlines]
    unfold Output.Log.migrate
    split
    · rfl
    · show (c.output.lines ++ [Line.renamed former current]).filter Line.written = _
      rw [List.filter_append]
      exact List.append_nil _
  · exact fun _ _ h => h

theorem migrate_source_silent (waited former : Pid) (source : Tracee) :
    Travels (migrate_source env waited former source) Silent := by
  unfold migrate_source
  apply travels_bind
  · intro c
    rw [holds_onError]
    have hadded : Travels (add_tracee env waited waited source.attached false) Silent :=
      add_tracee_silent waited waited source.attached false
    apply (hadded c).mono
    · exact fun _ _ h => h
    · exact fun _ _ h => h.trans ⟨rfl, rfl, le_rfl⟩
  · intro _
    apply travels_bind (store_silent _)
    intro _
    apply travels_bind (sg_output_migrate_tid_silent former waited)
    intro _
    apply travels_modify
    intro c
    split
    · exact ⟨rfl, rfl, le_rfl⟩
    · exact .refl c

theorem migrate_exec_tid_silent (waited former : Pid) :
    Travels (migrate_exec_tid config env waited former) Silent := by
  intro c
  unfold migrate_exec_tid
  split
  · exact Silent.refl c
  · rw [holds_bind, holds_get]
    dsimp only
    rw [holds_bind, holds_set]
    generalize (c.tracees.remove former).1 = source
    generalize ((c.tracees.remove former).2.remove waited).1 = replaced
    generalize ((c.tracees.remove former).2.remove waited).2 = tracees
    have hdropped : Silent c { c with tracees := tracees } := set_tracees_silent tracees
    have hthen : ∀ {α : Type} {m : TraceM α}, Travels m Silent →
        Holds m { c with tracees := tracees } (fun _ c' => Silent c c') (fun _ c' => Silent c c') :=
      fun hm => (hm _).mono (fun _ _ h => hdropped.trans h) (fun _ _ h => hdropped.trans h)
    cases source with
    | some source =>
      cases replaced with
      | some replaced =>
        apply hthen
        apply travels_bind
        · exact travels_modify fun _ => ⟨rfl, rfl, le_rfl⟩
        · exact fun _ => migrate_source_silent _ _ _
      | none => exact hthen (migrate_source_silent _ _ _)
    | none =>
      cases replaced with
      | some replaced => exact hthen (migrate_source_silent _ _ _)
      | none =>
        apply hthen
        apply travels_bind (add_tracee_silent _ _ _ _)
        exact fun _ => sg_output_migrate_tid_silent _ _

theorem record_exit_status_silent (tid : Pid) (status : WaitStatus) :
    Travels (record_exit_status tid status) Silent := by
  apply travels_modify
  intro c
  split
  · exact ⟨rfl, rfl, le_rfl⟩
  · exact .refl c

theorem remove_tracee_silent (tid : Pid) : Travels (remove_tracee tid) Silent := by
  apply travels_modify
  intro c
  dsimp only
  split
  · exact ⟨rfl, rfl, le_rfl⟩
  · exact ⟨rfl, rfl, le_rfl⟩

end silent

/-! ### The programs that rearrange the table -/

/-- The program rearranges the table, or fails without having written anything. -/
abbrev Rearranges {α : Type} (c : Context) (m : TraceM α) : Prop :=
  Keeps (Rearranged c) (Silent c) m c

section rearranges
variable {config : Config} {env : Env} {c c' : Context} {tracee old : Tracee} {tid : Pid}

theorem Tracee.registered_calls (tid tgid : Pid) (attached newborn : Bool) :
    (Tracee.registered tid tgid attached newborn).calls = .idle := rfl

theorem Registers.rearranged {tgid : Pid} {attached newborn : Bool}
    (h : Registers c tid tgid attached newborn c') (hsilent : Silent c c') : Rearranged c c' := by
  refine ⟨hsilent, fun other tracee hknown => ?_⟩
  rw [h.lookup] at hknown
  split at hknown
  · rw [← Option.some.inj hknown]
    exact Or.inl (Tracee.registered_calls _ _ _ _)
  · exact Or.inr ⟨other, tracee, hknown, rfl⟩

theorem Drops.rearranged {tids : List Pid} (h : Drops c tids c') (hsilent : Silent c c') :
    Rearranged c c' := by
  refine ⟨hsilent, fun other tracee hknown => Or.inr ⟨other, tracee, ?_, rfl⟩⟩
  rw [h.lookup] at hknown
  split at hknown
  · simp at hknown
  · exact hknown

/-- The renamed record has the calls of a record that was there. -/
theorem Migrates.rearranged {waited former : Pid} (h : Migrates config c waited former c')
    (hsilent : Silent c c') : Rearranged c c' := by
  refine ⟨hsilent, fun other tracee hknown => ?_⟩
  rw [h.lookup] at hknown
  split at hknown
  · rw [← Option.some.inj hknown]
    unfold Context.migrated
    cases hsource : c.tracees.lookup former with
    | some source => exact Or.inr ⟨former, source, hsource, rfl⟩
    | none =>
      cases hreplaced : c.tracees.lookup waited with
      | some replaced => exact Or.inr ⟨waited, replaced, hreplaced, rfl⟩
      | none => exact Or.inl (Tracee.registered_calls _ _ _ _)
  · split at hknown
    · simp at hknown
    · exact Or.inr ⟨other, tracee, hknown, rfl⟩

theorem add_tracee_rearranges (tid tgid : Pid) (attached newborn : Bool) :
    Rearranges c (add_tracee env tid tgid attached newborn) :=
  ((add_tracee_spec tid tgid attached newborn).and (add_tracee_silent _ _ _ _ c)).mono
    (fun _ _ hpost => hpost.1.2.2.rearranged hpost.2) (fun _ _ hpost => hpost.2)

theorem migrate_exec_tid_rearranges (waited former : Pid) :
    Rearranges c (migrate_exec_tid config env waited former) := by
  apply ((migrate_exec_tid_spec waited former).and (migrate_exec_tid_silent _ _ c)).mono
  · intro _ c' hpost
    obtain ⟨hmigrates, hsilent⟩ := hpost
    split at hmigrates
    · rw [hmigrates]
      exact .refl c
    · exact hmigrates.rearranged hsilent
  · exact fun _ _ hpost => hpost.2

theorem remove_tracee_rearranges (tid : Pid) : Rearranges c (remove_tracee tid) :=
  ((remove_tracee_spec tid (E := fun _ _ => True)).and (remove_tracee_silent tid c)).mono
    (fun _ _ hpost => hpost.1.rearranged hpost.2) (fun _ _ hpost => hpost.2)

theorem observe_exec_rearranges (waited : Pid) (status : WaitStatus) (answers : Answers) :
    Rearranges c (observe_exec config env waited status answers) := by
  unfold observe_exec
  cases status with
  | exited code => exact Rearranged.refl c
  | signaled signal => exact Rearranged.refl c
  | continued => exact Rearranged.refl c
  | stopped stop ptrace_event =>
    apply keeps_ite
    · intro _
      have hasked := Rearranged.asking c .PTRACE_GETEVENTMSG waited
      unfold Keeps
      rw [holds_bind, holds_measured_ptrace]
      cases answers.eventmsg with
      | none => exact hasked.toSilent
      | some former =>
        dsimp only
        rw [holds_ite]
        refine ⟨fun _ => hasked.toSilent, fun _ => ?_⟩
        apply (migrate_exec_tid_rearranges waited former).mono
        · exact fun _ _ h => hasked.trans h
        · exact fun _ _ h => hasked.toSilent.trans h
    · exact fun _ => Rearranged.refl c

theorem find_tracee_rearranges (waited : Pid) (status : WaitStatus) (answers : Answers) :
    Holds (find_tracee config env waited status answers) c
      (fun found c' => Rearranged c c' ∧ found = c'.tracees.lookup waited)
      (fun _ c' => Silent c c') := by
  unfold find_tracee
  rw [holds_bind, holds_get, Tracees.get_eq]
  cases hknown : c.tracees.lookup waited with
  | some tracee => exact ⟨.refl c, hknown.symm⟩
  | none =>
    cases status with
    | stopped stop ptrace_event =>
      dsimp only
      split
      · rw [holds_bind]
        apply (add_tracee_rearranges _ _ _ _).mono
        · intro _ c₁ h₁
          rw [holds_bind, holds_get, Tracees.get_eq]
          exact ⟨h₁, rfl⟩
        · exact fun _ _ h => h
      · exact ⟨.refl c, hknown.symm⟩
    | exited code => exact ⟨.refl c, hknown.symm⟩
    | signaled signal => exact ⟨.refl c, hknown.symm⟩
    | continued => exact ⟨.refl c, hknown.symm⟩

theorem restart_tracee_rearranges (waited : Pid) (signal : Int) (listen : Bool)
    (answer : RestartAnswer) :
    Rearranges c (restart_tracee config env waited signal listen answer) := by
  have hasked : ∀ tracee, Rearranged c (c.asked_restart config tracee signal listen) :=
    fun _ => .of_tracees ⟨rfl, rfl, le_rfl⟩ rfl
  apply holds_restart_tracee
  · exact fun _ => .refl c
  · intro tracee hold _
    exact (hasked tracee).trans (.store waited tracee hold rfl)
  · exact fun tracee _ _ => hasked tracee
  · exact fun tracee _ _ => (hasked tracee).toSilent

end rearranges

/-! ### Invariants of calls and lines -/

/-- **An invariant about calls and lines**, of which `J` is left when something has failed: no
    rearrangement breaks it, and neither do the five programs that write or change a call. -/
structure CallInvariant (config : Config) (env : Env) (I J : Context → Prop) : Prop where
  failed : ∀ {c : Context}, I c → J c
  rearranged : ∀ {c c' : Context}, I c → Rearranged c c' → I c'
  silent : ∀ {c c' : Context}, J c → Silent c c' → J c'
  stamped : ∀ {c : Context} (tracee : Tracee) {data : EventData}, I c →
    (∀ call, data ≠ .syscall call) → Keeps I J (write_stamped config env tracee data) c
  entry : ∀ {c : Context} {tracee : Tracee} (number : UInt64) (arguments : Vector UInt64 6), I c →
    c.tracees.lookup tracee.tid = some tracee →
    Keeps I J (begin_syscall config env tracee number arguments) c
  exit : ∀ {c : Context} {tracee : Tracee} (rval : Int) (is_error : Bool), I c →
    c.tracees.lookup tracee.tid = some tracee →
    Keeps I J (finish_syscall config env tracee rval is_error) c
  exec : ∀ {c : Context} {tracee : Tracee}, I c → c.tracees.lookup tracee.tid = some tracee →
    tracee.has_pending_syscall = true → Keeps I J (complete_exec config env tracee) c

section rounds
variable {config : Config} {env : Env} {I J : Context → Prop} {c c' : Context} {tracee : Tracee}
  {tid : Pid}

namespace CallInvariant

/-- A program that rearranges the table keeps the invariant. -/
theorem rearranges {α : Type} {m : TraceM α} (h : CallInvariant config env I J) (hI : I c)
    (hm : Rearranges c m) : Keeps I J m c :=
  keeps_of_holds hm (fun _ _ hre => h.rearranged hI hre) fun _ _ hs => h.silent (h.failed hI) hs

theorem handle_syscall_stop (h : CallInvariant config env I J) (hI : I c)
    (hold : c.tracees.lookup tracee.tid = some tracee) (answer : Option SyscallInfo) :
    Keeps I J (handle_syscall_stop config env tracee answer) c := by
  have hasked := h.rearranged hI (.asking c .PTRACE_GET_SYSCALL_INFO tracee.tid)
  have hfailed := h.failed hasked
  unfold Sysgaze.handle_syscall_stop Keeps
  rw [holds_bind, holds_measured_ptrace]
  cases answer with
  | none => exact hfailed
  | some info =>
    dsimp only
    split
    · exact hfailed
    · split
      · exact hfailed
      · split
        · split
          · exact hfailed
          · exact h.entry _ _ hasked hold
        · split
          · split
            · exact hfailed
            · exact h.exit _ _ hasked hold
          · exact hfailed

theorem handle_seccomp_stop (h : CallInvariant config env I J) (hI : I c)
    (hold : c.tracees.lookup tracee.tid = some tracee) (answer : Option SyscallInfo) :
    Keeps I J (handle_seccomp_stop config env tracee answer) c := by
  have hasked := h.rearranged hI (.asking c .PTRACE_GET_SYSCALL_INFO tracee.tid)
  have hfailed := h.failed hasked
  unfold Sysgaze.handle_seccomp_stop Keeps
  rw [holds_bind, holds_measured_ptrace]
  cases answer with
  | none => exact hfailed
  | some info =>
    dsimp only
    split
    · exact hfailed
    · split
      · exact hfailed
      · split
        · exact hfailed
        · split
          · exact hfailed
          · exact h.entry _ _ hasked hold

theorem handle_exec_event (h : CallInvariant config env I J) (hI : I c)
    (hold : c.tracees.lookup tracee.tid = some tracee) :
    Keeps I J (handle_exec_event config env tracee) c := by
  have hobserved : Rearranged c (c.exec_observed tracee) := by
    unfold Context.exec_observed
    split
    · exact .of_tracees ⟨rfl, rfl, le_rfl⟩ rfl
    · exact .refl c
  have hI₀ := h.rearranged hI hobserved
  have hold₀ : (c.exec_observed tracee).tracees.lookup tracee.tid = some tracee := by
    rw [Context.exec_observed_tracees]
    exact hold
  unfold Keeps
  rw [holds_handle_exec_event]
  constructor
  · intro hpending
    apply ((complete_exec_spec hold₀).and (h.exec hI₀ hold₀ hpending)).mono
    · intro mid c₁ hpost
      rcases hpost with ⟨⟨exited_at, events, _, _, hu⟩, hI₁⟩
      exact h.rearranged hI₁ (.store _ _ hu.lookup_self rfl)
    · exact fun _ _ hpost => hpost.2
  · intro _
    exact h.rearranged hI₀ (.store _ _ hold₀ rfl)

theorem handle_child_event (h : CallInvariant config env I J) (hI : I c) (ptrace_event : Nat)
    (answers : Answers) : Keeps I J (handle_child_event config env tracee ptrace_event answers) c := by
  have hasked := h.rearranged hI (.asking c .PTRACE_GETEVENTMSG tracee.tid)
  have hfailed := h.failed hasked
  unfold Sysgaze.handle_child_event Keeps
  rw [holds_bind, holds_measured_ptrace]
  dsimp only
  rw [holds_ite]
  refine ⟨fun _ => hfailed, fun _ => ?_⟩
  rw [holds_bind, holds_onError]
  apply (add_tracee_rearranges _ _ _ _).mono
  · intro _ c₁ hre
    have hI₁ := h.rearranged hasked hre
    rw [holds_bind, holds_get]
    cases c₁.tracees.get tracee.tid with
    | none => exact h.failed hI₁
    | some parent => exact h.stamped parent hI₁ (by simp)
  · intro _ c₁ hs
    have habandoned : Silent c₁ (c₁.abandon_child (answers.eventmsg.getD 0) tracee.attached) := by
      unfold Context.abandon_child
      split
      · exact ⟨rfl, rfl, le_rfl⟩
      · exact ⟨rfl, rfl, le_rfl⟩
    exact h.silent hfailed (hs.trans habandoned)

theorem handle_ptrace_event (h : CallInvariant config env I J) (hI : I c)
    (hold : c.tracees.lookup tracee.tid = some tracee) (ptrace_event : Nat) (answers : Answers) :
    Keeps I J (handle_ptrace_event config env tracee ptrace_event answers) c := by
  unfold Sysgaze.handle_ptrace_event
  apply keeps_ite
  · exact fun _ => h.handle_seccomp_stop hI hold _
  · intro _
    apply keeps_ite
    · exact fun _ => h.handle_exec_event hI hold
    · intro _
      apply keeps_ite
      · exact fun _ => keeps_throw _ (h.failed hI)
      · exact fun _ => h.handle_child_event hI _ _

theorem handle_signal_stop (h : CallInvariant config env I J) (hI : I c)
    (hold : c.tracees.lookup tracee.tid = some tracee) (stop : Int) (answer : SigInfoAnswer) :
    Keeps I J (handle_signal_stop config env tracee stop answer) c := by
  have hasked := h.rearranged hI (.asking c .PTRACE_GETSIGINFO tracee.tid)
  have hstored : ∀ {t : Tracee}, t.calls = tracee.calls →
      I { c.asking .PTRACE_GETSIGINFO tracee.tid with tracees := c.tracees.write t } :=
    fun hsame => h.rearranged hasked (.store tracee.tid tracee hold hsame)
  unfold Sysgaze.handle_signal_stop Keeps
  rw [holds_bind, holds_measured_ptrace]
  cases answer with
  | ok signal_info =>
    simp only [holds_bind, holds_store, holds_pure]
    exact h.stamped _ (hstored rfl) (by simp)
  | einval =>
    simp only [holds_ite, holds_bind, holds_store, holds_pure, holds_throw]
    exact ⟨fun _ => hstored rfl, fun _ => h.failed hasked⟩
  | failed => exact h.failed hasked

/-- **A stop** keeps the invariant. -/
theorem handle_stop (h : CallInvariant config env I J) (hI : I c)
    (hold : c.tracees.lookup tracee.tid = some tracee) (stop : Int) (ptrace_event : Nat)
    (answers : Answers) : Keeps I J (handle_stop config env tracee stop ptrace_event answers) c := by
  have hstored : ∀ {t : Tracee}, t.calls = tracee.calls →
      I { c with tracees := c.tracees.write t } :=
    fun hsame => h.rearranged hI (.store _ _ hold hsame)
  unfold Sysgaze.handle_stop
  apply keeps_ite
  · intro _
    apply keeps_bind (h.handle_syscall_stop hI hold _)
    exact fun _ _ hI₁ => keeps_pure _ hI₁
  · intro _
    apply keeps_ite
    · intro _
      apply keeps_ite
      · exact fun _ => hstored rfl
      · exact fun _ => hstored rfl
    · intro _
      apply keeps_ite
      · intro _
        apply keeps_bind (h.handle_ptrace_event hI hold _ _)
        exact fun _ _ hI₁ => keeps_pure _ hI₁
      · intro _
        apply keeps_ite
        · exact fun _ => hstored rfl
        · exact fun _ => h.handle_signal_stop hI hold _ _

theorem handle_exit (h : CallInvariant config env I J) (hI : I c)
    (hold : c.tracees.lookup tracee.tid = some tracee) (waited : Pid) (status : WaitStatus) :
    Keeps I J (handle_exit config env tracee waited status) c := by
  have hstored : I { c with tracees := c.tracees.write { tracee with phase := .SG_TRACEE_GONE } } :=
    h.rearranged hI (.store _ _ hold rfl)
  unfold Sysgaze.handle_exit Keeps
  rw [holds_bind, holds_store, holds_bind, holds_get]
  split
  · exact h.failed hstored
  · apply keeps_bind (I := I)
    · apply holds_report_exit
      · exact fun _ => h.stamped _ hstored (by simp)
      · exact hstored
    · intro _ c₁ h₁
      apply keeps_bind (I := I)
      · exact h.rearranges h₁ (((record_exit_status_spec waited status (E := fun _ _ => True)).and
          (record_exit_status_silent waited status c₁)).mono
            (fun _ _ hpost => .of_tracees hpost.2 hpost.1.1) fun _ _ hpost => hpost.2)
      · exact fun _ c₂ h₂ => h.rearranges h₂ (remove_tracee_rearranges waited)

/-- **A round of the loop** keeps the invariant. -/
theorem loop_round (h : CallInvariant config env I J) (hI : I c) (report : Report) :
    Keeps I J (loop_round config env report) c := by
  unfold Sysgaze.loop_round
  cases report.waited with
  | eintr => exact keeps_pure _ hI
  | failed => exact keeps_throw _ (h.failed hI)
  | status waited status answers =>
    dsimp only
    unfold handle_status
    apply keeps_bind (h.rearranges hI (observe_exec_rearranges _ _ _))
    intro _ c₁ h₁
    apply keeps_bind_of (Q := fun found c' => I c' ∧ found = c'.tracees.lookup waited)
    · apply (find_tracee_rearranges waited status answers).mono
      · exact fun _ _ hpost => ⟨h.rearranged h₁ hpost.1, hpost.2⟩
      · exact fun _ _ hs => h.silent (h.failed h₁) hs
    · intro found c₂ hpost
      obtain ⟨h₂, hfound⟩ := hpost
      cases found with
      | none => exact keeps_pure _ h₂
      | some tracee =>
        have htid : tracee.tid = waited := Tracees.lookup_tid hfound.symm
        have hold : c₂.tracees.lookup tracee.tid = some tracee := by
          rw [htid]
          exact hfound.symm
        cases status with
        | continued => exact h.rearranged h₂ (.store _ _ hold rfl)
        | exited code =>
          apply keeps_bind (h.handle_exit h₂ hold _ _)
          exact fun _ _ h₃ => keeps_pure _ h₃
        | signaled signal =>
          apply keeps_bind (h.handle_exit h₂ hold _ _)
          exact fun _ _ h₃ => keeps_pure _ h₃
        | stopped stop ptrace_event =>
          -- The record is marked as stopped, the stop is handled, and the task restarted.
          let stopped : Tracee :=
            { tracee with in_ptrace_stop := true, phase := .SG_TRACEE_STOPPED }
          have hstored : I { c₂ with tracees := c₂.tracees.write stopped } :=
            h.rearranged h₂ (.store _ _ hold rfl)
          have hknown : (c₂.tracees.write stopped).lookup stopped.tid = some stopped := by
            rw [Tracees.lookup_write]
            exact if_pos ⟨rfl, by rw [show stopped.tid = tracee.tid from rfl, hold]; rfl⟩
          unfold Keeps
          dsimp only
          rw [holds_bind, holds_store]
          apply keeps_bind (h.handle_stop hstored hknown stop ptrace_event answers)
          intro result c₃ h₃
          apply keeps_bind (h.rearranges h₃ (restart_tracee_rearranges _ _ _ _))
          exact fun _ _ h₄ => keeps_pure _ h₄

/-- **The loop** keeps the invariant, whatever is reported. -/
theorem trace_rounds (h : CallInvariant config env I J) (reports : List Report) :
    ∀ {c : Context}, I c → Keeps I J (trace_rounds config env reports) c := by
  induction reports with
  | nil => exact fun hI => hI
  | cons report reports ih =>
    intro c hI
    rw [Sysgaze.trace_rounds]
    apply keeps_get_bind
    apply keeps_ite
    -- The run is over.
    · exact fun _ => keeps_pure _ hI
    · intro _
      apply keeps_bind (h.loop_round hI report)
      intro ended c₁ h₁
      cases ended with
      | again => exact ih h₁
      | finished command_status => exact keeps_pure _ h₁

/-! ### Runs -/

theorem launch (h : CallInvariant config env I J) (hI : I c) (answers : LaunchAnswers) :
    Keeps I J (launch config env answers) c := by
  unfold Sysgaze.launch
  cases answers.child with
  | error error => exact keeps_throw _ (h.failed hI)
  | ok child =>
    dsimp only
    have h₁ : I { c with root_tid := child } :=
      h.rearranged hI (.of_tracees ⟨rfl, rfl, le_rfl⟩ rfl)
    apply keeps_bind (I := I) (keeps_modify h₁)
    intro _ c₂ h₂
    apply keeps_bind (h.rearranges h₂ (add_tracee_rearranges _ _ _ _))
    intro _ c₃ h₃
    -- Nothing changes while the child is waited for.
    have hwaited : Keeps I J (wait_for_initial_stop env answers.initial) c₃ :=
      holds_wait_for_initial_stop h₃ fun _ => h.failed h₃
    apply keeps_bind hwaited
    intro _ c₄ h₄
    apply keeps_get_bind
    rw [Tracees.get_eq]
    cases hknown : c₄.tracees.lookup child with
    | none => exact keeps_throw _ (h.failed h₄)
    | some root =>
      have htid : root.tid = child := Tracees.lookup_tid hknown
      -- The child has stopped, and gets its options.
      let stopped : Tracee := { root with in_ptrace_stop := true, phase := .SG_TRACEE_STOPPED }
      let asked : Context := { c₄ with
        tracees := c₄.tracees.write stopped
        requests := c₄.requests ++ [⟨.PTRACE_SETOPTIONS, child, ptrace_options config true⟩] }
      have hstored : Rearranged c₄ { c₄ with tracees := c₄.tracees.write stopped } :=
        .store _ _ hknown rfl
      have hasked : Rearranged c₄ asked :=
        hstored.trans (.of_tracees ⟨rfl, rfl, le_rfl⟩ rfl)
      have hin : asked.tracees.lookup child = some stopped := by
        show (c₄.tracees.write stopped).lookup child = some stopped
        rw [Tracees.lookup_write]
        exact if_pos ⟨htid.symm, by rw [show stopped.tid = child from htid, hknown]; rfl⟩
      have h₅ : I asked := h.rearranged h₄ hasked
      have h₆ : I { asked with
          tracees := asked.tracees.write { stopped with options_installed := true } } :=
        h.rearranged h₅ (.store _ _ hin rfl)
      unfold install_ptrace_options Keeps
      simp only [holds_bind, holds_store, holds_onError, holds_measured_ptrace, holds_ite,
        holds_pure, holds_throw]
      exact ⟨fun _ => ⟨fun _ => h₆, fun _ => h.failed h₆⟩,
        fun _ => h.silent (h.failed h₅) ⟨rfl, rfl, le_rfl⟩⟩

theorem begin_run (h : CallInvariant config env I J) (hI : I c) (answers : LaunchAnswers) :
    Keeps I J (begin_run config env answers) c := by
  unfold Sysgaze.begin_run
  apply keeps_bind (h.launch hI answers)
  intro _ c₁ h₁
  unfold resume_root
  cases config.mode with
  | SG_RUN_ATTACH => exact keeps_pure _ h₁
  | SG_RUN_LAUNCH =>
    apply keeps_get_bind
    rw [Tracees.get_eq]
    cases hknown : c₁.tracees.lookup c₁.root_tid with
    | none => exact keeps_throw _ (h.failed h₁)
    | some root =>
      let asked : Context := { c₁ with
        requests := c₁.requests ++ [⟨resume_request config root, root.tid, 0⟩] }
      have h₂ : I asked := h.rearranged h₁ (.of_tracees ⟨rfl, rfl, le_rfl⟩ rfl)
      have h₃ : I { asked with tracees := asked.tracees.write { root with in_ptrace_stop := false } } :=
        h.rearranged h₂ (.store (c := asked) _ _ hknown rfl)
      unfold resume_tracee Keeps
      simp only [holds_bind, holds_measured_ptrace, holds_ite, holds_store, holds_throw]
      exact ⟨fun _ => h₃, fun _ => h.failed h₂⟩

/-- A launched run that succeeds ends with what is kept by the end of the tracees. -/
theorem sg_trace_run_ends {I' : Context → Prop} (h : CallInvariant config env I J) (hI : I c)
    (hkept : ∀ {c' : Context}, I c' → I' c') (hsilent : ∀ {c' c'' : Context}, I' c' →
      Silent c' c'' → I' c'') (answers : LaunchAnswers) (reports : List Report)
    (shutdown_signal : Int) :
    Keeps I' J (sg_trace_run config env answers reports shutdown_signal) c := by
  have hrun : Keeps I J (do
      Sysgaze.begin_run config env answers
      Sysgaze.trace_rounds config env reports) c :=
    keeps_bind (h.begin_run hI answers) fun _ _ h₁ => h.trace_rounds reports h₁
  unfold Sysgaze.sg_trace_run
  apply keeps_bind (I := I')
  · have hkilled : ∀ c' : Context, J c' → J c'.kill_all_tracees :=
      fun _ hJ => h.silent hJ ⟨rfl, rfl, le_rfl⟩
    exact keeps_of_holds (keeps_onError hrun hkilled) (fun _ _ => hkept) fun _ _ hJ => hJ
  · intro command_status c₁ h₁
    cases command_status with
    | none => exact h₁
    | some command_status =>
      dsimp only
      exact keeps_ite (fun _ => hsilent h₁ ⟨rfl, rfl, le_rfl⟩) fun _ => h₁

/-- **A launched run** ends with what is left of the invariant, whatever is reported and
    whatever fails. -/
theorem sg_trace_run (h : CallInvariant config env I J) (hI : I c) (answers : LaunchAnswers)
    (reports : List Report) (shutdown_signal : Int) :
    J ((sg_trace_run config env answers reports shutdown_signal).finalState c) :=
  (h.sg_trace_run_ends hI h.failed h.silent answers reports shutdown_signal).at_end fun _ hJ => hJ

variable {attach_pid : Pid}

theorem seize_tasks (h : CallInvariant config env I J) (answers : Pid → RestartAnswer)
    (ids : List Pid) : ∀ {c : Context}, I c →
      Keeps I J (seize_tasks config env attach_pid answers ids) c := by
  induction ids with
  | nil => exact fun hI => hI
  | cons tid ids ih =>
    intro c hI
    rw [Sysgaze.seize_tasks]
    have hseized : Keeps I J (seize_task config env attach_pid (answers tid) tid) c := by
      unfold seize_task
      apply keeps_get_bind
      cases c.tracees.get tid with
      | some _ => exact hI
      | none =>
        apply keeps_bind (h.rearranges hI (add_tracee_rearranges _ _ _ _))
        intro _ c₁ h₁
        have h₂ : I { c₁ with
            requests := c₁.requests ++ [⟨.PTRACE_SEIZE, tid, ptrace_options config false⟩] } :=
          h.rearranged h₁ (.of_tracees ⟨rfl, rfl, le_rfl⟩ rfl)
        unfold Keeps
        rw [holds_bind, holds_measured_ptrace]
        have hremoved := h.rearranges h₂ (remove_tracee_rearranges tid)
        cases answers tid with
        | ok => exact h₂
        | esrch => exact keeps_bind hremoved fun _ _ h₃ => h₃
        | failed => exact keeps_bind hremoved fun _ _ h₃ => h.failed h₃
    apply keeps_bind hseized
    intro _ c₁ h₁
    apply keeps_bind (ih h₁)
    exact fun _ _ h₂ => h₂

theorem prepare_attach (h : CallInvariant config env I J) (hI : I c) (answers : AttachAnswers) :
    Keeps I J (prepare_attach config env attach_pid answers) c := by
  have hrounds : ∀ (rounds : Nat) {round : Nat} {c : Context}, I c →
      Keeps I J (seize_rounds config env attach_pid answers rounds round) c := by
    intro rounds
    induction rounds with
    | zero => exact fun hI => hI
    | succ rounds ih =>
      intro round c hI
      rw [seize_rounds]
      cases answers.task_ids round with
      | error error => exact h.failed hI
      | ok ids =>
        apply keeps_bind (h.seize_tasks _ ids hI)
        intro added c₁ h₁
        exact keeps_ite (fun _ => h₁) fun _ => ih h₁
  unfold Sysgaze.prepare_attach
  cases answers.invalid with
  | some error => exact h.failed hI
  | none =>
    apply keeps_bind (hrounds 64 hI)
    intro stable c₁ h₁
    apply keeps_get_bind
    apply keeps_ite
    · exact fun _ => h.failed h₁
    · intro _
      have h₂ : I { c₁ with asked := c₁.asked + 1 } :=
        h.rearranged h₁ (.of_tracees ⟨rfl, rfl, Nat.le_succ _⟩ rfl)
      have hasked : Keeps I J ask c₁ := h₂
      apply keeps_bind hasked
      intro n c₂ h₂
      apply keeps_ite
      · exact fun _ => h.failed h₂
      · intro _
        apply keeps_bind (I := I)
        · apply keeps_forM _ h₂
          intro tid _ c₃ h₃
          have h₄ : I { c₃ with requests := c₃.requests ++ [⟨.PTRACE_INTERRUPT, tid, 0⟩] } :=
            h.rearranged h₃ (.of_tracees ⟨rfl, rfl, le_rfl⟩ rfl)
          unfold interrupt_task Keeps
          rw [holds_bind, holds_measured_ptrace]
          cases answers.interrupt tid with
          | ok => exact h₄
          | esrch => exact h₄
          | failed => exact h.failed h₄
        · exact fun _ c₃ h₃ => h.rearranged h₃ (.of_tracees ⟨rfl, rfl, le_rfl⟩ rfl)

/-- Detaching writes nothing. -/
theorem detach_all_tracees_silent (answers : Pid → DetachAnswer) :
    Travels (detach_all_tracees answers) Silent := by
  unfold detach_all_tracees
  apply travels_bind travels_get
  intro context
  apply travels_bind
  · apply travels_forM
    intro tracee
    unfold interrupt_running
    apply travels_ite (travels_pure _)
    apply travels_bind (measured_ptrace_silent _ _ _)
    exact fun _ => travels_ite (store_silent _) (travels_pure _)
  · intro _
    apply travels_bind travels_get
    intro context
    apply travels_forM
    intro tracee
    unfold detach_tracee
    apply travels_ite (travels_pure _)
    apply travels_ite (measured_ptrace_silent _ _ _)
    split
    · exact travels_pure _
    · exact measured_ptrace_silent _ _ _

/-- An attached run that succeeds ends with what is kept by the detach. -/
theorem sg_trace_run_attached_ends {I' : Context → Prop} (h : CallInvariant config env I J)
    (hI : I c) (hkept : ∀ {c' : Context}, I c' → I' c') (hsilent : ∀ {c' c'' : Context}, I' c' →
      Silent c' c'' → I' c'') (hfailed : ∀ {c' : Context}, I' c' → J c') (answers : AttachAnswers)
    (handlers : Bool) (reports : List Report) (shutdown_signal : Int)
    (detached : Pid → DetachAnswer) :
    Keeps I' J (sg_trace_run_attached config env attach_pid answers handlers reports
      shutdown_signal detached) c := by
  have hdetached : ∀ {K : Context → Prop} {c' : Context}, (∀ {c₁ c₂ : Context}, K c₁ →
      Silent c₁ c₂ → K c₂) → K c' → Keeps K K (detach_all_tracees detached) c' :=
    fun hK h' => keeps_of_holds (detach_all_tracees_silent detached _) (fun _ _ => hK h')
      fun _ _ => hK h'
  have hrun : Keeps I J (do
      attach config env attach_pid answers handlers
      Sysgaze.trace_rounds config env reports) c := by
    apply keeps_bind (I := I)
    · unfold attach
      apply keeps_bind (h.prepare_attach hI answers)
      exact fun _ _ h₁ => keeps_ite (fun _ => h₁) fun _ => h.failed h₁
    · exact fun _ _ h₁ => h.trace_rounds reports h₁
  unfold Sysgaze.sg_trace_run_attached
  apply keeps_bind (I := I')
  · apply keeps_of_holds (keeps_onError hrun fun _ hJ => (hdetached h.silent hJ).at_end fun _ h => h)
    · exact fun _ _ => hkept
    · exact fun _ _ hJ => hJ
  · intro command_status c₁ h₁
    cases command_status with
    | none => exact h₁
    | some command_status =>
      dsimp only
      apply keeps_ite
      · intro _
        have hgone : Keeps I' J (detach_all_tracees detached) c₁ :=
          keeps_of_holds (hdetached hsilent h₁) (fun _ _ h => h) fun _ _ => hfailed
        exact keeps_bind hgone fun _ _ h₂ => h₂
      · exact fun _ => h₁

/-- **An attached run** ends with what is left of the invariant, whatever is reported and
    whatever fails. -/
theorem sg_trace_run_attached (h : CallInvariant config env I J) (hI : I c)
    (answers : AttachAnswers) (handlers : Bool) (reports : List Report) (shutdown_signal : Int)
    (detached : Pid → DetachAnswer) :
    J ((sg_trace_run_attached config env attach_pid answers handlers reports shutdown_signal
      detached).finalState c) :=
  (h.sg_trace_run_attached_ends hI h.failed h.silent id answers handlers reports shutdown_signal
    detached).at_end fun _ hJ => hJ

end CallInvariant

end rounds

end Sysgaze
