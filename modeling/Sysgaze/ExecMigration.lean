import Sysgaze.Alternation
import Sysgaze.RootTask

/-! # A task takes the TID of its leader

    When a thread calls `exec`, the kernel reports the event under the TID of
    the leader, and `migrate_exec_tid` moves what is known of the thread to
    that TID.

    * `exec_migrates`: the record goes with the task, the record of the leader
      is discarded, and the `exec` that was pending is written once, under the
      new TID, by the event that follows.
    * `unfinished_in_step_iff`: the unfinished TIDs follow the tasks, unless
      the leader had been shown inside a call and the thread had not.
-/

open Fallible Stepping

namespace Sysgaze

/-! ### What is kept of the calls -/

/-- What a context keeps of the calls that have completed: those that were passed on, the
    statistics, and those in the log. -/
def Context.books (c : Context) : List (Pid × SyscallEvent) × Stats × List (Pid × SyscallEvent) :=
  (c.records, c.stats, c.completed)

/-- From `c` to `c'` one completed call of `tid` has been written: a line in the log, or
    with `-c` a share of the totals. -/
structure Books (config : Config) (c : Context) (tid : Pid) (call : SyscallEvent) (c' : Context) :
    Prop where
  records : c'.records = c.records ++ [(tid, call)]
  completed : config.summary = false → c'.completed = c.completed ++ [(tid, call)]
  stats : config.summary = true →
    ∃ granted, sg_stats_record c.stats call granted = (true, c'.stats)

/-- From `c` to `c'` no call of `tid` but `call` may have been passed on, and none has been
    written to the log. -/
structure Unwritten (c : Context) (tid : Pid) (call : SyscallEvent) (c' : Context) : Prop where
  records : c'.records = c.records ∨ c'.records = c.records ++ [(tid, call)]
  completed : c'.completed = c.completed

section books
variable {config : Config} {env : Env} {c c₁ c' c'' : Context} {tracee : Tracee} {tid : Pid}
  {call : SyscallEvent}

theorem Books.congr (h : Books config c₁ tid call c') (hbefore : c₁.books = c.books)
    (hafter : c''.books = c'.books) : Books config c tid call c'' := by
  simp only [Context.books, Prod.mk.injEq] at hbefore hafter
  obtain ⟨hrecords, hstats, hcompleted⟩ := hbefore
  obtain ⟨hrecords', hstats', hcompleted'⟩ := hafter
  refine ⟨?_, fun hsummary => ?_, fun hsummary => ?_⟩
  · rw [hrecords', h.records, hrecords]
  · rw [hcompleted', h.completed hsummary, hcompleted]
  · rw [hstats', ← hstats]
    exact h.stats hsummary

theorem Unwritten.congr (h : Unwritten c₁ tid call c') (hbefore : c₁.books = c.books) :
    Unwritten c tid call c' := by
  simp only [Context.books, Prod.mk.injEq] at hbefore
  refine ⟨?_, h.completed.trans hbefore.2.2⟩
  rw [← hbefore.1]
  exact h.records

theorem Unwritten.of_eq (h : c'.books = c.books) : Unwritten c tid call c' := by
  simp only [Context.books, Prod.mk.injEq] at h
  exact ⟨Or.inl h.1, h.2.2⟩

theorem ask_books : Preserves ask Context.books := by
  apply preserves_get_bind
  intro c
  rw [holds_bind, holds_set]
  rfl

theorem store_books (tracee : Tracee) : Preserves (store tracee) Context.books :=
  preserves_modify fun _ => rfl

theorem clock_gettime_books : Preserves (clock_gettime env) Context.books := by
  unfold clock_gettime
  apply preserves_bind ask_books
  intro n
  split
  · exact preserves_bind (preserves_modify fun _ => rfl) fun _ => preserves_pure _
  · exact preserves_throw _

theorem emit_event_records (event : Event) :
    Preserves (emit_event config env event) Context.records :=
  preserves_bind (preserves_modify fun _ => rfl) fun _ => preserves_zoom fun _ _ => rfl

/-- The flush writes to the output only. -/
theorem flush_unfinished_syscalls_records (except_tid : Pid) :
    Preserves (flush_unfinished_syscalls config env except_tid) Context.records := by
  unfold flush_unfinished_syscalls
  apply preserves_ite (preserves_pure _)
  apply preserves_bind preserves_get
  intro c
  apply preserves_forM
  intro tracee
  unfold flush_tracee
  apply preserves_ite (preserves_pure _)
  split
  · exact preserves_pure _
  · exact preserves_ite (preserves_pure _) (emit_event_records _)

/-- **A completed call** of the filter is written once, or it is not written. -/
theorem write_syscall_books (tracee : Tracee) (hsel : selected config call.number = true)
    (hcompleted : call.completed = true) :
    Holds (write_syscall config env tracee call) c
      (fun _ c' => Books config c tracee.tid call c')
      (fun _ c' => Unwritten c tracee.tid call c') := by
  have hrecords : Holds (write_syscall config env tracee call) c
      (fun _ c' => c'.records = c.records ++ [(tracee.tid, call)] ∧ (config.summary = true →
        ∃ granted, sg_stats_record c.stats call granted = (true, c'.stats)))
      (fun _ c' => c'.records = c.records ++ [(tracee.tid, call)]) := by
    unfold write_syscall
    rw [hsel]
    simp only [Bool.not_true, Bool.false_eq_true, if_false, holds_bind, holds_modify]
    by_cases hsummary : config.summary = true
    · simp only [hsummary, if_true, holds_bind, holds_context_ask, holds_get, holds_set]
      rcases hrecord : sg_stats_record c.stats call (env.alloc c.asked) with ⟨recorded, stats⟩
      cases recorded with
      | true => exact ⟨rfl, fun _ => ⟨_, hrecord⟩⟩
      | false => exact rfl
    · simp only [hsummary, if_false, Bool.false_eq_true, holds_bind]
      let noted : Context := { c with
        records := c.records ++ [(tracee.tid, call)], event_count := c.event_count + 1 }
      apply (flush_unfinished_syscalls_records tracee.tid noted).mono
      · intro _ c₁ h₁
        have hemit : Holds (emit_event config env (syscall_event tracee call)) c₁
            (fun _ c' => c'.records = c₁.records) (fun _ c' => c'.records = c₁.records) :=
          emit_event_records _ c₁
        apply hemit.mono
        · intro _ c' h'
          exact ⟨h'.trans h₁, fun h => h.elim⟩
        · intro _ c' h'
          exact h'.trans h₁
      · intro _ c₁ h₁
        exact h₁
  apply ((write_syscall_spec tracee call).and hrecords).mono
  · intro _ c' hpost
    rcases hpost with ⟨⟨events, hevents, hw⟩, hrecords, hstats⟩
    refine ⟨hrecords, fun hsummary => ?_, hstats⟩
    show c'.output.log.completed = c.output.log.completed ++ _
    rw [hw.log, completed_foldl hsummary, if_pos hsel, List.filterMap_append, filterMap_flush hevents]
    simp [Event.completed, syscall_event, hcompleted]
  · intro _ c' hpost
    rcases hpost with ⟨⟨events, hevents, hb⟩, hrecords⟩
    refine ⟨Or.inr hrecords, ?_⟩
    have hlines : c'.completed = (events.foldl (Output.Log.write config) c.output.log).completed :=
      congrArg (List.filterMap Line.completed) hb.lines
    rw [hlines]
    by_cases hsummary : config.summary = true
    · rw [foldl_write_summary hsummary]
      rfl
    · rw [completed_foldl (by simpa using hsummary), filterMap_flush hevents, List.append_nil]
      rfl

/-- The calls of a record and of the context that holds it, after an exec event. -/
theorem complete_exec_books (hsel : selected config tracee.pending_syscall.number = true) :
    Holds (complete_exec config env tracee) c
      (fun _ c' => ∃ exited_at,
        Books config c tracee.tid (tracee.pending_syscall.exec_done exited_at) c')
      (fun _ c' => ∃ exited_at,
        Unwritten c tracee.tid (tracee.pending_syscall.exec_done exited_at) c') := by
  unfold complete_exec
  simp only [holds_bind, holds_store, holds_release, holds_pure]
  apply (clock_gettime_books _).mono
  · intro exited_at c₁ h₁
    have hbefore : Context.books { c₁ with tracees := c₁.tracees.write { tracee with
        pending_syscall := tracee.pending_syscall.exec_done exited_at } } = c.books := h₁
    apply (@write_syscall_books config env _ (tracee.pending_syscall.exec_done exited_at)
      tracee hsel rfl).mono
    · intro _ c₂ h₂
      exact ⟨exited_at, h₂.congr hbefore rfl⟩
    · intro _ c₂ h₂
      exact ⟨exited_at, h₂.congr hbefore⟩
  · intro _ c₁ h₁
    exact ⟨⟨0, 0⟩, .of_eq h₁⟩

/-- A pending call is written by the exec event, and is not pending any more. -/
theorem handle_exec_event_books (hold : c.tracees.lookup tracee.tid = some tracee)
    (hpending : tracee.has_pending_syscall = true)
    (hsel : selected config tracee.pending_syscall.number = true) :
    Holds (handle_exec_event config env tracee) c
      (fun _ c' => (∃ exited_at,
          Books config c tracee.tid (tracee.pending_syscall.exec_done exited_at) c') ∧
        c'.waiting tracee.tid = some false)
      (fun _ c' => ∃ exited_at,
        Unwritten c tracee.tid (tracee.pending_syscall.exec_done exited_at) c') := by
  have hbooks : Holds (handle_exec_event config env tracee) c
      (fun _ c' => ∃ exited_at,
        Books config c tracee.tid (tracee.pending_syscall.exec_done exited_at) c')
      (fun _ c' => ∃ exited_at,
        Unwritten c tracee.tid (tracee.pending_syscall.exec_done exited_at) c') := by
    have hsame : (c.exec_observed tracee).books = c.books := by
      unfold Context.exec_observed
      split
      · rfl
      · rfl
    rw [holds_handle_exec_event]
    refine ⟨fun _ => ?_, fun hidle => absurd hpending hidle⟩
    apply (complete_exec_books hsel).mono
    · intro _ c₁ hpost
      rcases hpost with ⟨exited_at, h₁⟩
      exact ⟨exited_at, h₁.congr hsame rfl⟩
    · intro _ c₁ hpost
      rcases hpost with ⟨exited_at, h₁⟩
      exact ⟨exited_at, h₁.congr hsame⟩
  apply (hbooks.and (handle_exec_event_pending hold)).mono
  · intro _ c' hpost
    rcases hpost with ⟨h, h'⟩
    exact ⟨h, h'.2⟩
  · intro _ c' h
    exact h.1

/-- The restart of a task writes nothing, and begins no call. -/
theorem restart_tracee_books (tid : Pid) (delivery_signal : Int) (listen : Bool)
    (answer : RestartAnswer) :
    Holds (restart_tracee config env tid delivery_signal listen answer) c
      (fun _ c' => c'.books = c.books ∧ c'.waiting tid = c.waiting tid)
      (fun _ c' => answer = .failed ∧ c'.books = c.books ∧ c'.waiting tid = c.waiting tid) := by
  apply holds_restart_tracee
  · intro _
    exact ⟨rfl, rfl⟩
  · intro tracee hold _
    have htid : tracee.tid = tid := Tracees.lookup_tid hold
    subst htid
    have hknown : ((c.asked_restart config tracee delivery_signal listen).tracees.lookup
        (tracee.resumed listen).tid).isSome := by
      show (c.tracees.lookup tracee.tid).isSome = true
      rw [hold]
      rfl
    refine ⟨rfl, ?_⟩
    rw [Context.waiting_eq hold]
    exact waiting_store hknown
  · intro _ _ _
    exact ⟨rfl, rfl⟩
  · intro _ _ hanswer
    exact ⟨hanswer, rfl, rfl⟩

/-! ### Who has the TID -/

theorem add_tracee_books (tid tgid : Pid) (attached newborn : Bool) :
    Preserves (add_tracee env tid tgid attached newborn) Context.books := by
  unfold add_tracee
  apply preserves_bind ask_books
  intro n
  apply preserves_get_bind
  intro c
  rw [holds_bind, holds_set]
  apply Preserves.holds _ rfl
  apply preserves_ite (preserves_throw _)
  -- Only the insertion of a new TID is followed by a store.
  split
  · exact store_books _
  · exact preserves_pure _

/-- The output forgets the former TID, but none of its calls. -/
theorem output_migrate_books (former current : Pid) :
    Preserves (zoom Context.output (fun context output => { context with output := output })
      (sg_output_migrate_tid former current)) Context.books := by
  intro c
  rw [holds_zoom]
  apply (sg_output_migrate_tid_spec former current).mono
  · intro _ o ho
    show (c.records, c.stats, o.log.completed) = (c.records, c.stats, c.output.log.completed)
    rw [ho, completed_migrate]
  · intro _ _ h
    exact h

theorem migrate_exec_tid_books (waited former : Pid) :
    Preserves (migrate_exec_tid config env waited former) Context.books := by
  have hsource : ∀ source : Tracee,
      Preserves (migrate_source env waited former source) Context.books := by
    intro source
    unfold migrate_source
    apply preserves_bind
    · exact preserves_onError (add_tracee_books _ _ _ _) fun _ => rfl
    · intro _
      apply preserves_bind (store_books _)
      intro _
      apply preserves_bind (output_migrate_books former waited)
      intro _
      apply preserves_modify
      intro c
      split
      · rfl
      · rfl
  unfold migrate_exec_tid
  apply preserves_ite (preserves_pure _)
  apply preserves_get_bind
  intro c
  rcases c.tracees.remove former with ⟨source, tracees⟩
  rcases hremoved : tracees.remove waited with ⟨replaced, tracees'⟩
  simp only [hremoved, holds_bind, holds_set]
  cases source with
  | some source =>
    cases replaced with
    | some replaced =>
      simp only [holds_bind, holds_modify]
      exact (hsource source).holds rfl
    | none => exact (hsource source).holds rfl
  | none =>
    cases replaced with
    | some replaced => exact (hsource replaced).holds rfl
    | none =>
      have hnew : Preserves (do
          add_tracee env waited waited (config.mode = .SG_RUN_ATTACH) false
          zoom Context.output (fun context output => { context with output := output })
            (sg_output_migrate_tid former waited)) Context.books :=
        preserves_bind (add_tracee_books _ _ _ _) fun _ => output_migrate_books former waited
      exact hnew.holds rfl

end books

/-! ### The table -/

/-- From `c` to `c'` the task `former` has become `waited`: what was known of it, or else of
    the leader, is kept under the one TID. -/
structure Migrated (c : Context) (waited former : Pid) (c' : Context) : Prop where
  absent : c'.tracees.lookup former = none
  present : ∃ source, (c.tracees.lookup former).or (c.tracees.lookup waited) = some source ∧
    c'.tracees.lookup waited = some (source.renamed waited)
  others : ∀ tid, tid ≠ former → tid ≠ waited → c'.tracees.lookup tid = c.tracees.lookup tid
  count : c'.tracees.count +
      (if (c.tracees.lookup former).isSome ∧ (c.tracees.lookup waited).isSome then 1 else 0) =
    c.tracees.count
  root_tid : c'.root_tid = if c.root_tid = former then waited else c.root_tid
  books : c'.books = c.books

section migration
variable {config : Config} {env : Env} {c c' : Context} {waited former : Pid}

/-- The TIDs of the table. -/
def Tracees.tids (tracees : Tracees) : Set Pid := {tid | (tracees.lookup tid).isSome}

theorem Tracees.finite_tids (tracees : Tracees) : tracees.tids.Finite := by
  apply (List.finite_toSet (tracees.records.map Tracee.tid)).subset
  intro tid htid
  obtain ⟨tracee, hlookup⟩ := Option.isSome_iff_exists.mp htid
  have heq := Tracees.lookup_tid hlookup
  exact List.mem_map.mpr ⟨tracee, Tracees.mem_records.mpr (by rw [heq]; exact hlookup), heq⟩

/-- The migration takes one TID from the table, and adds one that may be there. -/
theorem Migrates.count (h : Migrates config c waited former c') (hne : former ≠ waited)
    (hknown : (c.tracees.lookup former).isSome ∨ (c.tracees.lookup waited).isSome) :
    c'.tracees.count +
        (if (c.tracees.lookup former).isSome ∧ (c.tracees.lookup waited).isSome then 1 else 0) =
      c.tracees.count := by
  have htids : c'.tracees.tids = insert waited (c.tracees.tids \ {former}) := by
    ext tid
    simp only [Tracees.tids, Set.mem_ofPred_eq, Set.mem_insert_iff, Set.mem_sdiff,
      Set.mem_singleton_iff]
    rw [h.lookup]
    by_cases hw : tid = waited
    · simp [hw]
    · by_cases hf : tid = former
      · simp [hf, hne]
      · simp [hw, hf]
  have hcount : c'.tracees.count = c'.tracees.tids.ncard := c'.tracees.count_eq
  have hcount' : c.tracees.count = c.tracees.tids.ncard := c.tracees.count_eq
  rw [hcount, hcount', htids]
  by_cases hf : (c.tracees.lookup former).isSome
  · have hf' : former ∈ c.tracees.tids := hf
    by_cases hw : (c.tracees.lookup waited).isSome
    · have hw' : waited ∈ c.tracees.tids \ {former} := ⟨hw, Ne.symm hne⟩
      rw [if_pos ⟨hf, hw⟩, Set.insert_eq_of_mem hw']
      exact Set.ncard_sdiff_singleton_add_one hf' c.tracees.finite_tids
    · have hw' : waited ∉ c.tracees.tids := hw
      rw [if_neg fun h => hw h.2, Nat.add_zero]
      exact Set.ncard_exchange hw' hf'
  · have hw : waited ∈ c.tracees.tids := hknown.resolve_left hf
    have hf' : former ∉ c.tracees.tids := hf
    rw [if_neg fun h => hf h.1, Nat.add_zero, Set.sdiff_singleton_eq_self hf',
      Set.insert_eq_of_mem hw]

/-- **The migration** of a task that is known under one of the two TIDs. -/
theorem migrate_exec_tid_migrated (hne : former ≠ waited)
    (hknown : (c.tracees.lookup former).isSome ∨ (c.tracees.lookup waited).isSome) :
    Holds (migrate_exec_tid config env waited former) c
      (fun _ c' => Migrated c waited former c' ∧
        c'.output.log = c.output.log.migrate former waited)
      (fun _ c' => c'.books = c.books) := by
  apply (((migrate_exec_tid_spec waited former).and (migrate_exec_tid_root waited former)).and
    (migrate_exec_tid_books waited former c)).mono
  · intro _ c' hpost
    rcases hpost with ⟨⟨hm, hroot⟩, hbooks⟩
    rw [if_neg hne] at hm
    refine ⟨⟨?_, ?_, ?_, hm.count hne hknown, ?_, hbooks⟩, hm.log⟩
    · rw [hm.lookup, if_neg hne, if_pos rfl]
    · have hwaited := hm.lookup waited
      rw [if_pos rfl] at hwaited
      unfold Context.migrated at hwaited
      cases hf : c.tracees.lookup former with
      | some source =>
        rw [hf] at hwaited
        exact ⟨source, rfl, hwaited⟩
      | none =>
        rw [hf] at hknown hwaited
        cases hw : c.tracees.lookup waited with
        | some replaced =>
          rw [hw] at hwaited
          exact ⟨replaced, rfl, hwaited⟩
        | none => simp [hw] at hknown
    · intro tid hf hw
      rw [hm.lookup, if_neg hw, if_neg hf]
    · show c'.root.tid = if c.root.tid = former then waited else c.root.tid
      rw [hroot]
      by_cases hformer : c.root.tid = former
      · rw [if_pos hformer, if_pos]
        refine ⟨hformer.symm, hformer ▸ hne, ?_⟩
        rw [hformer, Context.registry_ne_none, Context.registry_ne_none]
        exact hknown
      · rw [if_neg hformer, if_neg fun h => hformer h.1.symm]
  · intro _ c' hpost
    rcases hpost with ⟨_, hbooks⟩
    exact hbooks

/-- When the migration fails, both records are gone. -/
theorem migrate_exec_tid_fails (waited former : Pid) :
    Holds (migrate_exec_tid config env waited former) c
      (fun _ _ => True) (fun _ c' => c'.tracees.lookup waited = none) := by
  apply holds_migrate_exec_tid
  · intro _
    trivial
  · intro source dropped _ hd _ _
    unfold migrate_source
    simp only [holds_bind, holds_onError, holds_store, holds_zoom, holds_modify]
    apply (add_tracee_spec waited waited source.attached false).mono
    · intro _ c₁ _
      apply (sg_output_migrate_tid_spec former waited).mono
      · exact fun _ _ _ => trivial
      · exact fun _ _ h => h
    · intro _ c₁ hpost
      rcases hpost with ⟨hsame, _⟩
      show c₁.tracees.lookup waited = none
      rw [hsame.tracees, hd.lookup, if_pos (by simp)]
  · intro dropped _ hd _ _ _
    simp only [holds_bind, holds_zoom]
    apply (add_tracee_spec waited waited _ false).mono
    · intro _ c₁ _
      apply (sg_output_migrate_tid_spec former waited).mono
      · exact fun _ _ _ => trivial
      · exact fun _ _ h => h
    · intro _ c₁ hpost
      rcases hpost with ⟨hsame, _⟩
      rw [hsame.tracees, hd.lookup, if_pos (by simp)]

/-- The unfinished TIDs of the table stay in it. -/
theorem Migrated.ok (h : Migrated c waited former c') (hne : former ≠ waited)
    (hlog : c'.output.log = c.output.log.migrate former waited) (hok : c.Ok) : c'.Ok := by
  obtain ⟨hnodup, hmem⟩ := @mem_migrate c.output.log hok.nodup former waited hne
  rw [← hlog] at hnodup hmem
  refine ⟨hnodup, fun tid htid => ?_⟩
  obtain ⟨source, -, hwaited⟩ := h.present
  have hkept : tid ≠ former → tid ∈ c.output.unfinished_tids → (c'.tracees.lookup tid).isSome := by
    intro hf hin
    by_cases hw : tid = waited
    · rw [hw, hwaited]
      rfl
    · rw [h.others tid hf hw]
      exact hok.known tid hin
  have htid : tid ∈ c'.output.log.unfinished := htid
  rw [hmem] at htid
  split at htid
  · obtain rfl | ⟨hf, hin⟩ := htid
    · rw [hwaited]
      rfl
    · exact hkept hf hin
  · rename_i hformer
    exact hkept (fun heq => hformer (heq ▸ htid)) htid

end migration

/-! ### The event that follows -/

/-- From `c` to `c'` the `exec` that was pending has been written, and is not pending under
    the new TID. -/
def WrittenOnce (config : Config) (c : Context) (waited : Pid) (call : SyscallEvent) (c' : Context) :
    Prop :=
  (∃ exited_at, Books config c waited (call.exec_done exited_at) c') ∧
    c'.waiting waited = some false

/-- What the failed round of an exec event leaves: only the restart has failed, or the call is
    not in the log, because something has gone wrong before. -/
def NotWritten (config : Config) (env : Env) (c : Context) (waited : Pid) (restart : RestartAnswer)
    (call : SyscallEvent) (c' : Context) : Prop :=
  restart = .failed ∧ WrittenOnce config c waited call c' ∨
    (∃ exited_at, Unwritten c waited (call.exec_done exited_at) c') ∧
      ¬(env.Succeeds ∧ config.summary = false ∧ c.Ok ∧ (c'.tracees.lookup waited).isSome)

section round
variable {config : Config} {env : Env} {c : Context} {waited : Pid} {former : Nat}
  {source : Tracee} {answers : Answers} {stop : Int}

/-- **The round** of an exec event whose thread was in a call: the call is written once, under
    the new TID. -/
theorem exec_round_books (hne : (former : Pid) ≠ waited) (hrange : (former : Int) ≤ INT_MAX)
    (hsource : c.tracees.lookup former = some source) (hpending : source.has_pending_syscall = true)
    (hsel : selected config source.pending_syscall.number = true)
    (hanswer : answers.eventmsg = some former) (hstop : stop ≠ SYSCALL_STOP)
    (shutdown_signal : Int) :
    Holds (handle_status config env waited (.stopped stop PTRACE_EVENT_EXEC) answers shutdown_signal)
      c
      (fun _ c' => WrittenOnce config c waited source.pending_syscall c')
      (fun _ c' => NotWritten config env c waited answers.restart source.pending_syscall c') := by
  have hnot : ¬((former : Int) > INT_MAX) := not_lt.mpr hrange
  let asked : Context := c.asking .PTRACE_GETEVENTMSG waited
  have hknown : (asked.tracees.lookup former).isSome ∨ (asked.tracees.lookup waited).isSome := by
    left
    show (c.tracees.lookup former).isSome = true
    rw [hsource]
    rfl
  unfold handle_status observe_exec
  simp only [if_true, holds_bind, holds_measured_ptrace, hanswer, if_neg hnot]
  show Holds (migrate_exec_tid config env waited former) asked _ _
  apply ((migrate_exec_tid_migrated hne hknown).and (migrate_exec_tid_fails waited former)).mono
  · intro _ c₁ hpost
    rcases hpost with ⟨⟨hm, hlog⟩, _⟩
    have hok₁ : c.Ok → c₁.Ok := fun hok => hm.ok hne hlog ⟨hok.nodup, hok.known⟩
    have hbooks₁ : c₁.books = c.books := hm.books
    obtain ⟨source', hsource', hlookup⟩ := hm.present
    have heq : source' = source := by
      have hsource' : (c.tracees.lookup former).or (c.tracees.lookup waited) = some source' := hsource'
      rw [hsource] at hsource'
      exact (Option.some.inj hsource').symm
    subst heq
    -- The task is found, stopped, under its new TID.
    let stopped : Tracee :=
      { source'.renamed waited with in_ptrace_stop := true, phase := .SG_TRACEE_STOPPED }
    let c₂ : Context := { c₁ with tracees := c₁.tracees.write stopped }
    have hold : c₂.tracees.lookup stopped.tid = some stopped := by
      show (c₁.tracees.write stopped).lookup waited = _
      rw [Tracees.lookup_write]
      exact if_pos ⟨rfl, by show (c₁.tracees.lookup waited).isSome = true; rw [hlookup]; rfl⟩
    unfold find_tracee
    rw [holds_bind, holds_get, Tracees.get_eq, hlookup]
    simp only [holds_pure, holds_bind, holds_store]
    have hevents : PTRACE_EVENT_EXEC ≠ PTRACE_EVENT_STOP ∧ PTRACE_EVENT_EXEC ≠ 0 ∧
        PTRACE_EVENT_EXEC ≠ PTRACE_EVENT_SECCOMP := by decide
    unfold handle_stop handle_ptrace_event
    rw [if_neg hstop, if_neg hevents.1, if_pos hevents.2.1, if_neg hevents.2.2, if_pos rfl]
    rw [holds_bind]
    show Holds (handle_exec_event config env stopped) c₂ _ _
    have hbooks₂ := @handle_exec_event_books config env c₂ stopped hold hpending hsel
    have hevent : Holds (handle_exec_event config env stopped) c₂
        (fun _ c' => WrittenOnce config c₂ waited source'.pending_syscall c')
        (fun _ c' => (∃ exited_at, Unwritten c₂ waited (source'.pending_syscall.exec_done exited_at) c') ∧
          ¬(env.Succeeds ∧ config.summary = false ∧ c.Ok)) := by
      by_cases hreliable : env.Succeeds ∧ config.summary = false ∧ c.Ok
      · have htotal : Holds (handle_exec_event config env stopped) c₂
            (fun _ _ => True) (fun _ _ => False) :=
          handle_exec_event_total hreliable.1 hreliable.2.1 ((hok₁ hreliable.2.2).write stopped)
        apply (hbooks₂.and htotal).mono
        · intro _ _ h
          exact h.1
        · intro _ _ h
          exact h.2.elim
      · apply hbooks₂.mono
        · intro _ _ h
          exact h
        · intro _ _ h
          exact ⟨h, hreliable⟩
    apply hevent.mono
    · intro _ c₃ hpost
      rcases hpost with ⟨⟨exited_at, hwritten⟩, hidle⟩
      have hdone : ∀ {c' : Context}, c'.books = c₃.books ∧ c'.waiting waited = c₃.waiting waited →
          WrittenOnce config c waited source'.pending_syscall c' := fun h =>
        ⟨⟨exited_at, hwritten.congr hbooks₁ h.1⟩, h.2.trans hidle⟩
      apply (restart_tracee_books waited 0 false answers.restart).mono
      · intro _ c₄ h₄
        exact hdone h₄
      · intro _ c₄ hpost
        rcases hpost with ⟨hfailed, h₄⟩
        exact Or.inl ⟨hfailed, hdone h₄⟩
    · intro _ c₃ hpost
      rcases hpost with ⟨⟨exited_at, h₃⟩, hreliable⟩
      exact Or.inr ⟨⟨exited_at, h₃.congr hbooks₁⟩, fun h => hreliable ⟨h.1, h.2.1, h.2.2.1⟩⟩
  · intro _ c₁ hpost
    rcases hpost with ⟨hbooks, hgone⟩
    refine Or.inr ⟨⟨⟨0, 0⟩, .of_eq hbooks⟩, fun h => ?_⟩
    rw [hgone] at h
    simp at h

end round

section exec
variable {config : Config} {env : Env} {c : Context} {waited former : Pid}

/-- **Exec migration.**  The record of the thread, or else of the leader, is kept under the TID of
    the leader and all others stay; the `exec` that the thread was in is written once by the round
    of the event. -/
theorem exec_migrates (hne : former ≠ waited)
    (hknown : (c.tracees.lookup former).isSome ∨ (c.tracees.lookup waited).isSome) :
    Holds (migrate_exec_tid config env waited former) c
        (fun _ c' => Migrated c waited former c') (fun _ _ => True) ∧
      ∀ (source : Tracee) (answers : Answers) (stop shutdown_signal : Int),
        c.tracees.lookup former = some source → source.has_pending_syscall = true →
        is_exec source.pending_syscall.number = true →
        selected config source.pending_syscall.number = true →
        former ≤ INT_MAX → answers.eventmsg = some former.toNat → stop ≠ SYSCALL_STOP →
        Holds (handle_status config env waited (.stopped stop PTRACE_EVENT_EXEC) answers
            shutdown_signal) c
          (fun _ c' => WrittenOnce config c waited source.pending_syscall c')
          (fun _ c' => NotWritten config env c waited answers.restart source.pending_syscall c') := by
  refine ⟨?_, ?_⟩
  · apply (migrate_exec_tid_migrated hne hknown).mono
    · intro _ _ h
      exact h.1
    · exact fun _ _ _ => trivial
  · intro source answers stop shutdown_signal hsource hpending _ hsel hrange hanswer hstop
    have hpos : 0 < former := Tracees.lookup_pos hsource
    have heq : (former.toNat : Pid) = former := Int.toNat_of_nonneg (le_of_lt hpos)
    rw [← heq] at hne hrange hsource
    exact exec_round_books hne hrange hsource hpending hsel hanswer hstop shutdown_signal

/-- A thread of the command is in `execve` while the leader waits in `read`. -/
def thread_execs : List Report :=
  [⟨.status 100 (.stopped SIGTRAP PTRACE_EVENT_CLONE) (.plain (some 101)), 0⟩, entry_report 100 0,
    entry_report 101 59]

/-- The `execve` of the thread is written under the TID of the leader. -/
theorem exec_migrates_thread : ∃ c source,
    run (loop_step .following .reliable) (.started .following 100) thread_execs = some c ∧
      c.tracees.lookup 101 = some source ∧
      Holds (migrate_exec_tid .following .reliable 100 101) c
        (fun _ c' => Migrated c 100 101 c') (fun _ _ => True) ∧
      Holds (handle_status .following .reliable 100 (.stopped SIGTRAP PTRACE_EVENT_EXEC)
          (.plain (some 101)) 0) c
        (fun _ c' => WrittenOnce .following c 100 source.pending_syscall c')
        (fun _ c' => NotWritten .following .reliable c 100 .ok source.pending_syscall c') := by
  have hrun : ((run (loop_step .following .reliable) (.started .following 100) thread_execs).bind
      fun c => (c.tracees.lookup 101).map fun source =>
        (source.has_pending_syscall, source.pending_syscall.number)) = some (true, 59) := by
    decide +kernel
  obtain ⟨c, hc, hsource⟩ := Option.bind_eq_some_iff.mp hrun
  obtain ⟨source, hlookup, hcall⟩ := Option.map_eq_some_iff.mp hsource
  obtain ⟨hpending, hnumber⟩ := Prod.mk.inj hcall
  have hknown : (c.tracees.lookup 101).isSome ∨ (c.tracees.lookup 100).isSome := by
    rw [hlookup]
    exact Or.inl rfl
  obtain ⟨hmigrated, hwritten⟩ :=
    @exec_migrates .following .reliable c 100 101 (by decide) hknown
  refine ⟨c, source, hc, hlookup, hmigrated, ?_⟩
  exact hwritten source (.plain (some 101)) SIGTRAP 0 hlookup hpending (by rw [hnumber]; decide)
    (by rw [hnumber]; decide) (by decide) rfl (by decide)

end exec

/-! ### The unfinished TIDs -/

/-- From `c` to `c'` the unfinished TIDs have followed the task `former` to its TID `waited`. -/
structure InStep (c : Context) (waited former : Pid) (c' : Context) : Prop where
  moved : waited ∈ c'.output.unfinished_tids ↔ former ∈ c.output.unfinished_tids
  gone : former ∉ c'.output.unfinished_tids
  others : ∀ tid, tid ≠ waited → tid ≠ former →
    (tid ∈ c'.output.unfinished_tids ↔ tid ∈ c.output.unfinished_tids)
  nodup : c'.output.unfinished_tids.Nodup

section unfinished
variable {config : Config} {env : Env} {c c' : Context} {waited former : Pid}

/-- The TID of the leader stays behind when only the leader had been shown in a call. -/
theorem in_step_of_log (hne : former ≠ waited) (hnodup : c.output.unfinished_tids.Nodup)
    (hlog : c'.output.log = c.output.log.migrate former waited) :
    InStep c waited former c' ↔
      (waited ∈ c.output.unfinished_tids → former ∈ c.output.unfinished_tids) := by
  obtain ⟨hnodup', hmem⟩ := @mem_migrate c.output.log hnodup former waited hne
  rw [← hlog] at hnodup' hmem
  have hmem : ∀ tid, tid ∈ c'.output.unfinished_tids ↔
      if former ∈ c.output.unfinished_tids then
        tid = waited ∨ tid ≠ former ∧ tid ∈ c.output.unfinished_tids
      else tid ∈ c.output.unfinished_tids := hmem
  by_cases hformer : former ∈ c.output.unfinished_tids
  · simp only [if_pos hformer] at hmem
    refine iff_of_true ⟨?_, ?_, ?_, hnodup'⟩ fun _ => hformer
    · rw [hmem]
      exact iff_of_true (Or.inl rfl) hformer
    · rw [hmem]
      simp [hne]
    · intro tid hw hf
      rw [hmem]
      simp [hw, hf]
  · simp only [if_neg hformer] at hmem
    constructor
    · intro h hwaited
      exact h.moved.mp ((hmem waited).mpr hwaited)
    · intro h
      refine ⟨?_, ?_, fun tid _ _ => hmem tid, hnodup'⟩
      · rw [hmem]
        exact iff_of_false (fun hin => hformer (h hin)) hformer
      · rw [hmem]
        exact hformer

/-- **The unfinished TIDs follow the tasks** just when the leader had not been shown inside a
    call, or the thread had too. -/
theorem unfinished_in_step_iff (hne : former ≠ waited)
    (hnodup : c.output.unfinished_tids.Nodup) :
    Holds (migrate_exec_tid config env waited former) c
      (fun _ c' => InStep c waited former c' ↔
        (waited ∈ c.output.unfinished_tids → former ∈ c.output.unfinished_tids))
      (fun _ _ => True) := by
  apply (migrate_exec_tid_spec waited former).mono
  · intro _ c' hm
    rw [if_neg hne] at hm
    exact in_step_of_log hne hnodup hm.log
  · exact fun _ _ _ => trivial

end unfinished

/-- The `execve` of the thread has been shown, and the leader is in no call. -/
def shown_thread : List Report :=
  [⟨.status 100 (.stopped SIGTRAP PTRACE_EVENT_CLONE) (.plain (some 101)), 0⟩,
    entry_report 101 59, entry_report 100 1, exit_report 100 5 false]

/-- The unfinished line goes on under the TID of the leader. -/
theorem unfinished_in_step_thread : ∃ c,
    run (loop_step .following .reliable) (.started .following 100) shown_thread = some c ∧
      c.output.unfinished_tids = [101] ∧
      Holds (migrate_exec_tid .following .reliable 100 101) c
        (fun _ c' => InStep c 100 101 c' ↔
          (100 ∈ c.output.unfinished_tids → 101 ∈ c.output.unfinished_tids)) (fun _ _ => True) := by
  have hrun : ((run (loop_step .following .reliable) (.started .following 100) shown_thread).map
      fun c => c.output.unfinished_tids) = some [101] := by decide +kernel
  obtain ⟨c, hc, htids⟩ := Option.map_eq_some_iff.mp hrun
  have hnodup : c.output.unfinished_tids.Nodup := by
    rw [htids]
    exact List.nodup_singleton 101
  exact ⟨c, hc, htids, unfinished_in_step_iff (by decide) hnodup⟩

/-- The leader waits in a `read` that has been shown, and the thread is in `execve`. -/
def blocked_leader : List Report :=
  [⟨.status 100 (.stopped SIGTRAP PTRACE_EVENT_CLONE) (.plain (some 101)), 0⟩,
    entry_report 100 0, entry_report 101 1, exit_report 101 5 false, entry_report 101 59]

/-- The `read` of the leader stays behind, although the migrated `execve` has not been shown. -/
theorem blocked_leader_left : ∃ c c',
    run (loop_step .following .reliable) (.started .following 100) blocked_leader = some c ∧
      (c.tracees.lookup 101).isSome = true ∧
      (migrate_exec_tid .following .reliable 100 101).exec c = (.ok (), c') ∧
      ¬InStep c 100 101 c' := by
  have hrun : ((run (loop_step .following .reliable) (.started .following 100) blocked_leader).map
      fun c => (c.output.unfinished_tids, (c.tracees.lookup 101).isSome,
        (migrate_exec_tid .following .reliable 100 101).succeeds c,
        ((migrate_exec_tid .following .reliable 100 101).finalState c).output.unfinished_tids)) =
      some ([100], true, true, [100]) := by decide +kernel
  obtain ⟨c, hc, h⟩ := Option.map_eq_some_iff.mp hrun
  simp only [Prod.mk.injEq] at h
  obtain ⟨hbefore, hknown, hsucceeds, hafter⟩ := h
  refine ⟨c, _, hc, hknown, exec_of_succeeds hsucceeds, fun hstep => ?_⟩
  have hmoved := hstep.moved
  rw [hbefore, hafter] at hmoved
  simp at hmoved

end Sysgaze
