import Sysgaze.RunValues

/-! # Values that a tracee chooses

    `begin_syscall` and `finish_syscall` see numbers, arguments, results and memory that
    the tracee has chosen.  As long as allocation, the clock and the output do not fail,
    they refuse nothing but a number above `LONG_MAX`, and with `-c` a call that the
    totals have no room for (`values_accepted`).  Whatever they write can be put together.

    A number above `LONG_MAX` ends the run: `syscall(-1)` is enough
    (`number_refused`).
-/

open Fallible Stepping

namespace Sysgaze

/-! ### Room for a call in the totals -/

/-- The totals and the row of the number have room for one more call, and a row can be
    added if there is none. -/
structure Stats.Room (stats : Stats) (number : Int) (duration : Nat) (error : Bool) : Prop where
  calls : stats.total_calls ≠ UINT64_MAX
  nanoseconds : stats.total_nanoseconds ≤ UINT64_MAX - duration
  errors : error = true → stats.total_errors ≠ UINT64_MAX
  row : ∀ index row, find_row stats number = some index → stats.rows[index]? = some row →
    row.calls ≠ UINT64_MAX ∧ row.nanoseconds ≤ UINT64_MAX - duration ∧
      (error = true → row.errors ≠ UINT64_MAX)
  grow : find_row stats number = none → (add_row stats number true).isSome

/-- With `-c`, the totals have room for a selected call. -/
def HasRoom (config : Config) (stats : Stats) (event : SyscallEvent) : Prop :=
  config.summary = true → selected config event.number = true →
    ∃ duration, elapsed_nanoseconds event = some duration ∧
      stats.Room event.number duration (event.error_number != 0)

section room
variable {config : Config} {stats : Stats} {event : SyscallEvent} {number : Int}
  {duration : Nat} {error : Bool}

theorem record_row_taken_iff {index : Nat} {row : SyscallStat} (hrow : stats.rows[index]? = some row) :
    (record_row stats index duration error).1 = true ↔
      row.calls ≠ UINT64_MAX ∧ row.nanoseconds ≤ UINT64_MAX - duration ∧
        (error = true → row.errors ≠ UINT64_MAX) := by
  unfold record_row
  rw [hrow]
  dsimp only
  split
  · rename_i hfull
    refine ⟨fun h => absurd h Bool.false_ne_true, fun hroom => ?_⟩
    rcases hroom with ⟨hcalls, htime, herrors⟩
    obtain h | h | ⟨herror, h⟩ := hfull
    · exact absurd h hcalls
    · omega
    · exact absurd h (herrors herror)
  · rename_i hroom
    rw [not_or, not_or, not_and, not_lt] at hroom
    exact ⟨fun _ => hroom, fun _ => rfl⟩

/-- A new row has room for any call. -/
theorem add_row_taken {index : Nat} {grown : Stats} (h : add_row stats number true = some (index, grown)) :
    (record_row grown index duration error).1 = true := by
  have hzero : (0 : Nat) ≠ UINT64_MAX := by decide
  have hrow : grown.rows[index]? = some ⟨number, 0, 0, 0⟩ := by
    have hlast : (stats.rows ++ [⟨number, 0, 0, 0⟩])[stats.rows.length]? =
        some (⟨number, 0, 0, 0⟩ : SyscallStat) := List.getElem?_concat_length
    unfold add_row at h
    dsimp only at h
    by_cases hfull : stats.rows.length = stats.capacity
    · rw [if_pos hfull, Option.ite_none_left_eq_some] at h
      obtain ⟨rfl, rfl⟩ := Prod.mk.inj (Option.some.inj h.2)
      exact hlast
    · rw [if_neg hfull] at h
      obtain ⟨rfl, rfl⟩ := Prod.mk.inj (Option.some.inj h)
      exact hlast
  exact (record_row_taken_iff hrow).mpr ⟨hzero, Nat.zero_le _, fun _ => hzero⟩

/-- A completed call is recorded exactly if there is room for it. -/
theorem sg_stats_record_taken_iff (hcompleted : event.completed = true) :
    (sg_stats_record stats event true).1 = true ↔
      ∃ duration, elapsed_nanoseconds event = some duration ∧
        stats.Room event.number duration (event.error_number != 0) := by
  unfold sg_stats_record
  rw [hcompleted]
  cases htime : elapsed_nanoseconds event with
  | none => simp
  | some duration =>
    have honly : ∀ {P : Nat → Prop}, (∃ other, some duration = some other ∧ P other) ↔ P duration := by
      intro P
      simp
    rw [honly]
    dsimp only
    split
    · rename_i hfull
      refine ⟨fun h => absurd h Bool.false_ne_true, fun hroom => ?_⟩
      obtain h | h | ⟨herror, h⟩ := hfull
      · exact absurd h hroom.calls
      · have hle := hroom.nanoseconds
        omega
      · exact absurd h (hroom.errors herror)
    · rename_i htotals
      rw [not_or, not_or, not_and, not_lt] at htotals
      obtain ⟨hcalls, hnanoseconds, herrors⟩ := htotals
      cases hfind : find_row stats event.number with
      | some index =>
        have hlt : index < stats.rows.length := (List.findIdx?_eq_some_iff_getElem.mp hfind).1
        have hrow : stats.rows[index]? = some stats.rows[index] := List.getElem?_eq_getElem hlt
        dsimp only
        rw [record_row_taken_iff hrow]
        constructor
        · intro htaken
          refine ⟨hcalls, hnanoseconds, herrors, ?_, fun h => absurd (hfind.symm.trans h) (by simp)⟩
          intro other row hother hotherrow
          rw [← Option.some.inj (hfind.symm.trans hother), hrow] at hotherrow
          rw [← Option.some.inj hotherrow]
          exact htaken
        · exact fun hroom => hroom.row index _ hfind hrow
      | none =>
        have hnever : ∀ index row, find_row stats event.number = some index →
            stats.rows[index]? = some row → row.calls ≠ UINT64_MAX ∧
              row.nanoseconds ≤ UINT64_MAX - duration ∧
              ((event.error_number != 0) = true → row.errors ≠ UINT64_MAX) :=
          fun _ _ h => absurd (hfind.symm.trans h) (by simp)
        dsimp only
        cases hadd : add_row stats event.number true with
        | none =>
          refine ⟨fun h => absurd h Bool.false_ne_true, fun hroom => ?_⟩
          have hgrown := hroom.grow hfind
          rw [hadd] at hgrown
          exact absurd hgrown (by simp)
        | some added =>
          refine ⟨fun _ => ⟨hcalls, hnanoseconds, herrors, hnever, fun _ => ?_⟩, fun _ => ?_⟩
          · rw [hadd]
            rfl
          · exact add_row_taken hadd

theorem totalsTake_iff (hcompleted : event.completed = true) :
    TotalsTake config stats event ↔ HasRoom config stats event := by
  unfold TotalsTake HasRoom
  rw [sg_stats_record_taken_iff hcompleted]

end room

/-! ### Room for the unfinished calls -/

/-- The TIDs of the table are those of tasks, and so are those that are unfinished. -/
structure Context.Numbered (context : Context) : Prop where
  nodup : context.output.log.unfinished.Nodup
  ints : ∀ tid ∈ context.output.log.unfinished, IsInt tid
  tracees : ∀ tid, (context.tracees.lookup tid).isSome → IsInt tid

section numbered
variable {config : Config} {c c' : Context} {string_limit : Nat}

theorem Context.Fit.numbered (h : c.Fit string_limit) : c.Numbered := by
  refine ⟨h.log.nodup, h.log.ints, ?_⟩
  intro tid hknown
  obtain ⟨tracee, hlookup⟩ := Option.isSome_iff_exists.mp hknown
  rw [← Tracees.lookup_tid hlookup]
  exact (h.tracees tid tracee hlookup).tid

theorem unfinished_ints (events : List Event) : ∀ {log : Output.Log}, log.unfinished.Nodup →
    (∀ tid ∈ log.unfinished, IsInt tid) → (∀ event ∈ events, IsInt event.tid) →
    (events.foldl (Output.Log.write config) log).unfinished.Nodup ∧
      ∀ tid ∈ (events.foldl (Output.Log.write config) log).unfinished, IsInt tid := by
  induction events with
  | nil => exact fun hnodup hints _ => ⟨hnodup, hints⟩
  | cons event events ih =>
    intro log hnodup hints hevents
    obtain ⟨hnodup', hmem⟩ := unfinished_write config event hnodup
    refine ih hnodup' ?_ fun other hother => hevents other (List.mem_cons_of_mem _ hother)
    intro tid htid
    obtain hold | rfl := hmem tid htid
    · exact hints tid hold
    · exact hevents event List.mem_cons_self

theorem roomy_numbered : Roomy config Context.Numbered where
  length_lt := fun h => ints_length_lt h.nodup h.ints
  writes := by
    intro c c' events h hw hknown
    have hints : ∀ event ∈ events, IsInt event.tid :=
      fun event hevent => h.tracees event.tid (hknown event hevent)
    obtain ⟨hnodup, hmem⟩ := unfinished_ints events h.nodup h.ints hints
    refine ⟨?_, ?_, ?_⟩
    · rw [hw.log]
      exact hnodup
    · rw [hw.log]
      exact hmem
    · rw [hw.tracees]
      exact h.tracees
  write := by
    intro c tracee h
    refine ⟨h.nodup, h.ints, ?_⟩
    intro tid hknown
    rw [Tracees.lookup_write] at hknown
    apply h.tracees tid
    split at hknown
    · rename_i hsame
      rw [hsame.1]
      exact hsame.2
    · exact hknown
  count := fun _ h => ⟨h.nodup, h.ints, h.tracees⟩

theorem Updates.numbered {new : Tracee} {events : List Event} (hu : Updates config c new events c')
    (h : c.Numbered) (hself : (c.tracees.lookup new.tid).isSome)
    (hknown : ∀ event ∈ events, (c.tracees.lookup event.tid).isSome) : c'.Numbered := by
  have hints : ∀ event ∈ events, IsInt event.tid :=
    fun event hevent => h.tracees event.tid (hknown event hevent)
  obtain ⟨hnodup, hmem⟩ := unfinished_ints events h.nodup h.ints hints
  refine ⟨?_, ?_, ?_⟩
  · rw [hu.log]
    exact hnodup
  · rw [hu.log]
    exact hmem
  · intro tid hlookup
    rw [hu.lookup] at hlookup
    split at hlookup
    · rename_i hsame
      exact h.tracees tid (hsame ▸ hself)
    · exact h.tracees tid hlookup

end numbered

/-! ### Entries and exits -/

/-- The environment in which no capture fails. -/
def Env.capturing (env : Env) : Env :=
  { env with
    capture := fun n tid event =>
      some ((env.capture n tid event).getD (0, Vector.replicate 6 none)) }

/-- The entry is accepted: its number is a `long`, and if it shows that the interrupted call
    has not been restarted, the totals have room for that call. -/
structure EntryAccepted (config : Config) (env : Env) (c : Context) (tracee : Tracee)
    (number : UInt64) : Prop where
  range : number.toNat ≤ LONG_MAX
  room : tracee.restarts number.toNat = false →
    (tracee.has_interrupted_syscall && tracee.interrupted_restart_ready) = true →
    ∀ exited_at, env.clock c.asked = some exited_at →
      HasRoom config c.stats (tracee.interrupted_syscall.not_restarted exited_at)

/-- The exit is accepted: if it completes the pending call, the totals have room for it. -/
def ExitAccepted (config : Config) (env : Env) (c : Context) (tracee : Tracee) (rval : Int)
    (is_error : Bool) : Prop :=
  tracee.has_pending_syscall = true → is_restart_result rval = false →
    ∀ exited_at, env.clock c.asked = some exited_at →
      HasRoom config c.stats (tracee.pending_syscall.finished rval is_error exited_at)

section accepted
variable {config : Config} {env : Env} {around : Surroundings} {c : Context} {tracee : Tracee}

theorem capture_capturing {tid : Pid} {event : SyscallEvent}
    (hcapture : ∀ n, (env.capture n tid event).isSome) :
    sg_decoder_capture_entry env tid event = sg_decoder_capture_entry env.capturing tid event := by
  have hsame : ∀ n, env.capturing.capture n tid event = env.capture n tid event := by
    intro n
    obtain ⟨captured, hsome⟩ := Option.isSome_iff_exists.mp (hcapture n)
    show some ((env.capture n tid event).getD _) = _
    rw [hsome]
    rfl
  unfold sg_decoder_capture_entry
  simp only [hsame]

/-- An entry asks for the capture of its own call only. -/
theorem enter_call_capturing {number : UInt64} {arguments : Vector UInt64 6}
    (hcapture : ∀ n entered_at, (env.capture n tracee.tid
      { SyscallEvent.entered number arguments with entered_at := entered_at }).isSome) :
    enter_call config env tracee number arguments =
      enter_call config env.capturing tracee number arguments := by
  have hcaptured := fun entered_at => capture_capturing fun n => hcapture n entered_at
  have hmade : make_call config env tracee number arguments =
      make_call config env.capturing tracee number arguments := by
    unfold make_call
    simp only [hcaptured]
    rfl
  unfold enter_call
  rw [hmade]
  rfl

/-- **Entries.**  Nothing but the number and the totals decides. -/
theorem begin_syscall_accepts {number : UInt64} {arguments : Vector UInt64 6}
    (hs : env.capturing.Succeeds)
    (hcapture : number.toNat ≤ LONG_MAX → ∀ n entered_at, (env.capture n tracee.tid
      { SyscallEvent.entered number arguments with entered_at := entered_at }).isSome)
    (hnumbered : c.Numbered) (hold : c.tracees.lookup tracee.tid = some tracee)
    (hidle : tracee.has_pending_syscall = false) :
    Holds (begin_syscall config env tracee number arguments) c
      (fun _ _ => EntryAccepted config env c tracee number)
      (fun _ _ => ¬EntryAccepted config env c tracee number) := by
  unfold begin_syscall
  split
  · rename_i hlarge
    exact fun h => absurd h.range (by omega)
  rename_i hnumber
  have hsmall : number.toNat ≤ LONG_MAX := by omega
  have hleave : leave_pending config env tracee = pure tracee := by
    unfold leave_pending
    rw [hidle]
    rfl
  rw [hleave, holds_bind, holds_pure]
  by_cases hrestarts : tracee.restarts number.toNat = true
  · rw [if_pos hrestarts]
    have htotal : Holds (restart_call config env.capturing tracee) c (fun _ _ => True)
        (fun _ _ => False) := restart_call_total hs roomy_numbered hnumbered
    apply htotal.mono
    · exact fun _ _ _ => ⟨hsmall, fun h => absurd (hrestarts.symm.trans h) (by decide)⟩
    · exact fun _ _ h => h.elim
  · rw [if_neg hrestarts, holds_bind]
    rw [Bool.not_eq_true] at hrestarts
    have htaken : tracee.TotalsTakeInterrupted config env c ↔ EntryAccepted config env c tracee number := by
      constructor
      · intro htakes
        refine ⟨hsmall, fun _ hready exited_at hclock => ?_⟩
        exact (totalsTake_iff rfl).mp (htakes hready exited_at hclock)
      · intro haccepted hready exited_at hclock
        exact (totalsTake_iff rfl).mpr (haccepted.room hrestarts hready exited_at hclock)
    have htakes : Holds (report_interrupted config env.capturing tracee) c
        (fun _ _ => tracee.TotalsTakeInterrupted config env c)
        (fun _ _ => ¬tracee.TotalsTakeInterrupted config env c) :=
      report_interrupted_takes hs roomy_numbered hnumbered
    have hspec : Holds (report_interrupted config env tracee) c _ _ := report_interrupted_spec hold
    apply (hspec.and htakes).mono
    · intro mid c₁ hpost
      rcases hpost with ⟨hreported, htakes⟩
      have hkept : c₁.Numbered ∧ mid.tid = tracee.tid := by
        obtain ⟨_, rfl, rfl⟩ | ⟨_, exited_at, events, hevents, hmid, hu⟩ := hreported
        · exact ⟨hnumbered, rfl⟩
        · have hself : (c.tracees.lookup tracee.tid).isSome := by
            rw [hold]
            rfl
          have htid : mid.tid = tracee.tid := by rw [hmid]
          exact ⟨hu.numbered hnumbered (htid ▸ hself) (hevents.known hself), htid⟩
      obtain ⟨hnumbered₁, htid⟩ := hkept
      rw [enter_call_capturing (htid ▸ hcapture hsmall)]
      apply (enter_call_total hs roomy_numbered hnumbered₁ number arguments).mono
      · exact fun _ _ _ => htaken.mp htakes
      · exact fun _ _ h => h.elim
    · exact fun _ _ hrefused => fun haccepted => hrefused.2 (htaken.mpr haccepted)

/-- **Exits.**  Nothing but the totals decides. -/
theorem finish_syscall_accepts (hs : env.capturing.Succeeds) (hnumbered : c.Numbered) (rval : Int)
    (is_error : Bool) :
    Holds (finish_syscall config env tracee rval is_error) c
      (fun _ _ => ExitAccepted config env c tracee rval is_error)
      (fun _ _ => ¬ExitAccepted config env c tracee rval is_error) := by
  unfold finish_syscall
  by_cases hpending : tracee.has_pending_syscall = true
  · rw [if_neg (by rw [hpending]; decide)]
    by_cases hrestart : is_restart_result rval = true
    · rw [if_pos hrestart]
      have haccepted : ExitAccepted config env c tracee rval is_error :=
        fun _ h => absurd (hrestart.symm.trans h) (by decide)
      unfold interrupt_call
      split
      · exact haccepted
      · exact haccepted
    · rw [if_neg hrestart]
      rw [Bool.not_eq_true] at hrestart
      have htaken : tracee.TotalsTakePending config env c rval is_error ↔
          ExitAccepted config env c tracee rval is_error := by
        constructor
        · exact fun htakes _ _ exited_at hclock =>
            (totalsTake_iff rfl).mp (htakes exited_at hclock)
        · exact fun haccepted exited_at hclock =>
            (totalsTake_iff rfl).mpr (haccepted hpending hrestart exited_at hclock)
      have htakes : Holds (complete_call config env.capturing tracee rval is_error) c
          (fun _ _ => tracee.TotalsTakePending config env c rval is_error)
          (fun _ _ => ¬tracee.TotalsTakePending config env c rval is_error) :=
        complete_call_takes hs roomy_numbered hnumbered rval is_error
      apply htakes.mono
      · exact fun _ _ htakes => htaken.mp htakes
      · exact fun _ _ hrefused haccepted => hrefused (htaken.mpr haccepted)
  · rw [Bool.not_eq_true] at hpending
    rw [if_pos (by rw [hpending]; decide)]
    exact fun h => absurd (hpending.symm.trans h) (by decide)

end accepted

/-! ### At a stop -/

/-- The first part of a round for a task that has stopped: its record, marked as stopped. -/
def stopped_tracee (config : Config) (env : Env) (waited : Pid) (stop : Int) (ptrace_event : Nat)
    (answers : Answers) : TraceM (Option Tracee) := do
  observe_exec config env waited (.stopped stop ptrace_event) answers
  match ← find_tracee config env waited (.stopped stop ptrace_event) answers with
  | none => pure none
  | some tracee => do
    let tracee : Tracee := { tracee with in_ptrace_stop := true, phase := .SG_TRACEE_STOPPED }
    store tracee
    pure (some tracee)

/-- From `c` a round has come to a system call stop of `tracee`, and has asked the kernel
    about it: this is where `begin_syscall` and `finish_syscall` are called. -/
def AtSyscallStop (config : Config) (env : Env) (c : Context) (tracee : Tracee) (c' : Context) :
    Prop :=
  ∃ waited ptrace_event answers c₀, IsInt waited ∧ answers.Typed ∧
    (stopped_tracee config env waited SYSCALL_STOP ptrace_event answers).exec c =
      (.ok (some tracee), c₀) ∧
    c' = c₀.asking .PTRACE_GET_SYSCALL_INFO tracee.tid

/-- Every line that has been written can be put together, whatever the memory holds. -/
def Context.Writable (context : Context) (around : Surroundings) : Prop :=
  ∀ line ∈ context.output.log.lines, ∀ heap : Heap, heap.Succeeds →
    ∀ (memory : Option MemoryReader) (show_tids : Bool),
      Holds (written_line heap
        (line.render heap around.libc ⟨around.string_limit, memory⟩ show_tids)) .init
        (fun _ _ => True) (fun _ _ => False)

section stop
variable {config : Config} {env : Env} {around : Surroundings} {string_limit : Nat}
  {start c c' : Context} {tracee : Tracee} {h : List Report}

/-- The rest of a round for a task that has stopped. -/
theorem handle_status_stopped (waited : Pid) (stop : Int) (ptrace_event : Nat) (answers : Answers)
    (shutdown_signal : Int) :
    handle_status config env waited (.stopped stop ptrace_event) answers shutdown_signal = (do
      match ← stopped_tracee config env waited stop ptrace_event answers with
      | none => pure .again
      | some tracee => do
        let (delivery_signal, listen) ← handle_stop config env tracee stop ptrace_event answers
        let restarted ← restart_tracee config env waited delivery_signal listen answers.restart
        pure (if restarted then test_shutdown shutdown_signal else .again)) := by
  unfold handle_status stopped_tracee
  rw [bind_assoc]
  congr 1
  funext _
  rw [bind_assoc]
  congr 1
  funext found
  cases found with
  | none => rfl
  | some tracee => rfl

theorem stopped_tracee_fit (h : c.Fit string_limit) {waited : Pid} (hwaited : IsInt waited)
    (stop : Int) (ptrace_event : Nat) {answers : Answers} (hanswers : answers.Typed) :
    Holds (stopped_tracee config env waited stop ptrace_event answers) c
      (fun found c' => c'.Fit string_limit ∧
        ∀ tracee, found = some tracee → c'.tracees.lookup tracee.tid = some tracee)
      (fun _ _ => True) := by
  unfold stopped_tracee
  rw [holds_bind]
  apply (observe_exec_fit h hwaited _ answers).mono
  · intro _ c₁ h₁
    rw [holds_bind]
    apply (find_tracee_fit h₁ hwaited _ hanswers).mono
    · intro found c₂ hpost
      rcases hpost with ⟨hfound, h₂⟩
      rw [hfound]
      cases hknown : c₂.tracees.lookup waited with
      | none => exact ⟨h₂, by simp⟩
      | some tracee =>
        have htid : tracee.tid = waited := Tracees.lookup_tid hknown
        have htracee := h₂.tracees _ _ hknown
        simp only [holds_bind, holds_store, holds_pure]
        refine ⟨h₂.store ⟨htracee.tid, htracee.tgid, htracee.pending, htracee.interrupted⟩, ?_⟩
        intro stopped hstopped
        rw [← Option.some.inj hstopped]
        show (c₂.tracees.write _).lookup tracee.tid = _
        rw [Tracees.lookup_write]
        exact if_pos ⟨rfl, by
          show (c₂.tracees.lookup tracee.tid).isSome = true
          rw [htid, hknown]
          rfl⟩
    · exact fun _ _ h => h
  · exact fun _ _ h => h

theorem AtSyscallStop.fit (hstop : AtSyscallStop config env c tracee c') (h : c.Fit string_limit) :
    c'.Fit string_limit ∧ c'.tracees.lookup tracee.tid = some tracee := by
  obtain ⟨waited, ptrace_event, answers, c₀, hwaited, hanswers, hexec, rfl⟩ := hstop
  obtain ⟨hfit, hfound⟩ := (stopped_tracee_fit h hwaited _ _ hanswers).of_ok hexec
  exact ⟨hfit.of_eq rfl rfl, hfound tracee rfl⟩

theorem Context.Fit.writable (hplain : around.Plain) (hfit : c.Fit around.string_limit) :
    c.Writable around := by
  intro line hline heap hheap memory show_tids
  have hlimit : (⟨around.string_limit, memory⟩ : Decoder).string_limit ≤ SG_MAX_STRING_LIMIT :=
    hplain.string_limit
  exact renders_line hplain.libc hplain.abbreviations hlimit hheap (hfit.log.lines line hline)

theorem Surroundings.Succeeds.capturing (hs : around.Succeeds) : around.env.capturing.Succeeds :=
  ⟨hs.clock, hs.alloc, hs.render, hs.write, fun _ _ _ => rfl⟩

/-- **Values that a tracee chooses are accepted** wherever the loop sees them: at an entry
    every number up to `LONG_MAX` and all arguments, at an exit every result, whatever the
    memory holds, if only the totals have room for a call that is completed.  What is
    written can be put together. -/
theorem values_accepted (hplain : around.Plain) (hs : around.Succeeds)
    (hstart : RunStarts config around.env start)
    (hreach : Reaches (loop_step config around.env) (fun _ _ report => report.Typed) start h c)
    (hstop : AtSyscallStop config around.env c tracee c') :
    (tracee.has_pending_syscall = false → ∀ (number : UInt64) (arguments : Vector UInt64 6),
      ((begin_syscall config around.env tracee number arguments).succeeds c' = true ↔
        EntryAccepted config around.env c' tracee number) ∧
      ∀ c'', (begin_syscall config around.env tracee number arguments).exec c' = (.ok (), c'') →
        c''.Writable around) ∧
    ∀ (rval : Int) (is_error : Bool), IsLong rval →
      ((finish_syscall config around.env tracee rval is_error).succeeds c' = true ↔
        ExitAccepted config around.env c' tracee rval is_error) ∧
      ∀ c'', (finish_syscall config around.env tracee rval is_error).exec c' = (.ok (), c'') →
        c''.Writable around := by
  obtain ⟨hfit, hold⟩ := hstop.fit (fit_of_reaches hplain hstart hreach)
  constructor
  · intro hidle number arguments
    constructor
    · have hcapture : number.toNat ≤ LONG_MAX → ∀ n entered_at, (around.env.capture n tracee.tid
          { SyscallEvent.entered number arguments with entered_at := entered_at }).isSome := by
        intro hnumber n entered_at
        exact (capture_fit hplain n tracee.tid (entered_fit hnumber arguments entered_at)).2 (hs.heap n)
      exact (begin_syscall_accepts hs.capturing hcapture hfit.numbered hold hidle).succeeds_iff
    · intro c'' hexec
      exact ((begin_syscall_fit hplain hfit hold number arguments).of_ok hexec).writable hplain
  · intro rval is_error hrval
    constructor
    · exact (finish_syscall_accepts hs.capturing hfit.numbered rval is_error).succeeds_iff
    · intro c'' hexec
      exact ((finish_syscall_fit hfit hold hrval is_error).of_ok hexec).writable hplain

end stop

/-! ### A run on fixed inputs -/

/-- Nothing fails, and no memory can be read. -/
def Surroundings.reliable : Surroundings where
  clock n := some ⟨n, 0⟩
  alloc _ := true
  render _ := true
  write _ := true
  strerror := "error"
  libc := bare_libc
  string_limit := 32
  heap _ := ample_heap
  memory _ := none

theorem Surroundings.reliable_plain : Surroundings.reliable.Plain where
  libc := bare_libc_plain
  abbreviations := by
    intro n text h
    simp [reliable, bare_libc] at h
  string_limit := by decide

theorem Surroundings.reliable_succeeds : Surroundings.reliable.Succeeds :=
  ⟨fun _ => rfl, fun _ => rfl, fun _ => rfl, fun _ => rfl, fun _ _ => rfl⟩

/-- A launched command has come to its first system call stop. -/
theorem launched_stops : ∃ start c', RunStarts (.plain .SG_FORMAT_TEXT) Surroundings.reliable.env start ∧
    AtSyscallStop (.plain .SG_FORMAT_TEXT) Surroundings.reliable.env start (.launched 100) c' := by
  let begin : TraceM Unit := begin_run (.plain .SG_FORMAT_TEXT) Surroundings.reliable.env .plain
  let start : Context := begin.finalState .init
  let stopped : TraceM (Option Tracee) := stopped_tracee (.plain .SG_FORMAT_TEXT)
    Surroundings.reliable.env 100 SYSCALL_STOP 0 (.plain none)
  have hbegin : begin.succeeds .init = true := by decide +kernel
  have hstopped : (stopped.exec start).1.toOption = some (some (.launched 100)) := by decide +kernel
  have htyped : LaunchAnswers.plain.Typed := by
    intro child hchild
    rw [← Except.ok.inj hchild]
    decide
  have hanswers : (Answers.plain none).Typed := ⟨(by rintro _ ⟨⟩), (by rintro _ ⟨⟩), by decide, by decide⟩
  rcases hexec : stopped.exec start with ⟨_ | found, c₀⟩
  · rw [hexec] at hstopped
    simp [Except.toOption] at hstopped
  · rw [hexec] at hstopped
    obtain rfl : found = some (.launched 100) := Option.some.inj hstopped
    exact ⟨start, _, .launch .plain rfl htyped (exec_of_succeeds hbegin),
      100, 0, .plain none, c₀, by decide, hanswers, hexec, rfl⟩

/-- `getpid` is accepted, and `syscall(-1)` is not. -/
theorem values_accepted_launched : ∃ c' : Context,
    (begin_syscall (.plain .SG_FORMAT_TEXT) Surroundings.reliable.env (.launched 100) 39
      (Vector.replicate 6 0)).succeeds c' = true ∧
    (begin_syscall (.plain .SG_FORMAT_TEXT) Surroundings.reliable.env (.launched 100)
      0xffffffffffffffff (Vector.replicate 6 0)).succeeds c' = false := by
  obtain ⟨start, c', hstart, hstop⟩ := launched_stops
  obtain ⟨hentry, -⟩ := values_accepted Surroundings.reliable_plain Surroundings.reliable_succeeds
    hstart .refl hstop
  refine ⟨c', ?_, ?_⟩
  · rw [(hentry rfl 39 (Vector.replicate 6 0)).1]
    exact ⟨by decide, fun _ hready => absurd hready (by decide)⟩
  · rw [← Bool.not_eq_true, (hentry rfl 0xffffffffffffffff (Vector.replicate 6 0)).1]
    exact fun haccepted => absurd haccepted.range (by decide)

/-- **`syscall(-1)` ends the run**: its number is above `LONG_MAX`. -/
theorem number_refused : ¬∀ (config : Config) (around : Surroundings) (start c c' : Context)
    (h : List Report) (tracee : Tracee), config.seccomp_bpf = false → around.Plain →
    around.Succeeds → RunStarts config around.env start →
    Reaches (loop_step config around.env) (fun _ _ report => report.Typed) start h c →
    AtSyscallStop config around.env c tracee c' →
    (tracee.has_pending_syscall = false → ∀ (number : UInt64) (arguments : Vector UInt64 6),
      (begin_syscall config around.env tracee number arguments).succeeds c' = true) ∧
    ∀ (rval : Int) (is_error : Bool), IsLong rval →
      (finish_syscall config around.env tracee rval is_error).succeeds c' = true := by
  intro hclaim
  obtain ⟨start, c', hstart, hstop⟩ := launched_stops
  obtain ⟨hentry, -⟩ := hclaim _ _ start start c' [] _ rfl Surroundings.reliable_plain
    Surroundings.reliable_succeeds hstart .refl hstop
  have hrefused : begin_syscall (.plain .SG_FORMAT_TEXT) Surroundings.reliable.env (.launched 100)
      0xffffffffffffffff (Vector.replicate 6 0) = throw "syscall number is outside native range" :=
    if_pos (by decide)
  have haccepted := hentry rfl 0xffffffffffffffff (Vector.replicate 6 0)
  rw [hrefused] at haccepted
  exact Bool.false_ne_true haccepted

end Sysgaze
