import Mathlib.Data.Int.Interval
import Sysgaze.Attaching
import Sysgaze.TextOutput

/-! # The values of a run

    The numbers that the tracer keeps are those of their C types, and the texts that it
    keeps are those that the decoder has captured, at every head of the loop
    (`fit_of_reaches`).  So every line that has been written could be put together.

    The kernel and the tracees choose everything else: which stops are reported, the
    numbers, arguments and results of the calls, and what the memory of a tracee holds.
-/

open Fallible Stepping Numerals

namespace Sysgaze

/-! ### The environment of a run -/

/-- What an environment is made of; each question may find another memory and another
    allocator. -/
structure Surroundings where
  clock : Nat → Option Timespec
  alloc : Nat → Bool
  render : Nat → Bool
  write : Nat → Bool
  strerror : String
  libc : Libc
  string_limit : Nat
  heap : Nat → Heap
  memory : Nat → Option MemoryReader

/-- What the decoder captures at an entry. -/
def Surroundings.capture (around : Surroundings) (n : Nat) (tid : Pid) (event : SyscallEvent) :
    Option (Nat × Vector (Option Text) 6) :=
  match (Decoder.sg_decoder_capture_entry (around.heap n) around.libc
      ⟨around.string_limit, around.memory n⟩ tid event).exec .init with
  | (.ok (true, event), _) => some (event.argument_count, event.decoded_arguments)
  | _ => none

/-- The environment whose entries are captured by the decoder. -/
def Surroundings.env (around : Surroundings) : Env where
  clock := around.clock
  alloc := around.alloc
  render := around.render
  write := around.write
  capture := around.capture
  strerror := around.strerror

/-- Allocation, the clock and the output do not fail. -/
structure Surroundings.Succeeds (around : Surroundings) : Prop where
  clock : ∀ n, (around.clock n).isSome
  alloc : ∀ n, around.alloc n = true
  render : ∀ n, around.render n = true
  write : ∀ n, around.write n = true
  heap : ∀ n, (around.heap n).Succeeds

/-- The C library is as documented, and the command line has been accepted. -/
structure Surroundings.Plain (around : Surroundings) : Prop where
  libc : around.libc.Plain
  abbreviations : around.libc.Abbreviations
  string_limit : around.string_limit ≤ SG_MAX_STRING_LIMIT

/-! ### What is kept -/

/-- The calls of a record are fit, and its TIDs are those of tasks. -/
structure Tracee.Fit (string_limit : Nat) (tracee : Tracee) : Prop where
  tid : IsInt tracee.tid
  tgid : IsInt tracee.tgid
  pending : tracee.pending_syscall.Fit string_limit
  interrupted : tracee.interrupted_syscall.Fit string_limit

/-- An event about values of their C types and a captured call. -/
structure Event.Fit (string_limit : Nat) (event : Event) : Prop where
  typed : event.Typed
  call : ∀ call, event.data = .syscall call → call.Fit string_limit

/-- The unfinished TIDs are those of tasks, each once, and every line is fit. -/
structure Output.Log.Fit (string_limit : Nat) (log : Output.Log) : Prop where
  nodup : log.unfinished.Nodup
  ints : ∀ tid ∈ log.unfinished, IsInt tid
  lines : ∀ line ∈ log.lines, line.Fit string_limit

/-- **The invariant.** -/
structure Context.Fit (string_limit : Nat) (c : Context) : Prop where
  tracees : ∀ tid tracee, c.tracees.lookup tid = some tracee → tracee.Fit string_limit
  log : c.output.log.Fit string_limit

section calls
variable {string_limit : Nat} {call : SyscallEvent}

theorem SyscallEvent.Fit.congr {other : SyscallEvent} (h : call.Fit string_limit)
    (hnumber : other.number = call.number)
    (hargument_count : other.argument_count = call.argument_count)
    (hdecoded : other.decoded_arguments = call.decoded_arguments) (hresult : IsLong other.result)
    (herror : IsInt other.error_number) : other.Fit string_limit := by
  have hsaved : ∀ index, other.saved index = call.saved index := by
    intro index
    unfold SyscallEvent.saved
    rw [hdecoded]
  refine ⟨⟨?_, hresult, herror, ?_⟩, ⟨?_, ?_⟩⟩
  · rw [hnumber]
    exact h.typed.number
  · rw [hargument_count]
    exact h.typed.argument_count
  · intro index text htext
    rw [hsaved] at htext
    exact h.decoded.text htext
  · intro descriptor index text hdescriptor htext
    rw [hsaved] at htext
    rw [hnumber] at hdescriptor
    exact h.decoded.input hdescriptor htext

theorem zero_fit : SyscallEvent.zero.Fit string_limit :=
  ⟨⟨by decide, by decide, by decide, by decide⟩, decoded_of_none rfl⟩

theorem without_texts_fit (h : call.Fit string_limit) : call.without_texts.Fit string_limit :=
  ⟨⟨h.typed.number, h.typed.result, h.typed.error_number, h.typed.argument_count⟩,
    decoded_of_none rfl⟩

theorem exec_done_fit (h : call.Fit string_limit) (exited_at : Timespec) :
    (call.exec_done exited_at).Fit string_limit :=
  h.congr rfl rfl rfl (show IsLong 0 by decide) (show IsInt 0 by decide)

theorem not_restarted_fit (h : call.Fit string_limit) (exited_at : Timespec) :
    (call.not_restarted exited_at).Fit string_limit :=
  h.congr rfl rfl rfl (show IsLong (-1) by decide) (show IsInt EINTR by decide)

/-- The error number of an exit is an `int`, however large the result is. -/
theorem exit_error_int (rval : Int) (is_error : Bool) : IsInt (exit_error rval is_error) := by
  have hmax : INT_MAX = 2 ^ 31 - 1 := rfl
  unfold exit_error
  split
  · rename_i h
    obtain ⟨_, hlow, hhigh⟩ := h
    constructor
    · omega
    · omega
  · decide

theorem finished_fit (h : call.Fit string_limit) {rval : Int} (hrval : IsLong rval) (is_error : Bool)
    (exited_at : Timespec) : (call.finished rval is_error exited_at).Fit string_limit :=
  h.congr rfl rfl rfl hrval (exit_error_int rval is_error)

end calls

/-! ### Lines -/

section lines
variable {config : Config} {string_limit : Nat} {c c' : Context} {tracee new : Tracee}
  {events : List Event}

/-- One event adds at most its own line. -/
theorem lines_write {log : Output.Log} {event : Event} (h : event.Fit string_limit)
    (hlines : ∀ line ∈ log.lines, line.Fit string_limit) :
    ∀ line ∈ (log.write config event).lines, line.Fit string_limit := by
  have hpush : ∀ {log' : Output.Log} {line : Line}, log'.lines = log.lines → line.Fit string_limit →
      ∀ other ∈ (log'.push line).lines, other.Fit string_limit := by
    intro log' line heq hline other hother
    obtain hmem | hmem := List.mem_append.mp hother
    · exact hlines other (heq ▸ hmem)
    · rw [List.mem_singleton.mp hmem]
      exact hline
  have hfinish : (log.finish event.tid).lines = log.lines := by
    unfold Output.Log.finish
    split
    · rfl
    · rfl
  unfold Output.Log.write
  split
  · exact hlines
  · split
    · unfold Output.Log.write_text
      split
      · rename_i call hdata
        have hcall := h.call call hdata
        unfold Output.Log.write_call
        split
        · apply hpush hfinish
          split
          · exact ⟨h.typed.tid, hcall⟩
          · exact ⟨h.typed.tid, hcall⟩
        · split
          · exact hlines
          · exact hpush (rfl : log.lines = log.lines) ⟨h.typed.tid, hcall⟩
      · exact hpush hfinish h.typed
      · exact hpush (rfl : log.lines = log.lines) h.typed
    · split
      · exact hlines
      · exact hpush (rfl : log.lines = log.lines) ⟨h.typed, h.call⟩

theorem log_fit_write {log : Output.Log} {event : Event} (h : log.Fit string_limit)
    (hevent : event.Fit string_limit) : (log.write config event).Fit string_limit := by
  obtain ⟨hnodup, hmem⟩ := unfinished_write config event h.nodup
  refine ⟨hnodup, ?_, lines_write hevent h.lines⟩
  intro tid htid
  obtain hold | rfl := hmem tid htid
  · exact h.ints tid hold
  · exact hevent.typed.tid

theorem log_fit_foldl (events : List Event) : ∀ {log : Output.Log}, log.Fit string_limit →
    (∀ event ∈ events, event.Fit string_limit) →
    (events.foldl (Output.Log.write config) log).Fit string_limit := by
  induction events with
  | nil => exact fun h _ => h
  | cons event events ih =>
    intro log h hevents
    exact ih (log_fit_write h (hevents event List.mem_cons_self)) fun other hother =>
      hevents other (List.mem_cons_of_mem _ hother)

/-- There are fewer numbers of tasks than the array of unfinished TIDs could hold. -/
theorem ints_length_lt {tids : List Pid} (hnodup : tids.Nodup) (hints : ∀ tid ∈ tids, IsInt tid) :
    tids.length < unfinished_limit := by
  have hsub : tids.toFinset ⊆ Finset.Ico (-2 ^ 31 : Int) (2 ^ 31) := by
    intro tid htid
    obtain ⟨hlow, hhigh⟩ := hints tid (List.mem_toFinset.mp htid)
    exact Finset.mem_Ico.mpr ⟨hlow, hhigh⟩
  have hle := Finset.card_le_card hsub
  rw [List.toFinset_card_of_nodup hnodup, Int.card_Ico] at hle
  have hlimit : unfinished_limit = 2 ^ 57 := rfl
  omega

/-- An event about a call. -/
theorem call_event_fit {tid tgid : Pid} {observed_at : Timespec} {call : SyscallEvent}
    (htid : IsInt tid) (htgid : IsInt tgid) (hcall : call.Fit string_limit) :
    Event.Fit string_limit ⟨tid, tgid, observed_at, .syscall call⟩ := by
  refine ⟨⟨htid, htgid, ?_, (by simp), (by simp), (by simp)⟩, ?_⟩
  · intro other hother
    rw [← EventData.syscall.inj hother]
    exact hcall.typed
  · intro other hother
    rw [← EventData.syscall.inj hother]
    exact hcall

theorem Writes.fit (hw : Writes config c events c') (h : c.Fit string_limit)
    (hevents : ∀ event ∈ events, event.Fit string_limit) : c'.Fit string_limit := by
  refine ⟨?_, ?_⟩
  · rw [hw.tracees]
    exact h.tracees
  · rw [hw.log]
    exact log_fit_foldl events h.log hevents

theorem Updates.fit (hu : Updates config c new events c') (h : c.Fit string_limit)
    (hnew : new.Fit string_limit) (hevents : ∀ event ∈ events, event.Fit string_limit) :
    c'.Fit string_limit := by
  refine ⟨?_, ?_⟩
  · intro tid tracee hlookup
    rw [hu.lookup] at hlookup
    split at hlookup
    · rw [← Option.some.inj hlookup]
      exact hnew
    · exact h.tracees tid tracee hlookup
  · rw [hu.log]
    exact log_fit_foldl events h.log hevents

/-- A fit record is stored. -/
theorem Context.Fit.store {t : Tracee} (h : c.Fit string_limit) (ht : t.Fit string_limit) :
    Context.Fit string_limit { c with tracees := c.tracees.write t } := by
  refine ⟨?_, h.log⟩
  intro tid tracee hlookup
  change (c.tracees.write t).lookup tid = some tracee at hlookup
  rw [Tracees.lookup_write] at hlookup
  split at hlookup
  · rw [← Option.some.inj hlookup]
    exact ht
  · exact h.tracees tid tracee hlookup

/-- The event of an unfinished call. -/
theorem FlushEvent.fit {tracees : Tracees} {except_tid : Pid} {event : Event}
    (hflush : FlushEvent config tracees except_tid event)
    (h : ∀ tid tracee, tracees.lookup tid = some tracee → tracee.Fit string_limit) :
    event.Fit string_limit := by
  obtain ⟨tracee, call, hlookup, _, hcall, _, rfl⟩ := hflush
  have hfit := h _ _ hlookup
  have hcurrent : call.Fit string_limit := by
    unfold Tracee.current_call at hcall
    split at hcall
    · exact Option.some.inj hcall ▸ hfit.pending
    · split at hcall
      · exact Option.some.inj hcall ▸ hfit.interrupted
      · simp at hcall
  have hincomplete : ({ call with completed := false } : SyscallEvent).Fit string_limit :=
    hcurrent.congr rfl rfl rfl hcurrent.typed.result hcurrent.typed.error_number
  exact call_event_fit hfit.tid hfit.tgid hincomplete

/-- The events that the completion of a call writes. -/
theorem CallEvents.fit {call : SyscallEvent}
    (hevents : CallEvents config c.tracees tracee call events) (h : c.Fit string_limit)
    (hold : c.tracees.lookup tracee.tid = some tracee) (hcall : call.Fit string_limit) :
    ∀ event ∈ events, event.Fit string_limit := by
  have htracee := h.tracees _ _ hold
  obtain ⟨flushed, hflushed, rfl⟩ := hevents
  intro event hevent
  split at hevent
  · obtain hmem | hmem := List.mem_append.mp hevent
    · exact (hflushed event hmem).fit h.tracees
    · rw [List.mem_singleton.mp hmem]
      exact call_event_fit htracee.tid htracee.tgid hcall
  · simp at hevent

end lines

/-! ### Calls -/

section blocks
variable {config : Config} {around : Surroundings} {env : Env} {string_limit : Nat} {c c' : Context}
  {tracee : Tracee}

theorem restart_call_fit (h : c.Fit string_limit) (hold : c.tracees.lookup tracee.tid = some tracee) :
    Holds (restart_call config env tracee) c (fun _ c' => c'.Fit string_limit)
      (fun _ _ => True) := by
  have htracee := h.tracees _ _ hold
  apply (restart_call_spec hold).mono
  · intro _ c' hpost
    rcases hpost with ⟨events, hevents, hu⟩
    exact hu.fit h ⟨htracee.tid, htracee.tgid, htracee.interrupted, zero_fit⟩
      fun event hevent => (hevents event hevent).fit h.tracees
  · exact fun _ _ _ => trivial

theorem complete_exec_fit (h : c.Fit string_limit)
    (hold : c.tracees.lookup tracee.tid = some tracee) :
    Holds (complete_exec config env tracee) c
      (fun tracee' c' => c'.Fit string_limit ∧ c'.tracees.lookup tracee'.tid = some tracee' ∧
        tracee'.Fit string_limit)
      (fun _ _ => True) := by
  have htracee := h.tracees _ _ hold
  apply (complete_exec_spec hold).mono
  · intro tracee' c' hpost
    rcases hpost with ⟨exited_at, events, hevents, hnew, hu⟩
    have hcall := exec_done_fit htracee.pending exited_at
    have hfit : tracee'.Fit string_limit := by
      rw [hnew]
      exact ⟨htracee.tid, htracee.tgid, without_texts_fit hcall, htracee.interrupted⟩
    exact ⟨hu.fit h hfit (hevents.fit h hold hcall), hu.lookup_self, hfit⟩
  · exact fun _ _ _ => trivial

theorem leave_pending_fit (h : c.Fit string_limit)
    (hold : c.tracees.lookup tracee.tid = some tracee) :
    Holds (leave_pending config env tracee) c
      (fun tracee' c' => c'.Fit string_limit ∧ c'.tracees.lookup tracee'.tid = some tracee')
      (fun _ _ => True) := by
  unfold leave_pending
  split
  · split
    · apply (complete_exec_fit h hold).mono
      · exact fun _ _ h => ⟨h.1, h.2.1⟩
      · exact fun _ _ _ => trivial
    · trivial
  · exact ⟨h, hold⟩

theorem report_interrupted_fit (h : c.Fit string_limit)
    (hold : c.tracees.lookup tracee.tid = some tracee) :
    Holds (report_interrupted config env tracee) c
      (fun tracee' c' => c'.Fit string_limit ∧ c'.tracees.lookup tracee'.tid = some tracee')
      (fun _ _ => True) := by
  have htracee := h.tracees _ _ hold
  apply (report_interrupted_spec hold).mono
  · intro tracee' c' hreported
    obtain ⟨_, rfl, rfl⟩ | ⟨_, exited_at, events, hevents, hnew, hu⟩ := hreported
    · exact ⟨h, hold⟩
    · have hcall := not_restarted_fit htracee.interrupted exited_at
      refine ⟨hu.fit h ?_ (hevents.fit h hold hcall), hu.lookup_self⟩
      rw [hnew]
      exact ⟨htracee.tid, htracee.tgid, htracee.pending, without_texts_fit hcall⟩
  · exact fun _ _ _ => trivial

/-- The decoder captures an entry, unless memory is refused. -/
theorem capture_fit (hplain : around.Plain) (n : Nat) (tid : Pid) {event : SyscallEvent}
    (hevent : event.Fit around.string_limit) :
    (∀ count texts, around.capture n tid event = some (count, texts) →
      SyscallEvent.Fit around.string_limit
        { event with argument_count := count, decoded_arguments := texts }) ∧
      ((around.heap n).Succeeds → (around.capture n tid event).isSome) := by
  have hlimit : around.string_limit ≤ 1024 * 1024 := hplain.string_limit
  have hsmall : 128 * around.string_limit + 1024 < SIZE_MAX := by
    have hlarge : 128 * (1024 * 1024) + 1024 < SIZE_MAX := by decide
    omega
  have hcaptured : Holds (Decoder.sg_decoder_capture_entry (around.heap n) around.libc
      ⟨around.string_limit, around.memory n⟩ tid event) .init _ _ :=
    capture_entry_decoded hplain.libc tid .init hevent.decoded
  unfold Surroundings.capture
  unfold Holds at hcaptured
  rcases hexec : (Decoder.sg_decoder_capture_entry (around.heap n) around.libc
    ⟨around.string_limit, around.memory n⟩ tid event).exec .init with ⟨_ | ⟨ok, event'⟩, s⟩
  · rw [hexec] at hcaptured
    exact hcaptured.elim
  · rw [hexec] at hcaptured
    obtain ⟨hdecoded, ⟨texts', count', hcount, heq⟩, hsucceeds⟩ := hcaptured
    dsimp only at hdecoded heq hsucceeds
    subst heq
    constructor
    · intro count texts hresult
      cases ok with
      | false => simp at hresult
      | true =>
        obtain ⟨rfl, rfl⟩ := Prod.mk.inj (Option.some.inj hresult)
        exact ⟨⟨hevent.typed.number, hevent.typed.result, hevent.typed.error_number, hcount⟩,
          hdecoded⟩
    · intro hheap
      rw [hsucceeds hheap hsmall]
      rfl

theorem entered_fit {number : UInt64} (hnumber : number.toNat ≤ LONG_MAX)
    (arguments : Vector UInt64 6) (entered_at : Timespec) :
    SyscallEvent.Fit string_limit
      { SyscallEvent.entered number arguments with entered_at := entered_at } := by
  have hlong : IsLong (number.toNat : Int) := by
    have hmax : LONG_MAX = 2 ^ 63 - 1 := rfl
    constructor
    · omega
    · omega
  exact ⟨⟨hlong, show IsLong 0 by decide, show IsInt 0 by decide, Nat.zero_le 6⟩,
    decoded_of_none rfl⟩

theorem make_call_fit (hplain : around.Plain) {number : UInt64} (hnumber : number.toNat ≤ LONG_MAX)
    (arguments : Vector UInt64 6) :
    Holds (make_call config around.env tracee number arguments) c
      (fun event _ => event.Fit around.string_limit) (fun _ _ => True) := by
  unfold make_call
  by_cases hsel : selected config (SyscallEvent.entered number arguments).number = true
  · simp only [hsel, if_true, holds_bind]
    apply (clock_gettime_spec config).mono
    · intro entered_at c₁ _
      have hentered : SyscallEvent.Fit around.string_limit _ := entered_fit hnumber arguments entered_at
      split
      · exact hentered
      · unfold sg_decoder_capture_entry
        simp only [holds_bind, holds_context_ask]
        have hcapture := (capture_fit hplain c₁.asked tracee.tid hentered).1
        split
        · rename_i count texts hresult
          exact hcapture count texts hresult
        · trivial
    · exact fun _ _ _ => trivial
  · simp only [hsel, Bool.false_eq_true, if_false, holds_pure]
    exact entered_fit hnumber arguments ⟨0, 0⟩

theorem enter_call_fit (hplain : around.Plain) (h : c.Fit around.string_limit)
    (hold : c.tracees.lookup tracee.tid = some tracee) {number : UInt64}
    (hnumber : number.toNat ≤ LONG_MAX) (arguments : Vector UInt64 6) :
    Holds (enter_call config around.env tracee number arguments) c
      (fun _ c' => c'.Fit around.string_limit) (fun _ _ => True) := by
  have htracee := h.tracees _ _ hold
  unfold enter_call
  rw [holds_bind]
  apply ((make_call_spec number arguments).and (make_call_fit hplain hnumber arguments)).mono
  · intro event c₁ hpost
    rcases hpost with ⟨⟨hw, _⟩, hevent⟩
    have h₁ := hw.fit h (by simp)
    have hnew : (tracee.entered event).Fit around.string_limit :=
      ⟨htracee.tid, htracee.tgid, hevent, htracee.interrupted⟩
    by_cases hsel : selected config event.number = true
    · simp only [hsel, if_true, holds_bind, holds_onError, holds_store]
      apply (flush_unfinished_syscalls_spec tracee.tid).mono
      · intro _ c₂ hpost
        rcases hpost with ⟨events, hevents, hw'⟩
        exact (hw'.fit h₁ fun e he => (hevents e he).fit h₁.tracees).store hnew
      · exact fun _ _ _ => trivial
    · simp only [hsel, Bool.false_eq_true, if_false, holds_store]
      exact h₁.store hnew
  · exact fun _ _ _ => trivial

/-- **Entries** keep the invariant, whatever call is entered. -/
theorem begin_syscall_fit (hplain : around.Plain) (h : c.Fit around.string_limit)
    (hold : c.tracees.lookup tracee.tid = some tracee) (number : UInt64)
    (arguments : Vector UInt64 6) :
    Holds (begin_syscall config around.env tracee number arguments) c
      (fun _ c' => c'.Fit around.string_limit) (fun _ _ => True) := by
  unfold begin_syscall
  split
  · trivial
  · rename_i hnumber
    rw [holds_bind]
    apply (leave_pending_fit h hold).mono
    · intro left c₁ hpost
      rcases hpost with ⟨h₁, hold₁⟩
      split
      · exact restart_call_fit h₁ hold₁
      · rw [holds_bind]
        apply (report_interrupted_fit h₁ hold₁).mono
        · intro mid c₂ hpost
          rcases hpost with ⟨h₂, hold₂⟩
          exact enter_call_fit hplain h₂ hold₂ (by omega) arguments
        · exact fun _ _ _ => trivial
    · exact fun _ _ _ => trivial

theorem completed_fit (h : tracee.Fit string_limit) {call : SyscallEvent}
    (hcall : call.Fit string_limit) : (tracee.completed call).Fit string_limit := by
  have hshell := Tracee.completed_shell tracee call
  have hinterrupted : (tracee.completed call).interrupted_syscall.Fit string_limit := by
    unfold Tracee.completed Tracee.settled
    dsimp only
    split
    · split
      · exact h.interrupted
      · split
        · exact without_texts_fit h.interrupted
        · exact h.interrupted
    · exact h.interrupted
  refine ⟨?_, ?_, without_texts_fit hcall, hinterrupted⟩
  · rw [show (tracee.completed call).tid = tracee.tid from congrArg Shell.tid hshell]
    exact h.tid
  · rw [show (tracee.completed call).tgid = tracee.tgid from congrArg Shell.tgid hshell]
    exact h.tgid

/-- **Exits** keep the invariant, whatever the result is. -/
theorem finish_syscall_fit (h : c.Fit string_limit)
    (hold : c.tracees.lookup tracee.tid = some tracee) {rval : Int} (hrval : IsLong rval)
    (is_error : Bool) :
    Holds (finish_syscall config env tracee rval is_error) c (fun _ c' => c'.Fit string_limit)
      (fun _ _ => True) := by
  have htracee := h.tracees _ _ hold
  unfold finish_syscall
  split
  · exact h.store ⟨htracee.tid, htracee.tgid, htracee.pending, htracee.interrupted⟩
  · split
    · apply (interrupt_call_spec (E := fun _ _ => True) hold).mono
      · intro _ c' hu
        have hu : Updates config c tracee.interrupted [] c' := hu
        exact hu.fit h ⟨htracee.tid, htracee.tgid, zero_fit, htracee.pending⟩ (by simp)
      · exact fun _ _ _ => trivial
    · apply (complete_call_spec hold rval is_error).mono
      · intro _ c' hpost
        rcases hpost with ⟨exited_at, events, hevents, hu⟩
        have hcall := finished_fit htracee.pending hrval is_error exited_at
        exact hu.fit h (completed_fit htracee hcall) (hevents.fit h hold hcall)
      · exact fun _ _ _ => trivial

end blocks

/-! ### Reports -/

/-- A wait status whose numbers are those of their C types. -/
def WaitStatus.Typed : WaitStatus → Prop
  | .exited code => IsInt code
  | .signaled signal => IsInt signal
  | .stopped _ _ => True
  | .continued => True

/-- Answers whose numbers are those of their C types. -/
structure Answers.Typed (answers : Answers) : Prop where
  syscall_info : ∀ info, answers.syscall_info = some info → IsLong info.rval
  signal_info : ∀ info, answers.signal_info = .ok info → IsInt info.si_signo ∧ IsInt info.si_code
  waited_tgid : IsInt answers.waited_tgid
  child_tgid : IsInt answers.child_tgid

/-- A report whose numbers are those of their C types. -/
def Report.Typed (report : Report) : Prop :=
  ∀ waited status answers, report.waited = .status waited status answers →
    IsInt waited ∧ status.Typed ∧ answers.Typed

section stops
variable {config : Config} {around : Surroundings} {string_limit : Nat} {c c' : Context}
  {tracee : Tracee}

theorem Context.Fit.of_eq (h : c.Fit string_limit) (htracees : c'.tracees = c.tracees)
    (houtput : c'.output = c.output) : c'.Fit string_limit :=
  ⟨htracees.symm ▸ h.tracees, houtput.symm ▸ h.log⟩

theorem registered_fit {tid tgid : Pid} (htid : IsInt tid) (htgid : IsInt tgid)
    (attached newborn : Bool) :
    (Tracee.registered tid tgid attached newborn).Fit string_limit :=
  ⟨htid, htgid, zero_fit, zero_fit⟩

theorem Registers.fit {tid tgid : Pid} {attached newborn : Bool}
    (hreg : Registers c tid tgid attached newborn c') (h : c.Fit string_limit) (htid : IsInt tid)
    (htgid : IsInt tgid) : c'.Fit string_limit := by
  refine ⟨?_, hreg.output.symm ▸ h.log⟩
  intro other tracee hlookup
  rw [hreg.lookup] at hlookup
  split at hlookup
  · rw [← Option.some.inj hlookup]
    exact registered_fit htid htgid attached newborn
  · exact h.tracees other tracee hlookup

theorem Drops.fit {tids : List Pid} (hd : Drops c tids c') (h : c.Fit string_limit) :
    c'.Fit string_limit := by
  refine ⟨?_, hd.output.symm ▸ h.log⟩
  intro tid tracee hlookup
  rw [hd.lookup] at hlookup
  split at hlookup
  · simp at hlookup
  · exact h.tracees tid tracee hlookup

theorem write_stamped_fit {env : Env} (h : c.Fit string_limit) {data : EventData}
    (hdata : ∀ observed_at, Event.Fit string_limit ⟨tracee.tid, tracee.tgid, observed_at, data⟩) :
    Holds (write_stamped config env tracee data) c (fun _ c' => c'.Fit string_limit)
      (fun _ _ => True) := by
  apply (write_stamped_spec tracee data).mono
  · intro _ c' hpost
    rcases hpost with ⟨events, observed_at, hevents, hw⟩
    apply hw.fit h
    intro event hevent
    obtain hmem | hmem := List.mem_append.mp hevent
    · exact (hevents event hmem).fit h.tracees
    · rw [List.mem_singleton.mp hmem]
      exact hdata observed_at
  · exact fun _ _ _ => trivial

theorem signal_event_fit {tid tgid : Pid} {observed_at : Timespec} {signal : SignalEvent}
    (htid : IsInt tid) (htgid : IsInt tgid)
    (hsignal : IsInt signal.signal_number ∧ IsInt signal.signal_code) :
    Event.Fit string_limit ⟨tid, tgid, observed_at, .signal signal⟩ := by
  refine ⟨⟨htid, htgid, (by simp), ?_, (by simp), (by simp)⟩, (by simp)⟩
  intro other hother
  rw [← EventData.signal.inj hother]
  exact hsignal

theorem start_event_fit {tid tgid child : Pid} {observed_at : Timespec} {ptrace_event : Nat}
    (htid : IsInt tid) (htgid : IsInt tgid) (hchild : IsInt child)
    (hevent : ptrace_event < 2 ^ 32) :
    Event.Fit string_limit ⟨tid, tgid, observed_at, .process_start ⟨child, ptrace_event⟩⟩ := by
  refine ⟨⟨htid, htgid, (by simp), (by simp), ?_, (by simp)⟩, (by simp)⟩
  intro other hother
  rw [← EventData.process_start.inj hother]
  exact ⟨hchild, hevent⟩

theorem exit_event_fit {tid tgid : Pid} {observed_at : Timespec} {status : Int} {signaled : Bool}
    (htid : IsInt tid) (htgid : IsInt tgid) (hstatus : IsInt status) :
    Event.Fit string_limit ⟨tid, tgid, observed_at, .process_exit ⟨status, signaled⟩⟩ := by
  refine ⟨⟨htid, htgid, (by simp), (by simp), (by simp), ?_⟩, (by simp)⟩
  intro other hother
  rw [← EventData.process_exit.inj hother]
  exact hstatus

/-- **A system call stop** keeps the invariant. -/
theorem handle_syscall_stop_fit (hplain : around.Plain) (h : c.Fit around.string_limit)
    (hold : c.tracees.lookup tracee.tid = some tracee) {answer : Option SyscallInfo}
    (hanswer : ∀ info, answer = some info → IsLong info.rval) :
    Holds (handle_syscall_stop config around.env tracee answer) c
      (fun _ c' => c'.Fit around.string_limit) (fun _ _ => True) := by
  unfold handle_syscall_stop
  rw [holds_bind, holds_measured_ptrace]
  have h₀ : (c.asking .PTRACE_GET_SYSCALL_INFO tracee.tid).Fit around.string_limit :=
    h.of_eq rfl rfl
  show Holds _ (c.asking .PTRACE_GET_SYSCALL_INFO tracee.tid) _ _
  cases answer with
  | none => trivial
  | some info =>
    simp only [holds_ite, holds_throw, implies_true, true_and, and_true]
    intro _ _
    constructor
    · intro _ _
      exact begin_syscall_fit hplain h₀ hold info.nr info.args
    · intro _ _ _
      exact finish_syscall_fit h₀ hold (hanswer info rfl) info.is_error

theorem handle_seccomp_stop_fit (hplain : around.Plain) (h : c.Fit around.string_limit)
    (hold : c.tracees.lookup tracee.tid = some tracee) (answer : Option SyscallInfo) :
    Holds (handle_seccomp_stop config around.env tracee answer) c
      (fun _ c' => c'.Fit around.string_limit) (fun _ _ => True) := by
  unfold handle_seccomp_stop
  rw [holds_bind, holds_measured_ptrace]
  have h₀ : (c.asking .PTRACE_GET_SYSCALL_INFO tracee.tid).Fit around.string_limit :=
    h.of_eq rfl rfl
  show Holds _ (c.asking .PTRACE_GET_SYSCALL_INFO tracee.tid) _ _
  cases answer with
  | none => trivial
  | some info =>
    simp only [holds_ite, holds_throw, implies_true, true_and]
    intro _ _ _ _
    exact begin_syscall_fit hplain h₀ hold info.nr info.args

theorem handle_exec_event_fit {env : Env} (h : c.Fit string_limit)
    (hold : c.tracees.lookup tracee.tid = some tracee) :
    Holds (handle_exec_event config env tracee) c (fun _ c' => c'.Fit string_limit)
      (fun _ _ => True) := by
  have htracee := h.tracees _ _ hold
  have h₀ : (c.exec_observed tracee).Fit string_limit :=
    h.of_eq (c.exec_observed_tracees tracee) (c.exec_observed_output tracee)
  have hold₀ : (c.exec_observed tracee).tracees.lookup tracee.tid = some tracee := by
    rw [Context.exec_observed_tracees]
    exact hold
  rw [holds_handle_exec_event]
  constructor
  · intro _
    apply (complete_exec_fit h₀ hold₀).mono
    · intro mid c₁ hpost
      rcases hpost with ⟨h₁, _, hmid⟩
      exact h₁.store ⟨hmid.tid, hmid.tgid, hmid.pending, hmid.interrupted⟩
    · exact fun _ _ _ => trivial
  · intro _
    exact h₀.store ⟨htracee.tid, htracee.tgid, htracee.pending, htracee.interrupted⟩

theorem handle_child_event_fit {env : Env} (h : c.Fit string_limit)
    (hold : c.tracees.lookup tracee.tid = some tracee) {ptrace_event : Nat}
    (hevent : ptrace_event < 2 ^ 32) {answers : Answers} (hanswers : answers.Typed) :
    Holds (handle_child_event config env tracee ptrace_event answers) c
      (fun _ c' => c'.Fit string_limit) (fun _ _ => True) := by
  have htracee := h.tracees _ _ hold
  have h₀ : (c.asking .PTRACE_GETEVENTMSG tracee.tid).Fit string_limit := h.of_eq rfl rfl
  unfold handle_child_event
  rw [holds_bind, holds_measured_ptrace]
  show Holds _ (c.asking .PTRACE_GETEVENTMSG tracee.tid) _ _
  simp only [holds_ite, holds_throw, holds_bind, holds_onError, implies_true, true_and]
  intro hmessage
  have hchild : IsInt ((answers.eventmsg.getD 0 : Nat) : Int) := by
    have hmax : INT_MAX = 2 ^ 31 - 1 := rfl
    rw [not_or] at hmessage
    obtain ⟨_, hsmall⟩ := hmessage
    constructor
    · omega
    · omega
  have htgid : IsInt (if answers.child_tgid ≤ 0 then
      if ptrace_event = PTRACE_EVENT_CLONE then tracee.tgid else (answers.eventmsg.getD 0 : Nat)
      else answers.child_tgid) := by
    split
    · split
      · exact htracee.tgid
      · exact hchild
    · exact hanswers.child_tgid
  apply (add_tracee_spec _ _ _ _).mono
  · intro _ c₁ hpost
    rcases hpost with ⟨_, _, hreg⟩
    have h₁ : c₁.Fit string_limit := hreg.fit h₀ hchild htgid
    simp only [holds_get, Tracees.get_eq]
    cases hknown : c₁.tracees.lookup tracee.tid with
    | none => trivial
    | some parent =>
      have hparent := h₁.tracees _ _ hknown
      exact write_stamped_fit h₁ fun _ =>
        start_event_fit hparent.tid hparent.tgid hchild hevent
  · exact fun _ _ _ => trivial

theorem handle_signal_stop_fit {env : Env} (h : c.Fit string_limit)
    (hold : c.tracees.lookup tracee.tid = some tracee) (stop : Int) {answer : SigInfoAnswer}
    (hanswer : ∀ info, answer = .ok info → IsInt info.si_signo ∧ IsInt info.si_code) :
    Holds (handle_signal_stop config env tracee stop answer) c
      (fun _ c' => c'.Fit string_limit) (fun _ _ => True) := by
  have htracee := h.tracees _ _ hold
  have h₀ : (c.asking .PTRACE_GETSIGINFO tracee.tid).Fit string_limit := h.of_eq rfl rfl
  have hsame : ∀ {new : Tracee}, new.tid = tracee.tid → new.tgid = tracee.tgid →
      new.pending_syscall = tracee.pending_syscall →
      new.interrupted_syscall = tracee.interrupted_syscall → new.Fit string_limit := by
    intro new htid htgid hpending hinterrupted
    exact ⟨htid ▸ htracee.tid, htgid ▸ htracee.tgid, hpending ▸ htracee.pending,
      hinterrupted ▸ htracee.interrupted⟩
  unfold handle_signal_stop
  rw [holds_bind, holds_measured_ptrace]
  show Holds _ (c.asking .PTRACE_GETSIGINFO tracee.tid) _ _
  cases answer with
  | ok signal_info =>
    let stopped : Tracee := { tracee with newborn := false, pending_signal := stop }
    have hstopped : stopped.Fit string_limit := hsame rfl rfl rfl rfl
    have hwritten : Holds (write_signal config env stopped signal_info)
        { c.asking .PTRACE_GETSIGINFO tracee.tid with tracees := c.tracees.write stopped }
        (fun _ c' => c'.Fit string_limit) (fun _ _ => True) :=
      write_stamped_fit (h₀.store hstopped) fun _ =>
        signal_event_fit hstopped.tid hstopped.tgid (hanswer signal_info rfl)
    simp only [holds_bind, holds_store, holds_pure]
    exact hwritten
  | einval =>
    simp only [holds_ite, holds_bind, holds_store, holds_pure, holds_throw, implies_true, and_true]
    exact fun _ => h₀.store (hsame rfl rfl rfl rfl)
  | failed => trivial

/-- **Stops** keep the invariant. -/
theorem handle_stop_fit (hplain : around.Plain) (h : c.Fit around.string_limit)
    (hold : c.tracees.lookup tracee.tid = some tracee) (stop : Int) (ptrace_event : Nat)
    {answers : Answers} (hanswers : answers.Typed) :
    Holds (handle_stop config around.env tracee stop ptrace_event answers) c
      (fun _ c' => c'.Fit around.string_limit) (fun _ _ => True) := by
  have htracee := h.tracees _ _ hold
  have hstored : ∀ {new : Tracee}, new.tid = tracee.tid → new.tgid = tracee.tgid →
      new.pending_syscall = tracee.pending_syscall →
      new.interrupted_syscall = tracee.interrupted_syscall →
      Context.Fit around.string_limit { c with tracees := c.tracees.write new } := by
    intro new htid htgid hpending hinterrupted
    exact h.store ⟨htid ▸ htracee.tid, htgid ▸ htracee.tgid, hpending ▸ htracee.pending,
      hinterrupted ▸ htracee.interrupted⟩
  unfold handle_stop
  split
  · rw [holds_bind]
    exact (handle_syscall_stop_fit hplain h hold hanswers.syscall_info).mono (fun _ _ h => h)
      fun _ _ _ => trivial
  · split
    · split
      · exact hstored rfl rfl rfl rfl
      · exact hstored rfl rfl rfl rfl
    · split
      · rw [holds_bind]
        unfold handle_ptrace_event
        split
        · exact (handle_seccomp_stop_fit hplain h hold _).mono (fun _ _ h => h) fun _ _ _ => trivial
        · split
          · exact (handle_exec_event_fit h hold).mono (fun _ _ h => h) fun _ _ _ => trivial
          · split
            · trivial
            · rename_i hchild
              have hevents : PTRACE_EVENT_FORK = 1 ∧ PTRACE_EVENT_VFORK = 2 ∧ PTRACE_EVENT_CLONE = 3 :=
                ⟨rfl, rfl, rfl⟩
              have hevent : ptrace_event < 2 ^ 32 := by omega
              exact (handle_child_event_fit h hold hevent hanswers).mono (fun _ _ h => h)
                fun _ _ _ => trivial
      · split
        · exact hstored rfl rfl rfl rfl
        · exact handle_signal_stop_fit h hold stop hanswers.signal_info

end stops

/-! ### Rounds -/

section rounds
variable {config : Config} {around : Surroundings} {env : Env} {string_limit : Nat} {c : Context}
  {tracee : Tracee}

theorem restart_tracee_fit (h : c.Fit string_limit) (waited : Pid) (signal : Int) (listen : Bool)
    (answer : RestartAnswer) :
    Holds (restart_tracee config env waited signal listen answer) c
      (fun _ c' => c'.Fit string_limit) (fun _ _ => True) := by
  have hasked : ∀ tracee, (c.asked_restart config tracee signal listen).Fit string_limit :=
    fun _ => h.of_eq rfl rfl
  apply holds_restart_tracee
  · intro _
    exact h
  · intro tracee hknown _
    have htracee := h.tracees _ _ hknown
    exact (hasked tracee).store
      ⟨htracee.tid, htracee.tgid, htracee.pending, htracee.interrupted⟩
  · intro tracee _ _
    exact hasked tracee
  · intro _ _ _
    trivial

/-- A rename leaves each unfinished TID once, and adds no text. -/
theorem log_fit_migrate {log : Output.Log} (h : log.Fit string_limit) (former : Pid) {current : Pid}
    (hcurrent : IsInt current) : (log.migrate former current).Fit string_limit := by
  unfold Output.Log.migrate
  by_cases hsame : former = current
  · rw [if_pos hsame]
    exact h
  rw [if_neg hsame]
  have hlines : ∀ line ∈ log.lines ++ [Line.renamed former current], line.Fit string_limit := by
    intro line hline
    obtain hmem | hmem := List.mem_append.mp hline
    · exact h.lines line hmem
    · rw [List.mem_singleton.mp hmem]
      trivial
  by_cases hformer : former ∉ log.unfinished
  · rw [if_pos hformer]
    exact ⟨h.nodup, h.ints, hlines⟩
  rw [if_neg hformer]
  rw [not_not] at hformer
  by_cases hknown : current ∈ log.unfinished
  · rw [if_pos hknown]
    have hperm := swap_remove_perm hformer
    refine ⟨hperm.symm.nodup (h.nodup.erase former), ?_, hlines⟩
    intro tid htid
    exact h.ints tid (List.mem_of_mem_erase (hperm.mem_iff.mp htid))
  · rw [if_neg hknown]
    have hperm := set_idxOf_perm current hformer
    refine ⟨hperm.symm.nodup ?_, ?_, hlines⟩
    · refine List.nodup_cons.mpr ⟨?_, h.nodup.erase former⟩
      exact fun hmem => hknown (List.mem_of_mem_erase hmem)
    · intro tid htid
      obtain rfl | hmem := List.mem_cons.mp (hperm.mem_iff.mp htid)
      · exact hcurrent
      · exact h.ints tid (List.mem_of_mem_erase hmem)

theorem migrate_exec_tid_fit (h : c.Fit string_limit) {waited : Pid} (hwaited : IsInt waited)
    (former : Pid) :
    Holds (migrate_exec_tid config env waited former) c (fun _ c' => c'.Fit string_limit)
      (fun _ _ => True) := by
  have hrenamed : ∀ {c₁ : Context} {output : Output}, c₁.Fit string_limit →
      output.log = c₁.output.log.migrate former waited →
      Context.Fit string_limit { c₁ with output := output } := by
    intro c₁ output h₁ hlog
    exact ⟨h₁.tracees, hlog ▸ log_fit_migrate h₁.log former hwaited⟩
  apply holds_migrate_exec_tid
  · exact fun _ => h
  · intro source dropped _ hd _ hsource
    have hfit : source.Fit string_limit := by
      obtain hs | ⟨_, hs⟩ := hsource
      · exact h.tracees _ _ hs
      · exact h.tracees _ _ hs
    unfold migrate_source
    simp only [holds_bind, holds_onError, holds_store, holds_zoom, holds_modify]
    apply (add_tracee_spec waited waited source.attached false).mono
    · intro _ c₁ hpost
      rcases hpost with ⟨_, _, hreg⟩
      have h₁ : c₁.Fit string_limit := hreg.fit (hd.fit h) hwaited hwaited
      have h₂ := h₁.store (t := source.renamed waited)
        ⟨hwaited, hwaited, hfit.pending, hfit.interrupted⟩
      apply (sg_output_migrate_tid_spec (E := fun _ _ => True) former waited).mono
      · intro _ o ho
        have h₃ := hrenamed h₂ ho
        split
        · exact h₃.of_eq rfl rfl
        · exact h₃
      · exact fun _ _ _ => trivial
    · exact fun _ _ _ => trivial
  · intro dropped _ hd _ _ _
    simp only [holds_bind, holds_zoom]
    apply (add_tracee_spec waited waited _ false).mono
    · intro _ c₁ hpost
      rcases hpost with ⟨_, _, hreg⟩
      have h₁ : c₁.Fit string_limit := hreg.fit (hd.fit h) hwaited hwaited
      apply (sg_output_migrate_tid_spec (E := fun _ _ => True) former waited).mono
      · intro _ o ho
        exact hrenamed h₁ ho
      · exact fun _ _ _ => trivial
    · exact fun _ _ _ => trivial

theorem observe_exec_fit (h : c.Fit string_limit) {waited : Pid} (hwaited : IsInt waited)
    (status : WaitStatus) (answers : Answers) :
    Holds (observe_exec config env waited status answers) c (fun _ c' => c'.Fit string_limit)
      (fun _ _ => True) := by
  unfold observe_exec
  cases status with
  | stopped stop ptrace_event =>
    simp only [holds_ite, holds_bind, holds_measured_ptrace, holds_pure]
    refine ⟨fun _ => ?_, fun _ => h⟩
    have h₀ : (c.asking .PTRACE_GETEVENTMSG waited).Fit string_limit := h.of_eq rfl rfl
    show Holds _ (c.asking .PTRACE_GETEVENTMSG waited) _ _
    cases answers.eventmsg with
    | none => trivial
    | some former =>
      simp only [holds_ite, holds_throw, implies_true, true_and]
      exact fun _ => migrate_exec_tid_fit h₀ hwaited former
  | exited _ => exact h
  | signaled _ => exact h
  | continued => exact h

theorem find_tracee_fit (h : c.Fit string_limit) {waited : Pid} (hwaited : IsInt waited)
    (status : WaitStatus) {answers : Answers} (hanswers : answers.Typed) :
    Holds (find_tracee config env waited status answers) c
      (fun found c' => found = c'.tracees.lookup waited ∧ c'.Fit string_limit)
      (fun _ _ => True) := by
  unfold find_tracee
  rw [holds_bind, holds_get, Tracees.get_eq]
  cases hknown : c.tracees.lookup waited with
  | some tracee => exact ⟨hknown.symm, h⟩
  | none =>
    cases status with
    | stopped stop ptrace_event =>
      have htgid : IsInt (if answers.waited_tgid ≤ 0 then waited else answers.waited_tgid) := by
        split
        · exact hwaited
        · exact hanswers.waited_tgid
      simp only [holds_ite, holds_bind, holds_pure]
      refine ⟨fun _ => ?_, fun _ => ⟨hknown.symm, h⟩⟩
      apply (add_tracee_spec waited _ _ true).mono
      · intro _ c' hpost
        rcases hpost with ⟨_, _, hreg⟩
        rw [holds_get, Tracees.get_eq]
        exact ⟨rfl, hreg.fit h hwaited htgid⟩
      · exact fun _ _ _ => trivial
    | exited _ => exact ⟨hknown.symm, h⟩
    | signaled _ => exact ⟨hknown.symm, h⟩
    | continued => exact ⟨hknown.symm, h⟩

theorem handle_exit_fit (h : c.Fit string_limit)
    (hold : c.tracees.lookup tracee.tid = some tracee) (waited : Pid) {status : WaitStatus}
    (hstatus : status.Typed) :
    Holds (handle_exit config env tracee waited status) c (fun _ c' => c'.Fit string_limit)
      (fun _ _ => True) := by
  have htracee := h.tracees _ _ hold
  let gone : Tracee := { tracee with phase := .SG_TRACEE_GONE }
  have h₀ : Context.Fit string_limit { c with tracees := c.tracees.write gone } :=
    h.store ⟨htracee.tid, htracee.tgid, htracee.pending, htracee.interrupted⟩
  have hreported : Holds (report_exit config env gone status)
      { c with tracees := c.tracees.write gone } (fun _ c' => c'.Fit string_limit)
      (fun _ _ => True) := by
    cases status with
    | signaled signal =>
      exact write_stamped_fit h₀ fun _ =>
        exit_event_fit htracee.tid htracee.tgid hstatus
    | exited code =>
      exact write_stamped_fit h₀ fun _ =>
        exit_event_fit htracee.tid htracee.tgid hstatus
    | stopped stop ptrace_event => exact h₀
    | continued => exact h₀
  apply holds_handle_exit (fun c' => c'.Fit string_limit) (fun _ => trivial) hreported
  intro c₁ c₂ c₃ h₁ htracees _ houtput hd
  exact hd.fit (h₁.of_eq htracees houtput)

/-- **A round** keeps the invariant. -/
theorem handle_status_fit (hplain : around.Plain) (h : c.Fit around.string_limit) {waited : Pid}
    (hwaited : IsInt waited) {status : WaitStatus} (hstatus : status.Typed) {answers : Answers}
    (hanswers : answers.Typed) (shutdown_signal : Int) :
    Holds (handle_status config around.env waited status answers shutdown_signal) c
      (fun _ c' => c'.Fit around.string_limit) (fun _ _ => True) := by
  unfold handle_status
  rw [holds_bind]
  apply (observe_exec_fit h hwaited status answers).mono
  · intro _ c₁ h₁
    rw [holds_bind]
    apply (find_tracee_fit h₁ hwaited status hanswers).mono
    · intro found c₂ hpost
      rcases hpost with ⟨hfound, h₂⟩
      rw [hfound]
      cases hknown : c₂.tracees.lookup waited with
      | none => exact h₂
      | some tracee =>
        have htid : tracee.tid = waited := Tracees.lookup_tid hknown
        subst htid
        have htracee := h₂.tracees _ _ hknown
        have hexit : Holds (do
            handle_exit config around.env tracee tracee.tid status
            pure RoundEnd.again) c₂ (fun _ c' => c'.Fit around.string_limit)
            (fun _ _ => True) := by
          rw [holds_bind]
          exact (handle_exit_fit h₂ hknown tracee.tid hstatus).mono (fun _ _ h => h) fun _ _ h => h
        cases status with
        | exited code => exact hexit
        | signaled signal => exact hexit
        | continued =>
          exact h₂.store ⟨htracee.tid, htracee.tgid, htracee.pending, htracee.interrupted⟩
        | stopped stop ptrace_event =>
          let stopped : Tracee :=
            { tracee with in_ptrace_stop := true, phase := .SG_TRACEE_STOPPED }
          have hold : (c₂.tracees.write stopped).lookup stopped.tid = some stopped := by
            rw [Tracees.lookup_write]
            exact if_pos ⟨rfl, by
              show (c₂.tracees.lookup tracee.tid).isSome = true
              rw [hknown]
              rfl⟩
          have h₃ : Context.Fit around.string_limit
              { c₂ with tracees := c₂.tracees.write stopped } :=
            h₂.store ⟨htracee.tid, htracee.tgid, htracee.pending, htracee.interrupted⟩
          simp only [holds_bind, holds_store, holds_pure]
          apply (handle_stop_fit hplain h₃ hold stop ptrace_event hanswers).mono
          · intro result c₄ h₄
            exact restart_tracee_fit h₄ _ _ _ _
          · exact fun _ _ h => h
    · exact fun _ _ h => h
  · exact fun _ _ h => h

theorem loop_round_fit (hplain : around.Plain) (h : c.Fit around.string_limit) {report : Report}
    (hreport : report.Typed) :
    Holds (loop_round config around.env report) c (fun _ c' => c'.Fit around.string_limit)
      (fun _ _ => True) := by
  obtain ⟨waited, shutdown_signal⟩ := report
  unfold loop_round
  cases waited with
  | eintr => exact h
  | failed => trivial
  | status waited status answers =>
    obtain ⟨hwaited, hstatus, hanswers⟩ := hreport waited status answers rfl
    exact handle_status_fit hplain h hwaited hstatus hanswers shutdown_signal

end rounds

/-! ### Runs -/

/-- The TIDs that `sg_trace_run` is told about are those of tasks. -/
def LaunchAnswers.Typed (answers : LaunchAnswers) : Prop :=
  ∀ child, answers.child = .ok child → IsInt child

def AttachAnswers.Typed (answers : AttachAnswers) : Prop :=
  ∀ round ids, answers.task_ids round = .ok ids → ∀ tid ∈ ids, IsInt tid

section runs
variable {config : Config} {around : Surroundings} {env : Env} {string_limit : Nat}
  {start c : Context}

theorem init_fit : Context.Fit string_limit .init := by
  refine ⟨?_, ⟨List.nodup_nil, ?_, ?_⟩⟩
  · intro tid tracee hlookup
    rw [show Context.init.tracees.lookup tid = none from Tracees.count_eq_zero.mp rfl tid] at hlookup
    simp at hlookup
  · intro tid htid
    exact absurd htid (List.not_mem_nil)
  · intro line hline
    exact absurd hline (List.not_mem_nil)

theorem launch_fit {answers : LaunchAnswers} (hanswers : answers.Typed) :
    Holds (launch config env answers) .init (fun _ c => c.Fit string_limit) (fun _ _ => True) := by
  unfold launch
  cases hchild : answers.child with
  | error error => trivial
  | ok child =>
    have hint : IsInt child := hanswers child hchild
    simp only [holds_bind, holds_modify]
    apply (add_tracee_spec child child false false).mono
    · intro _ c₁ hpost
      rcases hpost with ⟨_, _, hreg⟩
      have h₀ : Context.Fit string_limit { Context.init with root_tid := child } :=
        init_fit.of_eq rfl rfl
      have h₁ : c₁.Fit string_limit := hreg.fit h₀ hint hint
      apply holds_wait_for_initial_stop
      · rw [holds_get, Tracees.get_eq]
        cases hknown : c₁.tracees.lookup child with
        | none => trivial
        | some root =>
          have hroot := h₁.tracees _ _ hknown
          have h₂ := h₁.store (t := { root with in_ptrace_stop := true, phase := .SG_TRACEE_STOPPED })
            ⟨hroot.tid, hroot.tgid, hroot.pending, hroot.interrupted⟩
          unfold install_ptrace_options
          simp only [holds_bind, holds_onError, holds_store, holds_measured_ptrace, holds_ite,
            holds_pure, holds_throw]
          have h₃ : Context.Fit string_limit { c₁ with
              tracees := c₁.tracees.write
                { root with in_ptrace_stop := true, phase := .SG_TRACEE_STOPPED }
              requests := c₁.requests ++ [⟨.PTRACE_SETOPTIONS, child, ptrace_options config true⟩] } :=
            h₂.of_eq rfl rfl
          refine ⟨fun _ => ⟨fun _ => ?_, fun _ => trivial⟩, fun _ => trivial⟩
          exact h₃.store ⟨hroot.tid, hroot.tgid, hroot.pending, hroot.interrupted⟩
      · exact fun _ => trivial
    · exact fun _ _ _ => trivial

theorem begin_run_fit {answers : LaunchAnswers} (hanswers : answers.Typed) :
    Holds (begin_run config env answers) .init (fun _ c => c.Fit string_limit)
      (fun _ _ => True) := by
  unfold begin_run
  rw [holds_bind]
  apply (launch_fit hanswers).mono
  · intro _ c₁ h₁
    unfold resume_root
    cases config.mode with
    | SG_RUN_ATTACH => exact h₁
    | SG_RUN_LAUNCH =>
      simp only [holds_bind, holds_get, Tracees.get_eq]
      cases hknown : c₁.tracees.lookup c₁.root_tid with
      | none => trivial
      | some root =>
        have hroot := h₁.tracees _ _ hknown
        have h₂ : Context.Fit string_limit { c₁ with
            requests := c₁.requests ++ [⟨resume_request config root, root.tid, 0⟩] } :=
          h₁.of_eq rfl rfl
        unfold resume_tracee
        simp only [holds_bind, holds_measured_ptrace, holds_ite, holds_store, holds_throw]
        exact ⟨fun _ => h₂.store ⟨hroot.tid, hroot.tgid, hroot.pending, hroot.interrupted⟩,
          fun _ => trivial⟩
  · exact fun _ _ h => h

theorem seize_task_fit (h : c.Fit string_limit) {attach_pid tid : Pid} (hpid : IsInt attach_pid)
    (htid : IsInt tid) (answer : RestartAnswer) :
    Holds (seize_task config env attach_pid answer tid) c (fun _ c' => c'.Fit string_limit)
      (fun _ _ => True) := by
  unfold seize_task
  rw [holds_bind, holds_get, Tracees.get_eq]
  cases c.tracees.lookup tid with
  | some _ => exact h
  | none =>
    dsimp only
    rw [holds_bind]
    apply (add_tracee_spec tid attach_pid true true).mono
    · intro _ c₁ hpost
      rcases hpost with ⟨_, _, hreg⟩
      have h₁ : c₁.Fit string_limit := hreg.fit h htid hpid
      have h₂ : Context.Fit string_limit { c₁ with
          requests := c₁.requests ++ [⟨.PTRACE_SEIZE, tid, ptrace_options config false⟩] } :=
        h₁.of_eq rfl rfl
      rw [holds_bind, holds_measured_ptrace]
      cases answer with
      | ok => exact h₂
      | esrch =>
        rw [holds_bind]
        exact (remove_tracee_spec (E := fun _ _ => True) tid).mono (fun _ _ hd => hd.fit h₂)
          fun _ _ h => h
      | failed =>
        rw [holds_bind]
        exact (remove_tracee_spec (E := fun _ _ => True) tid).mono (fun _ _ _ => trivial)
          fun _ _ h => h
    · exact fun _ _ _ => trivial

theorem seize_tasks_fit {attach_pid : Pid} (hpid : IsInt attach_pid) (answers : Pid → RestartAnswer)
    (ids : List Pid) : ∀ {c : Context}, c.Fit string_limit → (∀ tid ∈ ids, IsInt tid) →
      Holds (seize_tasks config env attach_pid answers ids) c (fun _ c' => c'.Fit string_limit)
        (fun _ _ => True) := by
  induction ids with
  | nil => exact fun h _ => h
  | cons tid ids ih =>
    intro c h hids
    rw [seize_tasks, holds_bind]
    apply (seize_task_fit h hpid (hids tid List.mem_cons_self) (answers tid)).mono
    · intro _ c₁ h₁
      rw [holds_bind]
      exact (ih h₁ fun other hother => hids other (List.mem_cons_of_mem _ hother)).mono
        (fun _ _ h => h) fun _ _ h => h
    · exact fun _ _ h => h

theorem seize_rounds_fit {attach_pid : Pid} (hpid : IsInt attach_pid) {answers : AttachAnswers}
    (hanswers : answers.Typed) (rounds : Nat) : ∀ (round : Nat) {c : Context}, c.Fit string_limit →
      Holds (seize_rounds config env attach_pid answers rounds round) c
        (fun _ c' => c'.Fit string_limit) (fun _ _ => True) := by
  induction rounds with
  | zero => exact fun _ _ h => h
  | succ rounds ih =>
    intro round c h
    rw [seize_rounds]
    cases hids : answers.task_ids round with
    | error error => trivial
    | ok ids =>
      dsimp only
      rw [holds_bind]
      apply (seize_tasks_fit hpid (answers.seize round) ids h (hanswers round ids hids)).mono
      · intro added c₁ h₁
        rw [holds_ite]
        exact ⟨fun _ => h₁, fun _ => ih (round + 1) h₁⟩
      · exact fun _ _ h => h

theorem prepare_attach_fit {attach_pid : Pid} (hpid : IsInt attach_pid) {answers : AttachAnswers}
    (hanswers : answers.Typed) :
    Holds (prepare_attach config env attach_pid answers) .init (fun _ c => c.Fit string_limit)
      (fun _ _ => True) := by
  unfold prepare_attach
  cases answers.invalid with
  | some error => trivial
  | none =>
    dsimp only
    rw [holds_bind]
    apply (seize_rounds_fit hpid hanswers 64 0 init_fit).mono
    · intro stable c₁ h₁
      simp only [holds_bind, holds_get, holds_ite, holds_throw, holds_context_ask, holds_modify,
        implies_true, true_and]
      intro _ _
      have hround : ∀ tid ∈ c₁.tracees.records.map Tracee.tid, ∀ c₂ : Context, c₂.Fit string_limit →
          Holds (interrupt_task env (answers.interrupt tid) tid) c₂
            (fun _ c₃ => c₃.Fit string_limit) (fun _ _ => True) := by
        intro tid _ c₂ h₂
        unfold interrupt_task
        rw [holds_bind, holds_measured_ptrace]
        cases answers.interrupt tid with
        | failed => trivial
        | ok => exact h₂.of_eq rfl rfl
        | esrch => exact h₂.of_eq rfl rfl
      have hasked : Context.Fit string_limit { c₁ with asked := c₁.asked + 1 } := h₁.of_eq rfl rfl
      exact (holds_forM _ _ hround hasked).mono (fun _ _ h => h.of_eq rfl rfl) fun _ _ h => h
    · exact fun _ _ h => h

/-- Where the loop starts: a command has been launched, or a process has been attached to. -/
inductive RunStarts (config : Config) (env : Env) (start : Context) : Prop where
  | launch (answers : LaunchAnswers) (hmode : config.mode = .SG_RUN_LAUNCH)
    (hanswers : answers.Typed) (hrun : (begin_run config env answers).exec .init = (.ok (), start))
  | attach (attach_pid : Pid) (answers : AttachAnswers) (hmode : config.mode = .SG_RUN_ATTACH)
    (hpid : IsInt attach_pid) (hanswers : answers.Typed)
    (hrun : (prepare_attach config env attach_pid answers).exec .init = (.ok (), start))

theorem RunStarts.fit (h : RunStarts config env start) : start.Fit string_limit := by
  cases h with
  | launch answers _ hanswers hrun => exact (begin_run_fit hanswers).of_ok hrun
  | attach attach_pid answers _ hpid hanswers hrun =>
    exact (prepare_attach_fit hpid hanswers).of_ok hrun

/-- **The invariant holds** whenever the loop waits for a report. -/
theorem fit_of_reaches {h : List Report} (hplain : around.Plain)
    (hstart : RunStarts config around.env start)
    (hreach : Reaches (loop_step config around.env) (fun _ _ report => report.Typed) start h c) :
    c.Fit around.string_limit := by
  apply hreach.invariant (I := fun _ c => Context.Fit around.string_limit c) hstart.fit
  intro _ c report c' hfit hreport hstep
  exact (loop_round_fit hplain hfit hreport).of_ok (loop_step_true hstep).2

end runs

end Sysgaze
