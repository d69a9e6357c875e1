import Sysgaze.Recording
import Sysgaze.WholeRuns

/-! # The order of the lines

    Every round of the loop reads the clock when it reports something.  With a clock
    that does not go back, the lines of a run are in the order of the times that they
    report: a line comes after every line about an earlier time, an unfinished call was
    entered before everything that is reported below it, and no call ends before it was
    entered (`run_in_order`).

    The invariant (`Timely`): whatever has been written or is kept for later lies in the
    past of every question that will still be put to the clock.
-/

open Fallible

namespace Sysgaze

/-! ### Clocks and times -/

/-- The clock does not go back. -/
def Env.Steady (env : Env) : Prop :=
  ∀ m n earlier later, m ≤ n → env.clock m = some earlier → env.clock n = some later →
    earlier.nanoseconds ≤ later.nanoseconds

/-- The clock will not show an earlier time again. -/
def Past (env : Env) (asked : Nat) (time : Timespec) : Prop :=
  ∀ n now, asked ≤ n → env.clock n = some now → time.nanoseconds ≤ now.nanoseconds

/-- When what the line reports was observed; an unfinished call is still going on. -/
def Line.observed_at : Line → Option Timespec
  | .resumed _ call | .syscall _ call => some call.exited_at
  | .text event | .json event => some event.observed_at
  | .unfinished _ _ | .renamed _ _ => none

/-- The last time that the line knows about. -/
def Line.known_at : Line → Option Timespec
  | .unfinished _ call => some call.entered_at
  | line => line.observed_at

/-- What the earlier line knows lies before what the later one has observed. -/
def Line.Before (earlier later : Line) : Prop :=
  ∀ known observed, earlier.known_at = some known → later.observed_at = some observed →
    known.nanoseconds ≤ observed.nanoseconds

/-- A call that the line reports was entered before it ended, and the line is about its end. -/
def Line.Spans (line : Line) : Prop :=
  ∀ tid call, line.completed = some (tid, call) →
    call.entered_at.nanoseconds ≤ call.exited_at.nanoseconds ∧
      line.observed_at = some call.exited_at

/-- **The lines are in order.** -/
structure Chronicle (lines : List Line) : Prop where
  sorted : lines.Pairwise Line.Before
  spans : ∀ line ∈ lines, line.Spans

/-! ### What one event adds -/

/-- The line tells about the event. -/
def Line.Tells (event : Event) : Line → Prop
  | .unfinished tid call => tid = event.tid ∧ event.data = .syscall call ∧ call.completed = false
  | .resumed tid call | .syscall tid call =>
    tid = event.tid ∧ event.data = .syscall call ∧ call.completed = true
  | .text told | .json told => told = event ∧ event.incomplete = false
  | .renamed _ _ => False

/-- **An event adds at most one line**, which tells about it. -/
theorem write_adds (config : Config) (log : Output.Log) (event : Event) :
    (log.write config event).lines = log.lines ∨
      ∃ line, (log.write config event).lines = log.lines ++ [line] ∧ line.Tells event := by
  have hpush : ∀ {log' : Output.Log} (line : Line), log'.lines = log.lines → line.Tells event →
      (log'.push line).lines = log.lines ∨
        ∃ added, (log'.push line).lines = log.lines ++ [added] ∧ added.Tells event := by
    intro log' line hlines htells
    refine Or.inr ⟨line, ?_, htells⟩
    unfold Output.Log.push
    rw [hlines]
  -- Only calls can be incomplete.
  have hcomplete : (∀ call, event.data ≠ .syscall call) → event.incomplete = false := by
    intro h
    unfold Event.incomplete
    split
    · exact absurd ‹_› (h _)
    · rfl
  unfold Output.Log.write
  split
  · exact Or.inl rfl
  · split
    · unfold Output.Log.write_text
      cases hdata : event.data with
      | syscall call =>
        dsimp only
        unfold Output.Log.write_call
        split
        · rename_i hcompleted
          apply hpush _ (log.finish_lines event.tid)
          -- Its own line, or the second half of one that was left unfinished.
          split
          · exact ⟨rfl, hdata, hcompleted⟩
          · exact ⟨rfl, hdata, hcompleted⟩
        · rename_i hincomplete
          -- A line that is unfinished already is not begun again.
          split
          · exact Or.inl rfl
          · exact Or.inr ⟨_, rfl, rfl, hdata, by simpa using hincomplete⟩
      | signal signal => exact hpush (.text event) rfl ⟨rfl, hcomplete (by simp [hdata])⟩
      | process_start start => exact hpush (.text event) rfl ⟨rfl, hcomplete (by simp [hdata])⟩
      | process_exit exit =>
        exact hpush (.text event) (log.finish_lines event.tid) ⟨rfl, hcomplete (by simp [hdata])⟩
    · split
      · exact Or.inl rfl
      · rename_i hcomplete
        exact hpush (.json event) rfl ⟨rfl, by simpa using hcomplete⟩

/-- The last time that the event knows about. -/
def Event.known_at (event : Event) : Timespec :=
  match event.data with
  | .syscall call => if call.completed then call.exited_at else call.entered_at
  | _ => event.observed_at

/-- A call that the event completes was entered before it was observed. -/
def Event.Spans (event : Event) : Prop :=
  ∀ call, event.data = .syscall call → call.completed = true →
    call.entered_at.nanoseconds ≤ call.exited_at.nanoseconds ∧ event.observed_at = call.exited_at

section lines
variable {config : Config} {env : Env} {lines lines' : List Line} {line : Line} {event : Event}
  {asked asked' : Nat} {time : Timespec}

theorem Past.later (h : Past env asked time) (hle : asked ≤ asked') : Past env asked' time :=
  fun n now hn => h n now (hle.trans hn)

theorem Line.observed_known (line : Line) {observed : Timespec}
    (h : line.observed_at = some observed) : line.known_at = some observed := by
  cases line with
  | unfinished tid call => simp [Line.observed_at] at h
  | _ => exact h

theorem Event.known_at_call {call : SyscallEvent} (hdata : event.data = .syscall call) :
    event.known_at = if call.completed then call.exited_at else call.entered_at := by
  unfold Event.known_at
  rw [hdata]

/-- An event that is complete knows the time at which it was observed. -/
theorem Event.known_at_observed (hcomplete : event.incomplete = false) (hspans : event.Spans) :
    event.known_at = event.observed_at := by
  cases hdata : event.data with
  | syscall call =>
    have hcompleted : call.completed = true := by
      unfold Event.incomplete at hcomplete
      simpa [hdata] using hcomplete
    rw [Event.known_at_call hdata, if_pos hcompleted, (hspans call hdata hcompleted).2]
  | _ => unfold Event.known_at; rw [hdata]

theorem Line.Tells.known_at (h : line.Tells event) (hspans : event.Spans) :
    line.known_at = some event.known_at := by
  cases line with
  | unfinished tid call =>
    rw [Event.known_at_call h.2.1, if_neg (by simp [h.2.2])]
    rfl
  | resumed tid call =>
    rw [Event.known_at_call h.2.1, if_pos h.2.2]
    rfl
  | syscall tid call =>
    rw [Event.known_at_call h.2.1, if_pos h.2.2]
    rfl
  | text told =>
    obtain ⟨rfl, hcomplete⟩ := h
    rw [Event.known_at_observed hcomplete hspans]
    rfl
  | json told =>
    obtain ⟨rfl, hcomplete⟩ := h
    rw [Event.known_at_observed hcomplete hspans]
    rfl
  | renamed former current => exact h.elim

theorem Line.Tells.spans (h : line.Tells event) (hspans : event.Spans) : line.Spans := by
  intro tid call hcompleted
  cases line with
  | unfinished tid call => simp [Line.completed] at hcompleted
  | resumed tid' call' =>
    obtain ⟨-, hdata, hdone⟩ := h
    cases hcompleted
    exact ⟨(hspans call hdata hdone).1, rfl⟩
  | syscall tid' call' =>
    obtain ⟨-, hdata, hdone⟩ := h
    cases hcompleted
    exact ⟨(hspans call hdata hdone).1, rfl⟩
  | text told => simp [Line.completed] at hcompleted
  | json told =>
    obtain ⟨rfl, hcomplete⟩ := h
    rcases told with ⟨tid', tgid, observed_at, data⟩
    cases data with
    | syscall call' =>
      cases hcompleted
      have hdone : call.completed = true := by simpa [Event.incomplete] using hcomplete
      obtain ⟨hle, hobserved⟩ := hspans call rfl hdone
      exact ⟨hle, congrArg some hobserved⟩
    | _ => simp [Line.completed] at hcompleted
  | renamed former current => exact h.elim

/-- Only an event that is complete is about the present. -/
theorem Line.Tells.observed (h : line.Tells event) {observed : Timespec}
    (hobserved : line.observed_at = some observed) : event.incomplete = false := by
  unfold Event.incomplete
  cases line with
  | unfinished tid call => simp [Line.observed_at] at hobserved
  | resumed tid call => rw [h.2.1]; simp [h.2.2]
  | syscall tid call => rw [h.2.1]; simp [h.2.2]
  | text told => exact h.2
  | json told => exact h.2
  | renamed former current => exact h.elim

/-- Places where a TID was renamed do not count. -/
theorem chronicle_written : Chronicle (lines.filter Line.written) ↔ Chronicle lines := by
  -- What is not written (a task that gets another TID) shows no time at all.
  have hsilent : ∀ line : Line, line.written = false →
      line.observed_at = none ∧ line.known_at = none ∧ line.completed = none := by
    intro line h
    cases line with
    | renamed former current => exact ⟨rfl, rfl, rfl⟩
    | _ => simp [Line.written] at h
  constructor
  · intro h
    refine ⟨?_, ?_⟩
    · have hsorted := h.sorted
      rw [List.pairwise_filter] at hsorted
      -- Two lines are compared only if both show a time, and then both are written.
      refine hsorted.imp ?_
      intro earlier later hbefore known observed hknown hobserved
      cases hearlier : earlier.written with
      | false => simp [(hsilent earlier hearlier).2.1] at hknown
      | true =>
        cases hlater : later.written with
        | false => simp [(hsilent later hlater).1] at hobserved
        | true => exact hbefore hearlier hlater known observed hknown hobserved
    · intro line hmem tid call hcompleted
      cases hwritten : line.written with
      | false => simp [(hsilent line hwritten).2.2] at hcompleted
      | true => exact h.spans line (List.mem_filter.mpr ⟨hmem, hwritten⟩) tid call hcompleted
  · intro h
    exact ⟨h.sorted.filter _, fun line hmem => h.spans line (List.mem_filter.mp hmem).1⟩

theorem Event.spans_of_incomplete (h : event.incomplete = true) : event.Spans := by
  intro call hdata hcompleted
  unfold Event.incomplete at h
  simp [hdata, hcompleted] at h

variable {log : Output.Log} {B : Timespec → Prop} {events : List Event}

/-- An event that is about the present goes below everything that is known. -/
theorem chronicle_write (h : Chronicle log.lines) (hspans : event.Spans)
    (hpresent : event.incomplete = false → ∀ line ∈ log.lines, ∀ known,
      line.known_at = some known → known.nanoseconds ≤ event.known_at.nanoseconds) :
    Chronicle (log.write config event).lines := by
  obtain hsame | ⟨line, hadded, htells⟩ := write_adds config log event
  · rw [hsame]
    exact h
  · rw [hadded]
    refine ⟨?_, ?_⟩
    · rw [List.pairwise_append]
      refine ⟨h.sorted, List.pairwise_singleton _ _, ?_⟩
      intro earlier hearlier later hlater known observed hknown hobserved
      rw [List.mem_singleton.mp hlater] at hobserved
      have hlast := line.observed_known hobserved
      rw [htells.known_at hspans, Option.some.injEq] at hlast
      rw [← hlast]
      exact hpresent (htells.observed hobserved) earlier hearlier known hknown
    · intro other hother
      obtain hold | hnew := List.mem_append.mp hother
      · exact h.spans other hold
      · rw [List.mem_singleton.mp hnew]
        exact htells.spans hspans

/-- What the lines know after an event, they knew before or know from it. -/
theorem known_write (h : ∀ line ∈ log.lines, ∀ known, line.known_at = some known → B known)
    (hspans : event.Spans) (hevent : B event.known_at) :
    ∀ line ∈ (log.write config event).lines, ∀ known, line.known_at = some known → B known := by
  obtain hsame | ⟨line, hadded, htells⟩ := write_adds config log event
  · rw [hsame]
    exact h
  · rw [hadded]
    intro other hother known hknown
    obtain hold | hnew := List.mem_append.mp hother
    · exact h other hold known hknown
    · rw [List.mem_singleton.mp hnew, htells.known_at hspans] at hknown
      rw [← Option.some.inj hknown]
      exact hevent

/-- Unfinished calls keep the lines in order, wherever they are written. -/
theorem chronicle_flush (events : List Event) : ∀ {log : Output.Log}, Chronicle log.lines →
    (∀ event ∈ events, event.incomplete = true) →
    Chronicle (events.foldl (Output.Log.write config) log).lines := by
  induction events with
  | nil => exact fun h _ => h
  | cons event events ih =>
    intro log h hincomplete
    have hfirst := hincomplete event List.mem_cons_self
    apply ih
    · apply chronicle_write h (Event.spans_of_incomplete hfirst)
      intro hcomplete
      rw [hfirst] at hcomplete
      simp at hcomplete
    · exact fun other hother => hincomplete other (List.mem_cons_of_mem _ hother)

theorem known_flush (events : List Event) : ∀ {log : Output.Log},
    (∀ line ∈ log.lines, ∀ known, line.known_at = some known → B known) →
    (∀ event ∈ events, event.incomplete = true ∧ B event.known_at) →
    ∀ line ∈ (events.foldl (Output.Log.write config) log).lines, ∀ known,
      line.known_at = some known → B known := by
  induction events with
  | nil => exact fun h _ => h
  | cons event events ih =>
    intro log h hevents
    obtain ⟨hincomplete, hknown⟩ := hevents event List.mem_cons_self
    apply ih (known_write h (Event.spans_of_incomplete hincomplete) hknown)
    exact fun other hother => hevents other (List.mem_cons_of_mem _ hother)

end lines

/-! ### What a context knows -/

/-- The record has the call, pending or interrupted. -/
def Tracee.Has (tracee : Tracee) (call : SyscallEvent) : Prop :=
  tracee.calls.pending = some call ∨ tracee.calls.interrupted = some call

/-- Every entry time that the record keeps meets `B`; a call that is not selected has none. -/
def Tracee.Knows (config : Config) (B : Timespec → Prop) (tracee : Tracee) : Prop :=
  ∀ call, tracee.Has call → selected config call.number = true → B call.entered_at

/-- Every time that is kept in the table, or known to a line, meets `B`. -/
structure Context.Knows (config : Config) (B : Timespec → Prop) (c : Context) : Prop where
  lines : ∀ line ∈ c.output.lines, ∀ known, line.known_at = some known → B known
  calls : ∀ tid tracee, c.tracees.lookup tid = some tracee → tracee.Knows config B

/-- **The invariant**: the lines are in order, and everything that is known is past. -/
structure Context.Timely (config : Config) (env : Env) (c : Context) : Prop where
  chronicle : Chronicle c.output.lines
  knows : c.Knows config (Past env c.asked)

/-- The time is not later than `now`. -/
def Until (now time : Timespec) : Prop := time.nanoseconds ≤ now.nanoseconds

section knows
variable {config : Config} {env : Env} {B B' : Timespec → Prop} {c c' : Context}
  {tracee old : Tracee} {call : SyscallEvent} {tid : Pid} {events : List Event}

theorem Tracee.Knows.mono (h : tracee.Knows config B) (hB : ∀ time, B time → B' time) :
    tracee.Knows config B' := fun call hhas hselected => hB _ (h call hhas hselected)

theorem Context.Knows.mono (h : c.Knows config B) (hB : ∀ time, B time → B' time) :
    c.Knows config B' :=
  ⟨fun line hline known hknown => hB known (h.lines line hline known hknown),
    fun tid tracee hold => (h.calls tid tracee hold).mono hB⟩

/-- The call that the flush looks at is one of the two. -/
theorem Tracee.has_current_call (h : tracee.current_call = some call) : tracee.Has call := by
  unfold Tracee.current_call at h
  split at h
  · rename_i hpending
    left
    unfold Tracee.calls
    rw [if_pos hpending]
    exact h
  · split at h
    · rename_i hinterrupted
      right
      unfold Tracee.calls
      rw [if_pos hinterrupted]
      exact h
    · simp at h

/-- The flush writes calls that are still going on, and that were known. -/
theorem FlushEvent.knows {event : Event} {except_tid : Pid} (h : c.Knows config B)
    (hevent : FlushEvent config c.tracees except_tid event) :
    event.incomplete = true ∧ B event.known_at := by
  obtain ⟨tracee, call, hold, -, hcall, hselected, rfl⟩ := hevent
  exact ⟨rfl, h.calls _ tracee hold call (Tracee.has_current_call hcall) hselected⟩

theorem Context.Knows.store {t : Tracee} (h : c.Knows config B) (ht : t.Knows config B) :
    ({ c with tracees := c.tracees.write t } : Context).Knows config B := by
  refine ⟨h.lines, fun other tracee hold => ?_⟩
  rw [Tracees.lookup_write] at hold
  split at hold
  · rw [← Option.some.inj hold]
    exact ht
  · exact h.calls other tracee hold

theorem Context.Timely.store {t : Tracee} (h : c.Timely config env)
    (ht : t.Knows config (Past env c.asked)) :
    ({ c with tracees := c.tracees.write t } : Context).Timely config env :=
  ⟨h.chronicle, h.knows.store ht⟩

/-- A record with the same calls knows the same. -/
theorem Tracee.Knows.congr {t : Tracee} (h : tracee.Knows config B) (hsame : t.calls = tracee.calls) :
    t.Knows config B := by
  intro call hhas
  unfold Tracee.Has at hhas
  rw [hsame] at hhas
  exact h call hhas

theorem Context.Timely.rearranged (h : c.Timely config env) (hre : Rearranged c c') :
    c'.Timely config env := by
  have hwritten : c'.output.lines.filter Line.written = c.output.lines.filter Line.written :=
    hre.written
  refine ⟨?_, ?_, ?_⟩
  · rw [← chronicle_written, hwritten, chronicle_written]
    exact h.chronicle
  · intro line hline known hknown
    have hmem : line ∈ c'.output.lines.filter Line.written := by
      refine List.mem_filter.mpr ⟨hline, ?_⟩
      cases line with
      | renamed former current => simp [Line.known_at, Line.observed_at] at hknown
      | _ => rfl
    rw [hwritten] at hmem
    exact (h.knows.lines line (List.mem_filter.mp hmem).1 known hknown).later hre.asked
  · intro tid tracee hold
    obtain hidle | ⟨former, old, hformer, hsame⟩ := hre.calls tid tracee hold
    · intro call hhas
      unfold Tracee.Has at hhas
      rw [hidle] at hhas
      simp [Calls.idle] at hhas
    · exact ((h.knows.calls former old hformer).mono fun _ ht => ht.later hre.asked).congr hsame

theorem chronicle_silent (h : Chronicle c.output.lines) (hs : Silent c c') :
    Chronicle c'.output.lines := by
  have hwritten : c'.output.lines.filter Line.written = c.output.lines.filter Line.written :=
    hs.written
  rw [← chronicle_written, hwritten, chronicle_written]
  exact h

/-! ### The writers -/

/-- The clock shows a time that everything known lies before, and that is past from then on. -/
theorem clock_gettime_until (hsteady : env.Steady) (h : c.Timely config env) :
    Holds (clock_gettime env) c
      (fun now c' => c'.Timely config env ∧ c'.Knows config (Until now) ∧ Past env c'.asked now ∧
        c.asked ≤ c'.asked ∧ ∀ time, Past env c.asked time → Until now time)
      (fun _ c' => Chronicle c'.output.lines) := by
  unfold clock_gettime
  rw [holds_bind, holds_context_ask]
  cases hclock : env.clock c.asked with
  | none => exact h.chronicle
  | some now =>
    have huntil : c.Knows config (Until now) :=
      h.knows.mono fun time hpast => hpast c.asked now le_rfl hclock
    have hlater : c.Knows config (Past env (c.asked + 1)) :=
      h.knows.mono fun time hpast => hpast.later (Nat.le_succ _)
    refine ⟨⟨h.chronicle, hlater.lines, hlater.calls⟩, ⟨huntil.lines, huntil.calls⟩, ?_,
      Nat.le_succ _, fun time hpast => hpast c.asked now le_rfl hclock⟩
    intro n later hn hshown
    exact hsteady c.asked n now later (Nat.le_of_succ_le hn) hclock hshown

theorem emit_event_asked (event : Event) :
    Preserves (emit_event config env event) Context.asked := by
  unfold emit_event
  apply preserves_bind
  · exact preserves_modify fun _ => rfl
  · exact fun _ => preserves_zoom fun _ _ => rfl

theorem flush_unfinished_syscalls_asked (except_tid : Pid) :
    Preserves (flush_unfinished_syscalls config env except_tid) Context.asked := by
  unfold flush_unfinished_syscalls
  apply preserves_ite (preserves_pure _)
  apply preserves_bind preserves_get
  intro context
  apply preserves_forM
  intro tracee
  unfold flush_tracee
  apply preserves_ite (preserves_pure _)
  split
  · exact preserves_pure _
  · exact preserves_ite (preserves_pure _) (emit_event_asked _)

/-- **The flush** keeps the order, and makes nothing known that was not. -/
theorem flush_unfinished_syscalls_timely (h : Chronicle c.output.lines) (except_tid : Pid) :
    Holds (flush_unfinished_syscalls config env except_tid) c
      (fun _ c' => Chronicle c'.output.lines ∧ (∀ B, c.Knows config B → c'.Knows config B) ∧
        c'.tracees = c.tracees ∧ c'.asked = c.asked)
      (fun _ c' => Chronicle c'.output.lines) := by
  -- The lines that are flushed are those of calls that go on.
  have hincomplete : ∀ {events : List Event},
      (∀ event ∈ events, FlushEvent config c.tracees except_tid event) →
      ∀ event ∈ events, event.incomplete = true := by
    intro events hevents event hmem
    obtain ⟨tracee, call, -, -, -, -, rfl⟩ := hevents event hmem
    rfl
  apply ((flush_unfinished_syscalls_spec except_tid).and
    (flush_unfinished_syscalls_asked except_tid c)).mono
  · intro _ c' hpost
    rcases hpost with ⟨⟨events, hevents, hw⟩, hasked⟩
    have hlines : c'.output.lines = (events.foldl (Output.Log.write config) c.output.log).lines :=
      congrArg Output.Log.lines hw.log
    refine ⟨?_, fun B hknows => ⟨?_, ?_⟩, hw.tracees, hasked⟩
    · rw [hlines]
      exact chronicle_flush events h (hincomplete hevents)
    · rw [hlines]
      exact known_flush events hknows.lines fun event hmem => (hevents event hmem).knows hknows
    · rw [hw.tracees]
      exact hknows.calls
  · intro _ c' hpost
    -- A failure leaves the lines that have been flushed before it.
    rcases hpost with ⟨⟨events, hevents, hb⟩, _⟩
    rw [hb.lines]
    exact chronicle_flush events h (hincomplete hevents)

/-- **An event about the present** goes below everything that is known. -/
theorem emit_event_timely (h : c.Timely config env) {event : Event} (hspans : event.Spans)
    (huntil : c.Knows config (Until event.known_at)) (hpast : Past env c.asked event.known_at) :
    Keeps (Context.Timely config env) (fun c' => Chronicle c'.output.lines)
      (emit_event config env event) c := by
  apply ((emit_event_spec event).and (emit_event_asked event c)).mono
  · intro _ c' hpost
    rcases hpost with ⟨hw, hasked⟩
    have hlines : c'.output.lines = (c.output.log.write config event).lines :=
      congrArg Output.Log.lines hw.log
    refine ⟨?_, ?_, ?_⟩
    · rw [hlines]
      exact chronicle_write h.chronicle hspans fun _ => huntil.lines
    · rw [hlines, hasked]
      exact known_write h.knows.lines hspans hpast
    · rw [hw.tracees, hasked]
      exact h.knows.calls
  · intro _ c' hpost
    have hlines : c'.output.lines = c.output.lines := hpost.1.lines
    show Chronicle c'.output.lines
    rw [hlines]
    exact h.chronicle

theorem Context.Timely.same (h : c.Timely config env) (htracees : c'.tracees = c.tracees)
    (houtput : c'.output = c.output) (hasked : c.asked ≤ c'.asked) : c'.Timely config env := by
  refine ⟨?_, ?_, ?_⟩
  · rw [houtput]
    exact h.chronicle
  · rw [houtput]
    exact (h.knows.mono fun _ ht => ht.later hasked).lines
  · rw [htracees]
    exact (h.knows.mono fun _ ht => ht.later hasked).calls

/-- The events that a task is stamped with. -/
theorem write_stamped_timely (hsteady : env.Steady) (h : c.Timely config env) {data : EventData}
    (hdata : ∀ call, data ≠ .syscall call) :
    Keeps (Context.Timely config env) (fun c' => Chronicle c'.output.lines)
      (write_stamped config env tracee data) c := by
  unfold write_stamped
  apply keeps_bind_of (flush_unfinished_syscalls_timely h.chronicle (-1))
  intro _ c₁ hpost
  rcases hpost with ⟨hchronicle, hknows, htracees, hasked⟩
  have h₁ : c₁.Timely config env := by
    refine ⟨hchronicle, ?_⟩
    rw [hasked]
    exact hknows _ h.knows
  apply keeps_bind_of (clock_gettime_until hsteady h₁)
  intro now c₂ hpost
  rcases hpost with ⟨h₂, huntil, hpast, -⟩
  have hknown : Event.known_at ⟨tracee.tid, tracee.tgid, now, data⟩ = now := by
    unfold Event.known_at
    cases data with
    | syscall call => exact absurd rfl (hdata call)
    | _ => rfl
  apply emit_event_timely h₂
  · intro call hcall
    exact absurd hcall (hdata call)
  · rw [hknown]
    exact huntil
  · rw [hknown]
    exact hpast

/-- The call has ended at a time that everything known lies before. -/
structure Ends (config : Config) (env : Env) (c : Context) (event : SyscallEvent) : Prop where
  entered : event.entered_at.nanoseconds ≤ event.exited_at.nanoseconds
  until_now : c.Knows config (Until event.exited_at)
  past : Past env c.asked event.exited_at

/-- **A call that has ended** goes below everything that is known. -/
theorem write_syscall_timely (h : c.Timely config env) {event : SyscallEvent}
    (hcompleted : event.completed = true)
    (hends : selected config event.number = true → Ends config env c event) :
    Keeps (Context.Timely config env) (fun c' => Chronicle c'.output.lines)
      (write_syscall config env tracee event) c := by
  unfold write_syscall Keeps
  rw [holds_bind, holds_modify]
  dsimp only
  rw [holds_ite]
  -- A call that is not selected is only recorded.
  refine ⟨fun _ => h.same rfl rfl le_rfl, fun hselected => ?_⟩
  have hends := hends (by simpa using hselected)
  rw [holds_bind, holds_modify, holds_ite]
  constructor
  · intro _
    -- With `-c` the call goes into the statistics.
    simp only [holds_bind, holds_context_ask, holds_get, holds_set, holds_ite, holds_throw,
      holds_pure]
    exact ⟨fun _ => h.chronicle, fun _ => h.same rfl rfl (Nat.le_succ _)⟩
  · intro _
    -- Otherwise the lines in progress are ended first, and the call is written behind them.
    let counted : Context := { c with
      records := c.records ++ [(tracee.tid, event)], event_count := c.event_count + 1 }
    have h₀ : counted.Timely config env := h.same rfl rfl le_rfl
    have huntil : counted.Knows config (Until event.exited_at) :=
      ⟨hends.until_now.lines, hends.until_now.calls⟩
    apply keeps_bind_of (flush_unfinished_syscalls_timely h₀.chronicle tracee.tid)
    intro _ c₁ hpost
    rcases hpost with ⟨hchronicle, hknows, htracees, hasked⟩
    have hasked : c₁.asked = c.asked := hasked
    have h₁ : c₁.Timely config env := by
      refine ⟨hchronicle, ?_⟩
      rw [hasked]
      exact hknows _ h₀.knows
    have hknown : (syscall_event tracee event).known_at = event.exited_at := by
      rw [Event.known_at_call rfl, if_pos hcompleted]
    apply emit_event_timely h₁
    · intro call hcall _
      cases hcall
      exact ⟨hends.entered, rfl⟩
    · rw [hknown]
      exact hknows _ huntil
    · rw [hknown, hasked]
      exact hends.past

end knows

/-! ### The calls of a task -/

/-- No question has been taken back. -/
def AsksClock (c c' : Context) : Prop := c.asked ≤ c'.asked

instance : IsPreorder Context AsksClock where
  refl c := Nat.le_refl c.asked
  trans _ _ _ h h' := Nat.le_trans h h'

section calls
variable {config : Config} {env : Env} {c c' : Context} {tracee : Tracee} {event : SyscallEvent}

theorem Tracee.has_pending (hpending : tracee.has_pending_syscall = true) :
    tracee.Has tracee.pending_syscall := by
  left
  unfold Tracee.calls
  rw [if_pos hpending]

theorem Tracee.has_interrupted (hinterrupted : tracee.has_interrupted_syscall = true) :
    tracee.Has tracee.interrupted_syscall := by
  right
  unfold Tracee.calls
  rw [if_pos hinterrupted]

/-- What a record has, written out. -/
theorem Tracee.has_iff {call : SyscallEvent} : tracee.Has call ↔
    (tracee.has_pending_syscall = true ∧ tracee.pending_syscall = call) ∨
      (tracee.has_interrupted_syscall = true ∧ tracee.interrupted_syscall = call) := by
  unfold Tracee.Has Tracee.calls
  dsimp only
  constructor
  · intro h
    obtain h | h := h
    · split at h
      · exact Or.inl ⟨‹_›, Option.some.inj h⟩
      · simp at h
    · split at h
      · exact Or.inr ⟨‹_›, Option.some.inj h⟩
      · simp at h
  · intro h
    obtain ⟨hflag, rfl⟩ | ⟨hflag, rfl⟩ := h
    · left
      rw [if_pos hflag]
    · right
      rw [if_pos hflag]

theorem write_syscall_asks (tracee : Tracee) (event : SyscallEvent) :
    Travels (write_syscall config env tracee event) AsksClock := by
  have hsame : ∀ {α : Type} {m : TraceM α}, Preserves m Context.asked → Travels m AsksClock :=
    fun hm c => (hm c).mono (fun _ _ h => h.ge) (fun _ _ h => h.ge)
  have hmodify : ∀ {f : Context → Context}, (∀ c, (f c).asked = c.asked) →
      Travels (modify f : TraceM PUnit) AsksClock := fun hf => travels_modify fun c => (hf c).ge
  unfold write_syscall
  apply travels_bind
  · exact hmodify fun _ => rfl
  intro _
  apply travels_ite (travels_pure _)
  apply travels_bind
  · exact hmodify fun _ => rfl
  intro _
  apply travels_ite
  · intro c
    simp only [holds_bind, holds_context_ask, holds_get, holds_set, holds_ite, holds_throw,
      holds_pure]
    exact ⟨fun _ => Nat.le_succ _, fun _ => Nat.le_succ _⟩
  · apply travels_bind (hsame (flush_unfinished_syscalls_asked _))
    exact fun _ => hsame (emit_event_asked _)

/-- **A call that ends without an exit stop** is stamped and written. -/
theorem end_call_timely (hsteady : env.Steady) (h : c.Timely config env)
    (hold : c.tracees.lookup tracee.tid = some tracee) {keep leave : Tracee → SyscallEvent → Tracee}
    (hcompleted : event.completed = true)
    (hentered : selected config event.number = true → Past env c.asked event.entered_at)
    (hkeep : ∀ event call, (keep tracee event).Has call → call = event ∨ tracee.Has call)
    (hleave : ∀ event call, (leave tracee event).Has call → tracee.Has call) :
    Keeps (Context.Timely config env) (fun c' => Chronicle c'.output.lines)
      (end_call config env tracee event keep leave) c := by
  have hown := h.knows.calls _ _ hold
  -- The record keeps what it knows, as the call that is stored is the one that ends.
  have hkept : ∀ {B : Timespec → Prop} (done : SyscallEvent), tracee.Knows config B →
      done.number = event.number → done.entered_at = event.entered_at →
      (selected config event.number = true → B event.entered_at) →
      (keep tracee done).Knows config B := by
    intro B done htracee hnumber hentered_at hB call hhas hselected
    obtain rfl | hhas := hkeep done call hhas
    · rw [hentered_at]
      exact hB (hnumber ▸ hselected)
    · exact htracee call hhas hselected
  unfold end_call Keeps
  rw [holds_bind, holds_store]
  have h₀ := h.store (hkept event hown rfl rfl hentered)
  apply keeps_bind_of (clock_gettime_until hsteady h₀)
  intro exited_at c₁ hpost
  rcases hpost with ⟨h₁, huntil, hpast, hasked, hnow⟩
  have hasked : c.asked ≤ c₁.asked := hasked
  let done : SyscallEvent := { event with exited_at := exited_at }
  have hown₁ : tracee.Knows config (Past env c₁.asked) := hown.mono fun _ ht => ht.later hasked
  have hentered₁ : selected config event.number = true → Past env c₁.asked event.entered_at :=
    fun hselected => (hentered hselected).later hasked
  let stored : Context := { c₁ with tracees := c₁.tracees.write (keep tracee done) }
  have h₂ : stored.Timely config env := h₁.store (hkept done hown₁ rfl rfl hentered₁)
  have huntil₂ : stored.Knows config (Until exited_at) :=
    huntil.store (hkept done (hown.mono hnow) rfl rfl fun hselected =>
      hnow _ (hentered hselected))
  have hwritten : Keeps (Context.Timely config env) (fun c' => Chronicle c'.output.lines)
      (write_syscall config env tracee done) stored :=
    write_syscall_timely h₂ hcompleted fun hselected =>
      ⟨hnow _ (hentered hselected), huntil₂, hpast⟩
  unfold Keeps
  dsimp only
  rw [holds_bind, holds_store, holds_bind]
  -- The write takes back no question, so that what has been past is past.
  apply (Holds.and hwritten (write_syscall_asks tracee done stored)).mono
  · intro _ c₂ hpost
    rcases hpost with ⟨h₃, hasks⟩
    have hasks : c₁.asked ≤ c₂.asked := hasks
    have h₄ : (c₂.release done).Timely config env := h₃.same rfl rfl le_rfl
    simp only [holds_bind, holds_release, holds_store, holds_pure]
    apply h₄.store
    intro call hhas hselected
    exact (hown₁ call (hleave _ call hhas) hselected).later hasks
  · exact fun _ _ hpost => hpost.1

theorem complete_exec_timely (hsteady : env.Steady) (h : c.Timely config env)
    (hold : c.tracees.lookup tracee.tid = some tracee) (hpending : tracee.has_pending_syscall = true) :
    Keeps (Context.Timely config env) (fun c' => Chronicle c'.output.lines)
      (complete_exec config env tracee) c := by
  have hown := h.knows.calls _ _ hold _ (Tracee.has_pending hpending)
  rw [complete_exec_eq]
  apply end_call_timely hsteady h hold rfl
  · exact hown
  · intro event call hhas
    rw [Tracee.has_iff] at hhas
    obtain ⟨_, rfl⟩ | ⟨hflag, rfl⟩ := hhas
    · exact Or.inl rfl
    · exact Or.inr (Tracee.has_interrupted hflag)
  · intro event call hhas
    rw [Tracee.has_iff] at hhas
    obtain ⟨hflag, _⟩ | ⟨hflag, rfl⟩ := hhas
    · simp at hflag
    · exact Tracee.has_interrupted hflag

theorem report_interrupted_timely (hsteady : env.Steady) (h : c.Timely config env)
    (hold : c.tracees.lookup tracee.tid = some tracee) :
    Keeps (Context.Timely config env) (fun c' => Chronicle c'.output.lines)
      (report_interrupted config env tracee) c := by
  rw [report_interrupted_eq]
  apply keeps_ite
  · intro hready
    have hinterrupted : tracee.has_interrupted_syscall = true := by
      simp only [Bool.and_eq_true] at hready
      exact hready.1
    have hown := h.knows.calls _ _ hold _ (Tracee.has_interrupted hinterrupted)
    apply end_call_timely hsteady h hold rfl
    · exact hown
    · intro event call hhas
      rw [Tracee.has_iff] at hhas
      obtain ⟨hflag, rfl⟩ | ⟨_, rfl⟩ := hhas
      · exact Or.inr (Tracee.has_pending hflag)
      · exact Or.inl rfl
    · intro event call hhas
      rw [Tracee.has_iff] at hhas
      obtain ⟨hflag, rfl⟩ | ⟨hflag, _⟩ := hhas
      · exact Tracee.has_pending hflag
      · simp at hflag
  · exact fun _ => keeps_pure _ h

theorem leave_pending_timely (hsteady : env.Steady) (h : c.Timely config env)
    (hold : c.tracees.lookup tracee.tid = some tracee) :
    Keeps (Context.Timely config env) (fun c' => Chronicle c'.output.lines)
      (leave_pending config env tracee) c := by
  unfold leave_pending
  apply keeps_ite
  · intro hpending
    apply keeps_ite
    · exact fun _ => complete_exec_timely hsteady h hold hpending
    · exact fun _ => keeps_throw _ h.chronicle
  · exact fun _ => keeps_pure _ h

/-- The interrupted call is pending again, with its entry time. -/
theorem restart_call_timely (h : c.Timely config env)
    (hold : c.tracees.lookup tracee.tid = some tracee)
    (hinterrupted : tracee.has_interrupted_syscall = true) :
    Keeps (Context.Timely config env) (fun c' => Chronicle c'.output.lines)
      (restart_call config env tracee) c := by
  unfold restart_call
  apply keeps_bind_of (flush_unfinished_syscalls_timely h.chronicle tracee.tid)
  intro _ c₁ hpost
  rcases hpost with ⟨hchronicle, hknows, htracees, hasked⟩
  have h₁ : c₁.Timely config env := by
    refine ⟨hchronicle, ?_⟩
    rw [hasked]
    exact hknows _ h.knows
  apply h₁.store
  intro call hhas
  rw [Tracee.has_iff] at hhas
  obtain ⟨_, rfl⟩ | ⟨hflag, _⟩ := hhas
  · rw [hasked]
    exact h.knows.calls _ _ hold _ (Tracee.has_interrupted hinterrupted)
  · simp at hflag

/-- A captured call keeps its number and its entry time. -/
theorem sg_decoder_capture_entry_stamp (tid : Pid) (event : SyscallEvent) :
    Holds (sg_decoder_capture_entry env tid event) c
      (fun captured c' => captured.number = event.number ∧ captured.entered_at = event.entered_at ∧
        c'.tracees = c.tracees ∧ c'.output = c.output ∧ c.asked ≤ c'.asked)
      (fun _ c' => c'.output = c.output) := by
  unfold sg_decoder_capture_entry
  rw [holds_bind, holds_context_ask]
  cases env.capture c.asked tid event with
  | none => rfl
  | some captured => exact ⟨rfl, rfl, rfl, rfl, Nat.le_succ _⟩

/-- The entry time of a new call is past, if it is selected. -/
theorem make_call_timely (hsteady : env.Steady) (h : c.Timely config env) (number : UInt64)
    (arguments : Vector UInt64 6) :
    Holds (make_call config env tracee number arguments) c
      (fun event c' => c'.Timely config env ∧ c.asked ≤ c'.asked ∧
        (selected config event.number = true → Past env c'.asked event.entered_at))
      (fun _ c' => Chronicle c'.output.lines) := by
  unfold make_call
  dsimp only
  rw [holds_ite]
  constructor
  · intro _
    rw [holds_bind]
    apply (clock_gettime_until hsteady h).mono
    · intro entered_at c₁ hpost
      rcases hpost with ⟨h₁, -, hpast, hasked, -⟩
      rw [holds_ite]
      refine ⟨fun _ => ⟨h₁, hasked, fun _ => hpast⟩, fun _ => ?_⟩
      apply (sg_decoder_capture_entry_stamp tracee.tid _).mono
      · intro event c₂ hpost
        rcases hpost with ⟨_, hentered, htracees, houtput, hasked'⟩
        refine ⟨h₁.same htracees houtput hasked', hasked.trans hasked', fun _ => ?_⟩
        rw [hentered]
        exact hpast.later hasked'
      · intro _ c₂ houtput
        rw [houtput]
        exact h₁.chronicle
    · exact fun _ _ hchronicle => hchronicle
  · intro hhidden
    exact ⟨h, le_rfl, fun hselected => absurd hselected hhidden⟩

theorem enter_call_timely (hsteady : env.Steady) (h : c.Timely config env)
    (hold : c.tracees.lookup tracee.tid = some tracee) (number : UInt64)
    (arguments : Vector UInt64 6) :
    Keeps (Context.Timely config env) (fun c' => Chronicle c'.output.lines)
      (enter_call config env tracee number arguments) c := by
  have hown := h.knows.calls _ _ hold
  -- The record gets the new call beside the interrupted one that it has.
  have hentered : ∀ {event : SyscallEvent} {c' : Context}, c'.Timely config env →
      c.asked ≤ c'.asked →
      (selected config event.number = true → Past env c'.asked event.entered_at) →
      ({ c' with tracees := c'.tracees.write (tracee.entered event) } : Context).Timely config env := by
    intro event c' h' hasked hpast
    apply h'.store
    intro call hhas hselected
    rw [Tracee.has_iff] at hhas
    obtain ⟨_, rfl⟩ | ⟨hflag, rfl⟩ := hhas
    · exact hpast hselected
    · exact (hown _ (Tracee.has_interrupted hflag) hselected).later hasked
  unfold enter_call
  apply keeps_bind_of (make_call_timely hsteady h number arguments)
  intro event c₁ hpost
  rcases hpost with ⟨h₁, hasked, hpast⟩
  unfold Keeps
  rw [holds_ite]
  constructor
  · intro _
    -- Other lines in progress are ended before the call is shown.
    rw [holds_bind, holds_onError]
    apply (flush_unfinished_syscalls_timely h₁.chronicle tracee.tid).mono
    · intro _ c₂ hpost
      rcases hpost with ⟨hchronicle, hknows, _, hsame⟩
      have h₂ : c₂.Timely config env := by
        refine ⟨hchronicle, ?_⟩
        rw [hsame]
        exact hknows _ h₁.knows
      rw [holds_store]
      apply hentered h₂
      · rw [hsame]
        exact hasked
      · rw [hsame]
        exact hpast
    · exact fun _ _ hchronicle => hchronicle
  · intro _
    exact hentered h₁ hasked hpast

/-- **Entries** keep the invariant. -/
theorem begin_syscall_timely (hsteady : env.Steady) (h : c.Timely config env)
    (hold : c.tracees.lookup tracee.tid = some tracee) (number : UInt64)
    (arguments : Vector UInt64 6) :
    Keeps (Context.Timely config env) (fun c' => Chronicle c'.output.lines)
      (begin_syscall config env tracee number arguments) c := by
  unfold begin_syscall
  apply keeps_ite
  -- The number is not one of a call.
  · exact fun _ => keeps_throw _ h.chronicle
  · intro _
    unfold Keeps
    rw [holds_bind]
    apply ((leave_pending_spec hold).and (leave_pending_timely hsteady h hold)).mono
    · intro mid c₁ hpost
      rcases hpost with ⟨hmid, h₁⟩
      have hold₁ : c₁.tracees.lookup mid.tid = some mid := by
        obtain ⟨-, rfl, rfl⟩ | ⟨-, -, exited_at, events, -, -, hu⟩ := hmid
        · exact hold
        · exact hu.lookup_self
      rw [holds_ite]
      constructor
      · intro hrestarts
        -- A restarted call: the interrupted one is pending again.
        apply restart_call_timely h₁ hold₁
        unfold Tracee.restarts at hrestarts
        simp only [Bool.and_eq_true] at hrestarts
        exact hrestarts.1.1
      · intro _
        -- A new call: an interrupted one that was ready to restart is reported first.
        rw [holds_bind]
        apply ((report_interrupted_spec hold₁).and (report_interrupted_timely hsteady h₁ hold₁)).mono
        · intro new c₂ hpost
          rcases hpost with ⟨hnew, h₂⟩
          have hold₂ : c₂.tracees.lookup new.tid = some new := by
            obtain ⟨-, rfl, rfl⟩ | ⟨-, exited_at, events, -, -, hu⟩ := hnew
            · exact hold₁
            · exact hu.lookup_self
          exact enter_call_timely hsteady h₂ hold₂ number arguments
        · exact fun _ _ hpost => hpost.2
    · exact fun _ _ hpost => hpost.2

/-- The settled record has no call that it did not have. -/
theorem Tracee.settled_has {call : SyscallEvent} (h : tracee.settled.Has call) : tracee.Has call := by
  unfold Tracee.settled at h
  split at h
  · split at h
    · exact h
    · split at h
      · rw [Tracee.has_iff] at h
        obtain ⟨hflag, rfl⟩ | ⟨hflag, _⟩ := h
        · exact Tracee.has_pending hflag
        · simp at hflag
      · exact h
  · exact h

/-- From `c` to `c'` at most texts have been released. -/
structure OnlyReleases (c c' : Context) : Prop where
  tracees : c'.tracees = c.tracees
  output : c'.output = c.output
  asked : c'.asked = c.asked

theorem settle_interrupted_same (tracee : Tracee) {E : String → Context → Prop} :
    Holds (settle_interrupted tracee) c
      (fun settled c' => settled = tracee.settled ∧ OnlyReleases c c') E := by
  unfold settle_interrupted Tracee.settled
  split
  · split
    · exact ⟨rfl, rfl, rfl, rfl⟩
    · split
      · exact ⟨rfl, rfl, rfl, rfl⟩
      · exact ⟨rfl, rfl, rfl, rfl⟩
  · exact ⟨rfl, rfl, rfl, rfl⟩

theorem complete_call_timely (hsteady : env.Steady) (h : c.Timely config env)
    (hold : c.tracees.lookup tracee.tid = some tracee) (hpending : tracee.has_pending_syscall = true)
    (rval : Int) (is_error : Bool) :
    Keeps (Context.Timely config env) (fun c' => Chronicle c'.output.lines)
      (complete_call config env tracee rval is_error) c := by
  have hown := h.knows.calls _ _ hold
  have hentered := hown _ (Tracee.has_pending hpending)
  -- The pending call keeps its number and its entry time from one record to the next.
  have hkept : ∀ {B : Timespec → Prop} (done : SyscallEvent), tracee.Knows config B →
      done.number = tracee.pending_syscall.number →
      done.entered_at = tracee.pending_syscall.entered_at →
      ({ tracee with pending_syscall := done } : Tracee).Knows config B := by
    intro B done hB hnumber hentered_at call hhas hselected
    rw [Tracee.has_iff] at hhas
    obtain ⟨_, rfl⟩ | ⟨hflag, rfl⟩ := hhas
    · show B done.entered_at
      rw [hentered_at]
      exact hB _ (Tracee.has_pending hpending) (hnumber ▸ hselected)
    · exact hB _ (Tracee.has_interrupted hflag) hselected
  let event : SyscallEvent := { tracee.pending_syscall with
    result := rval, error_number := exit_error rval is_error }
  let stored : Context := { c with tracees := c.tracees.write { tracee with pending_syscall := event } }
  have h₀ : stored.Timely config env := h.store (hkept event hown rfl rfl)
  have hstamp : Holds (stamp_exit config env event) stored
      (fun stamped c' => c'.Timely config env ∧ c.asked ≤ c'.asked ∧
        stamped.number = event.number ∧ stamped.entered_at = event.entered_at ∧
        (selected config event.number = true →
          c'.Knows config (Until stamped.exited_at) ∧ Past env c'.asked stamped.exited_at ∧
          ∀ time, Past env c.asked time → Until stamped.exited_at time))
      (fun _ c' => Chronicle c'.output.lines) := by
    -- A call that is not selected gets no exit time, and the clock is not asked.
    unfold stamp_exit
    rw [holds_ite]
    constructor
    · intro _
      rw [holds_bind]
      apply (clock_gettime_until hsteady h₀).mono
      · intro exited_at c₁ hpost
        rcases hpost with ⟨h₁, huntil, hpast, hasked, hnow⟩
        exact ⟨h₁, hasked, rfl, rfl, fun _ => ⟨huntil, hpast, hnow⟩⟩
      · exact fun _ _ hchronicle => hchronicle
    · intro hhidden
      exact ⟨h₀, le_rfl, rfl, rfl, fun hselected => absurd hselected hhidden⟩
  unfold complete_call Keeps
  rw [holds_bind, holds_store]
  apply keeps_bind_of hstamp
  intro stamped c₁ hpost
  rcases hpost with ⟨h₁, hasked, hnumber, hentered_at, hends⟩
  let done : SyscallEvent := { stamped with completed := true }
  let record : Tracee := { tracee with pending_syscall := done }
  let stored₁ : Context := { c₁ with tracees := c₁.tracees.write record }
  have hown₁ : tracee.Knows config (Past env c₁.asked) := hown.mono fun _ ht => ht.later hasked
  have h₂ : stored₁.Timely config env := h₁.store (hkept done hown₁ hnumber hentered_at)
  have hwritten : Keeps (Context.Timely config env) (fun c' => Chronicle c'.output.lines)
      (write_syscall config env record done) stored₁ := by
    apply write_syscall_timely h₂ rfl
    intro hselected
    have hselected : selected config event.number = true := hnumber ▸ hselected
    obtain ⟨huntil, hpast, hnow⟩ := hends hselected
    refine ⟨?_, huntil.store (hkept done (hown.mono hnow) hnumber hentered_at), hpast⟩
    show Until stamped.exited_at stamped.entered_at
    rw [hentered_at]
    exact hnow _ (hentered hselected)
  unfold Keeps
  dsimp only
  rw [holds_bind, holds_store, holds_bind]
  apply (Holds.and hwritten (write_syscall_asks record done stored₁)).mono
  · intro _ c₂ hpost
    rcases hpost with ⟨h₃, hasks⟩
    have hasks : c₁.asked ≤ c₂.asked := hasks
    have hrecord : record.Knows config (Past env c₂.asked) :=
      hkept done (hown₁.mono fun _ ht => ht.later hasks) hnumber hentered_at
    rw [holds_bind]
    apply (settle_interrupted_same record (E := fun _ _ => False)).mono
    · intro settled c₃ hpost
      obtain ⟨rfl, hsame⟩ := hpost
      have h₄ : (c₃.release done).Timely config env :=
        h₃.same hsame.tracees hsame.output hsame.asked.ge
      simp only [holds_bind, holds_release, holds_store]
      apply h₄.store
      intro call hhas hselected
      show Past env c₃.asked call.entered_at
      rw [hsame.asked]
      -- The call that has ended is no longer pending; the interrupted one may have settled.
      rw [Tracee.has_iff] at hhas
      obtain ⟨hflag, _⟩ | ⟨hflag, rfl⟩ := hhas
      · simp at hflag
      · exact hrecord _ (Tracee.settled_has (Tracee.has_interrupted hflag)) hselected
    · exact fun _ _ h => h.elim
  · exact fun _ _ hpost => hpost.1

/-- **Exits** keep the invariant. -/
theorem finish_syscall_timely (hsteady : env.Steady) (h : c.Timely config env)
    (hold : c.tracees.lookup tracee.tid = some tracee) (rval : Int) (is_error : Bool) :
    Keeps (Context.Timely config env) (fun c' => Chronicle c'.output.lines)
      (finish_syscall config env tracee rval is_error) c := by
  have hown := h.knows.calls _ _ hold
  unfold finish_syscall
  apply keeps_ite
  · intro _
    -- An exit without an entry only stops the task.
    exact h.store (hown.congr rfl)
  · intro hpending
    have hpending : tracee.has_pending_syscall = true := by simpa using hpending
    apply keeps_ite
    · intro _
      -- The kernel is going to restart the call.
      have hinterrupted : tracee.interrupted.Knows config (Past env c.asked) := by
        intro call hhas hselected
        rw [Tracee.has_iff] at hhas
        obtain ⟨hflag, _⟩ | ⟨_, rfl⟩ := hhas
        · simp [Tracee.interrupted] at hflag
        · exact hown _ (Tracee.has_pending hpending) hselected
      unfold interrupt_call Keeps
      split
      · simp only [holds_bind, holds_release, holds_store]
        have h₁ : (c.release tracee.interrupted_syscall).Timely config env := h.same rfl rfl le_rfl
        exact h₁.store hinterrupted
      · exact h.store hinterrupted
    · exact fun _ => complete_call_timely hsteady h hold hpending rval is_error

end calls

/-! ### Runs -/

section runs
variable {config : Config} {env : Env}

/-- With a steady clock, the order is an invariant of calls and lines. -/
theorem timely_invariant (hsteady : env.Steady) :
    CallInvariant config env (Context.Timely config env) (fun c => Chronicle c.output.lines) where
  failed h := h.chronicle
  rearranged h hre := h.rearranged hre
  silent h hs := chronicle_silent h hs
  stamped _ _ h hdata := write_stamped_timely hsteady h hdata
  entry number arguments h hold := begin_syscall_timely hsteady h hold number arguments
  exit rval is_error h hold := finish_syscall_timely hsteady h hold rval is_error
  exec h hold hpending := complete_exec_timely hsteady h hold hpending

theorem timely_init : (Context.init).Timely config env := by
  refine ⟨⟨List.Pairwise.nil, by simp [Context.init, sg_output_init]⟩, ?_, ?_⟩
  · simp [Context.init, sg_output_init]
  · intro tid tracee hold
    rw [show Context.init.tracees.lookup tid = none from Tracees.count_eq_zero.mp rfl tid] at hold
    simp at hold

/-- **The lines of a run are in order**, in launch and in attach mode, in every format, whatever
    is reported and whatever fails, when the clock does not go back. -/
theorem run_in_order (config : Config) {env : Env} (hsteady : env.Steady) :
    (∀ (answers : LaunchAnswers) (reports : List Report) (shutdown_signal : Int),
      Chronicle ((sg_trace_run config env answers reports shutdown_signal).finalState
        .init).output.lines) ∧
    (∀ (attach_pid : Pid) (answers : AttachAnswers) (handlers : Bool) (reports : List Report)
        (shutdown_signal : Int) (detached : Pid → DetachAnswer),
      Chronicle ((sg_trace_run_attached config env attach_pid answers handlers reports
        shutdown_signal detached).finalState .init).output.lines) :=
  ⟨fun answers reports shutdown_signal =>
      (timely_invariant hsteady).sg_trace_run timely_init answers reports shutdown_signal,
    fun _ answers handlers reports shutdown_signal detached =>
      (timely_invariant hsteady).sg_trace_run_attached timely_init answers handlers reports
        shutdown_signal detached⟩

/-- The clock that shows the number of the question. -/
theorem Env.reliable_steady : Env.reliable.Steady := by
  intro m n earlier later hle hearlier hlater
  cases hearlier
  cases hlater
  show (m : Int) * 1000000000 + 0 ≤ (n : Int) * 1000000000 + 0
  omega

/-- The command forks in a call, a call of its child is open when it ends, and the child gets a
    signal before its call ends too. -/
def crossing_reports : List Report :=
  [entry_report 100 0,
    ⟨.status 100 (.stopped SIGTRAP PTRACE_EVENT_FORK) (.plain (some 101)), 0⟩,
    entry_report 101 1, exit_report 100 12 false, signal_report 101 SIGUSR1,
    exit_report 101 (-32) true]

theorem run_in_order_crossing :
    let c := finalState (sg_trace_run .following .reliable .plain crossing_reports 0) .init
    Chronicle c.output.lines ∧
      c.output.lines.map (fun line => line.known_at.map Timespec.tv_sec) =
        [some 1, some 4, some 5, some 7, some 8, some 9] :=
  ⟨(run_in_order .following Env.reliable_steady).1 .plain crossing_reports 0, by decide +kernel⟩

end runs

end Sysgaze
