import Mathlib.Tactic.FinCases
import Sysgaze.Registry

/-! # Unfinished and resumed lines

    In text mode a call that is overtaken by another event is shown twice: its
    arguments in an `unfinished` line, and its result in a `resumed` line.  The
    output remembers only the TID of an unfinished line.  The log is paired when
    every resumed line completes the call whose arguments were shown last for
    its TID.

    `Shows` is the invariant that links the unfinished TIDs to the lines and to
    the calls in the table.  `paired_of_reaches`: a round keeps it when the
    unfinished TIDs still mean the same calls after it (`SameMeaning`), so a run
    of such rounds writes a paired log, whatever fails at its end.
    `paired_handler`: a call that a signal handler makes is written as the
    resumption of the call that was interrupted.
-/

open Fallible Stepping

namespace Sysgaze

/-! ### The lines of a log -/

/-- The calls whose arguments have been shown and whose result has not, after one more
    line.  The end of a task forgets its call, and a renamed task keeps its own. -/
def Line.track (opened : Pid → Option SyscallEvent) : Line → Pid → Option SyscallEvent
  | .unfinished tid call => Function.update opened tid (some call)
  | .resumed tid _ => Function.update opened tid none
  | .syscall tid _ => Function.update opened tid none
  | .text ⟨tid, _, _, .process_exit _⟩ => Function.update opened tid none
  | .renamed former current =>
    Function.update (Function.update opened former none) current (opened former)
  | _ => opened

/-- The calls whose last line is unfinished. -/
def open_calls (lines : List Line) : Pid → Option SyscallEvent :=
  lines.foldl Line.track fun _ => none

/-- A line fits the lines before it: no call is shown twice, and a resumed line completes
    the call that was shown last for its TID. -/
def Line.Fits (opened : Pid → Option SyscallEvent) : Line → Prop
  | .unfinished tid _ => opened tid = none
  | .resumed tid call => ∃ shown, opened tid = some shown ∧ shown.SameCall call
  | _ => True

/-- **Pairing**: every line fits the lines before it. -/
def Paired (lines : List Line) : Prop :=
  ∀ before line after, lines = before ++ line :: after → line.Fits (open_calls before)

section lines
variable {lines : List Line} {line : Line}

theorem open_calls_append : open_calls (lines ++ [line]) = line.track (open_calls lines) := by
  unfold open_calls
  rw [List.foldl_append]
  rfl

theorem paired_nil : Paired [] := by
  intro before line after h
  simp at h

theorem Paired.append (h : Paired lines) (hline : line.Fits (open_calls lines)) :
    Paired (lines ++ [line]) := by
  intro before other after heq
  rcases List.eq_nil_or_concat after with rfl | ⟨after, last, rfl⟩
  · obtain ⟨rfl, hlast⟩ := List.append_inj' heq rfl
    rw [← (List.cons.inj hlast).1]
    exact hline
  · rw [List.concat_eq_append, ← List.cons_append, ← List.append_assoc] at heq
    obtain ⟨hfront, _⟩ := List.append_inj' heq rfl
    exact h before other after hfront

end lines

/-! ### The unfinished TIDs -/

/-- Every unfinished TID has an open call, which is the call that `shown` gives for it, and
    no other TID has one. -/
structure Output.Log.Shows (log : Output.Log) (shown : Pid → Option SyscallEvent) : Prop where
  nodup : log.unfinished.Nodup
  opened : ∀ tid ∈ log.unfinished, ∃ line call, open_calls log.lines tid = some line ∧
    shown tid = some call ∧ line.SameCall call
  closed : ∀ tid, tid ∉ log.unfinished → open_calls log.lines tid = none
  paired : Paired log.lines

section log
variable {config : Config} {log : Output.Log} {shown shown' : Pid → Option SyscallEvent}
  {tid : Pid} {call : SyscallEvent}

/-- The calls in the table change, but not those that have been shown. -/
theorem Output.Log.Shows.congr (h : log.Shows shown)
    (hsame : ∀ tid ∈ log.unfinished, ∀ call, shown tid = some call →
      ∃ call', shown' tid = some call' ∧ call.SameCall call') : log.Shows shown' := by
  refine ⟨h.nodup, ?_, h.closed, h.paired⟩
  intro tid htid
  obtain ⟨line, call, hline, hcall, hlinecall⟩ := h.opened tid htid
  obtain ⟨call', hcall', hsamecall⟩ := hsame tid htid call hcall
  exact ⟨line, call', hline, hcall', hlinecall.trans hsamecall⟩

/-- A line that opens and closes no call. -/
theorem Output.Log.Shows.push (h : log.Shows shown) {line : Line}
    (htrack : line.track (open_calls log.lines) = open_calls log.lines)
    (hfits : line.Fits (open_calls log.lines)) : (log.push line).Shows shown := by
  have hopen : open_calls (log.push line).lines = open_calls log.lines := by
    rw [← htrack]
    exact open_calls_append
  refine ⟨h.nodup, ?_, ?_, h.paired.append hfits⟩
  · intro tid htid
    rw [hopen]
    exact h.opened tid htid
  · intro tid htid
    rw [hopen]
    exact h.closed tid htid

/-- A line that closes the call of a TID. -/
theorem Output.Log.Shows.finish (h : log.Shows shown) {line : Line}
    (htrack : line.track (open_calls log.lines) =
      Function.update (open_calls log.lines) tid none)
    (hfits : line.Fits (open_calls log.lines)) :
    ((log.finish tid).push line).Shows shown ∧
      ∀ other, other ∈ ((log.finish tid).push line).unfinished ↔
        other ∈ log.unfinished ∧ other ≠ tid := by
  have hlines : ((log.finish tid).push line).lines = log.lines ++ [line] := by
    unfold Output.Log.finish Output.Log.push
    split <;> rfl
  have hmem : ∀ other, other ∈ ((log.finish tid).push line).unfinished ↔
      other ∈ log.unfinished ∧ other ≠ tid := mem_finish h.nodup tid
  have hopen : open_calls ((log.finish tid).push line).lines =
      Function.update (open_calls log.lines) tid none := by
    rw [hlines, open_calls_append, htrack]
  refine ⟨⟨nodup_finish h.nodup tid, ?_, ?_, ?_⟩, hmem⟩
  · intro other hother
    obtain ⟨hother, hne⟩ := (hmem other).mp hother
    rw [hopen, Function.update_of_ne hne]
    exact h.opened other hother
  · intro other hother
    rw [hopen]
    by_cases hne : other = tid
    · rw [hne, Function.update_self]
    · rw [Function.update_of_ne hne]
      apply h.closed
      intro hin
      exact hother ((hmem other).mpr ⟨hin, hne⟩)
  · rw [hlines]
    exact h.paired.append hfits

/-- An unfinished call is shown, unless it has been shown before. -/
theorem Output.Log.Shows.show_call (h : log.Shows shown) (hcall : call.completed = false)
    {current : SyscallEvent} (hcurrent : shown tid = some current) (hsame : call.SameCall current) :
    (log.write_call tid call).Shows shown ∧
      ∀ other, other ∈ (log.write_call tid call).unfinished ↔
        other ∈ log.unfinished ∨ other = tid := by
  unfold Output.Log.write_call
  rw [if_neg (by simp [hcall])]
  by_cases hmem : tid ∈ log.unfinished
  · rw [if_pos hmem]
    refine ⟨h, fun other => ⟨Or.inl, ?_⟩⟩
    intro hother
    obtain hother | rfl := hother
    · exact hother
    · exact hmem
  · rw [if_neg hmem]
    have hunfinished : ∀ other, other ∈ log.unfinished ++ [tid] ↔
        other ∈ log.unfinished ∨ other = tid := by
      intro other
      simp
    have hopen : open_calls (log.lines ++ [.unfinished tid call]) =
        Function.update (open_calls log.lines) tid (some call) := open_calls_append
    refine ⟨⟨?_, ?_, ?_, h.paired.append (h.closed tid hmem)⟩, hunfinished⟩
    · apply List.nodup_append.mpr
      refine ⟨h.nodup, by simp, ?_⟩
      intro a ha b hb heq
      exact hmem (by simpa [← List.mem_singleton.mp hb, ← heq] using ha)
    · intro other hother
      rw [hopen]
      by_cases hne : other = tid
      · rw [hne, Function.update_self]
        exact ⟨call, current, rfl, hcurrent, hsame⟩
      · rw [Function.update_of_ne hne]
        exact h.opened other (((hunfinished other).mp hother).resolve_right hne)
    · intro other hother
      rw [hopen]
      have hnot := fun hin => hother ((hunfinished other).mpr hin)
      rw [Function.update_of_ne fun hne => hnot (Or.inr hne)]
      exact h.closed other fun hin => hnot (Or.inl hin)

/-- The call of a TID is completed: if it was shown, it is resumed. -/
theorem Output.Log.Shows.complete_call (h : log.Shows shown) (hcall : call.completed = true)
    (hsame : tid ∈ log.unfinished → ∃ current, shown tid = some current ∧ current.SameCall call) :
    (log.write_call tid call).Shows shown ∧
      ∀ other, other ∈ (log.write_call tid call).unfinished ↔
        other ∈ log.unfinished ∧ other ≠ tid := by
  unfold Output.Log.write_call
  rw [if_pos hcall]
  by_cases hmem : tid ∈ log.unfinished
  · rw [if_pos hmem]
    obtain ⟨line, current, hline, hcurrent, hlinesame⟩ := h.opened tid hmem
    obtain ⟨current', hcurrent', hsame⟩ := hsame hmem
    rw [hcurrent] at hcurrent'
    apply h.finish rfl
    refine ⟨line, hline, hlinesame.trans ?_⟩
    rw [Option.some.inj hcurrent']
    exact hsame
  · rw [if_neg hmem]
    exact h.finish rfl trivial

/-- A task takes another TID, whose own call is not left unfinished behind it. -/
theorem Output.Log.Shows.migrate (h : log.Shows shown) {former waited : Pid}
    (hne : former ≠ waited) (hmeaning : waited ∈ log.unfinished → former ∈ log.unfinished)
    (hmoved : former ∈ log.unfinished → shown' waited = shown former)
    (hkept : ∀ tid, tid ≠ waited → tid ≠ former → shown' tid = shown tid) :
    (log.migrate former waited).Shows shown' := by
  have hlines : (log.migrate former waited).lines = log.lines ++ [.renamed former waited] := by
    unfold Output.Log.migrate
    rw [if_neg hne]
  have hmem : (log.migrate former waited).unfinished.Nodup ∧
      ∀ tid, tid ∈ (log.migrate former waited).unfinished ↔
        (tid = waited ∧ former ∈ log.unfinished) ∨
          (tid ≠ waited ∧ tid ≠ former ∧ tid ∈ log.unfinished) := by
    obtain ⟨hnodup, hmem⟩ := mem_migrate h.nodup hne
    refine ⟨hnodup, fun tid => (hmem tid).trans ?_⟩
    by_cases hformer : former ∈ log.unfinished
    · by_cases ht : tid = waited
      · simp [ht, hformer]
      · simp [ht, hformer]
    · by_cases ht : tid = waited
      · have hwaited : waited ∉ log.unfinished := fun hin => hformer (hmeaning hin)
        simp [ht, hformer, hwaited]
      · by_cases hf : tid = former
        · simp [hf, hformer, hne]
        · simp [ht, hf, hformer]
  have hopen : ∀ tid, open_calls (log.migrate former waited).lines tid =
      if tid = waited then open_calls log.lines former
      else if tid = former then none else open_calls log.lines tid := by
    intro tid
    rw [hlines, open_calls_append]
    show Function.update (Function.update (open_calls log.lines) former none) waited
      (open_calls log.lines former) tid = _
    rw [Function.update_apply, Function.update_apply]
  refine ⟨hmem.1, ?_, ?_, ?_⟩
  · intro tid htid
    rw [hopen]
    obtain ⟨ht, hformer⟩ | ⟨ht, hf, hin⟩ := (hmem.2 tid).mp htid
    · rw [if_pos ht, ht, hmoved hformer]
      exact h.opened former hformer
    · rw [if_neg ht, if_neg hf, hkept tid ht hf]
      exact h.opened tid hin
  · intro tid htid
    rw [hopen]
    have hnot := fun hin => htid ((hmem.2 tid).mpr hin)
    split
    · rename_i ht
      exact h.closed former fun hformer => hnot (Or.inl ⟨ht, hformer⟩)
    · split
      · rfl
      · rename_i ht hf
        exact h.closed tid fun hin => hnot (Or.inr ⟨ht, hf, hin⟩)
  · rw [hlines]
    exact h.paired.append trivial

end log

/-! ### The calls of a tracee that have been shown -/

/-- The call of a tracee that an unfinished line of its TID stands for. -/
def Tracee.shown (config : Config) (tracee : Tracee) : Option SyscallEvent :=
  if tracee.has_pending_syscall && selected config tracee.pending_syscall.number then
    some tracee.pending_syscall
  else if tracee.has_interrupted_syscall && selected config tracee.interrupted_syscall.number then
    some tracee.interrupted_syscall
  else none

/-- The calls that unfinished lines stand for. -/
def Context.shown (config : Config) (context : Context) : Pid → Option SyscallEvent :=
  fun tid => (context.tracees.lookup tid).bind (Tracee.shown config)

/-- **The invariant**: the lines, the unfinished TIDs and the calls of the table agree. -/
def Context.Shows (config : Config) (context : Context) : Prop :=
  context.output.log.Shows (context.shown config)

/-- Text events are written. -/
structure TextMode (config : Config) : Prop where
  format : config.format = .SG_FORMAT_TEXT
  events : config.summary = false

section context
variable {config : Config} {env : Env} {c c' : Context} {tracee new : Tracee}
  {events : List Event} {tid : Pid}

theorem TextMode.write (ht : TextMode config) (log : Output.Log) (event : Event) :
    log.write config event = log.write_text event := by
  unfold Output.Log.write
  rw [if_neg (by simp [ht.events]), if_pos ht.format]

theorem Context.shown_eq (hold : c.tracees.lookup tracee.tid = some tracee) :
    c.shown config tracee.tid = tracee.shown config := by
  unfold Context.shown
  rw [hold]
  rfl

theorem Context.Shows.ok (h : c.Shows config) : c.Ok := by
  refine ⟨h.nodup, fun tid htid => ?_⟩
  obtain ⟨_, call, _, hcall, _⟩ := h.opened tid htid
  unfold Context.shown at hcall
  obtain ⟨tracee, hknown, _⟩ := Option.bind_eq_some_iff.mp hcall
  rw [hknown]
  rfl

/-- The call that a flush looks at is the call that is shown. -/
theorem Tracee.shown_of_current {call : SyscallEvent} (hcall : tracee.current_call = some call)
    (hsel : selected config call.number = true) : tracee.shown config = some call := by
  unfold Tracee.current_call at hcall
  unfold Tracee.shown
  cases hpending : tracee.has_pending_syscall with
  | true =>
    rw [hpending] at hcall
    have hcall : tracee.pending_syscall = call := by simpa using hcall
    rw [hcall]
    simp [hsel]
  | false =>
    rw [hpending] at hcall
    cases hinterrupted : tracee.has_interrupted_syscall with
    | true =>
      rw [hinterrupted] at hcall
      have hcall : tracee.interrupted_syscall = call := by simpa using hcall
      rw [hcall]
      simp [hsel]
    | false =>
      rw [hinterrupted] at hcall
      simp at hcall

/-- A flush shows calls of other tasks, and nothing else. -/
theorem shows_flush (ht : TextMode config) {except_tid : Pid} (events : List Event) :
    ∀ {log : Output.Log}, log.Shows (c.shown config) →
      (∀ e ∈ events, FlushEvent config c.tracees except_tid e) →
      (events.foldl (Output.Log.write config) log).Shows (c.shown config) ∧
        (except_tid ∈ (events.foldl (Output.Log.write config) log).unfinished ↔
          except_tid ∈ log.unfinished) := by
  induction events with
  | nil => intro log h _; exact ⟨h, Iff.rfl⟩
  | cons event events ih =>
    intro log h hevents
    obtain ⟨tracee, call, hknown, hne, hcall, hsel, rfl⟩ := hevents event (by simp)
    have hcurrent : c.shown config tracee.tid = some call := by
      rw [Context.shown_eq hknown]
      exact Tracee.shown_of_current hcall hsel
    have hsame : ({ call with completed := false } : SyscallEvent).SameCall call :=
      ⟨rfl, rfl, rfl, rfl, rfl⟩
    have hincomplete : ({ call with completed := false } : SyscallEvent).completed = false := rfl
    have hshow := h.show_call hincomplete hcurrent hsame
    rw [List.foldl_cons, ht.write]
    have hrest := ih hshow.1 fun e he => hevents e (by simp [he])
    refine ⟨hrest.1, hrest.2.trans ((hshow.2 except_tid).trans ?_)⟩
    constructor
    · intro hin
      exact hin.resolve_right fun heq => hne heq.symm
    · exact Or.inl

/-- A record is stored after a flush, and what has been shown of its calls is the same. -/
theorem Updates.shows (ht : TextMode config) (h : c.Shows config)
    (hold : c.tracees.lookup tracee.tid = some tracee) (hu : Updates config c new events c')
    (htid : new.tid = tracee.tid) (hevents : ∀ e ∈ events, FlushEvent config c.tracees tracee.tid e)
    (hsame : tracee.tid ∈ c.output.unfinished_tids → ∀ call, tracee.shown config = some call →
      ∃ call', new.shown config = some call' ∧ call.SameCall call') :
    c'.Shows config ∧
      (tracee.tid ∈ c'.output.unfinished_tids ↔ tracee.tid ∈ c.output.unfinished_tids) := by
  obtain ⟨hflushed, hunfinished⟩ := shows_flush ht events h hevents
  rw [← hu.log] at hflushed hunfinished
  refine ⟨hflushed.congr ?_, hunfinished⟩
  intro other hother call hcall
  unfold Context.shown
  rw [hu.lookup, htid]
  by_cases ho : other = tracee.tid
  · subst ho
    rw [if_pos rfl]
    rw [Context.shown_eq hold] at hcall
    exact hsame (hunfinished.mp hother) call hcall
  · rw [if_neg ho]
    exact ⟨call, hcall, .refl call⟩

/-- A record is stored after its selected call has been completed. -/
theorem Updates.shows_call (ht : TextMode config) (h : c.Shows config)
    (hold : c.tracees.lookup tracee.tid = some tracee) (hu : Updates config c new events c')
    (htid : new.tid = tracee.tid) {event : SyscallEvent}
    (hevents : CallEvents config c.tracees tracee event events) (hcompleted : event.completed = true)
    (hsel : selected config event.number = true)
    (hsame : tracee.tid ∈ c.output.unfinished_tids →
      ∃ current, tracee.shown config = some current ∧ current.SameCall event) :
    c'.Shows config ∧ tracee.tid ∉ c'.output.unfinished_tids := by
  obtain ⟨flushed, hflush, rfl⟩ := hevents
  have hlog := hu.log
  rw [if_pos hsel, List.foldl_append] at hlog
  obtain ⟨hflushed, hunfinished⟩ := shows_flush ht flushed h hflush
  have hcurrent : tracee.tid ∈ (flushed.foldl (Output.Log.write config) c.output.log).unfinished →
      ∃ current, c.shown config tracee.tid = some current ∧ current.SameCall event := by
    intro hin
    rw [Context.shown_eq hold]
    exact hsame (hunfinished.mp hin)
  have hwritten := hflushed.complete_call hcompleted hcurrent
  have hlog : c'.output.log =
      (flushed.foldl (Output.Log.write config) c.output.log).write_call tracee.tid event := by
    rw [hlog, List.foldl_cons, List.foldl_nil, ht.write]
    rfl
  rw [← hlog] at hwritten
  have hgone : tracee.tid ∉ c'.output.unfinished_tids := by
    intro hin
    exact ((hwritten.2 tracee.tid).mp hin).2 rfl
  refine ⟨hwritten.1.congr ?_, hgone⟩
  intro other hother call hcall
  have ho : other ≠ tracee.tid := by
    intro ho
    exact hgone (ho ▸ hother)
  unfold Context.shown
  rw [hu.lookup, htid, if_neg ho]
  exact ⟨call, hcall, .refl call⟩

/-- A call that is not selected is completed without an event. -/
theorem CallEvents.hidden {tracees : Tracees} {event : SyscallEvent}
    (h : CallEvents config tracees tracee event events)
    (hsel : selected config event.number = false) : events = [] := by
  obtain ⟨flushed, _, rfl⟩ := h
  rw [if_neg (by simp [hsel])]

/-- What has been written before a failure is paired. -/
theorem paired_of_flush (ht : TextMode config) (h : c.Shows config) {except_tid : Pid}
    (hevents : ∀ e ∈ events, FlushEvent config c.tracees except_tid e)
    (hlines : c'.output.lines = (events.foldl (Output.Log.write config) c.output.log).lines) :
    Paired c'.output.lines := by
  rw [hlines]
  exact (shows_flush ht events h hevents).1.paired

/-! ### Calls -/

/-- The end of a hidden call leaves what has been shown alone. -/
theorem Tracee.completed_shown {event : SyscallEvent}
    (hnumber : event.number = tracee.pending_syscall.number)
    (hsel : selected config tracee.pending_syscall.number = false) :
    (tracee.completed event).shown config = tracee.shown config := by
  unfold Tracee.completed Tracee.settled Tracee.shown
  cases hint : tracee.has_interrupted_syscall with
  | false => simp [hsel]
  | true =>
    by_cases h15 : event.number = 15
    · simp [hsel, h15]
    · by_cases hsame : (!tracee.interrupted_restart_ready &&
          event.number == tracee.interrupted_syscall.number) = true
      · have hinterrupted : selected config tracee.interrupted_syscall.number = false := by
          rw [Bool.and_eq_true, beq_iff_eq] at hsame
          rw [← hsame.2, hnumber, hsel]
        simp [hsel, h15, hsame, hinterrupted]
      · simp [hsel, h15, hsame]

/-- **What an entry must not do** when the call of its task has been shown: start another
    selected call, unless the shown call is over. -/
def Tracee.leaves_call (config : Config) (tracee : Tracee) : Bool :=
  (tracee.has_pending_syscall && selected config tracee.pending_syscall.number) ||
    (tracee.has_interrupted_syscall && tracee.interrupted_restart_ready)

/-- A selected pending call is over when the next program runs. -/
theorem complete_exec_shows (ht : TextMode config) (h : c.Shows config)
    (hold : c.tracees.lookup tracee.tid = some tracee) (hpending : tracee.has_pending_syscall = true) :
    Holds (complete_exec config env tracee) c
      (fun new c' => c'.Shows config ∧ c'.tracees.lookup tracee.tid = some new ∧
        (∃ pending, new = { tracee with pending_syscall := pending, has_pending_syscall := false }) ∧
        (tracee.tid ∈ c'.output.unfinished_tids → tracee.tid ∈ c.output.unfinished_tids ∧
          selected config tracee.pending_syscall.number = false))
      (fun _ c' => Paired c'.output.lines) := by
  apply (complete_exec_spec hold).mono
  · intro new c' hpost
    rcases hpost with ⟨exited_at, events, hevents, hnew, hu⟩
    have htid : new.tid = tracee.tid := by rw [hnew]
    have hnumber : (tracee.pending_syscall.exec_done exited_at).number =
        tracee.pending_syscall.number := rfl
    have hself : c'.tracees.lookup tracee.tid = some new := by
      rw [← htid]
      exact hu.lookup_self
    cases hsel : selected config tracee.pending_syscall.number with
    | true =>
      have hshown : tracee.shown config = some tracee.pending_syscall := by
        unfold Tracee.shown
        rw [hpending, hsel]
        rfl
      obtain ⟨hshows, hgone⟩ := hu.shows_call ht h hold htid hevents rfl (by rw [hnumber, hsel])
        fun _ => ⟨_, hshown, ⟨rfl, rfl, rfl, rfl, rfl⟩⟩
      exact ⟨hshows, hself, ⟨_, hnew⟩, fun hin => absurd hin hgone⟩
    | false =>
      have hnil := hevents.hidden (by rw [hnumber, hsel])
      subst hnil
      have hshown : new.shown config = tracee.shown config := by
        rw [hnew]
        unfold Tracee.shown
        simp [hsel]
      obtain ⟨hshows, hsame⟩ := hu.shows ht h hold htid (by simp) fun _ call hcall =>
        ⟨call, by rw [hshown, hcall], .refl call⟩
      exact ⟨hshows, hself, ⟨_, hnew⟩, fun hin => ⟨hsame.mp hin, rfl⟩⟩
  · intro _ c' hpost
    rcases hpost with ⟨events, hevents, hf⟩
    exact paired_of_flush ht h hevents hf.lines

/-- What an entry does to a tracee without a pending call: the call that has been shown is
    the interrupted one. -/
theorem enter_shows (ht : TextMode config) (h : c.Shows config)
    (hold : c.tracees.lookup tracee.tid = some tracee) (hpending : tracee.has_pending_syscall = false)
    (number : UInt64) (arguments : Vector UInt64 6)
    (hentry : selected config number.toNat = true → tracee.tid ∈ c.output.unfinished_tids →
      (tracee.has_interrupted_syscall && tracee.interrupted_restart_ready) = true) :
    Holds (if tracee.restarts number.toNat then restart_call config env tracee
      else do
        let tracee ← report_interrupted config env tracee
        enter_call config env tracee number arguments) c
      (fun _ c' => c'.Shows config) (fun _ c' => Paired c'.output.lines) := by
  have hshown : ∀ {t : Tracee}, t.has_pending_syscall = false → t.shown config =
      if t.has_interrupted_syscall && selected config t.interrupted_syscall.number then
        some t.interrupted_syscall
      else none := by
    intro t hnone
    unfold Tracee.shown
    rw [hnone]
    rfl
  have henter : ∀ {c₁ : Context} {mid : Tracee}, c₁.Shows config →
      c₁.tracees.lookup mid.tid = some mid → mid.has_pending_syscall = false →
      (selected config number.toNat = true → mid.tid ∉ c₁.output.unfinished_tids) →
      Holds (enter_call config env mid number arguments) c₁
        (fun _ c' => c'.Shows config) (fun _ c' => Paired c'.output.lines) := by
    intro c₁ mid h₁ hold₁ hnone hout
    apply (enter_call_spec hold₁ number arguments).mono
    · intro _ c₂ hpost
      rcases hpost with ⟨event, events, hfresh, hevents, hu⟩
      refine (hu.shows ht h₁ hold₁ rfl hevents ?_).1
      intro hin call hcall
      -- A selected call is entered only when nothing has been shown.
      have hsel : selected config number.toNat = false := by
        rw [← Bool.not_eq_true]
        exact fun hsel => hout hsel hin
      refine ⟨call, ?_, .refl call⟩
      rw [← hcall, hshown hnone]
      unfold Tracee.shown Tracee.entered
      simp [hfresh.number_eq, hsel]
    · intro _ c₂ hpost
      rcases hpost with ⟨events, hevents, hf⟩
      exact paired_of_flush ht h₁ hevents hf.lines
  by_cases hrestarts : tracee.restarts number.toNat = true
  · rw [if_pos hrestarts]
    apply (restart_call_spec hold).mono
    · intro _ c₁ hpost
      rcases hpost with ⟨events, hevents, hu⟩
      refine (hu.shows ht h hold rfl hevents ?_).1
      intro _ call hcall
      refine ⟨call, ?_, .refl call⟩
      have hint : tracee.has_interrupted_syscall = true := by
        unfold Tracee.restarts at hrestarts
        simp only [Bool.and_eq_true] at hrestarts
        exact hrestarts.1.1
      rw [hshown hpending, hint] at hcall
      unfold Tracee.shown Tracee.restarted
      simpa using hcall
    · intro _ c₁ hpost
      rcases hpost with ⟨events, hevents, hf⟩
      exact paired_of_flush ht h hevents hf.lines
  · rw [if_neg hrestarts, holds_bind]
    apply (report_interrupted_spec hold).mono
    · intro mid c₁ hmid
      obtain ⟨hnot, rfl, rfl⟩ | ⟨hready, exited_at, events, hevents, hmid, hu⟩ := hmid
      · apply henter h hold hpending
        intro hsel hin
        rw [hentry hsel hin] at hnot
        simp at hnot
      · have htid : mid.tid = tracee.tid := by rw [hmid]
        have hnumber : (tracee.interrupted_syscall.not_restarted exited_at).number =
            tracee.interrupted_syscall.number := rfl
        have hint : tracee.has_interrupted_syscall = true := by
          rw [Bool.and_eq_true] at hready
          exact hready.1
        have hnone : mid.has_pending_syscall = false := by rw [hmid]; exact hpending
        have hafter : c₁.Shows config ∧ tracee.tid ∉ c₁.output.unfinished_tids := by
          cases hsel : selected config tracee.interrupted_syscall.number with
          | true =>
            have hcurrent : tracee.shown config = some tracee.interrupted_syscall := by
              rw [hshown hpending, hint, hsel]
              rfl
            exact hu.shows_call ht h hold htid hevents rfl (by rw [hnumber, hsel])
              fun _ => ⟨_, hcurrent, ⟨rfl, rfl, rfl, rfl, rfl⟩⟩
          | false =>
            -- Nothing of the tracee has been shown.
            have hcurrent : tracee.shown config = none := by
              rw [hshown hpending, hint, hsel]
              rfl
            have hout : tracee.tid ∉ c.output.unfinished_tids := by
              intro hin
              obtain ⟨_, call, _, hcall, _⟩ := h.opened tracee.tid hin
              rw [Context.shown_eq hold, hcurrent] at hcall
              simp at hcall
            have hnil := hevents.hidden (by rw [hnumber, hsel])
            subst hnil
            obtain ⟨hshows, hsame⟩ := hu.shows ht h hold htid (by simp) fun hin => absurd hin hout
            exact ⟨hshows, fun hin => hout (hsame.mp hin)⟩
        apply henter hafter.1 hu.lookup_self hnone
        intro _
        rw [htid]
        exact hafter.2
    · intro _ c₁ hpost
      rcases hpost with ⟨events, hevents, hf⟩
      exact paired_of_flush ht h hevents hf.lines

/-- **Entries.** -/
theorem begin_syscall_shows (ht : TextMode config) (h : c.Shows config)
    (hold : c.tracees.lookup tracee.tid = some tracee) (number : UInt64)
    (arguments : Vector UInt64 6)
    (hentry : selected config number.toNat = true → tracee.tid ∈ c.output.unfinished_tids →
      tracee.leaves_call config = true) :
    Holds (begin_syscall config env tracee number arguments) c
      (fun _ c' => c'.Shows config) (fun _ c' => Paired c'.output.lines) := by
  unfold begin_syscall leave_pending
  by_cases hrange : number.toNat > LONG_MAX
  · rw [if_pos hrange, holds_throw]
    exact h.paired
  rw [if_neg hrange, holds_bind]
  by_cases hpending : tracee.has_pending_syscall = true
  · rw [if_pos hpending]
    by_cases hexec : is_exec tracee.pending_syscall.number = true
    · rw [if_pos hexec]
      apply (complete_exec_shows ht h hold hpending).mono
      · intro new c₁ hpost
        rcases hpost with ⟨h₁, hself, ⟨pending, hnew⟩, hout⟩
        have htid : new.tid = tracee.tid := by rw [hnew]
        apply enter_shows ht h₁ (by rw [htid]; exact hself) (by rw [hnew])
        intro hsel hin
        rw [htid] at hin
        obtain ⟨hin, hhidden⟩ := hout hin
        have hleaves := hentry hsel hin
        unfold Tracee.leaves_call at hleaves
        rw [hhidden, Bool.and_false, Bool.false_or] at hleaves
        rw [hnew]
        exact hleaves
      · intro _ _ hpaired
        exact hpaired
    · rw [if_neg hexec, holds_throw]
      exact h.paired
  · have hnone : tracee.has_pending_syscall = false := by simpa using hpending
    rw [if_neg hpending, holds_pure]
    apply enter_shows ht h hold hnone
    intro hsel hin
    have hleaves := hentry hsel hin
    unfold Tracee.leaves_call at hleaves
    rwa [hnone, Bool.false_and, Bool.false_or] at hleaves

/-- **Exits.** -/
theorem finish_syscall_shows (ht : TextMode config) (h : c.Shows config)
    (hold : c.tracees.lookup tracee.tid = some tracee) (rval : Int) (is_error : Bool)
    (hexit : is_restart_result rval = true → tracee.has_pending_syscall = true →
      tracee.tid ∈ c.output.unfinished_tids →
      selected config tracee.pending_syscall.number = true) :
    Holds (finish_syscall config env tracee rval is_error) c
      (fun _ c' => c'.Shows config) (fun _ c' => Paired c'.output.lines) := by
  unfold finish_syscall
  by_cases hpending : tracee.has_pending_syscall = true
  · rw [if_neg (by simp [hpending])]
    by_cases hrestart : is_restart_result rval = true
    · rw [if_pos hrestart]
      have hspec : Holds (interrupt_call tracee) c
          (fun _ c' => Updates config c tracee.interrupted [] c')
          (fun _ c' => Paired c'.output.lines) := interrupt_call_spec hold
      apply hspec.mono
      · intro _ c' hu
        refine (hu.shows ht h hold rfl (by simp) ?_).1
        intro hin call hcall
        have hsel := hexit hrestart hpending hin
        refine ⟨call, ?_, .refl call⟩
        rw [← hcall]
        unfold Tracee.shown Tracee.interrupted
        simp [hpending, hsel]
      · intro _ _ hpaired
        exact hpaired
    · rw [if_neg hrestart]
      apply (complete_call_spec hold rval is_error).mono
      · intro _ c' hpost
        rcases hpost with ⟨exited_at, events, hevents, hu⟩
        obtain ⟨event, hevent⟩ : ∃ event, event =
            tracee.pending_syscall.finished rval is_error exited_at := ⟨_, rfl⟩
        rw [← hevent] at hevents hu
        have hnumber : event.number = tracee.pending_syscall.number := by rw [hevent]; rfl
        have htid : (tracee.completed event).tid = tracee.tid :=
          congrArg Shell.tid (Tracee.completed_shell tracee event)
        cases hsel : selected config tracee.pending_syscall.number with
        | true =>
          have hcurrent : tracee.shown config = some tracee.pending_syscall := by
            unfold Tracee.shown
            rw [hpending, hsel]
            rfl
          exact (hu.shows_call ht h hold htid hevents (by rw [hevent]; rfl) (by rw [hnumber, hsel])
            fun _ => ⟨_, hcurrent, by rw [hevent]; exact ⟨rfl, rfl, rfl, rfl, rfl⟩⟩).1
        | false =>
          have hnil := hevents.hidden (by rw [hnumber, hsel])
          subst hnil
          refine (hu.shows ht h hold htid (by simp) ?_).1
          intro _ call hcall
          refine ⟨call, ?_, .refl call⟩
          rw [← hcall]
          exact Tracee.completed_shown hnumber hsel
      · intro _ c' hpost
        rcases hpost with ⟨events, hevents, hf⟩
        exact paired_of_flush ht h hevents hf.lines
  · have hnone : tracee.has_pending_syscall = false := by simpa using hpending
    rw [if_pos (by rw [hnone]; rfl), holds_store]
    have hu := (Updates.refl config hold).store
      (t := { tracee with phase := .SG_TRACEE_STOPPED }) rfl
    exact (hu.shows ht h hold rfl (by simp) fun _ call hcall => ⟨call, hcall, .refl call⟩).1

end context

/-! ### Stops -/

/-- The number of the call that is entered. -/
def WaitStatus.entry_number (status : WaitStatus) (answers : Answers) : Option UInt64 :=
  match status with
  | .stopped stop ptrace_event =>
    if stop = SYSCALL_STOP then
      (answers.syscall_info.filter fun info => info.op = PTRACE_SYSCALL_INFO_ENTRY).map SyscallInfo.nr
    else if ptrace_event = PTRACE_EVENT_SECCOMP then answers.syscall_info.map SyscallInfo.nr
    else none
  | _ => none

/-- The result of the call that is left. -/
def WaitStatus.exit_result (status : WaitStatus) (answers : Answers) : Option Int :=
  match status with
  | .stopped stop _ =>
    if stop = SYSCALL_STOP then
      (answers.syscall_info.filter fun info => info.op = PTRACE_SYSCALL_INFO_EXIT).map SyscallInfo.rval
    else none
  | _ => none

/-- A stop that leaves the call meant by the TID of `tracee`, if it has been shown, what it
    was: a selected call is entered only when the shown one is over, and a hidden call
    is not interrupted. -/
structure StopKeeps (config : Config) (c : Context) (tracee : Tracee) (status : WaitStatus)
    (answers : Answers) : Prop where
  entry : ∀ number, status.entry_number answers = some number →
    selected config number.toNat = true → tracee.tid ∈ c.output.unfinished_tids →
    tracee.leaves_call config = true
  exit : ∀ rval, status.exit_result answers = some rval → is_restart_result rval = true →
    tracee.has_pending_syscall = true → tracee.tid ∈ c.output.unfinished_tids →
    selected config tracee.pending_syscall.number = true

section stops
variable {config : Config} {env : Env} {c c' : Context} {tracee : Tracee} {tid : Pid}

/-- Only the requests and the flags of the context differ. -/
theorem Context.Shows.of_eq (h : c.Shows config) (htracees : c'.tracees = c.tracees)
    (houtput : c'.output = c.output) : c'.Shows config := by
  unfold Context.Shows Context.shown
  rw [htracees, houtput]
  exact h

/-- A record is stored whose calls are the same. -/
theorem Context.Shows.restore (h : c.Shows config)
    (hold : c.tracees.lookup tracee.tid = some tracee) {t : Tracee} (htid : t.tid = tracee.tid)
    (hshown : t.shown config = tracee.shown config) :
    ({ c with tracees := c.tracees.write t } : Context).Shows config := by
  have hsame : ({ c with tracees := c.tracees.write t } : Context).shown config =
      c.shown config := by
    funext other
    unfold Context.shown
    rw [Tracees.lookup_write]
    by_cases ho : other = tracee.tid
    · rw [if_pos ⟨by rw [htid, ho], by rw [htid, hold]; rfl⟩, ho, hold]
      exact hshown
    · rw [if_neg fun h => ho (by rw [h.1, htid])]
  unfold Context.Shows
  rw [hsame]
  exact h

/-- A new task has no call, and what is in the table stays. -/
theorem Context.Shows.registers (h : c.Shows config) {tgid : Pid} {attached newborn : Bool}
    (hreg : Registers c tid tgid attached newborn c') : c'.Shows config := by
  have hsame : c'.shown config = c.shown config := by
    funext other
    unfold Context.shown
    rw [hreg.lookup]
    split
    · rename_i hnew
      rw [hnew.1, hnew.2]
      rfl
    · rfl
  unfold Context.Shows
  rw [hsame, hreg.output]
  exact h

/-- A task of which nothing has been shown is removed. -/
theorem Context.Shows.drops (h : c.Shows config) (hdrops : Drops c [tid] c')
    (hout : tid ∉ c.output.unfinished_tids) : c'.Shows config := by
  unfold Context.Shows
  rw [hdrops.output]
  apply h.congr
  intro other hother call hcall
  have hne : other ∉ [tid] := by
    intro hin
    exact hout (List.mem_singleton.mp hin ▸ hother)
  unfold Context.shown
  rw [hdrops.lookup, if_neg hne]
  exact ⟨call, hcall, .refl call⟩

/-- The writers of events that are not about calls. -/
theorem write_stamped_shows (ht : TextMode config) (h : c.Shows config) {data : EventData}
    (hdata : ∀ call, data ≠ .syscall call) :
    Holds (write_stamped config env tracee data) c
      (fun _ c' => c'.Shows config ∧ c'.tracees = c.tracees ∧
        ((∃ status, data = .process_exit status) → tracee.tid ∉ c'.output.unfinished_tids))
      (fun _ c' => Paired c'.output.lines) := by
  apply (write_stamped_spec tracee data).mono
  · intro _ c' hpost
    rcases hpost with ⟨events, observed_at, hevents, hw⟩
    have hflushed := (shows_flush ht events h hevents).1
    have hlog := hw.log
    rw [List.foldl_append, List.foldl_cons, List.foldl_nil, ht.write] at hlog
    have hshown : c'.shown config = c.shown config := by
      unfold Context.shown
      rw [hw.tracees]
    unfold Context.Shows
    rw [hshown]
    show c'.output.log.Shows (c.shown config) ∧ _ ∧ (_ → tracee.tid ∉ c'.output.log.unfinished)
    rw [hlog]
    cases data with
    | syscall call => exact absurd rfl (hdata call)
    | signal signal => exact ⟨hflushed.push rfl trivial, hw.tracees, by rintro ⟨_, ⟨⟩⟩⟩
    | process_start start => exact ⟨hflushed.push rfl trivial, hw.tracees, by rintro ⟨_, ⟨⟩⟩⟩
    | process_exit status =>
      have hclosed : (Line.text ⟨tracee.tid, tracee.tgid, observed_at, .process_exit status⟩).track
          (open_calls (events.foldl (Output.Log.write config) c.output.log).lines) =
          Function.update (open_calls (events.foldl (Output.Log.write config) c.output.log).lines)
            tracee.tid none := rfl
      have hfinish := hflushed.finish hclosed trivial
      exact ⟨hfinish.1, hw.tracees, fun _ hin => ((hfinish.2 tracee.tid).mp hin).2 rfl⟩
  · intro _ c' hpost
    rcases hpost with ⟨events, hevents, hb⟩
    exact paired_of_flush ht h hevents hb.lines

theorem Context.Shows.asking (h : c.Shows config) (request : PtraceRequest) (tid : Pid) :
    (c.asking request tid).Shows config := h.of_eq rfl rfl

theorem handle_syscall_stop_shows (ht : TextMode config) (h : c.Shows config)
    (hold : c.tracees.lookup tracee.tid = some tracee) {ptrace_event : Nat} {answers : Answers}
    (hkeeps : StopKeeps config c tracee (.stopped SYSCALL_STOP ptrace_event) answers) :
    Holds (handle_syscall_stop config env tracee answers.syscall_info) c
      (fun _ c' => c'.Shows config) (fun _ c' => Paired c'.output.lines) := by
  unfold handle_syscall_stop
  rw [holds_bind, holds_measured_ptrace]
  show Holds _ (c.asking .PTRACE_GET_SYSCALL_INFO tracee.tid) _ _
  have h₀ := h.asking .PTRACE_GET_SYSCALL_INFO tracee.tid
  have hold₀ : (c.asking .PTRACE_GET_SYSCALL_INFO tracee.tid).tracees.lookup tracee.tid =
      some tracee := hold
  obtain ⟨hentry, hexit⟩ := hkeeps
  unfold WaitStatus.entry_number at hentry
  unfold WaitStatus.exit_result at hexit
  cases hinfo : answers.syscall_info with
  | none => exact h₀.paired
  | some info =>
    rw [hinfo] at hentry hexit
    simp only [holds_ite, holds_throw]
    refine ⟨fun _ => h₀.paired, fun _ => ⟨fun _ => h₀.paired, fun _ => ⟨fun hop => ⟨fun _ =>
      h₀.paired, fun _ => ?_⟩, fun _ => ⟨fun hop => ⟨fun _ => h₀.paired, fun _ => ?_⟩, fun _ =>
      h₀.paired⟩⟩⟩⟩
    · exact begin_syscall_shows ht h₀ hold₀ info.nr info.args (hentry info.nr (by simp [hop]))
    · exact finish_syscall_shows ht h₀ hold₀ info.rval info.is_error
        (hexit info.rval (by simp [hop]))

theorem handle_seccomp_stop_shows (ht : TextMode config) (h : c.Shows config)
    (hold : c.tracees.lookup tracee.tid = some tracee) {stop : Int} (hsyscall : stop ≠ SYSCALL_STOP)
    {answers : Answers}
    (hkeeps : StopKeeps config c tracee (.stopped stop PTRACE_EVENT_SECCOMP) answers) :
    Holds (handle_seccomp_stop config env tracee answers.syscall_info) c
      (fun _ c' => c'.Shows config) (fun _ c' => Paired c'.output.lines) := by
  unfold handle_seccomp_stop
  rw [holds_bind, holds_measured_ptrace]
  show Holds _ (c.asking .PTRACE_GET_SYSCALL_INFO tracee.tid) _ _
  have h₀ := h.asking .PTRACE_GET_SYSCALL_INFO tracee.tid
  have hold₀ : (c.asking .PTRACE_GET_SYSCALL_INFO tracee.tid).tracees.lookup tracee.tid =
      some tracee := hold
  have hentry := hkeeps.entry
  unfold WaitStatus.entry_number at hentry
  dsimp only at hentry
  rw [if_neg hsyscall, if_pos rfl] at hentry
  cases hinfo : answers.syscall_info with
  | none => exact h₀.paired
  | some info =>
    rw [hinfo] at hentry
    simp only [holds_ite, holds_throw]
    refine ⟨fun _ => h₀.paired, fun _ => ⟨fun _ => h₀.paired, fun _ => ⟨fun _ => h₀.paired, fun _ =>
      ⟨fun _ => h₀.paired, fun _ => ?_⟩⟩⟩⟩
    exact begin_syscall_shows ht h₀ hold₀ info.nr info.args (hentry info.nr rfl)

theorem handle_exec_event_shows (ht : TextMode config) (h : c.Shows config)
    (hold : c.tracees.lookup tracee.tid = some tracee) :
    Holds (handle_exec_event config env tracee) c
      (fun _ c' => c'.Shows config) (fun _ c' => Paired c'.output.lines) := by
  have h₀ : (c.exec_observed tracee).Shows config :=
    h.of_eq (c.exec_observed_tracees tracee) (c.exec_observed_output tracee)
  have hold₀ : (c.exec_observed tracee).tracees.lookup tracee.tid = some tracee := by
    rw [Context.exec_observed_tracees]
    exact hold
  rw [holds_handle_exec_event]
  constructor
  · intro hpending
    apply (complete_exec_shows ht h₀ hold₀ hpending).mono
    · intro mid c₁ hpost
      rcases hpost with ⟨h₁, hself, ⟨pending, hmid⟩, _⟩
      have hmidtid : mid.tid = tracee.tid := by rw [hmid]
      have hself' : c₁.tracees.lookup mid.tid = some mid := by rw [hmidtid, hself]
      exact h₁.restore hself' rfl rfl
    · intro _ _ hpaired
      exact hpaired
  · intro _
    exact h₀.restore hold₀ rfl rfl

theorem handle_child_event_shows (ht : TextMode config) (h : c.Shows config) (ptrace_event : Nat)
    (answers : Answers) :
    Holds (handle_child_event config env tracee ptrace_event answers) c
      (fun _ c' => c'.Shows config) (fun _ c' => Paired c'.output.lines) := by
  unfold handle_child_event
  rw [holds_bind, holds_measured_ptrace]
  show Holds _ (c.asking .PTRACE_GETEVENTMSG tracee.tid) _ _
  have h₀ := h.asking .PTRACE_GETEVENTMSG tracee.tid
  simp only [holds_ite, holds_throw, holds_bind, holds_onError]
  refine ⟨fun _ => h₀.paired, fun _ => ?_⟩
  apply (add_tracee_spec _ _ _ _).mono
  · intro _ c₁ hpost
    rcases hpost with ⟨_, _, hreg⟩
    have h₁ := h₀.registers hreg
    simp only [holds_get, Tracees.get_eq]
    cases c₁.tracees.lookup tracee.tid with
    | none => exact h₁.paired
    | some parent =>
      apply (write_stamped_shows ht h₁ (fun _ => by simp)).mono
      · intro _ c₂ h₂
        exact h₂.1
      · intro _ _ hpaired
        exact hpaired
  · intro _ c₁ hpost
    rcases hpost with ⟨hsame, _⟩
    have hlines : (c₁.abandon_child (answers.eventmsg.getD 0) tracee.attached).output.lines =
        c.output.lines := by
      unfold Context.abandon_child
      have houtput : c₁.output = c.output := hsame.output
      split
      · exact congrArg Output.lines houtput
      · exact congrArg Output.lines houtput
    rw [hlines]
    exact h.paired

theorem handle_signal_stop_shows (ht : TextMode config) (h : c.Shows config)
    (hold : c.tracees.lookup tracee.tid = some tracee) (stop : Int) (answer : SigInfoAnswer) :
    Holds (handle_signal_stop config env tracee stop answer) c
      (fun _ c' => c'.Shows config) (fun _ c' => Paired c'.output.lines) := by
  unfold handle_signal_stop
  rw [holds_bind, holds_measured_ptrace]
  show Holds _ (c.asking .PTRACE_GETSIGINFO tracee.tid) _ _
  have h₀ := h.asking .PTRACE_GETSIGINFO tracee.tid
  have hold₀ : (c.asking .PTRACE_GETSIGINFO tracee.tid).tracees.lookup tracee.tid =
      some tracee := hold
  cases answer with
  | ok signal_info =>
    simp only [holds_bind, holds_store, holds_pure]
    have h₁ := h₀.restore hold₀
      (t := { tracee with newborn := false, pending_signal := stop }) rfl rfl
    apply (write_stamped_shows ht h₁ (fun _ => by simp)).mono
    · intro _ c₂ h₂
      exact h₂.1
    · intro _ _ hpaired
      exact hpaired
  | einval =>
    simp only [holds_ite, holds_bind, holds_store, holds_pure, holds_throw]
    exact ⟨fun _ => h₀.restore hold₀ rfl rfl, fun _ => h₀.paired⟩
  | failed => exact h₀.paired

/-- **A stop** of a task in the table. -/
theorem handle_stop_shows (ht : TextMode config) (h : c.Shows config)
    (hold : c.tracees.lookup tracee.tid = some tracee) (stop : Int) (ptrace_event : Nat)
    (answers : Answers) (hkeeps : StopKeeps config c tracee (.stopped stop ptrace_event) answers) :
    Holds (handle_stop config env tracee stop ptrace_event answers) c
      (fun _ c' => c'.Shows config) (fun _ c' => Paired c'.output.lines) := by
  unfold handle_stop
  by_cases hsyscall : stop = SYSCALL_STOP
  · subst hsyscall
    rw [if_pos rfl, holds_bind]
    apply (handle_syscall_stop_shows ht h hold hkeeps).mono
    · intro _ _ h'
      exact h'
    · intro _ _ hpaired
      exact hpaired
  rw [if_neg hsyscall]
  by_cases hstop : ptrace_event = PTRACE_EVENT_STOP
  · rw [if_pos hstop]
    split
    · exact h.restore hold rfl rfl
    · exact h.restore hold rfl rfl
  rw [if_neg hstop]
  by_cases hevent : ptrace_event = 0
  · rw [if_neg (not_not_intro hevent)]
    split
    · exact h.restore hold rfl rfl
    · exact handle_signal_stop_shows ht h hold stop answers.signal_info
  rw [if_pos hevent, holds_bind]
  have hptrace : Holds (handle_ptrace_event config env tracee ptrace_event answers) c
      (fun _ c' => c'.Shows config) (fun _ c' => Paired c'.output.lines) := by
    unfold handle_ptrace_event
    by_cases hseccomp : ptrace_event = PTRACE_EVENT_SECCOMP
    · subst hseccomp
      rw [if_pos rfl]
      exact handle_seccomp_stop_shows ht h hold hsyscall hkeeps
    · rw [if_neg hseccomp]
      split
      · exact handle_exec_event_shows ht h hold
      · split
        · exact h.paired
        · exact handle_child_event_shows ht h ptrace_event answers
  apply hptrace.mono
  · intro _ _ h'
    exact h'
  · intro _ _ hpaired
    exact hpaired

end stops

/-! ### Rounds -/

/-- **The unfinished TIDs keep their meaning** through a round: an exec does not take the TID
    of a shown call away from it, and the stop keeps the call of its task. -/
structure SameMeaning (config : Config) (c : Context) (waited : Pid) (status : WaitStatus)
    (answers : Answers) : Prop where
  /-- A system call stop is not an event. -/
  plain : ∀ ptrace_event, status = .stopped SYSCALL_STOP ptrace_event → ptrace_event = 0
  exec : ∀ former, status.former answers = some former → waited ∈ c.output.unfinished_tids →
    former ∈ c.output.unfinished_tids
  stop : ∀ tracee, c.tracees.lookup waited = some tracee → StopKeeps config c tracee status answers

section rounds
variable {config : Config} {env : Env} {c c' start : Context} {tracee : Tracee}

theorem Migrates.shows {waited former : Pid} (h : c.Shows config) (hne : former ≠ waited)
    (hmeaning : waited ∈ c.output.unfinished_tids → former ∈ c.output.unfinished_tids)
    (hm : Migrates config c waited former c') : c'.Shows config := by
  unfold Context.Shows
  rw [hm.log]
  apply Output.Log.Shows.migrate h hne hmeaning
  · intro hin
    -- The record of the former TID moves with its calls.
    obtain ⟨source, hsource⟩ := Option.isSome_iff_exists.mp (h.ok.known former hin)
    have hmigrated : c.migrated config waited former = source.renamed waited := by
      unfold Context.migrated
      rw [hsource]
    unfold Context.shown
    rw [hm.lookup, if_pos rfl, hmigrated, hsource]
    rfl
  · intro tid ht hf
    unfold Context.shown
    rw [hm.lookup, if_neg ht, if_neg hf]

theorem observe_exec_shows (h : c.Shows config) {waited : Pid} {stop : Int} {ptrace_event : Nat}
    {answers : Answers}
    (hexec : ∀ former, WaitStatus.former (.stopped stop ptrace_event) answers = some former →
      waited ∈ c.output.unfinished_tids → former ∈ c.output.unfinished_tids) :
    Holds (observe_exec config env waited (.stopped stop ptrace_event) answers) c
      (fun _ c' => c'.Shows config ∧ (ptrace_event ≠ PTRACE_EVENT_EXEC → c' = c))
      (fun _ c' => Paired c'.output.lines) := by
  unfold observe_exec
  unfold WaitStatus.former at hexec
  by_cases hevent : ptrace_event = PTRACE_EVENT_EXEC
  · dsimp only at hexec ⊢
    rw [if_pos hevent] at hexec ⊢
    rw [holds_bind, holds_measured_ptrace]
    show Holds _ (c.asking .PTRACE_GETEVENTMSG waited) _ _
    have h₀ := h.asking .PTRACE_GETEVENTMSG waited
    cases hmessage : answers.eventmsg with
    | none => exact h₀.paired
    | some former =>
      rw [hmessage] at hexec
      simp only [holds_ite, holds_throw]
      refine ⟨fun _ => h₀.paired, fun _ => ?_⟩
      apply (migrate_exec_tid_spec waited former).mono
      · intro _ c' hm
        refine ⟨?_, fun hne => absurd hevent hne⟩
        by_cases hsame : (former : Pid) = waited
        · rw [if_pos hsame] at hm
          rw [hm]
          exact h₀
        · rw [if_neg hsame] at hm
          exact hm.shows h₀ hsame (hexec former rfl)
      · intro _ c' hlines
        have hlines : c'.output.lines = c.output.lines := hlines
        rw [hlines]
        exact h.paired
  · dsimp only
    rw [if_neg hevent, holds_pure]
    exact ⟨h, fun _ => rfl⟩

theorem find_tracee_shows (h : c.Shows config) (waited : Pid) (status : WaitStatus)
    (answers : Answers) :
    Holds (find_tracee config env waited status answers) c
      (fun found c' => c'.Shows config ∧ found = c'.tracees.lookup waited ∧
        c'.output = c.output ∧ ((c.tracees.lookup waited).isSome → c' = c))
      (fun _ c' => Paired c'.output.lines) := by
  unfold find_tracee
  rw [holds_bind, holds_get, Tracees.get_eq]
  cases hknown : c.tracees.lookup waited with
  | some tracee =>
    cases status with
    | _ => exact ⟨h, hknown.symm, rfl, fun _ => rfl⟩
  | none =>
    cases status with
    | stopped stop ptrace_event =>
      by_cases hfollow : config.follow = true
      · simp only [hfollow, if_true, holds_bind]
        apply (add_tracee_spec waited _ _ true).mono
        · intro _ c' hpost
          rcases hpost with ⟨_, _, hreg⟩
          rw [holds_get, Tracees.get_eq, holds_pure]
          exact ⟨h.registers hreg, rfl, hreg.output, by simp⟩
        · intro _ c' hpost
          rcases hpost with ⟨hsame, _⟩
          rw [hsame.output]
          exact h.paired
      · rw [if_neg hfollow, holds_pure]
        exact ⟨h, hknown.symm, rfl, by simp⟩
    | _ => exact ⟨h, hknown.symm, rfl, by simp⟩

theorem restart_tracee_shows (h : c.Shows config) {waited : Pid} (signal : Int) (listen : Bool)
    (answer : RestartAnswer) :
    Holds (restart_tracee config env waited signal listen answer) c
      (fun _ c' => c'.Shows config) (fun _ c' => Paired c'.output.lines) := by
  have hasked : ∀ tracee, (c.asked_restart config tracee signal listen).Shows config :=
    fun _ => h.of_eq rfl rfl
  apply holds_restart_tracee
  · intro _
    exact h
  · intro tracee hknown _
    have htid : tracee.tid = waited := Tracees.lookup_tid hknown
    subst htid
    exact (hasked tracee).restore hknown rfl rfl
  · intro tracee _ _
    exact hasked tracee
  · intro tracee _ _
    exact (hasked tracee).paired

/-- The end of a task: its exit is written, and it is removed. -/
theorem handle_exit_shows (ht : TextMode config) (h : c.Shows config)
    (hold : c.tracees.lookup tracee.tid = some tracee) {status : WaitStatus}
    (hstatus : (∃ code, status = .exited code) ∨ ∃ signal, status = .signaled signal) :
    Holds (handle_exit config env tracee tracee.tid status) c
      (fun _ c' => c'.Shows config) (fun _ c' => Paired c'.output.lines) := by
  have h₁ : ({ c with tracees := c.tracees.write { tracee with phase := .SG_TRACEE_GONE } } :
      Context).Shows config := h.restore hold rfl rfl
  apply holds_handle_exit fun c' => c'.Shows config ∧ tracee.tid ∉ c'.output.unfinished_tids
  · exact fun _ => h₁.paired
  · have hwritten : ∀ exit : ProcessExit,
        Holds (write_stamped config env { tracee with phase := .SG_TRACEE_GONE }
            (.process_exit exit))
          { c with tracees := c.tracees.write { tracee with phase := .SG_TRACEE_GONE } }
          (fun _ c' => c'.Shows config ∧ tracee.tid ∉ c'.output.unfinished_tids)
          (fun _ c' => Paired c'.output.lines) := by
      intro exit
      apply (write_stamped_shows ht h₁ (fun _ => by simp)).mono
      · intro _ c' hpost
        rcases hpost with ⟨hshows, _, hgone⟩
        exact ⟨hshows, hgone ⟨exit, rfl⟩⟩
      · intro _ _ hpaired
        exact hpaired
    obtain ⟨code, rfl⟩ | ⟨signal, rfl⟩ := hstatus
    · exact hwritten _
    · exact hwritten _
  · intro c₁ c₂ c₃ hpost htracees _ houtput hd
    rcases hpost with ⟨hshows, hgone⟩
    exact (hshows.of_eq htracees houtput).drops hd (by rw [houtput]; exact hgone)

/-- **A round** keeps the invariant, when the unfinished TIDs keep their meaning. -/
theorem handle_status_shows (ht : TextMode config) (h : c.Shows config) {waited : Pid}
    {status : WaitStatus} {answers : Answers} (hmeaning : SameMeaning config c waited status answers)
    (shutdown_signal : Int) :
    Holds (handle_status config env waited status answers shutdown_signal) c
      (fun _ c' => c'.Shows config) (fun _ c' => Paired c'.output.lines) := by
  have hexit : ∀ {status : WaitStatus},
      (∃ code, status = .exited code) ∨ (∃ signal, status = .signaled signal) →
      Holds (handle_status config env waited status answers shutdown_signal) c
        (fun _ c' => c'.Shows config) (fun _ c' => Paired c'.output.lines) := by
    intro status hended
    apply holds_handle_status_ended hended
    · intro _
      exact h
    · intro tracee htid hold
      subst htid
      exact handle_exit_shows ht h hold hended
  cases status with
  | continued =>
    apply holds_handle_status_continued
    · intro _
      exact h
    · intro tracee _ hold
      exact h.restore hold rfl rfl
  | exited code => exact hexit (Or.inl ⟨code, rfl⟩)
  | signaled signal => exact hexit (Or.inr ⟨signal, rfl⟩)
  | stopped stop ptrace_event =>
    unfold handle_status
    rw [holds_bind]
    apply (observe_exec_shows h hmeaning.exec).mono
    · intro _ c₁ hpost
      rcases hpost with ⟨h₁, hsame₁⟩
      rw [holds_bind]
      apply (find_tracee_shows h₁ waited _ answers).mono
      · intro found c₂ hpost
        rcases hpost with ⟨h₂, hfound, houtput, hsame₂⟩
        cases found with
        | none => exact h₂
        | some tracee =>
          have htid : tracee.tid = waited := Tracees.lookup_tid hfound.symm
          subst htid
          let stopped : Tracee := { tracee with in_ptrace_stop := true, phase := .SG_TRACEE_STOPPED }
          have h₃ : ({ c₂ with tracees := c₂.tracees.write stopped } : Context).Shows config :=
            h₂.restore hfound.symm rfl rfl
          have hold₃ : (c₂.tracees.write stopped).lookup stopped.tid = some stopped := by
            rw [Tracees.lookup_write]
            refine if_pos ⟨rfl, ?_⟩
            show (c₂.tracees.lookup tracee.tid).isSome = true
            rw [← hfound]
            rfl
          -- The stop is about a call only when no TID has been renamed and the task is known.
          have hkeeps : StopKeeps config { c₂ with tracees := c₂.tracees.write stopped } stopped
              (.stopped stop ptrace_event) answers := by
            have hstate : WaitStatus.entry_number (.stopped stop ptrace_event) answers ≠ none ∨
                WaitStatus.exit_result (.stopped stop ptrace_event) answers ≠ none →
                tracee.tid ∈ c₂.output.unfinished_tids → c₂ = c := by
              intro hcall hin
              have hexec : ptrace_event ≠ PTRACE_EVENT_EXEC := by
                rintro rfl
                have hstop : stop ≠ SYSCALL_STOP := by
                  rintro rfl
                  exact absurd (hmeaning.plain _ rfl) (by decide)
                simp [WaitStatus.entry_number, WaitStatus.exit_result, hstop] at hcall
              have heq := hsame₁ hexec
              subst heq
              exact hsame₂ (h₁.ok.known _ (houtput ▸ hin))
            refine ⟨?_, ?_⟩
            · intro number hnumber hsel hin
              have heq := hstate (Or.inl (by rw [hnumber]; simp)) hin
              subst heq
              exact (hmeaning.stop tracee hfound.symm).entry number hnumber hsel hin
            · intro rval hrval hrestart hpending hin
              have heq := hstate (Or.inr (by rw [hrval]; simp)) hin
              subst heq
              exact (hmeaning.stop tracee hfound.symm).exit rval hrval hrestart hpending hin
          simp only [holds_bind, holds_store, holds_pure]
          apply (handle_stop_shows ht h₃ hold₃ stop ptrace_event answers hkeeps).mono
          · intro result c₄ h₄
            apply (restart_tracee_shows h₄ result.1 result.2 answers.restart).mono
            · intro _ _ h₅
              exact h₅
            · intro _ _ hpaired
              exact hpaired
          · intro _ _ hpaired
            exact hpaired
      · intro _ _ hpaired
        exact hpaired
    · intro _ _ hpaired
      exact hpaired

/-- The unfinished TIDs keep their meaning in the round of a report. -/
def KeepsMeaning (config : Config) (_ : List Report) (c : Context) (report : Report) : Prop :=
  ∀ waited status answers, report.waited = .status waited status answers →
    SameMeaning config c waited status answers

theorem loop_round_shows (ht : TextMode config) (h : c.Shows config) {report : Report}
    {reports : List Report} (hmeaning : KeepsMeaning config reports c report) :
    Holds (loop_round config env report) c
      (fun _ c' => c'.Shows config) (fun _ c' => Paired c'.output.lines) := by
  unfold loop_round
  cases hwaited : report.waited with
  | eintr => exact h
  | failed => exact h.paired
  | status waited status answers =>
    exact handle_status_shows ht h (hmeaning waited status answers hwaited) report.shutdown_signal

/-- Nothing has been written yet. -/
theorem shows_init (houtput : c.output = sg_output_init) : c.Shows config := by
  unfold Context.Shows
  rw [houtput]
  exact ⟨List.nodup_nil, fun tid htid => absurd htid (by simp [Output.log, sg_output_init]),
    fun _ _ => rfl, paired_nil⟩

/-- **Text-mode pairing.**  While the unfinished TIDs keep their meaning, the log of a run is
    paired at every head of the loop, and also when the last round fails. -/
theorem paired_of_reaches (ht : TextMode config) (hstart : start.output = sg_output_init)
    {h : List Report} (hr : Reaches (loop_step config env) (KeepsMeaning config) start h c) :
    Paired c.output.lines ∧ ∀ report, KeepsMeaning config h c report →
      Paired ((loop_round config env report).finalState c).output.lines := by
  have hshows : c.Shows config := by
    apply hr.invariant (I := fun _ c => Context.Shows config c)
    · exact shows_init hstart
    · intro h s report s' hs hmeaning hstep
      exact (loop_round_shows ht hs hmeaning).of_ok (loop_step_true hstep).2
  refine ⟨hshows.paired, ?_⟩
  intro report hmeaning
  have hround : Holds (loop_round config env report) c
      (fun _ c' => Paired c'.output.lines) (fun _ c' => Paired c'.output.lines) := by
    apply (loop_round_shows ht hshows hmeaning).mono
    · intro _ _ h'
      exact h'.paired
    · intro _ _ hpaired
      exact hpaired
  unfold Holds at hround
  unfold finalState
  rcases hexec : (loop_round config env report).exec c with ⟨_ | _, c'⟩
  · rw [hexec] at hround
    exact hround
  · rw [hexec] at hround
    exact hround

end rounds

/-! ### Runs -/

/-- The `read` of a command overlaps the `write` of another task. -/
def overlapping_calls : List Report :=
  [entry_report 100 0, entry_report 101 1, exit_report 101 5 false, exit_report 100 12 false]

/-- Are these the lines of an overtaken `read`? -/
def overtaken : List Line → Bool
  | [.unfinished 100 _, .syscall 101 _, .resumed 100 _] => true
  | _ => false

/-- The overtaken `read` is shown, then resumed. -/
theorem paired_overlapping :
    ∃ c, Reaches (loop_step .following .reliable) (KeepsMeaning .following)
        (.started .following 100) overlapping_calls c ∧
      overtaken c.output.lines = true ∧ Paired c.output.lines := by
  have hrun : ((run (loop_step .following .reliable) (.started .following 100)
      overlapping_calls).map fun c => overtaken c.output.lines) = some true := by decide +kernel
  obtain ⟨c, hc, hlines⟩ := Option.map_eq_some_iff.mp hrun
  -- Both calls are entered while nothing is unfinished.
  have hentry : ∀ {c : Context} {reports : List Report} {tid : Pid} {number : UInt64},
      c.output.unfinished_tids = [] → KeepsMeaning .following reports c (entry_report tid number) := by
    intro c reports tid number hnone waited status answers hwaited
    cases hwaited
    refine ⟨?_, ?_, fun tracee _ => ⟨?_, ?_⟩⟩
    · intro ptrace_event heq
      exact ((WaitStatus.stopped.inj heq).2).symm
    · intro former hformer
      cases hformer
    · intro number _ _ hin
      rw [hnone] at hin
      simp at hin
    · intro rval hrval
      cases hrval
  have hexit : ∀ {c : Context} {reports : List Report} {tid : Pid} {rval : Int} {is_error : Bool},
      is_restart_result rval = false →
      KeepsMeaning .following reports c (exit_report tid rval is_error) := by
    intro c reports tid rval is_error hresult waited status answers hwaited
    cases hwaited
    refine ⟨?_, ?_, fun tracee _ => ⟨?_, ?_⟩⟩
    · intro ptrace_event heq
      exact ((WaitStatus.stopped.inj heq).2).symm
    · intro former hformer
      cases hformer
    · intro number hnumber
      cases hnumber
    · intro result hrval hrestart
      have heq : rval = result := Option.some.inj hrval
      rw [← heq, hresult] at hrestart
      simp at hrestart
  have hr : Reaches (loop_step .following .reliable) (KeepsMeaning .following)
      (.started .following 100) overlapping_calls c := by
    apply reaches_of_run_at _ hc
    intro k c₁ hc₁
    fin_cases k
    · apply hentry
      cases hc₁
      decide +kernel
    · apply hentry
      have hone : ((run (loop_step .following .reliable) (.started .following 100)
          (overlapping_calls.take 1)).map fun c => c.output.unfinished_tids) = some [] := by
        decide +kernel
      have hc₁ : run (loop_step .following .reliable) (.started .following 100)
          (overlapping_calls.take 1) = some c₁ := hc₁
      rw [hc₁] at hone
      exact Option.some.inj hone
    · exact hexit (by decide)
    · exact hexit (by decide)
  have hstart : (Context.started .following 100).output = sg_output_init :=
    (started_spec rfl (by decide)).2
  exact ⟨c, hr, hlines, (paired_of_reaches ⟨rfl, rfl⟩ hstart hr).1⟩

/-- A `read` is interrupted by a signal, and the handler of the signal calls `write`. -/
def handler_calls : List Report :=
  [entry_report 100 0, exit_report 100 (-512) true, signal_report 100 SIGUSR1, entry_report 100 1,
    exit_report 100 5 false]

/-- Are these the lines of a `read` that is shown, and of a `write` that is resumed? -/
def mistaken : List Line → Bool
  | [.unfinished 100 read, .text _, .resumed 100 write] => read.number == 0 && write.number == 1
  | _ => false

/-- The `write` of the handler is written as the resumption of the `read`. -/
theorem paired_handler :
    ∃ c, run (loop_step (.plain .SG_FORMAT_TEXT) .reliable)
        (.started (.plain .SG_FORMAT_TEXT) 100) handler_calls = some c ∧
      mistaken c.output.lines = true ∧ ¬Paired c.output.lines := by
  have hrun : ((run (loop_step (.plain .SG_FORMAT_TEXT) .reliable)
      (.started (.plain .SG_FORMAT_TEXT) 100) handler_calls).map
        fun c => mistaken c.output.lines) = some true := by decide +kernel
  obtain ⟨c, hc, hlines⟩ := Option.map_eq_some_iff.mp hrun
  refine ⟨c, hc, hlines, ?_⟩
  intro hpaired
  unfold mistaken at hlines
  split at hlines
  · rename_i read event write heq
    obtain ⟨shown, hshown, hsame⟩ := hpaired [.unfinished 100 read, .text event] _ [] heq
    rw [Bool.and_eq_true, beq_iff_eq, beq_iff_eq] at hlines
    have hopen : open_calls [.unfinished 100 read, .text event] 100 = none ∨
        open_calls [.unfinished 100 read, .text event] 100 = some read := by
      obtain ⟨tid, tgid, observed_at, data⟩ := event
      cases data with
      | process_exit status =>
        show Function.update (open_calls [.unfinished 100 read]) tid none 100 = none ∨
          Function.update (open_calls [.unfinished 100 read]) tid none 100 = some read
        rw [Function.update_apply]
        split
        · exact Or.inl rfl
        · exact Or.inr rfl
      | _ => exact Or.inr rfl
    obtain hnone | hread := hopen
    · rw [hnone] at hshown
      simp at hshown
    · rw [hread] at hshown
      rw [← Option.some.inj hshown] at hsame
      have hnumber := hsame.number
      rw [hlines.1, hlines.2] at hnumber
      simp at hnumber
  · simp at hlines

end Sysgaze
