import Sysgaze.AbstractTracer
import Sysgaze.Timeline

/-! # The trace loop refines the abstract tracer

    A context is abstracted to the tasks in its table (`Context.world`) and to what its
    lines tell (`Context.told`).  A round that does not fail takes the world one report
    further, and writes the part of what is told that the configuration keeps
    (`loop_round_becomes`); so does a run (`trace_refines`).

    The world is the same for every filter and every format.  So a filter is a projection:
    it takes lines away, and changes nothing about the others (`filter_projects`).
-/

open Fallible Stepping

namespace Sysgaze

/-! ### The abstraction -/

/-- The call, as it was entered. -/
def SyscallEvent.call (event : SyscallEvent) : Call := ⟨event.number, event.arguments⟩

/-- The task of a record. -/
def Tracee.task (tracee : Tracee) : TracedTask where
  tgid := tracee.tgid
  attached := tracee.attached
  newborn := tracee.newborn
  pending := if tracee.has_pending_syscall then some tracee.pending_syscall.call else none
  interrupted :=
    if tracee.has_interrupted_syscall then some tracee.interrupted_syscall.call else none
  ready := tracee.has_interrupted_syscall && tracee.interrupted_restart_ready

/-- The tasks in the table. -/
def Context.world (context : Context) : World :=
  fun tid => (context.tracees.lookup tid).map Tracee.task

/-- What an event tells; nothing, when a call is still going on. -/
def Event.told (event : Event) : Option Told :=
  match event.data with
  | .syscall call =>
    if call.completed then some ⟨event.tid, event.tgid, .call call.outcome⟩ else none
  | .signal signal => some ⟨event.tid, event.tgid, .signal signal⟩
  | .process_start start => some ⟨event.tid, event.tgid, .process_start start⟩
  | .process_exit exit => some ⟨event.tid, event.tgid, .process_exit exit⟩

/-- A text line does not show the group of its task. -/
def Told.ungrouped (told : Told) : Told := { told with tgid := 0 }

/-- What a line tells. -/
def Line.told : Line → Option Told
  | .unfinished _ _ | .renamed _ _ => none
  | .resumed tid call | .syscall tid call => some ⟨tid, 0, .call call.outcome⟩
  | .text event => event.told.map Told.ungrouped
  | .json event => event.told

/-- What the lines tell. -/
def Context.told (context : Context) : List Told := context.output.lines.filterMap Line.told

/-- Calls are told when they are selected, everything else always. -/
def Told.selected (config : Config) (told : Told) : Bool :=
  match told.tale with
  | .call outcome => Sysgaze.selected config outcome.number
  | _ => true

/-- What a line of the format shows of it. -/
def Told.shown (config : Config) (told : Told) : Told :=
  if config.format = .SG_FORMAT_TEXT then told.ungrouped else told

/-- What is written of it. -/
def Config.written (config : Config) (told : List Told) : List Told :=
  if config.summary then [] else told.map (Told.shown config)

/-- The part that the configuration keeps; with `-c` no line is written. -/
def Config.kept (config : Config) (told : List Told) : List Told :=
  config.written (told.filter (Told.selected config))

/-- The world of a command that has just been launched. -/
def LaunchAnswers.world (answers : LaunchAnswers) : World :=
  match answers.child with
  | .ok child => World.empty.set child (some (.fresh child false false))
  | .error _ => World.empty

section abstraction
variable {config : Config} {env : Env} {c c' c'' : Context} {tracee new : Tracee} {tid : Pid}
  {line : Line} {events : List Event} {tales tales' : List Told} {world world' : World}
  {outcomes outcomes' : List Outcome}

theorem Config.written_append (told told' : List Told) :
    config.written (told ++ told') = config.written told ++ config.written told' := by
  unfold Config.written
  split
  · rfl
  · exact List.map_append

theorem Config.kept_append (told told' : List Told) :
    config.kept (told ++ told') = config.kept told ++ config.kept told' := by
  unfold Config.kept
  rw [List.filter_append, Config.written_append]

@[simp] theorem Config.kept_nil : config.kept [] = [] := by
  unfold Config.kept Config.written
  simp

/-- **An event** is told by the line that it adds. -/
theorem told_write (log : Output.Log) (event : Event) :
    (log.write config event).lines.filterMap Line.told =
      log.lines.filterMap Line.told ++ config.written event.told.toList := by
  have hpush : ∀ {log' : Output.Log} (line : Line) (told : List Told), log'.lines = log.lines →
      line.told.toList = told →
      (log'.push line).lines.filterMap Line.told = log.lines.filterMap Line.told ++ told := by
    intro log' line told hlines htold
    unfold Output.Log.push
    rw [List.filterMap_append, hlines, ← htold]
    cases h : line.told <;> simp [h]
  unfold Output.Log.write Config.written
  by_cases hsummary : config.summary = true
  -- With `-c` an event leaves no line.
  · rw [if_pos hsummary, if_pos hsummary, List.append_nil]
  · rw [if_neg hsummary, if_neg hsummary]
    by_cases htext : config.format = .SG_FORMAT_TEXT
    -- Text mode does not show the group.
    · have hshown : Told.shown config = Told.ungrouped := by
        funext told
        exact if_pos htext
      rw [if_pos htext, hshown]
      unfold Output.Log.write_text
      rcases event with ⟨tid, tgid, observed_at, data⟩
      cases data with
      | syscall call =>
        show (log.write_call tid call).lines.filterMap Line.told = _
        unfold Output.Log.write_call
        by_cases hcompleted : call.completed = true
        · rw [if_pos hcompleted]
          have htold : (Event.told ⟨tid, tgid, observed_at, .syscall call⟩).toList.map
              Told.ungrouped = [⟨tid, 0, .call call.outcome⟩] := by
            simp [Event.told, hcompleted, Told.ungrouped]
          rw [htold]
          apply hpush _ _ (log.finish_lines tid)
          split
          · rfl
          · rfl
        · rw [if_neg hcompleted]
          -- The beginning of a call tells nothing.
          have htold : (Event.told ⟨tid, tgid, observed_at, .syscall call⟩).toList.map
              Told.ungrouped = [] := by
            simp [Event.told, hcompleted]
          rw [htold, List.append_nil]
          split
          · rfl
          · simp [Line.told]
      | signal signal => exact hpush (.text _) _ rfl rfl
      | process_start start => exact hpush (.text _) _ rfl rfl
      | process_exit exit => exact hpush (.text _) _ (log.finish_lines tid) rfl
    · have hshown : Told.shown config = id := by
        funext told
        exact if_neg htext
      rw [if_neg htext, hshown, List.map_id]
      by_cases hincomplete : event.incomplete = true
      · -- A call that goes on is not written.
        have htold : event.told = none := by
          unfold Event.incomplete at hincomplete
          unfold Event.told
          cases hdata : event.data with
          | syscall call =>
            rw [hdata] at hincomplete
            simpa using hincomplete
          | signal signal => simp [hdata] at hincomplete
          | process_start start => simp [hdata] at hincomplete
          | process_exit exit => simp [hdata] at hincomplete
        rw [if_pos hincomplete, htold]
        exact (List.append_nil _).symm
      · rw [if_neg hincomplete]
        exact hpush (.json event) _ rfl rfl

theorem told_foldl (events : List Event) : ∀ log : Output.Log,
    (events.foldl (Output.Log.write config) log).lines.filterMap Line.told =
      log.lines.filterMap Line.told ++ config.written (events.filterMap Event.told) := by
  induction events with
  | nil =>
    intro log
    simp [Config.written]
  | cons event events ih =>
    intro log
    rw [List.foldl_cons, ih, told_write, List.append_assoc, ← Config.written_append]
    cases h : event.told <;> simp [h]

theorem FlushEvent.untold {tracees : Tracees} {except_tid : Pid} {event : Event}
    (h : FlushEvent config tracees except_tid event) : event.told = none := by
  obtain ⟨tracee, call, -, -, -, -, rfl⟩ := h
  rfl

theorem flush_untold {tracees : Tracees} {except_tid : Pid}
    (h : ∀ e ∈ events, FlushEvent config tracees except_tid e) :
    events.filterMap Event.told = [] := by
  rw [List.filterMap_eq_nil_iff]
  exact fun e he => (h e he).untold

/-- The end of a call is told, when the call is selected. -/
theorem CallEvents.told {tracees : Tracees} {event : SyscallEvent}
    (h : CallEvents config tracees tracee event events) (hcompleted : event.completed = true) :
    config.written (events.filterMap Event.told) =
      config.kept (tracee.task.tell tracee.tid [event.outcome]) := by
  obtain ⟨flushed, hflushed, rfl⟩ := h
  have htell : tracee.task.tell tracee.tid [event.outcome] =
      [⟨tracee.tid, tracee.tgid, .call event.outcome⟩] := rfl
  have hselected : Told.selected config ⟨tracee.tid, tracee.tgid, .call event.outcome⟩ =
      selected config event.number := rfl
  unfold Config.kept
  rw [htell, List.filter_singleton, hselected]
  cases hsel : selected config event.number with
  | true =>
    rw [if_pos rfl, List.filterMap_append, flush_untold hflushed]
    simp [Event.told, syscall_event, hcompleted]
  | false => simp

theorem Line.told_written (h : line.written = false) : line.told = none := by
  cases line with
  | renamed former current => rfl
  | _ => simp [Line.written] at h

/-- What has been written tells everything. -/
theorem Silent.told (h : Silent c c') : c'.told = c.told := by
  have hwritten : ∀ lines : List Line,
      (lines.filter Line.written).filterMap Line.told = lines.filterMap Line.told := by
    intro lines
    rw [List.filterMap_filter]
    congr 1
    funext line
    split
    · rfl
    · rename_i hline
      exact (Line.told_written (by simpa using hline)).symm
  have hsame : c'.output.lines.filter Line.written = c.output.lines.filter Line.written := h.written
  unfold Context.told
  rw [← hwritten, hsame, hwritten]

/-! ### Programs that fail -/

/-- A failed block has written nothing but unfinished calls. -/
theorem untold_of_lines (hevents : ∀ e ∈ events, ∃ tracees except_tid,
      FlushEvent config tracees except_tid e)
    (hlines : c'.output.lines = (events.foldl (Output.Log.write config) c.output.log).lines) :
    c'.told = c.told := by
  have hnone : events.filterMap Event.told = [] := by
    rw [List.filterMap_eq_nil_iff]
    intro e he
    obtain ⟨tracees, except_tid, hflush⟩ := hevents e he
    exact hflush.untold
  unfold Context.told
  rw [hlines, told_foldl, hnone]
  unfold Config.written
  simp [Output.log]

theorem Fails.untold {tracees : Tracees} {except_tid : Pid} (h : Fails config c tid events c')
    (hevents : ∀ e ∈ events, FlushEvent config tracees except_tid e) : c'.told = c.told :=
  untold_of_lines (fun e he => ⟨tracees, except_tid, hevents e he⟩) h.lines

theorem Breaks.untold {tracees : Tracees} {except_tid : Pid} (h : Breaks config c events c')
    (hevents : ∀ e ∈ events, FlushEvent config tracees except_tid e) : c'.told = c.told :=
  untold_of_lines (fun e he => ⟨tracees, except_tid, hevents e he⟩) h.lines

/-- From `c` to `c'` the tales have been told, but perhaps not all: the last ones may be missing. -/
def Begins (config : Config) (c : Context) (tales : List Told) (c' : Context) : Prop :=
  ∃ part, part <+: tales ∧ c'.told = c.told ++ config.kept part

theorem Begins.silent (h : c'.told = c.told) : Begins config c tales c' :=
  ⟨[], List.nil_prefix, by rw [h, Config.kept_nil, List.append_nil]⟩

theorem Begins.all (h : c'.told = c.told ++ config.kept tales) : Begins config c tales c' :=
  ⟨tales, List.prefix_refl tales, h⟩

theorem Begins.append (h : Begins config c tales c') (more : List Told) :
    Begins config c (tales ++ more) c' := by
  obtain ⟨part, hpart, htold⟩ := h
  exact ⟨part, hpart.trans (List.prefix_append tales more), htold⟩

/-- Some tales have been told before. -/
theorem Begins.after (h : c'.told = c.told ++ config.kept tales)
    (h' : Begins config c' tales' c'') : Begins config c (tales ++ tales') c'' := by
  obtain ⟨part, hpart, htold⟩ := h'
  refine ⟨tales ++ part, (List.prefix_append_right_inj tales).mpr hpart, ?_⟩
  rw [htold, h, Config.kept_append, List.append_assoc]

theorem Begins.after_silence (h : c'.told = c.told) (h' : Begins config c' tales c'') :
    Begins config c tales c'' := by
  obtain ⟨part, hpart, htold⟩ := h'
  exact ⟨part, hpart, by rw [htold, h]⟩

theorem Begins.then_silence (h : Begins config c tales c') (h' : c''.told = c'.told) :
    Begins config c tales c'' := by
  obtain ⟨part, hpart, htold⟩ := h
  exact ⟨part, hpart, by rw [h', htold]⟩

/-! ### One record takes its place -/

/-- From `c` to `c'` the record `tracee` has become `new`, and the outcomes have been told. -/
structure Replaces (config : Config) (c : Context) (tracee new : Tracee) (outcomes : List Outcome)
    (c' : Context) : Prop where
  tid : new.tid = tracee.tid
  tgid : new.tgid = tracee.tgid
  lookup : ∀ other, c'.tracees.lookup other =
    if other = tracee.tid then some new else c.tracees.lookup other
  told : c'.told = c.told ++ config.kept (tracee.task.tell tracee.tid outcomes)

variable (config) in
theorem Replaces.refl (hold : c.tracees.lookup tracee.tid = some tracee) :
    Replaces config c tracee tracee [] c := by
  refine ⟨rfl, rfl, fun other => ?_, by simp [TracedTask.tell]⟩
  by_cases ho : other = tracee.tid
  · rw [if_pos ho, ho, hold]
  · rw [if_neg ho]

theorem Replaces.lookup_self (h : Replaces config c tracee new outcomes c') :
    c'.tracees.lookup new.tid = some new := by
  rw [h.lookup, if_pos h.tid]

theorem Replaces.trans {new' : Tracee} (h : Replaces config c tracee new outcomes c')
    (h' : Replaces config c' new new' outcomes' c'') :
    Replaces config c tracee new' (outcomes ++ outcomes') c'' := by
  refine ⟨h'.tid.trans h.tid, h'.tgid.trans h.tgid, fun other => ?_, ?_⟩
  · rw [h'.lookup, h.lookup, h.tid]
    split
    · rfl
    · rfl
  · have htell : new.task.tell new.tid outcomes' = tracee.task.tell tracee.tid outcomes' := by
      have htgid : new.task.tgid = tracee.task.tgid := h.tgid
      unfold TracedTask.tell
      rw [h.tid, htgid]
    rw [h'.told, h.told, htell, TracedTask.tell_append, Config.kept_append, List.append_assoc]

/-- An update takes the place of a record. -/
theorem Updates.replaces (h : Updates config c new events c') (htid : new.tid = tracee.tid)
    (htgid : new.tgid = tracee.tgid)
    (hevents : config.written (events.filterMap Event.told) =
      config.kept (tracee.task.tell tracee.tid outcomes)) :
    Replaces config c tracee new outcomes c' := by
  refine ⟨htid, htgid, fun other => ?_, ?_⟩
  · rw [h.lookup, htid]
  · have hlines : c'.output.lines =
        (events.foldl (Output.Log.write config) c.output.log).lines := congrArg Output.Log.lines h.log
    unfold Context.told
    rw [hlines, told_foldl, hevents]
    rfl

/-- Only unfinished calls of other tasks have been written. -/
theorem Updates.replaces_silently (h : Updates config c new events c') (htid : new.tid = tracee.tid)
    (htgid : new.tgid = tracee.tgid)
    (hevents : ∀ event ∈ events, FlushEvent config c.tracees tracee.tid event) :
    Replaces config c tracee new [] c' := by
  apply h.replaces htid htgid
  rw [flush_untold hevents]
  simp [Config.written, TracedTask.tell]

/-! ### The calls of a task -/

theorem leave_pending_replaces (hold : c.tracees.lookup tracee.tid = some tracee) :
    Holds (leave_pending config env tracee) c
      (fun mid c' => mid.task = tracee.task.leave_pending.1 ∧
        Replaces config c tracee mid tracee.task.leave_pending.2 c')
      (fun _ c' => c'.told = c.told) := by
  apply (leave_pending_spec hold).mono
  · intro mid c' hpost
    obtain ⟨hpending, rfl, rfl⟩ | ⟨hpending, -, exited_at, events, hevents, rfl, hu⟩ := hpost
    · have hleave : mid.task.leave_pending = (mid.task, []) := by
        unfold TracedTask.leave_pending Tracee.task
        simp [hpending]
      rw [hleave]
      exact ⟨rfl, .refl config hold⟩
    · have hleave : tracee.task.leave_pending =
          ({ tracee.task with pending := none }, [(tracee.pending_syscall.exec_done exited_at).outcome])
          := by
        unfold TracedTask.leave_pending Tracee.task
        simp only [hpending, if_true]
        rfl
      rw [hleave]
      exact ⟨rfl, hu.replaces rfl rfl (hevents.told rfl)⟩
  · intro _ c' hpost
    rcases hpost with ⟨events, hevents, hf⟩
    exact hf.untold hevents

theorem report_interrupted_replaces (hold : c.tracees.lookup tracee.tid = some tracee) :
    Holds (report_interrupted config env tracee) c
      (fun mid c' => mid.task = tracee.task.report_interrupted.1 ∧
        Replaces config c tracee mid tracee.task.report_interrupted.2 c')
      (fun _ c' => c'.told = c.told) := by
  apply (report_interrupted_spec hold).mono
  · intro mid c' hpost
    obtain ⟨hready, rfl, rfl⟩ | ⟨hready, exited_at, events, hevents, rfl, hu⟩ := hpost
    · have hreport : mid.task.report_interrupted = (mid.task, []) := by
        unfold TracedTask.report_interrupted Tracee.task
        cases hhas : mid.has_interrupted_syscall with
        | false => simp
        | true =>
          rw [hhas] at hready
          simp [hready]
      rw [hreport]
      exact ⟨rfl, .refl config hold⟩
    · rw [Bool.and_eq_true] at hready
      have hreport : tracee.task.report_interrupted =
          ({ tracee.task with interrupted := none, ready := false },
            [(tracee.interrupted_syscall.not_restarted exited_at).outcome]) := by
        unfold TracedTask.report_interrupted Tracee.task
        simp only [hready.1, hready.2, if_true, Bool.and_self]
        rfl
      rw [hreport]
      exact ⟨rfl, hu.replaces rfl rfl (hevents.told rfl)⟩
  · intro _ c' hpost
    rcases hpost with ⟨events, hevents, hf⟩
    exact hf.untold hevents

theorem Tracee.task_restarts (tracee : Tracee) (number : Int) :
    tracee.task.restarts number = tracee.restarts number := by
  unfold TracedTask.restarts Tracee.restarts Tracee.task
  cases tracee.has_interrupted_syscall with
  | false => rfl
  | true => simp [SyscallEvent.call]

theorem enter_call_replaces (hold : c.tracees.lookup tracee.tid = some tracee) (number : UInt64)
    (arguments : Vector UInt64 6) :
    Holds (enter_call config env tracee number arguments) c
      (fun _ c' => ∃ new : Tracee,
        new.task = { tracee.task with pending := some ⟨number.toNat, arguments⟩ } ∧
        Replaces config c tracee new [] c')
      (fun _ c' => c'.told = c.told) := by
  apply (enter_call_spec hold number arguments).mono
  · intro _ c' hpost
    rcases hpost with ⟨event, events, hfresh, hevents, hu⟩
    have hcall : event.call = ⟨number.toNat, arguments⟩ := by
      unfold SyscallEvent.call
      rw [hfresh.number_eq, hfresh.arguments_eq]
    refine ⟨tracee.entered event, ?_, hu.replaces_silently rfl rfl hevents⟩
    rw [← hcall]
    rfl
  · intro _ c' hpost
    rcases hpost with ⟨events, hevents, hf⟩
    exact hf.untold hevents

/-- **An entry** does to the record what it does to the task. -/
theorem begin_syscall_replaces (hold : c.tracees.lookup tracee.tid = some tracee) (number : UInt64)
    (arguments : Vector UInt64 6) :
    Holds (begin_syscall config env tracee number arguments) c
      (fun _ c' => ∃ new : Tracee, new.task = (tracee.task.enter number arguments).1 ∧
        Replaces config c tracee new (tracee.task.enter number arguments).2 c')
      (fun _ c' => Begins config c
        (tracee.task.tell tracee.tid (tracee.task.enter number arguments).2) c') := by
  unfold begin_syscall TracedTask.enter
  rw [holds_ite]
  refine ⟨fun _ => .silent rfl, fun _ => ?_⟩
  rw [holds_bind]
  apply (leave_pending_replaces hold).mono
  · intro mid c₁ hpost
    rcases hpost with ⟨hmid, h₁⟩
    have hold₁ := h₁.lookup_self
    rcases hleft : tracee.task.leave_pending with ⟨task, left⟩
    rw [hleft] at hmid h₁
    dsimp only at hmid h₁ ⊢
    rw [← hmid, Tracee.task_restarts]
    by_cases hrestarts : mid.restarts number.toNat = true
    · rw [if_pos hrestarts, if_pos hrestarts]
      -- The interrupted call goes on, and nothing is told.
      have hhas : mid.has_interrupted_syscall = true := by
        unfold Tracee.restarts at hrestarts
        simp only [Bool.and_eq_true] at hrestarts
        exact hrestarts.1.1
      apply (restart_call_spec hold₁).mono
      · intro _ c₂ hpost
        rcases hpost with ⟨events, hevents, hu⟩
        refine ⟨mid.restarted, ?_, ?_⟩
        · unfold Tracee.task Tracee.restarted
          simp only [hhas, if_true, Bool.false_eq_true, if_false, Bool.false_and]
        · have h := h₁.trans (hu.replaces_silently rfl rfl hevents)
          rwa [List.append_nil] at h
      · intro _ c₂ hpost
        rcases hpost with ⟨events, hevents, hf⟩
        have hsilent : Begins config c₁ [] c₂ := .silent (hf.untold hevents)
        have h := Begins.after h₁.told hsilent
        rwa [List.append_nil] at h
    · rw [if_neg hrestarts, if_neg hrestarts, holds_bind]
      -- A new call: the interrupted one is told first, if it was ready to restart.
      apply (report_interrupted_replaces hold₁).mono
      · intro mid' c₂ hpost
        rcases hpost with ⟨hmid', h₂⟩
        have h := h₁.trans h₂
        apply (enter_call_replaces h₂.lookup_self number arguments).mono
        · intro _ c₃ hpost
          rcases hpost with ⟨new, hnew, h₃⟩
          refine ⟨new, ?_, ?_⟩
          · rw [hnew, hmid']
          · have h' := h.trans h₃
            rwa [List.append_nil] at h'
        · intro _ c₃ hsame
          exact .all (by rw [hsame]; exact h.told)
      · intro _ c₂ hsame
        -- A failure behind the interrupted call leaves the beginning of the tale.
        have htold : c₂.told = c.told ++ config.kept (tracee.task.tell tracee.tid left) := by
          rw [hsame, h₁.told]
        show Begins config c
          (tracee.task.tell tracee.tid (left ++ mid.task.report_interrupted.2)) c₂
        rw [TracedTask.tell_append]
        exact (Begins.all htold).append _
  · exact fun _ c₁ hsame => .silent hsame

/-- The record that is left when a call has ended. -/
theorem Tracee.completed_task (tracee : Tracee) (event : SyscallEvent)
    (hnumber : event.number = tracee.pending_syscall.number) :
    (tracee.completed event).task =
      { tracee.task.settle tracee.pending_syscall.number with pending := none } := by
  unfold Tracee.completed Tracee.settled TracedTask.settle Tracee.task
  dsimp only
  rw [hnumber]
  cases hhas : tracee.has_interrupted_syscall with
  | false => simp
  | true =>
    simp only [if_true]
    by_cases hreturn : tracee.pending_syscall.number = SYS_rt_sigreturn
    · simp [hreturn]
    · simp only [if_neg hreturn]
      cases hready : tracee.interrupted_restart_ready with
      | true => simp
      | false =>
        by_cases hsame : tracee.pending_syscall.number = tracee.interrupted_syscall.number
        · simp [hsame, SyscallEvent.call]
        · simp [hsame, SyscallEvent.call]

/-- **An exit** does to the record what it does to the task. -/
theorem finish_syscall_replaces (hold : c.tracees.lookup tracee.tid = some tracee) (rval : Int)
    (is_error : Bool) :
    Holds (finish_syscall config env tracee rval is_error) c
      (fun _ c' => ∃ new : Tracee, new.task = (tracee.task.leave rval is_error).1 ∧
        Replaces config c tracee new (tracee.task.leave rval is_error).2 c')
      (fun _ c' => c'.told = c.told) := by
  have h₀ : Updates config c tracee [] c := .refl config hold
  unfold finish_syscall TracedTask.leave
  by_cases hpending : tracee.has_pending_syscall = true
  · have hcall : tracee.task.pending = some tracee.pending_syscall.call := by
      unfold Tracee.task
      simp [hpending]
    rw [hcall]
    simp only [hpending, Bool.not_true, Bool.false_eq_true, if_false]
    by_cases hrestart : is_restart_result rval = true
    · simp only [hrestart, if_true]
      -- The kernel restarts the call, so that it is not told yet.
      apply (interrupt_call_spec hold (E := fun _ c' => c'.told = c.told)).mono
      · intro _ c' hu
        refine ⟨tracee.interrupted, ?_, hu.replaces_silently rfl rfl (by simp)⟩
        unfold Tracee.task Tracee.interrupted
        simp [SyscallEvent.call]
      · exact fun _ _ h => h
    · simp only [hrestart, Bool.false_eq_true, if_false]
      -- The call has ended, and is told with its outcome.
      apply (complete_call_spec hold rval is_error).mono
      · intro _ c' hpost
        rcases hpost with ⟨exited_at, events, hevents, hu⟩
        have hshell := tracee.completed_shell
          (tracee.pending_syscall.finished rval is_error exited_at)
        refine ⟨_, tracee.completed_task (tracee.pending_syscall.finished rval is_error
          exited_at) rfl, ?_⟩
        exact hu.replaces (congrArg Shell.tid hshell) (congrArg Shell.tgid hshell) (hevents.told rfl)
      · intro _ c' hpost
        rcases hpost with ⟨events, hevents, hf⟩
        exact hf.untold hevents
  · have hnone : tracee.task.pending = none := by
      unfold Tracee.task
      simp [hpending]
    -- An exit without an entry.
    rw [hnone, if_pos (by simpa using hpending), holds_store]
    let stopped : Tracee := { tracee with phase := .SG_TRACEE_STOPPED }
    have hu := h₀.store (t := stopped) rfl
    exact ⟨stopped, rfl, hu.replaces_silently rfl rfl (by simp)⟩

/-! ### The world -/

/-- From `c` to `c'` the world has become `world`, and `tales` have been told. -/
structure Becomes (config : Config) (c : Context) (world : World) (tales : List Told)
    (c' : Context) : Prop where
  world : c'.world = world
  told : c'.told = c.told ++ config.kept tales

variable (config) in
theorem Becomes.refl (c : Context) : Becomes config c c.world [] c := ⟨rfl, by simp⟩

theorem Becomes.trans (h : Becomes config c world tales c')
    (h' : Becomes config c' world' tales' c'') :
    Becomes config c world' (tales ++ tales') c'' :=
  ⟨h'.world, by rw [h'.told, h.told, Config.kept_append, List.append_assoc]⟩

variable (config) in
/-- What is neither in the table nor in the output does not matter. -/
theorem Becomes.of_eq (htracees : c'.tracees = c.tracees) (hlines : c'.output.lines = c.output.lines) :
    Becomes config c c.world [] c' := by
  refine ⟨?_, ?_⟩
  · unfold Context.world
    rw [htracees]
  · unfold Context.told
    rw [hlines, Config.kept_nil, List.append_nil]

theorem Context.world_of (hold : c.tracees.lookup tid = some tracee) :
    c.world tid = some tracee.task := by
  unfold Context.world
  rw [hold]
  rfl

theorem Context.world_none : c.world tid = none ↔ c.tracees.lookup tid = none := by
  unfold Context.world
  rw [Option.map_eq_none_iff]

/-- A record that takes its place is a task that has changed. -/
theorem Replaces.becomes (h : Replaces config c tracee new outcomes c') :
    Becomes config c (c.world.set tracee.tid (some new.task))
      (tracee.task.tell tracee.tid outcomes) c' := by
  refine ⟨?_, h.told⟩
  funext other
  unfold Context.world World.set
  rw [h.lookup]
  split
  · rfl
  · rfl

/-- A record is stored. -/
theorem Becomes.store {t : Tracee} (h : Becomes config c world tales c')
    (hknown : (c'.tracees.lookup t.tid).isSome) :
    Becomes config c (world.set t.tid (some t.task)) tales
      { c' with tracees := c'.tracees.write t } := by
  refine ⟨?_, h.told⟩
  rw [← h.world]
  funext other
  unfold Context.world World.set
  rw [Tracees.lookup_write]
  by_cases ho : other = t.tid
  · rw [if_pos ⟨ho, hknown⟩, if_pos ho]
    rfl
  · rw [if_neg (fun h => ho h.1), if_neg ho]

/-- A record that stands for the same task leaves the world alone. -/
theorem Becomes.restore (hold : c.tracees.lookup tracee.tid = some tracee) {t : Tracee}
    (htid : t.tid = tracee.tid) (htask : t.task = tracee.task) :
    Becomes config c c.world [] { c with tracees := c.tracees.write t } := by
  have h := (Becomes.refl config c).store (t := t) (by rw [htid, hold]; rfl)
  rwa [htid, htask, World.set_self (Context.world_of hold)] at h

/-- Events have been written. -/
theorem Writes.becomes (h : Writes config c events c') {tales : List Told}
    (hevents : events.filterMap Event.told = tales) (hall : ∀ told ∈ tales, told.selected config) :
    Becomes config c c.world tales c' := by
  refine ⟨?_, ?_⟩
  · unfold Context.world
    rw [h.tracees]
  · have hlines : c'.output.lines =
        (events.foldl (Output.Log.write config) c.output.log).lines := congrArg Output.Log.lines h.log
    have hkept : config.kept tales = config.written tales := by
      unfold Config.kept
      rw [List.filter_eq_self.mpr hall]
    unfold Context.told
    rw [hlines, told_foldl, hevents, hkept]
    rfl

variable (config) in
theorem Registers.becomes {tgid : Pid} {attached newborn : Bool}
    (h : Registers c tid tgid attached newborn c') :
    Becomes config c (c.world.register tid (.fresh tgid attached newborn)) [] c' := by
  refine ⟨?_, ?_⟩
  · funext other
    unfold World.register
    cases hknown : c.tracees.lookup tid with
    | some tracee =>
      rw [Context.world_of hknown]
      unfold Context.world
      rw [h.lookup, hknown]
      simp
    | none =>
      rw [Context.world_none.mpr hknown]
      unfold Context.world World.set
      rw [h.lookup, hknown]
      by_cases ho : other = tid
      · simp only [ho, and_self, if_true]
        rfl
      · simp [ho]
  · unfold Context.told
    rw [h.output, Config.kept_nil, List.append_nil]

theorem Migrates.becomes {former : Pid} (h : Migrates config c tid former c') (hne : former ≠ tid) :
    Becomes config c (c.world.rename config tid former) [] c' := by
  refine ⟨?_, ?_⟩
  -- What the task is under its new TID.
  · have hsuccessor : (c.migrated config tid former).task = c.world.successor config tid former := by
      unfold Context.migrated World.successor
      cases hf : c.tracees.lookup former with
      | some source =>
        rw [Context.world_of hf]
        rfl
      | none =>
        rw [Context.world_none.mpr hf]
        cases ht : c.tracees.lookup tid with
        | some replaced =>
          rw [Context.world_of ht]
          rfl
        | none =>
          rw [Context.world_none.mpr ht]
          rfl
    funext other
    unfold World.rename World.set
    rw [if_neg hne, ← hsuccessor]
    unfold Context.world
    rw [h.lookup]
    by_cases ho : other = tid
    · simp [ho]
    · by_cases hf : other = former
      · simp [hf, hne]
      · simp [ho, hf]
  · have hlines : c'.output.lines = (c.output.log.migrate former tid).lines :=
      congrArg Output.Log.lines h.log
    -- The line about the new TID tells nothing.
    unfold Context.told
    rw [hlines]
    unfold Output.Log.migrate
    rw [if_neg hne, Config.kept_nil, List.append_nil, List.filterMap_append]
    exact List.append_nil _

variable (config) in
theorem Drops.becomes (h : Drops c [tid] c') : Becomes config c (c.world.set tid none) [] c' := by
  refine ⟨?_, ?_⟩
  · funext other
    unfold Context.world World.set
    rw [h.lookup]
    by_cases ho : other = tid
    · simp [ho]
    · simp [ho]
  · unfold Context.told
    rw [h.output, Config.kept_nil, List.append_nil]

/-- An event that is not about a call is told as it is. -/
theorem write_stamped_becomes (tracee : Tracee) (data : EventData) {tale : Tale}
    (htale : ∀ observed_at, Event.told ⟨tracee.tid, tracee.tgid, observed_at, data⟩ =
      some ⟨tracee.tid, tracee.tgid, tale⟩)
    (hselected : Told.selected config ⟨tracee.tid, tracee.tgid, tale⟩ = true) :
    Holds (write_stamped config env tracee data) c
      (fun _ c' => Becomes config c c.world [⟨tracee.tid, tracee.tgid, tale⟩] c')
      (fun _ c' => c'.told = c.told) := by
  apply (write_stamped_spec tracee data).mono
  · intro _ c' hpost
    rcases hpost with ⟨events, observed_at, hevents, hw⟩
    apply hw.becomes
    · rw [List.filterMap_append, flush_untold hevents]
      simp [htale]
    · intro told htold
      rw [List.mem_singleton.mp htold]
      exact hselected
  · intro _ c' hpost
    rcases hpost with ⟨events, hevents, hb⟩
    exact hb.untold hevents

/-! ### Stops -/

theorem handle_exec_event_becomes (hold : c.tracees.lookup tracee.tid = some tracee) :
    Holds (handle_exec_event config env tracee) c
      (fun _ c' => Becomes config c
        (c.world.takes tracee.tid tracee.task tracee.task.exec).1
        (c.world.takes tracee.tid tracee.task tracee.task.exec).2 c')
      (fun _ c' => c'.told = c.told) := by
  have h₀ : Becomes config c c.world [] (c.exec_observed tracee) :=
    .of_eq config (c.exec_observed_tracees tracee)
      (congrArg Output.lines (c.exec_observed_output tracee))
  have hold₀ : (c.exec_observed tracee).tracees.lookup tracee.tid = some tracee := by
    rw [Context.exec_observed_tracees]
    exact hold
  unfold World.takes TracedTask.exec TracedTask.leave_pending
  rw [holds_handle_exec_event]
  constructor
  · intro hpending
    -- `execve` has succeeded: the pending call ends with the event.
    apply (complete_exec_spec hold₀).mono
    · intro mid c₁ hpost
      rcases hpost with ⟨exited_at, events, hevents, hmid, hu⟩
      subst hmid
      have hreplaced : Replaces config _ tracee _ _ c₁ := hu.replaces rfl rfl (hevents.told rfl)
      have hreplaces := hreplaced.becomes
      rw [h₀.world] at hreplaces
      have h := (h₀.trans hreplaces).store
        (t := { tracee with
          pending_syscall := (tracee.pending_syscall.exec_done exited_at).without_texts
          has_pending_syscall := false
          phase := .SG_TRACEE_STOPPED
          newborn := false }) (by
            show (c₁.tracees.lookup tracee.tid).isSome = true
            rw [hu.lookup_self]
            rfl)
      have hcall : tracee.task.pending = some tracee.pending_syscall.call := by
        unfold Tracee.task
        simp [hpending]
      rw [hcall]
      rw [World.set_set] at h
      exact h
    · intro _ c₁ hpost
      rcases hpost with ⟨events, hevents, hf⟩
      have hsame := hf.untold hevents
      rw [hsame, h₀.told, Config.kept_nil, List.append_nil]
  · intro hpending
    -- There is no call to end, as its entry has not been seen.
    have hnone : tracee.task.pending = none := by
      unfold Tracee.task
      simp [hpending]
    rw [hnone]
    exact h₀.store (t := { tracee with newborn := false }) (by
      show ((c.exec_observed tracee).tracees.lookup tracee.tid).isSome = true
      rw [hold₀]
      rfl)

theorem handle_child_event_becomes (hold : c.tracees.lookup tracee.tid = some tracee)
    (ptrace_event : Nat) (answers : Answers) :
    Holds (handle_child_event config env tracee ptrace_event answers) c
      (fun _ c' => Becomes config c (c.world.fork tracee.tid tracee.task ptrace_event answers).1
        (c.world.fork tracee.tid tracee.task ptrace_event answers).2 c')
      (fun _ c' => c'.told = c.told) := by
  unfold handle_child_event World.fork
  rw [holds_bind, holds_measured_ptrace]
  have h₀ : Becomes config c c.world [] (c.asking .PTRACE_GETEVENTMSG tracee.tid) :=
    .of_eq config rfl rfl
  show Holds _ (c.asking .PTRACE_GETEVENTMSG tracee.tid) _ _
  simp only [holds_ite, holds_throw, holds_bind, holds_onError]
  refine ⟨fun _ => rfl, fun _ => ?_⟩
  apply (add_tracee_spec _ _ _ _).mono
  · intro _ c₁ hpost
    rcases hpost with ⟨_, _, hreg⟩
    have h₁ := h₀.trans (hreg.becomes config)
    -- The parent is known, so it is not the task that has been registered.
    have hparent : c₁.tracees.lookup tracee.tid = some tracee := by
      rw [hreg.lookup]
      split
      · rename_i hchild
        rw [← hchild.1] at hchild
        have hknown : c.tracees.lookup tracee.tid = none := hchild.2
        rw [hold] at hknown
        simp at hknown
      · exact hold
    simp only [holds_get, Tracees.get_eq, hparent]
    apply (write_stamped_becomes tracee _ (fun _ => rfl) rfl).mono
    · intro _ c₂ h₂
      have h := h₁.trans h₂
      rw [h₁.world] at h
      exact h
    · intro _ c₂ hsame
      have hsilent : c₁.told = c.told ++ config.kept [] := h₁.told
      rw [hsame, hsilent, Config.kept_nil, List.append_nil]
  · intro _ c₁ hpost
    rcases hpost with ⟨hsame, _⟩
    have houtput : c₁.output = c.output := hsame.output
    unfold Context.abandon_child Context.told
    split
    · exact congrArg (fun output => output.lines.filterMap Line.told) houtput
    · exact congrArg (fun output => output.lines.filterMap Line.told) houtput

theorem handle_syscall_stop_becomes (hold : c.tracees.lookup tracee.tid = some tracee)
    (ptrace_event : Nat) (answers : Answers) :
    Holds (handle_syscall_stop config env tracee answers.syscall_info) c
      (fun _ c' => Becomes config c
        (c.world.stop tracee.tid tracee.task SYSCALL_STOP ptrace_event answers).1
        (c.world.stop tracee.tid tracee.task SYSCALL_STOP ptrace_event answers).2 c')
      (fun _ c' => Begins config c
        (c.world.stop tracee.tid tracee.task SYSCALL_STOP ptrace_event answers).2 c') := by
  have h₀ : Becomes config c c.world [] (c.asking .PTRACE_GET_SYSCALL_INFO tracee.tid) :=
    .of_eq config rfl rfl
  have hold₀ : (c.asking .PTRACE_GET_SYSCALL_INFO tracee.tid).tracees.lookup tracee.tid =
      some tracee := hold
  unfold handle_syscall_stop World.stop
  rw [if_pos rfl, holds_bind, holds_measured_ptrace]
  show Holds _ (c.asking .PTRACE_GET_SYSCALL_INFO tracee.tid) _ _
  cases answers.syscall_info with
  | none => exact .silent rfl
  | some info =>
    simp only [holds_ite, holds_throw]
    refine ⟨fun _ => .silent rfl, fun _ => ⟨fun _ => .silent rfl, fun _ => ⟨fun hentry => ⟨fun _ =>
      .silent rfl, fun _ => ?_⟩, fun hentry => ⟨fun _ => ⟨fun _ => .silent rfl, fun _ => ?_⟩,
      fun _ => .silent rfl⟩⟩⟩⟩
    · rw [if_pos hentry]
      apply (begin_syscall_replaces hold₀ info.nr info.args).mono
      · intro _ c' hpost
        rcases hpost with ⟨new, hnew, hreplaces⟩
        have h := h₀.trans hreplaces.becomes
        rw [hnew] at h
        exact h
      · exact fun _ _ h => h
    · rw [if_neg hentry]
      apply (finish_syscall_replaces hold₀ info.rval info.is_error).mono
      · intro _ c' hpost
        rcases hpost with ⟨new, hnew, hreplaces⟩
        have h := h₀.trans hreplaces.becomes
        rw [hnew] at h
        exact h
      · exact fun _ _ hsame => .silent hsame

theorem handle_seccomp_stop_becomes (hold : c.tracees.lookup tracee.tid = some tracee) {stop : Int}
    (hsyscall : stop ≠ SYSCALL_STOP) (answers : Answers) :
    Holds (handle_seccomp_stop config env tracee answers.syscall_info) c
      (fun _ c' => Becomes config c
        (c.world.stop tracee.tid tracee.task stop PTRACE_EVENT_SECCOMP answers).1
        (c.world.stop tracee.tid tracee.task stop PTRACE_EVENT_SECCOMP answers).2 c')
      (fun _ c' => Begins config c
        (c.world.stop tracee.tid tracee.task stop PTRACE_EVENT_SECCOMP answers).2 c') := by
  have h₀ : Becomes config c c.world [] (c.asking .PTRACE_GET_SYSCALL_INFO tracee.tid) :=
    .of_eq config rfl rfl
  have hold₀ : (c.asking .PTRACE_GET_SYSCALL_INFO tracee.tid).tracees.lookup tracee.tid =
      some tracee := hold
  unfold handle_seccomp_stop World.stop
  rw [if_neg hsyscall, if_neg (by decide), if_pos rfl, holds_bind, holds_measured_ptrace]
  show Holds _ (c.asking .PTRACE_GET_SYSCALL_INFO tracee.tid) _ _
  cases answers.syscall_info with
  | none => exact .silent rfl
  | some info =>
    simp only [holds_ite, holds_throw]
    refine ⟨fun _ => .silent rfl, fun _ => ⟨fun _ => .silent rfl, fun _ => ⟨fun _ => .silent rfl,
      fun _ => ⟨fun _ => .silent rfl, fun _ => ?_⟩⟩⟩⟩
    apply (begin_syscall_replaces hold₀ info.nr info.args).mono
    · intro _ c' hpost
      rcases hpost with ⟨new, hnew, hreplaces⟩
      have h := h₀.trans hreplaces.becomes
      rw [hnew] at h
      exact h
    · exact fun _ _ h => h

theorem handle_ptrace_event_becomes (hold : c.tracees.lookup tracee.tid = some tracee) {stop : Int}
    (hsyscall : stop ≠ SYSCALL_STOP) {ptrace_event : Nat} (hstop : ptrace_event ≠ PTRACE_EVENT_STOP)
    (hevent : ptrace_event ≠ 0) (answers : Answers) :
    Holds (handle_ptrace_event config env tracee ptrace_event answers) c
      (fun _ c' => Becomes config c
        (c.world.stop tracee.tid tracee.task stop ptrace_event answers).1
        (c.world.stop tracee.tid tracee.task stop ptrace_event answers).2 c')
      (fun _ c' => Begins config c
        (c.world.stop tracee.tid tracee.task stop ptrace_event answers).2 c') := by
  unfold handle_ptrace_event
  by_cases hseccomp : ptrace_event = PTRACE_EVENT_SECCOMP
  · rw [if_pos hseccomp, hseccomp]
    exact handle_seccomp_stop_becomes hold hsyscall answers
  · unfold World.stop
    rw [if_neg hseccomp, if_neg hsyscall, if_neg hstop, if_neg hseccomp]
    by_cases hexec : ptrace_event = PTRACE_EVENT_EXEC
    · rw [if_pos hexec, if_pos hexec]
      exact (handle_exec_event_becomes hold).mono (fun _ _ h => h) fun _ _ hsame => .silent hsame
    · rw [if_neg hexec, if_neg hexec, if_pos hevent]
      split
      · exact .silent rfl
      · exact (handle_child_event_becomes hold ptrace_event answers).mono (fun _ _ h => h)
          fun _ _ hsame => .silent hsame

/-- The record of a task that is no longer newborn, whatever else changes. -/
theorem Becomes.grown (hold : c.tracees.lookup tracee.tid = some tracee) {t : Tracee}
    (htid : t.tid = tracee.tid) (htask : t.task = { tracee.task with newborn := false }) :
    Becomes config c (c.world.set tracee.tid (some { tracee.task with newborn := false })) []
      { c with tracees := c.tracees.write t } := by
  have h := (Becomes.refl config c).store (t := t) (by rw [htid, hold]; rfl)
  rwa [htid, htask] at h

theorem handle_signal_stop_becomes (hold : c.tracees.lookup tracee.tid = some tracee) {stop : Int}
    (hsyscall : stop ≠ SYSCALL_STOP) (hswallow : (tracee.newborn && decide (stop = SIGSTOP)) = false)
    (answers : Answers) :
    Holds (handle_signal_stop config env tracee stop answers.signal_info) c
      (fun _ c' => Becomes config c (c.world.stop tracee.tid tracee.task stop 0 answers).1
        (c.world.stop tracee.tid tracee.task stop 0 answers).2 c')
      (fun _ c' => c'.told = c.told) := by
  have h₀ : Becomes config c c.world [] (c.asking .PTRACE_GETSIGINFO tracee.tid) :=
    .of_eq config rfl rfl
  have hold₀ : (c.asking .PTRACE_GETSIGINFO tracee.tid).tracees.lookup tracee.tid =
      some tracee := hold
  have hnewborn : ¬(tracee.task.newborn && decide (stop = SIGSTOP)) = true := by
    show ¬(tracee.newborn && decide (stop = SIGSTOP)) = true
    rw [hswallow]
    decide
  have hworld : c.world.stop tracee.tid tracee.task stop 0 answers =
      c.world.signal tracee.tid tracee.task answers.signal_info := by
    unfold World.stop
    rw [if_neg hsyscall, if_neg (by decide), if_neg (by decide), if_neg (by decide),
      if_neg (by decide), if_neg hnewborn]
  rw [hworld]
  unfold handle_signal_stop
  rw [holds_bind, holds_measured_ptrace]
  show Holds _ (c.asking .PTRACE_GETSIGINFO tracee.tid) _ _
  cases answers.signal_info with
  | ok info =>
    simp only [holds_bind, holds_store, holds_pure]
    have h₁ := h₀.trans (.grown hold₀
      (t := { tracee with newborn := false, pending_signal := stop }) rfl rfl)
    apply (write_stamped_becomes _ _ (fun _ => rfl) rfl).mono
    · intro _ c' h₂
      have h := h₁.trans h₂
      rw [h₁.world] at h
      exact h
    · exact fun _ _ hsame => hsame
  | einval =>
    simp only [holds_ite, holds_bind, holds_store, holds_pure, holds_throw]
    refine ⟨fun _ => ?_, fun _ => rfl⟩
    exact h₀.trans (.restore hold₀ (t := { tracee with phase := .SG_TRACEE_GROUP_STOPPED }) rfl rfl)
  | failed => rfl

/-- **A stop** of a task in the table. -/
theorem handle_stop_becomes (hold : c.tracees.lookup tracee.tid = some tracee) (stop : Int)
    (ptrace_event : Nat) (answers : Answers) :
    Holds (handle_stop config env tracee stop ptrace_event answers) c
      (fun _ c' => Becomes config c
        (c.world.stop tracee.tid tracee.task stop ptrace_event answers).1
        (c.world.stop tracee.tid tracee.task stop ptrace_event answers).2 c')
      (fun _ c' => Begins config c
        (c.world.stop tracee.tid tracee.task stop ptrace_event answers).2 c') := by
  unfold handle_stop
  by_cases hsyscall : stop = SYSCALL_STOP
  · rw [if_pos hsyscall, hsyscall, holds_bind]
    exact handle_syscall_stop_becomes hold ptrace_event answers
  · rw [if_neg hsyscall]
    by_cases hstop : ptrace_event = PTRACE_EVENT_STOP
    · have hworld : c.world.stop tracee.tid tracee.task stop ptrace_event answers =
          (c.world.set tracee.tid (some { tracee.task with newborn := false }), []) := by
        unfold World.stop
        rw [if_neg hsyscall, if_pos hstop]
      rw [if_pos hstop, hworld]
      -- A group stop or not, the task is no longer newborn.
      split
      · exact .grown hold rfl rfl
      · exact .grown hold rfl rfl
    · rw [if_neg hstop]
      by_cases hevent : ptrace_event ≠ 0
      · rw [if_pos hevent, holds_bind]
        exact handle_ptrace_event_becomes hold hsyscall hstop hevent answers
      · have hevent : ptrace_event = 0 := not_not.mp hevent
        rw [if_neg (by simp [hevent]), hevent]
        by_cases hswallow : (tracee.newborn && decide (stop = SIGSTOP)) = true
        · -- The automatic `SIGSTOP` of a new task.
          have hnewborn : (tracee.task.newborn && decide (stop = SIGSTOP)) = true := hswallow
          have hworld : c.world.stop tracee.tid tracee.task stop 0 answers =
              (c.world.set tracee.tid (some { tracee.task with newborn := false }), []) := by
            unfold World.stop
            rw [if_neg hsyscall, if_neg (by decide), if_neg (by decide), if_neg (by decide),
              if_neg (by decide), if_pos hnewborn]
          rw [if_pos hswallow, hworld]
          exact .grown hold rfl rfl
        · rw [if_neg hswallow]
          exact (handle_signal_stop_becomes hold hsyscall (by simpa using hswallow) answers).mono
            (fun _ _ h => h) fun _ _ hsame => .silent hsame

/-- A restart is not told. -/
theorem restart_tracee_becomes (signal : Int) (listen : Bool) (answer : RestartAnswer) :
    Holds (restart_tracee config env tid signal listen answer) c
      (fun restarted c' => (restarted = true ↔ (c.world tid).isSome ∧ answer = .ok) ∧
        Becomes config c c.world [] c')
      (fun _ c' => c'.told = c.told) := by
  apply holds_restart_tracee
  · intro hunknown
    rw [Context.world_none.mpr hunknown]
    exact ⟨by simp, .refl config c⟩
  · intro tracee hold hanswer
    rw [Context.world_of hold]
    have htid : tracee.tid = tid := Tracees.lookup_tid hold
    subst htid
    have h₀ : Becomes config c c.world [] (c.asked_restart config tracee signal listen) :=
      .of_eq config rfl rfl
    exact ⟨by simp [hanswer], h₀.trans (.restore (c := c.asked_restart config tracee signal listen)
      hold (t := tracee.resumed listen) rfl rfl)⟩
  · intro tracee _ hanswer
    exact ⟨by simp [hanswer], .of_eq config rfl rfl⟩
  · exact fun _ _ _ => rfl

/-! ### Rounds -/

/-- A task that has been reported arrives. -/
theorem observe_exec_becomes (waited : Pid) (stop : Int) (ptrace_event : Nat) (answers : Answers) :
    Holds (observe_exec config env waited (.stopped stop ptrace_event) answers) c
      (fun _ c' => Becomes config c
        (c.world.renamed config waited ptrace_event answers) [] c')
      (fun _ c' => c'.told = c.told) := by
  unfold observe_exec World.renamed
  by_cases hexec : ptrace_event = PTRACE_EVENT_EXEC
  · dsimp only
    rw [if_pos hexec, if_pos hexec, holds_bind, holds_measured_ptrace]
    have h₀ : Becomes config c c.world [] (c.asking .PTRACE_GETEVENTMSG waited) :=
      .of_eq config rfl rfl
    show Holds _ (c.asking .PTRACE_GETEVENTMSG waited) _ _
    cases answers.eventmsg with
    | none => exact rfl
    | some former =>
      simp only [holds_ite, holds_throw]
      refine ⟨fun _ => rfl, fun _ => ?_⟩
      apply (migrate_exec_tid_spec waited former).mono
      · intro _ c' hpost
        by_cases hsame : (former : Pid) = waited
        · rw [if_pos hsame] at hpost
          have hrename : c.world.rename config waited former = c.world := if_pos hsame
          rw [hrename, hpost]
          exact h₀
        · rw [if_neg hsame] at hpost
          exact h₀.trans (hpost.becomes hsame)
      · intro _ c' hlines
        exact congrArg (List.filterMap Line.told) hlines
  · dsimp only
    rw [if_neg hexec, if_neg hexec, holds_pure]
    exact .refl config c

theorem find_tracee_becomes (waited : Pid) (stop : Int) (ptrace_event : Nat) (answers : Answers) :
    Holds (find_tracee config env waited (.stopped stop ptrace_event) answers) c
      (fun found c' => found = c'.tracees.lookup waited ∧ Becomes config c
        (if config.follow then
          c.world.register waited (.fresh
            (if answers.waited_tgid ≤ 0 then waited else answers.waited_tgid)
            (config.mode = .SG_RUN_ATTACH) true)
        else c.world) [] c')
      (fun _ c' => c'.told = c.told) := by
  unfold find_tracee
  rw [holds_bind, holds_get, Tracees.get_eq]
  cases hknown : c.tracees.lookup waited with
  | some tracee =>
    -- A known task is not registered again.
    have hregister : ∀ task, c.world.register waited task = c.world := by
      intro task
      unfold World.register
      rw [Context.world_of hknown]
    rw [hregister, ite_self]
    exact ⟨hknown.symm, .refl config c⟩
  | none =>
    -- A task that nobody knows is registered only with `-f`.
    by_cases hfollow : config.follow = true
    · simp only [hfollow, if_true, holds_bind]
      apply (add_tracee_spec waited _ _ true).mono
      · intro _ c' hpost
        rcases hpost with ⟨_, _, hreg⟩
        rw [holds_get, Tracees.get_eq]
        exact ⟨rfl, hreg.becomes config⟩
      · intro _ c' hpost
        rcases hpost with ⟨hsame, _⟩
        exact congrArg (fun output => output.lines.filterMap Line.told) hsame.output
    · simp only [hfollow, Bool.false_eq_true, if_false, holds_pure]
      exact ⟨hknown.symm, .refl config c⟩

/-- The end of a task. -/
theorem handle_exit_becomes (hold : c.tracees.lookup tracee.tid = some tracee) {status : WaitStatus}
    {exit : ProcessExit} (hexit : ∀ t : Tracee, report_exit config env t status =
      write_stamped config env t (.process_exit exit)) :
    Holds (handle_exit config env tracee tracee.tid status) c
      (fun _ c' => Becomes config c (c.world.set tracee.tid none)
        [⟨tracee.tid, tracee.tgid, .process_exit exit⟩] c')
      (fun _ c' => c'.told = c.told) := by
  have h₀ : Becomes config c c.world []
      { c with tracees := c.tracees.write { tracee with phase := .SG_TRACEE_GONE } } :=
    .restore hold rfl rfl
  apply holds_handle_exit fun c' =>
    Becomes config c c.world [⟨tracee.tid, tracee.tgid, .process_exit exit⟩] c'
  · exact fun _ => rfl
  · rw [hexit]
    apply (write_stamped_becomes _ _ (fun _ => rfl) rfl).mono
    · intro _ c' h₁
      have h := h₀.trans h₁
      rw [h₀.world] at h
      exact h
    · exact fun _ _ hsame => hsame
  · intro c₁ c₂ c₃ h₁ htracees _ houtput hd
    have h₂ : Becomes config c₁ c₁.world [] c₂ := .of_eq config htracees (by rw [houtput])
    have h := (h₁.trans h₂).trans (hd.becomes config)
    rw [h₂.world, h₁.world, List.append_nil, List.append_nil] at h
    exact h

/-- **A round** takes the world one report further. -/
theorem handle_status_becomes (report : Report) {waited : Pid} {status : WaitStatus}
    {answers : Answers} (hwaited : report.waited = .status waited status answers) :
    Holds (handle_status config env waited status answers report.shutdown_signal) c
      (fun ended c' => ended = c.world.ends config report ∧
        Becomes config c (c.world.handle config waited status answers).1
          (c.world.handle config waited status answers).2 c')
      (fun _ c' => Begins config c (c.world.handle config waited status answers).2 c') := by
  -- Only a stop can end the loop.
  have hgoes_on : ∀ {status : WaitStatus}, report.waited = .status waited status answers →
      (∀ stop ptrace_event, status ≠ .stopped stop ptrace_event) →
      c.world.ends config report = .again := by
    intro status hwaited hstatus
    unfold World.ends
    rw [hwaited]
    cases status with
    | stopped stop ptrace_event => exact absurd rfl (hstatus stop ptrace_event)
    | _ => rfl
  -- Both ways of ending are told alike, up to the status.
  have hended : ∀ {status : WaitStatus} (exit : ProcessExit),
      report.waited = .status waited status answers →
      (∃ code, status = .exited code) ∨ (∃ signal, status = .signaled signal) →
      (∀ t : Tracee, report_exit config env t status =
        write_stamped config env t (.process_exit exit)) →
      Holds (handle_status config env waited status answers report.shutdown_signal) c
        (fun ended c' => ended = c.world.ends config report ∧ Becomes config c
          (c.world.gone waited exit).1 (c.world.gone waited exit).2 c')
        (fun _ c' => c'.told = c.told) := by
    intro status exit hwaited hend hexit
    have hagain : c.world.ends config report = .again := by
      apply hgoes_on hwaited
      obtain ⟨code, rfl⟩ | ⟨signal, rfl⟩ := hend
      · simp
      · simp
    rw [hagain]
    apply holds_handle_status_ended hend
    · intro hknown
      -- Nobody knows the task.
      have hgone : c.world.gone waited exit = (c.world, []) := by
        unfold World.gone
        rw [Context.world_none.mpr hknown]
      rw [hgone]
      exact ⟨rfl, .refl config c⟩
    · intro tracee htid hold
      subst htid
      have hgone : c.world.gone tracee.tid exit = (c.world.set tracee.tid none,
          [⟨tracee.tid, tracee.tgid, .process_exit exit⟩]) := by
        unfold World.gone
        rw [Context.world_of hold]
        rfl
      rw [hgone]
      exact (handle_exit_becomes hold hexit).mono (fun _ _ h => ⟨rfl, h⟩) fun _ _ h => h
  cases status with
  | continued =>
    rw [hgoes_on hwaited (by simp)]
    unfold World.handle World.arrive
    apply holds_handle_status_continued
    · exact fun _ => ⟨rfl, .refl config c⟩
    · intro tracee htid hold
      subst htid
      exact ⟨rfl, .restore hold rfl rfl⟩
  | exited code =>
    apply (hended ⟨code, false⟩ hwaited (Or.inl ⟨code, rfl⟩) fun _ => rfl).mono
    · exact fun _ _ h => h
    · exact fun _ _ hsame => .silent hsame
  | signaled signal =>
    apply (hended ⟨signal, true⟩ hwaited (Or.inr ⟨signal, rfl⟩) fun _ => rfl).mono
    · exact fun _ _ h => h
    · exact fun _ _ hsame => .silent hsame
  | stopped stop ptrace_event =>
    -- First `execve` and births, then the stop itself, then the restart.
    have hends : c.world.ends config report =
        if (c.world.arrive config waited (.stopped stop ptrace_event) answers waited).isSome then
          if answers.restart = .ok then test_shutdown report.shutdown_signal else .again
        else .again := by
      unfold World.ends
      rw [hwaited]
      dsimp only
      cases c.world.arrive config waited (.stopped stop ptrace_event) answers waited with
      | none => rfl
      | some task => rfl
    unfold handle_status
    rw [hends, holds_bind]
    apply (observe_exec_becomes waited stop ptrace_event answers).mono
    · intro _ c₁ h₁
      have hobserved : c₁.told = c.told := by rw [h₁.told, Config.kept_nil, List.append_nil]
      rw [holds_bind]
      apply (find_tracee_becomes waited stop ptrace_event answers).mono
      · intro found c₂ hpost
        rcases hpost with ⟨hfound, h₂⟩
        have harrive : Becomes config c
            (c.world.arrive config waited (.stopped stop ptrace_event) answers) [] c₂ := by
          have h := h₁.trans h₂
          rw [h₁.world] at h
          exact h
        unfold World.handle
        dsimp only
        rw [← harrive.world, hfound]
        cases hknown : c₂.tracees.lookup waited with
        | none =>
          -- A task that is not followed.
          rw [Context.world_none.mpr hknown]
          exact ⟨rfl, rfl, harrive.told⟩
        | some tracee =>
          have htid : tracee.tid = waited := Tracees.lookup_tid hknown
          subst htid
          rw [Context.world_of hknown]
          -- The record is marked as stopped before anything else happens to it.
          let stopped : Tracee := { tracee with in_ptrace_stop := true, phase := .SG_TRACEE_STOPPED }
          have h₃ : Becomes config c₂ c₂.world [] { c₂ with tracees := c₂.tracees.write stopped } :=
            .restore hknown rfl rfl
          have hold₃ : (c₂.tracees.write stopped).lookup stopped.tid = some stopped := by
            rw [Tracees.lookup_write]
            exact if_pos ⟨rfl, by show (c₂.tracees.lookup tracee.tid).isSome = true; rw [hknown]; rfl⟩
          -- The round has told nothing so far.
          have hsilent : ∀ {tales : List Told} (c' : Context),
              Begins config { c₂ with tracees := c₂.tracees.write stopped } tales c' →
              Begins config c tales c' := by
            intro tales c' hbegins
            have htold : ({ c₂ with tracees := c₂.tracees.write stopped } : Context).told = c.told := by
              rw [h₃.told, harrive.told, Config.kept_nil, List.append_nil, List.append_nil]
            exact hbegins.after_silence htold
          simp only [holds_bind, holds_store, holds_pure]
          apply (handle_stop_becomes hold₃ stop ptrace_event answers).mono
          · intro result c₄ h₄
            have h₄ : Becomes config { c₂ with tracees := c₂.tracees.write stopped }
                (c₂.world.stop tracee.tid tracee.task stop ptrace_event answers).1
                (c₂.world.stop tracee.tid tracee.task stop ptrace_event answers).2 c₄ := by
              rw [← h₃.world]
              exact h₄
            apply (restart_tracee_becomes result.1 result.2 answers.restart).mono
            · intro restarted c₅ hpost
              rcases hpost with ⟨hrestarted, h₅⟩
              have hkept : (c₄.world tracee.tid).isSome := by
                rw [h₄.world]
                exact World.stop_keeps (Context.world_of hknown) stop ptrace_event answers
              have h := (harrive.trans h₃).trans (h₄.trans h₅)
              rw [h₄.world, List.append_nil, List.append_nil, List.nil_append] at h
              refine ⟨?_, h⟩
              rw [if_pos (show (some tracee.task).isSome = true from rfl)]
              -- The loop looks for a shutdown only when the task runs again.
              by_cases hok : answers.restart = .ok
              · rw [if_pos hok, if_pos (hrestarted.mpr ⟨hkept, hok⟩)]
              · rw [if_neg hok, if_neg fun h => hok (hrestarted.mp h).2]
            · intro _ c₅ hsame
              exact hsilent _ (.all (by rw [hsame]; exact h₄.told))
          · intro _ c₄ hbegins
            rw [h₃.world] at hbegins
            exact hsilent _ hbegins
      · exact fun _ _ hsame => .silent (hsame.trans hobserved)
    · exact fun _ _ hsame => .silent hsame

theorem loop_round_becomes (report : Report) :
    Holds (loop_round config env report) c
      (fun ended c' => ended = c.world.ends config report ∧
        Becomes config c (c.world.observe config report).1 (c.world.observe config report).2 c')
      (fun _ c' => Begins config c (c.world.observe config report).2 c') := by
  unfold loop_round World.observe
  cases hwaited : report.waited with
  | eintr =>
    refine ⟨?_, .refl config c⟩
    unfold World.ends
    rw [hwaited]
  | failed => exact .silent rfl
  | status waited status answers => exact handle_status_becomes report hwaited

theorem Context.world_empty : c.world = World.empty ↔ c.tracees.count = 0 := by
  rw [Tracees.count_eq_zero]
  constructor
  · intro h tid
    exact Context.world_none.mp (congrFun h tid)
  · intro h
    funext tid
    exact Context.world_none.mpr (h tid)

/-- **The loop** tells what the abstract tracer tells of the reports. -/
theorem trace_rounds_tells (reports : List Report) : ∀ {c : Context},
    Holds (trace_rounds config env reports) c
      (fun _ c' => c'.told = c.told ++ config.kept (c.world.trace config reports))
      (fun _ c' => Begins config c (c.world.trace config reports) c') := by
  induction reports with
  | nil =>
    intro c
    unfold trace_rounds World.trace
    rw [holds_bind, holds_get, holds_pure, Config.kept_nil, List.append_nil]
  | cons report reports ih =>
    intro c
    unfold trace_rounds World.trace
    rw [holds_bind, holds_get, holds_ite]
    refine ⟨fun hcount => ?_, fun hcount => ?_⟩
    · rw [if_pos (Context.world_empty.mpr hcount), holds_pure, Config.kept_nil, List.append_nil]
    · rw [if_neg (fun h => hcount (Context.world_empty.mp h)), holds_bind]
      apply (loop_round_becomes report).mono
      · intro ended c₁ hpost
        rcases hpost with ⟨hended, h₁⟩
        rw [← hended]
        cases ended with
        | again =>
          dsimp only
          rw [← h₁.world]
          apply ih.mono
          · intro _ c₂ h₂
            rw [h₂, h₁.told, Config.kept_append, List.append_assoc]
          · intro _ c₂ h₂
            exact .after h₁.told h₂
        | finished command_status =>
          dsimp only
          rw [List.append_nil, holds_pure]
          exact h₁.told
      · intro _ c₁ h₁
        exact h₁.append _

/-! ### The beginning of a run -/

theorem Context.init_world : Context.init.world = World.empty := by
  funext tid
  have hnone : Context.init.tracees.lookup tid = none := Tracees.count_eq_zero.mp rfl tid
  exact Context.world_none.mpr hnone

/-- The first stop and the options change the record of the child, but not its task. -/
theorem launch_becomes (answers : LaunchAnswers) :
    Holds (launch config env answers) .init
      (fun _ c => Becomes config .init answers.world [] c) (fun _ c => c.told = []) := by
  unfold launch LaunchAnswers.world
  cases answers.child with
  | error error => exact rfl
  | ok child =>
    simp only [holds_bind, holds_modify]
    apply (add_tracee_spec child child false false).mono
    · intro _ c₁ hpost
      rcases hpost with ⟨_, _, hreg⟩
      have h₀ : Becomes config .init Context.init.world [] { Context.init with root_tid := child } :=
        .of_eq config rfl rfl
      have h₁ := h₀.trans (hreg.becomes config)
      rw [h₀.world, Context.init_world] at h₁
      have hsilent : c₁.told = [] := by
        have htold : c₁.told = [] ++ config.kept [] := h₁.told
        rw [htold, Config.kept_nil]
        rfl
      apply holds_wait_for_initial_stop
      · rw [holds_get, Tracees.get_eq]
        cases hknown : c₁.tracees.lookup child with
        | none => exact hsilent
        | some root =>
          have htid : root.tid = child := Tracees.lookup_tid hknown
          subst htid
          unfold install_ptrace_options
          simp only [holds_bind, holds_store, holds_onError, holds_measured_ptrace, holds_ite,
            holds_pure, holds_throw]
          refine ⟨fun _ => ⟨fun _ => ?_, fun _ => hsilent⟩, fun _ => hsilent⟩
          let stopped : Tracee := { root with in_ptrace_stop := true, phase := .SG_TRACEE_STOPPED }
          let asked : Context := { c₁ with
            tracees := c₁.tracees.write stopped
            requests := c₁.requests ++ [⟨.PTRACE_SETOPTIONS, root.tid, ptrace_options config true⟩] }
          have hstored : Becomes config c₁ c₁.world []
              { c₁ with tracees := c₁.tracees.write stopped } := .restore hknown rfl rfl
          have h₂ : Becomes config c₁ c₁.world [] asked := ⟨hstored.world, hstored.told⟩
          have hold : asked.tracees.lookup stopped.tid = some stopped := by
            show (c₁.tracees.write stopped).lookup stopped.tid = some stopped
            rw [Tracees.lookup_write]
            exact if_pos ⟨rfl, by show (c₁.tracees.lookup root.tid).isSome = true; rw [hknown]; rfl⟩
          have h₃ := h₂.trans
            (.restore hold (t := { stopped with options_installed := true }) rfl rfl)
          have h := h₁.trans h₃
          rw [h₂.world, h₁.world] at h
          exact h
      · exact fun _ => hsilent
    · intro _ c₁ hpost
      rcases hpost with ⟨hsame, _⟩
      exact congrArg (fun output => output.lines.filterMap Line.told) hsame.output

/-- A launched command is resumed with nothing but its child in the table. -/
theorem begin_run_becomes (answers : LaunchAnswers) :
    Holds (begin_run config env answers) .init
      (fun _ c => Becomes config .init answers.world [] c) (fun _ c => c.told = []) := by
  unfold begin_run
  rw [holds_bind]
  apply (launch_becomes answers).mono
  · intro _ c₁ h₁
    have hsilent : c₁.told = [] := by
      have htold : c₁.told = [] ++ config.kept [] := h₁.told
      rw [htold, Config.kept_nil]
      rfl
    unfold resume_root
    cases config.mode with
    | SG_RUN_ATTACH => exact h₁
    | SG_RUN_LAUNCH =>
      simp only [holds_bind, holds_get, Tracees.get_eq]
      cases hknown : c₁.tracees.lookup c₁.root_tid with
      | none => exact hsilent
      | some root =>
        have htid : root.tid = c₁.root_tid := Tracees.lookup_tid hknown
        unfold resume_tracee
        simp only [holds_bind, holds_measured_ptrace, holds_ite, holds_store, holds_throw]
        refine ⟨fun _ => ?_, fun _ => hsilent⟩
        let asked : Context := { c₁ with
          requests := c₁.requests ++ [⟨resume_request config root, root.tid, 0⟩] }
        have h₂ : Becomes config c₁ c₁.world [] asked := .of_eq config rfl rfl
        have hold : asked.tracees.lookup root.tid = some root := by
          rw [htid]
          exact hknown
        have h₃ := h₂.trans (.restore hold (t := { root with in_ptrace_stop := false }) rfl rfl)
        have h := h₁.trans h₃
        rw [h₂.world, h₁.world] at h
        exact h
  · exact fun _ _ hsilent => hsilent

/-- Every task has been seized, nothing is known about its calls, and nothing has been told. -/
structure Context.Seized (c : Context) (attach_pid : Pid) : Prop where
  world : ∀ tid task, c.world tid = some task → task = .fresh attach_pid true true
  told : c.told = []

variable {attach_pid : Pid}

theorem Context.Seized.becomes (h : c.Seized attach_pid) (h' : Becomes config c c.world [] c') :
    c'.Seized attach_pid :=
  ⟨by rw [h'.world]; exact h.world, by rw [h'.told, h.told, Config.kept_nil]; rfl⟩

/-- The same table and the same output. -/
theorem Context.Seized.same (h : c.Seized attach_pid) (htracees : c'.tracees = c.tracees)
    (houtput : c'.output = c.output) : c'.Seized attach_pid := by
  refine ⟨?_, ?_⟩
  · unfold Context.world
    rw [htracees]
    exact h.world
  · unfold Context.told
    rw [houtput]
    exact h.told

theorem Context.Seized.drops (h : c.Seized attach_pid) (hd : Drops c [tid] c') :
    c'.Seized attach_pid := by
  refine ⟨fun other task htask => ?_, ?_⟩
  · unfold Context.world at htask
    rw [hd.lookup] at htask
    split at htask
    · simp at htask
    · exact h.world other task htask
  · unfold Context.told
    rw [hd.output]
    exact h.told

theorem Context.Seized.registers (h : c.Seized attach_pid)
    (hreg : Registers c tid attach_pid true true c') : c'.Seized attach_pid := by
  refine ⟨fun other task htask => ?_, ?_⟩
  · unfold Context.world at htask
    rw [hreg.lookup] at htask
    split at htask
    · exact (Option.some.inj htask).symm
    · exact h.world other task htask
  · unfold Context.told
    rw [hreg.output]
    exact h.told

/-- The program seizes tasks, and tells nothing. -/
abbrev Seizes (attach_pid : Pid) {α : Type} (m : TraceM α) (c : Context) : Prop :=
  Keeps (fun c => c.Seized attach_pid) (fun c => c.Seized attach_pid) m c

theorem seize_task_keeps (h : c.Seized attach_pid) (answer : RestartAnswer) (tid : Pid) :
    Seizes attach_pid (seize_task config env attach_pid answer tid) c := by
  unfold seize_task
  apply keeps_get_bind
  cases c.tracees.get tid with
  | some tracee => exact h
  | none =>
    have hadded : Seizes attach_pid (add_tracee env tid attach_pid true true) c := by
      apply keeps_of_holds (add_tracee_spec tid attach_pid true true)
      · exact fun _ _ hpost => h.registers hpost.2.2
      · exact fun _ _ hpost => h.same hpost.1.tracees hpost.1.output
    apply keeps_bind hadded
    intro _ c₁ h₁
    have hasked : Seizes attach_pid
        (measured_ptrace .PTRACE_SEIZE tid (ptrace_options config false)) c₁ := h₁.same rfl rfl
    apply keeps_bind hasked
    intro _ c₂ h₂
    have hremoved : Seizes attach_pid (remove_tracee tid) c₂ := by
      apply keeps_of_holds (remove_tracee_spec (E := fun _ c' => c'.Seized attach_pid) tid)
      · exact fun _ _ hd => h₂.drops hd
      · exact fun _ _ h => h
    cases answer with
    | ok => exact h₂
    | esrch => exact keeps_bind hremoved fun _ _ h₃ => h₃
    | failed => exact keeps_bind hremoved fun _ _ h₃ => h₃

theorem seize_tasks_keeps (answers : Pid → RestartAnswer) (ids : List Pid) : ∀ {c : Context},
    c.Seized attach_pid → Seizes attach_pid (seize_tasks config env attach_pid answers ids) c := by
  induction ids with
  | nil => exact fun h => h
  | cons tid ids ih =>
    intro c h
    unfold seize_tasks
    apply keeps_bind (seize_task_keeps h (answers tid) tid)
    intro _ c₁ h₁
    exact keeps_bind (ih h₁) fun _ _ h₂ => h₂

theorem seize_rounds_keeps (answers : AttachAnswers) (rounds : Nat) : ∀ {round : Nat} {c : Context},
    c.Seized attach_pid →
      Seizes attach_pid (seize_rounds config env attach_pid answers rounds round) c := by
  induction rounds with
  | zero => exact fun h => h
  | succ rounds ih =>
    intro round c h
    unfold seize_rounds
    cases answers.task_ids round with
    | error error => exact h
    | ok ids =>
      apply keeps_bind (seize_tasks_keeps (answers.seize round) ids h)
      intro added c₁ h₁
      exact keeps_ite (fun _ => h₁) fun _ => ih h₁

/-- **The beginning of an attached run**: the seized tasks, about which nothing is known. -/
theorem attach_keeps (answers : AttachAnswers) (handlers : Bool) :
    Seizes attach_pid (attach config env attach_pid answers handlers) .init := by
  have hinit : Context.init.Seized attach_pid := by
    refine ⟨fun tid task htask => ?_, rfl⟩
    rw [Context.init_world] at htask
    simp [World.empty] at htask
  have hprepared : Seizes attach_pid (prepare_attach config env attach_pid answers) .init := by
    unfold prepare_attach
    cases answers.invalid with
    | some error => exact hinit
    | none =>
      apply keeps_bind (seize_rounds_keeps answers 64 hinit)
      intro stable c₁ h₁
      apply keeps_get_bind
      apply keeps_ite
      · exact fun _ => h₁
      · intro _
        have hasked : Seizes attach_pid ask c₁ := h₁.same rfl rfl
        apply keeps_bind hasked
        intro n c₂ h₂
        apply keeps_ite
        · exact fun _ => h₂
        · intro _
          apply keeps_bind (I := fun c : Context => c.Seized attach_pid)
          · apply keeps_forM (I := fun c : Context => c.Seized attach_pid) _ h₂
            intro tid _ c₃ h₃
            have hinterrupted : Seizes attach_pid (measured_ptrace .PTRACE_INTERRUPT tid 0) c₃ :=
              h₃.same rfl rfl
            apply keeps_bind hinterrupted
            intro _ c₄ h₄
            cases answers.interrupt tid with
            | ok => exact h₄
            | esrch => exact h₄
            | failed => exact h₄
          · exact fun _ _ h₃ => h₃.same rfl rfl
  unfold attach
  apply keeps_bind hprepared
  intro _ c h
  exact keeps_ite (fun _ => h) fun _ => h

/-! ### Whole runs -/

/-- From the first context on a run has told the tales, if it has succeeded, and else a part of
    them. -/
structure RefinesTracer (config : Config) {α : Type} (run : TraceM α) (tales : List Told) : Prop where
  succeeds : run.succeeds .init = true → (run.finalState .init).told = config.kept tales
  ends : Begins config .init tales (run.finalState .init)

theorem refines_tracer_of_holds {α : Type} {run : TraceM α}
    (h : Holds run .init (fun _ c => c.told = config.kept tales)
      (fun _ c => Begins config .init tales c)) : RefinesTracer config run tales := by
  constructor
  · intro hsucceeds
    obtain ⟨a, c, hexec⟩ := succeeds_iff.mp hsucceeds
    have htold := h.of_ok hexec
    unfold finalState
    rw [hexec]
    exact htold
  · apply Holds.at_end
    exact h.mono (fun _ _ htold => .all htold) fun _ _ hbegins => hbegins

/-- **A run refines the abstract tracer**, in either mode and in every environment: its lines
    tell what the abstract tracer tells of the reports, less what the configuration hides; a run
    that fails tells the first part of that. -/
theorem trace_refines (config : Config) (env : Env) :
    (∀ (answers : LaunchAnswers) (reports : List Report) (shutdown_signal : Int),
      RefinesTracer config (sg_trace_run config env answers reports shutdown_signal)
        (answers.world.trace config reports)) ∧
    (∀ (attach_pid : Pid) (answers : AttachAnswers) (handlers : Bool) (reports : List Report)
        (shutdown_signal : Int) (detached : Pid → DetachAnswer),
      let first := ((attach config env attach_pid answers handlers).finalState .init).world
      (∀ tid task, first tid = some task → task = .fresh attach_pid true true) ∧
      RefinesTracer config (sg_trace_run_attached config env attach_pid answers handlers reports
        shutdown_signal detached) (first.trace config reports)) := by
  have hbegins : ∀ {tales : List Told} {c : Context}, c.told = [] →
      Begins config .init tales c := fun h => .silent h
  constructor
  · intro answers reports shutdown_signal
    apply refines_tracer_of_holds
    unfold sg_trace_run
    simp only [holds_bind, holds_onError]
    apply (begin_run_becomes answers).mono
    · intro _ c₁ h₁
      have hsilent : c₁.told = [] := by
        have htold : c₁.told = [] ++ config.kept [] := h₁.told
        rw [htold, Config.kept_nil]
        rfl
      rw [← h₁.world]
      apply (trace_rounds_tells reports).mono
      · intro ended c₂ h₂
        rw [hsilent, List.nil_append] at h₂
        cases ended with
        | none => exact h₂
        | some command_status =>
          dsimp only
          simp only [holds_bind, holds_ite, holds_modify, holds_pure]
          exact ⟨fun _ => h₂, fun _ => h₂⟩
      · intro _ c₂ h₂
        have hsame : c₁.told = Context.init.told := hsilent
        exact .after_silence hsame h₂
    · exact fun _ _ hsilent => hbegins hsilent
  · intro attach_pid answers handlers reports shutdown_signal detached
    let attached : TraceM Unit := attach config env attach_pid answers handlers
    have hkeeps : Seizes attach_pid attached .init := attach_keeps answers handlers
    have hstart : (attached.finalState .init).Seized attach_pid := hkeeps.at_end fun _ h => h
    have hdetached : ∀ {c : Context}, (finalState (detach_all_tracees detached) c).told = c.told := by
      intro c
      have hholds := (CallInvariant.detach_all_tracees_silent detached c).mono
        (fun _ _ h => h.told) fun _ _ h => h.told
      exact Holds.at_end (P := fun c' : Context => c'.told = c.told) hholds
    refine ⟨hstart.world, ?_⟩
    apply refines_tracer_of_holds
    unfold sg_trace_run_attached
    simp only [holds_bind, holds_onError]
    apply (holds_final attached .init).mono
    · intro _ c₁ hfinal
      rw [← hfinal] at hstart ⊢
      apply (trace_rounds_tells reports).mono
      · intro ended c₂ h₂
        rw [hstart.told, List.nil_append] at h₂
        cases ended with
        | none => exact h₂
        | some command_status =>
          dsimp only
          simp only [holds_bind, holds_ite, holds_pure]
          refine ⟨fun _ => ?_, fun _ => h₂⟩
          apply (CallInvariant.detach_all_tracees_silent detached c₂).mono
          · exact fun _ c₃ hsilent => hsilent.told.trans h₂
          · intro _ c₃ hsilent
            have htold : c₃.told = Context.init.told ++ config.kept (c₁.world.trace config reports) :=
              hsilent.told.trans h₂
            exact .all htold
      · intro _ c₂ h₂
        have hsame : c₁.told = Context.init.told := hstart.told
        have hbegun : Begins config .init (c₁.world.trace config reports) c₂ :=
          .after_silence hsame h₂
        exact hbegun.then_silence hdetached
    · intro _ c₁ hfinal
      apply hbegins
      rw [hdetached, hfinal]
      exact hstart.told

/-- What one configuration keeps of what a more generous one has kept. -/
theorem Config.kept_kept {config' : Config} (hsummary : config.summary = false)
    (hselected : ∀ number, selected config' number = true → selected config number = true)
    (hformat : config.format = .SG_FORMAT_TEXT → config'.format = .SG_FORMAT_TEXT)
    (tales : List Told) : config'.kept (config.kept tales) = config'.kept tales := by
  have hshown : ∀ told : Told, (told.shown config).selected config' = told.selected config' := by
    intro told
    unfold Told.shown
    split
    · rfl
    · rfl
  have hnarrow : ∀ told : Told, told.selected config' = true → told.selected config = true := by
    intro told h
    rcases told with ⟨tid, tgid, tale⟩
    cases tale with
    | call outcome => exact hselected outcome.number h
    | signal signal => rfl
    | process_start start => rfl
    | process_exit exit => rfl
  have htwice : ∀ told : Told, (told.shown config).shown config' = told.shown config' := by
    intro told
    unfold Told.shown
    by_cases htext : config.format = .SG_FORMAT_TEXT
    · rw [if_pos htext, if_pos (hformat htext), if_pos (hformat htext)]
      rfl
    · rw [if_neg htext]
  unfold Config.kept Config.written
  rw [hsummary]
  split
  · rfl
  · simp only [Bool.false_eq_true, if_false]
    rw [List.filter_map, List.map_map, List.filter_filter]
    have hboth : (fun told => (Told.selected config' ∘ Told.shown config) told &&
        Told.selected config told) = Told.selected config' := by
      funext told
      show ((told.shown config).selected config' && told.selected config) = _
      rw [hshown]
      cases h : told.selected config' with
      | true => rw [hnarrow told h]; rfl
      | false => rfl
    rw [hboth]
    exact List.map_congr_left fun told _ => htwice told

/-- **Filter and format are projections.**  Two runs that see the same reports and follow the
    same tasks tell the same, whatever their environments are: the run that shows less tells
    what is kept of the lines of the other one. -/
theorem filter_projects (config config' : Config) (env env' : Env)
    (hfollow : config'.follow = config.follow) (hmode : config'.mode = config.mode)
    (hsummary : config.summary = false)
    (hselected : ∀ number, selected config' number = true → selected config number = true)
    (hformat : config.format = .SG_FORMAT_TEXT → config'.format = .SG_FORMAT_TEXT)
    (answers answers' : LaunchAnswers) (hchild : answers'.child = answers.child)
    (reports : List Report) (shutdown_signal shutdown_signal' : Int) :
    let run := sg_trace_run config env answers reports shutdown_signal
    let run' := sg_trace_run config' env' answers' reports shutdown_signal'
    run.succeeds .init = true → run'.succeeds .init = true →
      (run'.finalState .init).told = config'.kept (run.finalState .init).told := by
  intro run run' hrun hrun'
  have hworld : answers'.world = answers.world := by
    unfold LaunchAnswers.world
    rw [hchild]
  have htold := ((trace_refines config env).1 answers reports shutdown_signal).succeeds hrun
  have htold' := ((trace_refines config' env').1 answers' reports shutdown_signal').succeeds hrun'
  rw [htold, htold', hworld, World.trace_congr hfollow hmode,
    Config.kept_kept hsummary hselected hformat]

/-- Only `write` is shown, in text. -/
def Config.writes : Config := { Config.following with filter := ⟨#v[2, 0, 0, 0, 0, 0, 0, 0], true⟩ }

/-- The same, with everything shown in JSON. -/
def Config.verbose : Config := { Config.following with format := .SG_FORMAT_NDJSON }

theorem filter_projects_writes :
    (finalState (sg_trace_run .writes .reliable .plain crossing_reports 0) .init).told =
        Config.writes.kept
          (finalState (sg_trace_run .verbose .reliable .plain crossing_reports 0) .init).told ∧
      (finalState (sg_trace_run .writes .reliable .plain crossing_reports 0) .init).told.length = 3 := by
  have hrun : (sg_trace_run .verbose .reliable .plain crossing_reports 0).succeeds .init = true := by
    decide +kernel
  have hrun' : (sg_trace_run .writes .reliable .plain crossing_reports 0).succeeds .init = true := by
    decide +kernel
  have hselected : ∀ number, selected .writes number = true → selected .verbose number = true :=
    fun _ _ => rfl
  have hformat : Config.verbose.format = .SG_FORMAT_TEXT → Config.writes.format = .SG_FORMAT_TEXT :=
    fun _ => rfl
  exact ⟨filter_projects .verbose .writes .reliable .reliable rfl rfl rfl hselected hformat .plain
    .plain rfl crossing_reports 0 0 hrun hrun', by decide +kernel⟩

end abstraction

end Sysgaze
