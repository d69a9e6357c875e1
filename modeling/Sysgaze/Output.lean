import Sysgaze.Event
import Sysgaze.Filter
import Sysgaze.Lib.Fallible

/-! # The output (`output.c`)

    Events go to a log of lines.  A line is kept as what it is a line of; the
    three forms of a text line about a call are told apart by their
    constructor.  In text mode the output remembers the TIDs whose last line
    was left unfinished, in a growing array.

    What the operating system and the C library answer comes from an `Env`:
    the answer to the `n`-th question of a run is a function of `n`.
-/

namespace Sysgaze

/-! ### The environment -/

/-- The answers of the operating system and the C library. -/
structure Env where
  /-- `clock_gettime`, or `none` when it fails. -/
  clock : Nat → Option Timespec
  /-- `calloc` and `realloc`. -/
  alloc : Nat → Bool
  /-- The allocations made while an event is rendered. -/
  render : Nat → Bool
  /-- `fwrite` and `fflush`. -/
  write : Nat → Bool
  /-- `sg_decoder_capture_entry`, which reads the memory of a tracee: the
      argument count and the decoded arguments, or `none` when it fails. -/
  capture : Nat → Pid → SyscallEvent → Option (Nat × Vector (Option Text) 6)
  /-- The text of the `errno` of a call that fails. -/
  strerror : String

/-- An environment in which nothing fails. -/
structure Env.Succeeds (env : Env) : Prop where
  clock : ∀ n, (env.clock n).isSome
  alloc : ∀ n, env.alloc n = true
  render : ∀ n, env.render n = true
  write : ∀ n, env.write n = true
  capture : ∀ n tid event, (env.capture n tid event).isSome

/-- An environment in which nothing fails, no argument is decoded, and the clock shows
    the number of the question. -/
def Env.reliable : Env where
  clock n := some ⟨n, 0⟩
  alloc _ := true
  render _ := true
  write _ := true
  capture _ _ _ := some (0, Vector.replicate 6 none)
  strerror := ""

theorem Env.reliable_succeeds : Env.reliable.Succeeds :=
  ⟨fun _ => rfl, fun _ => rfl, fun _ => rfl, fun _ => rfl, fun _ _ _ => rfl⟩

/-! ### Configuration -/

/-- `enum sg_run_mode`. -/
inductive RunMode where
  | SG_RUN_LAUNCH
  | SG_RUN_ATTACH
  deriving DecidableEq, Repr

/-- `enum sg_output_format`. -/
inductive OutputFormat where
  | SG_FORMAT_TEXT
  | SG_FORMAT_NDJSON
  | SG_FORMAT_JSON
  deriving DecidableEq, Repr

/-- `struct sg_config`, as far as tracing depends on it.  `sg_output_init` copies
    `format` and `summary` into the output, where nothing changes them. -/
structure Config where
  mode : RunMode
  format : OutputFormat
  follow : Bool
  summary : Bool
  seccomp_bpf : Bool
  filter : Filter

/-- The configuration of a launched command without any option but the format. -/
def Config.plain (format : OutputFormat) : Config where
  mode := .SG_RUN_LAUNCH
  format := format
  follow := false
  summary := false
  seccomp_bpf := false
  filter := ⟨Vector.replicate 8 0, false⟩

/-! ### The log -/

/-- A line of the trace. -/
inductive Line where
  /-- `NAME(ARGUMENTS <unfinished ...>` -/
  | unfinished (tid : Pid) (call : SyscallEvent)
  /-- `<... NAME resumed>) = RESULT` -/
  | resumed (tid : Pid) (call : SyscallEvent)
  /-- `NAME(ARGUMENTS) = RESULT` -/
  | syscall (tid : Pid) (call : SyscallEvent)
  /-- A text line about anything but a call. -/
  | text (event : Event)
  /-- One NDJSON record. -/
  | json (event : Event)
  /-- Not a line: the place in the log where a TID was renamed. -/
  | renamed (former current : Pid)
  deriving DecidableEq, Repr

/-- The completed call that a line reports, and its TID. -/
def Line.completed : Line → Option (Pid × SyscallEvent)
  | .resumed tid call => some (tid, call)
  | .syscall tid call => some (tid, call)
  | .json ⟨tid, _, _, .syscall call⟩ => some (tid, call)
  | _ => none

/-- `struct sg_output`; `asked` counts the questions put to the environment. -/
structure Output where
  unfinished_tids : List Pid
  unfinished_capacity : Nat
  lines : List Line
  asked : Nat
  deriving DecidableEq, Repr

/-- `sg_output_init`. -/
def sg_output_init : Output := ⟨[], 0, [], 0⟩

/-- Programs that write to the output. -/
abbrev OutputM := Fallible String Output

namespace Output

/-- The number of the next question. -/
def ask : OutputM Nat := do
  let output ← get
  set { output with asked := output.asked + 1 }
  pure output.asked

/-- `unfinished_contains`. -/
def unfinished_contains (output : Output) (tid : Pid) : Bool :=
  output.unfinished_tids.contains tid

/-- `unfinished_remove` on the array: the last entry moves into the gap. -/
def swap_remove (tids : List Pid) (tid : Pid) : List Pid :=
  match tids.getLast? with
  | none => tids
  | some last => (tids.set (tids.idxOf tid) last).dropLast

end Output

open Output

/-- `sizeof(pid_t)`. -/
abbrev sizeof_pid : Nat := 4

variable (config : Config) (env : Env)

/-- `unfinished_add`. -/
def unfinished_add (tid : Pid) : OutputM Bool := do
  let output ← get
  if output.unfinished_contains tid then pure true
  else if output.unfinished_tids.length < output.unfinished_capacity then do
    set { output with unfinished_tids := output.unfinished_tids ++ [tid] }
    pure true
  else
    let capacity :=
      if output.unfinished_capacity = 0 then 8 else output.unfinished_capacity * 2 % 2 ^ 64
    if capacity < output.unfinished_capacity ∨ capacity > (2 ^ 64 - 1) / sizeof_pid then pure false
    else do
      let n ← ask
      if !env.alloc n then pure false
      else do
        modify fun output => { output with
          unfinished_tids := output.unfinished_tids ++ [tid]
          unfinished_capacity := capacity }
        pure true

/-- `unfinished_remove`. -/
def unfinished_remove (tid : Pid) : OutputM Bool := do
  let output ← get
  if output.unfinished_contains tid then do
    set { output with unfinished_tids := swap_remove output.unfinished_tids tid }
    pure true
  else pure false

/-- The text of a line is put together in a buffer; `message` is the error when
    the buffer cannot grow. -/
def render (message : String) : OutputM Unit := do
  let n ← ask
  if !env.render n then throw message else pure ()

/-- `write_buffer`. -/
def write_buffer (line : Line) : OutputM Unit := do
  render env "cannot allocate trace output"
  let n ← ask
  if !env.write n then throw s!"cannot write trace output: {env.strerror}"
  else modify fun output => { output with lines := output.lines ++ [line] }

/-- `write_text_syscall`. -/
def write_text_syscall (event : Event) (syscall : SyscallEvent) : OutputM Unit := do
  let message := s!"cannot render syscall {syscall.number}"
  let output ← get
  if !syscall.completed then
    if output.unfinished_contains event.tid then pure ()
    else do
      render env message
      let added ← unfinished_add env event.tid
      if !added then throw message
      else write_buffer env (.unfinished event.tid syscall)
  else do
    let removed ← unfinished_remove event.tid
    render env message
    write_buffer env (if removed then .resumed event.tid syscall else .syscall event.tid syscall)

/-- `write_text_event`. -/
def write_text_event (event : Event) : OutputM Unit :=
  match event.data with
  | .syscall syscall => write_text_syscall env event syscall
  | .process_exit _ => do
    let _ ← unfinished_remove event.tid
    render env "cannot allocate trace output"
    write_buffer env (.text event)
  | _ => do
    render env "cannot allocate trace output"
    write_buffer env (.text event)

/-- An event about a call that has not completed. -/
def Event.incomplete (event : Event) : Bool :=
  match event.data with
  | .syscall syscall => !syscall.completed
  | _ => false

/-- `sg_output_write_event`. -/
def sg_output_write_event (event : Event) : OutputM Unit :=
  if config.summary then pure ()
  else if config.format = .SG_FORMAT_TEXT then write_text_event env event
  else if event.incomplete then pure ()
  else do
    render env "cannot allocate NDJSON event"
    write_buffer env (.json event)

/-- `sg_output_migrate_tid`. -/
def sg_output_migrate_tid (former_tid current_tid : Pid) : OutputM Unit :=
  if former_tid = current_tid then pure ()
  else do
    modify fun output => { output with lines := output.lines ++ [.renamed former_tid current_tid] }
    let output ← get
    if !output.unfinished_contains former_tid then pure ()
    else if output.unfinished_contains current_tid then do
      let _ ← unfinished_remove former_tid
      pure ()
    else
      set { output with
        unfinished_tids :=
          output.unfinished_tids.set (output.unfinished_tids.idxOf former_tid) current_tid }

/-! ### What an event does to the output -/

/-- The part of the output that later events depend on: the unfinished TIDs and
    the lines. -/
structure Output.Log where
  unfinished : List Pid
  lines : List Line

/-- The log of an output. -/
def Output.log (output : Output) : Output.Log := ⟨output.unfinished_tids, output.lines⟩

/-- One more line. -/
def Output.Log.push (log : Output.Log) (line : Line) : Output.Log :=
  { log with lines := log.lines ++ [line] }

/-- The TID is no longer unfinished. -/
def Output.Log.finish (log : Output.Log) (tid : Pid) : Output.Log :=
  if tid ∈ log.unfinished then { log with unfinished := swap_remove log.unfinished tid } else log

/-- An event about a call, in text mode. -/
def Output.Log.write_call (log : Output.Log) (tid : Pid) (call : SyscallEvent) : Output.Log :=
  if call.completed then
    (log.finish tid).push
      (if tid ∈ log.unfinished then .resumed tid call else .syscall tid call)
  else if tid ∈ log.unfinished then log
  else ⟨log.unfinished ++ [tid], log.lines ++ [.unfinished tid call]⟩

/-- An event, in text mode. -/
def Output.Log.write_text (log : Output.Log) (event : Event) : Output.Log :=
  match event.data with
  | .syscall call => log.write_call event.tid call
  | .process_exit _ => (log.finish event.tid).push (.text event)
  | _ => log.push (.text event)

/-- What `sg_output_write_event` does to the log when it succeeds. -/
def Output.Log.write (config : Config) (log : Output.Log) (event : Event) : Output.Log :=
  if config.summary then log
  else if config.format = .SG_FORMAT_TEXT then log.write_text event
  else if event.incomplete then log
  else log.push (.json event)

/-- What `sg_output_migrate_tid` does to the log. -/
def Output.Log.migrate (log : Output.Log) (former current : Pid) : Output.Log :=
  if former = current then log
  else
    { unfinished :=
        if former ∉ log.unfinished then log.unfinished
        else if current ∈ log.unfinished then swap_remove log.unfinished former
        else log.unfinished.set (log.unfinished.idxOf former) current
      lines := log.lines ++ [.renamed former current] }

/-! ### The array of unfinished TIDs -/

/-- Moving the last entry into the gap keeps the entries but one. -/
theorem swap_remove_perm {tids : List Pid} {tid : Pid} (h : tid ∈ tids) :
    (swap_remove tids tid).Perm (tids.erase tid) := by
  induction tids using List.reverseRecOn with
  | nil => simp at h
  | append_singleton tids last _ =>
    simp only [swap_remove, List.getLast?_concat]
    by_cases hmem : tid ∈ tids
    · obtain ⟨front, back, rfl, hnot⟩ := List.eq_append_cons_of_mem hmem
      have hidx : (front ++ tid :: back ++ [last]).idxOf tid = front.length := by
        rw [List.append_assoc, List.idxOf_append_of_notMem hnot]
        simp
      rw [hidx, List.append_assoc, List.set_append_right _ _ (le_refl _)]
      simp only [Nat.sub_self, List.cons_append, List.set_cons_zero]
      rw [List.erase_append_right _ hnot, List.erase_cons_head]
      rw [show front ++ last :: (back ++ [last]) = (front ++ last :: back) ++ [last] by simp,
        List.dropLast_concat]
      exact List.Perm.append_left front (List.perm_append_singleton last back).symm
    · have hlast : tid = last := by simpa [hmem] using h
      have hidx : (tids ++ [last]).idxOf tid = tids.length := by
        rw [List.idxOf_append_of_notMem hmem]
        simp [hlast]
      rw [hidx, List.set_append_right _ _ (le_refl _), List.erase_append_right _ hmem]
      simp [hlast]

theorem mem_swap_remove {tids : List Pid} {tid : Pid} (hnodup : tids.Nodup) (h : tid ∈ tids)
    (other : Pid) : other ∈ swap_remove tids tid ↔ other ∈ tids ∧ other ≠ tid := by
  rw [(swap_remove_perm h).mem_iff, hnodup.mem_erase_iff, and_comm]

theorem nodup_swap_remove {tids : List Pid} {tid : Pid} (hnodup : tids.Nodup) (h : tid ∈ tids) :
    (swap_remove tids tid).Nodup :=
  (swap_remove_perm h).nodup_iff.mpr (hnodup.erase tid)

/-- Renaming an entry of the array. -/
theorem set_idxOf_perm {tids : List Pid} {former : Pid} (current : Pid) (h : former ∈ tids) :
    (tids.set (tids.idxOf former) current).Perm (current :: tids.erase former) := by
  obtain ⟨front, back, rfl, hnot⟩ := List.eq_append_cons_of_mem h
  have hidx : (front ++ former :: back).idxOf former = front.length := by
    rw [List.idxOf_append_of_notMem hnot]
    simp
  rw [hidx, List.set_append_right _ _ (le_refl _), List.erase_append_right _ hnot]
  simp

@[simp] theorem Output.Log.finish_lines (log : Output.Log) (tid : Pid) :
    (log.finish tid).lines = log.lines := by
  unfold finish
  split
  · rfl
  · rfl

theorem mem_finish {log : Output.Log} (hnodup : log.unfinished.Nodup) (tid other : Pid) :
    other ∈ (log.finish tid).unfinished ↔ other ∈ log.unfinished ∧ other ≠ tid := by
  unfold Output.Log.finish
  by_cases h : tid ∈ log.unfinished
  · rw [if_pos h]
    exact mem_swap_remove hnodup h other
  · rw [if_neg h]
    exact ⟨fun ho => ⟨ho, fun heq => h (heq ▸ ho)⟩, fun ho => ho.1⟩

theorem nodup_finish {log : Output.Log} (hnodup : log.unfinished.Nodup) (tid : Pid) :
    (log.finish tid).unfinished.Nodup := by
  unfold Output.Log.finish
  by_cases h : tid ∈ log.unfinished
  · rw [if_pos h]
    exact nodup_swap_remove hnodup h
  · rwa [if_neg h]

/-- An event keeps the array free of repetitions, and only its own TID can enter. -/
theorem unfinished_write {log : Output.Log} (config : Config) (event : Event)
    (hnodup : log.unfinished.Nodup) :
    (log.write config event).unfinished.Nodup ∧
      ∀ tid ∈ (log.write config event).unfinished, tid ∈ log.unfinished ∨ tid = event.tid := by
  have hsame : ∀ lines, (⟨log.unfinished, lines⟩ : Output.Log).unfinished.Nodup ∧
      ∀ tid ∈ (⟨log.unfinished, lines⟩ : Output.Log).unfinished,
        tid ∈ log.unfinished ∨ tid = event.tid :=
    fun _ => ⟨hnodup, fun _ h => Or.inl h⟩
  have hfinish : ∀ line, ((log.finish event.tid).push line).unfinished.Nodup ∧
      ∀ tid ∈ ((log.finish event.tid).push line).unfinished,
        tid ∈ log.unfinished ∨ tid = event.tid :=
    fun _ => ⟨nodup_finish hnodup _, fun _ h => Or.inl ((mem_finish hnodup _ _).mp h).1⟩
  unfold Output.Log.write
  split
  · exact hsame _
  · split
    · unfold Output.Log.write_text
      split
      · next call _ =>
        unfold Output.Log.write_call
        split
        · exact hfinish _
        · split
          · exact hsame _
          · next hmem =>
            refine ⟨?_, ?_⟩
            · exact List.nodup_append.mpr ⟨hnodup, by simp, by
                intro a ha b hb heq
                exact hmem (by simpa [← List.mem_singleton.mp hb, ← heq] using ha)⟩
            · intro tid htid
              simpa using htid
      · exact hfinish _
      · exact hsame _
    · split
      · exact hsame _
      · exact hsame _

open Fallible

section spec
variable {config : Config} {env : Env} {output : Output}

@[simp] theorem exec_ask :
    ask.exec output = (.ok output.asked, { output with asked := output.asked + 1 }) := rfl

@[simp] theorem holds_ask {Q : Nat → Output → Prop} {E : String → Output → Prop} :
    Holds ask output Q E ↔ Q output.asked { output with asked := output.asked + 1 } := Iff.rfl

/-- Rendering leaves the log alone. -/
theorem render_spec (message : String) :
    Holds (render env message) output (fun _ o => o.log = output.log)
      (fun _ o => o.log = output.log) := by
  simp only [render, holds_bind, holds_ask, holds_ite, holds_throw, holds_pure]
  exact ⟨fun _ => rfl, fun _ => rfl⟩

/-- `write_buffer` adds its line, or fails and adds nothing. -/
theorem write_buffer_spec (line : Line) :
    Holds (write_buffer env line) output (fun _ o => o.log = output.log.push line)
      (fun _ o => o.log = output.log) := by
  unfold write_buffer
  rw [holds_bind]
  refine (render_spec _).mono (fun _ o ho => ?_) (fun _ _ h => h)
  simp only [holds_bind, holds_ask, holds_ite, holds_throw, holds_modify]
  refine ⟨fun _ => ho, fun _ => ?_⟩
  rw [← ho]
  rfl

theorem unfinished_remove_spec (tid : Pid) {E : String → Output → Prop} :
    Holds (unfinished_remove tid) output
      (fun removed o => (removed = true ↔ tid ∈ output.unfinished_tids) ∧
        o.log = output.log.finish tid) E := by
  simp only [unfinished_remove, holds_bind, holds_get, holds_ite, holds_set, holds_pure,
    unfinished_contains, List.contains_iff_mem]
  refine ⟨fun h => ⟨by simp [h], ?_⟩, fun h => ⟨by simp [h], ?_⟩⟩
  · simp [Output.log, Output.Log.finish, h]
  · simp [Output.log, Output.Log.finish, h]

/-- `unfinished_add` of an absent TID appends it, or reports a failure. -/
theorem unfinished_add_spec {tid : Pid} (h : tid ∉ output.unfinished_tids)
    {E : String → Output → Prop} :
    Holds (unfinished_add env tid) output
      (fun added o => o.lines = output.lines ∧
        (added = true → o.unfinished_tids = output.unfinished_tids ++ [tid])) E := by
  simp [unfinished_add, unfinished_contains, h]

theorem write_text_syscall_spec (event : Event) (call : SyscallEvent) :
    Holds (write_text_syscall env event call) output
      (fun _ o => o.log = output.log.write_call event.tid call)
      (fun _ o => o.lines = output.lines) := by
  unfold write_text_syscall
  simp only [holds_bind, holds_get, holds_ite, holds_pure, unfinished_contains,
    List.contains_iff_mem, Bool.not_eq_true']
  refine ⟨fun hincomplete => ⟨fun hmem => ?_, fun hmem => ?_⟩, fun hcomplete => ?_⟩
  · simp [Output.Log.write_call, hincomplete, Output.log, hmem]
  · refine (render_spec _).mono (fun _ o₁ h₁ => ?_) (fun _ _ h => congrArg Output.Log.lines h)
    have hunf₁ : o₁.unfinished_tids = output.unfinished_tids :=
      congrArg Output.Log.unfinished h₁
    have hmem₁ : event.tid ∉ o₁.unfinished_tids := hunf₁ ▸ hmem
    refine (unfinished_add_spec hmem₁).mono (fun added o₂ h₂ => ?_) (fun _ _ h => h)
    have hlines : o₂.lines = output.lines := h₂.1.trans (congrArg Output.Log.lines h₁)
    refine ⟨fun _ => hlines, fun hadded => ?_⟩
    have hadded : added = true := by simpa using hadded
    refine (write_buffer_spec _).mono (fun _ o₃ h₃ => ?_)
      (fun _ _ h => (congrArg Output.Log.lines h).trans hlines)
    have hunf : o₂.unfinished_tids = output.unfinished_tids ++ [event.tid] := by
      rw [h₂.2 hadded, hunf₁]
    rw [h₃]
    simp [Output.Log.write_call, Output.Log.push, Output.log, hincomplete, hmem, hlines, hunf]
  · have hcomplete : call.completed = true := by simpa using hcomplete
    refine (unfinished_remove_spec event.tid).mono (fun removed o₁ h₁ => ?_) (fun _ _ h => h)
    have hlines : o₁.lines = output.lines :=
      (congrArg Output.Log.lines h₁.2).trans (output.log.finish_lines event.tid)
    refine (render_spec _).mono (fun _ o₂ h₂ => ?_)
      (fun _ _ h => (congrArg Output.Log.lines h).trans hlines)
    refine (write_buffer_spec _).mono (fun _ o₃ h₃ => ?_)
      (fun _ _ h => (congrArg Output.Log.lines h).trans ((congrArg Output.Log.lines h₂).trans hlines))
    rw [h₃, h₂, h₁.2, Output.Log.write_call, if_pos hcomplete]
    simp only [h₁.1]
    rfl

theorem write_text_event_spec (event : Event) :
    Holds (write_text_event env event) output (fun _ o => o.log = output.log.write_text event)
      (fun _ o => o.lines = output.lines) := by
  unfold write_text_event Output.Log.write_text
  have hplain : Holds (do render env "cannot allocate trace output"; write_buffer env (.text event))
      output (fun _ o => o.log = output.log.push (.text event))
      (fun _ o => o.lines = output.lines) := by
    rw [holds_bind]
    refine (render_spec _).mono (fun _ o h => ?_) (fun _ _ h => congrArg Output.Log.lines h)
    refine (write_buffer_spec _).mono (fun _ _ h' => h'.trans (by rw [h]))
      (fun _ _ h' => congrArg Output.Log.lines (h'.trans h))
  cases event.data with
  | syscall call => exact write_text_syscall_spec event call
  | signal signal => exact hplain
  | process_start start => exact hplain
  | process_exit exit =>
    simp only [holds_bind]
    refine (unfinished_remove_spec event.tid).mono (fun removed o₁ h₁ => ?_) (fun _ _ h => h)
    have hlines : o₁.lines = output.lines :=
      (congrArg Output.Log.lines h₁.2).trans (output.log.finish_lines event.tid)
    refine (render_spec _).mono (fun _ o₂ h₂ => ?_)
      (fun _ _ h => (congrArg Output.Log.lines h).trans hlines)
    refine (write_buffer_spec _).mono (fun _ _ h₃ => ?_)
      (fun _ _ h => (congrArg Output.Log.lines (h.trans h₂)).trans hlines)
    rw [h₃, h₂, h₁.2]

/-- **The output**, in any environment: `sg_output_write_event` writes the event,
    or fails and writes no line. -/
theorem sg_output_write_event_spec (event : Event) :
    Holds (sg_output_write_event config env event) output
      (fun _ o => o.log = output.log.write config event) (fun _ o => o.lines = output.lines) := by
  unfold sg_output_write_event Output.Log.write
  by_cases hsummary : config.summary = true
  · simp [hsummary]
  · by_cases htext : config.format = .SG_FORMAT_TEXT
    · simpa [hsummary, htext] using write_text_event_spec event
    · by_cases hincomplete : event.incomplete = true
      · simp [hsummary, htext, hincomplete]
      · simp only [hsummary, htext, hincomplete, if_false, holds_bind, Bool.false_eq_true]
        refine (render_spec _).mono (fun _ o h => ?_) (fun _ _ h => congrArg Output.Log.lines h)
        refine (write_buffer_spec _).mono (fun _ _ h' => h'.trans (by rw [h]))
          (fun _ _ h' => congrArg Output.Log.lines (h'.trans h))

theorem sg_output_migrate_tid_spec (former current : Pid) {E : String → Output → Prop} :
    Holds (sg_output_migrate_tid former current) output
      (fun _ o => o.log = output.log.migrate former current) E := by
  unfold sg_output_migrate_tid Output.Log.migrate
  by_cases heq : former = current
  · simp [heq]
  · simp only [heq, if_false, holds_bind, holds_modify, holds_get, holds_ite, holds_pure,
      unfinished_contains, List.contains_iff_mem, Bool.not_eq_true']
    refine ⟨fun hf => ?_, fun hf => ⟨fun hc => ?_, fun hc => ?_⟩⟩
    · have hf : former ∉ output.unfinished_tids := by simpa using hf
      simp [Output.log, hf]
    · have hf : former ∈ output.unfinished_tids := by simpa using hf
      refine (unfinished_remove_spec former).mono (fun _ o ho => ?_) (fun _ _ h => h)
      rw [ho.2]
      simp [Output.log, Output.Log.finish, hf, hc]
    · have hf : former ∈ output.unfinished_tids := by simpa using hf
      simp [Output.log, hf, hc]

/-! ### When nothing fails

    The array of unfinished TIDs grows by doubling, and `unfinished_add` refuses
    a size beyond the address space.  It never gets there while the array has
    fewer than `unfinished_limit` entries. -/

/-- A bound on the number of unfinished TIDs, far from where the array overflows. -/
abbrev unfinished_limit : Nat := 2 ^ 57

theorem render_total (hs : env.Succeeds) (message : String) :
    Holds (render env message) output (fun _ _ => True) (fun _ _ => False) := by
  simp [render, hs.render]

theorem write_buffer_total (hs : env.Succeeds) (line : Line) :
    Holds (write_buffer env line) output (fun _ _ => True) (fun _ _ => False) := by
  unfold write_buffer
  rw [holds_bind]
  refine (render_total hs _).mono (fun _ o _ => ?_) (fun _ _ h => h)
  simp [hs.write]

theorem unfinished_add_total (hs : env.Succeeds) (tid : Pid)
    (hlen : output.unfinished_tids.length < unfinished_limit) :
    Holds (unfinished_add env tid) output (fun added _ => added = true) (fun _ _ => False) := by
  have hlimit : output.unfinished_tids.length < 2 ^ 57 := hlen
  have hsize : sizeof_pid = 4 := rfl
  simp only [unfinished_add, holds_bind, holds_get, holds_ite, holds_set, holds_pure, holds_modify,
    holds_ask, hs.alloc]
  refine ⟨fun _ => trivial, fun _ => ⟨fun _ => trivial, fun hroom => ⟨fun hover => ?_, ?_⟩⟩⟩
  · -- The array is full, so its capacity is at most the number of its entries.
    exfalso
    rw [hsize] at hover
    split at hover <;> omega
  · simp

theorem sg_output_write_event_total (hs : env.Succeeds) (event : Event)
    (hlen : output.unfinished_tids.length < unfinished_limit) :
    Holds (sg_output_write_event config env event) output (fun _ _ => True)
      (fun _ _ => False) := by
  have hplain : ∀ (o : Output) (message : String) (line : Line),
      Holds (do render env message; write_buffer env line) o (fun _ _ => True)
        (fun _ _ => False) := by
    intro o message line
    rw [holds_bind]
    refine (render_total hs message).mono (fun _ o' _ => ?_) (fun _ _ h => h)
    exact write_buffer_total hs line
  have hremove : ∀ (message : String) (line : Bool → Line),
      Holds (do
        let removed ← unfinished_remove event.tid
        render env message
        write_buffer env (line removed)) output (fun _ _ => True) (fun _ _ => False) := by
    intro message line
    rw [holds_bind]
    refine (unfinished_remove_spec event.tid).mono (fun removed o' _ => ?_) (fun _ _ h => h)
    exact hplain o' message (line removed)
  unfold sg_output_write_event
  simp only [holds_ite, holds_pure]
  refine ⟨fun _ => trivial, fun _ => ⟨fun _ => ?_, fun _ => ⟨fun _ => trivial, fun _ => ?_⟩⟩⟩
  · unfold write_text_event
    cases event.data with
    | signal signal => exact hplain ..
    | process_start start => exact hplain ..
    | process_exit exit => exact hremove _ fun _ => .text event
    | syscall call =>
      show Holds (write_text_syscall env event call) output _ _
      unfold write_text_syscall
      simp only [holds_bind, holds_get, holds_ite, holds_pure]
      refine ⟨fun _ => ⟨fun _ => trivial, fun hmem => ?_⟩, fun _ => ?_⟩
      · refine ((render_spec _).and (render_total hs _)).mono (fun _ o h => ?_)
          (fun _ _ h => h.2)
        have hunf : o.unfinished_tids = output.unfinished_tids :=
          congrArg Output.Log.unfinished h.1
        refine (unfinished_add_total hs event.tid (hunf ▸ hlen)).mono (fun added o' hadded => ?_)
          (fun _ _ h => h)
        refine ⟨fun h => ?_, fun _ => write_buffer_total hs _⟩
        simp [hadded] at h
      · have := hremove s!"cannot render syscall {call.number}"
          fun removed => if removed then .resumed event.tid call else .syscall event.tid call
        simpa only [holds_bind] using this
  · exact hplain ..

/-! ### The completed calls in the log -/

/-- The completed calls reported in a log. -/
def Output.Log.completed (log : Output.Log) : List (Pid × SyscallEvent) :=
  log.lines.filterMap Line.completed

/-- The completed call an event reports. -/
def Event.completed (event : Event) : Option (Pid × SyscallEvent) :=
  match event.data with
  | .syscall call => if call.completed then some (event.tid, call) else none
  | _ => none

theorem completed_push (log : Output.Log) (line : Line) :
    (log.push line).completed = log.completed ++ line.completed.toList := by
  simp only [Output.Log.completed, Output.Log.push, List.filterMap_append]
  cases h : line.completed <;> simp [h]

theorem completed_finish (log : Output.Log) (tid : Pid) :
    (log.finish tid).completed = log.completed := by
  unfold Output.Log.finish
  split <;> rfl

/-- An event adds its completed call to the log, in either format. -/
theorem completed_write (log : Output.Log) (event : Event) (hsummary : config.summary = false) :
    (log.write config event).completed = log.completed ++ event.completed.toList := by
  obtain ⟨tid, tgid, observed_at, data⟩ := event
  unfold Output.Log.write
  rw [if_neg (by simp [hsummary])]
  split
  · cases data with
    | syscall call =>
      show (log.write_call tid call).completed = _
      unfold Output.Log.write_call
      by_cases hc : call.completed = true
      · rw [if_pos hc, completed_push, completed_finish]
        split <;> simp [Line.completed, Event.completed, hc]
      · rw [if_neg hc]
        by_cases hm : tid ∈ log.unfinished
        · simp [hm, Event.completed, hc]
        · simp [hm, Event.completed, hc, Output.Log.completed, Line.completed]
    | signal signal => exact completed_push ..
    | process_start start => exact completed_push ..
    | process_exit exit =>
      show ((log.finish tid).push _).completed = _
      rw [completed_push, completed_finish]
      rfl
  · cases data with
    | syscall call =>
      by_cases hc : call.completed = true
      · rw [if_neg (by simp [Event.incomplete, hc]), completed_push]
        simp [Line.completed, Event.completed, hc]
      · simp [Event.incomplete, Event.completed, hc]
    | signal signal => exact completed_push ..
    | process_start start => exact completed_push ..
    | process_exit exit => exact completed_push ..

/-- The unfinished TIDs after a migration: a shown call takes the new TID of its task. -/
theorem mem_migrate {log : Output.Log} (h : log.unfinished.Nodup) {former current : Pid}
    (hne : former ≠ current) :
    (log.migrate former current).unfinished.Nodup ∧
      ∀ tid, tid ∈ (log.migrate former current).unfinished ↔
        if former ∈ log.unfinished then
          tid = current ∨ tid ≠ former ∧ tid ∈ log.unfinished
        else tid ∈ log.unfinished := by
  unfold Output.Log.migrate
  rw [if_neg hne]
  dsimp only
  by_cases hformer : former ∈ log.unfinished
  · simp only [if_neg (not_not_intro hformer), if_pos hformer]
    by_cases hcurrent : current ∈ log.unfinished
    · rw [if_pos hcurrent]
      refine ⟨nodup_swap_remove h hformer, fun tid => ?_⟩
      rw [mem_swap_remove h hformer]
      by_cases ht : tid = current
      · simp [ht, hcurrent, Ne.symm hne]
      · simp [ht, and_comm]
    · rw [if_neg hcurrent]
      have hperm := set_idxOf_perm current hformer
      refine ⟨?_, fun tid => ?_⟩
      · rw [hperm.nodup_iff, List.nodup_cons]
        exact ⟨fun hin => hcurrent (List.mem_of_mem_erase hin), h.erase former⟩
      · rw [hperm.mem_iff, List.mem_cons, h.mem_erase_iff]
  · simp only [if_pos hformer, if_neg hformer]
    exact ⟨h, fun _ => trivial⟩

@[simp] theorem completed_migrate (log : Output.Log) (former current : Pid) :
    (log.migrate former current).completed = log.completed := by
  unfold Output.Log.migrate
  split
  · rfl
  · simp [Output.Log.completed, Line.completed]

end spec

end Sysgaze
