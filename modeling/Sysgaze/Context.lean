import Sysgaze.Output
import Sysgaze.Stats
import Sysgaze.TraceeTable

/-! # The trace context and the writers (`trace.c`)

    `struct trace_context` and the functions of `trace.c` that write events:
    `flush_unfinished_syscalls`, `write_syscall`, `write_signal`,
    `write_exit`, `write_process_start`.

    A C function that holds a pointer to a tracee becomes a function of the
    record; a change made through the pointer is followed by `store`.
-/

open Fallible

namespace Sysgaze

/-! ### The context -/

/-- The `ptrace` requests that the model makes. -/
inductive PtraceRequest where
  | PTRACE_CONT
  | PTRACE_SYSCALL
  | PTRACE_LISTEN
  | PTRACE_DETACH
  | PTRACE_INTERRUPT
  | PTRACE_GETEVENTMSG
  | PTRACE_GETSIGINFO
  | PTRACE_GET_SYSCALL_INFO
  | PTRACE_SETOPTIONS
  | PTRACE_SEIZE
  deriving DecidableEq, Repr

/-- One call of `measured_ptrace`; `data` is the signal of a restart request. -/
structure Request where
  request : PtraceRequest
  tid : Pid
  data : Int
  deriving DecidableEq, Repr

/-- `struct trace_context`, less its configuration.  `requests` is the history of
    `measured_ptrace`, whose length is `ptrace_call_count`; `captured` holds the
    texts that `sg_decoder_capture_entry` has allocated, `released` the texts that have
    been freed and `kills` the tasks that were sent `SIGKILL`; `readings` holds what the
    clock has shown, `records` the calls passed to `write_syscall` and `emitted` the
    events passed to `emit_event`; `asked` counts the questions put to the environment. -/
structure Context where
  tracees : Tracees
  output : Output
  stats : Stats
  root_tid : Pid
  root_status : Int
  root_status_known : Bool
  root_exec_observed : Bool
  event_count : Nat
  requests : List Request
  captured : List Text
  released : List Text
  kills : List Pid
  readings : List Timespec
  records : List (Pid × SyscallEvent)
  emitted : List Event
  asked : Nat

/-- The context `sg_trace_run` starts from. -/
def Context.init : Context where
  tracees := .init
  output := sg_output_init
  stats := sg_stats_init
  root_tid := 0
  root_status := 0
  root_status_known := false
  root_exec_observed := false
  event_count := 0
  requests := []
  captured := []
  released := []
  kills := []
  readings := []
  records := []
  emitted := []
  asked := 0

/-- Programs of the tracer: they fail with an error text. -/
abbrev TraceM := Fallible String Context

/-- The number of the next question. -/
def ask : TraceM Nat := do
  let context ← get
  set { context with asked := context.asked + 1 }
  pure context.asked

/-- Write a record back to the table. -/
def store (tracee : Tracee) : TraceM Unit :=
  modify fun context => { context with tracees := context.tracees.write tracee }

/-- `measured_ptrace`; the answer comes with the stop that is handled. -/
def measured_ptrace (request : PtraceRequest) (tid : Pid) (data : Int) : TraceM Unit :=
  modify fun context => { context with requests := context.requests ++ [⟨request, tid, data⟩] }

/-- The texts that an event owns. -/
def SyscallEvent.texts (event : SyscallEvent) : List Text :=
  event.decoded_arguments.toList.reduceOption

/-- The event after `sg_decoder_release_event`. -/
def SyscallEvent.without_texts (event : SyscallEvent) : SyscallEvent :=
  { event with decoded_arguments := Vector.replicate 6 none }

/-- The effect of `sg_decoder_release_event` on the context: the texts are freed. -/
def Context.release (context : Context) (event : SyscallEvent) : Context :=
  { context with released := context.released ++ event.decoded_arguments.toList.reduceOption }

/-- `sg_decoder_release_event`. -/
def sg_decoder_release_event (event : SyscallEvent) : TraceM SyscallEvent := do
  modify fun context => context.release event
  pure event.without_texts

variable (config : Config) (env : Env)

/-- `clock_gettime(CLOCK_MONOTONIC)`, with the error that every caller reports. -/
def clock_gettime : TraceM Timespec := do
  let n ← ask
  match env.clock n with
  | some now => do
    modify fun context => { context with readings := context.readings ++ [now] }
    pure now
  | none => throw s!"clock_gettime failed: {env.strerror}"

/-- `selected`. -/
def selected (number : Int) : Bool :=
  !config.filter.active || sg_filter_contains config.filter number

/-- `emit_event`. -/
def emit_event (event : Event) : TraceM Unit := do
  modify fun context => { context with emitted := context.emitted ++ [event] }
  zoom Context.output (fun context output => { context with output := output })
    (sg_output_write_event config env event)

/-! ### Writing events -/

/-- The call of a tracee that `flush_unfinished_syscalls` looks at. -/
def Tracee.current_call (tracee : Tracee) : Option SyscallEvent :=
  if tracee.has_pending_syscall then some tracee.pending_syscall
  else if tracee.has_interrupted_syscall then some tracee.interrupted_syscall
  else none

/-- The event about a call that has not completed. -/
def unfinished_event (tracee : Tracee) (syscall : SyscallEvent) : Event where
  tid := tracee.tid
  tgid := tracee.tgid
  observed_at := syscall.entered_at
  data := .syscall { syscall with completed := false }

/-- One round of the loop in `flush_unfinished_syscalls`. -/
def flush_tracee (except_tid : Pid) (tracee : Tracee) : TraceM Unit :=
  if tracee.tid = except_tid then pure ()
  else
    match tracee.current_call with
    | none => pure ()
    | some syscall =>
      if !selected config syscall.number then pure ()
      else emit_event config env (unfinished_event tracee syscall)

/-- `flush_unfinished_syscalls`. -/
def flush_unfinished_syscalls (except_tid : Pid) : TraceM Unit :=
  if config.summary then pure ()
  else do
    let context ← get
    context.tracees.records.forM (flush_tracee config env except_tid)

/-- The event about a completed call. -/
def syscall_event (tracee : Tracee) (event : SyscallEvent) : Event where
  tid := tracee.tid
  tgid := tracee.tgid
  observed_at := event.exited_at
  data := .syscall event

/-- `write_syscall`. -/
def write_syscall (tracee : Tracee) (event : SyscallEvent) : TraceM Unit := do
  modify fun context => { context with records := context.records ++ [(tracee.tid, event)] }
  if !selected config event.number then pure ()
  else do
    modify fun context => { context with event_count := context.event_count + 1 }
    if config.summary then do
      let n ← ask
      let context ← get
      let (recorded, stats) := sg_stats_record context.stats event (env.alloc n)
      set { context with stats := stats }
      if !recorded then throw s!"cannot aggregate statistics for syscall {event.number}"
      else pure ()
    else do
      flush_unfinished_syscalls config env tracee.tid
      emit_event config env (syscall_event tracee event)

/-- The fields of `siginfo_t` that are read. -/
structure SigInfo where
  si_signo : Int
  si_code : Int
  si_addr : UInt64
  deriving DecidableEq, Repr

abbrev SIGILL : Int := 4
abbrev SIGTRAP : Int := 5
abbrev SIGBUS : Int := 7
abbrev SIGFPE : Int := 8
abbrev SIGSEGV : Int := 11
abbrev SIGSTOP : Int := 19
abbrev SIGTSTP : Int := 20
abbrev SIGTTIN : Int := 21
abbrev SIGTTOU : Int := 22

/-- The fault address that `write_signal` reports. -/
def SigInfo.fault_address (signal_info : SigInfo) : UInt64 :=
  if signal_info.si_code > 0 ∧ (signal_info.si_signo = SIGILL ∨ signal_info.si_signo = SIGFPE ∨
      signal_info.si_signo = SIGSEGV ∨ signal_info.si_signo = SIGBUS ∨
      signal_info.si_signo = SIGTRAP) then signal_info.si_addr
  else 0

/-- What `write_signal`, `write_exit` and `write_process_start` share: all unfinished
    calls are flushed, then the event is stamped and written. -/
def write_stamped (tracee : Tracee) (data : EventData) : TraceM Unit := do
  flush_unfinished_syscalls config env (-1)
  let observed_at ← clock_gettime env
  emit_event config env ⟨tracee.tid, tracee.tgid, observed_at, data⟩

/-- `write_signal`. -/
def write_signal (tracee : Tracee) (signal_info : SigInfo) : TraceM Unit :=
  write_stamped config env tracee
    (.signal ⟨signal_info.si_signo, signal_info.si_code, signal_info.fault_address⟩)

/-- `write_exit`. -/
def write_exit (tracee : Tracee) (status : Int) (signaled : Bool) : TraceM Unit :=
  write_stamped config env tracee (.process_exit ⟨status, signaled⟩)

/-- `write_process_start`. -/
def write_process_start (parent : Tracee) (child : Pid) (ptrace_event : Nat) : TraceM Unit :=
  write_stamped config env parent (.process_start ⟨child, ptrace_event⟩)

/-! ### What the writers do -/

/-- The part of a context that only the trace loop changes. -/
structure Context.Rest where
  root_tid : Pid
  root_status : Int
  root_status_known : Bool
  root_exec_observed : Bool
  requests : List Request
  kills : List Pid

/-- The rest of a context. -/
def Context.rest (context : Context) : Context.Rest :=
  ⟨context.root_tid, context.root_status, context.root_status_known, context.root_exec_observed,
    context.requests, context.kills⟩

/-- From `c` to `c'` the events have been written, one after the other, and nothing
    else has changed but counters. -/
structure Writes (config : Config) (c : Context) (events : List Event) (c' : Context) : Prop where
  tracees : c'.tracees = c.tracees
  rest : c'.rest = c.rest
  log : c'.output.log = events.foldl (Output.Log.write config) c.output.log

/-- From `c` to `c'` the events have been written, and then something failed. -/
structure Breaks (config : Config) (c : Context) (events : List Event) (c' : Context) : Prop where
  tracees : c'.tracees = c.tracees
  rest : c'.rest = c.rest
  lines : c'.output.lines = (events.foldl (Output.Log.write config) c.output.log).lines

/-- An event that `flush_unfinished_syscalls` writes. -/
def FlushEvent (config : Config) (tracees : Tracees) (except_tid : Pid) (event : Event) : Prop :=
  ∃ tracee call, tracees.lookup tracee.tid = some tracee ∧ tracee.tid ≠ except_tid ∧
    tracee.current_call = some call ∧ selected config call.number = true ∧
    event = unfinished_event tracee call

/-- The unfinished TIDs are in the table, each once. -/
structure Context.Ok (context : Context) : Prop where
  nodup : context.output.unfinished_tids.Nodup
  known : ∀ tid ∈ context.output.unfinished_tids, (context.tracees.lookup tid).isSome

section spec
variable {config : Config} {env : Env} {c c' c'' : Context} {events events' : List Event}

theorem Writes.refl (c : Context) : Writes config c [] c := ⟨rfl, rfl, rfl⟩

theorem Writes.trans (h : Writes config c events c') (h' : Writes config c' events' c'') :
    Writes config c (events ++ events') c'' :=
  ⟨h'.tracees.trans h.tracees, h'.rest.trans h.rest, by rw [h'.log, h.log, List.foldl_append]⟩

theorem Writes.breaks (h : Writes config c events c') (h' : Breaks config c' events' c'') :
    Breaks config c (events ++ events') c'' :=
  ⟨h'.tracees.trans h.tracees, h'.rest.trans h.rest, by rw [h'.lines, h.log, List.foldl_append]⟩

/-- Events about tracees of the table keep the unfinished TIDs in the table. -/
theorem unfinished_foldl (config : Config) (tracees : Tracees) (events : List Event) :
    ∀ log : Output.Log, (∀ event ∈ events, (tracees.lookup event.tid).isSome) →
      log.unfinished.Nodup → (∀ tid ∈ log.unfinished, (tracees.lookup tid).isSome) →
      (events.foldl (Output.Log.write config) log).unfinished.Nodup ∧
        ∀ tid ∈ (events.foldl (Output.Log.write config) log).unfinished,
          (tracees.lookup tid).isSome := by
  induction events with
  | nil => intro log _ hn hk; exact ⟨hn, hk⟩
  | cons event events ih =>
    intro log he hn hk
    obtain ⟨hn', hk'⟩ := unfinished_write config event hn
    apply ih
    · intro other ho
      exact he other (by simp [ho])
    · exact hn'
    · intro tid htid
      obtain hold | rfl := hk' tid htid
      · exact hk tid hold
      · exact he event (by simp)

/-- Only text mode remembers unfinished calls. -/
theorem unfinished_foldl_json (hformat : config.format ≠ .SG_FORMAT_TEXT) (events : List Event) :
    ∀ log : Output.Log,
      (events.foldl (Output.Log.write config) log).unfinished = log.unfinished := by
  induction events with
  | nil => intro log; rfl
  | cons event events ih =>
    intro log
    rw [List.foldl_cons, ih]
    unfold Output.Log.write
    rw [if_neg hformat]
    split
    · rfl
    · split <;> rfl

theorem Writes.ok (h : Writes config c events c') (hok : c.Ok)
    (hknown : ∀ event ∈ events, (c.tracees.lookup event.tid).isSome) : c'.Ok := by
  obtain ⟨hn, hk⟩ := unfinished_foldl config c.tracees events c.output.log hknown hok.nodup hok.known
  rw [← h.log] at hn hk
  exact ⟨hn, fun tid htid => h.tracees ▸ hk tid htid⟩

/-- The array of unfinished TIDs stays far below the size where it overflows: its
    entries are in the table, which fits in the address space. -/
theorem Context.Ok.length_lt (h : c.Ok) :
    c.output.unfinished_tids.length < unfinished_limit := by
  have hsub : c.output.unfinished_tids ⊆ c.tracees.records.map Tracee.tid := by
    intro tid htid
    obtain ⟨tracee, ht⟩ := Option.isSome_iff_exists.mp (h.known tid htid)
    have heq := Tracees.lookup_tid ht
    exact List.mem_map.mpr ⟨tracee, Tracees.mem_records.mpr (by rw [heq]; exact ht), heq⟩
  have hle := (h.nodup.subperm hsub).length_le
  rw [List.length_map, Tracees.records, OpenAddressing.length_records] at hle
  have hcount := List.countP_le_length (p := OpenAddressing.Slot.isOccupied)
    (l := c.tracees.1.slots)
  have hlen := c.tracees.2.length
  have hbytes : c.tracees.1.capacity * 352 < 2 ^ 64 := c.tracees.2.bytes
  show _ < 2 ^ 57
  omega

/-- An invariant that leaves room in the array of unfinished TIDs, and that neither the
    writers nor a change of a record break. -/
structure Roomy (config : Config) (I : Context → Prop) : Prop where
  length_lt : ∀ {c : Context}, I c → c.output.unfinished_tids.length < unfinished_limit
  writes : ∀ {c c' : Context} {events : List Event}, I c → Writes config c events c' →
    (∀ event ∈ events, (c.tracees.lookup event.tid).isSome) → I c'
  write : ∀ {c : Context} (tracee : Tracee), I c →
    I { c with tracees := c.tracees.write tracee }
  count : ∀ {c : Context} {records : List (Pid × SyscallEvent)} (event_count : Nat), I c →
    I { c with records := records, event_count := event_count }

/-- Storing a record of a known TID keeps the unfinished TIDs in the table. -/
theorem Context.Ok.write (hok : c.Ok) (tracee : Tracee) :
    ({ c with tracees := c.tracees.write tracee } : Context).Ok := by
  refine ⟨hok.nodup, fun tid htid => ?_⟩
  rw [Tracees.lookup_write]
  split
  · rfl
  · exact hok.known tid htid

theorem roomy_ok : Roomy config Context.Ok where
  length_lt := Context.Ok.length_lt
  writes hok hw hknown := hw.ok hok hknown
  write tracee hok := hok.write tracee
  count _ hok := ⟨hok.nodup, hok.known⟩

@[simp] theorem holds_context_ask {Q : Nat → Context → Prop} {E : String → Context → Prop} :
    Holds ask c Q E ↔ Q c.asked { c with asked := c.asked + 1 } := Iff.rfl

@[simp] theorem holds_store {tracee : Tracee} {Q : Unit → Context → Prop}
    {E : String → Context → Prop} :
    Holds (store tracee) c Q E ↔ Q () { c with tracees := c.tracees.write tracee } := Iff.rfl

@[simp] theorem holds_measured_ptrace {request : PtraceRequest} {tid : Pid} {data : Int}
    {Q : Unit → Context → Prop} {E : String → Context → Prop} :
    Holds (measured_ptrace request tid data) c Q E ↔
      Q () { c with requests := c.requests ++ [⟨request, tid, data⟩] } := Iff.rfl

@[simp] theorem holds_release {event : SyscallEvent} {Q : SyscallEvent → Context → Prop}
    {E : String → Context → Prop} :
    Holds (sg_decoder_release_event event) c Q E ↔ Q event.without_texts (c.release event) :=
  Iff.rfl

variable (config) in
theorem clock_gettime_spec :
    Holds (clock_gettime env) c (fun _ c' => Writes config c [] c')
      (fun _ c' => Breaks config c [] c') := by
  unfold clock_gettime
  simp only [holds_bind, holds_context_ask]
  cases env.clock c.asked with
  | some now => exact ⟨rfl, rfl, rfl⟩
  | none => exact ⟨rfl, rfl, rfl⟩

theorem clock_gettime_total (hs : env.Succeeds) :
    Holds (clock_gettime env) c (fun _ _ => True) (fun _ _ => False) := by
  unfold clock_gettime
  simp only [holds_bind, holds_context_ask]
  obtain ⟨now, hnow⟩ := Option.isSome_iff_exists.mp (hs.clock c.asked)
  simp [hnow]

variable (config) in
/-- A clock that does not fail shows what the environment says. -/
theorem clock_gettime_reads (hs : env.Succeeds) :
    Holds (clock_gettime env) c
      (fun now c' => env.clock c.asked = some now ∧ c'.stats = c.stats ∧ Writes config c [] c')
      (fun _ _ => False) := by
  unfold clock_gettime
  simp only [holds_bind, holds_context_ask]
  obtain ⟨now, hnow⟩ := Option.isSome_iff_exists.mp (hs.clock c.asked)
  rw [hnow]
  exact ⟨rfl, rfl, rfl, rfl, rfl⟩

theorem emit_event_spec (event : Event) :
    Holds (emit_event config env event) c (fun _ c' => Writes config c [event] c')
      (fun _ c' => Breaks config c [] c') := by
  unfold emit_event
  rw [holds_bind, holds_modify, holds_zoom]
  apply (sg_output_write_event_spec event).mono
  · intro _ o ho
    exact ⟨rfl, rfl, ho⟩
  · intro _ o ho
    exact ⟨rfl, rfl, ho⟩

theorem emit_event_total (hs : env.Succeeds) {I : Context → Prop} (hroom : Roomy config I) (hI : I c)
    (event : Event) :
    Holds (emit_event config env event) c (fun _ _ => True) (fun _ _ => False) := by
  unfold emit_event
  rw [holds_bind, holds_modify, holds_zoom]
  have hlength := hroom.length_lt hI
  exact sg_output_write_event_total hs event hlength

theorem FlushEvent.known {tracees : Tracees} {except_tid : Pid} {event : Event}
    (h : FlushEvent config tracees except_tid event) : (tracees.lookup event.tid).isSome := by
  obtain ⟨tracee, call, hlookup, -, -, -, rfl⟩ := h
  show (tracees.lookup tracee.tid).isSome = true
  rw [hlookup]
  rfl

/-- One round of the flush. -/
theorem flush_tracee_spec (except_tid : Pid) (tracee : Tracee)
    (hlookup : c.tracees.lookup tracee.tid = some tracee) :
    Holds (flush_tracee config env except_tid tracee) c
      (fun _ c' => ∃ events, (∀ event ∈ events, FlushEvent config c.tracees except_tid event) ∧
        Writes config c events c')
      (fun _ c' => Breaks config c [] c') := by
  unfold flush_tracee
  by_cases hexcept : tracee.tid = except_tid
  · rw [if_pos hexcept]
    exact ⟨[], by simp, .refl c⟩
  · rw [if_neg hexcept]
    cases hcall : tracee.current_call with
    | none => exact ⟨[], by simp, .refl c⟩
    | some call =>
      by_cases hsel : selected config call.number = true
      · simp only [hsel, Bool.not_true, Bool.false_eq_true, if_false]
        apply (emit_event_spec _).mono
        · intro _ c' hw
          refine ⟨_, ?_, hw⟩
          intro event hevent
          rw [List.mem_singleton] at hevent
          exact ⟨tracee, call, hlookup, hexcept, hcall, hsel, hevent⟩
        · intro _ _ h
          exact h
      · simp only [hsel, Bool.not_false, if_true]
        exact ⟨[], by simp, .refl c⟩

/-- `flush_unfinished_syscalls` writes unfinished calls of other tracees. -/
theorem flush_unfinished_syscalls_spec (except_tid : Pid) :
    Holds (flush_unfinished_syscalls config env except_tid) c
      (fun _ c' => ∃ events, (∀ event ∈ events, FlushEvent config c.tracees except_tid event) ∧
        Writes config c events c')
      (fun _ c' => ∃ events, (∀ event ∈ events, FlushEvent config c.tracees except_tid event) ∧
        Breaks config c events c') := by
  unfold flush_unfinished_syscalls
  by_cases hsummary : config.summary = true
  · simp only [hsummary, if_true, holds_pure]
    exact ⟨[], by simp, .refl c⟩
  · simp only [hsummary, if_false, holds_bind, holds_get, Bool.false_eq_true]
    refine holds_forM _ _ (I := fun c' => ∃ events,
      (∀ event ∈ events, FlushEvent config c.tracees except_tid event) ∧
        Writes config c events c') ?_ ⟨[], by simp, .refl c⟩
    intro tracee hmem c₁ hpost
    rcases hpost with ⟨events, hevents, hw⟩
    have hlookup : c₁.tracees.lookup tracee.tid = some tracee := by
      rw [hw.tracees]
      exact Tracees.mem_records.mp hmem
    apply (flush_tracee_spec except_tid tracee hlookup).mono
    · intro _ c₂ hpost
      rcases hpost with ⟨events', hevents', hw'⟩
      refine ⟨events ++ events', ?_, hw.trans hw'⟩
      intro event hevent
      rw [hw.tracees] at hevents'
      exact (List.mem_append.mp hevent).elim (hevents event) (hevents' event)
    · intro _ c₂ hb
      exact ⟨events, hevents, by simpa using hw.breaks hb⟩

theorem flush_unfinished_syscalls_total (hs : env.Succeeds) {I : Context → Prop}
    (hroom : Roomy config I) (hI : I c) (except_tid : Pid) :
    Holds (flush_unfinished_syscalls config env except_tid) c (fun _ _ => True)
      (fun _ _ => False) := by
  unfold flush_unfinished_syscalls
  by_cases hsummary : config.summary = true
  · simp [hsummary]
  · simp only [hsummary, if_false, holds_bind, holds_get, Bool.false_eq_true]
    refine (holds_forM _ _ (I := fun c' => I c' ∧ c'.tracees = c.tracees) ?_ ⟨hI, rfl⟩).mono
      (fun _ _ _ => trivial) (fun _ _ h => h)
    intro tracee hmem c₁ hpost
    rcases hpost with ⟨hI₁, htracees⟩
    have hlookup : c₁.tracees.lookup tracee.tid = some tracee := by
      rw [htracees]
      exact Tracees.mem_records.mp hmem
    have htotal : Holds (flush_tracee config env except_tid tracee) c₁ (fun _ _ => True)
        (fun _ _ => False) := by
      unfold flush_tracee
      split
      · trivial
      · split
        · trivial
        · split
          · trivial
          · exact emit_event_total hs hroom hI₁ _
    apply ((flush_tracee_spec except_tid tracee hlookup).and htotal).mono
    · intro _ c₂ hpost
      rcases hpost with ⟨⟨events, hevents, hw⟩, _⟩
      exact ⟨hroom.writes hI₁ hw fun event he => (hevents event he).known,
        hw.tracees.trans htracees⟩
    · intro _ _ h
      exact h.2

/-- `write_syscall` flushes the other tracees and writes the call, when the call is
    selected. -/
theorem write_syscall_spec (tracee : Tracee) (event : SyscallEvent) :
    Holds (write_syscall config env tracee event) c
      (fun _ c' => ∃ events, (∀ e ∈ events, FlushEvent config c.tracees tracee.tid e) ∧
        Writes config c
          (if selected config event.number then events ++ [syscall_event tracee event] else []) c')
      (fun _ c' => ∃ events, (∀ e ∈ events, FlushEvent config c.tracees tracee.tid e) ∧
        Breaks config c events c') := by
  unfold write_syscall
  rw [holds_bind, holds_modify]
  -- Nothing else looks at the history of records.
  let noted : Context := { c with records := c.records ++ [(tracee.tid, event)] }
  have hnoted : Writes config c [] noted := ⟨rfl, rfl, rfl⟩
  show Holds _ noted _ _
  by_cases hsel : selected config event.number = true
  · simp only [hsel, Bool.not_true, Bool.false_eq_true, if_false, if_true, holds_bind, holds_modify]
    by_cases hsummary : config.summary = true
    · have hsilent : ∀ (log : Output.Log) (e : Event), log.write config e = log := by
        intro log e
        simp [Output.Log.write, hsummary]
      simp only [hsummary, if_true, holds_bind, holds_context_ask, holds_get, holds_set, holds_ite,
        holds_throw, holds_pure]
      refine ⟨fun _ => ⟨[], by simp, rfl, rfl, rfl⟩, fun _ => ⟨[], by simp, rfl, rfl, ?_⟩⟩
      simp only [List.nil_append, List.foldl_cons, List.foldl_nil, hsilent]
      rfl
    · simp only [hsummary, Bool.false_eq_true, if_false, holds_bind]
      let c₀ : Context := { noted with event_count := c.event_count + 1 }
      have h₀ : Writes config c [] c₀ := ⟨rfl, rfl, rfl⟩
      show Holds (flush_unfinished_syscalls config env tracee.tid) c₀ _ _
      apply (flush_unfinished_syscalls_spec tracee.tid).mono
      · intro _ c₁ hpost
        rcases hpost with ⟨events, hevents, hw⟩
        apply (emit_event_spec _).mono
        · intro _ c₂ hw'
          exact ⟨events, hevents, by simpa using (h₀.trans hw).trans hw'⟩
        · intro _ c₂ hb
          exact ⟨events, hevents, by simpa using (h₀.trans hw).breaks hb⟩
      · intro _ c₁ hpost
        rcases hpost with ⟨events, hevents, hb⟩
        exact ⟨events, hevents, by simpa using h₀.breaks hb⟩
  · simp only [hsel, Bool.not_false, if_true, holds_pure, if_false, Bool.false_eq_true]
    exact ⟨[], by simp, hnoted⟩

/-- In summary mode the totals take the call, if it is selected. -/
def TotalsTake (config : Config) (stats : Stats) (event : SyscallEvent) : Prop :=
  config.summary = true → selected config event.number = true →
    (sg_stats_record stats event true).1 = true

/-- When nothing else fails, `write_syscall` fails only if the totals do not take the call. -/
theorem write_syscall_takes (hs : env.Succeeds) {I : Context → Prop} (hroom : Roomy config I)
    (hI : I c) (tracee : Tracee) (event : SyscallEvent) :
    Holds (write_syscall config env tracee event) c (fun _ _ => TotalsTake config c.stats event)
      (fun _ _ => ¬TotalsTake config c.stats event) := by
  unfold write_syscall
  rw [holds_bind, holds_modify]
  let noted : Context := { c with records := c.records ++ [(tracee.tid, event)] }
  show Holds _ noted _ _
  by_cases hsel : selected config event.number = true
  · simp only [hsel, Bool.not_true, Bool.false_eq_true, if_false, holds_bind, holds_modify]
    by_cases hsummary : config.summary = true
    · simp only [hsummary, if_true, holds_bind, holds_context_ask, holds_get, holds_set, holds_ite,
        holds_throw, holds_pure, hs.alloc]
      refine ⟨fun hrefused htakes => ?_, fun hrecorded _ _ => ?_⟩
      · have hrecorded : (sg_stats_record c.stats event true).1 = true := htakes hsummary hsel
        rw [Bool.not_eq_true'] at hrefused
        exact absurd (hrecorded.symm.trans hrefused) (by decide)
      · rw [Bool.not_eq_true, Bool.not_eq_false'] at hrecorded
        exact hrecorded
    · have htakes : TotalsTake config c.stats event := fun h => absurd h hsummary
      simp only [hsummary, Bool.false_eq_true, if_false, holds_bind]
      let c₀ : Context := { noted with event_count := c.event_count + 1 }
      have hI₀ : I { c with
          records := c.records ++ [(tracee.tid, event)], event_count := c.event_count + 1 } :=
        hroom.count _ hI
      show Holds (flush_unfinished_syscalls config env tracee.tid) c₀ _ _
      apply ((flush_unfinished_syscalls_spec tracee.tid).and
        (flush_unfinished_syscalls_total hs hroom hI₀ tracee.tid)).mono
      · intro _ c₁ hpost
        rcases hpost with ⟨⟨events, hevents, hw⟩, _⟩
        have hI₁ := hroom.writes hI₀ hw fun e he => (hevents e he).known
        apply (emit_event_total hs hroom hI₁ _).mono
        · exact fun _ _ _ => htakes
        · exact fun _ _ h => h.elim
      · exact fun _ _ h => h.2.elim
  · simp only [hsel, Bool.not_false, if_true, holds_pure]
    exact fun _ h => absurd h hsel

theorem write_syscall_total (hs : env.Succeeds) (hsummary : config.summary = false)
    {I : Context → Prop} (hroom : Roomy config I) (hI : I c) (tracee : Tracee)
    (event : SyscallEvent) :
    Holds (write_syscall config env tracee event) c (fun _ _ => True) (fun _ _ => False) := by
  apply (write_syscall_takes hs hroom hI tracee event).mono
  · exact fun _ _ _ => trivial
  · intro _ _ hrefused
    exact hrefused fun h => absurd (hsummary.symm.trans h) (by decide)

/-- What the writers of other events do. -/
theorem write_stamped_spec (tracee : Tracee) (data : EventData) :
    Holds (write_stamped config env tracee data) c
      (fun _ c' => ∃ events observed_at, (∀ e ∈ events, FlushEvent config c.tracees (-1) e) ∧
        Writes config c (events ++ [⟨tracee.tid, tracee.tgid, observed_at, data⟩]) c')
      (fun _ c' => ∃ events, (∀ e ∈ events, FlushEvent config c.tracees (-1) e) ∧
        Breaks config c events c') := by
  unfold write_stamped
  simp only [holds_bind]
  apply (flush_unfinished_syscalls_spec (-1)).mono
  · intro _ c₁ hpost
    rcases hpost with ⟨events, hevents, hw⟩
    apply (clock_gettime_spec config).mono
    · intro observed_at c₂ hw'
      apply (emit_event_spec _).mono
      · intro _ c₃ hw''
        exact ⟨events, observed_at, hevents, by simpa using (hw.trans hw').trans hw''⟩
      · intro _ c₃ hb
        exact ⟨events, hevents, by simpa using (hw.trans hw').breaks hb⟩
    · intro _ c₂ hb
      exact ⟨events, hevents, by simpa using hw.breaks hb⟩
  · intro _ c₁ h
    exact h

theorem write_stamped_total (hs : env.Succeeds) {I : Context → Prop} (hroom : Roomy config I)
    (hI : I c) (tracee : Tracee) (data : EventData) :
    Holds (write_stamped config env tracee data) c (fun _ _ => True) (fun _ _ => False) := by
  unfold write_stamped
  simp only [holds_bind]
  apply ((flush_unfinished_syscalls_spec (-1)).and
    (flush_unfinished_syscalls_total hs hroom hI (-1))).mono
  · intro _ c₁ hpost
    rcases hpost with ⟨⟨events, hevents, hw⟩, _⟩
    have hI₁ := hroom.writes hI hw fun e he => (hevents e he).known
    apply ((clock_gettime_spec config).and (clock_gettime_total hs)).mono
    · intro observed_at c₂ hpost
      rcases hpost with ⟨hw', _⟩
      exact emit_event_total hs hroom (hroom.writes hI₁ hw' (by simp)) _
    · intro _ _ h
      exact h.2
  · intro _ _ h
    exact h.2

end spec

end Sysgaze
