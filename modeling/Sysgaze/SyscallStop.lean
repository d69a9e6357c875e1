import Sysgaze.Context
import Sysgaze.Seccomp

/-! # System call stops (`trace.c`)

    `begin_syscall` and `finish_syscall` keep two calls for each tracee: the
    pending call, whose exit is awaited, and the interrupted call, which ended
    with a restart result and may be entered again.  The flag
    `interrupted_restart_ready` says that a signal handler has returned since.

    The two C functions are cut into named blocks here: `complete_exec`,
    `restart_call`, `report_interrupted`, `enter_call` and `interrupt_call`,
    `complete_call`.
-/

open Fallible

namespace Sysgaze

/-! ### Constants -/

abbrev SYS_execve : Int := 59
abbrev SYS_restart_syscall : Int := 219
abbrev SYS_execveat : Int := 322
abbrev EINTR : Int := 4
abbrev LONG_MAX : Nat := 2 ^ 63 - 1
abbrev INT_MAX : Int := 2 ^ 31 - 1

/-- `is_restart_result`. -/
def is_restart_result (result : Int) : Bool :=
  result == -512 || result == -513 || result == -514 || result == -516

/-- Is this the number of a call that replaces the program? -/
def is_exec (number : Int) : Bool :=
  number == SYS_execve || number == SYS_execveat

variable (config : Config) (env : Env)

/-! ### Entries -/

/-- The block that `begin_syscall` and `handle_ptrace_event` share: the pending call
    is an exec that has succeeded. -/
def complete_exec (tracee : Tracee) : TraceM Tracee := do
  let event : SyscallEvent :=
    { tracee.pending_syscall with result := 0, error_number := 0, completed := true }
  store { tracee with pending_syscall := event }
  let exited_at ← clock_gettime env
  let event : SyscallEvent := { event with exited_at := exited_at }
  store { tracee with pending_syscall := event }
  write_syscall config env tracee event
  let event ← sg_decoder_release_event event
  let tracee : Tracee := { tracee with pending_syscall := event, has_pending_syscall := false }
  store tracee
  pure tracee

/-- The first block of `begin_syscall`: an entry while a call is pending. -/
def leave_pending (tracee : Tracee) : TraceM Tracee :=
  if tracee.has_pending_syscall then
    if is_exec tracee.pending_syscall.number then complete_exec config env tracee
    else throw "received syscall entry before the previous exit"
  else pure tracee

/-- The second block: the entry is the restart of the interrupted call. -/
def restart_call (tracee : Tracee) : TraceM Unit := do
  flush_unfinished_syscalls config env tracee.tid
  store { tracee with
    pending_syscall := tracee.interrupted_syscall
    interrupted_syscall := .zero
    has_interrupted_syscall := false
    interrupted_restart_ready := false
    has_pending_syscall := true
    phase := .SG_TRACEE_IN_SYSCALL }

/-- The third block: the interrupted call was not restarted, so user code has been
    given `EINTR`. -/
def report_interrupted (tracee : Tracee) : TraceM Tracee :=
  if tracee.has_interrupted_syscall && tracee.interrupted_restart_ready then do
    let event : SyscallEvent :=
      { tracee.interrupted_syscall with result := -1, error_number := EINTR, completed := true }
    store { tracee with interrupted_syscall := event }
    let exited_at ← clock_gettime env
    let event : SyscallEvent := { event with exited_at := exited_at }
    store { tracee with interrupted_syscall := event }
    write_syscall config env tracee event
    let event ← sg_decoder_release_event event
    let tracee : Tracee := { tracee with
      interrupted_syscall := event
      has_interrupted_syscall := false
      interrupted_restart_ready := false }
    store tracee
    pure tracee
  else pure tracee

/-- `sg_decoder_capture_entry`, with the error that `begin_syscall` reports. -/
def sg_decoder_capture_entry (tid : Pid) (event : SyscallEvent) : TraceM SyscallEvent := do
  let n ← ask
  match env.capture n tid event with
  | some (argument_count, decoded_arguments) => do
    let event : SyscallEvent :=
      { event with argument_count := argument_count, decoded_arguments := decoded_arguments }
    modify fun context => { context with captured := context.captured ++ event.texts }
    pure event
  | none => throw "cannot capture syscall arguments: allocation failed"

/-- The event of a call that is entered. -/
def SyscallEvent.entered (number : UInt64) (arguments : Vector UInt64 6) : SyscallEvent :=
  { SyscallEvent.zero with number := number.toNat, arguments := arguments }

/-- The event of a new call: a selected call is stamped, and its arguments are
    captured. -/
def make_call (tracee : Tracee) (number : UInt64) (arguments : Vector UInt64 6) :
    TraceM SyscallEvent :=
  let event := SyscallEvent.entered number arguments
  if selected config event.number then do
    let entered_at ← clock_gettime env
    let event : SyscallEvent := { event with entered_at := entered_at }
    if config.summary then pure event else sg_decoder_capture_entry env tracee.tid event
  else pure event

/-- The last block of `begin_syscall`: a new call. -/
def enter_call (tracee : Tracee) (number : UInt64) (arguments : Vector UInt64 6) :
    TraceM Unit := do
  let event ← make_call config env tracee number arguments
  if selected config event.number then
    onError (flush_unfinished_syscalls config env tracee.tid) fun context =>
      context.release event
  else pure ()
  store { tracee with
    pending_syscall := event
    has_pending_syscall := true
    phase := .SG_TRACEE_IN_SYSCALL }

/-- Is this entry taken as the restart of the interrupted call? -/
def Tracee.restarts (tracee : Tracee) (number : Int) : Bool :=
  tracee.has_interrupted_syscall && tracee.interrupted_restart_ready &&
    (number == tracee.interrupted_syscall.number || number == SYS_restart_syscall)

/-- `begin_syscall`. -/
def begin_syscall (tracee : Tracee) (number : UInt64) (arguments : Vector UInt64 6) :
    TraceM Unit :=
  if number.toNat > LONG_MAX then throw "syscall number is outside native range"
  else do
    let tracee ← leave_pending config env tracee
    if tracee.restarts number.toNat then restart_call config env tracee
    else do
      let tracee ← report_interrupted config env tracee
      enter_call config env tracee number arguments

/-! ### Exits -/

/-- `finish_syscall`, restart result: the pending call becomes the interrupted one. -/
def interrupt_call (tracee : Tracee) : TraceM Unit := do
  if tracee.has_interrupted_syscall then do
    let _ ← sg_decoder_release_event tracee.interrupted_syscall
    pure ()
  else pure ()
  store { tracee with
    interrupted_syscall := tracee.pending_syscall
    pending_syscall := .zero
    has_interrupted_syscall := true
    interrupted_restart_ready := false
    has_pending_syscall := false
    phase := .SG_TRACEE_STOPPED }

/-- The error number that an exit stop reports. -/
def exit_error (rval : Int) (is_error : Bool) : Int :=
  if is_error ∧ rval < 0 ∧ rval ≥ -INT_MAX then -rval else 0

/-- What the end of the pending call means for the interrupted call: the end of a
    handler makes it ready to be restarted, the end of the same call drops it. -/
def settle_interrupted (tracee : Tracee) : TraceM Tracee :=
  if tracee.has_interrupted_syscall then
    if tracee.pending_syscall.number = SYS_rt_sigreturn then
      pure { tracee with interrupted_restart_ready := true }
    else if !tracee.interrupted_restart_ready &&
        tracee.pending_syscall.number == tracee.interrupted_syscall.number then do
      let interrupted ← sg_decoder_release_event tracee.interrupted_syscall
      pure { tracee with
        has_interrupted_syscall := false
        interrupted_syscall := interrupted }
    else pure tracee
  else pure tracee

/-- The exit time of a selected call. -/
def stamp_exit (event : SyscallEvent) : TraceM SyscallEvent :=
  if selected config event.number then do
    let exited_at ← clock_gettime env
    pure { event with exited_at := exited_at }
  else pure event

/-- `finish_syscall`, any other result: the pending call is complete. -/
def complete_call (tracee : Tracee) (rval : Int) (is_error : Bool) : TraceM Unit := do
  let event : SyscallEvent :=
    { tracee.pending_syscall with result := rval, error_number := exit_error rval is_error }
  store { tracee with pending_syscall := event }
  let event ← stamp_exit config env event
  let event : SyscallEvent := { event with completed := true }
  let tracee : Tracee := { tracee with pending_syscall := event }
  store tracee
  write_syscall config env tracee event
  let tracee ← settle_interrupted tracee
  let event ← sg_decoder_release_event event
  store { tracee with
    pending_syscall := event
    has_pending_syscall := false
    phase := .SG_TRACEE_STOPPED }

/-- `finish_syscall`. -/
def finish_syscall (tracee : Tracee) (rval : Int) (is_error : Bool) : TraceM Unit :=
  if !tracee.has_pending_syscall then store { tracee with phase := .SG_TRACEE_STOPPED }
  else if is_restart_result rval then interrupt_call tracee
  else complete_call config env tracee rval is_error

/-! ### The stops -/

/-- `struct ptrace_syscall_info` as `PTRACE_GET_SYSCALL_INFO` filled it in: the first
    `size` bytes are valid. -/
structure SyscallInfo where
  size : Nat
  op : Nat
  arch : UInt32
  nr : UInt64
  args : Vector UInt64 6
  rval : Int
  is_error : Bool
  deriving DecidableEq, Repr

abbrev PTRACE_SYSCALL_INFO_ENTRY : Nat := 1
abbrev PTRACE_SYSCALL_INFO_EXIT : Nat := 2
abbrev PTRACE_SYSCALL_INFO_SECCOMP : Nat := 3

/-- The end of the field `arch`. -/
abbrev sizeof_header : Nat := 8

/-- The end of the arguments, at an entry and at a seccomp stop. -/
abbrev sizeof_entry : Nat := 80

/-- The end of the field `is_error`. -/
abbrev sizeof_exit : Nat := 33

/-- A number in hexadecimal. -/
def hex (n : UInt32) : String := String.ofList (Nat.toDigits 16 n.toNat)

/-- `handle_syscall_stop`; `answer` is what `PTRACE_GET_SYSCALL_INFO` returned. -/
def handle_syscall_stop (tracee : Tracee) (answer : Option SyscallInfo) : TraceM Unit := do
  measured_ptrace .PTRACE_GET_SYSCALL_INFO tracee.tid 0
  match answer with
  | none => throw s!"PTRACE_GET_SYSCALL_INFO failed: {env.strerror}"
  | some info =>
    if info.size < sizeof_header then
      throw "PTRACE_GET_SYSCALL_INFO returned a truncated header"
    else if info.arch ≠ AUDIT_ARCH_X86_64 then
      throw s!"tracee ABI is not native x86-64 (audit arch 0x{hex info.arch})"
    else if info.op = PTRACE_SYSCALL_INFO_ENTRY then
      if info.size < sizeof_entry then
        throw "PTRACE_GET_SYSCALL_INFO returned a truncated entry"
      else begin_syscall config env tracee info.nr info.args
    else if info.op = PTRACE_SYSCALL_INFO_EXIT then
      if info.size < sizeof_exit then
        throw "PTRACE_GET_SYSCALL_INFO returned a truncated exit"
      else finish_syscall config env tracee info.rval info.is_error
    else throw s!"unexpected syscall-stop operation {info.op}"

/-- `handle_seccomp_stop`. -/
def handle_seccomp_stop (tracee : Tracee) (answer : Option SyscallInfo) : TraceM Unit := do
  measured_ptrace .PTRACE_GET_SYSCALL_INFO tracee.tid 0
  match answer with
  | none => throw s!"PTRACE_GET_SYSCALL_INFO at seccomp stop failed: {env.strerror}"
  | some info =>
    if info.size < sizeof_entry then
      throw "PTRACE_GET_SYSCALL_INFO returned truncated seccomp data"
    else if info.arch ≠ AUDIT_ARCH_X86_64 then
      throw s!"seccomp tracee ABI is not native x86-64 (audit arch 0x{hex info.arch})"
    else if info.op ≠ PTRACE_SYSCALL_INFO_SECCOMP then
      throw s!"unexpected seccomp-stop operation {info.op}"
    else if info.nr &&& SG_X32_SYSCALL_BIT.toUInt64 ≠ 0 then
      throw "x32 syscall ABI is not supported"
    else begin_syscall config env tracee info.nr info.args

/-! ### What the blocks do

    A block that succeeds stores one record and writes events (`Updates`); a
    block that fails has written some events and may have changed the calls of
    that one record (`Fails`). -/

/-- The fields of a record that the handling of a call leaves alone. -/
structure Shell where
  tid : Pid
  tgid : Pid
  pending_signal : Int
  attached : Bool
  newborn : Bool
  in_ptrace_stop : Bool
  options_installed : Bool

/-- The shell of a record. -/
def Tracee.shell (tracee : Tracee) : Shell :=
  ⟨tracee.tid, tracee.tgid, tracee.pending_signal, tracee.attached, tracee.newborn,
    tracee.in_ptrace_stop, tracee.options_installed⟩

/-- From `c` to `c'` the record `tracee` has been stored and the events written. -/
structure Updates (config : Config) (c : Context) (tracee : Tracee) (events : List Event)
    (c' : Context) : Prop where
  lookup : ∀ tid, c'.tracees.lookup tid =
    if tid = tracee.tid then some tracee else c.tracees.lookup tid
  rest : c'.rest = c.rest
  log : c'.output.log = events.foldl (Output.Log.write config) c.output.log

/-- From `c` to `c'` only the calls of `tid`, and what has been written, have changed. -/
structure Frame (c : Context) (tid : Pid) (c' : Context) : Prop where
  others : ∀ other, other ≠ tid → c'.tracees.lookup other = c.tracees.lookup other
  shell : (c'.tracees.lookup tid).map Tracee.shell = (c.tracees.lookup tid).map Tracee.shell
  rest : c'.rest = c.rest

/-- From `c` to `c'` the events have been written, and then something failed; of the
    records, only the calls of `tid` may have changed. -/
structure Fails (config : Config) (c : Context) (tid : Pid) (events : List Event)
    (c' : Context) : Prop extends Frame c tid c' where
  lines : c'.output.lines = (events.foldl (Output.Log.write config) c.output.log).lines

section spec
variable {config : Config} {env : Env} {c c' c'' : Context} {events events' : List Event}
  {tracee tracee' : Tracee}

variable (config) in
theorem Updates.refl (h : c.tracees.lookup tracee.tid = some tracee) :
    Updates config c tracee [] c := by
  refine ⟨fun tid => ?_, rfl, rfl⟩
  by_cases ht : tid = tracee.tid
  · rw [if_pos ht, ht, h]
  · rw [if_neg ht]

theorem Updates.lookup_self (h : Updates config c tracee events c') :
    c'.tracees.lookup tracee.tid = some tracee := by
  rw [h.lookup, if_pos rfl]

theorem Updates.lookup_other (h : Updates config c tracee events c') {tid : Pid}
    (ht : tid ≠ tracee.tid) : c'.tracees.lookup tid = c.tracees.lookup tid := by
  rw [h.lookup, if_neg ht]

/-- A later record for the same TID takes the place of the earlier one. -/
theorem Updates.trans (h : Updates config c tracee events c')
    (h' : Updates config c' tracee' events' c'') (htid : tracee'.tid = tracee.tid) :
    Updates config c tracee' (events ++ events') c'' := by
  refine ⟨fun tid => ?_, h'.rest.trans h.rest, by rw [h'.log, h.log, List.foldl_append]⟩
  rw [h'.lookup]
  by_cases ht : tid = tracee'.tid
  · rw [if_pos ht, if_pos ht]
  · rw [if_neg ht, if_neg ht, h.lookup_other (by rw [← htid]; exact ht)]

theorem Updates.writes (h : Updates config c tracee events c') (h' : Writes config c' events' c'') :
    Updates config c tracee (events ++ events') c'' :=
  ⟨fun tid => by rw [h'.tracees, h.lookup], h'.rest.trans h.rest,
    by rw [h'.log, h.log, List.foldl_append]⟩

theorem Updates.store {t : Tracee} (h : Updates config c tracee events c')
    (htid : t.tid = tracee.tid) :
    Updates config c t events { c' with tracees := c'.tracees.write t } := by
  refine ⟨fun tid => ?_, h.rest, h.log⟩
  rw [Tracees.lookup_write, htid, h.lookup_self]
  by_cases ht : tid = tracee.tid
  · simp [ht]
  · simp [ht, h.lookup_other ht]

theorem Updates.release (h : Updates config c tracee events c') (event : SyscallEvent) :
    Updates config c tracee events (c'.release event) :=
  ⟨h.lookup, h.rest, h.log⟩

theorem Updates.breaks (h : Updates config c tracee events c')
    (hold : c.tracees.lookup tracee'.tid = some tracee') (hshell : tracee.shell = tracee'.shell)
    (h' : Breaks config c' events' c'') :
    Fails config c tracee'.tid (events ++ events') c'' := by
  have htid : tracee.tid = tracee'.tid := congrArg Shell.tid hshell
  refine ⟨⟨fun other ho => ?_, ?_, h'.rest.trans h.rest⟩,
    by rw [h'.lines, h.log, List.foldl_append]⟩
  · rw [h'.tracees, h.lookup_other (by rw [htid]; exact ho)]
  · rw [h'.tracees, ← htid, h.lookup_self, htid, hold, Option.map_some, Option.map_some, hshell]

theorem Updates.frame (h : Updates config c tracee events c')
    (hold : c.tracees.lookup tracee'.tid = some tracee') (hshell : tracee.shell = tracee'.shell) :
    Frame c tracee'.tid c' := by
  have htid : tracee.tid = tracee'.tid := congrArg Shell.tid hshell
  refine ⟨fun other ho => h.lookup_other (by rw [htid]; exact ho), ?_, h.rest⟩
  rw [← htid, h.lookup_self, htid, hold, Option.map_some, Option.map_some, hshell]

/-- A block that follows another one fails: so does the sequence. -/
theorem Updates.fails (h : Updates config c tracee events c')
    (hold : c.tracees.lookup tracee'.tid = some tracee') (hshell : tracee.shell = tracee'.shell)
    (h' : Fails config c' tracee'.tid events' c'') :
    Fails config c tracee'.tid (events ++ events') c'' := by
  have htid : tracee.tid = tracee'.tid := congrArg Shell.tid hshell
  refine ⟨⟨fun other ho => ?_, ?_, h'.rest.trans h.rest⟩,
    by rw [h'.lines, h.log, List.foldl_append]⟩
  · rw [h'.others other ho, h.lookup_other (by rw [htid]; exact ho)]
  · rw [h'.shell, ← htid, h.lookup_self, htid, hold, Option.map_some, Option.map_some, hshell]

theorem Fails.refl (h : Breaks config c events c') (tid : Pid) : Fails config c tid events c' :=
  ⟨⟨fun _ _ => by rw [h.tracees], by rw [h.tracees], h.rest⟩, h.lines⟩

/-- The flush depends on the records of the other tracees only. -/
theorem FlushEvent.congr {tracees tracees' : Tracees} {tid : Pid} {event : Event}
    (h : FlushEvent config tracees tid event)
    (heq : ∀ other, other ≠ tid → tracees.lookup other = tracees'.lookup other) :
    FlushEvent config tracees' tid event := by
  obtain ⟨tracee, call, hlookup, hne, hcall, hsel, rfl⟩ := h
  exact ⟨tracee, call, by rw [← heq _ hne]; exact hlookup, hne, hcall, hsel, rfl⟩

/-- The events that the completion of a call writes: a flush of the other tracees, then
    the call. -/
def CallEvents (config : Config) (tracees : Tracees) (tracee : Tracee) (event : SyscallEvent)
    (events : List Event) : Prop :=
  ∃ flushed, (∀ e ∈ flushed, FlushEvent config tracees tracee.tid e) ∧
    events = if selected config event.number then flushed ++ [syscall_event tracee event] else []

/-- `write_syscall` once a record has been stored. -/
theorem write_updated_spec {old : Tracee} (hu : Updates config c tracee' [] c')
    (hold : c.tracees.lookup old.tid = some old) (hshell : tracee'.shell = old.shell)
    (event : SyscallEvent) :
    Holds (write_syscall config env old event) c'
      (fun _ c'' => ∃ events, CallEvents config c.tracees old event events ∧
        Updates config c tracee' events c'')
      (fun _ c'' => ∃ events, (∀ e ∈ events, FlushEvent config c.tracees old.tid e) ∧
        Fails config c old.tid events c'') := by
  have htid : tracee'.tid = old.tid := congrArg Shell.tid hshell
  have hsame : ∀ other, other ≠ old.tid → c'.tracees.lookup other = c.tracees.lookup other := by
    intro other ho
    exact hu.lookup_other (by rw [htid]; exact ho)
  apply (write_syscall_spec old event).mono
  · intro _ c'' hpost
    rcases hpost with ⟨flushed, hflushed, hw⟩
    refine ⟨_, ⟨flushed, fun e he => (hflushed e he).congr hsame, rfl⟩, ?_⟩
    simpa using hu.writes hw
  · intro _ c'' hpost
    rcases hpost with ⟨flushed, hflushed, hb⟩
    exact ⟨flushed, fun e he => (hflushed e he).congr hsame, by simpa using hu.breaks hold hshell hb⟩

/-- The call of an exec that has succeeded. -/
def SyscallEvent.exec_done (event : SyscallEvent) (exited_at : Timespec) : SyscallEvent :=
  { event with result := 0, error_number := 0, completed := true, exited_at := exited_at }

/-- A call that is over without an exit stop, as `complete_exec` and `report_interrupted` end it:
    `keep` puts the call back into its slot of the record, and `leave` empties the slot. -/
def end_call (config : Config) (env : Env) (tracee : Tracee) (event : SyscallEvent)
    (keep leave : Tracee → SyscallEvent → Tracee) : TraceM Tracee := do
  store (keep tracee event)
  let exited_at ← clock_gettime env
  let event : SyscallEvent := { event with exited_at := exited_at }
  store (keep tracee event)
  write_syscall config env tracee event
  let event ← sg_decoder_release_event event
  let tracee := leave tracee event
  store tracee
  pure tracee

theorem complete_exec_eq (tracee : Tracee) :
    complete_exec config env tracee =
      end_call config env tracee
        { tracee.pending_syscall with result := 0, error_number := 0, completed := true }
        (fun tracee event => { tracee with pending_syscall := event })
        (fun tracee event =>
          { tracee with pending_syscall := event, has_pending_syscall := false }) := rfl

theorem report_interrupted_eq (tracee : Tracee) :
    report_interrupted config env tracee =
      if tracee.has_interrupted_syscall && tracee.interrupted_restart_ready then
        end_call config env tracee
          { tracee.interrupted_syscall with
            result := -1, error_number := EINTR, completed := true }
          (fun tracee event => { tracee with interrupted_syscall := event })
          (fun tracee event =>
            { tracee with
              interrupted_syscall := event
              has_interrupted_syscall := false
              interrupted_restart_ready := false })
      else pure tracee := rfl

section EndCall

variable {event : SyscallEvent} {keep leave : Tracee → SyscallEvent → Tracee}

theorem end_call_spec (hold : c.tracees.lookup tracee.tid = some tracee)
    (hkeep : ∀ event, (keep tracee event).shell = tracee.shell)
    (hleave : ∀ event, (leave tracee event).tid = tracee.tid) :
    Holds (end_call config env tracee event keep leave) c
      (fun tracee' c' => ∃ exited_at events,
        CallEvents config c.tracees tracee { event with exited_at := exited_at } events ∧
        tracee' = leave tracee ({ event with exited_at := exited_at } : SyscallEvent).without_texts ∧
        Updates config c tracee' events c')
      (fun _ c' => ∃ events, (∀ e ∈ events, FlushEvent config c.tracees tracee.tid e) ∧
        Fails config c tracee.tid events c') := by
  have htid : ∀ event, (keep tracee event).tid = tracee.tid :=
    fun event => congrArg Shell.tid (hkeep event)
  unfold end_call
  simp only [holds_bind, holds_store, holds_release, holds_pure]
  have h₀ : Updates config c tracee [] c := .refl config hold
  -- The result is stored before the clock is read, and again after it.
  have h₁ := h₀.store (t := keep tracee event) (htid event)
  apply (clock_gettime_spec config).mono
  · intro exited_at c₁ hw
    have h₂ := (h₁.writes hw).store (t := keep tracee { event with exited_at := exited_at })
      ((htid _).trans (htid event).symm)
    apply (write_updated_spec h₂ hold (hkeep _) _).mono
    · intro _ c₂ hpost
      rcases hpost with ⟨events, hevents, hu⟩
      exact ⟨exited_at, events, hevents, rfl,
        (hu.release _).store ((hleave _).trans (htid _).symm)⟩
    · intro _ c₂ h
      exact h
  · intro _ c₁ hb
    exact ⟨[], by simp, h₁.breaks hold (hkeep event) hb⟩

end EndCall

theorem complete_exec_spec (hold : c.tracees.lookup tracee.tid = some tracee) :
    Holds (complete_exec config env tracee) c
      (fun tracee' c' => ∃ exited_at events,
        CallEvents config c.tracees tracee (tracee.pending_syscall.exec_done exited_at) events ∧
        tracee' = { tracee with
          pending_syscall := (tracee.pending_syscall.exec_done exited_at).without_texts
          has_pending_syscall := false } ∧
        Updates config c tracee' events c')
      (fun _ c' => ∃ events, (∀ e ∈ events, FlushEvent config c.tracees tracee.tid e) ∧
        Fails config c tracee.tid events c') := by
  rw [complete_exec_eq]
  exact end_call_spec hold (fun _ => rfl) fun _ => rfl

/-- A pending call at an entry is an exec that has succeeded, or an error. -/
theorem leave_pending_spec (hold : c.tracees.lookup tracee.tid = some tracee) :
    Holds (leave_pending config env tracee) c
      (fun tracee' c' =>
        (tracee.has_pending_syscall = false ∧ tracee' = tracee ∧ c' = c) ∨
        (tracee.has_pending_syscall = true ∧ is_exec tracee.pending_syscall.number = true ∧
          ∃ exited_at events,
            CallEvents config c.tracees tracee (tracee.pending_syscall.exec_done exited_at) events ∧
            tracee' = { tracee with
              pending_syscall := (tracee.pending_syscall.exec_done exited_at).without_texts
              has_pending_syscall := false } ∧
            Updates config c tracee' events c'))
      (fun _ c' => ∃ events, (∀ e ∈ events, FlushEvent config c.tracees tracee.tid e) ∧
        Fails config c tracee.tid events c') := by
  unfold leave_pending
  by_cases hp : tracee.has_pending_syscall = true
  · by_cases hexec : is_exec tracee.pending_syscall.number = true
    · simp only [hp, hexec, if_true]
      apply (complete_exec_spec hold).mono
      · intro tracee' c' h
        exact Or.inr ⟨trivial, trivial, h⟩
      · intro _ c' h
        exact h
    · simp only [hp, hexec, if_true, if_false, Bool.false_eq_true]
      exact ⟨[], by simp, .refl ⟨rfl, rfl, rfl⟩ _⟩
  · simp only [hp, if_false, Bool.false_eq_true, holds_pure]
    exact Or.inl (by simp)

/-- The record after `restart_call`. -/
def Tracee.restarted (tracee : Tracee) : Tracee :=
  { tracee with
    pending_syscall := tracee.interrupted_syscall
    interrupted_syscall := .zero
    has_interrupted_syscall := false
    interrupted_restart_ready := false
    has_pending_syscall := true
    phase := .SG_TRACEE_IN_SYSCALL }

theorem restart_call_spec (hold : c.tracees.lookup tracee.tid = some tracee) :
    Holds (restart_call config env tracee) c
      (fun _ c' => ∃ events, (∀ e ∈ events, FlushEvent config c.tracees tracee.tid e) ∧
        Updates config c tracee.restarted events c')
      (fun _ c' => ∃ events, (∀ e ∈ events, FlushEvent config c.tracees tracee.tid e) ∧
        Fails config c tracee.tid events c') := by
  unfold restart_call
  simp only [holds_bind, holds_store]
  apply (flush_unfinished_syscalls_spec tracee.tid).mono
  · intro _ c₁ hpost
    rcases hpost with ⟨events, hevents, hw⟩
    exact ⟨events, hevents, ((Updates.refl config hold).writes hw).store rfl⟩
  · intro _ c₁ hpost
    rcases hpost with ⟨events, hevents, hb⟩
    exact ⟨events, hevents, .refl hb _⟩

/-- The interrupted call as it is reported when it was not restarted. -/
def SyscallEvent.not_restarted (event : SyscallEvent) (exited_at : Timespec) : SyscallEvent :=
  { event with result := -1, error_number := EINTR, completed := true, exited_at := exited_at }

theorem report_interrupted_spec (hold : c.tracees.lookup tracee.tid = some tracee) :
    Holds (report_interrupted config env tracee) c
      (fun tracee' c' =>
        ((tracee.has_interrupted_syscall && tracee.interrupted_restart_ready) = false ∧
          tracee' = tracee ∧ c' = c) ∨
        ((tracee.has_interrupted_syscall && tracee.interrupted_restart_ready) = true ∧
          ∃ exited_at events,
            CallEvents config c.tracees tracee
              (tracee.interrupted_syscall.not_restarted exited_at) events ∧
            tracee' = { tracee with
              interrupted_syscall :=
                (tracee.interrupted_syscall.not_restarted exited_at).without_texts
              has_interrupted_syscall := false
              interrupted_restart_ready := false } ∧
            Updates config c tracee' events c'))
      (fun _ c' => ∃ events, (∀ e ∈ events, FlushEvent config c.tracees tracee.tid e) ∧
        Fails config c tracee.tid events c') := by
  rw [report_interrupted_eq]
  by_cases hready : (tracee.has_interrupted_syscall && tracee.interrupted_restart_ready) = true
  · rw [if_pos hready]
    apply (end_call_spec hold (fun _ => rfl) fun _ => rfl).mono
    · intro tracee' c' hpost
      rcases hpost with ⟨exited_at, events, hevents, hnew, hu⟩
      exact Or.inr ⟨hready, exited_at, events, hevents, hnew, hu⟩
    · intro _ c' h
      exact h
  · rw [if_neg hready, holds_pure]
    exact Or.inl ⟨by simpa using hready, rfl, rfl⟩

/-- The record after `enter_call`. -/
def Tracee.entered (tracee : Tracee) (event : SyscallEvent) : Tracee :=
  { tracee with
    pending_syscall := event
    has_pending_syscall := true
    phase := .SG_TRACEE_IN_SYSCALL }

/-- The event that `enter_call` makes: a fresh one, and for a call that is not selected
    nothing but its number and arguments. -/
structure FreshCall (config : Config) (number : UInt64) (arguments : Vector UInt64 6)
    (event : SyscallEvent) : Prop where
  number_eq : event.number = number.toNat
  arguments_eq : event.arguments = arguments
  incomplete : event.completed = false
  hidden : selected config number.toNat = false → event = .entered number arguments

variable (config) in
theorem sg_decoder_capture_entry_spec (tid : Pid) (event : SyscallEvent) :
    Holds (sg_decoder_capture_entry env tid event) c
      (fun event' c' => Writes config c [] c' ∧ event'.number = event.number ∧
        event'.arguments = event.arguments ∧ event'.completed = event.completed)
      (fun _ c' => Breaks config c [] c') := by
  unfold sg_decoder_capture_entry
  simp only [holds_bind, holds_context_ask]
  cases env.capture c.asked tid event with
  | none => exact ⟨rfl, rfl, rfl⟩
  | some captured => exact ⟨⟨rfl, rfl, rfl⟩, rfl, rfl, rfl⟩

theorem make_call_spec (number : UInt64) (arguments : Vector UInt64 6) :
    Holds (make_call config env tracee number arguments) c
      (fun event c' => Writes config c [] c' ∧ FreshCall config number arguments event)
      (fun _ c' => Breaks config c [] c') := by
  have hnumber : (SyscallEvent.entered number arguments).number = number.toNat := rfl
  unfold make_call
  by_cases hsel : selected config number.toNat = true
  · have hhidden : ∀ event : SyscallEvent, selected config number.toNat = false →
        event = .entered number arguments := by
      intro event hf
      rw [hf] at hsel
      simp at hsel
    simp only [hnumber, hsel, if_true, holds_bind]
    apply (clock_gettime_spec config).mono
    · intro entered_at c₁ hw
      by_cases hsummary : config.summary = true
      · simp only [hsummary, if_true, holds_pure]
        exact ⟨hw, rfl, rfl, rfl, hhidden _⟩
      · simp only [hsummary, if_false, Bool.false_eq_true]
        apply (sg_decoder_capture_entry_spec config _ _).mono
        · intro event c₂ hpost
          rcases hpost with ⟨hw', h₁, h₂, h₃⟩
          exact ⟨hw.trans hw', h₁, h₂, h₃, hhidden _⟩
        · intro _ c₂ hb
          exact hw.breaks hb
    · intro _ c₁ hb
      exact hb
  · simp only [hnumber, hsel, if_false, Bool.false_eq_true, holds_pure]
    exact ⟨.refl c, rfl, rfl, rfl, fun _ => rfl⟩

theorem enter_call_spec (hold : c.tracees.lookup tracee.tid = some tracee) (number : UInt64)
    (arguments : Vector UInt64 6) :
    Holds (enter_call config env tracee number arguments) c
      (fun _ c' => ∃ event events, FreshCall config number arguments event ∧
        (∀ e ∈ events, FlushEvent config c.tracees tracee.tid e) ∧
        Updates config c (tracee.entered event) events c')
      (fun _ c' => ∃ events, (∀ e ∈ events, FlushEvent config c.tracees tracee.tid e) ∧
        Fails config c tracee.tid events c') := by
  have h₀ : Updates config c tracee [] c := .refl config hold
  unfold enter_call
  simp only [holds_bind]
  apply (make_call_spec number arguments).mono
  · intro event c₁ hpost
    rcases hpost with ⟨hw, hfresh⟩
    by_cases hsel : selected config event.number = true
    · simp only [hsel, if_true, holds_bind, holds_onError, holds_store]
      apply (flush_unfinished_syscalls_spec tracee.tid).mono
      · intro _ c₂ hpost
        rcases hpost with ⟨events, hevents, hw'⟩
        rw [hw.tracees] at hevents
        exact ⟨event, events, hfresh, hevents, ((h₀.writes hw).writes hw').store rfl⟩
      · intro _ c₂ hpost
        rcases hpost with ⟨events, hevents, hb⟩
        rw [hw.tracees] at hevents
        have hb' : Breaks config c₁ events (c₂.release event) := ⟨hb.tracees, hb.rest, hb.lines⟩
        exact ⟨events, hevents, by simpa using Fails.refl (hw.breaks hb') tracee.tid⟩
    · simp only [hsel, if_false, Bool.false_eq_true, holds_store]
      exact ⟨event, [], hfresh, by simp, (h₀.writes hw).store rfl⟩
  · intro _ c₁ hb
    exact ⟨[], by simp, .refl hb _⟩

/-- The record after `interrupt_call`. -/
def Tracee.interrupted (tracee : Tracee) : Tracee :=
  { tracee with
    interrupted_syscall := tracee.pending_syscall
    pending_syscall := .zero
    has_interrupted_syscall := true
    interrupted_restart_ready := false
    has_pending_syscall := false
    phase := .SG_TRACEE_STOPPED }

theorem interrupt_call_spec (hold : c.tracees.lookup tracee.tid = some tracee)
    {E : String → Context → Prop} :
    Holds (interrupt_call tracee) c (fun _ c' => Updates config c tracee.interrupted [] c') E := by
  have h₀ : Updates config c tracee [] c := .refl config hold
  unfold interrupt_call
  by_cases hint : tracee.has_interrupted_syscall = true
  · simp only [hint, if_true, holds_bind, holds_release, holds_store]
    exact (h₀.release _).store rfl
  · simp only [hint, if_false, Bool.false_eq_true, holds_store]
    exact h₀.store rfl

/-- The pending call with its result. -/
def SyscallEvent.finished (event : SyscallEvent) (rval : Int) (is_error : Bool)
    (exited_at : Timespec) : SyscallEvent :=
  { event with
    result := rval
    error_number := exit_error rval is_error
    exited_at := exited_at
    completed := true }

/-- The record after `settle_interrupted`. -/
def Tracee.settled (tracee : Tracee) : Tracee :=
  if tracee.has_interrupted_syscall then
    if tracee.pending_syscall.number = SYS_rt_sigreturn then
      { tracee with interrupted_restart_ready := true }
    else if !tracee.interrupted_restart_ready &&
        tracee.pending_syscall.number == tracee.interrupted_syscall.number then
      { tracee with
        has_interrupted_syscall := false
        interrupted_syscall := tracee.interrupted_syscall.without_texts }
    else tracee
  else tracee

@[simp] theorem Tracee.settled_shell (tracee : Tracee) : tracee.settled.shell = tracee.shell := by
  unfold Tracee.settled
  split
  · split
    · rfl
    · split <;> rfl
  · rfl

theorem settle_interrupted_spec (hu : Updates config c tracee events c')
    {E : String → Context → Prop} :
    Holds (settle_interrupted tracee) c'
      (fun settled c'' => settled = tracee.settled ∧ Updates config c tracee events c'') E := by
  unfold settle_interrupted Tracee.settled
  split
  · split
    · exact ⟨rfl, hu⟩
    · split
      · exact ⟨rfl, hu.release _⟩
      · exact ⟨rfl, hu⟩
  · exact ⟨rfl, hu⟩

/-- The record after `complete_call`. -/
def Tracee.completed (tracee : Tracee) (event : SyscallEvent) : Tracee :=
  { ({ tracee with pending_syscall := event } : Tracee).settled with
    pending_syscall := event.without_texts
    has_pending_syscall := false
    phase := .SG_TRACEE_STOPPED }

@[simp] theorem Tracee.completed_shell (tracee : Tracee) (event : SyscallEvent) :
    (tracee.completed event).shell = tracee.shell :=
  Tracee.settled_shell { tracee with pending_syscall := event }

/-- A call that ends is stamped when it is selected. -/
theorem stamp_exit_spec (event : SyscallEvent) :
    Holds (stamp_exit config env event) c
      (fun stamped c' => (∃ exited_at, stamped = { event with exited_at := exited_at }) ∧
        Writes config c [] c')
      (fun _ c' => Breaks config c [] c') := by
  unfold stamp_exit
  by_cases hsel : selected config event.number = true
  · simp only [hsel, if_true, holds_bind, holds_pure]
    apply (clock_gettime_spec config).mono
    · intro exited_at c' hw
      exact ⟨⟨exited_at, rfl⟩, hw⟩
    · intro _ c' hb
      exact hb
  · simp only [hsel, if_false, Bool.false_eq_true, holds_pure]
    exact ⟨⟨event.exited_at, rfl⟩, .refl c⟩

theorem complete_call_spec (hold : c.tracees.lookup tracee.tid = some tracee) (rval : Int)
    (is_error : Bool) :
    Holds (complete_call config env tracee rval is_error) c
      (fun _ c' => ∃ exited_at events,
        CallEvents config c.tracees tracee
          (tracee.pending_syscall.finished rval is_error exited_at) events ∧
        Updates config c
          (tracee.completed (tracee.pending_syscall.finished rval is_error exited_at)) events c')
      (fun _ c' => ∃ events, (∀ e ∈ events, FlushEvent config c.tracees tracee.tid e) ∧
        Fails config c tracee.tid events c') := by
  unfold complete_call
  have h₁ := (Updates.refl config hold).store (t := { tracee with
    pending_syscall := { tracee.pending_syscall with
      result := rval, error_number := exit_error rval is_error } }) rfl
  simp only [holds_bind, holds_store]
  apply (stamp_exit_spec _).mono
  · intro stamped c₁ hpost
    rcases hpost with ⟨⟨exited_at, hstamped⟩, hw⟩
    have h₃ := (h₁.writes hw).store (t := { tracee with
      pending_syscall := (tracee.pending_syscall.finished rval is_error exited_at) }) rfl
    rw [hstamped]
    apply (write_updated_spec h₃ hold rfl _).mono
    · intro _ c₂ hpost
      rcases hpost with ⟨events, hevents, h₄⟩
      apply (settle_interrupted_spec h₄).mono
      · intro settled c₃ hpost
        rcases hpost with ⟨hsettled, h₅⟩
        rw [hsettled]
        exact ⟨exited_at, events, hevents, (h₅.release _).store
          (congrArg Shell.tid (Tracee.completed_shell tracee _))⟩
      · intro _ _ h
        exact h
    · intro _ c₂ h
      exact h
  · intro _ c₁ hb
    exact ⟨[], by simp, h₁.breaks hold rfl hb⟩

/-! ### When nothing fails -/

theorem Updates.ok (h : Updates config c tracee events c') (hok : c.Ok)
    (hknown : ∀ event ∈ events, (c.tracees.lookup event.tid).isSome) : c'.Ok := by
  obtain ⟨hn, hk⟩ := unfinished_foldl config c.tracees events c.output.log hknown hok.nodup hok.known
  rw [← h.log] at hn hk
  refine ⟨hn, fun tid htid => ?_⟩
  rw [h.lookup]
  split
  · rfl
  · exact hk tid htid

theorem CallEvents.known {event : SyscallEvent}
    (h : CallEvents config c.tracees tracee event events)
    (hself : (c.tracees.lookup tracee.tid).isSome) :
    ∀ e ∈ events, (c.tracees.lookup e.tid).isSome := by
  obtain ⟨flushed, hflushed, rfl⟩ := h
  intro e he
  split at he
  · rw [List.mem_append, List.mem_singleton] at he
    obtain he | rfl := he
    · exact (hflushed e he).known
    · exact hself
  · simp at he

theorem complete_exec_total (hs : env.Succeeds) (hsummary : config.summary = false)
    {I : Context → Prop} (hroom : Roomy config I) (hI : I c) :
    Holds (complete_exec config env tracee) c (fun _ _ => True) (fun _ _ => False) := by
  unfold complete_exec
  simp only [holds_bind, holds_store, holds_release, holds_pure]
  apply ((clock_gettime_spec config).and (clock_gettime_total hs)).mono
  · intro exited_at c₁ hpost
    rcases hpost with ⟨hw, _⟩
    have hI₁ := hroom.write { tracee with
      pending_syscall := (tracee.pending_syscall.exec_done exited_at) }
      (hroom.writes (hroom.write _ hI) hw (by simp))
    exact write_syscall_total hs hsummary hroom hI₁ _ _
  · intro _ _ h
    exact h.2

theorem restart_call_total (hs : env.Succeeds) {I : Context → Prop} (hroom : Roomy config I)
    (hI : I c) :
    Holds (restart_call config env tracee) c (fun _ _ => True) (fun _ _ => False) := by
  unfold restart_call
  simp only [holds_bind, holds_store]
  exact flush_unfinished_syscalls_total hs hroom hI _

/-- The totals take the interrupted call, if it is reported. -/
def Tracee.TotalsTakeInterrupted (config : Config) (env : Env) (c : Context) (tracee : Tracee) : Prop :=
  (tracee.has_interrupted_syscall && tracee.interrupted_restart_ready) = true →
    ∀ exited_at, env.clock c.asked = some exited_at →
      TotalsTake config c.stats (tracee.interrupted_syscall.not_restarted exited_at)

/-- Reporting the interrupted call fails only if the totals do not take it. -/
theorem report_interrupted_takes (hs : env.Succeeds) {I : Context → Prop} (hroom : Roomy config I)
    (hI : I c) :
    Holds (report_interrupted config env tracee) c
      (fun _ _ => tracee.TotalsTakeInterrupted config env c)
      (fun _ _ => ¬tracee.TotalsTakeInterrupted config env c) := by
  unfold report_interrupted
  by_cases hready : (tracee.has_interrupted_syscall && tracee.interrupted_restart_ready) = true
  · simp only [hready, if_true, holds_bind, holds_store, holds_release, holds_pure]
    apply (clock_gettime_reads config hs).mono
    · intro exited_at c₁ hpost
      rcases hpost with ⟨hclock, hstats, hw⟩
      have hI₁ := hroom.write { tracee with
        interrupted_syscall := (tracee.interrupted_syscall.not_restarted exited_at) }
        (hroom.writes (hroom.write _ hI) hw (by simp))
      apply (write_syscall_takes hs hroom hI₁ _ _).mono
      · intro _ _ htakes _ other hother
        rw [Option.some.inj (hclock.symm.trans hother)] at htakes
        exact hstats ▸ htakes
      · intro _ _ hrefused htakes
        have htaken := htakes hready exited_at hclock
        exact hrefused (hstats.symm ▸ htaken)
    · exact fun _ _ h => h.elim
  · simp only [hready, Bool.false_eq_true, if_false, holds_pure]
    exact fun h => absurd h hready

theorem Tracee.TotalsTakeInterrupted.of_summary (hsummary : config.summary = false) :
    tracee.TotalsTakeInterrupted config env c :=
  fun _ _ _ h => absurd (hsummary.symm.trans h) (by decide)

theorem report_interrupted_total (hs : env.Succeeds) (hsummary : config.summary = false)
    {I : Context → Prop} (hroom : Roomy config I) (hI : I c) :
    Holds (report_interrupted config env tracee) c (fun _ _ => True) (fun _ _ => False) := by
  apply (report_interrupted_takes hs hroom hI).mono
  · exact fun _ _ _ => trivial
  · exact fun _ _ hrefused => hrefused (.of_summary hsummary)

theorem make_call_total (hs : env.Succeeds) (number : UInt64) (arguments : Vector UInt64 6) :
    Holds (make_call config env tracee number arguments) c (fun _ _ => True)
      (fun _ _ => False) := by
  unfold make_call
  by_cases hsel : selected config (SyscallEvent.entered number arguments).number = true
  · simp only [hsel, if_true, holds_bind]
    apply (clock_gettime_total hs).mono
    · intro entered_at c₁ _
      split
      · trivial
      · unfold sg_decoder_capture_entry
        simp only [holds_bind, holds_context_ask]
        obtain ⟨captured, hcaptured⟩ := Option.isSome_iff_exists.mp (hs.capture c₁.asked tracee.tid
          { SyscallEvent.entered number arguments with entered_at := entered_at })
        rw [hcaptured]
        trivial
    · intro _ _ h
      exact h
  · simp [hsel]

theorem enter_call_total (hs : env.Succeeds) {I : Context → Prop} (hroom : Roomy config I)
    (hI : I c) (number : UInt64) (arguments : Vector UInt64 6) :
    Holds (enter_call config env tracee number arguments) c (fun _ _ => True)
      (fun _ _ => False) := by
  unfold enter_call
  simp only [holds_bind]
  apply ((make_call_spec number arguments).and (make_call_total hs number arguments)).mono
  · intro event c₁ hpost
    rcases hpost with ⟨⟨hw, _⟩, _⟩
    have hI₁ := hroom.writes hI hw (by simp)
    split
    · simp only [holds_bind, holds_onError, holds_store]
      exact flush_unfinished_syscalls_total hs hroom hI₁ _
    · simp
  · intro _ _ h
    exact h.2

/-- The totals take the pending call, when it completes with this result. -/
def Tracee.TotalsTakePending (config : Config) (env : Env) (c : Context) (tracee : Tracee) (rval : Int)
    (is_error : Bool) : Prop :=
  ∀ exited_at, env.clock c.asked = some exited_at →
    TotalsTake config c.stats (tracee.pending_syscall.finished rval is_error exited_at)

/-- Completing a call fails only if the totals do not take it. -/
theorem complete_call_takes (hs : env.Succeeds) {I : Context → Prop} (hroom : Roomy config I)
    (hI : I c) (rval : Int) (is_error : Bool) :
    Holds (complete_call config env tracee rval is_error) c
      (fun _ _ => tracee.TotalsTakePending config env c rval is_error)
      (fun _ _ => ¬tracee.TotalsTakePending config env c rval is_error) := by
  have hsettle : ∀ (t : Tracee) (c₁ : Context) (Q : Tracee → Context → Prop)
      (E : String → Context → Prop), (∀ t' c₂, Q t' c₂) → Holds (settle_interrupted t) c₁ Q E := by
    intro t c₁ Q E hQ
    unfold settle_interrupted
    split
    · split
      · exact hQ _ _
      · split
        · exact hQ _ _
        · exact hQ _ _
    · exact hQ _ _
  let done : SyscallEvent :=
    { tracee.pending_syscall with result := rval, error_number := exit_error rval is_error }
  let stored : Context := { c with tracees := c.tracees.write { tracee with pending_syscall := done } }
  have hI₀ : I stored := hroom.write _ hI
  -- The call that is written: only a selected one has been stamped, and counts.
  have hwrite : ∀ (event : SyscallEvent) (c₁ : Context), I c₁ → c₁.stats = c.stats →
      (TotalsTake config c.stats event ↔ tracee.TotalsTakePending config env c rval is_error) →
      Holds (do
        store { tracee with pending_syscall := event }
        write_syscall config env { tracee with pending_syscall := event } event
        let tracee ← settle_interrupted { tracee with pending_syscall := event }
        let event ← sg_decoder_release_event event
        store { tracee with
          pending_syscall := event, has_pending_syscall := false, phase := .SG_TRACEE_STOPPED }) c₁
        (fun _ _ => tracee.TotalsTakePending config env c rval is_error)
        (fun _ _ => ¬tracee.TotalsTakePending config env c rval is_error) := by
    intro event c₁ hI₁ hstats hsame
    simp only [holds_bind, holds_store, holds_release]
    apply (write_syscall_takes hs hroom (hroom.write { tracee with pending_syscall := event } hI₁)
      _ _).mono
    · intro _ c₂ htakes
      exact hsettle _ _ _ _ fun _ _ => hsame.mp (hstats ▸ htakes)
    · intro _ _ hrefused htakes
      exact hrefused (hstats.symm ▸ hsame.mpr htakes)
  unfold complete_call
  simp only [holds_bind, holds_store]
  unfold stamp_exit
  by_cases hsel : selected config tracee.pending_syscall.number = true
  · simp only [hsel, if_true, holds_bind, holds_pure]
    apply (clock_gettime_reads config hs).mono
    · intro exited_at c₁ hpost
      rcases hpost with ⟨hclock, hstats, hw⟩
      have hsame : TotalsTake config c.stats (tracee.pending_syscall.finished rval is_error exited_at) ↔
          tracee.TotalsTakePending config env c rval is_error := by
        constructor
        · intro htakes other hother
          rw [← Option.some.inj (hclock.symm.trans hother)]
          exact htakes
        · exact fun htakes => htakes exited_at hclock
      have hwritten := hwrite (tracee.pending_syscall.finished rval is_error exited_at) c₁
        (hroom.writes hI₀ hw (by simp)) hstats hsame
      simp only [holds_bind, holds_store, holds_release] at hwritten
      exact hwritten
    · exact fun _ _ h => h.elim
  · have hnone : ∀ event : SyscallEvent, event.number = tracee.pending_syscall.number →
        TotalsTake config c.stats event := by
      intro event hnumber _ hselected
      rw [hnumber] at hselected
      exact absurd hselected hsel
    have hwritten := hwrite { done with completed := true } stored hI₀ rfl
      ⟨fun _ _ _ => hnone _ rfl, fun _ => hnone _ rfl⟩
    simp only [hsel, Bool.false_eq_true, if_false, holds_pure]
    simp only [holds_bind, holds_store, holds_release] at hwritten
    exact hwritten

theorem Tracee.TotalsTakePending.of_summary (hsummary : config.summary = false) (rval : Int) (is_error : Bool) :
    tracee.TotalsTakePending config env c rval is_error :=
  fun _ _ h => absurd (hsummary.symm.trans h) (by decide)

theorem complete_call_total (hs : env.Succeeds) (hsummary : config.summary = false)
    {I : Context → Prop} (hroom : Roomy config I) (hI : I c) (rval : Int) (is_error : Bool) :
    Holds (complete_call config env tracee rval is_error) c (fun _ _ => True)
      (fun _ _ => False) := by
  apply (complete_call_takes hs hroom hI rval is_error).mono
  · exact fun _ _ _ => trivial
  · exact fun _ _ hrefused => hrefused (.of_summary hsummary rval is_error)

end spec

end Sysgaze
