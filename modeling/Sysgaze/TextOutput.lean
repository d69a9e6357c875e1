import Sysgaze.CommandLine
import Sysgaze.StructuredLines

/-! # The bytes of a line (`output.c`)

    Every line of the trace is put together in a buffer before it is written.
    `Line.render` is what fills the buffer.  Nothing that a tracee chooses makes
    it fail: neither the numbers of a call, nor the contents of the memory
    that is read for its text (`renders_line`).
-/

open Fallible Numerals Json

namespace Sysgaze

section model
variable (heap : Heap) (libc : Libc) (decoder : Decoder) (show_tids : Bool)

/-- `append_tid_prefix`. -/
def append_tid_prefix (tid : Pid) : RenderM Unit :=
  if show_tids then sg_buffer_append_format heap (cstr "[pid " ++ signed tid ++ cstr "] ")
  else pure ()

/-- `append_signal_name`. -/
def append_signal_name (signal_number : Int) : RenderM Unit :=
  match libc.sigabbrev_np signal_number with
  | none => sg_buffer_append_format heap (cstr "signal " ++ signed signal_number)
  | some abbreviation => sg_buffer_append_format heap (cstr "SIG" ++ abbreviation)

/-- The address of a signal, in `write_text_event`. -/
def append_si_addr (fault_address : UInt64) : RenderM Unit :=
  if fault_address = 0 then pure ()
  else
    sg_buffer_append_format heap
      (cstr " \x7bsi_addr=0x" ++ numeral 16 fault_address.toNat ++ cstr "\x7d")

/-- What `write_text_event` appends for an event that is no call. -/
def append_text_event (event : Event) : RenderM Unit :=
  match event.data with
  | .signal signal => do
    sg_buffer_append_cstr heap (cstr "--- ")
    append_signal_name heap libc signal.signal_number
    sg_buffer_append_format heap (cstr " \x7bsi_code=" ++ signed signal.signal_code ++ cstr "\x7d")
    append_si_addr heap signal.fault_address
    sg_buffer_append_cstr heap (cstr " ---")
  | .process_start start =>
    sg_buffer_append_format heap (cstr "+++ spawned " ++ signed start.related_tid ++ cstr " +++")
  | .process_exit exit =>
    if exit.signaled then do
      sg_buffer_append_cstr heap (cstr "+++ killed by ")
      append_signal_name heap libc exit.status
      sg_buffer_append_cstr heap (cstr " +++")
    else sg_buffer_append_format heap (cstr "+++ exited with " ++ signed exit.status ++ cstr " +++")
  | .syscall _ => pure ()

/-- What is put into the buffer for a line: by `write_text_syscall`, `write_text_event` and
    `append_json_event`. -/
def Line.render : Line → RenderM Unit
  | .unfinished tid call => do
    append_tid_prefix heap show_tids tid
    sg_decode_syscall_entry heap libc decoder tid call
    sg_buffer_append_cstr heap (cstr " <unfinished ...>")
  | .resumed tid call => do
    append_tid_prefix heap show_tids tid
    sg_buffer_append_format heap (cstr "<... " ++ syscall_name call.number ++ cstr " resumed>)")
    sg_decode_syscall_result heap libc call
  | .syscall tid call => do
    append_tid_prefix heap show_tids tid
    sg_decode_syscall heap libc decoder tid call
  | .text event => do
    append_tid_prefix heap show_tids event.tid
    append_text_event heap libc event
  | .json event => append_json_event heap libc decoder event
  | .renamed _ _ => pure ()

end model

/-! ### Room -/

/-- The program adds at most `n` bytes, and fails only without memory. -/
def Room {α : Type} (heap : Heap) (m : RenderM α) (n : Nat) : Prop :=
  Renders heap m n fun _ _ => True

section room
variable {heap : Heap} {libc : Libc} {decoder : Decoder} {show_tids : Bool} {α β : Type}
  {m : RenderM α} {f : α → RenderM β} {n n' : Nat}

theorem Renders.room {T : α → Text → Prop} (h : Renders heap m n T) (hn : n ≤ n') :
    Room heap m n' := Renders.mono h hn fun _ _ _ => trivial

theorem Room.mono (h : Room heap m n) (hn : n ≤ n') : Room heap m n' := Renders.room h hn

theorem room_pure (a : α) : Room heap (pure a) n := renders_pure trivial

theorem room_bind (hm : Room heap m n) (hf : ∀ a, Room heap (f a) n') :
    Room heap (m >>= f) (n + n') :=
  renders_bind hm fun a _ _ => Renders.mono (hf a) (le_refl _) fun _ _ _ => trivial

theorem room_append {text : Text} (hn : text.length ≤ n) :
    Room heap (sg_buffer_append_cstr heap text) n := Renders.room (renders_append text) hn

theorem room_format {text : Text} (hn : text.length ≤ 1000) :
    Room heap (sg_buffer_append_format heap text) 1000 :=
  Renders.room (renders_format (hn.trans (by decide))) hn

/-! ### Text lines -/

theorem append_tid_prefix_room {tid : Pid} (h : IsInt tid) :
    Room heap ( append_tid_prefix heap show_tids tid) 1000 := by
  have hlengths : (cstr "[pid ").length = 5 ∧ (cstr "] ").length = 2 := by decide
  have htid := signed_int_length h
  unfold append_tid_prefix
  split
  · apply room_format
    simp only [List.length_append, hlengths]
    omega
  · exact room_pure _

theorem append_signal_name_room (hlibc : libc.Plain) {signal_number : Int} (h : IsInt signal_number) :
    Room heap (append_signal_name heap libc signal_number) 1000 := by
  have hlengths : (cstr "signal ").length = 7 ∧ (cstr "SIG").length = 3 := by decide
  have hnumber := signed_int_length h
  unfold append_signal_name
  rcases hname : libc.sigabbrev_np signal_number with _ | abbreviation
  · apply room_format
    simp only [List.length_append, hlengths]
    omega
  · have hlength := (hlibc.sigabbrev_np _ _ hname).2
    apply room_format
    simp only [List.length_append, hlengths]
    omega

theorem append_text_event_room (hlibc : libc.Plain) {event : Event} (h : event.Typed) :
    Room heap (append_text_event heap libc event) 5000 := by
  have hlengths : (cstr "--- ").length = 4 ∧ (cstr " ---").length = 4 ∧
      (cstr " \x7bsi_code=").length = 10 ∧ (cstr "\x7d").length = 1 ∧
      (cstr " \x7bsi_addr=0x").length = 12 ∧ (cstr "+++ spawned ").length = 12 ∧
      (cstr " +++").length = 4 ∧ (cstr "+++ killed by ").length = 14 ∧
      (cstr "+++ exited with ").length = 16 := by decide
  unfold append_text_event
  rcases hdata : event.data with call | signal | start | exit
  · exact room_pure _
  · obtain ⟨hnumber, hcode⟩ := h.signal signal hdata
    have hcode_length := signed_int_length hcode
    have haddress : Room heap (append_si_addr heap signal.fault_address) 1000 := by
      have haddress_length := numeral_length_hexadecimal signal.fault_address
      unfold append_si_addr
      split
      · exact room_pure _
      · apply room_format
        simp only [List.length_append, hlengths]
        omega
    have hcode_room : Room heap (sg_buffer_append_format heap
        (cstr " \x7bsi_code=" ++ signed signal.signal_code ++ cstr "\x7d")) 1000 := by
      apply room_format
      simp only [List.length_append, hlengths]
      omega
    dsimp only
    exact (room_bind (room_append (le_refl _)) fun _ =>
      room_bind (append_signal_name_room hlibc hnumber) fun _ => room_bind hcode_room fun _ =>
      room_bind haddress fun _ => room_append (le_refl _)).mono (by simp only [hlengths]; omega)
  · have hlength := signed_int_length (h.process_start start hdata).1
    apply (room_format _).mono (by omega)
    simp only [List.length_append, hlengths]
    omega
  · have hstatus := h.process_exit exit hdata
    have hlength := signed_int_length hstatus
    dsimp only
    split
    · exact (room_bind (room_append (le_refl _)) fun _ =>
        room_bind (append_signal_name_room hlibc hstatus) fun _ => room_append (le_refl _)).mono
        (by simp only [hlengths]; omega)
    · apply (room_format _).mono (by omega)
      simp only [List.length_append, hlengths]
      omega

/-! ### The text of a call -/

/-- A call whose numbers are those of its C types and whose texts have been captured by
    the decoder. -/
structure SyscallEvent.Fit (string_limit : Nat) (call : SyscallEvent) : Prop where
  typed : call.Typed
  decoded : call.Decoded string_limit

theorem name_length : ∀ descriptor ∈ syscalls, descriptor.name.length ≤ 40 := by decide +kernel

theorem syscall_name_length (number : Int) : (syscall_name number).length ≤ 63 := by
  unfold syscall_name
  rcases hdescriptor : sg_syscall_by_number number with _ | descriptor
  · exact List.length_take_le _ _
  · exact (name_length descriptor (by_number_eq_some hdescriptor).1).trans (by omega)

theorem head_room {call : SyscallEvent} (h : call.Typed) : format_room (head_text call) ≤ 100 := by
  have hlengths : (cstr "syscall_").length = 8 ∧ (cstr "(").length = 1 := by decide
  have hnumber := signed_long_length h.number
  have hshort : (head_text call).length ≤ 100 := by
    unfold head_text
    rcases hdescriptor : sg_syscall_by_number call.number with _ | descriptor
    · simp only [List.length_append, hlengths]
      omega
    · have hname := name_length descriptor (by_number_eq_some hdescriptor).1
      simp only [List.length_append, hlengths]
      omega
  unfold format_room
  rw [if_pos (hshort.trans (by decide))]
  exact hshort

theorem result_room (hlibc : libc.Plain) {call : SyscallEvent} (h : call.Typed) :
    format_room (result_text libc call) ≤ 1100 := by
  have hlengths : (cstr " = -1 errno(").length = 12 ∧ (cstr ")").length = 1 ∧
      (cstr " = -1 ").length = 6 ∧ (cstr " (").length = 2 ∧ (cstr " = ").length = 3 := by decide
  have hresult := signed_long_length h.result
  have herror := signed_int_length h.error_number
  have hpointer := hexadecimal_length (BitVec.ofInt 64 call.result).isLt
  have hshort : (result_text libc call).length ≤ 1100 := by
    unfold result_text
    split
    · rcases hname : libc.strerrorname_np call.error_number with _ | name
      · simp only [List.length_append, hlengths]
        omega
      · have hname_length := (hlibc.strerrorname_np _ _ hname).2
        have htext_length := (hlibc.strerror call.error_number).2
        simp only [List.length_append, hlengths]
        omega
    · split
      · simp only [List.length_append, hlengths]
        omega
      · simp only [List.length_append, hlengths]
        omega
  unfold format_room
  rw [if_pos (hshort.trans (by decide))]
  exact hshort

theorem entry_room (hlibc : libc.Plain) (hlimit : decoder.string_limit ≤ SG_MAX_STRING_LIMIT)
    (tid : Pid) {call : SyscallEvent} (h : call.Fit decoder.string_limit) :
    Room heap (sg_decode_syscall_entry heap libc decoder tid call) (2 ^ 30) := by
  have hsmall : decoder.string_limit ≤ 1024 * 1024 := hlimit
  have hhead := head_room h.typed
  have hshown := shown_arguments_le h.typed.argument_count
  have hmost : shown_arguments call * (128 * decoder.string_limit + 1026) ≤
      6 * (128 * (1024 * 1024) + 1026) :=
    Nat.mul_le_mul hshown (by omega)
  exact Renders.room (sg_decode_syscall_entry_shows hlibc tid h.decoded) (by omega)

/-- **The text of a call** has room, whatever the memory of the tracee holds. -/
theorem decode_room (hlibc : libc.Plain) (hlimit : decoder.string_limit ≤ SG_MAX_STRING_LIMIT)
    (tid : Pid) {call : SyscallEvent} (h : call.Fit decoder.string_limit) :
    Room heap (sg_decode_syscall heap libc decoder tid call) (2 ^ 30) := by
  have hsmall : decoder.string_limit ≤ 1024 * 1024 := hlimit
  have hhead := head_room h.typed
  have hresult := result_room hlibc h.typed
  have hshown := shown_arguments_le h.typed.argument_count
  have hmost : shown_arguments call * (128 * decoder.string_limit + 1026) ≤
      6 * (128 * (1024 * 1024) + 1026) :=
    Nat.mul_le_mul hshown (by omega)
  exact Renders.room (sg_decode_syscall_shows hlibc tid h.decoded) (by omega)

/-! ### NDJSON lines -/

theorem header_length (type : Text) {event : Event} (h : event.Typed) :
    (compact_members (header_members type (some event))).length ≤ 6 * type.length + 300 := by
  have hkeys : (compact_string (cstr "schema")).length = 8 ∧ (compact_string (cstr "type")).length = 6 ∧
      (compact_string (cstr "tid")).length = 5 ∧ (compact_string (cstr "tgid")).length = 6 ∧
      (compact_string (cstr "timestamp_ns")).length = 14 ∧
      (compact_string (cstr SG_SCHEMA)).length = 18 := by decide
  have htype := length_compact_string type
  have htid := signed_int_length h.tid
  have htgid := signed_int_length h.tgid
  have htime := numeral_length (timestamp_lt event.observed_at)
  simp only [header_members, event_header, compact_members, Value.compact, compact_numeral,
    List.length_append, List.length_cons, List.length_nil, hkeys]
  omega

theorem name_value_length {name : Option Text} {n : Nat} (h : ∀ text, name = some text → text.length ≤ n) :
    (name_value name).compact.length ≤ 6 * n + 4 := by
  rcases name with _ | name
  · show 4 ≤ _
    omega
  · have hlength := length_compact_string name
    have hname := h name rfl
    show (compact_string name).length ≤ _
    omega

theorem call_members_length (hlibc : libc.Plain) {call : SyscallEvent} (h : call.Typed) (text : Text) :
    (compact_members (call_members libc call text)).length ≤ 6 * text.length + 2000 := by
  have hkeys : (compact_string (cstr "number")).length = 8 ∧ (compact_string (cstr "name")).length = 6 ∧
      (compact_string (cstr "arguments")).length = 11 ∧ (compact_string (cstr "result")).length = 8 ∧
      (compact_string (cstr "error")).length = 7 ∧ (compact_string (cstr "duration_ns")).length = 13 ∧
      (compact_string (cstr "text")).length = 6 := by decide
  have hnumber := signed_long_length h.number
  have hname := length_compact_string (syscall_name call.number)
  have hname_length := syscall_name_length call.number
  have hresult := signed_long_length h.result
  have hduration := numeral_length (elapsed_lt call)
  have htext := length_compact_string (c_string text)
  have htext_length : (c_string text).length ≤ text.length := (List.takeWhile_sublist _).length_le
  have harguments : (compact_items ((List.range call.argument_count).map (argument_value call))).length ≤
      6 * (20 + 1) := by
    have hitems : ∀ v ∈ (List.range call.argument_count).map (argument_value call),
        v.compact.length ≤ 20 := by
      intro v hv
      obtain ⟨index, _, rfl⟩ := List.mem_map.mp hv
      have hprefix : (cstr "0x").length = 2 := by decide
      have hlength := numeral_length_hexadecimal (call.argument index)
      simp only [argument_value, Value.compact, compact_hexadecimal, List.length_cons,
        List.length_append, List.length_nil, hprefix]
      omega
    have hcount := h.argument_count
    have hlength := length_compact_items hitems
    rw [List.length_map, List.length_range] at hlength
    exact hlength.trans (Nat.mul_le_mul_right _ hcount)
  have herror : (error_value libc call.error_number).compact.length ≤ 400 := by
    have hlength := signed_int_length h.error_number
    have herror_name : (name_value (libc.strerrorname_np call.error_number)).compact.length ≤
        6 * 32 + 4 := name_value_length fun _ hname => (hlibc.strerrorname_np _ _ hname).2
    unfold error_value
    split
    · decide
    · simp only [Value.compact, compact_members, List.length_cons, List.length_append,
        List.length_nil, hkeys]
      omega
  simp only [call_members, compact_members, Value.compact, compact_numeral, compact_signed,
    List.length_append, List.length_cons, List.length_nil, hkeys]
  omega

/-- The line of an event is hardly longer than the text of its call. -/
theorem event_value_length (hlibc : libc.Plain) {event : Event} (h : event.Typed) (text : Text) :
    (event_value libc event text).compact.length ≤ 6 * text.length + 5000 := by
  have htypes : (cstr "syscall").length = 7 ∧ (cstr "signal").length = 6 ∧
      (cstr "process-start").length = 13 ∧ (cstr "process-exit").length = 12 := by decide
  have hkeys : (compact_string (cstr "number")).length = 8 ∧ (compact_string (cstr "name")).length = 6 ∧
      (compact_string (cstr "code")).length = 6 ∧ (compact_string (cstr "fault_address")).length = 15 ∧
      (compact_string (cstr "child_tid")).length = 11 ∧
      (compact_string (cstr "ptrace_event")).length = 14 ∧ (compact_string (cstr "status")).length = 8 ∧
      (compact_string (cstr "signaled")).length = 10 := by decide
  unfold event_value
  rcases hdata : event.data with call | signal | start | exit
  · have hheader := header_length (cstr "syscall") h
    have hcall := call_members_length hlibc (h.syscall call hdata) text
    unfold call_members at hcall
    simp only [call_members, compact_line, List.length_append, List.length_cons, List.length_nil,
      htypes] at hcall hheader ⊢
    omega
  · have hheader := header_length (cstr "signal") h
    obtain ⟨hnumber, hcode⟩ := h.signal signal hdata
    have hnumber_length := signed_int_length hnumber
    have hcode_length := signed_int_length hcode
    have hname : (name_value ((libc.sigabbrev_np signal.signal_number).map (cstr "SIG" ++ ·))).compact.length ≤
        6 * 40 + 4 := by
      apply name_value_length
      intro name hname
      obtain ⟨abbreviation, habbreviation, rfl⟩ := Option.map_eq_some_iff.mp hname
      have hprefix : (cstr "SIG").length = 3 := by decide
      have hlength := (hlibc.sigabbrev_np _ _ habbreviation).2
      simp only [List.length_append, hprefix]
      omega
    have haddress : (if signal.fault_address = 0 then Value.null
        else .string (cstr "0x" ++ numeral 16 signal.fault_address.toNat)).compact.length ≤ 20 := by
      have hprefix : (cstr "0x").length = 2 := by decide
      have hlength := numeral_length_hexadecimal signal.fault_address
      split
      · decide
      · simp only [Value.compact, compact_hexadecimal, List.length_cons, List.length_append,
          List.length_nil, hprefix]
        omega
    simp only [signal_members, compact_line, compact_members, compact_number, List.length_append,
      List.length_cons, List.length_nil, hkeys, htypes] at hheader ⊢
    omega
  · have hheader := header_length (cstr "process-start") h
    obtain ⟨hrelated, hstart⟩ := h.process_start start hdata
    have hrelated_length := signed_int_length hrelated
    have hstart_length := numeral_length (n := start.ptrace_event) (by omega)
    simp only [start_members, compact_line, compact_members, compact_number, List.length_append,
      List.length_cons, List.length_nil, hkeys, htypes] at hheader ⊢
    omega
  · have hheader := header_length (cstr "process-exit") h
    have hstatus_length := signed_int_length (h.process_exit exit hdata)
    have hflag_length : (Value.bool exit.signaled).compact.length ≤ 5 := by
      cases exit.signaled
      · decide
      · decide
    simp only [exit_members, compact_line, compact_members, compact_number, List.length_append,
      List.length_cons, List.length_nil, hkeys, htypes] at hheader ⊢
    omega

/-! ### All lines -/

/-- A line about values of their C types and calls that the decoder has captured. -/
def Line.Fit (string_limit : Nat) : Line → Prop
  | .unfinished tid call => IsInt tid ∧ call.Fit string_limit
  | .resumed tid call => IsInt tid ∧ call.Fit string_limit
  | .syscall tid call => IsInt tid ∧ call.Fit string_limit
  | .text event => event.Typed
  | .json event => event.Typed ∧ ∀ call, event.data = .syscall call → call.Fit string_limit
  | .renamed _ _ => True

/-- A program with room fills an empty buffer. -/
theorem Room.holds (h : Room heap m n) (hn : n < SIZE_MAX) (hheap : heap.Succeeds) :
    Holds m .init (fun _ s => s.output.Ok ∧ s.contents.length ≤ n) (fun _ _ => False) := by
  have hempty : Rendering.init.contents = [] := rfl
  apply (h .init buffer_init_ok).mono
  · intro _ s hpost
    rcases hpost with ⟨hok, text, hcontents, hlength, _⟩
    rw [hempty, List.nil_append] at hcontents
    rw [hcontents]
    exact ⟨hok, hlength⟩
  · intro _ _ hfull
    have hlength := hfull hheap
    rw [hempty, List.length_nil] at hlength
    omega

/-- The text of a call can be made. -/
theorem decoded_text_short (hlibc : libc.Plain) (hlimit : decoder.string_limit ≤ SG_MAX_STRING_LIMIT)
    (hheap : heap.Succeeds) {event : Event}
    (h : ∀ call, event.data = .syscall call → call.Fit decoder.string_limit) :
    ∃ text, decoded_text heap libc decoder event = some text ∧ text.length ≤ 2 ^ 30 := by
  unfold decoded_text
  split
  · rename_i call hdata
    have hdecode : Room heap (sg_decode_syscall heap libc decoder event.tid call) _ :=
      decode_room hlibc hlimit event.tid (h call hdata)
    have hroom := hdecode.holds (by decide) hheap
    unfold Holds at hroom
    rcases hexec : (sg_decode_syscall heap libc decoder event.tid call).exec .init with ⟨_ | _, s⟩
    · rw [hexec] at hroom
      exact hroom.elim
    · rw [hexec] at hroom
      exact ⟨s.contents, rfl, hroom.2⟩
  · exact ⟨[], rfl, Nat.zero_le _⟩

/-- **Every line can be written**, as far as memory goes, whatever the tracee's memory holds. -/
theorem renders_line (hlibc : libc.Plain) (habbreviations : libc.Abbreviations)
    (hlimit : decoder.string_limit ≤ SG_MAX_STRING_LIMIT) (hheap : heap.Succeeds) {line : Line}
    (h : line.Fit decoder.string_limit) :
    Holds (written_line heap (line.render heap libc decoder show_tids)) .init (fun _ _ => True)
      (fun _ _ => False) := by
  have hwritten : ∀ {render : RenderM Unit}, Room heap render (2 ^ 31) →
      Holds (written_line heap render) .init (fun _ _ => True) (fun _ _ => False) := by
    intro render hroom
    have hrendered := hroom.holds (by decide) hheap
    apply (written_line_spec (F := False) (P := fun text => text.length ≤ 2 ^ 31)
      (hrendered.mono (fun _ _ h => h) fun _ _ h _ => h)).mono
    · exact fun _ _ _ => trivial
    · intro _ _ hfull
      have hlarge : 2 ^ 31 + 1 < SIZE_MAX := by decide
      obtain hfalse | ⟨text, hshort, hlong⟩ := hfull hheap
      · exact hfalse
      · omega
  cases line with
  | unfinished tid call =>
    have hclose : (cstr " <unfinished ...>").length ≤ 17 := by decide
    exact hwritten ((room_bind (append_tid_prefix_room h.1) fun _ =>
      room_bind (entry_room hlibc hlimit tid h.2) fun _ => room_append hclose).mono (by omega))
  | resumed tid call =>
    have hlengths : (cstr "<... ").length = 5 ∧ (cstr " resumed>)").length = 10 := by decide
    have hname := syscall_name_length call.number
    have hresumed : Room heap (sg_buffer_append_format heap
        (cstr "<... " ++ syscall_name call.number ++ cstr " resumed>)")) 1000 := by
      apply room_format
      simp only [List.length_append, hlengths]
      omega
    have hresult : Room heap (sg_decode_syscall_result heap libc call) 1100 :=
      Renders.room (sg_decode_syscall_result_plain hlibc call) (result_room hlibc h.2.typed)
    exact hwritten ((room_bind (append_tid_prefix_room h.1) fun _ =>
      room_bind hresumed fun _ => hresult).mono (by omega))
  | syscall tid call =>
    exact hwritten ((room_bind (append_tid_prefix_room h.1) fun _ =>
      decode_room hlibc hlimit tid h.2).mono (by omega))
  | text event =>
    exact hwritten ((room_bind (append_tid_prefix_room h.tid) fun _ =>
      append_text_event_room hlibc h).mono (by omega))
  | json event =>
    obtain ⟨text, htext, hshort⟩ := decoded_text_short hlibc hlimit hheap h.2
    apply (event_line_spec habbreviations h.1).mono
    · exact fun _ _ _ => trivial
    · intro _ _ hfull
      have hlong := hfull hheap text htext
      have hlength := event_value_length hlibc h.1 text
      have hlarge : 6 * 2 ^ 30 + 5001 < SIZE_MAX := by decide
      omega
  | renamed former current => exact hwritten (room_pure ())

end room

end Sysgaze
