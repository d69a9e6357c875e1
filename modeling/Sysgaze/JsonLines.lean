import Sysgaze.JsonOutput
import Sysgaze.Printable

/-! # Every structured line is one JSON value

    What the serializer of `output.c` puts together piece by piece is the
    compact spelling of an object (`append_json_event_adds`,
    `append_json_summary_adds`).  The grammar reads a compact spelling back,
    so a line is one object and a newline (`structured_lines`).
-/

open Fallible Numerals Json

namespace Sysgaze

section pieces
variable {heap : Heap}

theorem adds_ite {α : Type} {m m' : RenderM α} {c : Prop} [Decidable c] {text text' : Text}
    (hm : c → Adds heap m text) (hm' : ¬c → Adds heap m' text') :
    Adds heap (if c then m else m') (if c then text else text') := by
  split
  · rename_i h
    exact hm h
  · rename_i h
    exact hm' h

/-- A loop adds what its rounds add. -/
theorem adds_forM {γ : Type} {f : γ → RenderM PUnit} {text : γ → Text} (xs : List γ)
    (hf : ∀ x ∈ xs, Adds heap (f x) (text x)) : Adds heap (xs.forM f) (xs.flatMap text) := by
  induction xs with
  | nil => exact adds_pure _
  | cons x xs ih =>
    rw [List.flatMap_cons]
    exact adds_bind (hf x List.mem_cons_self) fun _ =>
      ih fun y hy => hf y (List.mem_cons_of_mem _ hy)

/-- A formatted text that is far from too long. -/
theorem adds_short {text : Text} (h : text.length ≤ 1000) :
    Adds heap (sg_buffer_append_format heap text) text :=
  adds_format (h.trans (by decide))

/-! ### Strings -/

theorem append_json_byte_adds (byte : UInt8) :
    Adds heap (append_json_byte heap byte) (compact_byte byte) := by
  have hletter : ∀ {text piece : Text}, text = piece →
      Adds heap (sg_buffer_append_cstr heap text) piece :=
    fun heq => (adds_append _).congr heq
  unfold append_json_byte compact_byte
  apply adds_ite
  · exact fun _ => adds_append _
  intro _
  apply adds_ite
  · exact fun _ => hletter (by decide)
  intro _
  apply adds_ite
  · exact fun _ => hletter (by decide)
  intro _
  apply adds_ite
  · exact fun _ => hletter (by decide)
  intro _
  apply adds_ite
  · exact fun _ => hletter (by decide)
  intro _
  apply adds_ite
  · exact fun _ => hletter (by decide)
  intro _
  apply adds_ite
  · intro _
    have hescape : cstr "\\u00" = [92, 117, 48, 48] := by decide
    rw [hescape]
    exact adds_short (by simp)
  · exact fun _ => adds_append _

/-- **A string** is written with its quotes and escapes. -/
theorem append_json_string_adds (value : Text) :
    Adds heap (append_json_string heap value) (compact_string value) := by
  have hquote : cstr "\"" = [34] := by decide
  unfold append_json_string
  rw [hquote]
  exact adds_bind (adds_append _) fun _ =>
    adds_bind (adds_forM value fun byte _ => append_json_byte_adds byte) fun _ => adds_append _

end pieces

/-! ### What the lines say -/

/-- Is the number one of an `int`? -/
def IsInt (n : Int) : Prop := -2 ^ 31 ≤ n ∧ n < 2 ^ 31

/-- Is the number one of a `long`? -/
def IsLong (n : Int) : Prop := -2 ^ 63 ≤ n ∧ n < 2 ^ 63

instance (n : Int) : Decidable (IsInt n) := inferInstanceAs (Decidable (_ ∧ _))

instance (n : Int) : Decidable (IsLong n) := inferInstanceAs (Decidable (_ ∧ _))

theorem signed_int_length {n : Int} (h : IsInt n) : (signed n).length ≤ 11 := by
  obtain ⟨hlow, hhigh⟩ := h
  exact signed_length (by omega) (show n.natAbs < 10 ^ 10 by omega)

theorem signed_long_length {n : Int} (h : IsLong n) : (signed n).length ≤ 20 := by
  obtain ⟨hlow, hhigh⟩ := h
  exact signed_length (by omega) (show n.natAbs < 10 ^ 19 by omega)

theorem numeral_length {n : Nat} (h : n < 2 ^ 64) : (numeral 10 n).length ≤ 20 :=
  length_numeral_le (by omega) (by omega) (by omega) (show n < 10 ^ 20 by omega)

theorem numeral_length_hexadecimal (n : UInt64) : (numeral 16 n.toNat).length ≤ 16 :=
  length_numeral_le (by omega) (by omega) (by omega) n.toNat_lt

theorem timestamp_lt (time : Timespec) : timestamp_nanoseconds time < 2 ^ 64 := by
  unfold timestamp_nanoseconds
  split
  · omega
  · have hlow := Int.emod_nonneg (time.tv_sec * 1000000000 + time.tv_nsec) (b := 2 ^ 64) (by omega)
    have hhigh := Int.emod_lt_of_pos (time.tv_sec * 1000000000 + time.tv_nsec) (b := 2 ^ 64) (by omega)
    omega

theorem elapsed_lt (event : SyscallEvent) : output_elapsed_nanoseconds event < 2 ^ 64 := by
  have hwrap : ∀ n : Int, (n % 2 ^ 64).toNat < 2 ^ 64 := by
    intro n
    omega
  unfold output_elapsed_nanoseconds
  dsimp only
  split
  · omega
  · exact hwrap _

/-- The members that every event has. -/
def event_header (event : Event) : List (Text × Value) :=
  [(cstr "tid", .number (signed event.tid)), (cstr "tgid", .number (signed event.tgid)),
    (cstr "timestamp_ns", .string (numeral 10 (timestamp_nanoseconds event.observed_at)))]

/-- The members at the beginning of a line. -/
def header_members (type : Text) (event : Option Event) : List (Text × Value) :=
  (cstr "schema", .string (cstr SG_SCHEMA)) :: (cstr "type", .string type) ::
    match event with
    | none => []
    | some event => event_header event

/-- An argument of a call. -/
def argument_value (call : SyscallEvent) (index : Nat) : Value :=
  .string (cstr "0x" ++ numeral 16 (call.argument index).toNat)

/-- A name that may be missing. -/
def name_value : Option Text → Value
  | none => .null
  | some name => .string name

/-- The error of a call. -/
def error_value (libc : Libc) (error_number : Int) : Value :=
  if error_number = 0 then .null
  else .object [(cstr "number", .number (signed error_number)),
    (cstr "name", name_value (libc.strerrorname_np error_number))]

/-- The members of a line about a call. -/
def call_members (libc : Libc) (call : SyscallEvent) (text : Text) : List (Text × Value) :=
  [(cstr "number", .string (signed call.number)),
    (cstr "name", .string (syscall_name call.number)),
    (cstr "arguments", .array ((List.range call.argument_count).map (argument_value call))),
    (cstr "result", .string (signed call.result)),
    (cstr "error", error_value libc call.error_number),
    (cstr "duration_ns", .string (numeral 10 (output_elapsed_nanoseconds call))),
    (cstr "text", .string (c_string text))]

/-- The members of a line about a signal. -/
def signal_members (libc : Libc) (signal : SignalEvent) : List (Text × Value) :=
  [(cstr "number", .number (signed signal.signal_number)),
    (cstr "name", name_value ((libc.sigabbrev_np signal.signal_number).map (cstr "SIG" ++ ·))),
    (cstr "code", .number (signed signal.signal_code)),
    (cstr "fault_address", if signal.fault_address = 0 then .null
      else .string (cstr "0x" ++ numeral 16 signal.fault_address.toNat))]

/-- The members of a line about a new process. -/
def start_members (start : ProcessStart) : List (Text × Value) :=
  [(cstr "child_tid", .number (signed start.related_tid)),
    (cstr "ptrace_event", .number (numeral 10 start.ptrace_event))]

/-- The members of a line about the end of a process. -/
def exit_members (exit : ProcessExit) : List (Text × Value) :=
  [(cstr "status", .number (signed exit.status)), (cstr "signaled", .bool exit.signaled)]

/-- What a line says about an event; `text` is the decoded text of a call. -/
def event_value (libc : Libc) (event : Event) (text : Text) : Value :=
  match event.data with
  | .syscall call =>
    .object (header_members (cstr "syscall") (some event) ++ call_members libc call text)
  | .signal signal =>
    .object (header_members (cstr "signal") (some event) ++ signal_members libc signal)
  | .process_start start =>
    .object (header_members (cstr "process-start") (some event) ++ start_members start)
  | .process_exit exit =>
    .object (header_members (cstr "process-exit") (some event) ++ exit_members exit)

/-- What the first line says. -/
def metadata_value : Value :=
  .object (header_members (cstr "metadata") none ++
    [(cstr "architecture", .string (cstr "x86_64")), (cstr "format", .string (cstr "ndjson"))])

/-- A row of a summary. -/
def row_value (percent : SyscallStat → Text) (row : SyscallStat) : Value :=
  .object [(cstr "number", .string (signed row.number)),
    (cstr "name", .string (syscall_name row.number)),
    (cstr "calls", .string (numeral 10 row.calls)),
    (cstr "errors", .string (numeral 10 row.errors)),
    (cstr "nanoseconds", .string (numeral 10 row.nanoseconds)),
    (cstr "average_nanoseconds",
      .string (numeral 10 (if row.calls = 0 then 0 else row.nanoseconds / row.calls))),
    (cstr "percent", .string (percent row))]

/-- What a summary says. -/
def summary_value (percent : SyscallStat → Text) (stats : Stats) (rows : List SyscallStat) :
    Value :=
  .object [(cstr "schema", .string (cstr "sysgaze.summary/v1")),
    (cstr "type", .string (cstr "summary")),
    (cstr "total_calls", .string (numeral 10 stats.total_calls)),
    (cstr "total_errors", .string (numeral 10 stats.total_errors)),
    (cstr "total_nanoseconds", .string (numeral 10 stats.total_nanoseconds)),
    (cstr "syscalls", .array (rows.map (row_value percent)))]

/-! ### What the pieces add up to -/

section adds
variable {heap : Heap} {libc : Libc}

theorem schema_text : compact_string (cstr SG_SCHEMA) = 34 :: (cstr SG_SCHEMA ++ [34]) := by
  decide

theorem append_json_header_adds (type : Text) {event : Option Event}
    (h : ∀ e, event = some e → IsInt e.tid ∧ IsInt e.tgid) :
    Adds heap (append_json_header heap type event)
      (123 :: compact_members (header_members type event)) := by
  have hschema : cstr "\x7b\"schema\":\"" = 123 :: (compact_string (cstr "schema") ++ [58, 34]) := by
    decide
  have htype : cstr "\",\"type\":" = 34 :: 44 :: (compact_string (cstr "type") ++ [58]) := by decide
  have htid : cstr ",\"tid\":" = 44 :: (compact_string (cstr "tid") ++ [58]) := by decide
  have htgid : cstr ",\"tgid\":" = 44 :: (compact_string (cstr "tgid") ++ [58]) := by decide
  have htime : cstr ",\"timestamp_ns\":\"" =
      44 :: (compact_string (cstr "timestamp_ns") ++ [58, 34]) := by decide
  have hquote : cstr "\"" = [34] := by decide
  unfold append_json_header
  rcases event with _ | event
  · apply (adds_bind (adds_append _) fun _ => adds_bind (adds_append _) fun _ =>
      adds_bind (adds_append _) fun _ => adds_bind (append_json_string_adds type) fun _ =>
      adds_pure _).congr
    simp only [hschema, htype, header_members, compact_members, Value.compact, schema_text,
      List.append_assoc, List.cons_append, List.nil_append, List.append_nil]
  · obtain ⟨htid', htgid'⟩ := h event rfl
    have hlengths : (cstr ",\"tid\":").length = 7 ∧ (cstr ",\"tgid\":").length = 8 ∧
        (cstr ",\"timestamp_ns\":\"").length = 17 ∧ (cstr "\"").length = 1 := by decide
    have hshort : (cstr ",\"tid\":" ++ signed event.tid ++ cstr ",\"tgid\":" ++ signed event.tgid ++
        cstr ",\"timestamp_ns\":\"" ++ numeral 10 (timestamp_nanoseconds event.observed_at) ++
        cstr "\"").length ≤ 1000 := by
      have htid_length := signed_int_length htid'
      have htgid_length := signed_int_length htgid'
      have htime_length := numeral_length (timestamp_lt event.observed_at)
      simp only [List.length_append, hlengths]
      omega
    apply (adds_bind (adds_append _) fun _ => adds_bind (adds_append _) fun _ =>
      adds_bind (adds_append _) fun _ => adds_bind (append_json_string_adds type) fun _ =>
      adds_short hshort).congr
    simp only [hschema, htype, htid, htgid, htime, hquote, header_members, event_header,
      compact_members, Value.compact, schema_text, compact_numeral, List.append_assoc,
      List.cons_append, List.nil_append]

/-- An address needs no escapes. -/
theorem compact_hexadecimal (n : UInt64) : compact_string (cstr "0x" ++ numeral 16 n.toNat) =
    34 :: (cstr "0x" ++ numeral 16 n.toNat ++ [34]) := by
  apply compact_string_plain
  intro byte hbyte
  obtain hmem | hmem := List.mem_append.mp hbyte
  · have hprefix : ∀ byte ∈ cstr "0x", 32 ≤ byte ∧ byte ≠ 34 ∧ byte ≠ 92 := by decide +kernel
    exact hprefix byte hmem
  · exact plain_numeral (by omega) (by omega) _ byte hmem

theorem append_json_comma_adds (index : Nat) :
    Adds heap (append_json_comma heap index) (if index = 0 then [] else [44]) :=
  adds_ite (fun _ => adds_pure _) fun _ => (adds_append _).congr (by decide)

theorem append_json_argument_adds (call : SyscallEvent) (index : Nat) :
    Adds heap (append_json_argument heap call index)
      ((if index = 0 then [] else [44]) ++ (argument_value call index).compact) := by
  have hopen : cstr "\"0x" = 34 :: cstr "0x" := by decide
  have hclose : cstr "\"" = [34] := by decide
  have hlengths : (cstr "\"0x").length = 3 ∧ (cstr "\"").length = 1 := by decide
  have hshort : (cstr "\"0x" ++ numeral 16 (call.argument index).toNat ++ cstr "\"").length ≤ 1000 := by
    have hlength := numeral_length_hexadecimal (call.argument index)
    simp only [List.length_append, hlengths]
    omega
  unfold append_json_argument
  apply (adds_bind (append_json_comma_adds index) fun _ => adds_short hshort).congr
  simp only [argument_value, Value.compact, compact_hexadecimal, hopen, hclose, List.append_assoc,
    List.cons_append]

/-- **The arguments**: those that the call has, with commas between them. -/
theorem append_json_arguments_adds (call : SyscallEvent) (count : Nat) :
    Adds heap ((List.range count).forM (append_json_argument heap call))
      (compact_items ((List.range count).map (argument_value call))) := by
  apply (adds_forM (List.range count) fun index _ => append_json_argument_adds call index).congr
  rcases count with _ | count
  · rfl
  · rw [List.range_succ_eq_map, List.map_cons, compact_items_cons, List.flatMap_cons,
      List.flatMap_map, List.map_map, List.flatMap_map]
    rfl

theorem append_json_error_name_adds (error_number : Int) :
    Adds heap (append_json_error_name heap libc error_number)
      (name_value (libc.strerrorname_np error_number)).compact := by
  unfold append_json_error_name
  rcases libc.strerrorname_np error_number with _ | name
  · exact (adds_append _).congr (by decide)
  · exact append_json_string_adds name

theorem append_json_error_adds {error_number : Int} (h : IsInt error_number) :
    Adds heap (append_json_error heap libc error_number) (error_value libc error_number).compact := by
  have hnumber : cstr "\x7b\"number\":" = 123 :: (compact_string (cstr "number") ++ [58]) := by decide
  have hname : cstr ",\"name\":" = 44 :: (compact_string (cstr "name") ++ [58]) := by decide
  have hclose : cstr "\x7d" = [125] := by decide
  have hlengths : (cstr "\x7b\"number\":").length = 10 ∧ (cstr ",\"name\":").length = 8 := by decide
  have hshort : (cstr "\x7b\"number\":" ++ signed error_number ++ cstr ",\"name\":").length ≤ 1000 := by
    have hlength := signed_int_length h
    simp only [List.length_append, hlengths]
    omega
  unfold append_json_error error_value
  split
  · exact (adds_append _).congr (by decide)
  · apply (adds_bind (adds_short hshort) fun _ =>
      adds_bind (append_json_error_name_adds error_number) fun _ => adds_append _).congr
    simp only [Value.compact, compact_members, hnumber, hname, hclose, List.append_assoc,
      List.cons_append, List.nil_append]

/-- A call whose numbers are those of its C types, with at most six arguments. -/
structure SyscallEvent.Typed (call : SyscallEvent) : Prop where
  number : IsLong call.number
  result : IsLong call.result
  error_number : IsInt call.error_number
  argument_count : call.argument_count ≤ 6

/-- An event whose numbers are those of their C types. -/
structure Event.Typed (event : Event) : Prop where
  tid : IsInt event.tid
  tgid : IsInt event.tgid
  syscall : ∀ call, event.data = .syscall call → call.Typed
  signal : ∀ signal, event.data = .signal signal → IsInt signal.signal_number ∧
    IsInt signal.signal_code
  process_start : ∀ start, event.data = .process_start start → IsInt start.related_tid ∧
    start.ptrace_event < 2 ^ 32
  process_exit : ∀ exit, event.data = .process_exit exit → IsInt exit.status

theorem Event.Typed.header {event : Event} (h : event.Typed) :
    ∀ e, some event = some e → IsInt e.tid ∧ IsInt e.tgid := by
  rintro e heq
  obtain rfl := Option.some.inj heq
  exact ⟨h.tid, h.tgid⟩

/-- A line is its header and the members of its kind. -/
theorem compact_line (type : Text) (event : Option Event) (member : Text × Value)
    (members : List (Text × Value)) :
    (Value.object (header_members type event ++ member :: members)).compact =
      123 :: compact_members (header_members type event) ++
        (44 :: (compact_members (member :: members) ++ [125])) := by
  rw [Value.compact, compact_members_append _ (by simp [header_members])]
  simp

theorem append_json_call_adds {event : Event} (hevent : event.Typed) {call : SyscallEvent}
    (h : call.Typed) (text : Text) :
    Adds heap (append_json_call heap libc event call text)
      (Value.object (header_members (cstr "syscall") (some event) ++
        call_members libc call text)).compact := by
  have hnumber : cstr ",\"number\":\"" = 44 :: (compact_string (cstr "number") ++ [58, 34]) := by decide
  have hname : cstr "\",\"name\":" = 34 :: 44 :: (compact_string (cstr "name") ++ [58]) := by decide
  have harguments : cstr ",\"arguments\":[" =
      44 :: (compact_string (cstr "arguments") ++ [58, 91]) := by decide
  have hresult : cstr "],\"result\":\"" = 93 :: 44 :: (compact_string (cstr "result") ++ [58, 34]) := by
    decide
  have herror : cstr "\",\"error\":" = 34 :: 44 :: (compact_string (cstr "error") ++ [58]) := by decide
  have hduration : cstr ",\"duration_ns\":\"" =
      44 :: (compact_string (cstr "duration_ns") ++ [58, 34]) := by decide
  have htext : cstr "\",\"text\":" = 34 :: 44 :: (compact_string (cstr "text") ++ [58]) := by decide
  have hclose : cstr "\x7d" = [125] := by decide
  have hlengths : (cstr ",\"number\":\"").length = 11 ∧ (cstr "\",\"name\":").length = 9 ∧
      (cstr "],\"result\":\"").length = 12 ∧ (cstr "\",\"error\":").length = 10 ∧
      (cstr ",\"duration_ns\":\"").length = 16 ∧ (cstr "\",\"text\":").length = 9 := by decide
  have hnumber_short : (cstr ",\"number\":\"" ++ signed call.number ++ cstr "\",\"name\":").length ≤
      1000 := by
    have hlength := signed_long_length h.number
    simp only [List.length_append, hlengths]
    omega
  have hresult_short : (cstr "],\"result\":\"" ++ signed call.result ++
      cstr "\",\"error\":").length ≤ 1000 := by
    have hlength := signed_long_length h.result
    simp only [List.length_append, hlengths]
    omega
  have hduration_short : (cstr ",\"duration_ns\":\"" ++
      numeral 10 (output_elapsed_nanoseconds call) ++ cstr "\",\"text\":").length ≤ 1000 := by
    have hlength := numeral_length (elapsed_lt call)
    simp only [List.length_append, hlengths]
    omega
  unfold append_json_call
  apply (adds_bind (append_json_header_adds _ hevent.header) fun _ =>
    adds_bind (adds_short hnumber_short) fun _ =>
    adds_bind (append_json_string_adds (syscall_name call.number)) fun _ =>
    adds_bind (adds_append _) fun _ =>
    adds_bind (append_json_arguments_adds call call.argument_count) fun _ =>
    adds_bind (adds_short hresult_short) fun _ =>
    adds_bind (append_json_error_adds h.error_number) fun _ =>
    adds_bind (adds_short hduration_short) fun _ =>
    adds_bind (append_json_string_adds (c_string text)) fun _ => adds_append _).congr
  rw [call_members, compact_line]
  simp only [hnumber, hname, harguments, hresult, herror, hduration, htext, hclose, compact_members,
    Value.compact, compact_numeral, compact_signed, List.append_assoc, List.cons_append,
    List.nil_append]

/-- The abbreviations of signals consist of letters and digits, as documented. -/
def Libc.Abbreviations (libc : Libc) : Prop :=
  ∀ n text, libc.sigabbrev_np n = some text → text.length ≤ 32 ∧
    ∀ byte ∈ text, 48 ≤ byte ∧ byte ≤ 57 ∨ 65 ≤ byte ∧ byte ≤ 90

theorem append_json_signal_name_adds (hlibc : libc.Abbreviations) (signal_number : Int) :
    Adds heap (append_json_signal_name heap libc signal_number)
      (name_value ((libc.sigabbrev_np signal_number).map (cstr "SIG" ++ ·))).compact := by
  have hopen : cstr "\"SIG" = 34 :: cstr "SIG" := by decide
  have hclose : cstr "\"" = [34] := by decide
  unfold append_json_signal_name
  rcases hname : libc.sigabbrev_np signal_number with _ | abbreviation
  · exact (adds_append _).congr (by decide)
  · obtain ⟨hlength, hletters⟩ := hlibc signal_number abbreviation hname
    have hplain : compact_string (cstr "SIG" ++ abbreviation) =
        34 :: (cstr "SIG" ++ abbreviation ++ [34]) := by
      apply compact_string_plain
      intro byte hbyte
      obtain hmem | hmem := List.mem_append.mp hbyte
      · have hprefix : ∀ byte ∈ cstr "SIG", 32 ≤ byte ∧ byte ≠ 34 ∧ byte ≠ 92 := by decide +kernel
        exact hprefix byte hmem
      · have hletter := hletters byte hmem
        simp only [UInt8.le_iff_toNat_le, UInt8.reduceToNat] at hletter ⊢
        refine ⟨by omega, ?_, ?_⟩
        · rintro rfl
          simp at hletter
        · rintro rfl
          simp at hletter
    have hlengths : (cstr "\"SIG").length = 4 ∧ (cstr "\"").length = 1 := by decide
    have hshort : (cstr "\"SIG" ++ abbreviation ++ cstr "\"").length ≤ 1000 := by
      simp only [List.length_append, hlengths]
      omega
    apply (adds_short hshort).congr
    simp only [Option.map_some, name_value, Value.compact, hplain, hopen, hclose, List.append_assoc,
      List.cons_append]

/-- The value of an address in the line of a signal. -/
theorem append_json_fault_address_adds (fault_address : UInt64) :
    Adds heap (append_json_fault_address heap fault_address)
      ((if fault_address = 0 then Value.null
        else .string (cstr "0x" ++ numeral 16 fault_address.toNat)).compact ++ [125]) := by
  have hopen : cstr "\"0x" = 34 :: cstr "0x" := by decide
  have hclose : cstr "\"\x7d" = [34, 125] := by decide
  have hlengths : (cstr "\"0x").length = 3 ∧ (cstr "\"\x7d").length = 2 := by decide
  have hshort : (cstr "\"0x" ++ numeral 16 fault_address.toNat ++ cstr "\"\x7d").length ≤ 1000 := by
    have hlength := numeral_length_hexadecimal fault_address
    simp only [List.length_append, hlengths]
    omega
  unfold append_json_fault_address
  split
  · exact (adds_append _).congr (by decide)
  · apply (adds_short hshort).congr
    simp only [Value.compact, compact_hexadecimal, hopen, hclose, List.append_assoc,
      List.cons_append, List.nil_append]

/-- An event that is no call is written as it is. -/
theorem append_json_event_adds (hlibc : libc.Abbreviations) {decoder : Decoder} {event : Event}
    (h : event.Typed) (hcall : ∀ call, event.data ≠ .syscall call) (text : Text) :
    Adds heap (append_json_event heap libc decoder event) (event_value libc event text).compact := by
  have hnumber : cstr ",\"number\":" = 44 :: (compact_string (cstr "number") ++ [58]) := by decide
  have hname : cstr ",\"name\":" = 44 :: (compact_string (cstr "name") ++ [58]) := by decide
  have hcode : cstr ",\"code\":" = 44 :: (compact_string (cstr "code") ++ [58]) := by decide
  have haddress : cstr ",\"fault_address\":" =
      44 :: (compact_string (cstr "fault_address") ++ [58]) := by decide
  have hchild : cstr ",\"child_tid\":" = 44 :: (compact_string (cstr "child_tid") ++ [58]) := by decide
  have hptrace : cstr ",\"ptrace_event\":" =
      44 :: (compact_string (cstr "ptrace_event") ++ [58]) := by decide
  have hstatus : cstr ",\"status\":" = 44 :: (compact_string (cstr "status") ++ [58]) := by decide
  have hsignaled : cstr ",\"signaled\":" = 44 :: (compact_string (cstr "signaled") ++ [58]) := by decide
  have hclose : cstr "\x7d" = [125] := by decide
  have hlengths : (cstr ",\"number\":").length = 10 ∧ (cstr ",\"name\":").length = 8 ∧
      (cstr ",\"code\":").length = 8 ∧ (cstr ",\"fault_address\":").length = 17 ∧
      (cstr ",\"child_tid\":").length = 13 ∧ (cstr ",\"ptrace_event\":").length = 16 ∧
      (cstr ",\"status\":").length = 10 ∧ (cstr ",\"signaled\":").length = 12 ∧
      (cstr "\x7d").length = 1 := by decide
  have hheader : ∀ type, Adds heap (append_json_header heap type (some event)) _ := fun type =>
    append_json_header_adds type h.header
  rcases hdata : event.data with call | signal | start | exit
  · exact absurd hdata (hcall call)
  · obtain ⟨hsignal, hsignal_code⟩ := h.signal signal hdata
    have hnumber_length := signed_int_length hsignal
    have hcode_length := signed_int_length hsignal_code
    unfold append_json_event event_value
    rw [hdata]
    apply (adds_bind (hheader _) fun _ =>
      adds_bind (adds_short (by simp only [List.length_append, hlengths]; omega)) fun _ =>
      adds_bind (append_json_signal_name_adds hlibc signal.signal_number) fun _ =>
      adds_bind (adds_short (by simp only [List.length_append, hlengths]; omega)) fun _ =>
      append_json_fault_address_adds signal.fault_address).congr
    dsimp only
    rw [signal_members, compact_line]
    simp only [hnumber, hname, hcode, haddress, compact_members, compact_number, List.append_assoc,
      List.cons_append, List.nil_append]
  · obtain ⟨hrelated, hevent⟩ := h.process_start start hdata
    have hrelated_length := signed_int_length hrelated
    have hevent_length := numeral_length (n := start.ptrace_event) (by omega)
    unfold append_json_event event_value
    rw [hdata]
    apply (adds_bind (hheader _) fun _ =>
      adds_short (by simp only [List.length_append, hlengths]; omega)).congr
    dsimp only
    rw [start_members, compact_line]
    simp only [hchild, hptrace, hclose, compact_members, compact_number, List.append_assoc,
      List.cons_append, List.nil_append]
  · have hstatus_length := signed_int_length (h.process_exit exit hdata)
    have hflag : (if exit.signaled then cstr "true" else cstr "false") =
        (Value.bool exit.signaled).compact := by
      cases exit.signaled
      · decide
      · decide
    have hflag_length : (Value.bool exit.signaled).compact.length ≤ 5 := by
      cases exit.signaled
      · decide
      · decide
    unfold append_json_event event_value
    rw [hdata]
    dsimp only
    rw [hflag]
    apply (adds_bind (hheader _) fun _ =>
      adds_short (by simp only [List.length_append, hlengths]; omega)).congr
    rw [exit_members, compact_line]
    simp only [hstatus, hsignaled, hclose, compact_members, compact_number, List.append_assoc,
      List.cons_append, List.nil_append]

/-- **The metadata.** -/
theorem append_json_metadata_adds : Adds heap (append_json_metadata heap) metadata_value.compact := by
  have hrest : cstr ",\"architecture\":\"x86_64\",\"format\":\"ndjson\"\x7d" =
      44 :: (compact_members [(cstr "architecture", .string (cstr "x86_64")),
        (cstr "format", .string (cstr "ndjson"))] ++ [125]) := by
    decide
  unfold append_json_metadata
  apply (adds_bind (append_json_header_adds _ fun e he => absurd he (by simp)) fun _ =>
    adds_append _).congr
  rw [metadata_value, compact_line, hrest]

/-! ### The summary -/

/-- What `%.2f` makes of a finite number: some digits and two more behind the point. -/
def Decimal (text : Text) : Prop := ∃ whole fraction : Text, text = whole ++ 46 :: fraction ∧
  whole.all is_digit = true ∧ fraction.all is_digit = true ∧ 0 < whole.length ∧
  whole.length ≤ 309 ∧ fraction.length = 2

theorem Decimal.compact {text : Text} (h : Decimal text) :
    compact_string text = 34 :: (text ++ [34]) := by
  obtain ⟨whole, fraction, rfl, hwhole, hfraction, _⟩ := h
  have hdigit : ∀ {digits : Text}, digits.all is_digit = true → ∀ byte ∈ digits,
      32 ≤ byte ∧ byte ≠ 34 ∧ byte ≠ 92 := by
    intro digits hdigits byte hbyte
    apply plain_of_is_hex_digit
    unfold is_hex_digit
    rw [List.all_eq_true.mp hdigits byte hbyte, Bool.true_or]
  apply compact_string_plain
  intro byte hbyte
  obtain hmem | hmem := List.mem_append.mp hbyte
  · exact hdigit hwhole byte hmem
  · obtain rfl | hmem := List.mem_cons.mp hmem
    · decide
    · exact hdigit hfraction byte hmem

theorem Decimal.length {text : Text} (h : Decimal text) : text.length ≤ 312 := by
  obtain ⟨whole, fraction, rfl, _, _, _, hlong, htwo⟩ := h
  rw [List.length_append, List.length_cons]
  omega

/-- A row whose numbers are those of its C types. -/
structure SyscallStat.Typed (row : SyscallStat) : Prop where
  number : IsLong row.number
  calls : row.calls < 2 ^ 64
  errors : row.errors < 2 ^ 64
  nanoseconds : row.nanoseconds < 2 ^ 64

variable {percent : SyscallStat → Text}

theorem append_json_row_adds (index : Nat) {row : SyscallStat} (h : row.Typed)
    (hpercent : Decimal (percent row)) :
    Adds heap (append_json_row heap (percent row) index row)
      ((if index = 0 then [] else [44]) ++ (row_value percent row).compact) := by
  have hnumber : cstr "\x7b\"number\":\"" = 123 :: (compact_string (cstr "number") ++ [58, 34]) := by
    decide
  have hname : cstr "\",\"name\":" = 34 :: 44 :: (compact_string (cstr "name") ++ [58]) := by decide
  have hcalls : cstr ",\"calls\":\"" = 44 :: (compact_string (cstr "calls") ++ [58, 34]) := by decide
  have herrors : cstr "\",\"errors\":\"" =
      34 :: 44 :: (compact_string (cstr "errors") ++ [58, 34]) := by decide
  have htime : cstr "\",\"nanoseconds\":\"" =
      34 :: 44 :: (compact_string (cstr "nanoseconds") ++ [58, 34]) := by decide
  have haverage : cstr "\",\"average_nanoseconds\":\"" =
      34 :: 44 :: (compact_string (cstr "average_nanoseconds") ++ [58, 34]) := by decide
  have hshare : cstr "\",\"percent\":\"" =
      34 :: 44 :: (compact_string (cstr "percent") ++ [58, 34]) := by decide
  have hclose : cstr "\"\x7d" = [34, 125] := by decide
  have hlengths : (cstr "\x7b\"number\":\"").length = 11 ∧ (cstr "\",\"name\":").length = 9 ∧
      (cstr ",\"calls\":\"").length = 10 ∧ (cstr "\",\"errors\":\"").length = 12 ∧
      (cstr "\",\"nanoseconds\":\"").length = 17 ∧
      (cstr "\",\"average_nanoseconds\":\"").length = 25 ∧
      (cstr "\",\"percent\":\"").length = 13 ∧ (cstr "\"\x7d").length = 2 := by decide
  have hnumber_length := signed_long_length h.number
  have hcalls_length := numeral_length h.calls
  have herrors_length := numeral_length h.errors
  have htime_length := numeral_length h.nanoseconds
  have haverage_length : (numeral 10 (if row.calls = 0 then 0 else row.nanoseconds / row.calls)).length ≤
      20 := by
    apply numeral_length
    split
    · omega
    · exact (Nat.div_le_self _ _).trans_lt h.nanoseconds
  have hshare_length := hpercent.length
  unfold append_json_row
  apply (adds_bind (append_json_comma_adds index) fun _ =>
    adds_bind (adds_short (by simp only [List.length_append, hlengths]; omega)) fun _ =>
    adds_bind (append_json_string_adds (syscall_name row.number)) fun _ =>
    adds_short (by simp only [List.length_append, hlengths]; omega)).congr
  simp only [hnumber, hname, hcalls, herrors, htime, haverage, hshare, hclose, row_value,
    Value.compact, compact_members, compact_signed, compact_numeral, hpercent.compact,
    List.append_assoc, List.cons_append, List.nil_append]

/-- The rows after the first one: a comma in front of each. -/
theorem append_json_rows_adds {rows : List SyscallStat} (hrows : ∀ row ∈ rows, row.Typed)
    (hpercent : ∀ row ∈ rows, Decimal (percent row)) (index : Nat) (hindex : 0 < index) :
    Adds heap (append_json_rows heap percent index rows)
      (rows.flatMap fun row => 44 :: (row_value percent row).compact) := by
  induction rows generalizing index with
  | nil => exact adds_pure _
  | cons row rows ih =>
    have hrow : Adds heap (append_json_row heap (percent row) index row) _ :=
      append_json_row_adds index (hrows row List.mem_cons_self) (hpercent row List.mem_cons_self)
    have hlater := ih (fun row hrow => hrows row (List.mem_cons_of_mem _ hrow))
      (fun row hrow => hpercent row (List.mem_cons_of_mem _ hrow)) (index + 1) (by omega)
    rw [append_json_rows, List.flatMap_cons]
    apply (adds_bind hrow fun _ => hlater).congr
    rw [if_neg (by omega)]
    rfl

/-- A state of the statistics whose numbers are those of its C types. -/
structure Stats.Typed (stats : Stats) : Prop where
  rows : ∀ row ∈ stats.rows, row.Typed
  total_calls : stats.total_calls < 2 ^ 64
  total_errors : stats.total_errors < 2 ^ 64
  total_nanoseconds : stats.total_nanoseconds < 2 ^ 64

/-- **The summary**: any number of rows, with commas between them. -/
theorem append_json_summary_adds {stats : Stats} (h : stats.Typed) {rows : List SyscallStat}
    (hrows : ∀ row ∈ rows, row.Typed) (hpercent : ∀ row ∈ rows, Decimal (percent row)) :
    Adds heap (append_json_summary heap percent stats rows)
      (summary_value percent stats rows).compact := by
  have hcalls : cstr "\x7b\"schema\":\"sysgaze.summary/v1\",\"type\":\"summary\",\"total_calls\":\"" =
      123 :: (compact_string (cstr "schema") ++ 58 :: (compact_string (cstr "sysgaze.summary/v1") ++
        44 :: (compact_string (cstr "type") ++ 58 :: (compact_string (cstr "summary") ++
          44 :: (compact_string (cstr "total_calls") ++ [58, 34]))))) := by decide
  have herrors : cstr "\",\"total_errors\":\"" =
      34 :: 44 :: (compact_string (cstr "total_errors") ++ [58, 34]) := by decide
  have htime : cstr "\",\"total_nanoseconds\":\"" =
      34 :: 44 :: (compact_string (cstr "total_nanoseconds") ++ [58, 34]) := by decide
  have hsyscalls : cstr "\",\"syscalls\":[" =
      34 :: 44 :: (compact_string (cstr "syscalls") ++ [58, 91]) := by decide
  have hclose : cstr "]\x7d" = [93, 125] := by decide
  have hlengths :
      (cstr "\x7b\"schema\":\"sysgaze.summary/v1\",\"type\":\"summary\",\"total_calls\":\"").length = 63 ∧
      (cstr "\",\"total_errors\":\"").length = 18 ∧ (cstr "\",\"total_nanoseconds\":\"").length = 23 ∧
      (cstr "\",\"syscalls\":[").length = 14 := by decide
  have hcalls_length := numeral_length h.total_calls
  have herrors_length := numeral_length h.total_errors
  have htime_length := numeral_length h.total_nanoseconds
  have hitems : Adds heap (append_json_rows heap percent 0 rows)
      (compact_items (rows.map (row_value percent))) := by
    rcases rows with _ | ⟨row, rows⟩
    · exact adds_pure _
    · have hfirst : Adds heap (append_json_row heap (percent row) 0 row) _ :=
        append_json_row_adds 0 (hrows row List.mem_cons_self) (hpercent row List.mem_cons_self)
      have hlater : Adds heap (append_json_rows heap percent 1 rows) _ :=
        append_json_rows_adds (fun row hrow => hrows row (List.mem_cons_of_mem _ hrow))
          (fun row hrow => hpercent row (List.mem_cons_of_mem _ hrow)) 1 (by omega)
      rw [List.map_cons, compact_items_cons, List.flatMap_map]
      exact adds_bind hfirst fun _ => hlater
  unfold append_json_summary
  apply (adds_bind (adds_short (by simp only [List.length_append, hlengths]; omega)) fun _ =>
    adds_bind hitems fun _ => adds_append _).congr
  simp only [hcalls, herrors, htime, hsyscalls, hclose, summary_value, Value.compact,
    compact_members, compact_numeral, List.append_assoc, List.cons_append, List.nil_append]

end adds

end Sysgaze
