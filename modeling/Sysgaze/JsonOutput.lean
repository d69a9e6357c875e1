import Sysgaze.Decoder
import Sysgaze.Stats
import Sysgaze.Lib.Json

/-! # The structured output (`output.c`)

    How an event, the metadata and a summary become bytes in NDJSON and JSON
    mode.  The serializer puts pieces of text one after the other; `compact`
    of a JSON value says what they amount to (`append_json_event_adds`).
-/

open Fallible Numerals Json

namespace Sysgaze

section model
variable (heap : Heap) (libc : Libc) (decoder : Decoder)

abbrev SG_SCHEMA : String := "sysgaze.trace/v1"

/-- What `append_json_string` appends for a byte. -/
def append_json_byte (byte : UInt8) : RenderM Unit :=
  if byte = 34 ∨ byte = 92 then sg_buffer_append heap [92, byte]
  else if byte = 8 then sg_buffer_append_cstr heap (cstr "\\b")
  else if byte = 12 then sg_buffer_append_cstr heap (cstr "\\f")
  else if byte = 10 then sg_buffer_append_cstr heap (cstr "\\n")
  else if byte = 13 then sg_buffer_append_cstr heap (cstr "\\r")
  else if byte = 9 then sg_buffer_append_cstr heap (cstr "\\t")
  else if byte < 32 then
    sg_buffer_append_format heap
      (cstr "\\u00" ++ [digit (byte.toNat / 16), digit (byte.toNat % 16)])
  else sg_buffer_append heap [byte]

/-- `append_json_string`; `value` is the string without its NUL. -/
def append_json_string (value : Text) : RenderM Unit := do
  sg_buffer_append_cstr heap (cstr "\"")
  value.forM (append_json_byte heap)
  sg_buffer_append_cstr heap (cstr "\"")

/-- `write_buffer`: the bytes that are given to `fwrite`. -/
def written_line (render : RenderM Unit) : RenderM Text := do
  render
  sg_buffer_append_cstr heap (cstr "\n")
  let rendering ← get
  pure rendering.contents

/-- The text that a program puts into a buffer of its own. -/
def aside (render : RenderM Unit) : RenderM Text := do
  let rendering ← get
  modify fun rendering => { rendering with output := sg_buffer_init }
  render
  let text := (← get).contents
  modify fun aside => { aside with output := rendering.output }
  pure text

/-- `syscall_name`; the array for the name of an unknown call has 64 bytes. -/
def syscall_name (number : Int) : Text :=
  match sg_syscall_by_number number with
  | some descriptor => descriptor.name
  | none => (cstr "syscall_" ++ signed number).take 63

/-- `elapsed_nanoseconds`, of `output.c`. -/
def output_elapsed_nanoseconds (event : SyscallEvent) : Nat :=
  let seconds := event.exited_at.tv_sec - event.entered_at.tv_sec
  let nanoseconds := event.exited_at.tv_nsec - event.entered_at.tv_nsec
  if seconds < 0 ∨ (seconds = 0 ∧ nanoseconds < 0) then 0
  else
    let (seconds, nanoseconds) :=
      if nanoseconds < 0 then (seconds - 1, nanoseconds + 1000000000) else (seconds, nanoseconds)
    ((seconds * 1000000000 + nanoseconds) % 2 ^ 64).toNat

/-- The time of an event, as `append_json_header` shows it. -/
def timestamp_nanoseconds (time : Timespec) : Nat :=
  if time.tv_sec < 0 then 0 else ((time.tv_sec * 1000000000 + time.tv_nsec) % 2 ^ 64).toNat

/-- `append_json_header`. -/
def append_json_header (type : Text) (event : Option Event) : RenderM Unit := do
  sg_buffer_append_cstr heap (cstr "\x7b\"schema\":\"")
  sg_buffer_append_cstr heap (cstr SG_SCHEMA)
  sg_buffer_append_cstr heap (cstr "\",\"type\":")
  append_json_string heap type
  match event with
  | none => pure ()
  | some event =>
    sg_buffer_append_format heap
      (cstr ",\"tid\":" ++ signed event.tid ++ cstr ",\"tgid\":" ++ signed event.tgid ++
        cstr ",\"timestamp_ns\":\"" ++ numeral 10 (timestamp_nanoseconds event.observed_at) ++
        cstr "\"")

/-- The comma in front of all items but the first. -/
def append_json_comma (index : Nat) : RenderM Unit :=
  if index = 0 then pure () else sg_buffer_append_cstr heap (cstr ",")

/-- One round of the loop over the arguments in `append_json_syscall`. -/
def append_json_argument (event : SyscallEvent) (index : Nat) : RenderM Unit := do
  append_json_comma heap index
  sg_buffer_append_format heap
    (cstr "\"0x" ++ numeral 16 (event.argument index).toNat ++ cstr "\"")

/-- The name of an error number, in `append_json_syscall`. -/
def append_json_error_name (error_number : Int) : RenderM Unit :=
  match libc.strerrorname_np error_number with
  | none => sg_buffer_append_cstr heap (cstr "null")
  | some name => append_json_string heap name

/-- The error of a call, in `append_json_syscall`. -/
def append_json_error (error_number : Int) : RenderM Unit :=
  if error_number = 0 then sg_buffer_append_cstr heap (cstr "null")
  else do
    sg_buffer_append_format heap (cstr "\x7b\"number\":" ++ signed error_number ++ cstr ",\"name\":")
    append_json_error_name heap libc error_number
    sg_buffer_append_cstr heap (cstr "\x7d")

/-- What `append_json_syscall` appends once it has the text of the call. -/
def append_json_call (event : Event) (call : SyscallEvent) (text : Text) : RenderM Unit := do
  append_json_header heap (cstr "syscall") (some event)
  sg_buffer_append_format heap (cstr ",\"number\":\"" ++ signed call.number ++ cstr "\",\"name\":")
  append_json_string heap (syscall_name call.number)
  sg_buffer_append_cstr heap (cstr ",\"arguments\":[")
  (List.range call.argument_count).forM (append_json_argument heap call)
  sg_buffer_append_format heap (cstr "],\"result\":\"" ++ signed call.result ++ cstr "\",\"error\":")
  append_json_error heap libc call.error_number
  sg_buffer_append_format heap
    (cstr ",\"duration_ns\":\"" ++ numeral 10 (output_elapsed_nanoseconds call) ++
      cstr "\",\"text\":")
  append_json_string heap (c_string text)
  sg_buffer_append_cstr heap (cstr "\x7d")

/-- `append_json_syscall`. -/
def append_json_syscall (event : Event) (call : SyscallEvent) : RenderM Unit := do
  let text ← aside (sg_decode_syscall heap libc decoder event.tid call)
  append_json_call heap libc event call text

/-- The name of a signal, in `append_json_event`. -/
def append_json_signal_name (signal_number : Int) : RenderM Unit :=
  match libc.sigabbrev_np signal_number with
  | none => sg_buffer_append_cstr heap (cstr "null")
  | some abbreviation =>
    sg_buffer_append_format heap (cstr "\"SIG" ++ abbreviation ++ cstr "\"")

/-- The address of a signal and the end of its line, in `append_json_event`. -/
def append_json_fault_address (fault_address : UInt64) : RenderM Unit :=
  if fault_address = 0 then sg_buffer_append_cstr heap (cstr "null\x7d")
  else
    sg_buffer_append_format heap (cstr "\"0x" ++ numeral 16 fault_address.toNat ++ cstr "\"\x7d")

/-- `append_json_event`. -/
def append_json_event (event : Event) : RenderM Unit :=
  match event.data with
  | .syscall call => append_json_syscall heap libc decoder event call
  | .signal signal => do
    append_json_header heap (cstr "signal") (some event)
    sg_buffer_append_format heap
      (cstr ",\"number\":" ++ signed signal.signal_number ++ cstr ",\"name\":")
    append_json_signal_name heap libc signal.signal_number
    sg_buffer_append_format heap
      (cstr ",\"code\":" ++ signed signal.signal_code ++ cstr ",\"fault_address\":")
    append_json_fault_address heap signal.fault_address
  | .process_start start => do
    append_json_header heap (cstr "process-start") (some event)
    sg_buffer_append_format heap
      (cstr ",\"child_tid\":" ++ signed start.related_tid ++ cstr ",\"ptrace_event\":" ++
        numeral 10 start.ptrace_event ++ cstr "\x7d")
  | .process_exit exit => do
    append_json_header heap (cstr "process-exit") (some event)
    sg_buffer_append_format heap
      (cstr ",\"status\":" ++ signed exit.status ++ cstr ",\"signaled\":" ++
        (if exit.signaled then cstr "true" else cstr "false") ++ cstr "\x7d")

/-- The line that `sg_output_init` writes in NDJSON mode. -/
def append_json_metadata : RenderM Unit := do
  append_json_header heap (cstr "metadata") none
  sg_buffer_append_cstr heap (cstr ",\"architecture\":\"x86_64\",\"format\":\"ndjson\"\x7d")

/-! ### The summary -/

/-- One round of the loop in `write_json_summary`; `percent` is what `%.2f` makes of the
    share of the row. -/
def append_json_row (percent : Text) (index : Nat) (row : SyscallStat) : RenderM Unit := do
  let average := if row.calls = 0 then 0 else row.nanoseconds / row.calls
  append_json_comma heap index
  sg_buffer_append_format heap (cstr "\x7b\"number\":\"" ++ signed row.number ++ cstr "\",\"name\":")
  append_json_string heap (syscall_name row.number)
  sg_buffer_append_format heap
    (cstr ",\"calls\":\"" ++ numeral 10 row.calls ++ cstr "\",\"errors\":\"" ++
      numeral 10 row.errors ++ cstr "\",\"nanoseconds\":\"" ++ numeral 10 row.nanoseconds ++
      cstr "\",\"average_nanoseconds\":\"" ++ numeral 10 average ++ cstr "\",\"percent\":\"" ++
      percent ++ cstr "\"\x7d")

/-- The loop in `write_json_summary`, from a row on. -/
def append_json_rows (percent : SyscallStat → Text) : Nat → List SyscallStat → RenderM Unit
  | _, [] => pure ()
  | index, row :: rows => do
    append_json_row heap (percent row) index row
    append_json_rows percent (index + 1) rows

/-- What `write_json_summary` appends for the rows. -/
def append_json_summary (percent : SyscallStat → Text) (stats : Stats)
    (rows : List SyscallStat) : RenderM Unit := do
  sg_buffer_append_format heap
    (cstr "\x7b\"schema\":\"sysgaze.summary/v1\",\"type\":\"summary\",\"total_calls\":\"" ++
      numeral 10 stats.total_calls ++ cstr "\",\"total_errors\":\"" ++
      numeral 10 stats.total_errors ++ cstr "\",\"total_nanoseconds\":\"" ++
      numeral 10 stats.total_nanoseconds ++ cstr "\",\"syscalls\":[")
  append_json_rows heap percent 0 rows
  sg_buffer_append_cstr heap (cstr "]\x7d")

/-- `write_json_summary`. -/
def write_json_summary (qsort : Qsort) (percent : SyscallStat → Text) (stats : Stats)
    (granted : Bool) : RenderM Text :=
  match sg_stats_sorted_copy qsort stats granted with
  | none => throw ()
  | some rows => written_line heap (append_json_summary heap percent stats rows)

end model

end Sysgaze
