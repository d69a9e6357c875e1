import Sysgaze.CommandLine
import Sysgaze.WholeRuns

/-! # The benchmark metrics (`trace.c`, `benchmarks/harness.c`)

    At the end of a run that succeeds the tracer writes two counters to a descriptor that
    the benchmark harness has named in `SYSGAZE_BENCHMARK_FD`: the calls that it has
    reported and the ptrace requests that it has made.  The harness reads them back from
    a pipe, in as many pieces as the kernel likes.

    Two things have to agree.  The counter of calls is kept apart from what is written,
    so over a whole run it must stay equal to it (`reported_invariant`); and the two
    programs must mean the same by one line of text (`parse_written`).
-/

open Fallible Numerals

namespace Sysgaze

/-! ### The tracer's side -/

/-- The line that `write_benchmark_metrics` prints; the counters are of type `uint64_t`. -/
def metrics_line (event_count ptrace_call_count : Nat) : Text :=
  cstr "events=" ++ numeral 10 (event_count % 2 ^ 64) ++ cstr " ptrace_calls=" ++
    numeral 10 (ptrace_call_count % 2 ^ 64) ++ cstr "\n"

/-- `write_benchmark_metrics`: what is written, and to which descriptor.  `text` is what `getenv`
    finds, and `printed` whether `dprintf` succeeds. -/
def write_benchmark_metrics (env : Env) (text : Option Text) (printed : Bool) (context : Context) :
    Except String (Option (Int × Text)) :=
  match text with
  | none => .ok none
  | some text =>
    if text = [] then .ok none
    else
      let (descriptor, rest, failed) := strtol text
      if failed ∨ rest = text ∨ rest ≠ [] ∨ descriptor < 0 ∨ descriptor > INT_MAX then
        .error "invalid internal benchmark descriptor"
      else if !printed then .error s!"cannot write benchmark metrics: {env.strerror}"
      else .ok (some (descriptor, metrics_line context.event_count context.requests.length))

/-! ### The harness's side -/

/-- The size of the buffer in `parse_metrics`. -/
abbrev metrics_buffer : Nat := 128

/-- What `read` does: a signal handler has run, it has failed, or bytes are there. -/
inductive PipeRead where
  | eintr
  | failed
  | ready (bytes : Text)
  deriving DecidableEq, Repr

/-- The loop of `parse_metrics`; the pipe is at its end behind the last answer. -/
def read_metrics : List PipeRead → Text → Option Text
  | [], used => some used
  | .eintr :: reads, used => read_metrics reads used
  | .failed :: _, _ => none
  | .ready bytes :: reads, used =>
    let amount := bytes.take (metrics_buffer - used.length - 1)
    if amount = [] then some used
    else if (used ++ amount).length = metrics_buffer - 1 then some (used ++ amount)
    else read_metrics reads (used ++ amount)

/-- A directive of `sscanf`. -/
inductive Directive where
  | blank
  | literal (text : Text)
  | number

/-- The numbers that `sscanf` stores until a directive does not match; `SCNu64` reads like
    `strtoumax`. -/
def sscanf : List Directive → Text → List Nat
  | [], _ => []
  | .blank :: format, text => sscanf format (text.dropWhile isspace)
  | .literal word :: format, text =>
    if word <+: text then sscanf format (text.drop word.length) else []
  | .number :: format, text =>
    let (value, rest, _) := strtoumax text
    if rest = text then [] else value :: sscanf format rest

/-- The format of `parse_metrics`. -/
def metrics_format : List Directive :=
  [.literal (cstr "events="), .number, .blank, .literal (cstr "ptrace_calls="), .number]

/-- `parse_metrics`: `*events` and `*ptrace_calls`. -/
def parse_metrics (reads : List PipeRead) : Option (Nat × Nat) :=
  match read_metrics reads [] with
  | none => none
  | some buffer =>
    match sscanf metrics_format (buffer.takeWhile (· ≠ 0)) with
    | [events, ptrace_calls] => some (events, ptrace_calls)
    | _ => none

/-- The value that `execute_runner` gives to `SYSGAZE_BENCHMARK_FD`. -/
def descriptor_text (metrics_descriptor : Int) : Text := signed metrics_descriptor

/-- The bytes that a read passes on. -/
def PipeRead.bytes : PipeRead → Text
  | .ready bytes => bytes
  | _ => []

/-- The kernel passes on the text, in pieces that are not empty, and no read fails. -/
structure Delivers (reads : List PipeRead) (text : Text) : Prop where
  sound : ∀ read ∈ reads, read ≠ .failed ∧ read ≠ .ready []
  bytes : reads.flatMap PipeRead.bytes = text

/-! ### The line is read back -/

section lines
variable {reads : List PipeRead} {text used rest : Text} {n : Nat}

theorem isdigit_eq (byte : UInt8) : isdigit byte = is_digit byte := by
  unfold isdigit is_digit
  simp

/-- A number, and what follows it. -/
theorem scan_number_numeral (hrest : ∀ byte ∈ rest.head?, isdigit byte = false) :
    scan_number (numeral 10 n ++ rest) = (false, numeral 10 n, rest) := by
  have hdigits : ∀ byte ∈ numeral 10 n, isdigit byte = true := by
    intro byte hbyte
    rw [isdigit_eq]
    exact is_digit_of_mem hbyte
  have hne : numeral 10 n ≠ [] := numeral_ne_nil (by omega) (by omega)
  obtain ⟨first, others, hfirst⟩ := List.exists_cons_of_ne_nil hne
  have hdigit := hdigits first (by rw [hfirst]; exact List.mem_cons_self)
  have htake : (numeral 10 n ++ rest).takeWhile isdigit = numeral 10 n := by
    rw [List.takeWhile_append_of_pos hdigits]
    cases rest with
    | nil => simp
    | cons byte rest => simp [hrest byte rfl]
  have hdrop : (numeral 10 n ++ rest).dropWhile isdigit = rest := by
    rw [List.dropWhile_append_of_pos hdigits]
    cases rest with
    | nil => rfl
    | cons byte rest => simp [hrest byte rfl]
  have hrange : 48 ≤ first.toNat ∧ first.toNat ≤ 57 := by
    unfold isdigit at hdigit
    simpa [UInt8.le_iff_toNat_le] using hdigit
  -- A digit is neither a blank nor a sign.
  have hspace : isspace first = false := by
    have h₁ : first ≠ 32 := by
      rintro rfl
      exact absurd hrange.1 (by decide)
    have h₂ : ¬first ≤ 13 := by
      rw [UInt8.le_iff_toNat_le]
      show ¬first.toNat ≤ 13
      omega
    unfold isspace
    simp [h₁, h₂]
  have hsign : first ≠ 45 ∧ first ≠ 43 := by
    constructor
    · rintro rfl
      exact absurd hrange.1 (by decide)
    · rintro rfl
      exact absurd hrange.1 (by decide)
  have hblank : (numeral 10 n ++ rest).dropWhile isspace = numeral 10 n ++ rest := by
    rw [hfirst]
    simp [hspace]
  unfold scan_number
  rw [hblank]
  dsimp only
  split
  · rename_i heq
    rw [hfirst, List.cons_append, List.cons.injEq] at heq
    exact absurd heq.1 hsign.1
  · rename_i heq
    rw [hfirst, List.cons_append, List.cons.injEq] at heq
    exact absurd heq.1 hsign.2
  · rw [htake, hdrop]

theorem decimal_numeral (n : Nat) : decimal (numeral 10 n) = n := by
  have hsame : ∀ (digits : Text) (number : Nat), (∀ byte ∈ digits, is_digit byte = true) →
      digits.foldl (fun number digit => number * 10 + (digit.toNat - 48)) number =
        digits.foldl (fun number digit => number * 10 + digit_value digit) number := by
    intro digits
    induction digits with
    | nil => exact fun _ _ => rfl
    | cons digit digits ih =>
      intro number hdigits
      have hvalue : digit_value digit = digit.toNat - 48 := by
        have hle := hdigits digit List.mem_cons_self
        unfold is_digit at hle
        simp only [Bool.and_eq_true, decide_eq_true_eq, UInt8.le_iff_toNat_le] at hle
        have hlt : digit < 58 := by
          rw [UInt8.lt_iff_toNat_lt]
          exact Nat.lt_succ_of_le hle.2
        unfold digit_value
        exact if_pos hlt
      rw [List.foldl_cons, List.foldl_cons, hvalue]
      exact ih _ fun byte hbyte => hdigits byte (List.mem_cons_of_mem _ hbyte)
  unfold decimal
  rw [hsame _ _ fun byte hbyte => is_digit_of_mem hbyte]
  exact value_numeral (by omega) (by omega)

theorem strtoumax_numeral (hn : n < 2 ^ 64)
    (hrest : ∀ byte ∈ rest.head?, isdigit byte = false) :
    strtoumax (numeral 10 n ++ rest) = (n, rest, false) := by
  unfold strtoumax
  rw [scan_number_numeral hrest]
  dsimp only
  rw [if_neg (numeral_ne_nil (by omega) (by omega)), decimal_numeral, if_neg (by omega),
    if_neg (by simp)]

theorem strtol_numeral (hn : n < 2 ^ 63) : strtol (numeral 10 n) = ((n : Int), [], false) := by
  have hscan : scan_number (numeral 10 n ++ []) = (false, numeral 10 n, []) :=
    scan_number_numeral (by simp)
  rw [List.append_nil] at hscan
  unfold strtol
  rw [hscan]
  dsimp only
  rw [if_neg (numeral_ne_nil (by omega) (by omega)), decimal_numeral]
  simp only [Bool.false_eq_true, if_false]
  rw [if_neg (by omega), if_neg (by omega)]

/-- A text that fits is read whole, however it is cut. -/
theorem read_metrics_delivers (reads : List PipeRead) : ∀ {text used : Text},
    Delivers reads text → used.length + text.length < metrics_buffer - 1 →
    read_metrics reads used = some (used ++ text) := by
  induction reads with
  | nil =>
    intro text used h _
    rw [← h.bytes, List.flatMap_nil, List.append_nil]
    rfl
  | cons read reads ih =>
    intro text used h hfits
    have hrest : Delivers reads (reads.flatMap PipeRead.bytes) :=
      ⟨fun other hother => h.sound other (List.mem_cons_of_mem _ hother), rfl⟩
    have htext := h.bytes
    rw [List.flatMap_cons] at htext
    subst htext
    cases read with
    | eintr => exact ih hrest hfits
    | failed => exact absurd rfl (h.sound _ List.mem_cons_self).1
    | ready bytes =>
      have hbytes : bytes ≠ [] := by
        rintro rfl
        exact (h.sound _ List.mem_cons_self).2 rfl
      have hfits : used.length + (bytes ++ reads.flatMap PipeRead.bytes).length <
        metrics_buffer - 1 := hfits
      rw [List.length_append] at hfits
      -- The pieces together leave room in the buffer, so that no piece is cut.
      have hwhole : bytes.take (metrics_buffer - used.length - 1) = bytes :=
        List.take_of_length_le (by omega)
      rw [read_metrics, hwhole, if_neg hbytes, if_neg (by rw [List.length_append]; omega),
        ih hrest (by rw [List.length_append]; omega), List.append_assoc]
      rfl

theorem metrics_line_length (event_count ptrace_call_count : Nat) :
    (metrics_line event_count ptrace_call_count).length ≤ 62 := by
  have hcount : ∀ n : Nat, (numeral 10 (n % 2 ^ 64)).length ≤ 20 := fun n =>
    length_numeral_le (by omega) (by omega) (by omega)
      ((Nat.mod_lt n (by omega)).trans (by decide))
  have hcalls := hcount event_count
  have hrequests := hcount ptrace_call_count
  have h₁ : (cstr "events=").length = 7 := by decide
  have h₂ : (cstr " ptrace_calls=").length = 14 := by decide
  have h₃ : (cstr "\n").length = 1 := by decide
  unfold metrics_line
  simp only [List.length_append]
  omega

theorem metrics_line_nonzero (event_count ptrace_call_count : Nat) :
    (metrics_line event_count ptrace_call_count).takeWhile (· ≠ 0) =
      metrics_line event_count ptrace_call_count := by
  rw [List.takeWhile_eq_self_iff]
  have hdigits : ∀ n, ∀ byte ∈ numeral 10 n, byte ≠ 0 := by
    intro n byte hbyte
    have hdigit := is_digit_of_mem hbyte
    rintro rfl
    exact absurd hdigit (by decide)
  have h₁ : ∀ byte ∈ cstr "events=", byte ≠ 0 := by decide +kernel
  have h₂ : ∀ byte ∈ cstr " ptrace_calls=", byte ≠ 0 := by decide +kernel
  have h₃ : ∀ byte ∈ cstr "\n", byte ≠ 0 := by decide +kernel
  intro byte hbyte
  unfold metrics_line at hbyte
  simp only [List.mem_append] at hbyte
  simp only [decide_eq_true_eq]
  obtain (((hbyte | hbyte) | hbyte) | hbyte) | hbyte := hbyte
  · exact h₁ byte hbyte
  · exact hdigits _ byte hbyte
  · exact h₂ byte hbyte
  · exact hdigits _ byte hbyte
  · exact h₃ byte hbyte

/-- **The harness reads the counters** that the tracer has printed. -/
theorem parse_written {event_count ptrace_call_count : Nat}
    (h : Delivers reads (metrics_line event_count ptrace_call_count)) :
    parse_metrics reads = some (event_count % 2 ^ 64, ptrace_call_count % 2 ^ 64) := by
  have hlength := metrics_line_length event_count ptrace_call_count
  have hcount : ∀ n : Nat, n % 2 ^ 64 < 2 ^ 64 := fun n => Nat.mod_lt n (by decide)
  have hread : read_metrics reads [] = some (metrics_line event_count ptrace_call_count) := by
    have hfits : (metrics_line event_count ptrace_call_count).length < metrics_buffer - 1 :=
      hlength.trans_lt (by decide)
    rw [read_metrics_delivers reads h (by rwa [List.length_nil, Nat.zero_add]), List.nil_append]
  unfold parse_metrics
  rw [hread]
  dsimp only
  rw [metrics_line_nonzero]
  have hmatch : ∀ (word : Text) (format : List Directive) (text : Text),
      sscanf (.literal word :: format) (word ++ text) = sscanf format text := by
    intro word format text
    rw [sscanf, if_pos (List.prefix_append _ _), List.drop_left]
  have hnumber : ∀ {n : Nat} (format : List Directive) (text : Text), n < 2 ^ 64 →
      (∀ byte ∈ text.head?, isdigit byte = false) →
      sscanf (.number :: format) (numeral 10 n ++ text) = n :: sscanf format text := by
    intro n format text hn htext
    rw [sscanf, strtoumax_numeral hn htext]
    dsimp only
    rw [if_neg]
    intro hsame
    exact numeral_ne_nil (by omega) (by omega) (List.self_eq_append_left.mp hsame)
  have hblank : ∀ (format : List Directive) (text : Text),
      sscanf (.blank :: .literal (cstr "ptrace_calls=") :: format) (cstr " ptrace_calls=" ++ text) =
        sscanf format text := by
    intro format text
    rw [sscanf, show (cstr " ptrace_calls=" ++ text).dropWhile isspace =
      cstr "ptrace_calls=" ++ text from rfl, hmatch]
  unfold metrics_line metrics_format
  simp only [List.append_assoc]
  rw [hmatch, hnumber _ _ (hcount _), hblank, hnumber _ _ (hcount _) (by decide +kernel)]
  · rfl
  · intro byte hbyte
    rw [← Option.some.inj hbyte]
    rfl

/-- The harness names a descriptor, and the tracer reads its number. -/
theorem strtol_descriptor {metrics_descriptor : Int} (h : 0 ≤ metrics_descriptor)
    (hmax : metrics_descriptor ≤ INT_MAX) :
    strtol (descriptor_text metrics_descriptor) = (metrics_descriptor, [], false) := by
  have habs : (metrics_descriptor.natAbs : Int) = metrics_descriptor := by omega
  have hsmall : metrics_descriptor.natAbs < 2 ^ 63 := by
    have hbound : INT_MAX < 2 ^ 63 := by decide
    omega
  unfold descriptor_text signed
  rw [if_neg (by omega), strtol_numeral hsmall, habs]

end lines

/-! ### The counter of calls -/

/-- The calls that the run has reported: the calls of the summary with `-c`, else the completed
    calls that have been written. -/
def Context.calls_reported (config : Config) (c : Context) : Nat :=
  if config.summary then c.stats.total_calls else c.completed.length

/-- The counter, and what it counts. -/
def Context.tally (config : Config) (c : Context) : Nat × Nat :=
  (c.event_count, c.calls_reported config)

/-- The counter agrees with what has been reported. -/
def Context.Counted (config : Config) (c : Context) : Prop :=
  c.event_count = c.calls_reported config

/-- At most one call has been counted that was not reported. -/
def Context.Short (config : Config) (c : Context) : Prop :=
  c.calls_reported config ≤ c.event_count ∧ c.event_count ≤ c.calls_reported config + 1

section counter
variable {config : Config} {env : Env} {c c' : Context} {tracee : Tracee} {event : SyscallEvent}

theorem Context.Counted.short (h : c.Counted config) : c.Short config := by
  unfold Context.Counted at h
  unfold Context.Short
  omega

theorem calls_reported_congr (hstats : c'.stats = c.stats) (hcompleted : c'.completed = c.completed) :
    c'.calls_reported config = c.calls_reported config := by
  unfold Context.calls_reported
  rw [hstats, hcompleted]

theorem Context.Counted.congr (h : c.Counted config) (htally : c'.tally config = c.tally config) :
    c'.Counted config := by
  unfold Context.tally at htally
  obtain ⟨hcount, hreported⟩ := Prod.mk.inj htally
  unfold Context.Counted
  rw [hcount, hreported]
  exact h

theorem Context.Short.congr (h : c.Short config) (htally : c'.tally config = c.tally config) :
    c'.Short config := by
  unfold Context.tally at htally
  obtain ⟨hcount, hreported⟩ := Prod.mk.inj htally
  unfold Context.Short
  rw [hcount, hreported]
  exact h

/-- What writes no completed call leaves both alone. -/
theorem Silent.tally (h : Silent c c') : c'.tally config = c.tally config := by
  have hstats : c'.stats = c.stats := congrArg Context.Ledger.stats h.ledger
  have hcount : c'.event_count = c.event_count := congrArg Context.Ledger.event_count h.ledger
  have hcompleted : ∀ context : Context, context.completed =
      context.written.filterMap Line.completed := by
    intro context
    show context.output.lines.filterMap Line.completed = _
    unfold Context.written
    rw [List.filterMap_filter]
    congr 1
    funext line
    cases line <;> rfl
  unfold Context.tally
  rw [hcount, calls_reported_congr hstats (by rw [hcompleted, h.written, ← hcompleted])]

theorem keeps_counted {α : Type} {m : TraceM α} (h : c.Counted config)
    (hm : Preserves m (Context.tally config)) :
    Keeps (Context.Counted config) (Context.Short config) m c :=
  keeps_of_holds (hm c) (fun _ _ => h.congr) fun _ _ => h.short.congr

/-! ### The writers -/

/-- The counter and the summary, which no writer of events touches. -/
def Context.sums (c : Context) : Nat × Stats := (c.event_count, c.stats)

theorem emit_event_sums (event : Event) : Preserves (emit_event config env event) Context.sums := by
  unfold emit_event
  apply preserves_bind
  · exact preserves_modify fun _ => rfl
  · exact fun _ => preserves_zoom fun _ _ => rfl

theorem tally_of_sums (hsums : c'.sums = c.sums) (hcompleted : c'.completed = c.completed) :
    c'.tally config = c.tally config := by
  unfold Context.sums at hsums
  obtain ⟨hcount, hstats⟩ := Prod.mk.inj hsums
  unfold Context.tally
  rw [hcount, calls_reported_congr hstats hcompleted]

/-- An event is reported if it is about a completed call. -/
theorem emit_event_counts_one (event : Event) :
    Holds (emit_event config env event) c
      (fun _ c' => c'.sums = c.sums ∧
        (config.summary = false → c'.completed = c.completed ++ event.completed.toList))
      (fun _ c' => c'.tally config = c.tally config) := by
  apply ((emit_event_spec event).and (emit_event_sums event c)).mono
  · intro _ c' hpost
    rcases hpost with ⟨hw, hsums⟩
    refine ⟨hsums, fun hsummary => ?_⟩
    show c'.output.log.completed = _
    rw [hw.log]
    exact completed_write c.output.log event hsummary
  · intro _ c' hpost
    rcases hpost with ⟨hb, hsums⟩
    exact tally_of_sums hsums (congrArg (List.filterMap Line.completed) hb.lines)

theorem flush_unfinished_syscalls_sums (except_tid : Pid) :
    Preserves (flush_unfinished_syscalls config env except_tid) Context.sums := by
  unfold flush_unfinished_syscalls
  apply preserves_ite (preserves_pure _)
  apply preserves_bind preserves_get
  intro context
  apply preserves_forM
  intro tracee
  unfold flush_tracee
  apply preserves_ite (preserves_pure _)
  split
  · exact preserves_pure _
  · exact preserves_ite (preserves_pure _) (emit_event_sums _)

/-- The flush reports no completed call. -/
theorem flush_unfinished_syscalls_tally (except_tid : Pid) :
    Preserves (flush_unfinished_syscalls config env except_tid) (Context.tally config) := by
  intro c
  cases hsummary : config.summary with
  | true =>
    unfold flush_unfinished_syscalls
    rw [if_pos hsummary]
    rfl
  | false =>
    have hcompleted : ∀ {events : List Event} {log : Output.Log},
        (∀ event ∈ events, FlushEvent config c.tracees except_tid event) →
        (events.foldl (Output.Log.write config) log).completed = log.completed := by
      intro events log hevents
      rw [completed_foldl hsummary, filterMap_flush hevents, List.append_nil]
    apply ((flush_unfinished_syscalls_spec except_tid).and
      (flush_unfinished_syscalls_sums except_tid c)).mono
    · intro _ c' hpost
      rcases hpost with ⟨⟨events, hevents, hw⟩, hsums⟩
      apply tally_of_sums hsums
      show c'.output.log.completed = c.output.log.completed
      rw [hw.log, hcompleted hevents]
    · intro _ c' hpost
      rcases hpost with ⟨⟨events, hevents, hb⟩, hsums⟩
      apply tally_of_sums hsums
      show c'.output.lines.filterMap Line.completed = c.output.log.completed
      rw [hb.lines]
      exact hcompleted hevents

theorem clock_gettime_tally : Preserves (clock_gettime env) (Context.tally config) := by
  intro c
  unfold clock_gettime
  rw [holds_bind, holds_context_ask]
  cases env.clock c.asked with
  | none => rfl
  | some now => rfl

/-- A new row counts nothing yet. -/
theorem add_row_total {stats stats' : Stats} {number : Int} {granted : Bool} {index : Nat}
    (h : add_row stats number granted = some (index, stats')) :
    stats'.total_calls = stats.total_calls := by
  unfold add_row at h
  dsimp only at h
  split at h
  · rw [Option.ite_none_left_eq_some, Option.some.injEq, Prod.mk.injEq] at h
    rw [← h.2.2]
  · rw [Option.some.injEq, Prod.mk.injEq] at h
    rw [← h.2]

/-- The summary counts the calls that it takes. -/
theorem sg_stats_record_total (stats : Stats) (granted : Bool) :
    (sg_stats_record stats event granted).2.total_calls =
      stats.total_calls + if (sg_stats_record stats event granted).1 then 1 else 0 := by
  have hrow : ∀ (stats : Stats) (index nanoseconds : Nat) (error : Bool),
      (record_row stats index nanoseconds error).2.total_calls =
        stats.total_calls + if (record_row stats index nanoseconds error).1 then 1 else 0 := by
    intro stats index nanoseconds error
    unfold record_row
    split
    · rfl
    · split
      · rfl
      · rfl
  unfold sg_stats_record
  split
  · dsimp only
    split
    · rfl
    · split
      · exact hrow _ _ _ _
      · split
        · rfl
        · rename_i index stats' hadded
          rw [hrow, add_row_total hadded]
  · rfl

/-- **A completed call** that is selected is counted, and then reported or lost. -/
theorem write_syscall_counted (h : c.Counted config) (hcompleted : event.completed = true) :
    Keeps (Context.Counted config) (Context.Short config) (write_syscall config env tracee event)
      c := by
  have hequal : c.event_count = c.calls_reported config := h
  unfold write_syscall Keeps
  rw [holds_bind, holds_modify]
  dsimp only
  rw [holds_ite]
  -- A call that is not selected is not counted.
  refine ⟨fun _ => h, fun hselected => ?_⟩
  rw [holds_bind, holds_modify, holds_ite]
  constructor
  -- With `-c` it is counted when the statistics have taken it.
  · intro hsummary
    have htotal : c.event_count = c.stats.total_calls := by
      rw [hequal]
      exact if_pos hsummary
    simp only [holds_bind, holds_context_ask, holds_get, holds_set, holds_ite, holds_throw,
      holds_pure]
    have hrecord : (sg_stats_record c.stats event (env.alloc c.asked)).2.total_calls =
        c.stats.total_calls + if (sg_stats_record c.stats event (env.alloc c.asked)).1 then 1 else 0 :=
      sg_stats_record_total c.stats (env.alloc c.asked)
    constructor
    -- They have refused it: the run fails with one call too many counted.
    · intro hrefused
      have hrefused : (sg_stats_record c.stats event (env.alloc c.asked)).1 = false := by
        simpa using hrefused
      rw [hrefused] at hrecord
      have hkept : (sg_stats_record c.stats event (env.alloc c.asked)).2.total_calls =
        c.stats.total_calls := hrecord
      unfold Context.Short Context.calls_reported
      simp only [hsummary, if_true, hkept]
      omega
    · intro hrecorded
      have hrecorded : (sg_stats_record c.stats event (env.alloc c.asked)).1 = true := by
        simpa using hrecorded
      rw [hrecorded, if_pos rfl] at hrecord
      unfold Context.Counted Context.calls_reported
      simp only [hsummary, if_true, hrecord]
      omega
  · intro hevents
    -- Otherwise it is counted before the lines in progress are ended.
    have hsummary : config.summary = false := by simpa using hevents
    let counted : Context := { c with
      records := c.records ++ [(tracee.tid, event)], event_count := c.event_count + 1 }
    have hreported : counted.calls_reported config = c.calls_reported config :=
      calls_reported_congr rfl rfl
    have hcount : counted.event_count = counted.calls_reported config + 1 := by
      rw [hreported, ← hequal]
    -- Until its own line is written there is one call too many.
    have hshort : ∀ {c' : Context}, c'.tally config = counted.tally config → c'.Short config :=
      Context.Short.congr ⟨by omega, by omega⟩
    apply keeps_bind_of (Q := fun _ c' => c'.tally config = counted.tally config)
    · exact (flush_unfinished_syscalls_tally tracee.tid counted).mono (fun _ _ htally => htally)
        fun _ _ => hshort
    · intro _ c₁ htally
      obtain ⟨hcount₁, hreported₁⟩ := Prod.mk.inj htally
      apply keeps_of_holds (emit_event_counts_one _)
      · intro _ c₂ hpost
        rcases hpost with ⟨hsums, hadded⟩
        have hone : c₂.calls_reported config = c₁.calls_reported config + 1 := by
          unfold Context.calls_reported
          simp only [hsummary, Bool.false_eq_true, if_false]
          rw [hadded hsummary]
          simp [Event.completed, syscall_event, hcompleted]
        unfold Context.Counted
        rw [hone, (Prod.mk.inj hsums).1, hcount₁, hreported₁, hcount]
      · exact fun _ c₂ hsame => hshort (hsame.trans htally)

/-- Events that are not about a call are not counted. -/
theorem write_stamped_counted (h : c.Counted config) {data : EventData}
    (hdata : ∀ call, data ≠ .syscall call) :
    Keeps (Context.Counted config) (Context.Short config) (write_stamped config env tracee data)
      c := by
  unfold write_stamped
  apply keeps_bind (keeps_counted h (flush_unfinished_syscalls_tally _))
  intro _ c₁ h₁
  apply keeps_bind (keeps_counted h₁ clock_gettime_tally)
  intro observed_at c₂ h₂
  have hnone : Event.completed ⟨tracee.tid, tracee.tgid, observed_at, data⟩ = none := by
    unfold Event.completed
    cases data with
    | syscall call => exact absurd rfl (hdata call)
    | _ => rfl
  apply keeps_of_holds (emit_event_counts_one _)
  · intro _ c₃ hpost
    rcases hpost with ⟨hsums, hadded⟩
    apply h₂.congr
    cases hsummary : config.summary with
    | true =>
      obtain ⟨hcount, hstats⟩ := Prod.mk.inj hsums
      unfold Context.tally Context.calls_reported
      rw [hcount, hstats, if_pos hsummary, if_pos hsummary]
    | false =>
      apply tally_of_sums hsums
      rw [hadded hsummary, hnone]
      exact List.append_nil _
  · exact fun _ _ htally => h₂.short.congr htally

/-! ### The calls of a task -/

/-- A step that neither counts nor reports. -/
theorem keeps_step {α : Type} {m : TraceM PUnit} {f : PUnit → TraceM α}
    (h : c.Counted config) (hm : Preserves m (Context.tally config))
    (hf : ∀ c', c'.Counted config → Keeps (Context.Counted config) (Context.Short config) (f ⟨⟩) c') :
    Keeps (Context.Counted config) (Context.Short config) (m >>= f) c :=
  keeps_bind (keeps_counted h hm) fun _ => hf

theorem store_tally (t : Tracee) : Preserves (store t) (Context.tally config) := fun _ => rfl

theorem sg_decoder_release_event_tally (event : SyscallEvent) :
    Preserves (sg_decoder_release_event event) (Context.tally config) := fun _ => rfl

/-- Texts may be freed. -/
theorem settle_interrupted_silent (t : Tracee) : Travels (settle_interrupted t) Silent := by
  unfold settle_interrupted
  apply travels_ite
  · apply travels_ite (travels_pure _)
    apply travels_ite
    · apply travels_bind
      · exact fun _ => ⟨rfl, rfl, le_rfl⟩
      · exact fun _ => travels_pure _
    · exact travels_pure _
  · exact travels_pure _

/-- **A call that ends without an exit stop.** -/
theorem end_call_counted (h : c.Counted config) {keep leave : Tracee → SyscallEvent → Tracee}
    (hcompleted : event.completed = true) :
    Keeps (Context.Counted config) (Context.Short config)
      (end_call config env tracee event keep leave) c := by
  unfold end_call
  apply keeps_step h (store_tally (keep tracee event))
  intro c₁ h₁
  apply keeps_bind (keeps_counted h₁ clock_gettime_tally)
  intro exited_at c₂ h₂
  let done : SyscallEvent := { event with exited_at := exited_at }
  have hdone : done.completed = true := hcompleted
  apply keeps_step h₂ (store_tally (keep tracee done))
  intro c₃ h₃
  apply keeps_bind (write_syscall_counted h₃ hdone)
  intro _ c₄ h₄
  apply keeps_bind (keeps_counted h₄ (sg_decoder_release_event_tally done))
  intro left c₅ h₅
  apply keeps_step h₅ (store_tally (leave tracee left))
  exact fun c₆ h₆ => keeps_pure _ h₆

theorem complete_exec_counted (h : c.Counted config) :
    Keeps (Context.Counted config) (Context.Short config) (complete_exec config env tracee) c := by
  rw [complete_exec_eq]
  exact end_call_counted h rfl

theorem make_call_tally (number : UInt64) (arguments : Vector UInt64 6) :
    Preserves (make_call config env tracee number arguments) (Context.tally config) := by
  unfold make_call
  dsimp only
  apply preserves_ite
  · apply preserves_bind clock_gettime_tally
    intro entered_at
    apply preserves_ite (preserves_pure _)
    unfold sg_decoder_capture_entry
    intro c
    rw [holds_bind, holds_context_ask]
    cases env.capture c.asked tracee.tid _ with
    | none => rfl
    | some captured => rfl
  · exact preserves_pure _

theorem begin_syscall_counted (h : c.Counted config) (number : UInt64)
    (arguments : Vector UInt64 6) :
    Keeps (Context.Counted config) (Context.Short config)
      (begin_syscall config env tracee number arguments) c := by
  unfold begin_syscall
  apply keeps_ite
  · exact fun _ => keeps_throw _ h.short
  · intro _
    apply keeps_bind (I := Context.Counted config)
    -- The call that `execve` has left behind is ended first.
    · unfold leave_pending
      apply keeps_ite
      · exact fun _ => keeps_ite (fun _ => complete_exec_counted h) fun _ => keeps_throw _ h.short
      · exact fun _ => keeps_pure _ h
    · intro mid c₁ h₁
      apply keeps_ite
      · intro _
        -- A restarted call.
        unfold restart_call
        apply keeps_step h₁ (flush_unfinished_syscalls_tally _)
        exact fun c₂ h₂ => keeps_counted h₂ (store_tally _)
      · intro _
        -- A new call: an interrupted one may have to be reported.
        apply keeps_bind (I := Context.Counted config)
        · rw [report_interrupted_eq]
          exact keeps_ite (fun _ => end_call_counted h₁ rfl) fun _ => keeps_pure _ h₁
        · intro mid' c₂ h₂
          unfold enter_call
          apply keeps_bind (keeps_counted h₂ (make_call_tally _ _))
          intro event c₃ h₃
          apply keeps_ite
          · intro _
            apply keeps_step h₃
            · exact preserves_onError (flush_unfinished_syscalls_tally _) fun _ => rfl
            · exact fun c₄ h₄ => keeps_counted h₄ (store_tally _)
          · exact fun _ => keeps_counted h₃ (store_tally _)

theorem finish_syscall_counted (h : c.Counted config) (rval : Int) (is_error : Bool) :
    Keeps (Context.Counted config) (Context.Short config)
      (finish_syscall config env tracee rval is_error) c := by
  unfold finish_syscall
  apply keeps_ite
  · exact fun _ => keeps_counted h (store_tally _)
  · intro _
    apply keeps_ite
    · intro _
      -- The kernel is going to restart the call.
      unfold interrupt_call
      apply keeps_ite
      · intro _
        apply keeps_bind (keeps_counted h (sg_decoder_release_event_tally _))
        exact fun _ c₁ h₁ => keeps_counted h₁ (store_tally _)
      · exact fun _ => keeps_counted h (store_tally _)
    · intro _
      unfold complete_call
      apply keeps_step h (store_tally _)
      intro c₁ h₁
      have hstamp : Preserves (stamp_exit config env { tracee.pending_syscall with
          result := rval, error_number := exit_error rval is_error }) (Context.tally config) := by
        unfold stamp_exit
        apply preserves_ite
        · exact preserves_bind clock_gettime_tally fun _ => preserves_pure _
        · exact preserves_pure _
      apply keeps_bind (keeps_counted h₁ hstamp)
      intro stamped c₂ h₂
      apply keeps_step h₂ (store_tally _)
      intro c₃ h₃
      apply keeps_bind (write_syscall_counted h₃ rfl)
      intro _ c₄ h₄
      apply keeps_bind (I := Context.Counted config)
      · exact keeps_of_holds (settle_interrupted_silent _ c₄) (fun _ _ hs => h₄.congr hs.tally)
          fun _ _ hs => h₄.short.congr hs.tally
      · intro settled c₅ h₅
        apply keeps_bind (keeps_counted h₅ (sg_decoder_release_event_tally _))
        exact fun _ c₆ h₆ => keeps_counted h₆ (store_tally _)

/-! ### Runs -/

/-- That the counter agrees with what has been reported is an invariant of calls and lines. -/
theorem counted_invariant (config : Config) (env : Env) :
    CallInvariant config env (Context.Counted config) (Context.Short config) where
  failed h := h.short
  rearranged h hre := h.congr hre.tally
  silent h hs := h.congr hs.tally
  stamped _ _ h hdata := write_stamped_counted h hdata
  entry number arguments h _ := begin_syscall_counted h number arguments
  exit rval is_error h _ := finish_syscall_counted h rval is_error
  exec h _ _ := complete_exec_counted h

theorem counted_init (config : Config) : Context.init.Counted config := by
  unfold Context.Counted Context.calls_reported
  split
  · rfl
  · rfl

/-- The harness, which has given the tracer the descriptor of a pipe, reads from the pipe how many
    calls the run has reported and how many ptrace requests it has made. -/
def Context.Measured (config : Config) (env : Env) (metrics_descriptor : Int) (c : Context) :
    Prop :=
  ∃ line, write_benchmark_metrics env (some (descriptor_text metrics_descriptor)) true c =
      .ok (some (metrics_descriptor, line)) ∧
    ∀ reads, Delivers reads line →
      parse_metrics reads = some (c.calls_reported config % 2 ^ 64, c.requests.length % 2 ^ 64)

theorem Context.Counted.measured (h : c.Counted config) {metrics_descriptor : Int}
    (hpos : 0 ≤ metrics_descriptor) (hmax : metrics_descriptor ≤ INT_MAX) :
    c.Measured config env metrics_descriptor := by
  refine ⟨metrics_line c.event_count c.requests.length, ?_, fun reads hreads => ?_⟩
  · have hread := strtol_descriptor hpos hmax
    have hne : descriptor_text metrics_descriptor ≠ [] := by
      intro hempty
      unfold descriptor_text signed at hempty
      split at hempty
      · simp at hempty
      · exact numeral_ne_nil (by omega) (by omega) hempty
    unfold write_benchmark_metrics
    dsimp only
    rw [if_neg hne, hread]
    dsimp only
    rw [if_neg]
    · rfl
    · simp only [Bool.false_eq_true, false_or, not_or]
      exact ⟨hne.symm, by simp, by omega, by omega⟩
  · rw [parse_written hreads, h]

/-- What the harness can rely on: a run that succeeds has counted exactly the calls that it has
    reported, and a run that fails has counted at most one call too many. -/
structure Measures (config : Config) (env : Env) (metrics_descriptor : Int)
    (run : TraceM (Option Int)) : Prop where
  success : succeeds run .init = true →
    (finalState run .init).Measured config env metrics_descriptor
  always : (finalState run .init).Short config

/-- **The harness measures what the run has done**: in launch and in attach mode, in every format,
    with `-c` and without, whatever is reported and in whatever pieces the pipe passes on the line. -/
theorem harness_measures (config : Config) (env : Env) {metrics_descriptor : Int}
    (hpos : 0 ≤ metrics_descriptor) (hmax : metrics_descriptor ≤ INT_MAX) :
    (∀ (answers : LaunchAnswers) (reports : List Report) (shutdown_signal : Int),
      Measures config env metrics_descriptor
        (sg_trace_run config env answers reports shutdown_signal)) ∧
    (∀ (attach_pid : Pid) (answers : AttachAnswers) (handlers : Bool) (reports : List Report)
        (shutdown_signal : Int) (detached : Pid → DetachAnswer),
      Measures config env metrics_descriptor
        (sg_trace_run_attached config env attach_pid answers handlers reports shutdown_signal
          detached)) := by
  have hinvariant := counted_invariant config env
  have hsilent : ∀ {c c' : Context}, c.Counted config → Silent c c' → c'.Counted config :=
    fun h hs => h.congr hs.tally
  have hmeasures : ∀ {run : TraceM (Option Int)},
      Keeps (Context.Counted config) (Context.Short config) run .init →
      Measures config env metrics_descriptor run :=
    fun h => ⟨fun hsucceeds => (h.at_success hsucceeds).measured hpos hmax,
      h.at_end fun _ hcounted => hcounted.short⟩
  constructor
  · intro answers reports shutdown_signal
    exact hmeasures (hinvariant.sg_trace_run_ends (counted_init config) id hsilent answers reports
      shutdown_signal)
  · intro attach_pid answers handlers reports shutdown_signal detached
    exact hmeasures (hinvariant.sg_trace_run_attached_ends (counted_init config) id hsilent
      Context.Counted.short answers handlers reports shutdown_signal detached)

/-- The command makes a call and exits. -/
def single_call_reports : List Report :=
  [entry_report 100 0, exit_report 100 12 false, ⟨.status 100 (.exited 0) (.plain none), 0⟩]

/-- The harness is given the line in two pieces. -/
theorem harness_measures_single_call :
    let run := sg_trace_run .following .reliable .plain single_call_reports 0
    let line := metrics_line 1 6
    Measures .following .reliable 7 run ∧ succeeds run .init = true ∧
      ((finalState run .init).event_count, (finalState run .init).requests.length) = (1, 6) ∧
      parse_metrics [.ready (line.take 9), .eintr, .ready (line.drop 9)] = some (1, 6) :=
  ⟨(harness_measures .following .reliable (by decide) (by decide)).1 .plain single_call_reports 0,
    by decide +kernel, by decide +kernel, by decide +kernel⟩

end counter

end Sysgaze
