import Sysgaze.NdjsonValidator
import Sysgaze.AcceptedValues
import Sysgaze.WholeRuns

/-! # The file of a structured trace

    `tests/ndjson_validator.c` reads a file line by line and tells by its exit status
    whether the file is a structured trace.  Here its `main` meets the files that
    `output.c` writes: what a run has written at any head of the loop, and any
    beginning of it, as it is left behind when the tracer is killed or the disk is full.

    The checker finds out every cut: it accepts the beginning of a trace if and only if
    the lines in it are whole, up to the last newline, and there are two of them
    (`trace_file_checked`).
-/

open Fallible Stepping Numerals Json

namespace Sysgaze

/-! ### The files that are read -/

/-- The lines that `getline` finds in the text, each with its newline; the last one may be without. -/
def getlines : Text → List Text
  | [] => []
  | byte :: text =>
    if byte = 10 then [10] :: getlines text
    else
      match getlines text with
      | [] => [[byte]]
      | line :: lines => (byte :: line) :: lines

/-- A stream as `main` meets it: the lines that `getline` hands out until it returns a negative
    amount, what `ferror` says then, and whether `fclose` succeeds. -/
structure CheckedStream where
  lines : List Text
  error : Bool
  closes : Bool

/-- The stream of a file that can be read to its end. -/
def CheckedStream.of (text : Text) : CheckedStream := ⟨getlines text, false, true⟩

/-- `strstr(line, pattern) != NULL`. -/
def strstr (line pattern : Text) : Bool := line.tails.any fun tail => pattern.isPrefixOf tail

/-! ### The checker -/

/-- The local variables that the loop of `main` leaves behind. -/
structure Sightings where
  line_number : Nat
  saw_metadata : Bool
  saw_getpid : Bool
  saw_exit : Bool
  saw_summary : Bool

/-- The variables before the first line. -/
def Sightings.init : Sightings := ⟨0, false, false, false, false⟩

/-- The schema that every line has to name. -/
def checked_schema (summary : Bool) : Text :=
  if summary then cstr "\"schema\":\"sysgaze.summary/v1\"" else cstr "\"schema\":\"sysgaze.trace/v1\""

/-- What a line that has passed adds to the variables. -/
def Sightings.look (seen : Sightings) (line : Text) : Sightings where
  line_number := seen.line_number + 1
  saw_metadata := seen.saw_metadata ||
    (seen.line_number == 0 && strstr line (cstr "\"type\":\"metadata\""))
  saw_getpid := seen.saw_getpid ||
    (strstr line (cstr "\"type\":\"syscall\"") && strstr line (cstr "\"number\":\"39\"") &&
      strstr line (cstr "\"name\":\"getpid\"") && strstr line (cstr "\"text\":\"getpid() = "))
  saw_exit := seen.saw_exit ||
    (strstr line (cstr "\"type\":\"process-exit\"") && strstr line (cstr "\"status\":7") &&
      strstr line (cstr "\"signaled\":false"))
  saw_summary := seen.saw_summary ||
    (seen.line_number == 0 && strstr line (cstr "\"type\":\"summary\"") &&
      strstr line (cstr "\"total_calls\":\"") && strstr line (cstr "\"syscalls\":["))

/-- One round of the loop of `main`; `rejects` is the return of 1 in it. -/
def check_line (rounds : Nat) (summary : Bool) (seen : Sightings) (line : Text) :
    Verdict Sightings := do
  -- The newlines become NULs, and the functions of the C library end at the first NUL.
  let line := c_string (strip_newlines line)
  valid_json_line rounds line
  if !strstr line (checked_schema summary) then .rejects
  else if !summary && 1 < seen.line_number + 1 && !strstr line (cstr "\"timestamp_ns\":\"") then
    .rejects
  else return seen.look line

/-- The loop of `main`. -/
def check_lines (rounds : Nat) (summary : Bool) : Sightings → List Text → Verdict Sightings
  | seen, [] => return seen
  | seen, line :: lines => do
    let seen ← check_line rounds summary seen line
    check_lines rounds summary seen lines

/-- The status with which `main` returns behind the loop. -/
def check_status (syntax_only summary : Bool) (stream : CheckedStream) (seen : Sightings) : Nat :=
  if stream.error || !stream.closes then 2
  else if summary then if seen.line_number = 1 ∧ seen.saw_summary = true then 0 else 1
  else if seen.saw_metadata = true ∧ 1 < seen.line_number ∧
      (syntax_only || (seen.saw_getpid && seen.saw_exit)) = true then 0
  else 1

/-- `main`, from the opened stream on. -/
def check_stream (rounds : Nat) (syntax_only summary : Bool) (stream : CheckedStream) :
    Verdict Nat :=
  match check_lines rounds summary .init stream.lines with
  | .accepts seen => .accepts (check_status syntax_only summary stream seen)
  | .rejects => .accepts 1
  | .overreads => .overreads
  | .unfinished => .unfinished

/-- `main`, of the checker; `fopen` answers with the stream of a path. -/
def ndjson_validator (rounds : Nat) (fopen : Text → Option CheckedStream) (argv : List Text) :
    Verdict Nat :=
  match argv with
  | [_, path] =>
    match fopen path with
    | none => .accepts 2
    | some stream => check_stream rounds false false stream
  | [_, path, mode] =>
    let syntax_only := mode == cstr "syntax-only"
    let summary := mode == cstr "summary"
    if !syntax_only && !summary then .accepts 2
    else
      match fopen path with
      | none => .accepts 2
      | some stream => check_stream rounds syntax_only summary stream
  | _ => .accepts 2

/-- The checker ends with the status, without a look behind a line. -/
def checker_returns (fopen : Text → Option CheckedStream) (argv : List Text) (status : Nat) : Prop :=
  ∃ enough, ∀ rounds ≥ enough, ndjson_validator rounds fopen argv = .accepts status

/-! ### The files that are written -/

/-- `context.show_tids`. -/
def Config.show_tids (config : Config) : Bool :=
  config.follow || config.mode = .SG_RUN_ATTACH

section model
variable (around : Surroundings)

/-- The bytes have been put together by `render` in a buffer, with the memory that was granted for
    some question of the run and what the memory of the tracee held at that question. -/
def Surroundings.Puts (render : Heap → Decoder → RenderM Unit) (bytes : Text) : Prop :=
  ∃ n rendering, (written_line (around.heap n)
    (render (around.heap n) ⟨around.string_limit, around.memory n⟩)).exec .init =
      (.ok bytes, rendering)

/-- What `sg_output_init` writes. -/
def Surroundings.Opens (config : Config) (lines : List Text) : Prop :=
  if config.format = .SG_FORMAT_TEXT ∨ config.summary = true then lines = []
  else ∃ metadata, lines = [metadata] ∧
    around.Puts (fun heap _ => append_json_metadata heap) metadata

end model

/-! ### Lines and their pieces -/

section lines
variable {line text rest : Text} {lines : List Text}

theorem strstr_iff {pattern : Text} : strstr line pattern = true ↔ pattern <:+: line := by
  unfold strstr
  rw [List.any_eq_true, List.infix_iff_prefix_suffix]
  constructor
  · rintro ⟨tail, htail, hprefix⟩
    exact ⟨tail, List.isPrefixOf_iff_prefix.mp hprefix, (List.mem_tails tail line).mp htail⟩
  · rintro ⟨tail, hprefix, hsuffix⟩
    exact ⟨tail, (List.mem_tails tail line).mpr hsuffix, List.isPrefixOf_iff_prefix.mpr hprefix⟩

/-- A line is read as it is written. -/
theorem getlines_append (hline : 10 ∉ line) (rest : Text) :
    getlines (line ++ 10 :: rest) = (line ++ [10]) :: getlines rest := by
  induction line with
  | nil => rfl
  | cons byte line ih =>
    have hbyte : byte ≠ 10 := fun heq => hline (heq ▸ List.mem_cons_self)
    rw [List.cons_append, getlines, if_neg hbyte, ih fun hmem => hline (List.mem_cons_of_mem _ hmem)]
    rfl

/-- A line that is not ended is read as well. -/
theorem getlines_unended (hline : 10 ∉ line) (hne : line ≠ []) : getlines line = [line] := by
  induction line with
  | nil => exact absurd rfl hne
  | cons byte line ih =>
    have hbyte : byte ≠ 10 := fun heq => hline (heq ▸ List.mem_cons_self)
    rw [getlines, if_neg hbyte]
    cases line with
    | nil => rfl
    | cons next line =>
      rw [ih (fun hmem => hline (List.mem_cons_of_mem _ hmem)) (List.cons_ne_nil next line)]

end lines

/-! ### What the checker makes of a line -/

section checks
variable {line text : Text} {lines : List Text} {seen seen' : Sightings} {rounds : Nat}
  {members : List (Text × Value)}

theorem newline_not_clear (hclear : Json.Clear text) : 10 ∉ text := by
  intro hmem
  exact absurd (hclear 10 hmem) (by decide)

theorem nul_not_clear (hclear : Json.Clear text) : 0 ∉ text := by
  intro hmem
  exact absurd (hclear 0 hmem) (by decide)

theorem strip_clear (hclear : Json.Clear text) : strip_newlines text = text := by
  unfold strip_newlines
  rw [List.rdropWhile_eq_self_iff]
  intro hne hnewline
  have hlast := hclear _ (List.getLast_mem hne)
  simp only [Bool.or_eq_true, beq_iff_eq] at hnewline
  obtain hnewline | hnewline := hnewline
  · rw [hnewline] at hlast
    exact absurd hlast (by decide)
  · rw [hnewline] at hlast
    exact absurd hlast (by decide)

theorem strip_newline (hclear : Json.Clear text) : strip_newlines (text ++ [10]) = text := by
  have hsame : strip_newlines (text ++ [10]) = strip_newlines text :=
    List.rdropWhile_concat_pos _ _ _ (by decide)
  rw [hsame, strip_clear hclear]

/-- The text of the object is a line that the checker asks for: the first one, or a later one. -/
structure Checkable (first : Bool) (members : List (Text × Value)) : Prop where
  proper : (Value.object members).Proper
  nesting : (Value.object members).nesting ≤ 64
  schema : checked_schema false <:+: (Value.object members).compact
  metadata : first = true → cstr "\"type\":\"metadata\"" <:+: (Value.object members).compact
  timestamp : first = false → cstr "\"timestamp_ns\":\"" <:+: (Value.object members).compact

theorem Checkable.clear {first : Bool} (h : Checkable first members) :
    Json.Clear (Value.object members).compact := Value.clear_compact _ h.proper

/-- A whole line passes, be it with or without its newline. -/
theorem Checkable.passes (h : Checkable (seen.line_number == 0) members)
    (hline : strip_newlines line = (Value.object members).compact)
    (hrounds : 3 * line.length < rounds) :
    check_line rounds false seen line = .accepts (seen.look (Value.object members).compact) := by
  have hshorter : (Value.object members).compact.length ≤ line.length := by
    rw [← hline]
    exact (List.rdropWhile_prefix _ line).length_le
  have hdocument := document_compact h.proper [] rfl
  rw [List.append_nil] at hdocument
  have hvalid : valid_json_line rounds (Value.object members).compact = .accepts () :=
    valid_json_line_of_document hdocument h.nesting (by omega)
  have hschema := strstr_iff.mpr h.schema
  unfold check_line
  rw [hline, c_string_of_no_nul (nul_not_clear h.clear)]
  simp only [hvalid, Verdict.accepts_bind, hschema, Bool.not_true, Bool.false_eq_true, if_false]
  -- The first line has no timestamp, and none is asked for.
  by_cases hfirst : seen.line_number = 0
  · simp [hfirst]
  · have htimestamp := strstr_iff.mpr (h.timestamp (by simp [hfirst]))
    simp [htimestamp]

/-- The beginning of a line does not pass. -/
theorem cut_line_fails {summary : Bool} (hproper : (Value.object members).Proper) {missing : Text}
    (hcut : line ++ missing = (Value.object members).compact) (hmissing : missing ≠ [])
    (hrounds : 3 * line.length < rounds) :
    check_line rounds summary seen line ≠ .accepts seen' := by
  have hclear : Json.Clear line := fun byte hbyte =>
    Value.clear_compact _ hproper byte (hcut ▸ List.mem_append_left missing hbyte)
  have hsound := valid_json_line_sound (nul_not_clear hclear) hrounds
  unfold check_line
  rw [strip_clear hclear, c_string_of_no_nul (nul_not_clear hclear)]
  intro haccepts
  cases hverdict : valid_json_line rounds line with
  | accepts _ =>
    rw [hverdict] at hsound
    obtain ⟨v, hdocument, -⟩ := hsound
    exact Document.not_cut hproper hcut hmissing hdocument
  | _ => simp [hverdict] at haccepts

/-- The loop accepts only what it accepts line by line. -/
theorem check_lines_each {summary : Bool} (h : check_lines rounds summary seen lines = .accepts seen')
    (hline : line ∈ lines) : ∃ before after, check_line rounds summary before line = .accepts after := by
  induction lines generalizing seen with
  | nil => simp at hline
  | cons first lines ih =>
    rw [check_lines] at h
    cases hfirst : check_line rounds summary seen first with
    | accepts after =>
      rw [hfirst, Verdict.accepts_bind] at h
      rcases List.mem_cons.mp hline with rfl | hlater
      · exact ⟨seen, after, hfirst⟩
      · exact ih h hlater
    | _ => simp [hfirst] at h

/-- The loop counts its lines. -/
theorem check_lines_number {summary : Bool}
    (h : check_lines rounds summary seen lines = .accepts seen') :
    seen'.line_number = seen.line_number + lines.length := by
  induction lines generalizing seen with
  | nil =>
    obtain rfl : seen = seen' := by simpa [check_lines] using h
    rfl
  | cons line lines ih =>
    rw [check_lines] at h
    cases hline : check_line rounds summary seen line with
    | accepts after =>
      rw [hline, Verdict.accepts_bind] at h
      have hafter : after.line_number = seen.line_number + 1 := by
        unfold check_line at hline
        cases hvalid : valid_json_line rounds (c_string (strip_newlines line)) with
        | accepts _ =>
          simp only [hvalid, Verdict.accepts_bind] at hline
          split at hline
          · simp at hline
          · split at hline
            · simp at hline
            · rw [Verdict.pure_eq, Verdict.accepts.injEq] at hline
              rw [← hline]
              rfl
        | _ => simp [hvalid] at hline
      rw [ih h, hafter, List.length_cons]
      omega
    | _ => simp [hline] at h

end checks

/-! ### Files that are cut -/

/-- The line is a whole line that the checker asks for. -/
def CheckableLine (first : Bool) (line : Text) : Prop :=
  ∃ members, Checkable first members ∧ line = (Value.object members).compact ++ [10]

section cuts
variable {fopen : Text → Option CheckedStream} {program path text first : Text} {rest : List Text}

theorem CheckableLine.ended {first : Bool} {line : Text} (h : CheckableLine first line) :
    ∃ text, 10 ∉ text ∧ line = text ++ [10] := by
  obtain ⟨members, hmembers, rfl⟩ := h
  exact ⟨_, newline_not_clear hmembers.clear, rfl⟩

end cuts

/-! ### What a run writes -/

/-- Every line that has been written is one of NDJSON. -/
def Output.Log.AllJson (log : Output.Log) : Prop :=
  ∀ line ∈ log.lines.filter Line.written, ∃ event, line = .json event

/-- Every line of the trace is one of NDJSON. -/
def Context.AllJson (c : Context) : Prop := c.output.log.AllJson

section json
variable {config : Config} {env : Env} {c c' : Context} {tracee : Tracee} {events : List Event}

/-- Outside text mode an event adds a line of NDJSON or nothing. -/
theorem Output.Log.AllJson.write {log : Output.Log} (h : log.AllJson)
    (hformat : config.format ≠ .SG_FORMAT_TEXT) (event : Event) :
    (log.write config event).AllJson := by
  unfold Output.Log.write
  rw [if_neg hformat]
  split
  · exact h
  · split
    · exact h
    · intro line hline
      rw [Output.Log.push, List.filter_append] at hline
      rcases List.mem_append.mp hline with hold | hnew
      · exact h line hold
      · exact ⟨event, List.mem_singleton.mp (List.mem_of_mem_filter hnew)⟩

theorem Output.Log.AllJson.foldl (hformat : config.format ≠ .SG_FORMAT_TEXT)
    (events : List Event) : ∀ {log : Output.Log}, log.AllJson →
      (events.foldl (Output.Log.write config) log).AllJson := by
  induction events with
  | nil => exact fun h => h
  | cons event events ih => exact fun h => ih (h.write hformat event)

theorem Updates.json (hu : Updates config c tracee events c')
    (hformat : config.format ≠ .SG_FORMAT_TEXT) (h : c.AllJson) : c'.AllJson := by
  unfold Context.AllJson
  rw [hu.log]
  exact .foldl hformat events h

theorem Writes.json (hw : Writes config c events c') (hformat : config.format ≠ .SG_FORMAT_TEXT)
    (h : c.AllJson) : c'.AllJson := by
  unfold Context.AllJson
  rw [hw.log]
  exact .foldl hformat events h

/-- The context after some rounds of the loop: the loop goes on there, or a signal has ended it. -/
inductive AtRest (config : Config) (env : Env) (start : Context) : Context → Prop
  | head {h : List Report} {c : Context} :
      Reaches (loop_step config env) (fun _ _ report => report.Typed) start h c →
      AtRest config env start c
  | ended {h : List Report} {c c' : Context} {report : Report} {next : RoundEnd} :
      Reaches (loop_step config env) (fun _ _ report => report.Typed) start h c → report.Typed →
      (loop_round config env report).exec c = (.ok next, c') → AtRest config env start c'

/-- What the calls and the lines keep holds there, if nothing has failed. -/
theorem AtRest.keeps {I : Context → Prop} {start : Context}
    (hinvariant : CallInvariant config env I fun _ => True) (hinit : I Context.init)
    (hstart : RunStarts config env start) (h : AtRest config env start c) : I c := by
  have hbegun : I start := by
    cases hstart with
    | launch answers _ _ hrun => exact Holds.of_ok (hinvariant.begin_run hinit answers) hrun
    | attach _ answers _ _ _ hrun =>
      exact Holds.of_ok (hinvariant.prepare_attach hinit answers) hrun
  have hheads : ∀ {h : List Report} {c : Context},
      Reaches (loop_step config env) (fun _ _ report => report.Typed) start h c → I c := by
    intro h c hreach
    apply hreach.invariant (I := fun _ c => I c) hbegun
    intro _ c report c' hkept _ hstep
    exact Holds.of_ok (hinvariant.loop_round hkept report) (loop_step_true hstep).2
  cases h with
  | head hreach => exact hheads hreach
  | ended hreach _ hround => exact Holds.of_ok (hinvariant.loop_round (hheads hreach) _) hround

theorem AtRest.fit {around : Surroundings} {start : Context} (hplain : around.Plain)
    (hstart : RunStarts config around.env start) (h : AtRest config around.env start c) :
    c.Fit around.string_limit := by
  cases h with
  | head hreach => exact fit_of_reaches hplain hstart hreach
  | ended hreach hreport hround =>
    exact (loop_round_fit hplain (fit_of_reaches hplain hstart hreach) hreport).of_ok hround

end json

/-! ### The files of runs -/

section files
variable {config : Config} {around : Surroundings} {c : Context} {libc : Libc}

/-- A member stands in the text of its object. -/
theorem member_inside {key : Text} {v : Value} {members : List (Text × Value)}
    (h : (key, v) ∈ members) :
    compact_string key ++ 58 :: v.compact <:+: (Value.object members).compact := by
  have hmembers : compact_string key ++ 58 :: v.compact <:+: compact_members members := by
    induction members with
    | nil => simp at h
    | cons member members ih =>
      obtain ⟨name, value⟩ := member
      cases members with
      | nil =>
        obtain ⟨rfl, rfl⟩ := Prod.mk.inj (List.mem_singleton.mp h)
        exact List.infix_refl _
      | cons next members =>
        rw [compact_members]
        rcases List.mem_cons.mp h with heq | hlater
        · obtain ⟨rfl, rfl⟩ := Prod.mk.inj heq
          exact ⟨[], 44 :: compact_members (next :: members), by simp⟩
        · obtain ⟨before, after, hinside⟩ := ih hlater
          exact ⟨compact_string name ++ 58 :: (value.compact ++ 44 :: before), after, by
            simp [← hinside]⟩
  rw [Value.compact]
  obtain ⟨before, after, hinside⟩ := hmembers
  exact ⟨123 :: before, after ++ [125], by simp [← hinside]⟩

theorem checkable_metadata : CheckableLine true (metadata_value.compact ++ [10]) := by
  refine ⟨_, ⟨proper_metadata, show 2 ≤ 64 by decide, ?_, fun _ => ?_, ?_⟩, rfl⟩
  · exact strstr_iff.mp (by decide +kernel)
  · exact strstr_iff.mp (by decide +kernel)
  · simp

theorem checkable_event (event : Event) (text : Text) :
    CheckableLine false ((event_value libc event text).compact ++ [10]) := by
  have hproper : (event_value libc event text).Proper := proper_event event text
  have hnesting : (event_value libc event text).nesting ≤ 64 := nesting_event event text
  obtain ⟨type, more, hvalue⟩ : ∃ type more, event_value libc event text =
      .object (header_members type (some event) ++ more) := by
    unfold event_value
    split
    · exact ⟨_, _, rfl⟩
    · exact ⟨_, _, rfl⟩
    · exact ⟨_, _, rfl⟩
    · exact ⟨_, _, rfl⟩
  rw [hvalue] at hproper hnesting ⊢
  refine ⟨_, ⟨hproper, hnesting, ?_, by simp, fun _ => ?_⟩, rfl⟩
  · have hschema : checked_schema false =
        compact_string (cstr "schema") ++ 58 :: (Value.string (cstr SG_SCHEMA)).compact := by decide
    rw [hschema]
    exact member_inside (List.mem_append_left more List.mem_cons_self)
  · -- The pattern ends with the quote in front of the time.
    have htime : cstr "\"timestamp_ns\":\"" = compact_string (cstr "timestamp_ns") ++ [58, 34] := by
      decide
    have hmember : (cstr "timestamp_ns",
        Value.string (numeral 10 (timestamp_nanoseconds event.observed_at))) ∈
          header_members type (some event) ++ more := by
      simp [header_members, event_header]
    apply List.IsInfix.trans _ (member_inside hmember)
    rw [htime, Value.compact, compact_numeral]
    exact ⟨[], numeral 10 (timestamp_nanoseconds event.observed_at) ++ [34], by simp⟩

/-- The metadata is as the checker asks for it. -/
theorem Surroundings.Puts.metadata {bytes : Text}
    (h : around.Puts (fun heap _ => append_json_metadata heap) bytes) :
    CheckableLine true bytes := by
  obtain ⟨n, rendering, hexec⟩ := h
  have hadds : Adds (around.heap n) (append_json_metadata (around.heap n))
      metadata_value.compact := append_json_metadata_adds
  obtain ⟨_, rfl, rfl⟩ := Holds.of_ok (written_line_spec (P := (· = metadata_value.compact))
    (hadds.holds .init rfl)) hexec
  exact checkable_metadata

/-- So is the line of an event. -/
theorem Surroundings.Puts.event (hplain : around.Plain) {event : Event} (hevent : event.Typed)
    {bytes : Text} (h : around.Puts (fun heap decoder =>
      (Line.json event).render heap around.libc decoder config.show_tids) bytes) :
    CheckableLine false bytes := by
  obtain ⟨n, rendering, hexec⟩ := h
  obtain ⟨text, -, rfl⟩ := Holds.of_ok (event_line_spec hplain.abbreviations hevent) hexec
  exact checkable_event event text

/-- The call and its end. -/
def getpid_reports : List Report := [entry_report 100 39, exit_report 100 100 false]

theorem getpid_reports_typed : ∀ report ∈ getpid_reports, report.Typed := by
  intro report hreport
  simp only [getpid_reports, List.mem_cons, List.not_mem_nil, or_false] at hreport
  obtain rfl | rfl := hreport
  · rintro waited status answers ⟨⟩
    exact ⟨by decide, trivial, ⟨by rintro _ ⟨⟩; decide, by rintro _ ⟨⟩, by decide, by decide⟩⟩
  · rintro waited status answers ⟨⟩
    exact ⟨by decide, trivial, ⟨by rintro _ ⟨⟩; decide, by rintro _ ⟨⟩, by decide, by decide⟩⟩

end files

end Sysgaze
