import Sysgaze.FilterParse
import Sysgaze.Output
import Sysgaze.Lib.Getopt

/-! # The command line (`cli.c`)

    `sg_cli_parse` reads the options with `getopt_long`, and looks for the `--`
    in front of the command with a scan of its own, `separator_index`.  The
    arguments are C strings; `command_argv` is the index of an argument.
-/

open Getopt

namespace Sysgaze

abbrev SG_DEFAULT_STRING_LIMIT : Nat := 32
abbrev SG_MAX_STRING_LIMIT : Nat := 1024 * 1024

abbrev OPT_FORMAT : Nat := 1000
abbrev OPT_SECCOMP_BPF : Nat := 1001
abbrev OPT_VERSION : Nat := 1002

/-- `struct sg_config`. -/
structure SgConfig extends Config where
  attach_pid : Pid
  command_argv : Option Nat
  output_path : Option Text
  string_limit : Nat

/-- `enum sg_cli_action`. -/
inductive CliAction where
  | SG_CLI_RUN
  | SG_CLI_HELP
  | SG_CLI_VERSION
  | SG_CLI_ERROR
  deriving DecidableEq, Repr

/-- The options that are passed to `getopt_long`. -/
def options : Table where
  short := short_of (cstr "p:fe:s:o:ch")
  long :=
    [⟨cstr "follow", false, 'f'.toNat⟩, ⟨cstr "format", true, OPT_FORMAT⟩,
      ⟨cstr "help", false, 'h'.toNat⟩, ⟨cstr "seccomp-bpf", false, OPT_SECCOMP_BPF⟩,
      ⟨cstr "version", false, OPT_VERSION⟩]

/-! ### Numbers -/

/-- `isspace`. -/
def isspace (byte : UInt8) : Bool := byte == 32 || 9 ≤ byte && byte ≤ 13

/-- `isdigit`. -/
def isdigit (byte : UInt8) : Bool := 48 ≤ byte && byte ≤ 57

/-- The number that decimal digits stand for. -/
def decimal (digits : Text) : Nat :=
  digits.foldl (fun number digit => number * 10 + (digit.toNat - 48)) 0

/-- A decimal number at the beginning of a text, after blanks: whether there is a minus sign,
    the digits, and what follows them. -/
def scan_number (text : Text) : Bool × Text × Text :=
  let text := text.dropWhile isspace
  let (negative, text) :=
    match text with
    | 45 :: text => (true, text)
    | 43 :: text => (false, text)
    | text => (false, text)
  (negative, text.takeWhile isdigit, text.dropWhile isdigit)

/-- `strtol` in base 10: the value, where the number ends, and whether `errno` is set. -/
def strtol (text : Text) : Int × Text × Bool :=
  let (negative, digits, rest) := scan_number text
  if digits = [] then (0, text, false)
  else
    let value : Int := if negative then -(decimal digits : Int) else decimal digits
    if value > 2 ^ 63 - 1 then (2 ^ 63 - 1, rest, true)
    else if value < -2 ^ 63 then (-2 ^ 63, rest, true)
    else (value, rest, false)

/-- `strtoumax` in base 10: the value, where the number ends, and whether `errno` is set. -/
def strtoumax (text : Text) : Nat × Text × Bool :=
  let (negative, digits, rest) := scan_number text
  if digits = [] then (0, text, false)
  else if decimal digits > 2 ^ 64 - 1 then (2 ^ 64 - 1, rest, true)
  else if negative then ((2 ^ 64 - decimal digits) % 2 ^ 64, rest, false)
  else (decimal digits, rest, false)

/-- `parse_pid`. -/
def parse_pid (text : Text) : Option Pid :=
  if text = [] then none
  else
    let (value, rest, failed) := strtol text
    if failed ∨ rest = text ∨ rest ≠ [] ∨ value ≤ 0 ∨ value > 2 ^ 31 - 1 then none else some value

/-- `parse_size_limit`. -/
def parse_size_limit (text : Text) : Option Nat :=
  if text = [] ∨ text.head? = some 45 then none
  else
    let (value, rest, failed) := strtoumax text
    if failed ∨ rest = text ∨ rest ≠ [] ∨ value > SG_MAX_STRING_LIMIT then none else some value

/-- `parse_format`. -/
def parse_format (text : Text) : Option OutputFormat :=
  if text = cstr "text" then some .SG_FORMAT_TEXT
  else if text = cstr "ndjson" then some .SG_FORMAT_NDJSON
  else if text = cstr "json" then some .SG_FORMAT_JSON
  else none

/-! ### The scan for the separator -/

/-- The options whose value `separator_index` steps over. -/
def listed : List Text := [cstr "-p", cstr "-e", cstr "-s", cstr "-o", cstr "--format"]

/-- The loop of `separator_index`, from the argument `index` on. -/
def separator_loop (index : Nat) : List Text → Int
  | [] => -1
  | arg :: args =>
    if arg = cstr "--" then index
    else if arg.head? ≠ some 45 then -1
    else if arg ∈ listed then
      match args with
      | [] => -1
      | _ :: args => separator_loop (index + 2) args
    else separator_loop (index + 1) args

/-- `separator_index`. -/
def separator_index (argv : List Text) : Int := separator_loop 1 argv.tail

/-! ### The options -/

/-- The texts of the errors of `sg_cli_parse`. -/
inductive CliError where
  | invalid_arguments
  | attach_twice
  | invalid_pid (text : Text)
  | filter_twice
  | invalid_limit (text : Text)
  | empty_path
  | unknown_format (text : Text)
  | invalid_option (optopt : Nat)
  | unknown_option (text : Text)
  | separator_with_attach
  | command_with_attach
  | no_separator
  | no_command
  | json_without_summary
  | ndjson_with_summary
  | seccomp_with_attach
  | seccomp_without_filter

@[inherit_doc CliError]
def CliError.text : CliError → Text
  | invalid_arguments => cstr "invalid CLI parser arguments"
  | attach_twice => cstr "-p may only be supplied once"
  | invalid_pid text => cstr "invalid PID '" ++ text ++ cstr "'"
  | filter_twice => cstr "-e trace=EXPR may only be supplied once"
  | invalid_limit text =>
    cstr "invalid string limit '" ++ text ++ cstr "' (maximum 1048576)"
  | empty_path => cstr "output path cannot be empty"
  | unknown_format text => cstr "unknown output format '" ++ text ++ cstr "'"
  | invalid_option optopt =>
    cstr "invalid option or missing value '-" ++ [UInt8.ofNat optopt] ++ cstr "'"
  | unknown_option text => cstr "unknown option '" ++ text ++ cstr "'"
  | separator_with_attach => cstr "'-- COMMAND' cannot be supplied with -p"
  | command_with_attach => cstr "a command cannot be supplied with -p"
  | no_separator => cstr "launch mode requires '-- COMMAND [ARG...]'"
  | no_command => cstr "no command supplied after '--'"
  | json_without_summary => cstr "--format=json is only valid with -c"
  | ndjson_with_summary => cstr "--format=ndjson cannot be used with -c; use text or json"
  | seccomp_with_attach => cstr "--seccomp-bpf is not available in attach mode"
  | seccomp_without_filter => cstr "--seccomp-bpf requires a non-empty syscall filter"

/-- What `sg_cli_parse` returns, and what it leaves in the configuration and in the buffer for
    the error. -/
structure CliResult where
  action : CliAction
  config : SgConfig
  error : Option Text

/-- The return with an error. -/
def cli_error (error_size : Nat) (config : SgConfig) (error : CliError) : CliResult :=
  ⟨.SG_CLI_ERROR, config, set_error error_size error.text⟩

/-- `config_init`. -/
def config_init : SgConfig where
  mode := .SG_RUN_LAUNCH
  format := .SG_FORMAT_TEXT
  follow := false
  summary := false
  seccomp_bpf := false
  filter := sg_filter_clear
  attach_pid := 0
  command_argv := none
  output_path := none
  string_limit := SG_DEFAULT_STRING_LIMIT

/-- The state of the loop over the options. -/
structure Parsed where
  config : SgConfig
  saw_attach : Bool
  saw_filter : Bool

/-- The body of the loop over the options; `optind` is where the next call begins. -/
def handle_option (argv : List Text) (error_size optind : Nat) (found : Found) (parsed : Parsed) :
    Except CliResult Parsed :=
  let config := parsed.config
  match found with
  | .option option value =>
    let optarg := value.getD []
    if option = 'p'.toNat then
      if parsed.saw_attach then .error (cli_error error_size config .attach_twice)
      else
        match parse_pid optarg with
        | none => .error (cli_error error_size config (.invalid_pid optarg))
        | some pid =>
          .ok { parsed with config := { config with attach_pid := pid }, saw_attach := true }
    else if option = 'f'.toNat then .ok { parsed with config := { config with follow := true } }
    else if option = 'e'.toNat then
      if parsed.saw_filter then .error (cli_error error_size config .filter_twice)
      else
        match sg_filter_parse config.filter (some optarg) error_size with
        | (false, filter, error) =>
          .error ⟨.SG_CLI_ERROR, { config with filter := filter }, error⟩
        | (true, filter, _) =>
          .ok { parsed with config := { config with filter := filter }, saw_filter := true }
    else if option = 's'.toNat then
      match parse_size_limit optarg with
      | none => .error (cli_error error_size config (.invalid_limit optarg))
      | some limit => .ok { parsed with config := { config with string_limit := limit } }
    else if option = 'o'.toNat then
      if optarg = [] then .error (cli_error error_size config .empty_path)
      else .ok { parsed with config := { config with output_path := some optarg } }
    else if option = 'c'.toNat then .ok { parsed with config := { config with summary := true } }
    else if option = 'h'.toNat then .error ⟨.SG_CLI_HELP, config, set_error error_size []⟩
    else if option = OPT_FORMAT then
      match parse_format optarg with
      | none => .error (cli_error error_size config (.unknown_format optarg))
      | some format => .ok { parsed with config := { config with format := format } }
    else if option = OPT_SECCOMP_BPF then
      .ok { parsed with config := { config with seccomp_bpf := true } }
    else if option = OPT_VERSION then .error ⟨.SG_CLI_VERSION, config, set_error error_size []⟩
    else .error (cli_error error_size config (.unknown_option (argv.getD (optind - 1) [])))
  | .unknown optopt =>
    .error (cli_error error_size config
      (if optopt ≠ 0 then .invalid_option optopt
      else .unknown_option (argv.getD (optind - 1) [])))

/-- The loop over the options: what has been parsed, and where the scan has stopped. -/
def option_loop (argv : List Text) (error_size : Nat) (cursor : Cursor) (parsed : Parsed) :
    Except CliResult (Parsed × Nat) :=
  match _h : getopt_long options argv cursor with
  | (none, next) => .ok (parsed, next.optind)
  | (some found, next) =>
    match handle_option argv error_size next.optind found parsed with
    | .error result => .error result
    | .ok parsed => option_loop argv error_size next parsed
termination_by cursor.left argv
decreasing_by exact getopt_long_left _h

/-- The checks of `validate_config` that do not look at the command. -/
def check_combinations (config : SgConfig) : Option CliError :=
  if config.format = .SG_FORMAT_JSON ∧ config.summary = false then some .json_without_summary
  else if config.format = .SG_FORMAT_NDJSON ∧ config.summary = true then
    some .ndjson_with_summary
  else if config.seccomp_bpf then
    if config.mode = .SG_RUN_ATTACH then some .seccomp_with_attach
    else if config.filter.active = false ∨ sg_filter_count config.filter = 0 then
      some .seccomp_without_filter
    else none
  else none

/-- The end of `validate_config`. -/
def finish_config (error_size : Nat) (config : SgConfig) : CliResult :=
  match check_combinations config with
  | some error => cli_error error_size config error
  | none => ⟨.SG_CLI_RUN, config, set_error error_size []⟩

/-- `validate_config`. -/
def validate_config (argv : List Text) (error_size : Nat) (config : SgConfig) (saw_attach : Bool)
    (separator : Int) (optind : Nat) : CliResult :=
  if saw_attach then
    let config : SgConfig := { config with mode := .SG_RUN_ATTACH }
    if separator ≥ 0 then cli_error error_size config .separator_with_attach
    else if optind ≠ argv.length then cli_error error_size config .command_with_attach
    else finish_config error_size config
  else if separator < 0 ∨ separator ≠ (optind : Int) - 1 then
    cli_error error_size config .no_separator
  else if optind ≥ argv.length then cli_error error_size config .no_command
  else finish_config error_size { config with command_argv := some optind }

/-- `sg_cli_parse`, for a configuration that is there. -/
def sg_cli_parse (argv : List Text) (config : SgConfig) (error_size : Nat) : CliResult :=
  if argv = [] then cli_error error_size config .invalid_arguments
  else
    match option_loop argv error_size ⟨1, []⟩ ⟨config_init, false, false⟩ with
    | .error result => result
    | .ok (parsed, optind) =>
      validate_config argv error_size parsed.config parsed.saw_attach (separator_index argv) optind

/-- `validate_runtime_options` of `trace.c`, the option check of `sg_trace_run`. -/
def validate_runtime_options (config : SgConfig) : Bool :=
  !(config.format == .SG_FORMAT_JSON && !config.summary)

/-- `main`: the configuration with which `sg_trace_run` is called, if it is; `config` is what the
    variable holds before. -/
def main_runs (argv : List Text) (config : SgConfig) : Option SgConfig :=
  let result := sg_cli_parse argv config 256
  match result.action with
  | .SG_CLI_RUN => some result.config
  | _ => none

/-! ### The loop makes a scan -/

section loop
variable {argv : List Text} {error_size : Nat}

/-- What the parser accepts has been found. -/
theorem handle_option_known {optind : Nat} {found : Found} {parsed parsed' : Parsed}
    (h : handle_option argv error_size optind found parsed = .ok parsed') : found.known := by
  cases found with
  | option _ _ => trivial
  | unknown _ => simp [handle_option] at h

/-- **The loop over the options** is a scan: what every option preserves holds at its end. -/
theorem option_loop_run {I : List Found → Parsed → Prop}
    (hoption : ∀ before found optind parsed parsed', I before parsed →
      handle_option argv error_size optind found parsed = .ok parsed' →
      I (before ++ [found]) parsed')
    {parsed' : Parsed} {optind : Nat} (cursor : Cursor) :
    ∀ (before : List Found) (parsed : Parsed), I before parsed →
      option_loop argv error_size cursor parsed = .ok (parsed', optind) →
      ∃ founds last, Scans options argv cursor founds last ∧
        optind = (getopt_long options argv last).2.optind ∧
        (∀ found ∈ founds, found.known) ∧ I (before ++ founds) parsed' := by
  induction hleft : cursor.left argv using Nat.strong_induction_on generalizing cursor with
  | _ left ih =>
    intro before parsed hbefore hloop
    unfold option_loop at hloop
    split at hloop
    · rename_i next hcall
      obtain ⟨rfl, rfl⟩ := Prod.mk.inj (Except.ok.inj hloop)
      exact ⟨[], cursor, .stop (by rw [hcall]), by rw [hcall], by simp, by simpa using hbefore⟩
    · rename_i found next hcall
      split at hloop
      · simp at hloop
      · rename_i parsed₁ hhandle
        have hless : next.left argv < left := hleft ▸ getopt_long_left hcall
        obtain ⟨founds, last, hscan, hlast, hknown, hend⟩ := ih _ hless next rfl (before ++ [found])
          parsed₁ (hoption _ _ _ _ _ hbefore hhandle) hloop
        refine ⟨found :: founds, last, .found hcall hscan, hlast, ?_, by simpa using hend⟩
        intro other hother
        obtain rfl | hother := List.mem_cons.mp hother
        · exact handle_option_known hhandle
        · exact hknown other hother

/-- A return from inside the loop is no permission to run. -/
theorem handle_option_error {optind : Nat} {found : Found} {parsed : Parsed} {result : CliResult}
    (h : handle_option argv error_size optind found parsed = .error result) :
    result.action ≠ .SG_CLI_RUN := by
  cases found with
  | unknown optopt =>
    unfold handle_option at h
    rw [← Except.error.inj h]
    exact CliAction.noConfusion
  | option option value =>
    unfold handle_option at h
    dsimp only at h
    -- `-p`, `-e`, `-s`, `-o` and `--format` may be refused; the rest are accepted or end the run.
    split at h
    · split at h
      · cases h
        simp [cli_error]
      · split at h
        · cases h
          simp [cli_error]
        · cases h
    split at h
    · cases h
    split at h
    · split at h
      · cases h
        simp [cli_error]
      · split at h
        · cases h
          simp
        · cases h
    split at h
    · split at h
      · cases h
        simp [cli_error]
      · cases h
    split at h
    · split at h
      · cases h
        simp [cli_error]
      · cases h
    split at h
    · cases h
    split at h
    · cases h
      simp
    split at h
    · split at h
      · cases h
        simp [cli_error]
      · cases h
    split at h
    · cases h
    split at h
    · cases h
      simp
    · cases h
      simp [cli_error]

theorem option_loop_error {result : CliResult} (cursor : Cursor) :
    ∀ parsed : Parsed, option_loop argv error_size cursor parsed = .error result →
      result.action ≠ .SG_CLI_RUN := by
  induction hleft : cursor.left argv using Nat.strong_induction_on generalizing cursor with
  | _ left ih =>
    intro parsed hloop
    unfold option_loop at hloop
    split at hloop
    · simp at hloop
    · rename_i found next hcall
      split at hloop
      · rename_i hhandle
        rw [← Except.error.inj hloop]
        exact handle_option_error hhandle
      · exact ih _ (hleft ▸ getopt_long_left hcall) next rfl _ hloop

end loop

end Sysgaze
