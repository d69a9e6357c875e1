import Sysgaze.CommandLine

/-! # The configurations that are accepted

    Options come in any order and any number of times.  `Sound` is what the
    loop over them keeps, and `runnable_of_run`: a configuration that
    `sg_cli_parse` gives out to be run passes every check, with the values that
    the options have left in it at the end.
-/

open Getopt

namespace Sysgaze

/-- The values of the options `-e`, in their order. -/
def filter_values (founds : List Found) : List Text :=
  founds.filterMap fun found =>
    match found with
    | .option option value => if option = 'e'.toNat then some (value.getD []) else none
    | .unknown _ => none

/-- The filter is what the one `-e` stands for, or nothing is filtered. -/
def FilterGiven (founds : List Found) (filter : Filter) : Prop :=
  filter_values founds = [] ∧ filter = sg_filter_clear ∨
    ∃ value, filter_values founds = [value] ∧
      ∀ before error_size, sg_filter_parse before (some value) error_size = (true, filter, none)

/-- **A configuration that the tracer can run**; `founds` are the options on the command line. -/
structure SgConfig.Runnable (argv : List Text) (founds : List Found) (config : SgConfig) : Prop where
  attach : config.mode = .SG_RUN_ATTACH → 1 ≤ config.attach_pid ∧ config.attach_pid ≤ 2 ^ 31 - 1 ∧
    config.command_argv = none ∧ config.seccomp_bpf = false
  launch : config.mode = .SG_RUN_LAUNCH →
    ∃ index, config.command_argv = some index ∧ index < argv.length
  json : config.format = .SG_FORMAT_JSON → config.summary = true
  ndjson : config.format = .SG_FORMAT_NDJSON → config.summary = false
  seccomp : config.seccomp_bpf = true → config.filter.active = true ∧
    ∃ number, sg_filter_contains config.filter number = true
  string_limit : config.string_limit ≤ SG_MAX_STRING_LIMIT
  output_path : config.output_path ≠ some []
  filter : FilterGiven founds config.filter

/-! ### What the loop keeps -/

/-- The invariant of the loop over the options. -/
structure Sound (founds : List Found) (parsed : Parsed) : Prop where
  mode : parsed.config.mode = .SG_RUN_LAUNCH
  command_argv : parsed.config.command_argv = none
  attach_pid : parsed.saw_attach = true →
    1 ≤ parsed.config.attach_pid ∧ parsed.config.attach_pid ≤ 2 ^ 31 - 1
  string_limit : parsed.config.string_limit ≤ SG_MAX_STRING_LIMIT
  output_path : parsed.config.output_path ≠ some []
  filter : FilterGiven founds parsed.config.filter
  saw_filter : parsed.saw_filter = false → filter_values founds = []

section loop
variable {argv : List Text} {error_size optind : Nat} {founds : List Found} {found : Found}
  {parsed parsed' : Parsed} {config : SgConfig}

theorem parse_pid_range {text : Text} {pid : Pid} (h : parse_pid text = some pid) :
    1 ≤ pid ∧ pid ≤ 2 ^ 31 - 1 := by
  unfold parse_pid at h
  split at h
  · simp at h
  · dsimp only at h
    split at h
    · simp at h
    · rename_i hvalid
      simp only [not_or] at hvalid
      rw [← Option.some.inj h]
      exact ⟨Int.not_le.mp hvalid.2.2.2.1, Int.not_lt.mp hvalid.2.2.2.2⟩

theorem parse_size_limit_le {text : Text} {limit : Nat} (h : parse_size_limit text = some limit) :
    limit ≤ SG_MAX_STRING_LIMIT := by
  unfold parse_size_limit at h
  split at h
  · simp at h
  · dsimp only at h
    split at h
    · simp at h
    · rename_i hvalid
      simp only [not_or, not_lt] at hvalid
      rw [← Option.some.inj h]
      exact hvalid.2.2.2

theorem filter_values_append (founds more : List Found) :
    filter_values (founds ++ more) = filter_values founds ++ filter_values more :=
  List.filterMap_append

/-- Any option but `-e` leaves the values of `-e` alone. -/
theorem filter_values_other {option : Nat} {value : Option Word} (h : option ≠ 'e'.toNat) :
    filter_values (founds ++ [.option option value]) = filter_values founds := by
  rw [filter_values_append]
  simp only [filter_values, List.filterMap_cons, if_neg h, List.filterMap_nil, List.append_nil]

/-- **One option** keeps the invariant. -/
theorem Sound.handle_option (h : Sound founds parsed)
    (hhandle : handle_option argv error_size optind found parsed = .ok parsed') :
    Sound (founds ++ [found]) parsed' := by
  cases found with
  | unknown optopt => simp [Sysgaze.handle_option] at hhandle
  | option option value =>
    -- Every option but `-e` changes a field that the filter does not depend on.
    have hfilter : option ≠ 'e'.toNat →
        FilterGiven (founds ++ [.option option value]) parsed.config.filter ∧
          (parsed.saw_filter = false → filter_values (founds ++ [.option option value]) = []) := by
      intro hne
      unfold FilterGiven
      rw [filter_values_other hne]
      exact ⟨h.filter, h.saw_filter⟩
    unfold Sysgaze.handle_option at hhandle
    dsimp only at hhandle
    split at hhandle
    · rename_i hp
      obtain ⟨hgiven, hsaw⟩ := hfilter (by rw [hp]; decide)
      split at hhandle
      · simp at hhandle
      · split at hhandle
        · simp at hhandle
        · rename_i pid hpid
          cases hhandle
          exact ⟨h.mode, h.command_argv, fun _ => parse_pid_range hpid, h.string_limit, h.output_path,
            hgiven, hsaw⟩
    split at hhandle
    · rename_i hf
      obtain ⟨hgiven, hsaw⟩ := hfilter (by rw [hf]; decide)
      cases hhandle
      exact ⟨h.mode, h.command_argv, h.attach_pid, h.string_limit, h.output_path, hgiven, hsaw⟩
    split at hhandle
    · rename_i he
      split at hhandle
      · simp at hhandle
      · rename_i hfirst
        have hvalues : filter_values (founds ++ [.option option value]) = [value.getD []] := by
          rw [filter_values_append, h.saw_filter (by simpa using hfirst)]
          simp [filter_values, he]
        split at hhandle
        · simp at hhandle
        · rename_i filter error hparse
          cases hhandle
          refine ⟨h.mode, h.command_argv, h.attach_pid, h.string_limit, h.output_path,
            Or.inr ⟨_, hvalues, ?_⟩, by simp⟩
          intro before error_size
          unfold sg_filter_parse at hparse ⊢
          cases hspec : parse_spec (some (value.getD [])) with
          | error error => simp [hspec] at hparse
          | ok candidate =>
            simp only [hspec, Prod.mk.injEq, true_and] at hparse
            rw [← hparse.1]
    rename_i he
    obtain ⟨hgiven, hsaw⟩ := hfilter he
    split at hhandle
    · split at hhandle
      · simp at hhandle
      · rename_i limit hlimit
        cases hhandle
        exact ⟨h.mode, h.command_argv, h.attach_pid, parse_size_limit_le hlimit, h.output_path, hgiven,
          hsaw⟩
    split at hhandle
    · split at hhandle
      · simp at hhandle
      · rename_i hpath
        cases hhandle
        exact ⟨h.mode, h.command_argv, h.attach_pid, h.string_limit,
          fun heq => hpath (Option.some.inj heq), hgiven, hsaw⟩
    split at hhandle
    · cases hhandle
      exact ⟨h.mode, h.command_argv, h.attach_pid, h.string_limit, h.output_path, hgiven, hsaw⟩
    split at hhandle
    · simp at hhandle
    split at hhandle
    · split at hhandle
      · simp at hhandle
      · cases hhandle
        exact ⟨h.mode, h.command_argv, h.attach_pid, h.string_limit, h.output_path, hgiven, hsaw⟩
    split at hhandle
    · cases hhandle
      exact ⟨h.mode, h.command_argv, h.attach_pid, h.string_limit, h.output_path, hgiven, hsaw⟩
    split at hhandle
    · simp at hhandle
    · simp at hhandle

theorem sound_init : Sound [] ⟨config_init, false, false⟩ :=
  ⟨rfl, rfl, by simp, by decide, by simp [config_init], Or.inl ⟨rfl, rfl⟩, fun _ => rfl⟩

/-! ### The checks at the end -/

/-- The combinations that `validate_config` lets through. -/
theorem check_combinations_none (h : check_combinations config = none) :
    (config.format = .SG_FORMAT_JSON → config.summary = true) ∧
      (config.format = .SG_FORMAT_NDJSON → config.summary = false) ∧
      (config.seccomp_bpf = true → config.mode ≠ .SG_RUN_ATTACH ∧ config.filter.active = true ∧
        sg_filter_count config.filter ≠ 0) := by
  unfold check_combinations at h
  split at h
  · simp at h
  · rename_i hjson
    split at h
    · simp at h
    · rename_i hndjson
      refine ⟨fun hformat => ?_, fun hformat => ?_, fun hseccomp => ?_⟩
      · simpa [hformat] using hjson
      · simpa [hformat] using hndjson
      · rw [if_pos hseccomp] at h
        split at h
        · simp at h
        · rename_i hmode
          split at h
          · simp at h
          · rename_i hfilter
            simpa [hmode] using hfilter

/-- A filter that is not empty selects a number. -/
theorem exists_selected {filter : Filter} (h : sg_filter_count filter ≠ 0) :
    ∃ number, sg_filter_contains filter number = true := by
  rw [sg_filter_count_eq, ← Nat.pos_iff_ne_zero, List.countP_pos_iff] at h
  obtain ⟨number, -, hnumber⟩ := h
  exact ⟨number, hnumber⟩

/-- The end of `validate_config` passes its configuration on. -/
theorem finish_config_run (h : (finish_config error_size config).action = .SG_CLI_RUN) :
    check_combinations config = none ∧ (finish_config error_size config).config = config := by
  unfold finish_config at h ⊢
  cases hcheck : check_combinations config with
  | none => exact ⟨rfl, rfl⟩
  | some error =>
    rw [hcheck] at h
    simp [cli_error] at h

/-- The configurations that `validate_config` gives out. -/
theorem Sound.validated (h : Sound founds parsed) {separator : Int}
    (hrun : (validate_config argv error_size parsed.config parsed.saw_attach separator optind).action =
      .SG_CLI_RUN) :
    (validate_config argv error_size parsed.config parsed.saw_attach separator optind).config.Runnable
      argv founds := by
  unfold validate_config at hrun ⊢
  split at hrun
  · rename_i hattach
    dsimp only at hrun
    split at hrun
    · simp [cli_error] at hrun
    · rename_i hseparator
      split at hrun
      · simp [cli_error] at hrun
      · rename_i hend
        obtain ⟨hcheck, hconfig⟩ := finish_config_run hrun
        obtain ⟨hjson, hndjson, hseccomp⟩ := check_combinations_none hcheck
        simp only [hattach, if_true, if_neg hseparator, if_neg hend, hconfig]
        refine ⟨fun _ => ?_, by simp, hjson, hndjson, fun hs => ?_, h.string_limit, h.output_path,
          h.filter⟩
        · obtain ⟨hlow, hhigh⟩ := h.attach_pid hattach
          refine ⟨hlow, hhigh, h.command_argv, ?_⟩
          by_contra hs
          exact (hseccomp (by simpa using hs)).1 rfl
        · exact ((hseccomp hs).1 rfl).elim
  · rename_i hattach
    split at hrun
    · simp [cli_error] at hrun
    · rename_i hseparator
      split at hrun
      · simp [cli_error] at hrun
      · rename_i hend
        obtain ⟨hcheck, hconfig⟩ := finish_config_run hrun
        obtain ⟨hjson, hndjson, hseccomp⟩ := check_combinations_none hcheck
        simp only [hattach, Bool.false_eq_true, if_false, if_neg hseparator, if_neg hend, hconfig]
        refine ⟨fun hmode => ?_, fun _ => ⟨optind, rfl, not_le.mp hend⟩, hjson, hndjson,
          fun hs => ⟨(hseccomp hs).2.1, exists_selected (hseccomp hs).2.2⟩, h.string_limit,
          h.output_path, h.filter⟩
        exact absurd (h.mode.symm.trans hmode) (by decide)

end loop

/-- The configurations that are given out to be run. -/
theorem runnable_of_run {argv : List Text} {config : SgConfig} {error_size : Nat}
    (hrun : (sg_cli_parse argv config error_size).action = .SG_CLI_RUN) :
    ∃ founds last, Scans options argv ⟨1, []⟩ founds last ∧
      (sg_cli_parse argv config error_size).config.Runnable argv founds := by
  unfold sg_cli_parse at hrun ⊢
  split at hrun
  · simp [cli_error] at hrun
  · rename_i hargv
    rw [if_neg hargv]
    cases hloop : option_loop argv error_size ⟨1, []⟩ ⟨config_init, false, false⟩ with
    | error result =>
      simp only [hloop] at hrun
      exact absurd hrun (option_loop_error _ _ hloop)
    | ok last =>
      obtain ⟨parsed, optind⟩ := last
      simp only [hloop] at hrun
      obtain ⟨founds, last, hscan, -, -, hsound⟩ := option_loop_run (I := Sound)
        (fun _ _ _ _ _ h hhandle => h.handle_option hhandle) ⟨1, []⟩ [] _ sound_init hloop
      exact ⟨founds, last, hscan, hsound.validated hrun⟩

/-- A configuration that can be run passes the check of `sg_trace_run`. -/
theorem SgConfig.Runnable.validated {argv : List Text} {founds : List Found} {config : SgConfig}
    (h : config.Runnable argv founds) : validate_runtime_options config = true := by
  unfold validate_runtime_options
  cases hformat : config.format with
  | SG_FORMAT_JSON => simp [h.json hformat]
  | _ => rfl

/-- **Accepted configurations.**  What `sg_cli_parse` gives out to be run can be run; `main` calls
    `sg_trace_run` with nothing else, and its own check lets every such configuration through. -/
theorem accepted_runnable (argv : List Text) (config : SgConfig) :
    (∀ error_size, (sg_cli_parse argv config error_size).action = .SG_CLI_RUN →
        ∃ founds last, Scans options argv ⟨1, []⟩ founds last ∧
          (sg_cli_parse argv config error_size).config.Runnable argv founds) ∧
      ∀ passed, main_runs argv config = some passed →
        (∃ founds last, Scans options argv ⟨1, []⟩ founds last ∧ passed.Runnable argv founds) ∧
          validate_runtime_options passed = true := by
  refine ⟨fun _ hrun => runnable_of_run hrun, fun passed hpassed => ?_⟩
  unfold main_runs at hpassed
  dsimp only at hpassed
  split at hpassed
  · rename_i hrun
    obtain ⟨founds, last, hscan, hrunnable⟩ := runnable_of_run hrun
    rw [← Option.some.inj hpassed]
    exact ⟨⟨founds, last, hscan, hrunnable⟩, hrunnable.validated⟩
  · simp at hpassed

/-- A seccomp filter, two output files and a limit behind `-f`. -/
def busy_command : List Text :=
  [cstr "sysgaze", cstr "-o", cstr "a", cstr "-fs8", cstr "--seccomp-bpf", cstr "-etrace=read",
    cstr "-o", cstr "b", cstr "--", cstr "ls"]

/-- The command line is accepted. -/
theorem accepted_runnable_busy : ∃ passed, main_runs busy_command config_init = some passed ∧
    (∃ founds last, Scans options busy_command ⟨1, []⟩ founds last ∧
      passed.Runnable busy_command founds) ∧ validate_runtime_options passed = true := by
  have hsome : (main_runs busy_command config_init).isSome = true := by decide +kernel
  obtain ⟨passed, hpassed⟩ := Option.isSome_iff_exists.mp hsome
  exact ⟨passed, hpassed, (accepted_runnable busy_command config_init).2 passed hpassed⟩

end Sysgaze
