import Sysgaze.Summary
import Sysgaze.Timeline
import Sysgaze.TraceFiles

/-! # The file of a summary

    With `-c` a run writes nothing until it is over, and then one summary
    (`sg_output_write_summary`).  In a structured format this is one line.

    `summary_file_checked`: the statistics of a run are those of the calls that it has
    recorded, whatever the order of the stops; the file is that line alone; a reader gets
    the statistics back from it; and the checker accepts the file and refuses what is left
    of it when more than its newline is missing.
-/

open Fallible Stepping Numerals Json

namespace Sysgaze

/-- `sg_output_write_summary`; `write_text_summary` is what it does in text mode. -/
def sg_output_write_summary (config : Config) (heap : Heap)
    (write_text_summary : Stats → Bool → RenderM Text) (qsort : Qsort)
    (percent : SyscallStat → Text) (stats : Stats) (granted : Bool) : RenderM (Option Text) :=
  if !config.summary then pure none
  else if config.format = .SG_FORMAT_TEXT then some <$> write_text_summary stats granted
  else some <$> write_json_summary heap qsort percent stats granted

/-! ### The statistics of a run -/

/-- The calls of a record have the numbers of calls. -/
def Tracee.Numbered (tracee : Tracee) : Prop := ∀ call, tracee.Has call → IsLong call.number

/-- Nothing has been written, and the statistics are those of the recorded calls. -/
structure Context.Summarized (config : Config) (c : Context) : Prop where
  written : c.written = []
  aggregates : Aggregates (c.reported config) c.stats
  countable : Countable (c.reported config)
  records : ∀ record ∈ c.records, IsLong record.2.number
  tracees : ∀ tid tracee, c.tracees.lookup tid = some tracee → tracee.Numbered

/-- The program keeps that, as long as it does not fail. -/
abbrev Summarizes (config : Config) {α : Type} (m : TraceM α) (c : Context) : Prop :=
  Keeps (Context.Summarized config) (fun _ => True) m c

section summaries
variable {config : Config} {env : Env} {c c' : Context} {tracee : Tracee} {event : SyscallEvent}

/-- An allocation that is refused and not needed makes no difference. -/
theorem sg_stats_record_granted {stats : Stats} {granted : Bool}
    (h : (sg_stats_record stats event granted).1 = true) :
    sg_stats_record stats event true = sg_stats_record stats event granted := by
  cases granted with
  | true => rfl
  | false =>
    -- A row that can be added without memory can be added with it.
    have hadd : ∀ {stats : Stats} {number : Int} {added : Nat × Stats},
        add_row stats number false = some added → add_row stats number true = some added := by
      intro stats number added
      unfold add_row
      dsimp only
      split
      · simp
      · exact fun h => h
    unfold sg_stats_record at h ⊢
    cases hcompleted : event.completed with
    | false => simp [hcompleted] at h
    | true =>
      cases helapsed : elapsed_nanoseconds event with
      | none => simp [helapsed] at h
      | some nanoseconds =>
        simp only [hcompleted, helapsed] at h ⊢
        split
        · rfl
        · rename_i hroom
          rw [if_neg hroom] at h
          cases hfound : find_row stats event.number with
          | some index => rfl
          | none =>
            simp only [hfound] at h ⊢
            cases hadded : add_row stats event.number false with
            | none => simp [hadded] at h
            | some added => rw [hadd hadded]

theorem Context.Summarized.same (h : c.Summarized config) (hwritten : c'.written = c.written)
    (hstats : c'.stats = c.stats) (hrecords : c'.records = c.records)
    (htracees : c'.tracees = c.tracees) : c'.Summarized config := by
  have hreported : c'.reported config = c.reported config := by
    unfold Context.reported
    rw [hrecords]
  refine ⟨hwritten.trans h.written, ?_, hreported ▸ h.countable, hrecords ▸ h.records,
    htracees ▸ h.tracees⟩
  rw [hreported, hstats]
  exact h.aggregates

theorem Context.Summarized.store {t : Tracee} (h : c.Summarized config) (ht : t.Numbered) :
    ({ c with tracees := c.tracees.write t } : Context).Summarized config := by
  refine ⟨h.written, h.aggregates, h.countable, h.records, fun other tracee hold => ?_⟩
  rw [Tracees.lookup_write] at hold
  split at hold
  · rw [← Option.some.inj hold]
    exact ht
  · exact h.tracees other tracee hold

theorem Context.Summarized.rearranged (h : c.Summarized config) (hre : Rearranged c c') :
    c'.Summarized config := by
  have hledger := hre.ledger
  unfold Context.ledger at hledger
  injection hledger with hstats _ _ hrecords _
  have hreported : c'.reported config = c.reported config := by
    unfold Context.reported
    rw [hrecords]
  refine ⟨hre.written.trans h.written, ?_, hreported ▸ h.countable, hrecords ▸ h.records, ?_⟩
  · rw [hreported, hstats]
    exact h.aggregates
  · intro tid tracee hold
    obtain hidle | ⟨former, old, hformer, hsame⟩ := hre.calls tid tracee hold
    · intro call hhas
      unfold Tracee.Has at hhas
      rw [hidle] at hhas
      simp [Calls.idle] at hhas
    · intro call hhas
      unfold Tracee.Has at hhas
      rw [hsame] at hhas
      exact h.tracees former old hformer call hhas

theorem clock_gettime_summarizes (h : c.Summarized config) :
    Summarizes config (clock_gettime env) c := by
  unfold clock_gettime Summarizes Keeps
  rw [holds_bind, holds_context_ask]
  cases env.clock c.asked with
  | none => trivial
  | some now => exact h.same rfl rfl rfl rfl

/-- **A call that is recorded** goes into the statistics, if it is selected. -/
theorem write_syscall_summarizes (hsummary : config.summary = true) (h : c.Summarized config)
    (hnumber : IsLong event.number) :
    Summarizes config (write_syscall config env tracee event) c := by
  have hrecords : ∀ record ∈ c.records ++ [(tracee.tid, event)], IsLong record.2.number := by
    intro record hrecord
    rcases List.mem_append.mp hrecord with hold | hnew
    · exact h.records record hold
    · rw [List.mem_singleton.mp hnew]
      exact hnumber
  have hreported : ∀ c' : Context, c'.records = c.records ++ [(tracee.tid, event)] →
      c'.reported config = c.reported config ++ report (selected config) event :=
    fun c' hc => Context.reported_append hc
  unfold write_syscall Summarizes Keeps
  rw [holds_bind, holds_modify]
  dsimp only
  rw [holds_ite]
  constructor
  · intro hhidden
    -- The call is not selected, and the statistics do not see it.
    have hnone : report (selected config) event = [] := by
      unfold report
      exact if_neg (by simpa using hhidden)
    refine ⟨h.written, ?_, ?_, hrecords, h.tracees⟩
    · rw [hreported _ rfl, hnone, List.append_nil]
      exact h.aggregates
    · rw [hreported _ rfl, hnone, List.append_nil]
      exact h.countable
  · intro hselected
    -- It is selected, and is recorded or the run fails.
    have hone : report (selected config) event = [event] := by
      unfold report
      exact if_pos (by simpa using hselected)
    rw [holds_bind, holds_modify, if_pos hsummary]
    simp only [holds_bind, holds_context_ask, holds_get, holds_set, holds_ite, holds_throw,
      holds_pure]
    refine ⟨fun _ => trivial, fun hrecorded => ?_⟩
    have hrecorded : (sg_stats_record c.stats event (env.alloc c.asked)).1 = true := by
      simpa using hrecorded
    have hgranted := sg_stats_record_granted hrecorded
    have hcountable := countable_of_recorded h.aggregates h.countable (hgranted ▸ hrecorded)
    obtain ⟨stats', hstats, haggregates⟩ := record_spec h.aggregates hcountable
    have hafter : (sg_stats_record c.stats event (env.alloc c.asked)).2 = stats' := by
      rw [← hgranted, hstats]
    refine ⟨h.written, ?_, ?_, hrecords, h.tracees⟩
    · rw [hreported _ rfl, hone, hafter]
      exact haggregates
    · rw [hreported _ rfl, hone]
      exact hcountable

/-- An event that is not about a call is dropped. -/
theorem write_stamped_summarizes (hsummary : config.summary = true) (h : c.Summarized config)
    (data : EventData) : Summarizes config (write_stamped config env tracee data) c := by
  unfold write_stamped flush_unfinished_syscalls
  rw [if_pos hsummary, pure_bind]
  apply keeps_bind (clock_gettime_summarizes h)
  intro observed_at c₁ h₁
  unfold emit_event sg_output_write_event
  rw [if_pos hsummary]
  exact h₁.same rfl rfl rfl rfl

/-! ### The calls of a task -/

theorem Tracee.Numbered.pending (h : tracee.Numbered) {call : SyscallEvent}
    (hcall : IsLong call.number) {flag : Bool} {phase : TraceePhase} :
    ({ tracee with
      pending_syscall := call
      has_pending_syscall := flag
      phase := phase } : Tracee).Numbered := by
  intro other hhas
  rw [Tracee.has_iff] at hhas
  obtain ⟨_, rfl⟩ | ⟨hflag, rfl⟩ := hhas
  · exact hcall
  · exact h _ (Tracee.has_interrupted hflag)

theorem Tracee.Numbered.interrupt (h : tracee.Numbered) {call : SyscallEvent}
    (hcall : IsLong call.number) {flag ready : Bool} :
    ({ tracee with
      interrupted_syscall := call
      has_interrupted_syscall := flag
      interrupted_restart_ready := ready } : Tracee).Numbered := by
  intro other hhas
  rw [Tracee.has_iff] at hhas
  obtain ⟨hflag, rfl⟩ | ⟨_, rfl⟩ := hhas
  · exact h _ (Tracee.has_pending hflag)
  · exact hcall

/-- **A call that ends without an exit stop.** -/
theorem end_call_summarizes (hsummary : config.summary = true) (h : c.Summarized config)
    {keep leave : Tracee → SyscallEvent → Tracee} (hnumber : IsLong event.number)
    (hkeep : ∀ call : SyscallEvent, IsLong call.number → (keep tracee call).Numbered)
    (hleave : ∀ call : SyscallEvent, IsLong call.number → (leave tracee call).Numbered) :
    Summarizes config (end_call config env tracee event keep leave) c := by
  unfold end_call Summarizes Keeps
  rw [holds_bind, holds_store]
  apply keeps_bind (clock_gettime_summarizes (h.store (hkeep event hnumber)))
  intro exited_at c₁ h₁
  unfold Keeps
  dsimp only
  rw [holds_bind, holds_store]
  have hdone : IsLong ({ event with exited_at := exited_at } : SyscallEvent).number := hnumber
  apply keeps_bind (write_syscall_summarizes hsummary (h₁.store (hkeep _ hdone)) hdone)
  intro _ c₂ h₂
  unfold Keeps
  simp only [holds_bind, holds_release, holds_store, holds_pure]
  exact (h₂.same rfl rfl rfl rfl : (c₂.release _).Summarized config).store (hleave _ hnumber)

theorem complete_exec_summarizes (hsummary : config.summary = true) (h : c.Summarized config)
    (hold : c.tracees.lookup tracee.tid = some tracee)
    (hpending : tracee.has_pending_syscall = true) :
    Summarizes config (complete_exec config env tracee) c := by
  have hown := h.tracees _ _ hold
  have hlong : IsLong tracee.pending_syscall.number := hown _ (Tracee.has_pending hpending)
  rw [complete_exec_eq]
  exact end_call_summarizes hsummary h hlong
    (fun _ hcall => hown.pending hcall) fun _ hcall => hown.pending hcall

theorem report_interrupted_summarizes (hsummary : config.summary = true) (h : c.Summarized config)
    (hold : c.tracees.lookup tracee.tid = some tracee) :
    Summarizes config (report_interrupted config env tracee) c := by
  have hown := h.tracees _ _ hold
  rw [report_interrupted_eq]
  apply keeps_ite
  · intro hready
    have hinterrupted : tracee.has_interrupted_syscall = true := by
      simp only [Bool.and_eq_true] at hready
      exact hready.1
    have hlong : IsLong tracee.interrupted_syscall.number :=
      hown _ (Tracee.has_interrupted hinterrupted)
    exact end_call_summarizes hsummary h hlong
      (fun _ hcall => hown.interrupt hcall) fun _ hcall => hown.interrupt hcall
  · exact fun _ => keeps_pure _ h

theorem leave_pending_summarizes (hsummary : config.summary = true) (h : c.Summarized config)
    (hold : c.tracees.lookup tracee.tid = some tracee) :
    Summarizes config (leave_pending config env tracee) c := by
  unfold leave_pending
  apply keeps_ite
  · intro hpending
    exact keeps_ite (fun _ => complete_exec_summarizes hsummary h hold hpending)
      fun _ => keeps_throw _ trivial
  · exact fun _ => keeps_pure _ h

/-- A new call has the number of its entry; nothing is captured. -/
theorem make_call_summarizes (hsummary : config.summary = true) (h : c.Summarized config)
    {number : UInt64} (hnumber : ¬number.toNat > LONG_MAX) (arguments : Vector UInt64 6) :
    Holds (make_call config env tracee number arguments) c
      (fun event c' => IsLong event.number ∧ c'.Summarized config) (fun _ _ => True) := by
  have hlong : IsLong (SyscallEvent.entered number arguments).number := by
    have hmax : LONG_MAX = 2 ^ 63 - 1 := rfl
    show -2 ^ 63 ≤ (number.toNat : Int) ∧ (number.toNat : Int) < 2 ^ 63
    omega
  unfold make_call
  dsimp only
  rw [holds_ite]
  constructor
  · intro _
    rw [holds_bind]
    apply Holds.mono (clock_gettime_summarizes h)
    · intro entered_at c₁ h₁
      rw [if_pos hsummary]
      exact ⟨hlong, h₁⟩
    · exact fun _ _ _ => trivial
  · exact fun _ => ⟨hlong, h⟩

/-- **Entries** keep the statistics. -/
theorem begin_syscall_summarizes (hsummary : config.summary = true) (h : c.Summarized config)
    (hold : c.tracees.lookup tracee.tid = some tracee) (number : UInt64)
    (arguments : Vector UInt64 6) :
    Summarizes config (begin_syscall config env tracee number arguments) c := by
  have hflush : ∀ tid, flush_unfinished_syscalls config env tid = pure () :=
    fun tid => if_pos hsummary
  unfold begin_syscall
  apply keeps_ite
  -- The number is not one of a call.
  · exact fun _ => keeps_throw _ trivial
  · intro hnumber
    unfold Keeps
    rw [holds_bind]
    apply ((leave_pending_spec hold).and (leave_pending_summarizes hsummary h hold)).mono
    · intro mid c₁ hpost
      rcases hpost with ⟨hmid, h₁⟩
      have hold₁ : c₁.tracees.lookup mid.tid = some mid := by
        obtain ⟨-, rfl, rfl⟩ | ⟨-, -, exited_at, events, -, -, hu⟩ := hmid
        · exact hold
        · exact hu.lookup_self
      rw [holds_ite]
      constructor
      · intro hrestarts
        -- A restarted call: the interrupted one is pending again.
        unfold Tracee.restarts at hrestarts
        simp only [Bool.and_eq_true] at hrestarts
        have hinterrupted := h₁.tracees _ _ hold₁ _ (Tracee.has_interrupted hrestarts.1.1)
        unfold restart_call
        rw [hflush, pure_bind, holds_store]
        apply h₁.store
        intro call hhas
        rw [Tracee.has_iff] at hhas
        obtain ⟨_, rfl⟩ | ⟨hflag, _⟩ := hhas
        · exact hinterrupted
        · simp at hflag
      · intro _
        -- A new call: an interrupted one that was ready to restart is reported first.
        rw [holds_bind]
        apply ((report_interrupted_spec hold₁).and
          (report_interrupted_summarizes hsummary h₁ hold₁)).mono
        · intro new c₂ hpost
          rcases hpost with ⟨hnew, h₂⟩
          have hold₂ : c₂.tracees.lookup new.tid = some new := by
            obtain ⟨-, rfl, rfl⟩ | ⟨-, exited_at, events, -, -, hu⟩ := hnew
            · exact hold₁
            · exact hu.lookup_self
          unfold enter_call
          rw [holds_bind]
          apply (make_call_summarizes hsummary h₂ hnumber arguments).mono
          · intro event c₃ hpost
            rcases hpost with ⟨hlong, h₃⟩
            have hentered : ({ c₃ with tracees := c₃.tracees.write (new.entered event) } :
                Context).Summarized config := h₃.store ((h₂.tracees _ _ hold₂).pending hlong)
            rw [hflush]
            -- Whether other lines would be ended makes no difference.
            dsimp only
            split
            · exact hentered
            · exact hentered
          · exact fun _ _ _ => trivial
        · exact fun _ _ _ => trivial
    · exact fun _ _ _ => trivial

/-- **A call with an exit stop.** -/
theorem complete_call_summarizes (hsummary : config.summary = true) (h : c.Summarized config)
    (hold : c.tracees.lookup tracee.tid = some tracee)
    (hpending : tracee.has_pending_syscall = true) (rval : Int) (is_error : Bool) :
    Summarizes config (complete_call config env tracee rval is_error) c := by
  have hown := h.tracees _ _ hold
  have hlong : IsLong tracee.pending_syscall.number := hown _ (Tracee.has_pending hpending)
  let event : SyscallEvent := { tracee.pending_syscall with
    result := rval, error_number := exit_error rval is_error }
  let stored : Context :=
    { c with tracees := c.tracees.write { tracee with pending_syscall := event } }
  have hkept : ∀ call : SyscallEvent, IsLong call.number →
      ({ tracee with pending_syscall := call } : Tracee).Numbered :=
    fun _ hcall => hown.pending hcall
  have h₀ : stored.Summarized config := h.store (hkept event hlong)
  -- Whether it gets an exit time or not, the call keeps its number.
  have hstamp : Holds (stamp_exit config env event) stored
      (fun stamped c' => c'.Summarized config ∧ stamped.number = event.number)
      (fun _ _ => True) := by
    unfold stamp_exit
    rw [holds_ite]
    constructor
    · intro _
      rw [holds_bind]
      apply Holds.mono (clock_gettime_summarizes h₀)
      · exact fun exited_at c₁ h₁ => ⟨h₁, rfl⟩
      · exact fun _ _ _ => trivial
    · exact fun _ => ⟨h₀, rfl⟩
  unfold complete_call Summarizes Keeps
  rw [holds_bind, holds_store]
  apply keeps_bind_of hstamp
  intro stamped c₁ hpost
  rcases hpost with ⟨h₁, hnumber⟩
  let done : SyscallEvent := { stamped with completed := true }
  let record : Tracee := { tracee with pending_syscall := done }
  have hdone : IsLong done.number := by
    show IsLong stamped.number
    rw [hnumber]
    exact hlong
  have hrecord : record.Numbered := hkept done hdone
  unfold Keeps
  dsimp only
  rw [holds_bind, holds_store, holds_bind]
  have hwritten : Summarizes config (write_syscall config env record done)
      { c₁ with tracees := c₁.tracees.write record } :=
    write_syscall_summarizes hsummary (h₁.store hrecord) hdone
  apply Holds.mono hwritten
  · intro _ c₂ h₂
    have hsettled : Holds (settle_interrupted record) c₂
        (fun settled c' => settled = record.settled ∧ c'.Summarized config) (fun _ _ => True) := by
      unfold settle_interrupted Tracee.settled
      split
      · split
        · exact ⟨rfl, h₂⟩
        · split
          · exact ⟨rfl, h₂.same rfl rfl rfl rfl⟩
          · exact ⟨rfl, h₂.same rfl rfl rfl rfl⟩
      · exact ⟨rfl, h₂⟩
    rw [holds_bind]
    apply hsettled.mono
    · intro settled c₃ hpost
      obtain ⟨rfl, h₃⟩ := hpost
      simp only [holds_bind, holds_release, holds_store]
      apply (h₃.same rfl rfl rfl rfl : (c₃.release done).Summarized config).store
      -- The call is no longer pending; the interrupted one may have settled.
      intro call hhas
      rw [Tracee.has_iff] at hhas
      obtain ⟨hflag, _⟩ | ⟨hflag, rfl⟩ := hhas
      · simp at hflag
      · exact hrecord _ (Tracee.settled_has (Tracee.has_interrupted hflag))
    · exact fun _ _ _ => trivial
  · exact fun _ _ _ => trivial

/-- **Exits** keep the statistics. -/
theorem finish_syscall_summarizes (hsummary : config.summary = true) (h : c.Summarized config)
    (hold : c.tracees.lookup tracee.tid = some tracee) (rval : Int) (is_error : Bool) :
    Summarizes config (finish_syscall config env tracee rval is_error) c := by
  have hown := h.tracees _ _ hold
  unfold finish_syscall
  apply keeps_ite
  · intro _
    -- An exit without an entry only stops the task.
    exact h.store fun call hhas => hown call hhas
  · intro hpending
    have hpending : tracee.has_pending_syscall = true := by simpa using hpending
    have hnumber := hown _ (Tracee.has_pending hpending)
    apply keeps_ite
    · intro _
      -- The kernel is going to restart the call.
      have hinterrupted : tracee.interrupted.Numbered := by
        intro call hhas
        rw [Tracee.has_iff] at hhas
        obtain ⟨hflag, _⟩ | ⟨_, rfl⟩ := hhas
        · simp [Tracee.interrupted] at hflag
        · exact hnumber
      unfold interrupt_call Keeps
      split
      · simp only [holds_bind, holds_release, holds_store]
        exact (h.same rfl rfl rfl rfl : (c.release _).Summarized config).store hinterrupted
      · exact h.store hinterrupted
    · intro _
      exact complete_call_summarizes hsummary h hold hpending rval is_error

/-- With `-c`, that is an invariant of calls and lines. -/
theorem summary_invariant (hsummary : config.summary = true) :
    CallInvariant config env (Context.Summarized config) (fun _ => True) where
  failed _ := trivial
  rearranged h hre := h.rearranged hre
  silent _ _ := trivial
  stamped _ data h _ := write_stamped_summarizes hsummary h data
  entry number arguments h hold := begin_syscall_summarizes hsummary h hold number arguments
  exit rval is_error h hold := finish_syscall_summarizes hsummary h hold rval is_error
  exec h hold hpending := complete_exec_summarizes hsummary h hold hpending

theorem summary_init : Context.init.Summarized config := by
  refine ⟨rfl, aggregates_nil, countable_nil, by simp [Context.init], fun tid tracee hold => ?_⟩
  rw [show Context.init.tracees.lookup tid = none from Tracees.count_eq_zero.mp rfl tid] at hold
  simp at hold

/-- The rows and the totals of such statistics have the types of C. -/
theorem Context.Summarized.typed (h : c.Summarized config) : c.stats.Typed := by
  have hmax : UINT64_MAX = 2 ^ 64 - 1 := rfl
  have hcalls := h.countable.calls
  have hnanoseconds := h.countable.nanoseconds
  have hfailed : (c.reported config).countP SyscallEvent.failed ≤ (c.reported config).length :=
    List.countP_le_length
  refine ⟨?_, ?_, ?_, ?_⟩
  · intro row hrow
    rw [h.aggregates.rows] at hrow
    obtain ⟨number, hnumber, rfl⟩ := List.mem_map.mp hrow
    obtain ⟨event, hevent, hsame⟩ := mem_numbers.mp hnumber
    obtain ⟨record, hrecord, rfl⟩ := List.mem_map.mp (List.mem_of_mem_filter hevent)
    have hlong : IsLong number := hsame ▸ h.records record hrecord
    obtain ⟨hrow_calls, hrow_errors, hrow_nanoseconds⟩ := @tally_le (c.reported config) number
    exact ⟨hlong, by omega, by omega, by omega⟩
  · rw [h.aggregates.total_calls]
    omega
  · rw [h.aggregates.total_errors]
    omega
  · rw [h.aggregates.total_nanoseconds]
    omega

end summaries

/-! ### The checker and a summary -/

section checks
variable {fopen : Text → Option CheckedStream} {program path text line : Text} {rounds : Nat}
  {members : List (Text × Value)}

/-- The text of the object is the line that the checker asks for. -/
structure CheckableSummary (members : List (Text × Value)) : Prop where
  proper : (Value.object members).Proper
  nesting : (Value.object members).nesting ≤ 64
  schema : checked_schema true <:+: (Value.object members).compact
  type : cstr "\"type\":\"summary\"" <:+: (Value.object members).compact
  calls : cstr "\"total_calls\":\"" <:+: (Value.object members).compact
  syscalls : cstr "\"syscalls\":[" <:+: (Value.object members).compact

theorem checkable_summary (percent : SyscallStat → Text) (stats : Stats) (rows : List SyscallStat) :
    ∃ members, CheckableSummary members ∧ summary_value percent stats rows = .object members := by
  have hproper : (summary_value percent stats rows).Proper := proper_summary percent stats rows
  have hnesting : (summary_value percent stats rows).nesting ≤ 64 :=
    nesting_summary percent stats rows
  obtain ⟨members, hvalue, hschema, htype, hcalls, hsyscalls⟩ : ∃ members,
      summary_value percent stats rows = .object members ∧
      (cstr "schema", Value.string (cstr "sysgaze.summary/v1")) ∈ members ∧
      (cstr "type", Value.string (cstr "summary")) ∈ members ∧
      (cstr "total_calls", Value.string (numeral 10 stats.total_calls)) ∈ members ∧
      (cstr "syscalls", Value.array (rows.map (row_value percent))) ∈ members :=
    ⟨_, rfl, by simp, by simp, by simp, by simp⟩
  rw [hvalue] at hproper hnesting
  refine ⟨members, ⟨hproper, hnesting, ?_, ?_, ?_, ?_⟩, hvalue⟩
  · have hpattern : checked_schema true = compact_string (cstr "schema") ++
        58 :: (Value.string (cstr "sysgaze.summary/v1")).compact := by decide
    rw [hpattern]
    exact member_inside hschema
  · have hpattern : cstr "\"type\":\"summary\"" = compact_string (cstr "type") ++
        58 :: (Value.string (cstr "summary")).compact := by decide
    rw [hpattern]
    exact member_inside htype
  · -- The pattern ends with the quote in front of the number.
    have hpattern : cstr "\"total_calls\":\"" =
        compact_string (cstr "total_calls") ++ [58, 34] := by decide
    apply List.IsInfix.trans _ (member_inside hcalls)
    rw [hpattern, Value.compact, compact_numeral]
    exact ⟨[], numeral 10 stats.total_calls ++ [34], by simp⟩
  · -- This one ends with the bracket in front of the rows.
    have hpattern : cstr "\"syscalls\":[" =
        compact_string (cstr "syscalls") ++ [58, 91] := by decide
    apply List.IsInfix.trans _ (member_inside hsyscalls)
    rw [hpattern, Value.compact]
    exact ⟨[], compact_items (rows.map (row_value percent)) ++ [93], by simp⟩

theorem CheckableSummary.clear (h : CheckableSummary members) :
    Json.Clear (Value.object members).compact := Value.clear_compact _ h.proper

/-- A whole line passes, be it with or without its newline. -/
theorem CheckableSummary.passes (h : CheckableSummary members)
    (hline : strip_newlines line = (Value.object members).compact)
    (hrounds : 3 * line.length < rounds) :
    check_line rounds true .init line =
      .accepts (Sightings.init.look (Value.object members).compact) := by
  have hshorter : (Value.object members).compact.length ≤ line.length := by
    rw [← hline]
    exact (List.rdropWhile_prefix _ line).length_le
  have hdocument := document_compact h.proper [] rfl
  rw [List.append_nil] at hdocument
  have hvalid : valid_json_line rounds (Value.object members).compact = .accepts () :=
    valid_json_line_of_document hdocument h.nesting (by omega)
  have hschema := strstr_iff.mpr h.schema
  unfold check_line
  rw [hline, c_string_of_no_nul (nul_not_clear h.clear)]
  simp [hvalid, hschema]

theorem summary_returns (hopen : fopen path = some (.of text)) (rounds : Nat) :
    ndjson_validator rounds fopen [program, path, cstr "summary"] =
      check_stream rounds false true (.of text) := by
  have hmodes : (cstr "summary" == cstr "syntax-only") = false := by decide
  simp [ndjson_validator, hopen, hmodes]

/-- The status is 0 if and only if there is one line, and it passes as a summary. -/
theorem summary_zero (hopen : fopen path = some (.of text)) (rounds : Nat) :
    ndjson_validator rounds fopen [program, path, cstr "summary"] = .accepts 0 ↔
      ∃ seen, check_lines rounds true .init (getlines text) = .accepts seen ∧
        seen.line_number = 1 ∧ seen.saw_summary = true := by
  rw [summary_returns hopen, check_stream]
  show _ ↔ ∃ seen, check_lines rounds true .init (getlines text) = .accepts seen ∧ _
  rw [show (CheckedStream.of text).lines = getlines text from rfl]
  cases check_lines rounds true .init (getlines text) with
  | accepts seen => simp [check_status, CheckedStream.of]
  | _ => simp

/-- **Cut summaries**: the checker accepts the beginning of the file if and only if nothing but the
    newline is missing. -/
theorem summary_cut (h : CheckableSummary members)
    (hline : (Value.object members).compact ++ [10] = line) {cut : Nat}
    (hopen : fopen path = some (.of (line.take cut))) :
    checker_returns fopen [program, path, cstr "summary"] 0 ↔ line.length ≤ cut + 1 := by
  have hlength : line.length = (Value.object members).compact.length + 1 := by simp [← hline]
  constructor
  · rintro ⟨enough, hreturns⟩
    -- Something of the object is missing: then there is no line, or one that fails.
    by_contra hshort
    have htake : line.take cut = (Value.object members).compact.take cut := by
      rw [← hline]
      exact List.take_append_of_le_length (by omega)
    have hsplit : line.take cut ++ (Value.object members).compact.drop cut =
        (Value.object members).compact := by
      rw [htake, List.take_append_drop]
    have hclear : Json.Clear (line.take cut) := fun byte hbyte =>
      h.clear byte (hsplit ▸ List.mem_append_left _ hbyte)
    have hmissing : (Value.object members).compact.drop cut ≠ [] := by
      rw [ne_eq, List.drop_eq_nil_iff]
      omega
    obtain ⟨seen, hseen, hone, -⟩ := (summary_zero hopen _).mp
      (hreturns (enough + (3 * (line.take cut).length + 1)) (Nat.le_add_right _ _))
    by_cases hnone : line.take cut = []
    · have hnumber := check_lines_number hseen
      rw [hnone] at hnumber
      simp [getlines, Sightings.init] at hnumber
      omega
    · rw [getlines_unended (newline_not_clear hclear) hnone] at hseen
      obtain ⟨before, after, hpasses⟩ := check_lines_each hseen List.mem_cons_self
      exact absurd hpasses (cut_line_fails h.proper hsplit hmissing (by omega))
  · intro hlong
    -- The line is there, with its newline or without.
    have hread : ∃ whole, getlines (line.take cut) = [whole] ∧
        whole.length ≤ line.length ∧ strip_newlines whole = (Value.object members).compact := by
      by_cases hwhole : line.length ≤ cut
      · rw [List.take_of_length_le hwhole]
        refine ⟨line, ?_, le_rfl, ?_⟩
        · rw [← hline, getlines_append (newline_not_clear h.clear), getlines]
        · rw [← hline, strip_newline h.clear]
      · have htake : line.take cut = (Value.object members).compact := by
          rw [← hline, show cut = (Value.object members).compact.length by omega, List.take_left]
        rw [htake]
        refine ⟨_, getlines_unended (newline_not_clear h.clear) ?_, by omega, strip_clear h.clear⟩
        rw [Value.compact]
        exact List.cons_ne_nil _ _
    obtain ⟨whole, hread, hshorter, hstrip⟩ := hread
    refine ⟨3 * line.length + 1, fun rounds hrounds => (summary_zero hopen rounds).mpr ?_⟩
    have hpasses := h.passes hstrip (show 3 * whole.length < rounds by omega)
    refine ⟨Sightings.init.look (Value.object members).compact, ?_, rfl, ?_⟩
    · rw [hread, check_lines, hpasses, Verdict.accepts_bind]
      rfl
    · simp [Sightings.look, Sightings.init, strstr_iff.mpr h.type, strstr_iff.mpr h.calls,
        strstr_iff.mpr h.syscalls]

end checks

/-! ### The file of a run -/

section files
variable {config : Config} {env : Env} {start c : Context} {heap : Heap} {qsort : Qsort}
  {percent : SyscallStat → Text}

/-- **The summary of a run**: nothing has been written before it, its statistics are those of the
    selected calls of the run, and the file is one line that tells them.  A reader gets them
    back, and the checker accepts the line, with or without its newline, and nothing
    shorter. -/
theorem summary_file_checked (hsummary : config.summary = true)
    (hformat : config.format ≠ .SG_FORMAT_TEXT) (hqsort : qsort.Permutes)
    (hpercent : ∀ row, Decimal (percent row)) (hstart : RunStarts config env start)
    (hat : AtRest config env start c) :
    c.written = [] ∧ Aggregates (c.reported config) c.stats ∧
    ∀ (write_text_summary : Stats → Bool → RenderM Text) (granted : Bool),
      Holds (sg_output_write_summary config heap write_text_summary qsort percent c.stats
          granted) .init
        (fun written _ => ∃ line rows, written = some line ∧ rows.Perm c.stats.rows ∧
          getlines line = [line] ∧ Json.parse line = some (summary_value percent c.stats rows) ∧
          ∀ (fopen : Text → Option CheckedStream) (program path : Text) (cut : Nat),
            fopen path = some (.of (line.take cut)) →
            (checker_returns fopen [program, path, cstr "summary"] 0 ↔ line.length ≤ cut + 1))
        (fun _ _ => heap.Succeeds → ∀ rows,
          sg_stats_sorted_copy qsort c.stats granted = some rows →
          SIZE_MAX ≤ (summary_value percent c.stats rows).compact.length + 1) := by
  have h : c.Summarized config := hat.keeps (summary_invariant hsummary) summary_init hstart
  refine ⟨h.written, h.aggregates, fun write_text_summary granted => ?_⟩
  unfold sg_output_write_summary
  rw [if_neg (by simp [hsummary]), if_neg hformat, holds_map]
  apply (summary_line_spec hqsort h.typed (fun row _ => hpercent row) granted).mono
  · rintro line _ ⟨rows, hrows, rfl⟩
    have hproper := proper_summary percent c.stats rows
    obtain ⟨members, hmembers, hvalue⟩ := checkable_summary percent c.stats rows
    refine ⟨_, rows, rfl, sg_stats_sorted_copy_perm hqsort hrows, ?_, parse_line hproper, ?_⟩
    · rw [hvalue, getlines_append (newline_not_clear hmembers.clear), getlines]
    · exact fun fopen program path cut hopen => summary_cut hmembers (by rw [hvalue]) hopen
  · exact fun _ _ hfull => hfull

/-- The command that calls `getpid`, with `-c`. -/
def getpid_summing : Config := (Config.plain .SG_FORMAT_NDJSON).summing .SG_FORMAT_NDJSON

/-- It has been launched. -/
def getpid_counted : Context :=
  (begin_run getpid_summing Surroundings.reliable.env .plain).finalState .init

/-- The statistics of its call, which takes a second. -/
def getpid_totals : Stats := ⟨[⟨39, 1, 0, 1000000000⟩], 16, 1, 0, 1000000000⟩

theorem getpid_counted_starts :
    RunStarts getpid_summing Surroundings.reliable.env getpid_counted := by
  have hbegin : (begin_run getpid_summing Surroundings.reliable.env .plain).succeeds
      .init = true := by decide +kernel
  have htyped : LaunchAnswers.plain.Typed := by
    intro child hchild
    rw [← Except.ok.inj hchild]
    decide
  exact .launch .plain rfl htyped (exec_of_succeeds hbegin)

theorem getpid_counted_runs :
    (run (loop_step getpid_summing Surroundings.reliable.env) getpid_counted
      getpid_reports).any (fun c => c.stats = getpid_totals) = true := by
  decide +kernel

theorem summary_file_checked_getpid : ∃ (c : Context) (line : Text), c.stats = getpid_totals ∧
    Json.parse line = some (summary_value whole_share getpid_totals getpid_totals.rows) ∧
    checker_returns (fun _ => some (.of line)) [[], [], cstr "summary"] 0 := by
  obtain ⟨c, hc, htotals⟩ := (Option.any_eq_true _ _).mp getpid_counted_runs
  have htotals : c.stats = getpid_totals := of_decide_eq_true htotals
  have hreach : Reaches (loop_step getpid_summing Surroundings.reliable.env)
      (fun _ _ report => report.Typed) getpid_counted getpid_reports c :=
    reaches_of_run (fun k _ => getpid_reports_typed _ (List.get_mem _ k)) hc
  have hdecimal : ∀ row, Decimal (whole_share row) := fun _ =>
    ⟨cstr "100", cstr "00", show cstr "100.00" = _ by decide, by decide, by decide, by decide,
      by decide, by decide⟩
  obtain ⟨-, -, hwrites⟩ := @summary_file_checked getpid_summing _ _ c ample_heap _ _ rfl
    (by decide) qsort_merge_permutes hdecimal getpid_counted_starts (.head hreach)
  have hwrites := hwrites (fun _ _ => throw ()) true
  rw [htotals] at hwrites
  -- There is one row, so that sorting cannot change anything.
  have hrow : ∀ rows : List SyscallStat, rows.Perm getpid_totals.rows → rows = getpid_totals.rows :=
    fun rows hperm => List.perm_singleton.mp hperm
  obtain ⟨rows, hrows⟩ : ∃ rows, sg_stats_sorted_copy qsort_merge getpid_totals true = some rows :=
    ⟨_, rfl⟩
  unfold Holds at hwrites
  rcases hexec : (sg_output_write_summary getpid_summing ample_heap (fun _ _ => throw ())
    qsort_merge whole_share getpid_totals true).exec .init with ⟨_ | written, rendering⟩
  · rw [hexec] at hwrites
    have hlong := hwrites (fun _ => rfl) rows hrows
    rw [hrow rows (sg_stats_sorted_copy_perm qsort_merge_permutes hrows)] at hlong
    exact absurd hlong (by decide +kernel)
  · rw [hexec] at hwrites
    obtain ⟨line, rows, -, hperm, -, hparse, hchecker⟩ := hwrites
    rw [hrow rows hperm] at hparse
    refine ⟨c, line, htotals, hparse, ?_⟩
    have hwhole := hchecker (fun _ => some (.of line)) [] [] line.length (by rw [List.take_length])
    exact hwhole.mpr (Nat.le_succ _)

end files

end Sysgaze
