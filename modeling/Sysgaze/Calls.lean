import Sysgaze.TraceLoop

/-! # The two calls of a tracee

    The abstract view of `begin_syscall`, `finish_syscall` and the exec event:
    a tracee has a pending call, an interrupted call, and a flag that says that
    the interrupted call is ready to be restarted.  `CallStep` says what a stop
    does to them and which completed calls it reports; the clock and the
    captured arguments are left open.

    The refinement: when nothing fails, the code takes exactly these steps
    (`begin_syscall_ok`, `finish_syscall_ok`, `handle_exec_event_ok`), and a
    list of stops of one tracee is a run of them (`run_stops_ok`).
-/

open Fallible

namespace Sysgaze

/-- The calls of a tracee. -/
structure Calls where
  pending : Option SyscallEvent
  interrupted : Option SyscallEvent
  ready : Bool

/-- No call is pending or interrupted. -/
def Calls.idle : Calls := ⟨none, none, false⟩

/-- The calls of a record. -/
def Tracee.calls (tracee : Tracee) : Calls where
  pending := if tracee.has_pending_syscall then some tracee.pending_syscall else none
  interrupted := if tracee.has_interrupted_syscall then some tracee.interrupted_syscall else none
  ready := tracee.has_interrupted_syscall && tracee.interrupted_restart_ready

/-- Is an entry with this number taken for the interrupted call? -/
def Calls.restarts (calls : Calls) (number : UInt64) : Bool :=
  match calls.interrupted with
  | some call =>
    calls.ready &&
      ((number.toNat : Int) == call.number || (number.toNat : Int) == SYS_restart_syscall)
  | none => false

/-- A stop of a tracee that concerns its calls. -/
inductive CallStop where
  | entry (number : UInt64) (arguments : Vector UInt64 6)
  | exit (rval : Int) (is_error : Bool)
  | exec
  deriving DecidableEq

/-- The completed call that is reported, if it is selected. -/
def report (sel : Int → Bool) (event : SyscallEvent) : List SyscallEvent :=
  if sel event.number then [event] else []

/-- What a record says about its call. -/
structure Outcome where
  number : Int
  arguments : Vector UInt64 6
  result : Int
  error_number : Int
  deriving DecidableEq, Repr

/-- The outcome of a call. -/
def SyscallEvent.outcome (event : SyscallEvent) : Outcome :=
  ⟨event.number, event.arguments, event.result, event.error_number⟩

/-- The outcomes that are reported. -/
def reported (sel : Int → Bool) (outcomes : List Outcome) : List Outcome :=
  outcomes.filter fun outcome => sel outcome.number

/-- The event of a call that has just been entered. -/
structure Fresh (sel : Int → Bool) (number : UInt64) (arguments : Vector UInt64 6)
    (event : SyscallEvent) : Prop where
  number_eq : event.number = number.toNat
  arguments_eq : event.arguments = arguments
  incomplete : event.completed = false
  hidden : sel number.toNat = false → event = .entered number arguments

/-- The calls after a call with this number has ended: the end of a handler makes the
    interrupted call ready, the end of the same call drops it. -/
def settle (number : Int) (interrupted : Option SyscallEvent) (ready : Bool) : Calls :=
  match interrupted with
  | none => ⟨none, none, false⟩
  | some call =>
    if number = SYS_rt_sigreturn then ⟨none, some call, true⟩
    else if !ready && number == call.number then ⟨none, none, false⟩
    else ⟨none, some call, ready⟩

/-- What a stop does to the calls of its tracee, and what is reported. -/
inductive CallStep (sel : Int → Bool) : Calls → CallStop → Calls → List SyscallEvent → Prop
  /-- The interrupted call is entered again. -/
  | restart {call : SyscallEvent} {number : UInt64} {arguments : Vector UInt64 6} :
      ((number.toNat : Int) = call.number ∨ (number.toNat : Int) = SYS_restart_syscall) →
      CallStep sel ⟨none, some call, true⟩ (.entry number arguments) ⟨some call, none, false⟩ []
  /-- Another call is entered: the interrupted one ended in `EINTR`. -/
  | not_restarted {call fresh : SyscallEvent} {number : UInt64} {arguments : Vector UInt64 6}
      (exited_at : Timespec) :
      (number.toNat : Int) ≠ call.number → (number.toNat : Int) ≠ SYS_restart_syscall →
      Fresh sel number arguments fresh →
      CallStep sel ⟨none, some call, true⟩ (.entry number arguments) ⟨some fresh, none, false⟩
        (report sel (call.not_restarted exited_at))
  | enter {interrupted : Option SyscallEvent} {fresh : SyscallEvent} {number : UInt64}
      {arguments : Vector UInt64 6} : Fresh sel number arguments fresh →
      CallStep sel ⟨none, interrupted, false⟩ (.entry number arguments)
        ⟨some fresh, interrupted, false⟩ []
  | interrupt {call : SyscallEvent} {interrupted : Option SyscallEvent} {ready : Bool} {rval : Int}
      {is_error : Bool} : is_restart_result rval = true →
      CallStep sel ⟨some call, interrupted, ready⟩ (.exit rval is_error) ⟨none, some call, false⟩ []
  | complete {call : SyscallEvent} {interrupted : Option SyscallEvent} {ready : Bool} {rval : Int}
      {is_error : Bool} (exited_at : Timespec) : is_restart_result rval = false →
      CallStep sel ⟨some call, interrupted, ready⟩ (.exit rval is_error)
        (settle call.number interrupted ready)
        (report sel (call.finished rval is_error exited_at))
  /-- An exit without an entry is ignored. -/
  | stray_exit {interrupted : Option SyscallEvent} {ready : Bool} {rval : Int} {is_error : Bool} :
      CallStep sel ⟨none, interrupted, ready⟩ (.exit rval is_error) ⟨none, interrupted, ready⟩ []
  | exec {call : SyscallEvent} {interrupted : Option SyscallEvent} {ready : Bool}
      (exited_at : Timespec) :
      CallStep sel ⟨some call, interrupted, ready⟩ .exec ⟨none, interrupted, ready⟩
        (report sel (call.exec_done exited_at))
  | stray_exec {interrupted : Option SyscallEvent} {ready : Bool} :
      CallStep sel ⟨none, interrupted, ready⟩ .exec ⟨none, interrupted, ready⟩ []

/-- A run of steps. -/
inductive CallRun (sel : Int → Bool) : Calls → List CallStop → Calls → List SyscallEvent → Prop
  | nil (calls) : CallRun sel calls [] calls []
  | cons {calls calls' calls'' stop stops records records'} :
      CallStep sel calls stop calls' records → CallRun sel calls' stops calls'' records' →
      CallRun sel calls (stop :: stops) calls'' (records ++ records')

section run
variable {sel : Int → Bool} {calls calls' calls'' : Calls} {stops stops' : List CallStop}
  {records records' : List SyscallEvent}

/-- A run over a concatenation is a run over the first part, then one over the second. -/
theorem CallRun.split (h : CallRun sel calls (stops ++ stops') calls'' records) :
    ∃ calls' records₁ records₂, CallRun sel calls stops calls' records₁ ∧
      CallRun sel calls' stops' calls'' records₂ ∧ records = records₁ ++ records₂ := by
  induction stops generalizing calls records with
  | nil => exact ⟨calls, [], records, .nil _, h, rfl⟩
  | cons stop stops ih =>
    cases h with
    | cons hstep hrest =>
      obtain ⟨calls', records₁, records₂, h₁, h₂, rfl⟩ := ih hrest
      exact ⟨calls', _, records₂, .cons hstep h₁, h₂, (List.append_assoc _ _ _).symm⟩

end run

/-! ### The code takes these steps -/

/-- The completed calls that a context has reported, with their TIDs. -/
def Context.completed (context : Context) : List (Pid × SyscallEvent) :=
  context.output.log.completed

/-- From `c` to `c'` the record `old` has become `new`, and the calls `records` have been
    reported for its TID. -/
structure Handled (config : Config) (c : Context) (old new : Tracee) (records : List SyscallEvent)
    (c' : Context) : Prop where
  tid : new.tid = old.tid
  tgid : new.tgid = old.tgid
  lookup : ∀ tid, c'.tracees.lookup tid = if tid = old.tid then some new else c.tracees.lookup tid
  completed : c'.completed = c.completed ++ records.map fun record => (old.tid, record)
  unfinished : config.format ≠ .SG_FORMAT_TEXT →
    c'.output.unfinished_tids = c.output.unfinished_tids
  ok : c'.Ok

section refinement
variable {config : Config} {env : Env} {c c' c'' : Context} {tracee new new' : Tracee}
  {events : List Event} {records records' : List SyscallEvent}

/-- The completed calls in a log, after a list of events. -/
theorem completed_foldl (hsummary : config.summary = false) (events : List Event) :
    ∀ log : Output.Log, (events.foldl (Output.Log.write config) log).completed =
      log.completed ++ events.filterMap Event.completed := by
  induction events with
  | nil => intro log; simp
  | cons event events ih =>
    intro log
    rw [List.foldl_cons, ih, completed_write log event hsummary, List.append_assoc]
    cases h : event.completed <;> simp [h]

/-- With `-c` nothing is written. -/
theorem foldl_write_summary (hsummary : config.summary = true) (events : List Event) :
    ∀ log : Output.Log, events.foldl (Output.Log.write config) log = log := by
  induction events with
  | nil => intro log; rfl
  | cons event events ih =>
    intro log
    rw [List.foldl_cons, Output.Log.write, if_pos hsummary]
    exact ih log

theorem FlushEvent.not_completed {tracees : Tracees} {except_tid : Pid} {event : Event}
    (h : FlushEvent config tracees except_tid event) : event.completed = none := by
  obtain ⟨tracee, call, -, -, -, -, rfl⟩ := h
  rfl

theorem filterMap_flush {tracees : Tracees} {except_tid : Pid}
    (h : ∀ e ∈ events, FlushEvent config tracees except_tid e) :
    events.filterMap Event.completed = [] := by
  rw [List.filterMap_eq_nil_iff]
  intro e he
  exact (h e he).not_completed

/-- The completion of a call reports it, if it is selected. -/
theorem CallEvents.completed {tracees : Tracees} {event : SyscallEvent}
    (h : CallEvents config tracees tracee event events) (hc : event.completed = true) :
    events.filterMap Event.completed =
      (report (selected config) event).map fun record => (tracee.tid, record) := by
  obtain ⟨flushed, hflushed, rfl⟩ := h
  unfold report
  split
  · rw [List.filterMap_append, filterMap_flush hflushed]
    simp [Event.completed, syscall_event, hc]
  · rfl

/-- An update whose events report `records` handles a stop. -/
theorem Updates.handled (h : Updates config c new events c') (hsummary : config.summary = false)
    (hok : c.Ok) (htid : new.tid = tracee.tid) (htgid : new.tgid = tracee.tgid)
    (hknown : ∀ event ∈ events, (c.tracees.lookup event.tid).isSome)
    (hrecords : events.filterMap Event.completed = records.map fun record => (tracee.tid, record)) :
    Handled config c tracee new records c' := by
  refine ⟨htid, htgid, fun tid => ?_, ?_, fun hformat => ?_, h.ok hok hknown⟩
  · rw [h.lookup, htid]
  · show c'.output.log.completed = c.output.log.completed ++ _
    rw [h.log, completed_foldl hsummary, hrecords]
  · show c'.output.log.unfinished = c.output.log.unfinished
    rw [h.log, unfinished_foldl_json hformat]

variable (config) in
theorem Handled.refl (hold : c.tracees.lookup tracee.tid = some tracee) (hok : c.Ok) :
    Handled config c tracee tracee [] c := by
  refine ⟨rfl, rfl, fun tid => ?_, by simp, fun _ => rfl, hok⟩
  by_cases ht : tid = tracee.tid
  · rw [if_pos ht, ht, hold]
  · rw [if_neg ht]

theorem Handled.lookup_self (h : Handled config c tracee new records c') :
    c'.tracees.lookup new.tid = some new := by
  rw [h.lookup, if_pos h.tid]

theorem Handled.trans (h : Handled config c tracee new records c')
    (h' : Handled config c' new new' records' c'') :
    Handled config c tracee new' (records ++ records') c'' := by
  refine ⟨h'.tid.trans h.tid, h'.tgid.trans h.tgid, fun tid => ?_, ?_,
    fun hformat => (h'.unfinished hformat).trans (h.unfinished hformat), h'.ok⟩
  · rw [h'.lookup, h.lookup, h.tid]
    by_cases ht : tid = tracee.tid
    · simp [ht]
    · simp [ht]
  · rw [h'.completed, h.completed, h.tid, List.map_append, List.append_assoc]

theorem FreshCall.fresh {number : UInt64} {arguments : Vector UInt64 6} {event : SyscallEvent}
    (h : FreshCall config number arguments event) : Fresh (selected config) number arguments event :=
  ⟨h.number_eq, h.arguments_eq, h.incomplete, h.hidden⟩

theorem Tracee.calls_restarts (tracee : Tracee) (number : UInt64) :
    tracee.calls.restarts number = tracee.restarts number.toNat := by
  unfold Calls.restarts Tracee.restarts Tracee.calls
  cases tracee.has_interrupted_syscall with
  | false => rfl
  | true => simp

/-- From `c` to `c'` the record `old` has become `new`, and events about known TIDs have been
    written that report the calls `records`. -/
structure Tells (config : Config) (c : Context) (old new : Tracee) (records : List SyscallEvent)
    (c' : Context) : Prop where
  tid : new.tid = old.tid
  tgid : new.tgid = old.tgid
  updates : ∃ events, Updates config c new events c' ∧
    (∀ event ∈ events, (c.tracees.lookup event.tid).isSome) ∧
    events.filterMap Event.completed = records.map fun record => (old.tid, record)

/-- From `c` to `c'` the calls `records` have been reported for `tid`, and then something
    failed. -/
def TellsAndFails (config : Config) (c : Context) (tid : Pid) (records : List SyscallEvent)
    (c' : Context) : Prop :=
  ∃ events, Fails config c tid events c' ∧
    events.filterMap Event.completed = records.map fun record => (tid, record)

theorem Tells.handled (h : Tells config c tracee new records c') (hsummary : config.summary = false)
    (hok : c.Ok) : Handled config c tracee new records c' := by
  obtain ⟨events, hu, hknown, hrecords⟩ := h.updates
  exact hu.handled hsummary hok h.tid h.tgid hknown hrecords

/-- Only the flush of the other tracees has been written. -/
theorem Updates.tells (h : Updates config c new events c') (htid : new.tid = tracee.tid)
    (htgid : new.tgid = tracee.tgid)
    (hevents : ∀ event ∈ events, FlushEvent config c.tracees tracee.tid event) :
    Tells config c tracee new [] c' :=
  ⟨htid, htgid, events, h, fun event hevent => (hevents event hevent).known,
    filterMap_flush hevents⟩

theorem Fails.tells {tid : Pid} (h : Fails config c tid events c')
    (hevents : ∀ event ∈ events, FlushEvent config c.tracees tid event) :
    TellsAndFails config c tid [] c' :=
  ⟨events, h, filterMap_flush hevents⟩

/-- The calls that a failed entry has reported: at most the interrupted one. -/
def GivesUp (sel : Int → Bool) (calls : Calls) (number : UInt64) (records : List SyscallEvent) :
    Prop :=
  records = [] ∨ ∃ call exited_at, calls.interrupted = some call ∧ calls.ready = true ∧
    calls.restarts number = false ∧ records = report sel (call.not_restarted exited_at)

/-- **Entries**: `begin_syscall` of a tracee without a pending call takes a step. -/
theorem begin_syscall_steps (hold : c.tracees.lookup tracee.tid = some tracee) (number : UInt64)
    (arguments : Vector UInt64 6) (hpending : tracee.has_pending_syscall = false) :
    Holds (begin_syscall config env tracee number arguments) c
      (fun _ c' => number.toNat ≤ LONG_MAX ∧ ∃ new records,
        CallStep (selected config) tracee.calls (.entry number arguments) new.calls records ∧
        Tells config c tracee new records c')
      (fun _ c' => ∃ records, GivesUp (selected config) tracee.calls number records ∧
        TellsAndFails config c tracee.tid records c') := by
  have hself : (c.tracees.lookup tracee.tid).isSome := by rw [hold]; rfl
  unfold begin_syscall leave_pending
  by_cases hrange : number.toNat > LONG_MAX
  · rw [if_pos hrange]
    have hnothing : Breaks config c [] c := ⟨rfl, rfl, rfl⟩
    exact ⟨[], .inl rfl, (Fails.refl hnothing _).tells (by simp)⟩
  rw [if_neg hrange, hpending]
  simp only [Bool.false_eq_true, if_false, holds_bind, holds_pure]
  by_cases hrestarts : tracee.restarts number.toNat = true
  · -- The restart of the interrupted call.
    simp only [hrestarts, if_true]
    apply (restart_call_spec hold).mono
    · intro _ c' hpost
      rcases hpost with ⟨events, hevents, hu⟩
      refine ⟨by omega, tracee.restarted, [], ?_, hu.tells rfl rfl hevents⟩
      simp only [Tracee.restarts, Bool.and_eq_true, Bool.or_eq_true, beq_iff_eq] at hrestarts
      obtain ⟨⟨hint, hready⟩, hnum⟩ := hrestarts
      simp only [Tracee.calls, hpending, hint, hready, Tracee.restarted]
      exact .restart hnum
    · intro _ c' hpost
      rcases hpost with ⟨events, hevents, hf⟩
      exact ⟨[], .inl rfl, hf.tells hevents⟩
  · simp only [hrestarts, if_false, Bool.false_eq_true, holds_bind]
    apply (report_interrupted_spec hold).mono
    · intro mid c₁ hmid
      obtain ⟨hnot, rfl, rfl⟩ | ⟨hready, exited_at, events, hevents, hmid, hu⟩ := hmid
      · -- There is nothing to restart.
        apply (enter_call_spec hold number arguments).mono
        · intro _ c' hpost
          rcases hpost with ⟨event, events, hfresh, hevents, hu⟩
          refine ⟨by omega, mid.entered event, [], ?_, hu.tells rfl rfl hevents⟩
          simp only [Tracee.calls, hpending, hnot, Tracee.entered]
          exact .enter hfresh.fresh
        · intro _ c' hpost
          rcases hpost with ⟨events, hevents, hf⟩
          exact ⟨[], .inl rfl, hf.tells hevents⟩
      · -- The interrupted call is reported, then the new one is entered.
        have hold₁ : c₁.tracees.lookup mid.tid = some mid := hu.lookup_self
        have htid : mid.tid = tracee.tid := by rw [hmid]
        have htold : events.filterMap Event.completed =
            (report (selected config) (tracee.interrupted_syscall.not_restarted exited_at)).map
              fun record => (tracee.tid, record) := hevents.completed rfl
        rw [Bool.and_eq_true] at hready
        obtain ⟨hint, hflag⟩ := hready
        have hcompleted : ∀ {events' : List Event},
            (∀ event ∈ events', FlushEvent config c₁.tracees mid.tid event) →
            (events ++ events').filterMap Event.completed =
              (report (selected config) (tracee.interrupted_syscall.not_restarted exited_at)).map
                fun record => (tracee.tid, record) := by
          intro events' hflush
          rw [List.filterMap_append, filterMap_flush hflush, htold, List.append_nil]
        apply (enter_call_spec hold₁ number arguments).mono
        · intro _ c' hpost
          rcases hpost with ⟨event, events', hfresh, hevents', hu'⟩
          have hne : (number.toNat : Int) ≠ tracee.interrupted_syscall.number ∧
              (number.toNat : Int) ≠ SYS_restart_syscall := by
            simpa [Tracee.restarts, hint, hflag] using hrestarts
          refine ⟨by omega, mid.entered event, _, ?_, by rw [hmid]; rfl, by rw [hmid]; rfl,
            events ++ events', hu.trans hu' rfl, ?_, hcompleted hevents'⟩
          · simp only [Tracee.calls, hpending, hint, hflag, Tracee.entered, hmid]
            exact .not_restarted exited_at hne.1 hne.2 hfresh.fresh
          · intro other hother
            obtain hmem | hmem := List.mem_append.mp hother
            · exact hevents.known hself other hmem
            · have hknown := (hevents' other hmem).known
              rw [hu.lookup] at hknown
              split at hknown
              · rename_i heq
                rw [heq, htid]
                exact hself
              · exact hknown
        · intro _ c' hpost
          rcases hpost with ⟨events', hevents', hf⟩
          have hshell : mid.shell = tracee.shell := by rw [hmid]; rfl
          refine ⟨_, .inr ⟨tracee.interrupted_syscall, exited_at, ?_, ?_, ?_, rfl⟩, events ++ events',
            hu.fails hold hshell (htid ▸ hf), hcompleted hevents'⟩
          · simp [Tracee.calls, hint]
          · simp [Tracee.calls, hint, hflag]
          · rw [Tracee.calls_restarts]
            simpa using hrestarts
    · intro _ c' hpost
      rcases hpost with ⟨events, hevents, hf⟩
      exact ⟨[], .inl rfl, hf.tells hevents⟩

/-- An entry fails only if something else does. -/
theorem begin_syscall_total (hs : env.Succeeds) (hsummary : config.summary = false) (hok : c.Ok)
    (hold : c.tracees.lookup tracee.tid = some tracee) (number : UInt64)
    (arguments : Vector UInt64 6) (hnumber : number.toNat ≤ LONG_MAX)
    (hpending : tracee.has_pending_syscall = false) :
    Holds (begin_syscall config env tracee number arguments) c (fun _ _ => True)
      (fun _ _ => False) := by
  have hself : (c.tracees.lookup tracee.tid).isSome := by rw [hold]; rfl
  unfold begin_syscall leave_pending
  rw [if_neg (by omega), hpending]
  simp only [Bool.false_eq_true, if_false, holds_bind, holds_pure]
  split
  · exact restart_call_total hs roomy_ok hok
  · rw [holds_bind]
    apply ((report_interrupted_spec hold).and (report_interrupted_total hs hsummary roomy_ok hok)).mono
    · intro mid c₁ hpost
      rcases hpost with ⟨hmid, _⟩
      obtain ⟨_, rfl, rfl⟩ | ⟨_, exited_at, events, hevents, _, hu⟩ := hmid
      · exact enter_call_total hs roomy_ok hok number arguments
      · exact enter_call_total hs roomy_ok (hu.ok hok (hevents.known hself)) number arguments
    · exact fun _ _ h => h.2

/-- **Entries**, when nothing fails. -/
theorem begin_syscall_ok (hs : env.Succeeds) (hsummary : config.summary = false) (hok : c.Ok)
    (hold : c.tracees.lookup tracee.tid = some tracee) (number : UInt64)
    (arguments : Vector UInt64 6) (hnumber : number.toNat ≤ LONG_MAX)
    (hpending : tracee.has_pending_syscall = false) :
    Holds (begin_syscall config env tracee number arguments) c
      (fun _ c' => ∃ new records,
        CallStep (selected config) tracee.calls (.entry number arguments) new.calls records ∧
        Handled config c tracee new records c')
      (fun _ _ => False) := by
  apply ((begin_syscall_steps hold number arguments hpending).and
    (begin_syscall_total hs hsummary hok hold number arguments hnumber hpending)).mono
  · intro _ c' hpost
    rcases hpost with ⟨⟨_, new, records, hstep, htells⟩, _⟩
    exact ⟨new, records, hstep, htells.handled hsummary hok⟩
  · exact fun _ _ h => h.2

/-- On the calls of a record, `settle` is `settled`. -/
theorem Tracee.completed_calls (tracee : Tracee) (event : SyscallEvent)
    (hnum : event.number = tracee.pending_syscall.number) :
    (tracee.completed event).calls =
      settle tracee.pending_syscall.number tracee.calls.interrupted tracee.calls.ready := by
  unfold Tracee.completed Tracee.settled settle
  cases hint : tracee.has_interrupted_syscall with
  | false => simp [Tracee.calls, hint]
  | true =>
    by_cases h15 : tracee.pending_syscall.number = 15
    · simp [Tracee.calls, hint, hnum, h15]
    · cases hready : tracee.interrupted_restart_ready with
      | true => simp [Tracee.calls, hint, hready, hnum, h15]
      | false =>
        by_cases hsame : tracee.pending_syscall.number = tracee.interrupted_syscall.number
        · have h15' : ¬tracee.interrupted_syscall.number = 15 := hsame ▸ h15
          simp [Tracee.calls, hint, hready, hnum, h15', hsame]
        · simp [Tracee.calls, hint, hready, hnum, h15, hsame]

/-- **Exits**: `finish_syscall` takes a step. -/
theorem finish_syscall_steps (hold : c.tracees.lookup tracee.tid = some tracee) (rval : Int)
    (is_error : Bool) :
    Holds (finish_syscall config env tracee rval is_error) c
      (fun _ c' => ∃ new records,
        CallStep (selected config) tracee.calls (.exit rval is_error) new.calls records ∧
        Tells config c tracee new records c')
      (fun _ _ => True) := by
  have hself : (c.tracees.lookup tracee.tid).isSome := by rw [hold]; rfl
  unfold finish_syscall
  by_cases hpending : tracee.has_pending_syscall = true
  · simp only [hpending, Bool.not_true, Bool.false_eq_true, if_false]
    by_cases hrestart : is_restart_result rval = true
    · simp only [hrestart, if_true]
      apply (interrupt_call_spec (E := fun _ _ => True) hold).mono
      · intro _ c' hu
        have hu : Updates config c tracee.interrupted [] c' := hu
        refine ⟨tracee.interrupted, [], ?_, hu.tells rfl rfl (by simp)⟩
        simp only [Tracee.calls, hpending, Tracee.interrupted]
        exact .interrupt hrestart
      · exact fun _ _ h => h
    · simp only [hrestart, if_false, Bool.false_eq_true]
      apply (complete_call_spec hold rval is_error).mono
      · intro _ c' hpost
        rcases hpost with ⟨exited_at, events, hevents, hu⟩
        let event := tracee.pending_syscall.finished rval is_error exited_at
        refine ⟨tracee.completed event, _, ?_,
          congrArg Shell.tid (Tracee.completed_shell tracee event),
          congrArg Shell.tgid (Tracee.completed_shell tracee event), events, hu,
          hevents.known hself, hevents.completed rfl⟩
        rw [Tracee.completed_calls tracee event rfl]
        simp only [Tracee.calls, hpending, if_true]
        exact .complete exited_at (by simpa using hrestart)
      · exact fun _ _ _ => trivial
  · have hnone : tracee.has_pending_syscall = false := by simpa using hpending
    rw [if_pos (by rw [hnone]; rfl), holds_store]
    have hu := (Updates.refl config hold).store
      (t := { tracee with phase := .SG_TRACEE_STOPPED }) rfl
    refine ⟨_, [], ?_, hu.tells rfl rfl (by simp)⟩
    simp only [Tracee.calls, hnone]
    exact .stray_exit

theorem finish_syscall_total (hs : env.Succeeds) (hsummary : config.summary = false) (hok : c.Ok)
    (rval : Int) (is_error : Bool) :
    Holds (finish_syscall config env tracee rval is_error) c (fun _ _ => True)
      (fun _ _ => False) := by
  unfold finish_syscall
  split
  · trivial
  · split
    · unfold interrupt_call
      split
      · trivial
      · trivial
    · exact complete_call_total hs hsummary roomy_ok hok rval is_error

/-- **Exits**, when nothing fails. -/
theorem finish_syscall_ok (hs : env.Succeeds) (hsummary : config.summary = false) (hok : c.Ok)
    (hold : c.tracees.lookup tracee.tid = some tracee) (rval : Int) (is_error : Bool) :
    Holds (finish_syscall config env tracee rval is_error) c
      (fun _ c' => ∃ new records,
        CallStep (selected config) tracee.calls (.exit rval is_error) new.calls records ∧
        Handled config c tracee new records c')
      (fun _ _ => False) := by
  apply ((finish_syscall_steps hold rval is_error).and
    (finish_syscall_total hs hsummary hok rval is_error)).mono
  · intro _ c' hpost
    rcases hpost with ⟨⟨new, records, hstep, htells⟩, _⟩
    exact ⟨new, records, hstep, htells.handled hsummary hok⟩
  · exact fun _ _ h => h.2

/-- The exec of the root is noted. -/
def Context.exec_observed (c : Context) (tracee : Tracee) : Context :=
  if tracee.tid = c.root_tid then { c with root_exec_observed := true } else c

@[simp] theorem Context.exec_observed_tracees (c : Context) (tracee : Tracee) :
    (c.exec_observed tracee).tracees = c.tracees := by
  unfold exec_observed
  split
  · rfl
  · rfl

@[simp] theorem Context.exec_observed_output (c : Context) (tracee : Tracee) :
    (c.exec_observed tracee).output = c.output := by
  unfold exec_observed
  split
  · rfl
  · rfl

@[simp] theorem Context.exec_observed_requests (c : Context) (tracee : Tracee) :
    (c.exec_observed tracee).requests = c.requests := by
  unfold exec_observed
  split
  · rfl
  · rfl

/-- **The rule of an exec event**: the pending call is completed, if there is one, and the record
    is stored. -/
theorem holds_handle_exec_event {Q : Unit → Context → Prop} {E : String → Context → Prop} :
    Holds (handle_exec_event config env tracee) c Q E ↔
      (tracee.has_pending_syscall = true →
        Holds (complete_exec config env tracee) (c.exec_observed tracee)
          (fun mid c₁ => Q () { c₁ with
            tracees := c₁.tracees.write { mid with phase := .SG_TRACEE_STOPPED, newborn := false } })
          E) ∧
      (¬tracee.has_pending_syscall = true →
        Q () { c.exec_observed tracee with
          tracees := (c.exec_observed tracee).tracees.write { tracee with newborn := false } }) := by
  unfold handle_exec_event
  rw [holds_bind, holds_modify]
  show Holds _ (c.exec_observed tracee) _ _ ↔ _
  dsimp only
  rw [holds_ite]
  simp only [holds_bind, holds_pure, holds_store]

theorem Context.Ok.exec_observed (hok : c.Ok) (tracee : Tracee) : (c.exec_observed tracee).Ok := by
  refine ⟨?_, ?_⟩
  · rw [Context.exec_observed_output]
    exact hok.nodup
  · rw [Context.exec_observed_output, Context.exec_observed_tracees]
    exact hok.known

theorem Handled.exec_observed (h : Handled config (c.exec_observed tracee) tracee new records c') :
    Handled config c tracee new records c' := by
  refine ⟨h.tid, h.tgid, fun tid => ?_, ?_, fun hformat => ?_, h.ok⟩
  · rw [h.lookup, Context.exec_observed_tracees]
  · rw [h.completed, Context.completed, Context.exec_observed_output]
    rfl
  · rw [h.unfinished hformat, Context.exec_observed_output]

/-- **Exec events**: `handle_exec_event` takes a step. -/
theorem handle_exec_event_steps (hold : c.tracees.lookup tracee.tid = some tracee) :
    Holds (handle_exec_event config env tracee) c
      (fun _ c' => ∃ new records, CallStep (selected config) tracee.calls .exec new.calls records ∧
        Tells config (c.exec_observed tracee) tracee new records c')
      (fun _ _ => True) := by
  have hself : ((c.exec_observed tracee).tracees.lookup tracee.tid).isSome := by
    rw [Context.exec_observed_tracees, hold]
    rfl
  have hold₀ : (c.exec_observed tracee).tracees.lookup tracee.tid = some tracee := by
    rw [Context.exec_observed_tracees]
    exact hold
  rw [holds_handle_exec_event]
  constructor
  · intro hpending
    apply (complete_exec_spec hold₀).mono
    · intro mid c₁ hpost
      rcases hpost with ⟨exited_at, events, hevents, hmid, hu⟩
      have hmidtid : mid.tid = tracee.tid := by rw [hmid]
      have hu' := hu.store (t := { mid with phase := .SG_TRACEE_STOPPED, newborn := false }) rfl
      refine ⟨{ mid with phase := .SG_TRACEE_STOPPED, newborn := false }, _, ?_, hmidtid,
        by rw [hmid], events, hu', hevents.known hself, hevents.completed rfl⟩
      simp only [Tracee.calls, hpending, hmid]
      exact .exec exited_at
    · exact fun _ _ _ => trivial
  · intro hpending
    have hu := (Updates.refl config hold₀).store (t := { tracee with newborn := false }) rfl
    refine ⟨_, [], ?_, hu.tells rfl rfl (by simp)⟩
    simp only [Tracee.calls, hpending]
    exact .stray_exec

theorem handle_exec_event_total (hs : env.Succeeds) (hsummary : config.summary = false)
    (hok : c.Ok) :
    Holds (handle_exec_event config env tracee) c (fun _ _ => True) (fun _ _ => False) := by
  rw [holds_handle_exec_event]
  refine ⟨fun _ => ?_, fun _ => trivial⟩
  apply (complete_exec_total hs hsummary roomy_ok (hok.exec_observed tracee)).mono
  · exact fun _ _ _ => trivial
  · exact fun _ _ h => h

/-- **Exec events**, when nothing fails. -/
theorem handle_exec_event_ok (hs : env.Succeeds) (hsummary : config.summary = false) (hok : c.Ok)
    (hold : c.tracees.lookup tracee.tid = some tracee) :
    Holds (handle_exec_event config env tracee) c
      (fun _ c' => ∃ new records,
        CallStep (selected config) tracee.calls .exec new.calls records ∧
        Handled config c tracee new records c')
      (fun _ _ => False) := by
  apply ((handle_exec_event_steps hold).and (handle_exec_event_total hs hsummary hok)).mono
  · intro _ c' hpost
    rcases hpost with ⟨⟨new, records, hstep, htells⟩, _⟩
    exact ⟨new, records, hstep,
      (htells.handled hsummary (hok.exec_observed tracee)).exec_observed⟩
  · exact fun _ _ h => h.2

/-! ### The stops of one tracee -/

/-- The handling of one stop of a tracee of the table. -/
def run_stop (config : Config) (env : Env) (tid : Pid) (stop : CallStop) : TraceM Unit := do
  let context ← get
  match context.tracees.get tid with
  | none => pure ()
  | some tracee =>
    match stop with
    | .entry number arguments => begin_syscall config env tracee number arguments
    | .exit rval is_error => finish_syscall config env tracee rval is_error
    | .exec => handle_exec_event config env tracee

/-- The handling of a list of stops. -/
def run_stops (config : Config) (env : Env) (tid : Pid) (stops : List CallStop) : TraceM Unit :=
  stops.forM (run_stop config env tid)

/-- **A stop** of a tracee takes a step, if it is handled to the end. -/
theorem run_stop_steps (hold : c.tracees.lookup tracee.tid = some tracee) (stop : CallStop)
    (hfree : ∀ number arguments, stop = .entry number arguments → tracee.has_pending_syscall = false) :
    Holds (run_stop config env tracee.tid stop) c
      (fun _ c' => ∃ new records, CallStep (selected config) tracee.calls stop new.calls records ∧
        new.tid = tracee.tid ∧ c'.tracees.lookup tracee.tid = some new)
      (fun _ _ => True) := by
  have hfound : ∀ {c₀ new records c'}, Tells config c₀ tracee new records c' →
      new.tid = tracee.tid ∧ c'.tracees.lookup tracee.tid = some new := by
    intro c₀ new records c' h
    obtain ⟨events, hu, -, -⟩ := h.updates
    exact ⟨h.tid, h.tid ▸ hu.lookup_self⟩
  unfold run_stop
  simp only [holds_bind, holds_get, Tracees.get_eq, hold]
  cases stop with
  | entry number arguments =>
    apply (begin_syscall_steps hold number arguments (hfree number arguments rfl)).mono
    · intro _ c' hpost
      rcases hpost with ⟨_, new, records, hstep, htells⟩
      exact ⟨new, records, hstep, hfound htells⟩
    · exact fun _ _ _ => trivial
  | exit rval is_error =>
    apply (finish_syscall_steps hold rval is_error).mono
    · intro _ c' hpost
      rcases hpost with ⟨new, records, hstep, htells⟩
      exact ⟨new, records, hstep, hfound htells⟩
    · exact fun _ _ h => h
  | exec =>
    apply (handle_exec_event_steps hold).mono
    · intro _ c' hpost
      rcases hpost with ⟨new, records, hstep, htells⟩
      exact ⟨new, records, hstep, hfound htells⟩
    · exact fun _ _ h => h

/-- Entries and exits alternate, and the numbers are in the range of a `long`. -/
def Alternating : Bool → List CallStop → Prop
  | _, [] => True
  | pending, .entry number _ :: stops =>
    pending = false ∧ number.toNat ≤ LONG_MAX ∧ Alternating true stops
  | _, .exit _ _ :: stops => Alternating false stops
  | _, .exec :: stops => Alternating false stops

/-- After a step a call is pending exactly when the stop was an entry. -/
theorem CallStep.pending_after {sel : Int → Bool} {calls calls' : Calls} {stop : CallStop}
    (h : CallStep sel calls stop calls' records) :
    calls'.pending.isSome = (match stop with | .entry _ _ => true | _ => false) := by
  cases h with
  | complete =>
    unfold settle
    split
    · rfl
    · split
      · rfl
      · split <;> rfl
  | _ => rfl

theorem Tracee.calls_pending (tracee : Tracee) :
    tracee.calls.pending.isSome = tracee.has_pending_syscall := by
  unfold Tracee.calls
  cases tracee.has_pending_syscall <;> rfl

theorem run_stop_ok (hs : env.Succeeds) (hsummary : config.summary = false) (hok : c.Ok)
    (hold : c.tracees.lookup tracee.tid = some tracee) {stop : CallStop} {stops : List CallStop}
    (halt : Alternating tracee.has_pending_syscall (stop :: stops)) :
    Holds (run_stop config env tracee.tid stop) c
      (fun _ c' => ∃ new records,
        CallStep (selected config) tracee.calls stop new.calls records ∧
        Handled config c tracee new records c' ∧ Alternating new.has_pending_syscall stops)
      (fun _ _ => False) := by
  have hnext : ∀ {new : Tracee} {records : List SyscallEvent},
      CallStep (selected config) tracee.calls stop new.calls records →
      Alternating new.has_pending_syscall stops := by
    intro new records hstep
    have := hstep.pending_after
    rw [Tracee.calls_pending] at this
    rw [this]
    cases stop with
    | entry number arguments => exact halt.2.2
    | exit rval is_error => exact halt
    | exec => exact halt
  unfold run_stop
  simp only [holds_bind, holds_get, Tracees.get_eq, hold]
  have hmono : ∀ {m : TraceM Unit},
      Holds m c (fun _ c' => ∃ (new : Tracee) (records : List SyscallEvent),
        CallStep (selected config) tracee.calls stop new.calls records ∧
        Handled config c tracee new records c') (fun _ _ => False) →
      Holds m c (fun _ c' => ∃ (new : Tracee) (records : List SyscallEvent),
        CallStep (selected config) tracee.calls stop new.calls records ∧
        Handled config c tracee new records c' ∧ Alternating new.has_pending_syscall stops)
        (fun _ _ => False) := by
    intro m hm
    apply hm.mono
    · intro _ c' hpost
      rcases hpost with ⟨new, records, hstep, hhandled⟩
      exact ⟨new, records, hstep, hhandled, hnext hstep⟩
    · intro _ _ h
      exact h
  cases stop with
  | entry number arguments =>
    exact hmono (begin_syscall_ok hs hsummary hok hold number arguments halt.2.1 halt.1)
  | exit rval is_error => exact hmono (finish_syscall_ok hs hsummary hok hold rval is_error)
  | exec => exact hmono (handle_exec_event_ok hs hsummary hok hold)

/-- The tracer writes events, nothing fails, and `tracee` is the record of a TID of the
    table. -/
structure Tracing (config : Config) (env : Env) (c : Context) (tracee : Tracee) : Prop where
  succeeds : env.Succeeds
  events : config.summary = false
  ok : c.Ok
  known : c.tracees.lookup tracee.tid = some tracee

/-- The tracer still runs after a stop has been handled. -/
theorem Handled.tracing (h : Handled config c tracee new records c')
    (ht : Tracing config env c tracee) : Tracing config env c' new :=
  ⟨ht.succeeds, ht.events, h.ok, h.lookup_self⟩

/-- **The stops of one tracee**, when nothing fails: the code runs to the end, its calls
    take a run of steps, and what that run reports has been written for the TID. -/
theorem run_stops_ok (hs : env.Succeeds) (hsummary : config.summary = false)
    (stops : List CallStop) : ∀ {c : Context} {tracee : Tracee}, c.Ok →
      c.tracees.lookup tracee.tid = some tracee → Alternating tracee.has_pending_syscall stops →
      Holds (run_stops config env tracee.tid stops) c
        (fun _ c' => ∃ new records,
          CallRun (selected config) tracee.calls stops new.calls records ∧
          Handled config c tracee new records c')
        (fun _ _ => False) := by
  induction stops with
  | nil =>
    intro c tracee hok hold _
    exact ⟨tracee, [], .nil _, .refl config hold hok⟩
  | cons stop stops ih =>
    intro c tracee hok hold halt
    show Holds (run_stop config env tracee.tid stop >>= fun _ =>
      run_stops config env tracee.tid stops) c _ _
    rw [holds_bind]
    apply (run_stop_ok hs hsummary hok hold halt).mono
    · intro _ c₁ hpost
      rcases hpost with ⟨new, records, hstep, hhandled, halt'⟩
      rw [← hhandled.tid]
      apply (ih hhandled.ok hhandled.lookup_self halt').mono
      · intro _ c₂ hpost
        rcases hpost with ⟨new', records', hrun, hhandled'⟩
        exact ⟨new', _, .cons hstep hrun, hhandled.trans hhandled'⟩
      · intro _ _ h
        exact h
    · intro _ _ h
      exact h

end refinement

end Sysgaze
