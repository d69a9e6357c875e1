import Sysgaze.Handlers
import Sysgaze.Seccomp

/-! # One task, traced with and without the seccomp program

    Without the program a tracer is shown every entry and exit of a task.  With it a
    tracer is shown the calls for which the program returns `SECCOMP_RET_TRACE`, and
    their exits.  Both keep the same two calls by the same rules, and both report only
    selected calls.

    What they keep of the selected calls is the same, and so is what they report, as
    long as three things do not happen (`Compared.Steady`):

    * a call is hidden that is entered while a selected one can be restarted: the tracer
      that sees the entry restarts the selected call or gives it up, the other one waits;
    * a call is hidden that is interrupted while a selected one is: the tracer that sees
      the exit forgets the selected call;
    * `restart_syscall` is selected, and only one of the tracers holds a call that it
      can restart.

    `same_while_steady` says so for every history, and that one step keeps the tracers
    together exactly when it is steady.  A handler that runs before `exit_group` is
    enough to lose a record (`parity_unsound`).
-/

open Fallible Stepping

namespace Sysgaze

/-! ### What is kept of the selected calls -/

/-- The number and the arguments of a call, if it is selected. -/
def kept (sel : Int → Bool) (call : Option SyscallEvent) : Option (Int × Vector UInt64 6) :=
  (call.filter fun call => sel call.number).map fun call => (call.number, call.arguments)

/-- What is reported when the kept call ends so. -/
def kept_outcome (call : Option (Int × Vector UInt64 6)) (result error_number : Int) : List Outcome :=
  call.toList.map fun call => ⟨call.1, call.2, result, error_number⟩

/-- The interrupted call that an entry with this number gives up. -/
def given_up (sel : Int → Bool) (calls : Calls) : List Outcome :=
  if calls.ready then kept_outcome (kept sel calls.interrupted) (-1) EINTR else []

section calls
variable {sel : Int → Bool} {call : SyscallEvent} {calls calls' : Calls} {records : List SyscallEvent}
  {number : UInt64} {arguments : Vector UInt64 6} {rval : Int} {is_error : Bool}

theorem kept_some (call : SyscallEvent) :
    kept sel (some call) =
      if sel call.number then some (call.number, call.arguments) else none := by
  unfold kept
  rw [Option.filter_some]
  split
  · rfl
  · rfl

theorem kept_none : kept sel none = none := rfl

/-- What is kept is selected. -/
theorem selected_of_kept {call : Option SyscallEvent} {found : Int × Vector UInt64 6}
    (h : kept sel call = some found) : sel found.1 = true := by
  obtain ⟨event, hevent, rfl⟩ := Option.map_eq_some_iff.mp h
  exact (Option.filter_eq_some_iff.mp hevent).2

/-- A call is reported as far as it is kept. -/
theorem report_outcome {event : SyscallEvent} (hnumber : event.number = call.number)
    (harguments : event.arguments = call.arguments) :
    (report sel event).map SyscallEvent.outcome =
      kept_outcome (kept sel (some call)) event.result event.error_number := by
  unfold report kept_outcome
  rw [kept_some, hnumber]
  split
  · simp [SyscallEvent.outcome, hnumber, harguments]
  · rfl

/-- **An entry**: the interrupted call is pending again, or the entered one is. -/
theorem CallStep.entry_cases (h : CallStep sel calls (.entry number arguments) calls' records) :
    (calls.restarts number = true ∧ calls' = ⟨calls.interrupted, none, false⟩ ∧ records = []) ∨
    (calls.restarts number = false ∧
      (∃ fresh, Fresh sel number arguments fresh ∧
        calls' = ⟨some fresh, if calls.ready then none else calls.interrupted, false⟩) ∧
      records.map SyscallEvent.outcome = given_up sel calls) := by
  cases h with
  | restart hagain =>
    refine .inl ⟨?_, rfl, rfl⟩
    simpa [Calls.restarts] using hagain
  | not_restarted exited_at hne hne' hfresh =>
    refine .inr ⟨by simp [Calls.restarts, hne, hne'], ⟨_, hfresh, rfl⟩, ?_⟩
    exact report_outcome rfl rfl
  | @enter interrupted fresh _ _ hfresh =>
    refine .inr ⟨?_, ⟨_, hfresh, rfl⟩, rfl⟩
    unfold Calls.restarts
    cases interrupted with
    | none => rfl
    | some call => rfl

/-- **An exit**: the pending call is interrupted, or it ends. -/
theorem CallStep.exit_cases (h : CallStep sel calls (.exit rval is_error) calls' records) :
    (calls.pending = none ∧ calls' = calls ∧ records = []) ∨
    (∃ call, calls.pending = some call ∧ is_restart_result rval = true ∧
      calls' = ⟨none, some call, false⟩ ∧ records = []) ∨
    (∃ call, calls.pending = some call ∧ is_restart_result rval = false ∧
      calls' = settle call.number calls.interrupted calls.ready ∧
      records.map SyscallEvent.outcome =
        kept_outcome (kept sel calls.pending) rval (exit_error rval is_error)) := by
  cases h with
  | interrupt hr => exact .inr (.inl ⟨_, rfl, hr, rfl, rfl⟩)
  | complete exited_at hr => exact .inr (.inr ⟨_, rfl, hr, rfl, report_outcome rfl rfl⟩)
  | stray_exit => exact .inl ⟨rfl, rfl, rfl⟩

/-- **An exec event** ends the pending call. -/
theorem CallStep.exec_cases (h : CallStep sel calls .exec calls' records) :
    calls' = { calls with pending := none } ∧
      records.map SyscallEvent.outcome = kept_outcome (kept sel calls.pending) 0 0 := by
  cases h with
  | exec exited_at => exact ⟨rfl, report_outcome rfl rfl⟩
  | stray_exec => exact ⟨rfl, rfl⟩

theorem settle_pending (number : Int) (interrupted : Option SyscallEvent) (ready : Bool) :
    (settle number interrupted ready).pending = none := by
  unfold settle
  split
  · rfl
  · split
    · rfl
    · split
      · rfl
      · rfl

variable (sel) in
/-- Which interrupted call is kept when a call with this number ends. -/
theorem settle_kept (number : Int) (interrupted : Option SyscallEvent) (ready : Bool) :
    kept sel (settle number interrupted ready).interrupted =
        (if number ≠ SYS_rt_sigreturn ∧ ready = false ∧
          (kept sel interrupted).map Prod.fst = some number then none else kept sel interrupted) ∧
      ((kept sel (settle number interrupted ready).interrupted).isSome →
        (settle number interrupted ready).ready = (number == SYS_rt_sigreturn || ready)) := by
  cases interrupted with
  | none => simp [settle, kept_none]
  | some call =>
    unfold settle
    by_cases h15 : number = (15 : Int)
    · simp [h15]
    · cases ready with
      | true => simp [h15]
      | false =>
        by_cases hsame : call.number = number
        · by_cases hsel : sel number = true
          · simp [h15, hsame, kept_some, kept_none, hsel]
          · simp [h15, hsame, kept_some, kept_none, hsel]
        · have hother : ¬number = call.number := fun heq => hsame heq.symm
          by_cases hsel : sel call.number = true
          · simp [h15, hsame, hother, kept_some, hsel]
          · simp [h15, hother, kept_some, hsel]

/-- A call with this number that is pending, as far as it is kept. -/
def kept_entry (sel : Int → Bool) (number : UInt64) (arguments : Vector UInt64 6) :
    Option (Int × Vector UInt64 6) :=
  if sel number.toNat then some ((number.toNat : Int), arguments) else none

/-- Is `rt_sigreturn` pending? -/
def Calls.returns (calls : Calls) : Bool :=
  calls.pending.any fun call => call.number == (SYS_rt_sigreturn : Int)

theorem Fresh.kept_eq {fresh : SyscallEvent} (h : Fresh sel number arguments fresh) :
    kept sel (some fresh) = kept_entry sel number arguments := by
  rw [kept_some, h.number_eq, h.arguments_eq]
  rfl

theorem Calls.ready_of_restarts (h : calls.restarts number = true) :
    calls.ready = true ∧ calls.interrupted.isSome := by
  unfold restarts at h
  split at h
  · rename_i call hcall
    rw [hcall]
    exact ⟨(Bool.and_eq_true_iff.mp h).1, rfl⟩
  · exact absurd h Bool.false_ne_true

/-- **An entry**, as far as calls are kept. -/
theorem CallStep.entry_kept (h : CallStep sel calls (.entry number arguments) calls' records) :
    kept sel calls'.pending = (if calls.restarts number then kept sel calls.interrupted
      else kept_entry sel number arguments) ∧
    kept sel calls'.interrupted = (if calls.ready then none else kept sel calls.interrupted) ∧
    calls'.ready = false ∧ calls'.pending.isSome ∧
    records.map SyscallEvent.outcome =
      (if calls.restarts number then [] else given_up sel calls) ∧
    ((kept sel calls'.interrupted).isSome → calls'.returns = (number.toNat == SYS_rt_sigreturn)) := by
  obtain ⟨hrestarts, rfl, rfl⟩ | ⟨hrestarts, ⟨fresh, hfresh, rfl⟩, hrecords⟩ := h.entry_cases
  · obtain ⟨hready, hsome⟩ := Calls.ready_of_restarts hrestarts
    rw [if_pos hrestarts, if_pos hrestarts, if_pos hready]
    exact ⟨rfl, rfl, rfl, hsome, rfl, fun hkept => absurd hkept Bool.false_ne_true⟩
  · have hnot : ¬calls.restarts number = true := by
      rw [hrestarts]
      exact Bool.false_ne_true
    rw [if_neg hnot, if_neg hnot]
    refine ⟨hfresh.kept_eq, ?_, rfl, rfl, hrecords, fun _ => ?_⟩
    · split
      · rfl
      · rfl
    · show (fresh.number == _) = _
      rw [hfresh.number_eq, Bool.eq_iff_iff, beq_iff_eq, beq_iff_eq]
      exact Int.ofNat_inj

end calls

/-! ### Two tracers of one task -/

/-- Both tracers keep the same calls, when the task is in the call `running`, which the
    program shows or hides. -/
structure Together (sel : Int → Bool) (shows : KernelCall → Bool) (running : Option KernelCall)
    (ordinary seccomp : Calls) : Prop where
  pending : kept sel ordinary.pending = kept sel seccomp.pending
  interrupted : kept sel ordinary.interrupted = kept sel seccomp.interrupted
  ready : (kept sel ordinary.interrupted).isSome → ordinary.ready = seccomp.ready
  returns : (kept sel ordinary.interrupted).isSome → ordinary.returns = seccomp.returns
  idle : running = none → ordinary.pending = none ∧ seccomp.pending = none
  shown : ∀ call, running = some call → shows call = true →
    ordinary.pending.isSome = seccomp.pending.isSome
  hidden : ∀ call, running = some call → shows call = false → seccomp.pending = none

section together
variable {sel : Int → Bool} {shows : KernelCall → Bool} {running : Option KernelCall}
  {call : KernelCall} {ordinary ordinary' seccomp seccomp' : Calls}
  {records records' : List SyscallEvent} {arguments : Vector UInt64 6} {rval : Int}
  {is_error : Bool}

theorem Together.start : Together sel shows none .idle .idle :=
  ⟨rfl, rfl, fun _ => rfl, fun _ => rfl, fun _ => ⟨rfl, rfl⟩, fun _ _ _ => rfl, fun _ _ _ => rfl⟩

/-- An entry gives up the same call. -/
theorem Together.given_up (h : Together sel shows running ordinary seccomp) :
    given_up sel ordinary = given_up sel seccomp := by
  unfold Sysgaze.given_up
  rw [← h.interrupted]
  cases hkept : kept sel ordinary.interrupted with
  | none =>
    split
    · split
      · rfl
      · rfl
    · split
      · rfl
      · rfl
  | some found => rw [h.ready (by rw [hkept]; rfl)]

/-- The interrupted call, if it is kept, decides what restarts it. -/
theorem restarts_of_kept {calls : Calls} {found : Int × Vector UInt64 6}
    (h : kept sel calls.interrupted = some found) (number : UInt64) :
    calls.restarts number = (calls.ready &&
      ((number.toNat : Int) == found.1 || (number.toNat : Int) == SYS_restart_syscall)) := by
  obtain ⟨event, hevent, rfl⟩ := Option.map_eq_some_iff.mp h
  unfold Calls.restarts
  rw [(Option.filter_eq_some_iff.mp hevent).1]

/-- A kept call is restarted by both. -/
theorem Together.restarts (h : Together sel shows running ordinary seccomp)
    (hkept : (kept sel ordinary.interrupted).isSome) (number : UInt64) :
    ordinary.restarts number = seccomp.restarts number := by
  obtain ⟨found, hfound⟩ := Option.isSome_iff_exists.mp hkept
  rw [restarts_of_kept hfound, restarts_of_kept (h.interrupted ▸ hfound), h.ready hkept]

/-- A call that is not kept is restarted through a number that is not selected, or by
    `restart_syscall`. -/
theorem kept_entry_of_restarts {calls : Calls} {number : UInt64} (h : calls.restarts number = true)
    (hkept : kept sel calls.interrupted = none) (h219 : (number.toNat : Int) ≠ SYS_restart_syscall) :
    kept_entry sel number arguments = none := by
  unfold Calls.restarts at h
  split at h
  · rename_i call hcall
    have hsame : (number.toNat : Int) = call.number := by simpa [h219] using (Bool.and_eq_true_iff.mp h).2
    rw [hcall, kept_some] at hkept
    unfold kept_entry
    rw [hsame]
    split at hkept
    · simp at hkept
    · rename_i hsel
      exact if_neg hsel
  · exact absurd h Bool.false_ne_true

/-- **An entry that is shown** keeps the tracers together, unless `restart_syscall` is a
    restart for one of them only. -/
theorem Together.entry_shown (h : Together sel shows none ordinary seccomp)
    (hsteady : (call.number.toNat : Int) = SYS_restart_syscall →
      ordinary.restarts call.number = seccomp.restarts call.number)
    (hordinary : CallStep sel ordinary (.entry call.number arguments) ordinary' records)
    (hseccomp : CallStep sel seccomp (.entry call.number arguments) seccomp' records')
    (hshow : shows call = true) :
    Together sel shows (some call) ordinary' seccomp' ∧
      records.map SyscallEvent.outcome = records'.map SyscallEvent.outcome := by
  obtain ⟨hpending, hinterrupted, hready, hsome, hrecords, hreturns⟩ := hordinary.entry_kept
  obtain ⟨hpending', hinterrupted', hready', hsome', hrecords', hreturns'⟩ := hseccomp.entry_kept
  have hsame : kept sel ordinary'.interrupted = kept sel seccomp'.interrupted ∧
      kept sel ordinary'.pending = kept sel seccomp'.pending ∧
      records.map SyscallEvent.outcome = records'.map SyscallEvent.outcome := by
    rw [hpending, hpending', hinterrupted, hinterrupted', hrecords, hrecords', ← h.given_up,
      ← h.interrupted]
    cases hkept : kept sel ordinary.interrupted with
    | some found =>
      have hkept' : (kept sel ordinary.interrupted).isSome := by
        rw [hkept]
        rfl
      rw [h.restarts hkept', h.ready hkept']
      exact ⟨rfl, rfl, rfl⟩
    | none =>
      -- Nothing is kept of the call that either of them restarts or gives up.
      have hnothing : Sysgaze.given_up sel ordinary = [] := by
        unfold Sysgaze.given_up
        rw [hkept]
        split
        · rfl
        · rfl
      rw [hnothing, ite_self, ite_self, ite_self, ite_self]
      refine ⟨rfl, ?_, rfl⟩
      by_cases h219 : (call.number.toNat : Int) = SYS_restart_syscall
      · rw [hsteady h219]
      · have hentered : ∀ {calls : Calls}, kept sel calls.interrupted = none →
            (if calls.restarts call.number then none else kept_entry sel call.number arguments) =
              kept_entry sel call.number arguments := by
          intro calls hnone
          split
          · rename_i hrestarts
            exact (kept_entry_of_restarts hrestarts hnone h219).symm
          · rfl
        rw [hentered hkept, hentered (h.interrupted ▸ hkept)]
  refine ⟨⟨hsame.2.1, hsame.1, fun _ => hready.trans hready'.symm, ?_, ?_, ?_, ?_⟩, hsame.2.2⟩
  · intro hkept
    rw [hreturns hkept, hreturns' (hsame.1 ▸ hkept)]
  · intro hnone
    exact absurd hnone (Option.some_ne_none call)
  · intro _ _ _
    rw [hsome, hsome']
  · intro other hother hhidden
    rw [← Option.some.inj hother, hshow] at hhidden
    exact absurd hhidden.symm Bool.false_ne_true

/-- Otherwise only one of them keeps the call that is pending. -/
theorem Together.entry_shown_apart (h : Together sel shows none ordinary seccomp)
    (hsel : sel call.number.toNat = true)
    (hdiffer : ordinary.restarts call.number ≠ seccomp.restarts call.number)
    (hordinary : CallStep sel ordinary (.entry call.number arguments) ordinary' records)
    (hseccomp : CallStep sel seccomp (.entry call.number arguments) seccomp' records') :
    kept sel ordinary'.pending ≠ kept sel seccomp'.pending := by
  obtain ⟨hpending, -⟩ := hordinary.entry_kept
  obtain ⟨hpending', -⟩ := hseccomp.entry_kept
  have hnone : kept sel ordinary.interrupted = none := by
    by_contra hkept
    exact hdiffer (h.restarts (Option.isSome_iff_ne_none.mpr hkept) call.number)
  have hentered : kept_entry sel call.number arguments ≠ none := by
    unfold kept_entry
    rw [if_pos hsel]
    exact Option.some_ne_none _
  rw [hpending, hpending', ← h.interrupted, hnone]
  cases hrestarts : ordinary.restarts call.number with
  | true =>
    rw [hrestarts] at hdiffer
    rw [Bool.eq_false_of_not_eq_true hdiffer.symm]
    exact hentered.symm
  | false =>
    rw [hrestarts] at hdiffer
    rw [Bool.eq_true_of_not_eq_false hdiffer.symm]
    exact hentered

/-- **An entry that is hidden** keeps them together, unless a call is given up or
    restarted that is kept. -/
theorem Together.entry_hidden (h : Together sel shows none ordinary seccomp)
    (hsteady : ordinary.ready = true → kept sel ordinary.interrupted = none)
    (hordinary : CallStep sel ordinary (.entry call.number arguments) ordinary' records)
    (hshow : shows call = false) (hsel : sel call.number.toNat = false)
    (h15 : call.number.toNat ≠ SYS_rt_sigreturn) :
    Together sel shows (some call) ordinary' seccomp ∧ records.map SyscallEvent.outcome = [] := by
  obtain ⟨hpending, hinterrupted, hready, hsome, hrecords, hreturns⟩ := hordinary.entry_kept
  obtain ⟨-, hidle⟩ := h.idle rfl
  have hentered : kept_entry sel call.number arguments = none := by
    unfold kept_entry
    rw [hsel]
    rfl
  have hkept : kept sel ordinary'.interrupted = kept sel ordinary.interrupted := by
    rw [hinterrupted]
    split
    · rename_i hr
      exact (hsteady hr).symm
    · rfl
  have hnothing : Sysgaze.given_up sel ordinary = [] := by
    unfold Sysgaze.given_up
    split
    · rename_i hr
      rw [hsteady hr]
      rfl
    · rfl
  refine ⟨⟨?_, hkept.trans h.interrupted, ?_, ?_, ?_, ?_, fun _ _ _ => hidle⟩, ?_⟩
  · rw [hpending, hidle, hentered]
    split
    · rename_i hr
      exact hsteady (Calls.ready_of_restarts hr).1
    · rfl
  · intro hsome
    rw [hready, ← h.ready (hkept ▸ hsome)]
    -- A call that can be restarted is not kept.
    cases hr : ordinary.ready with
    | false => rfl
    | true =>
      rw [hkept, hsteady hr] at hsome
      exact absurd hsome Bool.false_ne_true
  · intro hsome
    rw [hreturns hsome]
    show _ = seccomp.pending.any _
    rw [hidle]
    exact beq_false_of_ne h15
  · intro hnone
    exact absurd hnone (Option.some_ne_none call)
  · intro other hother hshown
    rw [← Option.some.inj hother, hshow] at hshown
    exact absurd hshown Bool.false_ne_true
  · rw [hrecords, hnothing, ite_self]

/-- Otherwise the tracer that sees it restarts the call or reports it. -/
theorem Together.entry_hidden_apart (h : Together sel shows none ordinary seccomp)
    (hready : ordinary.ready = true) (hkept : kept sel ordinary.interrupted ≠ none)
    (hordinary : CallStep sel ordinary (.entry call.number arguments) ordinary' records) :
    kept sel ordinary'.pending ≠ kept sel seccomp.pending ∨
      records.map SyscallEvent.outcome ≠ [] := by
  obtain ⟨hpending, -, -, -, hrecords, -⟩ := hordinary.entry_kept
  rw [hpending, (h.idle rfl).2, hrecords]
  split
  · exact .inl hkept
  · right
    unfold Sysgaze.given_up kept_outcome
    obtain ⟨found, hfound⟩ := Option.ne_none_iff_exists'.mp hkept
    rw [if_pos hready, hfound]
    exact List.cons_ne_nil _ _

/-- The interrupted call that is kept when a call ends. -/
theorem settle_together {interrupted interrupted' : Option SyscallEvent} {ready ready' : Bool}
    {number number' : Int} (hinterrupted : kept sel interrupted = kept sel interrupted')
    (hready : (kept sel interrupted).isSome → ready = ready')
    (hreturns : (kept sel interrupted).isSome →
      (number = SYS_rt_sigreturn ↔ number' = SYS_rt_sigreturn))
    (hnumber : ∀ found, kept sel interrupted = some found → (found.1 = number ↔ found.1 = number')) :
    kept sel (settle number interrupted ready).interrupted =
        kept sel (settle number' interrupted' ready').interrupted ∧
      ((kept sel (settle number interrupted ready).interrupted).isSome →
        (settle number interrupted ready).ready = (settle number' interrupted' ready').ready) := by
  obtain ⟨hleft, hleft'⟩ := settle_kept sel number interrupted ready
  obtain ⟨hright, hright'⟩ := settle_kept sel number' interrupted' ready'
  cases hkept : kept sel interrupted with
  | none =>
    rw [← hinterrupted, hkept, ite_self] at hright
    rw [hkept, ite_self] at hleft
    rw [hleft, hright]
    exact ⟨rfl, fun hsome => absurd hsome Bool.false_ne_true⟩
  | some found =>
    have hsome : (kept sel interrupted).isSome := by
      rw [hkept]
      rfl
    obtain rfl := hready hsome
    have hsame : kept sel (settle number interrupted ready).interrupted =
        kept sel (settle number' interrupted' ready).interrupted := by
      rw [hleft, hright, ← hinterrupted, hkept]
      simp only [Option.map_some, Option.some.injEq, ne_eq, hreturns hsome, hnumber found hkept]
    refine ⟨hsame, fun hstays => ?_⟩
    rw [hleft' hstays, hright' (hsame ▸ hstays)]
    have hbeq : (number == (SYS_rt_sigreturn : Int)) = (number' == (SYS_rt_sigreturn : Int)) := by
      rw [Bool.eq_iff_iff, beq_iff_eq, beq_iff_eq]
      exact hreturns hsome
    rw [hbeq]

/-- After an exit no call is pending. -/
theorem Together.of_exit (hpending : ordinary'.pending = none) (hpending' : seccomp'.pending = none)
    (hinterrupted : kept sel ordinary'.interrupted = kept sel seccomp'.interrupted)
    (hready : (kept sel ordinary'.interrupted).isSome → ordinary'.ready = seccomp'.ready)
    (running : Option KernelCall) : Together sel shows running ordinary' seccomp' := by
  refine ⟨?_, hinterrupted, hready, ?_, fun _ => ⟨hpending, hpending'⟩, ?_, fun _ _ _ => hpending'⟩
  · rw [hpending, hpending']
  · intro _
    unfold Calls.returns
    rw [hpending, hpending']
  · intro _ _ _
    rw [hpending, hpending']

/-- **An exit that is shown** keeps the tracers together. -/
theorem Together.exit_shown (h : Together sel shows (some call) ordinary seccomp)
    (hshow : shows call = true)
    (hordinary : CallStep sel ordinary (.exit rval is_error) ordinary' records)
    (hseccomp : CallStep sel seccomp (.exit rval is_error) seccomp' records') :
    Together sel shows none ordinary' seccomp' ∧
      records.map SyscallEvent.outcome = records'.map SyscallEvent.outcome := by
  have hboth := h.shown call rfl hshow
  obtain ⟨hnone, rfl, rfl⟩ | ⟨event, hevent, hr, rfl, rfl⟩ | ⟨event, hevent, hr, rfl, hrecords⟩ :=
    hordinary.exit_cases
  · rw [hnone] at hboth
    obtain ⟨hnone', rfl, rfl⟩ | ⟨event', hevent', _⟩ | ⟨event', hevent', _⟩ := hseccomp.exit_cases
    · exact ⟨.of_exit hnone hnone' h.interrupted h.ready none, rfl⟩
    · rw [hevent'] at hboth
      exact absurd hboth Bool.false_ne_true
    · rw [hevent'] at hboth
      exact absurd hboth Bool.false_ne_true
  · rw [hevent] at hboth
    obtain ⟨hnone', _⟩ | ⟨event', hevent', _, rfl, rfl⟩ | ⟨event', hevent', hr', _⟩ :=
      hseccomp.exit_cases
    · rw [hnone'] at hboth
      exact absurd hboth.symm Bool.false_ne_true
    · have hkept := h.pending
      rw [hevent, hevent'] at hkept
      refine ⟨.of_exit rfl rfl hkept ?_ none, rfl⟩
      exact fun _ => rfl
    · rw [hr] at hr'
      exact absurd hr'.symm Bool.false_ne_true
  · rw [hevent] at hboth
    obtain ⟨hnone', _⟩ | ⟨event', hevent', hr', _⟩ | ⟨event', hevent', _, rfl, hrecords'⟩ :=
      hseccomp.exit_cases
    · rw [hnone'] at hboth
      exact absurd hboth.symm Bool.false_ne_true
    · rw [hr] at hr'
      exact absurd hr' Bool.false_ne_true
    · have hpending := h.pending
      rw [hevent, hevent'] at hpending
      have hreturns : (kept sel ordinary.interrupted).isSome →
          (event.number = SYS_rt_sigreturn ↔ event'.number = SYS_rt_sigreturn) := by
        intro hsome
        have hsame := h.returns hsome
        unfold Calls.returns at hsame
        rw [hevent, hevent', Option.any_some, Option.any_some, Bool.eq_iff_iff, beq_iff_eq,
          beq_iff_eq] at hsame
        exact hsame
      -- The ended call drops the interrupted one only if it is kept as well.
      have hnumber : ∀ found, kept sel ordinary.interrupted = some found →
          (found.1 = event.number ↔ found.1 = event'.number) := by
        intro found hfound
        have hsel := selected_of_kept hfound
        constructor
        · intro hsame
          rw [kept_some, ← hsame, if_pos hsel, kept_some] at hpending
          split at hpending
          · exact congrArg Prod.fst (Option.some.inj hpending)
          · simp at hpending
        · intro hsame
          rw [kept_some, kept_some, ← hsame, if_pos hsel] at hpending
          split at hpending
          · exact (congrArg Prod.fst (Option.some.inj hpending)).symm
          · simp at hpending
      obtain ⟨hinterrupted, hready⟩ := settle_together h.interrupted h.ready hreturns hnumber
      refine ⟨.of_exit (settle_pending _ _ _) (settle_pending _ _ _) hinterrupted hready none, ?_⟩
      rw [hrecords, hrecords', h.pending]

/-- **An exit that is hidden** keeps them together, unless it interrupts a call while
    another one is kept. -/
theorem Together.exit_hidden (h : Together sel shows (some call) ordinary seccomp)
    (hshow : shows call = false)
    (hsteady : ordinary.pending.isSome → is_restart_result rval = true →
      kept sel ordinary.interrupted = none)
    (hordinary : CallStep sel ordinary (.exit rval is_error) ordinary' records) :
    Together sel shows none ordinary' seccomp ∧ records.map SyscallEvent.outcome = [] := by
  have hidle := h.hidden call rfl hshow
  have hpending := h.pending
  rw [hidle, kept_none] at hpending
  obtain ⟨hnone, rfl, rfl⟩ | ⟨event, hevent, hr, rfl, rfl⟩ | ⟨event, hevent, hr, rfl, hrecords⟩ :=
    hordinary.exit_cases
  · exact ⟨.of_exit hnone hidle h.interrupted h.ready none, rfl⟩
  · have hkept : kept sel ordinary.interrupted = none := hsteady (by rw [hevent]; rfl) hr
    rw [hevent] at hpending
    refine ⟨.of_exit rfl hidle ?_ ?_ none, rfl⟩
    · show kept sel (some event) = _
      rw [hpending, ← h.interrupted, hkept]
    · intro hsome
      rw [hpending] at hsome
      exact absurd hsome Bool.false_ne_true
  · rw [hpending] at hrecords
    obtain ⟨hkept, hready⟩ := settle_kept sel event.number ordinary.interrupted ordinary.ready
    have hstays : kept sel (settle event.number ordinary.interrupted ordinary.ready).interrupted =
        kept sel ordinary.interrupted := by
      rw [hkept, ite_eq_right_iff]
      intro hdrops
      obtain ⟨found, hfound, hsame⟩ := Option.map_eq_some_iff.mp hdrops.2.2
      rw [hevent, kept_some, ← hsame, if_pos (selected_of_kept hfound)] at hpending
      exact absurd hpending (Option.some_ne_none _)
    refine ⟨.of_exit (settle_pending _ _ _) hidle (hstays.trans h.interrupted) ?_ none, hrecords⟩
    intro hsome
    rw [hready hsome, ← h.ready (hstays ▸ hsome)]
    have hreturns := h.returns (hstays ▸ hsome)
    unfold Calls.returns at hreturns
    rw [hevent, hidle, Option.any_some, Option.any_none] at hreturns
    rw [hreturns, Bool.false_or]

/-- Otherwise the tracer that sees it forgets the call. -/
theorem Together.exit_hidden_apart (h : Together sel shows (some call) ordinary seccomp)
    (hshow : shows call = false) (hpending : ordinary.pending.isSome)
    (hr : is_restart_result rval = true) (hkept : kept sel ordinary.interrupted ≠ none)
    (hordinary : CallStep sel ordinary (.exit rval is_error) ordinary' records) :
    kept sel ordinary'.interrupted ≠ kept sel seccomp.interrupted := by
  have hunselected := h.pending
  rw [h.hidden call rfl hshow, kept_none] at hunselected
  obtain ⟨hnone, _⟩ | ⟨event, hevent, _, rfl, _⟩ | ⟨event, hevent, hr', _⟩ := hordinary.exit_cases
  · rw [hnone] at hpending
    exact absurd hpending Bool.false_ne_true
  · show kept sel (some event) ≠ _
    rw [← hevent, hunselected, ← h.interrupted]
    exact hkept.symm
  · rw [hr] at hr'
    exact absurd hr'.symm Bool.false_ne_true

/-- **An exec event**, which is never hidden, keeps the tracers together. -/
theorem Together.exec (h : Together sel shows (some call) ordinary seccomp)
    (hordinary : CallStep sel ordinary .exec ordinary' records)
    (hseccomp : CallStep sel seccomp .exec seccomp' records') :
    Together sel shows (some call) ordinary' seccomp' ∧
      records.map SyscallEvent.outcome = records'.map SyscallEvent.outcome := by
  obtain ⟨rfl, hrecords⟩ := hordinary.exec_cases
  obtain ⟨rfl, hrecords'⟩ := hseccomp.exec_cases
  refine ⟨.of_exit rfl rfl ?_ ?_ (some call), ?_⟩
  · exact h.interrupted
  · exact h.ready
  · rw [hrecords, hrecords', h.pending]

/-! ### What a step does, and when it keeps the tracers together -/

/-- What a tracer does that is shown this stop, or none. -/
def Heard (sel : Int → Bool) (calls : Calls) (stop : Option CallStop) (calls' : Calls)
    (records : List SyscallEvent) : Prop :=
  match stop with
  | some stop => CallStep sel calls stop calls' records
  | none => calls' = calls ∧ records = []

/-- None of the three things happens at this stop, which the program shows or hides. -/
def Steady (sel : Int → Bool) (shown : Bool) (ordinary seccomp : Calls) : Option CallStop → Prop
  | some (.entry number _) =>
    if shown then (number.toNat : Int) = SYS_restart_syscall →
      ordinary.restarts number = seccomp.restarts number
    else ordinary.ready = true → kept sel ordinary.interrupted = none
  | some (.exit rval _) =>
    shown = false → ordinary.pending.isSome → is_restart_result rval = true →
      kept sel ordinary.interrupted = none
  | some .exec | none => True

instance (sel : Int → Bool) (shown : Bool) (ordinary seccomp : Calls) :
    ∀ stop, Decidable (Steady sel shown ordinary seccomp stop)
  | some (.entry number _) => inferInstanceAs (Decidable
      (if shown then (number.toNat : Int) = SYS_restart_syscall →
        ordinary.restarts number = seccomp.restarts number
      else ordinary.ready = true → kept sel ordinary.interrupted = none))
  | some (.exit rval _) => inferInstanceAs (Decidable
      (shown = false → ordinary.pending.isSome → is_restart_result rval = true →
        kept sel ordinary.interrupted = none))
  | some .exec => inferInstanceAs (Decidable True)
  | none => inferInstanceAs (Decidable True)

/-- The tracers keep the same selected calls, and have reported the same. -/
structure Alike (sel : Int → Bool) (ordinary seccomp : Calls) (outcomes outcomes' : List Outcome) :
    Prop where
  pending : kept sel ordinary.pending = kept sel seccomp.pending
  interrupted : kept sel ordinary.interrupted = kept sel seccomp.interrupted
  outcomes : outcomes = outcomes'

/-- From tracers that are together: they stay together if the step is steady, and do not
    even look alike otherwise. -/
structure Decides (sel : Int → Bool) (shows : KernelCall → Bool) (running : Option KernelCall)
    (steady : Prop) (ordinary seccomp : Calls) (records records' : List SyscallEvent) : Prop where
  together : steady → Together sel shows running ordinary seccomp ∧
    records.map SyscallEvent.outcome = records'.map SyscallEvent.outcome
  apart : ¬steady →
    ¬Alike sel ordinary seccomp (records.map SyscallEvent.outcome)
      (records'.map SyscallEvent.outcome)

/-- Entries. -/
theorem Together.entry (h : Together sel shows none ordinary seccomp)
    (hshows : shows call = (sel call.number.toNat || call.number.toNat == SYS_rt_sigreturn))
    (hordinary : CallStep sel ordinary (.entry call.number arguments) ordinary' records)
    (hseccomp : Heard sel seccomp
      (if shows call then some (.entry call.number arguments) else none) seccomp' records') :
    Decides sel shows (some call)
      (Steady sel (shows call) ordinary seccomp (some (.entry call.number arguments)))
      ordinary' seccomp' records records' := by
  cases hshow : shows call with
  | true =>
    rw [hshow, if_pos rfl] at hseccomp
    refine ⟨fun hsteady => h.entry_shown hsteady hordinary hseccomp hshow, ?_⟩
    intro hnot halike
    obtain ⟨h219, hdiffer⟩ := Classical.not_imp.mp hnot
    have hsel : sel call.number.toNat = true := by
      rw [hshow] at hshows
      obtain hsel | h15 := Bool.or_eq_true_iff.mp hshows.symm
      · exact hsel
      · rw [beq_iff_eq.mp h15] at h219
        exact absurd h219 (by decide)
    exact h.entry_shown_apart hsel hdiffer hordinary hseccomp halike.pending
  | false =>
    rw [hshow, if_neg Bool.false_ne_true] at hseccomp
    obtain ⟨rfl, rfl⟩ := hseccomp
    rw [hshow] at hshows
    obtain ⟨hsel, h15⟩ := Bool.or_eq_false_iff.mp hshows.symm
    refine ⟨fun hsteady => h.entry_hidden hsteady hordinary hshow hsel (ne_of_beq_false h15), ?_⟩
    intro hnot halike
    obtain ⟨hready, hkept⟩ := Classical.not_imp.mp hnot
    obtain hpending | hrecords := h.entry_hidden_apart hready hkept hordinary
    · exact hpending halike.pending
    · exact hrecords halike.outcomes

/-- Exits. -/
theorem Together.exit (h : Together sel shows (some call) ordinary seccomp)
    (hordinary : CallStep sel ordinary (.exit rval is_error) ordinary' records)
    (hseccomp : Heard sel seccomp (if shows call then some (.exit rval is_error) else none) seccomp'
      records') :
    Decides sel shows none (Steady sel (shows call) ordinary seccomp (some (.exit rval is_error)))
      ordinary' seccomp' records records' := by
  cases hshow : shows call with
  | true =>
    rw [hshow, if_pos rfl] at hseccomp
    refine ⟨fun _ => h.exit_shown hshow hordinary hseccomp, ?_⟩
    intro hnot
    exact absurd (fun hhidden : true = false => absurd hhidden.symm Bool.false_ne_true) hnot
  | false =>
    rw [hshow, if_neg Bool.false_ne_true] at hseccomp
    obtain ⟨rfl, rfl⟩ := hseccomp
    refine ⟨fun hsteady => h.exit_hidden hshow (hsteady rfl) hordinary, ?_⟩
    intro hnot halike
    obtain ⟨-, hnot⟩ := Classical.not_imp.mp hnot
    obtain ⟨hpending, hnot⟩ := Classical.not_imp.mp hnot
    obtain ⟨hr, hkept⟩ := Classical.not_imp.mp hnot
    exact h.exit_hidden_apart hshow hpending hr hkept hordinary halike.interrupted

end together

/-! ### What the program shows -/

/-- Does the program that is built for the filter show this call to its tracer? -/
def seccomp_shows (selection : Filter) (number : UInt64) (arguments : Vector UInt64 6) : Bool :=
  match prepare_seccomp_program selection true with
  | .ok filter =>
    let data : SeccompData := ⟨number.toUInt32, AUDIT_ARCH_X86_64, 0, arguments⟩
    ClassicBpf.exec data.load filter.program 0 == some SECCOMP_RET_TRACE
  | .error _ => false

def KernelCall.shown (selection : Filter) (call : KernelCall) : Bool :=
  seccomp_shows selection call.number call.arguments

/-- A call that is not an x32 call. -/
def KernelCall.native (number : UInt64) : Bool := number.toNat < SG_X32_SYSCALL_BIT.toNat

/-- Of the native calls it shows the selected ones and `rt_sigreturn`. -/
theorem seccomp_shows_eq {selection : Filter} {number : UInt64} (arguments : Vector UInt64 6)
    (hnative : KernelCall.native number = true) :
    seccomp_shows selection number arguments =
      (sg_filter_contains selection number.toNat || number.toNat == SYS_rt_sigreturn) := by
  have hsmall : number.toNat < 2 ^ 30 := of_decide_eq_true hnative
  obtain ⟨filter, hfilter, hprogram, -⟩ := prepare_seccomp_program_ok selection
  have hnr : number.toUInt32.toNat = number.toNat := by
    rw [UInt64.toNat_toUInt32]
    omega
  have habi : ¬SG_X32_SYSCALL_BIT ≤ number.toUInt32 := by
    rw [UInt32.le_iff_toNat_le, hnr]
    exact Nat.not_le.mpr hsmall
  unfold seccomp_shows
  rw [hfilter]
  dsimp only
  rw [hprogram, exec_seccomp_instructions, seccomp_verdict]
  dsimp only
  rw [if_neg (fun hother => hother rfl), if_neg habi, hnr]
  split
  · rename_i hshown
    obtain hsel | h15 := hshown.2
    · rw [hsel]
      rfl
    · rw [h15]
      simp
  · rename_i hhidden
    -- A number from 512 on is not in the filter.
    have hnot : ¬(sg_filter_contains selection number.toNat || number.toNat == SYS_rt_sigreturn) = true := by
      intro hshown
      apply hhidden
      obtain hsel | h15 := Bool.or_eq_true_iff.mp hshown
      · refine ⟨?_, .inl hsel⟩
        by_contra hlarge
        have hrange : SG_SYSCALL_LIMIT ≤ (number.toNat : Int).toNat := Nat.not_lt.mp hlarge
        rw [sg_filter_contains_of_ge selection (.inr hrange)] at hsel
        exact absurd hsel Bool.false_ne_true
      · have h15 := beq_iff_eq.mp h15
        exact ⟨by rw [h15]; decide, .inr h15⟩
    rw [Bool.eq_false_of_not_eq_true hnot]
    rfl

/-! ### Along a history -/

/-- A task, and the two tracers: one that is shown everything, and one behind the program. -/
structure Compared where
  task : UserTask
  ordinary : Context
  seccomp : Context

/-- The configuration with the seccomp program. -/
def Config.filtered (config : Config) : Config := { config with seccomp_bpf := true }

/-- Only native calls are entered. -/
def TaskEvent.native : TaskEvent → Bool
  | .enters number _ | .reenters number _ => KernelCall.native number
  | _ => true

/-- Does the event stop the task for the tracer behind the program?  An exit does when the
    entry has; an exec always does. -/
def TaskEvent.shown (selection : Filter) (task : UserTask) : TaskEvent → Bool
  | .enters number arguments | .reenters number arguments => seccomp_shows selection number arguments
  | .ends _ _ | .returns _ _ _ => task.running.any (KernelCall.shown selection)
  | .execs | .signal => true

/-- The stop that this tracer sees. -/
def TaskEvent.seccomp_stop (selection : Filter) (task : UserTask) (event : TaskEvent) : Option CallStop :=
  if event.shown selection task then event.stop else none

/-- A tracer is shown this stop, or none; it may fail. -/
def hear (config : Config) (env : Env) (tid : Pid) (stop : Option CallStop) (context : Context) :
    Option Context :=
  match stop with
  | none => some context
  | some stop =>
    match (run_stop config env tid stop).exec context with
    | (.ok (), context) => some context
    | (.error _, _) => none

/-- An event of the task, and what both tracers do at it. -/
def compared_step (config : Config) (env env' : Env) (tid : Pid) : Machine Compared TaskEvent :=
  fun s event =>
    match s.task.step event with
    | none => (s, false)
    | some task =>
      if event.native then
        match hear config env tid event.stop s.ordinary,
            hear config.filtered env' tid (event.seccomp_stop config.filter s.task) s.seccomp with
        | some ordinary, some seccomp => (⟨task, ordinary, seccomp⟩, true)
        | _, _ => (s, false)
      else (s, false)

/-- The calls that have been written, each with its TID, and what has been written of them. -/
def Context.outcomes (c : Context) : List (Pid × Outcome) :=
  c.completed.map fun line => (line.1, line.2.outcome)

/-- The next event keeps the tracers together. -/
def Compared.Steady (s : Compared) (config : Config) (tid : Pid) (event : TaskEvent) : Prop :=
  Sysgaze.Steady (selected config) (event.shown config.filter s.task) (s.ordinary.traced_calls tid)
    (s.seccomp.traced_calls tid) event.stop

instance (s : Compared) (config : Config) (tid : Pid) (event : TaskEvent) :
    Decidable (s.Steady config tid event) :=
  inferInstanceAs (Decidable (Sysgaze.Steady _ _ _ _ _))

/-- The tracers have written the same outcomes, and keep the same selected calls. -/
structure Compared.Same (s : Compared) (config : Config) (tid : Pid) : Prop where
  outcomes : s.ordinary.outcomes = s.seccomp.outcomes
  pending : kept (selected config) (s.ordinary.traced_calls tid).pending =
    kept (selected config) (s.seccomp.traced_calls tid).pending
  interrupted : kept (selected config) (s.ordinary.traced_calls tid).interrupted =
    kept (selected config) (s.seccomp.traced_calls tid).interrupted

/-- Two tracers that both know the task, and have written the same. -/
structure Compared.Traces (s : Compared) (config : Config) (env env' : Env)
    (tracee tracee' : Tracee) : Prop where
  ordinary : Tracing config env s.ordinary tracee
  seccomp : Tracing config.filtered env' s.seccomp tracee'
  tid : tracee'.tid = tracee.tid
  outcomes : s.ordinary.outcomes = s.seccomp.outcomes

section histories
variable {config : Config} {env env' : Env} {tracee tracee' : Tracee} {c : Context}
  {s start : Compared} {event : TaskEvent} {task' : UserTask}

/-- **A tracer hears** a stop that fits its record. -/
theorem Tracing.hears (ht : Tracing config env c tracee) (stop : Option CallStop)
    (hfits : ∀ shown, stop = some shown → Alternating tracee.has_pending_syscall [shown]) :
    ∃ c' new records, hear config env tracee.tid stop c = some c' ∧
      Heard (selected config) tracee.calls stop new.calls records ∧
      Tracing config env c' new ∧ new.tid = tracee.tid ∧
      c'.outcomes = c.outcomes ++ (records.map SyscallEvent.outcome).map fun outcome =>
        (tracee.tid, outcome) := by
  cases stop with
  | none => exact ⟨c, tracee, [], rfl, ⟨rfl, rfl⟩, ht, rfl, (List.append_nil _).symm⟩
  | some stop =>
    obtain ⟨c', new, records, hstep, hhandled, hrun, hcompleted⟩ := ht.run_stop stop (hfits stop rfl)
    refine ⟨c', new, records, ?_, hstep, hhandled.tracing ht, hhandled.tid, ?_⟩
    · unfold hear
      dsimp only
      rw [hrun]
    · unfold Context.outcomes
      rw [hcompleted, List.map_append, List.map_map, List.map_map]
      rfl

variable (config) in
/-- **What an event does** to tracers that are together. -/
theorem Together.step {task : UserTask} {ordinary ordinary' seccomp seccomp' : Calls}
    {records records' : List SyscallEvent}
    (h : Together (selected config) (KernelCall.shown config.filter) task.running ordinary seccomp)
    (hactive : config.filter.active = true) (hnative : event.native = true)
    (htask : task.step event = some task')
    (hordinary : Heard (selected config) ordinary event.stop ordinary' records)
    (hseccomp : Heard (selected config) seccomp (event.seccomp_stop config.filter task) seccomp'
      records') :
    Decides (selected config) (KernelCall.shown config.filter) task'.running
      (Sysgaze.Steady (selected config) (event.shown config.filter task) ordinary seccomp event.stop)
      ordinary' seccomp' records records' := by
  have hshows : ∀ call : KernelCall, KernelCall.native call.number = true →
      call.shown config.filter =
        (selected config call.number.toNat || call.number.toNat == SYS_rt_sigreturn) := by
    intro call hcall
    unfold KernelCall.shown selected
    rw [seccomp_shows_eq call.arguments hcall, hactive]
    rfl
  obtain ⟨number, arguments, rfl, hrunning, -, rfl⟩ |
    ⟨call, number, arguments, rfl, hrunning, -, hagain, rfl⟩ |
    ⟨call, rval, is_error, rfl, hrunning, -, rfl⟩ |
    ⟨call, frame, frames, rval, is_error, restart, rfl, hrunning, -, -, rfl⟩ |
    ⟨call, rfl, hrunning, -, rfl⟩ | ⟨rfl, hrunning, rfl⟩ := UserTask.step_cases htask
  · rw [hrunning] at h
    exact h.entry (hshows ⟨task.entered, number, arguments⟩ hnative) hordinary hseccomp
  · rw [hrunning] at h
    obtain rfl := KernelCall.again_arguments hagain
    exact h.entry (hshows { call with number := number } hnative) hordinary hseccomp
  · rw [hrunning] at h
    have hshown : TaskEvent.shown config.filter task (.ends rval is_error) = call.shown config.filter := by
      show task.running.any _ = _
      rw [hrunning, Option.any_some]
    rw [TaskEvent.seccomp_stop, hshown] at hseccomp
    rw [hshown]
    exact h.exit hordinary hseccomp
  · rw [hrunning] at h
    have hshown : TaskEvent.shown config.filter task (.returns rval is_error restart) =
        call.shown config.filter := by
      show task.running.any _ = _
      rw [hrunning, Option.any_some]
    rw [TaskEvent.seccomp_stop, hshown] at hseccomp
    rw [hshown, UserTask.pop_running]
    exact h.exit hordinary hseccomp
  · rw [hrunning] at h
    refine ⟨fun _ => ?_, fun hnot => absurd trivial hnot⟩
    show Together _ _ task.running _ _ ∧ _
    rw [hrunning]
    exact h.exec hordinary hseccomp
  · obtain ⟨rfl, rfl⟩ := hordinary
    obtain ⟨rfl, rfl⟩ := hseccomp
    exact ⟨fun _ => ⟨h, rfl⟩, fun hnot => absurd trivial hnot⟩

/-- A stop of a legal history fits a record that has no call pending when the task is in
    none. -/
theorem TaskEvent.fits {task : UserTask} {pending : Bool} {stop : CallStop}
    (hnative : event.native = true) (htask : task.step event = some task')
    (hpending : task.running = none → pending = false) (hstop : event.stop = some stop) :
    Alternating pending [stop] := by
  cases stop with
  | exit rval is_error => trivial
  | exec => trivial
  | entry number arguments =>
    obtain ⟨hrunning, -⟩ := UserTask.step_entry htask hstop
    have hsmall : KernelCall.native number = true := by
      cases event with
      | enters other _ => exact (CallStop.entry.inj (Option.some.inj hstop)).1 ▸ hnative
      | reenters other _ => exact (CallStop.entry.inj (Option.some.inj hstop)).1 ▸ hnative
      | ends => exact absurd (Option.some.inj hstop) (by simp)
      | returns => exact absurd (Option.some.inj hstop) (by simp)
      | execs => exact absurd (Option.some.inj hstop) (by simp)
      | signal => exact absurd hstop (by simp [TaskEvent.stop])
    have hsmall : number.toNat < 2 ^ 30 := of_decide_eq_true hsmall
    refine ⟨hpending hrunning, ?_, trivial⟩
    show number.toNat ≤ 2 ^ 63 - 1
    omega

/-- The tracers have written the same, and are together. -/
def Compared.Matched (s : Compared) (config : Config) (env env' : Env) (tid : Pid) : Prop :=
  ∃ tracee tracee', s.Traces config env env' tracee tracee' ∧ tracee.tid = tid ∧
    Together (selected config) (KernelCall.shown config.filter) s.task.running tracee.calls tracee'.calls

theorem Tracing.traced_calls (ht : Tracing config env c tracee) :
    c.traced_calls tracee.tid = tracee.calls := by
  unfold Context.traced_calls
  rw [ht.known]

theorem Compared.Matched.same {tid : Pid} (h : s.Matched config env env' tid) : s.Same config tid := by
  obtain ⟨tracee, tracee', ht, rfl, htogether⟩ := h
  refine ⟨ht.outcomes, ?_, ?_⟩
  · rw [ht.ordinary.traced_calls, ← ht.tid, ht.seccomp.traced_calls]
    exact htogether.pending
  · rw [ht.ordinary.traced_calls, ← ht.tid, ht.seccomp.traced_calls]
    exact htogether.interrupted

/-- **One event**: both tracers handle it, and it keeps them together exactly when it is
    steady. -/
theorem Compared.Matched.step {tid : Pid} (h : s.Matched config env env' tid)
    (hactive : config.filter.active = true) (hnative : event.native = true)
    (htask : s.task.step event = some task') :
    ∃ s', compared_step config env env' tid s event = (s', true) ∧
      (s.Steady config tid event → s'.Matched config env env' tid) ∧
      (¬s.Steady config tid event → ¬s'.Same config tid) := by
  obtain ⟨tracee, tracee', ht, rfl, htogether⟩ := h
  have hpending : s.task.running = none → tracee.has_pending_syscall = false := by
    intro hnone
    rw [← Tracee.calls_pending, (htogether.idle hnone).1]
    rfl
  have hpending' : s.task.running = none → tracee'.has_pending_syscall = false := by
    intro hnone
    rw [← Tracee.calls_pending, (htogether.idle hnone).2]
    rfl
  obtain ⟨c, new, records, hhear, hheard, hnew, htid, houtcomes⟩ := ht.ordinary.hears event.stop
    fun stop hstop => TaskEvent.fits hnative htask hpending hstop
  obtain ⟨c', new', records', hhear', hheard', hnew', htid', houtcomes'⟩ :=
    ht.seccomp.hears (event.seccomp_stop config.filter s.task) fun stop hstop =>
      TaskEvent.fits hnative htask hpending' (Option.ite_none_right_eq_some.mp hstop).2
  have hdecides := htogether.step config hactive hnative htask hheard hheard'
  have hsteady : s.Steady config tracee.tid event ↔ Sysgaze.Steady (selected config)
      (event.shown config.filter s.task) tracee.calls tracee'.calls event.stop := by
    unfold Compared.Steady
    rw [ht.ordinary.traced_calls, ← ht.tid, ht.seccomp.traced_calls]
  have hsame : ∀ outcomes : List Outcome, outcomes = records'.map SyscallEvent.outcome →
      c'.outcomes = s.seccomp.outcomes ++ outcomes.map fun outcome => (tracee.tid, outcome) := by
    rintro _ rfl
    rw [houtcomes', ht.tid]
  refine ⟨⟨task', c, c'⟩, ?_, ?_, ?_⟩
  · rw [ht.tid] at hhear'
    unfold compared_step
    simp only [htask, hnative, if_true, hhear, hhear']
  · intro hs
    obtain ⟨hafter, hrecords⟩ := hdecides.together (hsteady.mp hs)
    refine ⟨new, new', ⟨hnew, hnew', ?_, ?_⟩, htid, hafter⟩
    · rw [htid', htid, ht.tid]
    · rw [houtcomes, hsame _ hrecords, ht.outcomes]
  · intro hs hafter
    apply hdecides.apart fun hs' => hs (hsteady.mpr hs')
    have hcalls : c.traced_calls tracee.tid = new.calls := by
      rw [← htid, hnew.traced_calls]
    have hcalls' : c'.traced_calls tracee.tid = new'.calls := by
      rw [← ht.tid, ← htid', hnew'.traced_calls]
    refine ⟨?_, ?_, ?_⟩
    · have := hafter.pending
      rwa [hcalls, hcalls'] at this
    · have := hafter.interrupted
      rwa [hcalls, hcalls'] at this
    · have := hafter.outcomes
      rw [houtcomes, hsame _ rfl, ht.outcomes] at this
      have hmapped := List.append_cancel_left this
      exact (List.map_injective_iff.mpr fun _ _ heq => congrArg Prod.snd heq) hmapped

/-- **Parity**, along every history: while every step is steady the two tracers handle
    everything, write the same outcomes and keep the same selected calls.  The first step
    that is not steady is the one after which they no longer do. -/
theorem same_while_steady {tid : Pid} (hactive : config.filter.active = true)
    (hstart : start.Traces config env env' tracee tracee') (htid : tracee.tid = tid)
    (hidle : tracee.calls = .idle) (hidle' : tracee'.calls = .idle)
    (hrunning : start.task.running = none) {history : List TaskEvent}
    (hr : Reaches (compared_step config env env' tid) (fun _ s event => s.Steady config tid event)
      start history s) :
    s.Same config tid ∧ ∀ event task', event.native = true → s.task.step event = some task' →
      ∃ s', compared_step config env env' tid s event = (s', true) ∧
        (s'.Same config tid ↔ s.Steady config tid event) := by
  have hmatched : s.Matched config env env' tid := by
    apply hr.invariant (I := fun _ s => Compared.Matched s config env env' tid)
    · refine ⟨tracee, tracee', hstart, htid, ?_⟩
      rw [hidle, hidle', hrunning]
      exact .start
    · intro _ s₁ event s₂ h hsteady hstep
      cases htask : s₁.task.step event with
      | none =>
        unfold compared_step at hstep
        simp only [htask] at hstep
        exact absurd (Prod.mk.inj hstep).2 Bool.false_ne_true
      | some task =>
        have hnative : event.native = true := by
          by_contra hnot
          unfold compared_step at hstep
          simp only [htask, if_neg hnot] at hstep
          exact absurd (Prod.mk.inj hstep).2 Bool.false_ne_true
        obtain ⟨s', hstep', htogether, -⟩ := h.step hactive hnative htask
        rw [(Prod.mk.inj (hstep.symm.trans hstep')).1]
        exact htogether hsteady
  refine ⟨hmatched.same, ?_⟩
  intro event task' hnative htask
  obtain ⟨s', hstep, htogether, hapart⟩ := hmatched.step hactive hnative htask
  refine ⟨s', hstep, ?_, fun hsteady => (htogether hsteady).same⟩
  intro hsame
  by_contra hsteady
  exact hapart hsteady hsame

/-- Only `read` is selected. -/
def Config.read_only : Config :=
  { Config.plain .SG_FORMAT_TEXT with filter := ⟨(Vector.replicate 8 0).set 0 1, true⟩ }

/-- Two tracers of the launched child 100, before it does anything. -/
def Compared.launched : Compared := ⟨.fresh, .launched 100, .launched 100⟩

theorem Compared.launched_traces :
    Compared.launched.Traces .read_only .reliable .reliable (.launched 100) (.launched 100) :=
  ⟨launched_tracing (by decide) rfl, launched_tracing (by decide) rfl, rfl, rfl⟩

/-- The steps of the launched child. -/
abbrev launched_compared_step : Machine Compared TaskEvent :=
  compared_step .read_only .reliable .reliable 100

/-- A `read` is interrupted, the handler asks for the process, and the kernel restarts it. -/
def restarted_read : List TaskEvent :=
  [.enters 0 (Vector.replicate 6 7), .ends (-512) true, .signal, .enters 39 (Vector.replicate 6 0),
    .ends 100 false, .enters sigreturn_number (Vector.replicate 6 0), .returns 0 false true,
    .reenters 0 (Vector.replicate 6 7), .ends 12 false]

/-- The checked run of `restarted_read`. -/
def restarted_read_run : Option Compared :=
  run (Machine.checked launched_compared_step fun s event => decide (s.Steady .read_only 100 event))
    .launched restarted_read

theorem restarted_read_runs : restarted_read_run.isSome = true := by decide +kernel

/-- The record is the same for both, and it stays the same when the next call is hidden. -/
theorem same_while_steady_read :
    ∃ s s', Reaches launched_compared_step (fun _ s event => s.Steady .read_only 100 event) .launched
        restarted_read s ∧ s.Same .read_only 100 ∧
      launched_compared_step s (.enters 39 (Vector.replicate 6 0)) = (s', true) ∧
      s'.Same .read_only 100 := by
  have hr : Reaches launched_compared_step (fun _ s event => s.Steady .read_only 100 event) .launched
      restarted_read (restarted_read_run.get restarted_read_runs) :=
    reaches_of_checked (fun _ _ _ => of_decide_eq_true) (Option.some_get restarted_read_runs).symm
  obtain ⟨task', htask⟩ : ∃ task', (restarted_read_run.get restarted_read_runs).task.step
      (.enters 39 (Vector.replicate 6 0)) = some task' :=
    Option.isSome_iff_exists.mp (by decide +kernel)
  obtain ⟨hsame, hnext⟩ := same_while_steady (by decide) Compared.launched_traces rfl rfl rfl rfl hr
  obtain ⟨s', hstep, hiff⟩ := hnext _ task' (by decide) htask
  exact ⟨_, s', hr, hsame, hstep, hiff.mpr (by decide +kernel)⟩

/-- A `read` is interrupted by a handler, user code is given `EINTR`, and exits. -/
def interrupted_read : List TaskEvent :=
  [.enters 0 (Vector.replicate 6 7), .ends (-512) true, .signal,
    .enters sigreturn_number (Vector.replicate 6 0), .returns (-4) true false,
    .enters 231 (Vector.replicate 6 0)]

/-- The run of `interrupted_read`. -/
def interrupted_read_run : Option Compared := run launched_compared_step .launched interrupted_read

theorem interrupted_read_runs : interrupted_read_run.isSome = true := by decide +kernel

/-- **One handler before `exit_group`** is enough: the `read` is written with `EINTR` when
    everything is shown, and behind the program it is never written. -/
theorem parity_unsound : ¬∀ (config : Config) (env env' : Env) (tracee tracee' : Tracee)
    (start s : Compared) (history : List TaskEvent), config.filter.active = true →
    (∃ number, sg_filter_contains config.filter number = true) →
    start.Traces config env env' tracee tracee' → tracee.calls = .idle → tracee'.calls = .idle →
    start.task = .fresh →
    Reaches (compared_step config env env' tracee.tid) (fun _ _ _ => True) start history s →
    s.ordinary.outcomes = s.seccomp.outcomes := by
  intro hclaim
  have hr : Reaches launched_compared_step (fun _ _ _ => True) .launched interrupted_read
      (interrupted_read_run.get interrupted_read_runs) :=
    reaches_of_run (fun _ _ => trivial) (Option.some_get interrupted_read_runs).symm
  have hsame := hclaim _ _ _ _ _ _ _ _ (by decide) ⟨0, by decide⟩ Compared.launched_traces rfl rfl
    rfl hr
  have hdiffer : (interrupted_read_run.get interrupted_read_runs).ordinary.outcomes ≠
      (interrupted_read_run.get interrupted_read_runs).seccomp.outcomes := by decide +kernel
  exact hdiffer hsame

end histories

end Sysgaze
