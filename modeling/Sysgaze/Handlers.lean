import Sysgaze.Restart

/-! # Signal handlers, and when a call counts as interrupted

    The kernel's side of one task: each signal that is handled pushes a frame, which
    holds how the task goes on below it, and each `rt_sigreturn` pops one.  A call that
    ended with a restart result is entered again at once, or when the frame of the
    handler that interrupted it has been popped, unless user code is given `EINTR` then.

    The tracer keeps one interrupted call and one flag.  `Watch` says which call of the
    task they stand for.  What `begin_syscall` concludes from them is right along every
    history whose events are `Clear` (`decisions_sound`): the flag is raised only by the
    frame of that very call, no handler starts before the call is entered again, and the
    next call of user code cannot be taken for it.

    Two signals that are delivered together are enough for a wrong `EINTR`
    (`eintr_unsound`).
-/

open Fallible Stepping

namespace Sysgaze

/-! ### The kernel's side of a task -/

/-- A call as the kernel knows it: which one it is, and the number and the arguments with
    which it was last entered. -/
structure KernelCall where
  id : Nat
  number : UInt64
  arguments : Vector UInt64 6
  deriving DecidableEq

/-- How a task goes on when no handler runs. -/
inductive Resume where
  /-- With user code. -/
  | user
  /-- It has been interrupted in a call, and nothing is decided. -/
  | undecided (call : KernelCall)
  /-- The kernel enters the call again. -/
  | restart (call : KernelCall)
  deriving DecidableEq

/-- One task as the kernel sees it. -/
structure UserTask where
  /-- The number of calls that user code has made. -/
  entered : Nat
  /-- The call that the task is in. -/
  running : Option KernelCall
  /-- How the task goes on when the call is over. -/
  resume : Resume
  /-- What the handlers that run have interrupted, innermost first. -/
  frames : List Resume
  /-- The calls for which user code has been given `EINTR`. -/
  returned : List Nat
  deriving DecidableEq

/-- A task that has done nothing yet. -/
def UserTask.fresh : UserTask := ⟨0, none, .user, [], []⟩

/-- What happens to a task. -/
inductive TaskEvent where
  /-- User code makes a call. -/
  | enters (number : UInt64) (arguments : Vector UInt64 6)
  /-- The kernel enters a call again. -/
  | reenters (number : UInt64) (arguments : Vector UInt64 6)
  /-- A call ends, other than `rt_sigreturn`. -/
  | ends (rval : Int) (is_error : Bool)
  /-- `rt_sigreturn` ends; if the frame has interrupted a call, `restart` tells whether the
      kernel enters it again. -/
  | returns (rval : Int) (is_error : Bool) (restart : Bool)
  /-- An exec replaces the program. -/
  | execs
  /-- A signal handler starts. -/
  | signal
  deriving DecidableEq

/-- How a task goes on after a call has ended with this result. -/
def KernelCall.after (call : KernelCall) (rval : Int) : Resume :=
  if is_restart_result rval then .undecided call else .user

/-- May the kernel enter the call again so?  It does through the same number, or through
    `restart_syscall`, and leaves the arguments alone. -/
def KernelCall.again (call : KernelCall) (number : UInt64) (arguments : Vector UInt64 6) : Bool :=
  (number == call.number || (number.toNat : Int) == SYS_restart_syscall) &&
    arguments == call.arguments

/-- The task after a frame has been popped. -/
def UserTask.pop (task : UserTask) (frame : Resume) (frames : List Resume) (restart : Bool) :
    UserTask :=
  match frame with
  | .undecided call =>
    if restart then { task with running := none, resume := .restart call, frames := frames }
    else { task with
      running := none
      resume := .user
      frames := frames
      returned := call.id :: task.returned }
  | resume => { task with running := none, resume := resume, frames := frames }

/-- The task after an event, or `none` if the kernel does not allow it. -/
def UserTask.step (task : UserTask) : TaskEvent → Option UserTask
  | .enters number arguments =>
    match task.running, task.resume with
    | none, .user =>
      some { task with
        entered := task.entered + 1
        running := some ⟨task.entered, number, arguments⟩ }
    | _, _ => none
  | .reenters number arguments =>
    match task.running, task.resume with
    | none, .undecided call | none, .restart call =>
      if call.again number arguments then
        some { task with running := some { call with number := number }, resume := .user }
      else none
    | _, _ => none
  | .ends rval _ =>
    match task.running with
    | some call =>
      if (call.number.toNat : Int) = SYS_rt_sigreturn then none
      else some { task with running := none, resume := call.after rval }
    | none => none
  | .returns _ _ restart =>
    match task.running, task.frames with
    | some call, frame :: frames =>
      if (call.number.toNat : Int) = SYS_rt_sigreturn then some (task.pop frame frames restart)
      else none
    | _, _ => none
  | .execs =>
    match task.running with
    | some call => if is_exec call.number.toNat then some { task with frames := [] } else none
    | none => none
  | .signal =>
    match task.running with
    | none => some { task with resume := .user, frames := task.resume :: task.frames }
    | some _ => none

/-- The stop that a tracer sees which is shown every entry and exit. -/
def TaskEvent.stop : TaskEvent → Option CallStop
  | .enters number arguments | .reenters number arguments => some (.entry number arguments)
  | .ends rval is_error | .returns rval is_error _ => some (.exit rval is_error)
  | .execs => some .exec
  | .signal => none

/-! ### The calls of a task are told apart -/

/-- The call that is waiting to be entered again. -/
def Resume.calls : Resume → List KernelCall
  | .user => []
  | .undecided call | .restart call => [call]

/-- The calls that are waiting to be entered again. -/
def UserTask.waiting (task : UserTask) : List KernelCall :=
  task.resume.calls ++ task.frames.flatMap Resume.calls

/-- The calls that are not over. -/
def UserTask.calls (task : UserTask) : List KernelCall := task.running.toList ++ task.waiting

/-- Each call that is not over has a number of its own, below the next one. -/
structure UserTask.Distinct (task : UserTask) : Prop where
  nodup : (task.calls.map KernelCall.id).Nodup
  below : ∀ id ∈ task.calls.map KernelCall.id, id < task.entered

/-- `rt_sigreturn` is never entered again. -/
def UserTask.Waits (task : UserTask) : Prop :=
  ∀ call ∈ task.waiting, (call.number.toNat : Int) ≠ SYS_rt_sigreturn

section tasks
variable {task task' : UserTask} {event : TaskEvent}

theorem UserTask.fresh_distinct : UserTask.fresh.Distinct :=
  ⟨List.nodup_nil, fun _ h => absurd h List.not_mem_nil⟩

/-- **What an event does** to a task, one case for each event. -/
theorem UserTask.step_cases (h : task.step event = some task') :
    (∃ number arguments, event = .enters number arguments ∧ task.running = none ∧
      task.resume = .user ∧ task' = { task with
        entered := task.entered + 1
        running := some ⟨task.entered, number, arguments⟩ }) ∨
    (∃ call number arguments, event = .reenters number arguments ∧ task.running = none ∧
      (task.resume = .undecided call ∨ task.resume = .restart call) ∧
      call.again number arguments = true ∧
      task' = { task with running := some { call with number := number }, resume := .user }) ∨
    (∃ call rval is_error, event = .ends rval is_error ∧ task.running = some call ∧
      (call.number.toNat : Int) ≠ SYS_rt_sigreturn ∧
      task' = { task with running := none, resume := call.after rval }) ∨
    (∃ call frame frames rval is_error restart, event = .returns rval is_error restart ∧
      task.running = some call ∧ task.frames = frame :: frames ∧
      (call.number.toNat : Int) = SYS_rt_sigreturn ∧ task' = task.pop frame frames restart) ∨
    (∃ call, event = .execs ∧ task.running = some call ∧ is_exec call.number.toNat = true ∧
      task' = { task with frames := [] }) ∨
    (event = .signal ∧ task.running = none ∧
      task' = { task with resume := .user, frames := task.resume :: task.frames }) := by
  obtain ⟨entered, running, resume, frames, returned⟩ := task
  cases event with
  | enters number arguments =>
    cases running with
    | some call => simp [step] at h
    | none =>
      cases resume with
      | user => exact .inl ⟨number, arguments, rfl, rfl, rfl, (Option.some.inj h).symm⟩
      | undecided call => simp [step] at h
      | restart call => simp [step] at h
  | reenters number arguments =>
    cases running with
    | some call => simp [step] at h
    | none =>
      cases resume with
      | user => simp [step] at h
      | undecided call =>
        simp only [step, Option.ite_none_right_eq_some] at h
        exact .inr (.inl ⟨call, number, arguments, rfl, rfl, .inl rfl, h.1,
          (Option.some.inj h.2).symm⟩)
      | restart call =>
        simp only [step, Option.ite_none_right_eq_some] at h
        exact .inr (.inl ⟨call, number, arguments, rfl, rfl, .inr rfl, h.1,
          (Option.some.inj h.2).symm⟩)
  | ends rval is_error =>
    cases running with
    | none => simp [step] at h
    | some call =>
      simp only [step, Option.ite_none_left_eq_some] at h
      exact .inr (.inr (.inl ⟨call, rval, is_error, rfl, rfl, h.1, (Option.some.inj h.2).symm⟩))
  | returns rval is_error restart =>
    cases running with
    | none => simp [step] at h
    | some call =>
      cases frames with
      | nil => simp [step] at h
      | cons frame frames =>
        simp only [step, Option.ite_none_right_eq_some] at h
        exact .inr (.inr (.inr (.inl ⟨call, frame, frames, rval, is_error, restart, rfl, rfl, rfl,
          h.1, (Option.some.inj h.2).symm⟩)))
  | execs =>
    cases running with
    | none => simp [step] at h
    | some call =>
      simp only [step, Option.ite_none_right_eq_some] at h
      exact .inr (.inr (.inr (.inr (.inl ⟨call, rfl, rfl, h.1, (Option.some.inj h.2).symm⟩))))
  | signal =>
    cases running with
    | none => exact .inr (.inr (.inr (.inr (.inr ⟨rfl, rfl, (Option.some.inj h).symm⟩))))
    | some call => simp [step] at h

theorem UserTask.Distinct.of_sublist (h : task.Distinct) (hentered : task'.entered = task.entered)
    (hsub : (task'.calls.map KernelCall.id).Sublist (task.calls.map KernelCall.id)) :
    task'.Distinct := by
  refine ⟨hsub.nodup h.nodup, ?_⟩
  intro id hid
  rw [hentered]
  exact h.below id (hsub.subset hid)

/-- Two calls with one number are one call. -/
theorem UserTask.Distinct.eq (h : task.Distinct) {call call' : KernelCall} (hcall : call ∈ task.calls)
    (hcall' : call' ∈ task.calls) (hid : call.id = call'.id) : call = call' :=
  List.inj_on_of_nodup_map h.nodup hcall hcall' hid

theorem KernelCall.after_calls (call : KernelCall) (rval : Int) :
    (call.after rval).calls.Sublist [call] := by
  unfold after
  split
  · exact .refl _
  · exact List.nil_sublist _

theorem UserTask.pop_running (frame : Resume) (frames : List Resume) (restart : Bool) :
    (task.pop frame frames restart).running = none := by
  unfold pop
  split
  · split
    · rfl
    · rfl
  · rfl

theorem UserTask.pop_waiting (frame : Resume) (frames : List Resume) (restart : Bool) :
    (task.pop frame frames restart).waiting.Sublist
      (frame.calls ++ frames.flatMap Resume.calls) := by
  unfold pop
  cases frame with
  | user => exact .refl _
  | restart call => exact .refl _
  | undecided call =>
    cases restart with
    | true => exact .refl _
    | false => exact List.sublist_append_right _ _

/-- A call that waits after a pop has waited before. -/
theorem UserTask.pop_subset {frame : Resume} {frames : List Resume} (hframes : task.frames = frame :: frames)
    (restart : Bool) : (task.pop frame frames restart).waiting.Sublist task.waiting := by
  apply (pop_waiting frame frames restart).trans
  unfold waiting
  rw [hframes]
  exact List.sublist_append_right _ _

theorem UserTask.pop_entered (frame : Resume) (frames : List Resume) (restart : Bool) :
    (task.pop frame frames restart).entered = task.entered := by
  unfold pop
  split
  · split
    · rfl
    · rfl
  · rfl

/-- The calls that are not over stay told apart. -/
theorem UserTask.Distinct.step (h : task.Distinct) (hstep : task.step event = some task') :
    task'.Distinct := by
  have hcases := UserTask.step_cases hstep
  obtain ⟨entered, running, resume, frames, returned⟩ := task
  obtain ⟨number, arguments, _, rfl, rfl, rfl⟩ |
    ⟨call, number, arguments, _, rfl, hresume, _, rfl⟩ |
    ⟨call, rval, is_error, _, rfl, _, rfl⟩ |
    ⟨call, frame, frames', rval, is_error, restart, _, rfl, rfl, _, rfl⟩ |
    ⟨call, _, rfl, _, rfl⟩ | ⟨_, rfl, rfl⟩ := hcases
  · -- The new call has the next number.
    refine ⟨List.nodup_cons.mpr ⟨fun hmem => absurd (h.below _ hmem) (lt_irrefl _), h.nodup⟩, ?_⟩
    intro id hid
    obtain rfl | hmem := List.mem_cons.mp hid
    · exact Nat.lt_succ_self _
    · exact Nat.lt_succ_of_lt (h.below id hmem)
  · obtain rfl | rfl := hresume
    · exact h.of_sublist rfl (.refl _)
    · exact h.of_sublist rfl (.refl _)
  · have hsub := (call.after_calls rval).append (List.sublist_append_right resume.calls
      (frames.flatMap Resume.calls))
    exact h.of_sublist rfl (hsub.map _)
  · let task : UserTask := ⟨entered, some call, resume, frame :: frames', returned⟩
    have hpop : (task.pop frame frames' restart).calls.Sublist task.calls := by
      unfold calls
      rw [pop_running]
      exact List.sublist_append_of_sublist_right (pop_subset rfl restart)
    exact h.of_sublist (pop_entered frame frames' restart) (hpop.map _)
  · have hsub : ([call] ++ (resume.calls ++ [])).Sublist
        ([call] ++ (resume.calls ++ frames.flatMap Resume.calls)) :=
      (List.Sublist.refl _).append ((List.Sublist.refl _).append (List.nil_sublist _))
    exact h.of_sublist rfl (hsub.map _)
  · exact h.of_sublist rfl (.refl _)

theorem UserTask.fresh_waits : UserTask.fresh.Waits := fun _ h => absurd h List.not_mem_nil

theorem UserTask.Waits.step (h : task.Waits) (hstep : task.step event = some task') : task'.Waits := by
  have hcases := UserTask.step_cases hstep
  obtain ⟨entered, running, resume, frames, returned⟩ := task
  obtain ⟨number, arguments, _, rfl, rfl, rfl⟩ |
    ⟨call, number, arguments, _, rfl, hresume, _, rfl⟩ |
    ⟨call, rval, is_error, _, rfl, hordinary, rfl⟩ |
    ⟨call, frame, frames', rval, is_error, restart, _, rfl, rfl, _, rfl⟩ |
    ⟨call, _, rfl, _, rfl⟩ | ⟨_, rfl, rfl⟩ := hcases
  · exact h
  · exact fun other hother => h other (List.mem_append_right _ hother)
  · intro other hother
    obtain hmem | hmem := List.mem_append.mp hother
    · rw [List.mem_singleton.mp ((call.after_calls rval).subset hmem)]
      exact hordinary
    · exact h other (List.mem_append_right _ hmem)
  · exact fun other hother => h other ((UserTask.pop_subset rfl restart).subset hother)
  · intro other hother
    obtain hmem | hmem := List.mem_append.mp hother
    · exact h other (List.mem_append_left _ hmem)
    · exact absurd hmem List.not_mem_nil
  · exact h

/-- A call that is not over comes from this one: it is the same, or has been entered again
    through `restart_syscall`. -/
def UserTask.Continues (task : UserTask) (old call : KernelCall) : Prop :=
  old ∈ task.calls ∧ old.id = call.id ∧ old.arguments = call.arguments ∧
    (call.number = old.number ∨
      (call.number.toNat : Int) = SYS_restart_syscall ∧ old ∈ task.waiting)

/-- **Where the calls come from** that are not over after an event. -/
theorem UserTask.step_calls (hstep : task.step event = some task') {call : KernelCall}
    (hcall : call ∈ task'.calls) :
    call.id = task.entered ∨ ∃ old, task.Continues old call := by
  have hsame : call ∈ task.calls → ∃ old, task.Continues old call :=
    fun hmem => ⟨call, hmem, rfl, rfl, .inl rfl⟩
  have hcases := UserTask.step_cases hstep
  obtain ⟨entered, running, resume, frames, returned⟩ := task
  obtain ⟨number, arguments, _, rfl, rfl, rfl⟩ |
    ⟨old, number, arguments, _, rfl, hresume, hagain, rfl⟩ |
    ⟨old, rval, is_error, _, rfl, _, rfl⟩ |
    ⟨old, frame, frames', rval, is_error, restart, _, rfl, rfl, _, rfl⟩ |
    ⟨old, _, rfl, _, rfl⟩ | ⟨_, rfl, rfl⟩ := hcases
  · obtain rfl | hmem := List.mem_cons.mp hcall
    · exact .inl rfl
    · exact .inr (hsame hmem)
  · -- The call is entered again.
    have hold : old ∈ resume.calls := by
      obtain rfl | rfl := hresume
      · exact List.mem_singleton.mpr rfl
      · exact List.mem_singleton.mpr rfl
    have hwaits : old ∈ UserTask.waiting ⟨entered, none, resume, frames, returned⟩ :=
      List.mem_append_left _ hold
    obtain rfl | hmem := List.mem_cons.mp hcall
    · refine .inr ⟨old, hwaits, rfl, rfl, ?_⟩
      unfold KernelCall.again at hagain
      simp only [Bool.and_eq_true, Bool.or_eq_true, beq_iff_eq] at hagain
      obtain hnumber | hnumber := hagain.1
      · exact .inl hnumber
      · exact .inr ⟨hnumber, hwaits⟩
    · have hmem : call ∈ frames.flatMap Resume.calls := hmem
      exact .inr (hsame (List.mem_append_right _ (List.mem_append_right resume.calls hmem)))
  · obtain hmem | hmem := List.mem_append.mp hcall
    · exact absurd hmem List.not_mem_nil
    · obtain hmem | hmem := List.mem_append.mp hmem
      · have hmem := (old.after_calls rval).subset hmem
        exact .inr (hsame (List.mem_append_left _ hmem))
      · exact .inr (hsame (List.mem_append_right _ (List.mem_append_right _ hmem)))
  · unfold calls at hcall
    rw [pop_running] at hcall
    exact .inr (hsame (List.mem_append_right _ ((UserTask.pop_subset rfl restart).subset hcall)))
  · obtain hmem | hmem := List.mem_append.mp hcall
    · exact .inr (hsame (List.mem_append_left _ hmem))
    · obtain hmem | hmem := List.mem_append.mp hmem
      · exact .inr (hsame (List.mem_append_right _ (List.mem_append_left _ hmem)))
      · exact absurd hmem List.not_mem_nil
  · exact .inr (hsame hcall)

end tasks

/-! ### What the tracer takes for what -/

/-- The calls of the task that the two calls of the tracer stand for. -/
structure Watch where
  pending : Option Nat
  saved : Option Nat
  deriving DecidableEq

/-- The tracer has seen no call. -/
def Watch.none : Watch := ⟨.none, .none⟩

/-- What the calls stand for after a stop; `id` is the call that the task is in then. -/
def Watch.step (watch : Watch) (calls : Calls) (id : Option Nat) : CallStop → Watch
  | .entry number _ =>
    if calls.restarts number then ⟨watch.saved, .none⟩
    else if calls.ready then ⟨id, .none⟩
    else ⟨id, watch.saved⟩
  | .exit rval _ =>
    match calls.pending with
    | .none => watch
    | some call =>
      if is_restart_result rval then ⟨.none, watch.pending⟩
      else if (settle call.number calls.interrupted calls.ready).interrupted.isSome then
        ⟨.none, watch.saved⟩
      else ⟨.none, .none⟩
  | .exec => ⟨.none, watch.saved⟩

/-- The call that is undecided in a frame. -/
def Resume.undecided_id : Resume → Option Nat
  | .undecided call => some call.id
  | .user | .restart _ => none

/-- Does the task go on with a restart? -/
def Resume.restarts : Resume → Bool
  | .restart _ => true
  | .user | .undecided _ => false

theorem Resume.undecided_of_id {frame : Resume} {id : Nat} (h : frame.undecided_id = some id) :
    ∃ call, frame = .undecided call ∧ call.id = id := by
  cases frame with
  | undecided call => exact ⟨call, rfl, Option.some.inj h⟩
  | user => exact absurd h (by rintro ⟨⟩)
  | restart => exact absurd h (by rintro ⟨⟩)

/-- The event does not confuse the tracer: the frame that `rt_sigreturn` pops is the one of
    the interrupted call, no handler starts while that call is to be entered again, and user
    code does not make a call that would be taken for it. -/
def Clear (calls : Calls) (watch : Watch) (task : UserTask) : TaskEvent → Prop
  | .enters number _ => calls.restarts number = false
  | .returns rval _ _ =>
    calls.pending.isSome → is_restart_result rval = false → calls.interrupted.isSome →
      task.frames.head?.bind Resume.undecided_id = watch.saved
  | .signal => calls.ready = true → task.resume.restarts = false
  | .reenters _ _ | .ends _ _ | .execs => True

instance (calls : Calls) (watch : Watch) (task : UserTask) :
    ∀ event, Decidable (Clear calls watch task event)
  | .enters number _ => inferInstanceAs (Decidable (calls.restarts number = false))
  | .returns rval _ _ => inferInstanceAs (Decidable (calls.pending.isSome →
      is_restart_result rval = false → calls.interrupted.isSome →
        task.frames.head?.bind Resume.undecided_id = watch.saved))
  | .signal => inferInstanceAs (Decidable (calls.ready = true → task.resume.restarts = false))
  | .reenters _ _ | .ends _ _ | .execs => inferInstanceAs (Decidable True)

/-- The tracer's call is this one: it has its arguments, and its number unless that is the
    number of `restart_syscall`. -/
structure StandsFor (event : SyscallEvent) (call : KernelCall) : Prop where
  number : event.number = call.number.toNat ∨ (call.number.toNat : Int) = SYS_restart_syscall
  sigreturn : event.number = SYS_rt_sigreturn ↔ (call.number.toNat : Int) = SYS_rt_sigreturn
  arguments : event.arguments = call.arguments

/-- The tracer's call is the one with this number, unless that is over. -/
structure UserTask.Keeps (task : UserTask) (event : SyscallEvent) (id : Nat) : Prop where
  below : id < task.entered
  stands : ∀ call ∈ task.calls, call.id = id → StandsFor event call

/-- What the tracer concludes at an entry is right: an interrupted call that it gives up has
    returned `EINTR` to user code, and one that it takes for entered again is entered again
    by the kernel, with the arguments that the tracer has saved. -/
structure Right (calls : Calls) (watch : Watch) (task : UserTask) (event : TaskEvent)
    (number : UInt64) : Prop where
  gives_up : calls.ready = true → calls.restarts number = false →
    ∃ id, watch.saved = some id ∧ id ∈ task.returned
  restarts : calls.restarts number = true →
    ∃ call saved, calls.interrupted = some saved ∧ watch.saved = some call.id ∧
      StandsFor saved call ∧ task.resume = .restart call ∧ event = .reenters number call.arguments

/-- **The invariant.** -/
structure Watched (calls : Calls) (watch : Watch) (task : UserTask) : Prop where
  distinct : task.Distinct
  waits : task.Waits
  pending : ∀ event, calls.pending = some event → ∃ call, task.running = some call ∧
    watch.pending = some call.id ∧ StandsFor event call
  saved : ∀ event, calls.interrupted = some event → ∃ id, watch.saved = some id ∧
    task.Keeps event id
  /-- The flag is up: the call has returned `EINTR`, or is to be entered again. -/
  ready : calls.ready = true → calls.interrupted.isSome ∧ task.running = none ∧
    ∃ id, watch.saved = some id ∧
      (id ∈ task.returned ∧ task.resume = .user ∨ ∃ call, task.resume = .restart call ∧ call.id = id)

section watching
variable {sel : Int → Bool} {calls calls' : Calls} {watch : Watch} {task task' : UserTask}
  {event : TaskEvent} {records : List SyscallEvent} {number : UInt64} {arguments : Vector UInt64 6}

/-- Nothing is claimed of a tracer without calls. -/
theorem Watched.idle (hdistinct : task.Distinct) (hwaits : task.Waits) :
    Watched .idle watch task where
  distinct := hdistinct
  waits := hwaits
  pending _ h := by cases h
  saved _ h := by cases h
  ready h := by cases h

/-- A call that stands for another still does when that is entered again. -/
theorem StandsFor.continues {saved : SyscallEvent} {old call : KernelCall} (h : StandsFor saved old)
    (hwaits : task.Waits) (hcontinues : task.Continues old call) : StandsFor saved call := by
  obtain ⟨_, _, harguments, hnumber | ⟨h219, hold⟩⟩ := hcontinues
  · exact ⟨hnumber ▸ h.number, hnumber ▸ h.sigreturn, h.arguments.trans harguments⟩
  · -- `rt_sigreturn` does not wait, so the saved call is another one.
    have hother := hwaits old hold
    refine ⟨.inr h219, ⟨fun h15 => absurd (h.sigreturn.mp h15) hother, fun h15 => ?_⟩,
      h.arguments.trans harguments⟩
    rw [h219] at h15
    exact absurd h15 (by decide)

theorem UserTask.step_entered (hstep : task.step event = some task') :
    task.entered ≤ task'.entered := by
  rcases UserTask.step_cases hstep with ⟨_, _, _, _, _, rfl⟩ | ⟨_, _, _, _, _, _, _, rfl⟩ |
    ⟨_, _, _, _, _, _, rfl⟩ | ⟨_, frame, frames, _, _, restart, _, _, _, _, rfl⟩ |
    ⟨_, _, _, _, rfl⟩ | ⟨_, _, rfl⟩
  · exact Nat.le_succ _
  · exact le_rfl
  · exact le_rfl
  · exact (pop_entered frame frames restart).ge
  · exact le_rfl
  · exact le_rfl

theorem UserTask.Keeps.step {saved : SyscallEvent} {id : Nat} (h : task.Keeps saved id)
    (hwaits : task.Waits) (hstep : task.step event = some task') : task'.Keeps saved id := by
  refine ⟨h.below.trans_le (UserTask.step_entered hstep), ?_⟩
  intro call hcall hid
  rcases UserTask.step_calls hstep hcall with hnew | ⟨old, hcontinues⟩
  · exact absurd (hid.symm.trans hnew) h.below.ne
  · exact (h.stands old hcontinues.1 (hcontinues.2.1.trans hid)).continues hwaits hcontinues

/-- The call that the task is in keeps its number for itself. -/
theorem UserTask.Distinct.keeps {saved : SyscallEvent} {call : KernelCall} (h : task.Distinct)
    (hrunning : task.running = some call) (hstands : StandsFor saved call) :
    task.Keeps saved call.id := by
  have hcall : call ∈ task.calls := by
    unfold UserTask.calls
    rw [hrunning]
    exact List.mem_cons_self
  refine ⟨h.below _ (List.mem_map_of_mem hcall), ?_⟩
  intro other hother hid
  rw [h.eq hother hcall hid]
  exact hstands

/-- No call is pending while the task is in none. -/
theorem Watched.free (h : Watched calls watch task) (hrunning : task.running = none) :
    calls.pending = none := by
  cases hpending : calls.pending with
  | none => rfl
  | some pending =>
    obtain ⟨call, hcall, -, -⟩ := h.pending pending hpending
    rw [hrunning] at hcall
    exact absurd hcall (by simp)

/-- The flag is down while the task is in a call. -/
theorem Watched.not_ready {call : KernelCall} (h : Watched calls watch task)
    (hrunning : task.running = some call) : calls.ready = false := by
  cases hready : calls.ready with
  | false => rfl
  | true =>
    have hnone := (h.ready hready).2.1
    rw [hrunning] at hnone
    exact absurd hnone (by simp)

/-- The kernel's way to enter a call again is the way that the tracer expects. -/
theorem StandsFor.restarts {saved : SyscallEvent} {call : KernelCall} (h : StandsFor saved call)
    (hagain : call.again number arguments = true) :
    (number.toNat : Int) = saved.number ∨ (number.toNat : Int) = SYS_restart_syscall := by
  unfold KernelCall.again at hagain
  simp only [Bool.and_eq_true, Bool.or_eq_true, beq_iff_eq] at hagain
  rcases hagain.1 with rfl | h219
  · exact h.number.imp_left Eq.symm
  · exact .inr h219

theorem KernelCall.again_arguments {call : KernelCall}
    (hagain : call.again number arguments = true) : arguments = call.arguments := by
  unfold again at hagain
  simp only [Bool.and_eq_true, beq_iff_eq] at hagain
  exact hagain.2

/-- **What the tracer concludes is right**, at any entry. -/
theorem Watched.right (h : Watched calls watch task) (hstep : task.step event = some task')
    (hclear : Clear calls watch task event) (hentry : event.stop = some (.entry number arguments)) :
    Right calls watch task event number := by
  rcases UserTask.step_cases hstep with ⟨number', _, rfl, _, hresume, _⟩ |
    ⟨call, number', arguments', rfl, _, hresume, hagain, _⟩ | ⟨_, _, _, rfl, _⟩ |
    ⟨_, _, _, _, _, _, rfl, _⟩ | ⟨_, rfl, _⟩ | ⟨rfl, _⟩
  · -- A call of user code: the interrupted one is not to be entered again.
    obtain ⟨rfl, rfl⟩ := CallStop.entry.inj (Option.some.inj hentry)
    refine ⟨fun hready _ => ?_, fun hrestarts => absurd (hclear.symm.trans hrestarts) (by simp)⟩
    obtain ⟨_, _, id, hsaved, ⟨hreturned, _⟩ | ⟨call, hrestart, _⟩⟩ := h.ready hready
    · exact ⟨id, hsaved, hreturned⟩
    · exact absurd (hresume.symm.trans hrestart) (by simp)
  · obtain ⟨rfl, rfl⟩ := CallStop.entry.inj (Option.some.inj hentry)
    have hcall : call ∈ task.calls := by
      have hwaiting : call ∈ task.resume.calls := by
        rcases hresume with hresume | hresume
        · exact hresume ▸ List.mem_singleton.mpr rfl
        · exact hresume ▸ List.mem_singleton.mpr rfl
      exact List.mem_append_right _ (List.mem_append_left _ hwaiting)
    -- With the flag up, the call that is entered again is the interrupted one.
    have hsame : calls.ready = true → ∃ saved, calls.interrupted = some saved ∧
        watch.saved = some call.id ∧ task.resume = .restart call ∧ StandsFor saved call := by
      intro hready
      obtain ⟨hinterrupted, _, id, hsaved, hcase⟩ := h.ready hready
      obtain ⟨saved, hsavedcall⟩ := Option.isSome_iff_exists.mp hinterrupted
      obtain ⟨id', hid', hkeeps⟩ := h.saved saved hsavedcall
      obtain rfl : id' = id := Option.some.inj (hid'.symm.trans hsaved)
      rcases hcase with ⟨_, huser⟩ | ⟨other, hrestart, hid⟩
      · rcases hresume with hresume | hresume
        · exact absurd (hresume.symm.trans huser) (by simp)
        · exact absurd (hresume.symm.trans huser) (by simp)
      · rcases hresume with hresume | hresume
        · exact absurd (hresume.symm.trans hrestart) (by simp)
        · obtain rfl : call = other := Resume.restart.inj (hresume.symm.trans hrestart)
          exact ⟨saved, hsavedcall, hid ▸ hsaved, hresume, hkeeps.stands call hcall hid⟩
    refine ⟨fun hready hnot => ?_, fun hrestarts => ?_⟩
    · obtain ⟨saved, hinterrupted, _, _, hstands⟩ := hsame hready
      have hyes : calls.restarts number' = true := by
        simpa [Calls.restarts, hinterrupted, hready] using hstands.restarts hagain
      exact absurd (hnot.symm.trans hyes) (by simp)
    · have hready : calls.ready = true := by
        unfold Calls.restarts at hrestarts
        split at hrestarts
        · exact (Bool.and_eq_true _ _ ▸ hrestarts).1
        · exact absurd hrestarts (by simp)
      obtain ⟨saved, hinterrupted, hsaved, hrestart, hstands⟩ := hsame hready
      refine ⟨call, saved, hinterrupted, hsaved, hstands, hrestart, ?_⟩
      rw [KernelCall.again_arguments hagain]
  · exact absurd hentry (by rintro ⟨⟩)
  · exact absurd hentry (by rintro ⟨⟩)
  · exact absurd hentry (by rintro ⟨⟩)
  · exact absurd hentry (by rintro ⟨⟩)

/-- A handler starts. -/
theorem Watched.signal (h : Watched calls watch task) (hstep : task.step .signal = some task')
    (hclear : Clear calls watch task .signal) : Watched calls watch task' := by
  have hdistinct := h.distinct.step hstep
  have hwaits := h.waits.step hstep
  have hkeeps : ∀ saved id, task.Keeps saved id → task'.Keeps saved id :=
    fun _ _ hid => hid.step h.waits hstep
  rcases UserTask.step_cases hstep with ⟨_, _, heq, _⟩ | ⟨_, _, _, heq, _⟩ | ⟨_, _, _, heq, _⟩ |
    ⟨_, _, _, _, _, _, heq, _⟩ | ⟨_, heq, _⟩ | ⟨_, hrunning, rfl⟩
  · exact absurd heq (by simp)
  · exact absurd heq (by simp)
  · exact absurd heq (by simp)
  · exact absurd heq (by simp)
  · exact absurd heq (by simp)
  refine ⟨hdistinct, hwaits, fun pending hpending => ?_, fun saved hsaved => ?_, fun hready => ?_⟩
  · exact absurd ((h.free hrunning).symm.trans hpending) (by simp)
  · obtain ⟨id, hid, hsaved⟩ := h.saved saved hsaved
    exact ⟨id, hid, hkeeps saved id hsaved⟩
  · -- The call has returned, so the handler does not put its restart off.
    obtain ⟨hinterrupted, _, id, hid, ⟨hreturned, _⟩ | ⟨call, hrestart, _⟩⟩ := h.ready hready
    · exact ⟨hinterrupted, hrunning, id, hid, .inl ⟨hreturned, rfl⟩⟩
    · have hnot := hclear hready
      rw [hrestart] at hnot
      exact absurd hnot (by rintro ⟨⟩)

/-- What the task does at an entry. -/
theorem UserTask.step_entry (hstep : task.step event = some task')
    (hentry : event.stop = some (.entry number arguments)) :
    task.running = none ∧ ∃ call, task'.running = some call ∧ call.number = number ∧
      call.arguments = arguments := by
  rcases UserTask.step_cases hstep with ⟨_, _, rfl, hrunning, _, rfl⟩ |
    ⟨_, _, _, rfl, hrunning, _, hagain, rfl⟩ | ⟨_, _, _, rfl, _⟩ | ⟨_, _, _, _, _, _, rfl, _⟩ |
    ⟨_, rfl, _⟩ | ⟨rfl, _⟩
  · obtain ⟨rfl, rfl⟩ := CallStop.entry.inj (Option.some.inj hentry)
    exact ⟨hrunning, _, rfl, rfl, rfl⟩
  · obtain ⟨rfl, rfl⟩ := CallStop.entry.inj (Option.some.inj hentry)
    exact ⟨hrunning, _, rfl, rfl, (KernelCall.again_arguments hagain).symm⟩
  · exact absurd hentry (by rintro ⟨⟩)
  · exact absurd hentry (by rintro ⟨⟩)
  · exact absurd hentry (by rintro ⟨⟩)
  · exact absurd hentry (by rintro ⟨⟩)

theorem Fresh.standsFor {fresh : SyscallEvent} {call : KernelCall}
    (h : Fresh sel number arguments fresh) (hnumber : call.number = number)
    (harguments : call.arguments = arguments) : StandsFor fresh call := by
  subst hnumber harguments
  refine ⟨.inl h.number_eq, ?_, h.arguments_eq⟩
  rw [h.number_eq]

/-- An entry. -/
theorem Watched.entry (h : Watched calls watch task) (hstep : task.step event = some task')
    (hright : Right calls watch task event number)
    (hentry : event.stop = some (.entry number arguments))
    (hcall : CallStep sel calls (.entry number arguments) calls' records) :
    Watched calls' (watch.step calls (task'.running.map KernelCall.id) (.entry number arguments))
      task' := by
  have hdistinct := h.distinct.step hstep
  have hwaits := h.waits.step hstep
  obtain ⟨_, call, hrunning, hnumber, harguments⟩ := UserTask.step_entry hstep hentry
  have hkept : ∀ saved id, task.Keeps saved id → task'.Keeps saved id :=
    fun _ _ hid => hid.step h.waits hstep
  -- A call that the tracer takes for a new one is the one that the task is in now.
  have hfresh : ∀ {fresh pending}, Fresh sel number arguments fresh → some fresh = some pending →
      ∃ call, task'.running = some call ∧ task'.running.map KernelCall.id = some call.id ∧
        StandsFor pending call := by
    rintro fresh _ hfresh ⟨⟩
    refine ⟨call, hrunning, ?_, hfresh.standsFor hnumber harguments⟩
    rw [hrunning]
    rfl
  cases hcall with
  | @restart saved _ _ hrestart =>
    have hrestarts : Calls.restarts ⟨none, some saved, true⟩ number = true := by
      simpa [Calls.restarts] using hrestart
    obtain ⟨old, _, ⟨⟩, hsaved, hstands, hresume, rfl⟩ := hright.restarts hrestarts
    obtain ⟨id, hid, hkeeps⟩ := h.saved saved rfl
    obtain rfl : old.id = id := Option.some.inj (hsaved.symm.trans hid)
    have hthe : call.id = old.id := by
      rcases UserTask.step_cases hstep with ⟨_, _, heq, _⟩ | ⟨_, _, _, heq, _, hcase, _, rfl⟩ |
        ⟨_, _, _, heq, _⟩ | ⟨_, _, _, _, _, _, heq, _⟩ | ⟨_, heq, _⟩ | ⟨heq, _⟩
      · exact absurd heq (by simp)
      · obtain rfl := Option.some.inj hrunning
        rcases hcase with hcase | hcase
        · exact absurd (hcase.symm.trans hresume) (by simp)
        · rw [Resume.restart.inj (hcase.symm.trans hresume)]
      · exact absurd heq (by simp)
      · exact absurd heq (by simp)
      · exact absurd heq (by simp)
      · exact absurd heq (by simp)
    have hmem : call ∈ task'.calls := by
      unfold UserTask.calls
      rw [hrunning]
      exact List.mem_cons_self
    unfold Watch.step
    simp only [hrestarts, if_true]
    refine ⟨hdistinct, hwaits, ?_, (by simp), (by simp)⟩
    rintro _ ⟨⟩
    exact ⟨call, hrunning, hthe ▸ hid, (hkept saved _ hkeeps).stands call hmem hthe⟩
  | @not_restarted saved fresh _ _ exited_at hne hne' hf =>
    have hrestarts : Calls.restarts ⟨none, some saved, true⟩ number = false := by
      simp [Calls.restarts, hne, hne']
    unfold Watch.step
    simp only [hrestarts, Bool.false_eq_true, if_false, if_true]
    exact ⟨hdistinct, hwaits, fun _ => hfresh hf, (by simp), (by simp)⟩
  | @enter interrupted fresh _ _ hf =>
    have hrestarts : Calls.restarts ⟨none, interrupted, false⟩ number = false := by
      unfold Calls.restarts
      split
      · rfl
      · rfl
    unfold Watch.step
    simp only [hrestarts, Bool.false_eq_true, if_false]
    refine ⟨hdistinct, hwaits, fun _ => hfresh hf, fun saved hsaved => ?_, (by simp)⟩
    obtain ⟨id, hid, hkeeps⟩ := h.saved saved hsaved
    exact ⟨id, hid, hkept saved id hkeeps⟩

/-- The task is in no call after an exit, and was in one before. -/
theorem UserTask.step_exit {rval : Int} {is_error : Bool} (hstep : task.step event = some task')
    (hexit : event.stop = some (.exit rval is_error)) :
    task'.running = none ∧ ∃ call, task.running = some call ∧
      ((call.number.toNat : Int) = SYS_rt_sigreturn → ∃ frame frames restart,
        event = .returns rval is_error restart ∧ task.frames = frame :: frames ∧
          task' = task.pop frame frames restart) := by
  rcases UserTask.step_cases hstep with ⟨_, _, rfl, _⟩ | ⟨_, _, _, rfl, _⟩ |
    ⟨call, _, _, rfl, hrunning, hordinary, rfl⟩ |
    ⟨call, frame, frames, _, _, restart, rfl, hrunning, hframes, h15, rfl⟩ | ⟨_, rfl, _⟩ | ⟨rfl, _⟩
  · exact absurd hexit (by rintro ⟨⟩)
  · exact absurd hexit (by rintro ⟨⟩)
  · exact ⟨rfl, call, hrunning, fun h15 => absurd h15 hordinary⟩
  · obtain ⟨rfl, rfl⟩ := CallStop.exit.inj (Option.some.inj hexit)
    exact ⟨UserTask.pop_running frame frames restart, call, hrunning,
      fun _ => ⟨frame, frames, restart, rfl, hframes, rfl⟩⟩
  · exact absurd hexit (by rintro ⟨⟩)
  · exact absurd hexit (by rintro ⟨⟩)

/-- An interrupted call has been decided when its frame has been popped. -/
theorem UserTask.pop_decides (call : KernelCall) (frames : List Resume) (restart : Bool) :
    call.id ∈ (task.pop (.undecided call) frames restart).returned ∧
        (task.pop (.undecided call) frames restart).resume = .user ∨
      (task.pop (.undecided call) frames restart).resume = .restart call := by
  cases restart with
  | true => exact .inr rfl
  | false => exact .inl ⟨List.mem_cons_self, rfl⟩

/-- The end of a call raises the flag, drops the interrupted call, or leaves it alone. -/
theorem settle_cases (number : Int) (saved : SyscallEvent) :
    (number = SYS_rt_sigreturn ∧ settle number (some saved) false = ⟨none, some saved, true⟩) ∨
      settle number (some saved) false = .idle ∨
      settle number (some saved) false = ⟨none, some saved, false⟩ := by
  unfold settle
  by_cases h15 : number = SYS_rt_sigreturn
  · exact .inl ⟨h15, if_pos h15⟩
  · by_cases hsame : (!false && number == saved.number) = true
    · exact .inr (.inl ((if_neg h15).trans (if_pos hsame)))
    · exact .inr (.inr ((if_neg h15).trans (if_neg hsame)))

/-- An exit. -/
theorem Watched.exit {rval : Int} {is_error : Bool} (h : Watched calls watch task)
    (hstep : task.step event = some task') (hclear : Clear calls watch task event)
    (hexit : event.stop = some (.exit rval is_error))
    (hcall : CallStep sel calls (.exit rval is_error) calls' records) :
    Watched calls' (watch.step calls (task'.running.map KernelCall.id) (.exit rval is_error))
      task' := by
  have hdistinct := h.distinct.step hstep
  have hwaits := h.waits.step hstep
  have hkept : ∀ saved id, task.Keeps saved id → task'.Keeps saved id :=
    fun _ _ hid => hid.step h.waits hstep
  obtain ⟨hrunning', call, hrunning, hreturns⟩ := UserTask.step_exit hstep hexit
  have hdown := h.not_ready hrunning
  cases hcall with
  | @interrupt pending interrupted ready _ _ hrestart =>
    obtain ⟨call', hcall', hpending, hstands⟩ := h.pending pending rfl
    obtain rfl : call = call' := Option.some.inj (hrunning.symm.trans hcall')
    unfold Watch.step
    simp only [hrestart, if_true]
    refine ⟨hdistinct, hwaits, (by simp), ?_, (by simp)⟩
    rintro _ ⟨⟩
    exact ⟨call.id, hpending, hkept pending call.id (h.distinct.keeps hrunning hstands)⟩
  | @complete pending interrupted ready _ _ exited_at hends =>
    obtain ⟨call', hcall', hpending, hstands⟩ := h.pending pending rfl
    obtain rfl : call = call' := Option.some.inj (hrunning.symm.trans hcall')
    obtain rfl : ready = false := hdown
    unfold Watch.step
    simp only [hends, Bool.false_eq_true, if_false]
    cases interrupted with
    | none => exact .idle hdistinct hwaits
    | some saved =>
      obtain ⟨id, hid, hkeeps⟩ := h.saved saved rfl
      rcases settle_cases pending.number saved with ⟨h15, hsettle⟩ | hsettle | hsettle
      · -- The end of a handler: the frame that goes is the one of the interrupted call.
        simp only [hsettle, Option.isSome_some, if_true]
        obtain ⟨frame, frames, restart, rfl, hframes, rfl⟩ := hreturns (hstands.sigreturn.mp h15)
        have hframe : frame.undecided_id = some id := by
          have hsame := hclear rfl hends rfl
          rw [hframes, hid] at hsame
          exact hsame
        obtain ⟨other, rfl, rfl⟩ := Resume.undecided_of_id hframe
        refine ⟨hdistinct, hwaits, (by simp), ?_, fun _ => ⟨rfl, hrunning', other.id, hid, ?_⟩⟩
        · rintro _ ⟨⟩
          exact ⟨other.id, hid, hkept saved other.id hkeeps⟩
        · exact (UserTask.pop_decides other frames restart).imp_right fun hrestart =>
            ⟨other, hrestart, rfl⟩
      · simp only [hsettle]
        exact .idle hdistinct hwaits
      · simp only [hsettle, Option.isSome_some, if_true]
        refine ⟨hdistinct, hwaits, (by simp), ?_, (by simp)⟩
        rintro _ ⟨⟩
        exact ⟨id, hid, hkept saved id hkeeps⟩
  | @stray_exit interrupted ready _ _ =>
    refine ⟨hdistinct, hwaits, (by simp), fun saved hsaved => ?_, fun hready => ?_⟩
    · obtain ⟨id, hid, hkeeps⟩ := h.saved saved hsaved
      exact ⟨id, hid, hkept saved id hkeeps⟩
    · exact absurd (hdown.symm.trans hready) (by simp)

/-- An exec. -/
theorem Watched.exec (h : Watched calls watch task) (hstep : task.step event = some task')
    (hexec : event.stop = some .exec) (hcall : CallStep sel calls .exec calls' records) :
    Watched calls' (watch.step calls (task'.running.map KernelCall.id) .exec) task' := by
  have hdistinct := h.distinct.step hstep
  have hwaits := h.waits.step hstep
  have hkept : ∀ saved id, task.Keeps saved id → task'.Keeps saved id :=
    fun _ _ hid => hid.step h.waits hstep
  have hdown : calls.ready = false := by
    rcases UserTask.step_cases hstep with ⟨_, _, rfl, _⟩ | ⟨_, _, _, rfl, _⟩ | ⟨_, _, _, rfl, _⟩ |
      ⟨_, _, _, _, _, _, rfl, _⟩ | ⟨_, _, hrunning, _⟩ | ⟨rfl, _⟩
    · exact absurd hexec (by rintro ⟨⟩)
    · exact absurd hexec (by rintro ⟨⟩)
    · exact absurd hexec (by rintro ⟨⟩)
    · exact absurd hexec (by rintro ⟨⟩)
    · exact h.not_ready hrunning
    · exact absurd hexec (by rintro ⟨⟩)
  cases hcall with
  | exec =>
    refine ⟨hdistinct, hwaits, (by simp), fun saved hsaved => ?_, fun hready => ?_⟩
    · obtain ⟨id, hid, hkeeps⟩ := h.saved saved hsaved
      exact ⟨id, hid, hkept saved id hkeeps⟩
    · exact absurd (hdown.symm.trans hready) (by simp)
  | stray_exec =>
    refine ⟨hdistinct, hwaits, (by simp), fun saved hsaved => ?_, fun hready => ?_⟩
    · obtain ⟨id, hid, hkeeps⟩ := h.saved saved hsaved
      exact ⟨id, hid, hkept saved id hkeeps⟩
    · exact absurd (hdown.symm.trans hready) (by simp)

/-- **A stop keeps the invariant.** -/
theorem Watched.stop {stop : CallStop} (h : Watched calls watch task)
    (hstep : task.step event = some task') (hclear : Clear calls watch task event)
    (hstop : event.stop = some stop) (hcall : CallStep sel calls stop calls' records) :
    Watched calls' (watch.step calls (task'.running.map KernelCall.id) stop) task' := by
  cases stop with
  | entry number arguments => exact h.entry hstep (h.right hstep hclear hstop) hstop hcall
  | exit rval is_error => exact h.exit hstep hclear hstop hcall
  | exec => exact h.exec hstep hstop hcall

end watching

/-! ### Along a history -/

/-- The tracer and one task. -/
structure Traced where
  context : Context
  task : UserTask
  watch : Watch

/-- The calls of the record of a TID. -/
def Context.traced_calls (c : Context) (tid : Pid) : Calls :=
  match c.tracees.lookup tid with
  | some tracee => tracee.calls
  | none => .idle

/-- An event of the task, and what the tracer does at the stop, if there is one. -/
def traced_step (config : Config) (env : Env) (tid : Pid) : Machine Traced TaskEvent :=
  fun s event =>
    match s.task.step event with
    | none => (s, false)
    | some task =>
      match event.stop with
      | none => ({ s with task := task }, true)
      | some stop =>
        match (run_stop config env tid stop).exec s.context with
        | (.ok (), context) =>
          (⟨context, task,
            s.watch.step (s.context.traced_calls tid) (task.running.map KernelCall.id) stop⟩, true)
        | (.error _, context) => (⟨context, task, s.watch⟩, false)

/-- The next event does not confuse the tracer. -/
def Traced.Clear (s : Traced) (tid : Pid) (event : TaskEvent) : Prop :=
  Sysgaze.Clear (s.context.traced_calls tid) s.watch s.task event

instance (s : Traced) (tid : Pid) (event : TaskEvent) : Decidable (s.Clear tid event) :=
  inferInstanceAs (Decidable (Sysgaze.Clear (s.context.traced_calls tid) s.watch s.task event))

/-- The completed calls that are new in `c'` are interrupted calls with `EINTR`, which user
    code has been given. -/
def Traced.WritesReturned (s : Traced) (tid : Pid) (c' : Context) : Prop :=
  ∃ lines, c'.completed = s.context.completed ++ lines ∧
    ∀ line ∈ lines, line.1 = tid ∧ line.2.result = -1 ∧ line.2.error_number = EINTR ∧
      ∃ id, s.watch.saved = some id ∧ id ∈ s.task.returned

/-- The tracer has a record of the task, and the invariant holds. -/
def Traced.Follows (s : Traced) (tid : Pid) : Prop :=
  ∃ tracee, s.context.tracees.lookup tid = some tracee ∧ Watched tracee.calls s.watch s.task

section histories
variable {config : Config} {env : Env} {tid : Pid} {s s' start : Traced} {event : TaskEvent}
  {task' : UserTask} {calls calls' : Calls} {records : List SyscallEvent}

variable (config) in
/-- The completed calls that the events add to the log are theirs. -/
theorem completed_foldl_subset (events : List Event) (log : Output.Log) :
    ∃ lines, (events.foldl (Output.Log.write config) log).completed = log.completed ++ lines ∧
      lines ⊆ events.filterMap Event.completed := by
  cases hsummary : config.summary with
  | false => exact ⟨_, completed_foldl hsummary events log, List.Subset.refl _⟩
  | true =>
    -- A summary has no lines.
    exact ⟨[], by rw [foldl_write_summary hsummary, List.append_nil], List.nil_subset _⟩

/-- What an entry reports is at most the interrupted call. -/
theorem CallStep.gives_up {sel : Int → Bool} {number : UInt64} {arguments : Vector UInt64 6}
    (h : CallStep sel calls (.entry number arguments) calls' records) :
    GivesUp sel calls number records := by
  cases h with
  | restart => exact .inl rfl
  | @not_restarted call _ _ _ exited_at hne hne' =>
    exact .inr ⟨call, exited_at, rfl, rfl, by simp [Calls.restarts, hne, hne'], rfl⟩
  | enter => exact .inl rfl

theorem GivesUp.returned {sel : Int → Bool} {watch : Watch} {task : UserTask} {number : UInt64}
    (h : GivesUp sel calls number records) (hright : Right calls watch task event number) :
    ∀ record ∈ records, record.result = -1 ∧ record.error_number = EINTR ∧
      ∃ id, watch.saved = some id ∧ id ∈ task.returned := by
  intro record hrecord
  obtain rfl | ⟨call, exited_at, _, hready, hnot, rfl⟩ := h
  · exact absurd hrecord List.not_mem_nil
  · unfold report at hrecord
    split at hrecord
    · rw [List.mem_singleton.mp hrecord]
      exact ⟨rfl, rfl, hright.gives_up hready hnot⟩
    · exact absurd hrecord List.not_mem_nil

/-- **What `begin_syscall` writes is right**, in every outcome. -/
theorem Right.writes {tracee : Tracee} {number : UInt64} {arguments : Vector UInt64 6}
    (hold : s.context.tracees.lookup tracee.tid = some tracee)
    (hpending : tracee.has_pending_syscall = false)
    (hright : Right tracee.calls s.watch s.task event number) :
    s.WritesReturned tracee.tid
      ((begin_syscall config env tracee number arguments).finalState s.context) := by
  have hwrites : ∀ {events : List Event} {records}, GivesUp (selected config) tracee.calls number records →
      events.filterMap Event.completed = records.map (fun record => (tracee.tid, record)) →
      ∀ c' : Context, c'.output.lines =
        (events.foldl (Output.Log.write config) s.context.output.log).lines →
      s.WritesReturned tracee.tid c' := by
    intro events records hgives hcompleted c' hlines
    obtain ⟨lines, hadded, hsubset⟩ :=
      completed_foldl_subset config events s.context.output.log
    have hsame : c'.completed =
        (events.foldl (Output.Log.write config) s.context.output.log).completed :=
      congrArg (List.filterMap Line.completed) hlines
    refine ⟨lines, hsame.trans hadded, fun line hline => ?_⟩
    have hmem := hsubset hline
    rw [hcompleted] at hmem
    obtain ⟨record, hrecord, rfl⟩ := List.mem_map.mp hmem
    exact ⟨rfl, hgives.returned hright record hrecord⟩
  apply Holds.at_end
  apply (begin_syscall_steps hold number arguments hpending).mono
  · intro _ c' hpost
    rcases hpost with ⟨_, new, records, hstep, htells⟩
    obtain ⟨events, hu, _, hcompleted⟩ := htells.updates
    exact hwrites hstep.gives_up hcompleted c' (congrArg Output.Log.lines hu.log)
  · intro _ c' hpost
    rcases hpost with ⟨records, hgives, events, hf, hcompleted⟩
    exact hwrites hgives hcompleted c' hf.lines

/-- A record without a pending call, at an entry. -/
theorem Watched.no_pending {tracee : Tracee} {watch : Watch} {task : UserTask}
    (h : Watched tracee.calls watch task) (hrunning : task.running = none) :
    tracee.has_pending_syscall = false := by
  rw [← Tracee.calls_pending, h.free hrunning]
  rfl

/-- **An event keeps the invariant**, if it is clear. -/
theorem Traced.Follows.step (h : s.Follows tid) (hclear : s.Clear tid event)
    (hstep : traced_step config env tid s event = (s', true)) : s'.Follows tid := by
  obtain ⟨tracee, hold, hw⟩ := h
  have htid : tracee.tid = tid := Tracees.lookup_tid hold
  subst htid
  have hcalls : s.context.traced_calls tracee.tid = tracee.calls := by
    unfold Context.traced_calls
    rw [hold]
  rw [Traced.Clear, hcalls] at hclear
  unfold traced_step at hstep
  cases htask : s.task.step event with
  | none =>
    simp only [htask] at hstep
    exact absurd (Prod.mk.inj hstep).2 (by simp)
  | some task =>
    simp only [htask] at hstep
    cases hstop : event.stop with
    | none =>
      simp only [hstop] at hstep
      obtain rfl := (Prod.mk.inj hstep).1
      cases event with
      | signal => exact ⟨tracee, hold, hw.signal htask hclear⟩
      | _ => exact absurd hstop (by rintro ⟨⟩)
    | some stop =>
      simp only [hstop] at hstep
      have hfree : ∀ number arguments, stop = .entry number arguments →
          tracee.has_pending_syscall = false := by
        rintro number arguments rfl
        exact hw.no_pending (UserTask.step_entry htask hstop).1
      have hrun := @run_stop_steps config env s.context tracee hold stop hfree
      unfold Holds at hrun
      rcases hexec : (run_stop config env tracee.tid stop).exec s.context with ⟨_ | ⟨⟨⟩⟩, c'⟩
      · simp only [hexec] at hstep
        exact absurd (Prod.mk.inj hstep).2 (by simp)
      · simp only [hexec] at hstep hrun
        obtain rfl := (Prod.mk.inj hstep).1
        obtain ⟨new, records, hcall, _, hnew⟩ := hrun
        refine ⟨new, hnew, ?_⟩
        show Watched new.calls (s.watch.step (s.context.traced_calls tracee.tid) _ stop) task
        rw [hcalls]
        exact hw.stop htask hclear hstop hcall

/-- **`EINTR` is never written wrongly, and restarts are recognised**, along a history whose
    events are clear.  Signal handlers nest to any depth, and anything may fail.  At every
    entry, what is written with `EINTR` has been returned to user code, the frame of its
    handler being gone; and an entry that is given the arguments of the interrupted call is
    the kernel's restart of that call. -/
theorem decisions_sound {tracee : Tracee} (hknown : start.context.tracees.lookup tid = some tracee)
    (hidle : tracee.calls = .idle) (hdistinct : start.task.Distinct) (hwaits : start.task.Waits)
    {history : List TaskEvent}
    (hr : Reaches (traced_step config env tid) (fun _ s event => s.Clear tid event) start history s)
    (hclear : s.Clear tid event) (hstep : s.task.step event = some task') {number : UInt64}
    {arguments : Vector UInt64 6} (hentry : event.stop = some (.entry number arguments)) :
    ∃ tracee, s.context.tracees.lookup tid = some tracee ∧
      Right tracee.calls s.watch s.task event number ∧
      s.WritesReturned tid
        ((begin_syscall config env tracee number arguments).finalState s.context) ∧
      Holds (begin_syscall config env tracee number arguments) s.context
        (fun _ c' => ∃ new records, c'.tracees.lookup tid = some new ∧
          CallStep (selected config) tracee.calls (.entry number arguments) new.calls records)
        (fun _ _ => True) := by
  have hstart : start.Follows tid := by
    refine ⟨tracee, hknown, ?_⟩
    rw [hidle]
    exact .idle hdistinct hwaits
  have hfollows : s.Follows tid := by
    apply hr.invariant (I := fun _ s => Traced.Follows s tid) hstart
    intro _ _ _ _ hs hi hM
    exact hs.step hi hM
  obtain ⟨tracee, hold, hw⟩ := hfollows
  have htid : tracee.tid = tid := Tracees.lookup_tid hold
  subst htid
  rw [Traced.Clear, Context.traced_calls, hold] at hclear
  have hright := hw.right hstep hclear hentry
  have hpending := hw.no_pending (UserTask.step_entry hstep hentry).1
  refine ⟨tracee, hold, hright, hright.writes hold hpending, ?_⟩
  apply (begin_syscall_steps hold number arguments hpending).mono
  · intro _ c' hpost
    rcases hpost with ⟨_, new, records, hcall, htells⟩
    obtain ⟨events, hu, _, _⟩ := htells.updates
    exact ⟨new, records, htells.tid ▸ hu.lookup_self, hcall⟩
  · exact fun _ _ _ => trivial

/-- The launched child 100, before it does anything. -/
def Traced.launched : Traced := ⟨.launched 100, .fresh, .none⟩

/-- The step of the launched child. -/
abbrev launched_step : Machine Traced TaskEvent := traced_step (.plain .SG_FORMAT_TEXT) .reliable 100

/-- A `read` is interrupted by one handler. -/
def one_handler : List TaskEvent :=
  [.enters 0 (Vector.replicate 6 7), .ends (-512) true, .signal,
    .enters sigreturn_number (Vector.replicate 6 0), .returns (-4) true false]

/-- The checked run of `one_handler`. -/
def one_handler_run : Option Traced :=
  run (Machine.checked launched_step fun s event => decide (s.Clear 100 event)) .launched one_handler

theorem one_handler_runs : one_handler_run.isSome = true := by decide +kernel

theorem launched_known :
    (Context.launched 100).tracees.lookup 100 = some (Tracee.launched 100) :=
  ((launched_spec (by decide)).1 100).trans (if_pos rfl)

/-- When the handler is gone, the next call of user code writes the `read`, with `EINTR`. -/
theorem decisions_sound_read :
    ∃ s tracee, Reaches launched_step (fun _ s event => s.Clear 100 event) .launched one_handler s ∧
      s.context.tracees.lookup 100 = some tracee ∧
      Right tracee.calls s.watch s.task (.enters 1 (Vector.replicate 6 7)) 1 := by
  have hr : Reaches launched_step (fun _ s event => s.Clear 100 event) .launched one_handler
      (one_handler_run.get one_handler_runs) :=
    reaches_of_checked (fun _ _ _ => of_decide_eq_true) (Option.some_get one_handler_runs).symm
  have hclear : (one_handler_run.get one_handler_runs).Clear 100 (.enters 1 (Vector.replicate 6 7)) := by
    decide +kernel
  obtain ⟨task', hstep⟩ : ∃ task', (one_handler_run.get one_handler_runs).task.step
      (.enters 1 (Vector.replicate 6 7)) = some task' :=
    Option.isSome_iff_exists.mp (by decide +kernel)
  obtain ⟨tracee, hold, hright, _⟩ := decisions_sound launched_known rfl
    UserTask.fresh_distinct UserTask.fresh_waits hr hclear hstep rfl
  exact ⟨_, tracee, hr, hold, hright⟩

/-- Two handlers start at once; the one that runs first returns, and the other makes a call.
    The `read` is still undecided then. -/
def two_handlers : List TaskEvent :=
  [.enters 0 (Vector.replicate 6 7), .ends (-512) true, .signal, .signal,
    .enters sigreturn_number (Vector.replicate 6 0), .returns 0 false false]

/-- The run of `two_handlers`. -/
def two_handlers_run : Option Traced := run launched_step .launched two_handlers

theorem two_handlers_runs : two_handlers_run.isSome = true := by decide +kernel

/-- **Two signals that are delivered together** are enough for a wrong `EINTR`. -/
theorem eintr_unsound : ¬∀ (config : Config) (env : Env) (tid : Pid) (start s : Traced)
    (tracee : Tracee) (history : List TaskEvent) (event : TaskEvent) (task' : UserTask)
    (number : UInt64) (arguments : Vector UInt64 6),
    start.context.tracees.lookup tid = some tracee → tracee.calls = .idle →
    start.task = .fresh → Reaches (traced_step config env tid) (fun _ _ _ => True) start history s →
    s.task.step event = some task' → event.stop = some (.entry number arguments) →
    ∃ tracee, s.context.tracees.lookup tid = some tracee ∧ s.WritesReturned tid
      ((begin_syscall config env tracee number arguments).finalState s.context) := by
  intro hclaim
  have hr : Reaches launched_step (fun _ _ _ => True) .launched two_handlers (two_handlers_run.get two_handlers_runs) :=
    reaches_of_run (fun _ _ => trivial) (Option.some_get two_handlers_runs).symm
  obtain ⟨task', hstep⟩ : ∃ task', (two_handlers_run.get two_handlers_runs).task.step
      (.enters 1 (Vector.replicate 6 7)) = some task' :=
    Option.isSome_iff_exists.mp (by decide +kernel)
  obtain ⟨tracee, hold, lines, hlines, hreturned⟩ := hclaim _ _ 100 .launched _ _ two_handlers _ task'
    1 (Vector.replicate 6 7) launched_known rfl rfl hr hstep rfl
  -- The `read` is written, although nothing has been returned for it.
  have hnothing : (two_handlers_run.get two_handlers_runs).task.returned = [] := by decide +kernel
  have hwritten : ((two_handlers_run.get two_handlers_runs).context.tracees.lookup 100).map (fun tracee =>
      ((begin_syscall (.plain .SG_FORMAT_TEXT) .reliable tracee 1 (Vector.replicate 6 7)).finalState
        (two_handlers_run.get two_handlers_runs).context).completed.length) =
      some ((two_handlers_run.get two_handlers_runs).context.completed.length + 1) := by decide +kernel
  rw [hold, Option.map_some, hlines, List.length_append] at hwritten
  have hone : lines.length = 1 := by
    have := Option.some.inj hwritten
    omega
  obtain ⟨line, rfl⟩ := List.length_eq_one_iff.mp hone
  obtain ⟨_, _, _, id, _, hid⟩ := hreturned line (List.mem_singleton.mpr rfl)
  rw [hnothing] at hid
  exact absurd hid List.not_mem_nil

end histories

end Sysgaze
