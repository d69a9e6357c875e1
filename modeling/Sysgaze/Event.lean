import Mathlib.Algebra.Group.Nat.Defs
import Mathlib.Tactic.Common

/-! # Events (`event.h`)

    What the tracer keeps about one system call and what it hands to the
    output.  `pid_t` is an `Int`: a TID is only ever compared, negated or
    tested against zero.  The six-element C arrays are vectors.
-/

namespace Sysgaze

/-- A thread or process number. -/
abbrev Pid := Int

/-- A rendered text. -/
abbrev Text := List UInt8

abbrev SIZE_MAX : Nat := 2 ^ 64 - 1

/-- `struct timespec`. -/
structure Timespec where
  tv_sec : Int
  tv_nsec : Int
  deriving DecidableEq, Repr, Inhabited

/-- `struct sg_syscall_event`.  The result and the exit time are only
    meaningful once `completed` is set. -/
structure SyscallEvent where
  number : Int
  arguments : Vector UInt64 6
  result : Int
  error_number : Int
  entered_at : Timespec
  exited_at : Timespec
  decoded_arguments : Vector (Option Text) 6
  argument_count : Nat
  completed : Bool
  deriving DecidableEq, Repr

/-- The event `memset` to zero. -/
def SyscallEvent.zero : SyscallEvent where
  number := 0
  arguments := Vector.replicate 6 0
  result := 0
  error_number := 0
  entered_at := ⟨0, 0⟩
  exited_at := ⟨0, 0⟩
  decoded_arguments := Vector.replicate 6 none
  argument_count := 0
  completed := false

/-- The part of an event that is fixed when its call is entered: which call it
    is, as opposed to how it ended. -/
structure SyscallEvent.SameCall (e e' : SyscallEvent) : Prop where
  number : e.number = e'.number
  arguments : e.arguments = e'.arguments
  entered_at : e.entered_at = e'.entered_at
  decoded_arguments : e.decoded_arguments = e'.decoded_arguments
  argument_count : e.argument_count = e'.argument_count

namespace SyscallEvent

instance (e e' : SyscallEvent) : Decidable (e.SameCall e') :=
  decidable_of_iff
    (e.number = e'.number ∧ e.arguments = e'.arguments ∧ e.entered_at = e'.entered_at ∧
      e.decoded_arguments = e'.decoded_arguments ∧ e.argument_count = e'.argument_count)
    ⟨fun ⟨a, b, c, d, f⟩ => ⟨a, b, c, d, f⟩, fun ⟨a, b, c, d, f⟩ => ⟨a, b, c, d, f⟩⟩

@[refl] theorem SameCall.refl (e : SyscallEvent) : e.SameCall e := ⟨rfl, rfl, rfl, rfl, rfl⟩

@[symm] theorem SameCall.symm {e e' : SyscallEvent} (h : e.SameCall e') : e'.SameCall e :=
  ⟨h.number.symm, h.arguments.symm, h.entered_at.symm, h.decoded_arguments.symm,
    h.argument_count.symm⟩

@[trans] theorem SameCall.trans {e e' e'' : SyscallEvent} (h : e.SameCall e')
    (h' : e'.SameCall e'') : e.SameCall e'' :=
  ⟨h.number.trans h'.number, h.arguments.trans h'.arguments,
    h.entered_at.trans h'.entered_at, h.decoded_arguments.trans h'.decoded_arguments,
    h.argument_count.trans h'.argument_count⟩

end SyscallEvent

/-- `struct sg_signal_event`. -/
structure SignalEvent where
  signal_number : Int
  signal_code : Int
  fault_address : UInt64
  deriving DecidableEq, Repr

/-- `struct sg_lifecycle_event`, for `SG_EVENT_PROCESS_START`. -/
structure ProcessStart where
  related_tid : Pid
  ptrace_event : Nat
  deriving DecidableEq, Repr

/-- `struct sg_lifecycle_event`, for `SG_EVENT_PROCESS_EXIT`. -/
structure ProcessExit where
  status : Int
  signaled : Bool
  deriving DecidableEq, Repr

/-- The union in `struct sg_event`, tagged by `enum sg_event_kind`. -/
inductive EventData where
  | syscall (e : SyscallEvent)
  | signal (e : SignalEvent)
  | process_start (e : ProcessStart)
  | process_exit (e : ProcessExit)
  deriving DecidableEq, Repr

/-- `struct sg_event`. -/
structure Event where
  tid : Pid
  tgid : Pid
  observed_at : Timespec
  data : EventData
  deriving DecidableEq, Repr

end Sysgaze
