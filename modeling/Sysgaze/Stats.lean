import Sysgaze.Catalog
import Sysgaze.Event

/-! # Call statistics (`stats.c`)

    With `-c` no event is written; every completed call is added to a row of
    its number instead.  `sg_stats_record` is modelled with its overflow
    checks.  A `malloc` or `realloc` answers from the outside (`granted`), and
    `qsort` is what the C library has.
-/

namespace Sysgaze

abbrev UINT64_MAX : Nat := 2 ^ 64 - 1

/-- `elapsed_nanoseconds` of `stats.c`: the value of `*result`, or `none` when the
    function returns false. -/
def elapsed_nanoseconds (event : SyscallEvent) : Option Nat :=
  let seconds := event.exited_at.tv_sec - event.entered_at.tv_sec
  let nanoseconds := event.exited_at.tv_nsec - event.entered_at.tv_nsec
  if seconds < 0 ∨ (seconds = 0 ∧ nanoseconds < 0) then some 0
  else
    let (seconds, nanoseconds) :=
      if nanoseconds < 0 then (seconds - 1, nanoseconds + 1000000000) else (seconds, nanoseconds)
    if seconds.toNat > UINT64_MAX / 1000000000 then none
    else some ((seconds.toNat * 1000000000 + nanoseconds.toNat) % 2 ^ 64)

/-- `struct sg_syscall_stat`. -/
structure SyscallStat where
  number : Int
  calls : Nat
  errors : Nat
  nanoseconds : Nat
  deriving DecidableEq, Repr

/-- `sizeof(struct sg_syscall_stat)`. -/
abbrev sizeof_stat : Nat := 32

/-- `struct sg_stats`; `count` is the length of `rows`. -/
structure Stats where
  rows : List SyscallStat
  capacity : Nat
  total_calls : Nat
  total_errors : Nat
  total_nanoseconds : Nat
  deriving DecidableEq, Repr

/-- `sg_stats_init`. -/
def sg_stats_init : Stats := ⟨[], 0, 0, 0, 0⟩

/-- `find_row`: the index of the row. -/
def find_row (stats : Stats) (number : Int) : Option Nat :=
  stats.rows.findIdx? fun row => row.number == number

/-- `add_row`: the index of the new row. -/
def add_row (stats : Stats) (number : Int) (granted : Bool) : Option (Nat × Stats) :=
  let row : SyscallStat := ⟨number, 0, 0, 0⟩
  if stats.rows.length = stats.capacity then
    let capacity := if stats.capacity = 0 then 16 else stats.capacity * 2 % 2 ^ 64
    if capacity < stats.capacity ∨ capacity > UINT64_MAX / sizeof_stat ∨ granted = false then none
    else some (stats.rows.length, { stats with rows := stats.rows ++ [row], capacity := capacity })
  else some (stats.rows.length, { stats with rows := stats.rows ++ [row] })

/-- The second half of `sg_stats_record`: add an event to the row at `index`. -/
def record_row (stats : Stats) (index : Nat) (nanoseconds : Nat) (error : Bool) : Bool × Stats :=
  match stats.rows[index]? with
  | none => (false, stats)
  | some row =>
    if row.calls = UINT64_MAX ∨ row.nanoseconds > UINT64_MAX - nanoseconds ∨
        (error = true ∧ row.errors = UINT64_MAX) then (false, stats)
    else
      let errors := if error then 1 else 0
      (true, { stats with
        rows := stats.rows.set index
          { row with
            calls := row.calls + 1
            errors := row.errors + errors
            nanoseconds := row.nanoseconds + nanoseconds }
        total_calls := stats.total_calls + 1
        total_errors := stats.total_errors + errors
        total_nanoseconds := stats.total_nanoseconds + nanoseconds })

/-- `sg_stats_record`. -/
def sg_stats_record (stats : Stats) (event : SyscallEvent) (granted : Bool) : Bool × Stats :=
  match event.completed, elapsed_nanoseconds event with
  | true, some nanoseconds =>
    let error := event.error_number != 0
    if stats.total_calls = UINT64_MAX ∨ stats.total_nanoseconds > UINT64_MAX - nanoseconds ∨
        (error = true ∧ stats.total_errors = UINT64_MAX) then (false, stats)
    else
      match find_row stats event.number with
      | some index => record_row stats index nanoseconds error
      | none =>
        match add_row stats event.number granted with
        | none => (false, stats)
        | some (index, stats) => record_row stats index nanoseconds error
  | _, _ => (false, stats)

/-! ### The report -/

/-- `strcmp`, of which only the sign is used. -/
def strcmp : Text → Text → Int
  | [], [] => 0
  | [], _ :: _ => -1
  | _ :: _, [] => 1
  | a :: as, b :: bs => if a < b then -1 else if b < a then 1 else strcmp as bs

/-- The end of `compare_rows`. -/
def compare_numbers (left right : Int) : Int :=
  if left = right then 0 else if left < right then -1 else 1

/-- `compare_rows`. -/
def compare_rows (left right : SyscallStat) : Int :=
  if left.nanoseconds ≠ right.nanoseconds then
    if left.nanoseconds > right.nanoseconds then -1 else 1
  else
    match sg_syscall_by_number left.number, sg_syscall_by_number right.number with
    | some left_descriptor, some right_descriptor =>
      let names := strcmp left_descriptor.name right_descriptor.name
      if names ≠ 0 then names else compare_numbers left.number right.number
    | some _, none => -1
    | none, some _ => 1
    | none, none => compare_numbers left.number right.number

/-- `qsort`, on rows. -/
abbrev Qsort := (SyscallStat → SyscallStat → Int) → List SyscallStat → List SyscallStat

/-- `sg_stats_sorted_copy`: the rows that it hands out, or `none` when it returns false. -/
def sg_stats_sorted_copy (qsort : Qsort) (stats : Stats) (granted : Bool) :
    Option (List SyscallStat) :=
  if stats.rows.length = 0 then some []
  else if stats.rows.length > UINT64_MAX / sizeof_stat then none
  else if granted = false then none
  else some (qsort compare_rows stats.rows)

end Sysgaze
