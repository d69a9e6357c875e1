import Sysgaze.Attaching
import Sysgaze.Metrics

/-! # What the tracer reads in `/proc` (`trace.c`)

    Attach mode finds the tasks of a process in `/proc/PID/task`, the thread group of a
    task in `/proc/TID/status`, and the kind of its program in `/proc/PID/exe`.

    `collect_task_ids` tells the end of a directory from an error by `errno`, which the
    conversion of the names sets too.  So it is exact only up to the last name
    (`collect_task_ids_exact`).
-/

open Numerals

namespace Sysgaze

/-! ### Tasks -/

abbrev ERANGE : Int := 34

/-- A directory that has been opened: the names in it, and the value of `errno` with which
    `readdir` breaks off, or `none` at the end. -/
structure Directory where
  names : List Text
  failure : Option Int

/-- The local variables of `collect_task_ids`; `asked` counts the calls of `realloc`. -/
structure TaskList where
  values : List Pid
  capacity : Nat
  errno : Int
  asked : Nat

/-- The variables before the first name. -/
def TaskList.init : TaskList := ⟨[], 0, 0, 0⟩

section model
variable (realloc : Nat → Bool) (strerror : Int → String)

/-- The part of a round that puts a number behind the others. -/
def TaskList.add (list : TaskList) (value : Pid) : Except String TaskList :=
  if list.values.length = list.capacity then
    let new_capacity := if list.capacity = 0 then 16 else list.capacity * 2 % 2 ^ 64
    if new_capacity < list.capacity ∨ new_capacity > (2 ^ 64 - 1) / sizeof_pid then
      .error "task list is too large"
    else if !realloc list.asked then .error "cannot allocate task list"
    else .ok { list with
      values := list.values ++ [value]
      capacity := new_capacity
      asked := list.asked + 1 }
  else .ok { list with values := list.values ++ [value] }

/-- One round of the loop. -/
def collect_entry (list : TaskList) (name : Text) : Except String TaskList :=
  -- A name that begins with a dot leaves `errno` as it is.
  if name.head? = some 46 then .ok list
  else
    let (value, rest, failed) := strtol name
    let list := { list with errno := if failed then ERANGE else 0 }
    if failed ∨ rest = name ∨ rest ≠ [] ∨ value ≤ 0 ∨ value > INT_MAX then .ok list
    else list.add realloc value

/-- The loop. -/
def collect_entries : TaskList → List Text → Except String TaskList
  | list, [] => .ok list
  | list, name :: names =>
    match collect_entry realloc list name with
    | .ok list => collect_entries list names
    | .error error => .error error

/-- `collect_task_ids`; `opened` is the directory, or the value of `errno` when `opendir` fails. -/
def collect_task_ids (pid : Pid) (opened : Except Int Directory) : Except String (List Pid) :=
  match opened with
  | .error errno => .error s!"cannot enumerate target {pid}: {strerror errno}"
  | .ok directory =>
    match collect_entries realloc .init directory.names with
    | .error error => .error error
    | .ok list =>
      let errno := directory.failure.getD list.errno
      if errno ≠ 0 then .error s!"cannot read task directory: {strerror errno}"
      else .ok list.values

end model

/-! ### The thread group -/

/-- The size of the buffer in `read_tgid`. -/
abbrev status_buffer : Nat := 256

/-- What the calls of `fgets` read, one after the other: a line, or as much of it as there is room
    for; `room` is left for the first of them. -/
def fgets_lines : Nat → Text → List Text
  | _, [] => []
  | room, byte :: text =>
    if byte = 10 ∨ room ≤ 1 then [byte] :: fgets_lines (status_buffer - 1) text
    else
      match fgets_lines (room - 1) text with
      | [] => [[byte]]
      | line :: lines => (byte :: line) :: lines

/-- What a round of the loop in `read_tgid` returns, if it returns. -/
def status_tgid (line : Text) : Option Pid :=
  let line := c_string line
  if cstr "Tgid:" <+: line then
    let text := line.drop 5
    let (value, rest, _) := strtol text
    if rest ≠ text ∧ 0 < value ∧ value ≤ INT_MAX then some value else none
  else none

/-- `read_tgid`; `opened` is the text of the file, if it can be opened. -/
def read_tgid (opened : Option Text) : Pid :=
  match opened with
  | none => -1
  | some text => ((fgets_lines (status_buffer - 1) text).findSome? status_tgid).getD (-1)

/-! ### The program -/

/-- `sizeof(Elf64_Ehdr)`. -/
abbrev sizeof_elf_header : Nat := 64

/-- `ELFMAG`. -/
def ELFMAG : Text := [127, 69, 76, 70]

abbrev EI_CLASS : Nat := 4
abbrev EI_DATA : Nat := 5
abbrev ELFCLASS64 : UInt8 := 2
abbrev ELFDATA2LSB : UInt8 := 1
abbrev EM_X86_64 : Nat := 62

/-- The offset of `e_machine` in the header. -/
abbrev e_machine : Nat := 18

/-- `validate_native_executable`: the error, if there is one.  `opened` is what `read` has put into
    the header, or the value of `errno` when `open` fails. -/
def validate_native_executable (strerror : Int → String) (pid : Pid) (opened : Except Int Text) :
    Option String :=
  match opened with
  | .error errno => some s!"cannot inspect target {pid}: {strerror errno}"
  | .ok header =>
    if header.length ≠ sizeof_elf_header ∨ header.take 4 ≠ ELFMAG ∨
        header[EI_CLASS]? ≠ some ELFCLASS64 ∨ header[EI_DATA]? ≠ some ELFDATA2LSB ∨
        little_endian (field header e_machine 2) ≠ EM_X86_64 then
      some s!"target {pid} is not a native x86-64 ELF process"
    else none

/-! ### The numbers of the tasks -/

/-- How many numbers there is room for after `asked` calls of `realloc`. -/
def task_room (asked : Nat) : Nat := if asked = 0 then 0 else 16 * 2 ^ (asked - 1)

/-- There is memory for the numbers. -/
structure HasMemory (realloc : Nat → Bool) (count : Nat) : Prop where
  small : count ≤ 2 ^ 61
  granted : ∀ asked, task_room asked < count → realloc asked = true

/-- The array has grown step by step. -/
structure TaskList.Grown (realloc : Nat → Bool) (list : TaskList) : Prop where
  capacity : list.capacity = task_room list.asked
  fits : list.values.length ≤ list.capacity
  small : list.capacity ≤ 2 ^ 61
  granted : ∀ asked < list.asked, realloc asked = true

/-- Does the conversion of the last name leave `errno` set?  Names with a dot are not converted. -/
def leaves_errno (names : List Text) : Bool :=
  (names.filter fun name => name.head? ≠ some 46).getLast?.any fun name => (strtol name).2.2

section tasks
variable {realloc : Nat → Bool} {strerror : Int → String} {list list' : TaskList} {name : Text}
  {value : Pid}

theorem task_room_mono {m n : Nat} (h : m ≤ n) : task_room m ≤ task_room n := by
  unfold task_room
  split
  · exact Nat.zero_le _
  · rw [if_neg (by omega)]
    exact Nat.mul_le_mul_left 16 (Nat.pow_le_pow_right (by omega) (by omega))

theorem task_room_succ {asked : Nat} (h : asked ≠ 0) : task_room (asked + 1) = task_room asked * 2 := by
  unfold task_room
  rw [if_neg (by omega), if_neg h, show asked + 1 - 1 = asked - 1 + 1 by omega, Nat.pow_succ,
    Nat.mul_assoc]

/-- Rooms are powers of two: what is below the largest is at most half of it. -/
theorem task_room_half {asked : Nat} (h : task_room asked < 2 ^ 61) : task_room asked * 2 ≤ 2 ^ 61 := by
  unfold task_room at h ⊢
  split
  · omega
  · rename_i hasked
    rw [if_neg hasked] at h
    have hexponent : asked - 1 < 57 := by
      by_contra hlarge
      have hpow : 2 ^ 57 ≤ 2 ^ (asked - 1) := Nat.pow_le_pow_right (by omega) (by omega)
      omega
    have hpow : 2 ^ (asked - 1) ≤ 2 ^ 56 := Nat.pow_le_pow_right (by omega) (by omega)
    omega

theorem TaskList.Grown.init (realloc : Nat → Bool) : TaskList.init.Grown realloc :=
  ⟨rfl, Nat.le_refl 0, by decide, fun _ h => absurd h (Nat.not_lt_zero _)⟩

/-- The next room is larger, and it is small enough unless there are too many numbers. -/
theorem TaskList.Grown.next (h : list.Grown realloc) :
    (if list.capacity = 0 then 16 else list.capacity * 2 % 2 ^ 64) = task_room (list.asked + 1) ∧
      list.capacity < task_room (list.asked + 1) ∧
      (task_room (list.asked + 1) ≤ 2 ^ 62 - 1 ↔ list.capacity < 2 ^ 61) ∧
      (list.capacity < 2 ^ 61 → task_room (list.asked + 1) ≤ 2 ^ 61) := by
  have hsmall := h.small
  rw [h.capacity] at hsmall ⊢
  by_cases hasked : list.asked = 0
  · rw [hasked]
    decide
  · have hpos : 0 < task_room list.asked := by
      unfold task_room
      rw [if_neg hasked]
      exact Nat.mul_pos (by omega) (Nat.two_pow_pos _)
    rw [task_room_succ hasked]
    refine ⟨?_, by omega, by omega, task_room_half⟩
    rw [if_neg (by omega), Nat.mod_eq_of_lt (by omega)]

/-- The memory that an array has taken has been granted. -/
theorem TaskList.Grown.memory (h : list.Grown realloc) {count : Nat} (hcount : count ≤ list.capacity) :
    HasMemory realloc count := by
  refine ⟨hcount.trans h.small, fun asked hasked => h.granted asked ?_⟩
  by_contra hlater
  have hmono := task_room_mono (Nat.le_of_not_lt hlater)
  rw [h.capacity] at hcount
  omega

/-- **A number is added** if and only if there is memory for one more. -/
theorem TaskList.add_spec (h : list.Grown realloc) (value : Pid) :
    (HasMemory realloc (list.values.length + 1) → ∃ list', list.add realloc value = .ok list' ∧
      list'.Grown realloc ∧ list'.values = list.values ++ [value] ∧ list'.errno = list.errno) ∧
    (¬HasMemory realloc (list.values.length + 1) →
      ∃ error, list.add realloc value = .error error) := by
  have hfits := h.fits
  unfold TaskList.add
  by_cases hfull : list.values.length = list.capacity
  -- The list is full, and is doubled.
  · obtain ⟨hroom, hlarger, hlimit, hsmall⟩ := h.next
    have hmax : (2 ^ 64 - 1) / sizeof_pid = 2 ^ 62 - 1 := by decide
    rw [if_pos hfull]
    dsimp only
    rw [hroom, hmax]
    constructor
    · intro hmemory
      have hcount := hmemory.small
      have hgranted : realloc list.asked = true :=
        hmemory.granted list.asked (by rw [← h.capacity]; omega)
      rw [if_neg (by omega), hgranted]
      refine ⟨_, rfl, ⟨rfl, ?_, hsmall (by omega), ?_⟩, rfl, rfl⟩
      · rw [List.length_append, List.length_singleton]
        exact hfull ▸ hlarger
      · intro asked hasked
        obtain hlater | heq := Nat.lt_or_eq_of_le (Nat.lt_succ_iff.mp hasked)
        · exact h.granted asked hlater
        · rw [heq]
          exact hgranted
    · intro hmemory
      split
      · exact ⟨_, rfl⟩
      · split
        · exact ⟨_, rfl⟩
        · rename_i hlarge hgranted
          refine absurd ⟨by omega, fun asked hasked => ?_⟩ hmemory
          -- No later call is needed for one more number.
          by_cases hnow : asked ≤ list.asked
          · obtain hlater | heq := Nat.lt_or_eq_of_le hnow
            · exact h.granted asked hlater
            · rw [heq]
              simpa using hgranted
          · have hmono := task_room_mono (show list.asked + 1 ≤ asked by omega)
            omega
  · rw [if_neg hfull]
    -- There is room for one more.
    refine ⟨fun _ => ⟨_, rfl, ⟨h.capacity, ?_, h.small, h.granted⟩, rfl, rfl⟩, fun hmemory => ?_⟩
    · rw [List.length_append, List.length_singleton]
      show list.values.length + 1 ≤ list.capacity
      omega
    · exact absurd (h.memory (by omega)) hmemory

/-- The value of `errno` after a name. -/
def errno_after (errno : Int) (name : Text) : Int :=
  if name.head? = some 46 then errno else if (strtol name).2.2 then ERANGE else 0

theorem parse_pid_dot (h : name.head? = some 46) : parse_pid name = none := by
  obtain ⟨rest, rfl⟩ : ∃ rest, name = 46 :: rest := by
    cases name with
    | nil => simp at h
    | cons byte rest =>
      obtain rfl : byte = 46 := by simpa using h
      exact ⟨rest, rfl⟩
  have hscan : scan_number (46 :: rest) = (false, [], 46 :: rest) := by
    simp [scan_number, isspace, isdigit]
  have hstrtol : strtol (46 :: rest) = (0, 46 :: rest, false) := by simp [strtol, hscan]
  simp [parse_pid, hstrtol]

/-- **One name**: it is a number as `-p` takes one, or it is passed over. -/
theorem collect_entry_spec (h : list.Grown realloc) (name : Text) :
    (HasMemory realloc (list.values.length + (parse_pid name).toList.length) →
      ∃ list', collect_entry realloc list name = .ok list' ∧ list'.Grown realloc ∧
        list'.values = list.values ++ (parse_pid name).toList ∧
        list'.errno = errno_after list.errno name) ∧
    (¬HasMemory realloc (list.values.length + (parse_pid name).toList.length) →
      ∃ error, collect_entry realloc list name = .error error) := by
  have hmemory : HasMemory realloc (list.values.length + 0) := h.memory h.fits
  unfold collect_entry errno_after
  by_cases hdot : name.head? = some 46
  -- `.` and `..` are passed over, and so are other hidden names.
  · simp only [parse_pid_dot hdot, if_pos hdot]
    exact ⟨fun _ => ⟨list, rfl, h, by simp, rfl⟩, fun hnone => absurd hmemory hnone⟩
  · rw [if_neg hdot, if_neg hdot]
    have hsame : ∀ errno : Int, TaskList.Grown realloc { list with errno := errno } :=
      fun errno => ⟨h.capacity, h.fits, h.small, h.granted⟩
    rcases hread : strtol name with ⟨value, rest, failed⟩
    dsimp only
    by_cases hskip : failed = true ∨ rest = name ∨ rest ≠ [] ∨ value ≤ 0 ∨ value > INT_MAX
    -- A name that is no number is left out.
    · have hnone : parse_pid name = none := by
        unfold parse_pid
        split
        · rfl
        · rw [hread]
          exact if_pos hskip
      rw [if_pos hskip, hnone]
      exact ⟨fun _ => ⟨_, rfl, hsame _, by simp, rfl⟩, fun hno => absurd hmemory hno⟩
    · have hsome : parse_pid name = some value := by
        have hne : name ≠ [] := by
          rintro rfl
          simp [strtol, scan_number] at hread
          simp [hread] at hskip
        unfold parse_pid
        rw [if_neg hne, hread]
        exact if_neg hskip
      rw [if_neg hskip, hsome, Option.toList_some, List.length_singleton]
      exact TaskList.add_spec (hsame (if failed = true then ERANGE else 0)) value

/-- The value of `errno` after all names. -/
theorem foldl_errno_after (names : List Text) : ∀ errno : Int,
    names.foldl errno_after errno =
      if leaves_errno names then ERANGE
      else if names.all fun name => name.head? = some 46 then errno else 0 := by
  induction names using List.reverseRecOn with
  | nil => exact fun _ => rfl
  | append_singleton names name ih =>
    intro errno
    rw [List.foldl_append, ih, List.foldl_cons, List.foldl_nil]
    -- Each name that is tried sets `errno` anew.
    unfold errno_after leaves_errno
    by_cases hdot : name.head? = some 46
    · simp [hdot]
    · simp [hdot]

/-- **The loop** takes the numbers in their order, as long as there is memory for them. -/
theorem collect_entries_spec (names : List Text) : ∀ {list : TaskList}, list.Grown realloc →
    (HasMemory realloc (list.values.length + (names.filterMap parse_pid).length) →
      ∃ list', collect_entries realloc list names = .ok list' ∧
        list'.values = list.values ++ names.filterMap parse_pid ∧
        list'.errno = names.foldl errno_after list.errno) ∧
    (¬HasMemory realloc (list.values.length + (names.filterMap parse_pid).length) →
      ∃ error, collect_entries realloc list names = .error error) := by
  induction names with
  | nil =>
    intro list h
    exact ⟨fun _ => ⟨list, rfl, by simp, rfl⟩, fun hnone => absurd (h.memory h.fits) hnone⟩
  | cons name names ih =>
    intro list h
    have hcount : ((name :: names).filterMap parse_pid).length =
        (parse_pid name).toList.length + (names.filterMap parse_pid).length := by
      rw [List.filterMap_cons]
      cases parse_pid name with
      | none => simp
      | some value => simp [Nat.add_comm]
    have hvalues : (parse_pid name).toList ++ names.filterMap parse_pid =
        (name :: names).filterMap parse_pid := by
      rw [List.filterMap_cons]
      cases parse_pid name with
      | none => rfl
      | some value => rfl
    obtain ⟨htaken, hrefused⟩ := collect_entry_spec h name
    rw [collect_entries, hcount, ← Nat.add_assoc]
    constructor
    · intro hmemory
      -- The first name is taken, and there is memory for the others.
      obtain ⟨list₁, hentry, hgrown, hvalues₁, herrno⟩ := htaken
        ⟨(Nat.le_add_right _ _).trans hmemory.small,
          fun asked hasked => hmemory.granted asked (hasked.trans_le (Nat.le_add_right _ _))⟩
      have hlength : list₁.values.length = list.values.length + (parse_pid name).toList.length := by
        rw [hvalues₁, List.length_append]
      obtain ⟨list₂, hentries, hvalues₂, herrno₂⟩ := (ih hgrown).1 (hlength ▸ hmemory)
      refine ⟨list₂, ?_, ?_, ?_⟩
      · rw [hentry]
        exact hentries
      · rw [hvalues₂, hvalues₁, List.append_assoc, hvalues]
      · rw [herrno₂, herrno]
        rfl
    · intro hmemory
      -- Either the first name finds no memory, or one of the others.
      by_cases hfirst : HasMemory realloc (list.values.length + (parse_pid name).toList.length)
      · obtain ⟨list₁, hentry, hgrown, hvalues₁, -⟩ := htaken hfirst
        have hlength : list₁.values.length = list.values.length + (parse_pid name).toList.length := by
          rw [hvalues₁, List.length_append]
        rw [hentry]
        exact (ih hgrown).2 (hlength ▸ hmemory)
      · obtain ⟨error, hentry⟩ := hrefused hfirst
        rw [hentry]
        exact ⟨error, rfl⟩

/-- The name of a task in its directory. -/
theorem parse_pid_numeral {tid : Nat} (hpos : 0 < tid) (hmax : (tid : Int) ≤ INT_MAX) :
    parse_pid (numeral 10 tid) = some (tid : Int) := by
  have hne : numeral 10 tid ≠ [] := numeral_ne_nil (by omega) (by omega)
  have hlimit : INT_MAX = 2 ^ 31 - 1 := rfl
  unfold parse_pid
  rw [if_neg hne, strtol_numeral (by omega)]
  dsimp only
  rw [if_neg]
  simp only [Bool.false_eq_true, false_or, ne_eq, not_true_eq_false, not_or]
  exact ⟨hne.symm, by omega, by omega⟩

/-- What the tasks are read as, when they are read. -/
theorem collect_task_ids_iff (pid : Pid) (opened : Except Int Directory) (ids : List Pid) :
    collect_task_ids realloc strerror pid opened = .ok ids ↔
      ∃ directory, opened = .ok directory ∧ ids = directory.names.filterMap parse_pid ∧
        HasMemory realloc ids.length ∧
        directory.failure.getD (if leaves_errno directory.names then ERANGE else 0) = 0 := by
  unfold collect_task_ids
  cases opened with
  | error errno => simp
  | ok directory =>
    dsimp only
    obtain ⟨htaken, hrefused⟩ := collect_entries_spec directory.names (TaskList.Grown.init realloc)
    have hzero : TaskList.init.values.length + (directory.names.filterMap parse_pid).length =
        (directory.names.filterMap parse_pid).length := Nat.zero_add _
    rw [hzero] at htaken hrefused
    by_cases hmemory : HasMemory realloc (directory.names.filterMap parse_pid).length
    · obtain ⟨list, hentries, hvalues, herrno⟩ := htaken hmemory
      -- Behind the loop `errno` is what the last name has left there.
      have hlast : list.errno = if leaves_errno directory.names then ERANGE else 0 := by
        rw [herrno, foldl_errno_after]
        simp [TaskList.init]
      rw [hentries]
      dsimp only
      rw [hlast, hvalues]
      by_cases hread :
          directory.failure.getD (if leaves_errno directory.names then ERANGE else 0) = 0
      · rw [if_neg (not_not.mpr hread)]
        constructor
        · rintro ⟨⟩
          exact ⟨directory, rfl, rfl, hmemory, hread⟩
        · rintro ⟨_, ⟨⟩, rfl, -, -⟩
          rfl
      · rw [if_pos hread]
        constructor
        · intro hok
          simp at hok
        · rintro ⟨_, ⟨⟩, -, -, hok⟩
          exact absurd hok hread
    · obtain ⟨error, hentries⟩ := hrefused hmemory
      rw [hentries]
      constructor
      · intro hok
        simp at hok
      · rintro ⟨_, ⟨⟩, rfl, hgranted, -⟩
        exact absurd hgranted hmemory

/-- The directory of a process, as the kernel shows it. -/
def task_directory (tasks : List Nat) : Directory :=
  ⟨cstr "." :: cstr ".." :: tasks.map (numeral 10), none⟩

theorem task_directory_ids {tasks : List Nat} (htasks : ∀ tid ∈ tasks, 0 < tid ∧ (tid : Int) ≤ INT_MAX) :
    (task_directory tasks).names.filterMap parse_pid = tasks.map fun tid : Nat => (tid : Int) := by
  have hdots : (cstr ".").head? = some 46 ∧ (cstr "..").head? = some 46 := by decide +kernel
  have hnames : (tasks.map (numeral 10)).filterMap parse_pid =
      tasks.map fun tid : Nat => (tid : Int) := by
    rw [List.filterMap_map]
    apply List.filterMap_eq_map_iff_forall_eq_some.mpr
    intro tid htid
    exact parse_pid_numeral (htasks tid htid).1 (htasks tid htid).2
  rw [task_directory, List.filterMap_cons, parse_pid_dot hdots.1, List.filterMap_cons,
    parse_pid_dot hdots.2, hnames]

/-- The numbers of tasks are not too large. -/
theorem task_directory_errno {tasks : List Nat} (htasks : ∀ tid ∈ tasks, (tid : Int) ≤ INT_MAX) :
    leaves_errno (task_directory tasks).names = false := by
  unfold leaves_errno
  rw [Option.any_eq_false]
  intro name hname
  have hmem := List.mem_of_mem_filter (List.mem_of_getLast? hname)
  rcases List.mem_cons.mp hmem with rfl | hmem
  · decide +kernel
  · rcases List.mem_cons.mp hmem with rfl | hmem
    · decide +kernel
    · obtain ⟨tid, htid, rfl⟩ := List.mem_map.mp hmem
      have hlimit : INT_MAX = 2 ^ 31 - 1 := rfl
      have hmax := htasks tid htid
      rw [strtol_numeral (by omega)]

/-- The directory of a process is read as its tasks. -/
theorem collect_task_directory {tasks : List Nat} (htasks : ∀ tid ∈ tasks, 0 < tid ∧ (tid : Int) ≤ INT_MAX)
    (hmemory : HasMemory realloc tasks.length) (pid : Pid) :
    collect_task_ids realloc strerror pid (.ok (task_directory tasks)) =
      .ok (tasks.map fun tid : Nat => (tid : Int)) := by
  rw [collect_task_ids_iff]
  refine ⟨_, rfl, (task_directory_ids htasks).symm, by simpa using hmemory, ?_⟩
  rw [task_directory_errno fun tid htid => (htasks tid htid).2]
  rfl

/-- **When the tasks of a process are found.**  The directory must have been opened and read to its
    end, there must be memory, and the last name in it must not be a number that is too large
    for a `long`; then the numbers are those of the names that `-p` would take, in their order.
    A directory as the kernel shows it, with the numbers of the tasks in it, is read as
    these numbers. -/
theorem collect_task_ids_exact (realloc : Nat → Bool) (strerror : Int → String) (pid : Pid) :
    (∀ (opened : Except Int Directory) (ids : List Pid),
      collect_task_ids realloc strerror pid opened = .ok ids ↔
        ∃ directory, opened = .ok directory ∧ ids = directory.names.filterMap parse_pid ∧
          HasMemory realloc ids.length ∧
          directory.failure.getD (if leaves_errno directory.names then ERANGE else 0) = 0) ∧
    ∀ tasks : List Nat, (∀ tid ∈ tasks, 0 < tid ∧ (tid : Int) ≤ INT_MAX) →
      HasMemory realloc tasks.length →
      collect_task_ids realloc strerror pid (.ok (task_directory tasks)) =
        .ok (tasks.map fun tid : Nat => (tid : Int)) := by
  exact ⟨collect_task_ids_iff pid, fun tasks htasks hmemory =>
    collect_task_directory htasks hmemory pid⟩

/-! ### The thread group of a task -/

/-- A line of the file that `fgets` reads in one piece, and another one than the one looked for. -/
structure OtherLine (line : Text) : Prop where
  newline : 10 ∉ line
  short : line.length < status_buffer - 1
  other : ¬cstr "Tgid:" <+: line

theorem fgets_lines_append {line : Text} (hnewline : 10 ∉ line) (rest : Text) :
    ∀ {room : Nat}, line.length < room → fgets_lines room (line ++ 10 :: rest) =
      (line ++ [10]) :: fgets_lines (status_buffer - 1) rest := by
  induction line with
  | nil =>
    intro room _
    simp [fgets_lines]
  | cons byte line ih =>
    intro room hroom
    rw [List.length_cons] at hroom
    have hbyte : ¬(byte = 10 ∨ room ≤ 1) := by
      rintro (rfl | hfull)
      · exact hnewline List.mem_cons_self
      · omega
    rw [List.cons_append, fgets_lines, if_neg hbyte,
      ih (fun hmem => hnewline (List.mem_cons_of_mem _ hmem)) (by omega)]
    rfl

/-- A line with a NUL in it is cut there, but not before the word. -/
theorem status_tgid_other {line : Text} (h : OtherLine line) : status_tgid (line ++ [10]) = none := by
  unfold status_tgid
  rw [if_neg]
  intro hprefix
  have hwhole := hprefix.trans (List.takeWhile_prefix _)
  have hword : (10 : UInt8) ∉ cstr "Tgid:" := by decide +kernel
  obtain hsame | hbefore := List.prefix_concat_iff.mp hwhole
  · rw [hsame] at hword
    simp at hword
  · exact h.other hbefore

theorem status_tgid_numeral {tgid : Nat} (hpos : 0 < tgid) (hmax : (tgid : Int) ≤ INT_MAX) :
    status_tgid (cstr "Tgid:\t" ++ numeral 10 tgid ++ [10]) = some (tgid : Int) := by
  have hlimit : INT_MAX = 2 ^ 31 - 1 := rfl
  -- The text is a C string, and behind the name a tab and the number are left.
  have htext : cstr "Tgid:\t" = cstr "Tgid:" ++ [9] := by decide +kernel
  have hdigits : ∀ byte ∈ numeral 10 tgid, is_digit byte = true := fun _ => is_digit_of_mem
  have hstring : c_string (cstr "Tgid:\t" ++ numeral 10 tgid ++ [10]) =
      cstr "Tgid:\t" ++ numeral 10 tgid ++ [10] := by
    have hword : ∀ byte ∈ cstr "Tgid:\t", byte ≠ 0 := by decide +kernel
    unfold c_string
    rw [List.takeWhile_eq_self_iff]
    intro byte hbyte
    rw [bne_iff_ne]
    rcases List.mem_append.mp hbyte with hbyte | hbyte
    · rcases List.mem_append.mp hbyte with hbyte | hbyte
      · exact hword byte hbyte
      · rintro rfl
        exact absurd (hdigits 0 hbyte) (by decide)
    · rintro rfl
      simp at hbyte
  have hdrop : (cstr "Tgid:\t" ++ numeral 10 tgid ++ [10]).drop 5 = 9 :: (numeral 10 tgid ++ [10]) := by
    rw [htext, List.append_assoc, List.append_assoc]
    exact List.drop_left' (by decide +kernel)
  have hread : strtol (9 :: (numeral 10 tgid ++ [10])) = ((tgid : Int), [10], false) := by
    have hscan : scan_number (9 :: (numeral 10 tgid ++ [10])) =
        scan_number (numeral 10 tgid ++ [10]) := rfl
    have hnumeral : scan_number (numeral 10 tgid ++ [10]) = (false, numeral 10 tgid, [10]) :=
      scan_number_numeral (by simp [isdigit])
    unfold strtol
    rw [hscan, hnumeral]
    dsimp only
    rw [if_neg (numeral_ne_nil (by omega) (by omega)), decimal_numeral]
    simp only [Bool.false_eq_true, if_false]
    rw [if_neg (by omega), if_neg (by omega)]
  unfold status_tgid
  dsimp only
  rw [hstring, if_pos, hdrop, hread]
  · dsimp only
    rw [if_pos]
    refine ⟨?_, by omega, hmax⟩
    intro heq
    simp at heq
  · rw [htext, List.append_assoc, List.append_assoc]
    exact List.prefix_append _ _

/-- **The thread group is found** behind other lines, as long as these are not too long for the
    buffer: what is read of a long line in a later piece could be taken for a line. -/
theorem read_tgid_finds {before : List Text} (hbefore : ∀ line ∈ before, OtherLine line) {tgid : Nat}
    (hpos : 0 < tgid) (hmax : (tgid : Int) ≤ INT_MAX) (rest : Text) :
    read_tgid (some ((before.flatMap fun line => line ++ [10]) ++
      (cstr "Tgid:\t" ++ numeral 10 tgid ++ 10 :: rest))) = tgid := by
  -- The lines in front are read one by one, so that the induction is on them.
  have hfound : ∀ before : List Text, (∀ line ∈ before, OtherLine line) →
      (fgets_lines (status_buffer - 1) ((before.flatMap fun line => line ++ [10]) ++
        (cstr "Tgid:\t" ++ numeral 10 tgid ++ 10 :: rest))).findSome? status_tgid =
          some (tgid : Int) := by
    intro before
    induction before with
    | nil =>
      intro _
      -- The line itself fits into the buffer, and its number is read.
      have hlimit : INT_MAX = 2 ^ 31 - 1 := rfl
      have hlength : (numeral 10 tgid).length ≤ 20 :=
        length_numeral_le (by omega) (by omega) (by omega) (show tgid < 10 ^ 20 by omega)
      have hword : (cstr "Tgid:\t").length = 6 ∧ (10 : UInt8) ∉ cstr "Tgid:\t" := by decide +kernel
      have hnewline : (10 : UInt8) ∉ cstr "Tgid:\t" ++ numeral 10 tgid := by
        intro hmem
        rcases List.mem_append.mp hmem with hmem | hmem
        · exact hword.2 hmem
        · exact absurd (is_digit_of_mem hmem) (by decide)
      rw [List.flatMap_nil, List.nil_append, fgets_lines_append hnewline]
      · rw [List.findSome?_cons, status_tgid_numeral hpos hmax]
      · rw [List.length_append, hword.1]
        exact Nat.lt_of_le_of_lt (Nat.add_le_add_left hlength 6) (by decide)
    | cons line before ih =>
      intro hlines
      have hline := hlines line List.mem_cons_self
      rw [List.flatMap_cons, List.append_assoc, List.append_assoc, List.singleton_append,
        fgets_lines_append hline.newline _ hline.short, List.findSome?_cons,
        status_tgid_other hline]
      exact ih fun other hother => hlines other (List.mem_cons_of_mem _ hother)
  unfold read_tgid
  dsimp only
  rw [hfound before hbefore]
  rfl

end tasks

end Sysgaze
