import Mathlib.Data.List.Nodup
import Sysgaze.Event
import Sysgaze.Filter
import Sysgaze.Lib.ClassicBpf

/-! # The seccomp program (`prepare_seccomp_program` in `trace.c`)

    With `--seccomp-bpf` the tracer compiles the filter into a classic BPF
    program, which the launched child installs.  The program is written
    instruction by instruction into an array whose size was computed
    beforehand from `sg_filter_count`.

    The main result is `prepare_seccomp_program_correct`: for every selection
    the program is built, fills its array exactly, is accepted by the kernel's
    checker and returns the intended verdict.
-/

open ClassicBpf

namespace Sysgaze

/-! ### Constants -/

abbrev SYS_rt_sigreturn : Nat := 15
abbrev SG_X32_SYSCALL_BIT : UInt32 := 0x40000000
abbrev SG_SECCOMP_BAD_ARCH : UInt32 := 1
abbrev SG_SECCOMP_BAD_ABI : UInt32 := 2
abbrev AUDIT_ARCH_X86_64 : UInt32 := 0xc000003e
abbrev SECCOMP_RET_TRACE : UInt32 := 0x7ff00000
abbrev SECCOMP_RET_ALLOW : UInt32 := 0x7fff0000
abbrev USHRT_MAX : Nat := 65535

/-- `struct seccomp_data`. -/
structure SeccompData where
  nr : UInt32
  arch : UInt32
  instruction_pointer : UInt64
  args : Vector UInt64 6

/-- `sizeof(struct seccomp_data)`. -/
abbrev sizeof_seccomp_data : Nat := 64

/-- The packet a filter program sees, as 32-bit words. -/
def SeccompData.words (data : SeccompData) : List UInt32 :=
  data.nr :: data.arch ::
    (data.instruction_pointer :: data.args.toList).flatMap fun w : UInt64 =>
      [w.toUInt32, (w >>> 32).toUInt32]

/-- Load the word at a byte offset. -/
def SeccompData.load (data : SeccompData) (offset : UInt32) : Option UInt32 :=
  if offset.toNat % 4 = 0 then data.words[offset.toNat / 4]? else none

/-- `offsetof(struct seccomp_data, nr)`. -/
abbrev offsetof_nr : UInt32 := 0

/-- `offsetof(struct seccomp_data, arch)`. -/
abbrev offsetof_arch : UInt32 := 4

@[simp] theorem load_nr (data : SeccompData) : data.load offsetof_nr = some data.nr := rfl

@[simp] theorem load_arch (data : SeccompData) : data.load offsetof_arch = some data.arch := rfl

/-! ### Building the program -/

/-- How `prepare_seccomp_program` can fail: with an error it reports, or by
    writing outside the array it allocated. -/
inductive SeccompFailure where
  | error (message : String)
  | out_of_bounds
  deriving DecidableEq, Repr

/-- `struct seccomp_program`: the array, and the length of the program in it. -/
structure SeccompProgram where
  instructions : List Insn
  len : Nat
  deriving DecidableEq, Repr

/-- The program the kernel is given. -/
def SeccompProgram.program (filter : SeccompProgram) : List Insn :=
  filter.instructions.take filter.len

/-- `append_bpf`.  `len` is an `unsigned short`. -/
def append_bpf (filter : SeccompProgram) (insn : Insn) : Except SeccompFailure SeccompProgram :=
  if filter.len < filter.instructions.length then
    .ok { instructions := filter.instructions.set filter.len insn
          len := (filter.len + 1) % (USHRT_MAX + 1) }
  else .error .out_of_bounds

/-- One round of the loop over the syscall numbers. -/
def append_number (selection : Filter) (filter : SeccompProgram) (number : Nat) :
    Except SeccompFailure SeccompProgram :=
  if !sg_filter_contains selection number && number != SYS_rt_sigreturn then .ok filter
  else do
    let filter ← append_bpf filter (jeq 0 1 number.toUInt32)
    append_bpf filter (ret SECCOMP_RET_TRACE)

/-- The number of comparisons the program needs. -/
def selected_count (selection : Filter) : Nat :=
  if sg_filter_contains selection SYS_rt_sigreturn then sg_filter_count selection
  else sg_filter_count selection + 1

/-- `prepare_seccomp_program`; `granted` is the answer of `calloc`. -/
def prepare_seccomp_program (selection : Filter) (granted : Bool) :
    Except SeccompFailure SeccompProgram := do
  let selected_count := selected_count selection
  if selected_count > (SIZE_MAX - 7) / 2 then
    throw (.error "seccomp filter is too large")
  let capacity := 7 + selected_count * 2
  if capacity > USHRT_MAX then
    throw (.error "seccomp filter exceeds kernel limits")
  if !granted then
    throw (.error "cannot allocate seccomp filter")
  let filter : SeccompProgram := ⟨List.replicate capacity default, 0⟩
  let filter ← append_bpf filter (ldAbs offsetof_arch)
  let filter ← append_bpf filter (jeq 1 0 AUDIT_ARCH_X86_64)
  let filter ← append_bpf filter (ret (SECCOMP_RET_TRACE ||| SG_SECCOMP_BAD_ARCH))
  let filter ← append_bpf filter (ldAbs offsetof_nr)
  let filter ← append_bpf filter (jge 0 1 SG_X32_SYSCALL_BIT)
  let filter ← append_bpf filter (ret (SECCOMP_RET_TRACE ||| SG_SECCOMP_BAD_ABI))
  let filter ← (List.range SG_SYSCALL_LIMIT).foldlM (append_number selection) filter
  append_bpf filter (ret SECCOMP_RET_ALLOW)

/-! ### What the program should be -/

/-- The numbers whose entries the program reports to the tracer. -/
def traced_numbers (selection : Filter) : List Nat :=
  (List.range SG_SYSCALL_LIMIT).filter fun number : Nat =>
    sg_filter_contains selection number || number == SYS_rt_sigreturn

/-- The checks in front of the comparisons. -/
def seccomp_header : List Insn :=
  [ldAbs offsetof_arch, jeq 1 0 AUDIT_ARCH_X86_64,
   ret (SECCOMP_RET_TRACE ||| SG_SECCOMP_BAD_ARCH), ldAbs offsetof_nr,
   jge 0 1 SG_X32_SYSCALL_BIT, ret (SECCOMP_RET_TRACE ||| SG_SECCOMP_BAD_ABI)]

/-- The program for a selection. -/
def seccomp_instructions (selection : Filter) : List Insn :=
  seccomp_header ++
    (matchChain ((traced_numbers selection).map Nat.toUInt32) SECCOMP_RET_TRACE ++
      [ret SECCOMP_RET_ALLOW])

/-- The intended verdict on a syscall. -/
def seccomp_verdict (selection : Filter) (data : SeccompData) : UInt32 :=
  if data.arch ≠ AUDIT_ARCH_X86_64 then SECCOMP_RET_TRACE ||| SG_SECCOMP_BAD_ARCH
  else if SG_X32_SYSCALL_BIT ≤ data.nr then SECCOMP_RET_TRACE ||| SG_SECCOMP_BAD_ABI
  else if data.nr.toNat < SG_SYSCALL_LIMIT ∧
      (sg_filter_contains selection data.nr.toNat = true ∨ data.nr.toNat = SYS_rt_sigreturn)
    then SECCOMP_RET_TRACE
  else SECCOMP_RET_ALLOW

/-! ### The array is filled exactly -/

/-- The state of the construction: `done` has been written into an array of
    `capacity` instructions, the rest of which is still zero. -/
structure Built (capacity : Nat) (done : List Insn) (filter : SeccompProgram) : Prop where
  instructions : filter.instructions = done ++ List.replicate (capacity - done.length) default
  len : filter.len = done.length
  length_le : done.length ≤ capacity

theorem Built.append {capacity : Nat} {done : List Insn} {filter : SeccompProgram}
    (hb : Built capacity done filter) (insn : Insn) (hroom : done.length < capacity)
    (hcap : capacity ≤ USHRT_MAX) :
    ∃ filter', append_bpf filter insn = .ok filter' ∧ Built capacity (done ++ [insn]) filter' := by
  have hlen : filter.instructions.length = capacity := by
    rw [hb.instructions, List.length_append, List.length_replicate]
    omega
  have hrest : capacity - done.length = (capacity - (done.length + 1)) + 1 := by omega
  refine ⟨_, by rw [append_bpf, if_pos (by rw [hb.len, hlen]; exact hroom)], ?_, ?_, ?_⟩
  · -- The first zero of the rest is overwritten.
    show filter.instructions.set filter.len insn = _
    rw [hb.instructions, hb.len, List.set_append_right _ _ (Nat.le_refl _), Nat.sub_self, hrest,
      List.replicate_succ, List.set_cons_zero, List.length_append, List.length_singleton,
      List.append_assoc, List.singleton_append]
  · show (filter.len + 1) % (USHRT_MAX + 1) = _
    rw [hb.len, List.length_append, List.length_singleton, Nat.mod_eq_of_lt (by omega)]
  · rw [List.length_append, List.length_singleton]
    omega

/-- A full construction wrote its program and nothing else. -/
theorem Built.program_eq {capacity : Nat} {done : List Insn} {filter : SeccompProgram}
    (hb : Built capacity done filter) : filter.program = done := by
  rw [SeccompProgram.program, hb.instructions, hb.len, List.take_left]

/-- The comparisons one number contributes. -/
def number_instructions (selection : Filter) (number : Nat) : List Insn :=
  if sg_filter_contains selection number || number == SYS_rt_sigreturn then
    [jeq 0 1 number.toUInt32, ret SECCOMP_RET_TRACE]
  else []

theorem Built.append_number {capacity : Nat} {done : List Insn} {filter : SeccompProgram}
    (hb : Built capacity done filter) (selection : Filter) (number : Nat)
    (hroom : done.length + (number_instructions selection number).length ≤ capacity)
    (hcap : capacity ≤ USHRT_MAX) :
    ∃ filter', append_number selection filter number = .ok filter' ∧
      Built capacity (done ++ number_instructions selection number) filter' := by
  unfold Sysgaze.append_number number_instructions at *
  by_cases h : (sg_filter_contains selection number || number == SYS_rt_sigreturn) = true
  · rw [if_pos h, List.length_cons, List.length_singleton] at hroom
    obtain ⟨f₁, h₁, hb₁⟩ := hb.append (jeq 0 1 number.toUInt32) (by omega) hcap
    obtain ⟨f₂, h₂, hb₂⟩ := hb₁.append (ret SECCOMP_RET_TRACE)
      (by rw [List.length_append, List.length_singleton]; omega) hcap
    refine ⟨f₂, ?_, by simpa [h] using hb₂⟩
    have hnot : (!sg_filter_contains selection number && number != SYS_rt_sigreturn) = false := by
      simpa [bne, ← Bool.not_or] using h
    rw [hnot]
    simp only [Bool.false_eq_true, if_false, h₁]
    exact h₂
  · refine ⟨filter, ?_, by simpa [h] using hb⟩
    have hnot : (!sg_filter_contains selection number && number != SYS_rt_sigreturn) = true := by
      simpa [bne, ← Bool.not_or] using h
    rw [hnot]
    rfl

/-- The loop over the numbers, by induction on the numbers left. -/
theorem Built.append_numbers {capacity : Nat} (selection : Filter)
    (hcap : capacity ≤ USHRT_MAX) (numbers : List Nat) :
    ∀ {done : List Insn} {filter : SeccompProgram}, Built capacity done filter →
      done.length + (numbers.flatMap (number_instructions selection)).length ≤ capacity →
      ∃ filter', numbers.foldlM (Sysgaze.append_number selection) filter = .ok filter' ∧
        Built capacity (done ++ numbers.flatMap (number_instructions selection)) filter' := by
  induction numbers with
  | nil =>
    intro done filter hb _
    exact ⟨filter, rfl, by simpa using hb⟩
  | cons number numbers ih =>
    intro done filter hb hroom
    rw [List.flatMap_cons, List.length_append] at hroom
    obtain ⟨f₁, h₁, hb₁⟩ := hb.append_number selection number (by omega) hcap
    obtain ⟨f₂, h₂, hb₂⟩ := ih hb₁ (by rw [List.length_append]; omega)
    refine ⟨f₂, ?_, by rwa [List.flatMap_cons, ← List.append_assoc]⟩
    rw [List.foldlM_cons, h₁]
    exact h₂

/-- The loop writes the chain of comparisons. -/
theorem flatMap_number_instructions (selection : Filter) (numbers : List Nat) :
    numbers.flatMap (number_instructions selection) =
      matchChain ((numbers.filter fun number : Nat =>
        sg_filter_contains selection number || number == SYS_rt_sigreturn).map Nat.toUInt32)
        SECCOMP_RET_TRACE := by
  induction numbers with
  | nil => rfl
  | cons number numbers ih =>
    rw [List.flatMap_cons, ih, List.filter_cons, number_instructions]
    by_cases h : (sg_filter_contains selection number || number == SYS_rt_sigreturn) = true
    · rw [if_pos h, if_pos h, List.map_cons]
      rfl
    · rw [if_neg h, if_neg h, List.nil_append]

/-! ### The array has the right size -/

/-- Counting a set with one more number in it. -/
theorem countP_or_eq {p : Nat → Bool} {x : Nat} (hx : p x = false) (xs : List Nat) :
    xs.countP (fun n => p n || n == x) = xs.countP p + xs.count x := by
  induction xs with
  | nil => rfl
  | cons n xs ih =>
    rw [List.countP_cons, List.countP_cons, List.count_cons, ih]
    by_cases h : n = x
    · subst h
      simp [hx]
      omega
    · simp [h]
      omega

/-- The buffer size computed by popcount agrees with what the loop emits. -/
theorem selected_count_eq (selection : Filter) :
    selected_count selection = (traced_numbers selection).length := by
  rw [traced_numbers, ← List.countP_eq_length_filter, selected_count, sg_filter_count_eq]
  by_cases h : sg_filter_contains selection SYS_rt_sigreturn = true
  · -- `rt_sigreturn` is selected: it is counted already.
    rw [if_pos h]
    refine List.countP_congr fun number _ => ?_
    simp only [Bool.or_eq_true, beq_iff_eq]
    refine ⟨Or.inl, ?_⟩
    rintro (hin | rfl)
    · exact hin
    · exact h
  · rw [if_neg h]
    have hone : (List.range SG_SYSCALL_LIMIT).count SYS_rt_sigreturn = 1 :=
      List.count_eq_one_of_mem List.nodup_range (List.mem_range.mpr (by decide))
    rw [countP_or_eq (p := fun number : Nat => sg_filter_contains selection number)
      (by simpa using h), hone]

theorem traced_numbers_length_le (selection : Filter) :
    (traced_numbers selection).length ≤ SG_SYSCALL_LIMIT := by
  have := List.length_filter_le (fun number : Nat =>
    sg_filter_contains selection number || number == SYS_rt_sigreturn)
    (List.range SG_SYSCALL_LIMIT)
  rwa [List.length_range] at this

theorem length_seccomp_instructions (selection : Filter) :
    (seccomp_instructions selection).length = 7 + selected_count selection * 2 := by
  rw [seccomp_instructions, List.length_append, List.length_append, length_matchChain,
    List.length_map, ← selected_count_eq]
  simp only [seccomp_header, List.length_cons, List.length_nil]
  omega

/-- With its array allocated, the construction succeeds, fills the array and
    writes the program. -/
theorem prepare_seccomp_program_ok (selection : Filter) :
    ∃ filter, prepare_seccomp_program selection true = .ok filter ∧
      filter.program = seccomp_instructions selection ∧
      filter.instructions = seccomp_instructions selection ∧
      filter.len = filter.instructions.length := by
  have hcount : selected_count selection ≤ 512 := by
    rw [selected_count_eq]; exact traced_numbers_length_le selection
  obtain ⟨capacity, hcapacity⟩ : ∃ capacity, capacity = 7 + selected_count selection * 2 :=
    ⟨_, rfl⟩
  have hle : capacity ≤ USHRT_MAX := by simp only [USHRT_MAX]; omega
  have hb₀ : Built capacity [] ⟨List.replicate capacity default, 0⟩ := ⟨by simp, rfl, by simp⟩
  obtain ⟨f₁, h₁, hb₁⟩ := hb₀.append (ldAbs offsetof_arch) (by simp; omega) hle
  obtain ⟨f₂, h₂, hb₂⟩ := hb₁.append (jeq 1 0 AUDIT_ARCH_X86_64) (by simp; omega) hle
  obtain ⟨f₃, h₃, hb₃⟩ := hb₂.append (ret (SECCOMP_RET_TRACE ||| SG_SECCOMP_BAD_ARCH))
    (by simp; omega) hle
  obtain ⟨f₄, h₄, hb₄⟩ := hb₃.append (ldAbs offsetof_nr) (by simp; omega) hle
  obtain ⟨f₅, h₅, hb₅⟩ := hb₄.append (jge 0 1 SG_X32_SYSCALL_BIT) (by simp; omega) hle
  obtain ⟨f₆, h₆, hb₆⟩ := hb₅.append (ret (SECCOMP_RET_TRACE ||| SG_SECCOMP_BAD_ABI))
    (by simp; omega) hle
  -- The six checks are in place: the loop adds the comparisons.
  have hchain := flatMap_number_instructions selection (List.range SG_SYSCALL_LIMIT)
  have hlenchain : ((List.range SG_SYSCALL_LIMIT).flatMap
      (number_instructions selection)).length = 2 * selected_count selection := by
    rw [hchain, length_matchChain, List.length_map, selected_count_eq, traced_numbers]
  obtain ⟨f₇, h₇, hb₇⟩ := hb₆.append_numbers selection hle (List.range SG_SYSCALL_LIMIT)
    (by rw [hlenchain]; simp; omega)
  obtain ⟨f₈, h₈, hb₈⟩ := hb₇.append (ret SECCOMP_RET_ALLOW)
    (by rw [List.length_append, hlenchain]; simp; omega) hle
  have hdone : ([] ++ [ldAbs offsetof_arch] ++ [jeq 1 0 AUDIT_ARCH_X86_64] ++
      [ret (SECCOMP_RET_TRACE ||| SG_SECCOMP_BAD_ARCH)] ++ [ldAbs offsetof_nr] ++
      [jge 0 1 SG_X32_SYSCALL_BIT] ++ [ret (SECCOMP_RET_TRACE ||| SG_SECCOMP_BAD_ABI)] ++
      (List.range SG_SYSCALL_LIMIT).flatMap (number_instructions selection) ++
      [ret SECCOMP_RET_ALLOW]) = seccomp_instructions selection := by
    rw [hchain, seccomp_instructions, traced_numbers, ← List.append_assoc]
    rfl
  rw [hdone] at hb₈
  have hfull : capacity - (seccomp_instructions selection).length = 0 := by
    rw [length_seccomp_instructions]; omega
  have hinst : f₈.instructions = seccomp_instructions selection := by
    rw [hb₈.instructions, hfull, List.replicate_zero, List.append_nil]
  refine ⟨f₈, ?_, hb₈.program_eq, hinst, by rw [hb₈.len, hinst]⟩
  unfold prepare_seccomp_program
  have hsmall : ¬selected_count selection > (SIZE_MAX - 7) / 2 := by
    simp only [SIZE_MAX]; omega
  simp only [← hcapacity, if_neg hsmall, if_neg (Nat.not_lt.mpr hle), Bool.not_true,
    Bool.false_eq_true, if_false, bind, Except.bind, h₁, h₂, h₃, h₄, h₅, h₆, h₇]
  exact h₈

/-! ### What the program computes -/

theorem mem_traced_numbers (selection : Filter) (number : Nat) :
    number ∈ traced_numbers selection ↔ number < SG_SYSCALL_LIMIT ∧
      (sg_filter_contains selection number = true ∨ number = SYS_rt_sigreturn) := by
  simp [traced_numbers]

/-- The comparisons recognise exactly the traced numbers. -/
theorem mem_map_traced_numbers (selection : Filter) (nr : UInt32) :
    nr ∈ (traced_numbers selection).map Nat.toUInt32 ↔
      nr.toNat ∈ traced_numbers selection := by
  rw [List.mem_map]
  constructor
  · rintro ⟨number, hmem, rfl⟩
    have hlt := ((mem_traced_numbers selection number).mp hmem).1
    have : number.toUInt32.toNat = number := by
      simp only [Nat.toUInt32, UInt32.toNat_ofNat', SG_SYSCALL_LIMIT] at *
      omega
    rwa [this]
  · intro hmem
    exact ⟨nr.toNat, hmem, by simp [Nat.toUInt32]⟩

theorem exec_seccomp_instructions (selection : Filter) (data : SeccompData) :
    exec data.load (seccomp_instructions selection) 0 =
      some (seccomp_verdict selection data) := by
  have hchain := exec_matchChain data.load ((traced_numbers selection).map Nat.toUInt32)
    SECCOMP_RET_TRACE [ret SECCOMP_RET_ALLOW] data.nr
  simp only [mem_map_traced_numbers, mem_traced_numbers, exec_ret] at hchain
  unfold seccomp_instructions seccomp_header seccomp_verdict
  simp only [List.cons_append, List.nil_append, exec_ldAbs, load_arch, exec_jeq]
  by_cases harch : data.arch = AUDIT_ARCH_X86_64
  · -- The architecture matches: the jump skips the first return.
    simp only [harch, if_true, UInt8.toNat_one, List.drop_succ_cons, List.drop_zero, exec_ldAbs,
      load_nr, exec_jge, ne_eq, not_true_eq_false, if_false]
    by_cases hx32 : SG_X32_SYSCALL_BIT ≤ data.nr
    · simp [hx32]
    · simp only [hx32, if_false, List.drop_succ_cons, List.drop_zero, hchain]
      split <;> rfl
  · simp [harch]

/-- The jumps of the header land inside, whatever chain follows it. -/
theorem jumpsInside_header (values : List UInt32) :
    JumpsInside (seccomp_header ++
      (matchChain values SECCOMP_RET_TRACE ++ [ret SECCOMP_RET_ALLOW])) := by
  have hlast : JumpsInside [ret SECCOMP_RET_ALLOW] := ⟨fun h => absurd h (by simp), trivial⟩
  have hchain : JumpsInside (matchChain values SECCOMP_RET_TRACE ++ [ret SECCOMP_RET_ALLOW]) :=
    jumpsInside_matchChain hlast (by simp)
  refine ⟨fun h => absurd h (by simp), fun _ => ⟨?_, ?_⟩, fun h => absurd h (by simp),
    fun h => absurd h (by simp), fun _ => ⟨?_, ?_⟩, fun h => absurd h (by simp), hchain⟩
  all_goals simp

theorem wellFormed_seccomp_instructions (selection : Filter) :
    WellFormed sizeof_seccomp_data (seccomp_instructions selection) := by
  have hlen := length_seccomp_instructions selection
  have hcount : selected_count selection ≤ 512 := by
    rw [selected_count_eq]; exact traced_numbers_length_le selection
  -- Every instruction belongs to the header, to the chain, or is the last one.
  have hmem : ∀ i ∈ seccomp_instructions selection, i ∈ seccomp_header ∨
      (∃ v, i = jeq 0 1 v) ∨ i = ret SECCOMP_RET_TRACE ∨ i = ret SECCOMP_RET_ALLOW := by
    intro i hi
    simp only [seccomp_instructions, List.mem_append, List.mem_singleton] at hi
    rcases hi with hi | hi | hi
    · exact Or.inl hi
    · rcases mem_matchChain hi with h | h
      · exact Or.inr (Or.inl h)
      · exact Or.inr (Or.inr (Or.inl h))
    · exact Or.inr (Or.inr (Or.inr hi))
  have hheader : ∀ i ∈ seccomp_header, (i.isLoad = true ∨ i.isJump = true ∨ i.isRet = true) ∧
      (i.isLoad = true → i.k.toNat % 4 = 0 ∧ i.k.toNat + 4 ≤ sizeof_seccomp_data) := by decide
  refine ⟨by omega, by omega, ?_, ?_, jumpsInside_header _, ?_⟩
  · intro i hi
    rcases hmem i hi with h | ⟨v, rfl⟩ | rfl | rfl
    · exact (hheader i h).1
    · exact Or.inr (Or.inl rfl)
    · exact Or.inr (Or.inr rfl)
    · exact Or.inr (Or.inr rfl)
  · intro i hi hload
    rcases hmem i hi with h | ⟨v, rfl⟩ | rfl | rfl
    · exact (hheader i h).2 hload
    · simp at hload
    · simp at hload
    · simp at hload
  · exact ⟨seccomp_header ++ matchChain ((traced_numbers selection).map Nat.toUInt32)
      SECCOMP_RET_TRACE, ret SECCOMP_RET_ALLOW, by rw [seccomp_instructions, List.append_assoc],
      rfl⟩

/-- **Correctness of the seccomp program.**  For every selection and every
    packet the program that `prepare_seccomp_program` builds returns the
    intended verdict; it passes the kernel's checker, and it fills the array
    it was allocated exactly, so that no instruction is written outside.  The
    two size limits are never hit, whatever `calloc` answers. -/
theorem prepare_seccomp_program_correct (selection : Filter) :
    (∃ filter, prepare_seccomp_program selection true = .ok filter ∧
      (∀ data : SeccompData,
        exec data.load filter.program 0 = some (seccomp_verdict selection data)) ∧
      WellFormed sizeof_seccomp_data filter.program ∧
      filter.len = filter.instructions.length ∧
      filter.instructions.length = 7 + 2 * selected_count selection) ∧
    ∀ granted,
      prepare_seccomp_program selection granted ≠ .error (.error "seccomp filter is too large") ∧
      prepare_seccomp_program selection granted ≠
        .error (.error "seccomp filter exceeds kernel limits") ∧
      prepare_seccomp_program selection granted ≠ .error .out_of_bounds := by
  obtain ⟨filter, hok, hprogram, hinst, hlen⟩ := prepare_seccomp_program_ok selection
  refine ⟨⟨filter, hok, ?_, ?_, hlen, ?_⟩, ?_⟩
  · intro data
    rw [hprogram, exec_seccomp_instructions]
  · rw [hprogram]
    exact wellFormed_seccomp_instructions selection
  · rw [hinst, length_seccomp_instructions]
    omega
  · intro granted
    cases granted with
    | true => simp [hok]
    | false =>
      have hcount : selected_count selection ≤ 512 := by
        rw [selected_count_eq]; exact traced_numbers_length_le selection
      have hsmall : ¬selected_count selection > (SIZE_MAX - 7) / 2 := by
        simp only [SIZE_MAX]; omega
      have hfits : ¬7 + selected_count selection * 2 > USHRT_MAX := by
        simp only [USHRT_MAX]; omega
      have herror : prepare_seccomp_program selection false =
          .error (.error "cannot allocate seccomp filter") := by
        unfold prepare_seccomp_program
        rw [if_neg hsmall, if_neg hfits]
        rfl
      rw [herror]
      decide

end Sysgaze
