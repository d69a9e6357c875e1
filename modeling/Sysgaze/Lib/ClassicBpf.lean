import Mathlib.Data.List.Basic
import Mathlib.Tactic.Common

/-! # Classic BPF

    The fragment of classic BPF that a match-and-return filter is made of:
    load a word of the packet, jump on equality or on an unsigned comparison,
    return a constant.  Instructions are the raw `struct sock_filter`, with
    the opcodes of `linux/bpf_common.h`.

    Jumps only go forward, so `exec` recurses on the instructions that are
    left: what remains of the program is the program counter.
-/

namespace ClassicBpf

/-! ### Opcodes -/

abbrev BPF_LD : UInt16 := 0x00
abbrev BPF_JMP : UInt16 := 0x05
abbrev BPF_RET : UInt16 := 0x06
abbrev BPF_W : UInt16 := 0x00
abbrev BPF_ABS : UInt16 := 0x20
abbrev BPF_K : UInt16 := 0x00
abbrev BPF_JEQ : UInt16 := 0x10
abbrev BPF_JGE : UInt16 := 0x30

/-- `struct sock_filter`. -/
structure Insn where
  code : UInt16
  jt : UInt8
  jf : UInt8
  k : UInt32
  deriving DecidableEq, Repr, Inhabited

/-- Is this one of the two conditional jumps of the fragment? -/
def Insn.isJump (i : Insn) : Bool :=
  i.code == (BPF_JMP ||| BPF_JEQ ||| BPF_K) || i.code == (BPF_JMP ||| BPF_JGE ||| BPF_K)

/-- Does this instruction return? -/
def Insn.isRet (i : Insn) : Bool := i.code == (BPF_RET ||| BPF_K)

/-- Does this instruction load a word of the packet? -/
def Insn.isLoad (i : Insn) : Bool := i.code == (BPF_LD ||| BPF_W ||| BPF_ABS)

/-! ### Semantics -/

/-- Run a program with accumulator `a` on the packet words `data`.  `none`: the
    program ran off its end, loaded outside the packet, or met an instruction
    outside the fragment. -/
def exec (data : UInt32 → Option UInt32) : List Insn → UInt32 → Option UInt32
  | [], _ => none
  | i :: rest, a =>
    if i.code = (BPF_LD ||| BPF_W ||| BPF_ABS) then
      match data i.k with
      | some w => exec data rest w
      | none => none
    else if i.code = (BPF_JMP ||| BPF_JEQ ||| BPF_K) then
      exec data (rest.drop (if a = i.k then i.jt.toNat else i.jf.toNat)) a
    else if i.code = (BPF_JMP ||| BPF_JGE ||| BPF_K) then
      exec data (rest.drop (if i.k ≤ a then i.jt.toNat else i.jf.toNat)) a
    else if i.code = (BPF_RET ||| BPF_K) then some i.k
    else none
termination_by prog => prog.length
decreasing_by all_goals simp_wf; try omega

/-! ### The checker -/

/-- Every jump of the program lands on an instruction of the program. -/
def JumpsInside : List Insn → Prop
  | [] => True
  | i :: rest =>
    (i.isJump = true → i.jt.toNat < rest.length ∧ i.jf.toNat < rest.length) ∧
      JumpsInside rest

/-- What the kernel asks of a program before it runs it: 1 to 4096
    instructions of the fragment, word loads inside a packet of `size` bytes,
    jumps that land inside, and a return at the end. -/
structure WellFormed (size : Nat) (prog : List Insn) : Prop where
  length_pos : 0 < prog.length
  length_le : prog.length ≤ 4096
  known : ∀ i ∈ prog, i.isLoad = true ∨ i.isJump = true ∨ i.isRet = true
  loads : ∀ i ∈ prog, i.isLoad = true → i.k.toNat % 4 = 0 ∧ i.k.toNat + 4 ≤ size
  jumps : JumpsInside prog
  ends : ∃ init last, prog = init ++ [last] ∧ last.isRet = true

/-! ### Instructions by what they do -/

/-- Load the packet word at offset `k`. -/
abbrev ldAbs (k : UInt32) : Insn := ⟨BPF_LD ||| BPF_W ||| BPF_ABS, 0, 0, k⟩

/-- Jump on equality with `k`. -/
abbrev jeq (jt jf : UInt8) (k : UInt32) : Insn := ⟨BPF_JMP ||| BPF_JEQ ||| BPF_K, jt, jf, k⟩

/-- Jump if the accumulator is at least `k`. -/
abbrev jge (jt jf : UInt8) (k : UInt32) : Insn := ⟨BPF_JMP ||| BPF_JGE ||| BPF_K, jt, jf, k⟩

/-- Return `k`. -/
abbrev ret (k : UInt32) : Insn := ⟨BPF_RET ||| BPF_K, 0, 0, k⟩

/-- The four opcodes are different. -/
theorem opcodes_distinct :
    (BPF_JMP ||| BPF_JEQ ||| BPF_K) ≠ (BPF_LD ||| BPF_W ||| BPF_ABS) ∧
    (BPF_JMP ||| BPF_JGE ||| BPF_K) ≠ (BPF_LD ||| BPF_W ||| BPF_ABS) ∧
    (BPF_JMP ||| BPF_JGE ||| BPF_K) ≠ (BPF_JMP ||| BPF_JEQ ||| BPF_K) ∧
    (BPF_RET ||| BPF_K) ≠ (BPF_LD ||| BPF_W ||| BPF_ABS) ∧
    (BPF_RET ||| BPF_K) ≠ (BPF_JMP ||| BPF_JEQ ||| BPF_K) ∧
    (BPF_RET ||| BPF_K) ≠ (BPF_JMP ||| BPF_JGE ||| BPF_K) := by decide

@[simp] theorem isJump_ret (k : UInt32) : (ret k).isJump = false := by
  obtain ⟨-, -, -, -, hjeq, hjge⟩ := opcodes_distinct
  simp only [Insn.isJump, beq_eq_false_iff_ne.mpr hjeq, beq_eq_false_iff_ne.mpr hjge,
    Bool.or_self]

@[simp] theorem isLoad_ret (k : UInt32) : (ret k).isLoad = false := by
  obtain ⟨-, -, -, hld, -⟩ := opcodes_distinct
  exact beq_eq_false_iff_ne.mpr hld

@[simp] theorem isLoad_jeq (jt jf : UInt8) (k : UInt32) : (jeq jt jf k).isLoad = false :=
  beq_eq_false_iff_ne.mpr opcodes_distinct.1

@[simp] theorem isJump_ldAbs (k : UInt32) : (ldAbs k).isJump = false := by
  obtain ⟨hjeq, hjge, -⟩ := opcodes_distinct
  simp only [Insn.isJump, beq_eq_false_iff_ne.mpr hjeq.symm, beq_eq_false_iff_ne.mpr hjge.symm,
    Bool.or_self]

section exec
variable (data : UInt32 → Option UInt32) (rest : List Insn) (a k : UInt32)

@[simp] theorem exec_ldAbs : exec data (ldAbs k :: rest) a =
    match data k with
    | some w => exec data rest w
    | none => none := by
  rw [exec, if_pos rfl]

@[simp] theorem exec_jeq (jt jf : UInt8) : exec data (jeq jt jf k :: rest) a =
    exec data (rest.drop (if a = k then jt.toNat else jf.toNat)) a := by
  rw [exec, if_neg opcodes_distinct.1, if_pos rfl]

@[simp] theorem exec_jge (jt jf : UInt8) : exec data (jge jt jf k :: rest) a =
    exec data (rest.drop (if k ≤ a then jt.toNat else jf.toNat)) a := by
  obtain ⟨-, hld, hjeq, -⟩ := opcodes_distinct
  rw [exec, if_neg hld, if_neg hjeq, if_pos rfl]

@[simp] theorem exec_ret : exec data (ret k :: rest) a = some k := by
  obtain ⟨-, -, -, hld, hjeq, hjge⟩ := opcodes_distinct
  rw [exec, if_neg hld, if_neg hjeq, if_neg hjge, if_pos rfl]

end exec

/-! ### Chains of comparisons -/

/-- Return `verdict` on equality with one of `values`, else go on: two
    instructions a value, each comparison falling through to the next one. -/
def matchChain (values : List UInt32) (verdict : UInt32) : List Insn :=
  values.flatMap fun v => [jeq 0 1 v, ret verdict]

@[simp] theorem length_matchChain (values : List UInt32) (verdict : UInt32) :
    (matchChain values verdict).length = 2 * values.length := by
  induction values with
  | nil => rfl
  | cons v values ih =>
    simp only [matchChain, List.flatMap_cons, List.length_append, List.length_cons,
      List.length_nil] at *
    omega

/-- A chain of any length decides membership. -/
theorem exec_matchChain (data : UInt32 → Option UInt32) (values : List UInt32)
    (verdict : UInt32) (rest : List Insn) (a : UInt32) :
    exec data (matchChain values verdict ++ rest) a =
      if a ∈ values then some verdict else exec data rest a := by
  induction values with
  | nil => simp [matchChain]
  | cons v values ih =>
    have hcons : matchChain (v :: values) verdict ++ rest =
        jeq 0 1 v :: ret verdict :: (matchChain values verdict ++ rest) := by
      simp [matchChain]
    rw [hcons, exec_jeq]
    by_cases h : a = v
    · simp [h]
    · simp [h, ih]

theorem mem_matchChain {values : List UInt32} {verdict : UInt32} {i : Insn}
    (h : i ∈ matchChain values verdict) : (∃ v, i = jeq 0 1 v) ∨ i = ret verdict := by
  simp only [matchChain, List.mem_flatMap, List.mem_cons, List.not_mem_nil, or_false] at h
  obtain ⟨v, -, rfl | rfl⟩ := h
  · exact Or.inl ⟨v, rfl⟩
  · exact Or.inr rfl

/-- The jumps of a chain land inside, as soon as something follows the chain. -/
theorem jumpsInside_matchChain {values : List UInt32} {verdict : UInt32} {rest : List Insn}
    (hrest : JumpsInside rest) (hlen : 0 < rest.length) :
    JumpsInside (matchChain values verdict ++ rest) := by
  induction values with
  | nil => simpa [matchChain] using hrest
  | cons v values ih =>
    have hcons : matchChain (v :: values) verdict ++ rest =
        jeq 0 1 v :: ret verdict :: (matchChain values verdict ++ rest) := by
      simp [matchChain]
    rw [hcons]
    refine ⟨fun _ => ?_, fun h => absurd h (by simp), ih⟩
    simp only [List.length_cons, List.length_append, UInt8.toNat_zero, UInt8.toNat_one]
    omega

end ClassicBpf
