import Sysgaze.Strings

/-! # The arguments that are shown

    How many arguments a call is shown with is decided twice, when its entry
    is captured and when its line is written.  Both agree, and the line shows
    as many arguments as the event counts (`arguments_shown`).

    The mode of `open` and `openat` is shown when the flags have a bit of
    `O_CREAT` or `O_TMPFILE`; as `O_TMPFILE` shares a bit with `O_DIRECTORY`,
    this is more often than the kernel reads it.
-/

open Fallible

namespace Sysgaze

section arguments
variable {heap : Heap} {libc : Libc} {decoder : Decoder} {tid : Pid}

/-- Saving texts changes nothing else of an event. -/
theorem capture_arguments_same {descriptor : SyscallDescriptor} (indices : List Nat) :
    ∀ (event : SyscallEvent) (s : Rendering),
      Holds (capture_arguments heap libc decoder tid descriptor indices event) s
        (fun r _ => ∃ texts, r.2 = { event with decoded_arguments := texts }) fun _ _ => False := by
  induction indices with
  | nil => exact fun event s => ⟨event.decoded_arguments, rfl⟩
  | cons index indices ih =>
    intro event s
    unfold capture_arguments
    dsimp only
    split
    · exact ih event s
    · rw [holds_bind, holds_modify, holds_bind, holds_attempt]
      apply (holds_trivial _).mono
      · intro _ s₁ _
        rw [holds_bind, holds_get, holds_bind, holds_malloc]
        split
        · exact ⟨_, rfl⟩
        · exact ih _ _
      · exact fun _ _ _ => ⟨_, rfl⟩

/-- **The count is fixed at the entry**, as it is when the line is written. -/
theorem capture_entry_count (event : SyscallEvent) (s : Rendering) :
    Holds (decoder.sg_decoder_capture_entry heap libc tid event) s
      (fun r _ => ∃ texts count, r.2 = { event with
          decoded_arguments := texts, argument_count := count } ∧
        shown_arguments r.2 = count ∧ count ≤ 6 ∧
        ∀ descriptor, sg_syscall_by_number event.number = some descriptor →
          count = effective_argument_count descriptor event)
      fun _ _ => False := by
  unfold Decoder.sg_decoder_capture_entry
  split
  · rename_i hnone
    refine ⟨_, _, rfl, ?_, ?_, ?_⟩
    · unfold shown_arguments
      rw [hnone]
    · rw [sg_syscall_argument_count, hnone]
    · intro descriptor hdescriptor
      rw [hnone] at hdescriptor
      simp at hdescriptor
  · rename_i descriptor hdescriptor
    dsimp only
    apply (capture_arguments_same _ _ s).mono
    · rintro ⟨_, _⟩ _ ⟨texts, rfl⟩
      refine ⟨texts, effective_argument_count descriptor event, rfl, ?_, ?_, ?_⟩
      · unfold shown_arguments
        rw [hdescriptor]
        rfl
      · exact effective_argument_count_le hdescriptor
      · intro descriptor' hdescriptor'
        rw [hdescriptor] at hdescriptor'
        injection hdescriptor' with hsame
        rw [hsame]
    · exact fun _ _ h => h

/-- The line of a call shows its arguments one after the other. -/
theorem sg_decode_syscall_entry_eq (heap : Heap) (libc : Libc) (decoder : Decoder) (tid : Pid)
    (event : SyscallEvent) : sg_decode_syscall_entry heap libc decoder tid event =
      sg_buffer_append_format heap (head_text event) >>= fun _ =>
        (List.range (shown_arguments event)).forM
          (decode_argument heap libc decoder tid (sg_syscall_by_number event.number) event) := by
  unfold sg_decode_syscall_entry head_text shown_arguments
  cases sg_syscall_by_number event.number <;> rfl

end arguments

/-! ### The mode of `open` -/

/-- The flags of `open` and `openat`. -/
def SyscallEvent.open_flags (event : SyscallEvent) : UInt64 :=
  if event.number = SYS_open then event.argument 1 else event.argument 2

/-- Where `open` and `openat` have their mode. -/
def SyscallEvent.mode_index (event : SyscallEvent) : Nat :=
  if event.number = SYS_open then 2 else 3

/-- The kernel reads the mode of a file that may be created. -/
def needs_mode (flags : UInt64) : Prop :=
  flags &&& O_CREAT ≠ 0 ∨ flags &&& O_TMPFILE = O_TMPFILE

instance (flags : UInt64) : Decidable (needs_mode flags) := by
  unfold needs_mode
  infer_instance

/-- The mode is the last argument of both calls. -/
theorem open_descriptors {event : SyscallEvent}
    (h : event.number = SYS_open ∨ event.number = SYS_openat) :
    ∃ descriptor, sg_syscall_by_number event.number = some descriptor ∧
      descriptor.arity = event.mode_index + 1 ∧ descriptor.kind event.mode_index = .ARG_MODE := by
  have hboth : (∃ descriptor, sg_syscall_by_number SYS_open = some descriptor ∧
      descriptor.arity = 3 ∧ descriptor.kind 2 = .ARG_MODE) ∧
      ∃ descriptor, sg_syscall_by_number SYS_openat = some descriptor ∧
        descriptor.arity = 4 ∧ descriptor.kind 3 = .ARG_MODE := by
    decide +kernel
  unfold SyscallEvent.mode_index
  rcases h with hopen | hopenat
  · rw [hopen]
    exact hboth.1
  · rw [hopenat]
    exact hboth.2

/-- A mode that the kernel reads is shown. -/
theorem needs_mode_shown {flags : UInt64} (h : needs_mode flags) :
    flags &&& (O_CREAT ||| O_TMPFILE) ≠ 0 := by
  intro hnone
  have hpart : ∀ part : UInt64, (O_CREAT ||| O_TMPFILE) &&& part = part → flags &&& part = 0 := by
    intro part hsub
    rw [← hsub, ← UInt64.and_assoc, hnone, UInt64.zero_and]
  rcases h with hcreat | htmpfile
  · exact hcreat (hpart O_CREAT (by decide))
  · rw [hpart O_TMPFILE (by decide)] at htmpfile
    exact absurd htmpfile (by decide)

theorem effective_open_count {event : SyscallEvent} {descriptor : SyscallDescriptor}
    (h : event.number = SYS_open ∨ event.number = SYS_openat)
    (harity : descriptor.arity = event.mode_index + 1) :
    event.mode_index < effective_argument_count descriptor event ↔
      event.open_flags &&& (O_CREAT ||| O_TMPFILE) ≠ 0 := by
  have hfcntl : event.number ≠ SYS_fcntl := by
    rcases h with h | h <;> rw [h] <;> decide
  unfold effective_argument_count SyscallEvent.open_flags
  rw [if_neg hfcntl, if_pos h]
  dsimp only
  generalize (if event.number = SYS_open then event.argument 1 else event.argument 2) = flags
  by_cases hmode : flags &&& (O_CREAT ||| O_TMPFILE) ≠ 0
  · rw [if_pos hmode]
    exact iff_of_true (by omega) hmode
  · rw [if_neg hmode]
    exact iff_of_false (by omega) hmode

/-- **What is shown of the arguments.**  Both counts agree, and are at most 6; and `open`
    and `openat` are shown with their mode exactly when the kernel reads it, unless the flags
    have a bit of `O_TMPFILE` but neither all of them nor `O_CREAT`. -/
theorem arguments_shown (heap : Heap) (libc : Libc) (entry exit : Decoder) (tid : Pid)
    (event : SyscallEvent) (result error_number : Int) (s : Rendering) :
    Holds (entry.sg_decoder_capture_entry heap libc tid event) s
      (fun r _ =>
        let call := { r.2 with result := result, error_number := error_number }
        r.2.argument_count ≤ 6 ∧
        sg_decode_syscall_entry heap libc exit tid call =
          (sg_buffer_append_format heap (head_text call) >>= fun _ =>
            (List.range r.2.argument_count).forM
              (decode_argument heap libc exit tid (sg_syscall_by_number call.number) call)) ∧
        (event.number = SYS_open ∨ event.number = SYS_openat →
          ((event.mode_index ∈ List.range r.2.argument_count ↔ needs_mode event.open_flags) ↔
            (event.open_flags &&& (O_CREAT ||| O_TMPFILE) = 0 ∨ needs_mode event.open_flags))))
      fun _ _ => False := by
  apply (capture_entry_count event s).mono
  · rintro ⟨_, _⟩ _ ⟨texts, count, rfl, hshown, hle, hcount⟩
    refine ⟨hle, ?_, ?_⟩
    · rw [sg_decode_syscall_entry_eq]
      have hsame : shown_arguments { event with
          decoded_arguments := texts, argument_count := count, result := result,
          error_number := error_number } = count := hshown
      rw [hsame]
    · intro hopen
      obtain ⟨descriptor, hdescriptor, harity, _⟩ := open_descriptors hopen
      have hmode := effective_open_count hopen harity
      rw [← hcount descriptor hdescriptor] at hmode
      rw [List.mem_range, hmode]
      have hneeds : needs_mode event.open_flags → _ := needs_mode_shown
      by_cases hnone : event.open_flags &&& (O_CREAT ||| O_TMPFILE) = 0
      · have hunread : ¬needs_mode event.open_flags := fun h => hneeds h hnone
        exact iff_of_true (iff_of_false (not_not.mpr hnone) hunread) (Or.inl hnone)
      · rw [or_iff_right hnone, iff_true_left hnone]
  · exact fun _ _ h => h

/-- `openat` of a directory. -/
def open_directory : SyscallEvent :=
  { SyscallEvent.zero with number := SYS_openat, arguments := #v[0, 4096, 0o200000, 0, 0, 0] }

/-- **A directory is opened with a mode** on the line, although the kernel reads none. -/
theorem directory_shown_with_mode : ¬∀ (heap : Heap) (libc : Libc) (entry : Decoder) (tid : Pid)
    (event : SyscallEvent) (s : Rendering),
      event.number = SYS_open ∨ event.number = SYS_openat →
        Holds (entry.sg_decoder_capture_entry heap libc tid event) s
          (fun r _ => event.mode_index ∈ List.range r.2.argument_count ↔
            needs_mode event.open_flags)
          fun _ _ => False := by
  intro h
  have hclaimed := h ample_heap bare_libc ⟨32, none⟩ 1 open_directory Rendering.init (Or.inr rfl)
  have hrun : Holds (Decoder.sg_decoder_capture_entry ample_heap bare_libc ⟨32, none⟩ 1
      open_directory) Rendering.init (fun _ _ => False) fun _ _ => False := by
    apply (hclaimed.and (capture_entry_count open_directory Rendering.init)).mono
    · rintro ⟨_, _⟩ _ ⟨hmode, texts, count, rfl, _, _, hcount⟩
      obtain ⟨descriptor, hdescriptor, harity, _⟩ :=
        open_descriptors (show open_directory.number = SYS_open ∨ _ from Or.inr rfl)
      have hshown := (effective_open_count (Or.inr rfl) harity).mpr
        (by decide : open_directory.open_flags &&& (O_CREAT ||| O_TMPFILE) ≠ 0)
      rw [← hcount descriptor hdescriptor] at hshown
      have hneeds := hmode.mp (List.mem_range.mpr hshown)
      exact absurd hneeds (by decide)
    · exact fun _ _ h => h.1
  rcases hrun.exists_ok with ⟨_, _, _, h⟩
  exact h

end Sysgaze
