import Mathlib.Data.List.ReduceOption
import Sysgaze.Arguments
import Sysgaze.Context

/-! # What a capture saves and frees (`decoder.c`)

    `sg_decoder_capture_entry` allocates a copy of every argument that it renders
    and stores it in the event; when the rendering or an allocation fails half-way,
    it releases what the event holds.

    `capture_entry_logged` is the function with the two histories kept, the texts it
    has saved and those it has freed.  Without them it is the function itself
    (`capture_entry_logged_eq`), and the histories balance: what has been saved is in
    the event when the capture succeeds, and has been freed when it fails.
-/

open Fallible

namespace Sysgaze

/-- What a capture returns, with the texts that it has saved and freed. -/
structure CaptureLog where
  ok : Bool
  event : SyscallEvent
  saved : List Text
  freed : List Text

/-- The result without the histories. -/
def CaptureLog.result (log : CaptureLog) : Bool × SyscallEvent := (log.ok, log.event)

section model
variable (heap : Heap) (libc : Libc) (decoder : Decoder)

/-- The loop of `sg_decoder_capture_entry`; `saved` are the texts saved so far. -/
def capture_arguments_logged (tid : Pid) (descriptor : SyscallDescriptor) :
    List Nat → SyscallEvent → List Text → RenderM CaptureLog
  | [], event, saved => pure ⟨true, event, saved, []⟩
  | index :: indices, event, saved =>
    let spec := descriptor.arguments.toList.getD index (ARG .ARG_HEX)
    if is_output_argument spec.kind then capture_arguments_logged tid descriptor indices event saved
    else do
      modify fun rendering => { rendering with output := sg_buffer_init }
      match ← attempt (render_argument heap libc decoder tid event spec index) with
      | none => pure ⟨false, event.without_texts, saved, event.texts⟩
      | some () => do
        let rendering ← get
        match ← malloc heap (rendering.output.length + 1) with
        | none => pure ⟨false, event.without_texts, saved, event.texts⟩
        | some _ =>
          let text := c_string rendering.contents
          capture_arguments_logged tid descriptor indices
            { event with
              decoded_arguments := event.decoded_arguments.setIfInBounds index (some text) }
            (saved ++ [text])

/-- `sg_decoder_capture_entry`, with its histories. -/
def Decoder.capture_entry_logged (tid : Pid) (event : SyscallEvent) : RenderM CaptureLog :=
  match sg_syscall_by_number event.number with
  | none =>
    pure ⟨true, { event with argument_count := sg_syscall_argument_count event.number }, [], []⟩
  | some descriptor =>
    let argument_count := effective_argument_count descriptor event
    capture_arguments_logged heap libc decoder tid descriptor (List.range argument_count)
      { event with argument_count := argument_count } []

end model

section captures
variable {heap : Heap} {libc : Libc} {decoder : Decoder} {tid : Pid}
  {descriptor : SyscallDescriptor}

/-- The histories change nothing. -/
theorem capture_arguments_logged_eq (indices : List Nat) : ∀ (event : SyscallEvent)
    (saved : List Text),
    CaptureLog.result <$> capture_arguments_logged heap libc decoder tid descriptor indices event
      saved = capture_arguments heap libc decoder tid descriptor indices event := by
  induction indices with
  | nil => exact fun _ _ => rfl
  | cons index indices ih =>
    intro event saved
    unfold capture_arguments_logged capture_arguments
    dsimp only
    split
    · exact ih event saved
    · simp only [map_bind]
      congr 1
      funext _
      congr 1
      funext rendered
      cases rendered with
      | none => rfl
      | some rendered =>
        simp only [map_bind]
        congr 1
        funext rendering
        congr 1
        funext block
        cases block with
        | none => rfl
        | some _ => exact ih _ _

theorem capture_entry_logged_eq (event : SyscallEvent) :
    CaptureLog.result <$> decoder.capture_entry_logged heap libc tid event =
      decoder.sg_decoder_capture_entry heap libc tid event := by
  unfold Decoder.capture_entry_logged Decoder.sg_decoder_capture_entry
  cases sg_syscall_by_number event.number with
  | none => rfl
  | some descriptor => exact capture_arguments_logged_eq _ _ _

/-- An empty place is filled. -/
theorem perm_reduceOption_set {α : Type} (options : List (Option α)) (a : α) : ∀ {i : Nat},
    options[i]? = some none → (options.set i (some a)).reduceOption.Perm (a :: options.reduceOption) := by
  induction options with
  | nil => exact fun h => absurd h (by simp)
  | cons option options ih =>
    intro i h
    cases i with
    | zero =>
      rw [List.getElem?_cons_zero, Option.some_inj] at h
      rw [h, List.set_cons_zero, List.reduceOption_cons_of_some, List.reduceOption_cons_of_none]
    | succ i =>
      rw [List.getElem?_cons_succ] at h
      rw [List.set_cons_succ]
      cases option with
      | none =>
        rw [List.reduceOption_cons_of_none, List.reduceOption_cons_of_none]
        exact ih h
      | some b =>
        rw [List.reduceOption_cons_of_some, List.reduceOption_cons_of_some]
        exact ((ih h).cons b).trans (List.Perm.swap _ _ _)

/-- What has been saved has been freed or is in the event; a capture that succeeds frees
    nothing, and one that fails leaves nothing in the event. -/
structure CaptureLog.Balanced (log : CaptureLog) : Prop where
  balance : log.saved.Perm (log.freed ++ log.event.texts)
  succeeded : log.ok = true → log.freed = []
  failed : log.ok = false → log.event.texts = []

/-- The loop fills different slots, all of them empty before. -/
theorem capture_arguments_balanced (indices : List Nat) : ∀ (event : SyscallEvent)
    (saved : List Text) (s : Rendering), indices.Nodup →
    (∀ index ∈ indices, event.decoded_arguments.toList[index]? = some none) →
    saved.Perm event.texts →
    Holds (capture_arguments_logged heap libc decoder tid descriptor indices event saved) s
      (fun log _ => log.Balanced) (fun _ _ => False) := by
  induction indices with
  | nil =>
    intro event saved s _ _ hsaved
    exact ⟨hsaved, fun _ => rfl, fun h => absurd h (by simp)⟩
  | cons index indices ih =>
    intro event saved s hnodup hempty hsaved
    rw [List.nodup_cons] at hnodup
    have hfailed : CaptureLog.Balanced ⟨false, event.without_texts, saved, event.texts⟩ := by
      refine ⟨?_, fun h => absurd h (by simp), fun _ => rfl⟩
      show saved.Perm (event.texts ++ [])
      rw [List.append_nil]
      exact hsaved
    have hrest : ∀ other ∈ indices, event.decoded_arguments.toList[other]? = some none :=
      fun other hother => hempty other (List.mem_cons_of_mem _ hother)
    unfold capture_arguments_logged
    dsimp only
    split
    · exact ih event saved s hnodup.2 hrest hsaved
    · rw [holds_bind, holds_modify, holds_bind, holds_attempt]
      apply (holds_trivial _).mono
      · intro _ s₁ _
        dsimp only
        rw [holds_bind, holds_get, holds_bind, holds_malloc]
        split
        · exact hfailed
        · apply ih _ _ _ hnodup.2
          · intro other hother
            have hne : index ≠ other := fun h => hnodup.1 (h ▸ hother)
            rw [Vector.toList_setIfInBounds, List.getElem?_set_ne hne]
            exact hrest other hother
          · have hfilled := perm_reduceOption_set event.decoded_arguments.toList
              (c_string s₁.contents) (hempty index List.mem_cons_self)
            show (saved ++ [_]).Perm (Vector.toList _).reduceOption
            rw [Vector.toList_setIfInBounds]
            exact (List.perm_append_singleton _ _).trans ((hsaved.cons _).trans hfilled.symm)
      · exact fun _ _ _ => hfailed

/-- **A capture** of a new event balances, whatever the heap refuses. -/
theorem capture_entry_balanced (event : SyscallEvent)
    (hfresh : event.decoded_arguments = Vector.replicate 6 none) (s : Rendering) :
    Holds (decoder.capture_entry_logged heap libc tid event) s (fun log _ => log.Balanced)
      (fun _ _ => False) := by
  have hempty : event.texts = [] := by
    unfold SyscallEvent.texts
    rw [hfresh]
    rfl
  unfold Decoder.capture_entry_logged
  cases hdescriptor : sg_syscall_by_number event.number with
  | none =>
    refine ⟨?_, fun _ => rfl, fun h => absurd h (by simp)⟩
    show List.Perm [] ([] ++ event.texts)
    rw [hempty]
    exact .refl _
  | some descriptor =>
    apply capture_arguments_balanced _ _ _ _ List.nodup_range
    · intro index hindex
      have hlt := (List.mem_range.mp hindex).trans_le (effective_argument_count_le hdescriptor)
      show event.decoded_arguments.toList[index]? = some none
      rw [hfresh, Vector.toList_replicate, List.getElem?_replicate, if_pos hlt]
    · show List.Perm [] event.texts
      rw [hempty]

end captures

end Sysgaze
