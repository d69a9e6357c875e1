import Sysgaze.Texts
import Sysgaze.Arguments

/-! # The arguments are those of the entry

    The input arguments of a call are rendered when it is entered, and saved with its
    event.  The line of the call is written later, when the memory of the tracee may be
    another: it shows the saved texts, and looks only for what the call itself has
    written (`arguments_snapshot`).
-/

open Fallible Numerals

namespace Sysgaze

/-- The kind and the auxiliary of an argument. -/
def SyscallDescriptor.spec (descriptor : SyscallDescriptor) (index : Nat) : ArgumentSpec :=
  descriptor.arguments.toList.getD index (ARG .ARG_HEX)

/-! ### Capture -/

section capture
variable {heap : Heap} {libc : Libc} {decoder : Decoder} {tid : Pid}
  {descriptor : SyscallDescriptor} {event : SyscallEvent}

/-- The texts that an event has saved when these arguments have been captured. -/
def SyscallEvent.captured (event : SyscallEvent) (descriptor : SyscallDescriptor)
    (texts : Nat → Text) (indices : List Nat) (index : Nat) : Option Text :=
  if index ∈ indices ∧ is_output_argument (descriptor.kind index) = false then some (texts index)
  else event.saved index

/-- **The loop of the capture** saves the text of every input argument, or nothing. -/
theorem capture_arguments_texts (hlibc : libc.Plain) {texts : Nat → Text} (indices : List Nat)
    (hlt : ∀ index ∈ indices, index < 6) : ∀ (event : SyscallEvent) (s : Rendering),
    (∀ index ∈ indices, is_output_argument (descriptor.kind index) = false →
      Yields (render_argument heap libc decoder tid event (descriptor.spec index) index)
        (texts index)) →
    Holds (capture_arguments heap libc decoder tid descriptor indices event) s
      (fun r _ => (r.1 = false → r.2.decoded_arguments = Vector.replicate 6 none) ∧
        (r.1 = true → ∀ index, r.2.saved index = event.captured descriptor texts indices index))
      fun _ _ => False := by
  induction indices with
  | nil =>
    intro event s _
    refine ⟨(by simp), fun _ index => ?_⟩
    rw [SyscallEvent.captured, if_neg fun h => List.not_mem_nil h.1]
  | cons index indices ih =>
    intro event s htexts
    have hrest : ∀ i ∈ indices, i < 6 := fun i hi => hlt i (List.mem_cons_of_mem _ hi)
    unfold capture_arguments
    dsimp only
    split
    · rename_i houtput
      apply (ih hrest event s fun i hi => htexts i (List.mem_cons_of_mem _ hi)).mono
      · rintro r _ ⟨hfailed, hsaved⟩
        refine ⟨hfailed, fun hr i => (hsaved hr i).trans ?_⟩
        -- An argument that the call writes is left out.
        have houtput : is_output_argument (descriptor.kind index) = true := houtput
        unfold SyscallEvent.captured
        by_cases hi : i = index
        · subst hi
          have hnot : is_output_argument (descriptor.kind i) ≠ false :=
            fun h => absurd (houtput.symm.trans h) (by simp)
          rw [if_neg fun h => hnot h.2, if_neg fun h => hnot h.2]
        · simp only [List.mem_cons, hi, false_or]
      · exact fun _ _ h => h
    · rename_i hinput
      have hinput : is_output_argument (descriptor.kind index) = false := Bool.eq_false_iff.mpr hinput
      have hkind : (descriptor.spec index).kind ≠ .ARG_UTS_OUT := by
        intro h
        have hkind : descriptor.kind index = .ARG_UTS_OUT := h
        rw [hkind] at hinput
        exact absurd hinput (by decide)
      rw [holds_bind, holds_modify, holds_bind, holds_attempt]
      apply ((render_argument_plain hlibc tid event _ index hkind _ buffer_init_ok).and
        (htexts index List.mem_cons_self hinput _ buffer_init_ok)).mono
      · rintro _ s₁ ⟨⟨_, text, hcontents, _, hprint⟩, _, hyields⟩
        have htext : s₁.contents = texts index := hyields
        have hsame : text = texts index := hcontents.symm.trans htext
        dsimp only
        rw [holds_bind, holds_get, holds_bind, holds_malloc]
        split
        · exact ⟨fun _ => rfl, (by simp)⟩
        · rw [htext, c_string_of_printable (hsame ▸ hprint)]
          apply (ih hrest
            { event with decoded_arguments :=
                event.decoded_arguments.setIfInBounds index (some (texts index)) } _
            fun i hi => htexts i (List.mem_cons_of_mem _ hi)).mono
          · rintro r _ ⟨hfailed, hsaved⟩
            refine ⟨hfailed, fun hr i => (hsaved hr i).trans ?_⟩
            unfold SyscallEvent.captured
            rw [saved_set]
            by_cases hi : i = index
            · subst hi
              have hself : i = i ∧ i < 6 := ⟨rfl, hlt i List.mem_cons_self⟩
              have hhead : i ∈ i :: indices ∧ is_output_argument (descriptor.kind i) = false :=
                ⟨List.mem_cons_self, hinput⟩
              rw [if_pos hself, if_pos hhead]
              split
              · rfl
              · rfl
            · have hother : ¬(index = i ∧ index < 6) := fun h => hi h.1.symm
              rw [if_neg hother]
              simp only [List.mem_cons, hi, false_or]
          · exact fun _ _ h => h
      · exact fun _ _ _ => ⟨fun _ => rfl, (by simp)⟩

theorem eq_of_getD {texts texts' : Vector (Option Text) 6}
    (h : ∀ index, texts.toList.getD index none = texts'.toList.getD index none) :
    texts = texts' := by
  apply Vector.ext
  intro index hindex
  have hsaved := h index
  rw [List.getD_eq_getElem _ _ (by simpa using hindex),
    List.getD_eq_getElem _ _ (by simpa using hindex)] at hsaved
  simpa using hsaved

theorem getD_ofFn (f : Nat → Option Text) (index : Nat) :
    (Vector.ofFn fun i : Fin 6 => f i).toList.getD index none =
      if index < 6 then f index else none := by
  rw [List.getD_eq_getElem?_getD]
  split
  · rename_i hindex
    rw [List.getElem?_eq_getElem (by simpa using hindex)]
    simp
  · rename_i hindex
    rw [List.getElem?_eq_none (by simpa using hindex)]
    rfl

end capture

/-! ### The line -/

section line
variable {ι : Type} {heap : ι → Heap} {libc : Libc} {decoder : ι → Decoder} {tid : Pid}
  {string_limit : Nat} {call : SyscallEvent}

theorem one_text_forM {γ : Type} {f : ι → γ → RenderM PUnit} {xs : List γ}
    (h : ∀ x ∈ xs, OneText fun i => f i x) : OneText fun i => xs.forM (f i) := by
  induction xs with
  | nil => exact one_text_pure
  | cons x xs ih =>
    exact (h x List.mem_cons_self).bind (ih fun y hy => h y (List.mem_cons_of_mem _ hy))

/-- What has been saved for the call is all but what the call writes. -/
def SyscallEvent.Saved (call : SyscallEvent) : Prop :=
  ∀ descriptor, sg_syscall_by_number call.number = some descriptor →
    ∀ index < shown_arguments call, call.saved index = none →
      is_output_argument (descriptor.kind index) = true

/-- The decoders see the same of what the call writes. -/
def SeesOutput (tid : Pid) (call : SyscallEvent) (decoder : ι → Decoder)
    (seen : UInt64 → Nat → Option Text) : Prop :=
  ∀ descriptor, sg_syscall_by_number call.number = some descriptor →
    ∀ index < shown_arguments call, is_output_argument (descriptor.kind index) = true →
      ∀ i length, (decoder i).peek tid (call.argument index) length = seen (call.argument index) length

theorem append_argument_text (hlibc : libc.Plain) (hsaved : call.Saved)
    (hlimit : ∀ i, (decoder i).string_limit = string_limit)
    {seen : UInt64 → Nat → Option Text} (hseen : SeesOutput tid call decoder seen) {index : Nat}
    (hindex : index < shown_arguments call) :
    OneText fun i => append_argument (heap i) libc (decoder i) tid
      (sg_syscall_by_number call.number) call index := by
  unfold append_argument
  cases htext : call.saved index with
  | some text => exact one_text_append _ _
  | none =>
    cases hdescriptor : sg_syscall_by_number call.number with
    | none => exact one_text_format _ _
    | some descriptor =>
      have houtput := hsaved descriptor hdescriptor index hindex htext
      apply render_argument_text hlibc call (descriptor.spec index) index hlimit
      intro i address length haddress
      rw [haddress houtput]
      exact hseen descriptor hdescriptor index hindex houtput i length

theorem decode_argument_text (hlibc : libc.Plain) (hsaved : call.Saved)
    (hlimit : ∀ i, (decoder i).string_limit = string_limit)
    {seen : UInt64 → Nat → Option Text} (hseen : SeesOutput tid call decoder seen) {index : Nat}
    (hindex : index < shown_arguments call) :
    OneText fun i => decode_argument (heap i) libc (decoder i) tid
      (sg_syscall_by_number call.number) call index := by
  have hargument : OneText fun i => append_argument (heap i) libc (decoder i) tid
      (sg_syscall_by_number call.number) call index :=
    append_argument_text hlibc hsaved hlimit hseen hindex
  exact one_text_prefixed (one_text_append _ _) hargument

/-- **The entry of a call** has one text, when its arguments have. -/
theorem sg_decode_syscall_entry_text (h : ∀ index < shown_arguments call, OneText fun i =>
      decode_argument (heap i) libc (decoder i) tid (sg_syscall_by_number call.number) call index) :
    OneText fun i => sg_decode_syscall_entry (heap i) libc (decoder i) tid call := by
  simp only [sg_decode_syscall_entry_eq]
  exact (one_text_format _ _).bind (one_text_forM fun index hindex =>
    h index (List.mem_range.mp hindex))

/-- **The line of a call** has one text, when its arguments have. -/
theorem sg_decode_syscall_text (h : ∀ index < shown_arguments call, OneText fun i =>
      decode_argument (heap i) libc (decoder i) tid (sg_syscall_by_number call.number) call index) :
    OneText fun i => sg_decode_syscall (heap i) libc (decoder i) tid call := by
  have hresult : OneText fun i => sg_decode_syscall_result (heap i) libc call := by
    unfold sg_decode_syscall_result append_result
    apply one_text_ite
    · intro _
      cases libc.strerrorname_np call.error_number with
      | none => exact one_text_format _ _
      | some name => exact one_text_format _ _
    · exact fun _ => one_text_ite (fun _ => one_text_format _ _) fun _ => one_text_format _ _
  unfold sg_decode_syscall
  exact (sg_decode_syscall_entry_text h).bind ((one_text_append _ _).bind hresult)

end line

/-! ### The text of the line -/

/-- The line of a call whose arguments are shown as these texts. -/
def line_text (libc : Libc) (call : SyscallEvent) (shown : Nat → Text) : Text :=
  (head_text call ++ (List.range (shown_arguments call)).flatMap fun index =>
    comma index ++ shown index) ++ (cstr ")" ++ result_text libc call)

/-- The room for the line of a call. -/
def line_room (libc : Libc) (string_limit : Nat) (call : SyscallEvent) : Nat :=
  format_room (head_text call) + shown_arguments call * (128 * string_limit + 1026) +
    (1 + format_room (result_text libc call))

section text
variable {heap : Heap} {libc : Libc} {decoder : Decoder} {tid : Pid} {call : SyscallEvent}
  {descriptor : Option SyscallDescriptor} {index : Nat} {shown : Nat → Text} {text : Text}

theorem yields_forM {γ : Type} {f : γ → RenderM PUnit} {texts : γ → Text} {xs : List γ}
    (h : ∀ x ∈ xs, Yields (f x) (texts x)) : Yields (xs.forM f) (xs.flatMap texts) := by
  induction xs with
  | nil => exact yields_pure _
  | cons x xs ih =>
    exact (h x List.mem_cons_self).bind fun _ => ih fun y hy => h y (List.mem_cons_of_mem _ hy)

/-- A comma is put in front of every argument but the first. -/
theorem yields_separated {m : RenderM PUnit} (h : Yields m text) :
    Yields (if index ≠ 0 then sg_buffer_append_cstr heap (cstr ", ") >>= fun _ => m else m)
      (comma index ++ text) := by
  unfold comma
  by_cases hindex : index = 0
  · rw [if_neg (not_not_intro hindex), if_pos hindex]
    exact h
  · rw [if_pos hindex, if_neg hindex]
    exact (yields_append heap _).bind fun _ => h

theorem decode_saved_yields (hsaved : call.saved index = some text) :
    Yields (decode_argument heap libc decoder tid descriptor call index) (comma index ++ text) := by
  unfold SyscallEvent.saved at hsaved
  unfold decode_argument
  rw [hsaved]
  exact yields_separated (yields_append heap text)

theorem decode_rendered_yields {descriptor : SyscallDescriptor} (hsaved : call.saved index = none)
    (h : Yields (render_argument heap libc decoder tid call (descriptor.spec index) index) text) :
    Yields (decode_argument heap libc decoder tid (some descriptor) call index)
      (comma index ++ text) := by
  unfold SyscallEvent.saved at hsaved
  unfold decode_argument
  rw [hsaved]
  exact yields_separated h

theorem decode_unknown_yields (hsaved : call.saved index = none) :
    Yields (decode_argument heap libc decoder tid none call index)
      (comma index ++ hexadecimal (call.argument index).toNat) := by
  unfold SyscallEvent.saved at hsaved
  unfold decode_argument
  rw [hsaved]
  exact yields_separated (yields_format heap _)

/-- **The text of the line** is made of the texts of its arguments. -/
theorem sg_decode_syscall_yields (h : ∀ index < shown_arguments call, Yields
      (decode_argument heap libc decoder tid (sg_syscall_by_number call.number) call index)
      (comma index ++ shown index)) :
    Yields (sg_decode_syscall heap libc decoder tid call) (line_text libc call shown) := by
  have hresult : Yields (sg_decode_syscall_result heap libc call) (result_text libc call) := by
    have heq : sg_decode_syscall_result heap libc call =
        sg_buffer_append_format heap (result_text libc call) := by
      unfold sg_decode_syscall_result append_result result_text
      split
      · cases libc.strerrorname_np call.error_number <;> rfl
      · split <;> rfl
    rw [heq]
    exact yields_format heap _
  unfold sg_decode_syscall
  rw [sg_decode_syscall_entry_eq]
  apply Yields.bind
  · exact (yields_format heap _).bind fun _ =>
      yields_forM fun index hindex => h index (List.mem_range.mp hindex)
  · exact fun _ => (yields_append heap _).bind fun _ => hresult

end text

/-! ### The snapshot -/

/-- The text of an argument: an input as the entry has saved it, an output as it is now, and
    the bare value where the call is not known. -/
def shown_argument (call : SyscallEvent) (inputs outputs : Nat → Text) (index : Nat) : Text :=
  match sg_syscall_by_number call.number with
  | none => hexadecimal (call.argument index).toNat
  | some descriptor =>
    if is_output_argument (descriptor.kind index) then outputs index else inputs index

/-- The line of `call` shows the input arguments as they were when `entry` captured `event`. -/
structure Snapshot (libc : Libc) (entry : Decoder) (tid : Pid) (event call : SyscallEvent) :
    Prop where
  /-- The inputs as the entry renders them, the outputs from the memory of now. -/
  line : ∃ inputs : Nat → Text,
    (∀ descriptor, sg_syscall_by_number call.number = some descriptor →
      ∀ index < shown_arguments call, is_output_argument (descriptor.kind index) = false →
        ∀ heap, Renders heap
          (render_argument heap libc entry tid event (descriptor.spec index) index)
          (128 * entry.string_limit + 1024) fun _ text => text = inputs index) ∧
    ∀ exit : Decoder, exit.string_limit = entry.string_limit → ∃ outputs : Nat → Text,
      (∀ descriptor, sg_syscall_by_number call.number = some descriptor →
        ∀ index < shown_arguments call, is_output_argument (descriptor.kind index) = true →
          ∀ heap, Renders heap
            (render_argument heap libc exit tid call (descriptor.spec index) index)
            (128 * entry.string_limit + 1024) fun _ text => text = outputs index) ∧
      ∀ heap, Renders heap (sg_decode_syscall heap libc exit tid call)
        (line_room libc entry.string_limit call)
        fun _ text => text = line_text libc call (shown_argument call inputs outputs)
  /-- Memories with the same output buffers give the same line. -/
  same : ∀ exit exit' : Decoder, exit.string_limit = entry.string_limit →
    exit'.string_limit = entry.string_limit →
    (∀ descriptor, sg_syscall_by_number call.number = some descriptor →
      ∀ index < shown_arguments call, is_output_argument (descriptor.kind index) = true →
        ∀ length, exit.peek tid (call.argument index) length =
          exit'.peek tid (call.argument index) length) →
    ∃ text, ∀ heap,
      Renders heap (sg_decode_syscall heap libc exit tid call)
        (line_room libc entry.string_limit call) (fun _ text' => text' = text) ∧
      Renders heap (sg_decode_syscall heap libc exit' tid call)
        (line_room libc entry.string_limit call) (fun _ text' => text' = text)

section snapshot
variable {libc : Libc} {entry : Decoder} {tid : Pid} {event call : SyscallEvent}

/-- The arguments that the call writes are not saved, all others are. -/
def SyscallEvent.Keeps (call : SyscallEvent) (texts : Nat → Text) : Prop :=
  ∀ index < shown_arguments call, call.saved index =
    match sg_syscall_by_number call.number with
    | none => none
    | some descriptor =>
      if is_output_argument (descriptor.kind index) = false then some (texts index) else none

theorem SyscallEvent.Keeps.known {call : SyscallEvent} {texts : Nat → Text} {descriptor : SyscallDescriptor}
    (h : call.Keeps texts) (hdescriptor : sg_syscall_by_number call.number = some descriptor)
    {index : Nat} (hindex : index < shown_arguments call) : call.saved index =
      if is_output_argument (descriptor.kind index) = false then some (texts index) else none := by
  have hsaved := h index hindex
  rw [hdescriptor] at hsaved
  exact hsaved

theorem SyscallEvent.Keeps.output {call : SyscallEvent} {texts : Nat → Text}
    {descriptor : SyscallDescriptor} (h : call.Keeps texts)
    (hdescriptor : sg_syscall_by_number call.number = some descriptor) {index : Nat}
    (hindex : index < shown_arguments call)
    (houtput : is_output_argument (descriptor.kind index) = true) : call.saved index = none := by
  have hnot : ¬is_output_argument (descriptor.kind index) = false :=
    fun h => absurd (houtput.symm.trans h) (by simp)
  rw [h.known hdescriptor hindex, if_neg hnot]

theorem SyscallEvent.Keeps.saved {call : SyscallEvent} {texts : Nat → Text}
    (h : call.Keeps texts) : call.Saved := by
  intro descriptor hdescriptor index hindex hnone
  rw [h.known hdescriptor hindex] at hnone
  split at hnone
  · exact absurd hnone (by simp)
  · rename_i houtput
    exact Bool.of_not_eq_false houtput

/-- The line shows what has been saved, and what the call has written. -/
theorem line_of_keeps (hlibc : libc.Plain) {texts : Nat → Text} (hkeeps : call.Keeps texts)
    {exit : Decoder} (hdecoded : call.Decoded exit.string_limit) : ∃ outputs : Nat → Text,
      (∀ descriptor, sg_syscall_by_number call.number = some descriptor →
        ∀ index, ∀ heap, Renders heap
          (render_argument heap libc exit tid call (descriptor.spec index) index)
          (128 * exit.string_limit + 1024) fun _ text => text = outputs index) ∧
      ∀ heap, Renders heap (sg_decode_syscall heap libc exit tid call)
        (line_room libc exit.string_limit call)
        fun _ text => text = line_text libc call (shown_argument call texts outputs) := by
  cases hdescriptor : sg_syscall_by_number call.number with
  | none =>
    refine ⟨fun _ => [], (by simp), fun heap => ?_⟩
    refine Yields.renders (sg_decode_syscall_yields fun index hindex => ?_)
      (sg_decode_syscall_shows hlibc tid hdecoded)
    have hsaved := hkeeps index hindex
    rw [hdescriptor] at hsaved
    simp only [shown_argument, hdescriptor]
    exact decode_unknown_yields hsaved
  | some descriptor =>
    have hone : ∀ index, ∃ text, ∀ heap, Yields
        (render_argument heap libc exit tid call (descriptor.spec index) index) text :=
      fun index => render_argument_text hlibc call (descriptor.spec index) index (fun _ => rfl)
        fun _ _ _ _ => rfl
    choose outputs houtputs using hone
    refine ⟨outputs, ?_, fun heap => ?_⟩
    · intro other hother index heap
      rw [← Option.some.inj hother]
      exact (houtputs index heap).renders (render_argument_shows hlibc tid call _ index)
    · refine Yields.renders (sg_decode_syscall_yields fun index hindex => ?_)
        (sg_decode_syscall_shows hlibc tid hdecoded)
      simp only [shown_argument, hdescriptor]
      split
      · rename_i houtput
        exact decode_rendered_yields (hkeeps.output hdescriptor hindex houtput)
          (houtputs index heap)
      · rename_i hinput
        have hsaved := hkeeps.known hdescriptor hindex
        rw [if_pos (Bool.eq_false_iff.mpr hinput)] at hsaved
        exact decode_saved_yields hsaved

/-- A line of which `texts` has been saved is a snapshot. -/
theorem snapshot_of_keeps (hlibc : libc.Plain) {texts : Nat → Text}
    (htexts : ∀ descriptor index, sg_syscall_by_number event.number = some descriptor →
      is_output_argument (descriptor.kind index) = false → ∀ heap, Yields
        (render_argument heap libc entry tid event (descriptor.spec index) index) (texts index))
    (hdecoded : call.Decoded entry.string_limit) (hnumber : call.number = event.number)
    (hkeeps : call.Keeps texts) : Snapshot libc entry tid event call := by
  refine ⟨⟨texts, ?_, ?_⟩, ?_⟩
  · intro descriptor hdescriptor index _ hinput heap
    exact (htexts descriptor index (hnumber ▸ hdescriptor) hinput heap).renders
      (render_argument_shows hlibc tid event _ index)
  · intro exit hlimit
    rw [← hlimit] at hdecoded ⊢
    obtain ⟨outputs, houtputs, hline⟩ := line_of_keeps hlibc hkeeps hdecoded
    exact ⟨outputs, fun descriptor hdescriptor index _ _ => houtputs descriptor hdescriptor index,
      hline⟩
  · intro exit exit' hlimit hlimit' hsame
    have hsaved := hkeeps.saved
    have hboth : ∀ b : Bool, (cond b exit exit').string_limit = entry.string_limit := by
      rintro ⟨⟩
      · exact hlimit'
      · exact hlimit
    have hseen : SeesOutput tid call (fun p : Heap × Bool => cond p.2 exit exit') (exit.peek tid) := by
      rintro descriptor hdescriptor index hindex houtput ⟨heap, ⟨⟩⟩ length
      · exact (hsame descriptor hdescriptor index hindex houtput length).symm
      · rfl
    have hargument : ∀ index < shown_arguments call, OneText fun p : Heap × Bool =>
        decode_argument p.1 libc (cond p.2 exit exit') tid (sg_syscall_by_number call.number) call
          index := by
      intro index hindex
      exact @decode_argument_text _ Prod.fst _ _ _ _ _ hlibc hsaved (fun p => hboth p.2) _ hseen _ hindex
    obtain ⟨text, htext⟩ : OneText fun p : Heap × Bool =>
        sg_decode_syscall p.1 libc (cond p.2 exit exit') tid call := sg_decode_syscall_text hargument
    refine ⟨text, fun heap => ⟨?_, ?_⟩⟩
    · exact (htext (heap, true)).renders (hlimit ▸ sg_decode_syscall_shows hlibc tid (hlimit ▸ hdecoded))
    · exact (htext (heap, false)).renders
        (hlimit' ▸ sg_decode_syscall_shows hlibc tid (hlimit' ▸ hdecoded))

/-- An input argument is rendered to one text, which is printable. -/
theorem input_argument_text (hlibc : libc.Plain) (entry : Decoder) (tid : Pid)
    (event : SyscallEvent) {descriptor : SyscallDescriptor} {index : Nat}
    (hinput : is_output_argument (descriptor.kind index) = false) :
    ∃ text, (∀ heap, Yields (render_argument heap libc entry tid event (descriptor.spec index) index)
        text) ∧ text.all isprint = true ∧ text.length ≤ 128 * entry.string_limit + 1024 := by
  have hkind : (descriptor.spec index).kind ≠ .ARG_UTS_OUT := by
    intro h
    have hkind : descriptor.kind index = .ARG_UTS_OUT := h
    rw [hkind] at hinput
    exact absurd hinput (by decide)
  have htext : OneText fun heap =>
      render_argument heap libc entry tid event (descriptor.spec index) index :=
    render_argument_text hlibc event (descriptor.spec index) index (fun _ => rfl)
      fun _ _ _ _ => rfl
  exact htext.plain fun heap => render_argument_plain hlibc tid event _ index hkind

/-- The event after its capture. -/
def SyscallEvent.capture (event : SyscallEvent) (texts : SyscallDescriptor → Nat → Text) :
    SyscallEvent :=
  match sg_syscall_by_number event.number with
  | none => { event with argument_count := sg_syscall_argument_count event.number }
  | some descriptor => { event with
    argument_count := effective_argument_count descriptor event
    decoded_arguments := Vector.ofFn fun index => event.captured descriptor (texts descriptor)
      (List.range (effective_argument_count descriptor event)) index }

theorem capture_known (texts : SyscallDescriptor → Nat → Text) {descriptor : SyscallDescriptor}
    (h : sg_syscall_by_number event.number = some descriptor) :
    event.capture texts = { event with
      argument_count := effective_argument_count descriptor event
      decoded_arguments := Vector.ofFn fun index => event.captured descriptor (texts descriptor)
        (List.range (effective_argument_count descriptor event)) index } := by
  unfold SyscallEvent.capture
  rw [h]

theorem saved_of_fresh (hfresh : event.decoded_arguments = Vector.replicate 6 none) (index : Nat) :
    event.saved index = none := by
  rw [SyscallEvent.saved, hfresh, getD_replicate_none]

/-- Whatever the heap, a capture that succeeds ends in the same event. -/
theorem capture_entry_eq (hlibc : libc.Plain) {texts : SyscallDescriptor → Nat → Text}
    (htexts : ∀ descriptor index, sg_syscall_by_number event.number = some descriptor →
      is_output_argument (descriptor.kind index) = false → ∀ heap, Yields
        (render_argument heap libc entry tid event (descriptor.spec index) index)
        (texts descriptor index))
    (heap : Heap) (s : Rendering) :
    Holds (entry.sg_decoder_capture_entry heap libc tid event) s
      (fun r _ => (r.1 = true → r.2 = event.capture texts) ∧
        (r.1 = false → r.2.decoded_arguments = Vector.replicate 6 none)) fun _ _ => False := by
  unfold Decoder.sg_decoder_capture_entry SyscallEvent.capture
  cases hdescriptor : sg_syscall_by_number event.number with
  | none => exact ⟨fun _ => rfl, (by simp)⟩
  | some descriptor =>
    dsimp only
    have hcount := effective_argument_count_le hdescriptor
    let counted : SyscallEvent :=
      { event with argument_count := effective_argument_count descriptor event }
    have hlt : ∀ index ∈ List.range (effective_argument_count descriptor event), index < 6 :=
      fun index hindex => (List.mem_range.mp hindex).trans_le hcount
    have hloop := capture_arguments_texts hlibc _ hlt counted s
      fun index _ hinput => htexts descriptor index hdescriptor hinput heap
    apply (hloop.and (capture_arguments_same _ counted s)).mono
    · rintro ⟨_, _⟩ _ ⟨⟨hfailed, hsaved⟩, decoded, rfl⟩
      refine ⟨fun hr => ?_, hfailed⟩
      have hsame : decoded = Vector.ofFn fun index => event.captured descriptor (texts descriptor)
          (List.range (effective_argument_count descriptor event)) index := by
        apply eq_of_getD
        intro index
        rw [getD_ofFn]
        refine (hsaved hr index).trans ?_
        split
        · rfl
        · rename_i hlarge
          have hout : index ∉ List.range (effective_argument_count descriptor event) := by
            rw [List.mem_range]
            omega
          rw [SyscallEvent.captured, if_neg fun h => hout h.1]
          exact List.getD_eq_default _ _ (by rw [Vector.length_toList]; omega)
      rw [hsame]
    · exact fun _ _ h => h.1

/-- The texts of the input arguments, whatever the call is. -/
def EntryTexts (libc : Libc) (entry : Decoder) (tid : Pid) (event : SyscallEvent)
    (texts : SyscallDescriptor → Nat → Text) : Prop :=
  ∀ descriptor index, is_output_argument (descriptor.kind index) = false →
    (∀ heap, Yields (render_argument heap libc entry tid event (descriptor.spec index) index)
      (texts descriptor index)) ∧
    (texts descriptor index).all isprint = true ∧
    (texts descriptor index).length ≤ 128 * entry.string_limit + 1024

theorem exists_entry_texts (hlibc : libc.Plain) (entry : Decoder) (tid : Pid)
    (event : SyscallEvent) : ∃ texts, EntryTexts libc entry tid event texts := by
  have hone : ∀ (descriptor : SyscallDescriptor) index, ∃ text,
      is_output_argument (descriptor.kind index) = false →
        (∀ heap, Yields (render_argument heap libc entry tid event (descriptor.spec index) index)
          text) ∧ text.all isprint = true ∧ text.length ≤ 128 * entry.string_limit + 1024 := by
    intro descriptor index
    by_cases hinput : is_output_argument (descriptor.kind index) = false
    · obtain ⟨text, htext⟩ := input_argument_text hlibc entry tid event hinput
      exact ⟨text, fun _ => htext⟩
    · exact ⟨[], fun h => absurd h hinput⟩
  choose texts htexts using hone
  exact ⟨texts, htexts⟩

/-- A capture ends in one event, or without any saved text when memory is refused. -/
theorem capture_holds (hlibc : libc.Plain) {texts : SyscallDescriptor → Nat → Text}
    (htexts : EntryTexts libc entry tid event texts)
    (hfresh : event.decoded_arguments = Vector.replicate 6 none) (heap : Heap) (s : Rendering) :
    Holds (entry.sg_decoder_capture_entry heap libc tid event) s
      (fun r _ => (r.1 = true → r.2 = event.capture texts) ∧
        (r.1 = false → r.2.decoded_arguments = Vector.replicate 6 none) ∧
        (heap.Succeeds → 128 * entry.string_limit + 1024 < SIZE_MAX → r.1 = true))
      fun _ _ => False := by
  have hone := capture_entry_eq hlibc (fun descriptor index _ hinput =>
    (htexts descriptor index hinput).1) heap s
  apply (hone.and (capture_entry_decoded hlibc tid s (decoded_of_none hfresh))).mono
  · exact fun _ _ h => ⟨h.1.1, h.1.2, h.2.2.2⟩
  · exact fun _ _ h => h.1

theorem SyscallEvent.SameCall.shown (h : event.SameCall call) :
    shown_arguments call = shown_arguments event := by
  unfold shown_arguments effective_argument_count SyscallEvent.argument
  rw [h.number, h.arguments, h.argument_count]

theorem capture_number (texts : SyscallDescriptor → Nat → Text) :
    (event.capture texts).number = event.number := by
  unfold SyscallEvent.capture
  split
  · rfl
  · rfl

/-- What has been saved when all input arguments have been captured. -/
theorem capture_saved {texts : SyscallDescriptor → Nat → Text}
    (hfresh : event.decoded_arguments = Vector.replicate 6 none)
    (hsame : (event.capture texts).SameCall call) (index : Nat) :
    call.saved index =
      match sg_syscall_by_number event.number with
      | none => none
      | some descriptor =>
        if index < shown_arguments call ∧ is_output_argument (descriptor.kind index) = false then
          some (texts descriptor index)
        else none := by
  have hslot : call.saved index = (event.capture texts).saved index := by
    unfold SyscallEvent.saved
    rw [hsame.decoded_arguments]
  rw [hslot, hsame.shown]
  cases hdescriptor : sg_syscall_by_number event.number with
  | none =>
    have hcapture : event.capture texts =
        { event with argument_count := sg_syscall_argument_count event.number } := by
      unfold SyscallEvent.capture
      rw [hdescriptor]
    rw [hcapture]
    exact saved_of_fresh hfresh index
  | some descriptor =>
    have hcount : shown_arguments (event.capture texts) =
        effective_argument_count descriptor event := by
      unfold shown_arguments
      rw [capture_number, hdescriptor, capture_known texts hdescriptor]
      rfl
    have hsmall := effective_argument_count_le hdescriptor
    rw [hcount, capture_known texts hdescriptor]
    refine (getD_ofFn _ index).trans ?_
    rw [SyscallEvent.captured, saved_of_fresh hfresh]
    simp only [List.mem_range]
    by_cases hindex : index < 6
    · rw [if_pos hindex]
    · have hlarge : ¬(index < effective_argument_count descriptor event ∧
          is_output_argument (descriptor.kind index) = false) := fun h => hindex (by omega)
      rw [if_neg hindex, if_neg hlarge]

theorem capture_decoded {texts : SyscallDescriptor → Nat → Text}
    (htexts : EntryTexts libc entry tid event texts)
    (hfresh : event.decoded_arguments = Vector.replicate 6 none)
    (hsame : (event.capture texts).SameCall call) : call.Decoded entry.string_limit := by
  have hnumber : call.number = event.number := hsame.number.symm.trans (capture_number texts)
  constructor
  · intro index text htext
    rw [capture_saved hfresh hsame] at htext
    split at htext
    · exact absurd htext (by simp)
    split at htext
    · rename_i hshown
      rw [← Option.some.inj htext]
      exact (htexts _ index hshown.2).2
    · exact absurd htext (by simp)
  · intro descriptor index text hdescriptor htext
    rw [hnumber] at hdescriptor
    rw [capture_saved hfresh hsame, hdescriptor] at htext
    dsimp only at htext
    split at htext
    · rename_i hshown
      exact hshown.2
    · exact absurd htext (by simp)

/-- The texts that are kept for the call that has been captured. -/
def kept_texts (texts : SyscallDescriptor → Nat → Text) (number : Int) (index : Nat) : Text :=
  match sg_syscall_by_number number with
  | none => []
  | some descriptor => texts descriptor index

theorem capture_keeps {texts : SyscallDescriptor → Nat → Text}
    (hfresh : event.decoded_arguments = Vector.replicate 6 none)
    (hsame : (event.capture texts).SameCall call) : call.Keeps (kept_texts texts event.number) := by
  intro index hindex
  have hnumber : call.number = event.number := hsame.number.symm.trans (capture_number texts)
  rw [capture_saved hfresh hsame, hnumber]
  unfold kept_texts
  cases sg_syscall_by_number event.number with
  | none => rfl
  | some descriptor => simp only [hindex, true_and]

/-- **The arguments are a snapshot of the entry.**  A capture under the memory of `entry` ends
    in one event, or, when memory is refused, without any saved text.  However the call ends,
    its line shows the input arguments as they were rendered at the entry, and looks at the
    memory of the exit only for what the call has written. -/
theorem arguments_snapshot (hlibc : libc.Plain) (entry : Decoder) (tid : Pid)
    (hfresh : event.decoded_arguments = Vector.replicate 6 none) :
    ∃ captured : SyscallEvent,
      (∀ heap s, Holds (entry.sg_decoder_capture_entry heap libc tid event) s
        (fun r _ => (r.1 = true → r.2 = captured) ∧
          (r.1 = false → r.2.decoded_arguments = Vector.replicate 6 none) ∧
          (heap.Succeeds → 128 * entry.string_limit + 1024 < SIZE_MAX → r.1 = true))
        fun _ _ => False) ∧
      ∀ call, captured.SameCall call → Snapshot libc entry tid event call := by
  obtain ⟨texts, htexts⟩ := exists_entry_texts hlibc entry tid event
  refine ⟨event.capture texts, capture_holds hlibc htexts hfresh, fun call hsame => ?_⟩
  have hkept : ∀ descriptor index, sg_syscall_by_number event.number = some descriptor →
      is_output_argument (descriptor.kind index) = false → ∀ heap, Yields
        (render_argument heap libc entry tid event (descriptor.spec index) index)
        (kept_texts texts event.number index) := by
    intro descriptor index hdescriptor hinput
    unfold kept_texts
    rw [hdescriptor]
    exact (htexts descriptor index hinput).1
  exact snapshot_of_keeps hlibc hkept (capture_decoded htexts hfresh hsame)
    (hsame.number.symm.trans (capture_number texts)) (capture_keeps hfresh hsame)

/-- A call of `open` with a name that could not be read. -/
theorem open_snapshot : ∃ captured : SyscallEvent,
    Holds (Decoder.sg_decoder_capture_entry ample_heap bare_libc ⟨32, none⟩ 1 open_directory)
      Rendering.init (fun r _ => r = (true, captured)) (fun _ _ => False) ∧
    Snapshot bare_libc ⟨32, none⟩ 1 open_directory
      { captured with result := 3, error_number := 0, exited_at := ⟨1, 0⟩, completed := true } := by
  obtain ⟨captured, hcapture, hsnapshot⟩ := arguments_snapshot bare_libc_plain ⟨32, none⟩ 1
    (show open_directory.decoded_arguments = Vector.replicate 6 none from rfl)
  refine ⟨captured, ?_, hsnapshot _ ⟨rfl, rfl, rfl, rfl, rfl⟩⟩
  apply (hcapture ample_heap Rendering.init).mono
  · rintro r _ ⟨hsucceeded, _, hreliable⟩
    have htrue : r.1 = true := hreliable (fun _ => rfl) (by decide)
    exact Prod.ext htrue (hsucceeded htrue)
  · exact fun _ _ h => h

end snapshot

end Sysgaze
