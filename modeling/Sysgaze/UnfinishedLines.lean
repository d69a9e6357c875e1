import Sysgaze.RestartErrors
import Sysgaze.Snapshots
import Sysgaze.TextOutput

/-! # The line of a call that has not returned

    A call is written as unfinished when the record of another task has to be written
    before its exit.  The kernel has not filled its output buffers yet, so the line should
    show where they are, and nothing of what is in them (`Reticent`).

    The line is made by the code for completed calls, from an event whose result and error
    are still zero, and there these mean a success.  So a buffer to be filled is shown as an
    empty one, and all other outputs as what the memory holds now; only a null pointer
    saves the line (`unfinished_line_iff`).
-/

open Fallible Numerals

namespace Sysgaze

/-- The text of a pointer. -/
def pointer_text (value : UInt64) : Text :=
  if value = 0 then cstr "NULL" else hexadecimal value.toNat

/-- The room for an unfinished line. -/
def unfinished_room (tid : Pid) (string_limit : Nat) (call : SyscallEvent) : Nat :=
  format_room (cstr "[pid " ++ signed tid ++ cstr "] ") +
    (format_room (head_text call) + shown_arguments call * (128 * string_limit + 1026) + 17)

/-- The unfinished line of a call does not depend on the memory of the tracee, and shows the
    arguments that the call is to fill as pointers. -/
structure Reticent (libc : Libc) (string_limit : Nat) (show_tids : Bool) (tid : Pid)
    (call : SyscallEvent) : Prop where
  same : ∀ decoder decoder' : Decoder, decoder.string_limit = string_limit →
    decoder'.string_limit = string_limit → ∃ text, ∀ heap,
      Renders heap (Line.render heap libc decoder show_tids (.unfinished tid call))
        (unfinished_room tid string_limit call) (fun _ text' => text' = text) ∧
      Renders heap (Line.render heap libc decoder' show_tids (.unfinished tid call))
        (unfinished_room tid string_limit call) (fun _ text' => text' = text)
  pointer : ∀ descriptor, sg_syscall_by_number call.number = some descriptor →
    ∀ index < shown_arguments call, is_output_argument (descriptor.kind index) = true →
      ∀ decoder : Decoder, decoder.string_limit = string_limit → ∀ heap, Renders heap
        (decode_argument heap libc decoder tid (some descriptor) call index)
        (128 * string_limit + 1026)
        fun _ text => text = comma index ++ pointer_text (call.argument index)

/-- The call is to fill nothing: it has no buffer, and its other outputs are null pointers. -/
def SyscallEvent.FillsNothing (call : SyscallEvent) : Prop :=
  ∀ descriptor, sg_syscall_by_number call.number = some descriptor →
    ∀ index < shown_arguments call, is_output_argument (descriptor.kind index) = true →
      descriptor.kind index ≠ .ARG_BUFFER_OUT ∧ call.argument index = 0

/-! ### Null pointers -/

section null
variable {heap : Heap} {libc : Libc} {decoder : Decoder} {tid : Pid} {call : SyscallEvent}
  {spec : ArgumentSpec} {index : Nat}

theorem peek_null (decoder : Decoder) (tid : Pid) (length : Nat) :
    decoder.peek tid 0 length = none := by
  unfold Decoder.peek
  split
  · rfl
  · exact if_pos rfl

theorem append_null_adds : Adds heap (append_pointer heap 0) (cstr "NULL") := adds_append _

theorem append_remote_null (requested : Nat) (stop_at_nul : Bool) :
    Adds heap (append_remote_bytes heap decoder tid 0 requested stop_at_nul) (cstr "NULL") := by
  unfold append_remote_bytes
  exact renders_ite (fun _ => adds_append _) fun h => absurd rfl h

/-- An output at no address is shown as the null pointer. -/
theorem null_output_adds (houtput : is_output_argument spec.kind = true)
    (hbuffer : spec.kind ≠ .ARG_BUFFER_OUT) (hnull : call.argument index = 0) :
    Adds heap (render_argument heap libc decoder tid call spec index) (cstr "NULL") := by
  have hstructure : ∀ size (text : Text → Text), Adds heap
      (uninitialized heap size >>= fun value => read_memory decoder tid 0 value size >>= fun r =>
        if (!r.1) = true ∨ r.2.2 ≠ size then append_pointer heap 0
        else sg_buffer_append_format heap (text r.2.1)) (cstr "NULL") := by
    intro size text
    apply renders_array
    intro array
    apply renders_read
    rw [peek_null]
    exact append_null_adds
  unfold render_argument
  dsimp only
  rw [hnull]
  generalize spec.kind = kind at houtput hbuffer
  cases kind with
  | ARG_STRING_OUT =>
    exact renders_ite (fun _ => append_null_adds) fun _ => append_remote_null _ true
  | ARG_PIPE_OUT =>
    exact renders_ite (fun _ => append_null_adds) fun _ => hstructure 8 fun descriptors =>
      cstr "[" ++ signed (int32 (little_endian (field descriptors 0 4))) ++ cstr ", " ++
        signed (int32 (little_endian (field descriptors 4 4))) ++ cstr "]"
  | ARG_UTS_OUT =>
    exact renders_ite (fun _ => append_null_adds) fun _ => hstructure sizeof_utsname uts_text
  | ARG_BUFFER_OUT => exact absurd rfl hbuffer
  | _ => exact absurd houtput (by rintro ⟨⟩)

end null

/-! ### Memory full of zeros -/

/-- A tracee with zeros everywhere. -/
def zero_decoder (string_limit : Nat) : Decoder :=
  ⟨string_limit, some (constant_memory (List.replicate sizeof_utsname 0))⟩

section zeros
variable {heap : Heap} {libc : Libc} {tid : Pid} {call : SyscallEvent} {spec : ArgumentSpec}
  {index string_limit : Nat} {address : UInt64}

theorem peek_zeros (hnull : address ≠ 0) (length : Nat) :
    (zero_decoder string_limit).peek tid address length =
      some ((List.replicate sizeof_utsname 0).take length) := if_neg hnull

/-- A text that is not the text of a pointer: it begins with none of its two bytes. -/
def NoPointer (text : Text) : Prop := text.head? ≠ some 78 ∧ text.head? ≠ some 48

instance (text : Text) : Decidable (NoPointer text) := by
  unfold NoPointer
  infer_instance

theorem NoPointer.append {text : Text} (h : NoPointer text) (hnil : text ≠ []) (rest : Text) :
    NoPointer (text ++ rest) := by
  unfold NoPointer
  rw [List.head?_append_of_ne_nil _ hnil]
  exact h

theorem NoPointer.ne {text : Text} (h : NoPointer text) (value : UInt64) :
    text ≠ pointer_text value := by
  rintro rfl
  unfold pointer_text at h
  split at h
  · exact absurd h (by decide)
  · exact absurd rfl h.2

/-- A string that begins with a NUL is shown as an empty one. -/
theorem zero_string_renders (hnull : address ≠ 0) (requested : Nat) :
    Renders heap (append_remote_bytes heap (zero_decoder string_limit) tid address requested true)
      1000 fun _ text => NoPointer text := by
  unfold append_remote_bytes
  dsimp only
  generalize (if requested < (zero_decoder string_limit).string_limit then requested
    else (zero_decoder string_limit).string_limit) = amount
  apply renders_ite
  · exact fun h => absurd h hnull
  intro _
  apply renders_ite
  · intro _
    split
    · exact (adds_append _).renders (by decide) fun _ => by decide
    · exact (adds_append _).renders (by decide) fun _ => by decide
  intro hamount
  apply Renders.mono (renders_bind (renders_malloc amount) _) (Nat.zero_add _).le
    fun _ _ ht => ht
  rintro data text ⟨rfl, hdata⟩
  cases data with
  | none => exact renders_throw fun hs => by simp at hdata; exact hdata hs
  | some data =>
    apply renders_read
    rw [peek_zeros hnull]
    obtain ⟨more, hzeros⟩ : ∃ more : Text,
        (List.replicate sizeof_utsname (0 : UInt8)).take amount = 0 :: more := by
      obtain ⟨n, rfl⟩ := Nat.exists_eq_succ_of_ne_zero hamount
      exact ⟨_, rfl⟩
    rw [hzeros]
    dsimp only [read_result]
    apply renders_ite
    · rintro (h | h)
      · exact absurd h (by decide)
      · exact absurd h (by simp)
    · intro _
      have hshown : Adds heap (append_escaped heap [] >>= fun _ => (pure () : RenderM Unit))
          (cstr "\"\"" ++ []) := adds_bind (append_escaped_adds []) fun _ => adds_pure _
      exact hshown.renders (by decide) fun _ => by decide

/-- A structure of zeros is shown with its fields. -/
theorem zero_structure_renders (hnull : address ≠ 0) {size : Nat} (hsize : size ≤ sizeof_utsname)
    (text : Text → Text) (hshort : ∀ value, (text value).length ≤ 1000)
    (hno : ∀ value, NoPointer (text value)) :
    Renders heap (uninitialized heap size >>= fun value =>
      read_memory (zero_decoder string_limit) tid address value size >>= fun r =>
        if (!r.1) = true ∨ r.2.2 ≠ size then append_pointer heap address
        else sg_buffer_append_format heap (text r.2.1)) 1000 fun _ text => NoPointer text := by
  apply renders_array
  intro array
  apply renders_read
  rw [peek_zeros hnull]
  dsimp only [read_result]
  apply renders_ite
  · rintro (h | h)
    · exact absurd h (by decide)
    · exact absurd (by rw [List.length_take, List.length_replicate]; omega) h
  · intro _
    exact (adds_format ((hshort _).trans (by decide))).renders (hshort _) fun _ => hno _

/-- **An output of a call that has not failed** is shown as data, and not as a pointer. -/
theorem zero_output_renders (hresult : call.result = 0) (herror : call.error_number = 0)
    (houtput : is_output_argument spec.kind = true)
    (hfills : spec.kind = .ARG_BUFFER_OUT ∨ call.argument index ≠ 0) :
    Renders heap (render_argument heap libc (zero_decoder string_limit) tid call spec index) 1000
      fun _ text => NoPointer text := by
  unfold render_argument
  dsimp only
  rw [herror, hresult]
  generalize spec.kind = kind at houtput hfills
  cases kind with
  | ARG_STRING_OUT =>
    have hnull : call.argument index ≠ 0 := hfills.resolve_left (by simp)
    exact renders_ite (fun h => absurd rfl h) fun _ => zero_string_renders hnull _
  | ARG_BUFFER_OUT =>
    exact renders_ite (fun h => absurd rfl h) fun _ =>
      renders_ite (fun _ => (adds_append _).renders (by decide) fun _ => by decide)
        fun h => absurd rfl h
  | ARG_PIPE_OUT =>
    have hnull : call.argument index ≠ 0 := hfills.resolve_left (by simp)
    unfold append_pipe
    apply renders_ite
    · exact fun h => absurd herror h
    intro _
    apply zero_structure_renders hnull (by decide) fun descriptors =>
      cstr "[" ++ signed (int32 (little_endian (field descriptors 0 4))) ++ cstr ", " ++
        signed (int32 (little_endian (field descriptors 4 4))) ++ cstr "]"
    · intro value
      have hfirst := signed_int32_length (little_endian (field value 0 4))
      have hsecond := signed_int32_length (little_endian (field value 4 4))
      have hlengths : (cstr "[").length = 1 ∧ (cstr ", ").length = 2 ∧ (cstr "]").length = 1 := by
        decide
      simp only [List.length_append, hlengths]
      omega
    · intro value
      simp only [List.append_assoc]
      exact NoPointer.append (by decide) (by decide) _
  | ARG_UTS_OUT =>
    have hnull : call.argument index ≠ 0 := hfills.resolve_left (by simp)
    unfold append_uts
    apply renders_ite
    · exact fun h => absurd herror h
    intro _
    apply zero_structure_renders hnull (le_refl _) uts_text
    · exact fun value => (uts_text_length value).trans (by decide)
    · intro value
      unfold uts_text
      simp only [List.append_assoc]
      exact NoPointer.append (by decide) (by decide) _
  | _ => exact absurd houtput (by rintro ⟨⟩)

end zeros

/-! ### The line -/

section line
variable {heap : Heap} {libc : Libc} {decoder : Decoder} {show_tids : Bool} {tid : Pid}
  {event call : SyscallEvent} {string_limit : Nat} {texts : Nat → Text}

theorem unfinished_line_renders (hlibc : libc.Plain) (show_tids : Bool) (tid : Pid)
    (hdecoded : call.Decoded decoder.string_limit) :
    Renders heap (Line.render heap libc decoder show_tids (.unfinished tid call))
      (unfinished_room tid decoder.string_limit call) fun _ _ => True := by
  have hprefix : Room heap ( append_tid_prefix heap show_tids tid)
      (format_room (cstr "[pid " ++ signed tid ++ cstr "] ")) := by
    have hprint : (cstr "[pid " ++ signed tid ++ cstr "] ").all isprint = true := by
      simp only [List.all_append, signed_printable, Bool.and_true]
      decide
    exact renders_ite (fun _ => (plain_format_room hprint).room (le_refl _)) fun _ => room_pure _
  have hentry : Room heap (sg_decode_syscall_entry heap libc decoder tid call)
      (format_room (head_text call) + shown_arguments call *
        (128 * decoder.string_limit + 1026)) :=
    (sg_decode_syscall_entry_shows hlibc tid hdecoded).room (le_refl _)
  apply (room_bind hprefix fun _ => room_bind hentry fun _ => room_append (le_refl _)).mono
  have hlength : (cstr " <unfinished ...>").length = 17 := by decide
  unfold unfinished_room
  omega

theorem unfinished_line_text {ι : Type} {heap : ι → Heap} {decoder : ι → Decoder}
    (hlibc : libc.Plain) (show_tids : Bool) (hsaved : call.Saved)
    (hlimit : ∀ i, (decoder i).string_limit = string_limit)
    {seen : UInt64 → Nat → Option Text} (hseen : SeesOutput tid call decoder seen) :
    OneText fun i => Line.render (heap i) libc (decoder i) show_tids (.unfinished tid call) := by
  have hprefix : OneText fun i => append_tid_prefix (heap i) show_tids tid :=
    one_text_ite (fun _ => one_text_format _ _) fun _ => one_text_pure
  have hargument : ∀ index < shown_arguments call, OneText fun i => decode_argument (heap i) libc
      (decoder i) tid (sg_syscall_by_number call.number) call index :=
    fun index hindex => decode_argument_text hlibc hsaved hlimit hseen hindex
  exact hprefix.bind ((sg_decode_syscall_entry_text hargument).bind (one_text_append _ _))

/-- An argument that has not been saved is rendered from the memory of now. -/
theorem decode_argument_renders {descriptor : SyscallDescriptor} {index n : Nat}
    {T : Text → Prop} (hsaved : call.saved index = none)
    (h : Renders heap (render_argument heap libc decoder tid call (descriptor.spec index) index) n
      fun _ text => T text) :
    Renders heap (decode_argument heap libc decoder tid (some descriptor) call index) (2 + n)
      fun _ text => ∃ text', text = comma index ++ text' ∧ T text' := by
  unfold SyscallEvent.saved at hsaved
  unfold decode_argument
  rw [hsaved]
  unfold comma
  apply renders_ite
  · intro hindex
    rw [if_neg hindex]
    apply Renders.mono (renders_bind (adds_append (cstr ", ")) _) (le_refl _) fun _ _ ht => ht
    rintro _ _ rfl
    exact Renders.mono h (le_refl _) fun _ text ht => ⟨text, rfl, ht⟩
  · intro hindex
    rw [if_pos (not_not.mp hindex)]
    exact Renders.mono h (by omega) fun _ text ht => ⟨text, rfl, ht⟩

/-- **A call that is to fill nothing** has a line that tells nothing. -/
theorem reticent_of_fills_nothing (hlibc : libc.Plain) (hkeeps : call.Keeps texts)
    (hdecoded : call.Decoded string_limit) (h : call.FillsNothing) :
    Reticent libc string_limit show_tids tid call := by
  constructor
  · intro decoder decoder' hlimit hlimit'
    have hboth : ∀ b : Bool, (cond b decoder decoder').string_limit = string_limit := by
      rintro ⟨⟩
      · exact hlimit'
      · exact hlimit
    -- At a null pointer there is nothing to be seen, whatever the memory is.
    have hseen : SeesOutput tid call (fun p : Heap × Bool => cond p.2 decoder decoder')
        fun _ _ => none := by
      intro descriptor hdescriptor index hindex houtput p length
      rw [(h descriptor hdescriptor index hindex houtput).2]
      exact peek_null _ tid length
    obtain ⟨text, htext⟩ : OneText fun p : Heap × Bool => Line.render p.1 libc
        (cond p.2 decoder decoder') show_tids (.unfinished tid call) :=
      unfinished_line_text hlibc show_tids hkeeps.saved (fun p => hboth p.2) hseen
    refine ⟨text, fun heap => ⟨?_, ?_⟩⟩
    · exact (htext (heap, true)).renders
        (hlimit ▸ unfinished_line_renders hlibc show_tids tid (hlimit ▸ hdecoded))
    · exact (htext (heap, false)).renders
        (hlimit' ▸ unfinished_line_renders hlibc show_tids tid (hlimit' ▸ hdecoded))
  · intro descriptor hdescriptor index hindex houtput decoder hlimit heap
    obtain ⟨hbuffer, hnull⟩ := h descriptor hdescriptor index hindex houtput
    have hsaved := hkeeps.output hdescriptor hindex houtput
    have hshown : Adds heap (render_argument heap libc decoder tid call (descriptor.spec index) index)
        (cstr "NULL") := null_output_adds houtput hbuffer hnull
    apply Renders.mono (decode_argument_renders hsaved hshown)
    · have hlength : (cstr "NULL").length = 4 := by decide
      omega
    · rintro _ _ ⟨_, rfl, rfl⟩
      rw [hnull]
      rfl

/-- **Only such a call** has a line that tells nothing: all others show zeros as data. -/
theorem fills_nothing_of_reticent (hkeeps : call.Keeps texts) (hblank : call.Blank)
    (h : Reticent libc string_limit show_tids tid call) : call.FillsNothing := by
  intro descriptor hdescriptor index hindex houtput
  by_contra hfills
  have hshown : descriptor.kind index = .ARG_BUFFER_OUT ∨ call.argument index ≠ 0 := by
    by_cases hbuffer : descriptor.kind index = .ARG_BUFFER_OUT
    · exact Or.inl hbuffer
    · exact Or.inr fun hnull => hfills ⟨hbuffer, hnull⟩
  have hsaved := hkeeps.output hdescriptor hindex houtput
  have hdata : Renders ample_heap (render_argument ample_heap libc (zero_decoder string_limit) tid
      call (descriptor.spec index) index) 1000 fun _ text => NoPointer text :=
    zero_output_renders hblank.result hblank.error_number houtput hshown
  have hpointer := h.pointer descriptor hdescriptor index hindex houtput
    (zero_decoder string_limit) rfl ample_heap
  obtain ⟨_, text, ⟨text', rfl, hno⟩, htext⟩ :=
    ((decode_argument_renders hsaved hdata).and hpointer).exists_text (fun _ => rfl) (by decide)
  exact hno.ne _ (List.append_cancel_left htext)

/-- Whether a call is to fill something is known when it is entered. -/
theorem capture_fills_nothing (texts : SyscallDescriptor → Nat → Text) :
    (event.capture texts).FillsNothing ↔ event.FillsNothing := by
  unfold SyscallEvent.FillsNothing
  rw [capture_number]
  cases hdescriptor : sg_syscall_by_number event.number with
  | none => exact ⟨fun _ => (by simp), fun _ => (by simp)⟩
  | some descriptor =>
    have hshown : shown_arguments (event.capture texts) = shown_arguments event := by
      unfold shown_arguments
      rw [capture_number, hdescriptor, capture_known texts hdescriptor]
      rfl
    rw [hshown, capture_known texts hdescriptor]
    rfl

theorem capture_blank (texts : SyscallDescriptor → Nat → Text) (hblank : event.Blank) :
    (event.capture texts).Blank := by
  unfold SyscallEvent.capture
  split
  · exact ⟨hblank.result, hblank.error_number⟩
  · exact ⟨hblank.result, hblank.error_number⟩

/-- **What the line of an unfinished call tells.**  A call is entered, its arguments are
    captured, and it has not returned.  Its line tells nothing of what the kernel has not
    written yet exactly when the call has no buffer to be filled, and its other outputs are
    null pointers. -/
theorem unfinished_line_iff (hlibc : libc.Plain) (entry : Decoder) (show_tids : Bool) (tid : Pid)
    (hfresh : event.decoded_arguments = Vector.replicate 6 none) (hblank : event.Blank) :
    ∃ captured : SyscallEvent,
      (∀ heap s, Holds (entry.sg_decoder_capture_entry heap libc tid event) s
        (fun r _ => (r.1 = true → r.2 = captured) ∧
          (heap.Succeeds → 128 * entry.string_limit + 1024 < SIZE_MAX → r.1 = true))
        fun _ _ => False) ∧
      (Reticent libc entry.string_limit show_tids tid captured ↔ event.FillsNothing) := by
  obtain ⟨texts, htexts⟩ := exists_entry_texts hlibc entry tid event
  have hkeeps := capture_keeps hfresh (SyscallEvent.SameCall.refl (event.capture texts))
  have hdecoded := capture_decoded htexts hfresh (SyscallEvent.SameCall.refl (event.capture texts))
  refine ⟨event.capture texts, fun heap s => ?_, ?_⟩
  · apply (capture_holds hlibc htexts hfresh heap s).mono
    · exact fun _ _ h => ⟨h.1, h.2.2⟩
    · exact fun _ _ h => h
  · rw [← capture_fills_nothing texts]
    exact ⟨fills_nothing_of_reticent hkeeps (capture_blank texts hblank),
      reticent_of_fills_nothing hlibc hkeeps hdecoded⟩

end line

/-- A `read` into a buffer of 64 bytes that waits for its data. -/
def blocked_read : SyscallEvent :=
  { SyscallEvent.zero with number := 0, arguments := #v[3, 4096, 64, 0, 0, 0] }

/-- Its line is `read(3, "", 64 <unfinished ...>`: an empty buffer, as if at the end of a file. -/
theorem unfinished_line_unsound : ¬ ∀ (libc : Libc), libc.Plain → ∀ (entry : Decoder)
    (show_tids : Bool) (tid : Pid) (event captured : SyscallEvent),
    event.decoded_arguments = Vector.replicate 6 none → event.Blank →
    (∀ heap s, Holds (entry.sg_decoder_capture_entry heap libc tid event) s
      (fun r _ => r.1 = true → r.2 = captured) fun _ _ => False) →
    Reticent libc entry.string_limit show_tids tid captured := by
  intro h
  have hfresh : blocked_read.decoded_arguments = Vector.replicate 6 none := rfl
  obtain ⟨texts, htexts⟩ := exists_entry_texts bare_libc_plain ⟨32, none⟩ 1 blocked_read
  have hreticent := h bare_libc bare_libc_plain ⟨32, none⟩ true 1 blocked_read
    (blocked_read.capture texts) hfresh ⟨rfl, rfl⟩ fun heap s =>
      (capture_holds bare_libc_plain htexts hfresh heap s).mono (fun _ _ h => h.1) fun _ _ h => h
  have hfills := (capture_fills_nothing texts).mp (fills_nothing_of_reticent
    (capture_keeps hfresh (SyscallEvent.SameCall.refl _)) (capture_blank texts ⟨rfl, rfl⟩) hreticent)
  have hread : ∀ descriptor, sg_syscall_by_number blocked_read.number = some descriptor →
      descriptor.kind 1 = .ARG_BUFFER_OUT ∧ 1 < shown_arguments blocked_read := by
    decide +kernel
  obtain ⟨descriptor, hdescriptor⟩ : ∃ descriptor,
      sg_syscall_by_number blocked_read.number = some descriptor :=
    Option.isSome_iff_exists.mp (by decide +kernel)
  obtain ⟨hkind, hshown⟩ := hread descriptor hdescriptor
  have houtput : is_output_argument (descriptor.kind 1) = true := by rw [hkind]; rfl
  exact (hfills descriptor hdescriptor 1 hshown houtput).1 hkind

/-- `close` has no output. -/
theorem close_line : ∃ captured : SyscallEvent,
    (∀ heap s, Holds (Decoder.sg_decoder_capture_entry heap bare_libc ⟨32, none⟩ 1
        { SyscallEvent.zero with number := 3 }) s
      (fun r _ => (r.1 = true → r.2 = captured) ∧
        (heap.Succeeds → 128 * 32 + 1024 < SIZE_MAX → r.1 = true)) fun _ _ => False) ∧
    (Reticent bare_libc 32 true 1 captured ↔
      SyscallEvent.FillsNothing { SyscallEvent.zero with number := 3 }) :=
  unfinished_line_iff bare_libc_plain ⟨32, none⟩ true 1 rfl ⟨rfl, rfl⟩

end Sysgaze
