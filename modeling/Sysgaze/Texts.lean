import Sysgaze.Flags

/-! # The one text of an argument

    A program of the decoder works with new memory, which holds anything, and with what
    it sees of the tracee.  The text that it adds depends on the second only.

    `OneText` says this of a family of programs, each with a heap and a decoder of its
    own: all of them add the same text.  `render_argument_text`: the programs that render
    an argument do when their decoders see the same; for an argument that the call writes
    it is enough that they see the same at its address.
-/

open Fallible Numerals

namespace Sysgaze

/-- Whenever the program ends, it has added this text. -/
def Yields {α : Type} (m : RenderM α) (text : Text) : Prop :=
  ∀ s : Rendering, s.output.Ok → Holds m s
    (fun _ s' => s'.output.Ok ∧ s'.contents = s.contents ++ text) fun _ _ => True

/-- The programs add one text. -/
def OneText {ι α : Type} (m : ι → RenderM α) : Prop := ∃ text, ∀ i, Yields (m i) text

section yields
variable {heap : Heap} {α β : Type} {m : RenderM α} {f : α → RenderM β} {text text' : Text}

theorem Adds.yields (h : Adds heap m text) : Yields m text := by
  intro s hok
  apply (h s hok).mono
  · rintro _ s' ⟨hok', _, hcontents, _, rfl⟩
    exact ⟨hok', hcontents⟩
  · exact fun _ _ _ => trivial

theorem yields_pure (a : α) : Yields (pure a) [] :=
  fun _ hok => ⟨hok, (List.append_nil _).symm⟩

theorem yields_throw (text : Text) : Yields (throw () : RenderM α) text := fun _ _ => trivial

theorem yields_append (heap : Heap) (text : Text) :
    Yields (sg_buffer_append_cstr heap text) text := by
  have hadds : Adds heap (sg_buffer_append_cstr heap text) text := adds_append text
  exact hadds.yields

/-- A formatted text that is too long is not added. -/
theorem yields_format (heap : Heap) (text : Text) :
    Yields (sg_buffer_append_format heap text) text := by
  intro s hok
  apply (sg_buffer_append_format_spec hok text).mono
  · rintro _ s' ⟨hok', hcontents, _⟩
    exact ⟨hok', hcontents⟩
  · exact fun _ _ _ => trivial

theorem Yields.bind (hm : Yields m text) (hf : ∀ a, Yields (f a) text') :
    Yields (m >>= f) (text ++ text') := by
  intro s hok
  rw [holds_bind]
  apply (hm s hok).mono
  · rintro a s₁ ⟨hok₁, hcontents⟩
    apply (hf a s₁ hok₁).mono
    · rintro _ s₂ ⟨hok₂, hcontents'⟩
      exact ⟨hok₂, by rw [hcontents', hcontents, List.append_assoc]⟩
    · exact fun _ _ h => h
  · exact fun _ _ h => h

/-- A program that ends in a text with a property adds this text only. -/
theorem Yields.renders {n : Nat} {T : α → Text → Prop} (h : Yields m text)
    (hm : Renders heap m n T) : Renders heap m n fun _ text' => text' = text := by
  intro s hok
  apply ((hm s hok).and (h s hok)).mono
  · rintro _ s' ⟨⟨hok', text', hcontents, hlength, _⟩, _, hyields⟩
    have hsame : text' = text := List.append_cancel_left (hcontents.symm.trans hyields)
    exact ⟨hok', text', hcontents, hlength, hsame⟩
  · exact fun _ _ hfull => hfull.1

end yields

section families
variable {ι : Type} {α : Type} {m m' : ι → RenderM PUnit} {text : Text}

theorem one_text (text : Text) (h : ∀ i, Yields (m i) text) : OneText m := ⟨text, h⟩

theorem OneText.congr (h : OneText m) (heq : ∀ i, m' i = m i) : OneText m' := by
  obtain ⟨text, h⟩ := h
  refine one_text text fun i => ?_
  rw [heq i]
  exact h i

theorem one_text_append (heap : ι → Heap) (text : Text) :
    OneText fun i => sg_buffer_append_cstr (heap i) text :=
  one_text _ fun i => yields_append (heap i) text

theorem one_text_format (heap : ι → Heap) (text : Text) :
    OneText fun i => sg_buffer_append_format (heap i) text :=
  one_text _ fun i => yields_format (heap i) text

theorem one_text_pure : OneText fun _ : ι => (pure ⟨⟩ : RenderM PUnit) :=
  one_text _ fun _ => yields_pure _

/-- The one text of printable programs is printable. -/
theorem OneText.plain {heap : ι → Heap} {n : Nat} (h : OneText m)
    (hm : ∀ i, Plain (heap i) (m i) n) :
    ∃ text, (∀ i, Yields (m i) text) ∧ text.all isprint = true ∧ text.length ≤ n := by
  obtain ⟨text, h⟩ := h
  by_cases hrun : ∀ i s, s.output.Ok → Holds (m i) s (fun _ _ => False) fun _ _ => True
  · -- No program ends, so the text does not matter.
    refine ⟨[], fun i s hok => ?_, rfl, Nat.zero_le _⟩
    exact (hrun i s hok).mono (fun _ _ hfalse => hfalse.elim) fun _ _ h => h
  · refine ⟨text, h, ?_⟩
    by_contra hnot
    apply hrun
    intro i s hok
    apply ((hm i s hok).and (h i s hok)).mono
    · rintro _ s' ⟨⟨_, text', hcontents, hlength, hprint⟩, _, hyields⟩
      have hsame : text' = text := List.append_cancel_left (hcontents.symm.trans hyields)
      exact hnot (hsame ▸ ⟨hprint, hlength⟩)
    · exact fun _ _ _ => trivial

theorem OneText.bind (hm : OneText m) (hm' : OneText m') :
    OneText fun i => m i >>= fun _ => m' i := by
  obtain ⟨text, hm⟩ := hm
  obtain ⟨text', hm'⟩ := hm'
  exact one_text _ fun i => (hm i).bind fun _ => hm' i

theorem one_text_ite {c : Prop} [Decidable c] (hm : c → OneText m) (hm' : ¬c → OneText m') :
    OneText fun i => if c then m i else m' i := by
  by_cases h : c
  · simp only [if_pos h]
    exact hm h
  · simp only [if_neg h]
    exact hm' h

/-- Something is put in front on a condition. -/
theorem one_text_prefixed {c : Prop} [Decidable c] (hm : OneText m) (hm' : OneText m') :
    OneText fun i => if c then m i >>= fun _ => m' i else m' i :=
  one_text_ite (fun _ => hm.bind hm') fun _ => hm'

/-- What is made of new memory does not depend on what it holds. -/
theorem one_text_malloc {heap : ι → Heap} {f : ι → Option Text → RenderM PUnit} {size : Nat}
    (hnone : ∀ i text, Yields (f i none) text)
    (hsome : OneText fun p : ι × { data : Text // data.length = size } => f p.1 (some p.2.1)) :
    OneText fun i => malloc (heap i) size >>= f i := by
  obtain ⟨text, hsome⟩ := hsome
  refine one_text text fun i s hok => ?_
  rw [holds_bind, holds_malloc]
  split
  · exact hsome ⟨i, _, length_fresh s.asked size⟩ { s with asked := s.asked + 1 } hok
  · exact hnone i text { s with asked := s.asked + 1 } hok

@[inherit_doc one_text_malloc]
theorem one_text_array {heap : ι → Heap} {f : ι → Text → RenderM PUnit} {size : Nat}
    (h : OneText fun p : ι × { data : Text // data.length = size } => f p.1 p.2.1) :
    OneText fun i => uninitialized (heap i) size >>= f i := by
  obtain ⟨text, h⟩ := h
  refine one_text text fun i s hok => ?_
  rw [holds_bind]
  exact h ⟨i, _, length_fresh s.asked size⟩ { s with asked := s.asked + 1 } hok

/-- **A read**: all see the same. -/
theorem one_text_read {decoder : ι → Decoder} {tid : Pid} {address : UInt64} {length : Nat}
    {seen : Option Text} {destination : ι → Text} {f : ι → Bool × Text × Nat → RenderM PUnit}
    (hseen : ∀ i, (decoder i).peek tid address length = seen)
    (h : OneText fun i => f i (read_result (destination i) seen)) :
    OneText fun i => read_memory (decoder i) tid address (destination i) length >>= f i := by
  obtain ⟨text, h⟩ := h
  refine one_text text fun i s hok => ?_
  have hrun := h i
  rw [← hseen i] at hrun
  unfold Decoder.peek at hrun
  unfold read_memory
  cases hmemory : (decoder i).memory with
  | none =>
    rw [hmemory] at hrun
    exact hrun s hok
  | some memory =>
    rw [hmemory] at hrun
    dsimp only at hrun ⊢
    split
    · rename_i hnull
      rw [if_pos hnull] at hrun
      exact hrun s hok
    · rename_i hnull
      rw [if_neg hnull] at hrun
      rw [holds_bind, holds_bind, holds_modify]
      cases hread : memory.read tid address length with
      | none =>
        rw [hread] at hrun
        exact hrun _ hok
      | some bytes =>
        rw [hread] at hrun
        exact hrun _ hok

end families

/-! ### What is rendered -/

section rendered
variable {ι : Type} {heap : ι → Heap} {libc : Libc} {decoder : ι → Decoder} {tid : Pid}
  {string_limit : Nat}

theorem append_pointer_text (value : UInt64) : OneText fun i => append_pointer (heap i) value :=
  one_text_ite (fun _ => one_text_append _ _) fun _ => one_text_format _ _

theorem append_escaped_text (data : Text) : OneText fun i => append_escaped (heap i) data :=
  one_text _ fun i => Adds.yields (@append_escaped_adds (heap i) data)

/-- The bytes that are shown, and whether there are more. -/
theorem shown_text (data : Text) (shown : Nat × Bool) :
    OneText fun i => append_escaped (heap i) (data.take shown.1) >>= fun _ =>
      if shown.2 = true then sg_buffer_append_cstr (heap i) (cstr "...") else pure () :=
  (append_escaped_text _).bind (one_text_ite (fun _ => one_text_append _ _) fun _ => one_text_pure)

/-- How many of the bytes that have been read are shown, and whether there are more. -/
def remote_shown (requested amount : Nat) (stop_at_nul : Bool) (data : Text) (bytes_read : Nat) :
    Nat × Bool :=
  if stop_at_nul then
    match (data.take bytes_read).findIdx? fun byte => byte == 0 with
    | some terminator => (terminator, false)
    | none => (bytes_read, true)
  else (bytes_read, decide (bytes_read < requested) || decide (requested > amount))

theorem remote_shown_le (requested amount : Nat) (stop_at_nul : Bool) (bytes : Text) :
    (remote_shown requested amount stop_at_nul bytes bytes.length).1 ≤ bytes.length := by
  unfold remote_shown
  split
  · split
    · rename_i hterminator
      rw [List.take_length] at hterminator
      exact (List.findIdx?_eq_some_iff_getElem.mp hterminator).1.le
    · exact le_rfl
  · exact le_rfl

/-- The bytes behind those that have been read do not count. -/
theorem remote_shown_append (requested amount : Nat) (stop_at_nul : Bool) (bytes rest : Text) :
    remote_shown requested amount stop_at_nul (bytes ++ rest) bytes.length =
      remote_shown requested amount stop_at_nul bytes bytes.length := by
  unfold remote_shown
  rw [List.take_left, List.take_length]

/-- **Bytes** of the tracee: only what has been read is shown. -/
theorem append_remote_bytes_text {address : UInt64} {seen : Nat → Option Text}
    (hlimit : ∀ i, (decoder i).string_limit = string_limit)
    (hseen : ∀ i length, (decoder i).peek tid address length = seen length) (requested : Nat)
    (stop_at_nul : Bool) :
    OneText fun i => append_remote_bytes (heap i) (decoder i) tid address requested stop_at_nul := by
  unfold append_remote_bytes
  simp only [hlimit]
  generalize (if requested < string_limit then requested else string_limit) = amount
  apply one_text_ite
  · exact fun _ => one_text_append _ _
  intro _
  apply one_text_ite
  · exact fun _ => one_text_append _ _
  intro _
  apply one_text_malloc
  · exact fun _ text => yields_throw text
  have hpeek : ∀ p : ι × { data : Text // data.length = amount },
      (decoder p.1).peek tid address amount = seen amount := fun p => hseen p.1 amount
  dsimp only
  apply one_text_read hpeek
  cases seen amount with
  | none => exact append_pointer_text address
  | some bytes =>
    by_cases hempty : bytes.length = 0
    · exact OneText.congr (append_pointer_text address) fun p => if_pos (Or.inr hempty)
    have hnonempty : ¬((!true) = true ∨ bytes.length = 0) := by simp [hempty]
    have hshown : OneText fun p : ι × { data : Text // data.length = amount } =>
        append_escaped (heap p.1) (bytes.take
          (remote_shown requested amount stop_at_nul bytes bytes.length).1) >>= fun _ =>
        if (remote_shown requested amount stop_at_nul bytes bytes.length).2 = true then
          sg_buffer_append_cstr (heap p.1) (cstr "...")
        else pure () := shown_text bytes _
    refine hshown.congr fun p => (if_neg hnonempty).trans ?_
    show (append_escaped (heap p.1) ((bytes ++ p.2.1.drop bytes.length).take
        (remote_shown requested amount stop_at_nul (bytes ++ p.2.1.drop bytes.length)
          bytes.length).1) >>= fun _ =>
      if (remote_shown requested amount stop_at_nul (bytes ++ p.2.1.drop bytes.length)
          bytes.length).2 = true then
        sg_buffer_append_cstr (heap p.1) (cstr "...")
      else pure ()) = _
    rw [remote_shown_append, List.take_append_of_le_length (remote_shown_le _ _ _ _)]

theorem append_string_text {address : UInt64} {seen : Nat → Option Text}
    (hlimit : ∀ i, (decoder i).string_limit = string_limit)
    (hseen : ∀ i length, (decoder i).peek tid address length = seen length) :
    OneText fun i => append_string (heap i) (decoder i) tid address := by
  unfold append_string
  simp only [hlimit]
  exact append_remote_bytes_text hlimit hseen _ true

theorem append_named_integer_text (value : Int) (names : List (Int × Text)) :
    OneText fun i => append_named_integer (heap i) value names := by
  induction names with
  | nil => exact one_text_format _ _
  | cons entry names ih =>
    unfold append_named_integer
    exact one_text_ite (fun _ => one_text_append _ _) fun _ => ih

theorem append_unix_path_text (path : Text) : OneText fun i => append_unix_path (heap i) path := by
  have hclosed : ∀ text : Text, OneText fun i =>
      append_escaped (heap i) text >>= fun _ => sg_buffer_append_cstr (heap i) (cstr "\x7d") :=
    fun text => (append_escaped_text text).bind (one_text_append _ _)
  by_cases habstract : ∃ name, path = 0 :: name
  · obtain ⟨name, rfl⟩ := habstract
    exact (one_text_append _ _).bind ((one_text_append _ _).bind (hclosed name))
  · have hpath := (one_text_append heap (cstr "\x7bsa_family=AF_UNIX, sun_path=")).bind
      (hclosed (c_string path))
    refine hpath.congr fun i => ?_
    unfold append_unix_path
    dsimp only
    split
    · exact absurd ⟨_, rfl⟩ habstract
    · rfl

/-- A socket address begins with zeros, so nothing new is in it. -/
theorem append_sockaddr_text {address : UInt64} {seen : Nat → Option Text}
    (hseen : ∀ i length, (decoder i).peek tid address length = seen length) (length : Nat) :
    OneText fun i => append_sockaddr (heap i) libc (decoder i) tid address length := by
  have hpointer : OneText fun i => append_pointer (heap i) address := append_pointer_text address
  unfold append_sockaddr
  dsimp only
  apply one_text_ite
  · exact fun _ => one_text_append _ _
  intro _
  apply one_text_ite
  · exact fun _ => hpointer
  intro _
  apply one_text_read fun i => hseen i _
  apply one_text_ite
  · exact fun _ => hpointer
  intro _
  apply one_text_ite
  · intro _
    generalize libc.inet_ntop AF_INET _ = shown
    cases shown with
    | none => exact hpointer
    | some text => exact one_text_format _ _
  intro _
  apply one_text_ite
  · intro _
    generalize libc.inet_ntop AF_INET6 _ = shown
    cases shown with
    | none => exact hpointer
    | some text => exact one_text_format _ _
  intro _
  exact one_text_ite (fun _ => append_unix_path_text _) fun _ => one_text_format _ _

/-- The loop over the pointers of a vector. -/
theorem append_argv_from_text {address : UInt64} {seen : UInt64 → Nat → Option Text}
    (hlimit : ∀ i, (decoder i).string_limit = string_limit)
    (hseen : ∀ i address length, (decoder i).peek tid address length = seen address length)
    (rounds : Nat) : ∀ index : Nat,
      OneText fun i => append_argv_from (heap i) (decoder i) tid address rounds index := by
  induction rounds with
  | zero => exact fun _ => one_text_append _ _
  | succ rounds ih =>
    intro index
    have hround : ∀ r, OneText fun i =>
        append_argv_entry (heap i) (decoder i) tid address rounds index r := by
      intro r
      apply one_text_ite
      · intro _
        exact one_text_prefixed (one_text_append _ _)
          ((one_text_append _ _).bind (one_text_append _ _))
      intro _
      apply one_text_ite
      · exact fun _ => one_text_append _ _
      · intro _
        exact one_text_prefixed (one_text_append _ _)
          ((append_string_text hlimit fun i length => hseen i _ length).bind (ih (index + 1)))
    simp only [append_argv_from_succ]
    apply one_text_ite
    · exact fun _ => hround _
    · exact fun _ => one_text_read (fun i => hseen i _ 8) (hround _)

theorem append_argv_text {address : UInt64} {seen : UInt64 → Nat → Option Text}
    (hlimit : ∀ i, (decoder i).string_limit = string_limit)
    (hseen : ∀ i address length, (decoder i).peek tid address length = seen address length) :
    OneText fun i => append_argv (heap i) (decoder i) tid address :=
  one_text_ite (fun _ => one_text_append _ _) fun _ =>
    (one_text_append _ _).bind (append_argv_from_text hlimit hseen 32 0)

/-- **A structure of the tracee**: it is shown only when all of it has been read, so none of
    the new bytes remains. -/
theorem structure_text {address : UInt64} {size : Nat} {seen : Option Text} (text : Text → Text)
    (hseen : ∀ i, (decoder i).peek tid address size = seen) :
    OneText fun i => uninitialized (heap i) size >>= fun value =>
      read_memory (decoder i) tid address value size >>= fun r =>
        if (!r.1) = true ∨ r.2.2 ≠ size then append_pointer (heap i) address
        else sg_buffer_append_format (heap i) (text r.2.1) := by
  apply one_text_array
  have hpeek : ∀ p : ι × { data : Text // data.length = size },
      (decoder p.1).peek tid address size = seen := fun p => hseen p.1
  apply one_text_read hpeek
  cases seen with
  | none => exact append_pointer_text address
  | some bytes =>
    by_cases hwhole : bytes.length = size
    · have hlength : ¬((!true) = true ∨ bytes.length ≠ size) := by simp [hwhole]
      have hformat : OneText fun p : ι × { data : Text // data.length = size } =>
          sg_buffer_append_format (heap p.1) (text bytes) := one_text_format _ _
      refine hformat.congr fun p => (if_neg hlength).trans ?_
      show sg_buffer_append_format _ (text (bytes ++ p.2.1.drop bytes.length)) = _
      rw [List.drop_eq_nil_of_le (by rw [p.2.2, hwhole]), List.append_nil]
    · exact OneText.congr (append_pointer_text address) fun p => if_pos (Or.inr hwhole)

theorem append_timespec_text {address : UInt64} {seen : Nat → Option Text}
    (hseen : ∀ i length, (decoder i).peek tid address length = seen length) :
    OneText fun i => append_timespec (heap i) (decoder i) tid address := by
  unfold append_timespec
  apply one_text_ite
  · exact fun _ => one_text_append _ _
  · intro _
    exact structure_text (fun value =>
      cstr "\x7btv_sec=" ++ signed (int64 (little_endian (field value 0 8))) ++
        cstr ", tv_nsec=" ++ signed (int64 (little_endian (field value 8 8))) ++ cstr "\x7d")
      fun i => hseen i 16

theorem append_pipe_text {address : UInt64} {seen : Nat → Option Text}
    (hseen : ∀ i length, (decoder i).peek tid address length = seen length) (event : SyscallEvent) :
    OneText fun i => append_pipe (heap i) (decoder i) tid event address := by
  unfold append_pipe
  apply one_text_ite
  · exact fun _ => append_pointer_text address
  · intro _
    exact structure_text (fun descriptors =>
      cstr "[" ++ signed (int32 (little_endian (field descriptors 0 4))) ++ cstr ", " ++
        signed (int32 (little_endian (field descriptors 4 4))) ++ cstr "]")
      fun i => hseen i 8

theorem append_uts_text {address : UInt64} {seen : Nat → Option Text}
    (hseen : ∀ i length, (decoder i).peek tid address length = seen length) (event : SyscallEvent) :
    OneText fun i => append_uts (heap i) (decoder i) tid event address := by
  unfold append_uts
  apply one_text_ite
  · exact fun _ => append_pointer_text address
  · exact fun _ => structure_text uts_text fun i => hseen i sizeof_utsname

/-- **Every argument is rendered to one text.**  All see the same, and for an argument that
    the call writes it is enough that they do at its address. -/
theorem render_argument_text (hlibc : libc.Plain) (event : SyscallEvent) (spec : ArgumentSpec)
    (index : Nat) {seen : UInt64 → Nat → Option Text}
    (hlimit : ∀ i, (decoder i).string_limit = string_limit)
    (hseen : ∀ i address length, (is_output_argument spec.kind = true →
      address = event.argument index) → (decoder i).peek tid address length = seen address length) :
    OneText fun i => render_argument (heap i) libc (decoder i) tid event spec index := by
  have hhere : ∀ i length, (decoder i).peek tid (event.argument index) length =
      seen (event.argument index) length := fun i length => hseen i _ length fun _ => rfl
  have hint32 : OneText fun i =>
      sg_buffer_append_format (heap i) (signed (int32 (event.argument index).toNat)) :=
    one_text_format _ _
  have hpointer : OneText fun i => append_pointer (heap i) (event.argument index) :=
    append_pointer_text _
  have hremote : ∀ requested stop_at_nul, OneText fun i => append_remote_bytes (heap i) (decoder i)
      tid (event.argument index) requested stop_at_nul :=
    append_remote_bytes_text hlimit hhere
  have hnamed : ∀ names, OneText fun i =>
      append_named_integer (heap i) (int32 (event.argument index).toNat) names :=
    append_named_integer_text _
  by_cases hflags : is_flags spec.kind = true
  · exact one_text _ fun i => Adds.yields (render_flags_adds hlibc (decoder i) tid event spec index hflags)
  unfold render_argument
  dsimp only
  generalize spec.kind = kind at hseen hflags
  cases kind with
  | ARG_HEX | ARG_U64 | ARG_SIZE | ARG_MODE => exact one_text_format _ _
  | ARG_S32 | ARG_FD => exact hint32
  | ARG_DIRFD => exact one_text_ite (fun _ => one_text_append _ _) fun _ => hint32
  | ARG_POINTER => exact hpointer
  | ARG_STRING => exact append_string_text hlimit hhere
  | ARG_STRING_OUT => exact one_text_ite (fun _ => hpointer) fun _ => hremote _ true
  | ARG_BUFFER_IN => exact hremote _ false
  | ARG_BUFFER_OUT =>
    exact one_text_ite (fun _ => hpointer) fun _ =>
      one_text_ite (fun _ => one_text_append _ _) fun _ =>
        one_text_ite (fun _ => hpointer) fun _ => hremote _ false
  | ARG_ARGV =>
    exact append_argv_text hlimit fun i address length => hseen i address length fun h => absurd h (by rintro ⟨⟩)
  | ARG_OPEN_FLAGS | ARG_FD_FLAGS | ARG_PROT_FLAGS | ARG_MAP_FLAGS | ARG_CLONE_FLAGS
  | ARG_ACCESS_FLAGS | ARG_AT_FLAGS | ARG_SOCKET_TYPE => exact absurd rfl hflags
  | ARG_SOCKET_DOMAIN | ARG_SIGMASK_HOW | ARG_SHUTDOWN_HOW | ARG_FCNTL_COMMAND
  | ARG_EPOLL_OPERATION => exact hnamed _
  | ARG_SIGNAL => exact one_text _ fun i => Adds.yields (append_signal_adds hlibc _)
  | ARG_WHENCE =>
    exact one_text_ite (fun _ => one_text_append _ _) fun _ =>
      one_text_ite (fun _ => one_text_append _ _) fun _ =>
        one_text_ite (fun _ => one_text_append _ _) fun _ => hint32
  | ARG_SOCKADDR_IN => exact append_sockaddr_text hhere _
  | ARG_TIMESPEC_IN => exact append_timespec_text hhere
  | ARG_PIPE_OUT => exact append_pipe_text hhere event
  | ARG_UTS_OUT => exact append_uts_text hhere event

end rendered

end Sysgaze
