import Sysgaze.Event
import Sysgaze.Lib.Fallible
import Sysgaze.Lib.Numerals

/-! # The text buffer (`buffer.c`)

    Every line is put together in a `struct sg_buffer`, an array of bytes that
    is reallocated when it is full.  The programs that fill a buffer have the
    buffer as their state; they fail, without a message, when it cannot grow.

    Memory that has just been allocated holds anything (`Heap.stale`).  A
    formatted text is given to `sg_buffer_append_format` as what `vsnprintf`
    makes of it.
-/

open Fallible

namespace Sysgaze

/-- The answers of the allocator: whether the `n`-th request is granted, and what the
    new bytes hold. -/
structure Heap where
  alloc : Nat → Bool
  stale : Nat → Nat → UInt8

/-- No request is refused. -/
def Heap.Succeeds (heap : Heap) : Prop := ∀ n, heap.alloc n = true

/-- The new bytes that come with the `n`-th request. -/
def Heap.fresh (heap : Heap) (n size : Nat) : Text := (List.range size).map (heap.stale n)

/-- `struct sg_buffer`; `data` holds the `capacity` bytes of the array. -/
structure Buffer where
  data : Text
  length : Nat
  capacity : Nat
  deriving DecidableEq, Repr

/-- `sg_buffer_init`. -/
def sg_buffer_init : Buffer := ⟨[], 0, 0⟩

/-- `sg_buffer_reset`. -/
def sg_buffer_reset (buffer : Buffer) : Buffer :=
  { buffer with length := 0, data := buffer.data.set 0 0 }

/-- `sg_buffer_destroy`. -/
def sg_buffer_destroy (_buffer : Buffer) : Buffer := sg_buffer_init

/-- The text in the buffer. -/
def Buffer.contents (buffer : Buffer) : Text := buffer.data.take buffer.length

/-- The bytes are stored behind the text, and a NUL behind them. -/
def Buffer.put (buffer : Buffer) (bytes : Text) : Buffer where
  data := buffer.data.take buffer.length ++ bytes ++
    0 :: buffer.data.drop (buffer.length + bytes.length + 1)
  length := buffer.length + bytes.length
  capacity := buffer.capacity

abbrev SG_BUFFER_INITIAL_CAPACITY : Nat := 64

/-- The loop of `sg_buffer_reserve`: the capacity is doubled until it is enough. -/
def doubled : Nat → Nat → Nat → Nat
  | 0, capacity, _ => capacity
  | fuel + 1, capacity, required =>
    if capacity < required then
      if capacity > SIZE_MAX / 2 then required else doubled fuel (capacity * 2) required
    else capacity

/-- A read of the memory of a tracee: where it begins, how many bytes are asked for, and
    the size of the destination. -/
structure MemoryRead where
  tid : Pid
  address : UInt64
  length : Nat
  room : Nat
  deriving DecidableEq, Repr

/-- The state of a program that fills a buffer; `asked` counts the requests to the
    allocator, and `reads` is the history of reads. -/
structure Rendering where
  output : Buffer
  asked : Nat
  reads : List MemoryRead
  deriving DecidableEq, Repr

/-- Programs that fill a buffer. -/
abbrev RenderM := Fallible Unit Rendering

namespace Rendering

/-- The text so far. -/
def contents (rendering : Rendering) : Text := rendering.output.contents

/-- An empty buffer. -/
def init : Rendering := ⟨sg_buffer_init, 0, []⟩

/-- The number of the next request to the allocator. -/
def ask : RenderM Nat := do
  let rendering ← get
  set { rendering with asked := rendering.asked + 1 }
  pure rendering.asked

end Rendering

open Rendering

variable (heap : Heap)

/-- `malloc`: the new bytes, or `none` for a null pointer. -/
def malloc (size : Nat) : RenderM (Option Text) := do
  let n ← ask
  pure (if heap.alloc n then some (heap.fresh n size) else none)

/-- A local array that is not initialised. -/
def uninitialized (size : Nat) : RenderM Text := do
  let n ← ask
  pure (heap.fresh n size)

/-- `sg_buffer_reserve`. -/
def sg_buffer_reserve (additional : Nat) : RenderM Unit := do
  let rendering ← get
  let buffer := rendering.output
  if buffer.length = SIZE_MAX ∨ additional > SIZE_MAX - buffer.length - 1 then throw ()
  else
    let required := buffer.length + additional + 1
    if required ≤ buffer.capacity then pure ()
    else do
      let capacity := doubled 64
        (if buffer.capacity = 0 then SG_BUFFER_INITIAL_CAPACITY else buffer.capacity) required
      let n ← ask
      if !heap.alloc n then throw ()
      else
        modify fun rendering =>
          let data := buffer.data ++ heap.fresh n (capacity - buffer.capacity)
          { rendering with output := { buffer with
              data := if buffer.length = 0 then data.set 0 0 else data
              capacity := capacity } }

/-- The end of an append. -/
def append_bytes (bytes : Text) : RenderM Unit :=
  modify fun rendering => { rendering with output := rendering.output.put bytes }

/-- `sg_buffer_append`. -/
def sg_buffer_append (bytes : Text) : RenderM Unit := do
  sg_buffer_reserve heap bytes.length
  append_bytes bytes

/-- `sg_buffer_append_cstr`; `text` is the string without its NUL. -/
def sg_buffer_append_cstr (text : Text) : RenderM Unit := sg_buffer_append heap text

abbrev SNPRINTF_MAX : Nat := 2 ^ 31 - 1

/-- `sg_buffer_append_format`; `vsnprintf` fails for a text whose length is no `int`. -/
def sg_buffer_append_format (text : Text) : RenderM Unit :=
  if text.length > SNPRINTF_MAX then throw ()
  else do
    sg_buffer_reserve heap text.length
    append_bytes text

/-! ### What holds of a buffer -/

/-- The representation of a buffer: the array is as long as the capacity says, and a NUL
    stands behind the text. -/
structure Buffer.Ok (buffer : Buffer) : Prop where
  data : buffer.data.length = buffer.capacity
  empty : buffer.capacity = 0 → buffer.length = 0
  nul : 0 < buffer.capacity → buffer.data[buffer.length]? = some 0
  fits : buffer.capacity ≤ SIZE_MAX

theorem Buffer.Ok.length_le {buffer : Buffer} (h : buffer.Ok) :
    buffer.length ≤ buffer.capacity := by
  by_cases hcapacity : 0 < buffer.capacity
  · have := h.nul hcapacity
    rw [List.getElem?_eq_some_iff] at this
    obtain ⟨hlt, -⟩ := this
    rw [h.data] at hlt
    omega
  · rw [h.empty (by omega)]
    omega

theorem buffer_init_ok : sg_buffer_init.Ok := ⟨rfl, fun _ => rfl, fun h => absurd h (by decide), Nat.zero_le _⟩

theorem length_contents {buffer : Buffer} (h : buffer.Ok) :
    buffer.contents.length = buffer.length := by
  rw [Buffer.contents, List.length_take, h.data, Nat.min_eq_left h.length_le]

/-- The loop ends with enough: 64 rounds suffice. -/
theorem doubled_ge (fuel : Nat) : ∀ {capacity required : Nat},
    required ≤ SIZE_MAX → SIZE_MAX < capacity * 2 ^ fuel → required ≤ doubled fuel capacity required := by
  induction fuel with
  | zero =>
    intro capacity required hrequired hcapacity
    show required ≤ capacity
    omega
  | succ fuel ih =>
    intro capacity required hrequired hcapacity
    unfold doubled
    split
    · split
      · exact le_refl _
      · apply ih hrequired
        rw [Nat.pow_succ] at hcapacity
        rw [Nat.mul_assoc, Nat.mul_comm 2]
        exact hcapacity
    · omega

/-- The capacity does not wrap around. -/
theorem doubled_le (fuel : Nat) : ∀ {capacity required : Nat},
    capacity ≤ SIZE_MAX → required ≤ SIZE_MAX → doubled fuel capacity required ≤ SIZE_MAX := by
  induction fuel with
  | zero =>
    intro capacity required hcapacity _
    exact hcapacity
  | succ fuel ih =>
    intro capacity required hcapacity hrequired
    unfold doubled
    split
    · split
      · exact hrequired
      · exact ih (by omega) hrequired
    · exact hcapacity

section spec
variable {heap : Heap} {s : Rendering}

theorem holds_malloc {size : Nat} {Q : Option Text → Rendering → Prop}
    {E : Unit → Rendering → Prop} : Holds (malloc heap size) s Q E ↔
      Q (if heap.alloc s.asked then some (heap.fresh s.asked size) else none)
        { s with asked := s.asked + 1 } := Iff.rfl

/-- **Making room** leaves the text alone. -/
theorem sg_buffer_reserve_spec (hok : s.output.Ok) (additional : Nat) :
    Holds (sg_buffer_reserve heap additional) s
      (fun _ s' => s'.output.Ok ∧ s'.contents = s.contents ∧ s'.output.length = s.output.length ∧
        s.output.length + additional < s'.output.capacity ∧ s'.reads = s.reads)
      (fun _ s' => s'.output = s.output ∧ s'.reads = s.reads ∧
        (heap.Succeeds → SIZE_MAX ≤ s.output.length + additional)) := by
  have hmax : SIZE_MAX = 2 ^ 64 - 1 := rfl
  unfold sg_buffer_reserve
  rw [holds_bind, holds_get]
  dsimp only
  split
  · rw [holds_throw]
    refine ⟨rfl, rfl, fun _ => ?_⟩
    omega
  · rename_i hroom
    split
    · exact ⟨hok, rfl, rfl, by omega, rfl⟩
    · rename_i hfull
      rw [holds_bind]
      show Holds (if (!heap.alloc s.asked) = true then _ else _) _ _ _
      split
      · rename_i hrefused
        rw [holds_throw]
        refine ⟨rfl, rfl, fun hs => ?_⟩
        rw [hs s.asked] at hrefused
        simp at hrefused
      · rw [holds_modify]
        have hlength := hok.length_le
        have hfits := hok.fits
        have hinitial : SG_BUFFER_INITIAL_CAPACITY = 64 := rfl
        have hbounded : doubled 64
            (if s.output.capacity = 0 then SG_BUFFER_INITIAL_CAPACITY else s.output.capacity)
            (s.output.length + additional + 1) ≤ SIZE_MAX := by
          apply doubled_le
          · split <;> omega
          · omega
        have henough : s.output.length + additional + 1 ≤ doubled 64
            (if s.output.capacity = 0 then SG_BUFFER_INITIAL_CAPACITY else s.output.capacity)
            (s.output.length + additional + 1) := by
          apply doubled_ge
          · omega
          · split <;> omega
        generalize hcapacity : doubled 64
            (if s.output.capacity = 0 then SG_BUFFER_INITIAL_CAPACITY else s.output.capacity)
            (s.output.length + additional + 1) = capacity at henough hbounded
        have hdata : (s.output.data ++ heap.fresh s.asked (capacity - s.output.capacity)).length =
            capacity := by
          rw [List.length_append, hok.data, Heap.fresh, List.length_map, List.length_range]
          omega
        have htake : ∀ data : Text, (s.output.data ++ data).take s.output.length =
            s.output.data.take s.output.length := by
          intro data
          rw [List.take_append_of_le_length (by rw [hok.data]; exact hlength)]
        refine ⟨⟨?_, ?_, ?_, hbounded⟩, ?_, rfl, by show _ < capacity; omega, rfl⟩
        · show List.length (if _ then _ else _) = capacity
          split
          · rw [List.length_set, hdata]
          · exact hdata
        · intro hzero
          have hzero : capacity = 0 := hzero
          omega
        · intro _
          show (if s.output.length = 0 then List.set _ 0 0 else _)[s.output.length]? = some 0
          split
          · rename_i hempty
            rw [hempty, List.getElem?_set_self]
            rw [hdata]
            omega
          · rename_i hnonempty
            have hpos : 0 < s.output.capacity := by omega
            have hnul := hok.nul hpos
            rw [List.getElem?_append_left, hnul]
            exact (List.getElem?_eq_some_iff.mp hnul).1
        · show List.take s.output.length (if s.output.length = 0 then List.set _ 0 0 else _) =
            s.output.data.take s.output.length
          split
          · rename_i hempty
            rw [hempty]
            rfl
          · exact htake _

/-- The bytes are stored behind the text. -/
theorem put_spec {buffer : Buffer} (hok : buffer.Ok) (bytes : Text)
    (hroom : buffer.length + bytes.length < buffer.capacity) :
    (buffer.put bytes).Ok ∧ (buffer.put bytes).contents = buffer.contents ++ bytes := by
  have hdata := hok.data
  have htaken : (buffer.data.take buffer.length ++ bytes).length =
      buffer.length + bytes.length := by
    rw [List.length_append, List.length_take]
    omega
  refine ⟨⟨?_, ?_, ?_, hok.fits⟩, ?_⟩
  · show (buffer.data.take buffer.length ++ bytes ++ 0 :: _).length = buffer.capacity
    rw [List.length_append, htaken, List.length_cons, List.length_drop]
    omega
  · intro hzero
    have hzero : buffer.capacity = 0 := hzero
    omega
  · intro _
    show (buffer.data.take buffer.length ++ bytes ++ 0 :: _)[buffer.length + bytes.length]? = some 0
    rw [← htaken, List.getElem?_append_right (le_refl _), Nat.sub_self]
    rfl
  · show (buffer.data.take buffer.length ++ bytes ++ 0 :: _).take (buffer.length + bytes.length) = _
    rw [← htaken, List.take_append_of_le_length (le_refl _), List.take_length]
    rfl

/-- **An append** adds its bytes to the text, or leaves the buffer alone. -/
theorem sg_buffer_append_spec (hok : s.output.Ok) (bytes : Text) :
    Holds (sg_buffer_append heap bytes) s
      (fun _ s' => s'.output.Ok ∧ s'.contents = s.contents ++ bytes ∧ s'.reads = s.reads)
      (fun _ s' => s'.output = s.output ∧ s'.reads = s.reads ∧
        (heap.Succeeds → SIZE_MAX ≤ s.output.length + bytes.length)) := by
  unfold sg_buffer_append append_bytes
  rw [holds_bind]
  apply (sg_buffer_reserve_spec hok bytes.length).mono
  · intro _ s₁ hpost
    rcases hpost with ⟨hok₁, hcontents, hlength, hroom, hreads⟩
    rw [holds_modify]
    obtain ⟨hput, hputs⟩ := put_spec hok₁ bytes (by rw [hlength]; exact hroom)
    exact ⟨hput, hputs.trans (congrArg (· ++ bytes) hcontents), hreads⟩
  · intro _ _ h
    exact h

theorem sg_buffer_append_format_spec (hok : s.output.Ok) (text : Text) :
    Holds (sg_buffer_append_format heap text) s
      (fun _ s' => s'.output.Ok ∧ s'.contents = s.contents ++ text ∧ s'.reads = s.reads)
      (fun _ s' => s'.output = s.output ∧ s'.reads = s.reads ∧
        (heap.Succeeds → text.length ≤ SNPRINTF_MAX → SIZE_MAX ≤ s.output.length + text.length)) := by
  unfold sg_buffer_append_format
  split
  · rename_i hlong
    rw [holds_throw]
    exact ⟨rfl, rfl, fun _ hshort => absurd hlong (by omega)⟩
  · apply (sg_buffer_append_spec hok text).mono
    · intro _ _ h
      exact h
    · intro _ _ hpost
      rcases hpost with ⟨houtput, hreads, hfull⟩
      exact ⟨houtput, hreads, fun hs _ => hfull hs⟩

end spec

/-! ### Programs that append -/

/-- The program adds a text of at most `n` bytes that, with its result, satisfies `T`; it
    fails only when memory is refused or the buffer would be too large. -/
def Renders {α : Type} (heap : Heap) (m : RenderM α) (n : Nat) (T : α → Text → Prop) : Prop :=
  ∀ s : Rendering, s.output.Ok → Holds m s
    (fun a s' => s'.output.Ok ∧
      ∃ text, s'.contents = s.contents ++ text ∧ text.length ≤ n ∧ T a text)
    (fun _ _ => heap.Succeeds → SIZE_MAX ≤ s.contents.length + n)

section renders
variable {heap : Heap} {α β : Type} {m : RenderM α} {f : α → RenderM β} {n n' : Nat}
  {T T' : α → Text → Prop} {U : β → Text → Prop}

theorem Renders.mono (h : Renders heap m n T) (hn : n ≤ n') (hT : ∀ a text, T a text → T' a text) :
    Renders heap m n' T' := by
  intro s hok
  apply (h s hok).mono
  · intro a s' hpost
    rcases hpost with ⟨hok', text, hcontents, hlength, ht⟩
    exact ⟨hok', text, hcontents, hlength.trans hn, hT a text ht⟩
  · intro _ _ hfull hs
    have := hfull hs
    omega

/-- A program that meets two specifications meets both at once. -/
theorem Renders.and (h : Renders heap m n T) (h' : Renders heap m n' T') :
    Renders heap m n fun a text => T a text ∧ T' a text := by
  intro s hok
  apply ((h s hok).and (h' s hok)).mono
  · rintro a s' ⟨⟨hok', text, hcontents, hlength, ht⟩, _, text', hcontents', _, ht'⟩
    have hsame : text = text' := List.append_cancel_left (hcontents.symm.trans hcontents')
    exact ⟨hok', text, hcontents, hlength, ht, hsame ▸ ht'⟩
  · exact fun _ _ hfull => hfull.1

/-- With enough memory there is a text. -/
theorem Renders.exists_text (h : Renders heap m n T) (hs : heap.Succeeds) (hroom : n < SIZE_MAX) :
    ∃ a text, T a text := by
  have hrun := h Rendering.init buffer_init_ok
  unfold Holds at hrun
  rcases hm : m.exec Rendering.init with ⟨_ | a, s'⟩ <;> rw [hm] at hrun
  · have hfull := hrun hs
    have hempty : Rendering.init.contents.length = 0 := rfl
    omega
  · obtain ⟨_, text, _, _, ht⟩ := hrun
    exact ⟨a, text, ht⟩

theorem renders_pure {a : α} (h : T a []) : Renders heap (pure a) n T := by
  intro s hok
  exact ⟨hok, [], (List.append_nil _).symm, Nat.zero_le _, h⟩

/-- A failure that only a refusal of memory leads to. -/
theorem renders_throw (h : ¬heap.Succeeds) : Renders heap (throw () : RenderM α) n T := by
  intro s _
  rw [holds_throw]
  exact fun hs => absurd hs h

/-- One program after the other. -/
theorem renders_bind (hm : Renders heap m n T)
    (hf : ∀ a text, T a text → Renders heap (f a) n' fun b text' => U b (text ++ text')) :
    Renders heap (m >>= f) (n + n') U := by
  intro s hok
  rw [holds_bind]
  apply (hm s hok).mono
  · intro a s₁ hpost
    rcases hpost with ⟨hok₁, text, hcontents, hlength, ht⟩
    apply (hf a text ht s₁ hok₁).mono
    · intro b s₂ hpost
      rcases hpost with ⟨hok₂, text', hcontents', hlength', hu⟩
      refine ⟨hok₂, text ++ text', ?_, ?_, hu⟩
      · rw [hcontents', hcontents, List.append_assoc]
      · rw [List.length_append]
        omega
    · intro _ _ hfull hs
      have := hfull hs
      rw [hcontents, List.length_append] at this
      omega
  · intro _ _ hfull hs
    have := hfull hs
    omega

theorem renders_ite {c : Prop} [Decidable c] {m' : RenderM α} (hm : c → Renders heap m n T)
    (hm' : ¬c → Renders heap m' n T) : Renders heap (if c then m else m') n T := by
  split
  · rename_i h
    exact hm h
  · rename_i h
    exact hm' h

theorem renders_append (bytes : Text) :
    Renders heap (sg_buffer_append heap bytes) bytes.length fun _ text => text = bytes := by
  intro s hok
  have hlength := length_contents hok
  apply (sg_buffer_append_spec hok bytes).mono
  · intro _ s' hpost
    rcases hpost with ⟨hok', hcontents, _⟩
    exact ⟨hok', bytes, hcontents, le_refl _, rfl⟩
  · intro _ _ hpost hs
    rcases hpost with ⟨_, _, hfull⟩
    have := hfull hs
    rw [Rendering.contents, hlength]
    exact this

theorem renders_format {bytes : Text} (hshort : bytes.length ≤ SNPRINTF_MAX) :
    Renders heap (sg_buffer_append_format heap bytes) bytes.length fun _ text => text = bytes := by
  intro s hok
  have hlength := length_contents hok
  apply (sg_buffer_append_format_spec hok bytes).mono
  · intro _ s' hpost
    rcases hpost with ⟨hok', hcontents, _⟩
    exact ⟨hok', bytes, hcontents, le_refl _, rfl⟩
  · intro _ _ hpost hs
    rcases hpost with ⟨_, _, hfull⟩
    have := hfull hs hshort
    rw [Rendering.contents, hlength]
    exact this

theorem renders_malloc (size : Nat) : Renders heap (malloc heap size) 0 fun data text =>
    text = [] ∧ (heap.Succeeds → data.isSome) := by
  intro s hok
  have hgranted : heap.Succeeds →
      (if heap.alloc s.asked then some (heap.fresh s.asked size) else none).isSome := by
    intro hs
    rw [hs s.asked]
    rfl
  exact ⟨hok, [], (List.append_nil _).symm, le_refl _, rfl, hgranted⟩

theorem renders_uninitialized (size : Nat) :
    Renders heap (uninitialized heap size) 0 fun _ text => text = [] := by
  intro s hok
  exact ⟨hok, [], (List.append_nil _).symm, le_refl _, rfl⟩

/-- The program adds exactly this text. -/
def Adds (heap : Heap) (m : RenderM α) (text : Text) : Prop :=
  Renders heap m text.length fun _ text' => text' = text

theorem Adds.renders {text : Text} (h : Adds heap m text) (hn : text.length ≤ n)
    (hT : ∀ a, T a text) : Renders heap m n T :=
  Renders.mono h hn fun a _ htext => htext ▸ hT a

theorem Adds.congr {text text' : Text} (h : Adds heap m text) (heq : text = text') :
    Adds heap m text' := heq ▸ h

theorem adds_pure (a : α) : Adds heap (pure a) [] := renders_pure rfl

theorem adds_append (text : Text) : Adds heap (sg_buffer_append_cstr heap text) text :=
  renders_append text

theorem adds_format {text : Text} (hshort : text.length ≤ SNPRINTF_MAX) :
    Adds heap (sg_buffer_append_format heap text) text := renders_format hshort

theorem adds_bind {text text' : Text} (hm : Adds heap m text)
    (hf : ∀ a, Adds heap (f a) text') : Adds heap (m >>= f) (text ++ text') := by
  unfold Adds
  rw [List.length_append]
  apply renders_bind hm
  rintro a _ rfl
  apply Renders.mono (hf a) (le_refl _)
  rintro _ _ rfl
  rfl

/-- A program that adds nothing is followed by what comes next. -/
theorem renders_then (hm : Renders heap m 0 fun a text => text = [] ∧ T a text)
    (hf : ∀ a, T a [] → Renders heap (f a) n U) : Renders heap (m >>= f) n U := by
  apply Renders.mono (renders_bind hm _) (Nat.zero_add n).le fun _ _ h => h
  rintro a text ⟨rfl, ha⟩
  exact hf a ha

end renders

end Sysgaze
