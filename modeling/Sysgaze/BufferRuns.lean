import Sysgaze.Decoder

/-! # The buffer and its memory (`buffer.c`)

    `Buffer.lean` has the buffer as the decoder uses it.  Here are the functions
    of `buffer.c` with their pointers and with `size_t` arithmetic, which wraps
    around at `2 ^ 64`.  They compute what the programs of `Buffer.lean` compute
    (`reserve_refines`, `append_refines`, `append_format_refines`), so that no
    sum wraps and no byte is written outside the array, and a run of any calls
    keeps the representation (`buffer_runs`).
-/

open Fallible

namespace Sysgaze

/-- A value of type `size_t`. -/
def size_t (n : Nat) : Nat := n % 2 ^ 64

/-- `struct sg_buffer`: `data` is null, or the bytes of the array. -/
structure StructBuffer where
  data : Option Text
  length : Nat
  capacity : Nat
  deriving DecidableEq, Repr

/-- What `realloc` answers: null, or memory whose new bytes hold anything. -/
abbrev ReallocAnswer := Option (Nat → UInt8)

/-- The block that `realloc` has moved `data` to. -/
def reallocated (data : Option Text) (size : Nat) (fresh : Nat → UInt8) : Text :=
  (data.getD []).take size ++ (List.range (size - (data.getD []).length)).map fresh

/-- `memcpy` to the place `offset` of a block. -/
def memcpy (block : Text) (offset : Nat) (bytes : Text) : Text :=
  block.take offset ++ bytes ++ block.drop (offset + bytes.length)

/-- What `vsnprintf` returns for a format that expands to this text, or that it cannot
    expand; it fails when the length is no `int`. -/
def vsnprintf_result : Option Text → Int
  | none => -1
  | some text => if text.length > SNPRINTF_MAX then -1 else text.length

/-- What `vsnprintf` writes to an array of `size` bytes. -/
def vsnprintf_bytes (expansion : Option Text) (size : Nat) : Text :=
  if size = 0 then [] else (expansion.getD []).take (size - 1) ++ [0]

/-- The loop of `sg_buffer_reserve`.  It ends because a capacity that may be doubled is
    not zero, and its double does not wrap around. -/
def double_capacity (required capacity : Nat) (hpos : 0 < capacity) : Nat :=
  if capacity < required then
    if hbig : capacity > SIZE_MAX / 2 then required
    else
      have hdouble : size_t (capacity * 2) = capacity * 2 := by
        have hmax : SIZE_MAX = 2 ^ 64 - 1 := rfl
        exact Nat.mod_eq_of_lt (by omega)
      double_capacity required (size_t (capacity * 2)) (by omega)
  else capacity
termination_by required - capacity
decreasing_by omega

/-- The capacity that the loop begins with. -/
def first_capacity (capacity : Nat) : Nat :=
  if capacity = 0 then SG_BUFFER_INITIAL_CAPACITY else capacity

theorem first_capacity_pos (capacity : Nat) : 0 < first_capacity capacity := by
  unfold first_capacity
  split
  · decide
  · omega

namespace StructBuffer

/-- `sg_buffer_init`. -/
def sg_buffer_init : StructBuffer := ⟨none, 0, 0⟩

/-- `sg_buffer_reset`. -/
def sg_buffer_reset (buffer : StructBuffer) : StructBuffer :=
  { buffer with length := 0, data := buffer.data.map fun bytes => bytes.set 0 0 }

/-- `sg_buffer_destroy`. -/
def sg_buffer_destroy (_buffer : StructBuffer) : StructBuffer := sg_buffer_init

/-- `sg_buffer_reserve`. -/
def sg_buffer_reserve (buffer : StructBuffer) (additional : Nat) (answer : ReallocAnswer) :
    Bool × StructBuffer :=
  if buffer.length = SIZE_MAX ∨ additional > SIZE_MAX - buffer.length - 1 then (false, buffer)
  else
    let required := size_t (buffer.length + additional + 1)
    if required ≤ buffer.capacity then (true, buffer)
    else
      let capacity := double_capacity required (first_capacity buffer.capacity)
        (first_capacity_pos buffer.capacity)
      match answer with
      | none => (false, buffer)
      | some fresh =>
        let resized := reallocated buffer.data capacity fresh
        (true, { buffer with
          data := some (if buffer.length = 0 then resized.set 0 0 else resized)
          capacity := capacity })

/-- `sg_buffer_append`; `data` is null or points to `length` bytes. -/
def sg_buffer_append (buffer : StructBuffer) (data : Option Text) (length : Nat)
    (answer : ReallocAnswer) : Bool × StructBuffer :=
  if length ≠ 0 ∧ data = none then (false, buffer)
  else
    match buffer.sg_buffer_reserve length answer with
    | (false, buffer) => (false, buffer)
    | (true, buffer) =>
      let copied :=
        if length ≠ 0 then
          buffer.data.map fun block => memcpy block buffer.length ((data.getD []).take length)
        else buffer.data
      let ended := size_t (buffer.length + length)
      (true, { buffer with data := copied.map fun block => block.set ended 0, length := ended })

/-- `sg_buffer_append_cstr`; `text` is null or what it points to up to some NUL. -/
def sg_buffer_append_cstr (buffer : StructBuffer) (text : Option Text) (answer : ReallocAnswer) :
    Bool × StructBuffer :=
  match text with
  | none => (false, buffer)
  | some text => buffer.sg_buffer_append (some text) (c_string text).length answer

/-- `sg_buffer_append_format`; the format is null, or `vsnprintf` expands it, the same way
    each time. -/
def sg_buffer_append_format (buffer : StructBuffer) (format : Option (Option Text))
    (answer : ReallocAnswer) : Bool × StructBuffer :=
  match format with
  | none => (false, buffer)
  | some expansion =>
    if vsnprintf_result expansion < 0 then (false, buffer)
    else
      let amount := (vsnprintf_result expansion).toNat
      match buffer.sg_buffer_reserve amount answer with
      | (false, buffer) => (false, buffer)
      | (true, buffer) =>
        let bytes := vsnprintf_bytes expansion (buffer.capacity - buffer.length)
        let buffer : StructBuffer :=
          { buffer with data := buffer.data.map fun block => memcpy block buffer.length bytes }
        let needed := vsnprintf_result expansion
        if needed < 0 ∨ needed.toNat ≠ amount then (false, buffer)
        else (true, { buffer with length := size_t (buffer.length + amount) })

/-- The buffer as `Buffer.lean` has it. -/
def toBuffer (buffer : StructBuffer) : Buffer :=
  ⟨buffer.data.getD [], buffer.length, buffer.capacity⟩

/-- The text in the buffer: `data[0..length)`. -/
def contents (buffer : StructBuffer) : Text := (buffer.data.getD []).take buffer.length

/-- The representation: there is an array when there is a capacity, and it is as long; behind
    the text there is a NUL. -/
structure Ok (buffer : StructBuffer) : Prop where
  null : buffer.data = none ↔ buffer.capacity = 0
  rep : buffer.toBuffer.Ok

end StructBuffer

/-- The answer to the next request. -/
def Heap.answer (heap : Heap) (n : Nat) : ReallocAnswer :=
  if heap.alloc n then some (heap.stale n) else none

/-- The program fills the buffer as the function of `buffer.c` does, and fails when it
    returns false. -/
def Refines (m : RenderM Unit) (s : Rendering) (r : Bool × StructBuffer) : Prop :=
  Holds m s (fun _ s' => r.1 = true ∧ s'.output = r.2.toBuffer)
    (fun _ s' => r.1 = false ∧ s'.output = r.2.toBuffer)

section refines
variable {heap : Heap} {s : Rendering} {buffer : StructBuffer}

/-- The loop computes what it computes with numbers that do not wrap around. -/
theorem double_capacity_eq (fuel : Nat) : ∀ {capacity required : Nat} (hpos : 0 < capacity),
    required ≤ SIZE_MAX → SIZE_MAX < capacity * 2 ^ fuel →
      double_capacity required capacity hpos = doubled fuel capacity required := by
  induction fuel with
  | zero =>
    intro capacity required hpos hrequired hcapacity
    rw [double_capacity, if_neg (by omega)]
    rfl
  | succ fuel ih =>
    intro capacity required hpos hrequired hcapacity
    rw [double_capacity, doubled]
    split
    · by_cases hbig : capacity > SIZE_MAX / 2
      · rw [dif_pos hbig, if_pos hbig]
      · rw [dif_neg hbig, if_neg hbig]
        have hdouble : size_t (capacity * 2) = capacity * 2 := by
          have hmax : SIZE_MAX = 2 ^ 64 - 1 := rfl
          exact Nat.mod_eq_of_lt (by omega)
        simp only [hdouble]
        apply ih _ hrequired
        rw [Nat.pow_succ] at hcapacity
        rw [Nat.mul_assoc, Nat.mul_comm 2]
        exact hcapacity
    · rfl

theorem first_capacity_enough {capacity : Nat} :
    SIZE_MAX < first_capacity capacity * 2 ^ 64 := by
  have hpos := first_capacity_pos capacity
  have hmax : SIZE_MAX = 2 ^ 64 - 1 := rfl
  omega

/-- No sum of `sg_buffer_reserve` wraps around. -/
theorem required_exact {length additional : Nat} (hroom : ¬(length = SIZE_MAX ∨
      additional > SIZE_MAX - length - 1)) (hlength : length ≤ SIZE_MAX) :
    size_t (length + additional + 1) = length + additional + 1 := by
  have hmax : SIZE_MAX = 2 ^ 64 - 1 := rfl
  exact Nat.mod_eq_of_lt (by omega)

theorem StructBuffer.Ok.length_le (hok : buffer.Ok) : buffer.length ≤ SIZE_MAX :=
  hok.rep.length_le.trans hok.rep.fits

/-- **Making room** is what `Buffer.lean` says it is. -/
theorem reserve_refines (hok : buffer.Ok) (hs : s.output = buffer.toBuffer) (additional : Nat) :
    Refines (sg_buffer_reserve heap additional) s
      (buffer.sg_buffer_reserve additional (heap.answer s.asked)) := by
  unfold Refines sg_buffer_reserve StructBuffer.sg_buffer_reserve
  rw [holds_bind, holds_get]
  dsimp only
  have hlength : s.output.length = buffer.length := congrArg Buffer.length hs
  have hcapacity : s.output.capacity = buffer.capacity := congrArg Buffer.capacity hs
  have hdata : s.output.data = buffer.data.getD [] := congrArg Buffer.data hs
  rw [hlength, hcapacity, hdata]
  by_cases hfull : buffer.length = SIZE_MAX ∨ additional > SIZE_MAX - buffer.length - 1
  · simp only [if_pos hfull, holds_throw]
    exact ⟨trivial, hs⟩
  have hle := hok.length_le
  simp only [if_neg hfull, required_exact hfull hle]
  by_cases hroom : buffer.length + additional + 1 ≤ buffer.capacity
  · simp only [if_pos hroom, holds_pure]
    exact ⟨trivial, hs⟩
  simp only [if_neg hroom]
  rw [holds_bind]
  show Holds (if (!heap.alloc s.asked) = true then _ else _) _ _ _
  unfold Heap.answer
  by_cases hgranted : heap.alloc s.asked = true
  · simp only [hgranted, Bool.not_true, Bool.false_eq_true, if_false, if_true, holds_modify]
    have hcapacities : double_capacity (buffer.length + additional + 1)
        (first_capacity buffer.capacity) (first_capacity_pos buffer.capacity) =
        doubled 64 (if buffer.capacity = 0 then SG_BUFFER_INITIAL_CAPACITY else buffer.capacity)
          (buffer.length + additional + 1) :=
      double_capacity_eq 64 _ (by omega) first_capacity_enough
    have henough : buffer.length + additional + 1 ≤
        doubled 64 (if buffer.capacity = 0 then SG_BUFFER_INITIAL_CAPACITY else buffer.capacity)
          (buffer.length + additional + 1) := doubled_ge 64 (by omega) first_capacity_enough
    rw [hcapacities]
    generalize doubled 64 (if buffer.capacity = 0 then SG_BUFFER_INITIAL_CAPACITY
      else buffer.capacity) (buffer.length + additional + 1) = capacity at henough
    have hsize : (buffer.data.getD []).length = buffer.capacity := hok.rep.data
    have hmoved : reallocated buffer.data capacity (heap.stale s.asked) =
        buffer.data.getD [] ++ heap.fresh s.asked (capacity - buffer.capacity) := by
      unfold reallocated Heap.fresh
      rw [hsize, List.take_of_length_le (by omega)]
    rw [hmoved]
    exact ⟨trivial, rfl⟩
  · simp only [hgranted, Bool.not_false, if_true, holds_throw, Bool.false_eq_true, if_false]
    exact ⟨trivial, hs⟩

theorem StructBuffer.reserve_false {additional : Nat} {answer : ReallocAnswer}
    (h : (buffer.sg_buffer_reserve additional answer).1 = false) :
    (buffer.sg_buffer_reserve additional answer).2 = buffer := by
  revert h
  unfold StructBuffer.sg_buffer_reserve
  split
  · exact fun _ => rfl
  · dsimp only
    split
    · exact fun _ => rfl
    · cases answer with
      | none => exact fun _ => rfl
      | some fresh => exact fun h => absurd h (by simp)

/-- What a specification says of the program holds of the function. -/
theorem Refines.facts {m : RenderM Unit} {r : Bool × StructBuffer} {Q E : Unit → Rendering → Prop}
    (h : Refines m s r) (hspec : Holds m s Q E) :
    (r.1 = true → ∃ s', Q () s' ∧ s'.output = r.2.toBuffer) ∧
      (r.1 = false → ∃ s', E () s' ∧ s'.output = r.2.toBuffer) := by
  unfold Refines Holds at h
  unfold Holds at hspec
  rcases hexec : m.exec s with ⟨_ | _, s'⟩
  · rw [hexec] at h hspec
    exact ⟨fun htrue => absurd (htrue.symm.trans h.1) (by simp), fun _ => ⟨s', hspec, h.2⟩⟩
  · rw [hexec] at h hspec
    exact ⟨fun _ => ⟨s', hspec, h.2⟩, fun hfalse => absurd (hfalse.symm.trans h.1) (by simp)⟩

/-- An allocator that gives one answer. -/
def Heap.answering (answer : ReallocAnswer) : Heap :=
  ⟨fun _ => answer.isSome, fun _ => answer.getD fun _ => 0⟩

theorem Heap.answer_answering (answer : ReallocAnswer) (n : Nat) :
    (Heap.answering answer).answer n = answer := by
  cases answer with
  | none => rfl
  | some fresh => rfl

theorem StructBuffer.Ok.data_ne_none (hok : buffer.Ok) (hpos : 0 < buffer.capacity) :
    buffer.data ≠ none := by
  intro hnone
  have := hok.null.mp hnone
  omega

/-- After room has been made there is an array. -/
theorem StructBuffer.Ok.reserve_data (hok : buffer.Ok) {additional : Nat} {answer : ReallocAnswer}
    (h : (buffer.sg_buffer_reserve additional answer).1 = true) :
    (buffer.sg_buffer_reserve additional answer).2.data ≠ none := by
  revert h
  unfold StructBuffer.sg_buffer_reserve
  split
  · exact fun h => absurd h (by simp)
  · rename_i hfull
    rw [required_exact hfull hok.length_le]
    dsimp only
    split
    · exact fun _ => hok.data_ne_none (by omega)
    · cases answer with
      | none => exact fun h => absurd h (by simp)
      | some fresh => exact fun _ => by simp

/-- **What making room does**, for any answer of `realloc`. -/
theorem reserve_makes_room (hok : buffer.Ok) {additional : Nat} {answer : ReallocAnswer}
    (h : (buffer.sg_buffer_reserve additional answer).1 = true) :
    let made := (buffer.sg_buffer_reserve additional answer).2
    made.Ok ∧ made.contents = buffer.contents ∧ made.length = buffer.length ∧
      buffer.length + additional < made.capacity := by
  intro made
  have hs : (⟨buffer.toBuffer, 0, []⟩ : Rendering).output = buffer.toBuffer := rfl
  have hrefines : Refines (sg_buffer_reserve (Heap.answering answer) additional) _ _ :=
    reserve_refines hok hs additional
  rw [Heap.answer_answering] at hrefines
  obtain ⟨s', ⟨hrep, hcontents, hlength, hroom, -⟩, houtput⟩ :=
    (hrefines.facts (sg_buffer_reserve_spec hok.rep additional)).1 h
  have hcontents' : s'.output.contents = buffer.contents := hcontents
  rw [houtput] at hrep hcontents' hlength hroom
  have hpos : made.capacity ≠ 0 := Nat.ne_zero_of_lt hroom
  exact ⟨⟨⟨fun hnone => absurd hnone (hok.reserve_data h), fun hzero => absurd hzero hpos⟩, hrep⟩,
    hcontents', hlength, hroom⟩

/-- The room that has been made is in a block, and the new length is not wrapped. -/
theorem reserve_in_block (hok : buffer.Ok) {additional : Nat} {answer : ReallocAnswer}
    {made : StructBuffer} (h : buffer.sg_buffer_reserve additional answer = (true, made)) :
    made.Ok ∧ made.length = buffer.length ∧ buffer.length + additional < made.capacity ∧
      size_t (made.length + additional) = made.length + additional ∧
      ∃ block, made.data = some block := by
  have hmade := reserve_makes_room hok (congrArg Prod.fst h)
  rw [h] at hmade
  obtain ⟨hok', _, hlength, hroom⟩ := hmade
  have hlength : made.length = buffer.length := hlength
  have hroom : buffer.length + additional < made.capacity := hroom
  have hfits : made.capacity ≤ SIZE_MAX := hok'.rep.fits
  have hmax : SIZE_MAX = 2 ^ 64 - 1 := rfl
  refine ⟨hok', hlength, hroom, Nat.mod_eq_of_lt (by omega), ?_⟩
  exact Option.ne_none_iff_exists'.mp (hok'.data_ne_none (by omega))

/-- A block into which something is copied, and a NUL behind it. -/
theorem memcpy_set {block bytes : Text} {offset : Nat}
    (hroom : offset + bytes.length < block.length) :
    (memcpy block offset bytes).set (offset + bytes.length) 0 =
      block.take offset ++ bytes ++ 0 :: block.drop (offset + bytes.length + 1) := by
  have htaken : (block.take offset ++ bytes).length = offset + bytes.length := by
    rw [List.length_append, List.length_take, Nat.min_eq_left (by omega)]
  unfold memcpy
  rw [← htaken, List.set_append_right _ _ (le_refl _), Nat.sub_self, htaken,
    List.drop_eq_getElem_cons hroom]
  rfl

/-- **An append** is what `Buffer.lean` says it is. -/
theorem append_refines (hok : buffer.Ok) (hs : s.output = buffer.toBuffer) (bytes : Text) :
    Refines (sg_buffer_append heap bytes) s
      (buffer.sg_buffer_append (some bytes) bytes.length (heap.answer s.asked)) := by
  have hreserve : Refines (sg_buffer_reserve heap bytes.length) s _ :=
    reserve_refines hok hs bytes.length
  unfold sg_buffer_append StructBuffer.sg_buffer_append append_bytes
  rw [if_neg (by simp)]
  unfold Refines
  rw [holds_bind]
  rcases hr : buffer.sg_buffer_reserve bytes.length (heap.answer s.asked) with ⟨ok, made⟩
  rw [hr] at hreserve
  apply hreserve.mono
  · intro _ s' hpost
    rcases hpost with ⟨htrue, houtput⟩
    have htrue : ok = true := htrue
    subst htrue
    obtain ⟨hok', hlength, hroom, hend, block, hblock⟩ := reserve_in_block hok hr
    rw [holds_modify]
    refine ⟨rfl, ?_⟩
    have hsize : block.length = made.capacity := by
      have := hok'.rep.data
      rwa [StructBuffer.toBuffer, hblock] at this
    have hcopied : (if bytes.length ≠ 0 then made.data.map fun block => memcpy block made.length
        ((some bytes).getD [] |>.take bytes.length) else made.data) =
        some (memcpy block made.length bytes) := by
      rw [hblock, Option.getD_some, List.take_length]
      split
      · rfl
      · rename_i hempty
        have hnil : bytes = [] := List.eq_nil_of_length_eq_zero (by omega)
        rw [hnil, memcpy, List.append_nil, List.length_nil, Nat.add_zero, List.take_append_drop]
    dsimp only
    rw [hend, hcopied, Option.map_some, memcpy_set (by omega), houtput]
    unfold Buffer.put StructBuffer.toBuffer
    rw [hblock]
    rfl
  · intro _ s' hpost
    rcases hpost with ⟨hfalse, houtput⟩
    have hfalse : ok = false := hfalse
    subst hfalse
    exact ⟨rfl, houtput⟩

theorem vsnprintf_result_short {text : Text} (hshort : ¬text.length > SNPRINTF_MAX) :
    vsnprintf_result (some text) = text.length := if_neg hshort

/-- The second pass has room for the whole text and its NUL. -/
theorem vsnprintf_bytes_whole {text : Text} {size : Nat} (hroom : text.length < size) :
    vsnprintf_bytes (some text) size = text ++ [0] := by
  unfold vsnprintf_bytes
  rw [if_neg (by omega), Option.getD_some, List.take_of_length_le (by omega)]

/-- **A formatted append** is what `Buffer.lean` says it is. -/
theorem append_format_refines (hok : buffer.Ok) (hs : s.output = buffer.toBuffer) (text : Text) :
    Refines (sg_buffer_append_format heap text) s
      (buffer.sg_buffer_append_format (some (some text)) (heap.answer s.asked)) := by
  unfold sg_buffer_append_format StructBuffer.sg_buffer_append_format
  by_cases hlong : text.length > SNPRINTF_MAX
  · have hfails : vsnprintf_result (some text) < 0 := by
      rw [vsnprintf_result, if_pos hlong]
      decide
    dsimp only
    rw [if_pos hlong, if_pos hfails]
    exact (holds_throw _).mpr ⟨rfl, hs⟩
  have hreserve : Refines (sg_buffer_reserve heap text.length) s _ :=
    reserve_refines hok hs text.length
  have hneeded := vsnprintf_result_short hlong
  dsimp only
  rw [if_neg hlong, hneeded, if_neg (by omega), Int.toNat_natCast]
  unfold Refines append_bytes
  rw [holds_bind]
  rcases hr : buffer.sg_buffer_reserve text.length (heap.answer s.asked) with ⟨ok, made⟩
  rw [hr] at hreserve
  apply hreserve.mono
  · intro _ s' hpost
    rcases hpost with ⟨htrue, houtput⟩
    have htrue : ok = true := htrue
    subst htrue
    obtain ⟨-, hlength, hroom, hend, block, hblock⟩ := reserve_in_block hok hr
    rw [holds_modify]
    dsimp only
    rw [if_neg (by omega), vsnprintf_bytes_whole (by omega), hend, hblock, houtput]
    refine ⟨rfl, ?_⟩
    have hwritten : memcpy block made.length (text ++ [0]) =
        block.take made.length ++ text ++ 0 :: block.drop (made.length + text.length + 1) := by
      unfold memcpy
      rw [List.length_append, List.length_singleton, ← Nat.add_assoc]
      simp
    unfold Buffer.put StructBuffer.toBuffer
    rw [hblock, Option.map_some, hwritten]
    rfl
  · intro _ s' hpost
    rcases hpost with ⟨hfalse, houtput⟩
    have hfalse : ok = false := hfalse
    subst hfalse
    exact ⟨rfl, houtput⟩

end refines

/-! ### Calls -/

/-- A call of a function of `buffer.c`. -/
inductive BufferCall where
  | init
  | reset
  | destroy
  | reserve (additional : Nat)
  | append (bytes : Text)
  /-- `sg_buffer_append` with a null pointer. -/
  | append_null (length : Nat)
  | append_cstr (text : Option Text)
  | append_format (format : Option (Option Text))

namespace BufferCall

/-- What the call returns, and the buffer after it; `answer` is that of `realloc`. -/
def run (answer : ReallocAnswer) (buffer : StructBuffer) : BufferCall → Bool × StructBuffer
  | init => (true, .sg_buffer_init)
  | reset => (true, buffer.sg_buffer_reset)
  | destroy => (true, buffer.sg_buffer_destroy)
  | reserve additional => buffer.sg_buffer_reserve additional answer
  | append bytes => buffer.sg_buffer_append (some bytes) bytes.length answer
  | append_null length => buffer.sg_buffer_append none length answer
  | append_cstr text => buffer.sg_buffer_append_cstr text answer
  | append_format format => buffer.sg_buffer_append_format format answer

/-- Does the call empty the buffer? -/
def empties : BufferCall → Bool
  | init | reset | destroy => true
  | _ => false

/-- The piece that the call appends when it succeeds. -/
def piece : BufferCall → Text
  | append bytes => bytes
  | append_cstr (some text) => c_string text
  | append_format (some (some text)) => text
  | _ => []

end BufferCall

/-- A buffer, with the pieces that have been appended since it was last emptied. -/
structure BufferRun where
  buffer : StructBuffer
  pieces : List Text

/-- A call in a run. -/
def BufferRun.step (run : BufferRun) (call : BufferCall × ReallocAnswer) : BufferRun :=
  let r := call.1.run call.2 run.buffer
  { buffer := r.2
    pieces :=
      if call.1.empties then [] else if r.1 then run.pieces ++ [call.1.piece] else run.pieces }


section calls
variable {buffer : StructBuffer} {answer : ReallocAnswer} {r : Bool × StructBuffer} {bytes : Text}

/-- There is an array. -/
def StructBuffer.Allocated (buffer : StructBuffer) : Prop :=
  buffer.data ≠ none ∧ buffer.capacity ≠ 0

/-- What has been returned with the buffer: the bytes have been appended, or nothing has
    changed. -/
structure Appended (buffer : StructBuffer) (bytes : Text) (r : Bool × StructBuffer) : Prop where
  done : r.1 = true → r.2.Ok ∧ r.2.contents = buffer.contents ++ bytes
  undone : r.1 = false → r.2 = buffer

/-- A function that refines a program that appends appends. -/
theorem Refines.appended {m : RenderM Unit} {E : Unit → Rendering → Prop}
    (h : Refines m ⟨buffer.toBuffer, 0, []⟩ r)
    (hspec : Holds m ⟨buffer.toBuffer, 0, []⟩ (fun _ s' => s'.output.Ok ∧
      s'.contents = buffer.contents ++ bytes ∧ s'.reads = []) E)
    (hallocated : r.1 = true → r.2.Allocated) (hundone : r.1 = false → r.2 = buffer) :
    Appended buffer bytes r := by
  refine ⟨fun htrue => ?_, hundone⟩
  obtain ⟨s', ⟨hrep, hcontents, -⟩, houtput⟩ := (h.facts hspec).1 htrue
  have hcontents' : s'.output.contents = buffer.contents ++ bytes := hcontents
  rw [houtput] at hrep hcontents'
  obtain ⟨hdata, hcapacity⟩ := hallocated htrue
  exact ⟨⟨⟨fun hnone => absurd hnone hdata, fun hzero => absurd hzero hcapacity⟩, hrep⟩, hcontents'⟩

/-- An array is there after room has been made. -/
theorem reserve_allocated (hok : buffer.Ok) {additional : Nat}
    (h : (buffer.sg_buffer_reserve additional answer).1 = true) :
    (buffer.sg_buffer_reserve additional answer).2.Allocated := by
  obtain ⟨-, -, -, hroom⟩ := reserve_makes_room hok h
  exact ⟨hok.reserve_data h, Nat.ne_zero_of_lt hroom⟩

theorem reserve_appended (hok : buffer.Ok) (additional : Nat) (answer : ReallocAnswer) :
    Appended buffer [] (buffer.sg_buffer_reserve additional answer) := by
  refine ⟨fun htrue => ?_, StructBuffer.reserve_false⟩
  obtain ⟨hok', hcontents, -, -⟩ := reserve_makes_room hok htrue
  exact ⟨hok', hcontents.trans (List.append_nil _).symm⟩

theorem append_appended (hok : buffer.Ok) (bytes : Text) (answer : ReallocAnswer) :
    Appended buffer bytes (buffer.sg_buffer_append (some bytes) bytes.length answer) := by
  have hs : (⟨buffer.toBuffer, 0, []⟩ : Rendering).output = buffer.toBuffer := rfl
  have hrefines : Refines (sg_buffer_append (Heap.answering answer) bytes) _ _ :=
    append_refines hok hs bytes
  rw [Heap.answer_answering] at hrefines
  apply hrefines.appended (sg_buffer_append_spec hok.rep bytes)
  · unfold StructBuffer.sg_buffer_append
    rw [if_neg (by simp)]
    rcases hr : buffer.sg_buffer_reserve bytes.length answer with ⟨_ | _, made⟩
    · exact fun h => absurd h (by simp)
    · intro _
      have hmade := reserve_allocated hok (congrArg Prod.fst hr)
      rw [hr] at hmade
      obtain ⟨block, hblock⟩ := Option.ne_none_iff_exists'.mp hmade.1
      have hblock : made.data = some block := hblock
      refine ⟨?_, hmade.2⟩
      dsimp only
      rw [hblock]
      split
      · simp
      · simp
  · unfold StructBuffer.sg_buffer_append
    rw [if_neg (by simp)]
    rcases hr : buffer.sg_buffer_reserve bytes.length answer with ⟨_ | _, made⟩
    · intro _
      have hsame := StructBuffer.reserve_false (congrArg Prod.fst hr)
      rwa [hr] at hsame
    · exact fun h => absurd h (by simp)

theorem append_null_appended (hok : buffer.Ok) (length : Nat) (answer : ReallocAnswer) :
    Appended buffer [] (buffer.sg_buffer_append none length answer) := by
  by_cases hzero : length = 0
  · subst hzero
    have hsame : buffer.sg_buffer_append none 0 answer = buffer.sg_buffer_append (some []) 0 answer := by
      simp [StructBuffer.sg_buffer_append]
    rw [hsame]
    exact append_appended hok [] answer
  · have hrefused : buffer.sg_buffer_append none length answer = (false, buffer) := by
      unfold StructBuffer.sg_buffer_append
      rw [if_pos ⟨hzero, rfl⟩]
    rw [hrefused]
    exact ⟨fun h => absurd h (by simp), fun _ => rfl⟩

/-- `sg_buffer_append` copies no more than `length` bytes. -/
theorem append_take (text : Text) {length : Nat} (hlength : length ≤ text.length)
    (answer : ReallocAnswer) : buffer.sg_buffer_append (some text) length answer =
      buffer.sg_buffer_append (some (text.take length)) (text.take length).length answer := by
  have htake : (text.take length).length = length := by
    rw [List.length_take, Nat.min_eq_left hlength]
  unfold StructBuffer.sg_buffer_append
  rw [htake, Option.getD_some, Option.getD_some, List.take_take, Nat.min_self]
  simp

theorem append_cstr_appended (hok : buffer.Ok) (text : Text) (answer : ReallocAnswer) :
    Appended buffer (c_string text) (buffer.sg_buffer_append_cstr (some text) answer) := by
  have hprefix : text.take (c_string text).length = c_string text :=
    (List.prefix_iff_eq_take.mp (List.takeWhile_prefix _)).symm
  have hle : (c_string text).length ≤ text.length := (List.takeWhile_prefix _).length_le
  unfold StructBuffer.sg_buffer_append_cstr
  dsimp only
  rw [append_take text hle, hprefix]
  exact append_appended hok (c_string text) answer

theorem append_format_appended (hok : buffer.Ok) (text : Text) (answer : ReallocAnswer) :
    Appended buffer text (buffer.sg_buffer_append_format (some (some text)) answer) := by
  have hs : (⟨buffer.toBuffer, 0, []⟩ : Rendering).output = buffer.toBuffer := rfl
  have hrefines : Refines (sg_buffer_append_format (Heap.answering answer) text) _ _ :=
    append_format_refines hok hs text
  rw [Heap.answer_answering] at hrefines
  apply hrefines.appended (sg_buffer_append_format_spec hok.rep text)
  · unfold StructBuffer.sg_buffer_append_format
    dsimp only
    split
    · exact fun h => absurd h (by simp)
    rcases hr : buffer.sg_buffer_reserve _ answer with ⟨_ | _, made⟩
    · exact fun h => absurd h (by simp)
    · have hmade := reserve_allocated hok (congrArg Prod.fst hr)
      rw [hr] at hmade
      obtain ⟨block, hblock⟩ := Option.ne_none_iff_exists'.mp hmade.1
      have hblock : made.data = some block := hblock
      dsimp only
      rw [hblock]
      split
      · exact fun h => absurd h (by simp)
      · exact fun _ => ⟨by simp, hmade.2⟩
  · unfold StructBuffer.sg_buffer_append_format
    dsimp only
    split
    · exact fun _ => rfl
    · rename_i hneeded
      rcases hr : buffer.sg_buffer_reserve _ answer with ⟨_ | _, made⟩
      · intro _
        have hsame := StructBuffer.reserve_false (congrArg Prod.fst hr)
        rwa [hr] at hsame
      · -- The second pass needs what the first one needed.
        dsimp only
        rw [if_neg (by simpa using hneeded)]
        exact fun h => absurd h (by simp)

theorem init_ok : StructBuffer.sg_buffer_init.Ok := ⟨⟨fun _ => rfl, fun _ => rfl⟩, buffer_init_ok⟩

theorem reset_ok (hok : buffer.Ok) :
    buffer.sg_buffer_reset.Ok ∧ buffer.sg_buffer_reset.contents = [] := by
  refine ⟨⟨?_, ⟨?_, fun _ => rfl, ?_, hok.rep.fits⟩⟩, rfl⟩
  · have hsame : buffer.sg_buffer_reset.data = none ↔ buffer.data = none := Option.map_eq_none_iff
    exact hsame.trans hok.null
  · have hsize : (buffer.data.getD []).length = buffer.capacity := hok.rep.data
    show ((buffer.data.map fun bytes => bytes.set 0 0).getD []).length = buffer.capacity
    rw [← hsize]
    cases buffer.data with
    | none => rfl
    | some block => exact List.length_set
  · intro hpos
    have hpos : 0 < buffer.capacity := hpos
    obtain ⟨block, hblock⟩ := Option.ne_none_iff_exists'.mp (hok.data_ne_none hpos)
    have hsize : (buffer.data.getD []).length = buffer.capacity := hok.rep.data
    rw [hblock, Option.getD_some] at hsize
    show ((buffer.data.map fun bytes => bytes.set 0 0).getD [])[0]? = some 0
    rw [hblock, Option.map_some, Option.getD_some, List.getElem?_set_self (by omega)]

/-- **A call** keeps the representation.  When it returns false nothing has changed; when it
    returns true its piece has been appended, or the buffer has been emptied. -/
theorem call_spec (hok : buffer.Ok) (call : BufferCall) (answer : ReallocAnswer) :
    let r := call.run answer buffer
    r.2.Ok ∧ (r.1 = false → r.2 = buffer) ∧
      (call.empties = true → r.1 = true ∧ r.2.contents = []) ∧
      (call.empties = false → r.1 = true → r.2.contents = buffer.contents ++ call.piece) := by
  have happended : ∀ {bytes : Text} {r : Bool × StructBuffer}, Appended buffer bytes r →
      r.2.Ok ∧ (r.1 = false → r.2 = buffer) ∧
        (r.1 = true → r.2.contents = buffer.contents ++ bytes) := by
    intro bytes r h
    rcases hr : r.1 with _ | _
    · exact ⟨(h.undone hr) ▸ hok, fun _ => h.undone hr, by simp⟩
    · exact ⟨(h.done hr).1, by simp, fun _ => (h.done hr).2⟩
  have hrefused : Appended buffer [] (false, buffer) :=
    ⟨fun h => absurd h (by simp), fun _ => rfl⟩
  cases call with
  | init => exact ⟨init_ok, by simp [BufferCall.run], fun _ => ⟨rfl, rfl⟩, by simp [BufferCall.empties]⟩
  | destroy =>
    exact ⟨init_ok, by simp [BufferCall.run], fun _ => ⟨rfl, rfl⟩, by simp [BufferCall.empties]⟩
  | reset =>
    obtain ⟨hreset, hempty⟩ := reset_ok hok
    exact ⟨hreset, by simp [BufferCall.run], fun _ => ⟨rfl, hempty⟩, by simp [BufferCall.empties]⟩
  | reserve additional =>
    obtain ⟨hok', hundone, hdone⟩ := happended (reserve_appended hok additional answer)
    exact ⟨hok', hundone, by simp [BufferCall.empties], fun _ => hdone⟩
  | append bytes =>
    obtain ⟨hok', hundone, hdone⟩ := happended (append_appended hok bytes answer)
    exact ⟨hok', hundone, by simp [BufferCall.empties], fun _ => hdone⟩
  | append_null length =>
    obtain ⟨hok', hundone, hdone⟩ := happended (append_null_appended hok length answer)
    exact ⟨hok', hundone, by simp [BufferCall.empties], fun _ => hdone⟩
  | append_cstr text =>
    cases text with
    | none =>
      obtain ⟨hok', hundone, hdone⟩ := happended hrefused
      exact ⟨hok', hundone, by simp [BufferCall.empties], fun _ => hdone⟩
    | some text =>
      obtain ⟨hok', hundone, hdone⟩ := happended (append_cstr_appended hok text answer)
      exact ⟨hok', hundone, by simp [BufferCall.empties], fun _ => hdone⟩
  | append_format format =>
    cases format with
    | none =>
      obtain ⟨hok', hundone, hdone⟩ := happended hrefused
      exact ⟨hok', hundone, by simp [BufferCall.empties], fun _ => hdone⟩
    | some expansion =>
      cases expansion with
      | none =>
        obtain ⟨hok', hundone, hdone⟩ := happended hrefused
        exact ⟨hok', hundone, by simp [BufferCall.empties], fun _ => hdone⟩
      | some text =>
        obtain ⟨hok', hundone, hdone⟩ := happended (append_format_appended hok text answer)
        exact ⟨hok', hundone, by simp [BufferCall.empties], fun _ => hdone⟩

end calls

/-! ### Runs -/

/-- The buffer of a run holds its pieces. -/
structure BufferRun.Ok (run : BufferRun) : Prop where
  buffer : run.buffer.Ok
  contents : run.buffer.contents = run.pieces.flatten

theorem BufferRun.Ok.step {run : BufferRun} (h : run.Ok) (call : BufferCall × ReallocAnswer) :
    (run.step call).Ok := by
  obtain ⟨call, answer⟩ := call
  obtain ⟨hok, hundone, hempties, hdone⟩ := call_spec h.buffer call answer
  refine ⟨hok, ?_⟩
  show (call.run answer run.buffer).2.contents = List.flatten (if call.empties then [] else
    if (call.run answer run.buffer).1 then run.pieces ++ [call.piece] else run.pieces)
  by_cases hempty : call.empties = true
  · rw [if_pos hempty, (hempties hempty).2]
    rfl
  · rw [if_neg hempty]
    have hkeeps : call.empties = false := by simpa using hempty
    cases hr : (call.run answer run.buffer).1 with
    | false => rw [hundone hr, h.contents, if_neg (by decide)]
    | true => rw [hdone hkeeps hr, h.contents, if_pos rfl, List.flatten_append]; simp

theorem buffer_run_ok (calls : List (BufferCall × ReallocAnswer)) : ∀ {run : BufferRun}, run.Ok →
    (calls.foldl BufferRun.step run).Ok := by
  induction calls with
  | nil => exact fun h => h
  | cons call calls ih => exact fun h => ih (h.step call)

/-- **Every run of calls**, with any answers of `realloc`, keeps the representation: there is
    an array when there is a capacity, the text is the pieces that have been appended since
    the buffer was last emptied, and a NUL is behind it.  A call that fails changes nothing.
    Room that has been made is enough, and no size that it takes wraps around. -/
theorem buffer_runs (calls : List (BufferCall × ReallocAnswer)) :
    let run := calls.foldl BufferRun.step ⟨.sg_buffer_init, []⟩
    let buffer := run.buffer
    (buffer.data = none ↔ buffer.capacity = 0) ∧
    (∀ block, buffer.data = some block → block.length = buffer.capacity ∧
      buffer.length < buffer.capacity ∧ block[buffer.length]? = some 0) ∧
    buffer.contents = run.pieces.flatten ∧ buffer.contents.length = buffer.length ∧
    (∀ call answer, (BufferCall.run answer buffer call).1 = false →
      (BufferCall.run answer buffer call).2 = buffer) ∧
    (∀ additional answer, (buffer.sg_buffer_reserve additional answer).1 = true →
      let made := (buffer.sg_buffer_reserve additional answer).2
      made.contents = buffer.contents ∧ made.length = buffer.length ∧
        buffer.length + additional + 1 ≤ made.capacity) ∧
    ∀ additional, ¬(buffer.length = SIZE_MAX ∨ additional > SIZE_MAX - buffer.length - 1) →
      let required := buffer.length + additional + 1
      size_t required = required ∧
        double_capacity required (first_capacity buffer.capacity)
          (first_capacity_pos buffer.capacity) =
            doubled 64 (first_capacity buffer.capacity) required ∧
        doubled 64 (first_capacity buffer.capacity) required ≤ SIZE_MAX := by
  intro run buffer
  have hinit : BufferRun.Ok ⟨.sg_buffer_init, []⟩ := ⟨init_ok, rfl⟩
  have hrun : run.Ok := buffer_run_ok calls hinit
  have hok : buffer.Ok := hrun.buffer
  have hmax : SIZE_MAX = 2 ^ 64 - 1 := rfl
  refine ⟨hok.null, ?_, hrun.contents, length_contents hok.rep,
    fun call answer => (call_spec hok call answer).2.1, ?_, ?_⟩
  · intro block hblock
    have hpos : 0 < buffer.capacity := by
      by_contra hzero
      rw [hok.null.mpr (by omega)] at hblock
      cases hblock
    have hsize : (buffer.data.getD []).length = buffer.capacity := hok.rep.data
    have hnul : (buffer.data.getD [])[buffer.length]? = some 0 := hok.rep.nul hpos
    rw [hblock, Option.getD_some] at hsize hnul
    have hlt := (List.getElem?_eq_some_iff.mp hnul).1
    exact ⟨hsize, hsize ▸ hlt, hnul⟩
  · intro additional answer hmade
    obtain ⟨-, hcontents, hlength, hroom⟩ := reserve_makes_room hok hmade
    exact ⟨hcontents, hlength, hroom⟩
  · intro additional hroom
    have hle := hok.length_le
    have hfits : buffer.capacity ≤ SIZE_MAX := hok.rep.fits
    refine ⟨required_exact hroom hle, double_capacity_eq 64 _ (by omega) first_capacity_enough,
      doubled_le 64 ?_ (by omega)⟩
    unfold first_capacity
    split
    · decide
    · exact hfits

end Sysgaze
