import Sysgaze.Reads

/-! # Strings and argument vectors

    What the decoder shows of a string in the memory of a tracee, and of a
    vector of strings.  Both are cut off, and `...` marks the cut.

    The mark is wrong at one length each.  A string that is exactly as long as
    the limit is marked as if there were more (`append_string_iff`), since the
    NUL behind it is not read; and so is a vector of exactly 32 strings
    (`append_argv_iff`), since the loop ends before it meets the null pointer.
-/

open Fallible Numerals

namespace Sysgaze

/-! ### Escaping -/

/-- How a byte is shown. -/
def escaped_byte (byte : UInt8) : Text :=
  if byte = 92 then cstr "\\\\"
  else if byte = 34 then cstr "\\\""
  else if byte = 10 then cstr "\\n"
  else if byte = 13 then cstr "\\r"
  else if byte = 9 then cstr "\\t"
  else if byte = 0 then cstr "\\0"
  else if isprint byte then [byte]
  else cstr "\\x" ++ [digit (byte.toNat / 16), digit (byte.toNat % 16)]

/-- How a string is shown. -/
def escaped (data : Text) : Text := cstr "\"" ++ data.flatMap escaped_byte ++ cstr "\""

section adds
variable {heap : Heap} {α : Type}

theorem append_escaped_byte_adds (byte : UInt8) :
    Adds heap (append_escaped_byte heap byte) (escaped_byte byte) := by
  unfold append_escaped_byte escaped_byte
  repeat' (split; · exact adds_append _)
  apply adds_format
  rw [List.length_append]
  exact (by decide : (cstr "\\x").length + 2 ≤ SNPRINTF_MAX)

theorem forM_append_escaped_byte_adds (data : Text) :
    Adds heap (data.forM (append_escaped_byte heap)) (data.flatMap escaped_byte) := by
  induction data with
  | nil => exact adds_pure _
  | cons byte data ih =>
    rw [List.flatMap_cons]
    exact adds_bind (append_escaped_byte_adds byte) fun _ => ih

theorem append_escaped_adds (data : Text) :
    Adds heap (append_escaped heap data) (escaped data) := by
  unfold append_escaped escaped
  rw [List.append_assoc]
  exact adds_bind (adds_append _) fun _ =>
    adds_bind (forM_append_escaped_byte_adds data) fun _ => adds_append _

/-! ### Strings -/

/-- The NUL-terminated string is at the address, and all of it can be read. -/
structure MemoryReader.StringAt (memory : MemoryReader) (tid : Pid) (address : UInt64)
    (string : Text) : Prop where
  nonnull : address ≠ 0
  nul : 0 ∉ string
  readable : ∀ length, 0 < length → ∃ bytes, memory.read tid address length = some bytes ∧
    (string ++ [0]).take length <+: bytes

/-- What `append_string` shows of a string: the mark stands behind a string that is as long
    as the limit. -/
def shown_string (string_limit : Nat) (string : Text) : Text :=
  if string.length < string_limit then escaped string
  else escaped (string.take string_limit) ++ cstr "..."

/-- What is to be shown of a string: the mark stands behind a string that is cut off. -/
def marked_string (string_limit : Nat) (string : Text) : Text :=
  if string.length ≤ string_limit then escaped string
  else escaped (string.take string_limit) ++ cstr "..."

/-- The NUL behind a string is found. -/
theorem find_nul {string rest : Text} (h : 0 ∉ string) :
    (string ++ 0 :: rest).findIdx? (fun byte => byte == 0) = some string.length := by
  induction string with
  | nil => rfl
  | cons byte string ih =>
    have hbyte : (byte == 0) = false := by
      rw [beq_eq_false_iff_ne]
      rintro rfl
      exact h (by simp)
    have hrest : 0 ∉ string := fun hmem => h (by simp [hmem])
    rw [List.cons_append, List.findIdx?_cons, hbyte, ih hrest]
    rfl

theorem find_no_nul {string : Text} (h : 0 ∉ string) :
    string.findIdx? (fun byte => byte == 0) = none := by
  rw [List.findIdx?_eq_none_iff]
  intro byte hbyte
  rw [beq_eq_false_iff_ne]
  rintro rfl
  exact h hbyte

variable {memory : MemoryReader} {tid : Pid} {address : UInt64} {string : Text}

/-- The bytes that are read of a string, as far as the limit: with the NUL, or without. -/
theorem StringAt.bytes (h : memory.StringAt tid address string) {amount : Nat}
    (hamount : 0 < amount) : ∃ bytes, memory.read tid address amount = some bytes ∧
      if string.length < amount then ∃ rest, bytes = string ++ 0 :: rest
      else bytes = string.take amount := by
  obtain ⟨bytes, hread, hprefix⟩ := h.readable amount hamount
  have hle := memory.read_le hread
  refine ⟨bytes, hread, ?_⟩
  split
  · rename_i hshort
    rw [List.take_of_length_le (by simp; omega)] at hprefix
    obtain ⟨rest, hrest⟩ := hprefix
    exact ⟨rest, by rw [← hrest, List.append_assoc]; rfl⟩
  · rename_i hlong
    rw [List.take_append_of_le_length (by omega)] at hprefix
    symm
    apply hprefix.eq_of_length
    have := hprefix.length_le
    rw [List.length_take] at this ⊢
    omega

/-- The bytes that are shown, and whether there are more. -/
theorem shown_adds (data : Text) (shown : Nat × Bool) :
    Adds heap (append_escaped heap (data.take shown.1) >>= fun _ =>
      if shown.2 = true then sg_buffer_append_cstr heap (cstr "...") else pure ())
      (escaped (data.take shown.1) ++ cond shown.2 (cstr "...") []) := by
  apply adds_bind (append_escaped_adds _)
  intro _
  cases shown.2 with
  | true => exact adds_append _
  | false => exact adds_pure _

theorem peek_eq (string_limit : Nat) (h : address ≠ 0) (length : Nat) :
    Decoder.peek ⟨string_limit, some memory⟩ tid address length = memory.read tid address length :=
  if_neg h

/-- **A string** is shown up to the limit. -/
theorem append_string_adds (h : memory.StringAt tid address string) (string_limit : Nat) :
    Adds heap (append_string heap ⟨string_limit, some memory⟩ tid address)
      (shown_string string_limit string) := by
  have hrequested : (if string_limit = SIZE_MAX then SIZE_MAX else string_limit + 1) =
      string_limit ∨ (if string_limit = SIZE_MAX then SIZE_MAX else string_limit + 1) =
      string_limit + 1 := by
    split
    · rename_i hmax
      exact Or.inl hmax.symm
    · exact Or.inr rfl
  have hpositive : (if string_limit = SIZE_MAX then SIZE_MAX else string_limit + 1) ≠ 0 := by
    split
    · decide
    · omega
  unfold append_string append_remote_bytes
  dsimp only
  generalize (if string_limit = SIZE_MAX then SIZE_MAX else string_limit + 1) = requested
    at hrequested hpositive
  have hamount : (if requested < string_limit then requested else string_limit) = string_limit := by
    split <;> omega
  rw [hamount, if_neg h.nonnull]
  -- With a limit of 0 nothing is read.
  by_cases hzero : string_limit = 0
  · rw [if_pos hzero, if_neg hpositive, hzero]
    exact adds_append _
  rw [if_neg hzero]
  obtain ⟨bytes, hread, hbytes⟩ := StringAt.bytes h (Nat.pos_of_ne_zero hzero)
  have hnonempty : bytes.length ≠ 0 := by
    intro hempty
    rw [List.length_eq_zero_iff] at hempty
    subst hempty
    split at hbytes
    · obtain ⟨rest, hrest⟩ := hbytes
      simp at hrest
    · have := congrArg List.length hbytes
      rw [List.length_nil, List.length_take] at this
      omega
  apply renders_then (renders_malloc string_limit)
  intro data hdata
  cases data with
  | none => exact renders_throw fun hs => by simpa using hdata hs
  | some data =>
    apply renders_read
    rw [peek_eq string_limit h.nonnull, hread]
    apply renders_ite
    · intro hempty
      simp [read_result, hnonempty] at hempty
    intro _
    apply (shown_adds _ _).congr
    dsimp only [read_result]
    rw [List.take_left, if_pos rfl]
    split at hbytes
    · rename_i hshort
      obtain ⟨rest, rfl⟩ := hbytes
      rw [find_nul h.nul, shown_string, if_pos hshort]
      dsimp only
      rw [List.append_assoc, List.take_left]
      exact List.append_nil _
    · rename_i hlong
      subst hbytes
      rw [find_no_nul fun hmem => h.nul (List.mem_of_mem_take hmem), shown_string, if_neg hlong]
      dsimp only
      rw [List.take_left]
      rfl

/-- **Where the mark of a string is right**: everywhere but at the limit. -/
theorem append_string_iff (heap : Heap) (h : memory.StringAt tid address string)
    (string_limit : Nat) :
    Renders heap (append_string heap ⟨string_limit, some memory⟩ tid address)
      (4 * string_limit + 18)
      fun _ text => text = marked_string string_limit string ↔ string.length ≠ string_limit := by
  apply Renders.mono ((append_string_plain tid address).and (append_string_adds h string_limit))
    (le_refl _)
  rintro _ text ⟨-, rfl⟩
  unfold shown_string marked_string
  rcases Nat.lt_trichotomy string.length string_limit with hlt | heq | hgt
  · rw [if_pos hlt, if_pos hlt.le]
    exact iff_of_true rfl hlt.ne
  · -- At the limit the string is shown in full, with a mark.
    rw [if_neg heq.not_lt, if_pos heq.le, ← heq, List.take_length]
    exact iff_of_false (by simp [(by decide : cstr "..." ≠ [])]) fun h => h rfl
  · rw [if_neg (by omega), if_neg (by omega)]
    exact iff_of_true rfl hgt.ne'

theorem constant_string {bytes : Text} (tid : Pid) (h : 0 ∉ bytes) :
    (constant_memory (bytes ++ [0])).StringAt tid 4096 bytes where
  nonnull := by decide
  nul := h
  readable := fun length _ => ⟨_, rfl, List.prefix_rfl⟩

theorem append_string_iff_short :
    Renders ample_heap (append_string ample_heap ⟨32, some (constant_memory (cstr "abc" ++ [0]))⟩ 1
      4096) (4 * 32 + 18)
      fun _ text => text = marked_string 32 (cstr "abc") ↔ (cstr "abc").length ≠ 32 :=
  append_string_iff ample_heap (constant_string 1 (by decide)) 32

/-- **A string at the limit is marked** although nothing of it is missing. -/
theorem whole_string_marked : ¬∀ (heap : Heap) (memory : MemoryReader) (tid : Pid)
    (address : UInt64) (string : Text) (string_limit : Nat), string_limit ≤ 2 ^ 20 →
      memory.StringAt tid address string →
        Renders heap (append_string heap ⟨string_limit, some memory⟩ tid address)
          (4 * string_limit + 18) fun _ text => text = marked_string string_limit string := by
  intro h
  have hstring := constant_string 1 (by decide : 0 ∉ cstr "abc")
  have hmarked := h ample_heap _ 1 4096 _ 3 (by decide) hstring
  obtain ⟨_, text, htext, rfl⟩ := (hmarked.and (append_string_adds hstring 3)).exists_text
    (fun _ => rfl) (by decide)
  exact absurd htext (by decide)

/-! ### Argument vectors -/

/-- A pointer of a vector, when it can be read in full. -/
def Decoder.pointer_at (decoder : Decoder) (tid : Pid) (address : UInt64) (index : Nat) :
    Option UInt64 :=
  if address.toNat > 2 ^ 64 - 1 - index * 8 then none
  else
    match decoder.peek tid (address + UInt64.ofNat (index * 8)) 8 with
    | none => none
    | some bytes => if bytes.length = 8 then some (UInt64.ofNat (little_endian bytes)) else none

/-- The comma in front of an element. -/
def comma (index : Nat) : Text := if index = 0 then [] else cstr ", "

/-- Texts with a comma in front of each but the first of all; `index` counts them. -/
def separated : Nat → List Text → Text
  | _, [] => []
  | index, text :: texts => comma index ++ (text ++ separated (index + 1) texts)

theorem separated_append (texts texts' : List Text) : ∀ index : Nat,
    separated index (texts ++ texts') =
      separated index texts ++ separated (index + texts.length) texts' := by
  induction texts with
  | nil => exact fun index => rfl
  | cons text texts ih =>
    intro index
    rw [List.cons_append, separated, separated, ih, List.length_cons, List.append_assoc,
      List.append_assoc, Nat.add_right_comm, Nat.add_assoc]

/-- Counted from 0 these are the texts with commas between them. -/
theorem separated_zero (texts : List Text) : separated 0 texts = (cstr ", ").intercalate texts := by
  have hrest : ∀ (texts : List Text) (index : Nat) (text : Text), 0 < index →
      text ++ separated index texts = (cstr ", ").intercalate (text :: texts) := by
    intro texts
    induction texts with
    | nil =>
      intro index text _
      simp [separated, List.intercalate]
    | cons next texts ih =>
      intro index text hindex
      rw [separated, comma, if_neg (by omega), ih (index + 1) next (by omega)]
      simp [List.intercalate]
  cases texts with
  | nil => simp [separated, List.intercalate]
  | cons text texts => exact hrest texts 1 text (by omega)

theorem prefixed_adds {m : RenderM α} {index : Nat} {text : Text} (hm : Adds heap m text) :
    Adds heap (if index ≠ 0 then sg_buffer_append_cstr heap (cstr ", ") >>= fun _ => m else m)
      (comma index ++ text) := by
  unfold comma
  by_cases hindex : index = 0
  · rw [if_neg (not_not.mpr hindex), if_pos hindex]
    exact hm
  · rw [if_pos hindex, if_neg hindex]
    exact adds_bind (adds_append _) fun _ => hm

variable {decoder : Decoder}

/-- The pointer that has been read. -/
theorem pointer_at_of_read {index : Nat} {bytes : Text}
    (hfits : ¬address.toNat > 2 ^ 64 - 1 - index * 8)
    (hpeek : decoder.peek tid (address + UInt64.ofNat (index * 8)) 8 = some bytes)
    (hwhole : bytes.length = 8) :
    decoder.pointer_at tid address index = some (UInt64.ofNat (little_endian
      (read_result (List.replicate 8 0) (some bytes)).2.1)) := by
  have hbytes : (read_result (List.replicate 8 0) (some bytes)).2.1 = bytes := by
    rw [read_result, hwhole]
    exact List.append_nil _
  rw [hbytes, Decoder.pointer_at, if_neg hfits, hpeek]
  exact if_pos hwhole

/-- **A round of the loop**, by the pointer that is met. -/
theorem append_argv_round {rounds index : Nat} {text : Text}
    (h : match decoder.pointer_at tid address index with
      | none => text = comma index ++ (cstr "?" ++ cstr ", ...]")
      | some pointer =>
        if pointer = 0 then text = cstr "]"
        else ∃ shown rest, Adds heap (append_string heap decoder tid pointer) shown ∧
          Adds heap (append_argv_from heap decoder tid address rounds (index + 1)) rest ∧
          text = comma index ++ (shown ++ rest)) :
    Adds heap (append_argv_from heap decoder tid address (rounds + 1) index) text := by
  have hround : ∀ r : Bool × Text × Nat,
      (decoder.pointer_at tid address index = none → (!r.1) = true ∨ r.2.2 ≠ 8) →
      (∀ pointer, decoder.pointer_at tid address index = some pointer →
        ¬((!r.1) = true ∨ r.2.2 ≠ 8) ∧ UInt64.ofNat (little_endian r.2.1) = pointer ∧
          (little_endian r.2.1 = 0 ↔ pointer = 0)) →
      Adds heap (append_argv_entry heap decoder tid address rounds index r) text := by
    intro r hnone hsome
    cases hpointer : decoder.pointer_at tid address index with
    | none =>
      rw [hpointer] at h
      unfold append_argv_entry
      rw [if_pos (hnone hpointer), h]
      exact prefixed_adds (adds_bind (adds_append _) fun _ => adds_append _)
    | some pointer =>
      obtain ⟨hread, hvalue, hnull⟩ := hsome pointer hpointer
      rw [hpointer] at h
      dsimp only at h
      unfold append_argv_entry
      rw [if_neg hread]
      split at h
      · rename_i hzero
        rw [if_pos (hnull.mpr hzero), h]
        exact adds_append _
      · rename_i hnonzero
        obtain ⟨shown, rest, hshown, hrest, rfl⟩ := h
        rw [if_neg (fun hzero => hnonzero (hnull.mp hzero)), hvalue]
        exact prefixed_adds (adds_bind hshown fun _ => hrest)
  rw [append_argv_from_succ]
  by_cases hwraps : address.toNat > 2 ^ 64 - 1 - index * 8
  · have hnone : decoder.pointer_at tid address index = none := if_pos hwraps
    rw [if_pos hwraps]
    apply hround (false, List.replicate 8 0, 0)
    · exact fun _ => Or.inl rfl
    · intro pointer hpointer
      rw [hnone] at hpointer
      simp at hpointer
  · rw [if_neg hwraps]
    apply renders_read
    have hpointer_at : decoder.pointer_at tid address index = _ := if_neg hwraps
    apply hround
    · intro hnone
      rw [hpointer_at] at hnone
      cases hpeek : decoder.peek tid (address + UInt64.ofNat (index * 8)) 8 with
      | none => exact Or.inl rfl
      | some bytes =>
        rw [hpeek] at hnone
        dsimp only at hnone
        split at hnone
        · simp at hnone
        · rename_i hshort
          exact Or.inr hshort
    · intro pointer hsome
      rw [hpointer_at] at hsome
      cases hpeek : decoder.peek tid (address + UInt64.ofNat (index * 8)) 8 with
      | none =>
        rw [hpeek] at hsome
        simp at hsome
      | some bytes =>
        rw [hpeek] at hsome
        dsimp only at hsome
        split at hsome
        · rename_i hwhole
          injection hsome with hsome
          have hbytes : (read_result (List.replicate 8 0) (some bytes)).2.1 = bytes := by
            rw [read_result, hwhole]
            exact List.append_nil _
          rw [hbytes, hsome]
          refine ⟨by simp [read_result, hwhole], rfl, ?_⟩
          have hlt := little_endian_lt bytes
          rw [hwhole] at hlt
          rw [← hsome, ← UInt64.toNat_inj, UInt64.toNat_ofNat_of_lt' (by simpa using hlt)]
          rfl
        · simp at hsome

/-- The pointers of a vector that are met before its end. -/
def VectorAt (decoder : Decoder) (tid : Pid) (address : UInt64) (index : Nat)
    (pointers : List UInt64) : Prop :=
  ∀ k, ∀ pointer, pointers[k]? = some pointer →
    pointer ≠ 0 ∧ decoder.pointer_at tid address (index + k) = some pointer

/-- The strings of a vector, and what comes behind them. -/
theorem append_argv_from_adds {shown : UInt64 → Text} {rounds : Nat} {ending : Text}
    (pointers : List UInt64) : ∀ {index : Nat}, VectorAt decoder tid address index pointers →
      (∀ pointer ∈ pointers, Adds heap (append_string heap decoder tid pointer) (shown pointer)) →
      Adds heap (append_argv_from heap decoder tid address rounds (index + pointers.length)) ending →
      Adds heap (append_argv_from heap decoder tid address (rounds + pointers.length) index)
        (separated index (pointers.map shown) ++ ending) := by
  induction pointers with
  | nil => exact fun _ _ hending => hending
  | cons pointer pointers ih =>
    intro index hvector hshown hending
    obtain ⟨hnonzero, hpointer⟩ := hvector 0 pointer rfl
    have hrest : VectorAt decoder tid address (index + 1) pointers := by
      intro k p hp
      have hnext := hvector (k + 1) p hp
      rw [← Nat.add_assoc, Nat.add_right_comm] at hnext
      exact hnext
    rw [List.length_cons, ← Nat.add_assoc, Nat.add_right_comm] at hending
    apply append_argv_round
    rw [show decoder.pointer_at tid address index = some pointer from hpointer]
    dsimp only
    rw [if_neg hnonzero]
    refine ⟨shown pointer, _, hshown pointer (by simp),
      ih hrest (fun p hp => hshown p (by simp [hp])) hending, ?_⟩
    rw [List.map_cons, separated, List.append_assoc, List.append_assoc]

/-- What is to be shown of a vector of strings: dots for those that are left out. -/
def argv_text (texts : List Text) : Text :=
  if texts.length ≤ 32 then cstr "[" ++ (cstr ", ").intercalate texts ++ cstr "]"
  else cstr "[" ++ (cstr ", ").intercalate (texts.take 32) ++ cstr ", ...]"

/-- A vector that is shown up to a pointer that cannot be read. -/
def broken_argv_text (texts : List Text) : Text :=
  cstr "[" ++ (cstr ", ").intercalate (texts ++ [cstr "?"]) ++ cstr ", ...]"

/-- The vector is readable, up to its null pointer. -/
structure CompleteVector (decoder : Decoder) (tid : Pid) (address : UInt64)
    (pointers : List UInt64) : Prop where
  nonnull : address ≠ 0
  elements : VectorAt decoder tid address 0 pointers
  null : decoder.pointer_at tid address pointers.length = some 0

theorem append_argv_of_loop {text : Text} (hnonnull : address ≠ 0)
    (h : Adds heap (append_argv_from heap decoder tid address 32 0) text) :
    Adds heap (append_argv heap decoder tid address) (cstr "[" ++ text) := by
  unfold append_argv
  rw [if_neg hnonnull]
  exact adds_bind (adds_append _) fun _ => h

/-- **The vector as it is written**: dots from 32 strings on. -/
theorem append_argv_adds {shown : UInt64 → Text} {pointers : List UInt64}
    (hvector : CompleteVector decoder tid address pointers)
    (hshown : ∀ pointer ∈ pointers, Adds heap (append_string heap decoder tid pointer)
      (shown pointer)) :
    Adds heap (append_argv heap decoder tid address)
      (if pointers.length < 32 then
        cstr "[" ++ (cstr ", ").intercalate (pointers.map shown) ++ cstr "]"
      else cstr "[" ++ (cstr ", ").intercalate ((pointers.map shown).take 32) ++ cstr ", ...]") := by
  split
  · rename_i hfew
    have hclose : Adds heap
        (append_argv_from heap decoder tid address (31 - pointers.length + 1) (0 + pointers.length))
        (cstr "]") := by
      apply append_argv_round
      rw [Nat.zero_add, hvector.null]
      rfl
    have hloop := append_argv_from_adds pointers hvector.elements hshown hclose
    rw [show 31 - pointers.length + 1 + pointers.length = 32 by omega, separated_zero] at hloop
    rw [List.append_assoc]
    exact append_argv_of_loop hvector.nonnull hloop
  · rename_i hmany
    have hlength : (pointers.take 32).length = 32 := by
      rw [List.length_take]
      omega
    have hsome : VectorAt decoder tid address 0 (pointers.take 32) := by
      intro k pointer hpointer
      apply hvector.elements k pointer
      rw [List.getElem?_take] at hpointer
      split at hpointer
      · exact hpointer
      · simp at hpointer
    have hdots : Adds heap (append_argv_from heap decoder tid address 0
        (0 + (pointers.take 32).length)) (cstr ", ...]") := adds_append _
    have hloop := append_argv_from_adds _ hsome
      (fun pointer hp => hshown pointer (List.mem_of_mem_take hp)) hdots
    rw [hlength, separated_zero, List.map_take] at hloop
    rw [List.append_assoc]
    exact append_argv_of_loop hvector.nonnull hloop

/-- **A pointer that cannot be read** ends the vector. -/
theorem append_argv_broken {shown : UInt64 → Text} {pointers : List UInt64}
    (hnonnull : address ≠ 0) (hvector : VectorAt decoder tid address 0 pointers)
    (hfew : pointers.length < 32) (hbroken : decoder.pointer_at tid address pointers.length = none)
    (hshown : ∀ pointer ∈ pointers, Adds heap (append_string heap decoder tid pointer)
      (shown pointer)) :
    Adds heap (append_argv heap decoder tid address) (broken_argv_text (pointers.map shown)) := by
  have hend : Adds heap
      (append_argv_from heap decoder tid address (31 - pointers.length + 1) (0 + pointers.length))
      (comma pointers.length ++ (cstr "?" ++ cstr ", ...]")) := by
    apply append_argv_round
    rw [Nat.zero_add, hbroken]
  have hloop := append_argv_from_adds pointers hvector hshown hend
  rw [show 31 - pointers.length + 1 + pointers.length = 32 by omega] at hloop
  unfold broken_argv_text
  rw [← separated_zero, separated_append, List.append_assoc, List.length_map, Nat.zero_add]
  apply (append_argv_of_loop hnonnull hloop).congr
  simp only [separated, List.append_assoc, List.append_nil]

/-- Both texts of a vector agree, unless it has exactly 32 strings. -/
theorem argv_text_iff (texts : List Text) :
    (if texts.length < 32 then cstr "[" ++ (cstr ", ").intercalate texts ++ cstr "]"
      else cstr "[" ++ (cstr ", ").intercalate (texts.take 32) ++ cstr ", ...]") =
        argv_text texts ↔ texts.length ≠ 32 := by
  unfold argv_text
  rcases Nat.lt_trichotomy texts.length 32 with hlt | heq | hgt
  · rw [if_pos hlt, if_pos hlt.le]
    exact iff_of_true rfl hlt.ne
  · rw [if_neg heq.not_lt, if_pos heq.le, ← heq, List.take_length]
    apply iff_of_false _ fun h => h rfl
    intro h
    have hlength := congrArg List.length h
    simp only [List.length_append] at hlength
    have hdots : (cstr ", ...]").length = 6 ∧ (cstr "]").length = 1 := by decide
    omega
  · rw [if_neg (by omega), if_neg (by omega)]
    exact iff_of_true rfl hgt.ne'

/-! ### The reads of a vector -/

/-- The reads that begin with the `index`-th pointer of a vector, in at most `rounds` groups:
    a pointer, and then at most one read of the string that it points to. -/
def VectorReads (decoder : Decoder) (tid : Pid) (address : UInt64) (index rounds : Nat)
    (reads : List MemoryRead) : Prop :=
  ∃ groups : List (List MemoryRead), reads = groups.flatten ∧ groups.length ≤ rounds ∧
    ∀ k group, groups[k]? = some group → ∃ strings,
      group = ⟨tid, address + UInt64.ofNat ((index + k) * 8), 8, 8⟩ :: strings ∧
      strings.length ≤ 1 ∧
      ∀ read ∈ strings, decoder.pointer_at tid address (index + k) = some read.address

theorem vector_reads_nil (index rounds : Nat) : VectorReads decoder tid address index rounds [] :=
  ⟨[], rfl, Nat.zero_le _, by simp⟩

theorem VectorReads.cons {index rounds : Nat} {reads : List MemoryRead}
    (h : VectorReads decoder tid address (index + 1) rounds reads) (strings : List MemoryRead)
    (hfew : strings.length ≤ 1)
    (hstrings : ∀ read ∈ strings, decoder.pointer_at tid address index = some read.address) :
    VectorReads decoder tid address index (rounds + 1)
      (⟨tid, address + UInt64.ofNat (index * 8), 8, 8⟩ :: (strings ++ reads)) := by
  obtain ⟨groups, rfl, hlength, hgroups⟩ := h
  refine ⟨(⟨tid, address + UInt64.ofNat (index * 8), 8, 8⟩ :: strings) :: groups, ?_, ?_, ?_⟩
  · rw [List.flatten_cons, List.cons_append]
  · rw [List.length_cons]
    omega
  · intro k group hgroup
    cases k with
    | zero =>
      injection hgroup with hgroup
      exact ⟨strings, hgroup.symm, hfew, hstrings⟩
    | succ k =>
      rw [← Nat.add_assoc, Nat.add_right_comm]
      exact hgroups k group hgroup

/-- A pointer that cannot be read ends the vector, and nothing more is read. -/
theorem append_argv_entry_broken {r : Bool × Text × Nat} (hbroken : (!r.1) = true ∨ r.2.2 ≠ 8)
    (rounds index : Nat) : Blind (append_argv_entry heap decoder tid address rounds index r) := by
  have hmark : Blind (sg_buffer_append_cstr heap (cstr "?") >>= fun _ =>
      sg_buffer_append_cstr heap (cstr ", ...]")) := (blind_append _).bind fun _ => blind_append _
  unfold append_argv_entry
  rw [if_pos hbroken]
  apply looks_ite
  · exact fun _ => (blind_append _).bind fun _ => hmark
  · exact fun _ => hmark

/-- **The loop reads no pointer beyond its rounds.** -/
theorem append_argv_from_looks (rounds : Nat) : ∀ index : Nat,
    Looks (append_argv_from heap decoder tid address rounds index)
      (VectorReads decoder tid address index rounds) := by
  induction rounds with
  | zero => exact fun index => (blind_append _).looks (vector_reads_nil _ _)
  | succ rounds ih =>
    intro index
    have hcomma : Blind (sg_buffer_append_cstr heap (cstr ", ")) := blind_append _
    have hpointer : VectorReads decoder tid address index (rounds + 1)
        [⟨tid, address + UInt64.ofNat (index * 8), 8, 8⟩] :=
      VectorReads.cons (vector_reads_nil (index + 1) rounds) [] (Nat.zero_le 1) (by simp)
    rw [append_argv_from_succ]
    apply looks_ite
    · exact fun _ => (append_argv_entry_broken (Or.inl rfl) _ _).looks (vector_reads_nil _ _)
    intro hfits
    apply looks_read
    cases hpeek : decoder.peek tid (address + UInt64.ofNat (index * 8)) 8 with
    | none =>
      apply (append_argv_entry_broken (Or.inl rfl) _ _).looks
      rcases issued_cases decoder tid (address + UInt64.ofNat (index * 8)) 8
        (List.replicate 8 (0 : UInt8)).length with hnone | hone
      · rw [hnone]
        exact vector_reads_nil _ _
      · rw [hone]
        exact hpointer
    | some bytes =>
      rw [issued_of_peek hpeek]
      by_cases hreadable : (!(read_result (List.replicate 8 0) (some bytes)).1) = true ∨
          (read_result (List.replicate 8 0) (some bytes)).2.2 ≠ 8
      · exact (append_argv_entry_broken hreadable _ _).looks hpointer
      unfold append_argv_entry
      rw [if_neg hreadable]
      have hwhole : bytes.length = 8 := by simpa [read_result] using hreadable
      have hvalue := pointer_at_of_read hfits hpeek hwhole
      apply looks_ite
      · exact fun _ => (blind_append _).looks hpointer
      intro _
      -- At most one read of the string, and then those of the rounds that are left.
      have hstring : Looks (append_string heap decoder tid (UInt64.ofNat (little_endian
          (read_result (List.replicate 8 0) (some bytes)).2.1)) >>= fun _ =>
            append_argv_from heap decoder tid address rounds (index + 1))
          fun reads => VectorReads decoder tid address index (rounds + 1)
            (⟨tid, address + UInt64.ofNat (index * 8), 8, 8⟩ :: reads) := by
        have hone : ∀ reads : List MemoryRead,
            (reads = [] ∨ ∃ amount ≤ decoder.string_limit,
              UInt64.ofNat (little_endian (read_result (List.replicate 8 0) (some bytes)).2.1) ≠ 0 ∧
                reads = [⟨tid, UInt64.ofNat (little_endian
                  (read_result (List.replicate 8 0) (some bytes)).2.1), amount, amount⟩]) →
            reads.length ≤ 1 ∧
              ∀ read ∈ reads, decoder.pointer_at tid address index = some read.address := by
          rintro reads (rfl | ⟨amount, _, _, rfl⟩)
          · exact ⟨Nat.zero_le _, by simp⟩
          · exact ⟨le_refl _, by simpa using hvalue⟩
        apply looks_bind append_string_looks fun _ => ih (index + 1)
        · intro reads hreads
          obtain ⟨hfew, hsame⟩ := hone reads hreads
          have hcons := VectorReads.cons (vector_reads_nil (index + 1) rounds) reads hfew hsame
          rwa [List.append_nil] at hcons
        · intro reads reads' hreads hreads'
          obtain ⟨hfew, hsame⟩ := hone reads hreads
          exact hreads'.cons reads hfew hsame
      apply looks_ite
      · exact fun _ => blind_bind hcomma (fun _ => hstring) hpointer
      · exact fun _ => hstring

theorem append_argv_looks : Looks (append_argv heap decoder tid address)
    (VectorReads decoder tid address 0 32) := by
  unfold append_argv
  apply looks_ite
  · exact fun _ => (blind_append _).looks (vector_reads_nil _ _)
  · exact fun _ => blind_bind (blind_append _) (fun _ => append_argv_from_looks 32 0)
      (vector_reads_nil _ _)

/-- **Where a vector is shown as it should be.**  Complete vectors are, but for those of
    exactly 32 strings, which get dots that stand for nothing; a pointer that cannot be read
    is shown as `?`; and no pointer beyond the 32nd is read. -/
theorem append_argv_iff (heap : Heap) (string_limit : Nat) (memory : MemoryReader) (tid : Pid)
    (address : UInt64) :
    (∀ (pointers : List UInt64) (string_at : UInt64 → Text),
      CompleteVector ⟨string_limit, some memory⟩ tid address pointers →
      (∀ pointer ∈ pointers, memory.StringAt tid pointer (string_at pointer)) →
        Renders heap (append_argv heap ⟨string_limit, some memory⟩ tid address)
          (128 * string_limit + 651) fun _ text =>
            text = argv_text (pointers.map fun pointer =>
              shown_string string_limit (string_at pointer)) ↔ pointers.length ≠ 32) ∧
    (∀ (pointers : List UInt64) (string_at : UInt64 → Text), address ≠ 0 →
      VectorAt ⟨string_limit, some memory⟩ tid address 0 pointers → pointers.length < 32 →
      Decoder.pointer_at ⟨string_limit, some memory⟩ tid address pointers.length = none →
      (∀ pointer ∈ pointers, memory.StringAt tid pointer (string_at pointer)) →
        Renders heap (append_argv heap ⟨string_limit, some memory⟩ tid address)
          (128 * string_limit + 651) fun _ text =>
            text = broken_argv_text (pointers.map fun pointer =>
              shown_string string_limit (string_at pointer))) ∧
    Looks (append_argv heap ⟨string_limit, some memory⟩ tid address)
      (VectorReads ⟨string_limit, some memory⟩ tid address 0 32) := by
  refine ⟨?_, ?_, append_argv_looks⟩
  · intro pointers string_at hvector hstrings
    have hshown : ∀ pointer ∈ pointers, Adds heap
        (append_string heap ⟨string_limit, some memory⟩ tid pointer)
        (shown_string string_limit (string_at pointer)) :=
      fun pointer hpointer => append_string_adds (hstrings pointer hpointer) string_limit
    have htext := append_argv_adds hvector hshown
    apply Renders.mono ((append_argv_plain tid address).and htext) (le_refl _)
    rintro _ text ⟨-, rfl⟩
    have hiff := argv_text_iff (pointers.map fun pointer =>
      shown_string string_limit (string_at pointer))
    rw [List.length_map] at hiff
    exact hiff
  · intro pointers string_at hnonnull hvector hfew hbroken hstrings
    have hshown : ∀ pointer ∈ pointers, Adds heap
        (append_string heap ⟨string_limit, some memory⟩ tid pointer)
        (shown_string string_limit (string_at pointer)) :=
      fun pointer hpointer => append_string_adds (hstrings pointer hpointer) string_limit
    have htext := append_argv_broken hnonnull hvector hfew hbroken hshown
    apply Renders.mono ((append_argv_plain tid address).and htext) (le_refl _)
    rintro _ text ⟨-, rfl⟩
    rfl

end adds

/-- A tracee with a vector of `count` pointers to the string `a`. -/
def vector_memory (count : Nat) : MemoryReader where
  read _ address length := some <| List.take length <|
    if 4096 ≤ address.toNat ∧ address.toNat < 4096 + 8 * count then [0, 32, 0, 0, 0, 0, 0, 0]
    else if address.toNat = 4096 + 8 * count then [0, 0, 0, 0, 0, 0, 0, 0]
    else [97, 0]
  read_le := by
    intro _ _ length bytes h
    injection h with h
    rw [← h]
    exact List.length_take_le _ _

theorem vector_memory_string (count : Nat) : (vector_memory count).StringAt 1 8192 (cstr "a") →
    ∀ pointer ∈ List.replicate count (8192 : UInt64),
      (vector_memory count).StringAt 1 pointer (cstr "a") := by
  intro h pointer hpointer
  obtain rfl := List.eq_of_mem_replicate hpointer
  exact h

/-- The pointers are where they should be when the memory is asked for each of them. -/
theorem vector_memory_complete {count : Nat}
    (h : ∀ k < count, Decoder.pointer_at ⟨32, some (vector_memory count)⟩ 1 4096 k = some 8192)
    (hnull : Decoder.pointer_at ⟨32, some (vector_memory count)⟩ 1 4096 count = some 0) :
    CompleteVector ⟨32, some (vector_memory count)⟩ 1 4096 (List.replicate count 8192) := by
  constructor
  · decide
  · intro k pointer hpointer
    rw [List.getElem?_replicate] at hpointer
    split at hpointer
    · rename_i hk
      injection hpointer with hpointer
      subst hpointer
      rw [Nat.zero_add]
      exact ⟨by decide, h k hk⟩
    · simp at hpointer
  · rw [List.length_replicate]
    exact hnull

theorem append_argv_iff_two :
    Renders ample_heap (append_argv ample_heap ⟨32, some (vector_memory 2)⟩ 1 4096)
      (128 * 32 + 651) fun _ text =>
        text = argv_text ((List.replicate 2 8192).map fun _ : UInt64 =>
          shown_string 32 (cstr "a")) ↔ (List.replicate 2 (8192 : UInt64)).length ≠ 32 :=
  (append_argv_iff ample_heap 32 (vector_memory 2) 1 4096).1 _ (fun _ => cstr "a")
    (vector_memory_complete (by decide +kernel) (by decide +kernel))
    (vector_memory_string 2 ⟨by decide, by decide, fun _ _ => ⟨_, rfl, List.prefix_rfl⟩⟩)

/-- **A vector of 32 strings is shown with dots** although nothing of it is left out. -/
theorem whole_vector_dotted : ¬∀ (heap : Heap) (memory : MemoryReader) (tid : Pid)
    (address : UInt64) (string_limit : Nat) (pointers : List UInt64) (string_at : UInt64 → Text),
      CompleteVector ⟨string_limit, some memory⟩ tid address pointers →
      (∀ pointer ∈ pointers, memory.StringAt tid pointer (string_at pointer)) →
        Renders heap (append_argv heap ⟨string_limit, some memory⟩ tid address)
          (128 * string_limit + 651) fun _ text =>
            text = argv_text (pointers.map fun pointer =>
              shown_string string_limit (string_at pointer)) := by
  intro h
  have hvector : CompleteVector ⟨32, some (vector_memory 32)⟩ 1 4096 (List.replicate 32 8192) :=
    vector_memory_complete (by decide +kernel) (by decide +kernel)
  have hstrings := vector_memory_string 32
    ⟨by decide, by decide, fun _ _ => ⟨_, rfl, List.prefix_rfl⟩⟩
  have hshown : ∀ pointer ∈ List.replicate 32 (8192 : UInt64), Adds ample_heap
      (append_string ample_heap ⟨32, some (vector_memory 32)⟩ 1 pointer)
      (shown_string 32 (cstr "a")) :=
    fun pointer hpointer => append_string_adds (hstrings pointer hpointer) 32
  have hadds := append_argv_adds hvector hshown
  have hclaimed := h ample_heap (vector_memory 32) 1 4096 32 _ (fun _ => cstr "a") hvector hstrings
  obtain ⟨_, text, htext, rfl⟩ := (hclaimed.and hadds).exists_text (fun _ => rfl) (by decide)
  have hiff := argv_text_iff ((List.replicate 32 (8192 : UInt64)).map fun _ =>
    shown_string 32 (cstr "a"))
  rw [List.length_map] at hiff
  exact hiff.mp htext (by decide)

end Sysgaze
