import Sysgaze.Snapshots

/-! # The local copies of the memory of a tracee

    What the decoder reads of a tracee goes into a local array, and the tracee decides how
    much of it is filled.  Three things are shown for every memory, every event, and every
    reader that gives no more than it is asked for.

    * Each read is of a bounded length, which fits into its array, and there are at most 64
      of them for an argument (`Issues`).
    * No index leaves its array.  The functions that look into an array are written a second
      time, with each access checked and arrays that hold anything at first (`*_within`);
      they do the same as the first (`render_argument_within_eq`).
    * The text is the same whatever the arrays held (`render_argument_text`).
-/

open Fallible Numerals

namespace Sysgaze

/-! ### Checked accesses -/

/-- Why a checked program stops: memory is refused, or an index is outside an array. -/
inductive Fault where
  | memory
  | outside
  deriving DecidableEq, Repr

/-- Programs whose accesses are checked. -/
abbrev CopyM := Fallible Fault Rendering

/-- A program without accesses. -/
def lifted {α : Type} (m : RenderM α) : CopyM α := mapError (fun _ => Fault.memory) m

/-- The bytes from `offset` on, if all of them are in the array. -/
def bytes_within (array : Text) (offset size : Nat) : CopyM Text :=
  if offset + size ≤ array.length then pure (field array offset size) else throw .outside

section model
variable (heap : Heap) (libc : Libc) (decoder : Decoder)

/-- What `memchr` makes of the bytes of a string, or how many bytes of a buffer are shown. -/
def shown_within (data : Text) (bytes_read requested amount : Nat) (stop_at_nul : Bool) :
    CopyM (Nat × Bool) :=
  if stop_at_nul then
    bytes_within data 0 bytes_read >>= fun bytes =>
      pure (match bytes.findIdx? fun byte => byte == 0 with
        | some terminator => (terminator, false)
        | none => (bytes_read, true))
  else pure (bytes_read, decide (bytes_read < requested) || decide (requested > amount))

/-- `append_remote_bytes`. -/
def append_remote_bytes_within (tid : Pid) (address : UInt64) (requested : Nat)
    (stop_at_nul : Bool) : CopyM Unit :=
  let limit := decoder.string_limit
  let amount := if requested < limit then requested else limit
  if address = 0 then lifted (sg_buffer_append_cstr heap (cstr "NULL"))
  else if amount = 0 then
    lifted (sg_buffer_append_cstr heap (if requested = 0 then cstr "\"\"" else cstr "\"\"..."))
  else lifted (malloc heap amount) >>= fun
    | none => throw .memory
    | some data =>
      lifted (read_memory decoder tid address data amount) >>= fun r =>
        if !r.1 ∨ r.2.2 = 0 then lifted (append_pointer heap address)
        else
          shown_within r.2.1 r.2.2 requested amount stop_at_nul >>= fun shown =>
            bytes_within r.2.1 0 shown.1 >>= fun bytes =>
              lifted (append_escaped heap bytes) >>= fun _ =>
                if shown.2 then lifted (sg_buffer_append_cstr heap (cstr "...")) else pure ()

/-- `append_string`. -/
def append_string_within (tid : Pid) (address : UInt64) : CopyM Unit :=
  let requested :=
    if decoder.string_limit = SIZE_MAX then SIZE_MAX else decoder.string_limit + 1
  append_remote_bytes_within heap decoder tid address requested true

/-- The loop over the bytes of a path, with the number of those that are left. -/
def scan_path (storage : Text) : Nat → Nat → CopyM Nat
  | 0, shown => pure shown
  | remaining + 1, shown =>
    bytes_within storage (2 + shown) 1 >>= fun byte =>
      if byte = [0] then pure shown else scan_path storage remaining (shown + 1)

/-- The address in an `AF_UNIX` socket address. -/
def append_unix_path_within (storage : Text) (path_length : Nat) : CopyM Unit :=
  lifted (sg_buffer_append_cstr heap (cstr "\x7bsa_family=AF_UNIX, sun_path=")) >>= fun _ =>
    (if path_length > 0 then bytes_within storage 2 1 else pure []) >>= fun first =>
      (if first = [0] then
        lifted (sg_buffer_append_cstr heap (cstr "@")) >>= fun _ =>
          bytes_within storage 3 (path_length - 1) >>= fun name =>
            lifted (append_escaped heap name)
      else
        scan_path storage path_length 0 >>= fun shown =>
          bytes_within storage 2 shown >>= fun path => lifted (append_escaped heap path)) >>= fun _ =>
        lifted (sg_buffer_append_cstr heap (cstr "\x7d"))

/-- `append_sockaddr`; `storage` is what the array holds at first. -/
def append_sockaddr_within (storage : Text) (tid : Pid) (address : UInt64) (length : Nat) :
    CopyM Unit :=
  let amount := if length < sizeof_storage then length else sizeof_storage
  if address = 0 then lifted (sg_buffer_append_cstr heap (cstr "NULL"))
  else if amount < 2 then lifted (append_pointer heap address)
  else lifted (read_memory decoder tid address storage amount) >>= fun r =>
    if !r.1 ∨ r.2.2 < 2 then lifted (append_pointer heap address)
    else bytes_within r.2.1 0 2 >>= fun family =>
      let ss_family := little_endian family
      if ss_family = AF_INET ∧ r.2.2 ≥ 16 then
        bytes_within r.2.1 4 4 >>= fun sin_addr => bytes_within r.2.1 2 2 >>= fun sin_port =>
          lifted (match libc.inet_ntop AF_INET sin_addr with
            | none => append_pointer heap address
            | some text =>
              sg_buffer_append_format heap
                (cstr "\x7bsa_family=AF_INET, sin_port=htons(" ++ numeral 10 (ntohs sin_port) ++
                  cstr "), sin_addr=inet_addr(\"" ++ text ++ cstr "\")\x7d"))
      else if ss_family = AF_INET6 ∧ r.2.2 ≥ 28 then
        bytes_within r.2.1 8 16 >>= fun sin6_addr => bytes_within r.2.1 2 2 >>= fun sin6_port =>
          lifted (match libc.inet_ntop AF_INET6 sin6_addr with
            | none => append_pointer heap address
            | some text =>
              sg_buffer_append_format heap
                (cstr "\x7bsa_family=AF_INET6, sin6_port=htons(" ++
                  numeral 10 (ntohs sin6_port) ++
                  cstr "), sin6_addr=inet_pton(\"" ++ text ++ cstr "\")\x7d"))
      else if ss_family = AF_UNIX then append_unix_path_within heap r.2.1 (r.2.2 - 2)
      else
        lifted (sg_buffer_append_format heap
          (cstr "\x7bsa_family=" ++ numeral 10 ss_family ++ cstr "\x7d"))

/-- The loop of `append_argv`, with the number of rounds that are left; `pointer` is what
    the variable holds at first. -/
def append_argv_from_within (pointer : Text) (tid : Pid) (address : UInt64) :
    Nat → Nat → CopyM Unit
  | 0, _ => lifted (sg_buffer_append_cstr heap (cstr ", ...]"))
  | rounds + 1, index =>
    let offset := index * 8
    lifted (if address.toNat > 2 ^ 64 - 1 - offset then pure (false, pointer, 0)
      else read_memory decoder tid (address + UInt64.ofNat offset) pointer 8) >>= fun r =>
    if !r.1 ∨ r.2.2 ≠ 8 then
      lifted (do
        if index ≠ 0 then sg_buffer_append_cstr heap (cstr ", ") else pure ()
        sg_buffer_append_cstr heap (cstr "?")
        sg_buffer_append_cstr heap (cstr ", ...]"))
    else bytes_within r.2.1 0 8 >>= fun value =>
      if little_endian value = 0 then lifted (sg_buffer_append_cstr heap (cstr "]"))
      else
        lifted (if index ≠ 0 then sg_buffer_append_cstr heap (cstr ", ") else pure ()) >>= fun _ =>
          append_string_within heap decoder tid (UInt64.ofNat (little_endian value)) >>= fun _ =>
            append_argv_from_within pointer tid address rounds (index + 1)

/-- `append_argv`. -/
def append_argv_within (pointer : Text) (tid : Pid) (address : UInt64) : CopyM Unit :=
  if address = 0 then lifted (sg_buffer_append_cstr heap (cstr "NULL"))
  else
    lifted (sg_buffer_append_cstr heap (cstr "[")) >>= fun _ =>
      append_argv_from_within heap decoder pointer tid address 32 0

/-- A structure of the tracee, of which `fields` takes what is shown. -/
def append_structure_within (tid : Pid) (address : UInt64) (size : Nat)
    (fields : Text → CopyM Text) : CopyM Unit :=
  lifted (uninitialized heap size) >>= fun value =>
    lifted (read_memory decoder tid address value size) >>= fun r =>
      if !r.1 ∨ r.2.2 ≠ size then lifted (append_pointer heap address)
      else fields r.2.1 >>= fun text => lifted (sg_buffer_append_format heap text)

/-- `append_timespec`. -/
def append_timespec_within (tid : Pid) (address : UInt64) : CopyM Unit :=
  if address = 0 then lifted (sg_buffer_append_cstr heap (cstr "NULL"))
  else append_structure_within heap decoder tid address 16 fun value =>
    bytes_within value 0 8 >>= fun tv_sec => bytes_within value 8 8 >>= fun tv_nsec =>
      pure (cstr "\x7btv_sec=" ++ signed (int64 (little_endian tv_sec)) ++
        cstr ", tv_nsec=" ++ signed (int64 (little_endian tv_nsec)) ++ cstr "\x7d")

/-- `append_pipe`. -/
def append_pipe_within (tid : Pid) (event : SyscallEvent) (address : UInt64) : CopyM Unit :=
  if event.error_number ≠ 0 then lifted (append_pointer heap address)
  else append_structure_within heap decoder tid address 8 fun descriptors =>
    bytes_within descriptors 0 4 >>= fun first => bytes_within descriptors 4 4 >>= fun second =>
      pure (cstr "[" ++ signed (int32 (little_endian first)) ++ cstr ", " ++
        signed (int32 (little_endian second)) ++ cstr "]")

/-- What `%.*s` looks at of the `index`-th field of `struct utsname`. -/
def uts_field_within (value : Text) (index : Nat) : CopyM Text :=
  bytes_within value (index * sizeof_uts_field) sizeof_uts_field

/-- `append_uts`. -/
def append_uts_within (tid : Pid) (event : SyscallEvent) (address : UInt64) : CopyM Unit :=
  if event.error_number ≠ 0 then lifted (append_pointer heap address)
  else append_structure_within heap decoder tid address sizeof_utsname fun value =>
    uts_field_within value 0 >>= fun sysname => uts_field_within value 1 >>= fun nodename =>
      uts_field_within value 2 >>= fun release => uts_field_within value 4 >>= fun machine =>
        pure (cstr "\x7bsysname=\"" ++ c_string sysname ++ cstr "\", nodename=\"" ++
          c_string nodename ++ cstr "\", release=\"" ++ c_string release ++ cstr "\", machine=\"" ++
          c_string machine ++ cstr "\"\x7d")

/-- `render_argument`; `stale` is what the arrays hold at first that the code clears. -/
def render_argument_within (stale : Nat → Text) (tid : Pid) (event : SyscallEvent)
    (spec : ArgumentSpec) (index : Nat) : CopyM Unit :=
  let value := event.argument index
  match spec.kind with
  | .ARG_STRING => append_string_within heap decoder tid value
  | .ARG_STRING_OUT =>
    if event.error_number ≠ 0 then lifted (append_pointer heap value)
    else
      let length :=
        if event.result > 0 then event.result.toNat else (event.argument spec.auxiliary).toNat
      append_remote_bytes_within heap decoder tid value length true
  | .ARG_BUFFER_IN =>
    append_remote_bytes_within heap decoder tid value (event.argument spec.auxiliary).toNat false
  | .ARG_BUFFER_OUT =>
    if event.error_number ≠ 0 then lifted (append_pointer heap value)
    else if event.result = 0 then lifted (sg_buffer_append_cstr heap (cstr "\"\""))
    else if event.result < 0 then lifted (append_pointer heap value)
    else
      let length := event.result.toNat
      let length :=
        if length > (event.argument spec.auxiliary).toNat then
          (event.argument spec.auxiliary).toNat
        else length
      append_remote_bytes_within heap decoder tid value length false
  | .ARG_ARGV => append_argv_within heap decoder (stale 8) tid value
  | .ARG_SOCKADDR_IN =>
    append_sockaddr_within heap libc decoder (stale sizeof_storage) tid value
      (event.argument spec.auxiliary).toNat
  | .ARG_TIMESPEC_IN => append_timespec_within heap decoder tid value
  | .ARG_PIPE_OUT => append_pipe_within heap decoder tid event value
  | .ARG_UTS_OUT => append_uts_within heap decoder tid event value
  -- All other kinds look at the value alone.
  | _ => lifted (render_argument heap libc decoder tid event spec index)

end model

/-! ### The accesses stay inside -/

section accesses
variable {heap : Heap} {libc : Libc} {decoder : Decoder} {tid : Pid} {address : UInt64}
  {β : Type}

theorem lifted_bind {α : Type} {m : RenderM α} {f : α → RenderM β} :
    lifted (m >>= f) = lifted m >>= fun a => lifted (f a) := mapError_bind

/-- Programs that branch alike. -/
theorem lifted_branch {c : Prop} [Decidable c] {F F' : CopyM β} {m m' : RenderM β}
    (h : c → F = lifted m) (h' : ¬c → F' = lifted m') :
    (if c then F else F') = lifted (if c then m else m') := by
  split
  · rename_i hc
    exact h hc
  · rename_i hc
    exact h' hc

theorem lifted_branch_iff {c c' : Prop} [Decidable c] [Decidable c'] {F F' : CopyM β}
    {m m' : RenderM β} (hc : c ↔ c') (h : c → F = lifted m) (h' : ¬c → F' = lifted m') :
    (if c then F else F') = lifted (if c' then m else m') := by
  by_cases hthis : c
  · rw [if_pos hthis, if_pos (hc.mp hthis)]
    exact h hthis
  · rw [if_neg hthis, if_neg fun h => hthis (hc.mpr h)]
    exact h' hthis

/-- An access that stays inside. -/
theorem bytes_within_of_le {array : Text} {offset size : Nat} (h : offset + size ≤ array.length) :
    bytes_within array offset size = pure (field array offset size) := if_pos h

/-- An access to what has been read: what the array held at first does not count. -/
theorem bytes_within_append {bytes rest : Text} {offset size : Nat}
    (h : offset + size ≤ bytes.length) :
    bytes_within (bytes ++ rest) offset size = pure (field bytes offset size) := by
  rw [bytes_within_of_le (by rw [List.length_append]; omega), field_append h]

/-- **A read** into arrays of the same size that hold different bytes. -/
theorem lifted_read_congr {array array' : Text} {length : Nat} {F : Bool × Text × Nat → CopyM β}
    {f : Bool × Text × Nat → RenderM β} (hlength : array.length = array'.length)
    (h : F (read_result array (decoder.peek tid address length)) =
      lifted (f (read_result array' (decoder.peek tid address length)))) :
    lifted (read_memory decoder tid address array length) >>= F =
      lifted (read_memory decoder tid address array' length >>= f) := by
  apply ext_exec
  intro s
  unfold Decoder.peek at h
  unfold lifted read_memory
  cases hmemory : decoder.memory with
  | none =>
    rw [hmemory] at h
    exact congrArg (fun m => exec m s) h
  | some memory =>
    rw [hmemory] at h
    dsimp only at h ⊢
    split
    · rename_i hnull
      rw [if_pos hnull] at h
      exact congrArg (fun m => exec m s) h
    · rename_i hnull
      rw [if_neg hnull] at h
      rw [hlength]
      let next : Rendering :=
        { s with reads := s.reads ++ [⟨tid, address, length, array'.length⟩] }
      cases hread : memory.read tid address length with
      | none =>
        rw [hread] at h
        exact congrArg (fun m : CopyM β => m.exec next) h
      | some bytes =>
        rw [hread] at h
        exact congrArg (fun m : CopyM β => m.exec next) h

/-- New memory: all that is known of it is its size. -/
theorem lifted_malloc_congr {size : Nat} {F : Option Text → CopyM β} {f : Option Text → RenderM β}
    (hnone : F none = lifted (f none))
    (hsome : ∀ data : Text, data.length = size → F (some data) = lifted (f (some data))) :
    lifted (malloc heap size) >>= F = lifted (malloc heap size >>= f) := by
  have hdata : ∀ data, (∀ bytes, data = some bytes → bytes.length = size) →
      F data = lifted (f data) := by
    rintro (_ | bytes) h
    · exact hnone
    · exact hsome bytes (h bytes rfl)
  apply ext_exec
  intro s
  have hnew := hdata (if heap.alloc s.asked then some (heap.fresh s.asked size) else none) (by
    intro bytes h
    split at h
    · rw [← Option.some.inj h]
      exact length_fresh s.asked size
    · exact absurd h (by simp))
  exact congrArg (fun m : CopyM β => m.exec { s with asked := s.asked + 1 }) hnew

theorem lifted_array_congr {size : Nat} {F : Text → CopyM β} {f : Text → RenderM β}
    (h : ∀ array : Text, array.length = size → F array = lifted (f array)) :
    lifted (uninitialized heap size) >>= F = lifted (uninitialized heap size >>= f) := by
  apply ext_exec
  intro s
  exact congrArg (fun m : CopyM β => m.exec { s with asked := s.asked + 1 })
    (h (heap.fresh s.asked size) (length_fresh s.asked size))

/-- **Bytes**: the search for a NUL and the text stay within what has been read. -/
theorem append_remote_bytes_within_eq (requested : Nat) (stop_at_nul : Bool) :
    append_remote_bytes_within heap decoder tid address requested stop_at_nul =
      lifted (append_remote_bytes heap decoder tid address requested stop_at_nul) := by
  unfold append_remote_bytes_within append_remote_bytes
  dsimp only
  generalize (if requested < decoder.string_limit then requested else decoder.string_limit) = amount
  apply lifted_branch
  · exact fun _ => rfl
  intro _
  apply lifted_branch
  · exact fun _ => rfl
  intro _
  apply lifted_malloc_congr
  · rfl
  intro data hdata
  apply lifted_read_congr rfl
  cases hpeek : decoder.peek tid address amount with
  | none => rfl
  | some bytes =>
    apply lifted_branch
    · exact fun _ => rfl
    intro _
    have hshown : shown_within (bytes ++ data.drop bytes.length) bytes.length requested amount
        stop_at_nul = pure (remote_shown requested amount stop_at_nul bytes bytes.length) := by
      unfold shown_within remote_shown
      split
      · have hall : 0 + bytes.length ≤ bytes.length := by omega
        rw [bytes_within_append hall, pure_bind]
        unfold field
        rw [List.drop_zero, List.take_length] <;> rfl
      · rfl
    have hfew := remote_shown_le requested amount stop_at_nul bytes
    have hin : 0 + (remote_shown requested amount stop_at_nul bytes bytes.length).1 ≤
        bytes.length := by omega
    show (shown_within (bytes ++ data.drop bytes.length) bytes.length requested amount
        stop_at_nul >>= fun shown =>
          bytes_within (bytes ++ data.drop bytes.length) 0 shown.1 >>= fun text =>
            lifted (append_escaped heap text) >>= fun _ =>
              if shown.2 = true then lifted (sg_buffer_append_cstr heap (cstr "..."))
              else pure ()) =
      lifted (append_escaped heap ((bytes ++ data.drop bytes.length).take
        (remote_shown requested amount stop_at_nul (bytes ++ data.drop bytes.length)
          bytes.length).1) >>= fun _ =>
        if (remote_shown requested amount stop_at_nul (bytes ++ data.drop bytes.length)
            bytes.length).2 = true then sg_buffer_append_cstr heap (cstr "...")
        else pure ())
    rw [hshown, pure_bind, bytes_within_append hin, pure_bind, remote_shown_append,
      List.take_append_of_le_length hfew, lifted_bind]
    unfold field
    rw [List.drop_zero]
    congr 1
    funext _
    exact lifted_branch (fun _ => rfl) fun _ => rfl

theorem append_string_within_eq : append_string_within heap decoder tid address =
    lifted (append_string heap decoder tid address) := append_remote_bytes_within_eq _ true

/-- The loop over a path ends at its NUL. -/
theorem scan_path_eq {storage : Text} : ∀ remaining shown : Nat,
    2 + shown + remaining ≤ storage.length →
      scan_path storage remaining shown =
        pure (shown + (c_string (field storage (2 + shown) remaining)).length) := by
  intro remaining
  induction remaining with
  | zero =>
    intro shown _
    rfl
  | succ remaining ih =>
    intro shown h
    have hbyte : 2 + shown < storage.length := by omega
    obtain ⟨byte, hfirst⟩ : ∃ byte, storage.drop (2 + shown) =
        byte :: storage.drop (2 + shown + 1) := ⟨_, List.drop_eq_getElem_cons hbyte⟩
    unfold scan_path
    rw [bytes_within_of_le (by omega), pure_bind]
    unfold field
    rw [hfirst, List.take_succ_cons, List.take_zero, List.take_succ_cons]
    by_cases hnul : byte = 0
    · subst hnul
      rfl
    · have hnot : ¬[byte] = [0] := fun h => hnul (List.cons.inj h).1
      rw [if_neg hnot, ih (shown + 1) (by omega)]
      unfold c_string field
      rw [List.takeWhile_cons_of_pos (by simpa using hnul), List.length_cons]
      congr 1
      rw [show 2 + (shown + 1) = 2 + shown + 1 by omega]
      omega

theorem append_unix_path_within_eq {storage : Text} {path_length : Nat}
    (h : 2 + path_length ≤ storage.length) :
    append_unix_path_within heap storage path_length =
      lifted (append_unix_path heap (field storage 2 path_length)) := by
  have hclosed : ∀ text : Text, (lifted (append_escaped heap text) >>= fun _ =>
      lifted (sg_buffer_append_cstr heap (cstr "\x7d"))) =
      lifted (append_escaped heap text >>= fun _ => sg_buffer_append_cstr heap (cstr "\x7d")) :=
    fun text => lifted_bind.symm
  have hscan : (scan_path storage path_length 0 >>= fun shown =>
      bytes_within storage 2 shown >>= fun path => lifted (append_escaped heap path)) =
      lifted (append_escaped heap (c_string (field storage 2 path_length))) := by
    have hshort : (c_string (field storage 2 path_length)).length ≤ path_length :=
      (List.takeWhile_sublist _).length_le.trans (List.length_take_le _ _)
    have hpath : field storage 2 (c_string (field storage 2 path_length)).length =
        c_string (field storage 2 path_length) := by
      have hbegins := List.prefix_iff_eq_take.mp (List.takeWhile_prefix
        (fun byte : UInt8 => byte != 0) (l := field storage 2 path_length))
      have hlength := Nat.min_eq_left hshort
      refine Eq.trans ?_ hbegins.symm
      unfold c_string field at hlength ⊢
      rw [List.take_take, hlength]
    rw [scan_path_eq path_length 0 (by omega), pure_bind, Nat.zero_add, Nat.add_zero,
      bytes_within_of_le (by omega), pure_bind, hpath]
  unfold append_unix_path_within append_unix_path
  rw [lifted_bind]
  congr 1
  funext _
  cases path_length with
  | zero =>
    rw [if_neg (Nat.lt_irrefl 0), pure_bind, if_neg (by simp), hscan]
    exact hclosed _
  | succ path_length =>
    have hbyte : 2 < storage.length := by omega
    obtain ⟨byte, hfirst⟩ : ∃ byte, storage.drop 2 = byte :: storage.drop 3 :=
      ⟨_, List.drop_eq_getElem_cons hbyte⟩
    have hone : field storage 2 1 = [byte] := by
      unfold field
      rw [hfirst]
      rfl
    have hname : field storage 2 (path_length + 1) = byte :: field storage 3 path_length := by
      unfold field
      rw [hfirst, List.take_succ_cons]
    rw [if_pos (Nat.succ_pos _), bytes_within_of_le (by omega), pure_bind, hone, hscan, hname]
    by_cases hnul : byte = 0
    · subst hnul
      show _ = lifted (sg_buffer_append_cstr heap (cstr "@") >>= fun _ =>
        append_escaped heap (field storage 3 path_length) >>= fun _ =>
          sg_buffer_append_cstr heap (cstr "\x7d"))
      rw [if_pos rfl, bytes_within_of_le (by omega), lifted_bind, bind_assoc]
      congr 1
      funext _
      rw [pure_bind]
      exact hclosed _
    · have hnot : ¬[byte] = [0] := fun h => hnul (List.cons.inj h).1
      rw [if_neg hnot, hclosed]
      split
      · rename_i habstract
        exact absurd (List.cons.inj habstract).1 hnul
      · rfl

/-- **Socket addresses**: a family, a port and an address are looked at only when they have
    been read, and a path ends where the reading did. -/
theorem append_sockaddr_within_eq {storage : Text} (hstorage : storage.length = sizeof_storage)
    (length : Nat) : append_sockaddr_within heap libc decoder storage tid address length =
      lifted (append_sockaddr heap libc decoder tid address length) := by
  unfold append_sockaddr_within append_sockaddr
  dsimp only
  apply lifted_branch
  · exact fun _ => rfl
  intro _
  apply lifted_branch
  · exact fun _ => rfl
  intro _
  apply lifted_read_congr (hstorage.trans (List.length_replicate ..).symm)
  cases hpeek : decoder.peek tid address
      (if length < sizeof_storage then length else sizeof_storage) with
  | none => rfl
  | some bytes =>
    apply lifted_branch
    · exact fun _ => rfl
    intro hshort
    have hsome : 2 ≤ bytes.length := by
      by_contra hfew
      exact hshort (Or.inr (Nat.lt_of_not_le hfew))
    -- What the arrays held at first stands behind the bytes that have been read.
    have hsame : ∀ offset size, offset + size ≤ bytes.length →
        field (read_result (List.replicate sizeof_storage 0) (some bytes)).2.1 offset size =
          field bytes offset size := fun _ _ h => field_append h
    have haccess : ∀ offset size, offset + size ≤ bytes.length →
        bytes_within (read_result storage (some bytes)).2.1 offset size =
          pure (field bytes offset size) := fun _ _ h => bytes_within_append h
    rw [haccess 0 2 (by omega), pure_bind]
    apply lifted_branch_iff (and_congr (by rw [hsame 0 2 (by omega)]) Iff.rfl)
    · rintro ⟨_, hwhole⟩
      have hwhole : 16 ≤ bytes.length := hwhole
      rw [haccess 4 4 (by omega), pure_bind, haccess 2 2 (by omega), pure_bind,
        hsame 4 4 (by omega), hsame 2 2 (by omega)] <;>
      cases libc.inet_ntop AF_INET (field bytes 4 4) <;> rfl
    intro _
    apply lifted_branch_iff (and_congr (by rw [hsame 0 2 (by omega)]) Iff.rfl)
    · rintro ⟨_, hwhole⟩
      have hwhole : 28 ≤ bytes.length := hwhole
      rw [haccess 8 16 (by omega), pure_bind, haccess 2 2 (by omega), pure_bind,
        hsame 8 16 (by omega), hsame 2 2 (by omega)] <;>
      cases libc.inet_ntop AF_INET6 (field bytes 8 16) <;> rfl
    intro _
    apply lifted_branch_iff (by rw [hsame 0 2 (by omega)])
    · intro _
      have hpath : 2 + (bytes.length - 2) ≤ bytes.length := by omega
      have hroom : 2 + (bytes.length - 2) ≤
          (bytes ++ storage.drop bytes.length).length := by
        rw [List.length_append]
        omega
      refine (append_unix_path_within_eq hroom).trans ?_
      rw [field_append hpath]
      exact congrArg (fun path => lifted (append_unix_path heap path)) (hsame 2 _ hpath).symm
    · intro _
      rw [hsame 0 2 (by omega)]

/-- **Vectors**: a pointer is looked at only when all of it has been read. -/
theorem append_argv_from_within_eq {pointer : Text} (hpointer : pointer.length = 8)
    (rounds : Nat) : ∀ index : Nat,
      append_argv_from_within heap decoder pointer tid address rounds index =
        lifted (append_argv_from heap decoder tid address rounds index) := by
  induction rounds with
  | zero => exact fun _ => rfl
  | succ rounds ih =>
    intro index
    have hzeros : (List.replicate 8 (0 : UInt8)).length = 8 := List.length_replicate ..
    unfold append_argv_from_within append_argv_from
    dsimp only
    split
    · rfl
    apply lifted_read_congr (hpointer.trans hzeros.symm)
    cases hpeek : decoder.peek tid (address + UInt64.ofNat (index * 8)) 8 with
    | none => rfl
    | some bytes =>
      apply lifted_branch
      · exact fun _ => rfl
      intro hbroken
      have hwhole : bytes.length = 8 := by
        by_contra hpart
        exact hbroken (Or.inr hpart)
      have hvalue : (read_result (List.replicate 8 0) (some bytes)).2.1 = bytes := by
        show bytes ++ (List.replicate 8 0).drop bytes.length = bytes
        rw [hwhole]
        exact List.append_nil _
      have haccess : bytes_within (read_result pointer (some bytes)).2.1 0 8 = pure bytes := by
        refine (bytes_within_append (by omega)).trans ?_
        unfold field
        rw [List.drop_zero, ← hwhole, List.take_length]
      rw [haccess, pure_bind, hvalue]
      apply lifted_branch
      · exact fun _ => rfl
      intro _
      have hrest : (append_string_within heap decoder tid (UInt64.ofNat (little_endian bytes)) >>=
          fun _ => append_argv_from_within heap decoder pointer tid address rounds (index + 1)) =
          lifted (append_string heap decoder tid (UInt64.ofNat (little_endian bytes)) >>=
            fun _ => append_argv_from heap decoder tid address rounds (index + 1)) := by
        rw [append_string_within_eq, lifted_bind, ih]
      rw [hrest]
      split
      · exact lifted_bind.symm
      · rfl

theorem append_argv_within_eq {pointer : Text} (hpointer : pointer.length = 8) :
    append_argv_within heap decoder pointer tid address =
      lifted (append_argv heap decoder tid address) := by
  unfold append_argv_within append_argv
  apply lifted_branch
  · exact fun _ => rfl
  · intro _
    rw [lifted_bind]
    congr 1
    funext _
    exact append_argv_from_within_eq hpointer 32 0

/-- **Structures**: the fields are looked at only when all of them have been read. -/
theorem append_structure_within_eq {size : Nat} {fields : Text → CopyM Text} (text : Text → Text)
    (hfields : ∀ value : Text, value.length = size → fields value = pure (text value)) :
    append_structure_within heap decoder tid address size fields =
      lifted (uninitialized heap size >>= fun value =>
        read_memory decoder tid address value size >>= fun r =>
          if (!r.1) = true ∨ r.2.2 ≠ size then append_pointer heap address
          else sg_buffer_append_format heap (text r.2.1)) := by
  unfold append_structure_within
  apply lifted_array_congr
  intro array harray
  apply lifted_read_congr rfl
  cases hpeek : decoder.peek tid address size with
  | none => rfl
  | some bytes =>
    apply lifted_branch
    · exact fun _ => rfl
    intro hbroken
    have hwhole : bytes.length = size := by
      by_contra hpart
      exact hbroken (Or.inr hpart)
    have hlength : (read_result array (some bytes)).2.1.length = size := by
      show (bytes ++ array.drop bytes.length).length = size
      rw [List.length_append, List.length_drop]
      omega
    rw [hfields _ hlength, pure_bind]

theorem append_timespec_within_eq : append_timespec_within heap decoder tid address =
    lifted (append_timespec heap decoder tid address) := by
  unfold append_timespec_within append_timespec
  apply lifted_branch
  · exact fun _ => rfl
  · intro _
    apply append_structure_within_eq fun value =>
      cstr "\x7btv_sec=" ++ signed (int64 (little_endian (field value 0 8))) ++
        cstr ", tv_nsec=" ++ signed (int64 (little_endian (field value 8 8))) ++ cstr "\x7d"
    intro value hlength
    rw [bytes_within_of_le (by omega), pure_bind, bytes_within_of_le (by omega), pure_bind]

theorem append_pipe_within_eq (event : SyscallEvent) :
    append_pipe_within heap decoder tid event address =
      lifted (append_pipe heap decoder tid event address) := by
  unfold append_pipe_within append_pipe
  apply lifted_branch
  · exact fun _ => rfl
  · intro _
    apply append_structure_within_eq fun descriptors =>
      cstr "[" ++ signed (int32 (little_endian (field descriptors 0 4))) ++ cstr ", " ++
        signed (int32 (little_endian (field descriptors 4 4))) ++ cstr "]"
    intro value hlength
    rw [bytes_within_of_le (by omega), pure_bind, bytes_within_of_le (by omega), pure_bind]

theorem append_uts_within_eq (event : SyscallEvent) :
    append_uts_within heap decoder tid event address =
      lifted (append_uts heap decoder tid event address) := by
  unfold append_uts_within append_uts
  apply lifted_branch
  · exact fun _ => rfl
  · intro _
    apply append_structure_within_eq uts_text
    intro value hlength
    have hfield : ∀ index < 6, uts_field_within value index =
        pure (field value (index * sizeof_uts_field) sizeof_uts_field) := by
      intro index hindex
      apply bytes_within_of_le
      show index * 65 + 65 ≤ value.length
      have hlength : value.length = 390 := hlength
      omega
    rw [hfield 0 (by omega), pure_bind, hfield 1 (by omega), pure_bind, hfield 2 (by omega),
      pure_bind, hfield 4 (by omega), pure_bind]
    rfl

/-- **No access leaves its array**, and nothing depends on what the arrays held at first. -/
theorem render_argument_within_eq {stale : Nat → Text} (hstale : ∀ size, (stale size).length = size)
    (event : SyscallEvent) (spec : ArgumentSpec) (index : Nat) :
    render_argument_within heap libc decoder stale tid event spec index =
      lifted (render_argument heap libc decoder tid event spec index) := by
  unfold render_argument_within render_argument
  dsimp only
  generalize spec.kind = kind
  cases kind with
  | ARG_STRING => exact append_string_within_eq
  | ARG_STRING_OUT =>
    exact lifted_branch (fun _ => rfl) fun _ => append_remote_bytes_within_eq _ true
  | ARG_BUFFER_IN => exact append_remote_bytes_within_eq _ false
  | ARG_BUFFER_OUT =>
    exact lifted_branch (fun _ => rfl) fun _ => lifted_branch (fun _ => rfl) fun _ =>
      lifted_branch (fun _ => rfl) fun _ => append_remote_bytes_within_eq _ false
  | ARG_ARGV => exact append_argv_within_eq (hstale 8)
  | ARG_SOCKADDR_IN => exact append_sockaddr_within_eq (hstale sizeof_storage) _
  | ARG_TIMESPEC_IN => exact append_timespec_within_eq
  | ARG_PIPE_OUT => exact append_pipe_within_eq event
  | ARG_UTS_OUT => exact append_uts_within_eq event
  | _ => rfl

end accesses

/-! ### The reads are bounded -/

/-- A read that fits into its array, and that is no longer than a string or a structure. -/
structure MemoryRead.Fits (tid : Pid) (string_limit : Nat) (read : MemoryRead) : Prop where
  tid : read.tid = tid
  address : read.address ≠ 0
  room : read.length ≤ read.room
  length : read.length ≤ max string_limit sizeof_utsname

/-- At most `n` reads, all of which fit. -/
def FewReads (tid : Pid) (string_limit n : Nat) (reads : List MemoryRead) : Prop :=
  reads.length ≤ n ∧ ∀ read ∈ reads, read.Fits tid string_limit

section few
variable {heap : Heap} {libc : Libc} {decoder : Decoder} {tid : Pid} {address : UInt64}
  {α β : Type} {m m' : RenderM α} {f : α → RenderM β} {limit n n' : Nat}

theorem few_nil : FewReads tid limit n [] := ⟨Nat.zero_le _, (by simp)⟩

theorem FewReads.append {reads reads' : List MemoryRead} (h : FewReads tid limit n reads)
    (h' : FewReads tid limit n' reads') : FewReads tid limit (n + n') (reads ++ reads') := by
  constructor
  · rw [List.length_append]
    exact Nat.add_le_add h.1 h'.1
  · intro read hread
    rcases List.mem_append.mp hread with hread | hread
    · exact h.2 read hread
    · exact h'.2 read hread

theorem FewReads.mono {reads : List MemoryRead} (h : FewReads tid limit n reads) (hn : n ≤ n') :
    FewReads tid limit n' reads := ⟨h.1.trans hn, h.2⟩

theorem few_issued {length room : Nat} (hroom : length ≤ room)
    (hlength : length ≤ max limit sizeof_utsname) :
    FewReads tid limit 1 (decoder.issued tid address length room) := by
  unfold Decoder.issued
  split
  · exact few_nil
  · split
    · exact few_nil
    · rename_i hnull
      refine ⟨le_refl _, fun read hread => ?_⟩
      rw [List.mem_singleton.mp hread]
      exact ⟨rfl, hnull, hroom, hlength⟩

theorem Blind.few (h : Blind m) : Looks m (FewReads tid limit n) := h.looks few_nil

theorem few_bind (hm : Looks m (FewReads tid limit n))
    (hf : ∀ a, Looks (f a) (FewReads tid limit n')) :
    Looks (m >>= f) (FewReads tid limit (n + n')) :=
  looks_bind hm hf (fun _ h => h.mono (Nat.le_add_right n n')) fun _ _ h h' => h.append h'

/-- A read, of which something without reads is made. -/
theorem few_read {f : Bool × Text × Nat → RenderM α} {array : Text} {length : Nat}
    (hroom : length ≤ array.length) (hlength : length ≤ max limit sizeof_utsname)
    (hf : ∀ r, Blind (f r)) :
    Looks (read_memory decoder tid address array length >>= f) (FewReads tid limit 1) := by
  apply looks_read
  apply (hf _).looks
  rw [List.append_nil]
  exact few_issued hroom hlength

theorem looks_array {P : List MemoryRead → Prop} {f : Text → RenderM α} {size : Nat}
    (h : ∀ array : Text, array.length = size → Looks (f array) P) :
    Looks (uninitialized heap size >>= f) P := by
  intro s hok
  rw [holds_bind]
  exact h _ (length_fresh s.asked size) { s with asked := s.asked + 1 } hok

theorem append_remote_bytes_few (requested : Nat) (stop_at_nul : Bool) :
    Looks (append_remote_bytes heap decoder tid address requested stop_at_nul)
      (FewReads tid decoder.string_limit 1) := by
  apply (append_remote_bytes_looks requested stop_at_nul).mono
  rintro reads (rfl | ⟨amount, hamount, hnull, rfl⟩)
  · exact few_nil
  · refine ⟨le_refl _, fun read hread => ?_⟩
    rw [List.mem_singleton.mp hread]
    exact ⟨rfl, hnull, le_refl _, hamount.trans (le_max_left _ _)⟩

theorem append_unix_path_blind (path : Text) : Blind (append_unix_path heap path) := by
  unfold append_unix_path
  apply (blind_append _).bind
  intro _
  dsimp only
  split
  · exact (blind_append _).bind fun _ => (append_escaped_blind _).bind fun _ => blind_append _
  · exact (append_escaped_blind _).bind fun _ => blind_append _

theorem append_sockaddr_few (length : Nat) :
    Looks (append_sockaddr heap libc decoder tid address length)
      (FewReads tid decoder.string_limit 1) := by
  have hpointer : Blind (append_pointer heap address) := append_pointer_blind address
  unfold append_sockaddr
  dsimp only
  apply looks_ite
  · exact fun _ => (blind_append _).few
  intro _
  apply looks_ite
  · exact fun _ => hpointer.few
  intro _
  have hamount : (if length < sizeof_storage then length else sizeof_storage) ≤ 128 := by
    split
    · rename_i hshort
      exact hshort.le
    · exact le_refl _
  apply few_read
  · rw [List.length_replicate]
    exact hamount
  · exact hamount.trans ((by decide : 128 ≤ sizeof_utsname).trans (le_max_right _ _))
  · intro r
    apply looks_ite (fun _ => hpointer)
    intro _
    apply looks_ite
    · intro _
      cases libc.inet_ntop AF_INET (field r.2.1 4 4) with
      | none => exact hpointer
      | some text => exact blind_format _
    intro _
    apply looks_ite
    · intro _
      cases libc.inet_ntop AF_INET6 (field r.2.1 8 16) with
      | none => exact hpointer
      | some text => exact blind_format _
    intro _
    exact looks_ite (fun _ => append_unix_path_blind _) fun _ => blind_format _

theorem few_of_le (h : Looks m (FewReads tid limit n)) (hn : n ≤ n') :
    Looks m (FewReads tid limit n') := h.mono fun _ hfew => hfew.mono hn

/-- Two reads for each pointer of a vector: its own, and that of its string. -/
theorem append_argv_from_few (rounds : Nat) : ∀ index : Nat,
    Looks (append_argv_from heap decoder tid address rounds index)
      (FewReads tid decoder.string_limit (2 * rounds)) := by
  induction rounds with
  | zero => exact fun _ => (blind_append _).few
  | succ rounds ih =>
    intro index
    rw [append_argv_from_succ]
    apply looks_ite
    · exact fun _ => (append_argv_entry_broken (Or.inl rfl) _ _).few
    intro _
    apply looks_read
    have hpointer : FewReads tid decoder.string_limit 1 (decoder.issued tid
        (address + UInt64.ofNat (index * 8)) 8 (List.replicate 8 (0 : UInt8)).length) :=
      few_issued (List.length_replicate ..).ge
        ((by decide : 8 ≤ sizeof_utsname).trans (le_max_right _ _))
    refine Looks.mono (?_ : Looks _ (FewReads tid decoder.string_limit (1 + 2 * rounds)))
      fun reads hfew => (hpointer.append hfew).mono (by omega)
    generalize read_result _ _ = r
    by_cases hbroken : (!r.1) = true ∨ r.2.2 ≠ 8
    · exact (append_argv_entry_broken hbroken _ _).few
    unfold append_argv_entry
    rw [if_neg hbroken]
    apply looks_ite
    · exact fun _ => (blind_append _).few
    intro _
    have hstring : ∀ pointer, Looks (append_string heap decoder tid pointer >>= fun _ =>
        append_argv_from heap decoder tid address rounds (index + 1))
        (FewReads tid decoder.string_limit (1 + 2 * rounds)) := fun pointer =>
      few_bind (append_remote_bytes_few _ true) fun _ => ih (index + 1)
    apply looks_ite
    · exact fun _ => blind_bind (blind_append _) (fun _ => hstring _) few_nil
    · exact fun _ => hstring _

/-- A structure is read at once. -/
theorem structure_few {size : Nat} (hsize : size ≤ sizeof_utsname) (text : Text → Text) :
    Looks (uninitialized heap size >>= fun value =>
      read_memory decoder tid address value size >>= fun r =>
        if (!r.1) = true ∨ r.2.2 ≠ size then append_pointer heap address
        else sg_buffer_append_format heap (text r.2.1)) (FewReads tid decoder.string_limit 1) := by
  apply looks_array
  intro array harray
  apply few_read harray.ge (hsize.trans (le_max_right _ _))
  exact fun r => looks_ite (fun _ => append_pointer_blind _) fun _ => blind_format _

/-- Something is put in front on a condition, and nothing is read. -/
theorem blind_prefixed {c : Prop} [Decidable c] {m' : RenderM β} (hm : Blind m) (hm' : Blind m') :
    Blind (if c then m >>= fun _ => m' else m') :=
  looks_ite (fun _ => hm.bind fun _ => hm') fun _ => hm'

theorem append_flag_names_blind {names : List FlagName} : ∀ (remaining : UInt64) (wrote : Bool),
    Blind (append_flag_names heap names remaining wrote) := by
  induction names with
  | nil => exact fun _ _ => looks_pure _ rfl
  | cons entry names ih =>
    intro remaining wrote
    have hnamed : Blind (sg_buffer_append_cstr heap entry.name >>= fun _ =>
        append_flag_names heap names (remaining &&& ~~~entry.value) true) :=
      (blind_append _).bind fun _ => ih _ true
    unfold append_flag_names
    apply looks_ite
    · intro _
      dsimp only
      exact blind_prefixed (blind_append _) hnamed
    · exact fun _ => ih remaining wrote

theorem append_flags_blind (value : UInt64) (names : List FlagName) (zero_name : Option Text) :
    Blind (append_flags heap value names zero_name) := by
  unfold append_flags
  split
  · exact blind_append _
  · apply (append_flag_names_blind _ _).bind
    intro r
    exact looks_ite (fun _ => blind_prefixed (blind_append _) (blind_format _))
      fun _ => looks_pure _ rfl

theorem append_open_flags_blind (value : UInt64) : Blind (append_open_flags heap value) := by
  unfold append_open_flags
  apply (blind_append _).bind
  intro _
  exact looks_ite (fun _ => looks_pure _ rfl) fun _ =>
    (blind_append _).bind fun _ => append_flags_blind _ _ _

theorem append_signal_blind (value : UInt64) : Blind (append_signal heap libc value) := by
  unfold append_signal
  dsimp only
  split
  · exact blind_format _
  · exact blind_format _

theorem append_clone_flags_blind (value : UInt64) : Blind (append_clone_flags heap libc value) := by
  unfold append_clone_flags
  apply (append_flags_blind _ _ _).bind
  intro _
  exact looks_ite (fun _ => looks_pure _ rfl) fun _ =>
    (blind_append _).bind fun _ => append_signal_blind _

theorem append_named_integer_blind (value : Int) (names : List (Int × Text)) :
    Blind (append_named_integer heap value names) := by
  induction names with
  | nil => exact blind_format _
  | cons entry names ih =>
    unfold append_named_integer
    exact looks_ite (fun _ => blind_append _) fun _ => ih

theorem append_socket_type_blind (value : UInt64) : Blind (append_socket_type heap value) := by
  have hrest : ∀ flags : UInt64, Blind (if flags = 0 then pure () else
      sg_buffer_append_format heap (cstr "|" ++ hexadecimal flags.toNat)) :=
    fun flags => looks_ite (fun _ => looks_pure _ rfl) fun _ => blind_format _
  unfold append_socket_type
  dsimp only
  split
  · exact (blind_format _).bind fun _ =>
      blind_prefixed (blind_append _) (blind_prefixed (blind_append _) (hrest _))
  · exact (blind_append _).bind fun _ =>
      blind_prefixed (blind_append _) (blind_prefixed (blind_append _) (hrest _))

/-- **At most 64 reads** for an argument, of which each fits. -/
theorem render_argument_few (event : SyscallEvent) (spec : ArgumentSpec) (index : Nat) :
    Looks (render_argument heap libc decoder tid event spec index)
      (FewReads tid decoder.string_limit 64) := by
  have hpointer : Blind (append_pointer heap (event.argument index)) := append_pointer_blind _
  have hformat : ∀ text : Text,
      Looks (sg_buffer_append_format heap text) (FewReads tid decoder.string_limit 64) :=
    fun text => (blind_format text).few
  have hnamed : ∀ names, Looks (append_named_integer heap (int32 (event.argument index).toNat) names)
      (FewReads tid decoder.string_limit 64) := fun names => (append_named_integer_blind _ names).few
  have hflags : ∀ names zero_name, Looks
      (append_flags heap (event.argument index) names zero_name)
      (FewReads tid decoder.string_limit 64) := fun names zero_name =>
    (append_flags_blind _ names zero_name).few
  have hremote : ∀ requested stop_at_nul, Looks (append_remote_bytes heap decoder tid
      (event.argument index) requested stop_at_nul) (FewReads tid decoder.string_limit 64) :=
    fun requested stop_at_nul => few_of_le (append_remote_bytes_few requested stop_at_nul) (by omega)
  have hstructure : ∀ size ≤ sizeof_utsname, ∀ text : Text → Text, Looks
      (uninitialized heap size >>= fun value =>
        read_memory decoder tid (event.argument index) value size >>= fun r =>
          if (!r.1) = true ∨ r.2.2 ≠ size then append_pointer heap (event.argument index)
          else sg_buffer_append_format heap (text r.2.1)) (FewReads tid decoder.string_limit 64) :=
    fun size hsize text => few_of_le (structure_few hsize text) (by omega)
  unfold render_argument
  dsimp only
  generalize spec.kind = kind
  cases kind with
  | ARG_HEX | ARG_U64 | ARG_SIZE | ARG_MODE | ARG_S32 | ARG_FD => exact hformat _
  | ARG_DIRFD => exact looks_ite (fun _ => (blind_append _).few) fun _ => hformat _
  | ARG_POINTER => exact hpointer.few
  | ARG_STRING => exact hremote _ true
  | ARG_STRING_OUT => exact looks_ite (fun _ => hpointer.few) fun _ => hremote _ true
  | ARG_BUFFER_IN => exact hremote _ false
  | ARG_BUFFER_OUT =>
    exact looks_ite (fun _ => hpointer.few) fun _ => looks_ite (fun _ => (blind_append _).few)
      fun _ => looks_ite (fun _ => hpointer.few) fun _ => hremote _ false
  | ARG_ARGV =>
    apply looks_ite
    · exact fun _ => (blind_append _).few
    · exact fun _ => blind_bind (blind_append _) (fun _ => append_argv_from_few 32 0) few_nil
  | ARG_OPEN_FLAGS => exact (append_open_flags_blind _).few
  | ARG_FD_FLAGS | ARG_PROT_FLAGS | ARG_MAP_FLAGS | ARG_ACCESS_FLAGS | ARG_AT_FLAGS => exact hflags _ _
  | ARG_CLONE_FLAGS => exact (append_clone_flags_blind _).few
  | ARG_SOCKET_TYPE => exact (append_socket_type_blind _).few
  | ARG_SOCKET_DOMAIN | ARG_SIGMASK_HOW | ARG_SHUTDOWN_HOW | ARG_FCNTL_COMMAND
  | ARG_EPOLL_OPERATION => exact hnamed _
  | ARG_SIGNAL => exact (append_signal_blind _).few
  | ARG_WHENCE =>
    exact looks_ite (fun _ => (blind_append _).few) fun _ => looks_ite (fun _ => (blind_append _).few)
      fun _ => looks_ite (fun _ => (blind_append _).few) fun _ => hformat _
  | ARG_SOCKADDR_IN => exact few_of_le (append_sockaddr_few _) (by omega)
  | ARG_TIMESPEC_IN =>
    exact looks_ite (fun _ => (blind_append _).few) fun _ => hstructure 16 (by decide) fun value =>
      cstr "\x7btv_sec=" ++ signed (int64 (little_endian (field value 0 8))) ++
        cstr ", tv_nsec=" ++ signed (int64 (little_endian (field value 8 8))) ++ cstr "\x7d"
  | ARG_PIPE_OUT =>
    exact looks_ite (fun _ => hpointer.few) fun _ => hstructure 8 (by decide) fun descriptors =>
      cstr "[" ++ signed (int32 (little_endian (field descriptors 0 4))) ++ cstr ", " ++
        signed (int32 (little_endian (field descriptors 4 4))) ++ cstr "]"
  | ARG_UTS_OUT =>
    exact looks_ite (fun _ => hpointer.few) fun _ => hstructure sizeof_utsname (le_refl _) uts_text

theorem few_forM {γ : Type} {f : γ → RenderM PUnit} {xs : List γ}
    (h : ∀ x ∈ xs, Looks (f x) (FewReads tid limit n)) :
    Looks (xs.forM f) (FewReads tid limit (n * xs.length)) := by
  induction xs with
  | nil => exact looks_pure _ few_nil
  | cons x xs ih =>
    have hboth := few_bind (h x List.mem_cons_self) fun _ =>
      ih fun y hy => h y (List.mem_cons_of_mem _ hy)
    refine few_of_le hboth ?_
    rw [List.length_cons, Nat.mul_succ, Nat.add_comm]

end few

/-! ### Capture and line -/

/-- The reads of a program satisfy `P`, however it ends. -/
def Issues {α : Type} (m : RenderM α) (P : List MemoryRead → Prop) : Prop :=
  ∀ s : Rendering, s.output.Ok → ∃ reads, (m.finalState s).reads = s.reads ++ reads ∧ P reads

theorem Looks.issues {α : Type} {m : RenderM α} {P : List MemoryRead → Prop} (h : Looks m P) :
    Issues m P := by
  intro s hok
  have hend : Holds m s (fun _ t => ∃ reads, t.reads = s.reads ++ reads ∧ P reads)
      (fun _ t => ∃ reads, t.reads = s.reads ++ reads ∧ P reads) :=
    (h s hok).mono (fun _ _ h => h.2) fun _ _ h => h
  exact hend.at_end

section line
variable {heap : Heap} {libc : Libc} {decoder : Decoder} {tid : Pid}
  {descriptor : SyscallDescriptor}

/-- The loop of the capture: at most 64 reads for each argument. -/
theorem capture_arguments_few (indices : List Nat) : ∀ (event : SyscallEvent) (s : Rendering),
    Holds (capture_arguments heap libc decoder tid descriptor indices event) s
      (fun _ s' => ∃ reads, s'.reads = s.reads ++ reads ∧
        FewReads tid decoder.string_limit (64 * indices.length) reads)
      fun _ _ => False := by
  induction indices with
  | nil => exact fun _ s => ⟨[], (List.append_nil _).symm, few_nil⟩
  | cons index indices ih =>
    intro event s
    have hcount : 64 * (index :: indices).length = 64 + 64 * indices.length := by
      rw [List.length_cons]
      omega
    rw [hcount]
    unfold capture_arguments
    dsimp only
    split
    · apply (ih event s).mono
      · rintro _ s' ⟨reads, hreads, hfew⟩
        exact ⟨reads, hreads, hfew.mono (by omega)⟩
      · exact fun _ _ h => h
    · rw [holds_bind, holds_modify, holds_bind, holds_attempt]
      apply (render_argument_few event (descriptor.spec index) index _ buffer_init_ok).mono
      · rintro _ s₁ ⟨_, reads, hreads, hfew⟩
        have hreads : s₁.reads = s.reads ++ reads := hreads
        have hone : ∃ reads, s₁.reads = s.reads ++ reads ∧
            FewReads tid decoder.string_limit (64 + 64 * indices.length) reads :=
          ⟨reads, hreads, hfew.mono (by omega)⟩
        dsimp only
        rw [holds_bind, holds_get, holds_bind, holds_malloc]
        split
        · exact hone
        · apply (ih _ { s₁ with asked := s₁.asked + 1 }).mono
          · rintro _ s' ⟨reads', hreads', hfew'⟩
            have hreads' : s'.reads = s₁.reads ++ reads' := hreads'
            exact ⟨reads ++ reads', by rw [hreads', hreads, List.append_assoc], hfew.append hfew'⟩
          · exact fun _ _ h => h
      · rintro _ s₁ ⟨reads, hreads, hfew⟩
        exact ⟨reads, hreads, hfew.mono (by omega)⟩

theorem capture_entry_issues (event : SyscallEvent) :
    Issues (decoder.sg_decoder_capture_entry heap libc tid event)
      (FewReads tid decoder.string_limit (64 * 6)) := by
  intro s _
  have hend : Holds (decoder.sg_decoder_capture_entry heap libc tid event) s
      (fun _ t => ∃ reads, t.reads = s.reads ++ reads ∧
        FewReads tid decoder.string_limit (64 * 6) reads)
      (fun _ t => ∃ reads, t.reads = s.reads ++ reads ∧
        FewReads tid decoder.string_limit (64 * 6) reads) := by
    unfold Decoder.sg_decoder_capture_entry
    cases hdescriptor : sg_syscall_by_number event.number with
    | none => exact ⟨[], (List.append_nil _).symm, few_nil⟩
    | some descriptor =>
      have hcount := effective_argument_count_le hdescriptor
      apply (capture_arguments_few _ _ s).mono
      · rintro _ s' ⟨reads, hreads, hfew⟩
        rw [List.length_range] at hfew
        exact ⟨reads, hreads, hfew.mono (by omega)⟩
      · exact fun _ _ h => h.elim
  exact hend.at_end

theorem append_argument_few (descriptor : Option SyscallDescriptor) (event : SyscallEvent)
    (index : Nat) : Looks (append_argument heap libc decoder tid descriptor event index)
      (FewReads tid decoder.string_limit 64) := by
  unfold append_argument
  split
  · exact (blind_append _).few
  · exact render_argument_few event _ index
  · exact (blind_format _).few

theorem decode_argument_few (descriptor : Option SyscallDescriptor) (event : SyscallEvent)
    (index : Nat) : Looks (decode_argument heap libc decoder tid descriptor event index)
      (FewReads tid decoder.string_limit 64) := by
  have hcomma : Blind (sg_buffer_append_cstr heap (cstr ", ")) := blind_append _
  have hargument : Looks (append_argument heap libc decoder tid descriptor event index)
      (FewReads tid decoder.string_limit 64) := append_argument_few descriptor event index
  exact looks_ite (fun _ => blind_bind hcomma (fun _ => hargument) few_nil) fun _ => hargument

theorem sg_decode_syscall_few (event : SyscallEvent) :
    Looks (sg_decode_syscall heap libc decoder tid event)
      (FewReads tid decoder.string_limit (64 * shown_arguments event)) := by
  have hresult : Blind (sg_decode_syscall_result heap libc event) := by
    unfold sg_decode_syscall_result append_result
    apply looks_ite
    · intro _
      cases libc.strerrorname_np event.error_number with
      | none => exact blind_format _
      | some name => exact blind_format _
    · exact fun _ => looks_ite (fun _ => blind_format _) fun _ => blind_format _
  have hloop : Looks ((List.range (shown_arguments event)).forM (decode_argument heap libc decoder
      tid (sg_syscall_by_number event.number) event))
      (FewReads tid decoder.string_limit (64 * shown_arguments event)) := by
    refine few_of_le (few_forM fun index _ => decode_argument_few _ event index) ?_
    rw [List.length_range]
  unfold sg_decode_syscall
  rw [sg_decode_syscall_entry_eq]
  have hclose : Looks (sg_buffer_append_cstr heap (cstr ")") >>= fun _ =>
      sg_decode_syscall_result heap libc event) (FewReads tid decoder.string_limit 0) :=
    ((blind_append _).bind fun _ => hresult).few
  exact few_bind (blind_bind (blind_format _) (fun _ => hloop) few_nil) fun _ => hclose

/-- The line has one text, whatever new memory holds. -/
theorem decode_line_text (hlibc : libc.Plain) (decoder : Decoder) (tid : Pid)
    (event : SyscallEvent) :
    ∃ text, ∀ heap, Yields (sg_decode_syscall heap libc decoder tid event) text := by
  have hargument : ∀ index < shown_arguments event, OneText fun heap : Heap => decode_argument heap
      libc decoder tid (sg_syscall_by_number event.number) event index := by
    intro index _
    have hrendered : OneText fun heap : Heap => append_argument heap libc decoder tid
        (sg_syscall_by_number event.number) event index := by
      unfold append_argument
      split
      · exact one_text_append _ _
      · exact render_argument_text hlibc event _ index (fun _ => rfl) fun _ _ _ _ => rfl
      · exact one_text_format _ _
    exact one_text_prefixed (one_text_append _ _) hrendered
  exact sg_decode_syscall_text hargument

/-- The event that a capture ends in does not depend on what new memory holds. -/
theorem capture_entry_text (hlibc : libc.Plain) (decoder : Decoder) (tid : Pid)
    (event : SyscallEvent) : ∃ captured, ∀ heap s,
      Holds (decoder.sg_decoder_capture_entry heap libc tid event) s
        (fun r _ => r.1 = true → r.2 = captured) fun _ _ => False := by
  obtain ⟨texts, htexts⟩ := exists_entry_texts hlibc decoder tid event
  refine ⟨event.capture texts, fun heap s => ?_⟩
  apply (capture_entry_eq hlibc (fun descriptor index _ hinput =>
    (htexts descriptor index hinput).1) heap s).mono
  · exact fun _ _ h => h.1
  · exact fun _ _ h => h

/-- **What is read and what is shown of a tracee.**  For every event and every memory: the
    reads of an argument are at most 64, each of them fits into its array and is no longer
    than the string limit or a `struct utsname`; no index leaves its array; and the text does
    not depend on what the arrays held before. -/
theorem remote_reads_bounded (hlibc : libc.Plain) (decoder : Decoder) (tid : Pid)
    (event : SyscallEvent) :
    (∀ heap, Issues (decoder.sg_decoder_capture_entry heap libc tid event)
      (FewReads tid decoder.string_limit (64 * 6))) ∧
    (∀ heap, Issues (sg_decode_syscall heap libc decoder tid event)
      (FewReads tid decoder.string_limit (64 * shown_arguments event))) ∧
    (∀ spec index, (∀ heap, Issues (render_argument heap libc decoder tid event spec index)
        (FewReads tid decoder.string_limit 64)) ∧
      (∀ heap stale, (∀ size, (stale size).length = size) →
        render_argument_within heap libc decoder stale tid event spec index =
          lifted (render_argument heap libc decoder tid event spec index)) ∧
      ∃ text, ∀ heap, Renders heap (render_argument heap libc decoder tid event spec index)
        (128 * decoder.string_limit + 1024) fun _ text' => text' = text) ∧
    (∃ captured, ∀ heap s, Holds (decoder.sg_decoder_capture_entry heap libc tid event) s
      (fun r _ => r.1 = true → r.2 = captured) fun _ _ => False) ∧
    ∃ text, ∀ heap, Yields (sg_decode_syscall heap libc decoder tid event) text := by
  refine ⟨fun _ => capture_entry_issues event, fun _ => (sg_decode_syscall_few event).issues,
    fun spec index => ⟨fun _ => (render_argument_few event spec index).issues,
      fun _ _ hstale => render_argument_within_eq hstale event spec index, ?_⟩,
    capture_entry_text hlibc decoder tid event, decode_line_text hlibc decoder tid event⟩
  obtain ⟨text, htext⟩ : OneText fun heap : Heap =>
      render_argument heap libc decoder tid event spec index :=
    render_argument_text hlibc event spec index (fun _ => rfl) fun _ _ _ _ => rfl
  exact ⟨text, fun heap =>
    (htext heap).renders (render_argument_shows hlibc tid event spec index)⟩

/-- The reads of `execve`, which looks at a name and two vectors. -/
theorem execve_reads : Issues (sg_decode_syscall ample_heap bare_libc
      ⟨32, some (constant_memory (cstr "sh"))⟩ 1 { SyscallEvent.zero with number := 59 })
    (FewReads 1 32 (64 * shown_arguments { SyscallEvent.zero with number := 59 })) :=
  (remote_reads_bounded bare_libc_plain _ 1 _).2.1 ample_heap

end line

end Sysgaze
