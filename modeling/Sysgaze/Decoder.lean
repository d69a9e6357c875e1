import Mathlib.Data.BitVec
import Sysgaze.Buffer
import Sysgaze.Catalog

/-! # The decoder (`decoder.c`)

    How a system call is written as text.  Each argument has a kind, and
    `render_argument` appends what its kind says; some kinds look into the
    memory of the tracee.  Input arguments are rendered at the entry of the
    call and saved with the event, output arguments when the line is written.

    The constants are those of x86-64 Linux.  What the C library answers comes
    from a `Libc`, and the memory of the tracee from a `MemoryReader`.
-/

open Fallible Numerals

namespace Sysgaze

/-! ### What the decoder is given -/

/-- `struct sg_memory_reader`: the bytes that are copied, at most as many as are asked
    for, or `none` when the function returns false. -/
structure MemoryReader where
  read : Pid → UInt64 → Nat → Option Text
  read_le : ∀ {tid address length bytes}, read tid address length = some bytes →
    bytes.length ≤ length

/-- `struct sg_decoder`; without a reader the pointer is null. -/
structure Decoder where
  string_limit : Nat
  memory : Option MemoryReader

abbrev AF_UNSPEC : Nat := 0
abbrev AF_UNIX : Nat := 1
abbrev AF_INET : Nat := 2
abbrev AF_INET6 : Nat := 10
abbrev AF_NETLINK : Nat := 16
abbrev AF_PACKET : Nat := 17

/-- The texts of the C library; `none` is a null pointer. -/
structure Libc where
  sigabbrev_np : Int → Option Text
  strerrorname_np : Int → Option Text
  strerror : Int → Text
  /-- `inet_ntop`, of an address family and the bytes of an address. -/
  inet_ntop : Nat → Text → Option Text

/-- The texts of the C library are printable and short, as documented. -/
structure Libc.Plain (libc : Libc) : Prop where
  sigabbrev_np : ∀ n text, libc.sigabbrev_np n = some text → text.all isprint = true ∧
    text.length ≤ 32
  strerrorname_np : ∀ n text, libc.strerrorname_np n = some text → text.all isprint = true ∧
    text.length ≤ 32
  strerror : ∀ n, (libc.strerror n).all isprint = true ∧ (libc.strerror n).length ≤ 1024
  inet_ntop : ∀ family bytes text, libc.inet_ntop family bytes = some text →
    text.all isprint = true ∧ text.length < 46

/-! ### Reading bytes -/

/-- The C string that the bytes hold: what stands before the first NUL. -/
def c_string (bytes : Text) : Text := bytes.takeWhile fun byte => byte != 0

/-- The unsigned number in bytes of increasing weight. -/
def little_endian : Text → Nat
  | [] => 0
  | byte :: bytes => byte.toNat + 256 * little_endian bytes

/-- The bytes from an offset on. -/
def field (bytes : Text) (offset size : Nat) : Text := (bytes.drop offset).take size

/-- `ntohs` of the two bytes. -/
def ntohs (bytes : Text) : Nat := little_endian bytes.reverse

/-- The conversion to `int32_t`. -/
def int32 (n : Nat) : Int := (BitVec.ofNat 32 n).toInt

/-- The conversion to `int64_t`. -/
def int64 (n : Nat) : Int := (BitVec.ofNat 64 n).toInt

/-- `0x%llx`. -/
def hexadecimal (n : Nat) : Text := cstr "0x" ++ numeral 16 n

variable (heap : Heap) (libc : Libc) (decoder : Decoder)

/-- `append_pointer`. -/
def append_pointer (value : UInt64) : RenderM Unit :=
  if value = 0 then sg_buffer_append_cstr heap (cstr "NULL")
  else sg_buffer_append_format heap (hexadecimal value.toNat)

/-- `read_memory`: whether it succeeded, the destination, and the number of bytes read. -/
def read_memory (tid : Pid) (address : UInt64) (destination : Text) (length : Nat) :
    RenderM (Bool × Text × Nat) :=
  match decoder.memory with
  | none => pure (false, destination, 0)
  | some memory =>
    if address = 0 then pure (false, destination, 0)
    else do
      modify fun rendering => { rendering with
        reads := rendering.reads ++ [⟨tid, address, length, destination.length⟩] }
      match memory.read tid address length with
      | none => pure (false, destination, 0)
      | some bytes => pure (true, bytes ++ destination.drop bytes.length, bytes.length)

/-- What `append_escaped` appends for a byte. -/
def append_escaped_byte (byte : UInt8) : RenderM Unit :=
  if byte = 92 then sg_buffer_append_cstr heap (cstr "\\\\")
  else if byte = 34 then sg_buffer_append_cstr heap (cstr "\\\"")
  else if byte = 10 then sg_buffer_append_cstr heap (cstr "\\n")
  else if byte = 13 then sg_buffer_append_cstr heap (cstr "\\r")
  else if byte = 9 then sg_buffer_append_cstr heap (cstr "\\t")
  else if byte = 0 then sg_buffer_append_cstr heap (cstr "\\0")
  else if isprint byte then sg_buffer_append heap [byte]
  else
    sg_buffer_append_format heap
      (cstr "\\x" ++ [digit (byte.toNat / 16), digit (byte.toNat % 16)])

/-- `append_escaped`. -/
def append_escaped (data : Text) : RenderM Unit := do
  sg_buffer_append_cstr heap (cstr "\"")
  data.forM (append_escaped_byte heap)
  sg_buffer_append_cstr heap (cstr "\"")

/-- `append_remote_bytes`. -/
def append_remote_bytes (tid : Pid) (address : UInt64) (requested : Nat) (stop_at_nul : Bool) :
    RenderM Unit :=
  let limit := decoder.string_limit
  let amount := if requested < limit then requested else limit
  if address = 0 then sg_buffer_append_cstr heap (cstr "NULL")
  else if amount = 0 then
    sg_buffer_append_cstr heap (if requested = 0 then cstr "\"\"" else cstr "\"\"...")
  else do
    match ← malloc heap amount with
    | none => throw ()
    | some data => do
      let (readable, data, bytes_read) ← read_memory decoder tid address data amount
      if !readable ∨ bytes_read = 0 then append_pointer heap address
      else do
        let (shown, truncated) :=
          if stop_at_nul then
            match (data.take bytes_read).findIdx? fun byte => byte == 0 with
            | some terminator => (terminator, false)
            | none => (bytes_read, true)
          else (bytes_read, decide (bytes_read < requested) || decide (requested > amount))
        append_escaped heap (data.take shown)
        if truncated then sg_buffer_append_cstr heap (cstr "...") else pure ()

/-- `append_string`. -/
def append_string (tid : Pid) (address : UInt64) : RenderM Unit :=
  let requested :=
    if decoder.string_limit = SIZE_MAX then SIZE_MAX else decoder.string_limit + 1
  append_remote_bytes heap decoder tid address requested true

/-! ### Flags -/

/-- `struct flag_name`. -/
structure FlagName where
  value : UInt64
  name : Text
  deriving DecidableEq, Repr

/-- An entry of a table of flags. -/
def flag (value : UInt64) (name : String) : FlagName := ⟨value, cstr name⟩

/-- `open_flag_names`. -/
def open_flag_names : List FlagName := [
  flag 0o100 "O_CREAT", flag 0o200 "O_EXCL", flag 0o400 "O_NOCTTY", flag 0o1000 "O_TRUNC",
  flag 0o2000 "O_APPEND", flag 0o4000 "O_NONBLOCK", flag 0o4010000 "O_SYNC",
  flag 0o10000 "O_DSYNC", flag 0o40000 "O_DIRECT", flag 0 "O_LARGEFILE",
  flag 0o20200000 "O_TMPFILE", flag 0o200000 "O_DIRECTORY", flag 0o400000 "O_NOFOLLOW",
  flag 0o2000000 "O_CLOEXEC", flag 0o10000000 "O_PATH"]

/-- `prot_flag_names`. -/
def prot_flag_names : List FlagName := [
  flag 1 "PROT_READ", flag 2 "PROT_WRITE", flag 4 "PROT_EXEC", flag 0x1000000 "PROT_GROWSDOWN",
  flag 0x2000000 "PROT_GROWSUP"]

/-- `map_flag_names`. -/
def map_flag_names : List FlagName := [
  flag 3 "MAP_SHARED_VALIDATE", flag 1 "MAP_SHARED", flag 2 "MAP_PRIVATE", flag 0x10 "MAP_FIXED",
  flag 0x20 "MAP_ANONYMOUS", flag 0x100 "MAP_GROWSDOWN", flag 0x800 "MAP_DENYWRITE",
  flag 0x1000 "MAP_EXECUTABLE", flag 0x2000 "MAP_LOCKED", flag 0x4000 "MAP_NORESERVE",
  flag 0x8000 "MAP_POPULATE", flag 0x10000 "MAP_NONBLOCK", flag 0x20000 "MAP_STACK",
  flag 0x40000 "MAP_HUGETLB", flag 0x80000 "MAP_SYNC", flag 0x100000 "MAP_FIXED_NOREPLACE"]

/-- `clone_flag_names`. -/
def clone_flag_names : List FlagName := [
  flag 0x100 "CLONE_VM", flag 0x200 "CLONE_FS", flag 0x400 "CLONE_FILES",
  flag 0x800 "CLONE_SIGHAND", flag 0x1000 "CLONE_PIDFD", flag 0x2000 "CLONE_PTRACE",
  flag 0x4000 "CLONE_VFORK", flag 0x8000 "CLONE_PARENT", flag 0x10000 "CLONE_THREAD",
  flag 0x20000 "CLONE_NEWNS", flag 0x40000 "CLONE_SYSVSEM", flag 0x80000 "CLONE_SETTLS",
  flag 0x100000 "CLONE_PARENT_SETTID", flag 0x200000 "CLONE_CHILD_CLEARTID",
  flag 0x400000 "CLONE_DETACHED", flag 0x800000 "CLONE_UNTRACED",
  flag 0x1000000 "CLONE_CHILD_SETTID", flag 0x2000000 "CLONE_NEWCGROUP",
  flag 0x4000000 "CLONE_NEWUTS", flag 0x8000000 "CLONE_NEWIPC", flag 0x10000000 "CLONE_NEWUSER",
  flag 0x20000000 "CLONE_NEWPID", flag 0x40000000 "CLONE_NEWNET", flag 0x80000000 "CLONE_IO"]

abbrev O_CREAT : UInt64 := 0o100
abbrev O_TMPFILE : UInt64 := 0o20200000
abbrev O_ACCMODE : UInt64 := 3

/-- The loop of `append_flags`: what remains, and whether something has been written. -/
def append_flag_names : List FlagName → UInt64 → Bool → RenderM (UInt64 × Bool)
  | [], remaining, wrote => pure (remaining, wrote)
  | entry :: names, remaining, wrote =>
    if entry.value ≠ 0 ∧ remaining &&& entry.value = entry.value then do
      if wrote then sg_buffer_append_cstr heap (cstr "|") else pure ()
      sg_buffer_append_cstr heap entry.name
      append_flag_names names (remaining &&& ~~~entry.value) true
    else append_flag_names names remaining wrote

/-- `append_flags`. -/
def append_flags (value : UInt64) (names : List FlagName) (zero_name : Option Text) :
    RenderM Unit :=
  match zero_name, value == 0 with
  | some zero_name, true => sg_buffer_append_cstr heap zero_name
  | _, _ => do
    let (remaining, wrote) ← append_flag_names heap names value false
    if remaining ≠ 0 ∨ wrote = false then do
      if wrote then sg_buffer_append_cstr heap (cstr "|") else pure ()
      sg_buffer_append_format heap (hexadecimal remaining.toNat)
    else pure ()

/-- `append_open_flags`. -/
def append_open_flags (value : UInt64) : RenderM Unit := do
  let access_mode := value &&& O_ACCMODE
  let access_name :=
    if access_mode = 1 then cstr "O_WRONLY"
    else if access_mode = 2 then cstr "O_RDWR"
    else cstr "O_RDONLY"
  let remaining := value &&& ~~~O_ACCMODE
  sg_buffer_append_cstr heap access_name
  if remaining = 0 then pure ()
  else do
    sg_buffer_append_cstr heap (cstr "|")
    append_flags heap remaining open_flag_names none

/-- `append_signal`. -/
def append_signal (value : UInt64) : RenderM Unit :=
  let signal_number := int32 value.toNat
  match libc.sigabbrev_np signal_number with
  | none => sg_buffer_append_format heap (signed signal_number)
  | some abbreviation => sg_buffer_append_format heap (cstr "SIG" ++ abbreviation)

/-- `append_clone_flags`. -/
def append_clone_flags (value : UInt64) : RenderM Unit := do
  let flags := value &&& ~~~0xff
  let signal_number := value &&& 0xff
  append_flags heap flags clone_flag_names (some (cstr "0"))
  if signal_number = 0 then pure ()
  else do
    sg_buffer_append_cstr heap (cstr "|")
    append_signal heap libc signal_number

/-! ### Named numbers -/

/-- `append_named_integer`, for a table of values and names. -/
def append_named_integer (value : Int) : List (Int × Text) → RenderM Unit
  | [] => sg_buffer_append_format heap (signed value)
  | (known, name) :: names =>
    if known = value then sg_buffer_append_cstr heap name else append_named_integer value names

/-- `append_socket_domain`. -/
def append_socket_domain (value : UInt64) : RenderM Unit :=
  append_named_integer heap (int32 value.toNat) [
    (AF_UNSPEC, cstr "AF_UNSPEC"), (AF_UNIX, cstr "AF_UNIX"), (AF_INET, cstr "AF_INET"),
    (AF_INET6, cstr "AF_INET6"), (AF_NETLINK, cstr "AF_NETLINK"), (AF_PACKET, cstr "AF_PACKET")]

abbrev SOCK_NONBLOCK : UInt64 := 0o4000
abbrev SOCK_CLOEXEC : UInt64 := 0o2000000

/-- `append_socket_type`. -/
def append_socket_type (value : UInt64) : RenderM Unit := do
  let base := value &&& 0xf
  let flags := value &&& ~~~0xf
  match (if base = 1 then some (cstr "SOCK_STREAM")
    else if base = 2 then some (cstr "SOCK_DGRAM")
    else if base = 3 then some (cstr "SOCK_RAW")
    else if base = 5 then some (cstr "SOCK_SEQPACKET")
    else none) with
  | none => sg_buffer_append_format heap (signed base.toNat)
  | some name => sg_buffer_append_cstr heap name
  if flags &&& SOCK_NONBLOCK ≠ 0 then sg_buffer_append_cstr heap (cstr "|SOCK_NONBLOCK")
  else pure ()
  let flags := if flags &&& SOCK_NONBLOCK ≠ 0 then flags &&& ~~~SOCK_NONBLOCK else flags
  if flags &&& SOCK_CLOEXEC ≠ 0 then sg_buffer_append_cstr heap (cstr "|SOCK_CLOEXEC")
  else pure ()
  let flags := if flags &&& SOCK_CLOEXEC ≠ 0 then flags &&& ~~~SOCK_CLOEXEC else flags
  if flags = 0 then pure ()
  else sg_buffer_append_format heap (cstr "|" ++ hexadecimal flags.toNat)

/-! ### Structures in the memory of the tracee -/

/-- `sizeof(struct sockaddr_storage)`. -/
abbrev sizeof_storage : Nat := 128

/-- The address in an `AF_UNIX` socket address. -/
def append_unix_path (path : Text) : RenderM Unit := do
  sg_buffer_append_cstr heap (cstr "\x7bsa_family=AF_UNIX, sun_path=")
  match path with
  | 0 :: abstract_name => do
    sg_buffer_append_cstr heap (cstr "@")
    append_escaped heap abstract_name
  | path => append_escaped heap (c_string path)
  sg_buffer_append_cstr heap (cstr "\x7d")

/-- `append_sockaddr`. -/
def append_sockaddr (tid : Pid) (address : UInt64) (length : Nat) : RenderM Unit :=
  let storage := List.replicate sizeof_storage 0
  let amount := if length < sizeof_storage then length else sizeof_storage
  if address = 0 then sg_buffer_append_cstr heap (cstr "NULL")
  else if amount < 2 then append_pointer heap address
  else do
    let (readable, storage, bytes_read) ← read_memory decoder tid address storage amount
    let ss_family := little_endian (field storage 0 2)
    if !readable ∨ bytes_read < 2 then append_pointer heap address
    else if ss_family = AF_INET ∧ bytes_read ≥ 16 then
      match libc.inet_ntop AF_INET (field storage 4 4) with
      | none => append_pointer heap address
      | some text =>
        sg_buffer_append_format heap
          (cstr "\x7bsa_family=AF_INET, sin_port=htons(" ++ numeral 10 (ntohs (field storage 2 2)) ++
            cstr "), sin_addr=inet_addr(\"" ++ text ++ cstr "\")\x7d")
    else if ss_family = AF_INET6 ∧ bytes_read ≥ 28 then
      match libc.inet_ntop AF_INET6 (field storage 8 16) with
      | none => append_pointer heap address
      | some text =>
        sg_buffer_append_format heap
          (cstr "\x7bsa_family=AF_INET6, sin6_port=htons(" ++
            numeral 10 (ntohs (field storage 2 2)) ++
            cstr "), sin6_addr=inet_pton(\"" ++ text ++ cstr "\")\x7d")
    else if ss_family = AF_UNIX then
      append_unix_path heap (field storage 2 (bytes_read - 2))
    else
      sg_buffer_append_format heap (cstr "\x7bsa_family=" ++ numeral 10 ss_family ++ cstr "\x7d")

/-- The loop of `append_argv`, with the number of rounds that are left. -/
def append_argv_from (tid : Pid) (address : UInt64) : Nat → Nat → RenderM Unit
  | 0, _ => sg_buffer_append_cstr heap (cstr ", ...]")
  | rounds + 1, index => do
    let offset := index * 8
    let (readable, pointer, bytes_read) ←
      if address.toNat > 2 ^ 64 - 1 - offset then pure (false, List.replicate 8 0, 0)
      else read_memory decoder tid (address + UInt64.ofNat offset) (List.replicate 8 0) 8
    if !readable ∨ bytes_read ≠ 8 then do
      if index ≠ 0 then sg_buffer_append_cstr heap (cstr ", ") else pure ()
      sg_buffer_append_cstr heap (cstr "?")
      sg_buffer_append_cstr heap (cstr ", ...]")
    else if little_endian pointer = 0 then sg_buffer_append_cstr heap (cstr "]")
    else do
      if index ≠ 0 then sg_buffer_append_cstr heap (cstr ", ") else pure ()
      append_string heap decoder tid (UInt64.ofNat (little_endian pointer))
      append_argv_from tid address rounds (index + 1)

/-- `append_argv`. -/
def append_argv (tid : Pid) (address : UInt64) : RenderM Unit :=
  if address = 0 then sg_buffer_append_cstr heap (cstr "NULL")
  else do
    sg_buffer_append_cstr heap (cstr "[")
    append_argv_from heap decoder tid address 32 0

/-- `append_timespec`. -/
def append_timespec (tid : Pid) (address : UInt64) : RenderM Unit :=
  if address = 0 then sg_buffer_append_cstr heap (cstr "NULL")
  else do
    let value ← uninitialized heap 16
    let (readable, value, bytes_read) ← read_memory decoder tid address value 16
    if !readable ∨ bytes_read ≠ 16 then append_pointer heap address
    else
      sg_buffer_append_format heap
        (cstr "\x7btv_sec=" ++ signed (int64 (little_endian (field value 0 8))) ++
          cstr ", tv_nsec=" ++ signed (int64 (little_endian (field value 8 8))) ++ cstr "\x7d")

/-- `append_pipe`. -/
def append_pipe (tid : Pid) (event : SyscallEvent) (address : UInt64) : RenderM Unit :=
  if event.error_number ≠ 0 then append_pointer heap address
  else do
    let descriptors ← uninitialized heap 8
    let (readable, descriptors, bytes_read) ← read_memory decoder tid address descriptors 8
    if !readable ∨ bytes_read ≠ 8 then append_pointer heap address
    else
      sg_buffer_append_format heap
        (cstr "[" ++ signed (int32 (little_endian (field descriptors 0 4))) ++ cstr ", " ++
          signed (int32 (little_endian (field descriptors 4 4))) ++ cstr "]")

/-- The size of a field of `struct utsname`. -/
abbrev sizeof_uts_field : Nat := 65

/-- `sizeof(struct utsname)`. -/
abbrev sizeof_utsname : Nat := 390

/-- What `%.*s` makes of the `index`-th field of `struct utsname`. -/
def uts_field (value : Text) (index : Nat) : Text :=
  c_string (field value (index * sizeof_uts_field) sizeof_uts_field)

/-- The text that `append_uts` formats; the field `version` is left out. -/
def uts_text (value : Text) : Text :=
  cstr "\x7bsysname=\"" ++ uts_field value 0 ++ cstr "\", nodename=\"" ++ uts_field value 1 ++
    cstr "\", release=\"" ++ uts_field value 2 ++ cstr "\", machine=\"" ++ uts_field value 4 ++
    cstr "\"\x7d"

/-- `append_uts`. -/
def append_uts (tid : Pid) (event : SyscallEvent) (address : UInt64) : RenderM Unit :=
  if event.error_number ≠ 0 then append_pointer heap address
  else do
    let value ← uninitialized heap sizeof_utsname
    let (readable, value, bytes_read) ← read_memory decoder tid address value sizeof_utsname
    if !readable ∨ bytes_read ≠ sizeof_utsname then append_pointer heap address
    else sg_buffer_append_format heap (uts_text value)

/-! ### Arguments -/

/-- `is_output_argument`. -/
def is_output_argument (kind : ArgumentKind) : Bool :=
  kind == .ARG_STRING_OUT || kind == .ARG_BUFFER_OUT || kind == .ARG_PIPE_OUT ||
    kind == .ARG_UTS_OUT

abbrev AT_FDCWD : Int := -100

/-- An argument of an event. -/
def SyscallEvent.argument (event : SyscallEvent) (index : Nat) : UInt64 :=
  event.arguments.toList.getD index 0

/-- `render_argument`. -/
def render_argument (tid : Pid) (event : SyscallEvent) (spec : ArgumentSpec) (index : Nat) :
    RenderM Unit :=
  let value := event.argument index
  match spec.kind with
  | .ARG_HEX => sg_buffer_append_format heap (hexadecimal value.toNat)
  | .ARG_S32 => sg_buffer_append_format heap (signed (int32 value.toNat))
  | .ARG_U64 | .ARG_SIZE => sg_buffer_append_format heap (numeral 10 value.toNat)
  | .ARG_FD => sg_buffer_append_format heap (signed (int32 value.toNat))
  | .ARG_DIRFD =>
    if int32 value.toNat = AT_FDCWD then sg_buffer_append_cstr heap (cstr "AT_FDCWD")
    else sg_buffer_append_format heap (signed (int32 value.toNat))
  | .ARG_POINTER => append_pointer heap value
  | .ARG_STRING => append_string heap decoder tid value
  | .ARG_STRING_OUT =>
    if event.error_number ≠ 0 then append_pointer heap value
    else
      let length :=
        if event.result > 0 then event.result.toNat else (event.argument spec.auxiliary).toNat
      append_remote_bytes heap decoder tid value length true
  | .ARG_BUFFER_IN =>
    append_remote_bytes heap decoder tid value (event.argument spec.auxiliary).toNat false
  | .ARG_BUFFER_OUT =>
    if event.error_number ≠ 0 then append_pointer heap value
    else if event.result = 0 then sg_buffer_append_cstr heap (cstr "\"\"")
    else if event.result < 0 then append_pointer heap value
    else
      let length := event.result.toNat
      let length :=
        if length > (event.argument spec.auxiliary).toNat then
          (event.argument spec.auxiliary).toNat
        else length
      append_remote_bytes heap decoder tid value length false
  | .ARG_ARGV => append_argv heap decoder tid value
  | .ARG_MODE => sg_buffer_append_format heap (cstr "0" ++ numeral 8 value.toNat)
  | .ARG_OPEN_FLAGS => append_open_flags heap value
  | .ARG_FD_FLAGS =>
    append_flags heap value [flag 0o4000 "O_NONBLOCK", flag 0o2000000 "O_CLOEXEC"] (cstr "0")
  | .ARG_PROT_FLAGS => append_flags heap value prot_flag_names (cstr "PROT_NONE")
  | .ARG_MAP_FLAGS => append_flags heap value map_flag_names (cstr "0")
  | .ARG_CLONE_FLAGS => append_clone_flags heap libc value
  | .ARG_ACCESS_FLAGS =>
    append_flags heap value [flag 4 "R_OK", flag 2 "W_OK", flag 1 "X_OK"] (cstr "F_OK")
  | .ARG_AT_FLAGS =>
    append_flags heap value [flag 0x100 "AT_SYMLINK_NOFOLLOW", flag 0x200 "AT_REMOVEDIR",
      flag 0x400 "AT_SYMLINK_FOLLOW", flag 0x1000 "AT_EMPTY_PATH"] (cstr "0")
  | .ARG_SOCKET_DOMAIN => append_socket_domain heap value
  | .ARG_SOCKET_TYPE => append_socket_type heap value
  | .ARG_SIGNAL => append_signal heap libc value
  | .ARG_SIGMASK_HOW =>
    append_named_integer heap (int32 value.toNat)
      [(0, cstr "SIG_BLOCK"), (1, cstr "SIG_UNBLOCK"), (2, cstr "SIG_SETMASK")]
  | .ARG_SHUTDOWN_HOW =>
    append_named_integer heap (int32 value.toNat)
      [(0, cstr "SHUT_RD"), (1, cstr "SHUT_WR"), (2, cstr "SHUT_RDWR")]
  | .ARG_FCNTL_COMMAND =>
    append_named_integer heap (int32 value.toNat)
      [(0, cstr "F_DUPFD"), (1, cstr "F_GETFD"), (2, cstr "F_SETFD"), (3, cstr "F_GETFL"),
        (4, cstr "F_SETFL"), (5, cstr "F_GETLK"), (6, cstr "F_SETLK"), (7, cstr "F_SETLKW"),
        (1030, cstr "F_DUPFD_CLOEXEC")]
  | .ARG_EPOLL_OPERATION =>
    append_named_integer heap (int32 value.toNat)
      [(1, cstr "EPOLL_CTL_ADD"), (2, cstr "EPOLL_CTL_DEL"), (3, cstr "EPOLL_CTL_MOD")]
  | .ARG_WHENCE =>
    if int32 value.toNat = 0 then sg_buffer_append_cstr heap (cstr "SEEK_SET")
    else if int32 value.toNat = 1 then sg_buffer_append_cstr heap (cstr "SEEK_CUR")
    else if int32 value.toNat = 2 then sg_buffer_append_cstr heap (cstr "SEEK_END")
    else sg_buffer_append_format heap (signed (int32 value.toNat))
  | .ARG_SOCKADDR_IN =>
    append_sockaddr heap libc decoder tid value (event.argument spec.auxiliary).toNat
  | .ARG_TIMESPEC_IN => append_timespec heap decoder tid value
  | .ARG_PIPE_OUT => append_pipe heap decoder tid event value
  | .ARG_UTS_OUT => append_uts heap decoder tid event value

abbrev SYS_open : Int := 2
abbrev SYS_fcntl : Int := 72
abbrev SYS_openat : Int := 257

/-- `effective_argument_count`. -/
def effective_argument_count (descriptor : SyscallDescriptor) (event : SyscallEvent) : Nat :=
  if event.number = SYS_fcntl then
    let command := int32 (event.argument 1).toNat
    if command = 1 ∨ command = 3 then 2 else descriptor.arity
  else if event.number = SYS_open ∨ event.number = SYS_openat then
    let flags := if event.number = SYS_open then event.argument 1 else event.argument 2
    if flags &&& (O_CREAT ||| O_TMPFILE) ≠ 0 then descriptor.arity else descriptor.arity - 1
  else descriptor.arity

/-! ### Entry and exit -/

/-- The loop of `sg_decoder_capture_entry`. -/
def capture_arguments (tid : Pid) (descriptor : SyscallDescriptor) :
    List Nat → SyscallEvent → RenderM (Bool × SyscallEvent)
  | [], event => pure (true, event)
  | index :: indices, event =>
    let spec := descriptor.arguments.toList.getD index (ARG .ARG_HEX)
    if is_output_argument spec.kind then capture_arguments tid descriptor indices event
    else do
      modify fun rendering => { rendering with output := sg_buffer_init }
      match ← attempt (render_argument heap libc decoder tid event spec index) with
      | none => pure (false, { event with decoded_arguments := Vector.replicate 6 none })
      | some () => do
        let rendering ← get
        match ← malloc heap (rendering.output.length + 1) with
        | none => pure (false, { event with decoded_arguments := Vector.replicate 6 none })
        | some _ =>
          capture_arguments tid descriptor indices { event with
            decoded_arguments :=
              event.decoded_arguments.setIfInBounds index (some (c_string rendering.contents)) }

/-- `sg_decoder_capture_entry`: whether it succeeds, and the event. -/
def Decoder.sg_decoder_capture_entry (tid : Pid) (event : SyscallEvent) :
    RenderM (Bool × SyscallEvent) :=
  match sg_syscall_by_number event.number with
  | none => pure (true, { event with argument_count := sg_syscall_argument_count event.number })
  | some descriptor =>
    let argument_count := effective_argument_count descriptor event
    capture_arguments heap libc decoder tid descriptor (List.range argument_count)
      { event with argument_count := argument_count }

/-- `append_result`. -/
def append_result (descriptor : Option SyscallDescriptor) (event : SyscallEvent) :
    RenderM Unit :=
  if event.error_number ≠ 0 then
    match libc.strerrorname_np event.error_number with
    | none =>
      sg_buffer_append_format heap (cstr " = -1 errno(" ++ signed event.error_number ++ cstr ")")
    | some name =>
      sg_buffer_append_format heap
        (cstr " = -1 " ++ name ++ cstr " (" ++ libc.strerror event.error_number ++ cstr ")")
  else if descriptor.map SyscallDescriptor.result_kind = some .RESULT_POINTER then
    sg_buffer_append_format heap (cstr " = " ++ hexadecimal (BitVec.ofInt 64 event.result).toNat)
  else sg_buffer_append_format heap (cstr " = " ++ signed event.result)

/-- One round of the loop in `sg_decode_syscall_entry`. -/
def decode_argument (tid : Pid) (descriptor : Option SyscallDescriptor) (event : SyscallEvent)
    (index : Nat) : RenderM Unit := do
  if index ≠ 0 then sg_buffer_append_cstr heap (cstr ", ") else pure ()
  match event.decoded_arguments.toList.getD index none, descriptor with
  | some text, _ => sg_buffer_append_cstr heap text
  | none, some descriptor =>
    render_argument heap libc decoder tid event
      (descriptor.arguments.toList.getD index (ARG .ARG_HEX)) index
  | none, none => sg_buffer_append_format heap (hexadecimal (event.argument index).toNat)

/-- `sg_decode_syscall_entry`. -/
def sg_decode_syscall_entry (tid : Pid) (event : SyscallEvent) : RenderM Unit := do
  let descriptor := sg_syscall_by_number event.number
  let argument_count :=
    match descriptor with
    | none => event.argument_count
    | some descriptor => effective_argument_count descriptor event
  match descriptor with
  | none => sg_buffer_append_format heap (cstr "syscall_" ++ signed event.number ++ cstr "(")
  | some descriptor => sg_buffer_append_format heap (descriptor.name ++ cstr "(")
  (List.range argument_count).forM (decode_argument heap libc decoder tid descriptor event)

/-- `sg_decode_syscall_result`. -/
def sg_decode_syscall_result (event : SyscallEvent) : RenderM Unit :=
  append_result heap libc (sg_syscall_by_number event.number) event

/-- `sg_decode_syscall`. -/
def sg_decode_syscall (tid : Pid) (event : SyscallEvent) : RenderM Unit := do
  sg_decode_syscall_entry heap libc decoder tid event
  sg_buffer_append_cstr heap (cstr ")")
  sg_decode_syscall_result heap libc event

end Sysgaze
