import Mathlib.Data.List.TakeWhile
import Sysgaze.Decoder

/-! # What a decoded call prints

    The text of a call consists of printable ASCII, whatever the tracee keeps
    in its memory, with one exception: `append_uts` copies the fields of
    `struct utsname` as they are.  So the text is printable exactly when the
    fields that are shown are (`decoded_printable_iff`).

    Every append is followed by its bound: a decoded call also fails only when
    memory is refused.
-/

open Fallible Numerals

namespace Sysgaze

/-- The program adds a printable text of at most `n` bytes. -/
def Plain {α : Type} (heap : Heap) (m : RenderM α) (n : Nat) : Prop :=
  Renders heap m n fun _ text => text.all isprint = true

section plain
variable {heap : Heap} {α β : Type} {m : RenderM α} {f : α → RenderM β} {n n' : Nat} {text : Text}

theorem Plain.mono (h : Plain heap m n) (hn : n ≤ n') : Plain heap m n' :=
  Renders.mono h hn fun _ _ ht => ht

theorem plain_pure (a : α) : Plain heap (pure a) n := renders_pure rfl

theorem plain_bind (hm : Plain heap m n) (hf : ∀ a, Plain heap (f a) n') :
    Plain heap (m >>= f) (n + n') := by
  apply renders_bind hm
  intro a text ht
  apply Renders.mono (hf a) (le_refl _)
  intro _ text' ht'
  rw [List.all_append, ht, ht']
  rfl

theorem plain_ite {c : Prop} [Decidable c] {m' : RenderM α} (hm : c → Plain heap m n)
    (hm' : ¬c → Plain heap m' n) : Plain heap (if c then m else m') n := renders_ite hm hm'

theorem plain_append (ht : text.all isprint = true) (hn : text.length ≤ n) :
    Plain heap (sg_buffer_append_cstr heap text) n := by
  apply (renders_append text).mono hn
  intro _ _ h
  rw [h, ht]

theorem plain_format (ht : text.all isprint = true) (hn : text.length ≤ n)
    (hshort : n ≤ SNPRINTF_MAX) : Plain heap (sg_buffer_append_format heap text) n := by
  apply (renders_format (hn.trans hshort)).mono hn
  intro _ _ h
  rw [h, ht]

/-- Something is put in front on a condition. -/
theorem plain_prefixed {c : Prop} [Decidable c] {m' : RenderM β} (hm : Plain heap m n)
    (hm' : Plain heap m' n') : Plain heap (if c then m >>= fun _ => m' else m') (n + n') :=
  plain_ite (fun _ => plain_bind hm fun _ => hm') fun _ => hm'.mono (by omega)

/-! ### Numerals -/

theorem isprint_of_is_hex_digit {byte : UInt8} (h : is_hex_digit byte = true) :
    isprint byte = true := by
  unfold is_hex_digit is_digit at h
  unfold isprint
  simp only [Bool.or_eq_true, Bool.and_eq_true, decide_eq_true_eq, UInt8.le_iff_toNat_le] at h ⊢
  simp only [UInt8.reduceToNat] at h ⊢
  omega

theorem numeral_printable {base : Nat} (hbase : 1 < base) (hle : base ≤ 16) (k : Nat) :
    (numeral base k).all isprint = true := by
  rw [List.all_eq_true]
  intro byte hbyte
  exact isprint_of_is_hex_digit (is_hex_digit_of_mem hbase hle hbyte)

theorem signed_printable (k : Int) : (signed k).all isprint = true := by
  unfold signed
  split
  · rw [List.all_cons, numeral_printable (by omega) (by omega)]
    rfl
  · exact numeral_printable (by omega) (by omega) _

theorem signed_length {k : Int} {digits : Nat} (hpos : 0 < digits) (h : k.natAbs < 10 ^ digits) :
    (signed k).length ≤ digits + 1 := by
  have hlength := length_numeral_le (by omega) (by omega) hpos h
  unfold signed
  split
  · rw [List.length_cons]
    omega
  · omega

theorem int32_bound (k : Nat) : (int32 k).natAbs < 10 ^ 10 := by
  unfold int32
  have hlow := BitVec.le_two_mul_toInt (x := BitVec.ofNat 32 k)
  have hhigh := BitVec.two_mul_toInt_lt (x := BitVec.ofNat 32 k)
  omega

theorem int64_bound (k : Nat) : (int64 k).natAbs < 10 ^ 19 := by
  unfold int64
  have hlow := BitVec.le_two_mul_toInt (x := BitVec.ofNat 64 k)
  have hhigh := BitVec.two_mul_toInt_lt (x := BitVec.ofNat 64 k)
  omega

theorem signed_int32_length (k : Nat) : (signed (int32 k)).length ≤ 11 :=
  signed_length (by omega) (int32_bound k)

theorem signed_int64_length (k : Nat) : (signed (int64 k)).length ≤ 20 :=
  signed_length (by omega) (int64_bound k)

theorem hexadecimal_printable (k : Nat) : (hexadecimal k).all isprint = true := by
  unfold hexadecimal
  rw [List.all_append, numeral_printable (by omega) (by omega)]
  decide

theorem hexadecimal_length {k : Nat} (hk : k < 2 ^ 64) : (hexadecimal k).length ≤ 18 := by
  have hlength : (numeral 16 k).length ≤ 16 :=
    length_numeral_le (by omega) (by omega) (by omega) (by omega)
  have hprefix : (cstr "0x").length = 2 := by decide
  unfold hexadecimal
  rw [List.length_append]
  omega

theorem append_pointer_plain (value : UInt64) : Plain heap (append_pointer heap value) 18 := by
  unfold append_pointer
  apply plain_ite
  · intro _
    exact plain_append (by decide) (by decide)
  · intro _
    exact plain_format (hexadecimal_printable _) (hexadecimal_length value.toNat_lt) (by decide)

/-- A number of 32 bits. -/
theorem int32_plain (value : Nat) : Plain heap (sg_buffer_append_format heap (signed (int32 value))) 11 :=
  plain_format (signed_printable _) (signed_int32_length value) (by decide)

/-! ### Bytes -/

theorem append_escaped_byte_plain (byte : UInt8) : Plain heap (append_escaped_byte heap byte) 4 := by
  unfold append_escaped_byte
  apply plain_ite
  · intro _
    exact plain_append (by decide) (by decide)
  intro _
  apply plain_ite
  · intro _
    exact plain_append (by decide) (by decide)
  intro _
  apply plain_ite
  · intro _
    exact plain_append (by decide) (by decide)
  intro _
  apply plain_ite
  · intro _
    exact plain_append (by decide) (by decide)
  intro _
  apply plain_ite
  · intro _
    exact plain_append (by decide) (by decide)
  intro _
  apply plain_ite
  · intro _
    exact plain_append (by decide) (by decide)
  intro _
  apply plain_ite
  · intro hprint
    exact plain_append (by simp [hprint]) (by simp)
  · intro _
    have hhigh := isprint_of_is_hex_digit (is_hex_digit_digit
      (show byte.toNat / 16 < 16 by have := byte.toNat_lt; omega))
    have hlow := isprint_of_is_hex_digit (is_hex_digit_digit
      (Nat.mod_lt byte.toNat (show 16 > 0 by omega)))
    have hescape : (cstr "\\x").all isprint = true ∧ (cstr "\\x").length = 2 := by decide
    apply plain_format _ _ (by decide)
    · rw [List.all_append, hescape.1]
      simp [hhigh, hlow]
    · simp [hescape.2]

theorem forM_append_escaped_byte_plain (data : Text) :
    Plain heap (data.forM (append_escaped_byte heap)) (4 * data.length) := by
  induction data with
  | nil => exact plain_pure _
  | cons byte data ih =>
    apply Plain.mono (plain_bind (append_escaped_byte_plain byte) fun _ => ih)
    rw [List.length_cons]
    omega

theorem append_escaped_plain (data : Text) :
    Plain heap (append_escaped heap data) (4 * data.length + 2) := by
  have hquote : Plain heap (sg_buffer_append_cstr heap (cstr "\"")) 1 :=
    plain_append (by decide) (by decide)
  unfold append_escaped
  apply Plain.mono (plain_bind hquote fun _ =>
    plain_bind (forM_append_escaped_byte_plain data) fun _ => hquote)
  omega

/-! ### The memory of the tracee -/

variable {libc : Libc} {decoder : Decoder}

/-- What the tracee has in its memory, as far as it can be read. -/
def Decoder.peek (decoder : Decoder) (tid : Pid) (address : UInt64) (length : Nat) :
    Option Text :=
  match decoder.memory with
  | none => none
  | some memory => if address = 0 then none else memory.read tid address length

/-- What `read_memory` returns. -/
def read_result (destination : Text) : Option Text → Bool × Text × Nat
  | none => (false, destination, 0)
  | some bytes => (true, bytes ++ destination.drop bytes.length, bytes.length)

theorem peek_le {tid : Pid} {address : UInt64} {length : Nat} {bytes : Text}
    (h : decoder.peek tid address length = some bytes) : bytes.length ≤ length := by
  unfold Decoder.peek at h
  split at h
  · simp at h
  · split at h
    · simp at h
    · exact MemoryReader.read_le _ h

theorem read_result_le {tid : Pid} {address : UInt64} {length : Nat} (destination : Text) :
    (read_result destination (decoder.peek tid address length)).2.2 ≤ length := by
  cases hpeek : decoder.peek tid address length with
  | none => exact Nat.zero_le _
  | some bytes => exact peek_le hpeek

/-- **A read** adds nothing to the text. -/
theorem renders_read_memory (tid : Pid) (address : UInt64) (destination : Text) (length : Nat) :
    Renders heap (read_memory decoder tid address destination length) 0 fun r text =>
      text = [] ∧ r = read_result destination (decoder.peek tid address length) := by
  unfold read_memory
  cases hmemory : decoder.memory with
  | none => exact renders_pure ⟨rfl, by rw [Decoder.peek, hmemory, read_result]⟩
  | some memory =>
    apply renders_ite
    · intro hnull
      exact renders_pure ⟨rfl, by simp only [Decoder.peek, hmemory, if_pos hnull, read_result]⟩
    · intro hnull
      have hpeek : decoder.peek tid address length = memory.read tid address length := by
        simp only [Decoder.peek, hmemory, if_neg hnull]
      rw [hpeek]
      intro s hok
      rw [holds_bind, holds_modify]
      cases memory.read tid address length with
      | none => exact ⟨hok, [], (List.append_nil _).symm, le_refl _, rfl, rfl⟩
      | some bytes => exact ⟨hok, [], (List.append_nil _).symm, le_refl _, rfl, rfl⟩

/-- A read, and what is made of it. -/
theorem renders_read {T : α → Text → Prop} {f : Bool × Text × Nat → RenderM α} {tid : Pid}
    {address : UInt64} {destination : Text} {length : Nat}
    (h : Renders heap (f (read_result destination (decoder.peek tid address length))) n T) :
    Renders heap (read_memory decoder tid address destination length >>= f) n T := by
  apply Renders.mono (renders_bind (renders_read_memory tid address destination length) _)
    (Nat.zero_add n).le fun _ _ ht => ht
  rintro r text ⟨rfl, rfl⟩
  exact h

/-- The contents of a new local array do not matter. -/
theorem renders_array {T : α → Text → Prop} {f : Text → RenderM α} {size : Nat}
    (h : ∀ array, Renders heap (f array) n T) :
    Renders heap (uninitialized heap size >>= f) n T := by
  apply Renders.mono (renders_bind (renders_uninitialized size) _)
    (Nat.zero_add n).le fun _ _ ht => ht
  rintro array text rfl
  exact h array

/-- The bytes that are shown, and whether there are more. -/
theorem shown_plain (data : Text) (shown : Nat × Bool) {amount : Nat} (hfew : shown.1 ≤ amount) :
    Plain heap (append_escaped heap (data.take shown.1) >>= fun _ =>
      if shown.2 = true then sg_buffer_append_cstr heap (cstr "...") else pure ())
      (4 * amount + 5) := by
  have hdots : (cstr "...").all isprint = true ∧ (cstr "...").length = 3 := by decide
  apply Plain.mono (plain_bind (append_escaped_plain _) fun _ =>
    plain_ite (fun _ => plain_append hdots.1 hdots.2.le) fun _ => plain_pure _)
  rw [List.length_take]
  omega

theorem append_remote_bytes_plain (tid : Pid) (address : UInt64) (requested : Nat)
    (stop_at_nul : Bool) :
    Plain heap (append_remote_bytes heap decoder tid address requested stop_at_nul)
      (4 * decoder.string_limit + 18) := by
  unfold append_remote_bytes
  dsimp only
  have hamount : (if requested < decoder.string_limit then requested else decoder.string_limit) ≤
      decoder.string_limit := by
    split <;> omega
  generalize (if requested < decoder.string_limit then requested else decoder.string_limit) =
    amount at hamount
  have hnull : Plain heap (sg_buffer_append_cstr heap (cstr "NULL"))
      (4 * decoder.string_limit + 18) :=
    plain_append (by decide) (show 4 ≤ _ by omega)
  apply plain_ite
  · intro _
    exact hnull
  intro _
  apply plain_ite
  · intro _
    split
    · exact plain_append (by decide) (show 2 ≤ _ by omega)
    · exact plain_append (by decide) (show 5 ≤ _ by omega)
  intro _
  apply Renders.mono (renders_bind (renders_malloc amount) _) (Nat.zero_add _).le
    fun _ _ ht => ht
  rintro data text ⟨rfl, hdata⟩
  cases data with
  | none => exact renders_throw fun hs => by simp at hdata; exact hdata hs
  | some data =>
    apply renders_read
    cases hpeek : decoder.peek tid address amount with
    | none => exact (append_pointer_plain address).mono (by omega)
    | some bytes =>
      have hle := peek_le hpeek
      dsimp only [read_result]
      apply plain_ite
      · intro _
        exact (append_pointer_plain address).mono (by omega)
      · intro _
        refine Plain.mono (shown_plain _ _ (show _ ≤ bytes.length from ?_)) (by omega)
        split
        · split
          · rename_i terminator hterminator
            have hlt := (List.findIdx?_eq_some_iff_getElem.mp hterminator).1
            rw [List.length_take] at hlt
            show terminator ≤ bytes.length
            omega
          · exact le_refl _
        · exact le_refl _

theorem append_string_plain (tid : Pid) (address : UInt64) :
    Plain heap (append_string heap decoder tid address) (4 * decoder.string_limit + 18) :=
  append_remote_bytes_plain tid address _ true

/-! ### Flags and named numbers -/

/-- The names of a table are printable and not long. -/
def FlagNames (names : List FlagName) : Prop :=
  ∀ entry ∈ names, entry.name.all isprint = true ∧ entry.name.length ≤ 24

instance (names : List FlagName) : Decidable (FlagNames names) := by
  unfold FlagNames
  infer_instance

theorem bar_plain : Plain heap (sg_buffer_append_cstr heap (cstr "|")) 1 :=
  plain_append (by decide) (by decide)

theorem append_flag_names_plain {names : List FlagName} : ∀ (remaining : UInt64) (wrote : Bool),
    FlagNames names →
      Plain heap (append_flag_names heap names remaining wrote) (25 * names.length) := by
  induction names with
  | nil => exact fun _ _ _ => plain_pure _
  | cons entry names ih =>
    intro remaining wrote hnames
    obtain ⟨hname, hlength⟩ := hnames entry (by simp)
    have hrest : FlagNames names := fun e he => hnames e (by simp [he])
    rw [List.length_cons]
    unfold append_flag_names
    apply plain_ite
    · intro _
      dsimp only
      apply Plain.mono (plain_prefixed bar_plain
        (plain_bind (plain_append hname hlength) fun _ => ih _ true hrest))
      omega
    · intro _
      apply Plain.mono (ih remaining wrote hrest)
      omega

theorem append_flags_plain (value : UInt64) {names : List FlagName} {zero_name : Option Text}
    (hnames : FlagNames names)
    (hzero : ∀ name, zero_name = some name → name.all isprint = true ∧ name.length ≤ 24) :
    Plain heap (append_flags heap value names zero_name) (25 * names.length + 24) := by
  unfold append_flags
  split
  · rename_i name _
    obtain ⟨hname, hlength⟩ := hzero name rfl
    exact plain_append hname (hlength.trans (by omega))
  · apply plain_bind (append_flag_names_plain value false hnames)
    rintro ⟨remaining, wrote⟩
    apply plain_ite
    · intro _
      dsimp only
      apply Plain.mono (plain_prefixed bar_plain
        (plain_format (hexadecimal_printable _) (hexadecimal_length remaining.toNat_lt) (by decide)))
      omega
    · exact fun _ => plain_pure _

theorem append_open_flags_plain (value : UInt64) :
    Plain heap (append_open_flags heap value) 512 := by
  have hnames : FlagNames open_flag_names ∧ open_flag_names.length = 15 := by decide
  have haccess : Plain heap (sg_buffer_append_cstr heap
      (if value &&& O_ACCMODE = 1 then cstr "O_WRONLY"
        else if value &&& O_ACCMODE = 2 then cstr "O_RDWR" else cstr "O_RDONLY")) 8 := by
    split
    · exact plain_append (by decide) (by decide)
    · split
      · exact plain_append (by decide) (by decide)
      · exact plain_append (by decide) (by decide)
  unfold append_open_flags
  apply Plain.mono (plain_bind haccess fun _ => plain_ite (fun _ => plain_pure _) fun _ =>
    plain_bind bar_plain fun _ => append_flags_plain _ hnames.1 (by simp))
  rw [hnames.2]
  omega

theorem append_signal_plain (hlibc : libc.Plain) (value : UInt64) :
    Plain heap (append_signal heap libc value) 35 := by
  unfold append_signal
  dsimp only
  split
  · exact (int32_plain value.toNat).mono (by omega)
  · rename_i abbreviation habbreviation
    obtain ⟨hprint, hlength⟩ := hlibc.sigabbrev_np _ _ habbreviation
    have hsig : (cstr "SIG").all isprint = true ∧ (cstr "SIG").length = 3 := by decide
    apply plain_format _ _ (by decide)
    · rw [List.all_append, hsig.1, hprint]
      rfl
    · rw [List.length_append, hsig.2]
      omega

theorem append_clone_flags_plain (hlibc : libc.Plain) (value : UInt64) :
    Plain heap (append_clone_flags heap libc value) 660 := by
  have hnames : FlagNames clone_flag_names ∧ clone_flag_names.length = 24 := by decide
  have hzero : (cstr "0").all isprint = true ∧ (cstr "0").length ≤ 24 := by decide
  unfold append_clone_flags
  apply Plain.mono (plain_bind
    (append_flags_plain _ hnames.1 fun name hname => Option.some.inj hname ▸ hzero) fun _ =>
      plain_ite (fun _ => plain_pure _) fun _ =>
        plain_bind bar_plain fun _ => append_signal_plain hlibc _)
  rw [hnames.2]

theorem append_named_integer_plain (value : Nat) {names : List (Int × Text)}
    (hnames : ∀ entry ∈ names, entry.2.all isprint = true ∧ entry.2.length ≤ 24) :
    Plain heap (append_named_integer heap (int32 value) names) 24 := by
  induction names with
  | nil => exact (int32_plain value).mono (by omega)
  | cons entry names ih =>
    obtain ⟨known, name⟩ := entry
    obtain ⟨hname, hlength⟩ := hnames (known, name) (by simp)
    unfold append_named_integer
    apply plain_ite
    · exact fun _ => plain_append hname hlength
    · exact fun _ => ih fun entry hentry => hnames entry (by simp [hentry])

theorem append_socket_type_plain (value : UInt64) :
    Plain heap (append_socket_type heap value) 80 := by
  have hbar : (cstr "|").all isprint = true ∧ (cstr "|").length = 1 := by decide
  have hrest : ∀ flags : UInt64, Plain heap (if flags = 0 then pure ()
      else sg_buffer_append_format heap (cstr "|" ++ hexadecimal flags.toNat)) 19 := by
    intro flags
    have hlength := hexadecimal_length flags.toNat_lt
    apply plain_ite
    · exact fun _ => plain_pure _
    · intro _
      apply plain_format _ _ (by decide)
      · rw [List.all_append, hbar.1, hexadecimal_printable]
        rfl
      · rw [List.length_append, hbar.2]
        omega
  have hnonblock : Plain heap (sg_buffer_append_cstr heap (cstr "|SOCK_NONBLOCK")) 14 :=
    plain_append (by decide) (by decide)
  have hcloexec : Plain heap (sg_buffer_append_cstr heap (cstr "|SOCK_CLOEXEC")) 13 :=
    plain_append (by decide) (by decide)
  have hbase : (signed ((value &&& 0xf).toNat : Int)).length ≤ 21 :=
    signed_length (by omega) (by have := (value &&& 0xf).toNat_lt; omega)
  unfold append_socket_type
  dsimp only
  split
  · apply Plain.mono (plain_bind (plain_format (signed_printable _) hbase (by decide)) fun _ =>
      plain_prefixed hnonblock (plain_prefixed hcloexec (hrest _)))
    omega
  · rename_i name hname
    have hplain : name.all isprint = true ∧ name.length ≤ 21 := by
      split_ifs at hname <;> injection hname with hname <;> subst hname <;> decide
    apply Plain.mono (plain_bind (plain_append hplain.1 hplain.2) fun _ =>
      plain_prefixed hnonblock (plain_prefixed hcloexec (hrest _)))
    omega

/-! ### Structures in the memory of the tracee -/

theorem append_unix_path_plain (path : Text) :
    Plain heap (append_unix_path heap path) (4 * path.length + 40) := by
  have hopen : Plain heap (sg_buffer_append_cstr heap (cstr "\x7bsa_family=AF_UNIX, sun_path=")) 30 :=
    plain_append (by decide) (by decide)
  have hclose : Plain heap (sg_buffer_append_cstr heap (cstr "\x7d")) 1 :=
    plain_append (by decide) (by decide)
  have hat : Plain heap (sg_buffer_append_cstr heap (cstr "@")) 1 :=
    plain_append (by decide) (by decide)
  unfold append_unix_path
  dsimp only
  split
  · rename_i abstract_name
    apply Plain.mono (plain_bind hopen fun _ => plain_bind hat fun _ =>
      plain_bind (append_escaped_plain abstract_name) fun _ => hclose)
    rw [List.length_cons]
    omega
  · have hshorter : (c_string path).length ≤ path.length := (List.takeWhile_sublist _).length_le
    apply Plain.mono (plain_bind hopen fun _ =>
      plain_bind (append_escaped_plain (c_string path)) fun _ => hclose)
    omega

theorem length_field_le (bytes : Text) (offset size : Nat) : (field bytes offset size).length ≤ size :=
  List.length_take_le _ _

theorem little_endian_lt (bytes : Text) : little_endian bytes < 256 ^ bytes.length := by
  induction bytes with
  | nil => exact Nat.one_pos
  | cons byte bytes ih =>
    have hbyte := byte.toNat_lt
    unfold little_endian
    rw [List.length_cons, Nat.pow_succ]
    omega

theorem numeral_of_two_bytes {bytes : Text} (h : bytes.length ≤ 2) :
    (numeral 10 (little_endian bytes)).length ≤ 5 := by
  have hlt := little_endian_lt bytes
  have hpow : 256 ^ bytes.length ≤ 256 ^ 2 := Nat.pow_le_pow_right (by omega) h
  exact length_numeral_le (by omega) (by omega) (by omega) (by omega)

/-- The text of an internet address, put together from its parts. -/
theorem internet_address_plain {family port address closing : Text}
    (hfamily : family.all isprint = true ∧ family.length ≤ 40)
    (hport : port.all isprint = true ∧ port.length ≤ 5) {middle : Text}
    (hmiddle : middle.all isprint = true ∧ middle.length ≤ 30)
    (haddress : address.all isprint = true ∧ address.length < 46)
    (hclosing : closing.all isprint = true ∧ closing.length ≤ 5) :
    Plain heap (sg_buffer_append_format heap (family ++ port ++ middle ++ address ++ closing))
      600 := by
  apply plain_format _ _ (by decide)
  · simp only [List.all_append, hfamily.1, hport.1, hmiddle.1, haddress.1, hclosing.1, Bool.and_self]
  · simp only [List.length_append]
    omega

theorem append_sockaddr_plain (hlibc : libc.Plain) (tid : Pid) (address : UInt64)
    (length : Nat) : Plain heap (append_sockaddr heap libc decoder tid address length) 600 := by
  have hpointer : Plain heap (append_pointer heap address) 600 :=
    (append_pointer_plain address).mono (by omega)
  have hport : ∀ bytes : Text, bytes.length ≤ 2 →
      (numeral 10 (little_endian bytes)).all isprint = true ∧
        (numeral 10 (little_endian bytes)).length ≤ 5 := by
    intro bytes hbytes
    exact ⟨numeral_printable (by omega) (by omega) _, numeral_of_two_bytes hbytes⟩
  have hntohs : ∀ storage : Text, (field storage 2 2).reverse.length ≤ 2 := by
    intro storage
    rw [List.length_reverse]
    exact length_field_le _ _ _
  unfold append_sockaddr
  dsimp only
  apply plain_ite
  · exact fun _ => plain_append (by decide) (show 4 ≤ 600 by omega)
  intro _
  apply plain_ite
  · exact fun _ => hpointer
  intro _
  have hamount : (if length < sizeof_storage then length else sizeof_storage) ≤ 128 := by
    have hsize : sizeof_storage = 128 := rfl
    split <;> omega
  generalize (if length < sizeof_storage then length else sizeof_storage) = amount at hamount
  apply renders_read
  have hread : (read_result (List.replicate sizeof_storage 0)
      (decoder.peek tid address amount)).2.2 ≤ amount := read_result_le _
  generalize read_result _ _ = r at hread
  obtain ⟨readable, storage, bytes_read⟩ := r
  dsimp only at hread
  apply plain_ite
  · exact fun _ => hpointer
  intro _
  apply plain_ite
  · intro _
    dsimp only
    split
    · exact hpointer
    · rename_i text htext
      exact internet_address_plain (by decide) (hport _ (hntohs storage))
        (by decide) (hlibc.inet_ntop _ _ _ htext) (by decide)
  intro _
  apply plain_ite
  · intro _
    dsimp only
    split
    · exact hpointer
    · rename_i text htext
      exact internet_address_plain (by decide) (hport _ (hntohs storage))
        (by decide) (hlibc.inet_ntop _ _ _ htext) (by decide)
  intro _
  apply plain_ite
  · intro _
    have hshort := length_field_le storage 2 (bytes_read - 2)
    apply Plain.mono (append_unix_path_plain _)
    show 4 * (field storage 2 (bytes_read - 2)).length + 40 ≤ 600
    omega
  · intro _
    obtain ⟨hprint, hlength⟩ := hport _ (length_field_le storage 0 2)
    have hopen : (cstr "\x7bsa_family=").all isprint = true ∧
        (cstr "\x7bsa_family=").length = 11 := by decide
    have hclose : (cstr "\x7d").all isprint = true ∧ (cstr "\x7d").length = 1 := by decide
    apply plain_format _ _ (by decide)
    · simp only [List.all_append, hopen.1, hprint, hclose.1, Bool.and_self]
    · simp only [List.length_append, hopen.2, hclose.2]
      omega

/-- The rest of a round of the loop of `append_argv`, once the pointer has been read. -/
def append_argv_entry (heap : Heap) (decoder : Decoder) (tid : Pid) (address : UInt64)
    (rounds index : Nat) (r : Bool × Text × Nat) : RenderM Unit :=
  if !r.1 ∨ r.2.2 ≠ 8 then do
    if index ≠ 0 then sg_buffer_append_cstr heap (cstr ", ") else pure ()
    sg_buffer_append_cstr heap (cstr "?")
    sg_buffer_append_cstr heap (cstr ", ...]")
  else if little_endian r.2.1 = 0 then sg_buffer_append_cstr heap (cstr "]")
  else do
    if index ≠ 0 then sg_buffer_append_cstr heap (cstr ", ") else pure ()
    append_string heap decoder tid (UInt64.ofNat (little_endian r.2.1))
    append_argv_from heap decoder tid address rounds (index + 1)

theorem append_argv_from_succ (tid : Pid) (address : UInt64) (rounds index : Nat) :
    append_argv_from heap decoder tid address (rounds + 1) index =
      if address.toNat > 2 ^ 64 - 1 - index * 8 then
        append_argv_entry heap decoder tid address rounds index (false, List.replicate 8 0, 0)
      else
        read_memory decoder tid (address + UInt64.ofNat (index * 8)) (List.replicate 8 0) 8 >>=
          append_argv_entry heap decoder tid address rounds index := by
  rw [append_argv_from]
  rfl

theorem append_argv_from_plain (tid : Pid) (address : UInt64) : ∀ rounds index : Nat,
    Plain heap (append_argv_from heap decoder tid address rounds index)
      ((4 * decoder.string_limit + 20) * rounds + 10) := by
  have hcomma : Plain heap (sg_buffer_append_cstr heap (cstr ", ")) 2 :=
    plain_append (by decide) (by decide)
  have hunknown : Plain heap (sg_buffer_append_cstr heap (cstr "?")) 1 :=
    plain_append (by decide) (by decide)
  have hmore : Plain heap (sg_buffer_append_cstr heap (cstr ", ...]")) 6 :=
    plain_append (by decide) (by decide)
  have hclose : Plain heap (sg_buffer_append_cstr heap (cstr "]")) 1 :=
    plain_append (by decide) (by decide)
  intro rounds
  induction rounds with
  | zero => exact fun _ => hmore.mono (by omega)
  | succ rounds ih =>
    intro index
    rw [Nat.mul_succ, append_argv_from_succ]
    have hround : ∀ r, Plain heap (append_argv_entry heap decoder tid address rounds index r)
        ((4 * decoder.string_limit + 20) * rounds + (4 * decoder.string_limit + 20) + 10) := by
      intro r
      apply plain_ite
      · intro _
        apply Plain.mono (plain_prefixed hcomma (plain_bind hunknown fun _ => hmore))
        omega
      intro _
      apply plain_ite
      · exact fun _ => hclose.mono (by omega)
      · intro _
        apply Plain.mono (plain_prefixed hcomma
          (plain_bind (append_string_plain tid _) fun _ => ih (index + 1)))
        omega
    apply plain_ite
    · exact fun _ => hround _
    · exact fun _ => renders_read (hround _)

theorem append_argv_plain (tid : Pid) (address : UInt64) :
    Plain heap (append_argv heap decoder tid address) (128 * decoder.string_limit + 651) := by
  have hopen : Plain heap (sg_buffer_append_cstr heap (cstr "[")) 1 :=
    plain_append (by decide) (by decide)
  unfold append_argv
  apply plain_ite
  · exact fun _ => plain_append (by decide) (show 4 ≤ _ by omega)
  · intro _
    apply Plain.mono (plain_bind hopen fun _ => append_argv_from_plain tid address 32 0)
    omega

theorem append_timespec_plain (tid : Pid) (address : UInt64) :
    Plain heap (append_timespec heap decoder tid address) 80 := by
  have hparts : (cstr "\x7btv_sec=").all isprint = true ∧ (cstr "\x7btv_sec=").length = 8 ∧
      (cstr ", tv_nsec=").all isprint = true ∧ (cstr ", tv_nsec=").length = 10 ∧
      (cstr "\x7d").all isprint = true ∧ (cstr "\x7d").length = 1 := by decide
  obtain ⟨hopen, hopen', hmiddle, hmiddle', hclose, hclose'⟩ := hparts
  unfold append_timespec
  apply plain_ite
  · exact fun _ => plain_append (by decide) (show 4 ≤ 80 by omega)
  intro _
  apply renders_array
  intro value
  apply renders_read
  generalize read_result _ _ = r
  obtain ⟨readable, value, bytes_read⟩ := r
  apply plain_ite
  · exact fun _ => (append_pointer_plain address).mono (by omega)
  · intro _
    have hsec := signed_int64_length (little_endian (field value 0 8))
    have hnsec := signed_int64_length (little_endian (field value 8 8))
    apply plain_format _ _ (by decide)
    · simp only [List.all_append, hopen, hmiddle, hclose, signed_printable, Bool.and_self]
    · simp only [List.length_append, hopen', hmiddle', hclose']
      omega

theorem append_pipe_plain (tid : Pid) (event : SyscallEvent) (address : UInt64) :
    Plain heap (append_pipe heap decoder tid event address) 30 := by
  have hparts : (cstr "[").all isprint = true ∧ (cstr "[").length = 1 ∧
      (cstr ", ").all isprint = true ∧ (cstr ", ").length = 2 ∧
      (cstr "]").all isprint = true ∧ (cstr "]").length = 1 := by decide
  obtain ⟨hopen, hopen', hmiddle, hmiddle', hclose, hclose'⟩ := hparts
  unfold append_pipe
  apply plain_ite
  · exact fun _ => (append_pointer_plain address).mono (by omega)
  intro _
  apply renders_array
  intro descriptors
  apply renders_read
  generalize read_result _ _ = r
  obtain ⟨readable, descriptors, bytes_read⟩ := r
  apply plain_ite
  · exact fun _ => (append_pointer_plain address).mono (by omega)
  · intro _
    have hfirst := signed_int32_length (little_endian (field descriptors 0 4))
    have hsecond := signed_int32_length (little_endian (field descriptors 4 4))
    apply plain_format _ _ (by decide)
    · simp only [List.all_append, hopen, hmiddle, hclose, signed_printable, Bool.and_self]
    · simp only [List.length_append, hopen', hmiddle', hclose']
      omega

/-! ### `struct utsname` -/

/-- The text added by the program is printable exactly when `c` holds. -/
def Shows (heap : Heap) (m : RenderM α) (n : Nat) (c : Prop) : Prop :=
  Renders heap m n fun _ text => text.all isprint = true ↔ c

theorem Plain.shows {c : Prop} (h : Plain heap m n) (hc : c) : Shows heap m n c :=
  Renders.mono h (le_refl _) fun _ _ ht => iff_of_true ht hc

/-- What the fields of `struct utsname` have to be: each that is shown is printable up to
    its NUL. -/
def Decoder.uts_printable (decoder : Decoder) (tid : Pid) (event : SyscallEvent)
    (address : UInt64) : Prop :=
  event.error_number = 0 → ∀ bytes, decoder.peek tid address sizeof_utsname = some bytes →
    bytes.length = sizeof_utsname → ∀ index ∈ [0, 1, 2, 4], (uts_field bytes index).all isprint = true

theorem field_append {bytes rest : Text} {offset size : Nat} (h : offset + size ≤ bytes.length) :
    field (bytes ++ rest) offset size = field bytes offset size := by
  unfold field
  rw [List.drop_append_of_le_length (by omega), List.take_append_of_le_length]
  rw [List.length_drop]
  omega

theorem uts_field_append {bytes rest : Text} {index : Nat} (h : bytes.length = sizeof_utsname)
    (hindex : index ≤ 5) : uts_field (bytes ++ rest) index = uts_field bytes index := by
  unfold uts_field
  rw [field_append]
  have hsize : sizeof_uts_field = 65 := rfl
  have hwhole : sizeof_utsname = 390 := rfl
  rw [hsize, h, hwhole]
  omega

theorem uts_text_printable (value : Text) : (uts_text value).all isprint = true ↔
    ∀ index ∈ [0, 1, 2, 4], (uts_field value index).all isprint = true := by
  have hparts : (cstr "\x7bsysname=\"").all isprint = true ∧
      (cstr "\", nodename=\"").all isprint = true ∧ (cstr "\", release=\"").all isprint = true ∧
      (cstr "\", machine=\"").all isprint = true ∧ (cstr "\"\x7d").all isprint = true := by
    decide
  obtain ⟨h₀, h₁, h₂, h₃, h₄⟩ := hparts
  unfold uts_text
  simp only [List.all_append, h₀, h₁, h₂, h₃, h₄, Bool.true_and, Bool.and_true, Bool.and_eq_true,
    List.forall_mem_cons, List.not_mem_nil, false_implies, implies_true, and_true, and_assoc]

theorem uts_text_length (value : Text) : (uts_text value).length ≤ 320 := by
  have hparts : (cstr "\x7bsysname=\"").length = 10 ∧
      (cstr "\", nodename=\"").length = 13 ∧ (cstr "\", release=\"").length = 12 ∧
      (cstr "\", machine=\"").length = 12 ∧ (cstr "\"\x7d").length = 2 := by
    decide
  obtain ⟨h₀, h₁, h₂, h₃, h₄⟩ := hparts
  have hfield : ∀ index, (uts_field value index).length ≤ 65 := by
    intro index
    exact ((List.takeWhile_sublist _).length_le).trans (length_field_le _ _ _)
  have hsysname := hfield 0
  have hnodename := hfield 1
  have hrelease := hfield 2
  have hmachine := hfield 4
  unfold uts_text
  simp only [List.length_append, h₀, h₁, h₂, h₃, h₄]
  omega

/-- **The fields of `struct utsname`** are shown as they are. -/
theorem append_uts_shows (tid : Pid) (event : SyscallEvent) (address : UInt64) :
    Shows heap (append_uts heap decoder tid event address) 320
      (decoder.uts_printable tid event address) := by
  have hpointer : Plain heap (append_pointer heap address) 320 :=
    (append_pointer_plain address).mono (by omega)
  unfold append_uts
  apply renders_ite
  · intro herror
    exact hpointer.shows fun h => absurd h herror
  intro herror
  apply renders_array
  intro array
  apply renders_read
  cases hpeek : decoder.peek tid address sizeof_utsname with
  | none =>
    apply renders_ite
    · intro _
      apply hpointer.shows
      intro _ bytes h
      rw [hpeek] at h
      simp at h
    · intro h
      simp at h
  | some bytes =>
    apply renders_ite
    · intro hshort
      apply hpointer.shows
      intro _ bytes' h hlength
      rw [hpeek] at h
      injection h with h
      subst h
      simp [hlength] at hshort
    · intro hwhole
      have hlength : bytes.length = sizeof_utsname := by
        simpa [read_result] using hwhole
      apply Renders.mono (renders_format (le_trans (uts_text_length _) (by decide)))
        (uts_text_length _)
      rintro _ _ rfl
      rw [uts_text_printable]
      have hfields : ∀ index ∈ [0, 1, 2, 4],
          uts_field (bytes ++ array.drop bytes.length) index = uts_field bytes index := by
        intro index hindex
        apply uts_field_append hlength
        simp only [List.mem_cons, List.not_mem_nil, or_false] at hindex
        omega
      constructor
      · intro hshown _ bytes' h _ index hindex
        rw [hpeek] at h
        injection h with h
        subst h
        rw [← hfields index hindex]
        exact hshown index hindex
      · intro hprintable index hindex
        show List.all (uts_field (bytes ++ array.drop bytes.length) index) isprint = true
        rw [hfields index hindex]
        exact hprintable (not_not.mp herror) bytes hpeek hlength index hindex

/-! ### Arguments -/

/-- **Every other argument** is printable. -/
theorem render_argument_plain (hlibc : libc.Plain) (tid : Pid) (event : SyscallEvent)
    (spec : ArgumentSpec) (index : Nat) (hkind : spec.kind ≠ .ARG_UTS_OUT) :
    Plain heap (render_argument heap libc decoder tid event spec index)
      (128 * decoder.string_limit + 1024) := by
  have hint32 : Plain heap (sg_buffer_append_format heap
      (signed (int32 (event.argument index).toNat))) (128 * decoder.string_limit + 1024) :=
    (int32_plain _).mono (by omega)
  have hpointer : Plain heap (append_pointer heap (event.argument index))
      (128 * decoder.string_limit + 1024) := (append_pointer_plain _).mono (by omega)
  have hremote : ∀ requested stop_at_nul, Plain heap (append_remote_bytes heap decoder tid
      (event.argument index) requested stop_at_nul) (128 * decoder.string_limit + 1024) :=
    fun requested stop_at_nul =>
      (append_remote_bytes_plain tid _ requested stop_at_nul).mono (by omega)
  have hnumeral : ∀ base, 1 < base → base ≤ 16 →
      (numeral base (event.argument index).toNat).length ≤ 64 := by
    intro base hbase _
    apply length_numeral_le hbase (by omega) (by omega)
    exact (event.argument index).toNat_lt.trans_le (Nat.pow_le_pow_left hbase 64)
  have hnamed : ∀ names : List (Int × Text),
      (∀ entry ∈ names, entry.2.all isprint = true ∧ entry.2.length ≤ 24) →
        Plain heap (append_named_integer heap (int32 (event.argument index).toNat) names)
          (128 * decoder.string_limit + 1024) :=
    fun names hnames => (append_named_integer_plain _ hnames).mono (by omega)
  have hflags : ∀ (names : List FlagName) (zero_name : Text), FlagNames names →
      names.length ≤ 16 → zero_name.all isprint = true ∧ zero_name.length ≤ 24 →
        Plain heap (append_flags heap (event.argument index) names zero_name)
          (128 * decoder.string_limit + 1024) := by
    intro names zero_name hnames hlength hzero
    apply Plain.mono (append_flags_plain _ hnames fun name hname => Option.some.inj hname ▸ hzero)
    omega
  have hname : ∀ name : Text, name.all isprint = true ∧ name.length ≤ 24 →
      Plain heap (sg_buffer_append_cstr heap name) (128 * decoder.string_limit + 1024) :=
    fun name hname => plain_append hname.1 (by omega)
  unfold render_argument
  dsimp only
  generalize spec.kind = kind at hkind
  cases kind with
  | ARG_HEX =>
    exact Plain.mono (plain_format (hexadecimal_printable _)
      (hexadecimal_length (event.argument index).toNat_lt) (by decide)) (by omega)
  | ARG_S32 => exact hint32
  | ARG_U64 =>
    exact Plain.mono (plain_format (numeral_printable (by omega) (by omega) _)
      (hnumeral 10 (by omega) (by omega)) (by decide)) (by omega)
  | ARG_SIZE =>
    exact Plain.mono (plain_format (numeral_printable (by omega) (by omega) _)
      (hnumeral 10 (by omega) (by omega)) (by decide)) (by omega)
  | ARG_FD => exact hint32
  | ARG_DIRFD => exact plain_ite (fun _ => hname _ (by decide)) fun _ => hint32
  | ARG_POINTER => exact hpointer
  | ARG_STRING => exact hremote _ true
  | ARG_STRING_OUT => exact plain_ite (fun _ => hpointer) fun _ => hremote _ true
  | ARG_BUFFER_IN => exact hremote _ false
  | ARG_BUFFER_OUT =>
    exact plain_ite (fun _ => hpointer) fun _ =>
      plain_ite (fun _ => hname _ (by decide)) fun _ =>
        plain_ite (fun _ => hpointer) fun _ => hremote _ false
  | ARG_ARGV => exact (append_argv_plain tid _).mono (by omega)
  | ARG_MODE =>
    have hzero : (cstr "0").all isprint = true ∧ (cstr "0").length = 1 := by decide
    have hoctal := hnumeral 8 (by omega) (by omega)
    apply Plain.mono (plain_format (n := 65) _ _ (by decide)) (by omega)
    · rw [List.all_append, hzero.1, numeral_printable (by omega) (by omega)]
      rfl
    · rw [List.length_append, hzero.2]
      omega
  | ARG_OPEN_FLAGS => exact (append_open_flags_plain _).mono (by omega)
  | ARG_FD_FLAGS => exact hflags _ _ (by decide) (by decide) (by decide)
  | ARG_PROT_FLAGS => exact hflags _ _ (by decide) (by decide) (by decide)
  | ARG_MAP_FLAGS => exact hflags _ _ (by decide) (by decide) (by decide)
  | ARG_CLONE_FLAGS => exact (append_clone_flags_plain hlibc _).mono (by omega)
  | ARG_ACCESS_FLAGS => exact hflags _ _ (by decide) (by decide) (by decide)
  | ARG_AT_FLAGS => exact hflags _ _ (by decide) (by decide) (by decide)
  | ARG_SOCKET_DOMAIN => exact hnamed _ (by decide)
  | ARG_SOCKET_TYPE => exact (append_socket_type_plain _).mono (by omega)
  | ARG_SIGNAL => exact (append_signal_plain hlibc _).mono (by omega)
  | ARG_SIGMASK_HOW => exact hnamed _ (by decide)
  | ARG_SHUTDOWN_HOW => exact hnamed _ (by decide)
  | ARG_FCNTL_COMMAND => exact hnamed _ (by decide)
  | ARG_EPOLL_OPERATION => exact hnamed _ (by decide)
  | ARG_WHENCE =>
    exact plain_ite (fun _ => hname _ (by decide)) fun _ =>
      plain_ite (fun _ => hname _ (by decide)) fun _ =>
        plain_ite (fun _ => hname _ (by decide)) fun _ => hint32
  | ARG_SOCKADDR_IN => exact (append_sockaddr_plain hlibc tid _ _).mono (by omega)
  | ARG_TIMESPEC_IN => exact (append_timespec_plain tid _).mono (by omega)
  | ARG_PIPE_OUT => exact (append_pipe_plain tid event _).mono (by omega)
  | ARG_UTS_OUT => exact absurd rfl hkind

theorem render_argument_shows (hlibc : libc.Plain) (tid : Pid) (event : SyscallEvent)
    (spec : ArgumentSpec) (index : Nat) :
    Shows heap (render_argument heap libc decoder tid event spec index)
      (128 * decoder.string_limit + 1024)
      (spec.kind = .ARG_UTS_OUT → decoder.uts_printable tid event (event.argument index)) := by
  by_cases hkind : spec.kind = .ARG_UTS_OUT
  · have huts : render_argument heap libc decoder tid event spec index =
        append_uts heap decoder tid event (event.argument index) := by
      simp only [render_argument, hkind]
    rw [huts]
    apply Renders.mono (append_uts_shows tid event _) (by omega)
    intro _ text htext
    rw [htext, imp_iff_right hkind]
  · exact (render_argument_plain hlibc tid event spec index hkind).shows fun h => absurd h hkind

/-! ### The arguments of a call -/

/-- The kind of an argument. -/
def SyscallDescriptor.kind (descriptor : SyscallDescriptor) (index : Nat) : ArgumentKind :=
  (descriptor.arguments.toList.getD index (ARG .ARG_HEX)).kind

/-- The text that is saved for an argument. -/
def SyscallEvent.saved (event : SyscallEvent) (index : Nat) : Option Text :=
  event.decoded_arguments.toList.getD index none

/-- What is saved with an event: printable texts, and none for an argument that the call
    writes. -/
structure SyscallEvent.Decoded (string_limit : Nat) (event : SyscallEvent) : Prop where
  text : ∀ {index text}, event.saved index = some text →
    text.all isprint = true ∧ text.length ≤ 128 * string_limit + 1024
  input : ∀ {descriptor index text}, sg_syscall_by_number event.number = some descriptor →
    event.saved index = some text → is_output_argument (descriptor.kind index) = false

/-- The fields of `struct utsname` that the call shows are printable. -/
def Decoder.shows_printable (decoder : Decoder) (tid : Pid) (event : SyscallEvent)
    (index : Nat) : Prop :=
  ∀ descriptor, sg_syscall_by_number event.number = some descriptor →
    descriptor.kind index = .ARG_UTS_OUT →
      decoder.uts_printable tid event (event.argument index)

theorem getD_replicate_none (index : Nat) :
    (Vector.replicate 6 (none : Option Text)).toList.getD index none = none := by
  rw [Vector.toList_replicate, List.getD_eq_getElem?_getD, List.getElem?_replicate]
  split <;> rfl

/-- An event without saved texts. -/
theorem decoded_of_none {string_limit : Nat} {event : SyscallEvent}
    (h : event.decoded_arguments = Vector.replicate 6 none) : event.Decoded string_limit := by
  have hnone : ∀ index, event.saved index = none := by
    intro index
    rw [SyscallEvent.saved, h, getD_replicate_none]
  constructor
  · intro index text htext
    rw [hnone] at htext
    simp at htext
  · intro _ index text _ htext
    rw [hnone] at htext
    simp at htext

theorem saved_set (event : SyscallEvent) (index index' : Nat) (text : Text) :
    SyscallEvent.saved { event with
        decoded_arguments := event.decoded_arguments.setIfInBounds index (some text) } index' =
      if index = index' ∧ index < 6 then some text else event.saved index' := by
  show ((event.decoded_arguments.setIfInBounds index (some text)).toList.getD index' none) =
    if _ then _ else event.decoded_arguments.toList.getD index' none
  rw [Vector.toList_setIfInBounds, List.getD_eq_getElem?_getD, List.getElem?_set,
    List.getD_eq_getElem?_getD, Vector.length_toList]
  by_cases hindex : index = index'
  · by_cases hlt : index < 6
    · rw [if_pos hindex, if_pos hlt, if_pos ⟨hindex, hlt⟩]
      rfl
    · subst hindex
      rw [if_pos rfl, if_neg hlt, if_neg fun h => hlt h.2, List.getElem?_eq_none]
      rw [Vector.length_toList]
      omega
  · rw [if_neg hindex, if_neg fun h => hindex h.1]

/-- One more text is saved. -/
theorem Decoded.save {string_limit : Nat} {event : SyscallEvent} {text : Text} (index : Nat)
    (h : event.Decoded string_limit)
    (htext : text.all isprint = true ∧ text.length ≤ 128 * string_limit + 1024)
    (hinput : ∀ descriptor, sg_syscall_by_number event.number = some descriptor →
      is_output_argument (descriptor.kind index) = false) :
    SyscallEvent.Decoded string_limit { event with
      decoded_arguments := event.decoded_arguments.setIfInBounds index (some text) } := by
  constructor
  · intro index' text' hsaved
    rw [saved_set] at hsaved
    split at hsaved
    · injection hsaved with hsaved
      exact hsaved ▸ htext
    · exact h.text hsaved
  · intro descriptor index' text' hdescriptor hsaved
    rw [saved_set] at hsaved
    split at hsaved
    · rename_i hsame
      exact hsame.1 ▸ hinput descriptor hdescriptor
    · exact h.input hdescriptor hsaved

theorem c_string_of_printable {text : Text} (h : text.all isprint = true) : c_string text = text := by
  unfold c_string
  apply List.takeWhile_eq_self_iff.mpr
  intro byte hbyte
  have hprint := List.all_eq_true.mp h byte hbyte
  rw [bne_iff_ne]
  rintro rfl
  exact absurd hprint (by decide)

theorem c_string_plain {text : Text} {k : Nat} (h : text.all isprint = true ∧ text.length ≤ k) :
    (c_string text).all isprint = true ∧ (c_string text).length ≤ k := by
  constructor
  · rw [List.all_eq_true]
    intro byte hbyte
    exact List.all_eq_true.mp h.1 byte ((List.takeWhile_sublist _).subset hbyte)
  · exact ((List.takeWhile_sublist _).length_le).trans h.2

/-- The loop that saves the texts of the input arguments. -/
theorem capture_arguments_spec (hlibc : libc.Plain) (tid : Pid) {descriptor : SyscallDescriptor}
    (indices : List Nat) : ∀ (event : SyscallEvent) (s : Rendering),
    sg_syscall_by_number event.number = some descriptor → event.Decoded decoder.string_limit →
      Holds (capture_arguments heap libc decoder tid descriptor indices event) s
        (fun r _ => r.2.Decoded decoder.string_limit ∧
          (∃ texts, r.2 = { event with decoded_arguments := texts }) ∧
          (heap.Succeeds → 128 * decoder.string_limit + 1024 < SIZE_MAX → r.1 = true))
        fun _ _ => False := by
  induction indices with
  | nil => exact fun event s _ hdecoded => ⟨hdecoded, ⟨event.decoded_arguments, rfl⟩, fun _ _ => rfl⟩
  | cons index indices ih =>
    intro event s hdescriptor hdecoded
    have hfailed : SyscallEvent.Decoded decoder.string_limit
        { event with decoded_arguments := Vector.replicate 6 none } := decoded_of_none rfl
    unfold capture_arguments
    dsimp only
    split
    · exact ih event s hdescriptor hdecoded
    · rename_i hinput
      have hkind : (descriptor.arguments.toList.getD index (ARG .ARG_HEX)).kind ≠ .ARG_UTS_OUT := by
        intro h
        rw [h] at hinput
        exact hinput rfl
      rw [holds_bind, holds_modify, holds_bind, holds_attempt]
      apply (render_argument_plain hlibc tid event _ index hkind _ buffer_init_ok).mono
      · intro _ s₁ hpost
        rcases hpost with ⟨hok₁, text, hcontents, hlength, hprint⟩
        have htext : s₁.contents = text := hcontents
        dsimp only
        rw [holds_bind, holds_get, holds_bind, holds_malloc]
        split
        · rename_i hrefused
          refine ⟨hfailed, ⟨_, rfl⟩, fun hs _ => ?_⟩
          rw [hs s₁.asked] at hrefused
          simp at hrefused
        · have hsaved := Decoded.save index hdecoded (c_string_plain ⟨hprint, hlength⟩)
            fun d hd => by
              rw [hdescriptor] at hd
              injection hd with hd
              rw [← hd]
              exact Bool.eq_false_iff.mpr hinput
          rw [← htext] at hsaved
          have hrest := ih
            { event with decoded_arguments :=
                event.decoded_arguments.setIfInBounds index (some (c_string s₁.contents)) }
            { s₁ with asked := s₁.asked + 1 } hdescriptor hsaved
          apply hrest.mono
          · intro r _ hpost
            rcases hpost with ⟨hr, ⟨texts, hsame⟩, hsucceeds⟩
            exact ⟨hr, ⟨texts, hsame⟩, hsucceeds⟩
          · exact fun _ _ h => h
      · intro _ s₁ hfull
        refine ⟨hfailed, ⟨_, rfl⟩, fun hs hsmall => ?_⟩
        have hfull := hfull hs
        have hempty : (Rendering.mk sg_buffer_init s.asked s.reads).contents.length = 0 := rfl
        omega

theorem effective_argument_count_le {descriptor : SyscallDescriptor} {event : SyscallEvent}
    (hdescriptor : sg_syscall_by_number event.number = some descriptor) :
    effective_argument_count descriptor event ≤ 6 := by
  have harity := (syscalls_ok descriptor (by_number_eq_some hdescriptor).1).arity
  unfold effective_argument_count
  dsimp only
  split_ifs <;> omega

/-- **What is saved at the entry** of a call is printable. -/
theorem capture_entry_decoded (hlibc : libc.Plain) (tid : Pid) {event : SyscallEvent}
    (s : Rendering) (hdecoded : event.Decoded decoder.string_limit) :
    Holds (decoder.sg_decoder_capture_entry heap libc tid event) s
      (fun r _ => r.2.Decoded decoder.string_limit ∧
        (∃ texts count, count ≤ 6 ∧
          r.2 = { event with decoded_arguments := texts, argument_count := count }) ∧
        (heap.Succeeds → 128 * decoder.string_limit + 1024 < SIZE_MAX → r.1 = true))
      fun _ _ => False := by
  unfold Decoder.sg_decoder_capture_entry
  split
  · rename_i hnone
    refine ⟨⟨hdecoded.text, hdecoded.input⟩, ⟨event.decoded_arguments, _, ?_, rfl⟩, fun _ _ => rfl⟩
    rw [sg_syscall_argument_count, hnone]
  · rename_i descriptor hdescriptor
    have hcount := effective_argument_count_le hdescriptor
    apply (capture_arguments_spec hlibc tid _
      { event with argument_count := effective_argument_count descriptor event } s hdescriptor
      ⟨hdecoded.text, hdecoded.input⟩).mono
    · intro r _ hpost
      rcases hpost with ⟨hr, ⟨texts, hsame⟩, hsucceeds⟩
      exact ⟨hr, ⟨texts, _, hcount, hsame⟩, hsucceeds⟩
    · exact fun _ _ h => h

/-! ### The line of a call -/

theorem shows_bind {c c' : Prop} (hm : Shows heap m n c) (hf : ∀ a, Shows heap (f a) n' c') :
    Shows heap (m >>= f) (n + n') (c ∧ c') := by
  apply renders_bind hm
  intro a text ht
  apply Renders.mono (hf a) (le_refl _)
  intro _ text' ht'
  rw [List.all_append, Bool.and_eq_true, ht, ht']

theorem forM_shows {γ : Type} {xs : List γ} {f : γ → RenderM PUnit} {c : γ → Prop}
    (h : ∀ x ∈ xs, Shows heap (f x) n (c x)) :
    Shows heap (xs.forM f) (xs.length * n) (∀ x ∈ xs, c x) := by
  induction xs with
  | nil => exact (plain_pure _).shows (by simp)
  | cons x xs ih =>
    have hx := h x (by simp)
    have hxs := ih fun y hy => h y (by simp [hy])
    apply Renders.mono (shows_bind hx fun _ => hxs)
    · rw [List.length_cons, Nat.succ_mul]
      omega
    · intro _ text htext
      rw [htext, List.forall_mem_cons]

/-- What `decode_argument` appends after the comma. -/
def append_argument (heap : Heap) (libc : Libc) (decoder : Decoder) (tid : Pid)
    (descriptor : Option SyscallDescriptor) (event : SyscallEvent) (index : Nat) : RenderM Unit :=
  match event.saved index, descriptor with
  | some text, _ => sg_buffer_append_cstr heap text
  | none, some descriptor =>
    render_argument heap libc decoder tid event
      (descriptor.arguments.toList.getD index (ARG .ARG_HEX)) index
  | none, none => sg_buffer_append_format heap (hexadecimal (event.argument index).toNat)

theorem append_argument_shows (hlibc : libc.Plain) (tid : Pid) {event : SyscallEvent}
    (hdecoded : event.Decoded decoder.string_limit) (index : Nat) :
    Shows heap (append_argument heap libc decoder tid (sg_syscall_by_number event.number) event index)
      (128 * decoder.string_limit + 1024) (decoder.shows_printable tid event index) := by
  unfold append_argument
  split
  · rename_i text hsaved
    obtain ⟨hprint, hlength⟩ := hdecoded.text hsaved
    apply (plain_append hprint hlength).shows
    intro descriptor hdescriptor hkind
    have hinput := hdecoded.input hdescriptor hsaved
    rw [hkind] at hinput
    exact absurd hinput (by decide)
  · rename_i descriptor _ hdescriptor
    apply Renders.mono (render_argument_shows hlibc tid event _ index) (le_refl _)
    intro _ text htext
    rw [htext]
    constructor
    · intro h descriptor' hdescriptor'
      rw [hdescriptor] at hdescriptor'
      injection hdescriptor' with hsame
      exact hsame ▸ h
    · exact fun h => h descriptor hdescriptor
  · rename_i hnone
    apply Plain.shows
    · apply Plain.mono (plain_format (hexadecimal_printable _)
        (hexadecimal_length (event.argument index).toNat_lt) (by decide))
      omega
    · intro descriptor hdescriptor
      rw [hnone] at hdescriptor
      simp at hdescriptor

theorem decode_argument_shows (hlibc : libc.Plain) (tid : Pid) {event : SyscallEvent}
    (hdecoded : event.Decoded decoder.string_limit) (index : Nat) :
    Shows heap (decode_argument heap libc decoder tid (sg_syscall_by_number event.number) event index)
      (128 * decoder.string_limit + 1026) (decoder.shows_printable tid event index) := by
  have hcomma : Plain heap (sg_buffer_append_cstr heap (cstr ", ")) 2 :=
    plain_append (by decide) (by decide)
  have hargument : Shows heap (append_argument heap libc decoder tid
      (sg_syscall_by_number event.number) event index) (128 * decoder.string_limit + 1024)
      (decoder.shows_printable tid event index) := append_argument_shows hlibc tid hdecoded index
  unfold decode_argument
  apply renders_ite
  · intro _
    apply Renders.mono (shows_bind (hcomma.shows trivial) fun _ => hargument)
    · omega
    · intro _ text htext
      rw [htext, true_and]
  · intro _
    exact Renders.mono hargument (by omega) fun _ _ h => h

/-- Where the line of a call begins. -/
def head_text (event : SyscallEvent) : Text :=
  match sg_syscall_by_number event.number with
  | none => cstr "syscall_" ++ signed event.number ++ cstr "("
  | some descriptor => descriptor.name ++ cstr "("

/-- The arguments that the line of a call shows. -/
def shown_arguments (event : SyscallEvent) : Nat :=
  match sg_syscall_by_number event.number with
  | none => event.argument_count
  | some descriptor => effective_argument_count descriptor event

/-- Where the line of a completed call ends. -/
def result_text (libc : Libc) (event : SyscallEvent) : Text :=
  if event.error_number ≠ 0 then
    match libc.strerrorname_np event.error_number with
    | none => cstr " = -1 errno(" ++ signed event.error_number ++ cstr ")"
    | some name => cstr " = -1 " ++ name ++ cstr " (" ++ libc.strerror event.error_number ++ cstr ")"
  else if (sg_syscall_by_number event.number).map SyscallDescriptor.result_kind =
      some .RESULT_POINTER then
    cstr " = " ++ hexadecimal (BitVec.ofInt 64 event.result).toNat
  else cstr " = " ++ signed event.result

theorem head_text_printable (event : SyscallEvent) : (head_text event).all isprint = true := by
  have hparts : (cstr "syscall_").all isprint = true ∧ (cstr "(").all isprint = true := by decide
  unfold head_text
  split
  · simp only [List.all_append, hparts.1, hparts.2, signed_printable, Bool.and_self]
  · rename_i descriptor hdescriptor
    have hname := (syscalls_ok descriptor (by_number_eq_some hdescriptor).1).name
    simp only [List.all_append, hparts.2, hname, Bool.and_self]

theorem result_text_printable (hlibc : libc.Plain) (event : SyscallEvent) :
    (result_text libc event).all isprint = true := by
  have hparts : (cstr " = -1 errno(").all isprint = true ∧ (cstr ")").all isprint = true ∧
      (cstr " = -1 ").all isprint = true ∧ (cstr " (").all isprint = true ∧
      (cstr " = ").all isprint = true := by decide
  obtain ⟨h₀, h₁, h₂, h₃, h₄⟩ := hparts
  unfold result_text
  split
  · split
    · simp only [List.all_append, h₀, h₁, signed_printable, Bool.and_self]
    · rename_i name hname
      simp only [List.all_append, h₁, h₂, h₃, (hlibc.strerrorname_np _ _ hname).1,
        (hlibc.strerror _).1, Bool.and_self]
  · split
    · simp only [List.all_append, h₄, hexadecimal_printable, Bool.and_self]
    · simp only [List.all_append, h₄, signed_printable, Bool.and_self]

/-- The room for a formatted text: one that is too long is refused. -/
def format_room (text : Text) : Nat :=
  if text.length ≤ SNPRINTF_MAX then text.length else SIZE_MAX + text.length

theorem plain_format_room {text : Text} (ht : text.all isprint = true) :
    Plain heap (sg_buffer_append_format heap text) (format_room text) := by
  unfold format_room
  split
  · rename_i hshort
    exact plain_format ht (le_refl _) hshort
  · rename_i hlong
    intro s hok
    unfold sg_buffer_append_format
    rw [if_pos (by omega), holds_throw]
    intro _
    omega

/-- **The entry part** of a line is printable exactly when the fields of `struct utsname`
    that it shows are. -/
theorem sg_decode_syscall_entry_shows (hlibc : libc.Plain) (tid : Pid) {event : SyscallEvent}
    (hdecoded : event.Decoded decoder.string_limit) :
    Shows heap (sg_decode_syscall_entry heap libc decoder tid event)
      (format_room (head_text event) + shown_arguments event * (128 * decoder.string_limit + 1026))
      (∀ index < shown_arguments event, decoder.shows_printable tid event index) := by
  have hhead : Plain heap (sg_buffer_append_format heap (head_text event)) _ :=
    plain_format_room (head_text_printable event)
  have hloop : Shows heap ((List.range (shown_arguments event)).forM
      (decode_argument heap libc decoder tid (sg_syscall_by_number event.number) event))
      (shown_arguments event * (128 * decoder.string_limit + 1026))
      (∀ index < shown_arguments event, decoder.shows_printable tid event index) := by
    apply Renders.mono (forM_shows fun index _ => decode_argument_shows hlibc tid hdecoded index)
    · rw [List.length_range]
    · intro _ text htext
      rw [htext]
      simp only [List.mem_range]
  have heq : sg_decode_syscall_entry heap libc decoder tid event =
      sg_buffer_append_format heap (head_text event) >>= fun _ =>
        (List.range (shown_arguments event)).forM
          (decode_argument heap libc decoder tid (sg_syscall_by_number event.number) event) := by
    unfold sg_decode_syscall_entry head_text shown_arguments
    cases sg_syscall_by_number event.number <;> rfl
  rw [heq]
  apply Renders.mono (shows_bind (hhead.shows trivial) fun _ => hloop) (le_refl _)
  intro _ text htext
  rw [htext, true_and]

theorem sg_decode_syscall_result_plain (hlibc : libc.Plain) (event : SyscallEvent) :
    Plain heap (sg_decode_syscall_result heap libc event)
      (format_room (result_text libc event)) := by
  have heq : sg_decode_syscall_result heap libc event =
      sg_buffer_append_format heap (result_text libc event) := by
    unfold sg_decode_syscall_result append_result result_text
    split
    · cases libc.strerrorname_np event.error_number <;> rfl
    · split <;> rfl
  rw [heq]
  exact plain_format_room (result_text_printable hlibc event)

/-- **The line of a call.** -/
theorem sg_decode_syscall_shows (hlibc : libc.Plain) (tid : Pid) {event : SyscallEvent}
    (hdecoded : event.Decoded decoder.string_limit) :
    Shows heap (sg_decode_syscall heap libc decoder tid event)
      (format_room (head_text event) + shown_arguments event * (128 * decoder.string_limit + 1026) +
        (1 + format_room (result_text libc event)))
      (∀ index < shown_arguments event, decoder.shows_printable tid event index) := by
  have hclose : Plain heap (sg_buffer_append_cstr heap (cstr ")")) 1 :=
    plain_append (by decide) (by decide)
  unfold sg_decode_syscall
  apply Renders.mono (shows_bind (sg_decode_syscall_entry_shows hlibc tid hdecoded) fun _ =>
    (plain_bind hclose fun _ => sg_decode_syscall_result_plain hlibc event).shows trivial)
    (le_refl _)
  intro _ text htext
  rw [htext, and_true]

end plain

/-! ### The text of a call -/

abbrev SYS_uname : Int := 63

/-- Only `uname` writes a `struct utsname`, to its one argument. -/
theorem syscalls_uts : ∀ descriptor ∈ syscalls, ∀ index < 6,
    descriptor.kind index = .ARG_UTS_OUT → descriptor.number = SYS_uname ∧ index = 0 := by
  decide +kernel

/-- The fields of `struct utsname` that `uname` has filled in are printable: those that the
    line shows, up to their NUL. -/
def UnamePrintable (decoder : Decoder) (tid : Pid) (event : SyscallEvent) : Prop :=
  event.number = SYS_uname → decoder.uts_printable tid event (event.argument 0)

theorem shown_arguments_le {event : SyscallEvent} (h : event.argument_count ≤ 6) :
    shown_arguments event ≤ 6 := by
  unfold shown_arguments
  split
  · exact h
  · rename_i descriptor hdescriptor
    exact effective_argument_count_le hdescriptor

theorem uname_descriptor : ∃ descriptor, sg_syscall_by_number SYS_uname = some descriptor ∧
    descriptor.kind 0 = .ARG_UTS_OUT ∧ descriptor.arity = 1 := by
  decide +kernel

theorem uname_argument_count {descriptor : SyscallDescriptor} {event : SyscallEvent}
    (hnumber : event.number = SYS_uname) (harity : descriptor.arity = 1) :
    effective_argument_count descriptor event = 1 := by
  unfold effective_argument_count
  rw [if_neg (by rw [hnumber]; decide), if_neg (by rw [hnumber]; decide), harity]

theorem shows_printable_iff {decoder : Decoder} {tid : Pid} {event : SyscallEvent}
    (hcount : event.argument_count ≤ 6) :
    (∀ index < shown_arguments event, decoder.shows_printable tid event index) ↔
      UnamePrintable decoder tid event := by
  obtain ⟨uname, huname, hkind, harity⟩ := uname_descriptor
  constructor
  · intro h hnumber
    rw [← hnumber] at huname
    apply h 0 _ uname huname hkind
    unfold shown_arguments
    rw [huname]
    show 0 < effective_argument_count uname event
    rw [uname_argument_count hnumber harity]
    omega
  · intro h index hindex descriptor hdescriptor hkind
    obtain ⟨hmem, hnumber⟩ := by_number_eq_some hdescriptor
    have hlt := shown_arguments_le hcount
    obtain ⟨hsame, rfl⟩ := syscalls_uts descriptor hmem index (by omega) hkind
    exact h (hnumber.symm.trans hsame)

/-- **What the tracee can print.**  The arguments are saved at the entry of a call and the
    line is written when it has returned.  Whatever is in the memory of the tracee, the text
    is printable, with one exception: the fields that `uname` has filled in. -/
theorem text_printable_iff (heap : Heap) {libc : Libc} (hlibc : libc.Plain) (string_limit : Nat)
    (entry exit : Option MemoryReader) (tid : Pid) {event : SyscallEvent}
    (hfresh : event.decoded_arguments = Vector.replicate 6 none) (result error_number : Int)
    (s t : Rendering) (hok : t.output.Ok) :
    Holds (Decoder.sg_decoder_capture_entry heap libc ⟨string_limit, entry⟩ tid event) s
      (fun r _ =>
        let decoder : Decoder := ⟨string_limit, exit⟩
        let call := { r.2 with result := result, error_number := error_number }
        Holds (sg_decode_syscall heap libc decoder tid call) t
          (fun _ t' => ∃ text, t'.contents = t.contents ++ text ∧
            (text.all isprint = true ↔
              UnamePrintable decoder tid { event with error_number := error_number }))
          (fun _ _ => True) ∧
        Holds (sg_decode_syscall_entry heap libc decoder tid call) t
          (fun _ t' => ∃ text, t'.contents = t.contents ++ text ∧
            (text.all isprint = true ↔
              UnamePrintable decoder tid { event with error_number := error_number }))
          (fun _ _ => True) ∧
        Holds (sg_decode_syscall_result heap libc call) t
          (fun _ t' => ∃ text, t'.contents = t.contents ++ text ∧ text.all isprint = true)
          (fun _ _ => True))
      (fun _ _ => False) := by
  apply (capture_entry_decoded hlibc tid s (decoded_of_none hfresh)).mono
  · rintro ⟨_, _⟩ _ ⟨hdecoded, ⟨texts, count, hcount, rfl⟩, -⟩
    dsimp only
    have hcall : SyscallEvent.Decoded string_limit { event with
        decoded_arguments := texts, argument_count := count, result := result,
        error_number := error_number } := ⟨hdecoded.text, hdecoded.input⟩
    refine ⟨?_, ?_, ?_⟩
    · apply (sg_decode_syscall_shows hlibc tid hcall t hok).mono
      · intro _ t' hpost
        rcases hpost with ⟨_, text, hcontents, _, htext⟩
        exact ⟨text, hcontents, htext.trans (shows_printable_iff hcount)⟩
      · exact fun _ _ _ => trivial
    · apply (sg_decode_syscall_entry_shows hlibc tid hcall t hok).mono
      · intro _ t' hpost
        rcases hpost with ⟨_, text, hcontents, _, htext⟩
        exact ⟨text, hcontents, htext.trans (shows_printable_iff hcount)⟩
      · exact fun _ _ _ => trivial
    · apply (sg_decode_syscall_result_plain hlibc _ t hok).mono
      · intro _ t' hpost
        rcases hpost with ⟨_, text, hcontents, _, htext⟩
        exact ⟨text, hcontents, htext⟩
      · exact fun _ _ _ => trivial
  · exact fun _ _ h => h

/-- The bytes of a `struct utsname` whose node name has a newline in it. -/
def split_utsname : Text :=
  cstr "Linux" ++ List.replicate 60 0 ++ (cstr "a\nb" ++ List.replicate 62 0) ++ List.replicate 260 0

/-- A tracee that has the same bytes everywhere. -/
def constant_memory (bytes : Text) : MemoryReader where
  read _ _ length := some (bytes.take length)
  read_le := by
    intro _ _ length bytes h
    injection h with h
    rw [← h]
    exact List.length_take_le _ _

/-- An allocator that never refuses. -/
def ample_heap : Heap := ⟨fun _ => true, fun _ _ => 0⟩

/-- A C library without names. -/
def bare_libc : Libc := ⟨fun _ => none, fun _ => none, fun _ => cstr "error", fun _ _ => none⟩

theorem bare_libc_plain : bare_libc.Plain where
  sigabbrev_np := by simp [bare_libc]
  strerrorname_np := by simp [bare_libc]
  strerror := fun _ => (by decide : (cstr "error").all isprint = true ∧ (cstr "error").length ≤ 1024)
  inet_ntop := by simp [bare_libc]

/-- `uname` at its entry. -/
def uname_entry : SyscallEvent :=
  { SyscallEvent.zero with number := SYS_uname, arguments := #v[4096, 0, 0, 0, 0, 0] }

theorem text_printable_iff_uname : Holds
    (Decoder.sg_decoder_capture_entry ample_heap bare_libc ⟨32, some (constant_memory split_utsname)⟩ 1 uname_entry)
    Rendering.init
    (fun r _ =>
      Holds (sg_decode_syscall_result ample_heap bare_libc { r.2 with result := 0, error_number := 0 })
        Rendering.init
        (fun _ t' => ∃ text, t'.contents = Rendering.init.contents ++ text ∧
          text.all isprint = true) (fun _ _ => True)) (fun _ _ => False) := by
  have hfresh : uname_entry.decoded_arguments = Vector.replicate 6 none := rfl
  apply (text_printable_iff ample_heap bare_libc_plain 32 (some (constant_memory split_utsname)) (some (constant_memory split_utsname)) 1
    hfresh 0 0 Rendering.init Rendering.init buffer_init_ok).mono
  · exact fun _ _ h => h.2.2
  · exact fun _ _ h => h

/-- **The line of `uname` can be split**: the node name is copied as it is. -/
theorem uname_splits_the_line : ¬∀ (heap : Heap) (libc : Libc), libc.Plain →
    ∀ (string_limit : Nat) (entry exit : Option MemoryReader) (tid : Pid) (event : SyscallEvent),
      event.decoded_arguments = Vector.replicate 6 none → ∀ (result error_number : Int),
        Holds (Decoder.sg_decoder_capture_entry heap libc ⟨string_limit, entry⟩ tid event)
          Rendering.init
          (fun r _ => Holds (sg_decode_syscall heap libc ⟨string_limit, exit⟩ tid
            { r.2 with result := result, error_number := error_number }) Rendering.init
            (fun _ t => t.contents.all isprint = true) (fun _ _ => True))
          (fun _ _ => True) := by
  intro h
  have hline := h ample_heap bare_libc bare_libc_plain 32 (some (constant_memory split_utsname)) (some (constant_memory split_utsname)) 1
    uname_entry rfl 0 0
  have hcapture : (Decoder.sg_decoder_capture_entry ample_heap bare_libc ⟨32, some (constant_memory split_utsname)⟩ 1
      uname_entry).exec Rendering.init =
        (.ok (true, { uname_entry with argument_count := 1 }), Rendering.init) := by
    obtain ⟨uname, huname, hkind, harity⟩ := uname_descriptor
    have houtput : is_output_argument
        (uname.arguments.toList.getD 0 (ARG .ARG_HEX)).kind = true := by
      rw [show (uname.arguments.toList.getD 0 (ARG .ARG_HEX)).kind = .ARG_UTS_OUT from hkind]
      rfl
    have hdescriptor : sg_syscall_by_number uname_entry.number = some uname := huname
    have hcount : effective_argument_count uname uname_entry = 1 :=
      uname_argument_count rfl harity
    unfold Decoder.sg_decoder_capture_entry
    rw [hdescriptor]
    dsimp only
    rw [hcount]
    show (capture_arguments ample_heap bare_libc _ 1 uname [0] _).exec Rendering.init = _
    unfold capture_arguments
    dsimp only
    rw [if_pos houtput]
    rfl
  have hdecode : (sg_decode_syscall ample_heap bare_libc ⟨32, some (constant_memory split_utsname)⟩ 1
      { uname_entry with argument_count := 1 }).succeeds Rendering.init = true := by decide +kernel
  have hraw : ((sg_decode_syscall ample_heap bare_libc ⟨32, some (constant_memory split_utsname)⟩ 1
      { uname_entry with argument_count := 1 }).finalState Rendering.init).contents.all isprint =
        false := by decide +kernel
  have hprintable := (hline.of_ok hcapture).of_ok (exec_of_succeeds hdecode)
  rw [show ((sg_decode_syscall ample_heap bare_libc ⟨32, some (constant_memory split_utsname)⟩ 1
      { uname_entry with argument_count := 1 }).finalState Rendering.init).contents.all isprint =
        true from hprintable] at hraw
  simp at hraw

end Sysgaze
