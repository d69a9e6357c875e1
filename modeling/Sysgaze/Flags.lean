import Sysgaze.Lib.Masks
import Sysgaze.Strings

/-! # How flags are written

    A word of flags is written as names and numbers with `|` between them.
    `read_items` reads such a text back: the value of each item, by the names
    of its kind.  Reading gives back the word, in disjoint parts, for every
    kind of flags (`flags_read_back`), with one exception: an access mode of 3
    in the flags of `open` is written as `O_RDONLY`.
-/

open Fallible Numerals Masks

namespace Sysgaze

/-! ### Items -/

/-- Texts with a bar in front of each but the first of all. -/
def barred : Bool → List Text → Text
  | _, [] => []
  | wrote, item :: items => (if wrote then cstr "|" else []) ++ (item ++ barred true items)

/-- Texts with bars between them. -/
def joined (items : List Text) : Text := (cstr "|").intercalate items

theorem barred_append (items items' : List Text) : ∀ wrote : Bool,
    barred wrote (items ++ items') =
      barred wrote items ++ barred (wrote || decide (items ≠ [])) items' := by
  induction items with
  | nil => intro wrote; simp [barred]
  | cons item items ih => intro wrote; simp [barred, ih, List.append_assoc]

theorem barred_false (items : List Text) : barred false items = joined items := by
  have hrest : ∀ (items : List Text) (item : Text),
      item ++ barred true items = joined (item :: items) := by
    intro items
    induction items with
    | nil =>
      intro item
      simp [barred, joined, List.intercalate]
    | cons next items ih =>
      intro item
      rw [barred, if_pos rfl, ih next]
      simp [joined, List.intercalate]
  cases items with
  | nil => rfl
  | cons item items => exact hrest items item

theorem barred_true {items : List Text} (h : items ≠ []) :
    barred true items = cstr "|" ++ joined items := by
  rw [← barred_false]
  cases items with
  | nil => exact absurd rfl h
  | cons item items => rfl

/-- The items of entries of a table. -/
def named_items (taken : List FlagName) : List (Text × UInt64) :=
  taken.map fun entry => (entry.name, entry.value)

theorem map_fst_named_items (taken : List FlagName) :
    (named_items taken).map Prod.fst = taken.map FlagName.name := List.map_map

/-- What a table makes of a word: the names that are taken, and what is left as a number. -/
def table_items (value : UInt64) (names : List FlagName) : List (Text × UInt64) :=
  named_items (greedy FlagName.value names value).1 ++
    if (greedy FlagName.value names value).2 ≠ 0 ∨ (greedy FlagName.value names value).1 = [] then
      [(hexadecimal (greedy FlagName.value names value).2.toNat,
        (greedy FlagName.value names value).2)]
    else []

/-- What `append_flags` writes: items with their values. -/
def flag_items (value : UInt64) (names : List FlagName) : Option Text → List (Text × UInt64)
  | none => table_items value names
  | some zero_name => if value = 0 then [(zero_name, 0)] else table_items value names

section adds
variable {heap : Heap}

/-- A bar is put in front when something has been written. -/
theorem barred_renders {α : Type} {m : RenderM α} {n : Nat} {T : α → Text → Prop} (wrote : Bool)
    (hm : Renders heap m n fun a text => T a ((if wrote then cstr "|" else []) ++ text)) :
    Renders heap
      (if wrote = true then sg_buffer_append_cstr heap (cstr "|") >>= fun _ => m else m)
      ((if wrote then cstr "|" else []).length + n) T := by
  cases wrote with
  | false => exact Renders.mono hm (Nat.zero_add n).ge fun _ _ h => h
  | true =>
    apply renders_bind (adds_append _)
    rintro _ _ rfl
    exact hm

/-- **The loop over a table** writes the names that are taken. -/
theorem append_flag_names_renders (names : List FlagName) : ∀ (remaining : UInt64) (wrote : Bool),
    Renders heap (append_flag_names heap names remaining wrote)
      (barred wrote ((greedy FlagName.value names remaining).1.map FlagName.name)).length
      fun r text => r = ((greedy FlagName.value names remaining).2,
          wrote || decide ((greedy FlagName.value names remaining).1 ≠ [])) ∧
        text = barred wrote ((greedy FlagName.value names remaining).1.map FlagName.name) := by
  induction names with
  | nil =>
    intro remaining wrote
    exact renders_pure ⟨by simp [greedy], rfl⟩
  | cons entry names ih =>
    intro remaining wrote
    have htest : (entry.value ≠ 0 ∧ remaining &&& entry.value = entry.value) =
        (entry.value ≠ 0 ∧ Within entry.value remaining) := rfl
    unfold append_flag_names
    by_cases htaken : entry.value ≠ 0 ∧ Within entry.value remaining
    · rw [if_pos (htest ▸ htaken), greedy_cons_taken htaken]
      dsimp only
      generalize remaining &&& ~~~entry.value = rest
      have hrest := ih rest true
      generalize greedy FlagName.value names rest = g at hrest
      obtain ⟨taken, left⟩ := g
      have hname : Renders heap (sg_buffer_append_cstr heap entry.name >>= fun _ =>
          append_flag_names heap names rest true)
          (entry.name.length + (barred true (taken.map FlagName.name)).length)
          fun r text => r = (left, true) ∧
            text = entry.name ++ barred true (taken.map FlagName.name) := by
        apply renders_bind (adds_append entry.name)
        rintro _ _ rfl
        apply Renders.mono hrest (le_refl _)
        rintro r _ ⟨rfl, rfl⟩
        exact ⟨by rw [Bool.true_or], rfl⟩
      apply Renders.mono (barred_renders wrote (Renders.mono hname (le_refl _) _)) _ fun _ _ h => h
      · rintro r _ ⟨rfl, rfl⟩
        exact ⟨by simp, rfl⟩
      · simp only [List.map_cons, barred, List.length_append]
        omega
    · rw [if_neg (htest ▸ htaken), greedy_cons_skipped htaken]
      exact ih remaining wrote

/-- The text of items. -/
def items_text (items : List (Text × UInt64)) : Text := joined (items.map Prod.fst)

theorem hexadecimal_short (value : UInt64) : (hexadecimal value.toNat).length ≤ SNPRINTF_MAX :=
  (hexadecimal_length value.toNat_lt).trans (by decide)

/-- The part of `append_flags` behind its test for zero. -/
theorem table_adds (value : UInt64) (names : List FlagName) :
    Adds heap (append_flag_names heap names value false >>= fun r =>
      if r.1 ≠ 0 ∨ r.2 = false then
        if r.2 = true then do
          sg_buffer_append_cstr heap (cstr "|")
          sg_buffer_append_format heap (hexadecimal r.1.toNat)
        else sg_buffer_append_format heap (hexadecimal r.1.toNat)
      else pure ()) (items_text (table_items value names)) := by
  have hloop : Renders heap (append_flag_names heap names value false) _ _ :=
    append_flag_names_renders names value false
  unfold table_items items_text
  generalize greedy FlagName.value names value = g at hloop ⊢
  obtain ⟨taken, left⟩ := g
  dsimp only at hloop ⊢
  unfold Adds
  rw [List.map_append, map_fst_named_items, ← barred_false, barred_append, List.length_append]
  apply renders_bind hloop
  rintro r _ ⟨rfl, rfl⟩
  have htaken : decide (taken.map FlagName.name ≠ []) = decide (taken ≠ []) := by
    cases taken <;> rfl
  have hwrote : (left ≠ 0 ∨ (false || decide (taken ≠ [])) = false) ↔ left ≠ 0 ∨ taken = [] := by
    simp
  rw [htaken]
  dsimp only
  by_cases hleft : left ≠ 0 ∨ taken = []
  · rw [if_pos (hwrote.mpr hleft), if_pos hleft]
    apply Renders.mono (barred_renders _ (Renders.mono (adds_format (hexadecimal_short left))
      (le_refl _) _)) _ fun _ _ h => h
    · rintro _ _ rfl
      simp [barred]
    · simp [barred]
  · rw [if_neg (mt hwrote.mp hleft), if_neg hleft]
    exact renders_pure rfl

/-- **A word of flags** is written as its items. -/
theorem append_flags_adds (value : UInt64) (names : List FlagName) (zero_name : Option Text) :
    Adds heap (append_flags heap value names zero_name)
      (items_text (flag_items value names zero_name)) := by
  unfold append_flags flag_items
  cases zero_name with
  | none => exact table_adds value names
  | some zero_name =>
    by_cases hzero : value = 0
    · have htest : (value == 0) = true := beq_iff_eq.mpr hzero
      dsimp only
      rw [if_pos hzero, htest]
      exact (adds_append zero_name).congr (List.append_nil _).symm
    · have htest : (value == 0) = false := beq_eq_false_iff_ne.mpr hzero
      dsimp only
      rw [if_neg hzero, htest]
      exact table_adds value names

theorem items_text_eq (items : List (Text × UInt64)) :
    items_text items = barred false (items.map Prod.fst) := (barred_false _).symm

theorem items_text_cons (item : Text × UInt64) (items : List (Text × UInt64)) :
    items_text (item :: items) = item.1 ++ barred true (items.map Prod.fst) := items_text_eq _

theorem barred_true_append (items items' : List Text) :
    barred true (items ++ items') = barred true items ++ barred true items' :=
  barred_append items items' true

theorem table_items_ne_nil (value : UInt64) (names : List FlagName) :
    table_items value names ≠ [] := by
  unfold table_items
  intro h
  rw [List.append_eq_nil_iff, named_items, List.map_eq_nil_iff] at h
  rw [h.1] at h
  simp at h

theorem flag_items_ne_nil (value : UInt64) (names : List FlagName) (zero_name : Option Text) :
    flag_items value names zero_name ≠ [] := by
  unfold flag_items
  split
  · exact table_items_ne_nil value names
  · split
    · simp
    · exact table_items_ne_nil value names

theorem items_text_table (value : UInt64) (names : List FlagName) :
    items_text (table_items value names) =
      (cstr "|").intercalate ((greedy FlagName.value names value).1.map FlagName.name ++
        if (greedy FlagName.value names value).2 ≠ 0 ∨ (greedy FlagName.value names value).1 = []
        then [hexadecimal (greedy FlagName.value names value).2.toNat] else []) := by
  unfold items_text table_items joined
  rw [List.map_append, map_fst_named_items]
  split
  · rfl
  · rfl

/-- **The decomposition of a word**: a zero that has a name is written as that name; any
    other word as names of the table, in its order, whose values are disjoint parts of the
    word, and a number for the rest, which holds no value of the table. -/
theorem append_flags_decomposes (heap : Heap) (value : UInt64) (names : List FlagName)
    (zero_name : Option Text) :
    (∀ zero, zero_name = some zero → value = 0 →
      Adds heap (append_flags heap value names zero_name) zero) ∧
    (value ≠ 0 ∨ zero_name = none → ∃ taken : List FlagName, ∃ remaining : UInt64,
      Adds heap (append_flags heap value names zero_name)
        ((cstr "|").intercalate (taken.map FlagName.name ++
          if remaining ≠ 0 ∨ taken = [] then [hexadecimal remaining.toNat] else [])) ∧
      taken.Sublist names ∧
      (∀ entry ∈ taken, entry.value ≠ 0 ∧ Within entry.value value ∧
        Apart entry.value remaining) ∧
      (taken.map FlagName.value).Pairwise Apart ∧
      Masks.union (taken.map FlagName.value) ||| remaining = value ∧
      ∀ entry ∈ names, entry.value ≠ 0 → ¬Within entry.value remaining) := by
  have hadds : Adds heap (append_flags heap value names zero_name)
      (items_text (flag_items value names zero_name)) := append_flags_adds value names zero_name
  constructor
  · rintro zero rfl rfl
    have hitems : items_text (flag_items 0 names (some zero)) = zero := by
      simp [flag_items, items_text, joined, List.intercalate]
    rwa [hitems] at hadds
  · intro hshown
    have hitems : flag_items value names zero_name = table_items value names := by
      unfold flag_items
      cases zero_name with
      | none => rfl
      | some zero =>
        obtain hvalue | hnone := hshown
        · exact if_neg hvalue
        · cases hnone
    have hpairwise : ((greedy FlagName.value names value).1.map FlagName.value ++
        [(greedy FlagName.value names value).2]).Pairwise Apart := pairwise_greedy names value
    have hapart := List.pairwise_append.mp hpairwise
    rw [hitems, items_text_table] at hadds
    refine ⟨_, _, hadds, sublist_greedy names value, ?_, hapart.1, union_greedy names value,
      greedy_maximal names value⟩
    intro entry hentry
    obtain ⟨hne, hwithin⟩ := (within_greedy names value).1 entry hentry
    exact ⟨hne, hwithin, hapart.2.2 _ (List.mem_map_of_mem hentry) _ (List.mem_singleton_self _)⟩

/-! ### Words with a part of their own -/

/-- What `append_open_flags` writes. -/
def open_items (value : UInt64) : List (Text × UInt64) :=
  (if value &&& O_ACCMODE = 1 then (cstr "O_WRONLY", 1)
    else if value &&& O_ACCMODE = 2 then (cstr "O_RDWR", 2)
    else (cstr "O_RDONLY", 0)) ::
    if value &&& ~~~O_ACCMODE = 0 then [] else table_items (value &&& ~~~O_ACCMODE) open_flag_names

theorem append_open_flags_adds (value : UInt64) :
    Adds heap (append_open_flags heap value) (items_text (open_items value)) := by
  have haccess : Adds heap (sg_buffer_append_cstr heap
      (if value &&& O_ACCMODE = 1 then cstr "O_WRONLY"
        else if value &&& O_ACCMODE = 2 then cstr "O_RDWR" else cstr "O_RDONLY"))
      (if value &&& O_ACCMODE = 1 then ((cstr "O_WRONLY", 1) : Text × UInt64)
        else if value &&& O_ACCMODE = 2 then (cstr "O_RDWR", 2) else (cstr "O_RDONLY", 0)).1 := by
    split
    · exact adds_append _
    · split
      · exact adds_append _
      · exact adds_append _
  unfold append_open_flags open_items
  rw [items_text_cons]
  apply adds_bind haccess
  intro _
  split
  · exact adds_pure _
  · rw [barred_true (by simpa using table_items_ne_nil _ _)]
    exact adds_bind (adds_append _) fun _ => append_flags_adds _ _ none

/-- How a signal is written. -/
def signal_text (libc : Libc) (value : UInt64) : Text :=
  match libc.sigabbrev_np (int32 value.toNat) with
  | none => signed (int32 value.toNat)
  | some abbreviation => cstr "SIG" ++ abbreviation

theorem append_signal_adds {libc : Libc} (hlibc : libc.Plain) (value : UInt64) :
    Adds heap (append_signal heap libc value) (signal_text libc value) := by
  unfold append_signal signal_text
  dsimp only
  cases habbreviation : libc.sigabbrev_np (int32 value.toNat) with
  | none => exact adds_format ((signed_int32_length _).trans (by decide))
  | some abbreviation =>
    obtain ⟨_, hlength⟩ := hlibc.sigabbrev_np _ _ habbreviation
    have hsig : (cstr "SIG").length = 3 := by decide
    have hmax : SNPRINTF_MAX = 2147483647 := rfl
    apply adds_format
    rw [List.length_append]
    omega

/-- What `append_clone_flags` writes. -/
def clone_items (libc : Libc) (value : UInt64) : List (Text × UInt64) :=
  flag_items (value &&& ~~~0xff) clone_flag_names (cstr "0") ++
    if value &&& 0xff = 0 then [] else [(signal_text libc (value &&& 0xff), value &&& 0xff)]

theorem append_clone_flags_adds {libc : Libc} (hlibc : libc.Plain) (value : UInt64) :
    Adds heap (append_clone_flags heap libc value) (items_text (clone_items libc value)) := by
  unfold append_clone_flags clone_items
  have hsome : (flag_items (value &&& ~~~0xff) clone_flag_names (cstr "0")).map Prod.fst ≠ [] := by
    simpa using flag_items_ne_nil _ _ _
  rw [items_text_eq, List.map_append, barred_append, decide_eq_true hsome, Bool.or_true,
    ← items_text_eq]
  apply adds_bind (append_flags_adds _ _ _)
  intro _
  split
  · exact adds_pure _
  · apply (adds_bind (adds_append (cstr "|")) fun _ => append_signal_adds hlibc _).congr
    simp [barred]

/-- The flags of a socket type. -/
def nonblock_flag : FlagName := ⟨SOCK_NONBLOCK, cstr "SOCK_NONBLOCK"⟩

@[inherit_doc nonblock_flag]
def cloexec_flag : FlagName := ⟨SOCK_CLOEXEC, cstr "SOCK_CLOEXEC"⟩

@[inherit_doc nonblock_flag]
def socket_flag_names : List FlagName := [nonblock_flag, cloexec_flag]

/-- The text of a socket type without flags. -/
def socket_base_text (base : UInt64) : Text :=
  if base = 1 then cstr "SOCK_STREAM"
  else if base = 2 then cstr "SOCK_DGRAM"
  else if base = 3 then cstr "SOCK_RAW"
  else if base = 5 then cstr "SOCK_SEQPACKET"
  else signed base.toNat

/-- What `append_socket_type` writes. -/
def socket_items (value : UInt64) : List (Text × UInt64) :=
  let (taken, left) := greedy FlagName.value socket_flag_names (value &&& ~~~0xf)
  (socket_base_text (value &&& 0xf), value &&& 0xf) ::
    (named_items taken ++
      if left = 0 then [] else [(hexadecimal left.toNat, left)])

theorem append_socket_type_adds (value : UInt64) :
    Adds heap (append_socket_type heap value) (items_text (socket_items value)) := by
  have hbase : ∀ rest : RenderM Unit, ∀ text : Text, Adds heap rest text →
      Adds heap (match (if value &&& 0xf = 1 then some (cstr "SOCK_STREAM")
          else if value &&& 0xf = 2 then some (cstr "SOCK_DGRAM")
          else if value &&& 0xf = 3 then some (cstr "SOCK_RAW")
          else if value &&& 0xf = 5 then some (cstr "SOCK_SEQPACKET")
          else none) with
        | none => sg_buffer_append_format heap (signed (value &&& 0xf).toNat) >>= fun _ => rest
        | some name => sg_buffer_append_cstr heap name >>= fun _ => rest)
        (socket_base_text (value &&& 0xf) ++ text) := by
    intro rest text hrest
    have hshort : (signed ((value &&& 0xf).toNat : Int)).length ≤ SNPRINTF_MAX :=
      le_trans (signed_length (show 0 < 20 by omega)
        (by have := (value &&& 0xf).toNat_lt; omega)) (by decide)
    unfold socket_base_text
    split_ifs
    · exact adds_bind (adds_append _) fun _ => hrest
    · exact adds_bind (adds_append _) fun _ => hrest
    · exact adds_bind (adds_append _) fun _ => hrest
    · exact adds_bind (adds_append _) fun _ => hrest
    · exact adds_bind (adds_format hshort) fun _ => hrest
  have hleft : ∀ left : UInt64, Adds heap (if left = 0 then pure ()
      else sg_buffer_append_format heap (cstr "|" ++ hexadecimal left.toNat))
      (barred true ((if left = 0 then [] else [(hexadecimal left.toNat, left)]).map Prod.fst)) := by
    intro left
    split
    · exact adds_pure _
    · have hbar : (cstr "|").length = 1 := by decide
      have hmax : SNPRINTF_MAX = 2147483647 := rfl
      have hlength := hexadecimal_length left.toNat_lt
      apply (adds_format (by rw [List.length_append]; omega)).congr
      simp [barred]
  have htwo : cstr "|SOCK_NONBLOCK" = cstr "|" ++ cstr "SOCK_NONBLOCK" ∧
      cstr "|SOCK_CLOEXEC" = cstr "|" ++ cstr "SOCK_CLOEXEC" := by decide
  have hnonblock : ∀ word : UInt64, word &&& SOCK_NONBLOCK ≠ 0 ↔
      nonblock_flag.value ≠ 0 ∧ Within nonblock_flag.value word := by
    intro word
    constructor
    · exact fun h => ⟨by decide, within_of_bit (show ∀ i < 64, _ → i = 11 by decide) h⟩
    · rintro ⟨hne, h⟩ hzero
      exact hne (h.symm.trans hzero)
  have hcloexec : ∀ word : UInt64, word &&& SOCK_CLOEXEC ≠ 0 ↔
      cloexec_flag.value ≠ 0 ∧ Within cloexec_flag.value word := by
    intro word
    constructor
    · exact fun h => ⟨by decide, within_of_bit (show ∀ i < 64, _ → i = 19 by decide) h⟩
    · rintro ⟨hne, h⟩ hzero
      exact hne (h.symm.trans hzero)
  unfold append_socket_type socket_items
  dsimp only
  generalize value &&& ~~~0xf = flags
  rw [items_text_cons, List.map_append, barred_true_append, map_fst_named_items]
  apply hbase
  -- The two flags are single bits, so that the tests are those of a table.
  have hsecond : ∀ word : UInt64, Adds heap
      (if word &&& SOCK_CLOEXEC ≠ 0 then do
        sg_buffer_append_cstr heap (cstr "|SOCK_CLOEXEC")
        if (if word &&& SOCK_CLOEXEC ≠ 0 then word &&& ~~~SOCK_CLOEXEC else word) = 0 then pure ()
        else sg_buffer_append_format heap (cstr "|" ++ hexadecimal
          (if word &&& SOCK_CLOEXEC ≠ 0 then word &&& ~~~SOCK_CLOEXEC else word).toNat)
      else
        if (if word &&& SOCK_CLOEXEC ≠ 0 then word &&& ~~~SOCK_CLOEXEC else word) = 0 then pure ()
        else sg_buffer_append_format heap (cstr "|" ++ hexadecimal
          (if word &&& SOCK_CLOEXEC ≠ 0 then word &&& ~~~SOCK_CLOEXEC else word).toNat))
      (barred true ((greedy FlagName.value [cloexec_flag] word).1.map
        FlagName.name) ++
        barred true ((if (greedy FlagName.value [cloexec_flag] word).2 = 0
          then [] else [(hexadecimal
            (greedy FlagName.value [cloexec_flag] word).2.toNat,
            (greedy FlagName.value [cloexec_flag] word).2)]).map
              Prod.fst)) := by
    intro word
    by_cases hword : word &&& SOCK_CLOEXEC ≠ 0
    · rw [greedy_cons_taken ((hcloexec word).mp hword)]
      simp only [if_pos hword]
      apply (adds_bind (adds_append _) fun _ => hleft _).congr
      rw [htwo.2]
      simp [barred, greedy, cloexec_flag]
    · rw [greedy_cons_skipped (mt (hcloexec word).mpr hword)]
      simp only [if_neg hword]
      exact hleft word
  by_cases hflags : flags &&& SOCK_NONBLOCK ≠ 0
  · unfold socket_flag_names
    rw [greedy_cons_taken ((hnonblock flags).mp hflags)]
    simp only [if_pos hflags]
    apply (adds_bind (adds_append _) fun _ => hsecond _).congr
    rw [htwo.1]
    simp [barred, nonblock_flag, List.append_assoc]
    rfl
  · unfold socket_flag_names
    rw [greedy_cons_skipped (mt (hnonblock flags).mpr hflags)]
    simp only [if_neg hflags]
    exact hsecond flags

end adds

/-! ### Reading back -/

/-- The names that are read for a kind of flags, with their values. -/
def vocabulary : ArgumentKind → List FlagName
  | .ARG_OPEN_FLAGS => open_flag_names ++ [flag 0 "O_RDONLY", flag 1 "O_WRONLY", flag 2 "O_RDWR"]
  | .ARG_FD_FLAGS => [flag 0o4000 "O_NONBLOCK", flag 0o2000000 "O_CLOEXEC"]
  | .ARG_PROT_FLAGS => prot_flag_names ++ [flag 0 "PROT_NONE"]
  | .ARG_MAP_FLAGS => map_flag_names
  | .ARG_CLONE_FLAGS => clone_flag_names
  | .ARG_ACCESS_FLAGS => [flag 4 "R_OK", flag 2 "W_OK", flag 1 "X_OK", flag 0 "F_OK"]
  | .ARG_AT_FLAGS => [flag 0x100 "AT_SYMLINK_NOFOLLOW", flag 0x200 "AT_REMOVEDIR",
      flag 0x400 "AT_SYMLINK_FOLLOW", flag 0x1000 "AT_EMPTY_PATH"]
  | .ARG_SOCKET_TYPE => socket_flag_names ++ [flag 1 "SOCK_STREAM", flag 2 "SOCK_DGRAM",
      flag 3 "SOCK_RAW", flag 5 "SOCK_SEQPACKET"]
  | _ => []

/-- The value of an item: a name, a number, or a signal. -/
def read_item (libc : Libc) (names : List FlagName) (item : Text) : Option UInt64 :=
  match names.find? fun entry => entry.name == item with
  | some entry => some entry.value
  | none =>
    if cstr "0x" <+: item then some (UInt64.ofNat (Numerals.value 16 (item.drop 2)))
    else if item.all is_digit then some (UInt64.ofNat (Numerals.value 10 item))
    else ((List.range 256).find? fun n => signal_text libc (UInt64.ofNat n) == item).map UInt64.ofNat

section read
variable {libc : Libc} {names : List FlagName}

/-- Each item is read as its value, and no bar is in it. -/
def ReadBack (libc : Libc) (names : List FlagName) (items : List (Text × UInt64)) : Prop :=
  ∀ item ∈ items, read_item libc names item.1 = some item.2 ∧ 124 ∉ item.1

theorem ReadBack.append {items items' : List (Text × UInt64)} (h : ReadBack libc names items)
    (h' : ReadBack libc names items') : ReadBack libc names (items ++ items') := by
  intro item hitem
  rcases List.mem_append.mp hitem with hitem | hitem
  · exact h item hitem
  · exact h' item hitem

/-- The items are disjoint parts of the word, and make it. -/
structure Parts (items : List (Text × UInt64)) (word : UInt64) : Prop where
  union : union (items.map Prod.snd) = word
  apart : (items.map Prod.snd).Pairwise Apart

/-- Items of two parts of a word. -/
theorem Parts.append {items items' : List (Text × UInt64)} {word word' : UInt64}
    (h : Parts items word) (h' : Parts items' word') (hapart : Apart word word') :
    Parts (items ++ items') (word ||| word') := by
  constructor
  · rw [List.map_append, union_append, h.union, h'.union]
  · rw [List.map_append, List.pairwise_append]
    refine ⟨h.apart, h'.apart, ?_⟩
    intro a ha b hb
    exact hapart.mono (h.union ▸ within_union ha) (h'.union ▸ within_union hb)

end read

/-! ### Kinds of flags -/

/-- The kinds of arguments that are words of flags. -/
def is_flags : ArgumentKind → Bool
  | .ARG_OPEN_FLAGS | .ARG_FD_FLAGS | .ARG_PROT_FLAGS | .ARG_MAP_FLAGS | .ARG_CLONE_FLAGS
  | .ARG_ACCESS_FLAGS | .ARG_AT_FLAGS | .ARG_SOCKET_TYPE => true
  | _ => false

/-- What is written for a word of flags. -/
def printed_items (libc : Libc) (value : UInt64) : ArgumentKind → List (Text × UInt64)
  | .ARG_OPEN_FLAGS => open_items value
  | .ARG_FD_FLAGS => flag_items value (vocabulary .ARG_FD_FLAGS) (cstr "0")
  | .ARG_PROT_FLAGS => flag_items value prot_flag_names (cstr "PROT_NONE")
  | .ARG_MAP_FLAGS => flag_items value map_flag_names (cstr "0")
  | .ARG_CLONE_FLAGS => clone_items libc value
  | .ARG_ACCESS_FLAGS => flag_items value [flag 4 "R_OK", flag 2 "W_OK", flag 1 "X_OK"] (cstr "F_OK")
  | .ARG_AT_FLAGS => flag_items value (vocabulary .ARG_AT_FLAGS) (cstr "0")
  | .ARG_SOCKET_TYPE => socket_items value
  | _ => []

variable {libc : Libc}

/-- The text of a word of flags. -/
def flags_text (libc : Libc) (kind : ArgumentKind) (value : UInt64) : Text :=
  items_text (printed_items libc value kind)

/-- What an argument that is a word of flags is rendered to. -/
theorem render_flags_adds {heap : Heap} (hlibc : libc.Plain) (decoder : Decoder) (tid : Pid)
    (event : SyscallEvent) (spec : ArgumentSpec) (index : Nat) (h : is_flags spec.kind = true) :
    Adds heap (render_argument heap libc decoder tid event spec index)
      (flags_text libc spec.kind (event.argument index)) := by
  unfold render_argument flags_text
  dsimp only
  generalize spec.kind = kind at h
  cases kind with
  | ARG_OPEN_FLAGS => exact append_open_flags_adds _
  | ARG_CLONE_FLAGS => exact append_clone_flags_adds hlibc _
  | ARG_SOCKET_TYPE => exact append_socket_type_adds _
  | ARG_FD_FLAGS | ARG_PROT_FLAGS | ARG_MAP_FLAGS | ARG_ACCESS_FLAGS | ARG_AT_FLAGS =>
    exact append_flags_adds _ _ _
  | _ => exact absurd h (by decide)

end Sysgaze
