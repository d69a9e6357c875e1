import Mathlib.Data.List.DropRight
import Sysgaze.Lib.JsonCuts
import Sysgaze.StructuredLines

/-! # The checker of structured lines (`tests/ndjson_validator.c`)

    A recursive descent over a line that ends with a NUL.  The cursor only moves
    forward, and much of the code moves it past a byte before it looks what the
    byte is, so that the terminating NUL is all that keeps it inside the line.

    A function returns `true` with the state of the parser, or `false`, which
    every caller hands on at once.  Reading behind the terminating NUL is an
    outcome of its own, and so is running out of the rounds that the recursion
    and the loops are granted here.
-/

open Fallible Numerals Json

namespace Sysgaze

/-! ### The line and the cursor -/

/-- Where `parser.cursor` points. -/
inductive Cursor where
  /-- At the first of the bytes that are left of the line, or at the NUL when none is left. -/
  | within (left : Text)
  /-- Behind the terminating NUL. -/
  | past
  deriving DecidableEq, Repr

/-- How a function of the checker ends. -/
inductive Verdict (α : Type) where
  | accepts (a : α)
  | rejects
  /-- The byte read is not part of the line. -/
  | overreads
  /-- The rounds granted did not suffice. -/
  | unfinished
  deriving DecidableEq, Repr

namespace Verdict

variable {α β : Type}

protected def bind : Verdict α → (α → Verdict β) → Verdict β
  | .accepts a, next => next a
  | .rejects, _ => .rejects
  | .overreads, _ => .overreads
  | .unfinished, _ => .unfinished

instance : Monad Verdict where
  pure := .accepts
  bind := Verdict.bind

@[simp] theorem pure_eq (a : α) : (pure a : Verdict α) = .accepts a := rfl
@[simp] theorem accepts_bind (a : α) (next : α → Verdict β) :
    (Verdict.accepts a >>= next) = next a := rfl
@[simp] theorem rejects_bind (next : α → Verdict β) : (Verdict.rejects >>= next) = .rejects := rfl
@[simp] theorem overreads_bind (next : α → Verdict β) :
    (Verdict.overreads >>= next) = .overreads := rfl
@[simp] theorem unfinished_bind (next : α → Verdict β) :
    (Verdict.unfinished >>= next) = .unfinished := rfl

end Verdict

/-- `struct parser`. -/
structure Parser where
  cursor : Cursor
  depth : Nat
  deriving DecidableEq, Repr

namespace Cursor

/-- `*parser->cursor`. -/
def read : Cursor → Verdict UInt8
  | .within [] => .accepts 0
  | .within (byte :: _) => .accepts byte
  | .past => .overreads

/-- `parser->cursor + 1`. -/
def next : Cursor → Cursor
  | .within (_ :: left) => .within left
  | _ => .past

/-- The loop `while (p(*parser->cursor)) ++parser->cursor`, for a `p` that a NUL does not meet. -/
def skip_while (p : UInt8 → Bool) : Cursor → Verdict Cursor
  | .within left => .accepts (.within (left.dropWhile p))
  | .past => .overreads

/-- `strncmp(parser->cursor, word, n) == 0` for a word of `n` bytes. -/
def starts_with (word : Text) : Cursor → Verdict Bool
  | .within left => .accepts (word.isPrefixOf left)
  | .past => .overreads

/-- `parser->cursor + n`. -/
def advance (n : Nat) (cursor : Cursor) : Cursor := Nat.iterate next n cursor

end Cursor

/-- `++parser->cursor`. -/
def Parser.next (parser : Parser) : Parser := { parser with cursor := parser.cursor.next }

/-! ### The checker -/

/-- A byte that `skip_space` walks over. -/
def is_blank (byte : UInt8) : Bool := byte == 32 || byte == 9 || byte == 13 || byte == 10

/-- `skip_space`. -/
def skip_space (parser : Parser) : Verdict Parser := do
  let cursor ← parser.cursor.skip_while is_blank
  return { parser with cursor := cursor }

/-- The bytes of the string `"\"\\/bfnrt"`, the terminating NUL included: `strchr` finds that
    one as well. -/
def escapes : Text := [34, 92, 47, 98, 102, 110, 114, 116, 0]

/-- `isxdigit`, in the C locale. -/
def isxdigit (byte : UInt8) : Bool :=
  is_digit byte || (65 ≤ byte && byte ≤ 70) || (97 ≤ byte && byte ≤ 102)

/-- The loop over the digits of an escape `\u`. -/
def unicode_digits : Nat → Cursor → Verdict Cursor
  | 0, cursor => return cursor
  | count + 1, cursor => do
    let byte ← cursor.read
    if !isxdigit byte then .rejects
    else unicode_digits count cursor.next

/-- The loop of `parse_string`. -/
def string_loop : Nat → Cursor → Verdict Cursor
  | 0, _ => .unfinished
  | rounds + 1, cursor => do
    let byte ← cursor.read
    if byte = 0 ∨ byte = 34 then return cursor
    else
      let cursor := cursor.next
      if byte < 32 then .rejects
      else if byte = 92 then
        let escape ← cursor.read
        let cursor := cursor.next
        if escape = 117 then
          let cursor ← unicode_digits 4 cursor
          string_loop rounds cursor
        else if escape ∉ escapes then .rejects
        else string_loop rounds cursor
      else string_loop rounds cursor

/-- `parse_string`. -/
def parse_string (rounds : Nat) (parser : Parser) : Verdict Parser := do
  let byte ← parser.cursor.read
  let cursor := parser.cursor.next
  if byte ≠ 34 then .rejects
  else
    let cursor ← string_loop rounds cursor
    let byte ← cursor.read
    if byte ≠ 34 then .rejects
    else return { parser with cursor := cursor.next }

/-- A digit and the digits behind it; `parse_number` asks for them in three places. -/
def some_digits (cursor : Cursor) : Verdict Cursor := do
  let byte ← cursor.read
  if !is_digit byte then .rejects
  else cursor.skip_while is_digit

/-- The part of `parse_number` that reads the digits in front of the point. -/
def integer_part (cursor : Cursor) : Verdict Cursor := do
  let byte ← cursor.read
  let cursor := if byte = 45 then cursor.next else cursor
  let byte ← cursor.read
  if byte = 48 then return cursor.next
  else some_digits cursor

/-- The part that reads the fraction. -/
def fraction_part (cursor : Cursor) : Verdict Cursor := do
  let byte ← cursor.read
  if byte = 46 then some_digits cursor.next
  else return cursor

/-- The part that reads the exponent. -/
def exponent_part (cursor : Cursor) : Verdict Cursor := do
  let byte ← cursor.read
  if byte = 101 ∨ byte = 69 then
    let cursor := cursor.next
    let sign ← cursor.read
    some_digits (if sign = 43 ∨ sign = 45 then cursor.next else cursor)
  else return cursor

/-- `parse_number`. -/
def parse_number (parser : Parser) : Verdict Parser := do
  let start := parser.cursor
  let cursor ← integer_part start
  let cursor ← fraction_part cursor
  let cursor ← exponent_part cursor
  if cursor = start then .rejects
  else return { parser with cursor := cursor }

mutual

/-- `parse_array`. -/
def parse_array : Nat → Parser → Verdict Parser
  | 0, _ => .unfinished
  | rounds + 1, parser => do
    let parser ← skip_space parser.next
    let byte ← parser.cursor.read
    if byte = 93 then return parser.next
    else array_loop rounds parser

/-- The loop of `parse_array`. -/
def array_loop : Nat → Parser → Verdict Parser
  | 0, _ => .unfinished
  | rounds + 1, parser => do
    let parser ← parse_value rounds parser
    let parser ← skip_space parser
    let byte ← parser.cursor.read
    if byte = 93 then return parser.next
    else
      let parser := parser.next
      if byte ≠ 44 then .rejects
      else
        let parser ← skip_space parser
        array_loop rounds parser

/-- `parse_object`. -/
def parse_object : Nat → Parser → Verdict Parser
  | 0, _ => .unfinished
  | rounds + 1, parser => do
    let parser ← skip_space parser.next
    let byte ← parser.cursor.read
    if byte = 125 then return parser.next
    else object_loop rounds parser

/-- The loop of `parse_object`. -/
def object_loop : Nat → Parser → Verdict Parser
  | 0, _ => .unfinished
  | rounds + 1, parser => do
    let parser ← parse_string rounds parser
    let parser ← skip_space parser
    let byte ← parser.cursor.read
    let parser := parser.next
    if byte ≠ 58 then .rejects
    else
      let parser ← skip_space parser
      let parser ← parse_value rounds parser
      let parser ← skip_space parser
      let byte ← parser.cursor.read
      if byte = 125 then return parser.next
      else
        let parser := parser.next
        if byte ≠ 44 then .rejects
        else
          let parser ← skip_space parser
          object_loop rounds parser

/-- `parse_value`. -/
def parse_value : Nat → Parser → Verdict Parser
  | 0, _ => .unfinished
  | rounds + 1, parser => do
    let parser := { parser with depth := parser.depth + 1 }
    if parser.depth > 64 then .rejects
    else
      let byte ← parser.cursor.read
      let result ←
        if byte = 34 then parse_string rounds parser
        else if byte = 123 then parse_object rounds parser
        else if byte = 91 then parse_array rounds parser
        else
          if ← parser.cursor.starts_with [116, 114, 117, 101] then
            pure { parser with cursor := parser.cursor.advance 4 }
          else if ← parser.cursor.starts_with [102, 97, 108, 115, 101] then
            pure { parser with cursor := parser.cursor.advance 5 }
          else if ← parser.cursor.starts_with [110, 117, 108, 108] then
            pure { parser with cursor := parser.cursor.advance 4 }
          else parse_number parser
      return { result with depth := result.depth - 1 }

end

/-- `valid_json_line`: `true` as `accepts`, `false` as `rejects`. -/
def valid_json_line (rounds : Nat) (line : Text) : Verdict Unit := do
  let parser ← skip_space ⟨.within line, 0⟩
  let parser ← parse_value rounds parser
  let parser ← skip_space parser
  let byte ← parser.cursor.read
  if byte = 0 then return () else .rejects

/-! ### What a function may answer -/

namespace Verdict

variable {α β : Type} {P P' : α → Prop} {R : β → Prop} {Q Q' : Prop}

/-- The function ends, what it accepts meets `P`, and it reads behind the line only if `Q`. -/
def Sound (verdict : Verdict α) (P : α → Prop) (Q : Prop) : Prop :=
  match verdict with
  | .accepts a => P a
  | .rejects => True
  | .overreads => Q
  | .unfinished => False

@[simp] theorem sound_accepts (a : α) : (accepts a).Sound P Q ↔ P a := Iff.rfl
@[simp] theorem sound_rejects : (rejects : Verdict α).Sound P Q ↔ True := Iff.rfl
@[simp] theorem sound_overreads : (overreads : Verdict α).Sound P Q ↔ Q := Iff.rfl

theorem Sound.bind {verdict : Verdict α} {next : α → Verdict β} (h : verdict.Sound P Q')
    (hQ : Q' → Q) (hnext : ∀ a, P a → (next a).Sound R Q) : (verdict >>= next).Sound R Q := by
  cases verdict with
  | accepts a => exact hnext a h
  | rejects => trivial
  | overreads => exact hQ h
  | unfinished => exact h.elim

theorem bind_assoc {γ : Type} (verdict : Verdict α) (f : α → Verdict β) (g : β → Verdict γ) :
    (verdict >>= f) >>= g = verdict >>= fun a => f a >>= g := by
  cases verdict with
  | accepts a => rfl
  | rejects => rfl
  | overreads => rfl
  | unfinished => rfl

theorem Sound.mono {verdict : Verdict α} (h : verdict.Sound P Q) (hP : ∀ a, P a → P' a)
    (hQ : Q → Q') : verdict.Sound P' Q' := by
  cases verdict with
  | accepts a => exact hP a h
  | rejects => trivial
  | overreads => exact hQ h
  | unfinished => exact h.elim

end Verdict

open Verdict

section cursor
variable {byte : UInt8} {left : Text} {depth : Nat}

@[simp] theorem read_nil : (Cursor.within []).read = .accepts 0 := rfl
@[simp] theorem read_cons : (Cursor.within (byte :: left)).read = .accepts byte := rfl
@[simp] theorem read_past : Cursor.past.read = .overreads := rfl
@[simp] theorem next_nil : (Cursor.within []).next = .past := rfl
@[simp] theorem next_cons : (Cursor.within (byte :: left)).next = .within left := rfl
@[simp] theorem parser_next_cons :
    (Parser.mk (.within (byte :: left)) depth).next = ⟨.within left, depth⟩ := rfl
@[simp] theorem skip_while_within (p : UInt8 → Bool) :
    (Cursor.within left).skip_while p = .accepts (.within (left.dropWhile p)) := rfl

theorem is_blank_eq : is_blank = is_space := by
  funext byte
  unfold is_blank is_space
  rw [Bool.or_right_comm (byte == 32 || byte == 9)]

@[simp] theorem skip_space_within :
    skip_space ⟨.within left, depth⟩ = .accepts ⟨.within (skip left), depth⟩ := by
  simp only [skip_space, skip_while_within, is_blank_eq, skip, accepts_bind, pure_eq]

end cursor

/-! ### Strings -/

section strings
variable {byte letter : UInt8} {t : Text} {rounds : Nat}

theorem isxdigit_iff : isxdigit byte = true ↔ hex_value byte ≠ none := by
  unfold isxdigit hex_value is_digit
  split_ifs <;> simp_all

theorem mem_escapes_iff (hbyte : byte ≠ 0) : byte ∈ escapes ↔ simple_escape byte ≠ none := by
  unfold escapes simple_escape
  split_ifs <;> simp_all

theorem unicode_digits_within (count : Nat) : ∀ t : Text,
    unicode_digits count (.within t) =
      if count ≤ t.length ∧ (t.take count).all isxdigit = true then .accepts (.within (t.drop count))
      else .rejects := by
  induction count with
  | zero => intro t; simp [unicode_digits]
  | succ count ih =>
    intro t
    cases t with
    | nil => simp [unicode_digits, isxdigit, is_digit]
    | cons byte t =>
      by_cases hdigit : isxdigit byte = true
      · simp [unicode_digits, hdigit, ih]
      · simp [unicode_digits, hdigit]

theorem unicode_digits_of_code {a b c d : UInt8} {code : Nat} (h : hex_code a b c d = some code) :
    unicode_digits 4 (.within (a :: b :: c :: d :: t)) = .accepts (.within t) := by
  have hdigits : isxdigit a = true ∧ isxdigit b = true ∧ isxdigit c = true ∧ isxdigit d = true := by
    simp only [hex_code, Option.bind_eq_bind, Option.bind_eq_some_iff] at h
    obtain ⟨_, ha, _, hb, _, hc, _, hd, -⟩ := h
    simp [isxdigit_iff, ha, hb, hc, hd]
  rw [unicode_digits_within]
  simp [hdigits]

/-- Four digits have a code. -/
theorem hex_code_of_digits {a b c d : UInt8} (ha : isxdigit a = true) (hb : isxdigit b = true)
    (hc : isxdigit c = true) (hd : isxdigit d = true) : ∃ code, hex_code a b c d = some code := by
  rw [isxdigit_iff, Option.ne_none_iff_exists'] at ha hb hc hd
  obtain ⟨⟨_, ha⟩, ⟨_, hb⟩, ⟨_, hc⟩, ⟨_, hd⟩⟩ := And.intro ha (And.intro hb (And.intro hc hd))
  simp [hex_code, ha, hb, hc, hd]

/-! One whole character takes one round of the loop. -/

theorem string_loop_plain (hcontrol : 32 ≤ byte) (hquote : byte ≠ 34) (hslash : byte ≠ 92) :
    string_loop (rounds + 1) (.within (byte :: t)) = string_loop rounds (.within t) := by
  have hzero : byte ≠ 0 := by
    rintro rfl
    exact absurd hcontrol (by decide)
  simp [string_loop, hzero, hquote, hslash, UInt8.not_lt.mpr hcontrol]

theorem string_loop_simple {byte : UInt8} (h : simple_escape letter = some byte) :
    string_loop (rounds + 1) (.within (92 :: letter :: t)) = string_loop rounds (.within t) := by
  have hzero : letter ≠ 0 := by
    rintro rfl
    simp [simple_escape] at h
  have hunicode : letter ≠ 117 := by
    rintro rfl
    simp [simple_escape] at h
  have hmem : letter ∈ escapes := (mem_escapes_iff hzero).mpr (by simp [h])
  simp [string_loop, hunicode, hmem]

theorem string_loop_unicode {a b c d : UInt8} {code : Nat} (h : hex_code a b c d = some code) :
    string_loop (rounds + 1) (.within (92 :: 117 :: a :: b :: c :: d :: t)) =
      string_loop rounds (.within t) := by
  simp [string_loop, unicode_digits_of_code h]

/-- What the loop makes of the tail, it makes of the whole: the induction is on the characters
    in front of the tail, each of which takes one round. -/
theorem string_loop_of_open {T : Text → Prop} {result : Verdict Cursor}
    (htail : ∀ {t rounds}, T t → t.length < rounds → string_loop rounds (.within t) = result)
    (h : OpenChars T t) :
    ∀ {rounds : Nat}, t.length < rounds → string_loop rounds (.within t) = result := by
  induction h with
  | tail h => exact fun hrounds => htail h hrounds
  | plain hcontrol hquote hslash _ ih =>
    intro rounds hrounds
    obtain ⟨rounds, rfl⟩ := Nat.exists_eq_succ_of_ne_zero (Nat.ne_zero_of_lt hrounds)
    rw [string_loop_plain hcontrol hquote hslash]
    exact ih (Nat.lt_of_succ_lt_succ hrounds)
  | simple hescape _ ih =>
    intro rounds hrounds
    obtain ⟨rounds, rfl⟩ := Nat.exists_eq_succ_of_ne_zero (Nat.ne_zero_of_lt hrounds)
    rw [string_loop_simple hescape]
    exact ih (by simp only [List.length_cons] at hrounds; omega)
  | unicode hcode _ ih =>
    intro rounds hrounds
    obtain ⟨rounds, rfl⟩ := Nat.exists_eq_succ_of_ne_zero (Nat.ne_zero_of_lt hrounds)
    rw [string_loop_unicode hcode]
    exact ih (by simp only [List.length_cons] at hrounds; omega)

/-- A string of the grammar is read to its closing quote. -/
theorem string_loop_of_chars {bytes r : Text} (h : Chars bytes t r) {rounds : Nat}
    (hrounds : t.length < rounds) :
    string_loop rounds (.within t) = .accepts (.within (34 :: r)) := by
  refine string_loop_of_open ?_ h.to_open hrounds
  intro tail rounds htail hrounds
  obtain rfl := htail
  obtain ⟨rounds, rfl⟩ := Nat.exists_eq_succ_of_ne_zero (Nat.ne_zero_of_lt hrounds)
  simp [string_loop]

/-- **The slip.**  Behind a last backslash the loop takes the terminating NUL for the letter of
    an escape, and goes on behind it. -/
theorem string_loop_overreads (h : OpenChars BehindBackslash t) {rounds : Nat}
    (hrounds : t.length < rounds) : string_loop rounds (.within t) = .overreads := by
  refine string_loop_of_open ?_ h hrounds
  intro tail rounds htail hrounds
  obtain rfl := htail
  obtain ⟨rounds, rfl⟩ : ∃ left, rounds = left + 2 := ⟨rounds - 2, by
    simp only [List.length_singleton] at hrounds
    omega⟩
  simp [string_loop, escapes]

/-- What the loop accepts: it stops at a closing quote, or at the end of the line. -/
theorem string_loop_sound : ∀ (rounds : Nat) (t : Text), t.length < rounds → 0 ∉ t →
    (string_loop rounds (.within t)).Sound
      (fun cursor => cursor = .within [] ∨
        ∃ bytes r, cursor = .within (34 :: r) ∧ Chars bytes t r ∧ r <:+ t)
      (OpenChars BehindBackslash t) := by
  intro rounds
  induction rounds with
  | zero => intro t hrounds; omega
  | succ rounds ih =>
    intro t hrounds hnul
    -- A whole character in front: the rest of the loop decides.
    have hlater : ∀ {p left : Text}, t = p ++ left → p ≠ [] →
        string_loop (rounds + 1) (.within t) = string_loop rounds (.within left) →
        (∀ bytes r, Chars bytes left r → ∃ bytes', Chars bytes' t r) →
        (OpenChars BehindBackslash left → OpenChars BehindBackslash t) →
        (string_loop (rounds + 1) (.within t)).Sound
          (fun cursor => cursor = .within [] ∨
            ∃ bytes r, cursor = .within (34 :: r) ∧ Chars bytes t r ∧ r <:+ t)
          (OpenChars BehindBackslash t) := by
      rintro p left rfl hp hstep hchars hopen
      have hpos : 0 < p.length := List.length_pos_iff.mpr hp
      rw [List.length_append] at hrounds
      rw [hstep]
      refine (ih left (by omega) (fun hmem => hnul (List.mem_append_right p hmem))).mono ?_ hopen
      rintro cursor (hend | ⟨bytes, r, hquote, hread, hsuffix⟩)
      · exact Or.inl hend
      · obtain ⟨bytes', hread'⟩ := hchars bytes r hread
        exact Or.inr ⟨bytes', r, hquote, hread', hsuffix.trans (List.suffix_append p left)⟩
    cases t with
    | nil => simp [string_loop]
    | cons byte t =>
      have hzero : byte ≠ 0 := fun heq => hnul (heq ▸ List.mem_cons_self)
      by_cases hquote : byte = 34
      · subst hquote
        have hstop : string_loop (rounds + 1) (.within (34 :: t)) =
            .accepts (.within (34 :: t)) := by simp [string_loop]
        rw [hstop]
        exact Or.inr ⟨[], t, rfl, .done, List.suffix_cons 34 t⟩
      by_cases hcontrol : byte < 32
      · simp [string_loop, hzero, hquote, hcontrol]
      rw [UInt8.not_lt] at hcontrol
      by_cases hslash : byte = 92
      · subst hslash
        cases t with
        | nil =>
          rw [string_loop_overreads (.tail rfl) hrounds]
          exact .tail rfl
        | cons letter t =>
          have hletter : letter ≠ 0 := by
            rintro rfl
            exact hnul (List.mem_cons_of_mem _ List.mem_cons_self)
          by_cases hunicode : letter = 117
          · subst hunicode
            by_cases hdigits : 4 ≤ t.length ∧ (t.take 4).all isxdigit = true
            · obtain ⟨a, b, c, d, left, rfl⟩ : ∃ a b c d left, t = a :: b :: c :: d :: left := by
                rcases t with _ | ⟨a, _ | ⟨b, _ | ⟨c, _ | ⟨d, left⟩⟩⟩⟩
                · simp at hdigits
                · simp at hdigits
                · simp at hdigits
                · simp at hdigits
                · exact ⟨a, b, c, d, left, rfl⟩
              simp only [List.take_succ_cons, List.take_zero, List.all_cons, List.all_nil,
                Bool.and_true, Bool.and_eq_true] at hdigits
              obtain ⟨-, ha, hb, hc, hd⟩ := hdigits
              obtain ⟨code, hcode⟩ := hex_code_of_digits ha hb hc hd
              exact hlater (p := [92, 117, a, b, c, d]) rfl (by simp) (string_loop_unicode hcode)
                (fun _ _ hread => ⟨_, .unicode hcode hread⟩) (.unicode hcode)
            · have hreject : unicode_digits 4 (.within t) = .rejects := by
                rw [unicode_digits_within, if_neg hdigits]
              simp [string_loop, hreject]
          · by_cases hmem : letter ∈ escapes
            · obtain ⟨stands, hescape⟩ :=
                Option.ne_none_iff_exists'.mp ((mem_escapes_iff hletter).mp hmem)
              exact hlater (p := [92, letter]) rfl (by simp) (string_loop_simple hescape)
                (fun _ _ hread => ⟨_, .simple hescape hread⟩) (.simple hescape)
            · simp [string_loop, hunicode, hmem]
      · exact hlater (p := [byte]) rfl (by simp) (string_loop_plain hcontrol hquote hslash)
          (fun _ _ hread => ⟨_, .plain hcontrol hquote hslash hread⟩)
          (.plain hcontrol hquote hslash)

/-- What `parse_string` accepts is a string of the grammar. -/
theorem parse_string_sound {depth : Nat} (hrounds : t.length ≤ rounds) (hnul : 0 ∉ t) :
    (parse_string rounds ⟨.within t, depth⟩).Sound
      (fun parser => ∃ bytes t' r, t = 34 :: t' ∧ parser = ⟨.within r, depth⟩ ∧
        Chars bytes t' r ∧ r <:+ t')
      (∃ t', t = 34 :: t' ∧ OpenChars BehindBackslash t') := by
  cases t with
  | nil => simp [parse_string]
  | cons byte t =>
    by_cases hquote : byte = 34
    · subst hquote
      have hloop := string_loop_sound rounds t hrounds
        (fun hmem => hnul (List.mem_cons_of_mem _ hmem))
      have hparse : parse_string rounds ⟨.within (34 :: t), depth⟩ =
          string_loop rounds (.within t) >>= fun cursor => do
            let byte ← cursor.read
            if byte ≠ 34 then .rejects
            else return ⟨cursor.next, depth⟩ := by
        simp [parse_string]
      rw [hparse]
      refine hloop.bind (fun hopen => ⟨t, rfl, hopen⟩) ?_
      rintro cursor (rfl | ⟨bytes, r, rfl, hread, hsuffix⟩)
      · simp
      · simp only [read_cons, accepts_bind, ne_eq, not_true_eq_false, if_false, next_cons, pure_eq,
          sound_accepts]
        exact ⟨bytes, t, r, rfl, rfl, hread, hsuffix⟩
    · simp [parse_string, hquote]

theorem parse_string_of_chars {bytes r : Text} {depth : Nat} (h : Chars bytes t r)
    (hrounds : t.length < rounds) :
    parse_string rounds ⟨.within (34 :: t), depth⟩ = .accepts ⟨.within r, depth⟩ := by
  simp [parse_string, string_loop_of_chars h hrounds]

theorem parse_string_overreads {depth : Nat} (h : OpenChars BehindBackslash t)
    (hrounds : t.length < rounds) :
    parse_string rounds ⟨.within (34 :: t), depth⟩ = .overreads := by
  simp [parse_string, string_loop_overreads h hrounds]

end strings

/-! ### Numbers -/

section numbers
variable {t r : Text} {depth : Nat}

/-- A fraction or an exponent does not begin with a digit. -/
theorem dropWhile_exponent {text : Text} (h : is_exponent text = true) :
    text.dropWhile is_digit = text := by
  cases text with
  | nil => rfl
  | cons byte rest =>
    unfold is_exponent at h
    rw [Bool.and_eq_true, Bool.or_eq_true, beq_iff_eq, beq_iff_eq] at h
    apply List.dropWhile_cons_of_neg
    obtain ⟨rfl | rfl, -⟩ := h
    · decide
    · decide

theorem dropWhile_fraction {text : Text} (h : is_fraction text = true) :
    text.dropWhile is_digit = text := by
  unfold is_fraction at h
  split at h
  · exact List.dropWhile_cons_of_neg (by decide)
  · exact dropWhile_exponent h

/-- Digits in front of such a text are walked over, and no more. -/
theorem dropWhile_takeWhile_append {text : Text} (h : text.dropWhile is_digit = text) :
    (t.takeWhile is_digit ++ text).dropWhile is_digit = text := by
  rw [List.dropWhile_append_of_pos (fun _ hmem => List.mem_takeWhile_imp hmem), h]

theorem delimited_dropWhile (hr : Delimited r) : r.dropWhile is_digit = r := by
  cases r with
  | nil => rfl
  | cons byte r =>
    apply List.dropWhile_cons_of_neg
    intro hdigit
    have hnumber := hr byte r rfl
    rw [is_number_byte_of_digit hdigit] at hnumber
    exact absurd hnumber (by decide)

theorem dropWhile_append_delimited (hr : Delimited r) (t : Text) :
    (t ++ r).dropWhile is_digit = t.dropWhile is_digit ++ r := by
  induction t with
  | nil => exact delimited_dropWhile hr
  | cons byte t ih =>
    by_cases hdigit : is_digit byte = true
    · rw [List.cons_append, List.dropWhile_cons_of_pos hdigit, List.dropWhile_cons_of_pos hdigit, ih]
    · rw [List.cons_append, List.dropWhile_cons_of_neg hdigit, List.dropWhile_cons_of_neg hdigit]
      rfl

theorem some_digits_cons {byte : UInt8} (h : is_digit byte = true) :
    some_digits (.within (byte :: t)) = .accepts (.within (t.dropWhile is_digit)) := by
  simp [some_digits, h]

theorem some_digits_sound (t : Text) :
    (some_digits (.within t)).Sound
      (fun cursor => ∃ first rest, t = first :: rest ∧ is_digit first = true ∧
        cursor = .within (rest.dropWhile is_digit)) False := by
  cases t with
  | nil => simp [some_digits, is_digit]
  | cons byte t =>
    by_cases hdigit : is_digit byte = true
    · rw [some_digits_cons hdigit]
      exact ⟨byte, t, rfl, hdigit, rfl⟩
    · simp [some_digits, hdigit]

theorem exponent_part_sound (t : Text) :
    (exponent_part (.within t)).Sound
      (fun cursor => ∃ e r, t = e ++ r ∧ is_exponent e = true ∧ cursor = .within r) False := by
  cases t with
  | nil =>
    refine ⟨[], [], rfl, rfl, ?_⟩
    rfl
  | cons byte t =>
    by_cases hletter : byte = 101 ∨ byte = 69
    · have hbyte : (byte == 101 || byte == 69) = true := by simpa using hletter
      cases t with
      | nil => simp [exponent_part, hletter, some_digits, is_digit]
      | cons sign t =>
        by_cases hsign : sign = 43 ∨ sign = 45
        · have hstep : exponent_part (.within (byte :: sign :: t)) = some_digits (.within t) := by
            simp [exponent_part, hletter, hsign]
          rw [hstep]
          refine (some_digits_sound t).mono ?_ False.elim
          rintro cursor ⟨first, rest, rfl, hfirst, rfl⟩
          refine ⟨byte :: sign :: first :: rest.takeWhile is_digit, rest.dropWhile is_digit, ?_, ?_,
            rfl⟩
          · simp [List.takeWhile_append_dropWhile]
          · have hsigned : (sign == 43 || sign == 45) = true := by simpa using hsign
            simp [is_exponent, hbyte, hsigned, hfirst]
        · have hstep : exponent_part (.within (byte :: sign :: t)) =
              some_digits (.within (sign :: t)) := by
            simp [exponent_part, hletter, hsign]
          rw [hstep]
          refine (some_digits_sound (sign :: t)).mono ?_ False.elim
          rintro cursor ⟨first, rest, heq, hfirst, rfl⟩
          obtain ⟨rfl, rfl⟩ := List.cons.inj heq
          refine ⟨byte :: sign :: t.takeWhile is_digit, t.dropWhile is_digit, ?_, ?_, rfl⟩
          · simp [List.takeWhile_append_dropWhile]
          · have hsigned : (sign == 43 || sign == 45) = false := by simpa using hsign
            simp [is_exponent, hbyte, hsigned, hfirst]
    · have hstep : exponent_part (.within (byte :: t)) = .accepts (.within (byte :: t)) := by
        simp [exponent_part, hletter]
      rw [hstep]
      exact ⟨[], byte :: t, rfl, rfl, rfl⟩

theorem fraction_part_sound (t : Text) :
    (fraction_part (.within t) >>= exponent_part).Sound
      (fun cursor => ∃ f r, t = f ++ r ∧ is_fraction f = true ∧ cursor = .within r) False := by
  have hnone : (exponent_part (.within t)).Sound
      (fun cursor => t.head? ≠ some 46 →
        ∃ f r, t = f ++ r ∧ is_fraction f = true ∧ cursor = .within r) False := by
    refine (exponent_part_sound t).mono ?_ False.elim
    rintro cursor ⟨e, r, rfl, he, rfl⟩ hpoint
    refine ⟨e, r, rfl, ?_, rfl⟩
    unfold is_fraction
    split
    · exact absurd rfl hpoint
    · exact he
  cases t with
  | nil => exact hnone.mono (fun _ h => h (by simp)) id
  | cons byte t =>
    by_cases hpoint : byte = 46
    · subst hpoint
      have hstep : fraction_part (.within (46 :: t)) = some_digits (.within t) := by
        simp [fraction_part]
      rw [hstep]
      refine (some_digits_sound t).bind id ?_
      rintro cursor ⟨first, rest, rfl, hfirst, rfl⟩
      refine (exponent_part_sound _).mono ?_ id
      rintro cursor ⟨e, r, heq, he, rfl⟩
      refine ⟨46 :: first :: (rest.takeWhile is_digit ++ e), r, ?_, ?_, rfl⟩
      · rw [List.cons_append, List.cons_append, List.append_assoc, ← heq,
          List.takeWhile_append_dropWhile]
      · rw [is_fraction, hfirst, dropWhile_takeWhile_append (dropWhile_exponent he), he]
        rfl
    · have hstep : fraction_part (.within (byte :: t)) = .accepts (.within (byte :: t)) := by
        simp [fraction_part, hpoint]
      rw [hstep]
      exact hnone.mono (fun _ h => h (by simpa using hpoint)) id

/-- A number without its sign. -/
theorem unsigned_sound (t : Text) :
    ((if t.head? = some 48 then Verdict.accepts (.within t.tail) else some_digits (.within t)) >>=
        fun cursor => fraction_part cursor >>= exponent_part).Sound
      (fun cursor => ∃ n r, t = n ++ r ∧ is_unsigned n = true ∧ cursor = .within r) False := by
  by_cases hzero : t.head? = some 48
  · rw [if_pos hzero]
    obtain ⟨t, rfl⟩ : ∃ rest, t = 48 :: rest := List.head?_eq_some_iff.mp hzero
    refine (fraction_part_sound t).mono ?_ id
    rintro cursor ⟨f, r, rfl, hf, rfl⟩
    refine ⟨48 :: f, r, rfl, ?_, rfl⟩
    simpa [is_unsigned] using hf
  · rw [if_neg hzero]
    refine (some_digits_sound t).bind id ?_
    rintro cursor ⟨first, rest, rfl, hfirst, rfl⟩
    refine (fraction_part_sound _).mono ?_ id
    rintro cursor ⟨f, r, heq, hf, rfl⟩
    have hfirst48 : first ≠ 48 := by simpa using hzero
    refine ⟨first :: (rest.takeWhile is_digit ++ f), r, ?_, ?_, rfl⟩
    · rw [List.cons_append, List.append_assoc, ← heq, List.takeWhile_append_dropWhile]
    · rw [is_unsigned, if_neg (by simpa using hfirst48), hfirst,
        dropWhile_takeWhile_append (dropWhile_fraction hf), hf]
      rfl

/-- A sign is walked over, if there is one. -/
theorem integer_part_sign (t : Text) :
    integer_part (.within (45 :: t)) =
      if t.head? = some 48 then Verdict.accepts (.within t.tail) else some_digits (.within t) := by
  cases t with
  | nil => simp [integer_part]
  | cons byte t =>
    by_cases hzero : byte = 48
    · simp [integer_part, hzero]
    · simp [integer_part, hzero]

theorem integer_part_no_sign (h : t.head? ≠ some 45) :
    integer_part (.within t) =
      if t.head? = some 48 then Verdict.accepts (.within t.tail) else some_digits (.within t) := by
  cases t with
  | nil => simp [integer_part]
  | cons byte t =>
    have hsign : byte ≠ 45 := by simpa using h
    by_cases hzero : byte = 48
    · simp [integer_part, hzero]
    · simp [integer_part, hsign, hzero]

/-- `parse_number` without the comparison at its end. -/
theorem parse_number_eq (parser : Parser) :
    parse_number parser =
      ((integer_part parser.cursor >>= fun cursor => fraction_part cursor >>= exponent_part) >>=
        fun cursor => if cursor = parser.cursor then .rejects
          else return { parser with cursor := cursor }) := by
  rw [bind_assoc]
  simp only [bind_assoc]
  rfl

/-- What `parse_number` accepts is a number of the grammar. -/
theorem parse_number_sound (t : Text) (depth : Nat) :
    (parse_number ⟨.within t, depth⟩).Sound
      (fun parser => ∃ numeral r, t = numeral ++ r ∧ is_number numeral = true ∧
        parser = ⟨.within r, depth⟩) False := by
  have hdigits : (integer_part (.within t) >>= fun cursor =>
      fraction_part cursor >>= exponent_part).Sound
      (fun cursor => ∃ numeral r, t = numeral ++ r ∧ is_number numeral = true ∧
        cursor = .within r) False := by
    by_cases hsign : t.head? = some 45
    · obtain ⟨t, rfl⟩ : ∃ rest, t = 45 :: rest := List.head?_eq_some_iff.mp hsign
      rw [integer_part_sign]
      refine (unsigned_sound t).mono ?_ id
      rintro cursor ⟨n, r, rfl, hn, rfl⟩
      exact ⟨45 :: n, r, rfl, hn, rfl⟩
    · rw [integer_part_no_sign hsign]
      refine (unsigned_sound t).mono ?_ id
      rintro cursor ⟨n, r, rfl, hn, rfl⟩
      refine ⟨n, r, rfl, ?_, rfl⟩
      unfold is_number
      split
      · simp at hsign
      · exact hn
  rw [parse_number_eq]
  refine hdigits.bind id ?_
  rintro cursor ⟨numeral, r, heq, hnumber, rfl⟩
  by_cases hsame : Cursor.within r = Cursor.within t
  · simp [hsame]
  · simp only [hsame, if_false]
    exact ⟨numeral, r, heq, hnumber, rfl⟩

theorem head_ne_of_delimited (hr : Delimited r) {byte : UInt8}
    (hbyte : is_number_byte byte = true) : r.head? ≠ some byte := by
  cases r with
  | nil => simp
  | cons first r =>
    intro heq
    have hfirst := hr first r rfl
    obtain rfl : first = byte := by simpa using heq
    rw [hbyte] at hfirst
    exact absurd hfirst (by decide)

theorem some_digits_append (hr : Delimited r) {digits : Text} (hne : digits ≠ [])
    (hdigits : ∀ digit ∈ digits, is_digit digit = true) :
    some_digits (.within (digits ++ r)) = .accepts (.within r) := by
  cases digits with
  | nil => exact absurd rfl hne
  | cons first rest =>
    have hrest : rest.dropWhile is_digit = [] :=
      List.dropWhile_eq_nil_iff.mpr fun digit hmem => hdigits digit (List.mem_cons_of_mem _ hmem)
    rw [List.cons_append, some_digits_cons (hdigits first List.mem_cons_self),
      dropWhile_append_delimited hr, hrest]
    rfl

theorem exponent_part_append (hr : Delimited r) {e : Text} (h : is_exponent e = true) :
    exponent_part (.within (e ++ r)) = .accepts (.within r) := by
  cases e with
  | nil =>
    have hsmall : r.head? ≠ some 101 := head_ne_of_delimited hr (by decide)
    have hlarge : r.head? ≠ some 69 := head_ne_of_delimited hr (by decide)
    cases r with
    | nil => simp [exponent_part]
    | cons byte r =>
      simp only [List.head?_cons, ne_eq, Option.some.injEq] at hsmall hlarge
      simp [exponent_part, hsmall, hlarge]
  | cons byte rest =>
    unfold is_exponent at h
    rw [Bool.and_eq_true] at h
    obtain ⟨hletter, h⟩ := h
    have hletter' : byte = 101 ∨ byte = 69 := by simpa using hletter
    split at h
    · simp at h
    · rename_i sign digits
      by_cases hsign : sign = 43 ∨ sign = 45
      · rw [if_pos (by simpa using hsign), Bool.and_eq_true, List.all_eq_true] at h
        have hstep : exponent_part (.within (byte :: sign :: digits ++ r)) =
            some_digits (.within (digits ++ r)) := by
          simp [exponent_part, hletter', hsign]
        rw [hstep]
        exact some_digits_append hr (by simpa using h.1) h.2
      · rw [if_neg (by simpa using hsign), List.all_eq_true] at h
        have hstep : exponent_part (.within (byte :: sign :: digits ++ r)) =
            some_digits (.within (sign :: digits ++ r)) := by
          simp [exponent_part, hletter', hsign]
        rw [hstep]
        exact some_digits_append hr (by simp) h

theorem fraction_part_append (hr : Delimited r) {f : Text} (h : is_fraction f = true) :
    (fraction_part (.within (f ++ r)) >>= exponent_part) = .accepts (.within r) := by
  -- Without a point there is an exponent or nothing.
  have hnone : f.head? ≠ some 46 → is_exponent f = true →
      (fraction_part (.within (f ++ r)) >>= exponent_part) = .accepts (.within r) := by
    intro hpoint he
    have hhead : (f ++ r).head? ≠ some 46 := by
      cases f with
      | nil => exact head_ne_of_delimited hr (by decide)
      | cons byte f => simpa using hpoint
    have hstep : fraction_part (.within (f ++ r)) = .accepts (.within (f ++ r)) := by
      rcases htext : f ++ r with _ | ⟨byte, rest⟩
      · simp [fraction_part]
      · rw [htext] at hhead
        have hbyte : byte ≠ 46 := by simpa using hhead
        simp [fraction_part, hbyte]
    rw [hstep, accepts_bind, exponent_part_append hr he]
  unfold is_fraction at h
  split at h
  · rename_i first rest
    rw [Bool.and_eq_true] at h
    have hstep : fraction_part (.within (46 :: first :: rest ++ r)) =
        some_digits (.within (first :: (rest ++ r))) := by
      simp [fraction_part]
    rw [hstep, some_digits_cons h.1, dropWhile_append_delimited hr, accepts_bind]
    exact exponent_part_append hr h.2
  · rename_i hpoint
    by_cases hhead : f.head? = some 46
    · obtain ⟨rest, rfl⟩ : ∃ rest, f = 46 :: rest := List.head?_eq_some_iff.mp hhead
      simp [is_exponent] at h
    · exact hnone hhead h

theorem unsigned_append (hr : Delimited r) {n : Text} (h : is_unsigned n = true) :
    ((if (n ++ r).head? = some 48 then Verdict.accepts (.within (n ++ r).tail)
        else some_digits (.within (n ++ r))) >>=
      fun cursor => fraction_part cursor >>= exponent_part) = .accepts (.within r) := by
  cases n with
  | nil => simp [is_unsigned] at h
  | cons first rest =>
    rw [is_unsigned] at h
    by_cases hzero : first = 48
    · rw [if_pos (by simpa using hzero)] at h
      rw [if_pos (by simpa using hzero)]
      exact fraction_part_append hr h
    · rw [if_neg (by simpa using hzero), Bool.and_eq_true] at h
      rw [if_neg (by simpa using hzero), List.cons_append, some_digits_cons h.1,
        dropWhile_append_delimited hr]
      exact fraction_part_append hr h.2

/-- A number of the grammar is read as far as it goes. -/
theorem parse_number_of_number (hr : Delimited r) {numeral : Text} (h : is_number numeral = true)
    (depth : Nat) :
    parse_number ⟨.within (numeral ++ r), depth⟩ = .accepts ⟨.within r, depth⟩ := by
  have hparts : (integer_part (.within (numeral ++ r)) >>= fun cursor =>
      fraction_part cursor >>= exponent_part) = .accepts (.within r) := by
    unfold is_number at h
    split at h
    · rw [List.cons_append, integer_part_sign]
      exact unsigned_append hr h
    · rename_i hsign
      obtain ⟨-, first, rest, rfl, hfirst⟩ := is_unsigned_bytes h
      rw [integer_part_no_sign]
      · exact unsigned_append hr h
      · simp only [List.cons_append, List.head?_cons, ne_eq, Option.some.injEq]
        rintro rfl
        exact absurd hfirst (by decide)
  have hmoves : Cursor.within r ≠ Cursor.within (numeral ++ r) := by
    obtain ⟨-, first, rest, rfl, -⟩ := is_number_bytes h
    intro heq
    have hlength := congrArg List.length (Cursor.within.inj heq)
    simp only [List.length_append, List.length_cons] at hlength
    omega
  rw [parse_number_eq, hparts]
  simp [hmoves]

end numbers

/-! ### Values -/

/-- `--parser->depth`, behind a value that has been read. -/
def leave (parser : Parser) : Verdict Parser := return { parser with depth := parser.depth - 1 }

@[simp] theorem leave_eq (cursor : Cursor) (depth : Nat) :
    leave ⟨cursor, depth + 1⟩ = .accepts ⟨cursor, depth⟩ := rfl

section steps
variable {rounds depth : Nat} {t r : Text}

theorem parse_value_deep (hdepth : 64 ≤ depth) :
    parse_value (rounds + 1) ⟨.within t, depth⟩ = .rejects := by
  rw [parse_value]
  exact if_pos (Nat.lt_succ_of_le hdepth)

theorem parse_value_string (hdepth : depth < 64) :
    parse_value (rounds + 1) ⟨.within (34 :: t), depth⟩ =
      parse_string rounds ⟨.within (34 :: t), depth + 1⟩ >>= leave := by
  rw [parse_value]
  exact if_neg (Nat.not_lt.mpr hdepth)

theorem parse_value_object (hdepth : depth < 64) :
    parse_value (rounds + 1) ⟨.within (123 :: t), depth⟩ =
      parse_object rounds ⟨.within (123 :: t), depth + 1⟩ >>= leave := by
  rw [parse_value]
  exact if_neg (Nat.not_lt.mpr hdepth)

theorem parse_value_array (hdepth : depth < 64) :
    parse_value (rounds + 1) ⟨.within (91 :: t), depth⟩ =
      parse_array rounds ⟨.within (91 :: t), depth + 1⟩ >>= leave := by
  rw [parse_value]
  exact if_neg (Nat.not_lt.mpr hdepth)

theorem parse_value_true (hdepth : depth < 64) :
    parse_value (rounds + 1) ⟨.within (116 :: 114 :: 117 :: 101 :: r), depth⟩ =
      .accepts ⟨.within r, depth⟩ := by
  rw [parse_value]
  exact if_neg (Nat.not_lt.mpr hdepth)

theorem parse_value_false (hdepth : depth < 64) :
    parse_value (rounds + 1) ⟨.within (102 :: 97 :: 108 :: 115 :: 101 :: r), depth⟩ =
      .accepts ⟨.within r, depth⟩ := by
  rw [parse_value]
  exact if_neg (Nat.not_lt.mpr hdepth)

theorem parse_value_null (hdepth : depth < 64) :
    parse_value (rounds + 1) ⟨.within (110 :: 117 :: 108 :: 108 :: r), depth⟩ =
      .accepts ⟨.within r, depth⟩ := by
  rw [parse_value]
  exact if_neg (Nat.not_lt.mpr hdepth)

/-- The bytes of a word of the grammar. -/
def IsWord (word : Text) (v : Value) : Prop :=
  (word = [116, 114, 117, 101] ∧ v = .bool true) ∨
  (word = [102, 97, 108, 115, 101] ∧ v = .bool false) ∨
  (word = [110, 117, 108, 108] ∧ v = .null)

/-- A value that begins with no quote, brace or bracket is a word or a number. -/
theorem parse_value_other (rounds : Nat) (hdepth : depth < 64)
    (hquote : t.head? ≠ some 34) (hbrace : t.head? ≠ some 123) (hbracket : t.head? ≠ some 91) :
    (∃ word v r, IsWord word v ∧ t = word ++ r ∧
      parse_value (rounds + 1) ⟨.within t, depth⟩ = .accepts ⟨.within r, depth⟩) ∨
    parse_value (rounds + 1) ⟨.within t, depth⟩ =
      parse_number ⟨.within t, depth + 1⟩ >>= leave := by
  by_cases htrue : [116, 114, 117, 101] <+: t
  · obtain ⟨r, rfl⟩ := htrue
    exact Or.inl ⟨_, _, r, Or.inl ⟨rfl, rfl⟩, rfl, parse_value_true hdepth⟩
  by_cases hfalse : [102, 97, 108, 115, 101] <+: t
  · obtain ⟨r, rfl⟩ := hfalse
    exact Or.inl ⟨_, _, r, Or.inr (Or.inl ⟨rfl, rfl⟩), rfl, parse_value_false hdepth⟩
  by_cases hnull : [110, 117, 108, 108] <+: t
  · obtain ⟨r, rfl⟩ := hnull
    exact Or.inl ⟨_, _, r, Or.inr (Or.inr ⟨rfl, rfl⟩), rfl, parse_value_null hdepth⟩
  right
  have hbyte : ∃ byte, (Cursor.within t).read = .accepts byte ∧ byte ≠ 34 ∧ byte ≠ 123 ∧
      byte ≠ 91 := by
    cases t with
    | nil => exact ⟨0, rfl, by decide, by decide, by decide⟩
    | cons byte t => exact ⟨byte, rfl, by simpa using hquote, by simpa using hbrace,
        by simpa using hbracket⟩
  obtain ⟨byte, hread, h34, h123, h91⟩ := hbyte
  have hword : ∀ word : Text, ¬word <+: t →
      (Cursor.within t).starts_with word = .accepts false := by
    intro word hno
    rw [Cursor.starts_with, Bool.eq_false_iff.mpr (fun h => hno (List.isPrefixOf_iff_prefix.mp h))]
  rw [parse_value]
  simp only [gt_iff_lt, Nat.not_lt.mpr (Nat.succ_le_of_lt hdepth), if_false, hread, accepts_bind,
    h34, h123, h91, hword _ htrue, hword _ hfalse, hword _ hnull, Bool.false_eq_true]
  rfl

end steps

/-! ### What the checker accepts -/

/-- What the five functions accept with that many rounds: what the grammar spells, nested no
    deeper than the parser counts.  They read behind the line only where it is cut behind
    a backslash. -/
structure SoundAt (rounds : Nat) : Prop where
  value : ∀ (t : Text) (depth : Nat), 0 ∉ t → 3 * t.length < rounds →
    (parse_value rounds ⟨.within t, depth⟩).Sound
      (fun parser => ∃ v r, parser = ⟨.within r, depth⟩ ∧ Reads v t r ∧ r <:+ t ∧
        depth + v.nesting ≤ 64)
      (OpenValue BehindBackslash (64 - depth) t)
  array : ∀ (t : Text) (depth : Nat), depth ≤ 64 → 0 ∉ t → 3 * t.length + 3 ≤ rounds →
    (parse_array rounds ⟨.within (91 :: t), depth⟩).Sound
      (fun parser => ∃ items r, parser = ⟨.within r, depth⟩ ∧ Reads (.array items) (91 :: t) r ∧
        r <:+ t ∧ depth + nesting_items items ≤ 64)
      (OpenItems BehindBackslash (64 - depth) (skip t))
  items : ∀ (t : Text) (depth : Nat), depth ≤ 64 → 0 ∉ t → 3 * t.length + 2 ≤ rounds →
    (array_loop rounds ⟨.within t, depth⟩).Sound
      (fun parser => ∃ items r, parser = ⟨.within r, depth⟩ ∧ Items items t r ∧ r <:+ t ∧
        depth + nesting_items items ≤ 64)
      (OpenItems BehindBackslash (64 - depth) t)
  object : ∀ (t : Text) (depth : Nat), depth ≤ 64 → 0 ∉ t → 3 * t.length + 3 ≤ rounds →
    (parse_object rounds ⟨.within (123 :: t), depth⟩).Sound
      (fun parser => ∃ members r, parser = ⟨.within r, depth⟩ ∧
        Reads (.object members) (123 :: t) r ∧ r <:+ t ∧ depth + nesting_members members ≤ 64)
      (OpenMembers BehindBackslash (64 - depth) (skip t))
  members : ∀ (t : Text) (depth : Nat), depth ≤ 64 → 0 ∉ t → 3 * t.length + 2 ≤ rounds →
    (object_loop rounds ⟨.within t, depth⟩).Sound
      (fun parser => ∃ members r, parser = ⟨.within r, depth⟩ ∧ Members members t r ∧ r <:+ t ∧
        depth + nesting_members members ≤ 64)
      (OpenMembers BehindBackslash (64 - depth) t)

section sound
variable {rounds depth : Nat} {t r : Text}

theorem skip_suffix (t : Text) : skip t <:+ t := List.dropWhile_suffix _

/-- The byte under the cursor; a NUL at the end of the line. -/
theorem read_within (t : Text) : (Cursor.within t).read = .accepts (t.head?.getD 0) := by
  cases t with
  | nil => rfl
  | cons byte t => rfl

/-- A byte other than the NUL is the first of the line that is left. -/
theorem cons_of_head {byte : UInt8} (hzero : byte ≠ 0) (h : t.head?.getD 0 = byte) :
    ∃ rest, t = byte :: rest := by
  cases t with
  | nil => exact absurd h.symm hzero
  | cons first rest => exact ⟨rest, by rw [← show first = byte from h]⟩

theorem no_nul_of_suffix (hnul : 0 ∉ t) (h : r <:+ t) : 0 ∉ r := fun hmem => hnul (h.subset hmem)

theorem SoundAt.value_succ (h : SoundAt rounds) (t : Text) (depth : Nat) (hnul : 0 ∉ t)
    (hrounds : 3 * t.length < rounds + 1) :
    (parse_value (rounds + 1) ⟨.within t, depth⟩).Sound
      (fun parser => ∃ v r, parser = ⟨.within r, depth⟩ ∧ Reads v t r ∧ r <:+ t ∧
        depth + v.nesting ≤ 64)
      (OpenValue BehindBackslash (64 - depth) t) := by
  by_cases hdepth : depth < 64
  case neg =>
    rw [parse_value_deep (Nat.not_lt.mp hdepth)]
    trivial
  obtain ⟨levels, hlevels⟩ : ∃ levels, 64 - depth = levels + 1 := ⟨63 - depth, by omega⟩
  have hinner : 64 - (depth + 1) = levels := by omega
  rw [hlevels]
  by_cases hquote : t.head? = some 34
  · obtain ⟨t, rfl⟩ : ∃ rest, t = 34 :: rest := List.head?_eq_some_iff.mp hquote
    rw [List.length_cons] at hrounds
    rw [parse_value_string hdepth]
    refine (parse_string_sound (by simp only [List.length_cons]; omega) hnul).bind ?_ ?_
    · rintro ⟨t', heq, hopen⟩
      rw [← (List.cons.inj heq).2] at hopen
      exact .string hopen
    · rintro _ ⟨bytes, t', r, heq, rfl, hchars, hsuffix⟩
      obtain ⟨-, rfl⟩ := List.cons.inj heq
      exact ⟨.string bytes, r, rfl, .string hchars, hsuffix.trans (List.suffix_cons 34 t),
        show depth + 1 ≤ 64 by omega⟩
  by_cases hbrace : t.head? = some 123
  · obtain ⟨t, rfl⟩ : ∃ rest, t = 123 :: rest := List.head?_eq_some_iff.mp hbrace
    rw [List.length_cons] at hrounds
    have hobject := h.object t (depth + 1) (by omega)
      (no_nul_of_suffix hnul (List.suffix_cons 123 t)) (by omega)
    rw [hinner] at hobject
    rw [parse_value_object hdepth]
    refine hobject.bind .object ?_
    rintro _ ⟨members, r, rfl, hreads, hsuffix, hnesting⟩
    exact ⟨.object members, r, rfl, hreads, hsuffix.trans (List.suffix_cons 123 t),
      show depth + (nesting_members members + 1) ≤ 64 by omega⟩
  by_cases hbracket : t.head? = some 91
  · obtain ⟨t, rfl⟩ : ∃ rest, t = 91 :: rest := List.head?_eq_some_iff.mp hbracket
    rw [List.length_cons] at hrounds
    have harray := h.array t (depth + 1) (by omega)
      (no_nul_of_suffix hnul (List.suffix_cons 91 t)) (by omega)
    rw [hinner] at harray
    rw [parse_value_array hdepth]
    refine harray.bind .array ?_
    rintro _ ⟨items, r, rfl, hreads, hsuffix, hnesting⟩
    exact ⟨.array items, r, rfl, hreads, hsuffix.trans (List.suffix_cons 91 t),
      show depth + (nesting_items items + 1) ≤ 64 by omega⟩
  obtain ⟨word, v, r, hword, rfl, hstep⟩ | hstep :=
    parse_value_other rounds hdepth hquote hbrace hbracket
  · rw [hstep]
    have hreads : Reads v (word ++ r) r ∧ v.nesting = 1 := by
      obtain ⟨rfl, rfl⟩ | ⟨rfl, rfl⟩ | ⟨rfl, rfl⟩ := hword
      · exact ⟨.true, rfl⟩
      · exact ⟨.false, rfl⟩
      · exact ⟨.null, rfl⟩
    exact ⟨v, r, rfl, hreads.1, List.suffix_append word r, by omega⟩
  · rw [hstep]
    refine (parse_number_sound t (depth + 1)).bind False.elim ?_
    rintro _ ⟨numeral, r, rfl, hnumber, rfl⟩
    exact ⟨.number numeral, r, rfl, .number hnumber, List.suffix_append numeral r,
      show depth + 1 ≤ 64 by omega⟩

theorem SoundAt.array_succ (h : SoundAt rounds) (t : Text) (depth : Nat) (hdepth : depth ≤ 64)
    (hnul : 0 ∉ t) (hrounds : 3 * t.length + 3 ≤ rounds + 1) :
    (parse_array (rounds + 1) ⟨.within (91 :: t), depth⟩).Sound
      (fun parser => ∃ items r, parser = ⟨.within r, depth⟩ ∧ Reads (.array items) (91 :: t) r ∧
        r <:+ t ∧ depth + nesting_items items ≤ 64)
      (OpenItems BehindBackslash (64 - depth) (skip t)) := by
  have hskip := skip_suffix t
  have hlength := skip_length_le (t := t)
  rw [parse_array]
  simp only [parser_next_cons, skip_space_within, accepts_bind, read_within]
  split
  · next hclose =>
    obtain ⟨r, hr⟩ := cons_of_head (by decide) hclose
    rw [hr]
    refine ⟨[], r, rfl, .empty_array hr, ?_, hdepth⟩
    exact (List.suffix_cons 93 r).trans (hr ▸ hskip)
  · refine (h.items (skip t) depth hdepth (no_nul_of_suffix hnul hskip) (by omega)).mono ?_ id
    rintro _ ⟨items, r, rfl, hitems, hsuffix, hnesting⟩
    exact ⟨items, r, rfl, .array hitems, hsuffix.trans hskip, hnesting⟩

theorem SoundAt.items_succ (h : SoundAt rounds) (t : Text) (depth : Nat) (hdepth : depth ≤ 64)
    (hnul : 0 ∉ t) (hrounds : 3 * t.length + 2 ≤ rounds + 1) :
    (array_loop (rounds + 1) ⟨.within t, depth⟩).Sound
      (fun parser => ∃ items r, parser = ⟨.within r, depth⟩ ∧ Items items t r ∧ r <:+ t ∧
        depth + nesting_items items ≤ 64)
      (OpenItems BehindBackslash (64 - depth) t) := by
  rw [array_loop]
  refine (h.value t depth hnul (by omega)).bind .here ?_
  rintro _ ⟨v, t', rfl, hv, hsuffix, hnesting⟩
  have hskip := (skip_suffix t').trans hsuffix
  have hshorter := hv.length_lt
  simp only [skip_space_within, accepts_bind, read_within]
  split
  · next hclose =>
    obtain ⟨r, hr⟩ := cons_of_head (by decide) hclose
    rw [hr]
    refine ⟨[v], r, rfl, .last hv hr, (List.suffix_cons 93 r).trans (hr ▸ hskip), ?_⟩
    simpa [nesting_items] using hnesting
  · split
    · trivial
    · next hcomma =>
      obtain ⟨t'', ht''⟩ := cons_of_head (by decide) (not_not.mp hcomma)
      have hlength := length_of_skip ht''
      have hlength' := skip_length_le (t := t'')
      have hsuffix'' : skip t'' <:+ t :=
        (skip_suffix t'').trans ((List.suffix_cons 44 t'').trans (ht'' ▸ hskip))
      simp only [ht'', parser_next_cons, skip_space_within, accepts_bind]
      refine (h.items (skip t'') depth hdepth (no_nul_of_suffix hnul hsuffix'') (by omega)).mono
        ?_ ?_
      · rintro _ ⟨items, r, rfl, hitems, hsuffix', hnesting'⟩
        refine ⟨v :: items, r, rfl, .more hv ht'' hitems, hsuffix'.trans hsuffix'', ?_⟩
        rw [nesting_items]
        omega
      · exact .later hv (by omega) ht''

theorem SoundAt.object_succ (h : SoundAt rounds) (t : Text) (depth : Nat) (hdepth : depth ≤ 64)
    (hnul : 0 ∉ t) (hrounds : 3 * t.length + 3 ≤ rounds + 1) :
    (parse_object (rounds + 1) ⟨.within (123 :: t), depth⟩).Sound
      (fun parser => ∃ members r, parser = ⟨.within r, depth⟩ ∧
        Reads (.object members) (123 :: t) r ∧ r <:+ t ∧ depth + nesting_members members ≤ 64)
      (OpenMembers BehindBackslash (64 - depth) (skip t)) := by
  have hskip := skip_suffix t
  have hlength := skip_length_le (t := t)
  rw [parse_object]
  simp only [parser_next_cons, skip_space_within, accepts_bind, read_within]
  split
  · next hclose =>
    obtain ⟨r, hr⟩ := cons_of_head (by decide) hclose
    rw [hr]
    refine ⟨[], r, rfl, .empty_object hr, ?_, hdepth⟩
    exact (List.suffix_cons 125 r).trans (hr ▸ hskip)
  · refine (h.members (skip t) depth hdepth (no_nul_of_suffix hnul hskip) (by omega)).mono ?_ id
    rintro _ ⟨members, r, rfl, hmembers, hsuffix, hnesting⟩
    exact ⟨members, r, rfl, .object hmembers, hsuffix.trans hskip, hnesting⟩

theorem SoundAt.members_succ (h : SoundAt rounds) (t : Text) (depth : Nat) (hdepth : depth ≤ 64)
    (hnul : 0 ∉ t) (hrounds : 3 * t.length + 2 ≤ rounds + 1) :
    (object_loop (rounds + 1) ⟨.within t, depth⟩).Sound
      (fun parser => ∃ members r, parser = ⟨.within r, depth⟩ ∧ Members members t r ∧ r <:+ t ∧
        depth + nesting_members members ≤ 64)
      (OpenMembers BehindBackslash (64 - depth) t) := by
  rw [object_loop]
  refine (parse_string_sound (by omega) hnul).bind ?_ ?_
  · rintro ⟨inside, rfl, hopen⟩
    exact .key hopen
  rintro _ ⟨key, inside, t₁, rfl, rfl, hkey, hsuffix⟩
  have hinside : inside <:+ 34 :: inside := List.suffix_cons 34 inside
  have hshorter := hkey.length_lt
  rw [List.length_cons] at hrounds
  simp only [skip_space_within, accepts_bind, read_within]
  split
  · trivial
  · next hcolon =>
    obtain ⟨t₂, ht₂⟩ := cons_of_head (by decide) (not_not.mp hcolon)
    have hlength₂ := length_of_skip ht₂
    have hskipped₂ := skip_length_le (t := t₂)
    have hsuffix₂ : skip t₂ <:+ inside := (skip_suffix t₂).trans ((List.suffix_cons 58 t₂).trans
      (ht₂ ▸ (skip_suffix t₁).trans hsuffix))
    simp only [ht₂, parser_next_cons, skip_space_within, accepts_bind]
    refine (h.value (skip t₂) depth (no_nul_of_suffix hnul (hsuffix₂.trans hinside))
      (by omega)).bind (.here hkey ht₂) ?_
    rintro _ ⟨v, t₃, rfl, hv, hsuffix₃, hnesting⟩
    have hshorter₃ := hv.length_lt
    have hskip₃ := ((skip_suffix t₃).trans hsuffix₃).trans (hsuffix₂.trans hinside)
    simp only [skip_space_within, accepts_bind, read_within]
    split
    · next hclose =>
      obtain ⟨r, hr⟩ := cons_of_head (by decide) hclose
      rw [hr]
      refine ⟨[(key, v)], r, rfl, .last hkey ht₂ hv hr,
        (List.suffix_cons 125 r).trans (hr ▸ hskip₃), ?_⟩
      simpa [nesting_members] using hnesting
    · split
      · trivial
      · next hcomma =>
        obtain ⟨t₄, ht₄⟩ := cons_of_head (by decide) (not_not.mp hcomma)
        have hlength₄ := length_of_skip ht₄
        have hskipped₄ := skip_length_le (t := t₄)
        have hsuffix₄ : skip t₄ <:+ 34 :: inside :=
          (skip_suffix t₄).trans ((List.suffix_cons 44 t₄).trans (ht₄ ▸ hskip₃))
        simp only [ht₄, parser_next_cons, skip_space_within, accepts_bind]
        refine (h.members (skip t₄) depth hdepth (no_nul_of_suffix hnul hsuffix₄) (by omega)).mono
          ?_ ?_
        · rintro _ ⟨members, r, rfl, hmembers, hsuffix', hnesting'⟩
          refine ⟨(key, v) :: members, r, rfl, .more hkey ht₂ hv ht₄ hmembers,
            hsuffix'.trans hsuffix₄, ?_⟩
          rw [nesting_members]
          omega
        · exact .later hkey ht₂ hv (by omega) ht₄

theorem soundAt (rounds : Nat) : SoundAt rounds := by
  induction rounds with
  | zero =>
    constructor
    · intro t depth _ hrounds
      omega
    · intro t depth _ _ hrounds
      omega
    · intro t depth _ _ hrounds
      omega
    · intro t depth _ _ hrounds
      omega
    · intro t depth _ _ hrounds
      omega
  | succ rounds ih =>
    exact ⟨ih.value_succ, ih.array_succ, ih.items_succ, ih.object_succ, ih.members_succ⟩

end sound

/-! ### What the checker has to accept -/

section complete
variable {v : Value} {t r : Text} {rounds depth : Nat}

/-- A text of the grammar does not begin with a closing byte. -/
theorem head_ne_of_own (h : ∃ first rest, t = first :: rest ∧ ¬Between first) {byte : UInt8}
    (hbyte : Between byte) : t.head?.getD 0 ≠ byte := by
  obtain ⟨first, rest, rfl, hfirst⟩ := h
  rintro rfl
  exact hfirst hbyte

theorem exists_rounds {n : Nat} (h : n < rounds) : ∃ left, rounds = left + 1 :=
  Nat.exists_eq_succ_of_ne_zero (Nat.ne_zero_of_lt h)

theorem parse_value_number (hdepth : depth < 64) (hr : Delimited r) {numeral : Text}
    (h : is_number numeral = true) :
    parse_value (rounds + 1) ⟨.within (numeral ++ r), depth⟩ = .accepts ⟨.within r, depth⟩ := by
  obtain ⟨-, first, rest, heq, hfirst⟩ := is_number_bytes h
  have hsmall : first.toNat < 58 := by
    obtain hdigit | rfl := hfirst
    · have := is_digit_bounds hdigit
      omega
    · decide
  have hlarge : first ≠ 34 := by
    rintro rfl
    obtain hdigit | hsign := hfirst
    · exact absurd hdigit (by decide)
    · exact absurd hsign (by decide)
  have hhead : (numeral ++ r).head? = some first := by
    rw [heq]
    rfl
  have hother : ∀ byte : UInt8, 58 ≤ byte.toNat → (numeral ++ r).head? ≠ some byte := by
    intro byte hbyte hsame
    rw [hhead] at hsame
    obtain rfl := Option.some.inj hsame
    omega
  obtain ⟨word, v, r', hword, hsame, -⟩ | hstep :=
    parse_value_other rounds hdepth
      (fun hquote => hlarge (Option.some.inj (hhead.symm.trans hquote))) (hother 123 (by decide))
      (hother 91 (by decide))
  · -- No word begins like a number.
    exfalso
    obtain ⟨rfl, -⟩ | ⟨rfl, -⟩ | ⟨rfl, -⟩ := hword
    · exact hother 116 (by decide) (by rw [hsame]; rfl)
    · exact hother 102 (by decide) (by rw [hsame]; rfl)
    · exact hother 110 (by decide) (by rw [hsame]; rfl)
  · rw [hstep, parse_number_of_number hr h]
    rfl

theorem parse_array_empty (hskip : skip t = 93 :: r) :
    parse_array (rounds + 1) ⟨.within (91 :: t), depth⟩ = .accepts ⟨.within r, depth⟩ := by
  rw [parse_array]
  simp [hskip]

theorem parse_array_loop (h : ∃ first rest, skip t = first :: rest ∧ ¬Between first) :
    parse_array (rounds + 1) ⟨.within (91 :: t), depth⟩ =
      array_loop rounds ⟨.within (skip t), depth⟩ := by
  have hhead := head_ne_of_own h (Or.inr (Or.inl rfl))
  rw [parse_array]
  simp only [parser_next_cons, skip_space_within, accepts_bind, read_within, hhead, if_false]

theorem parse_object_empty (hskip : skip t = 125 :: r) :
    parse_object (rounds + 1) ⟨.within (123 :: t), depth⟩ = .accepts ⟨.within r, depth⟩ := by
  rw [parse_object]
  simp [hskip]

theorem parse_object_loop (h : ∃ first rest, skip t = first :: rest ∧ ¬Between first) :
    parse_object (rounds + 1) ⟨.within (123 :: t), depth⟩ =
      object_loop rounds ⟨.within (skip t), depth⟩ := by
  have hhead := head_ne_of_own h (Or.inr (Or.inr rfl))
  rw [parse_object]
  simp only [parser_next_cons, skip_space_within, accepts_bind, read_within, hhead, if_false]

/-- The last item of an array. -/
theorem array_loop_close {t' : Text}
    (hv : parse_value rounds ⟨.within t, depth⟩ = .accepts ⟨.within t', depth⟩)
    (hclose : skip t' = 93 :: r) :
    array_loop (rounds + 1) ⟨.within t, depth⟩ = .accepts ⟨.within r, depth⟩ := by
  rw [array_loop, hv]
  simp [hclose]

/-- An item and a comma in front of the others. -/
theorem array_loop_comma {t' t'' : Text}
    (hv : parse_value rounds ⟨.within t, depth⟩ = .accepts ⟨.within t', depth⟩)
    (hcomma : skip t' = 44 :: t'') :
    array_loop (rounds + 1) ⟨.within t, depth⟩ =
      array_loop rounds ⟨.within (skip t''), depth⟩ := by
  rw [array_loop, hv]
  simp [hcomma]

section members
variable {key t₁ t₂ t₃ t₄ : Text}

/-- The last member of an object. -/
theorem object_loop_close (hkey : Chars key t t₁) (hrounds : t.length < rounds)
    (hcolon : skip t₁ = 58 :: t₂)
    (hv : parse_value rounds ⟨.within (skip t₂), depth⟩ = .accepts ⟨.within t₃, depth⟩)
    (hclose : skip t₃ = 125 :: r) :
    object_loop (rounds + 1) ⟨.within (34 :: t), depth⟩ = .accepts ⟨.within r, depth⟩ := by
  rw [object_loop, parse_string_of_chars hkey hrounds]
  simp [hcolon, hv, hclose]

/-- A member and a comma in front of the others. -/
theorem object_loop_comma (hkey : Chars key t t₁) (hrounds : t.length < rounds)
    (hcolon : skip t₁ = 58 :: t₂)
    (hv : parse_value rounds ⟨.within (skip t₂), depth⟩ = .accepts ⟨.within t₃, depth⟩)
    (hcomma : skip t₃ = 44 :: t₄) :
    object_loop (rounds + 1) ⟨.within (34 :: t), depth⟩ =
      object_loop rounds ⟨.within (skip t₄), depth⟩ := by
  rw [object_loop, parse_string_of_chars hkey hrounds]
  simp [hcolon, hv, hcomma]

/-- A member whose value leads behind the line. -/
theorem object_loop_overreads (hkey : Chars key t t₁) (hrounds : t.length < rounds)
    (hcolon : skip t₁ = 58 :: t₂)
    (hv : parse_value rounds ⟨.within (skip t₂), depth⟩ = .overreads) :
    object_loop (rounds + 1) ⟨.within (34 :: t), depth⟩ = .overreads := by
  rw [object_loop, parse_string_of_chars hkey hrounds]
  simp [hcolon, hv]

end members

end complete

-- A value takes a round for itself, a list one more for each of its entries.
mutual

theorem parse_value_of_reads {v : Value} {t r : Text} (rounds depth : Nat)
    (hrounds : 3 * t.length < rounds) (hdepth : depth + v.nesting ≤ 64) (hr : Delimited r) :
    Reads v t r → parse_value rounds ⟨.within t, depth⟩ = .accepts ⟨.within r, depth⟩
  | .null => by
    obtain ⟨rounds, rfl⟩ := exists_rounds hrounds
    exact parse_value_null hdepth
  | .true => by
    obtain ⟨rounds, rfl⟩ := exists_rounds hrounds
    exact parse_value_true hdepth
  | .false => by
    obtain ⟨rounds, rfl⟩ := exists_rounds hrounds
    exact parse_value_false hdepth
  | .number hnumber => by
    obtain ⟨rounds, rfl⟩ := exists_rounds hrounds
    exact parse_value_number hdepth hr hnumber
  | .string hchars => by
    obtain ⟨rounds, rfl⟩ := exists_rounds hrounds
    rw [List.length_cons] at hrounds
    rw [parse_value_string hdepth, parse_string_of_chars hchars (by omega)]
    rfl
  | .empty_array hskip => by
    obtain ⟨rounds, rfl⟩ := exists_rounds hrounds
    rw [List.length_cons] at hrounds
    obtain ⟨rounds, rfl⟩ : ∃ left, rounds = left + 1 := ⟨rounds - 1, by omega⟩
    rw [parse_value_array hdepth, parse_array_empty hskip]
    rfl
  | @Reads.array items t _ hitems => by
    have hskip := skip_length_le (t := t)
    obtain ⟨rounds, rfl⟩ := exists_rounds hrounds
    rw [List.length_cons] at hrounds
    obtain ⟨rounds, rfl⟩ : ∃ left, rounds = left + 1 := ⟨rounds - 1, by omega⟩
    rw [Value.nesting] at hdepth
    rw [parse_value_array (by omega), parse_array_loop hitems.head,
      array_loop_of_items rounds (depth + 1) (by omega) (by omega) hitems]
    rfl
  | .empty_object hskip => by
    obtain ⟨rounds, rfl⟩ := exists_rounds hrounds
    rw [List.length_cons] at hrounds
    obtain ⟨rounds, rfl⟩ : ∃ left, rounds = left + 1 := ⟨rounds - 1, by omega⟩
    rw [parse_value_object hdepth, parse_object_empty hskip]
    rfl
  | @Reads.object members t _ hmembers => by
    have hskip := skip_length_le (t := t)
    obtain ⟨rounds, rfl⟩ := exists_rounds hrounds
    rw [List.length_cons] at hrounds
    obtain ⟨rounds, rfl⟩ : ∃ left, rounds = left + 1 := ⟨rounds - 1, by omega⟩
    rw [Value.nesting] at hdepth
    rw [parse_value_object (by omega), parse_object_loop hmembers.head,
      object_loop_of_members rounds (depth + 1) (by omega) (by omega) hmembers]
    rfl

theorem array_loop_of_items {vs : List Value} {t r : Text} (rounds depth : Nat)
    (hrounds : 3 * t.length + 1 < rounds) (hdepth : depth + nesting_items vs ≤ 64) :
    Items vs t r → array_loop rounds ⟨.within t, depth⟩ = .accepts ⟨.within r, depth⟩
  | .last hv hskip => by
    obtain ⟨rounds, rfl⟩ := exists_rounds hrounds
    rw [nesting_items] at hdepth
    exact array_loop_close (parse_value_of_reads rounds depth (by omega) (by omega)
      (delimited_of_skip hskip (by decide)) hv) hskip
  | @Items.more _ _ _ _ t'' _ hv hskip hitems => by
    have hshorter := hv.length_lt
    have hrest := length_of_skip hskip
    have hskipped := skip_length_le (t := t'')
    obtain ⟨rounds, rfl⟩ := exists_rounds hrounds
    rw [nesting_items] at hdepth
    rw [array_loop_comma (parse_value_of_reads rounds depth (by omega) (by omega)
      (delimited_of_skip hskip (by decide)) hv) hskip]
    exact array_loop_of_items rounds depth (by omega) (by omega) hitems

theorem object_loop_of_members {members : List (Text × Value)} {t r : Text} (rounds depth : Nat)
    (hrounds : 3 * t.length + 1 < rounds) (hdepth : depth + nesting_members members ≤ 64) :
    Members members t r → object_loop rounds ⟨.within t, depth⟩ = .accepts ⟨.within r, depth⟩
  | @Members.last _ _ _ _ t₂ _ _ hkey hcolon hv hskip => by
    have hshorter := hkey.length_lt
    have hrest := length_of_skip hcolon
    have hskipped := skip_length_le (t := t₂)
    obtain ⟨rounds, rfl⟩ := exists_rounds hrounds
    rw [List.length_cons] at hrounds
    rw [nesting_members] at hdepth
    exact object_loop_close hkey (by omega) hcolon (parse_value_of_reads rounds depth (by omega)
      (by omega) (delimited_of_skip hskip (by decide)) hv) hskip
  | @Members.more _ _ _ _ _ t₂ _ t₄ _ hkey hcolon hv hskip hmembers => by
    have hshorter := hkey.length_lt
    have hrest := length_of_skip hcolon
    have hskipped := skip_length_le (t := t₂)
    have hshorter' := hv.length_lt
    have hrest' := length_of_skip hskip
    have hskipped' := skip_length_le (t := t₄)
    obtain ⟨rounds, rfl⟩ := exists_rounds hrounds
    rw [List.length_cons] at hrounds
    rw [nesting_members] at hdepth
    rw [object_loop_comma hkey (by omega) hcolon (parse_value_of_reads rounds depth (by omega)
      (by omega) (delimited_of_skip hskip (by decide)) hv) hskip]
    exact object_loop_of_members rounds depth (by omega) (by omega) hmembers

end

/-! ### Where the checker reads behind the line -/

mutual

theorem parse_value_overreads {levels : Nat} {t : Text} (rounds depth : Nat)
    (hrounds : 3 * t.length < rounds) (hdepth : depth + levels ≤ 64) :
    OpenValue BehindBackslash levels t → parse_value rounds ⟨.within t, depth⟩ = .overreads
  | .string hopen => by
    obtain ⟨rounds, rfl⟩ := exists_rounds hrounds
    rw [List.length_cons] at hrounds
    rw [parse_value_string (by omega), parse_string_overreads hopen (by omega)]
    rfl
  | @OpenValue.array _ _ t hopen => by
    have hskip := skip_length_le (t := t)
    obtain ⟨rounds, rfl⟩ := exists_rounds hrounds
    rw [List.length_cons] at hrounds
    obtain ⟨rounds, rfl⟩ : ∃ left, rounds = left + 1 := ⟨rounds - 1, by omega⟩
    rw [parse_value_array (by omega), parse_array_loop hopen.head,
      array_loop_overreads rounds (depth + 1) (by omega) (by omega) hopen]
    rfl
  | @OpenValue.object _ _ t hopen => by
    have hskip := skip_length_le (t := t)
    obtain ⟨rounds, rfl⟩ := exists_rounds hrounds
    rw [List.length_cons] at hrounds
    obtain ⟨rounds, rfl⟩ : ∃ left, rounds = left + 1 := ⟨rounds - 1, by omega⟩
    rw [parse_value_object (by omega), parse_object_loop hopen.head,
      object_loop_overreads_of_open rounds (depth + 1) (by omega) (by omega) hopen]
    rfl

theorem array_loop_overreads {levels : Nat} {t : Text} (rounds depth : Nat)
    (hrounds : 3 * t.length + 1 < rounds) (hdepth : depth + levels ≤ 64) :
    OpenItems BehindBackslash levels t → array_loop rounds ⟨.within t, depth⟩ = .overreads
  | .here hopen => by
    obtain ⟨rounds, rfl⟩ := exists_rounds hrounds
    rw [array_loop, parse_value_overreads rounds depth (by omega) hdepth hopen]
    rfl
  | @OpenItems.later _ _ _ _ _ t'' hv hnesting hskip hopen => by
    have hshorter := hv.length_lt
    have hrest := length_of_skip hskip
    have hskipped := skip_length_le (t := t'')
    obtain ⟨rounds, rfl⟩ := exists_rounds hrounds
    rw [array_loop_comma (parse_value_of_reads rounds depth (by omega) (by omega)
      (delimited_of_skip hskip (by decide)) hv) hskip]
    exact array_loop_overreads rounds depth (by omega) hdepth hopen

theorem object_loop_overreads_of_open {levels : Nat} {t : Text} (rounds depth : Nat)
    (hrounds : 3 * t.length + 1 < rounds) (hdepth : depth + levels ≤ 64) :
    OpenMembers BehindBackslash levels t → object_loop rounds ⟨.within t, depth⟩ = .overreads
  | .key hopen => by
    obtain ⟨rounds, rfl⟩ := exists_rounds hrounds
    rw [List.length_cons] at hrounds
    rw [object_loop, parse_string_overreads hopen (by omega)]
    rfl
  | @OpenMembers.here _ _ _ _ _ t₂ hkey hcolon hopen => by
    have hshorter := hkey.length_lt
    have hrest := length_of_skip hcolon
    have hskipped := skip_length_le (t := t₂)
    obtain ⟨rounds, rfl⟩ := exists_rounds hrounds
    rw [List.length_cons] at hrounds
    exact object_loop_overreads hkey (by omega) hcolon
      (parse_value_overreads rounds depth (by omega) hdepth hopen)
  | @OpenMembers.later _ _ _ _ _ _ t₂ _ t₄ hkey hcolon hv hnesting hskip hopen => by
    have hshorter := hkey.length_lt
    have hrest := length_of_skip hcolon
    have hskipped := skip_length_le (t := t₂)
    have hshorter' := hv.length_lt
    have hrest' := length_of_skip hskip
    have hskipped' := skip_length_le (t := t₄)
    obtain ⟨rounds, rfl⟩ := exists_rounds hrounds
    rw [List.length_cons] at hrounds
    rw [object_loop_comma hkey (by omega) hcolon (parse_value_of_reads rounds depth (by omega)
      (by omega) (delimited_of_skip hskip (by decide)) hv) hskip]
    exact object_loop_overreads_of_open rounds depth (by omega) hdepth hopen

end

/-! ### Whole lines -/

/-- `valid_json_line` ends on the line without a look behind its terminating NUL, and returns
    `answer`. -/
def valid_json_line_returns (line : Text) (answer : Bool) : Prop :=
  ∃ enough, ∀ rounds ≥ enough,
    valid_json_line rounds line = if answer then .accepts () else .rejects

/-- The line without the newlines at its end, as `main` hands it on. -/
def strip_newlines (line : Text) : Text := line.rdropWhile fun byte => byte == 10 || byte == 13

section lines
variable {line : Text} {v : Value} {rounds : Nat}

/-- A value of the grammar is accepted. -/
theorem valid_json_line_of_document (h : Document v line) (hnesting : v.nesting ≤ 64)
    (hrounds : 3 * line.length < rounds) : valid_json_line rounds line = .accepts () := by
  obtain ⟨r, hreads, hskip⟩ := h
  have hlength := skip_length_le (t := line)
  have hvalue := parse_value_of_reads rounds 0 (by omega) (by omega) (delimited_of_blanks hskip)
    hreads
  simp [valid_json_line, hvalue, hskip]

/-- Nothing else is accepted, and the checker reads behind the line only where it is cut. -/
theorem valid_json_line_sound (hnul : 0 ∉ line) (hrounds : 3 * line.length < rounds) :
    (valid_json_line rounds line).Sound (fun _ => ∃ v, Document v line ∧ v.nesting ≤ 64)
      (OpenDocument BehindBackslash 64 line) := by
  have hlength := skip_length_le (t := line)
  have hnul' := no_nul_of_suffix hnul (skip_suffix line)
  rw [valid_json_line, skip_space_within, accepts_bind]
  refine ((soundAt rounds).value (skip line) 0 hnul' (by omega)).bind id ?_
  rintro _ ⟨v, r, rfl, hreads, hsuffix, hnesting⟩
  simp only [skip_space_within, accepts_bind, read_within]
  split
  · next hend =>
    refine ⟨v, ⟨r, hreads, ?_⟩, by omega⟩
    rcases htext : skip r with _ | ⟨byte, rest⟩
    · rfl
    · have hmem : byte ∈ skip r := htext ▸ List.mem_cons_self
      rw [htext] at hend
      rw [show byte = 0 from hend] at hmem
      exact absurd hmem (no_nul_of_suffix hnul' ((skip_suffix r).trans hsuffix))
  · trivial

theorem valid_json_line_overreads (h : OpenDocument BehindBackslash 64 line)
    (hrounds : 3 * line.length < rounds) : valid_json_line rounds line = .overreads := by
  have hlength := skip_length_le (t := line)
  rw [valid_json_line, skip_space_within, accepts_bind,
    parse_value_overreads rounds 0 (by omega) (by omega) h]
  rfl

/-- Where the line is not cut behind a backslash, the checker tells whether it is a document. -/
theorem valid_json_line_decides (hnul : 0 ∉ line) (h : ¬OpenDocument BehindBackslash 64 line) :
    ∃ answer, valid_json_line_returns line answer ∧
      (answer = true ↔ ∃ v, Document v line ∧ v.nesting ≤ 64) := by
  by_cases hdocument : ∃ v, Document v line ∧ v.nesting ≤ 64
  · obtain ⟨v, hv, hnesting⟩ := hdocument
    refine ⟨true, ⟨3 * line.length + 1, fun rounds hrounds => ?_⟩, by simpa using ⟨v, hv, hnesting⟩⟩
    exact valid_json_line_of_document hv hnesting hrounds
  · refine ⟨false, ⟨3 * line.length + 1, fun rounds hrounds => ?_⟩, by simpa using hdocument⟩
    have hsound := valid_json_line_sound hnul hrounds
    cases hverdict : valid_json_line rounds line with
    | accepts _ =>
      rw [hverdict] at hsound
      exact absurd hsound hdocument
    | rejects => rfl
    | overreads =>
      rw [hverdict] at hsound
      exact absurd hsound h
    | unfinished =>
      rw [hverdict] at hsound
      exact hsound.elim

/-- A line that is written is accepted. -/
theorem valid_json_line_compact (hproper : v.Proper) (hnesting : v.nesting ≤ 64) :
    valid_json_line_returns (strip_newlines (v.compact ++ [10])) true := by
  have hstrip : strip_newlines (v.compact ++ [10]) = v.compact := by
    unfold strip_newlines
    rw [List.rdropWhile_concat_pos _ _ _ (by decide), List.rdropWhile_eq_self_iff]
    intro hne hnewline
    have hclear := v.clear_compact hproper _ (List.getLast_mem hne)
    simp only [Bool.or_eq_true, beq_iff_eq] at hnewline
    obtain hlast | hlast := hnewline
    · rw [hlast] at hclear
      exact absurd hclear (by decide)
    · rw [hlast] at hclear
      exact absurd hclear (by decide)
  have hdocument := document_compact hproper [] rfl
  rw [List.append_nil] at hdocument
  rw [hstrip]
  exact ⟨3 * v.compact.length + 1,
    fun rounds hrounds => valid_json_line_of_document hdocument hnesting hrounds⟩

end lines

/-! ### The lines that are written -/

section written
variable {libc : Libc}

theorem nesting_header (type : Text) (event : Option Event) :
    nesting_members (header_members type event) ≤ 1 := by
  rcases event with _ | event
  · exact le_refl 1
  · exact le_refl 1

theorem nesting_name (name : Option Text) : (name_value name).nesting = 1 := by
  rcases name with _ | name
  · rfl
  · rfl

theorem nesting_append {members more : List (Text × Value)} {n : Nat}
    (h : nesting_members members ≤ n) (h' : nesting_members more ≤ n) :
    (Value.object (members ++ more)).nesting ≤ n + 1 := by
  rw [nesting_members_le] at h h'
  rw [Value.nesting, Nat.add_le_add_iff_right, nesting_members_le]
  intro member hmember
  obtain hmem | hmem := List.mem_append.mp hmember
  · exact h member hmem
  · exact h' member hmem

theorem nesting_error (error_number : Int) : (error_value libc error_number).nesting ≤ 2 := by
  unfold error_value
  split
  · exact Nat.le_succ 1
  · simp [Value.nesting, nesting_members, nesting_name]

theorem nesting_call (call : SyscallEvent) (text : Text) :
    nesting_members (call_members libc call text) ≤ 2 := by
  have hitems : nesting_items ((List.range call.argument_count).map (argument_value call)) ≤ 1 := by
    rw [nesting_items_le]
    intro v hv
    obtain ⟨index, _, rfl⟩ := List.mem_map.mp hv
    exact le_refl 1
  have herror : (error_value libc call.error_number).nesting ≤ 2 := nesting_error _
  simp only [call_members, nesting_members, Value.nesting]
  omega

theorem nesting_event (event : Event) (text : Text) :
    (event_value libc event text).nesting ≤ 64 := by
  have hheader : ∀ type, nesting_members (header_members type (some event)) ≤ 63 :=
    fun type => (nesting_header type _).trans (by decide)
  unfold event_value
  split
  · exact nesting_append (hheader _) ((nesting_call _ text).trans (by decide))
  · refine nesting_append (hheader _) ?_
    rw [nesting_members_le]
    intro member hmember
    simp only [signal_members, List.mem_cons, List.not_mem_nil, or_false] at hmember
    obtain rfl | rfl | rfl | rfl := hmember
    · exact (by decide : 1 ≤ 63)
    · show (name_value _).nesting ≤ 63
      rw [nesting_name]
      decide
    · exact (by decide : 1 ≤ 63)
    · show (if _ then Value.null else _).nesting ≤ 63
      split
      · exact (by decide : 1 ≤ 63)
      · exact (by decide : 1 ≤ 63)
  · exact nesting_append (hheader _) (show 1 ≤ 63 by decide)
  · exact nesting_append (hheader _) (show 1 ≤ 63 by decide)

theorem nesting_summary (percent : SyscallStat → Text) (stats : Stats) (rows : List SyscallStat) :
    (summary_value percent stats rows).nesting ≤ 64 := by
  have hrows : nesting_items (rows.map (row_value percent)) ≤ 2 := by
    rw [nesting_items_le]
    intro v hv
    obtain ⟨row, _, rfl⟩ := List.mem_map.mp hv
    exact le_refl 2
  simp only [summary_value, Value.nesting, nesting_members]
  omega

end written

/-- **When the checker is exact.**  It ends on a line without a look behind the terminating NUL,
    returns `true` if and only if the line is one JSON value, nested at most 64 deep, with
    blanks around it, and refuses what ends inside a string, if and only if the line does
    not end behind the backslash of an escape in such a value.  It accepts every structured
    line. -/
theorem valid_json_line_exact_iff (heap : Heap) {libc : Libc} (hlibc : libc.Abbreviations)
    (decoder : Decoder) {qsort : Qsort} (hqsort : qsort.Permutes) :
    (∀ line : Text, 0 ∉ line →
      ((∃ answer, valid_json_line_returns line answer ∧
          (answer = true ↔ ∃ v, Document v line ∧ v.nesting ≤ 64) ∧
          ∀ n, OpenDocument InsideString n line → answer = false) ↔
        ¬OpenDocument BehindBackslash 64 line)) ∧
    (∀ event : Event, event.Typed →
      Holds (written_line heap (append_json_event heap libc decoder event)) .init
        (fun line _ => valid_json_line_returns (strip_newlines line) true) (fun _ _ => True)) ∧
    Holds (written_line heap (append_json_metadata heap)) .init
      (fun line _ => valid_json_line_returns (strip_newlines line) true) (fun _ _ => True) ∧
    ∀ (percent : SyscallStat → Text) (stats : Stats) (granted : Bool), stats.Typed →
      (∀ row ∈ stats.rows, Decimal (percent row)) →
      Holds (write_json_summary heap qsort percent stats granted) .init
        (fun line _ => valid_json_line_returns (strip_newlines line) true) (fun _ _ => True) := by
  refine ⟨?_, ?_, ?_, ?_⟩
  · intro line hnul
    constructor
    · rintro ⟨answer, ⟨enough, hreturns⟩, -, -⟩ hopen
      have hanswer := hreturns (enough + (3 * line.length + 1)) (Nat.le_add_right _ _)
      rw [valid_json_line_overreads hopen (by omega)] at hanswer
      cases answer with
      | true => simp at hanswer
      | false => simp at hanswer
    · intro hclosed
      obtain ⟨answer, hreturns, hdocument⟩ := valid_json_line_decides hnul hclosed
      refine ⟨answer, hreturns, hdocument, ?_⟩
      intro n hopen
      rw [← Bool.not_eq_true, hdocument]
      rintro ⟨v, hv, -⟩
      exact hopen.not_document v hv
  · intro event hevent
    refine (event_line_spec hlibc hevent).mono ?_ (fun _ _ _ => trivial)
    rintro line _ ⟨text, -, rfl⟩
    exact valid_json_line_compact (proper_event event text) (nesting_event event text)
  · have hadds : Adds heap (append_json_metadata heap) metadata_value.compact :=
      append_json_metadata_adds
    apply (written_line_spec (P := (· = metadata_value.compact)) (hadds.holds .init rfl)).mono
    · rintro line _ ⟨_, rfl, rfl⟩
      exact valid_json_line_compact proper_metadata (show 2 ≤ 64 by decide)
    · exact fun _ _ _ => trivial
  · intro percent stats granted hstats hpercent
    refine (summary_line_spec hqsort hstats hpercent granted).mono ?_ (fun _ _ _ => trivial)
    rintro line _ ⟨rows, -, rfl⟩
    exact valid_json_line_compact (proper_summary percent stats rows)
      (nesting_summary percent stats rows)

theorem valid_json_line_exact_iff_braces :
    (∃ answer, valid_json_line_returns [123, 125] answer ∧
      (answer = true ↔ ∃ v, Document v [123, 125] ∧ v.nesting ≤ 64)) ∧
    Holds (written_line ample_heap (append_json_metadata ample_heap)) .init
      (fun line _ => valid_json_line_returns (strip_newlines line) true) (fun _ _ => True) := by
  have hclosed : ¬OpenDocument BehindBackslash 64 [123, 125] := by
    intro hopen
    cases (show OpenValue BehindBackslash 64 [123, 125] from hopen) with
    | object hmembers =>
      obtain ⟨byte, rest, heq, hbyte⟩ := hmembers.head
      exact hbyte (Or.inr (Or.inr (List.cons.inj heq).1.symm))
  obtain ⟨hlines, -, hmetadata, -⟩ := valid_json_line_exact_iff ample_heap bare_libc_abbreviations
    ⟨32, none⟩ qsort_merge_permutes
  obtain ⟨answer, hreturns, hdocument, -⟩ := (hlines [123, 125] (by decide)).mpr hclosed
  exact ⟨⟨answer, hreturns, hdocument⟩, hmetadata⟩

/-- A quote and a backslash: the checker takes the terminating NUL for the letter of an escape
    and reads on behind it. -/
theorem valid_json_line_quote_backslash :
    (∀ rounds > 6, valid_json_line rounds [34, 92] = .overreads) ∧
    ¬∃ answer, valid_json_line_returns [34, 92] answer := by
  have hoverreads : ∀ rounds > 6, valid_json_line rounds [34, 92] = .overreads := by
    intro rounds hrounds
    have hopen : OpenDocument BehindBackslash 64 [34, 92] := .string (.tail rfl)
    exact valid_json_line_overreads hopen hrounds
  refine ⟨hoverreads, ?_⟩
  rintro ⟨answer, enough, hreturns⟩
  have hanswer := hreturns (enough + 7) (Nat.le_add_right _ _)
  rw [hoverreads _ (by omega)] at hanswer
  cases answer with
  | true => simp at hanswer
  | false => simp at hanswer

end Sysgaze
