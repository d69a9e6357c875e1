import Sysgaze.JsonLines
import Sysgaze.Lib.Escapes
import Sysgaze.Strings

/-! # Escapes can be undone

    Bytes of a tracee go through `append_escaped`, and the text through `append_json_string`
    when it goes into a JSON line.  Both can be read back, so that no two buffers look alike,
    neither in a text line nor in a JSON line (`escapers_undone`).
-/

open Fallible Numerals

namespace Sysgaze

/-- The spelling of a byte, in front of the inside of a string. -/
theorem inside_escaped_byte (byte : UInt8) {d t r : Text} (h : Escapes.Inside d t r) :
    Escapes.Inside (byte :: d) (escaped_byte byte ++ t) r := by
  have hletter : ∀ (letter : UInt8) {text : Text}, text = [92, letter] →
      Escapes.letter_escape letter = some byte → Escapes.Inside (byte :: d) (text ++ t) r := by
    rintro letter _ rfl hletter
    exact Escapes.Inside.letter hletter h
  unfold escaped_byte
  split
  · rename_i hbyte
    subst hbyte
    exact hletter 92 (by decide) (by decide)
  rename_i hslash
  split
  · rename_i hbyte
    subst hbyte
    exact hletter 34 (by decide) (by decide)
  rename_i hquote
  split
  · rename_i hbyte
    subst hbyte
    exact hletter 110 (by decide) (by decide)
  split
  · rename_i hbyte
    subst hbyte
    exact hletter 114 (by decide) (by decide)
  split
  · rename_i hbyte
    subst hbyte
    exact hletter 116 (by decide) (by decide)
  split
  · rename_i hbyte
    subst hbyte
    exact hletter 48 (by decide) (by decide)
  split
  · rename_i hprint
    simp only [isprint, Bool.and_eq_true, decide_eq_true_eq] at hprint
    exact Escapes.Inside.plain hprint.1 hprint.2 hquote hslash h
  · have hescape : cstr "\\x" = [92, 120] := by decide
    rw [hescape]
    exact Escapes.Inside.hex (Escapes.hex_byte_digits byte) h

theorem inside_escaped (d r : Text) :
    Escapes.Inside d (d.flatMap escaped_byte ++ 34 :: r) r := by
  induction d with
  | nil => exact Escapes.Inside.done
  | cons byte d ih =>
    rw [List.flatMap_cons, List.append_assoc]
    exact inside_escaped_byte byte ih

/-- **The text of bytes is a quoted string** that stands for them, whatever comes behind. -/
theorem quoted_escaped (d r : Text) : Escapes.Quoted d (escaped d ++ r) r := by
  have hquote : cstr "\"" = [34] := by decide
  refine ⟨d.flatMap escaped_byte ++ 34 :: r, ?_, inside_escaped d r⟩
  unfold escaped
  rw [hquote, List.append_assoc, List.append_assoc]
  rfl

/-! ### Texts that can be read back -/

/-- The text of the bytes that are shown, with a mark when there are more. -/
def shown_bytes (data : Text) (truncated : Bool) : Text :=
  escaped data ++ cond truncated (cstr "...") []

/-- Nothing that is not printable is in the text of bytes. -/
theorem escaped_printable (data : Text) : (escaped data).all isprint = true := by
  obtain ⟨inside, htext, h⟩ := quoted_escaped data []
  obtain ⟨s, hinside, hs⟩ := h.printable
  rw [List.append_nil] at htext hinside
  rw [htext, hinside, List.all_cons, Bool.and_eq_true, List.all_eq_true]
  refine ⟨by decide, fun byte hbyte => ?_⟩
  obtain ⟨hlow, hhigh⟩ := hs byte hbyte
  simp only [isprint, Bool.and_eq_true, decide_eq_true_eq]
  exact ⟨hlow, hhigh⟩

theorem shown_bytes_printable (data : Text) (truncated : Bool) :
    (shown_bytes data truncated).all isprint = true := by
  have hmark : (cond truncated (cstr "...") []).all isprint = true := by
    cases truncated <;> decide
  unfold shown_bytes
  rw [List.all_append, escaped_printable, hmark]
  rfl

/-- What is shown tells the bytes, and whether there are more. -/
theorem shown_bytes_injective {data data' : Text} {truncated truncated' : Bool}
    (h : shown_bytes data truncated = shown_bytes data' truncated') :
    data = data' ∧ truncated = truncated' := by
  have hquoted := quoted_escaped data' (cond truncated' (cstr "...") [])
  unfold shown_bytes at h
  rw [← h] at hquoted
  obtain ⟨hdata, hmark⟩ := (quoted_escaped data (cond truncated (cstr "...") [])).unique hquoted
  refine ⟨hdata, ?_⟩
  cases truncated <;> cases truncated' <;> first | rfl | exact absurd hmark (by decide)

/-- **A JSON string** is read back as the bytes that have been written. -/
theorem parse_compact_string (s : Text) :
    Json.parse (Json.compact_string s) = some (.string s) := by
  apply Json.parse_of_document
  exact ⟨[], Json.Reads.string (Json.chars_compact s []), rfl⟩

theorem compact_string_injective {s s' : Text}
    (h : Json.compact_string s = Json.compact_string s') : s = s' := by
  have hsame := (parse_compact_string s).symm.trans ((congrArg Json.parse h).trans
    (parse_compact_string s'))
  injection Option.some.inj hsame

/-- **Both escapers can be undone.**  The text of any bytes is a quoted string, printable,
    that is read back as these bytes; a JSON string is one without control bytes, and is read
    back too.  So what is shown tells the bytes, in a text line and in a JSON line. -/
theorem escapers_undone (heap : Heap) :
    (∀ data : Text, Adds heap (append_escaped heap data) (escaped data) ∧
      Escapes.parse (escaped data) = some (data, []) ∧ (escaped data).all isprint = true) ∧
    (∀ s : Text, Adds heap (append_json_string heap s) (Json.compact_string s) ∧
      Json.parse (Json.compact_string s) = some (.string s) ∧
      ∀ byte ∈ Json.compact_string s, 32 ≤ byte) ∧
    ∀ (data data' : Text) (truncated truncated' : Bool),
      (shown_bytes data truncated = shown_bytes data' truncated' ↔
        data = data' ∧ truncated = truncated') ∧
      (Json.compact_string (c_string (shown_bytes data truncated)) =
          Json.compact_string (c_string (shown_bytes data' truncated')) ↔
        data = data' ∧ truncated = truncated') := by
  refine ⟨fun data => ⟨append_escaped_adds data, ?_, escaped_printable data⟩,
    fun s => ⟨append_json_string_adds s, parse_compact_string s, Json.clear_string s⟩, ?_⟩
  · have hquoted := quoted_escaped data []
    rw [List.append_nil] at hquoted
    exact Escapes.parse_of_quoted hquoted
  · intro data data' truncated truncated'
    refine ⟨⟨shown_bytes_injective, ?_⟩, ?_, ?_⟩
    · rintro ⟨rfl, rfl⟩
      rfl
    · intro h
      have htext := compact_string_injective h
      rw [c_string_of_printable (shown_bytes_printable _ _),
        c_string_of_printable (shown_bytes_printable _ _)] at htext
      exact shown_bytes_injective htext
    · rintro ⟨rfl, rfl⟩
      rfl

end Sysgaze
