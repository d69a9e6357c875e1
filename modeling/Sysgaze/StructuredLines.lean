import Sysgaze.Aggregation
import Sysgaze.JsonLines

/-! # Lines that are read back

    A line of structured output is one object of the JSON grammar and a
    newline.  A reader of the grammar finds in the line of a call what the
    event holds (`structured_lines`).
-/

open Fallible Numerals Json

namespace Sysgaze

/-! ### The values are proper -/

section proper
variable {libc : Libc}

theorem proper_number (n : Int) : (Value.number (signed n)).Proper := is_number_signed n

theorem proper_header (type : Text) (event : Option Event) :
    ProperMembers (header_members type event) := by
  unfold header_members
  rcases event with _ | event
  · exact ⟨trivial, trivial, trivial⟩
  · exact ⟨trivial, trivial, proper_number _, proper_number _, trivial, trivial⟩

theorem proper_name (name : Option Text) : (name_value name).Proper := by
  rcases name with _ | name
  · exact trivial
  · exact trivial

theorem proper_error (error_number : Int) : (error_value libc error_number).Proper := by
  unfold error_value
  split
  · exact trivial
  · exact ⟨proper_number _, proper_name _, trivial⟩

theorem proper_append {members more : List (Text × Value)} (h : ProperMembers members)
    (h' : ProperMembers more) : (Value.object (members ++ more)).Proper := by
  show ProperMembers (members ++ more)
  rw [properMembers_iff] at h h' ⊢
  intro member hmember
  obtain hmem | hmem := List.mem_append.mp hmember
  · exact h member hmem
  · exact h' member hmem

theorem proper_arguments (call : SyscallEvent) (count : Nat) :
    ProperItems ((List.range count).map (argument_value call)) := by
  rw [properItems_iff]
  intro v hv
  obtain ⟨index, _, rfl⟩ := List.mem_map.mp hv
  exact trivial

theorem proper_call (call : SyscallEvent) (text : Text) :
    ProperMembers (call_members libc call text) :=
  ⟨trivial, trivial, proper_arguments call _, trivial, proper_error _, trivial, trivial, trivial⟩

theorem proper_event (event : Event) (text : Text) : (event_value libc event text).Proper := by
  unfold event_value
  split
  · exact proper_append (proper_header _ _) (proper_call _ text)
  · refine proper_append (proper_header _ _) ⟨proper_number _, proper_name _, proper_number _, ?_,
      trivial⟩
    split
    · exact trivial
    · exact trivial
  · exact proper_append (proper_header _ _) ⟨proper_number _, is_number_numeral _, trivial⟩
  · exact proper_append (proper_header _ _) ⟨proper_number _, trivial, trivial⟩

theorem proper_metadata : metadata_value.Proper :=
  proper_append (proper_header _ _) ⟨trivial, trivial, trivial⟩

theorem proper_summary (percent : SyscallStat → Text) (stats : Stats) (rows : List SyscallStat) :
    (summary_value percent stats rows).Proper := by
  refine ⟨trivial, trivial, trivial, trivial, trivial, ?_, trivial⟩
  show ProperItems (rows.map (row_value percent))
  rw [properItems_iff]
  intro v hv
  obtain ⟨row, _, rfl⟩ := List.mem_map.mp hv
  exact ⟨trivial, trivial, trivial, trivial, trivial, trivial, trivial, trivial⟩

end proper

/-! ### Lines -/

/-- The line is one object and a newline, and there is no control byte in the object. -/
def OneObject (line : Text) : Prop := ∃ members text, line = text ++ [10] ∧
  Reads (.object members) text [] ∧ Clear text

theorem oneObject_compact {members : List (Text × Value)} (h : (Value.object members).Proper) :
    OneObject ((Value.object members).compact ++ [10]) := by
  have hreads := (Value.object members).reads_compact h delimited_nil
  rw [List.append_nil] at hreads
  exact ⟨members, _, rfl, hreads, Value.clear_compact _ h⟩

theorem parse_line {v : Value} (h : v.Proper) : Json.parse (v.compact ++ [10]) = some v :=
  parse_of_document (document_compact h [10] (by decide))

section lines
variable {heap : Heap} {libc : Libc} {decoder : Decoder}

theorem holds_aside {m : RenderM Unit} {s : Rendering} {Q : Text → Rendering → Prop}
    {E : Unit → Rendering → Prop}
    (h : Holds m { s with output := sg_buffer_init }
      (fun _ s' => Q s'.contents { s' with output := s.output }) E) :
    Holds (aside m) s Q E := by
  unfold aside
  rw [holds_bind, holds_get, holds_bind, holds_modify, holds_bind]
  apply h.mono
  · intro _ s' hq
    rw [holds_bind, holds_get, holds_bind, holds_modify]
    exact hq
  · intro _ _ he
    exact he

/-- The text of a call, as a buffer of its own holds it; `none` when it cannot be made.
    Other events have no text. -/
def decoded_text (heap : Heap) (libc : Libc) (decoder : Decoder) (event : Event) : Option Text :=
  match event.data with
  | .syscall call =>
    match (sg_decode_syscall heap libc decoder event.tid call).exec .init with
    | (.ok _, rendering) => some rendering.contents
    | (.error _, _) => none
  | _ => some []

/-- From an empty buffer a program adds its text to nothing. -/
theorem Adds.holds {α : Type} {m : RenderM α} {text : Text} (h : Adds heap m text) (s : Rendering)
    (hs : s.output = sg_buffer_init) : Holds m s
      (fun _ s' => s'.output.Ok ∧ s'.contents = text)
      (fun _ _ => heap.Succeeds → SIZE_MAX ≤ text.length) := by
  have hok : s.output.Ok := by
    rw [hs]
    exact buffer_init_ok
  have hempty : s.contents = [] := by
    unfold Rendering.contents
    rw [hs]
    rfl
  apply (h s hok).mono
  · intro _ s' hpost
    rcases hpost with ⟨hok', added, hcontents, _, htext⟩
    rw [hempty, List.nil_append, htext] at hcontents
    exact ⟨hok', hcontents⟩
  · intro _ _ hfull hheap
    have hlength := hfull hheap
    rw [hempty, List.length_nil] at hlength
    omega

/-- **The bytes for an event** are the compact spelling of its value; without them memory
    was refused, the call could not be decoded, or the line is too long for a buffer. -/
theorem append_json_event_line (hlibc : libc.Abbreviations) {event : Event} (h : event.Typed) :
    Holds (append_json_event heap libc decoder event) .init
      (fun _ s => s.output.Ok ∧ ∃ text, decoded_text heap libc decoder event = some text ∧
        s.contents = (event_value libc event text).compact)
      (fun _ _ => heap.Succeeds → ∀ text, decoded_text heap libc decoder event = some text →
        SIZE_MAX ≤ (event_value libc event text).compact.length) := by
  by_cases hcall : ∃ call, event.data = .syscall call
  · obtain ⟨call, hdata⟩ := hcall
    unfold append_json_event decoded_text event_value
    rw [hdata]
    unfold append_json_syscall
    rw [holds_bind]
    apply holds_aside
    -- The text of the call comes first, in a buffer of its own.
    show Holds (sg_decode_syscall heap libc decoder event.tid call) .init _ _
    unfold Holds
    rcases hdecode : (sg_decode_syscall heap libc decoder event.tid call).exec .init with
      ⟨_ | _, s'⟩
    · intro _ text htext
      simp [hdecode] at htext
    · have hadds : Adds heap (append_json_call heap libc event call s'.contents) _ :=
        append_json_call_adds h (h.syscall call hdata) s'.contents
      apply (hadds.holds _ rfl).mono
      · intro _ s hpost
        rcases hpost with ⟨hok, hcontents⟩
        refine ⟨hok, s'.contents, ?_, hcontents⟩
        simp only [hdecode]
      · intro _ _ hfull hheap text htext
        simp only [hdecode, Option.some.injEq] at htext
        exact htext ▸ hfull hheap
  · have hno : ∀ call, event.data ≠ .syscall call := fun call hdata => hcall ⟨call, hdata⟩
    have hempty : decoded_text heap libc decoder event = some [] := by
      unfold decoded_text
      split
      · rename_i call hdata
        exact absurd hdata (hno call)
      · rfl
    have hadds : Adds heap (append_json_event heap libc decoder event) _ :=
      append_json_event_adds hlibc h hno []
    apply (hadds.holds .init rfl).mono
    · intro _ s hpost
      rcases hpost with ⟨hok, hcontents⟩
      exact ⟨hok, [], hempty, hcontents⟩
    · intro _ _ hfull hheap text htext
      rw [hempty] at htext
      obtain rfl := Option.some.inj htext
      exact hfull hheap

/-- **`write_buffer`** puts a newline behind the text and hands both out. -/
theorem written_line_spec {render : RenderM Unit} {P : Text → Prop} {F : Prop}
    (h : Holds render .init (fun _ s => s.output.Ok ∧ P s.contents)
      (fun _ _ => heap.Succeeds → F)) :
    Holds (written_line heap render) .init (fun line _ => ∃ text, P text ∧ line = text ++ [10])
      (fun _ _ => heap.Succeeds → F ∨ ∃ text, P text ∧ SIZE_MAX ≤ text.length + 1) := by
  have hnewline : cstr "\n" = [10] := by decide
  unfold written_line
  rw [holds_bind]
  apply h.mono
  · intro _ s hpost
    rcases hpost with ⟨hok, hp⟩
    rw [holds_bind, hnewline]
    have hadds : Adds heap (sg_buffer_append_cstr heap [10]) [10] := adds_append [10]
    apply (hadds s hok).mono
    · intro _ s' hpost
      rcases hpost with ⟨_, added, hcontents, _, hadded⟩
      rw [holds_bind, holds_get, holds_pure]
      exact ⟨s.contents, hp, by rw [hcontents, hadded]⟩
    · intro _ _ hfull hheap
      exact Or.inr ⟨s.contents, hp, hfull hheap⟩
  · intro _ _ hfull hheap
    exact Or.inl (hfull hheap)

/-! ### Reading a call back -/

/-- What a line tells about a call. -/
structure SyscallLine where
  number : Int
  arguments : List UInt64
  result : Int
  error_number : Int
  text : Text
  deriving DecidableEq, Repr

/-- The number of an error: none is zero. -/
def read_error : Value → Option Int
  | .null => some 0
  | v => do
    let number ← v.member (cstr "number")
    let digits ← number.numeral
    pure (signed_value digits)

/-- The number that is written in hexadecimal digits, with `0x` in front. -/
def read_argument (v : Value) : Option UInt64 := do
  let digits ← v.bytes
  pure (UInt64.ofNat (value 16 (digits.drop 2)))

/-- A member that is a signed number in quotes. -/
def read_long (key : String) (v : Value) : Option Int := do
  let quoted ← v.member (cstr key)
  let digits ← quoted.bytes
  pure (signed_value digits)

/-- What the line of a call tells. -/
def read_syscall (v : Value) : Option SyscallLine := do
  let number ← read_long "number" v
  let listed ← v.member (cstr "arguments")
  let items ← listed.items
  let arguments ← items.mapM read_argument
  let result ← read_long "result" v
  let error ← v.member (cstr "error")
  let error_number ← read_error error
  let quoted ← v.member (cstr "text")
  let text ← quoted.bytes
  pure ⟨number, arguments, result, error_number, text⟩

/-- What the event itself holds. -/
def SyscallEvent.line (call : SyscallEvent) (text : Text) : SyscallLine where
  number := call.number
  arguments := call.arguments.toList.take call.argument_count
  result := call.result
  error_number := call.error_number
  text := text

theorem read_error_value (error_number : Int) :
    read_error (error_value libc error_number) = some error_number := by
  unfold error_value
  split
  · rename_i hzero
    rw [hzero]
    rfl
  · show some (signed_value (signed error_number)) = some error_number
    rw [signed_value_signed]

theorem read_argument_value (call : SyscallEvent) (index : Nat) :
    read_argument (argument_value call index) = some (call.argument index) := by
  have hprefix : (cstr "0x").length = 2 := by decide
  have hdrop : (cstr "0x" ++ numeral 16 (call.argument index).toNat).drop 2 =
      numeral 16 (call.argument index).toNat := by
    rw [← hprefix, List.drop_left]
  show some (UInt64.ofNat (value 16 ((cstr "0x" ++ numeral 16 (call.argument index).toNat).drop 2))) = _
  rw [hdrop, value_numeral (by omega) (by omega), UInt64.ofNat_toNat]

theorem mapM_read {γ : Type} {read : Value → Option γ} {write : Nat → Value} {item : Nat → γ}
    (h : ∀ index, read (write index) = some (item index)) (indices : List Nat) :
    (indices.map write).mapM read = some (indices.map item) := by
  induction indices with
  | nil => rfl
  | cons index indices ih =>
    rw [List.map_cons, List.mapM_cons, h, ih]
    rfl

theorem arguments_eq (call : SyscallEvent) {count : Nat} (h : count ≤ 6) :
    (List.range count).map call.argument = call.arguments.toList.take count := by
  have hsix : call.arguments.toList.length = 6 := by simp
  apply List.ext_getElem
  · rw [List.length_map, List.length_range, List.length_take, hsix]
    omega
  · intro index hindex _
    rw [List.length_map, List.length_range] at hindex
    rw [List.getElem_map, List.getElem_range, List.getElem_take]
    exact List.getD_eq_getElem _ _ (by omega)

/-- **Read-back.**  The value of a line about a call tells the call. -/
theorem read_call (event : Event) (call : SyscallEvent) (h : call.argument_count ≤ 6) (text : Text) :
    read_syscall (.object (header_members (cstr "syscall") (some event) ++
      call_members libc call text)) = some (call.line (c_string text)) := by
  have hnumber : read_long "number" (.object (header_members (cstr "syscall") (some event) ++
      call_members libc call text)) = some (signed_value (signed call.number)) := rfl
  have hresult : read_long "result" (.object (header_members (cstr "syscall") (some event) ++
      call_members libc call text)) = some (signed_value (signed call.result)) := rfl
  have harguments : (Value.object (header_members (cstr "syscall") (some event) ++
      call_members libc call text)).member (cstr "arguments") =
      some (.array ((List.range call.argument_count).map (argument_value call))) := rfl
  have herror : (Value.object (header_members (cstr "syscall") (some event) ++
      call_members libc call text)).member (cstr "error") =
      some (error_value libc call.error_number) := rfl
  have htext : (Value.object (header_members (cstr "syscall") (some event) ++
      call_members libc call text)).member (cstr "text") = some (.string (c_string text)) := rfl
  have hread := mapM_read (read_argument_value call) (List.range call.argument_count)
  rw [arguments_eq call h] at hread
  unfold read_syscall
  simp only [hnumber, hresult, harguments, herror, htext, Value.items, Value.bytes, hread,
    read_error_value, signed_value_signed, Option.bind_eq_bind, Option.bind_some, Option.pure_def,
    SyscallEvent.line]

/-! ### The lines -/

/-- What `append_json_event` and `write_buffer` hand out for an event. -/
theorem event_line_spec (hlibc : libc.Abbreviations) {event : Event} (h : event.Typed) :
    Holds (written_line heap (append_json_event heap libc decoder event)) .init
      (fun line _ => ∃ text, decoded_text heap libc decoder event = some text ∧
        line = (event_value libc event text).compact ++ [10])
      (fun _ _ => heap.Succeeds → ∀ text, decoded_text heap libc decoder event = some text →
        SIZE_MAX ≤ (event_value libc event text).compact.length + 1) := by
  apply (written_line_spec (F := ∀ text, decoded_text heap libc decoder event = some text →
    SIZE_MAX ≤ (event_value libc event text).compact.length)
    (P := fun line => ∃ text, decoded_text heap libc decoder event = some text ∧
      line = (event_value libc event text).compact) (append_json_event_line hlibc h)).mono
  · rintro line _ ⟨_, ⟨text, htext, rfl⟩, rfl⟩
    exact ⟨text, htext, rfl⟩
  · rintro _ _ hfull hheap text htext
    obtain hlong | ⟨_, ⟨text', htext', rfl⟩, hlong⟩ := hfull hheap
    · exact (hlong text htext).trans (Nat.le_succ _)
    · rw [htext] at htext'
      obtain rfl := Option.some.inj htext'
      exact hlong

theorem oneObject_event (event : Event) (text : Text) :
    OneObject ((event_value libc event text).compact ++ [10]) := by
  have hproper : (event_value libc event text).Proper := proper_event event text
  unfold event_value at hproper ⊢
  split at hproper
  · exact oneObject_compact hproper
  · exact oneObject_compact hproper
  · exact oneObject_compact hproper
  · exact oneObject_compact hproper

/-- A string without a NUL is all of it. -/
theorem c_string_of_no_nul {text : Text} (h : 0 ∉ text) : c_string text = text := by
  unfold c_string
  rw [List.takeWhile_eq_self_iff]
  intro byte hbyte
  simp only [bne_iff_ne, ne_eq]
  rintro rfl
  exact h hbyte

/-- What is documented of `qsort`: it reorders the rows. -/
def Qsort.Permutes (qsort : Qsort) : Prop := ∀ compare rows, (qsort compare rows).Perm rows

theorem sg_stats_sorted_copy_perm {qsort : Qsort} (hqsort : qsort.Permutes) {stats : Stats}
    {granted : Bool} {rows : List SyscallStat}
    (h : sg_stats_sorted_copy qsort stats granted = some rows) : rows.Perm stats.rows := by
  unfold sg_stats_sorted_copy at h
  split at h
  · rename_i hzero
    obtain rfl := Option.some.inj h
    rw [List.length_eq_zero_iff.mp hzero]
  · split at h
    · simp at h
    · split at h
      · simp at h
      · obtain rfl := Option.some.inj h
        exact hqsort _ _

/-- What `write_json_summary` hands out. -/
theorem summary_line_spec {qsort : Qsort} (hqsort : qsort.Permutes) {percent : SyscallStat → Text}
    {stats : Stats} (h : stats.Typed) (hpercent : ∀ row ∈ stats.rows, Decimal (percent row))
    (granted : Bool) :
    Holds (write_json_summary heap qsort percent stats granted) .init
      (fun line _ => ∃ rows, sg_stats_sorted_copy qsort stats granted = some rows ∧
        line = (summary_value percent stats rows).compact ++ [10])
      (fun _ _ => heap.Succeeds → ∀ rows, sg_stats_sorted_copy qsort stats granted = some rows →
        SIZE_MAX ≤ (summary_value percent stats rows).compact.length + 1) := by
  unfold write_json_summary
  rcases hcopy : sg_stats_sorted_copy qsort stats granted with _ | rows
  · intro _ rows hrows
    simp at hrows
  · have hperm := sg_stats_sorted_copy_perm hqsort hcopy
    have hadds : Adds heap (append_json_summary heap percent stats rows) _ :=
      append_json_summary_adds h (fun row hrow => h.rows row (hperm.mem_iff.mp hrow))
        (fun row hrow => hpercent row (hperm.mem_iff.mp hrow))
    apply (written_line_spec (P := (· = (summary_value percent stats rows).compact))
      (hadds.holds .init rfl)).mono
    · rintro line _ ⟨_, rfl, rfl⟩
      exact ⟨rows, rfl, rfl⟩
    · rintro _ _ hfull hheap rows' hrows
      obtain rfl := Option.some.inj hrows
      obtain hlong | ⟨_, rfl, hlong⟩ := hfull hheap
      · omega
      · exact hlong

end lines

/-- **Every structured line is one JSON value**: an object and a newline, with no control
    byte in the object.  A line is missing only when memory is refused, the text of the call
    or the rows of the summary are missing, or the line does not fit into a buffer.  The
    line of a call whose text has no NUL tells the call. -/
theorem structured_lines (heap : Heap) {libc : Libc} (hlibc : libc.Abbreviations)
    (decoder : Decoder) {qsort : Qsort} (hqsort : qsort.Permutes) :
    (∀ event : Event, event.Typed →
      Holds (written_line heap (append_json_event heap libc decoder event)) .init
        (fun line _ => OneObject line ∧ ∀ call, event.data = .syscall call →
          ∃ text, decoded_text heap libc decoder event = some text ∧
            (0 ∉ text → (Json.parse line).bind read_syscall = some (call.line text)))
        (fun _ _ => heap.Succeeds → ∀ text, decoded_text heap libc decoder event = some text →
          SIZE_MAX ≤ (event_value libc event text).compact.length + 1)) ∧
    Holds (written_line heap (append_json_metadata heap)) .init (fun line _ => OneObject line)
      (fun _ _ => ¬heap.Succeeds) ∧
    ∀ (percent : SyscallStat → Text) (stats : Stats) (granted : Bool), stats.Typed →
      (∀ row ∈ stats.rows, Decimal (percent row)) →
      Holds (write_json_summary heap qsort percent stats granted) .init
        (fun line _ => OneObject line)
        (fun _ _ => heap.Succeeds → ∀ rows, sg_stats_sorted_copy qsort stats granted = some rows →
          SIZE_MAX ≤ (summary_value percent stats rows).compact.length + 1) := by
  refine ⟨?_, ?_, ?_⟩
  · intro event hevent
    apply (event_line_spec hlibc hevent).mono
    · rintro line _ ⟨text, htext, rfl⟩
      refine ⟨oneObject_event event text, ?_⟩
      intro call hdata
      refine ⟨text, htext, ?_⟩
      intro hnul
      have hvalue : event_value libc event text = .object (header_members (cstr "syscall")
          (some event) ++ call_members libc call text) := by
        unfold event_value
        rw [hdata]
      rw [parse_line (proper_event event text), hvalue, Option.bind_some,
        read_call event call (hevent.syscall call hdata).argument_count, c_string_of_no_nul hnul]
    · exact fun _ _ hfull => hfull
  · have hadds : Adds heap (append_json_metadata heap) metadata_value.compact :=
      append_json_metadata_adds
    apply (written_line_spec (P := (· = metadata_value.compact)) (hadds.holds .init rfl)).mono
    · rintro line _ ⟨_, rfl, rfl⟩
      exact oneObject_compact proper_metadata
    · intro _ _ hfull hheap
      have hlength : metadata_value.compact.length < 200 := by decide
      have hlarge : 201 < SIZE_MAX := by decide
      obtain hlong | ⟨_, rfl, hlong⟩ := hfull hheap
      · omega
      · omega
  · intro percent stats granted hstats hpercent
    apply (summary_line_spec hqsort hstats hpercent granted).mono
    · rintro line _ ⟨rows, _, rfl⟩
      exact oneObject_compact (proper_summary percent stats rows)
    · exact fun _ _ hfull => hfull

/-- `getpid` in a process with the number 42. -/
def getpid_event : Event where
  tid := 42
  tgid := 42
  observed_at := ⟨1, 5⟩
  data := .syscall { SyscallEvent.zero with number := 39, result := 42, completed := true }

/-- The statistics of that call. -/
def getpid_stats : Stats := ⟨[⟨39, 1, 0, 5⟩], 16, 1, 0, 5⟩

/-- The share of a row that is the only one. -/
def whole_share (_row : SyscallStat) : Text := cstr "100.00"

theorem bare_libc_abbreviations : bare_libc.Abbreviations := by
  intro n text h
  simp [bare_libc] at h

theorem qsort_merge_permutes : qsort_merge.Permutes := by
  intro compare rows
  have hperm := (List.mergeSort_perm rows.attach
    fun row row' => decide (compare row row' ≤ 0)).map Subtype.val
  rwa [List.attach_map_subtype_val] at hperm

theorem structured_lines_getpid :
    Holds (written_line ample_heap (append_json_event ample_heap bare_libc ⟨32, none⟩ getpid_event))
      .init (fun line _ => OneObject line) (fun _ _ => True) ∧
    Holds (write_json_summary ample_heap qsort_merge whole_share getpid_stats true) .init
      (fun line _ => OneObject line) (fun _ _ => True) := by
  have htyped : getpid_event.Typed := by
    constructor
    · decide
    · decide
    · rintro call hcall
      obtain rfl := EventData.syscall.inj hcall
      exact ⟨by decide, by decide, by decide, by decide⟩
    · intro _ h
      cases h
    · intro _ h
      cases h
    · intro _ h
      cases h
  have hstats : getpid_stats.Typed := by
    constructor
    · intro row hrow
      obtain rfl := List.mem_singleton.mp hrow
      exact ⟨by decide, by decide, by decide, by decide⟩
    · decide
    · decide
    · decide
  have hdecimal : ∀ row ∈ getpid_stats.rows, Decimal (whole_share row) := by
    intro row _
    unfold whole_share
    exact ⟨cstr "100", cstr "00", by decide, by decide, by decide, by decide, by decide, by decide⟩
  obtain ⟨hevents, _, hsummary⟩ :=
    structured_lines ample_heap bare_libc_abbreviations ⟨32, none⟩ qsort_merge_permutes
  constructor
  · apply (hevents getpid_event htyped).mono
    · exact fun _ _ h => h.1
    · exact fun _ _ _ => trivial
  · -- The rows themselves do not matter, and unfolding them is of no use.
    generalize getpid_stats = stats at hstats hdecimal ⊢
    apply (hsummary whole_share stats true hstats hdecimal).mono
    · exact fun _ _ h => h
    · exact fun _ _ _ => trivial

end Sysgaze
