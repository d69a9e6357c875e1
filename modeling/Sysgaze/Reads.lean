import Sysgaze.Printable

/-! # The reads of the decoder

    Which parts of the memory of a tracee a program looks at, in order,
    whether it succeeds or not (`Looks`).
-/

open Fallible

namespace Sysgaze

/-- The reads that the program makes satisfy `P`, whether it succeeds or not. -/
def Looks {α : Type} (m : RenderM α) (P : List MemoryRead → Prop) : Prop :=
  ∀ s : Rendering, s.output.Ok → Holds m s
    (fun _ s' => s'.output.Ok ∧ ∃ reads, s'.reads = s.reads ++ reads ∧ P reads)
    (fun _ s' => ∃ reads, s'.reads = s.reads ++ reads ∧ P reads)

section looks
variable {heap : Heap} {α β : Type} {m : RenderM α} {f : α → RenderM β}
  {P P' Q : List MemoryRead → Prop}

theorem Looks.mono (h : Looks m P) (hP : ∀ reads, P reads → Q reads) : Looks m Q := by
  intro s hok
  apply (h s hok).mono
  · rintro _ s' ⟨hok', reads, hreads, hp⟩
    exact ⟨hok', reads, hreads, hP reads hp⟩
  · rintro _ s' ⟨reads, hreads, hp⟩
    exact ⟨reads, hreads, hP reads hp⟩

theorem looks_pure (a : α) (h : P []) : Looks (pure a) P :=
  fun _ hok => ⟨hok, [], (List.append_nil _).symm, h⟩

theorem looks_throw (h : P []) : Looks (throw () : RenderM α) P :=
  fun _ _ => ⟨[], (List.append_nil _).symm, h⟩

/-- One program after the other; the first may also be all that runs. -/
theorem looks_bind (hm : Looks m P) (hf : ∀ a, Looks (f a) P') (hfirst : ∀ reads, P reads → Q reads)
    (hboth : ∀ reads reads', P reads → P' reads' → Q (reads ++ reads')) : Looks (m >>= f) Q := by
  intro s hok
  rw [holds_bind]
  apply (hm s hok).mono
  · rintro a s₁ ⟨hok₁, reads, hreads, hp⟩
    apply (hf a s₁ hok₁).mono
    · rintro _ s₂ ⟨hok₂, reads', hreads', hp'⟩
      exact ⟨hok₂, reads ++ reads', by rw [hreads', hreads, List.append_assoc],
        hboth reads reads' hp hp'⟩
    · rintro _ s₂ ⟨reads', hreads', hp'⟩
      exact ⟨reads ++ reads', by rw [hreads', hreads, List.append_assoc],
        hboth reads reads' hp hp'⟩
  · rintro _ s₁ ⟨reads, hreads, hp⟩
    exact ⟨reads, hreads, hfirst reads hp⟩

/-- A program that reads nothing. -/
def Blind (m : RenderM α) : Prop := Looks m fun reads => reads = []

theorem Blind.looks (h : Blind m) (hP : P []) : Looks m P := by
  apply Looks.mono h
  rintro _ rfl
  exact hP

theorem blind_bind (hm : Blind m) (hf : ∀ a, Looks (f a) P) (hP : P []) : Looks (m >>= f) P := by
  apply looks_bind hm hf
  · rintro _ rfl
    exact hP
  · rintro _ reads rfl h
    exact h

theorem Blind.bind (hm : Blind m) (hf : ∀ a, Blind (f a)) : Blind (m >>= f) := blind_bind hm hf rfl

theorem blind_append (text : Text) : Blind (sg_buffer_append heap text) := by
  intro s hok
  apply (sg_buffer_append_spec hok text).mono
  · rintro _ s' ⟨hok', -, hreads⟩
    exact ⟨hok', [], by rw [hreads, List.append_nil], rfl⟩
  · rintro _ s' ⟨-, hreads, -⟩
    exact ⟨[], by rw [hreads, List.append_nil], rfl⟩

theorem blind_format (text : Text) : Blind (sg_buffer_append_format heap text) := by
  intro s hok
  apply (sg_buffer_append_format_spec hok text).mono
  · rintro _ s' ⟨hok', -, hreads⟩
    exact ⟨hok', [], by rw [hreads, List.append_nil], rfl⟩
  · rintro _ s' ⟨-, hreads, -⟩
    exact ⟨[], by rw [hreads, List.append_nil], rfl⟩

theorem length_fresh (n size : Nat) : (heap.fresh n size).length = size := by
  rw [Heap.fresh, List.length_map, List.length_range]

/-- New bytes are as many as were asked for. -/
theorem looks_malloc {f : Option Text → RenderM α} {size : Nat} (hnone : Looks (f none) P)
    (hsome : ∀ data : Text, data.length = size → Looks (f (some data)) P) :
    Looks (malloc heap size >>= f) P := by
  intro s hok
  rw [holds_bind, holds_malloc]
  split
  · exact hsome _ (length_fresh s.asked size) { s with asked := s.asked + 1 } hok
  · exact hnone { s with asked := s.asked + 1 } hok

theorem looks_ite {c : Prop} [Decidable c] {m' : RenderM α} (hm : c → Looks m P)
    (hm' : ¬c → Looks m' P) : Looks (if c then m else m') P := by
  split
  · rename_i h
    exact hm h
  · rename_i h
    exact hm' h

/-! ### Reads of bytes and strings -/

variable {decoder : Decoder} {tid : Pid} {address : UInt64}

/-- The read that `read_memory` makes, if it makes one. -/
def Decoder.issued (decoder : Decoder) (tid : Pid) (address : UInt64) (length room : Nat) :
    List MemoryRead :=
  match decoder.memory with
  | none => []
  | some _ => if address = 0 then [] else [⟨tid, address, length, room⟩]

theorem issued_cases (decoder : Decoder) (tid : Pid) (address : UInt64) (length room : Nat) :
    decoder.issued tid address length room = [] ∨
      decoder.issued tid address length room = [⟨tid, address, length, room⟩] := by
  unfold Decoder.issued
  split
  · exact Or.inl rfl
  · split
    · exact Or.inl rfl
    · exact Or.inr rfl

/-- Only what has been asked for can be seen. -/
theorem issued_of_peek {length : Nat} {bytes : Text}
    (h : decoder.peek tid address length = some bytes) (room : Nat) :
    decoder.issued tid address length room = [⟨tid, address, length, room⟩] := by
  unfold Decoder.peek at h
  unfold Decoder.issued
  cases hmemory : decoder.memory with
  | none =>
    rw [hmemory] at h
    simp at h
  | some memory =>
    rw [hmemory] at h
    dsimp only at h ⊢
    split at h
    · simp at h
    · rename_i hnonnull
      rw [if_neg hnonnull]

/-- A read, and what is made of it. -/
theorem looks_read {f : Bool × Text × Nat → RenderM α} {destination : Text} {length : Nat}
    (h : Looks (f (read_result destination (decoder.peek tid address length)))
      fun reads => P (decoder.issued tid address length destination.length ++ reads)) :
    Looks (read_memory decoder tid address destination length >>= f) P := by
  intro s hok
  unfold read_memory
  unfold Decoder.peek Decoder.issued at h
  cases hmemory : decoder.memory with
  | none =>
    rw [hmemory] at h
    exact h s hok
  | some memory =>
    rw [hmemory] at h
    dsimp only at h ⊢
    split
    · rename_i hnull
      rw [if_pos hnull, if_pos hnull] at h
      exact h s hok
    · rename_i hnull
      rw [if_neg hnull, if_neg hnull] at h
      have hrun : ∀ r : Bool × Text × Nat,
          Looks (f r) (fun reads => P ([⟨tid, address, length, destination.length⟩] ++ reads)) →
          Holds (f r) { s with reads := s.reads ++ [⟨tid, address, length, destination.length⟩] }
            (fun _ s' => s'.output.Ok ∧ ∃ reads, s'.reads = s.reads ++ reads ∧ P reads)
            (fun _ s' => ∃ reads, s'.reads = s.reads ++ reads ∧ P reads) := by
        intro r hr
        apply (hr { s with
          reads := s.reads ++ [⟨tid, address, length, destination.length⟩] } hok).mono
        · rintro _ s' ⟨hok', reads, hreads, hp⟩
          exact ⟨hok', _, hreads.trans (List.append_assoc _ _ _), hp⟩
        · rintro _ s' ⟨reads, hreads, hp⟩
          exact ⟨_, hreads.trans (List.append_assoc _ _ _), hp⟩
      rw [holds_bind, holds_bind, holds_modify]
      cases hread : memory.read tid address length with
      | none =>
        rw [hread] at h
        exact hrun _ h
      | some bytes =>
        rw [hread] at h
        exact hrun _ h

theorem append_escaped_blind (data : Text) : Blind (append_escaped heap data) := by
  have hbyte : ∀ byte, Blind (append_escaped_byte heap byte) := by
    intro byte
    unfold append_escaped_byte
    repeat' (split; · exact blind_append _)
    exact blind_format _
  have hloop : ∀ data : Text, Blind (data.forM (append_escaped_byte heap)) := by
    intro data
    induction data with
    | nil => exact looks_pure _ rfl
    | cons byte data ih => exact (hbyte byte).bind fun _ => ih
  unfold append_escaped
  exact (blind_append _).bind fun _ => (hloop data).bind fun _ => blind_append _

theorem append_pointer_blind (value : UInt64) : Blind (append_pointer heap value) := by
  unfold append_pointer
  split
  · exact blind_append _
  · exact blind_format _

/-- **Bytes** are read at most once, at their address and not beyond the limit. -/
theorem append_remote_bytes_looks (requested : Nat) (stop_at_nul : Bool) :
    Looks (append_remote_bytes heap decoder tid address requested stop_at_nul) fun reads =>
      reads = [] ∨ ∃ amount ≤ decoder.string_limit, address ≠ 0 ∧
        reads = [⟨tid, address, amount, amount⟩] := by
  unfold append_remote_bytes
  dsimp only
  have hamount : (if requested < decoder.string_limit then requested else decoder.string_limit) ≤
      decoder.string_limit := by
    split <;> omega
  generalize (if requested < decoder.string_limit then requested else decoder.string_limit) =
    amount at hamount
  apply looks_ite
  · exact fun _ => (blind_append _).looks (Or.inl rfl)
  intro hnonnull
  apply looks_ite
  · exact fun _ => (blind_append _).looks (Or.inl rfl)
  intro _
  apply looks_malloc
  · exact looks_throw (Or.inl rfl)
  intro data hdata
  apply looks_read
  have hissued : ∀ reads, reads = [] → (decoder.issued tid address amount data.length ++ reads = [] ∨
      ∃ n ≤ decoder.string_limit, address ≠ 0 ∧
        decoder.issued tid address amount data.length ++ reads = [⟨tid, address, n, n⟩]) := by
    rintro _ rfl
    rw [hdata]
    simp only [List.append_nil]
    rcases issued_cases decoder tid address amount amount with hnone | hone
    · exact Or.inl hnone
    · exact Or.inr ⟨amount, hamount, hnonnull, hone⟩
  refine Looks.mono (?_ : Looks _ fun reads => reads = []) hissued
  have hshown : ∀ (bytes : Text) (shown : Nat × Bool), Blind (append_escaped heap
      (bytes.take shown.1) >>= fun _ =>
        if shown.2 = true then sg_buffer_append_cstr heap (cstr "...") else pure ()) := by
    intro bytes shown
    apply (append_escaped_blind _).bind
    exact fun _ => looks_ite (fun _ => blind_append _) fun _ => looks_pure _ rfl
  exact looks_ite (fun _ => append_pointer_blind _) fun _ => hshown _ _

theorem append_string_looks :
    Looks (append_string heap decoder tid address) fun reads =>
      reads = [] ∨ ∃ amount ≤ decoder.string_limit, address ≠ 0 ∧
        reads = [⟨tid, address, amount, amount⟩] :=
  append_remote_bytes_looks _ true

end looks

end Sysgaze
