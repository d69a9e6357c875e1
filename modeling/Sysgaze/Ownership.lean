import Sysgaze.Lib.Coupling
import Sysgaze.Rounds

/-! # Who owns the decoded arguments

    `sg_decoder_capture_entry` allocates a text for each decoded argument.  From
    then on the text is in a slot: in the pending or in the interrupted call of a
    record.  Calls are moved between the slots, copied for output, dropped and
    swapped between records, on branches that may fail half-way.

    `Owned env c hand` says that the flags of every record agree with its slots,
    and that the texts captured so far are the texts released, those in the slots
    and those in the hand of the program, each counted as often as it was captured.
    `Owned.exchange` is the one rule for a change of a record; the entries and the
    exits are shown to keep the balance here, whether they succeed or fail.
-/

open Fallible

namespace Sysgaze

/-! ### Slots -/

/-- The texts in the slots of a record. -/
def Tracee.texts (tracee : Tracee) : List Text :=
  tracee.pending_syscall.texts ++ tracee.interrupted_syscall.texts

/-- The texts in the slots of the table. -/
def Tracees.texts (tracees : Tracees) : List Text :=
  tracees.records.flatMap Tracee.texts

/-- The flags of a record agree with each other and with its slots. -/
structure Tracee.Slots (tracee : Tracee) : Prop where
  /-- Only an interrupted call is ready to be restarted. -/
  ready : tracee.interrupted_restart_ready = true → tracee.has_interrupted_syscall = true
  /-- No call is pending while the interrupted one is ready. -/
  pending : tracee.has_pending_syscall = true → tracee.interrupted_restart_ready = false
  /-- No pending call, no texts. -/
  pending_empty : tracee.has_pending_syscall = false → tracee.pending_syscall.texts = []
  /-- No interrupted call, no texts. -/
  interrupted_empty : tracee.has_interrupted_syscall = false → tracee.interrupted_syscall.texts = []

/-- The answer to question `n` may be this text. -/
def Env.Issues (env : Env) (n : Nat) (text : Text) : Prop :=
  ∃ tid event argument_count decoded_arguments,
    env.capture n tid event = some (argument_count, decoded_arguments) ∧
      text ∈ decoded_arguments.toList.reduceOption

/-- Every captured text is a token of its own: no two arguments are given the same one. -/
structure Env.Tokens (env : Env) : Prop where
  /-- One capture gives each text once. -/
  once : ∀ n tid event argument_count decoded_arguments,
    env.capture n tid event = some (argument_count, decoded_arguments) →
      decoded_arguments.toList.reduceOption.Nodup
  /-- Two captures have no text in common. -/
  fresh : ∀ m n text, env.Issues m text → env.Issues n text → m = n

/-- The flags agree with the slots, and every text that has been captured has been released,
    is in a slot, or is in the hand of the program. -/
structure Owned (env : Env) (c : Context) (hand : List Text) : Prop where
  slots : ∀ tid tracee, c.tracees.lookup tid = some tracee → tracee.Slots
  balance : c.captured.Perm (c.released ++ c.tracees.texts ++ hand)
  issued : ∀ text ∈ c.captured, ∃ n < c.asked, env.Issues n text
  distinct : env.Tokens → c.captured.Nodup

/-- From `c` to `c'` no text has been captured or released. -/
structure TextsKept (c c' : Context) : Prop where
  captured : c'.captured = c.captured
  released : c'.released = c.released
  asked : c.asked ≤ c'.asked

/-- From `c` to `c'` no text has been captured or released, and no record has changed. -/
structure SlotsKept (c c' : Context) : Prop extends TextsKept c c' where
  tracees : c'.tracees = c.tracees

/-- The program owns the texts in its hand, and `tracee` is a record of the table. -/
structure OwnedAt (env : Env) (c : Context) (tracee : Tracee) (hand : List Text) : Prop
    extends Owned env c hand where
  known : c.tracees.lookup tracee.tid = some tracee

section rules
variable {env : Env} {c c' c'' : Context} {hand hand' given : List Text} {tracee old : Tracee}
  {event : SyscallEvent} {tid : Pid}

instance : Std.Refl TextsKept := ⟨fun _ => ⟨rfl, rfl, le_rfl⟩⟩

instance : IsTrans Context TextsKept :=
  ⟨fun _ _ _ h h' => ⟨h'.captured.trans h.captured, h'.released.trans h.released,
    h.asked.trans h'.asked⟩⟩

instance : IsPreorder Context TextsKept where

theorem TextsKept.refl (c : Context) : TextsKept c c := ⟨rfl, rfl, le_rfl⟩

theorem SlotsKept.refl (c : Context) : SlotsKept c c := ⟨.refl c, rfl⟩

instance : Std.Refl SlotsKept := ⟨SlotsKept.refl⟩

instance : IsTrans Context SlotsKept :=
  ⟨fun _ _ _ h h' => ⟨IsTrans.trans _ _ _ h.toTextsKept h'.toTextsKept,
    h'.tracees.trans h.tracees⟩⟩

instance : IsPreorder Context SlotsKept where

@[simp] theorem SyscallEvent.texts_zero : SyscallEvent.zero.texts = [] := rfl

@[simp] theorem SyscallEvent.texts_without_texts (event : SyscallEvent) :
    event.without_texts.texts = [] := rfl

@[simp] theorem Context.release_released (c : Context) (event : SyscallEvent) :
    (c.release event).released = c.released ++ event.texts := rfl

theorem Tracee.count_texts (tracee : Tracee) (text : Text) : tracee.texts.count text =
    tracee.pending_syscall.texts.count text + tracee.interrupted_syscall.texts.count text :=
  List.count_append

/-- The texts that stand in the table under a TID. -/
def Tracees.texts_at (tracees : Tracees) (tid : Pid) : List Text :=
  (tracees.lookup tid).toList.flatMap Tracee.texts

theorem Tracees.texts_at_some {tracees : Tracees} (h : tracees.lookup tid = some tracee) :
    tracees.texts_at tid = tracee.texts := by
  unfold Tracees.texts_at
  rw [h, Option.toList_some, List.flatMap_singleton]

theorem Tracees.texts_at_none {tracees : Tracees} (h : tracees.lookup tid = none) :
    tracees.texts_at tid = [] := by
  unfold Tracees.texts_at
  rw [h]
  rfl

theorem owned_init (env : Env) : Owned env .init [] where
  slots tid tracee h := by
    rw [show Context.init.tracees.lookup tid = none from rfl] at h
    simp at h
  balance := .refl _
  issued text h := absurd h (List.not_mem_nil)
  distinct _ := List.nodup_nil

theorem Owned.count_eq (h : Owned env c hand) (text : Text) : c.captured.count text =
    c.released.count text + c.tracees.texts.count text + hand.count text := by
  rw [h.balance.count_eq, List.count_append, List.count_append]

/-- **The exchange of a record**: what stood in its slots and in the hand has been released,
    or is in the new slots or in the hand. -/
theorem Owned.exchange (h : Owned env c hand) (tid : Pid) (given : List Text)
    (hothers : ∀ other, other ≠ tid → c'.tracees.lookup other = c.tracees.lookup other)
    (hslots : ∀ tracee, c'.tracees.lookup tid = some tracee → tracee.Slots)
    (hcaptured : c'.captured = c.captured) (hreleased : c'.released = c.released ++ given)
    (hasked : c.asked ≤ c'.asked)
    (hbalance : ∀ text, (c.tracees.texts_at tid).count text + hand.count text =
      (c'.tracees.texts_at tid).count text + given.count text + hand'.count text) :
    Owned env c' hand' where
  slots other tracee hknown := by
    by_cases ht : other = tid
    · subst ht
      exact hslots tracee hknown
    · exact h.slots other tracee (hothers other ht ▸ hknown)
  balance := by
    rw [List.perm_iff_count]
    intro text
    have hexchange := (Tracees.exchange hothers Tracee.texts).count_eq text
    have hcount := h.count_eq text
    have hmoved := hbalance text
    rw [List.count_append, List.count_append] at hexchange
    have hexchange : c.tracees.texts.count text + (c'.tracees.texts_at tid).count text =
        c'.tracees.texts.count text + (c.tracees.texts_at tid).count text := hexchange
    rw [hcaptured, hreleased, List.count_append, List.count_append, List.count_append]
    omega
  issued text hmem := by
    rw [hcaptured] at hmem
    obtain ⟨n, hn, hissues⟩ := h.issued text hmem
    exact ⟨n, lt_of_lt_of_le hn hasked, hissues⟩
  distinct htokens := by
    rw [hcaptured]
    exact h.distinct htokens

/-- Nothing has been captured, released or stored. -/
theorem Owned.kept (h : Owned env c hand) (hkept : SlotsKept c c') : Owned env c' hand where
  slots := by
    rw [hkept.tracees]
    exact h.slots
  balance := by
    rw [hkept.captured, hkept.released, hkept.tracees]
    exact h.balance
  issued text hmem := by
    rw [hkept.captured] at hmem
    obtain ⟨n, hn, hissues⟩ := h.issued text hmem
    exact ⟨n, lt_of_lt_of_le hn hkept.asked, hissues⟩
  distinct htokens := by
    rw [hkept.captured]
    exact h.distinct htokens

theorem OwnedAt.kept (h : OwnedAt env c tracee hand) (hkept : SlotsKept c c') :
    OwnedAt env c' tracee hand :=
  ⟨h.toOwned.kept hkept, by rw [hkept.tracees]; exact h.known⟩

/-- The texts in the hand are released. -/
theorem Owned.give (h : Owned env c (given ++ hand)) (hkept : c'.tracees = c.tracees)
    (hcaptured : c'.captured = c.captured) (hreleased : c'.released = c.released ++ given)
    (hasked : c.asked ≤ c'.asked) : Owned env c' hand := by
  apply h.exchange 0 given
  · intro other _
    rw [hkept]
  · intro tracee hknown
    rw [hkept] at hknown
    exact h.slots 0 tracee hknown
  · exact hcaptured
  · exact hreleased
  · exact hasked
  · intro text
    rw [hkept, List.count_append]
    omega

/-- The record at hand is stored again, when its texts and those in the hand have been
    released, or are in the slots of the new one or in the hand. -/
theorem OwnedAt.write (h : OwnedAt env c old hand) (tracee : Tracee) (given : List Text)
    (htid : tracee.tid = old.tid)
    (hslots : tracee.Slots) (htracees : c'.tracees = c.tracees.write tracee)
    (hcaptured : c'.captured = c.captured) (hreleased : c'.released = c.released ++ given)
    (hasked : c.asked ≤ c'.asked)
    (hbalance : ∀ text, old.texts.count text + hand.count text =
      tracee.texts.count text + given.count text + hand'.count text) :
    OwnedAt env c' tracee hand' := by
  have hlookup : ∀ other, c'.tracees.lookup other =
      if other = old.tid then some tracee else c.tracees.lookup other := by
    intro other
    rw [htracees, Tracees.lookup_write, htid, h.known]
    simp
  have hself : c'.tracees.lookup old.tid = some tracee := by rw [hlookup, if_pos rfl]
  refine ⟨?_, by rw [htid]; exact hself⟩
  apply h.toOwned.exchange old.tid given
  · intro other hne
    rw [hlookup, if_neg hne]
  · intro t ht
    rw [hself] at ht
    exact Option.some.inj ht ▸ hslots
  · exact hcaptured
  · exact hreleased
  · exact hasked
  · rw [Tracees.texts_at_some h.known, Tracees.texts_at_some hself]
    exact hbalance

/-- The record is stored; texts may go from the hand to its slots. -/
theorem OwnedAt.put (h : OwnedAt env c old hand) (tracee : Tracee) (htid : tracee.tid = old.tid)
    (hslots : tracee.Slots) (hbalance : ∀ text, old.texts.count text + hand.count text =
      tracee.texts.count text + hand'.count text) :
    OwnedAt env { c with tracees := c.tracees.write tracee } tracee hand' := by
  apply h.write tracee [] htid hslots
  · rfl
  · rfl
  · exact (List.append_nil _).symm
  · exact le_rfl
  · exact hbalance

/-- The record is stored with the same texts in its slots. -/
theorem OwnedAt.store (h : OwnedAt env c old hand) (tracee : Tracee) (htid : tracee.tid = old.tid)
    (hslots : tracee.Slots) (htexts : tracee.texts = old.texts) :
    OwnedAt env { c with tracees := c.tracees.write tracee } tracee hand :=
  h.put tracee htid hslots fun text => by rw [htexts]

/-- A call is released and taken out of the record. -/
theorem OwnedAt.release (h : OwnedAt env c old hand) (event : SyscallEvent) (tracee : Tracee)
    (htid : tracee.tid = old.tid) (hslots : tracee.Slots)
    (htexts : ∀ text, old.texts.count text = tracee.texts.count text + event.texts.count text) :
    OwnedAt env { c.release event with tracees := (c.release event).tracees.write tracee }
      tracee hand := by
  apply h.write tracee event.texts htid hslots
  · rfl
  · rfl
  · rfl
  · exact le_rfl
  · intro text
    rw [htexts]

end rules

/-! ### Programs that leave the slots alone -/

section quiet
variable {config : Config} {env : Env} {tracee : Tracee}

theorem ask_kept : Travels ask SlotsKept := fun _ => ⟨⟨rfl, rfl, Nat.le_succ _⟩, rfl⟩

theorem measured_ptrace_kept (request : PtraceRequest) (tid : Pid) (data : Int) :
    Travels (measured_ptrace request tid data) SlotsKept := travels_modify fun _ => ⟨⟨rfl, rfl, le_rfl⟩, rfl⟩

theorem clock_gettime_kept : Travels (clock_gettime env) SlotsKept := by
  unfold clock_gettime
  apply travels_bind ask_kept
  intro n
  split
  · apply travels_bind (travels_modify fun _ => ⟨⟨rfl, rfl, le_rfl⟩, rfl⟩)
    exact fun _ => travels_pure _
  · exact travels_throw _

theorem output_kept {α : Type} (m : Fallible String Output α) :
    Travels (zoom Context.output (fun context output => { context with output := output }) m)
      SlotsKept :=
  travels_zoom m fun _ _ => ⟨⟨rfl, rfl, le_rfl⟩, rfl⟩

theorem emit_event_kept (event : Event) : Travels (emit_event config env event) SlotsKept := by
  unfold emit_event
  apply travels_bind (travels_modify fun _ => ⟨⟨rfl, rfl, le_rfl⟩, rfl⟩)
  exact fun _ => output_kept _

theorem flush_unfinished_syscalls_kept (except_tid : Pid) :
    Travels (flush_unfinished_syscalls config env except_tid) SlotsKept := by
  unfold flush_unfinished_syscalls
  apply travels_ite (travels_pure _)
  apply travels_bind travels_get
  intro c
  apply travels_forM
  intro tracee
  unfold flush_tracee
  apply travels_ite (travels_pure _)
  split
  · exact travels_pure _
  · exact travels_ite (travels_pure _) (emit_event_kept _)

theorem write_syscall_kept (event : SyscallEvent) :
    Travels (write_syscall config env tracee event) SlotsKept := by
  unfold write_syscall
  apply travels_bind (travels_modify fun _ => ⟨⟨rfl, rfl, le_rfl⟩, rfl⟩)
  intro _
  apply travels_ite (travels_pure _)
  apply travels_bind (travels_modify fun _ => ⟨⟨rfl, rfl, le_rfl⟩, rfl⟩)
  intro _
  apply travels_ite
  · apply travels_bind ask_kept
    intro n c
    rw [holds_bind, holds_get]
    dsimp only
    rw [holds_bind, holds_set]
    split
    · exact ⟨⟨rfl, rfl, le_rfl⟩, rfl⟩
    · exact ⟨⟨rfl, rfl, le_rfl⟩, rfl⟩
  apply travels_bind (flush_unfinished_syscalls_kept _)
  exact fun _ => emit_event_kept _

theorem write_stamped_kept (data : EventData) :
    Travels (write_stamped config env tracee data) SlotsKept := by
  unfold write_stamped
  apply travels_bind (flush_unfinished_syscalls_kept _)
  intro _
  apply travels_bind clock_gettime_kept
  exact fun _ => emit_event_kept _

end quiet

/-! ### Entries and exits -/

section calls
variable {config : Config} {env : Env} {c c' : Context} {hand : List Text} {tracee : Tracee}

/-- What leaves the slots alone is followed by what comes next. -/
theorem OwnedAt.then {α : Type} {m : TraceM α} {Q : α → Context → Prop} {E : String → Context → Prop}
    (h : OwnedAt env c tracee hand) (hm : Travels m SlotsKept)
    (hQ : ∀ a c', OwnedAt env c' tracee hand → Q a c')
    (hE : ∀ e c', OwnedAt env c' tracee hand → E e c') : Holds m c Q E :=
  (hm c).mono (fun a c' hkept => hQ a c' (h.kept hkept)) (fun e c' hkept => hE e c' (h.kept hkept))

/-- The pending call becomes one with the same texts. -/
theorem OwnedAt.store_pending (h : OwnedAt env c tracee hand) (event : SyscallEvent)
    (htexts : event.texts = tracee.pending_syscall.texts) :
    OwnedAt env { c with tracees := c.tracees.write { tracee with pending_syscall := event } }
      { tracee with pending_syscall := event } hand := by
  have hslots := h.slots _ _ h.known
  refine h.store _ rfl ?_ ?_
  · exact ⟨hslots.ready, hslots.pending, fun hflag => htexts.trans (hslots.pending_empty hflag),
      hslots.interrupted_empty⟩
  · show event.texts ++ _ = _
    rw [htexts]
    rfl

/-- The interrupted call becomes one with the same texts. -/
theorem OwnedAt.store_interrupted (h : OwnedAt env c tracee hand) (event : SyscallEvent)
    (htexts : event.texts = tracee.interrupted_syscall.texts) :
    OwnedAt env { c with tracees := c.tracees.write { tracee with interrupted_syscall := event } }
      { tracee with interrupted_syscall := event } hand := by
  have hslots := h.slots _ _ h.known
  refine h.store _ rfl ?_ ?_
  · exact ⟨hslots.ready, hslots.pending, hslots.pending_empty,
      fun hflag => htexts.trans (hslots.interrupted_empty hflag)⟩
  · show _ ++ event.texts = _
    rw [htexts]
    rfl

theorem complete_exec_owned (h : OwnedAt env c tracee hand) :
    Holds (complete_exec config env tracee) c
      (fun tracee' c' => OwnedAt env c' tracee' hand ∧ tracee'.tid = tracee.tid ∧
        tracee'.has_pending_syscall = false)
      (fun _ c' => Owned env c' hand) := by
  unfold complete_exec
  simp only [holds_bind, holds_store]
  have h₁ := h.store_pending
    { tracee.pending_syscall with result := 0, error_number := 0, completed := true } rfl
  apply h₁.then clock_gettime_kept
  · intro exited_at c₁ h₂
    have h₃ := h₂.store_pending { tracee.pending_syscall with
      result := 0, error_number := 0, completed := true, exited_at := exited_at } rfl
    apply h₃.then (write_syscall_kept _)
    · intro _ c₂ h₄
      have hslots := h₄.slots _ _ h₄.known
      refine ⟨h₄.release _ _ rfl ?_ ?_, rfl, rfl⟩
      · exact ⟨hslots.ready, fun hflag => absurd hflag (by simp), fun _ => rfl,
          hslots.interrupted_empty⟩
      · intro text
        simp only [Tracee.count_texts, SyscallEvent.texts_without_texts, List.count_nil]
        omega
    · exact fun _ _ h => h.toOwned
  · exact fun _ _ h => h.toOwned

theorem leave_pending_owned (h : OwnedAt env c tracee hand) :
    Holds (leave_pending config env tracee) c
      (fun tracee' c' => OwnedAt env c' tracee' hand ∧ tracee'.tid = tracee.tid ∧
        tracee'.has_pending_syscall = false)
      (fun _ c' => Owned env c' hand) := by
  unfold leave_pending
  split
  · split
    · exact complete_exec_owned h
    · exact h.toOwned
  · rename_i hflag
    exact ⟨h, rfl, by simpa using hflag⟩

theorem restart_call_owned (h : OwnedAt env c tracee hand)
    (hpending : tracee.has_pending_syscall = false) :
    Holds (restart_call config env tracee) c (fun _ c' => Owned env c' hand)
      (fun _ c' => Owned env c' hand) := by
  unfold restart_call
  rw [holds_bind]
  apply h.then (flush_unfinished_syscalls_kept _)
  · intro _ c₁ h₁
    have hslots := h₁.slots _ _ h₁.known
    have hempty := hslots.pending_empty hpending
    rw [holds_store]
    refine OwnedAt.toOwned (h₁.store _ rfl ?_ ?_)
    · exact ⟨fun hready => absurd hready (by simp), fun _ => rfl, fun hflag => absurd hflag (by simp),
        fun _ => rfl⟩
    · show tracee.interrupted_syscall.texts ++ [] = tracee.pending_syscall.texts ++ _
      rw [hempty, List.append_nil, List.nil_append]
  · exact fun _ _ h => h.toOwned

theorem report_interrupted_owned (h : OwnedAt env c tracee hand)
    (hpending : tracee.has_pending_syscall = false) :
    Holds (report_interrupted config env tracee) c
      (fun tracee' c' => OwnedAt env c' tracee' hand ∧ tracee'.has_pending_syscall = false ∧
        tracee'.interrupted_restart_ready = false)
      (fun _ c' => Owned env c' hand) := by
  unfold report_interrupted
  split
  · simp only [holds_bind, holds_store]
    have h₁ := h.store_interrupted { tracee.interrupted_syscall with
      result := -1, error_number := EINTR, completed := true } rfl
    apply h₁.then clock_gettime_kept
    · intro exited_at c₁ h₂
      have h₃ := h₂.store_interrupted { tracee.interrupted_syscall with
        result := -1, error_number := EINTR, completed := true, exited_at := exited_at } rfl
      apply h₃.then (write_syscall_kept _)
      · intro _ c₂ h₄
        have hslots := h₄.slots _ _ h₄.known
        refine ⟨h₄.release _ _ rfl ?_ ?_, hpending, rfl⟩
        · exact ⟨fun hready => absurd hready (by simp), fun _ => rfl, hslots.pending_empty,
            fun _ => rfl⟩
        · intro text
          simp only [Tracee.count_texts, SyscallEvent.texts_without_texts, List.count_nil]
          omega
      · exact fun _ _ h => h.toOwned
    · exact fun _ _ h => h.toOwned
  · rename_i hflag
    refine ⟨h, hpending, ?_⟩
    have hready := (h.slots _ _ h.known).ready
    cases hr : tracee.interrupted_restart_ready with
    | false => rfl
    | true =>
      rw [hready hr, hr] at hflag
      simp at hflag

/-- **A capture** puts new texts into the hand. -/
theorem sg_decoder_capture_entry_owned (h : OwnedAt env c tracee hand) (tid : Pid)
    (event : SyscallEvent) :
    Holds (sg_decoder_capture_entry env tid event) c
      (fun event' c' => OwnedAt env c' tracee (event'.texts ++ hand))
      (fun _ c' => Owned env c' hand) := by
  unfold sg_decoder_capture_entry
  simp only [holds_bind, holds_context_ask]
  split
  · rename_i argument_count decoded_arguments hcapture
    have hissues : ∀ text ∈ decoded_arguments.toList.reduceOption, env.Issues c.asked text :=
      fun text hmem => ⟨tid, event, argument_count, decoded_arguments, hcapture, hmem⟩
    refine ⟨⟨h.slots, ?_, ?_, ?_⟩, h.known⟩
    · show (c.captured ++ decoded_arguments.toList.reduceOption).Perm
        (c.released ++ c.tracees.texts ++ (decoded_arguments.toList.reduceOption ++ hand))
      rw [List.perm_iff_count]
      intro text
      have hcount := h.count_eq text
      simp only [List.count_append]
      omega
    · intro text hmem
      obtain hold | hnew := List.mem_append.mp hmem
      · obtain ⟨n, hn, hissued⟩ := h.issued text hold
        exact ⟨n, Nat.lt_succ_of_lt hn, hissued⟩
      · exact ⟨c.asked, Nat.lt_succ_self _, hissues text hnew⟩
    · intro htokens
      refine List.nodup_append.mpr ⟨h.distinct htokens, htokens.once _ _ _ _ _ hcapture, ?_⟩
      intro text hold other hnew hsame
      subst hsame
      -- The text was issued before, and the question is a new one.
      obtain ⟨n, hn, hissued⟩ := h.issued text hold
      exact absurd (htokens.fresh _ _ text hissued (hissues text hnew)) hn.ne
  · exact h.toOwned.kept ⟨⟨rfl, rfl, Nat.le_succ _⟩, rfl⟩

theorem make_call_owned (h : OwnedAt env c tracee hand) (number : UInt64)
    (arguments : Vector UInt64 6) :
    Holds (make_call config env tracee number arguments) c
      (fun event c' => OwnedAt env c' tracee (event.texts ++ hand))
      (fun _ c' => Owned env c' hand) := by
  unfold make_call
  dsimp only
  split
  · rw [holds_bind]
    apply h.then clock_gettime_kept
    · intro entered_at c₁ h₁
      split
      · exact h₁
      · exact sg_decoder_capture_entry_owned h₁ _ _
    · exact fun _ _ h => h.toOwned
  · exact h

theorem enter_call_owned (h : OwnedAt env c tracee hand)
    (hpending : tracee.has_pending_syscall = false)
    (hready : tracee.interrupted_restart_ready = false) (number : UInt64)
    (arguments : Vector UInt64 6) :
    Holds (enter_call config env tracee number arguments) c (fun _ c' => Owned env c' hand)
      (fun _ c' => Owned env c' hand) := by
  -- The new call goes from the hand to the empty slot.
  have hstore : ∀ {event : SyscallEvent} {c₁ : Context},
      OwnedAt env c₁ tracee (event.texts ++ hand) →
      Owned env { c₁ with tracees := c₁.tracees.write { tracee with
        pending_syscall := event
        has_pending_syscall := true
        phase := .SG_TRACEE_IN_SYSCALL } } hand := by
    intro event c₁ h₁
    have hslots := h₁.slots _ _ h₁.known
    refine OwnedAt.toOwned (h₁.put _ rfl ?_ ?_)
    · exact ⟨hslots.ready, fun _ => hready, fun hflag => absurd hflag (by simp),
        hslots.interrupted_empty⟩
    · intro text
      simp only [Tracee.count_texts, hslots.pending_empty hpending, List.count_nil,
        List.count_append]
      omega
  unfold enter_call
  rw [holds_bind]
  apply (make_call_owned h number arguments).mono
  · intro event c₁ h₁
    dsimp only
    split
    · rw [holds_bind, holds_onError]
      apply h₁.then (flush_unfinished_syscalls_kept _)
      · exact fun _ c₂ h₂ => hstore h₂
      · exact fun _ c₂ h₂ => h₂.toOwned.give rfl rfl rfl le_rfl
    · exact hstore h₁
  · exact fun _ _ h => h

/-- **An entry** keeps the balance. -/
theorem begin_syscall_owned (h : OwnedAt env c tracee hand) (number : UInt64)
    (arguments : Vector UInt64 6) :
    Holds (begin_syscall config env tracee number arguments) c (fun _ c' => Owned env c' hand)
      (fun _ c' => Owned env c' hand) := by
  unfold begin_syscall
  split
  · exact h.toOwned
  · rw [holds_bind]
    apply (leave_pending_owned h).mono
    · intro tracee₁ c₁ hpost
      obtain ⟨h₁, -, hpending⟩ := hpost
      split
      · exact restart_call_owned h₁ hpending
      · rw [holds_bind]
        apply (report_interrupted_owned h₁ hpending).mono
        · intro tracee₂ c₂ hpost
          obtain ⟨h₂, hpending₂, hready⟩ := hpost
          exact enter_call_owned h₂ hpending₂ hready number arguments
        · exact fun _ _ h => h
    · exact fun _ _ h => h

/-- A restart result: the interrupted call, if there is one, gives way to the pending one. -/
theorem interrupt_call_owned (h : OwnedAt env c tracee hand) :
    Holds (interrupt_call tracee) c (fun _ c' => Owned env c' hand)
      (fun _ c' => Owned env c' hand) := by
  have hslots := h.slots _ _ h.known
  have hnew : tracee.interrupted.Slots :=
    ⟨fun _ => rfl, fun hflag => absurd hflag (by simp [Tracee.interrupted]), fun _ => rfl,
      fun hflag => absurd hflag (by simp [Tracee.interrupted])⟩
  have htexts : tracee.interrupted.texts = [] ++ tracee.pending_syscall.texts := rfl
  unfold interrupt_call
  dsimp only
  split
  · simp only [holds_bind]
    refine (h.release _ tracee.interrupted rfl hnew ?_).toOwned
    intro text
    rw [htexts, Tracee.count_texts, List.nil_append]
  · rename_i hflag
    refine (h.store tracee.interrupted rfl hnew ?_).toOwned
    have hempty := hslots.interrupted_empty (by simpa using hflag)
    rw [htexts]
    unfold Tracee.texts
    rw [hempty, List.append_nil, List.nil_append]

/-- From `c` to `c'` texts have been released and taken out of a record that is not yet
    stored; its pending call is the same. -/
structure Settles (c : Context) (old : Tracee) (given : List Text) (tracee : Tracee) (c' : Context) :
    Prop where
  tracees : c'.tracees = c.tracees
  captured : c'.captured = c.captured
  released : c'.released = c.released ++ given
  asked : c'.asked = c.asked
  tid : tracee.tid = old.tid
  pending : tracee.pending_syscall = old.pending_syscall
  texts : ∀ text, old.interrupted_syscall.texts.count text =
    tracee.interrupted_syscall.texts.count text + given.count text
  ready : tracee.interrupted_restart_ready = true → tracee.has_interrupted_syscall = true
  interrupted_empty : tracee.has_interrupted_syscall = false →
    tracee.interrupted_syscall.texts = []

theorem Settles.of_texts {tracee' : Tracee} (htid : tracee'.tid = tracee.tid)
    (hpending : tracee'.pending_syscall = tracee.pending_syscall)
    (htexts : tracee'.interrupted_syscall.texts = tracee.interrupted_syscall.texts)
    (hready : tracee'.interrupted_restart_ready = true → tracee'.has_interrupted_syscall = true)
    (hempty : tracee'.has_interrupted_syscall = false → tracee'.interrupted_syscall.texts = []) :
    Settles c tracee [] tracee' c where
  tracees := rfl
  captured := rfl
  released := (List.append_nil _).symm
  asked := rfl
  tid := htid
  pending := hpending
  texts text := by rw [htexts]; simp
  ready := hready
  interrupted_empty := hempty

/-- The interrupted call is kept, or released and dropped. -/
theorem settle_interrupted_settles (hslots : tracee.Slots)
    (hpending : tracee.has_pending_syscall = true) {E : String → Context → Prop} :
    Holds (settle_interrupted tracee) c (fun settled c' => ∃ given, Settles c tracee given settled c')
      E := by
  have hready : tracee.interrupted_restart_ready = false := hslots.pending hpending
  have hsame : Settles c tracee [] tracee c :=
    .of_texts rfl rfl rfl hslots.ready hslots.interrupted_empty
  unfold settle_interrupted
  split
  · rename_i hflag
    split
    · exact ⟨[], .of_texts rfl rfl rfl (fun _ => hflag) hslots.interrupted_empty⟩
    · split
      · refine ⟨tracee.interrupted_syscall.texts, rfl, rfl, rfl, rfl, rfl, rfl, ?_, ?_, fun _ => rfl⟩
        · intro text
          simp only [SyscallEvent.texts_without_texts, List.count_nil]
          omega
        · intro h
          rw [hready] at h
          simp at h
      · exact ⟨[], hsame⟩
  · exact ⟨[], hsame⟩

theorem stamp_exit_kept (event : SyscallEvent) :
    Travels (stamp_exit config env event) SlotsKept := by
  unfold stamp_exit
  apply travels_ite
  · apply travels_bind clock_gettime_kept
    exact fun _ => travels_pure _
  · exact travels_pure _

/-- The time of the exit is all that is stamped. -/
theorem stamp_exit_texts (event : SyscallEvent) :
    Holds (stamp_exit config env event) c
      (fun stamped c' => SlotsKept c c' ∧ stamped.texts = event.texts)
      (fun _ c' => SlotsKept c c') := by
  apply ((stamp_exit_kept event c).and (stamp_exit_spec event)).mono
  · intro stamped c' hpost
    obtain ⟨hkept, ⟨exited_at, hstamped⟩, -⟩ := hpost
    exact ⟨hkept, by rw [hstamped]; rfl⟩
  · exact fun _ _ h => h.1

theorem complete_call_owned (h : OwnedAt env c tracee hand)
    (hpending : tracee.has_pending_syscall = true) (rval : Int) (is_error : Bool) :
    Holds (complete_call config env tracee rval is_error) c (fun _ c' => Owned env c' hand)
      (fun _ c' => Owned env c' hand) := by
  unfold complete_call
  simp only [holds_bind, holds_store]
  have h₁ := h.store_pending { tracee.pending_syscall with
    result := rval, error_number := exit_error rval is_error } rfl
  apply (stamp_exit_texts _).mono
  · intro stamped c₁ hpost
    obtain ⟨hkept, htexts⟩ := hpost
    have h₂ := h₁.kept hkept
    have h₃ := h₂.store_pending { stamped with completed := true } htexts
    apply h₃.then (write_syscall_kept _)
    · intro _ c₂ h₄
      have hslots := h₄.slots _ _ h₄.known
      apply (settle_interrupted_settles hslots hpending).mono
      · intro settled c₃ hpost
        obtain ⟨given, hs⟩ := hpost
        let event : SyscallEvent := { stamped with completed := true }
        let done : Tracee := { settled with
          pending_syscall := event.without_texts
          has_pending_syscall := false
          phase := .SG_TRACEE_STOPPED }
        refine OwnedAt.toOwned (h₄.write done (given ++ event.texts) hs.tid ?_ ?_ hs.captured ?_ ?_ ?_)
        · exact ⟨hs.ready, fun hflag => absurd hflag (by simp), fun _ => rfl, hs.interrupted_empty⟩
        · show c₃.tracees.write _ = _
          rw [hs.tracees]
        · show c₃.released ++ _ = _
          rw [hs.released, List.append_assoc]
          rfl
        · exact hs.asked.ge
        · intro text
          have hmoved : tracee.interrupted_syscall.texts.count text =
              settled.interrupted_syscall.texts.count text + given.count text := hs.texts text
          simp only [Tracee.count_texts, List.count_append]
          show event.texts.count text + tracee.interrupted_syscall.texts.count text +
              hand.count text = 0 + settled.interrupted_syscall.texts.count text +
                (given.count text + event.texts.count text) + hand.count text
          omega
      · exact fun _ _ h => h
    · exact fun _ _ h => h.toOwned
  · exact fun _ _ hkept => (h₁.kept hkept).toOwned

/-- **An exit** keeps the balance. -/
theorem finish_syscall_owned (h : OwnedAt env c tracee hand) (rval : Int) (is_error : Bool) :
    Holds (finish_syscall config env tracee rval is_error) c (fun _ c' => Owned env c' hand)
      (fun _ c' => Owned env c' hand) := by
  have hslots := h.slots _ _ h.known
  unfold finish_syscall
  split
  · rw [holds_store]
    exact OwnedAt.toOwned (h.store _ rfl ⟨hslots.ready, hslots.pending, hslots.pending_empty,
      hslots.interrupted_empty⟩ rfl)
  · rename_i hflag
    split
    · exact interrupt_call_owned h
    · exact complete_call_owned h (by simpa using hflag) rval is_error

end calls

/-! ### Records come and go -/

section records
variable {config : Config} {env : Env} {c c' : Context} {hand : List Text} {source tracee : Tracee}
  {tid : Pid}

theorem Tracee.registered_slots (tid tgid : Pid) (attached newborn : Bool) :
    (Tracee.registered tid tgid attached newborn).Slots :=
  ⟨fun h => absurd (show false = true from h) Bool.false_ne_true, fun _ => rfl, fun _ => rfl,
    fun _ => rfl⟩

theorem add_tracee_kept (tid tgid : Pid) (attached newborn : Bool) :
    Travels (add_tracee env tid tgid attached newborn) TextsKept := by
  intro c
  unfold add_tracee
  rw [holds_bind, holds_context_ask, holds_bind, holds_get]
  dsimp only
  rw [holds_bind, holds_set]
  -- A failed insertion, the store into a new record, a TID that is known already.
  split
  · exact ⟨rfl, rfl, Nat.le_succ _⟩
  · split
    · exact ⟨rfl, rfl, Nat.le_succ _⟩
    · exact ⟨rfl, rfl, Nat.le_succ _⟩

/-- A task that is registered brings no texts. -/
theorem Owned.registers {tgid : Pid} {attached newborn : Bool} (h : Owned env c hand)
    (hreg : Registers c tid tgid attached newborn c') (hkept : TextsKept c c') :
    Owned env c' hand := by
  have hself : c'.tracees.lookup tid = if c.tracees.lookup tid = none then
      some (.registered tid tgid attached newborn) else c.tracees.lookup tid := by
    rw [hreg.lookup]
    simp
  apply h.exchange tid []
  · intro other hne
    rw [hreg.lookup, if_neg (fun hboth => hne hboth.1)]
  · intro tracee hknown
    rw [hself] at hknown
    split at hknown
    · exact Option.some.inj hknown ▸ Tracee.registered_slots tid tgid attached newborn
    · exact h.slots tid tracee hknown
  · exact hkept.captured
  · rw [hkept.released, List.append_nil]
  · exact hkept.asked
  · intro text
    have hsame : c'.tracees.texts_at tid = c.tracees.texts_at tid := by
      unfold Tracees.texts_at
      rw [hself]
      split
      · rename_i hnone
        rw [hnone]
        rfl
      · rfl
    rw [hsame, List.count_nil]
    omega

theorem add_tracee_owned (h : Owned env c hand) (tid tgid : Pid) (attached newborn : Bool) :
    Holds (add_tracee env tid tgid attached newborn) c
      (fun _ c' => Owned env c' hand ∧ Registers c tid tgid attached newborn c')
      (fun _ c' => Owned env c' hand) := by
  apply ((add_tracee_kept tid tgid attached newborn c).and (add_tracee_spec _ _ _ _)).mono
  · intro _ c' hpost
    obtain ⟨hkept, -, -, hreg⟩ := hpost
    exact ⟨h.registers hreg hkept, hreg⟩
  · intro _ c' hpost
    obtain ⟨hkept, hsame, -⟩ := hpost
    exact h.kept ⟨hkept, hsame.tracees⟩

/-- The texts of a record that is removed go to the hand. -/
theorem Owned.remove (h : Owned env c hand) (tid : Pid) :
    Owned env { c with tracees := (c.tracees.remove tid).2 } (c.tracees.texts_at tid ++ hand) := by
  have hself : (c.tracees.remove tid).2.lookup tid = none := by
    rw [Tracees.lookup_remove, if_pos rfl]
  apply h.exchange tid []
  · intro other hne
    show (c.tracees.remove tid).2.lookup other = _
    rw [Tracees.lookup_remove, if_neg hne]
  · intro tracee hknown
    exact absurd (hself.symm.trans hknown) (by simp)
  · rfl
  · exact (List.append_nil _).symm
  · exact le_rfl
  · intro text
    rw [Tracees.texts_at_none hself, List.count_append, List.count_nil]
    omega

/-- `release_tracee` releases the texts of a record in the hand. -/
theorem Owned.release_tracee (h : Owned env c (tracee.texts ++ hand)) :
    Owned env (c.release_tracee tracee) hand :=
  h.give rfl rfl (List.append_assoc _ _ _) le_rfl

theorem remove_tracee_owned (h : Owned env c hand) (tid : Pid) {E : String → Context → Prop} :
    Holds (remove_tracee tid) c (fun _ c' => Owned env c' hand) E := by
  unfold remove_tracee
  rw [holds_modify]
  dsimp only
  have hremoved := h.remove tid
  rw [Tracees.remove_fst]
  cases hknown : c.tracees.lookup tid with
  | none =>
    rw [Tracees.texts_at_none hknown] at hremoved
    exact hremoved
  | some removed =>
    rw [Tracees.texts_at_some hknown] at hremoved
    exact hremoved.release_tracee

/-- The record in the hand takes the place of a new one, or is released. -/
theorem migrate_source_owned {waited former : Pid} (h : Owned env c (source.texts ++ hand))
    (hslots : source.Slots) (hwaited : c.tracees.lookup waited = none) :
    Holds (migrate_source env waited former source) c (fun _ c' => Owned env c' hand)
      (fun _ c' => Owned env c' hand) := by
  have hrenamed : (source.renamed waited).Slots :=
    ⟨hslots.ready, hslots.pending, hslots.pending_empty, hslots.interrupted_empty⟩
  unfold migrate_source
  simp only [holds_bind, holds_onError, holds_store]
  apply (add_tracee_owned h waited waited source.attached false).mono
  · intro _ c₁ hpost
    obtain ⟨h₁, hreg⟩ := hpost
    have hself : c₁.tracees.lookup waited =
        some (.registered waited waited source.attached false) := by
      rw [hreg.lookup, if_pos ⟨rfl, hwaited⟩]
    have h₂ : OwnedAt env c₁ (.registered waited waited source.attached false)
        (source.texts ++ hand) := ⟨h₁, hself⟩
    have h₃ : OwnedAt env { c₁ with tracees := c₁.tracees.write (source.renamed waited) }
        (source.renamed waited) hand := by
      apply h₂.put (source.renamed waited) rfl hrenamed
      intro text
      rw [List.count_append]
      exact Nat.zero_add _
    apply h₃.then (output_kept _)
    · intro _ c₂ h₄
      rw [holds_modify]
      split
      · exact h₄.toOwned.kept ⟨⟨rfl, rfl, le_rfl⟩, rfl⟩
      · exact h₄.toOwned
    · exact fun _ _ h => h.toOwned
  · intro _ c₁ h₁
    have hsame : (source.renamed waited).texts = source.texts := rfl
    rw [← hsame] at h₁
    exact h₁.release_tracee

/-- **The migration of an exec** keeps the balance: one of two records is kept, and the texts
    of the other one are released. -/
theorem migrate_exec_tid_owned (h : Owned env c hand) (waited former : Pid) :
    Holds (migrate_exec_tid config env waited former) c (fun _ c' => Owned env c' hand)
      (fun _ c' => Owned env c' hand) := by
  unfold migrate_exec_tid
  split
  · exact h
  · rename_i hne
    have hother : (c.tracees.remove former).2.lookup waited = c.tracees.lookup waited := by
      rw [Tracees.lookup_remove, if_neg (Ne.symm hne)]
    have hnone : ((c.tracees.remove former).2.remove waited).2.lookup waited = none := by
      rw [Tracees.lookup_remove, if_pos rfl]
    have hremoved : Owned env
        { c with tracees := ((c.tracees.remove former).2.remove waited).2 }
        ((c.tracees.remove former).2.texts_at waited ++ (c.tracees.texts_at former ++ hand)) :=
      (h.remove former).remove waited
    rw [holds_bind, holds_get]
    dsimp only
    rw [holds_bind, holds_set, Tracees.remove_fst, Tracees.remove_fst, hother]
    generalize ((c.tracees.remove former).2.remove waited).2 = tracees at hremoved hnone ⊢
    cases hsource : c.tracees.lookup former with
    | some source =>
      have hslots := h.slots former source hsource
      rw [Tracees.texts_at_some hsource] at hremoved
      cases hreplaced : c.tracees.lookup waited with
      | some replaced =>
        rw [Tracees.texts_at_some (hother.trans hreplaced)] at hremoved
        dsimp only
        rw [holds_bind, holds_modify]
        exact migrate_source_owned hremoved.release_tracee hslots hnone
      | none =>
        rw [Tracees.texts_at_none (hother.trans hreplaced)] at hremoved
        exact migrate_source_owned hremoved hslots hnone
    | none =>
      rw [Tracees.texts_at_none hsource] at hremoved
      cases hreplaced : c.tracees.lookup waited with
      | some replaced =>
        have hslots := h.slots waited replaced hreplaced
        rw [Tracees.texts_at_some (hother.trans hreplaced)] at hremoved
        exact migrate_source_owned hremoved hslots hnone
      | none =>
        rw [Tracees.texts_at_none (hother.trans hreplaced)] at hremoved
        dsimp only
        rw [holds_bind]
        apply (add_tracee_owned hremoved _ _ _ _).mono
        · intro _ c₁ hpost
          apply (output_kept _ c₁).mono
          · exact fun _ _ hkept => hpost.1.kept hkept
          · exact fun _ _ hkept => hpost.1.kept hkept
        · exact fun _ _ h => h

end records

end Sysgaze
