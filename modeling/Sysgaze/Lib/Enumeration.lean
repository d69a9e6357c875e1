import Mathlib.Data.Finset.Basic

/-! # Marking the members of a set that changes

    Somebody lists the members of a set and marks those that he finds, while members come
    and leave.  A list is not taken at once: it has those in it that are there all the time,
    and of those that come or leave meanwhile nothing is known.  A new member comes from one
    that is there, and it may inherit the mark.

    `Scan` keeps the books of the last list.  When a list has been gone through and nobody had
    to be marked, everybody is marked whose ancestors have not left unmarked meanwhile
    (`Scan.Rooted.complete`), and it stays so (`Scan.Complete.move`).
-/

namespace Enumeration

variable {α : Type}

/-- The set, the marks, and what has happened since the last list was begun. -/
structure Scan (α : Type) where
  members : Finset α
  marked : Finset α
  /-- Everybody who has ever been a member. -/
  known : Finset α
  /-- Those who have been there since the list was begun. -/
  present : Finset α
  /-- Those who have left since then, and were not marked. -/
  lost : Finset α

namespace Scan

/-- Nobody is marked, and no list has been begun. -/
def start (members : Finset α) : Scan α := ⟨members, ∅, members, ∅, ∅⟩

/-- A list is begun. -/
def begin (s : Scan α) : Scan α := { s with present := s.members, lost := ∅ }

/-- The books are in order. -/
structure Ok (s : Scan α) : Prop where
  present : s.present ⊆ s.members
  members : s.members ⊆ s.known
  marked : s.marked ⊆ s.known

/-- Whoever is not marked goes back to somebody who is not marked and has been there since the list
    was begun, or has left since then. -/
def Rooted (s : Scan α) : Prop :=
  ∀ x ∈ s.members, x ∉ s.marked → s.lost.Nonempty ∨ ∃ y ∈ s.present, y ∉ s.marked

/-- Whoever has been there since the list was begun is still to come in it, or has been done. -/
def Awaits (s : Scan α) (rest : List α) (done : Finset α) : Prop :=
  ∀ x ∈ s.present, x ∈ rest ∨ x ∈ done

/-- Everybody is marked. -/
def Complete (s : Scan α) : Prop := s.members ⊆ s.marked

/-- Of these nobody has come since the list was begun. -/
def Early (s : Scan α) (old : Finset α) : Prop := ∀ x ∈ s.members, x ∈ old → x ∈ s.present

section scan
variable {s : Scan α} {x : α} {rest : List α} {done old : Finset α}

theorem Ok.start (members : Finset α) : (Scan.start members).Ok :=
  ⟨Finset.empty_subset _, Finset.Subset.refl _, Finset.empty_subset _⟩

theorem Ok.begin (h : s.Ok) : s.begin.Ok := ⟨Finset.Subset.refl _, h.members, h.marked⟩

theorem Rooted.begin : s.begin.Rooted := fun x hx hmark => Or.inr ⟨x, hx, hmark⟩

theorem Early.begin : s.begin.Early old := fun _ hx _ => hx

/-- The next in the list had been done before, or he has left. -/
theorem Awaits.skip (h : s.Awaits (x :: rest) done) (hok : s.Ok) (hx : x ∈ done ∨ x ∉ s.members) :
    s.Awaits rest done := by
  intro y hy
  obtain hmem | hdone := h y hy
  · obtain rfl | hrest := List.mem_cons.mp hmem
    · exact hx.elim Or.inr fun hgone => absurd (hok.present hy) hgone
    · exact Or.inl hrest
  · exact Or.inr hdone

/-- At the end of a list everybody is marked who has been there all the time; the others go back to
    them, unless somebody has left unmarked. -/
theorem Rooted.complete (h : s.Rooted) (hawaits : s.Awaits [] done) (hdone : done ⊆ s.marked)
    (hlost : s.lost = ∅) : s.Complete := by
  intro x hx
  by_contra hmark
  obtain hleft | ⟨y, hy, hunmarked⟩ := h x hx hmark
  · rw [hlost] at hleft
    exact Finset.not_nonempty_empty hleft
  · obtain hnone | hy := hawaits y hy
    · exact absurd hnone List.not_mem_nil
    · exact hunmarked (hdone hy)

end scan

section moves
variable [DecidableEq α]

/-- A new member comes. -/
def come (inherits : Bool) (s : Scan α) (parent child : α) : Scan α :=
  { s with
    members := insert child s.members
    known := insert child s.known
    marked := if inherits = true ∧ parent ∈ s.marked then insert child s.marked else s.marked }

/-- A member leaves. -/
def leave (s : Scan α) (x : α) : Scan α :=
  { s with
    members := s.members.erase x
    present := s.present.erase x
    lost := if x ∈ s.marked then s.lost else insert x s.lost }

/-- A member is marked. -/
def mark (s : Scan α) (x : α) : Scan α := { s with marked := insert x s.marked }

/-- What the members do by themselves. -/
inductive Move (inherits : Bool) (s : Scan α) : Scan α → Prop
  | comes {parent child : α} : parent ∈ s.members → child ∉ s.known →
      Move inherits s (s.come inherits parent child)
  | leaves {x : α} : x ∈ s.members → Move inherits s (s.leave x)

variable {inherits : Bool} {s s' : Scan α} {parent child x y : α} {rest : List α}
  {done old : Finset α}

@[simp] theorem mem_members_come :
    y ∈ (s.come inherits parent child).members ↔ y = child ∨ y ∈ s.members :=
  Finset.mem_insert

@[simp] theorem mem_known_come :
    y ∈ (s.come inherits parent child).known ↔ y = child ∨ y ∈ s.known :=
  Finset.mem_insert

@[simp] theorem mem_marked_come : y ∈ (s.come inherits parent child).marked ↔
    y ∈ s.marked ∨ y = child ∧ inherits = true ∧ parent ∈ s.marked := by
  unfold come
  dsimp only
  split
  · rename_i h
    rw [Finset.mem_insert]
    exact ⟨fun hy => hy.symm.imp_right fun heq => ⟨heq, h⟩, fun hy => (hy.imp_right And.left).symm⟩
  · rename_i h
    exact ⟨Or.inl, fun hy => hy.resolve_right fun hinherits => h hinherits.2⟩

@[simp] theorem mem_members_leave : y ∈ (s.leave x).members ↔ y ≠ x ∧ y ∈ s.members :=
  Finset.mem_erase

@[simp] theorem mem_present_leave : y ∈ (s.leave x).present ↔ y ≠ x ∧ y ∈ s.present :=
  Finset.mem_erase

@[simp] theorem mem_lost_leave : y ∈ (s.leave x).lost ↔ y ∈ s.lost ∨ y = x ∧ x ∉ s.marked := by
  unfold leave
  dsimp only
  split
  · rename_i h
    exact ⟨Or.inl, fun hy => hy.resolve_right fun hlost => hlost.2 h⟩
  · rename_i h
    rw [Finset.mem_insert]
    exact ⟨fun hy => hy.symm.imp_right fun heq => ⟨heq, h⟩, fun hy => (hy.imp_right And.left).symm⟩

@[simp] theorem mem_marked_mark : y ∈ (s.mark x).marked ↔ y = x ∨ y ∈ s.marked :=
  Finset.mem_insert

theorem Ok.mark (h : s.Ok) (hx : x ∈ s.members) : (s.mark x).Ok :=
  ⟨h.present, h.members, Finset.insert_subset (h.members hx) h.marked⟩

theorem Ok.move (h : s.Ok) (hmove : s.Move inherits s') : s'.Ok := by
  cases hmove with
  | comes hparent hchild =>
    refine ⟨fun y hy => ?_, fun y hy => ?_, fun y hy => ?_⟩
    · exact mem_members_come.mpr (Or.inr (h.present hy))
    · exact mem_known_come.mpr ((mem_members_come.mp hy).imp_right fun hy => h.members hy)
    · exact mem_known_come.mpr ((mem_marked_come.mp hy).symm.imp And.left fun hy => h.marked hy)
  | leaves hx =>
    refine ⟨fun y hy => ?_, fun y hy => ?_, h.marked⟩
    · exact mem_members_leave.mpr ((mem_present_leave.mp hy).imp_right fun hy => h.present hy)
    · exact h.members (mem_members_leave.mp hy).2

/-- Whoever is marked stays so. -/
theorem Move.marked (hmove : s.Move inherits s') : s.marked ⊆ s'.marked := by
  cases hmove with
  | comes hparent hchild => exact fun y hy => mem_marked_come.mpr (Or.inl hy)
  | leaves hx => exact Finset.Subset.refl _

theorem Move.known (hmove : s.Move inherits s') : s.known ⊆ s'.known := by
  cases hmove with
  | comes hparent hchild => exact Finset.subset_insert _ _
  | leaves hx => exact Finset.Subset.refl _

theorem Move.present (hmove : s.Move inherits s') : s'.present ⊆ s.present := by
  cases hmove with
  | comes hparent hchild => exact Finset.Subset.refl _
  | leaves hx => exact Finset.erase_subset _ _

theorem Move.lost (hmove : s.Move inherits s') : s.lost ⊆ s'.lost := by
  cases hmove with
  | comes hparent hchild => exact Finset.Subset.refl _
  | leaves hx => exact fun y hy => mem_lost_leave.mpr (Or.inl hy)

/-- Nobody comes twice. -/
theorem Move.back (hmove : s.Move inherits s') (hx : x ∈ s.known) (hmem : x ∈ s'.members) :
    x ∈ s.members := by
  cases hmove with
  | comes hparent hchild =>
    obtain rfl | hmem := mem_members_come.mp hmem
    · exact absurd hx hchild
    · exact hmem
  | leaves _ => exact (mem_members_leave.mp hmem).2

theorem Awaits.move (h : s.Awaits rest done) (hmove : s.Move inherits s') : s'.Awaits rest done :=
  fun x hx => h x (hmove.present hx)

/-- The next in the list has been done. -/
theorem Awaits.next (h : s.Awaits (x :: rest) done) : (s.mark x).Awaits rest (insert x done) := by
  intro y hy
  obtain hmem | hdone := h y hy
  · obtain rfl | hrest := List.mem_cons.mp hmem
    · exact Or.inr (Finset.mem_insert_self _ _)
    · exact Or.inl hrest
  · exact Or.inr (Finset.mem_insert_of_mem hdone)

theorem Early.move (h : s.Early old) (hold : old ⊆ s.known) (hmove : s.Move inherits s') :
    s'.Early old := by
  intro x hx hxold
  have hpresent := h x (hmove.back (hold hxold) hx) hxold
  cases hmove with
  | comes hparent hchild => exact hpresent
  | leaves _ => exact mem_present_leave.mpr ⟨(mem_members_leave.mp hx).1, hpresent⟩

/-- **A move** makes nobody unmarked who does not go back to such a one: a new member has the mark of
    the one that he comes from, and whoever leaves unmarked is written down. -/
theorem Rooted.move (h : s.Rooted) (hok : s.Ok) (hmove : s.Move true s') : s'.Rooted := by
  intro x hx hmark
  cases hmove with
  | @comes parent child hparent hchild =>
    have hroot : ∃ z ∈ s.members, z ∉ s.marked := by
      obtain rfl | hx := mem_members_come.mp hx
      · exact ⟨parent, hparent, fun hmem => hmark (mem_marked_come.mpr (Or.inr ⟨rfl, rfl, hmem⟩))⟩
      · exact ⟨x, hx, fun hmem => hmark (mem_marked_come.mpr (Or.inl hmem))⟩
    obtain ⟨z, hz, hunmarked⟩ := hroot
    refine (h z hz hunmarked).imp_right ?_
    rintro ⟨y, hy, hunmarked⟩
    refine ⟨y, hy, fun hmem => ?_⟩
    -- The new one has not been there since the list was begun.
    obtain hmem | ⟨rfl, -, -⟩ := mem_marked_come.mp hmem
    · exact hunmarked hmem
    · exact hchild (hok.members (hok.present hy))
  | @leaves z hz =>
    obtain ⟨hne, hx⟩ := mem_members_leave.mp hx
    obtain ⟨y, hy⟩ | ⟨y, hy, hunmarked⟩ := h x hx hmark
    · exact Or.inl ⟨y, mem_lost_leave.mpr (Or.inl hy)⟩
    · by_cases heq : y = z
      · exact Or.inl ⟨y, mem_lost_leave.mpr (Or.inr ⟨heq, heq ▸ hunmarked⟩)⟩
      · exact Or.inr ⟨y, mem_present_leave.mpr ⟨heq, hy⟩, hunmarked⟩

/-- When everybody is marked it stays so. -/
theorem Complete.move (h : s.Complete) (hmove : s.Move true s') : s'.Complete := by
  intro x hx
  cases hmove with
  | comes hparent hchild =>
    obtain rfl | hx := mem_members_come.mp hx
    · exact mem_marked_come.mpr (Or.inr ⟨rfl, rfl, h hparent⟩)
    · exact mem_marked_come.mpr (Or.inl (h hx))
  | leaves hz => exact h (mem_members_leave.mp hx).2

end moves

end Scan

end Enumeration
