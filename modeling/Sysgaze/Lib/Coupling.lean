import Sysgaze.Lib.Fallible

/-! # One program followed by another

    `Follows m m' s t Q R` says that whenever `m`, run from `s`, succeeds, `m'`,
    run from `t`, either succeeds as well, and `Q` relates how the two end, or
    gives up, and `R` relates the two states.  This is a forward simulation in
    which the second program may give up early; `R` then has to survive what
    the first one goes on to do.

    `Advances m G` says that success moves the state of `m` along the preorder
    `G`.  It is what keeps `R` alive: `R` need only be stable under `G`.  `Travels m G`
    says so of a failure too.
-/

namespace Fallible

variable {ε ε' σ τ α β γ δ : Type}

/-! ### Programs that move along a preorder -/

/-- Success moves the state along `G`. -/
def Advances (m : Fallible ε σ α) (G : σ → σ → Prop) : Prop :=
  ∀ s, Holds m s (fun _ s' => G s s') (fun _ _ => True)

section advances
variable {G : σ → σ → Prop}

theorem advances_pure [Std.Refl G] (a : α) : Advances (pure a : Fallible ε σ α) G :=
  fun s => Std.Refl.refl s

theorem advances_get [Std.Refl G] : Advances (get : Fallible ε σ σ) G :=
  fun s => Std.Refl.refl s

theorem advances_modify {f : σ → σ} (h : ∀ s, G s (f s)) :
    Advances (modify f : Fallible ε σ PUnit) G := fun s => h s

theorem advances_throw (e : ε) : Advances (throw e : Fallible ε σ α) G := fun _ => trivial

theorem advances_bind [IsTrans σ G] {m : Fallible ε σ α} {f : α → Fallible ε σ β}
    (hm : Advances m G) (hf : ∀ a, Advances (f a) G) : Advances (m >>= f) G := by
  intro s
  rw [holds_bind]
  apply (hm s).mono
  · intro a s' hs
    exact ((hf a) s').mono (fun _ _ h => IsTrans.trans _ _ _ hs h) (fun _ _ h => h)
  · intro _ _ h
    exact h

theorem advances_ite {c : Prop} [Decidable c] {m m' : Fallible ε σ α} (hm : Advances m G)
    (hm' : Advances m' G) : Advances (if c then m else m') G := by
  split
  · exact hm
  · exact hm'

theorem advances_onError {m : Fallible ε σ α} (cleanup : σ → σ) (hm : Advances m G) :
    Advances (onError m cleanup) G := by
  intro s
  rw [holds_onError]
  exact (hm s).mono (fun _ _ h => h) (fun _ _ _ => trivial)

/-- A program on a part of the state that `G` does not look at. -/
theorem advances_zoom {π : Type} {get : σ → π} {put : σ → π → σ} (m : Fallible ε π α)
    (h : ∀ s part, G s (put s part)) : Advances (zoom get put m) G := by
  intro s
  rw [holds_zoom]
  exact (holds_trivial m).mono (fun _ part _ => h s part) (fun _ _ _ => trivial)

theorem advances_forM [IsPreorder σ G] {γ : Type} (xs : List γ) {f : γ → Fallible ε σ PUnit}
    (hf : ∀ x, Advances (f x) G) : Advances (xs.forM f) G := by
  intro s
  apply holds_forM xs f (I := fun s' => G s s')
  · intro x _ s' hs
    exact ((hf x) s').mono (fun _ _ h => IsTrans.trans _ _ _ hs h) (fun _ _ h => h)
  · exact Std.Refl.refl s

end advances

/-! ### Programs that move along a preorder even when they fail -/

/-- Success and failure move the state along `G`. -/
def Travels (m : Fallible ε σ α) (G : σ → σ → Prop) : Prop :=
  ∀ s, Holds m s (fun _ s' => G s s') (fun _ s' => G s s')

section travels
variable {G : σ → σ → Prop}

theorem travels_pure [Std.Refl G] (a : α) : Travels (pure a : Fallible ε σ α) G :=
  fun s => Std.Refl.refl s

theorem travels_throw [Std.Refl G] (e : ε) : Travels (throw e : Fallible ε σ α) G :=
  fun s => Std.Refl.refl s

theorem travels_get [Std.Refl G] : Travels (get : Fallible ε σ σ) G :=
  fun s => Std.Refl.refl s

theorem travels_modify {f : σ → σ} (h : ∀ s, G s (f s)) :
    Travels (modify f : Fallible ε σ PUnit) G := fun s => h s

theorem travels_bind [IsTrans σ G] {m : Fallible ε σ α} {f : α → Fallible ε σ β}
    (hm : Travels m G) (hf : ∀ a, Travels (f a) G) : Travels (m >>= f) G := by
  intro s
  rw [holds_bind]
  apply (hm s).mono
  · intro a s' hs
    exact ((hf a) s').mono (fun _ _ h => IsTrans.trans _ _ _ hs h)
      (fun _ _ h => IsTrans.trans _ _ _ hs h)
  · intro _ _ h
    exact h

theorem travels_ite {c : Prop} [Decidable c] {m m' : Fallible ε σ α} (hm : Travels m G)
    (hm' : Travels m' G) : Travels (if c then m else m') G := by
  split
  · exact hm
  · exact hm'

/-- A program on a part of the state that `G` does not look at. -/
theorem travels_zoom {π : Type} {get : σ → π} {put : σ → π → σ} (m : Fallible ε π α)
    (h : ∀ s part, G s (put s part)) : Travels (zoom get put m) G := by
  intro s
  rw [holds_zoom]
  exact (holds_trivial m).mono (fun _ part _ => h s part) (fun _ part _ => h s part)

theorem travels_forM [IsPreorder σ G] {γ : Type} (xs : List γ) {f : γ → Fallible ε σ PUnit}
    (hf : ∀ x, Travels (f x) G) : Travels (xs.forM f) G := by
  intro s
  apply holds_forM xs f (I := fun s' => G s s')
  · intro x _ s' hs
    exact ((hf x) s').mono (fun _ _ h => IsTrans.trans _ _ _ hs h)
      (fun _ _ h => IsTrans.trans _ _ _ hs h)
  · exact Std.Refl.refl s

end travels

/-! ### Following -/

/-- Whenever `m` succeeds, `m'` succeeds, and `Q` relates how they end, or it gives up with
    `R`. -/
def Follows (m : Fallible ε σ α) (m' : Fallible ε' τ β) (s : σ) (t : τ)
    (Q : α → σ → β → τ → Prop) (R : σ → τ → Prop) : Prop :=
  ∀ a s', m.exec s = (.ok a, s') → Holds m' t (fun b t' => Q a s' b t') (fun _ t' => R s' t')

section rules
variable {m : Fallible ε σ α} {m' : Fallible ε' τ β} {s : σ} {t : τ} {Q Q' : α → σ → β → τ → Prop}
  {R R' : σ → τ → Prop}

/-- Two specifications, put side by side. -/
theorem follows_of_holds {P : α → σ → Prop} {P' : β → τ → Prop} {E : ε → σ → Prop}
    {E' : ε' → τ → Prop} (h : Holds m s P E) (h' : Holds m' t P' E')
    (hR : ∀ a s' e t', P a s' → E' e t' → R s' t') :
    Follows m m' s t (fun a s' b t' => P a s' ∧ P' b t') R := by
  intro a s' hm
  have hP := h.of_ok hm
  exact h'.mono (fun _ _ hP' => ⟨hP, hP'⟩) (fun _ _ hE' => hR _ _ _ _ hP hE')

theorem Follows.mono (h : Follows m m' s t Q R) (hQ : ∀ a s' b t', Q a s' b t' → Q' a s' b t')
    (hR : ∀ s' t', R s' t' → R' s' t') : Follows m m' s t Q' R' := by
  intro a s' hm
  exact (h a s' hm).mono (fun _ _ hq => hQ _ _ _ _ hq) (fun _ _ hr => hR _ _ hr)

theorem follows_pure {a : α} {b : β} (h : Q a s b t) :
    Follows (pure a : Fallible ε σ α) (pure b : Fallible ε' τ β) s t Q R := by
  intro a' s' hm
  cases hm
  exact h

/-- A program that fails is followed by any other. -/
theorem follows_throw (e : ε) (m' : Fallible ε' τ β) :
    Follows (throw e : Fallible ε σ α) m' s t Q R := by
  intro a s' hm
  simp at hm

theorem follows_get {Q : σ → σ → τ → τ → Prop} (h : Q s s t t) :
    Follows (get : Fallible ε σ σ) (get : Fallible ε' τ τ) s t Q R := by
  intro a s' hm
  cases hm
  exact h

theorem follows_modify {f : σ → σ} {g : τ → τ} {Q : PUnit → σ → PUnit → τ → Prop}
    (h : Q ⟨⟩ (f s) ⟨⟩ (g t)) :
    Follows (modify f : Fallible ε σ PUnit) (modify g : Fallible ε' τ PUnit) s t Q R := by
  intro a s' hm
  cases hm
  exact h

/-- One program after the other: when the second has given up, the first goes on. -/
theorem follows_bind {G : σ → σ → Prop} {R₁ : σ → τ → Prop} (hR : ∀ s s' t, G s s' → R₁ s t → R s' t)
    {f : α → Fallible ε σ γ} {g : β → Fallible ε' τ δ} {Q' : γ → σ → δ → τ → Prop}
    (h : Follows m m' s t Q R₁) (hadvances : ∀ a, Advances (f a) G)
    (hnext : ∀ a s' b t', Q a s' b t' → Follows (f a) (g b) s' t' Q' R) :
    Follows (m >>= f) (m' >>= g) s t Q' R := by
  intro c s'' hm
  rw [exec_bind] at hm
  rcases hms : m.exec s with ⟨_ | a, s'⟩
  · rw [hms] at hm
    simp at hm
  rw [hms] at hm
  rw [holds_bind]
  apply (h a s' hms).mono
  · intro b t' hQ
    exact hnext a s' b t' hQ c s'' hm
  · intro e t' hgiven
    exact hR s' s'' t' ((hadvances a s').of_ok hm) hgiven

/-- The same after a step at which the second program does not give up. -/
theorem follows_then {f : α → Fallible ε σ γ} {g : β → Fallible ε' τ δ}
    {Q' : γ → σ → δ → τ → Prop} (h : Follows m m' s t Q fun _ _ => False)
    (hnext : ∀ a s' b t', Q a s' b t' → Follows (f a) (g b) s' t' Q' R) :
    Follows (m >>= f) (m' >>= g) s t Q' R :=
  follows_bind (G := fun _ _ => True) (fun _ _ _ _ hfalse => hfalse.elim) h
    (fun _ _ => holds_trivial _) hnext

/-- Two programs that branch on the same condition. -/
theorem follows_ite {c c' : Prop} [Decidable c] [Decidable c'] {n : Fallible ε σ α}
    {n' : Fallible ε' τ β} (hc : c ↔ c') (hthen : c → Follows m m' s t Q R)
    (helse : ¬c → Follows n n' s t Q R) :
    Follows (if c then m else n) (if c' then m' else n') s t Q R := by
  by_cases h : c
  · rw [if_pos h, if_pos (hc.mp h)]
    exact hthen h
  · rw [if_neg h, if_neg fun h' => h (hc.mpr h')]
    exact helse h

/-- What the first program cleans up does not matter, as it succeeds. -/
theorem follows_onError {f : σ → σ} {g : τ → τ} (hR : ∀ s t, R s t → R s (g t))
    (h : Follows m m' s t Q R) : Follows (onError m f) (onError m' g) s t Q R := by
  intro a s' hm
  rw [exec_onError] at hm
  have hms : m.exec s = (.ok a, s') := by
    rcases hms : m.exec s with ⟨_ | a, s₁⟩
    · rw [hms] at hm
      simp at hm
    · rw [hms] at hm
      exact hm
  rw [holds_onError]
  exact (h a s' hms).mono (fun _ _ hq => hq) (fun _ t' hr => hR s' t' hr)

end rules

end Fallible
