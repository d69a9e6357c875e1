import Sysgaze.Lib.Fallible

/-! # Programs that keep an invariant

    `Keeps I J m s` says that `m`, run from `s`, ends in a state with `I` when it succeeds
    and in a state with `J` when it fails.  `J` is what is left of the invariant when a
    program gives up half-way.

    The rules follow the shape of the program.  Where the state before a step matters, the
    step is taken by `keeps_get_bind` or by a specification of its own (`keeps_of_holds`).
-/

namespace Fallible

variable {ε σ α β γ : Type}

/-- Success ends in `I`, failure in `J`. -/
def Keeps (I J : σ → Prop) (m : Fallible ε σ α) (s : σ) : Prop :=
  Holds m s (fun _ s' => I s') (fun _ s' => J s')

section rules
variable {I J : σ → Prop} {m m' : Fallible ε σ α} {f : α → Fallible ε σ β} {s : σ}

theorem keeps_of_holds {Q : α → σ → Prop} {E : ε → σ → Prop} (h : Holds m s Q E)
    (hI : ∀ a s', Q a s' → I s') (hJ : ∀ e s', E e s' → J s') : Keeps I J m s :=
  h.mono hI hJ

theorem keeps_pure (a : α) (h : I s) : Keeps I J (pure a : Fallible ε σ α) s := h

theorem keeps_throw (e : ε) (h : J s) : Keeps I J (throw e : Fallible ε σ α) s := h

theorem keeps_modify {g : σ → σ} (h : I (g s)) : Keeps I J (modify g : Fallible ε σ PUnit) s := h

theorem keeps_bind (hm : Keeps I J m s) (hf : ∀ a s', I s' → Keeps I J (f a) s') :
    Keeps I J (m >>= f) s := by
  unfold Keeps
  rw [holds_bind]
  exact Holds.mono hm (fun a s' h => hf a s' h) (fun _ _ h => h)

/-- A step with a specification of its own, and what follows it. -/
theorem keeps_bind_of {Q : α → σ → Prop} (hm : Holds m s Q (fun _ s' => J s'))
    (hf : ∀ a s', Q a s' → Keeps I J (f a) s') : Keeps I J (m >>= f) s := by
  unfold Keeps
  rw [holds_bind]
  exact hm.mono (fun a s' h => hf a s' h) (fun _ _ h => h)

theorem keeps_get_bind {g : σ → Fallible ε σ β} (h : Keeps I J (g s) s) :
    Keeps I J (get >>= g) s := h

theorem keeps_ite {c : Prop} [Decidable c] (hm : c → Keeps I J m s) (hm' : ¬c → Keeps I J m' s) :
    Keeps I J (if c then m else m') s := by
  split
  · rename_i h
    exact hm h
  · rename_i h
    exact hm' h

theorem keeps_onError {cleanup : σ → σ} (hm : Keeps I J m s) (h : ∀ s', J s' → J (cleanup s')) :
    Keeps I J (onError m cleanup) s := by
  unfold Keeps
  rw [holds_onError]
  exact Holds.mono hm (fun _ _ hI => hI) (fun _ s' hJ => h s' hJ)

theorem keeps_forM (xs : List γ) {g : γ → Fallible ε σ PUnit} (h : I s)
    (hg : ∀ x ∈ xs, ∀ s', I s' → Keeps I J (g x) s') : Keeps I J (xs.forM g) s := by
  induction xs generalizing s with
  | nil => exact h
  | cons x xs ih =>
    show Keeps I J (g x >>= fun _ => xs.forM g) s
    apply keeps_bind (hg x List.mem_cons_self s h)
    intro _ s' h'
    exact ih h' fun y hy => hg y (List.mem_cons_of_mem x hy)

/-- What holds in either case holds at the end. -/
theorem Keeps.at_end (h : Keeps I J m s) (hI : ∀ s', I s' → J s') : J (m.finalState s) :=
  Holds.at_end (Holds.mono h (fun _ s' hs => hI s' hs) fun _ _ hs => hs)

/-- What holds after a success holds at the end of a run that succeeds. -/
theorem Keeps.at_success (h : Keeps I J m s) (hsucceeds : m.succeeds s = true) :
    I (m.finalState s) := by
  unfold Keeps Holds at h
  unfold succeeds at hsucceeds
  unfold finalState
  split at h
  · rename_i a t hrun
    rw [hrun]
    exact h
  · rename_i e t hrun
    rw [hrun] at hsucceeds
    simp at hsucceeds

/-- A program ends in its final state. -/
theorem holds_final (m : Fallible ε σ α) (s : σ) :
    Holds m s (fun _ t => t = m.finalState s) (fun _ t => t = m.finalState s) := by
  unfold Holds finalState
  rcases m.exec s with ⟨_ | _, _⟩ <;> rfl

end rules

end Fallible
