import Mathlib.Tactic.Common

/-! # Programs over a state that may fail

    `Fallible ε σ` is the monad of programs that read and write a state of
    type `σ` and may stop with an error of type `ε`.  Unlike in
    `StateT σ (Except ε)`, the state reached is kept when the program fails:
    what was written before the failure stays written.

    `Holds m s Q E` says that running `m` from `s` ends in a result and state
    related by `Q`, or fails in an error and state related by `E`.  The
    `holds_*` lemmas compute it along the structure of a program, so that a
    proof walks through the program once, and `Holds.mono` brings in the
    specification of a called program.
-/

/-- Programs over a state `σ` that may fail with `ε`, keeping the state. -/
abbrev Fallible (ε σ α : Type) := ExceptT ε (StateM σ) α

namespace Fallible

variable {ε σ α β : Type}

/-- Run a program: its result or error, and the state it leaves. -/
def exec (m : Fallible ε σ α) (s : σ) : Except ε α × σ := m.run s

/-- Running `m` from `s` ends in `Q`, or fails in `E`. -/
def Holds (m : Fallible ε σ α) (s : σ) (Q : α → σ → Prop) (E : ε → σ → Prop) : Prop :=
  match m.exec s with
  | (.ok a, t) => Q a t
  | (.error e, t) => E e t

/-- Run a program on a part of the state. -/
def zoom {τ : Type} (get : σ → τ) (put : σ → τ → σ) (m : Fallible ε τ α) : Fallible ε σ α :=
  fun s => let (r, t) := m.exec (get s); (r, put s t)

/-- Run `m`; the result is `none` when it fails, with the state it leaves behind. -/
def attempt (m : Fallible ε σ α) : Fallible ε σ (Option α) := fun s =>
  match m.exec s with
  | (.ok a, t) => (.ok (some a), t)
  | (.error _, t) => (.ok none, t)

/-- Run `cleanup` when `m` fails, and fail with the error of `m`. -/
def onError (m : Fallible ε σ α) (cleanup : σ → σ) : Fallible ε σ α :=
  fun s => match m.exec s with
    | (.ok a, t) => (.ok a, t)
    | (.error e, t) => (.error e, cleanup t)

section exec

@[simp] theorem exec_pure (a : α) (s : σ) : (pure a : Fallible ε σ α).exec s = (.ok a, s) := rfl

@[simp] theorem exec_throw (e : ε) (s : σ) :
    (throw e : Fallible ε σ α).exec s = (.error e, s) := rfl

@[simp] theorem exec_get (s : σ) : (get : Fallible ε σ σ).exec s = (.ok s, s) := rfl

@[simp] theorem exec_set (t s : σ) : (set t : Fallible ε σ PUnit).exec s = (.ok ⟨⟩, t) := rfl

@[simp] theorem exec_modify (f : σ → σ) (s : σ) :
    (modify f : Fallible ε σ PUnit).exec s = (.ok ⟨⟩, f s) := rfl

theorem exec_bind (m : Fallible ε σ α) (f : α → Fallible ε σ β) (s : σ) :
    (m >>= f).exec s = match m.exec s with
      | (.ok a, t) => (f a).exec t
      | (.error e, t) => (.error e, t) := by
  simp only [exec, bind, ExceptT.bind, ExceptT.run, ExceptT.mk, StateT.bind]
  rcases m s with ⟨r, t⟩
  cases r <;> rfl

/-- A program that succeeds is followed by what comes next. -/
theorem exec_bind_of_ok {m : Fallible ε σ α} {f : α → Fallible ε σ β} {s t : σ} {a : α}
    (h : m.exec s = (.ok a, t)) : (m >>= f).exec s = (f a).exec t := by
  rw [exec_bind, h]

theorem exec_map (f : α → β) (m : Fallible ε σ α) (s : σ) :
    (f <$> m).exec s = match m.exec s with
      | (.ok a, t) => (.ok (f a), t)
      | (.error e, t) => (.error e, t) := by
  simp only [exec, Functor.map, ExceptT.map, ExceptT.run, ExceptT.mk, bind, StateT.bind]
  rcases m s with ⟨r, t⟩
  cases r <;> rfl

@[simp] theorem exec_zoom {τ : Type} (get : σ → τ) (put : σ → τ → σ) (m : Fallible ε τ α)
    (s : σ) : (zoom get put m).exec s = ((m.exec (get s)).1, put s (m.exec (get s)).2) := rfl

theorem exec_attempt (m : Fallible ε σ α) (s : σ) :
    (attempt m).exec s = match m.exec s with
      | (.ok a, t) => (.ok (some a), t)
      | (.error _, t) => (.ok none, t) := rfl

theorem exec_onError (m : Fallible ε σ α) (cleanup : σ → σ) (s : σ) :
    (onError m cleanup).exec s = match m.exec s with
      | (.ok a, t) => (.ok a, t)
      | (.error e, t) => (.error e, cleanup t) := rfl

end exec

/-! ### Computing `Holds` -/

section holds
variable {s : σ} {Q Q' : α → σ → Prop} {R : β → σ → Prop} {E E' : ε → σ → Prop}

theorem holds_of_ok {m : Fallible ε σ α} {a : α} {t : σ} (h : m.exec s = (.ok a, t)) :
    Holds m s Q E ↔ Q a t := by
  rw [Holds, h]

@[simp] theorem holds_pure (a : α) : Holds (pure a : Fallible ε σ α) s Q E ↔ Q a s := Iff.rfl

@[simp] theorem holds_throw (e : ε) : Holds (throw e : Fallible ε σ α) s Q E ↔ E e s := Iff.rfl

@[simp] theorem holds_get {Q : σ → σ → Prop} :
    Holds (get : Fallible ε σ σ) s Q E ↔ Q s s := Iff.rfl

@[simp] theorem holds_modify (f : σ → σ) {Q : PUnit → σ → Prop} :
    Holds (modify f : Fallible ε σ PUnit) s Q E ↔ Q ⟨⟩ (f s) := Iff.rfl

@[simp] theorem holds_set (t : σ) {Q : PUnit → σ → Prop} :
    Holds (set t : Fallible ε σ PUnit) s Q E ↔ Q ⟨⟩ t := Iff.rfl

@[simp] theorem holds_bind (m : Fallible ε σ α) (f : α → Fallible ε σ β) :
    Holds (m >>= f) s R E ↔ Holds m s (fun a t => Holds (f a) t R E) E := by
  unfold Holds
  rw [exec_bind]
  rcases m.exec s with ⟨_ | _, _⟩ <;> rfl

@[simp] theorem holds_map (f : α → β) (m : Fallible ε σ α) :
    Holds (f <$> m) s R E ↔ Holds m s (fun a t => R (f a) t) E := by
  unfold Holds
  rw [exec_map]
  rcases m.exec s with ⟨_ | _, _⟩ <;> rfl

theorem holds_zoom {τ : Type} (get : σ → τ) (put : σ → τ → σ) (m : Fallible ε τ α) :
    Holds (zoom get put m) s Q E ↔
      Holds m (get s) (fun a t => Q a (put s t)) (fun e t => E e (put s t)) := by
  unfold Holds
  rw [exec_zoom]
  rcases m.exec (get s) with ⟨_ | _, _⟩ <;> rfl

@[simp] theorem holds_ite {c : Prop} [Decidable c] (m m' : Fallible ε σ α) :
    Holds (if c then m else m') s Q E ↔
      (c → Holds m s Q E) ∧ (¬c → Holds m' s Q E) := by
  split <;> simp_all

theorem holds_attempt {Q : Option α → σ → Prop} (m : Fallible ε σ α) :
    Holds (attempt m) s Q E ↔ Holds m s (fun a t => Q (some a) t) (fun _ t => Q none t) := by
  unfold Holds
  rw [exec_attempt]
  rcases m.exec s with ⟨_ | _, _⟩ <;> rfl

theorem holds_onError (m : Fallible ε σ α) (cleanup : σ → σ) :
    Holds (onError m cleanup) s Q E ↔ Holds m s Q (fun e t => E e (cleanup t)) := by
  unfold Holds
  rw [exec_onError]
  rcases m.exec s with ⟨_ | _, _⟩ <;> rfl

/-- The rule of consequence. -/
theorem Holds.mono {m : Fallible ε σ α} (h : Holds m s Q E)
    (hQ : ∀ a t, Q a t → Q' a t) (hE : ∀ e t, E e t → E' e t) : Holds m s Q' E' := by
  unfold Holds at *
  rcases hm : m.exec s with ⟨_ | _, _⟩ <;> rw [hm] at h
  · exact hE _ _ h
  · exact hQ _ _ h

/-- A program that meets two specifications meets both at once. -/
theorem Holds.and {m : Fallible ε σ α} (h : Holds m s Q E) (h' : Holds m s Q' E') :
    Holds m s (fun a t => Q a t ∧ Q' a t) (fun e t => E e t ∧ E' e t) := by
  unfold Holds at *
  rcases hm : m.exec s with ⟨_ | _, _⟩ <;> rw [hm] at h h' <;> exact ⟨h, h'⟩

/-- Nothing is asked of the program. -/
theorem holds_trivial (m : Fallible ε σ α) : Holds m s (fun _ _ => True) (fun _ _ => True) := by
  unfold Holds
  rcases m.exec s with ⟨_ | _, _⟩ <;> trivial

/-- A program that cannot fail ends in a result. -/
theorem Holds.exists_ok {m : Fallible ε σ α} (h : Holds m s Q (fun _ _ => False)) :
    ∃ a t, m.exec s = (.ok a, t) ∧ Q a t := by
  unfold Holds at h
  rcases hm : m.exec s with ⟨_ | a, t⟩ <;> rw [hm] at h
  · exact h.elim
  · exact ⟨a, t, rfl, h⟩

/-- What a successful run satisfies. -/
theorem Holds.of_ok {m : Fallible ε σ α} (h : Holds m s Q E) {a : α} {t : σ}
    (hm : m.exec s = (.ok a, t)) : Q a t := by
  rwa [Holds, hm] at h

/-- What a failed run satisfies. -/
theorem Holds.of_error {m : Fallible ε σ α} (h : Holds m s Q E) {e : ε} {t : σ}
    (hm : m.exec s = (.error e, t)) : E e t := by
  rwa [Holds, hm] at h

/-- The rule for a loop over a list: an invariant that every round keeps. -/
theorem holds_forM {γ : Type} (xs : List γ) (f : γ → Fallible ε σ PUnit) {I : σ → Prop}
    (hround : ∀ x ∈ xs, ∀ t, I t → Holds (f x) t (fun _ u => I u) E) (hs : I s) :
    Holds (xs.forM f) s (fun _ t => I t) E := by
  induction xs generalizing s with
  | nil => exact hs
  | cons x xs ih =>
    show Holds (f x >>= fun _ => xs.forM f) s _ E
    rw [holds_bind]
    refine (hround x (by simp) s hs).mono (fun _ t ht => ?_) (fun _ _ h => h)
    exact ih (fun y hy => hround y (by simp [hy])) ht

end holds

/-- The state a program leaves, whether it failed or not. -/
def finalState (m : Fallible ε σ α) (s : σ) : σ := (m.exec s).2

/-- Did the program end without a failure? -/
def succeeds (m : Fallible ε σ α) (s : σ) : Bool :=
  match (m.exec s).1 with
  | .ok _ => true
  | .error _ => false

/-- What holds of the state in either case holds of the final state. -/
theorem Holds.at_end {m : Fallible ε σ α} {s : σ} {P : σ → Prop}
    (h : Holds m s (fun _ t => P t) (fun _ t => P t)) : P (m.finalState s) := by
  unfold finalState
  unfold Holds at h
  rcases hm : m.exec s with ⟨_ | _, _⟩ <;> rw [hm] at h <;> exact h

/-- A run without a failure ends in its final state. -/
theorem exec_of_succeeds {m : Fallible ε σ Unit} {s : σ} (h : m.succeeds s = true) :
    m.exec s = (.ok (), m.finalState s) := by
  unfold succeeds finalState at *
  rcases hm : m.exec s with ⟨_ | ⟨⟩, t⟩
  · rw [hm] at h
    simp at h
  · rfl

section succeeds
variable {m : Fallible ε σ α} {s : σ}

theorem succeeds_iff : m.succeeds s = true ↔ ∃ a t, m.exec s = (.ok a, t) := by
  unfold succeeds
  rcases hm : m.exec s with ⟨_ | a, t⟩
  · simp
  · simp

theorem Holds.succeeds {Q : α → σ → Prop} (h : Holds m s Q (fun _ _ => False)) :
    m.succeeds s = true := by
  obtain ⟨a, t, hexec, -⟩ := h.exists_ok
  exact succeeds_iff.mpr ⟨a, t, hexec⟩

/-- A program that succeeds in one case and fails in the other. -/
theorem Holds.succeeds_iff {P : Prop} (h : Holds m s (fun _ _ => P) (fun _ _ => ¬P)) :
    m.succeeds s = true ↔ P := by
  unfold Holds at h
  unfold Fallible.succeeds
  rcases hm : m.exec s with ⟨_ | a, t⟩
  · rw [hm] at h
    exact ⟨fun hfalse => absurd hfalse Bool.false_ne_true, fun hp => absurd hp h⟩
  · rw [hm] at h
    exact ⟨fun _ => h, fun _ => rfl⟩

/-- A sequence succeeds when its first part does and then its second. -/
theorem succeeds_bind {f : α → Fallible ε σ β} : (m >>= f).succeeds s = true ↔
    ∃ a t, m.exec s = (.ok a, t) ∧ (f a).succeeds t = true := by
  unfold Fallible.succeeds
  rw [exec_bind]
  rcases m.exec s with ⟨_ | a, t⟩
  · simp
  · simp

end succeeds

/-! ### The errors of a program -/

/-- Every error of `m`, run from any state, satisfies `P`. -/
def Throws (m : Fallible ε σ α) (P : ε → Prop) : Prop :=
  ∀ s, Holds m s (fun _ _ => True) (fun e _ => P e)

section throws
variable {P : ε → Prop}

theorem throws_pure (a : α) : Throws (pure a : Fallible ε σ α) P := fun _ => trivial

theorem throws_get : Throws (get : Fallible ε σ σ) P := fun _ => trivial

theorem throws_set (t : σ) : Throws (set t : Fallible ε σ PUnit) P := fun _ => trivial

theorem throws_modify (f : σ → σ) : Throws (modify f : Fallible ε σ PUnit) P := fun _ => trivial

theorem throws_throw {e : ε} (h : P e) : Throws (throw e : Fallible ε σ α) P := fun _ => h

theorem throws_bind {m : Fallible ε σ α} {f : α → Fallible ε σ β} (hm : Throws m P)
    (hf : ∀ a, Throws (f a) P) : Throws (m >>= f) P := by
  intro s
  rw [holds_bind]
  exact (hm s).mono (fun a t _ => hf a t) (fun _ _ h => h)

theorem throws_ite {c : Prop} [Decidable c] {m m' : Fallible ε σ α} (hm : c → Throws m P)
    (hm' : ¬c → Throws m' P) : Throws (if c then m else m') P := by
  intro s
  rw [holds_ite]
  exact ⟨fun hc => hm hc s, fun hc => hm' hc s⟩

theorem throws_zoom {τ : Type} (get : σ → τ) (put : σ → τ → σ) {m : Fallible ε τ α}
    (hm : Throws m P) : Throws (zoom get put m) P := by
  intro s
  rw [holds_zoom]
  exact hm (get s)

theorem throws_onError {m : Fallible ε σ α} (cleanup : σ → σ) (hm : Throws m P) :
    Throws (onError m cleanup) P := by
  intro s
  rw [holds_onError]
  exact hm s

theorem throws_forM {γ : Type} (xs : List γ) {f : γ → Fallible ε σ PUnit}
    (hf : ∀ x, Throws (f x) P) : Throws (xs.forM f) P := by
  intro s
  exact holds_forM xs f (fun x _ t _ => hf x t) trivial

/-- What a program does besides, and what its errors are. -/
theorem Holds.throwing {m : Fallible ε σ α} {s : σ} {Q : α → σ → Prop} {E : ε → σ → Prop}
    (h : Holds m s Q E) (hm : Throws m P) : Holds m s Q (fun e _ => P e) :=
  (h.and (hm s)).mono (fun _ _ h => h.1) (fun _ _ h => h.2)

end throws

/-! ### What a program leaves alone -/

/-- `m`, run from any state, leaves what `view` shows of the state as it is, also when it fails. -/
def Preserves {τ : Type} (m : Fallible ε σ α) (view : σ → τ) : Prop :=
  ∀ s, Holds m s (fun _ t => view t = view s) (fun _ t => view t = view s)

section preserves
variable {τ : Type} {view : σ → τ}

/-- From a state that shows the same as `s`. -/
theorem Preserves.holds {m : Fallible ε σ α} (h : Preserves m view) {s s' : σ}
    (hs : view s' = view s) :
    Holds m s' (fun _ t => view t = view s) (fun _ t => view t = view s) := by
  rw [← hs]
  exact h s'

theorem preserves_pure (a : α) : Preserves (pure a : Fallible ε σ α) view := fun _ => rfl

theorem preserves_get : Preserves (get : Fallible ε σ σ) view := fun _ => rfl

theorem preserves_throw (e : ε) : Preserves (throw e : Fallible ε σ α) view := fun _ => rfl

theorem preserves_modify {f : σ → σ} (h : ∀ s, view (f s) = view s) :
    Preserves (modify f : Fallible ε σ PUnit) view := h

theorem preserves_bind {m : Fallible ε σ α} {f : α → Fallible ε σ β} (hm : Preserves m view)
    (hf : ∀ a, Preserves (f a) view) : Preserves (m >>= f) view := by
  intro s
  rw [holds_bind]
  apply (hm s).mono
  · intro a t ht
    exact (hf a).holds ht
  · intro _ _ h
    exact h

/-- A program that reads the state first. -/
theorem preserves_get_bind {f : σ → Fallible ε σ β}
    (hf : ∀ s, Holds (f s) s (fun _ t => view t = view s) (fun _ t => view t = view s)) :
    Preserves (get >>= f) view := by
  intro s
  rw [holds_bind, holds_get]
  exact hf s

theorem preserves_ite {c : Prop} [Decidable c] {m m' : Fallible ε σ α} (hm : Preserves m view)
    (hm' : Preserves m' view) : Preserves (if c then m else m') view := by
  intro s
  rw [holds_ite]
  exact ⟨fun _ => hm s, fun _ => hm' s⟩

theorem preserves_zoom {π : Type} {get : σ → π} {put : σ → π → σ} {m : Fallible ε π α}
    (h : ∀ s p, view (put s p) = view s) : Preserves (zoom get put m) view := by
  intro s
  rw [holds_zoom]
  apply (holds_trivial m).mono
  · intro _ p _
    exact h s p
  · intro _ p _
    exact h s p

theorem preserves_onError {m : Fallible ε σ α} {cleanup : σ → σ} (hm : Preserves m view)
    (h : ∀ s, view (cleanup s) = view s) : Preserves (onError m cleanup) view := by
  intro s
  rw [holds_onError]
  apply (hm s).mono
  · intro _ _ ht
    exact ht
  · intro _ t ht
    exact (h t).trans ht

theorem preserves_forM {γ : Type} (xs : List γ) {f : γ → Fallible ε σ PUnit}
    (hf : ∀ x, Preserves (f x) view) : Preserves (xs.forM f) view := by
  intro s
  have hloop : Holds (xs.forM f) s (fun _ t => view t = view s) (fun _ t => view t = view s) :=
    holds_forM xs f (fun x _ t ht => (hf x).holds ht) rfl
  exact hloop

end preserves

/-! ### Programs with other errors -/

/-- The program with its errors renamed. -/
def mapError {ε' : Type} (rename : ε → ε') (m : Fallible ε σ α) : Fallible ε' σ α := fun s =>
  match m.exec s with
  | (.ok a, t) => (.ok a, t)
  | (.error e, t) => (.error (rename e), t)

section mapError
variable {ε' : Type} {rename : ε → ε'} {m : Fallible ε σ α} {f : α → Fallible ε σ β}

/-- Programs that run alike are the same. -/
theorem ext_exec {m m' : Fallible ε σ α} (h : ∀ s, m.exec s = m'.exec s) : m = m' := funext h

theorem exec_mapError (s : σ) : (mapError rename m).exec s = match m.exec s with
    | (.ok a, t) => (.ok a, t)
    | (.error e, t) => (.error (rename e), t) := rfl

@[simp] theorem mapError_pure (a : α) :
    mapError rename (pure a : Fallible ε σ α) = pure a := rfl

@[simp] theorem mapError_throw (e : ε) :
    mapError rename (throw e : Fallible ε σ α) = throw (rename e) := rfl

theorem mapError_bind : mapError rename (m >>= f) =
    mapError rename m >>= fun a => mapError rename (f a) := by
  apply ext_exec
  intro s
  rw [exec_mapError, exec_bind, exec_bind, exec_mapError]
  rcases m.exec s with ⟨_ | a, t⟩
  · rfl
  · exact (exec_mapError t).symm

end mapError

end Fallible
