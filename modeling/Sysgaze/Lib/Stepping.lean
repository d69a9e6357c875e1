import Mathlib.Data.List.Induction
import Mathlib.Tactic.Common

/-! # Machines that handle one input at a time

    A `Machine` takes a state and an input to the next state and says whether
    it goes on to another input.  `Reaches M ok start h s` says that `M`,
    started in `start`, has handled the inputs `h`, gone on after each of them,
    and now stands in `s` before its next input.  The predicate `ok` restricts
    the inputs; it sees the inputs handled so far and the state before the step.

    The rules: an invariant that every step keeps holds in every state reached
    (`Reaches.invariant`), one history leads to one state (`Reaches.unique`), and a
    run that has been computed reaches its last state (`reaches_of_run_at`).
-/

namespace Stepping

variable {σ ι : Type*}

/-- One step: the next state, and whether the machine goes on. -/
abbrev Machine (σ ι : Type*) := σ → ι → σ × Bool

/-- The state `M` stands in before its next input, after the inputs `h`. -/
inductive Reaches (M : Machine σ ι) (ok : List ι → σ → ι → Prop) (start : σ) :
    List ι → σ → Prop
  | refl : Reaches M ok start [] start
  | snoc {h : List ι} {s s' : σ} {i : ι} : Reaches M ok start h s → ok h s i →
      M s i = (s', true) → Reaches M ok start (h ++ [i]) s'

variable {M : Machine σ ι} {ok ok' : List ι → σ → ι → Prop} {start s : σ} {h : List ι}

/-- **The invariant rule.** -/
theorem Reaches.invariant {I : List ι → σ → Prop} (hinit : I [] start)
    (hstep : ∀ h s i s', I h s → ok h s i → M s i = (s', true) → I (h ++ [i]) s')
    (hr : Reaches M ok start h s) : I h s := by
  induction hr with
  | refl => exact hinit
  | snoc _ hok hM ih => exact hstep _ _ _ _ ih hok hM

/-- The last input of a non-empty history was allowed and led here. -/
theorem Reaches.of_snoc {i : ι} (hr : Reaches M ok start (h ++ [i]) s) :
    ∃ s₀, Reaches M ok start h s₀ ∧ ok h s₀ i ∧ M s₀ i = (s, true) := by
  generalize hg : h ++ [i] = g at hr
  cases hr with
  | refl => simp at hg
  | snoc hr hok hM =>
    obtain ⟨rfl, hi⟩ := List.append_inj' hg rfl
    simp only [List.cons.injEq, and_true] at hi
    exact ⟨_, hr, hi ▸ hok, hi ▸ hM⟩

/-- A machine is a function: one history leads to one state. -/
theorem Reaches.unique {s' : σ} (hr : Reaches M ok start h s)
    (hr' : Reaches M ok' start h s') : s = s' := by
  induction hr generalizing s' with
  | refl =>
    generalize hg : ([] : List ι) = g at hr'
    cases hr' with
    | refl => rfl
    | snoc => simp at hg
  | snoc _ _ hM ih =>
    obtain ⟨s₀, hr₀, -, hM'⟩ := hr'.of_snoc
    rw [ih hr₀, hM'] at hM
    exact (Prod.mk.inj hM).1.symm

/-- Every prefix of the history has been reached. -/
theorem Reaches.of_append {h' : List ι} (hr : Reaches M ok start (h ++ h') s) :
    ∃ s₀, Reaches M ok start h s₀ := by
  induction h' using List.reverseRecOn generalizing s with
  | nil => exact ⟨s, by simpa using hr⟩
  | append_singleton h' i ih =>
    rw [← List.append_assoc] at hr
    obtain ⟨s₀, hr₀, -, -⟩ := hr.of_snoc
    exact ih hr₀

/-- The state after the inputs, when the machine goes on after each of them. -/
def run (M : Machine σ ι) : σ → List ι → Option σ
  | s, [] => some s
  | s, i :: is =>
    match M s i with
    | (s', true) => run M s' is
    | (_, false) => none

theorem run_append (M : Machine σ ι) (h h' : List ι) :
    ∀ s, run M s (h ++ h') = (run M s h).bind fun s' => run M s' h' := by
  induction h with
  | nil => intro s; rfl
  | cons i h ih =>
    intro s
    rw [List.cons_append, run, run]
    split
    · exact ih _
    · rfl

/-- A run whose inputs are all allowed where they come reaches its last state. -/
theorem reaches_of_run_at
    (hok : ∀ (k : Fin h.length) s₁, run M start (h.take k) = some s₁ → ok (h.take k) s₁ (h.get k))
    (hrun : run M start h = some s) : Reaches M ok start h s := by
  induction h using List.reverseRecOn generalizing s with
  | nil =>
    cases hrun
    exact .refl
  | append_singleton h i ih =>
    have hlast := hrun
    rw [run_append] at hlast
    obtain ⟨s₀, hs₀, hlast⟩ := Option.bind_eq_some_iff.mp hlast
    have hr : Reaches M ok start h s₀ := by
      apply ih _ hs₀
      intro k s₁
      have hk : k.1 < (h ++ [i]).length := by
        rw [List.length_append]
        omega
      have := hok ⟨k.1, hk⟩ s₁
      simpa [List.take_append_of_le_length (Nat.le_of_lt k.2)] using this
    have hi : ok h s₀ i := by
      have := hok ⟨h.length, by simp⟩ s₀
      simpa [hs₀] using this
    have hstep : M s₀ i = (s, true) := by
      rw [run] at hlast
      split at hlast
      · rename_i s' hM
        rw [hM, run] at *
        rw [Option.some.inj hlast]
      · simp at hlast
    exact hr.snoc hi hstep

/-- A run whose inputs are allowed anywhere reaches its last state. -/
theorem reaches_of_run (hok : ∀ (k : Fin h.length) s₁, ok (h.take k) s₁ (h.get k))
    (hrun : run M start h = some s) : Reaches M ok start h s :=
  reaches_of_run_at (fun k s₁ _ => hok k s₁) hrun

/-- The machine that stops at an input which fails a check. -/
def Machine.checked (M : Machine σ ι) (check : σ → ι → Bool) : Machine σ ι :=
  fun s i => if check s i then M s i else (s, false)

/-- A run whose inputs pass a check where they come reaches its last state. -/
theorem reaches_of_checked {check : σ → ι → Bool}
    (hok : ∀ h s i, check s i = true → ok h s i)
    (hrun : run (Machine.checked M check) start h = some s) : Reaches M ok start h s := by
  have hr : Reaches (Machine.checked M check) (fun _ _ _ => True) start h s :=
    reaches_of_run (fun _ _ => trivial) hrun
  clear hrun
  induction hr with
  | refl => exact .refl
  | snoc _ _ hM ih =>
    unfold Machine.checked at hM
    split at hM
    · rename_i hcheck
      exact ih.snoc (hok _ _ _ hcheck) hM
    · simp at hM

end Stepping
