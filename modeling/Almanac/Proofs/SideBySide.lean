import Almanac.Outcome
import Mathlib.Data.List.Forall2

/-!
# Sessions side by side

Two sessions are compared step by step. A relation between their states that every pair of
steps keeps holds all along, and whatever it says of the outcomes of one pair of steps it says
of all of them. The sessions may run on states of different kinds.

* `history_forall₂`: **a relation that single steps keep is kept by whole sessions.**
* `history_leave_out`: so it is if one of the sessions leaves out steps that the relation does
  not notice.
-/

namespace Almanac.Outcome

variable {σ σ' α α' ι ι' : Type} {step : σ → ι → Outcome σ α} {step' : σ' → ι' → Outcome σ' α'}

/-- **A relation that single steps keep is kept by whole sessions.** `Q` is what a pair of
steps comes to in states that are related by `R`. -/
theorem history_forall₂ {R : σ → σ' → Prop} {P : ι → ι' → Prop}
    {Q : ι × Outcome σ α → ι' × Outcome σ' α' → Prop}
    (hstep : ∀ s s' i i', R s s' → P i i' →
      Q (i, step s i) (i', step' s' i') ∧ R (step s i).state (step' s' i').state)
    {steps : List ι} {steps' : List ι'} (hsteps : List.Forall₂ P steps steps') {s : σ} {s' : σ'}
    (h : R s s') : List.Forall₂ Q (history step s steps) (history step' s' steps') := by
  induction hsteps generalizing s s' with
  | nil => exact .nil
  | cons hi _ ih =>
    obtain ⟨hQ, hR⟩ := hstep s s' _ _ h hi
    rw [history_cons, history_cons]
    exact .cons hQ (ih hR)

/-- **Steps that the relation does not notice can be left out of one session.** The steps that
are left come to the same by `Q` as they do beside those that were left out. -/
theorem history_leave_out {R : σ → σ → Prop} {Q : ι × Outcome σ α → ι × Outcome σ α → Prop}
    (isKept : ι → Bool) {steps : List ι}
    (hkept : ∀ s s' i, R s s' →
      Q (i, step s i) (i, step s' i) ∧ R (step s i).state (step s' i).state)
    (hleft : ∀ i ∈ steps, isKept i = false → ∀ s s', R s s' → R (step s i).state s') {s s' : σ}
    (h : R s s') :
    List.Forall₂ Q ((history step s steps).filter fun p => isKept p.1)
      (history step s' (steps.filter isKept)) := by
  induction steps generalizing s s' with
  | nil => exact .nil
  | cons i rest ih =>
    have hrest := fun j hj => hleft j (List.mem_cons_of_mem i hj)
    rw [history_cons]
    cases hi : isKept i with
    | true =>
      obtain ⟨hQ, hR⟩ := hkept s s' i h
      simp only [List.filter_cons, hi, if_true, history_cons]
      exact .cons hQ (ih hrest hR)
    | false =>
      simp only [List.filter_cons, hi, Bool.false_eq_true, if_false]
      exact ih hrest (hleft i List.mem_cons_self hi s s' h)

end Almanac.Outcome
