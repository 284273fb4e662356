import RdmaIntercept.Library.Runs

/-!
# Unwinding

Noninterference of a deterministic system.  Some events of a run are visible and the
others are not; the visible ones answer something.  If a relation between states survives
an invisible event on one side, and a visible event on both sides with equal answers,
then a run and what is left of it without its invisible events end in related states and
give the same answers to the visible ones (`unwinding`).  Two events are taken for the
same when they perform the same action, so that the shorter run may perform it at another
time.
-/

set_option autoImplicit false

namespace RdmaIntercept.Library

variable {σ ε α ρ : Type} (step : σ → ε → σ) (answer : σ → ε → ρ) (action : ε → α)

/-- The answers to the visible events of a run, in their order. -/
def answers (visible : α → Prop) [DecidablePred visible] : σ → List ε → List ρ
  | _, [] => []
  | s, e :: es =>
    if visible (action e) then answer s e :: answers visible (step s e) es
    else answers visible (step s e) es

variable {step answer action} {visible : α → Prop} [DecidablePred visible]
variable {R : σ → σ → Prop} {C : σ → ε → Prop}

/-- The unwinding rule. -/
theorem unwinding
    (hidden : ∀ s s' e, R s s' → C s e → ¬ visible (action e) → R (step s e) s')
    (shown : ∀ s s' e e', R s s' → C s e → visible (action e) → action e' = action e →
      R (step s e) (step s' e') ∧ answer s' e' = answer s e)
    {s s' : σ} {es es' : List ε} (hR : R s s') (hC : Along step C s es)
    (hes : es'.map action = (es.map action).filter fun a => decide (visible a)) :
    R (exec step s es) (exec step s' es') ∧
      answers step answer action visible s' es' = answers step answer action visible s es := by
  induction es generalizing s s' es' with
  | nil =>
    obtain rfl : es' = [] := by simpa using hes
    exact ⟨hR, rfl⟩
  | cons e es ih =>
    by_cases hv : visible (action e)
    · rw [List.map_cons, List.filter_cons_of_pos (by simpa using hv)] at hes
      obtain ⟨e', es'', rfl, he', hes''⟩ := List.map_eq_cons_iff.mp hes
      obtain ⟨hnext, hanswer⟩ := shown s s' e e' hR hC.1 hv he'
      obtain ⟨hlast, hrest⟩ := ih hnext hC.2 hes''
      refine ⟨hlast, ?_⟩
      rw [answers, answers, he', if_pos hv, if_pos hv, hanswer, hrest]
    · rw [List.map_cons, List.filter_cons_of_neg (by simpa using hv)] at hes
      obtain ⟨hlast, hrest⟩ := ih (hidden s s' e hR hC.1 hv) hC.2 hes
      refine ⟨hlast, ?_⟩
      rw [hrest]
      conv_rhs => rw [answers, if_neg hv]

end RdmaIntercept.Library
