import Mathlib.Algebra.Order.Ring.Nat
import RdmaIntercept.Library.Runs

/-!
# A limit that is checked against a copy

A count goes up by one at a time, and only while a copy of it is below a limit; the copy is
renewed now and then.  With at most `window` admissions on one copy the count never exceeds
`peak limit window`, which is the limit itself when every admission has a copy of its own
(`always_le_peak`, `peak_one_le`).
-/

set_option autoImplicit false

namespace RdmaIntercept.Library.StaleLimit

/-- The count, the copy, and the number of admissions since the copy was made. -/
structure State where
  count : ℕ
  seen : ℕ
  since : ℕ

/-- One step under the limit. -/
inductive Step (limit : ℕ) (s s' : State) : Prop
  | idle (hcount : s'.count ≤ s.count) (hseen : s'.seen = s.seen) (hsince : s'.since = s.since)
  | grant (hunder : s.seen < limit) (hcount : s'.count = s.count + 1) (hseen : s'.seen = s.seen)
      (hsince : s'.since = s.since + 1)
  | copy (hcount : s'.count ≤ s.count) (hseen : s'.count ≤ s'.seen) (hsince : s'.since = 0)

/-- The most that the count can reach. -/
def peak (limit window : ℕ) : ℕ := if limit = 0 ∨ window = 0 then 0 else limit - 1 + window

theorem peak_of_pos {limit window : ℕ} (hlimit : 0 < limit) (hwindow : 0 < window) :
    peak limit window = limit - 1 + window := if_neg (by omega)

theorem peak_one_le (limit : ℕ) : peak limit 1 ≤ limit := by
  unfold peak
  split
  · exact Nat.zero_le limit
  · omega

/-- What the steps keep. -/
structure Inv (limit window : ℕ) (s : State) : Prop where
  counted : s.count ≤ s.seen + s.since
  bounded : s.count ≤ peak limit window

theorem inv_zero (limit window seen since : ℕ) : Inv limit window ⟨0, seen, since⟩ :=
  ⟨Nat.zero_le _, Nat.zero_le _⟩

theorem Inv.step {limit window : ℕ} {s s' : State} (h : Inv limit window s)
    (hstep : Step limit s s') (hwindow : s'.since ≤ window) : Inv limit window s' := by
  obtain ⟨hcounted, hbounded⟩ := h
  cases hstep with
  | idle hcount hseen hsince => exact ⟨by omega, hcount.trans hbounded⟩
  | grant hunder hcount hseen hsince =>
    refine ⟨by omega, ?_⟩
    -- the check has seen less than the limit
    rw [peak_of_pos (by omega) (by omega)]
    omega
  | copy hcount hseen hsince => exact ⟨hseen.trans (Nat.le_add_right _ _), hcount.trans hbounded⟩

/-- The run rule: a system whose steps are such steps, in states that keep `I`, stays within
the peak. -/
theorem always_le_peak {σ ε : Type} {step : σ → ε → σ} {I : σ → Prop} {C : σ → ε → Prop}
    {limit window : ℕ} (proj : σ → State) (hI : ∀ s e, I s → C s e → I (step s e))
    (hstep : ∀ s e, I s → C s e → Step limit (proj s) (proj (step s e))) {s : σ} (hs : I s)
    (hinv : Inv limit window (proj s)) {es : List ε}
    (hrun : Along step (fun s e => C s e ∧ (proj (step s e)).since ≤ window) s es) :
    Always step (fun s => (proj s).count ≤ peak limit window) s es := by
  have hkept : Always step (fun s => I s ∧ Inv limit window (proj s)) s es := by
    refine always_of_step ?_ ⟨hs, hinv⟩ hrun
    rintro s e ⟨hs, hinv⟩ ⟨hC, hwindow⟩
    exact ⟨hI s e hs hC, hinv.step (hstep s e hs hC) hwindow⟩
  exact hkept.mono fun s h => h.2.bounded

end RdmaIntercept.Library.StaleLimit
