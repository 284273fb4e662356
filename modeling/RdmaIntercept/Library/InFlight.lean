import Mathlib.Algebra.BigOperators.Group.Finset.Piecewise
import Mathlib.Algebra.Order.BigOperators.Group.Finset
import Mathlib.Tactic.Common

/-!
# Work in flight

Every process of a finite set is in some phase, and a phase carries some amount of work
that has been begun and not been accounted for yet.  The total (`inFlight`) moves with
the phase of one process at a time; it is zero when nobody carries any.
-/

set_option autoImplicit false

namespace RdmaIntercept.Library

variable {ι φ : Type}

/-- The work that the processes carry together. -/
def inFlight (procs : Finset ι) (weight : φ → ℕ) (phase : ι → φ) : ℕ :=
  ∑ p ∈ procs, weight (phase p)

variable {procs : Finset ι} {weight : φ → ℕ} {phase : ι → φ}

theorem inFlight_eq_zero (h : ∀ p ∈ procs, weight (phase p) = 0) :
    inFlight procs weight phase = 0 := Finset.sum_eq_zero h

variable [DecidableEq ι]

/-- One process changes its phase. -/
theorem inFlight_update {p : ι} (hp : p ∈ procs) (x : φ) :
    inFlight procs weight (Function.update phase p x) + weight (phase p) =
      inFlight procs weight phase + weight x := by
  have hrest : ∑ q ∈ procs.erase p, weight (Function.update phase p x q) =
      ∑ q ∈ procs.erase p, weight (phase q) := by
    apply Finset.sum_congr rfl
    intro q hq
    rw [Function.update_of_ne (Finset.ne_of_mem_erase hq)]
  unfold inFlight
  rw [← Finset.add_sum_erase procs _ hp, ← Finset.add_sum_erase procs (fun q => weight (phase q)) hp,
    hrest, Function.update_self]
  omega

/-- A phase of the same weight leaves the total. -/
theorem inFlight_update_eq {p : ι} {x : φ} (h : weight x = weight (phase p)) :
    inFlight procs weight (Function.update phase p x) = inFlight procs weight phase := by
  unfold inFlight
  apply Finset.sum_congr rfl
  intro q _
  by_cases hq : q = p
  · rw [hq, Function.update_self, h]
  · rw [Function.update_of_ne hq]

/-- A phase of no greater weight does not raise the total. -/
theorem inFlight_update_le {p : ι} {x : φ} (h : weight x ≤ weight (phase p)) :
    inFlight procs weight (Function.update phase p x) ≤ inFlight procs weight phase := by
  unfold inFlight
  apply Finset.sum_le_sum
  intro q _
  by_cases hq : q = p
  · rw [hq, Function.update_self]
    exact h
  · rw [Function.update_of_ne hq]

end RdmaIntercept.Library
