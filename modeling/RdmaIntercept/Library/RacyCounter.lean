import Mathlib.Algebra.Order.Ring.Nat
import Mathlib.Logic.Function.Basic
import Mathlib.Tactic.Common
import RdmaIntercept.Library.Runs

/-!
# A counter that is increased without a lock

Each thread increases a counter of 64 bits by a load and a store of the loaded value plus one;
the loads and stores of several threads may fall in any order.  The counter never shows more
than the number of stores, and it shows that number exactly as long as every store finds the
value that its thread has loaded (`exact_iff`): one increase that is lost is never made up for,
although later stores may raise the counter by more than one.
-/

set_option autoImplicit false

namespace RdmaIntercept.Library.RacyCounter

open RdmaIntercept.Library

variable {T : Type}

/-- The counter, what each thread has loaded and not stored yet, and the number of stores. -/
structure State (T : Type) where
  value : UInt64
  loaded : T → Option UInt64
  stores : ℕ

inductive Event (T : Type)
  | load (t : T)
  | store (t : T)

/-- The store finds the value that was loaded for it. -/
def Fresh (s : State T) : Event T → Prop
  | .load _ => True
  | .store t => ∀ v, s.loaded t = some v → v = s.value

/-- The counter shows the number of stores. -/
structure Exact (start : ℕ) (s : State T) : Prop where
  value : s.value.toNat = start + s.stores
  loaded : ∀ t v, s.loaded t = some v → v.toNat ≤ start + s.stores

/-- An increase has been lost. -/
structure Lost (start : ℕ) (s : State T) : Prop where
  value : s.value.toNat < start + s.stores
  loaded : ∀ t v, s.loaded t = some v → v.toNat < start + s.stores

variable [DecidableEq T]

/-- A thread that has loaded nothing stores nothing. -/
def State.step (s : State T) : Event T → State T
  | .load t => { s with loaded := Function.update s.loaded t (some s.value) }
  | .store t =>
    match s.loaded t with
    | some v =>
      { value := v + 1, loaded := Function.update s.loaded t none, stores := s.stores + 1 }
    | none => s

/-- A load keeps a bound on what is loaded that holds of the value. -/
theorem loaded_load {s : State T} {t : T} {P : UInt64 → Prop} (hvalue : P s.value)
    (hloaded : ∀ t v, s.loaded t = some v → P v) (t' : T) (v : UInt64)
    (h : (s.step (.load t)).loaded t' = some v) : P v := by
  simp only [State.step] at h
  by_cases ht : t' = t
  · subst ht
    rw [Function.update_self] at h
    exact Option.some.inj h ▸ hvalue
  · rw [Function.update_of_ne ht] at h
    exact hloaded t' v h

theorem loaded_store {s : State T} {t t' : T} {v : UInt64}
    (h : Function.update s.loaded t none t' = some v) : s.loaded t' = some v := by
  by_cases ht : t' = t
  · subst ht
    rw [Function.update_self] at h
    exact absurd h nofun
  · rwa [Function.update_of_ne ht] at h

theorem toNat_increment {v : UInt64} {n : ℕ} (h : v.toNat ≤ n) (hroom : n + 1 < 2 ^ 64) :
    (v + 1).toNat = v.toNat + 1 := by
  rw [UInt64.toNat_add]
  exact Nat.mod_eq_of_lt (by simp only [UInt64.toNat_one]; omega)

theorem stores_le_step (s : State T) (e : Event T) : s.stores ≤ (s.step e).stores := by
  cases e with
  | load t => exact le_rfl
  | store t =>
    simp only [State.step]
    split
    · exact Nat.le_succ _
    · exact le_rfl

theorem stores_le_exec (s : State T) (es : List (Event T)) :
    s.stores ≤ (exec State.step s es).stores :=
  exec_of_invariant (I := fun s' : State T => s.stores ≤ s'.stores)
    (fun s' e h => h.trans (stores_le_step s' e)) le_rfl es

/-! ## One step -/

theorem Exact.fresh_step {start : ℕ} {s : State T} (h : Exact start s) {e : Event T}
    (hroom : start + (s.step e).stores < 2 ^ 64) (hfresh : Fresh s e) : Exact start (s.step e) := by
  cases e with
  | load t => exact ⟨h.value, loaded_load (P := fun v => v.toNat ≤ start + s.stores) h.value.le h.loaded⟩
  | store t =>
    cases hl : s.loaded t with
    | none =>
      simp only [State.step, hl]
      exact h
    | some v =>
      obtain rfl := hfresh v hl
      have hle := h.loaded t s.value hl
      simp only [State.step, hl] at hroom ⊢
      refine ⟨?_, fun t' v' hv' => ?_⟩
      · rw [toNat_increment hle (by omega), h.value, Nat.add_assoc]
      · have hle' := h.loaded t' v' (loaded_store hv')
        dsimp only
        omega

/-- A store that finds another value than it has loaded loses an increase. -/
theorem Exact.lost_step {start : ℕ} {s : State T} (h : Exact start s) {e : Event T}
    (hroom : start + (s.step e).stores < 2 ^ 64) (hstale : ¬ Fresh s e) : Lost start (s.step e) := by
  cases e with
  | load t => exact absurd trivial hstale
  | store t =>
    cases hl : s.loaded t with
    | none =>
      have hfresh : Fresh s (.store t) := by
        intro v hv
        rw [hl] at hv
        exact absurd hv nofun
      exact absurd hfresh hstale
    | some v =>
      have hle := h.loaded t v hl
      have hne : v.toNat ≠ start + s.stores := by
        rw [← h.value]
        intro heq
        refine hstale fun v' hv' => ?_
        obtain rfl := Option.some.inj (hl.symm.trans hv')
        exact UInt64.toNat_inj.mp heq
      simp only [State.step, hl] at hroom ⊢
      refine ⟨?_, fun t' v' hv' => ?_⟩
      · rw [toNat_increment hle (by omega)]
        dsimp only
        omega
      · have hle' := h.loaded t' v' (loaded_store hv')
        dsimp only
        omega

theorem Lost.step {start : ℕ} {s : State T} (h : Lost start s) {e : Event T}
    (hroom : start + (s.step e).stores < 2 ^ 64) : Lost start (s.step e) := by
  cases e with
  | load t => exact ⟨h.value, loaded_load (P := fun v => v.toNat < start + s.stores) h.value h.loaded⟩
  | store t =>
    cases hl : s.loaded t with
    | none =>
      simp only [State.step, hl]
      exact h
    | some v =>
      have hlt := h.loaded t v hl
      simp only [State.step, hl] at hroom ⊢
      refine ⟨?_, fun t' v' hv' => ?_⟩
      · rw [toNat_increment hlt.le (by omega)]
        dsimp only
        omega
      · have hlt' := h.loaded t' v' (loaded_store hv')
        dsimp only
        omega

/-! ## Runs -/

theorem Lost.exec {start : ℕ} {s : State T} (h : Lost start s) {es : List (Event T)}
    (hroom : start + (exec State.step s es).stores < 2 ^ 64) :
    Lost start (exec State.step s es) := by
  induction es generalizing s with
  | nil => exact h
  | cons e es ih =>
    have hle := stores_le_exec (s.step e) es
    rw [exec_cons] at hroom
    exact ih (h.step (by omega)) hroom

/-- A run whose stores all find what was loaded for them is counted exactly; any other loses an
increase for good. -/
theorem exact_or_lost {start : ℕ} {s : State T} (h : Exact start s) {es : List (Event T)}
    (hroom : start + (exec State.step s es).stores < 2 ^ 64) :
    (Along State.step Fresh s es ∧ Exact start (exec State.step s es)) ∨
      (¬ Along State.step Fresh s es ∧ Lost start (exec State.step s es)) := by
  induction es generalizing s with
  | nil => exact Or.inl ⟨trivial, h⟩
  | cons e es ih =>
    have hle := stores_le_exec (s.step e) es
    rw [exec_cons] at hroom ⊢
    have hstep : start + (s.step e).stores < 2 ^ 64 := by omega
    by_cases hfresh : Fresh s e
    · rcases ih (h.fresh_step hstep hfresh) hroom with ⟨halong, hexact⟩ | ⟨hnot, hlost⟩
      · exact Or.inl ⟨⟨hfresh, halong⟩, hexact⟩
      · exact Or.inr ⟨fun hall => hnot hall.2, hlost⟩
    · exact Or.inr ⟨fun hall => hfresh hall.1, (h.lost_step hstep hfresh).exec hroom⟩

/-- The counter shows the number of stores at the end of a run exactly when every store of the
run has found the value that was loaded for it, and never more. -/
theorem exact_iff {start : ℕ} {s : State T} (h : Exact start s) {es : List (Event T)}
    (hroom : start + (exec State.step s es).stores < 2 ^ 64) :
    (exec State.step s es).value.toNat ≤ start + (exec State.step s es).stores ∧
      ((exec State.step s es).value.toNat = start + (exec State.step s es).stores ↔
        Along State.step Fresh s es) := by
  rcases exact_or_lost h hroom with ⟨halong, hexact⟩ | ⟨hnot, hlost⟩
  · exact ⟨hexact.value.le, iff_of_true hexact.value halong⟩
  · exact ⟨hlost.value.le, iff_of_false hlost.value.ne hnot⟩

end RdmaIntercept.Library.RacyCounter
