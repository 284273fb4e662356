import Mathlib.Data.List.Basic
import Mathlib.Tactic.Common

/-!
# Runs of a deterministic transition system

A system is a total function `step : σ → ε → σ`; a run is the list of its events.
`Always P` says that `P` holds in every state a run passes through, `Along C` that
`C` holds of every event in the state in which it happens.  The rules below turn a
statement about one step into one about every run: an invariant kept by the steps
that satisfy `C` holds throughout a run along which `C` holds (`always_of_step`), and
a property that one step keeps exactly when `C` holds is kept throughout a run
exactly when `C` holds along it (`always_iff_along`).
-/

set_option autoImplicit false

namespace RdmaIntercept.Library

variable {σ ε : Type} (step : σ → ε → σ)

/-- The state after a run. -/
def exec (s : σ) (es : List ε) : σ := es.foldl step s

/-- `P` holds in every state the run passes through, the first and the last included. -/
def Always (P : σ → Prop) : σ → List ε → Prop
  | s, [] => P s
  | s, e :: es => P s ∧ Always P (step s e) es

/-- `C` holds of every event of the run, in the state before it. -/
def Along (C : σ → ε → Prop) : σ → List ε → Prop
  | _, [] => True
  | s, e :: es => C s e ∧ Along C (step s e) es

variable {step}

@[simp] theorem exec_nil (s : σ) : exec step s [] = s := rfl

@[simp] theorem exec_cons (s : σ) (e : ε) (es : List ε) :
    exec step s (e :: es) = exec step (step s e) es := rfl

@[simp] theorem exec_append (s : σ) (es fs : List ε) :
    exec step s (es ++ fs) = exec step (exec step s es) fs := by
  simp [exec]

/-- A property that always holds holds at the start. -/
theorem Always.head {P : σ → Prop} {s : σ} {es : List ε} (h : Always step P s es) : P s := by
  cases es with
  | nil => exact h
  | cons e es => exact h.1

/-- `Always P` is `P` after every prefix of the run. -/
theorem always_iff_initial {P : σ → Prop} {s : σ} {es : List ε} :
    Always step P s es ↔ ∀ pre, pre <+: es → P (exec step s pre) := by
  induction es generalizing s with
  | nil =>
    constructor
    · intro h pre hpre
      rw [List.prefix_nil.mp hpre]
      exact h
    · intro h
      exact h [] (List.prefix_refl [])
  | cons e es ih =>
    constructor
    · rintro ⟨hs, hes⟩ pre hpre
      cases pre with
      | nil => exact hs
      | cons e' pre =>
        obtain ⟨rfl, hpre'⟩ := List.cons_prefix_cons.mp hpre
        exact ih.mp hes pre hpre'
    · intro h
      refine ⟨h [] (List.nil_prefix), ih.mpr ?_⟩
      intro pre hpre
      exact h (e :: pre) (List.cons_prefix_cons.mpr ⟨rfl, hpre⟩)

/-- And it holds at the end. -/
theorem Always.last {P : σ → Prop} {s : σ} {es : List ε} (h : Always step P s es) :
    P (exec step s es) :=
  always_iff_initial.mp h es (List.prefix_refl es)

/-- `Along C` is `C` of every event after the events before it. -/
theorem along_iff_split {C : σ → ε → Prop} {s : σ} {es : List ε} :
    Along step C s es ↔ ∀ pre e post, es = pre ++ e :: post → C (exec step s pre) e := by
  induction es generalizing s with
  | nil =>
    constructor
    · intro _ pre e post h
      simp at h
    · intro _
      trivial
  | cons d es ih =>
    constructor
    · rintro ⟨hd, hes⟩ pre e post h
      cases pre with
      | nil =>
        obtain ⟨rfl, rfl⟩ := List.cons.inj h
        exact hd
      | cons d' pre =>
        obtain ⟨rfl, hes'⟩ := List.cons.inj h
        exact ih.mp hes pre e post hes'
    · intro h
      refine ⟨h [] d es rfl, ih.mpr ?_⟩
      intro pre e post hes
      exact h (d :: pre) e post (by rw [hes]; rfl)

/-- A condition on the events alone. -/
theorem along_of_forall {C : ε → Prop} {es : List ε} (h : ∀ e ∈ es, C e) (s : σ) :
    Along step (fun _ e => C e) s es := by
  apply along_iff_split.mpr
  intro pre e post hes
  apply h
  rw [hes]
  simp

theorem Along.mono {C D : σ → ε → Prop} {s : σ} {es : List ε}
    (h : ∀ s e, C s e → D s e) (hC : Along step C s es) : Along step D s es :=
  along_iff_split.mpr fun pre e post hes => h _ _ (along_iff_split.mp hC pre e post hes)

theorem along_and {C D : σ → ε → Prop} {s : σ} {es : List ε} :
    Along step (fun s e => C s e ∧ D s e) s es ↔ Along step C s es ∧ Along step D s es := by
  induction es generalizing s with
  | nil => simp [Along]
  | cons e es ih => simp only [Along, ih, and_and_and_comm]

/-- Two conditions that agree wherever an invariant holds that the first of them keeps. -/
theorem along_congr_of_step {I : σ → Prop} {C D : σ → ε → Prop}
    (hI : ∀ s e, I s → C s e → I (step s e)) (hCD : ∀ s e, I s → (C s e ↔ D s e)) {s : σ}
    (hs : I s) (es : List ε) : Along step C s es ↔ Along step D s es := by
  induction es generalizing s with
  | nil => exact Iff.rfl
  | cons e es ih =>
    constructor
    · rintro ⟨hC, hes⟩
      exact ⟨(hCD s e hs).mp hC, (ih (hI s e hs hC)).mp hes⟩
    · rintro ⟨hD, hes⟩
      have hC := (hCD s e hs).mpr hD
      exact ⟨hC, (ih (hI s e hs hC)).mpr hes⟩

/-- Two conditions that agree, on allowed events, wherever an invariant of the allowed steps
holds. -/
theorem along_congr_of_allowed {I : σ → Prop} {A C D : σ → ε → Prop}
    (hI : ∀ s e, I s → A s e → I (step s e)) (hCD : ∀ s e, I s → A s e → (C s e ↔ D s e)) {s : σ}
    (hs : I s) {es : List ε} (hA : Along step A s es) :
    Along step C s es ↔ Along step D s es := by
  induction es generalizing s with
  | nil => exact Iff.rfl
  | cons e es ih => exact and_congr (hCD s e hs hA.1) (ih (hI s e hs hA.1) hA.2)

/-- Two conditions that agree wherever an invariant of every step holds. -/
theorem along_congr {I : σ → Prop} {C D : σ → ε → Prop} (hI : ∀ s e, I s → I (step s e))
    (hCD : ∀ s e, I s → (C s e ↔ D s e)) {s : σ} (hs : I s) (es : List ε) :
    Along step C s es ↔ Along step D s es :=
  along_congr_of_step (fun s e hs _ => hI s e hs) hCD hs es

/-- What always holds holds before and after every event. -/
theorem Always.along {P : σ → Prop} {s : σ} {es : List ε} (h : Always step P s es) :
    Along step (fun s e => P s ∧ P (step s e)) s es := by
  induction es generalizing s with
  | nil => trivial
  | cons e es ih => exact ⟨⟨h.1, h.2.head⟩, ih h.2⟩

theorem along_append {C : σ → ε → Prop} {s : σ} {es fs : List ε} :
    Along step C s (es ++ fs) ↔ Along step C s es ∧ Along step C (exec step s es) fs := by
  induction es generalizing s with
  | nil => simp [Along]
  | cons e es ih => simp [Along, ih, and_assoc]

/-- The run rule: what the steps allowed by `C` preserve holds throughout a run that
keeps to `C`. -/
theorem always_of_step {I : σ → Prop} {C : σ → ε → Prop}
    (hstep : ∀ s e, I s → C s e → I (step s e)) {s : σ} {es : List ε}
    (hs : I s) (hC : Along step C s es) : Always step I s es := by
  induction es generalizing s with
  | nil => exact hs
  | cons e es ih => exact ⟨hs, ih (hstep s e hs hC.1) hC.2⟩

/-- The run rule read at the end of the run. -/
theorem exec_of_step {I : σ → Prop} {C : σ → ε → Prop}
    (hstep : ∀ s e, I s → C s e → I (step s e)) {s : σ} {es : List ε}
    (hs : I s) (hC : Along step C s es) : I (exec step s es) :=
  (always_of_step hstep hs hC).last

/-- The run rule for an invariant of every step. -/
theorem exec_of_invariant {I : σ → Prop} (hstep : ∀ s e, I s → I (step s e)) {s : σ}
    (hs : I s) (es : List ε) : I (exec step s es) := by
  induction es generalizing s with
  | nil => exact hs
  | cons e es ih => exact ih (hstep s e hs)

/-- What every step leaves a run leaves. -/
theorem exec_kept {α : Type*} {f : σ → α} (h : ∀ s e, f (step s e) = f s) (s : σ) (es : List ε) :
    f (exec step s es) = f s :=
  exec_of_invariant (I := fun s' => f s' = f s) (fun s' e hs => (h s' e).trans hs) rfl es

theorem Always.mono {P Q : σ → Prop} {s : σ} {es : List ε}
    (h : ∀ s, P s → Q s) (hP : Always step P s es) : Always step Q s es :=
  always_iff_initial.mpr fun pre hpre => h _ (always_iff_initial.mp hP pre hpre)

/-- The exact run rule: under an invariant `I` of the allowed steps `A`, if one allowed
step from a `P`-state ends in a `P`-state exactly when `C` holds, then a run stays in `P`
exactly when `C` holds along it. -/
theorem always_iff_along {I P : σ → Prop} {A C : σ → ε → Prop}
    (hI : ∀ s e, I s → A s e → I (step s e))
    (hP : ∀ s e, I s → A s e → P s → (P (step s e) ↔ C s e))
    {s : σ} {es : List ε} (hIs : I s) (hPs : P s) (hA : Along step A s es) :
    Always step P s es ↔ Along step C s es := by
  induction es generalizing s with
  | nil => exact ⟨fun _ => trivial, fun _ => hPs⟩
  | cons e es ih =>
    have hstep := hP s e hIs hA.1 hPs
    constructor
    · rintro ⟨-, hes⟩
      have hPe : P (step s e) := hes.head
      exact ⟨hstep.mp hPe, (ih (hI s e hIs hA.1) hPe hA.2).mp hes⟩
    · rintro ⟨hCe, hes⟩
      have hPe : P (step s e) := hstep.mpr hCe
      exact ⟨hPs, (ih (hI s e hIs hA.1) hPe hA.2).mpr hes⟩

/-- The exact run rule for a property `P` that is what can be seen of an invariant `Q`: if an
allowed step keeps `Q` under `C`, and no other ends in a `P`-state, then a run stays in `P`
exactly when `C` holds along it. -/
theorem always_iff_along_of_seen {P Q : σ → Prop} {A C : σ → ε → Prop}
    (hQ : ∀ s e, Q s → A s e → C s e → Q (step s e))
    (hC : ∀ s e, Q s → A s e → P (step s e) → C s e) (hP : ∀ s, Q s → P s)
    {s : σ} {es : List ε} (hs : Q s) (hA : Along step A s es) :
    Always step P s es ↔ Along step C s es := by
  induction es generalizing s with
  | nil => exact ⟨fun _ => trivial, fun _ => hP s hs⟩
  | cons e es ih =>
    constructor
    · rintro ⟨-, hes⟩
      have hCe : C s e := hC s e hs hA.1 hes.head
      exact ⟨hCe, (ih (hQ s e hs hA.1 hCe) hA.2).mp hes⟩
    · rintro ⟨hCe, hes⟩
      exact ⟨hP s hs, (ih (hQ s e hs hA.1 hCe) hA.2).mpr hes⟩

end RdmaIntercept.Library
