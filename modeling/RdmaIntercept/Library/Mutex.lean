import Mathlib.Logic.Function.Basic
import Mathlib.Tactic.Common

/-!
# Programs that take mutexes

A program runs on one thread, over data that all threads share, and takes and releases
mutexes that are not recursive.  A thread that locks a mutex which it holds itself waits for
ever (`selfDeadlock`), and so does one that locks a mutex whose holder will not release it
(`blocked`): calls that run to their end one after the other find every mutex free.  The
rules below evaluate such a call; what lies between a lock and the unlock that belongs to it
leaves the mutexes as they were.
-/

set_option autoImplicit false

namespace RdmaIntercept.Library

/-- For each mutex the thread that holds it, and the data. -/
structure Locked (μ θ σ : Type) where
  holder : μ → Option θ
  data : σ

/-- Why a thread does not get past a lock. -/
inductive LockFault (μ : Type)
  | selfDeadlock (m : μ)
  | blocked (m : μ)
  deriving DecidableEq, Repr

abbrev LockM (μ θ σ α : Type) : Type := EStateM (LockFault μ) (Locked μ θ σ) α

namespace LockM

variable {μ θ σ α β : Type}

section Programs

variable [DecidableEq μ] [DecidableEq θ]

/-- `pthread_mutex_lock`, called by thread `t`. -/
def lock (t : θ) (m : μ) : LockM μ θ σ Unit := fun s =>
  match s.holder m with
  | none => .ok () { s with holder := Function.update s.holder m (some t) }
  | some holder => if holder = t then .error (.selfDeadlock m) s else .error (.blocked m) s

/-- `pthread_mutex_unlock` -/
def unlock (m : μ) : LockM μ θ σ Unit := fun s =>
  .ok () { s with holder := Function.update s.holder m none }

/-- A step on the data. -/
def access (f : σ → α × σ) : LockM μ θ σ α := fun s => .ok (f s.data).1 { s with data := (f s.data).2 }

/-- The data is read. -/
def look (f : σ → α) : LockM μ θ σ α := access fun d => (f d, d)

/-- The data is written. -/
def change (f : σ → σ) : LockM μ θ σ Unit := access fun d => ((), f d)

/-- No mutex is held. -/
def allFree : μ → Option θ := fun _ => none

end Programs

variable {hold : μ → Option θ} {m : μ} {t : θ} {d : σ}

/-! ## Evaluation -/

@[simp] theorem allFree_apply (m : μ) : (allFree m : Option θ) = none := by
  simp only [allFree]

@[simp] theorem run_access (f : σ → α × σ) :
    (access f).run ⟨hold, d⟩ = .ok (f d).1 ⟨hold, (f d).2⟩ := rfl

@[simp] theorem run_look (f : σ → α) : (look f).run ⟨hold, d⟩ = .ok (f d) ⟨hold, d⟩ := rfl

@[simp] theorem run_change (f : σ → σ) : (change f).run ⟨hold, d⟩ = .ok () ⟨hold, f d⟩ := rfl

@[simp] theorem run_map (f : α → β) (x : LockM μ θ σ α) (s : Locked μ θ σ) :
    EStateM.run (f <$> x) s =
      match x.run s with
      | .ok a s => .ok (f a) s
      | .error e s => .error e s := by
  simp only [EStateM.run, Functor.map, EStateM.map]
  cases x s <;> rfl

@[simp] theorem run_discard (x : LockM μ θ σ α) (s : Locked μ θ σ) :
    EStateM.run (discard x) s =
      match x.run s with
      | .ok _ s => .ok () s
      | .error e s => .error e s := run_map (fun _ => ()) x s

variable [DecidableEq μ]

/-- A free mutex is taken. -/
@[simp] theorem run_lock [DecidableEq θ] (h : hold m = none) :
    (lock t m).run ⟨hold, d⟩ = .ok () ⟨Function.update hold m (some t), d⟩ := by
  simp [EStateM.run, lock, h]

/-- A thread that holds the mutex does not get it a second time. -/
@[simp] theorem run_lock_held [DecidableEq θ] :
    (lock t m).run ⟨Function.update hold m (some t), d⟩ =
      .error (.selfDeadlock m) ⟨Function.update hold m (some t), d⟩ := by
  simp [EStateM.run, lock]

/-- The unlock that belongs to a lock brings back what was held before it. -/
@[simp] theorem run_unlock (h : hold m = none) :
    (unlock m).run ⟨Function.update hold m (some t), d⟩ = .ok () ⟨hold, d⟩ := by
  have hback : Function.update hold m none = hold := by
    rw [← h]
    exact Function.update_eq_self m hold
  simp [EStateM.run, unlock, hback]

end LockM

end RdmaIntercept.Library
