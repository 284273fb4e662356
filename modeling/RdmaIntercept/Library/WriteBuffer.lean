import Mathlib.Data.List.Basic
import Mathlib.Data.List.Nodup
import Mathlib.Tactic.Common

/-!
# Coalescing write buffers

A write buffer is a list of keys with a pending value each.  A new value of a key that is
pending replaces the pending one in its place, else it is appended; `writeOut` performs
the pending writes in their order.

Two facts make a buffer invisible.  If a write to a key overwrites an earlier one, and if
a key that has been written commutes with the writes to other keys, then replacing a
pending value is the same as performing one more write (`writeOut_replace`).  And if the
store answers reads like a map, then it answers after `writeOut` what was pending before,
and what it answered before where nothing was (`read_writeOut`).
-/

set_option autoImplicit false

namespace RdmaIntercept.Library.WriteBuffer

variable {κ β τ : Type} [DecidableEq κ]

/-- The pending value of `k`. -/
def pending (es : List (κ × β)) (k : κ) : Option β :=
  (es.find? fun e => decide (e.1 = k)).map Prod.snd

/-- The first entry of `k` gets the value `v`. -/
def replace (k : κ) (v : β) : List (κ × β) → List (κ × β)
  | [] => []
  | e :: es => if e.1 = k then (k, v) :: es else e :: replace k v es

/-- All pending writes, one after the other. -/
def writeOut (store : τ → κ → β → τ) (t : τ) (es : List (κ × β)) : τ :=
  es.foldl (fun t e => store t e.1 e.2) t

variable {es : List (κ × β)} {k : κ} {v : β}

/-! ## Replacing -/

theorem length_replace (k : κ) (v : β) (es : List (κ × β)) :
    (replace k v es).length = es.length := by
  induction es with
  | nil => rfl
  | cons e es ih =>
    unfold replace
    by_cases h : e.1 = k
    · rw [if_pos h, List.length_cons, List.length_cons]
    · rw [if_neg h, List.length_cons, List.length_cons, ih]

theorem map_fst_replace (k : κ) (v : β) (es : List (κ × β)) :
    (replace k v es).map Prod.fst = es.map Prod.fst := by
  induction es with
  | nil => rfl
  | cons e es ih =>
    unfold replace
    by_cases h : e.1 = k
    · rw [if_pos h, List.map_cons, List.map_cons, h]
    · rw [if_neg h, List.map_cons, List.map_cons, ih]

theorem replace_map {γ : Type} (f : γ → β) (k : κ) (v : γ) (es : List (κ × γ)) :
    replace k (f v) (es.map (Prod.map id f)) = (replace k v es).map (Prod.map id f) := by
  induction es with
  | nil => rfl
  | cons e es ih =>
    rw [List.map_cons]
    unfold replace
    by_cases h : e.1 = k
    · have hk : (Prod.map id f e).1 = k := h
      rw [if_pos h, if_pos hk, List.map_cons]
      rfl
    · have hk : ¬ (Prod.map id f e).1 = k := h
      rw [if_neg h, if_neg hk, List.map_cons, ih]

/-- Every other entry stays. -/
theorem mem_replace_of_ne {e : κ × β} (h : e ∈ es) (hk : e.1 ≠ k) : e ∈ replace k v es := by
  induction es with
  | nil => exact h
  | cons d es ih =>
    unfold replace
    rcases List.mem_cons.mp h with rfl | h
    · rw [if_neg hk]
      exact List.mem_cons_self
    · by_cases hd : d.1 = k
      · rw [if_pos hd]
        exact List.mem_cons_of_mem _ h
      · rw [if_neg hd]
        exact List.mem_cons_of_mem _ (ih h)

theorem mem_of_mem_replace {e : κ × β} (h : e ∈ replace k v es) : e = (k, v) ∨ e ∈ es := by
  induction es with
  | nil => exact Or.inr h
  | cons d es ih =>
    unfold replace at h
    by_cases hd : d.1 = k
    · rw [if_pos hd] at h
      rcases List.mem_cons.mp h with rfl | h
      · exact Or.inl rfl
      · exact Or.inr (List.mem_cons_of_mem _ h)
    · rw [if_neg hd] at h
      rcases List.mem_cons.mp h with rfl | h
      · exact Or.inr List.mem_cons_self
      · exact (ih h).imp_right (List.mem_cons_of_mem _)

/-- The new value is pending. -/
theorem mem_replace_self (h : k ∈ es.map Prod.fst) : (k, v) ∈ replace k v es := by
  induction es with
  | nil => exact absurd h List.not_mem_nil
  | cons d es ih =>
    unfold replace
    by_cases hd : d.1 = k
    · rw [if_pos hd]
      exact List.mem_cons_self
    · rw [if_neg hd]
      rw [List.map_cons] at h
      exact List.mem_cons_of_mem _ (ih ((List.mem_cons.mp h).resolve_left (Ne.symm hd)))

/-! ## Pending values -/

theorem pending_cons (e : κ × β) (es : List (κ × β)) (k : κ) :
    pending (e :: es) k = if e.1 = k then some e.2 else pending es k := by
  unfold pending
  rw [List.find?_cons]
  by_cases h : e.1 = k
  · rw [decide_eq_true h, if_pos h]
    rfl
  · rw [decide_eq_false h, if_neg h]

theorem pending_eq_none_iff : pending es k = none ↔ k ∉ es.map Prod.fst := by
  induction es with
  | nil => exact iff_of_true rfl List.not_mem_nil
  | cons e es ih =>
    rw [pending_cons, List.map_cons, List.mem_cons, not_or]
    by_cases h : e.1 = k
    · rw [if_pos h]
      exact iff_of_false (Option.some_ne_none _) (fun hk => hk.1 h.symm)
    · rw [if_neg h, ih, and_iff_right (Ne.symm h)]

/-! ## Writing out -/

omit [DecidableEq κ] in
theorem writeOut_cons (store : τ → κ → β → τ) (t : τ) (e : κ × β) (es : List (κ × β)) :
    writeOut store t (e :: es) = writeOut store (store t e.1 e.2) es := rfl

omit [DecidableEq κ] in
theorem writeOut_concat (store : τ → κ → β → τ) (t : τ) (es : List (κ × β)) (k : κ) (v : β) :
    writeOut store t (es ++ [(k, v)]) = store (writeOut store t es) k v := by
  simp [writeOut]

omit [DecidableEq κ] in
theorem writeOut_append (store : τ → κ → β → τ) (t : τ) (es fs : List (κ × β)) :
    writeOut store t (es ++ fs) = writeOut store (writeOut store t es) fs := by
  simp [writeOut]

/-- What a write has to satisfy to be coalesced.  A key is settled when a write to it no
longer depends on the writes to other keys. -/
structure Overwriting (store : τ → κ → β → τ) (Settled : τ → κ → Prop) : Prop where
  overwrite : ∀ t k v w, store (store t k v) k w = store t k w
  settles : ∀ t k v, Settled (store t k v) k
  keeps : ∀ t k q w, Settled t k → Settled (store t q w) k
  commutes : ∀ t k v q w, Settled t k → q ≠ k →
    store (store t q w) k v = store (store t k v) q w

variable {store : τ → κ → β → τ} {Settled : τ → κ → Prop}

omit [DecidableEq κ] in
/-- A write to a settled key moves before the writes to other keys. -/
theorem Overwriting.writeOut_comm (h : Overwriting store Settled) {t : τ} (ht : Settled t k)
    (hk : k ∉ es.map Prod.fst) :
    store (writeOut store t es) k v = writeOut store (store t k v) es := by
  induction es generalizing t with
  | nil => rfl
  | cons e es ih =>
    rw [List.map_cons, List.mem_cons, not_or] at hk
    rw [writeOut_cons, writeOut_cons, ih (h.keeps t k e.1 e.2 ht) hk.2,
      h.commutes t k v e.1 e.2 ht (Ne.symm hk.1)]

/-- Replacing a pending value is one more write. -/
theorem Overwriting.writeOut_replace (h : Overwriting store Settled) (t : τ)
    (hnodup : (es.map Prod.fst).Nodup) (hk : k ∈ es.map Prod.fst) :
    writeOut store t (replace k v es) = store (writeOut store t es) k v := by
  induction es generalizing t with
  | nil => exact absurd hk List.not_mem_nil
  | cons e es ih =>
    obtain ⟨hfresh, hnodup⟩ := List.nodup_cons.mp hnodup
    unfold replace
    by_cases he : e.1 = k
    · subst he
      rw [if_pos rfl, writeOut_cons, writeOut_cons,
        h.writeOut_comm (h.settles t e.1 e.2) hfresh, h.overwrite]
    · rw [if_neg he, writeOut_cons, writeOut_cons]
      exact ih _ hnodup ((List.mem_cons.mp hk).resolve_left (Ne.symm he))

/-- What a store answers after the pending writes: `K` are the keys that may be written, `Q`
those that are read, and `I` is what a write needs and keeps. -/
theorem read_writeOut {I : τ → Prop} {K Q : κ → Prop} {read : τ → κ → Option β}
    (hkeep : ∀ t k v, I t → K k → I (store t k v))
    (hread : ∀ t k v q, I t → K k → Q q →
      read (store t k v) q = if q = k then some v else read t q)
    {t : τ} (ht : I t) (hK : ∀ e ∈ es, K e.1) (hnodup : (es.map Prod.fst).Nodup) :
    I (writeOut store t es) ∧ ∀ q, Q q →
      read (writeOut store t es) q = (pending es q).or (read t q) := by
  induction es generalizing t with
  | nil => exact ⟨ht, fun q _ => rfl⟩
  | cons e es ih =>
    obtain ⟨hfresh, hnodup⟩ := List.nodup_cons.mp hnodup
    have hKe := hK e List.mem_cons_self
    obtain ⟨hI, hrest⟩ := ih (hkeep t e.1 e.2 ht hKe)
      (fun d hd => hK d (List.mem_cons_of_mem _ hd)) hnodup
    refine ⟨hI, ?_⟩
    intro q hq
    rw [writeOut_cons, hrest q hq, hread t e.1 e.2 q ht hKe hq, pending_cons]
    by_cases heq : e.1 = q
    · have hnone : pending es q = none := by
        rw [pending_eq_none_iff, ← heq]
        exact hfresh
      rw [if_pos heq, if_pos heq.symm, hnone]
      rfl
    · rw [if_neg heq, if_neg (Ne.symm heq)]

end RdmaIntercept.Library.WriteBuffer
