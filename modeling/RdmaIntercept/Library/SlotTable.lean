import Mathlib.Data.Fin.Basic
import Mathlib.Data.Finset.Card
import Mathlib.Data.Fintype.Card
import Mathlib.Data.List.FinRange
import Mathlib.Logic.Function.Basic
import Mathlib.Tactic.Common

/-!
# Slot tables

A slot table is an array of `n` keys in which one key marks the free slots.  It is
searched from the first slot on: one pass looks for a key and remembers the first free
slot on its way (`scan`, with two result variables, or `scanOne`, with one).  Both
passes are characterised by the first slot that holds a key (`slotOf`), and storing a
key into the slot that the pass answers is shown to act on the table as on a finite
map: the key is found there afterwards, every other key is found where it was, no key
is stored twice, and a pass fails only on a table with `n` different keys.
-/

set_option autoImplicit false

namespace RdmaIntercept.Library.SlotTable

variable {n : ℕ} {κ : Type} [DecidableEq κ]

/-- The first slot that holds `k`. -/
def slotOf (key : Fin n → κ) (k : κ) : Option (Fin n) :=
  (List.finRange n).find? fun i => decide (key i = k)

/-- One pass with two variables: the slot of `k`, at which the pass stops, and the first
free slot met before. -/
def scan (key : Fin n → κ) (free k : κ) :
    List (Fin n) → Option (Fin n) → Option (Fin n) × Option (Fin n)
  | [], empty => (none, empty)
  | i :: is, empty =>
    if key i = k then (some i, empty)
    else if empty = none ∧ key i = free then scan key free k is (some i)
    else scan key free k is empty

/-- One pass with one variable, which holds the first free slot until `k` is met. -/
def scanOne (key : Fin n → κ) (free k : κ) : List (Fin n) → Option (Fin n) → Option (Fin n)
  | [], slot => slot
  | i :: is, slot =>
    if key i = k then some i
    else if key i = free ∧ slot = none then scanOne key free k is (some i)
    else scanOne key free k is slot

/-- The slot in which a pass stores `k`: its own slot, else the first free one. -/
def slotFor (key : Fin n → κ) (free k : κ) : Option (Fin n) :=
  (slotOf key k).or (slotOf key free)

/-- No two occupied slots hold the same key. -/
def Distinct (key : Fin n → κ) (free : κ) : Prop :=
  ∀ i j, key i = key j → key i ≠ free → i = j

variable {key : Fin n → κ} {free k : κ}

/-! ## The two passes -/

theorem scan_fst (is : List (Fin n)) (empty : Option (Fin n)) :
    (scan key free k is empty).1 = is.find? fun i => decide (key i = k) := by
  induction is generalizing empty with
  | nil => rfl
  | cons i is ih =>
    simp only [scan, List.find?_cons]
    by_cases hk : key i = k
    · simp [hk]
    · rw [if_neg hk, decide_eq_false hk]
      by_cases he : empty = none ∧ key i = free
      · rw [if_pos he, ih]
      · rw [if_neg he, ih]

theorem scan_snd (is : List (Fin n)) (empty : Option (Fin n))
    (h : (scan key free k is empty).1 = none) :
    (scan key free k is empty).2 = empty.or (is.find? fun i => decide (key i = free)) := by
  induction is generalizing empty with
  | nil => simp [scan]
  | cons i is ih =>
    simp only [scan, List.find?_cons] at h ⊢
    by_cases hk : key i = k
    · simp [hk] at h
    · simp only [hk, if_false] at h ⊢
      cases empty with
      | some j => simpa using ih (some j) (by simpa using h)
      | none =>
        by_cases hf : key i = free
        · simpa [hf] using ih (some i) (by simpa [hf] using h)
        · simpa [hf] using ih none (by simpa [hf] using h)

/-- The first answer of the pass is the slot of the key. -/
theorem scan_fst_eq_slotOf :
    (scan key free k (List.finRange n) none).1 = slotOf key k := scan_fst _ _

/-- The pass with two variables answers the slot to store into. -/
theorem scan_or_eq_slotFor :
    (scan key free k (List.finRange n) none).1.or (scan key free k (List.finRange n) none).2 =
      slotFor key free k := by
  have hfst : (scan key free k (List.finRange n) none).1 = slotOf key k := scan_fst_eq_slotOf
  cases h : (scan key free k (List.finRange n) none).1 with
  | some i =>
    rw [slotFor, ← hfst, h]
    rfl
  | none =>
    rw [scan_snd _ _ h, slotFor, ← hfst, h]
    simp [slotOf]

theorem scanOne_eq (is : List (Fin n)) (slot : Option (Fin n)) :
    scanOne key free k is slot =
      (is.find? fun i => decide (key i = k)).or
        (slot.or (is.find? fun i => decide (key i = free))) := by
  induction is generalizing slot with
  | nil => simp [scanOne]
  | cons i is ih =>
    simp only [scanOne, List.find?_cons]
    by_cases hk : key i = k
    · simp [hk]
    · rw [if_neg hk, decide_eq_false hk]
      cases slot with
      | some j => simp [ih]
      | none =>
        by_cases hf : key i = free
        · rw [if_pos ⟨hf, rfl⟩, ih, decide_eq_true hf]
          rfl
        · rw [if_neg (fun h => hf h.1), ih, decide_eq_false hf]

/-- The pass with one variable answers the slot to store into. -/
theorem scanOne_eq_slotFor :
    scanOne key free k (List.finRange n) none = slotFor key free k := by
  rw [scanOne_eq]
  simp [slotFor, slotOf]

/-! ## The first slot of a key -/

theorem key_of_slotOf {i : Fin n} (h : slotOf key k = some i) : key i = k := by
  simpa using List.find?_some h

theorem slotOf_eq_none_iff : slotOf key k = none ↔ ∀ i, key i ≠ k := by
  simp [slotOf, List.find?_eq_none]

theorem exists_slotOf_of_key {i : Fin n} (h : key i = k) : ∃ j, slotOf key k = some j := by
  cases hs : slotOf key k with
  | some j => exact ⟨j, rfl⟩
  | none => exact absurd h (slotOf_eq_none_iff.mp hs i)

theorem slotOf_congr {key' : Fin n → κ} (h : ∀ i, key' i = k ↔ key i = k) :
    slotOf key' k = slotOf key k := by
  unfold slotOf
  congr 1
  funext i
  simp [h i]

/-! ## Storing a key -/

theorem key_of_slotFor {i : Fin n} (h : slotFor key free k = some i) :
    key i = k ∨ (key i = free ∧ slotOf key k = none) := by
  unfold slotFor at h
  cases hs : slotOf key k with
  | some j =>
    rw [hs, Option.some_or] at h
    obtain rfl := Option.some.inj h
    exact Or.inl (key_of_slotOf hs)
  | none =>
    rw [hs, Option.none_or] at h
    exact Or.inr ⟨key_of_slotOf h, rfl⟩

/-- A key without a slot is stored into a free one. -/
theorem free_of_slotFor {i : Fin n} (h : slotFor key free k = some i) (hk : slotOf key k = none) :
    key i = free := by
  rcases key_of_slotFor h with hi | ⟨hi, -⟩
  · exact absurd hi (slotOf_eq_none_iff.mp hk i)
  · exact hi

/-- A key stored into a slot in use is there already. -/
theorem update_of_used {i : Fin n} (h : slotFor key free k = some i) (hi : key i ≠ free) :
    Function.update key i k = key := by
  rcases key_of_slotFor h with hk | ⟨hf, -⟩
  · rw [← hk, Function.update_eq_self]
  · exact absurd hf hi

/-- No other key is stored into the slot of a key. -/
theorem ne_of_slotFor {i j : Fin n} {k' : κ} (h : slotFor key free k = some i) (hj : key j = k')
    (hne : k' ≠ k) (hfree : k' ≠ free) : j ≠ i := by
  rintro rfl
  rcases key_of_slotFor h with hk | ⟨hf, -⟩
  · exact hne (hj.symm.trans hk)
  · exact hfree (hj.symm.trans hf)

/-- A stored key is found in the slot it was stored into. -/
theorem slotOf_update_self {i : Fin n} (h : slotFor key free k = some i) :
    slotOf (Function.update key i k) k = some i := by
  rcases key_of_slotFor h with hi | ⟨-, hnone⟩
  · rw [← hi, Function.update_eq_self, hi]
    obtain ⟨j, hj⟩ := exists_slotOf_of_key hi
    rw [slotFor, hj, Option.some_or] at h
    rw [hj, h]
  · obtain ⟨j, hj⟩ := exists_slotOf_of_key (Function.update_self i k key)
    have hkj := key_of_slotOf hj
    by_cases hji : j = i
    · rw [hj, hji]
    · rw [Function.update_of_ne hji] at hkj
      exact absurd hkj (slotOf_eq_none_iff.mp hnone j)

/-- Storing a key moves no other key. -/
theorem slotOf_update_of_ne {i : Fin n} {k' : κ} (h : slotFor key free k = some i)
    (hne : k' ≠ k) (hfree : k' ≠ free) :
    slotOf (Function.update key i k) k' = slotOf key k' := by
  apply slotOf_congr
  intro j
  by_cases hji : j = i
  · subst hji
    rw [Function.update_self]
    rcases key_of_slotFor h with hk | ⟨hf, -⟩
    · rw [hk]
    · rw [hf]
      exact ⟨fun hk => absurd hk.symm hne, fun hk => absurd hk.symm hfree⟩
  · rw [Function.update_of_ne hji]

/-- Storing a key stores none twice. -/
theorem distinct_update {i : Fin n} (hd : Distinct key free) (h : slotFor key free k = some i) :
    Distinct (Function.update key i k) free := by
  have hself : ∀ j, j ≠ i → key j = k → k ≠ free → False := by
    intro j hji hj hkf
    rcases key_of_slotFor h with hi | ⟨-, hnone⟩
    · exact hji (hd j i (hj.trans hi.symm) (hj ▸ hkf))
    · exact slotOf_eq_none_iff.mp hnone j hj
  intro a b hab hfree
  by_cases ha : a = i <;> by_cases hb : b = i
  · rw [ha, hb]
  · subst ha
    rw [Function.update_self, Function.update_of_ne hb] at hab
    rw [Function.update_self] at hfree
    exact (hself b hb hab.symm hfree).elim
  · subst hb
    rw [Function.update_self, Function.update_of_ne ha] at hab
    rw [Function.update_of_ne ha] at hfree
    exact (hself a ha hab (hab ▸ hfree)).elim
  · rw [Function.update_of_ne ha, Function.update_of_ne hb] at hab
    rw [Function.update_of_ne ha] at hfree
    exact hd a b hab hfree

/-! ## Room -/

theorem slotFor_eq_none_iff :
    slotFor key free k = none ↔ (∀ i, key i ≠ k) ∧ ∀ i, key i ≠ free := by
  simp [slotFor, slotOf_eq_none_iff]

/-- A table whose keys all come from a set with fewer than `n` elements has a free slot. -/
theorem exists_free_of_card_lt (hd : Distinct key free) (S : Finset κ)
    (hS : ∀ i, key i ≠ free → key i ∈ S) (hcard : S.card < n) : ∃ i, key i = free := by
  by_contra hfull
  push Not at hfull
  have hinj : Function.Injective key := fun i j hij => hd i j hij (hfull i)
  have himage : Finset.univ.image key ⊆ S := by
    intro k hk
    obtain ⟨i, -, rfl⟩ := Finset.mem_image.mp hk
    exact hS i (hfull i)
  have hle := Finset.card_le_card himage
  rw [Finset.card_image_of_injective _ hinj, Finset.card_univ, Fintype.card_fin] at hle
  omega

/-- Hence a pass over such a table answers a slot. -/
theorem exists_slotFor_of_card_lt (hd : Distinct key free) (S : Finset κ)
    (hS : ∀ i, key i ≠ free → key i ∈ S) (hcard : S.card < n) :
    ∃ i, slotFor key free k = some i := by
  obtain ⟨i, hi⟩ := exists_free_of_card_lt hd S hS hcard
  cases h : slotFor key free k with
  | some j => exact ⟨j, rfl⟩
  | none => exact absurd hi ((slotFor_eq_none_iff.mp h).2 i)

-- a table is searched through the statements above, not by running the search
attribute [irreducible] slotOf scan scanOne

end RdmaIntercept.Library.SlotTable
