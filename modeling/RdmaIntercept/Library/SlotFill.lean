import RdmaIntercept.Library.LastWrite
import RdmaIntercept.Library.SlotStore

/-!
# Filling a slot table

Keys are written to a slot table and never removed.  The table keeps what it has, and of the
keys that it does not have it takes those that come first, as many as there is room for
(`keys_writeOut`); every key that it holds in the end has the value that was written to it
last (`lookup_writeOut`).
-/

set_option autoImplicit false

namespace RdmaIntercept.Library.SlotTable

variable {n : ℕ} {κ β : Type} [DecidableEq κ]

/-- The keys of `ks` that are not held, each once, in the order in which they come first. -/
def newcomers (held : Finset κ) (ks : List κ) : List κ :=
  (ks.filter fun k => k ∉ held).eraseDups

/-- The writes of values for the key `k`. -/
def writesOf (k : κ) (w : κ × β) : Option β := if w.1 = k then some w.2 else none

variable {free : κ} {valid : κ → Prop} [DecidablePred valid]
variable {t : (Fin n → κ) × (Fin n → β)} {k q : κ} {v : β}

/-! ## Newcomers -/

theorem newcomers_held {held : Finset κ} (h : k ∈ held) (ks : List κ) :
    newcomers held (k :: ks) = newcomers held ks := by
  rw [newcomers, List.filter_cons_of_neg (by simpa using h)]
  rfl

theorem newcomers_new {held : Finset κ} (h : k ∉ held) (ks : List κ) :
    newcomers held (k :: ks) = k :: newcomers (insert k held) ks := by
  rw [newcomers, List.filter_cons_of_pos (by simpa using h), List.eraseDups_cons, List.filter_filter]
  congr 2
  apply List.filter_congr
  intro q _
  by_cases hq : q = k <;> simp [hq]

/-! ## One write -/

theorem distinct_store (hd : Distinct t.1 free) : Distinct (store free valid t k v).1 free := by
  unfold store
  split
  · cases hs : slotFor t.1 free k with
    | some i => exact distinct_update hd hs
    | none => exact hd
  · exact hd

/-- A valid key is taken when it is there or there is room. -/
theorem keys_store_taken (hvalid : ∀ k, valid k → k ≠ free) (hd : Distinct t.1 free) (hk : valid k)
    (h : k ∈ keys t.1 free ∨ (keys t.1 free).card < n) :
    keys (store free valid t k v).1 free = insert k (keys t.1 free) ∧
      ∀ q, q ≠ free → lookup (store free valid t k v).1 (store free valid t k v).2 q =
        if q = k then some v else lookup t.1 t.2 q := by
  obtain ⟨i, hi⟩ := (exists_slotFor_iff hd (hvalid k hk)).mpr h
  rw [store_some hk hi]
  exact ⟨keys_store hi (hvalid k hk), fun q hq => lookup_store v hi hq⟩

/-- Else nothing is written. -/
theorem store_full (hvalid : ∀ k, valid k → k ≠ free) (hd : Distinct t.1 free) (hk : valid k)
    (hheld : k ∉ keys t.1 free) (hfull : n ≤ (keys t.1 free).card) :
    store free valid t k v = t := by
  apply store_none
  cases hs : slotFor t.1 free k with
  | none => rfl
  | some i =>
    rcases (exists_slotFor_iff hd (hvalid k hk)).mp ⟨i, hs⟩ with h | h
    · exact absurd h hheld
    · omega

/-! ## All writes -/

theorem writeOut_cons (w : κ × β) (ws : List (κ × β)) :
    WriteBuffer.writeOut (store free valid) t (w :: ws) =
      WriteBuffer.writeOut (store free valid) (store free valid t w.1 w.2) ws := rfl

/-- The keys after the writes. -/
theorem keys_writeOut (hvalid : ∀ k, valid k → k ≠ free) (hd : Distinct t.1 free)
    (ws : List (κ × β)) :
    keys (WriteBuffer.writeOut (store free valid) t ws).1 free = keys t.1 free ∪
      ((newcomers (keys t.1 free) ((ws.map Prod.fst).filter fun k => valid k)).take
        (n - (keys t.1 free).card)).toFinset := by
  induction ws generalizing t with
  | nil => simp [WriteBuffer.writeOut, newcomers]
  | cons w ws ih =>
    rw [writeOut_cons, ih (distinct_store hd), List.map_cons]
    by_cases hk : valid w.1
    · rw [List.filter_cons_of_pos (by simpa using hk)]
      by_cases hheld : w.1 ∈ keys t.1 free
      · rw [(keys_store_taken hvalid hd hk (Or.inl hheld)).1, Finset.insert_eq_of_mem hheld,
          newcomers_held hheld]
      · by_cases hroom : (keys t.1 free).card < n
        · have hmore : n - (keys t.1 free).card = n - ((keys t.1 free).card + 1) + 1 := by omega
          rw [(keys_store_taken hvalid hd hk (Or.inr hroom)).1, newcomers_new hheld,
            Finset.card_insert_of_notMem hheld, hmore, List.take_succ_cons, List.toFinset_cons,
            Finset.insert_union, Finset.union_insert]
        · have hnone : n - (keys t.1 free).card = 0 := by omega
          rw [store_full hvalid hd hk hheld (Nat.not_lt.mp hroom), hnone, List.take_zero,
            List.take_zero]
    · rw [List.filter_cons_of_neg (by simpa using hk), store_invalid hk]

/-- A key that is refused is refused for good. -/
theorem notMem_writeOut_of_full (hvalid : ∀ k, valid k → k ≠ free) (hd : Distinct t.1 free)
    (hheld : k ∉ keys t.1 free) (hfull : n ≤ (keys t.1 free).card) (ws : List (κ × β)) :
    k ∉ keys (WriteBuffer.writeOut (store free valid) t ws).1 free := by
  rw [keys_writeOut hvalid hd, Nat.sub_eq_zero_of_le hfull]
  simpa using hheld

/-- The value of a key after the writes: the last one written, else what it was. -/
theorem lookup_writeOut (hvalid : ∀ k, valid k → k ≠ free) (hd : Distinct t.1 free)
    (ws : List (κ × β)) (hq : valid q) :
    lookup (WriteBuffer.writeOut (store free valid) t ws).1
        (WriteBuffer.writeOut (store free valid) t ws).2 q =
      if q ∈ keys (WriteBuffer.writeOut (store free valid) t ws).1 free then
        (lastWrite (writesOf q) ws).or (lookup t.1 t.2 q)
      else none := by
  induction ws generalizing t with
  | nil =>
    change lookup t.1 t.2 q = if q ∈ keys t.1 free then lookup t.1 t.2 q else none
    by_cases hheld : q ∈ keys t.1 free
    · rw [if_pos hheld]
    · rw [if_neg hheld, lookup_eq_none_iff]
      intro i hi
      exact hheld (mem_keys.mpr ⟨hvalid q hq, i, hi⟩)
  | cons w ws ih =>
    rw [writeOut_cons, ih (distinct_store hd), lastWrite_cons]
    by_cases hmem : q ∈ keys (WriteBuffer.writeOut (store free valid)
        (store free valid t w.1 w.2) ws).1 free
    · rw [if_pos hmem, if_pos hmem, Option.or_assoc]
      congr 1
      by_cases hk : valid w.1
      · by_cases htaken : w.1 ∈ keys t.1 free ∨ (keys t.1 free).card < n
        · rw [(keys_store_taken hvalid hd hk htaken).2 q (hvalid q hq), writesOf]
          by_cases hwq : w.1 = q
          · rw [if_pos hwq, if_pos hwq.symm, Option.some_or]
          · rw [if_neg hwq, if_neg (Ne.symm hwq), Option.none_or]
        · push Not at htaken
          have hsame := store_full (v := w.2) hvalid hd hk htaken.1 htaken.2
          have hwq : w.1 ≠ q := by
            rintro rfl
            rw [hsame] at hmem
            exact notMem_writeOut_of_full hvalid hd htaken.1 htaken.2 ws hmem
          rw [hsame, writesOf, if_neg hwq, Option.none_or]
      · have hwq : w.1 ≠ q := by
          rintro rfl
          exact hk hq
        rw [store_invalid hk, writesOf, if_neg hwq, Option.none_or]
    · rw [if_neg hmem, if_neg hmem]

end RdmaIntercept.Library.SlotTable
