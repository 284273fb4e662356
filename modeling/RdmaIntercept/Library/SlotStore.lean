import RdmaIntercept.Library.SlotMap
import RdmaIntercept.Library.WriteBuffer

/-!
# A slot table as a store

Writing a value for a key stores the key in the slot that a pass answers and the value
beside it; a key that is not `valid`, and a key for which the pass answers no slot, are
not written.  Such a table is a store whose writes can be coalesced
(`store_overwriting`), silent failures included, and it answers reads like a map as long
as it has room for the keys that are written (`Room`).
-/

set_option autoImplicit false

namespace RdmaIntercept.Library.SlotTable

variable {n : ℕ} {κ β : Type} [DecidableEq κ]

/-- Writes `v` for the key `k`. -/
def store (free : κ) (valid : κ → Prop) [DecidablePred valid] (t : (Fin n → κ) × (Fin n → β))
    (k : κ) (v : β) : (Fin n → κ) × (Fin n → β) :=
  if valid k then
    match slotFor t.1 free k with
    | some i => (Function.update t.1 i k, Function.update t.2 i v)
    | none => t
  else t

/-- A further write to `k` finds the slot of `k`, or fails as this one would. -/
def Settled (free : κ) (valid : κ → Prop) (t : (Fin n → κ) × (Fin n → β)) (k : κ) : Prop :=
  ¬ valid k ∨ (∃ i, slotOf t.1 k = some i) ∨ ∀ i, t.1 i ≠ free

variable {free : κ} {valid : κ → Prop} [DecidablePred valid]
variable {t : (Fin n → κ) × (Fin n → β)} {k q : κ} {v w : β} {i j : Fin n}

theorem store_invalid (hk : ¬ valid k) : store free valid t k v = t := if_neg hk

theorem store_some (hk : valid k) (hi : slotFor t.1 free k = some i) :
    store free valid t k v = (Function.update t.1 i k, Function.update t.2 i v) := by
  rw [store, if_pos hk, hi]

theorem store_none (h : slotFor t.1 free k = none) : store free valid t k v = t := by
  unfold store
  rw [h]
  split <;> rfl

theorem slotFor_of_slotOf {key : Fin n → κ} (h : slotOf key k = some i) :
    slotFor key free k = some i := by
  rw [slotFor, h, Option.some_or]

theorem update_of_slotOf {key : Fin n → κ} (h : slotOf key k = some i) :
    Function.update key i k = key := by
  rw [← key_of_slotOf h, Function.update_eq_self]

/-! ## Coalescing -/

theorem store_overwrite : store free valid (store free valid t k v) k w = store free valid t k w := by
  by_cases hk : valid k
  · cases hi : slotFor t.1 free k with
    | none => rw [store_none hi]
    | some i =>
      have hslot : slotFor (Function.update t.1 i k) free k = some i :=
        slotFor_of_slotOf (slotOf_update_self hi)
      rw [store_some hk hi, store_some hk hslot, store_some hk hi]
      simp only [Function.update_idem]
  · rw [store_invalid hk, store_invalid hk, store_invalid hk]

theorem settled_store : Settled free valid (store free valid t k v) k := by
  by_cases hk : valid k
  · cases hi : slotFor t.1 free k with
    | none =>
      rw [store_none hi]
      exact Or.inr (Or.inr (slotFor_eq_none_iff.mp hi).2)
    | some i =>
      rw [store_some hk hi]
      exact Or.inr (Or.inl ⟨i, slotOf_update_self hi⟩)
  · exact Or.inl hk

theorem Settled.store (hvalid : ∀ k, valid k → k ≠ free) (h : Settled free valid t k) :
    Settled free valid (store free valid t q w) k := by
  by_cases hq : valid q
  · cases hj : slotFor t.1 free q with
    | none =>
      rw [store_none hj]
      exact h
    | some j =>
      rw [store_some hq hj]
      rcases h with hk | ⟨i, hi⟩ | hfull
      · exact Or.inl hk
      · by_cases hk : valid k
        · refine Or.inr (Or.inl ?_)
          by_cases hkq : k = q
          · subst hkq
            exact ⟨j, slotOf_update_self hj⟩
          · exact ⟨i, (slotOf_update_of_ne hj hkq (hvalid k hk)).trans hi⟩
        · exact Or.inl hk
      · refine Or.inr (Or.inr ?_)
        intro i
        show Function.update t.1 j q i ≠ free
        by_cases hij : i = j
        · rw [hij, Function.update_self]
          exact hvalid q hq
        · rw [Function.update_of_ne hij]
          exact hfull i
  · rw [store_invalid hq]
    exact h

/-- A key that has a slot is written there, whatever is written to another key before. -/
theorem store_comm_of_slotOf (hvalid : ∀ k, valid k → k ≠ free) (hk : valid k) (hq : valid q)
    (hqk : q ≠ k) (hi : slotOf t.1 k = some i) :
    store free valid (store free valid t q w) k v = store free valid (store free valid t k v) q w := by
  have hslot : slotFor t.1 free k = some i := slotFor_of_slotOf hi
  have hkeys := update_of_slotOf hi
  cases hj : slotFor t.1 free q with
  | none =>
    have hj' : slotFor (Function.update t.1 i k) free q = none := by rwa [hkeys]
    rw [store_none hj, store_some hk hslot, store_none hj']
  | some j =>
    have hij : i ≠ j := ne_of_slotFor hj (key_of_slotOf hi) (Ne.symm hqk) (hvalid k hk)
    have hslot' : slotFor (Function.update t.1 j q) free k = some i :=
      slotFor_of_slotOf ((slotOf_update_of_ne hj (Ne.symm hqk) (hvalid k hk)).trans hi)
    have hj' : slotFor (Function.update t.1 i k) free q = some j := by rwa [hkeys]
    rw [store_some hq hj, store_some hk hslot, store_some hk hslot', store_some hq hj']
    simp only [Function.update_comm hij]

theorem store_comm (hvalid : ∀ k, valid k → k ≠ free) (h : Settled free valid t k) (hqk : q ≠ k) :
    store free valid (store free valid t q w) k v = store free valid (store free valid t k v) q w := by
  by_cases hk : valid k
  · by_cases hq : valid q
    · cases hi : slotOf t.1 k with
      | some i => exact store_comm_of_slotOf hvalid hk hq hqk hi
      | none =>
        -- the table is full without `k`, and stays so
        have hfull : ∀ i, t.1 i ≠ free := by
          rcases h with hno | ⟨i, hsome⟩ | hfull
          · exact absurd hk hno
          · rw [hi] at hsome
            exact absurd hsome.symm (Option.some_ne_none i)
          · exact hfull
        have hnone : slotFor t.1 free k = none :=
          slotFor_eq_none_iff.mpr ⟨slotOf_eq_none_iff.mp hi, hfull⟩
        cases hj : slotFor t.1 free q with
        | none => rw [store_none hj, store_none hnone, store_none hj]
        | some j =>
          have hkeys : Function.update t.1 j q = t.1 := update_of_used hj (hfull j)
          have hnone' : slotFor (Function.update t.1 j q) free k = none := by rwa [hkeys]
          rw [store_none hnone, store_some hq hj, store_none hnone']
    · rw [store_invalid hq, store_invalid hq]
  · rw [store_invalid hk, store_invalid hk]

/-- Writes to a slot table can be coalesced. -/
theorem store_overwriting (hvalid : ∀ k, valid k → k ≠ free) :
    WriteBuffer.Overwriting (@store n κ β _ free valid _) (Settled free valid) where
  overwrite := fun _ _ _ _ => store_overwrite
  settles := fun _ _ _ => settled_store
  keeps := fun _ _ _ _ h => h.store hvalid
  commutes := fun _ _ _ _ _ h hqk => store_comm hvalid h hqk

/-! ## Room -/

/-- The table has a free slot for each key of `S` that it does not hold yet. -/
def Room (free : κ) (S : Finset κ) (key : Fin n → κ) : Prop :=
  (S.filter fun k => ∀ i, key i ≠ k).card ≤ (Finset.univ.filter fun i => key i = free).card

theorem Room.exists_slotFor {S : Finset κ} {key : Fin n → κ} (h : Room free S key) (hk : k ∈ S) :
    ∃ i, slotFor key free k = some i := by
  cases hs : slotFor key free k with
  | some i => exact ⟨i, rfl⟩
  | none =>
    obtain ⟨hno, hfull⟩ := slotFor_eq_none_iff.mp hs
    have hpos : 0 < (S.filter fun k => ∀ i, key i ≠ k).card :=
      Finset.card_pos.mpr ⟨k, Finset.mem_filter.mpr ⟨hk, hno⟩⟩
    obtain ⟨i, hi⟩ := Finset.card_pos.mp (lt_of_lt_of_le hpos h)
    exact absurd (Finset.mem_filter.mp hi).2 (hfull i)

/-- Storing one of the keys takes its free slot. -/
theorem Room.update {S : Finset κ} {key : Fin n → κ} (h : Room free S key) (hfree : free ∉ S)
    (hk : k ∈ S) (hi : slotFor key free k = some i) : Room free S (Function.update key i k) := by
  rcases key_of_slotFor hi with hki | ⟨hfi, hnone⟩
  · rw [← hki, Function.update_eq_self]
    exact h
  · have hno := slotOf_eq_none_iff.mp hnone
    have hmem : k ∈ S.filter fun q => ∀ j, key j ≠ q := Finset.mem_filter.mpr ⟨hk, hno⟩
    have hmem' : i ∈ Finset.univ.filter fun j => key j = free :=
      Finset.mem_filter.mpr ⟨Finset.mem_univ i, hfi⟩
    have hplaced : (S.filter fun q => ∀ j, Function.update key i k j ≠ q) ⊆
        (S.filter fun q => ∀ j, key j ≠ q).erase k := by
      intro q hq
      obtain ⟨hqS, hq⟩ := Finset.mem_filter.mp hq
      have hqk : q ≠ k := by
        rintro rfl
        exact hq i (Function.update_self ..)
      refine Finset.mem_erase.mpr ⟨hqk, Finset.mem_filter.mpr ⟨hqS, ?_⟩⟩
      intro j hj
      by_cases hji : j = i
      · have hqfree : q = free := by rw [← hj, hji, hfi]
        exact hfree (hqfree ▸ hqS)
      · exact hq j (by rw [Function.update_of_ne hji, hj])
    have hleft : (Finset.univ.filter fun j => key j = free).erase i ⊆
        Finset.univ.filter fun j => Function.update key i k j = free := by
      intro j hj
      obtain ⟨hji, hj⟩ := Finset.mem_erase.mp hj
      refine Finset.mem_filter.mpr ⟨Finset.mem_univ j, ?_⟩
      rw [Function.update_of_ne hji]
      exact (Finset.mem_filter.mp hj).2
    calc (S.filter fun q => ∀ j, Function.update key i k j ≠ q).card
        ≤ ((S.filter fun q => ∀ j, key j ≠ q).erase k).card := Finset.card_le_card hplaced
      _ = (S.filter fun q => ∀ j, key j ≠ q).card - 1 := Finset.card_erase_of_mem hmem
      _ ≤ (Finset.univ.filter fun j => key j = free).card - 1 := Nat.sub_le_sub_right h 1
      _ = ((Finset.univ.filter fun j => key j = free).erase i).card :=
        (Finset.card_erase_of_mem hmem').symm
      _ ≤ (Finset.univ.filter fun j => Function.update key i k j = free).card :=
        Finset.card_le_card hleft

/-- In a table with room every write of a key of `S` is read back, and no other is touched. -/
theorem lookup_store_of_room {S : Finset κ} (h : Room free S t.1) (hk : k ∈ S ∨ ¬ valid k)
    (hq : valid q) (hqf : q ≠ free) :
    lookup (store free valid t k v).1 (store free valid t k v).2 q =
      if q = k then some v else lookup t.1 t.2 q := by
  by_cases hkv : valid k
  · obtain ⟨i, hi⟩ := h.exists_slotFor (hk.resolve_right (not_not.mpr hkv))
    rw [store_some hkv hi]
    exact lookup_store v hi hqf
  · rw [store_invalid hkv, if_neg]
    rintro rfl
    exact hkv hq

theorem Room.store {S : Finset κ} (h : Room free S t.1) (hfree : free ∉ S)
    (hk : k ∈ S ∨ ¬ valid k) : Room free S (store free valid t k v).1 := by
  by_cases hkv : valid k
  · have hkS := hk.resolve_right (not_not.mpr hkv)
    obtain ⟨i, hi⟩ := h.exists_slotFor hkS
    rw [store_some hkv hi]
    exact h.update hfree hkS hi
  · rw [store_invalid hkv]
    exact h

end RdmaIntercept.Library.SlotTable
