import RdmaIntercept.Library.SlotTable

/-!
# A slot table as a finite map

A slot table with a column of values represents a finite map from the keys of its
occupied slots (`keys`) to the values beside them (`lookup`).  Storing a key acts on this
map as an update, freeing slots as a restriction; the holes that the second leaves and
the places that the first chooses are not seen by the map.  The number of keys tells
whether the table has room.
-/

set_option autoImplicit false

namespace RdmaIntercept.Library.SlotTable

variable {n : ℕ} {κ β : Type} [DecidableEq κ]

/-- The keys of the occupied slots. -/
def keys (key : Fin n → κ) (free : κ) : Finset κ := (Finset.univ.image key).erase free

/-- The value beside the first slot that holds `k`. -/
def lookup (key : Fin n → κ) (val : Fin n → β) (k : κ) : Option β := (slotOf key k).map val

/-- The slots that satisfy `P` are freed. -/
def sweep (key : Fin n → κ) (free : κ) (P : Fin n → Prop) [DecidablePred P] : Fin n → κ :=
  fun i => if P i then free else key i

variable {key : Fin n → κ} {val : Fin n → β} {free k : κ}

omit [DecidableEq κ] in
theorem distinct_const : Distinct (fun _ : Fin n => free) free := fun _ _ _ h => absurd rfl h

/-! ## Keys -/

theorem mem_keys : k ∈ keys key free ↔ k ≠ free ∧ ∃ i, key i = k := by
  simp [keys]

theorem card_keys_le : (keys key free).card ≤ n := by
  calc (keys key free).card ≤ (Finset.univ.image key).card := Finset.card_erase_le
    _ ≤ (Finset.univ : Finset (Fin n)).card := Finset.card_image_le
    _ = n := by rw [Finset.card_univ, Fintype.card_fin]

/-- A table has fewer than `n` keys exactly when a slot is free. -/
theorem card_keys_lt_iff (hd : Distinct key free) :
    (keys key free).card < n ↔ ∃ i, key i = free := by
  constructor
  · intro h
    apply exists_free_of_card_lt hd _ _ h
    intro i hi
    exact mem_keys.mpr ⟨hi, i, rfl⟩
  · rintro ⟨i, hi⟩
    have hsub : keys key free ⊆ (Finset.univ.erase i).image key := by
      intro k hk
      obtain ⟨hne, j, rfl⟩ := mem_keys.mp hk
      have hji : j ≠ i := by
        rintro rfl
        exact hne hi
      exact Finset.mem_image.mpr ⟨j, Finset.mem_erase.mpr ⟨hji, Finset.mem_univ j⟩, rfl⟩
    calc (keys key free).card ≤ ((Finset.univ.erase i).image key).card :=
          Finset.card_le_card hsub
      _ ≤ (Finset.univ.erase i).card := Finset.card_image_le
      _ < n := by
        rw [Finset.card_erase_of_mem (Finset.mem_univ i), Finset.card_univ, Fintype.card_fin]
        have := i.isLt
        omega

/-- Leaving out an occupied slot leaves out its key. -/
theorem image_erase_slot (hd : Distinct key free) {i : Fin n} (hi : key i ≠ free)
    (S : Finset (Fin n)) : (S.erase i).image key = (S.image key).erase (key i) := by
  ext k
  rw [Finset.mem_erase, Finset.mem_image, Finset.mem_image]
  constructor
  · rintro ⟨j, hj, rfl⟩
    obtain ⟨hji, hj⟩ := Finset.mem_erase.mp hj
    exact ⟨fun hkey => hji (hd j i hkey (by rwa [hkey])), j, hj, rfl⟩
  · rintro ⟨hne, j, hj, rfl⟩
    refine ⟨j, Finset.mem_erase.mpr ⟨?_, hj⟩, rfl⟩
    rintro rfl
    exact hne rfl

/-- A pass for `k` answers a slot exactly when `k` has one or the table has room. -/
theorem exists_slotFor_iff (hd : Distinct key free) (hk : k ≠ free) :
    (∃ i, slotFor key free k = some i) ↔ k ∈ keys key free ∨ (keys key free).card < n := by
  rw [card_keys_lt_iff hd, mem_keys, and_iff_right hk]
  constructor
  · rintro ⟨i, hi⟩
    rcases key_of_slotFor hi with h | ⟨h, -⟩
    · exact Or.inl ⟨i, h⟩
    · exact Or.inr ⟨i, h⟩
  · intro h
    cases hs : slotFor key free k with
    | some i => exact ⟨i, rfl⟩
    | none =>
      obtain ⟨hno, hfull⟩ := slotFor_eq_none_iff.mp hs
      rcases h with ⟨i, hi⟩ | ⟨i, hi⟩
      · exact absurd hi (hno i)
      · exact absurd hi (hfull i)

/-- Storing a key adds it. -/
theorem keys_store {i : Fin n} (h : slotFor key free k = some i) (hk : k ≠ free) :
    keys (Function.update key i k) free = insert k (keys key free) := by
  ext q
  rw [Finset.mem_insert, mem_keys, mem_keys]
  constructor
  · rintro ⟨hq, j, hj⟩
    by_cases hji : j = i
    · rw [hji, Function.update_self] at hj
      exact Or.inl hj.symm
    · rw [Function.update_of_ne hji] at hj
      exact Or.inr ⟨hq, j, hj⟩
  · rintro (rfl | ⟨hq, j, hj⟩)
    · exact ⟨hk, i, Function.update_self ..⟩
    · refine ⟨hq, ?_⟩
      by_cases hji : j = i
      · rcases key_of_slotFor h with hi | ⟨hi, -⟩
        · exact ⟨i, by rw [Function.update_self, ← hi, ← hji, hj]⟩
        · exact absurd (by rw [← hj, hji, hi]) hq
      · exact ⟨j, by rw [Function.update_of_ne hji, hj]⟩

/-! ## Values -/

theorem lookup_eq_none_iff : lookup key val k = none ↔ ∀ i, key i ≠ k := by
  rw [lookup, Option.map_eq_none_iff, slotOf_eq_none_iff]

theorem exists_of_lookup {v : β} (h : lookup key val k = some v) : ∃ i, key i = k ∧ val i = v := by
  obtain ⟨i, hi, hv⟩ := Option.map_eq_some_iff.mp h
  exact ⟨i, key_of_slotOf hi, hv⟩

/-- The entry of a key is any slot that holds it. -/
theorem lookup_of_key (hd : Distinct key free) (hk : k ≠ free) {i : Fin n} (hi : key i = k) :
    lookup key val k = some (val i) := by
  obtain ⟨j, hj⟩ := exists_slotOf_of_key hi
  have hji : j = i := hd j i ((key_of_slotOf hj).trans hi.symm) (by rwa [key_of_slotOf hj])
  rw [lookup, hj, hji, Option.map_some]

theorem mem_keys_iff_lookup (hk : k ≠ free) :
    k ∈ keys key free ↔ ∃ v, lookup key val k = some v := by
  rw [mem_keys, and_iff_right hk, ← Option.ne_none_iff_exists', Ne, lookup_eq_none_iff]
  push Not
  rfl

/-! ## Storing and freeing -/

/-- Storing a key updates the map. -/
theorem lookup_store {i : Fin n} {k' : κ} (v : β) (h : slotFor key free k = some i)
    (hk' : k' ≠ free) :
    lookup (Function.update key i k) (Function.update val i v) k' =
      if k' = k then some v else lookup key val k' := by
  unfold lookup
  by_cases hkk : k' = k
  · rw [if_pos hkk, hkk, slotOf_update_self h, Option.map_some, Function.update_self]
  · rw [if_neg hkk, slotOf_update_of_ne h hkk hk']
    apply Option.map_congr
    intro j hj
    exact Function.update_of_ne (ne_of_slotFor h (key_of_slotOf hj) hkk hk') _ _

variable {P : Fin n → Prop} [DecidablePred P]

omit [DecidableEq κ] in
theorem sweep_eq_iff (hk : k ≠ free) (i : Fin n) : sweep key free P i = k ↔ key i = k ∧ ¬ P i := by
  unfold sweep
  by_cases hP : P i
  · rw [if_pos hP]
    exact ⟨fun h => absurd h.symm hk, fun h => absurd hP h.2⟩
  · rw [if_neg hP]
    exact ⟨fun h => ⟨h, hP⟩, And.left⟩

omit [DecidableEq κ] in
/-- Freeing slots stores no key twice. -/
theorem distinct_sweep (hd : Distinct key free) : Distinct (sweep key free P) free := by
  intro i j hij hi
  have hki := (sweep_eq_iff hi i).mp rfl
  have hkj := (sweep_eq_iff hi j).mp hij.symm
  exact hd i j (hki.1.trans hkj.1.symm) (by rwa [hki.1])

/-- Freeing slots forgets the keys in them and no others. -/
theorem lookup_sweep {val' : Fin n → β} (hd : Distinct key free)
    (hval : ∀ i, ¬ P i → val' i = val i) (hk : k ≠ free) {i : Fin n} (hi : key i = k) :
    lookup (sweep key free P) val' k = if P i then none else lookup key val k := by
  by_cases hP : P i
  · rw [if_pos hP, lookup_eq_none_iff]
    intro j hj
    obtain ⟨hkj, hPj⟩ := (sweep_eq_iff hk j).mp hj
    have hji : j = i := hd j i (hkj.trans hi.symm) (by rwa [hkj])
    exact hPj (by rwa [hji])
  · rw [if_neg hP, lookup_of_key hd hk hi,
      lookup_of_key (distinct_sweep hd) hk ((sweep_eq_iff hk i).mpr ⟨hi, hP⟩), hval i hP]

/-- Freeing the slot of a key removes it. -/
theorem keys_sweep_slot (hd : Distinct key free) {i : Fin n} (hi : key i = k) (hk : k ≠ free) :
    keys (sweep key free fun j => j = i) free = (keys key free).erase k := by
  ext q
  rw [Finset.mem_erase, mem_keys, mem_keys]
  constructor
  · rintro ⟨hq, j, hj⟩
    obtain ⟨hkj, hji⟩ := (sweep_eq_iff hq j).mp hj
    refine ⟨?_, hq, j, hkj⟩
    rintro rfl
    exact hji (hd j i (hkj.trans hi.symm) (by rwa [hkj]))
  · rintro ⟨hqk, hq, j, hj⟩
    refine ⟨hq, j, (sweep_eq_iff hq j).mpr ⟨hj, ?_⟩⟩
    rintro rfl
    exact hqk (hj.symm.trans hi)

/-- A key that is not there is not there after slots have been freed. -/
theorem lookup_sweep_of_none {val' : Fin n → β} (hk : k ≠ free) (h : lookup key val k = none) :
    lookup (sweep key free P) val' k = none := by
  rw [lookup_eq_none_iff] at h ⊢
  intro i hi
  exact h i ((sweep_eq_iff hk i).mp hi).1

/-- A key whose first slot is not freed keeps it, also when it has several. -/
theorem slotOf_sweep {i : Fin n} (hk : k ≠ free) (h : slotOf key k = some i) (hi : ¬ P i) :
    slotOf (sweep key free P) k = some i := by
  unfold slotOf at h ⊢
  obtain ⟨hki, before, after, hsplit, hbefore⟩ := List.find?_eq_some_iff_append.mp h
  refine List.find?_eq_some_iff_append.mpr ⟨?_, before, after, hsplit, ?_⟩
  · exact decide_eq_true ((sweep_eq_iff hk i).mpr ⟨of_decide_eq_true hki, hi⟩)
  · intro j hj
    have hkj : ¬ key j = k := by simpa using hbefore j hj
    have hsweep : ¬ sweep key free P j = k := fun hsw => hkj ((sweep_eq_iff hk j).mp hsw).1
    simpa using hsweep

/-- So it is answered the same value. -/
theorem lookup_sweep_of_kept {val' : Fin n → β} (hval : ∀ i, ¬ P i → val' i = val i) (hk : k ≠ free)
    {i : Fin n} (h : slotOf key k = some i) (hi : ¬ P i) :
    lookup (sweep key free P) val' k = lookup key val k := by
  rw [lookup, lookup, slotOf_sweep hk h hi, h, Option.map_some, Option.map_some, hval i hi]

end RdmaIntercept.Library.SlotTable
