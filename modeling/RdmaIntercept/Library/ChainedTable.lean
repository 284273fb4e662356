import RdmaIntercept.Library.WriteBuffer
import Mathlib.Data.List.FinRange

/-!
# Hash tables with chains

A table has a chain of nodes for each hash value.  A value is stored in the node of its key,
or in a new node at the front of the chain when there is none; a new node may be refused.
The table stays well placed: every node is in the chain of its key, and no chain has two
nodes of one key (`WellPlaced.store`).  After all entries of a map have been stored the table
answers what the map says of its keys, and what it said before of all others
(`find_storeAll`).
-/

set_option autoImplicit false

namespace RdmaIntercept.Library.ChainedTable

variable {κ β ι : Type} [DecidableEq κ] [DecidableEq ι] (hash : κ → ι)

/-- The value in the first node of the key. -/
def find (t : ι → List (κ × β)) (k : κ) : Option β := (t (hash k)).lookup k

/-- A value is written to the first node of its key, else to a new node if there is `room` for
one. -/
def storeChain (room : Bool) (chain : List (κ × β)) (e : κ × β) : List (κ × β) :=
  if e.1 ∈ chain.map Prod.fst then WriteBuffer.replace e.1 e.2 chain
  else if room then e :: chain
  else chain

/-- A value is stored in the chain of its key. -/
def store (room : κ → Bool) (t : ι → List (κ × β)) (e : κ × β) : ι → List (κ × β) :=
  Function.update t (hash e.1) (storeChain (room e.1) (t (hash e.1)) e)

/-- All entries, one after the other. -/
def storeAll (room : κ → Bool) (t : ι → List (κ × β)) (es : List (κ × β)) :
    ι → List (κ × β) :=
  es.foldl (store hash room) t

/-- Every node is in the chain of its key, and it is the only one of the key there. -/
structure WellPlaced (t : ι → List (κ × β)) : Prop where
  nodup : ∀ i, ((t i).map Prod.fst).Nodup
  placed : ∀ i, ∀ e ∈ t i, hash e.1 = i

variable {hash} {room : κ → Bool} {t : ι → List (κ × β)} {e : κ × β} {k : κ} {v : β}

/-! ## Chains -/

section Chains

variable {chain : List (κ × β)}

omit [DecidableEq ι] in
theorem lookup_cons (d : κ × β) (chain : List (κ × β)) (k : κ) :
    (d :: chain).lookup k = if k = d.1 then some d.2 else chain.lookup k := by
  rw [List.lookup_cons]
  by_cases h : k = d.1
  · rw [beq_iff_eq.mpr h, if_pos h]
  · rw [beq_eq_false_iff_ne.mpr h, if_neg h]

theorem lookup_map_snd {γ : Type} (f : γ → β) (es : List (κ × γ)) (k : κ) :
    (es.map (Prod.map id f)).lookup k = (es.lookup k).map f := by
  induction es with
  | nil => rfl
  | cons d es ih =>
    rw [List.map_cons, lookup_cons, lookup_cons, ih]
    by_cases h : k = d.1
    · have hkey : k = (Prod.map id f d).1 := h
      rw [if_pos hkey, if_pos h]
      rfl
    · have hkey : ¬ k = (Prod.map id f d).1 := h
      rw [if_neg hkey, if_neg h]

theorem lookup_isSome_iff : (chain.lookup k).isSome ↔ k ∈ chain.map Prod.fst := by
  induction chain with
  | nil => simp
  | cons d chain ih =>
    rw [lookup_cons, List.map_cons, List.mem_cons]
    by_cases h : k = d.1
    · simp [h]
    · simp [h, ih]

/-- The written value is found, and so are the others. -/
theorem lookup_replace (hk : k ∈ chain.map Prod.fst) (j : κ) :
    (WriteBuffer.replace k v chain).lookup j = if j = k then some v else chain.lookup j := by
  induction chain with
  | nil => exact absurd hk List.not_mem_nil
  | cons d chain ih =>
    unfold WriteBuffer.replace
    by_cases hd : d.1 = k
    · subst hd
      rw [if_pos rfl, lookup_cons, lookup_cons]
      by_cases hj : j = d.1
      · rw [if_pos hj, if_pos hj]
      · rw [if_neg hj, if_neg hj, if_neg hj]
    · have hrest : k ∈ chain.map Prod.fst := by
        rw [List.map_cons, List.mem_cons] at hk
        exact hk.resolve_left (Ne.symm hd)
      rw [if_neg hd, lookup_cons, lookup_cons, ih hrest]
      by_cases hj : j = d.1
      · have hne : j ≠ k := fun hjk => hd (hj.symm.trans hjk)
        rw [if_pos hj, if_neg hne, if_pos hj]
      · rw [if_neg hj, if_neg hj]

/-- In a chain without two nodes of one key, the nodes are what is found. -/
theorem mem_iff_lookup (h : (chain.map Prod.fst).Nodup) :
    e ∈ chain ↔ chain.lookup e.1 = some e.2 := by
  induction chain with
  | nil => simp
  | cons d chain ih =>
    rw [List.map_cons, List.nodup_cons] at h
    rw [List.mem_cons, lookup_cons, ih h.2]
    by_cases hd : e.1 = d.1
    · have hnone : chain.lookup e.1 ≠ some e.2 := by
        intro hfound
        rw [hd] at hfound
        apply h.1
        rw [← lookup_isSome_iff, hfound]
        rfl
      rw [if_pos hd, or_iff_left hnone, Prod.ext_iff, and_iff_right hd, Option.some.injEq,
        eq_comm]
    · rw [if_neg hd, or_iff_right]
      exact fun hed => hd (congrArg Prod.fst hed)

/-- A stored value is found; without room for a new node the key stays without one. -/
theorem lookup_storeChain (room : Bool) (j : κ) :
    (storeChain room chain e).lookup j =
      if j = e.1 then if e.1 ∈ chain.map Prod.fst ∨ room then some e.2 else none
      else chain.lookup j := by
  unfold storeChain
  by_cases hmem : e.1 ∈ chain.map Prod.fst
  · rw [if_pos hmem, lookup_replace hmem, if_pos (Or.inl hmem)]
  · have hnone : chain.lookup e.1 = none := by
      rw [← Option.not_isSome_iff_eq_none, lookup_isSome_iff]
      exact hmem
    rw [if_neg hmem]
    cases room with
    | true => rw [if_pos rfl, if_pos (Or.inr rfl), lookup_cons]
    | false =>
      rw [if_neg Bool.false_ne_true, if_neg (not_or.mpr ⟨hmem, Bool.false_ne_true⟩)]
      by_cases hj : j = e.1
      · rw [if_pos hj, hj, hnone]
      · rw [if_neg hj]

theorem nodup_storeChain (room : Bool) (h : (chain.map Prod.fst).Nodup) :
    ((storeChain room chain e).map Prod.fst).Nodup := by
  unfold storeChain
  by_cases hmem : e.1 ∈ chain.map Prod.fst
  · rw [if_pos hmem, WriteBuffer.map_fst_replace]
    exact h
  · rw [if_neg hmem]
    cases room with
    | true =>
      rw [if_pos rfl, List.map_cons]
      exact List.nodup_cons.mpr ⟨hmem, h⟩
    | false =>
      rw [if_neg Bool.false_ne_true]
      exact h

theorem mem_of_mem_storeChain {room : Bool} {d : κ × β} (h : d ∈ storeChain room chain e) :
    d = e ∨ d ∈ chain := by
  unfold storeChain at h
  split_ifs at h
  · exact WriteBuffer.mem_of_mem_replace h
  · exact List.mem_cons.mp h
  · exact Or.inr h

end Chains

/-! ## The table -/

/-- A stored value is found under its key, and nothing else changes. -/
theorem find_store (j : κ) :
    find hash (store hash room t e) j =
      if j = e.1 then if e.1 ∈ (t (hash e.1)).map Prod.fst ∨ room e.1 then some e.2 else none
      else find hash t j := by
  unfold find store
  by_cases hi : hash j = hash e.1
  · rw [hi, Function.update_self, lookup_storeChain]
  · have hj : j ≠ e.1 := fun h => hi (congrArg hash h)
    rw [Function.update_of_ne hi, if_neg hj]

omit [DecidableEq ι] in
theorem find_isSome_iff : (find hash t k).isSome ↔ k ∈ (t (hash k)).map Prod.fst :=
  lookup_isSome_iff

theorem WellPlaced.store (h : WellPlaced hash t) (room : κ → Bool) (e : κ × β) :
    WellPlaced hash (store hash room t e) := by
  constructor
  · intro i
    by_cases hi : i = hash e.1
    · subst hi
      rw [ChainedTable.store, Function.update_self]
      exact nodup_storeChain _ (h.nodup _)
    · rw [ChainedTable.store, Function.update_of_ne hi]
      exact h.nodup i
  · intro i d hd
    by_cases hi : i = hash e.1
    · subst hi
      rw [ChainedTable.store, Function.update_self] at hd
      rcases mem_of_mem_storeChain hd with rfl | hold
      · rfl
      · exact h.placed _ d hold
    · rw [ChainedTable.store, Function.update_of_ne hi] at hd
      exact h.placed i d hd

theorem WellPlaced.storeAll (h : WellPlaced hash t) (room : κ → Bool) (es : List (κ × β)) :
    WellPlaced hash (storeAll hash room t es) := by
  induction es generalizing t with
  | nil => exact h
  | cons e es ih => exact ih (h.store room e)

omit [DecidableEq ι] in
/-- The nodes of a well placed table are what is found. -/
theorem WellPlaced.mem_iff_find (h : WellPlaced hash t) :
    (∃ i, e ∈ t i) ↔ find hash t e.1 = some e.2 := by
  constructor
  · rintro ⟨i, hi⟩
    obtain rfl := h.placed i e hi
    exact (mem_iff_lookup (h.nodup _)).mp hi
  · intro hfound
    exact ⟨hash e.1, (mem_iff_lookup (h.nodup _)).mpr hfound⟩

omit [DecidableEq κ] [DecidableEq ι] in
/-- Taken together, the chains of a well placed table have one node of a key at most. -/
theorem WellPlaced.nodup_flatMap (h : WellPlaced hash t) {is : List ι} (his : is.Nodup) :
    ((is.flatMap t).map Prod.fst).Nodup := by
  rw [List.map_flatMap, List.nodup_flatMap]
  refine ⟨fun i _ => h.nodup i, his.imp ?_⟩
  intro i j hij k hi hj
  obtain ⟨d, hd, rfl⟩ := List.mem_map.mp hi
  obtain ⟨d', hd', hkey⟩ := List.mem_map.mp hj
  apply hij
  rw [← h.placed i d hd, ← hkey]
  exact h.placed j d' hd'

/-- After all entries of a map are stored, its keys have their values, those without a node
only if there was room, and the other keys are as before. -/
theorem find_storeAll {es : List (κ × β)} (hes : (es.map Prod.fst).Nodup) (j : κ) :
    find hash (storeAll hash room t es) j =
      match es.lookup j with
      | some v => if (find hash t j).isSome ∨ room j then some v else none
      | none => find hash t j := by
  induction es generalizing t with
  | nil => rfl
  | cons e es ih =>
    rw [List.map_cons, List.nodup_cons] at hes
    have hstep : storeAll hash room t (e :: es) = storeAll hash room (store hash room t e) es := rfl
    rw [hstep, ih hes.2, lookup_cons]
    by_cases hj : j = e.1
    · subst hj
      have hnone : es.lookup e.1 = none := by
        rw [← Option.not_isSome_iff_eq_none, lookup_isSome_iff]
        exact hes.1
      simp only [hnone, if_true, find_store, find_isSome_iff]
    · simp only [if_neg hj, find_store]

end RdmaIntercept.Library.ChainedTable
