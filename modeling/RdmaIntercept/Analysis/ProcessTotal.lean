import RdmaIntercept.Analysis.ProcessAccounting

/-!
# The number of bound processes

`total_process_count` against the mapping table, for calls with any `pid_t`.  A slot whose
pid is 0 is a free one, and a search for process 0 finds it: binding process 0 writes a
mapping that no process has, which the deletion of its tenant later subtracts from the
counter, and unbinding process 0 subtracts at once.  The counter is exact in every state,
and the calls with pid 0 change nothing, exactly as long as no such call finds both a free
slot and something to do.
-/

set_option autoImplicit false

namespace RdmaIntercept.Analysis

open RdmaIntercept.Library RdmaIntercept.Model

/-- The slots of the mapping table that hold a process. -/
def occupied (shm : TenantShm) : Finset (Fin MAX_PROCESSES) :=
  Finset.univ.filter fun i => shm.mappedPid i ≠ 0

theorem mem_occupied {shm : TenantShm} {i : Fin MAX_PROCESSES} :
    i ∈ occupied shm ↔ shm.mappedPid i ≠ 0 := by
  simp [occupied]

theorem card_occupied_le (shm : TenantShm) : (occupied shm).card ≤ MAX_PROCESSES := by
  calc (occupied shm).card ≤ (Finset.univ : Finset (Fin MAX_PROCESSES)).card :=
        Finset.card_filter_le _ _
    _ = MAX_PROCESSES := by rw [Finset.card_univ, Fintype.card_fin]

/-- The counter is the number of occupied slots; a decrement below zero would have left it
far above the number of slots. -/
structure TotalExact (shm : TenantShm) : Prop where
  exact : shm.totalProcessCount.toNat = (occupied shm).card
  bounded : shm.totalProcessCount.toNat ≤ MAX_PROCESSES

/-- Nothing has changed but the change markers and the lock word. -/
structure Unchanged (shm shm' : TenantShm) : Prop extends SameStore shm shm' where
  totalProcessCount : shm'.totalProcessCount = shm.totalProcessCount

/-- The call binds or unbinds process 0. -/
def NamesZero : StoreCall → Prop
  | .op (.bind pid _) => pid = 0
  | .op (.unbind pid) => pid = 0
  | _ => False

/-- A call that binds or unbinds process 0 changes nothing. -/
def ZeroInert (shm : TenantShm) (e : TimeT × StoreCall) : Prop :=
  NamesZero e.2 → Unchanged shm (shm.step e)

/-- A call with pid 0 finds no free slot, or nothing to do: a binding no ACTIVE tenant, an
unbinding no process to count. -/
def ZeroRefused (shm : TenantShm) (e : TimeT × StoreCall) : Prop :=
  match e.2 with
  | .op (.bind pid t) => pid = 0 → ActiveTenant shm t → ∀ i, shm.mappedPid i ≠ 0
  | .op (.unbind pid) => pid = 0 → (∃ i, shm.mappedPid i ≠ 0) → ∀ i, shm.mappedPid i ≠ 0
  | _ => True

/-- What a run keeps that leaves pid 0 alone. -/
structure TotalInv (shm : TenantShm) : Prop extends WellMapped shm where
  unused : (shm.tenant 0).processCount = 0
  total : shm.totalProcessCount.toNat = (occupied shm).card

theorem TotalInv.totalExact {shm : TenantShm} (h : TotalInv shm) : TotalExact shm :=
  ⟨h.total, by rw [h.total]; exact card_occupied_le shm⟩

theorem occupied_congr {shm shm' : TenantShm} (h : shm'.pidMappings = shm.pidMappings) :
    occupied shm' = occupied shm := by
  ext i
  rw [mem_occupied, mem_occupied, mappedPid_congr h]

theorem TotalInv.of_unchanged {shm shm' : TenantShm} (h : TotalInv shm)
    (hsame : Unchanged shm shm') : TotalInv shm' := by
  refine ⟨h.toWellMapped.of_same hsame.toSameRecords, ?_, ?_⟩
  · rw [hsame.tenant]
    exact h.unused
  · rw [hsame.totalProcessCount, occupied_congr hsame.pidMappings]
    exact h.total

/-! ## Calls that do not count -/

theorem totalProcessCount_create (shm : TenantShm) (t : UInt32) (name : Option (List UInt8))
    (quota : Option TenantQuota) (now : TimeT) :
    (tenantCreate shm t name quota now).2.totalProcessCount = shm.totalProcessCount := by
  unfold tenantCreate
  simp only
  split
  · rfl
  · split <;> rfl

theorem totalProcessCount_setStatus (shm : TenantShm) (t : UInt32) (status : TenantStatus)
    (now : TimeT) :
    (tenantSetStatus shm t status now).2.totalProcessCount = shm.totalProcessCount := by
  unfold tenantSetStatus
  simp only
  split
  · rfl
  · split <;> rfl

theorem totalProcessCount_updateQuota (shm : TenantShm) (t : UInt32) (quota : TenantQuota)
    (now : TimeT) :
    (tenantUpdateQuota shm t quota now).2.totalProcessCount = shm.totalProcessCount := by
  unfold tenantUpdateQuota
  simp only
  split
  · rfl
  · split <;> rfl

theorem totalProcessCount_updateUsage (shm : TenantShm) (t : UInt32)
    (usage : TenantResourceUsage) (now : TimeT) :
    (tenantUpdateResourceUsage shm t usage now).2.totalProcessCount = shm.totalProcessCount := by
  unfold tenantUpdateResourceUsage
  simp only
  split
  · rfl
  · split <;> rfl

/-! ## Binding -/

theorem totalProcessCount_storeBinding (shm : TenantShm) (isNew : Bool) (i : Fin MAX_PROCESSES)
    (p : Pid) (t : UInt32) (now : TimeT) :
    (storeBinding shm isNew i p t now).totalProcessCount =
      if isNew then shm.totalProcessCount + 1 else shm.totalProcessCount := by
  cases isNew <;> rfl

/-- A binding counts a process that had no mapping. -/
theorem totalProcessCount_bind (shm : TenantShm) (p : Pid) (t : UInt32) (now : TimeT) :
    (tenantBindProcess shm p t now).2.totalProcessCount =
      if (tenantBindProcess shm p t now).1 = true ∧ SlotTable.slotOf shm.mappedPid p = none then
        shm.totalProcessCount + 1
      else shm.totalProcessCount := by
  have hfst : (SlotTable.scan (tenantShmLock shm).mappedPid 0 p
      (List.finRange MAX_PROCESSES) none).1 = SlotTable.slotOf shm.mappedPid p :=
    SlotTable.scan_fst_eq_slotOf
  unfold tenantBindProcess
  simp only
  split
  · simp
  · split
    · simp [tenantShmUnlock, tenantShmLock]
    · generalize SlotTable.scan (tenantShmLock shm).mappedPid 0 p
        (List.finRange MAX_PROCESSES) none = r at hfst ⊢
      obtain ⟨found, emptySlot⟩ := r
      simp only at hfst
      subst hfst
      cases hidx : (SlotTable.slotOf shm.mappedPid p).or emptySlot with
      | none => simp [tenantShmUnlock, tenantShmLock]
      | some idx =>
        simp only [tenantShmUnlock, totalProcessCount_storeBinding, Option.isNone_iff_eq_none,
          true_and]
        rfl

theorem occupied_bind {shm shm' : TenantShm} {p : Pid} {i : Fin MAX_PROCESSES}
    {m : PidTenantMapping} (h : shm'.pidMappings = Function.update shm.pidMappings i m)
    (hm : m.pid = p) (hp : p ≠ 0) : occupied shm' = insert i (occupied shm) := by
  ext j
  rw [Finset.mem_insert, mem_occupied, mem_occupied, mappedPid_of_update h, hm]
  by_cases hji : j = i
  · rw [hji, Function.update_self]
    exact iff_of_true hp (Or.inl rfl)
  · rw [Function.update_of_ne hji, or_iff_right hji]

theorem TotalInv.total_bind {shm : TenantShm} (h : TotalInv shm) {p : Pid} (hp : p ≠ 0)
    (t : UInt32) (now : TimeT) :
    (tenantBindProcess shm p t now).2.totalProcessCount.toNat =
      (occupied (tenantBindProcess shm p t now).2).card := by
  rw [totalProcessCount_bind]
  rcases tenantBind_cases shm p t now with ⟨i, -, hi, hdone⟩ | ⟨-, href⟩
  · rw [hdone.ok, occupied_bind hdone.pidMappings rfl hp]
    cases hslot : SlotTable.slotOf shm.mappedPid p with
    | none =>
      have hfree : i ∉ occupied shm := by
        rw [mem_occupied, not_not]
        exact SlotTable.free_of_slotFor hi hslot
      have hle := card_occupied_le shm
      have hmax : MAX_PROCESSES = 1024 := rfl
      rw [if_pos ⟨rfl, rfl⟩, Finset.card_insert_of_notMem hfree]
      exact Counter.toNat_succ h.total (by omega)
    | some j =>
      have hji : j = i := by
        rw [SlotTable.slotFor, hslot, Option.some_or] at hi
        exact Option.some.inj hi
      have hused : i ∈ occupied shm := by
        rw [mem_occupied, ← hji, SlotTable.key_of_slotOf hslot]
        exact hp
      rw [if_neg (fun hn => Option.some_ne_none j hn.2), Finset.insert_eq_of_mem hused, h.total]
  · rw [href.failed, if_neg (fun hn => Bool.false_ne_true hn.1), occupied_congr href.pidMappings,
      h.total]

/-! ## Unbinding -/

theorem occupied_freed {shm shm' : TenantShm} {i : Fin MAX_PROCESSES}
    (h : shm'.pidMappings = Function.update shm.pidMappings i (freedMapping (shm.pidMappings i))) :
    occupied shm' = (occupied shm).erase i := by
  ext j
  rw [Finset.mem_erase, mem_occupied, mem_occupied, mappedPid_of_freed h, ne_eq]
  unfold SlotTable.sweep
  by_cases hji : j = i
  · simp [hji]
  · simp [hji]

theorem totalProcessCount_dropTotal {shm : TenantShm} (h : 0 < shm.totalProcessCount.toNat) :
    shm.dropTotalProcessCount.totalProcessCount.toNat = shm.totalProcessCount.toNat - 1 := by
  have hpos : 0 < shm.totalProcessCount := h
  have hle : (1 : UInt32) ≤ shm.totalProcessCount := h
  unfold TenantShm.dropTotalProcessCount
  rw [if_pos hpos]
  simp only
  rw [UInt32.toNat_sub_of_le _ _ hle]
  rfl

theorem totalProcessCount_clearBinding {shm : TenantShm} (i : Fin MAX_PROCESSES) (p : Pid)
    (h : 0 < shm.totalProcessCount.toNat) :
    (clearBinding shm i p).totalProcessCount.toNat = shm.totalProcessCount.toNat - 1 := by
  unfold clearBinding
  exact totalProcessCount_dropTotal h

theorem TotalInv.total_unbind {shm : TenantShm} (h : TotalInv shm) {p : Pid} (hp : p ≠ 0)
    (now : TimeT) :
    (tenantUnbindProcess shm p now).2.totalProcessCount.toNat =
      (occupied (tenantUnbindProcess shm p now).2).card := by
  cases hslot : SlotTable.slotOf shm.mappedPid p with
  | none =>
    rw [tenantUnbindProcess_of_none now hslot]
    exact h.total
  | some i =>
    have hmap := tenantUnbindProcess_pidMappings shm p now
    rw [hslot] at hmap
    have hused : i ∈ occupied shm := by
      rw [mem_occupied, SlotTable.key_of_slotOf hslot]
      exact hp
    have hpos : 0 < shm.totalProcessCount.toNat := by
      rw [h.total]
      exact Finset.card_pos.mpr ⟨i, hused⟩
    have hclear : (clearBinding (tenantShmLock shm) i p).totalProcessCount.toNat =
        shm.totalProcessCount.toNat - 1 := totalProcessCount_clearBinding i p hpos
    rw [occupied_freed hmap, Finset.card_erase_of_mem hused, tenantUnbindProcess_of_some now hslot,
      ← h.total]
    exact hclear

/-! ## Deleting a tenant -/

theorem countP_finRange {n : ℕ} (P : Fin n → Prop) [DecidablePred P] :
    (List.finRange n).countP (fun i => decide (P i)) = (Finset.univ.filter P).card := by
  have hset : ((List.finRange n).filter fun i => decide (P i)).toFinset = Finset.univ.filter P := by
    ext i
    simp
  rw [← hset, List.toFinset_card_of_nodup ((List.nodup_finRange n).filter _),
    List.countP_eq_length_filter]

/-- The clean-up loop subtracts one for each slot of the tenant that it passes. -/
theorem totalProcessCount_foldl (t : UInt32) {is : List (Fin MAX_PROCESSES)} (hnodup : is.Nodup)
    (shm : TenantShm)
    (h : is.countP (fun i => decide (mappedTenant shm i = t)) ≤ shm.totalProcessCount.toNat) :
    (is.foldl (unmapIfTenant t) shm).totalProcessCount.toNat =
      shm.totalProcessCount.toNat - is.countP fun i => decide (mappedTenant shm i = t) := by
  induction is generalizing shm with
  | nil => simp
  | cons i is ih =>
    obtain ⟨hi, hnodup⟩ := List.nodup_cons.mp hnodup
    -- the slots still to come are not touched by the clearing of this one
    have hrest : is.countP (fun j => decide (mappedTenant (unmapIfTenant t shm i) j = t)) =
        is.countP fun j => decide (mappedTenant shm j = t) := by
      apply List.countP_congr
      intro j hj
      have hji : j ≠ i := fun hji => hi (hji ▸ hj)
      rw [mappedTenant_of_update (pidMappings_unmapIfTenant t shm i), Function.update_of_ne hji]
    have hstep : (unmapIfTenant t shm i).totalProcessCount =
        if mappedTenant shm i = t then shm.totalProcessCount - 1 else shm.totalProcessCount := by
      unfold unmapIfTenant mappedTenant
      split <;> rfl
    rw [List.countP_cons] at h ⊢
    by_cases hit : mappedTenant shm i = t
    · rw [if_pos hit] at hstep
      rw [decide_eq_true hit, if_pos rfl] at h ⊢
      have hle : (1 : UInt32) ≤ shm.totalProcessCount :=
        UInt32.le_iff_toNat_le.mpr (Nat.le_trans (Nat.le_add_left 1 _) h)
      have hone : (unmapIfTenant t shm i).totalProcessCount.toNat =
          shm.totalProcessCount.toNat - 1 := by
        rw [hstep, UInt32.toNat_sub_of_le _ _ hle]
        rfl
      rw [List.foldl_cons, ih hnodup (unmapIfTenant t shm i) (by rw [hrest, hone]; omega), hrest,
        hone]
      omega
    · rw [if_neg hit] at hstep
      rw [decide_eq_false hit, if_neg Bool.false_ne_true, Nat.add_zero] at h ⊢
      rw [List.foldl_cons, ih hnodup (unmapIfTenant t shm i) (by rw [hrest, hstep]; exact h), hrest,
        hstep]

theorem totalProcessCount_deleteWith (sweep : TenantShm → TenantShm) (shm : TenantShm)
    (t : UInt32) (now : TimeT) :
    (tenantDeleteWith sweep shm t now).2.totalProcessCount =
      if (tenantDeleteWith sweep shm t now).1 = true then
        (sweep (tenantShmLock shm)).totalProcessCount
      else shm.totalProcessCount := by
  unfold tenantDeleteWith
  simp only
  split
  · rfl
  · split <;> rfl

theorem totalProcessCount_delete (shm : TenantShm) (t : UInt32) (now : TimeT)
    (h : (entriesOf shm t).card ≤ shm.totalProcessCount.toNat) :
    (tenantDelete shm t now).2.totalProcessCount.toNat =
      if (tenantDelete shm t now).1 = true then
        shm.totalProcessCount.toNat - (entriesOf shm t).card
      else shm.totalProcessCount.toNat := by
  obtain ⟨sweep, hsweep, hdelete⟩ := tenantDelete_eq t
  have hcount : (List.finRange MAX_PROCESSES).countP
      (fun i => decide (mappedTenant (tenantShmLock shm) i = t)) = (entriesOf shm t).card :=
    countP_finRange fun i => mappedTenant shm i = t
  have hloop := totalProcessCount_foldl t (List.nodup_finRange MAX_PROCESSES) (tenantShmLock shm)
    (by rw [hcount]; exact h)
  rw [hcount] at hloop
  rw [hdelete, totalProcessCount_deleteWith, hsweep]
  split
  · exact hloop
  · rfl

theorem occupied_cleared {shm shm' : TenantShm} {t : UInt32}
    (h : shm'.pidMappings = fun i => clearedMapping t (shm.pidMappings i)) :
    occupied shm' = occupied shm \ entriesOf shm t := by
  ext i
  rw [Finset.mem_sdiff, mem_occupied, mem_occupied, mem_entriesOf, mappedPid_of_cleared h, ne_eq]
  unfold SlotTable.sweep
  by_cases hi : mappedTenant shm i = t
  · simp [hi]
  · simp [hi]

theorem TotalInv.total_delete {shm : TenantShm} (h : TotalInv shm) (t : UInt32) (now : TimeT) :
    (tenantDelete shm t now).2.totalProcessCount.toNat =
      (occupied (tenantDelete shm t now).2).card := by
  rcases tenantDelete_cases shm t now with ⟨hmay, hdone⟩ | ⟨hno, href⟩
  · have hsub : entriesOf shm t ⊆ occupied shm := by
      intro i hi
      apply mem_occupied.mpr (h.pid_ne_zero _)
      rw [mem_entriesOf.mp hi]
      exact hmay.1
    have hle : (entriesOf shm t).card ≤ shm.totalProcessCount.toNat := by
      rw [h.total]
      exact Finset.card_le_card hsub
    rw [totalProcessCount_delete shm t now hle, hdone.ok, if_pos rfl,
      occupied_cleared hdone.pidMappings, Finset.card_sdiff_of_subset hsub, h.total]
  · obtain ⟨sweep, -, hdelete⟩ := tenantDelete_eq t
    have hfailed := href.failed
    have hmap := href.pidMappings
    rw [hdelete] at hfailed hmap ⊢
    rw [totalProcessCount_deleteWith, hfailed, if_neg Bool.false_ne_true, occupied_congr hmap,
      h.total]

/-! ## Process 0 -/

/-- A free slot is what a search for process 0 finds. -/
theorem mayBind_zero_iff {shm : TenantShm} {t : UInt32} :
    MayBind shm 0 t ↔ ActiveTenant shm t ∧ ∃ i, shm.mappedPid i = 0 := by
  refine and_congr_right fun _ => ?_
  constructor
  · rintro ⟨i, hi⟩
    rcases SlotTable.key_of_slotFor hi with h | ⟨h, -⟩ <;> exact ⟨i, h⟩
  · rintro ⟨i, hi⟩
    obtain ⟨j, hj⟩ := SlotTable.exists_slotOf_of_key hi
    exact ⟨j, by rw [SlotTable.slotFor, hj, Option.some_or]⟩

theorem unchanged_bind_zero {shm : TenantShm} {t : UInt32} (h : ¬ MayBind shm 0 t) (now : TimeT) :
    Unchanged shm (tenantBindProcess shm 0 t now).2 := by
  rcases tenantBind_cases shm 0 t now with ⟨i, hmay, -, -⟩ | ⟨-, href⟩
  · exact absurd hmay h
  · refine ⟨href.toSameStore, ?_⟩
    rw [totalProcessCount_bind, href.failed, if_neg (fun hn => Bool.false_ne_true hn.1)]

/-- A binding of process 0 that succeeds takes a free slot away from no tenant. -/
theorem not_unchanged_bind_zero {shm : TenantShm} (h : WellMapped shm) {t : UInt32}
    (hmay : MayBind shm 0 t) (now : TimeT) :
    ¬ Unchanged shm (tenantBindProcess shm 0 t now).2 := by
  intro hsame
  rcases tenantBind_cases shm 0 t now with ⟨i, -, hi, hdone⟩ | ⟨hno, -⟩
  · have hfree : shm.mappedPid i = 0 := by
      rcases SlotTable.key_of_slotFor hi with hk | ⟨hk, -⟩ <;> exact hk
    have hold : mappedTenant shm i = 0 := (h.valid i).free_iff.mp hfree
    have hnew : mappedTenant shm i = t := by
      rw [← mappedTenant_congr hsame.pidMappings, mappedTenant_of_update hdone.pidMappings,
        Function.update_self]
    exact h.ne_zero hmay.1.inUse (hnew.symm.trans hold)
  · exact hno hmay

/-- Taking process 0 off a list leaves the list. -/
theorem removeProcess_zero (tenant : TenantInfo) : tenant.removeProcess 0 = tenant := by
  unfold TenantInfo.removeProcess
  cases hslot : SlotTable.slotOf tenant.processes 0 with
  | none => rfl
  | some j =>
    have hj := SlotTable.key_of_slotOf hslot
    have hself : Function.update tenant.processes j 0 = tenant.processes := by
      calc Function.update tenant.processes j 0
          = Function.update tenant.processes j (tenant.processes j) := by rw [hj]
        _ = tenant.processes := Function.update_eq_self ..
    simp only [hself]

/-- Unbinding process 0 frees a slot that is free and counts one process less. -/
theorem clearBinding_free {shm : TenantShm} (h : TotalInv shm) {i : Fin MAX_PROCESSES}
    (hi : shm.mappedPid i = 0) : clearBinding shm i 0 = shm.dropTotalProcessCount := by
  have htenant : (shm.pidMappings i).tenantId = 0 := (h.valid i).free_iff.mp hi
  have hdrop : ((shm.tenant 0).removeProcess 0).dropProcessCount = shm.tenant 0 := by
    rw [removeProcess_zero, TenantInfo.dropProcessCount, h.unused]
    rfl
  have hmapping : { shm.pidMappings i with pid := 0, tenantId := 0 } = shm.pidMappings i := by
    have hpid : (shm.pidMappings i).pid = 0 := hi
    cases hm : shm.pidMappings i with
    | mk pid tenantId mappedAt =>
      rw [hm] at hpid htenant
      simp only at hpid htenant
      rw [hpid, htenant]
  have hset : shm.setTenant 0 (shm.tenant 0) = shm := by
    unfold TenantShm.setTenant TenantShm.tenant
    rw [Function.update_eq_self]
  have hmap : shm.setMapping i (shm.pidMappings i) = shm := by
    unfold TenantShm.setMapping
    rw [Function.update_eq_self]
  unfold clearBinding
  simp only [htenant, hdrop, hset, hmapping, hmap]

theorem unchanged_unbind_zero {shm : TenantShm} (h : TotalInv shm) (now : TimeT)
    (hC : (∃ i, shm.mappedPid i ≠ 0) → ∀ i, shm.mappedPid i ≠ 0) :
    Unchanged shm (tenantUnbindProcess shm 0 now).2 := by
  cases hslot : SlotTable.slotOf shm.mappedPid 0 with
  | none =>
    rw [tenantUnbindProcess_of_none now hslot]
    exact ⟨(refused_touch shm now).toSameStore, rfl⟩
  | some i =>
    have hi := SlotTable.key_of_slotOf hslot
    have hempty : occupied shm = ∅ := by
      apply Finset.eq_empty_of_forall_notMem
      intro j hj
      exact hC ⟨j, mem_occupied.mp hj⟩ i hi
    have hlock : TotalInv (tenantShmLock shm) :=
      h.of_unchanged ⟨⟨⟨fun _ => rfl, rfl⟩, rfl⟩, rfl⟩
    have hzero : ¬ 0 < (tenantShmLock shm).totalProcessCount := by
      rw [UInt32.lt_iff_toNat_lt, hlock.total, occupied_congr (pidMappings_lock shm), hempty]
      simp
    rw [tenantUnbindProcess_of_some now hslot, clearBinding_free hlock hi,
      TenantShm.dropTotalProcessCount, if_neg hzero]
    exact ⟨(refused_touch shm now).toSameStore, rfl⟩

theorem not_unchanged_unbind_zero {shm : TenantShm} (h : TotalInv shm) (now : TimeT)
    {i j : Fin MAX_PROCESSES} (hi : shm.mappedPid i ≠ 0) (hj : shm.mappedPid j = 0) :
    ¬ Unchanged shm (tenantUnbindProcess shm 0 now).2 := by
  intro hsame
  obtain ⟨k, hk⟩ := SlotTable.exists_slotOf_of_key hj
  have hpos : 0 < shm.totalProcessCount.toNat := by
    rw [h.total]
    exact Finset.card_pos.mpr ⟨i, mem_occupied.mpr hi⟩
  have hdropped : (clearBinding (tenantShmLock shm) k 0).totalProcessCount.toNat =
      shm.totalProcessCount.toNat - 1 := totalProcessCount_clearBinding k 0 hpos
  have hkept := congrArg UInt32.toNat hsame.totalProcessCount
  rw [tenantUnbindProcess_of_some now hk] at hkept
  have hlast := hkept.symm.trans hdropped
  omega

/-! ## Runs -/

/-- A call with pid 0 changes nothing exactly when it is refused or has nothing to do. -/
theorem zeroInert_iff {shm : TenantShm} (h : TotalInv shm) (e : TimeT × StoreCall) :
    ZeroInert shm e ↔ ZeroRefused shm e := by
  obtain ⟨now, c⟩ := e
  cases c with
  | lookup p => exact iff_of_true (fun hzero => hzero.elim) trivial
  | op o =>
    cases o with
    | create t name quota => exact iff_of_true (fun hzero => hzero.elim) trivial
    | delete t => exact iff_of_true (fun hzero => hzero.elim) trivial
    | setStatus t st => exact iff_of_true (fun hzero => hzero.elim) trivial
    | updateQuota t quota => exact iff_of_true (fun hzero => hzero.elim) trivial
    | updateUsage t usage => exact iff_of_true (fun hzero => hzero.elim) trivial
    | bind p t =>
      constructor
      · rintro hinert rfl hactive i hi
        exact not_unchanged_bind_zero h.toWellMapped (mayBind_zero_iff.mpr ⟨hactive, i, hi⟩) now
          (hinert rfl)
      · intro href hp
        obtain rfl : p = 0 := hp
        apply unchanged_bind_zero
        rw [mayBind_zero_iff]
        rintro ⟨hactive, i, hi⟩
        exact href rfl hactive i hi
    | unbind p =>
      constructor
      · rintro hinert rfl ⟨i, hi⟩ j hj
        exact not_unchanged_unbind_zero h now hi hj (hinert rfl)
      · intro href hp
        obtain rfl : p = 0 := hp
        exact unchanged_unbind_zero h now (href rfl)

/-- The counter after a call of a process. -/
theorem TotalInv.total_exec {shm : TenantShm} (h : TotalInv shm) {c : StoreCall} (now : TimeT)
    (hc : c.NamesProcess) :
    (c.exec shm now).totalProcessCount.toNat = (occupied (c.exec shm now)).card := by
  -- a call that changes neither the counter nor the table
  have hkept : ∀ shm' : TenantShm, shm'.totalProcessCount = shm.totalProcessCount →
      shm'.pidMappings = shm.pidMappings →
        shm'.totalProcessCount.toNat = (occupied shm').card := by
    intro shm' htotal hmap
    rw [htotal, occupied_congr hmap, h.total]
  cases c with
  | lookup p => exact hkept _ rfl (tenantGetProcessTenant_same shm p now).pidMappings
  | op o =>
    cases o with
    | create t name quota =>
      exact hkept _ (totalProcessCount_create shm t name quota now)
        (tenantCreate_pidMappings shm t name quota now)
    | delete t => exact h.total_delete t now
    | setStatus t st =>
      exact hkept _ (totalProcessCount_setStatus shm t st now)
        (tenantSetStatus_spec shm t st now).pidMappings
    | updateQuota t quota =>
      exact hkept _ (totalProcessCount_updateQuota shm t quota now)
        (tenantUpdateQuota_spec shm t quota now).pidMappings
    | bind p t => exact h.total_bind hc t now
    | unbind p => exact h.total_unbind hc now
    | updateUsage t usage =>
      exact hkept _ (totalProcessCount_updateUsage shm t usage now)
        (tenantUpdateResourceUsage_spec shm t usage now).pidMappings

theorem TotalInv.exec {shm : TenantShm} (h : TotalInv shm) {c : StoreCall} (now : TimeT)
    (hc : c.NamesProcess) : TotalInv (c.exec shm now) := by
  refine ⟨h.toWellMapped.exec now hc, ?_, h.total_exec now hc⟩
  rw [h.toWellMapped.exec_default now hc]
  exact h.unused

/-- The step lemma: a call that leaves pid 0 alone, or changes nothing with it. -/
theorem TotalInv.step {shm : TenantShm} (h : TotalInv shm) {e : TimeT × StoreCall}
    (he : ZeroInert shm e) : TotalInv (shm.step e) := by
  by_cases hzero : NamesZero e.2
  · exact h.of_unchanged (he hzero)
  · obtain ⟨now, c⟩ := e
    cases c with
    | lookup p =>
      have hsame := tenantGetProcessTenant_same shm p now
      exact h.of_unchanged ⟨⟨hsame, rfl⟩, rfl⟩
    | op o =>
      cases o with
      | create t name quota => exact h.exec now trivial
      | delete t => exact h.exec now trivial
      | setStatus t st => exact h.exec now trivial
      | updateQuota t quota => exact h.exec now trivial
      | updateUsage t usage => exact h.exec now trivial
      | bind p t => exact h.exec now hzero
      | unbind p => exact h.exec now hzero

theorem totalInv_fresh (now : TimeT) : TotalInv (.fresh now) := by
  refine ⟨wellMapped_fresh now, rfl, ?_⟩
  have hempty : occupied (.fresh now) = ∅ := by
    apply Finset.eq_empty_of_forall_notMem
    intro i hi
    exact mem_occupied.mp hi rfl
  rw [hempty]
  rfl

/-- The counter of processes is exact throughout a run, and the calls with pid 0 change
nothing, exactly when these are all refused or have nothing to do. -/
theorem processTotal_iff (start : TimeT) (calls : List (TimeT × StoreCall)) :
    Always TenantShm.step TotalExact (.fresh start) calls ∧
        Along TenantShm.step ZeroInert (.fresh start) calls ↔
      Along TenantShm.step ZeroRefused (.fresh start) calls := by
  have hinv := totalInv_fresh start
  rw [← along_congr_of_step (I := TotalInv) (fun shm e h he => h.step he)
    (fun shm e h => zeroInert_iff h e) hinv calls]
  constructor
  · exact And.right
  · intro hinert
    have hrun := always_of_step (I := TotalInv) (fun shm e h he => h.step he) hinv hinert
    exact ⟨hrun.mono fun shm h => h.totalExact, hinert⟩

/-- Process 0 can be bound to a tenant. -/
theorem processTotal_bindsZero :
    ¬ ∀ (start : TimeT) (calls : List (TimeT × StoreCall)),
      Always TenantShm.step TotalExact (.fresh start) calls ∧
        Along TenantShm.step ZeroInert (.fresh start) calls := by
  intro h
  have href := (processTotal_iff 0 [(0, .op (.create 1 none none)), (0, .op (.bind 0 1))]).mp (h 0 _)
  have hactive : ActiveTenant (TenantShm.step (.fresh 0) (0, .op (.create 1 none none))) 1 :=
    ⟨by decide, rfl⟩
  exact href.2.1 rfl hactive 0 rfl

end RdmaIntercept.Analysis
