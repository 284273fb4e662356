import RdmaIntercept.Library.Runs
import RdmaIntercept.Analysis.TenantShmSpec
import RdmaIntercept.Library.SlotMap

/-!
# The tenant operations as record updates

Every operation of the tenant API either fails and changes nothing (`Refused`) or
succeeds and writes the record of one tenant, the mapping table and the number of active
tenants (`Done`).  One statement for each operation says when it succeeds and what it
writes; the runs of the tenant segment are argued from these statements.
-/

set_option autoImplicit false

namespace RdmaIntercept.Analysis

open RdmaIntercept.Library RdmaIntercept.Model

/-- Equal but for the lock word, the process counter and the change markers. -/
structure SameStore (shm shm' : TenantShm) : Prop extends SameRecords shm shm' where
  activeTenantCount : shm'.activeTenantCount = shm.activeTenantCount

/-- The call has failed. -/
structure Refused (shm : TenantShm) (r : Bool × TenantShm) : Prop extends SameStore shm r.2 where
  failed : r.1 = false

/-- The call has succeeded: tenant `t` has the record `info`, the mapping table is `maps`
and `active` tenants are counted. -/
structure Done (shm : TenantShm) (t : UInt32) (info : TenantInfo)
    (maps : Fin MAX_PROCESSES → PidTenantMapping) (active : UInt32) (r : Bool × TenantShm) :
    Prop where
  ok : r.1 = true
  inRange : t.toNat < MAX_TENANTS
  self : r.2.tenant t = info
  other : ∀ u : UInt32, u.toNat < MAX_TENANTS → u ≠ t → r.2.tenant u = shm.tenant u
  pidMappings : r.2.pidMappings = maps
  activeTenantCount : r.2.activeTenantCount = active

theorem Done.tenant {shm : TenantShm} {t : UInt32} {info : TenantInfo}
    {maps : Fin MAX_PROCESSES → PidTenantMapping} {active : UInt32} {r : Bool × TenantShm}
    (h : Done shm t info maps active r) {u : UInt32} (hu : u.toNat < MAX_TENANTS) :
    r.2.tenant u = if u = t then info else shm.tenant u := by
  by_cases hut : u = t
  · rw [if_pos hut, hut, h.self]
  · rw [if_neg hut, h.other u hu hut]

/-- A record of the array, as its id names it. -/
theorem tenants_eq_tenant (shm : TenantShm) (i : Fin MAX_TENANTS) :
    ∃ u : UInt32, u.toNat < MAX_TENANTS ∧ tenantSlot u = i ∧ shm.tenants i = shm.tenant u := by
  have hi : i.val < MAX_TENANTS := i.isLt
  have hval : (UInt32.ofNat i.val).toNat = i.val := by
    rw [UInt32.toNat_ofNat', Nat.mod_eq_of_lt (hi.trans (by decide))]
  have hslot : tenantSlot (UInt32.ofNat i.val) = i := by
    apply Fin.ext
    show (UInt32.ofNat i.val).toNat % MAX_TENANTS = i.val
    rw [hval, Nat.mod_eq_of_lt hi]
  refine ⟨UInt32.ofNat i.val, by rwa [hval], hslot, ?_⟩
  unfold TenantShm.tenant
  rw [hslot]

/-- A success writes one record of the array. -/
theorem Done.tenants {shm : TenantShm} {t : UInt32} {info : TenantInfo}
    {maps : Fin MAX_PROCESSES → PidTenantMapping} {active : UInt32} {r : Bool × TenantShm}
    (h : Done shm t info maps active r) :
    r.2.tenants = Function.update shm.tenants (tenantSlot t) info := by
  funext i
  obtain ⟨u, hu, rfl, -⟩ := tenants_eq_tenant shm i
  by_cases hut : u = t
  · rw [hut, Function.update_self]
    exact h.self
  · rw [Function.update_of_ne (fun hs => hut ((tenantSlot_inj hu h.inRange).mp hs))]
    exact h.other u hu hut

theorem SameRecords.tenants {shm shm' : TenantShm} (h : SameRecords shm shm') :
    shm'.tenants = shm.tenants := by
  funext i
  obtain ⟨u, -, rfl, -⟩ := tenants_eq_tenant shm i
  exact h.tenant u

theorem refused_self (shm : TenantShm) : Refused shm (false, shm) :=
  ⟨⟨.refl shm, rfl⟩, rfl⟩

theorem refused_touch (shm : TenantShm) (now : TimeT) :
    Refused shm (false, tenantShmUnlock (tenantShmLock shm) now) :=
  ⟨⟨sameRecords_touch shm now, rfl⟩, rfl⟩

/-- A write to tenant `t` of a segment that has the same tenants. -/
theorem done_setTenant {shm base : TenantShm} {t : UInt32} (info : TenantInfo) (now : TimeT)
    (ht : t.toNat < MAX_TENANTS) (hbase : base.tenants = shm.tenants) :
    Done shm t info base.pidMappings base.activeTenantCount
      (true, tenantShmUnlock (base.setTenant t info) now) := by
  refine ⟨rfl, ht, ?_, ?_, rfl, rfl⟩
  · rw [tenant_unlock, tenant_setTenant ht ht, if_pos rfl]
  · intro u hu hut
    rw [tenant_unlock, tenant_setTenant ht hu, if_neg hut]
    unfold TenantShm.tenant
    rw [hbase]

/-! ## Managing tenants -/

/-- The record that `tenant_create` writes. -/
def createdTenant (t : UInt32) (name : Option (List UInt8)) (quota : Option TenantQuota)
    (now : TimeT) : TenantInfo :=
  { TenantInfo.zero with
    tenantId := t
    tenantName := copyName name
    status := .active
    createdAt := now
    lastActiveAt := now
    quota := quota.getD defaultQuota }

/-- `tenant_create` needs an id from 1 to 63 whose record is not in use. -/
def MayCreate (shm : TenantShm) (t : UInt32) : Prop :=
  t ≠ 0 ∧ t.toNat < MAX_TENANTS ∧ (shm.tenant t).status = .inactive

theorem tenantCreate_cases (shm : TenantShm) (t : UInt32) (name : Option (List UInt8))
    (quota : Option TenantQuota) (now : TimeT) :
    (MayCreate shm t ∧ Done shm t (createdTenant t name quota now) shm.pidMappings
      (shm.activeTenantCount + 1) (tenantCreate shm t name quota now)) ∨
    (¬ MayCreate shm t ∧ Refused shm (tenantCreate shm t name quota now)) := by
  by_cases hr : t = 0 ∨ MAX_TENANTS ≤ t.toNat
  · right
    simp only [tenantCreate, hr, if_true]
    refine ⟨?_, refused_self shm⟩
    rintro ⟨h0, ht, -⟩
    exact hr.elim h0 (Nat.not_le.mpr ht)
  · obtain ⟨h0, ht⟩ := not_or.mp hr
    by_cases hs : (shm.tenant t).status = .inactive
    · left
      simp only [tenantCreate, hr, if_false, tenant_lock, hs, ne_eq, not_true_eq_false]
      refine ⟨⟨h0, Nat.not_le.mp ht, hs⟩, ?_⟩
      have hdone := done_setTenant (createdTenant t name quota now) now (Nat.not_le.mp ht)
        (Eq.refl (tenantShmLock shm).tenants)
      exact ⟨rfl, hdone.inRange, hdone.self, hdone.other, rfl, rfl⟩
    · right
      simp only [tenantCreate, hr, if_false, tenant_lock, hs, ne_eq, not_false_eq_true, if_true]
      exact ⟨fun h => hs h.2.2, refused_touch shm now⟩

/-- The clean-up loop frees the mapping slots of tenant `t`. -/
def clearedMapping (t : UInt32) (m : PidTenantMapping) : PidTenantMapping :=
  if m.tenantId = t then { m with pid := 0, tenantId := 0 } else m

theorem clearedMapping_of_eq {t : UInt32} {m : PidTenantMapping} (h : m.tenantId = t) :
    clearedMapping t m = { m with pid := 0, tenantId := 0 } := if_pos h

theorem clearedMapping_of_ne {t : UInt32} {m : PidTenantMapping} (h : m.tenantId ≠ t) :
    clearedMapping t m = m := if_neg h

theorem pidMappings_unmapIfTenant (t : UInt32) (shm : TenantShm) (i : Fin MAX_PROCESSES) :
    (unmapIfTenant t shm i).pidMappings =
      Function.update shm.pidMappings i (clearedMapping t (shm.pidMappings i)) := by
  unfold unmapIfTenant
  by_cases h : (shm.pidMappings i).tenantId = t
  · rw [if_pos h, clearedMapping_of_eq h]
    rfl
  · rw [if_neg h, clearedMapping_of_ne h, Function.update_eq_self]

/-- Clearing a slot leaves the tenants and their number. -/
theorem tenants_unmapIfTenant (t : UInt32) (shm : TenantShm) (i : Fin MAX_PROCESSES) :
    (unmapIfTenant t shm i).tenants = shm.tenants ∧
      (unmapIfTenant t shm i).activeTenantCount = shm.activeTenantCount := by
  unfold unmapIfTenant
  split <;> exact ⟨rfl, rfl⟩

theorem tenants_foldl_unmapIfTenant (t : UInt32) (is : List (Fin MAX_PROCESSES))
    (shm : TenantShm) :
    (is.foldl (unmapIfTenant t) shm).tenants = shm.tenants ∧
      (is.foldl (unmapIfTenant t) shm).activeTenantCount = shm.activeTenantCount :=
  ⟨exec_kept (fun shm i => (tenants_unmapIfTenant t shm i).1) shm is,
    exec_kept (fun shm i => (tenants_unmapIfTenant t shm i).2) shm is⟩

theorem pidMappings_foldl_unmapIfTenant (t : UInt32) {is : List (Fin MAX_PROCESSES)}
    (hnodup : is.Nodup) (shm : TenantShm) (i : Fin MAX_PROCESSES) :
    (is.foldl (unmapIfTenant t) shm).pidMappings i =
      if i ∈ is then clearedMapping t (shm.pidMappings i) else shm.pidMappings i := by
  induction is generalizing shm with
  | nil => simp
  | cons j is ih =>
    obtain ⟨hj, hnodup⟩ := List.nodup_cons.mp hnodup
    rw [List.foldl_cons, ih hnodup, pidMappings_unmapIfTenant]
    by_cases hij : i = j
    · subst hij
      rw [if_neg hj, Function.update_self, if_pos List.mem_cons_self]
    · rw [Function.update_of_ne hij]
      simp [hij]

/-- The loop visits every slot once. -/
theorem pidMappings_sweep (t : UInt32) (shm : TenantShm) :
    ((List.finRange MAX_PROCESSES).foldl (unmapIfTenant t) shm).pidMappings =
      fun i => clearedMapping t (shm.pidMappings i) := by
  funext i
  rw [pidMappings_foldl_unmapIfTenant t (List.nodup_finRange _), if_pos (List.mem_finRange i)]

/-- `tenant_delete` needs an id from 1 to 63 whose record is in use. -/
def MayDelete (shm : TenantShm) (t : UInt32) : Prop :=
  t ≠ 0 ∧ t.toNat < MAX_TENANTS ∧ (shm.tenant t).status ≠ .inactive

/-- `tenant_delete` with its clean-up loop as an argument. -/
def tenantDeleteWith (sweep : TenantShm → TenantShm) (shm : TenantShm) (t : UInt32)
    (now : TimeT) : Bool × TenantShm :=
  if t = 0 ∨ MAX_TENANTS ≤ t.toNat then (false, shm)
  else
    let shm := tenantShmLock shm
    if (shm.tenant t).status = .inactive then (false, tenantShmUnlock shm now)
    else
      let shm := sweep shm
      let shm := shm.setTenant t { shm.tenant t with status := .inactive, processCount := 0 }
      let shm := { shm with activeTenantCount := shm.activeTenantCount - 1 }
      (true, tenantShmUnlock shm now)

-- the loop stays behind a name here: its terms are too deep to be compared by unfolding
theorem tenantDelete_eq (t : UInt32) :
    ∃ sweep : TenantShm → TenantShm,
      (∀ shm, sweep shm = (List.finRange MAX_PROCESSES).foldl (unmapIfTenant t) shm) ∧
      ∀ shm now, tenantDelete shm t now = tenantDeleteWith sweep shm t now :=
  ⟨fun shm => (List.finRange MAX_PROCESSES).foldl (unmapIfTenant t) shm, fun _ => rfl,
    fun _ _ => rfl⟩

theorem tenantDeleteWith_cases {sweep : TenantShm → TenantShm}
    (htenants : ∀ shm, (sweep shm).tenants = shm.tenants)
    (hactive : ∀ shm, (sweep shm).activeTenantCount = shm.activeTenantCount) (shm : TenantShm)
    (t : UInt32) (now : TimeT) :
    (MayDelete shm t ∧
      Done shm t { shm.tenant t with status := .inactive, processCount := 0 }
        (sweep (tenantShmLock shm)).pidMappings (shm.activeTenantCount - 1)
        (tenantDeleteWith sweep shm t now)) ∨
    (¬ MayDelete shm t ∧ Refused shm (tenantDeleteWith sweep shm t now)) := by
  by_cases hr : t = 0 ∨ MAX_TENANTS ≤ t.toNat
  · right
    simp only [tenantDeleteWith, hr, if_true]
    refine ⟨?_, refused_self shm⟩
    rintro ⟨h0, ht, -⟩
    exact hr.elim h0 (Nat.not_le.mpr ht)
  · obtain ⟨h0, ht⟩ := not_or.mp hr
    by_cases hs : (shm.tenant t).status = .inactive
    · right
      simp only [tenantDeleteWith, hr, if_false, tenant_lock, hs, if_true]
      exact ⟨fun h => h.2.2 hs, refused_touch shm now⟩
    · left
      simp only [tenantDeleteWith, hr, if_false, tenant_lock, hs]
      refine ⟨⟨h0, Nat.not_le.mp ht, hs⟩, ?_⟩
      have hswept := htenants (tenantShmLock shm)
      have hcount := hactive (tenantShmLock shm)
      generalize sweep (tenantShmLock shm) = swept at hswept hcount ⊢
      have htenant : swept.tenant t = shm.tenant t := congrFun hswept (tenantSlot t)
      have hdone := done_setTenant { shm.tenant t with status := .inactive, processCount := 0 } now
        (Nat.not_le.mp ht) hswept
      rw [htenant]
      refine ⟨rfl, hdone.inRange, hdone.self, hdone.other, rfl, ?_⟩
      show swept.activeTenantCount - 1 = shm.activeTenantCount - 1
      rw [hcount]
      rfl

theorem tenantDelete_cases (shm : TenantShm) (t : UInt32) (now : TimeT) :
    (MayDelete shm t ∧
      Done shm t { shm.tenant t with status := .inactive, processCount := 0 }
        (fun i => clearedMapping t (shm.pidMappings i)) (shm.activeTenantCount - 1)
        (tenantDelete shm t now)) ∨
    (¬ MayDelete shm t ∧ Refused shm (tenantDelete shm t now)) := by
  obtain ⟨sweep, hsweep, hdelete⟩ := tenantDelete_eq t
  have htenants : ∀ shm, (sweep shm).tenants = shm.tenants := by
    intro shm
    rw [hsweep, (tenants_foldl_unmapIfTenant t _ shm).1]
  have hactive : ∀ shm, (sweep shm).activeTenantCount = shm.activeTenantCount := by
    intro shm
    rw [hsweep, (tenants_foldl_unmapIfTenant t _ shm).2]
  have hmaps : (sweep (tenantShmLock shm)).pidMappings =
      fun i => clearedMapping t (shm.pidMappings i) := by
    rw [hsweep, pidMappings_sweep, pidMappings_lock]
  rw [hdelete, ← hmaps]
  exact tenantDeleteWith_cases htenants hactive shm t now

/-- `tenant_set_status` and `tenant_update_quota` need a record that is in use. -/
def MayWrite (shm : TenantShm) (t : UInt32) : Prop :=
  t.toNat < MAX_TENANTS ∧ (shm.tenant t).status ≠ .inactive

theorem tenantSetStatus_cases (shm : TenantShm) (t : UInt32) (status : TenantStatus)
    (now : TimeT) :
    (MayWrite shm t ∧
      Done shm t { shm.tenant t with status := status, lastActiveAt := now } shm.pidMappings
        shm.activeTenantCount (tenantSetStatus shm t status now)) ∨
    (¬ MayWrite shm t ∧ Refused shm (tenantSetStatus shm t status now)) := by
  by_cases ht : t.toNat < MAX_TENANTS
  · by_cases hs : (shm.tenant t).status = .inactive
    · right
      simp only [tenantSetStatus, Nat.not_le.mpr ht, if_false, tenant_lock, hs, if_true]
      exact ⟨fun h => h.2 hs, refused_touch shm now⟩
    · left
      simp only [tenantSetStatus, Nat.not_le.mpr ht, if_false, tenant_lock, hs]
      exact ⟨⟨ht, hs⟩, done_setTenant _ now ht rfl⟩
  · right
    simp only [tenantSetStatus, Nat.not_lt.mp ht, if_true]
    exact ⟨fun h => ht h.1, refused_self shm⟩

theorem tenantUpdateQuota_cases (shm : TenantShm) (t : UInt32) (quota : TenantQuota)
    (now : TimeT) :
    (MayWrite shm t ∧
      Done shm t { shm.tenant t with quota := quota, lastActiveAt := now } shm.pidMappings
        shm.activeTenantCount (tenantUpdateQuota shm t quota now)) ∨
    (¬ MayWrite shm t ∧ Refused shm (tenantUpdateQuota shm t quota now)) := by
  by_cases ht : t.toNat < MAX_TENANTS
  · by_cases hs : (shm.tenant t).status = .inactive
    · right
      simp only [tenantUpdateQuota, Nat.not_le.mpr ht, if_false, tenant_lock, hs, if_true]
      exact ⟨fun h => h.2 hs, refused_touch shm now⟩
    · left
      simp only [tenantUpdateQuota, Nat.not_le.mpr ht, if_false, tenant_lock, hs]
      exact ⟨⟨ht, hs⟩, done_setTenant _ now ht rfl⟩
  · right
    simp only [tenantUpdateQuota, Nat.not_lt.mp ht, if_true]
    exact ⟨fun h => ht h.1, refused_self shm⟩

/-- The other calls that write a record need an ACTIVE tenant. -/
def ActiveTenant (shm : TenantShm) (t : UInt32) : Prop :=
  t.toNat < MAX_TENANTS ∧ (shm.tenant t).status = .active

theorem tenantUpdateResourceUsage_cases (shm : TenantShm) (t : UInt32)
    (usage : TenantResourceUsage) (now : TimeT) :
    (ActiveTenant shm t ∧
      Done shm t { shm.tenant t with usage := usage, lastActiveAt := now } shm.pidMappings
        shm.activeTenantCount (tenantUpdateResourceUsage shm t usage now)) ∨
    (¬ ActiveTenant shm t ∧ Refused shm (tenantUpdateResourceUsage shm t usage now)) := by
  by_cases ht : t.toNat < MAX_TENANTS
  · by_cases hs : (shm.tenant t).status = .active
    · left
      simp only [tenantUpdateResourceUsage, Nat.not_le.mpr ht, if_false, tenant_lock, hs, ne_eq,
        not_true_eq_false]
      refine ⟨⟨ht, hs⟩, ?_⟩
      rw [← hs]
      exact done_setTenant _ now ht rfl
    · right
      simp only [tenantUpdateResourceUsage, Nat.not_le.mpr ht, if_false, tenant_lock, hs, ne_eq,
        not_false_eq_true, if_true]
      exact ⟨fun h => hs h.2, refused_touch shm now⟩
  · right
    simp only [tenantUpdateResourceUsage, Nat.not_lt.mp ht, if_true]
    exact ⟨fun h => ht h.1, refused_self shm⟩

/-- A request for more of a resource is refused to a tenant that is not ACTIVE, and to one
whose record says so. -/
theorem tenantCheckResourceLimit_fst (shm : TenantShm) (t : UInt32) (resourceType : Int32)
    (amount : UInt32) (now : TimeT) :
    (tenantCheckResourceLimit shm t resourceType amount now).1 =
      (decide (t.toNat < MAX_TENANTS) &&
        (!decide ((shm.tenant t).status = .active) || (shm.tenant t).exceeds resourceType amount)) := by
  by_cases ht : t.toNat < MAX_TENANTS
  · by_cases ha : (shm.tenant t).status = .active
    · simp [tenantCheckResourceLimit, Nat.not_le.mpr ht, ht, ha]
    · simp [tenantCheckResourceLimit, Nat.not_le.mpr ht, ht, ha]
  · simp [tenantCheckResourceLimit, Nat.not_lt.mp ht, ht]

/-! ## Binding processes -/

/-- The record that `tenant_bind_process` writes. -/
def boundTenant (tenant : TenantInfo) (isNew : Bool) (p : Pid) (now : TimeT) : TenantInfo :=
  if isNew then
    { ({ tenant with processCount := tenant.processCount + 1 } : TenantInfo).addProcess p with
      lastActiveAt := now }
  else { tenant with lastActiveAt := now }

theorem status_boundTenant (tenant : TenantInfo) (isNew : Bool) (p : Pid) (now : TimeT) :
    (boundTenant tenant isNew p now).status = tenant.status := by
  cases isNew with
  | false => rfl
  | true => exact (sameAccount_addProcess _ p).status

/-- `tenant_bind_process` needs an ACTIVE tenant and a slot for the process. -/
def MayBind (shm : TenantShm) (p : Pid) (t : UInt32) : Prop :=
  ActiveTenant shm t ∧ ∃ i, SlotTable.slotFor shm.mappedPid 0 p = some i

theorem done_storeBinding {shm : TenantShm} {t : UInt32} (ht : t.toNat < MAX_TENANTS)
    (isNew : Bool) (i : Fin MAX_PROCESSES) (p : Pid) (now : TimeT) :
    Done shm t (boundTenant (shm.tenant t) isNew p now)
      (Function.update shm.pidMappings i ⟨p, t, now⟩) shm.activeTenantCount
      (true, tenantShmUnlock (storeBinding (tenantShmLock shm) isNew i p t now) now) := by
  cases isNew with
  | false =>
    simp only [storeBinding, boundTenant, Bool.false_eq_true, if_false]
    have hdone := done_setTenant { shm.tenant t with lastActiveAt := now } now ht
      (Eq.refl ((tenantShmLock shm).setMapping i ⟨p, t, now⟩).tenants)
    exact ⟨rfl, ht, hdone.self, hdone.other, rfl, rfl⟩
  | true =>
    simp only [storeBinding, boundTenant, if_true]
    have hdone := done_setTenant
      { ({ shm.tenant t with
          processCount := (shm.tenant t).processCount + 1 } : TenantInfo).addProcess p with
        lastActiveAt := now } now ht
      (Eq.refl ((tenantShmLock shm).setMapping i ⟨p, t, now⟩).tenants)
    exact ⟨rfl, ht, hdone.self, hdone.other, rfl, rfl⟩

theorem tenantBind_cases (shm : TenantShm) (p : Pid) (t : UInt32) (now : TimeT) :
    (∃ i, MayBind shm p t ∧ SlotTable.slotFor shm.mappedPid 0 p = some i ∧
      Done shm t (boundTenant (shm.tenant t) (SlotTable.slotOf shm.mappedPid p).isNone p now)
        (Function.update shm.pidMappings i ⟨p, t, now⟩) shm.activeTenantCount
        (tenantBindProcess shm p t now)) ∨
    (¬ MayBind shm p t ∧ Refused shm (tenantBindProcess shm p t now)) := by
  by_cases ht : t.toNat < MAX_TENANTS
  · by_cases ha : (shm.tenant t).status = .active
    · have hor : (SlotTable.scan (tenantShmLock shm).mappedPid 0 p
          (List.finRange MAX_PROCESSES) none).1.or
          (SlotTable.scan (tenantShmLock shm).mappedPid 0 p (List.finRange MAX_PROCESSES) none).2 =
          SlotTable.slotFor shm.mappedPid 0 p := SlotTable.scan_or_eq_slotFor
      have hfst : (SlotTable.scan (tenantShmLock shm).mappedPid 0 p
          (List.finRange MAX_PROCESSES) none).1 = SlotTable.slotOf shm.mappedPid p :=
        SlotTable.scan_fst_eq_slotOf
      simp only [tenantBindProcess, Nat.not_le.mpr ht, if_false, tenant_lock, ha, ne_eq,
        not_true_eq_false]
      generalize SlotTable.scan (tenantShmLock shm).mappedPid 0 p
        (List.finRange MAX_PROCESSES) none = r at hor hfst ⊢
      obtain ⟨found, emptySlot⟩ := r
      simp only at hor hfst
      subst hfst
      cases hidx : (SlotTable.slotOf shm.mappedPid p).or emptySlot with
      | none =>
        right
        rw [hidx] at hor
        simp only
        refine ⟨?_, refused_touch shm now⟩
        rintro ⟨-, i, hi⟩
        rw [← hor] at hi
        exact absurd hi.symm (Option.some_ne_none i)
      | some idx =>
        left
        rw [hidx] at hor
        simp only
        exact ⟨idx, ⟨⟨ht, ha⟩, idx, hor.symm⟩, hor.symm, done_storeBinding ht _ idx p now⟩
    · right
      simp only [tenantBindProcess, Nat.not_le.mpr ht, if_false, tenant_lock, ha, ne_eq,
        not_false_eq_true, if_true]
      exact ⟨fun h => ha h.1.2, refused_touch shm now⟩
  · right
    simp only [tenantBindProcess, Nat.not_lt.mp ht, if_true]
    exact ⟨fun h => ht h.1.1, refused_self shm⟩

/-- The record that `tenant_unbind_process` writes. -/
def unboundTenant (tenant : TenantInfo) (p : Pid) : TenantInfo :=
  (tenant.removeProcess p).dropProcessCount

theorem status_unboundTenant (tenant : TenantInfo) (p : Pid) :
    (unboundTenant tenant p).status = tenant.status :=
  (sameAccount_dropProcessCount _).status.trans (sameAccount_removeProcess tenant p).status

/-- The mapping in a slot that `tenant_unbind_process` has cleared. -/
def freedMapping (m : PidTenantMapping) : PidTenantMapping := { m with pid := 0, tenantId := 0 }

theorem activeTenantCount_dropTotal (shm : TenantShm) :
    shm.dropTotalProcessCount.activeTenantCount = shm.activeTenantCount := by
  unfold TenantShm.dropTotalProcessCount
  split <;> rfl

theorem tenant_dropTotal (shm : TenantShm) (t : UInt32) :
    shm.dropTotalProcessCount.tenant t = shm.tenant t := by
  unfold TenantShm.dropTotalProcessCount
  split <;> rfl

/-- `tenant_unbind_process` needs a mapping of the process, and writes the tenant that the
mapping names. -/
theorem tenantUnbind_cases (shm : TenantShm) (p : Pid) (now : TimeT)
    (hrange : ∀ i, (shm.pidMappings i).tenantId.toNat < MAX_TENANTS) :
    (∃ i, SlotTable.slotOf shm.mappedPid p = some i ∧
      Done shm (shm.pidMappings i).tenantId
        (unboundTenant (shm.tenant (shm.pidMappings i).tenantId) p)
        (Function.update shm.pidMappings i (freedMapping (shm.pidMappings i)))
        shm.activeTenantCount (tenantUnbindProcess shm p now)) ∨
    (SlotTable.slotOf shm.mappedPid p = none ∧ Refused shm (tenantUnbindProcess shm p now)) := by
  cases hslot : SlotTable.slotOf shm.mappedPid p with
  | none =>
    right
    rw [tenantUnbindProcess_of_none now hslot]
    exact ⟨rfl, refused_touch shm now⟩
  | some i =>
    left
    refine ⟨i, rfl, ?_⟩
    rw [tenantUnbindProcess_of_some now hslot]
    have hi := hrange i
    refine ⟨rfl, hi, ?_, ?_, pidMappings_clearBinding (tenantShmLock shm) i p, ?_⟩
    · simp only [tenant_unlock, clearBinding, tenant_dropTotal]
      exact (tenant_setTenant hi hi).trans (if_pos rfl)
    · intro u hu hne
      simp only [tenant_unlock, clearBinding, tenant_dropTotal]
      exact (tenant_setTenant hi hu).trans (if_neg hne)
    · exact activeTenantCount_dropTotal _

end RdmaIntercept.Analysis
