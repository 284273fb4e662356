import RdmaIntercept.Model.World

/-!
# What the tenant operations do

One statement for each operation of the tenant API that the runs below use: which part
of the segment it reads and which it changes.  The lock word, the version and the update
time change on every call; `SameRecords` says that nothing else has.
-/

set_option autoImplicit false

namespace RdmaIntercept.Analysis

open RdmaIntercept.Library RdmaIntercept.Model

/-! ## Access -/

theorem tenantSlot_inj {t u : UInt32} (ht : t.toNat < MAX_TENANTS) (hu : u.toNat < MAX_TENANTS) :
    tenantSlot t = tenantSlot u ↔ t = u := by
  constructor
  · intro h
    have hval : t.toNat % MAX_TENANTS = u.toNat % MAX_TENANTS := congrArg Fin.val h
    rw [Nat.mod_eq_of_lt ht, Nat.mod_eq_of_lt hu] at hval
    exact UInt32.toNat_inj.mp hval
  · intro h
    rw [h]

theorem tenant_setTenant {shm : TenantShm} {t u : UInt32} {info : TenantInfo}
    (ht : t.toNat < MAX_TENANTS) (hu : u.toNat < MAX_TENANTS) :
    (shm.setTenant t info).tenant u = if u = t then info else shm.tenant u := by
  unfold TenantShm.setTenant TenantShm.tenant
  by_cases h : u = t
  · rw [h, if_pos rfl]
    exact Function.update_self _ _ _
  · rw [if_neg h]
    exact Function.update_of_ne (fun hs => h ((tenantSlot_inj hu ht).mp hs)) _ _

/-- A write to one tenant that keeps a field keeps it in every tenant. -/
theorem field_setTenant {α : Type} (f : TenantInfo → α) {shm : TenantShm} {t : UInt32}
    {info : TenantInfo} (h : f info = f (shm.tenant t)) (u : UInt32) :
    f ((shm.setTenant t info).tenant u) = f (shm.tenant u) := by
  unfold TenantShm.setTenant TenantShm.tenant
  by_cases hs : tenantSlot u = tenantSlot t
  · simp only [hs, Function.update_self]
    exact h
  · simp only [Function.update_of_ne hs]

/-! ## The lock -/

@[simp] theorem tenant_lock (shm : TenantShm) (t : UInt32) :
    (tenantShmLock shm).tenant t = shm.tenant t := rfl

@[simp] theorem tenant_unlock (shm : TenantShm) (now : TimeT) (t : UInt32) :
    (tenantShmUnlock shm now).tenant t = shm.tenant t := rfl

@[simp] theorem mappedPid_lock (shm : TenantShm) :
    (tenantShmLock shm).mappedPid = shm.mappedPid := rfl

@[simp] theorem pidMappings_lock (shm : TenantShm) :
    (tenantShmLock shm).pidMappings = shm.pidMappings := rfl

@[simp] theorem pidMappings_setTenant (shm : TenantShm) (t : UInt32) (info : TenantInfo) :
    (shm.setTenant t info).pidMappings = shm.pidMappings := rfl

/-! ## Calls that only read -/

/-- Equal up to the lock word, the counters and the change markers. -/
structure SameRecords (shm shm' : TenantShm) : Prop where
  tenant : ∀ t, shm'.tenant t = shm.tenant t
  pidMappings : shm'.pidMappings = shm.pidMappings

theorem SameRecords.refl (shm : TenantShm) : SameRecords shm shm := ⟨fun _ => rfl, rfl⟩

theorem SameRecords.trans {a b c : TenantShm} (h : SameRecords a b) (h' : SameRecords b c) :
    SameRecords a c :=
  ⟨fun t => (h'.tenant t).trans (h.tenant t), h'.pidMappings.trans h.pidMappings⟩

theorem mappedPid_congr {shm shm' : TenantShm} (h : shm'.pidMappings = shm.pidMappings) :
    shm'.mappedPid = shm.mappedPid := by
  funext i
  unfold TenantShm.mappedPid
  rw [h]

theorem tenantOf_congr {shm shm' : TenantShm} (h : shm'.pidMappings = shm.pidMappings) (p : Pid) :
    shm'.tenantOf p = shm.tenantOf p := by
  unfold TenantShm.tenantOf
  rw [mappedPid_congr h, h]

theorem sameRecords_touch (shm : TenantShm) (now : TimeT) :
    SameRecords shm (tenantShmUnlock (tenantShmLock shm) now) := ⟨fun _ => rfl, rfl⟩

theorem tenantGetProcessTenant_fst (shm : TenantShm) (p : Pid) (now : TimeT) :
    (tenantGetProcessTenant shm p now).1 = shm.tenantOf p := by
  simp only [tenantGetProcessTenant]
  exact tenantOf_congr (pidMappings_lock shm) p

theorem tenantGetProcessTenant_same (shm : TenantShm) (p : Pid) (now : TimeT) :
    SameRecords shm (tenantGetProcessTenant shm p now).2 := sameRecords_touch shm now

theorem tenantGetInfo_fst (shm : TenantShm) (t : UInt32) (now : TimeT) :
    (tenantGetInfo shm t now).1 =
      if t.toNat < MAX_TENANTS ∧ (shm.tenant t).status ≠ .inactive then some (shm.tenant t)
      else none := by
  by_cases ht : t.toNat < MAX_TENANTS
  · by_cases ha : (shm.tenant t).status = .inactive
    · simp [tenantGetInfo, Nat.not_le.mpr ht, ht, ha]
    · simp [tenantGetInfo, Nat.not_le.mpr ht, ht, ha]
  · simp only [tenantGetInfo, Nat.not_lt.mp ht, if_true, ht, false_and, if_false]

theorem tenantGetInfo_same (shm : TenantShm) (t : UInt32) (now : TimeT) :
    SameRecords shm (tenantGetInfo shm t now).2 := by
  unfold tenantGetInfo
  split
  · exact .refl shm
  · exact sameRecords_touch shm now

theorem tenantGetResourceUsage_fst (shm : TenantShm) (t : UInt32) (now : TimeT) :
    (tenantGetResourceUsage shm t now).1 =
      if t.toNat < MAX_TENANTS ∧ (shm.tenant t).status = .active then some (shm.tenant t).usage
      else none := by
  by_cases ht : t.toNat < MAX_TENANTS
  · by_cases ha : (shm.tenant t).status = .active
    · simp [tenantGetResourceUsage, Nat.not_le.mpr ht, ht, ha]
    · simp [tenantGetResourceUsage, Nat.not_le.mpr ht, ht, ha]
  · simp [tenantGetResourceUsage, ht, Nat.not_lt.mp ht]

theorem tenantGetResourceUsage_same (shm : TenantShm) (t : UInt32) (now : TimeT) :
    SameRecords shm (tenantGetResourceUsage shm t now).2 := by
  by_cases ht : t.toNat < MAX_TENANTS
  · by_cases ha : (shm.tenant t).status = .active
    · simp only [tenantGetResourceUsage, Nat.not_le.mpr ht, if_false, tenant_lock, ha, ne_eq,
        not_true_eq_false]
      exact sameRecords_touch shm now
    · simp only [tenantGetResourceUsage, Nat.not_le.mpr ht, if_false, tenant_lock, ha, ne_eq,
        not_false_eq_true, if_true]
      exact sameRecords_touch shm now
  · simp only [tenantGetResourceUsage, Nat.not_lt.mp ht, if_true]
    exact .refl shm

/-! ## Calls that write one field of a tenant -/

/-- A write to tenant `t` under the lock: what field `f` of every tenant is afterwards. -/
theorem field_write {α : Type} (f : TenantInfo → α) {shm : TenantShm} {t u : UInt32}
    {info : TenantInfo} (now : TimeT) (ht : t.toNat < MAX_TENANTS) (hu : u.toNat < MAX_TENANTS) :
    f ((tenantShmUnlock ((tenantShmLock shm).setTenant t info) now).tenant u) =
      if u = t then f info else f (shm.tenant u) := by
  rw [tenant_unlock, tenant_setTenant ht hu, apply_ite f, tenant_lock]

/-- A write to one tenant under the lock that keeps field `f`. -/
theorem field_kept {α : Type} (f : TenantInfo → α) {shm : TenantShm} {t : UInt32}
    {info : TenantInfo} (now : TimeT) (h : f info = f (shm.tenant t)) (u : UInt32) :
    f ((tenantShmUnlock ((tenantShmLock shm).setTenant t info) now).tenant u) =
      f (shm.tenant u) := by
  rw [tenant_unlock, field_setTenant f (by rw [tenant_lock, h]), tenant_lock]

/-- What `tenant_update_resource_usage` does. -/
structure UsageWritten (shm : TenantShm) (t : UInt32) (usage : TenantResourceUsage)
    (shm' : TenantShm) : Prop where
  usage : ∀ u : UInt32, u.toNat < MAX_TENANTS → (shm'.tenant u).usage =
    if u = t ∧ (shm.tenant t).status = .active then usage else (shm.tenant u).usage
  status : ∀ u, (shm'.tenant u).status = (shm.tenant u).status
  quota : ∀ u, (shm'.tenant u).quota = (shm.tenant u).quota
  pidMappings : shm'.pidMappings = shm.pidMappings

theorem tenantUpdateResourceUsage_spec (shm : TenantShm) (t : UInt32)
    (usage : TenantResourceUsage) (now : TimeT) :
    UsageWritten shm t usage (tenantUpdateResourceUsage shm t usage now).2 := by
  by_cases ht : t.toNat < MAX_TENANTS
  · by_cases ha : (shm.tenant t).status = .active
    · simp only [tenantUpdateResourceUsage, Nat.not_le.mpr ht, if_false, tenant_lock, ha, ne_eq,
        not_true_eq_false]
      refine ⟨?_, field_kept TenantInfo.status now ha.symm, field_kept TenantInfo.quota now rfl,
        rfl⟩
      intro u hu
      rw [field_write TenantInfo.usage now ht hu]
      by_cases hut : u = t <;> simp [hut, ha]
    · simp only [tenantUpdateResourceUsage, Nat.not_le.mpr ht, if_false, tenant_lock, ha, ne_eq,
        not_false_eq_true, if_true]
      exact ⟨fun u _ => by simp [ha], fun _ => rfl, fun _ => rfl, rfl⟩
  · simp only [tenantUpdateResourceUsage, Nat.not_lt.mp ht, if_true]
    refine ⟨?_, fun _ => rfl, fun _ => rfl, rfl⟩
    intro u hu
    rw [if_neg]
    rintro ⟨rfl, -⟩
    exact ht hu

/-- What `tenant_update_quota` does. -/
structure QuotaWritten (shm : TenantShm) (t : UInt32) (quota : TenantQuota)
    (shm' : TenantShm) : Prop where
  usage : ∀ u, (shm'.tenant u).usage = (shm.tenant u).usage
  status : ∀ u, (shm'.tenant u).status = (shm.tenant u).status
  quota : ∀ u : UInt32, u.toNat < MAX_TENANTS → (shm'.tenant u).quota =
    if u = t ∧ (shm.tenant t).status ≠ .inactive then quota else (shm.tenant u).quota
  pidMappings : shm'.pidMappings = shm.pidMappings

theorem tenantUpdateQuota_spec (shm : TenantShm) (t : UInt32) (quota : TenantQuota)
    (now : TimeT) : QuotaWritten shm t quota (tenantUpdateQuota shm t quota now).2 := by
  by_cases ht : t.toNat < MAX_TENANTS
  · by_cases ha : (shm.tenant t).status = .inactive
    · simp only [tenantUpdateQuota, Nat.not_le.mpr ht, if_false, tenant_lock, ha, if_true]
      exact ⟨fun _ => rfl, fun _ => rfl, fun u _ => by simp [ha], rfl⟩
    · simp only [tenantUpdateQuota, Nat.not_le.mpr ht, if_false, tenant_lock, ha]
      refine ⟨field_kept TenantInfo.usage now rfl, field_kept TenantInfo.status now rfl, ?_, rfl⟩
      intro u hu
      rw [field_write TenantInfo.quota now ht hu]
      by_cases hut : u = t <;> simp [hut, ha]
  · simp only [tenantUpdateQuota, Nat.not_lt.mp ht, if_true]
    refine ⟨fun _ => rfl, fun _ => rfl, ?_, rfl⟩
    intro u hu
    rw [if_neg]
    rintro ⟨rfl, -⟩
    exact ht hu

/-- What `tenant_set_status` does. -/
structure StatusWritten (shm : TenantShm) (t : UInt32) (status : TenantStatus)
    (shm' : TenantShm) : Prop where
  usage : ∀ u, (shm'.tenant u).usage = (shm.tenant u).usage
  status : ∀ u : UInt32, u.toNat < MAX_TENANTS → (shm'.tenant u).status =
    if u = t ∧ (shm.tenant t).status ≠ .inactive then status else (shm.tenant u).status
  quota : ∀ u, (shm'.tenant u).quota = (shm.tenant u).quota
  pidMappings : shm'.pidMappings = shm.pidMappings

theorem tenantSetStatus_spec (shm : TenantShm) (t : UInt32) (status : TenantStatus)
    (now : TimeT) : StatusWritten shm t status (tenantSetStatus shm t status now).2 := by
  by_cases ht : t.toNat < MAX_TENANTS
  · by_cases ha : (shm.tenant t).status = .inactive
    · simp only [tenantSetStatus, Nat.not_le.mpr ht, if_false, tenant_lock, ha, if_true]
      exact ⟨fun _ => rfl, fun u _ => by simp [ha], fun _ => rfl, rfl⟩
    · simp only [tenantSetStatus, Nat.not_le.mpr ht, if_false, tenant_lock, ha]
      refine ⟨field_kept TenantInfo.usage now rfl, ?_, field_kept TenantInfo.quota now rfl, rfl⟩
      intro u hu
      rw [field_write TenantInfo.status now ht hu]
      by_cases hut : u = t <;> simp [hut, ha]
  · simp only [tenantSetStatus, Nat.not_lt.mp ht, if_true]
    refine ⟨fun _ => rfl, ?_, fun _ => rfl, rfl⟩
    intro u hu
    rw [if_neg]
    rintro ⟨rfl, -⟩
    exact ht hu

/-! ## Calls that move processes -/

/-- What `tenant_bind_process` and `tenant_unbind_process` leave alone. -/
structure TenantsKept (shm shm' : TenantShm) : Prop where
  usage : ∀ u, (shm'.tenant u).usage = (shm.tenant u).usage
  status : ∀ u, (shm'.tenant u).status = (shm.tenant u).status
  quota : ∀ u, (shm'.tenant u).quota = (shm.tenant u).quota

theorem TenantsKept.refl (shm : TenantShm) : TenantsKept shm shm :=
  ⟨fun _ => rfl, fun _ => rfl, fun _ => rfl⟩

theorem TenantsKept.trans {a b c : TenantShm} (h : TenantsKept a b) (h' : TenantsKept b c) :
    TenantsKept a c :=
  ⟨fun u => (h'.usage u).trans (h.usage u), fun u => (h'.status u).trans (h.status u),
    fun u => (h'.quota u).trans (h.quota u)⟩

theorem SameRecords.tenantsKept {shm shm' : TenantShm} (h : SameRecords shm shm') :
    TenantsKept shm shm' :=
  ⟨fun u => by rw [h.tenant], fun u => by rw [h.tenant], fun u => by rw [h.tenant]⟩

/-- A record of a tenant with the same usage, status and quota. -/
structure SameAccount (info info' : TenantInfo) : Prop where
  usage : info'.usage = info.usage
  status : info'.status = info.status
  quota : info'.quota = info.quota

theorem sameAccount_addProcess (info : TenantInfo) (p : Pid) :
    SameAccount info (info.addProcess p) := by
  unfold TenantInfo.addProcess
  split <;> exact ⟨rfl, rfl, rfl⟩

theorem sameAccount_removeProcess (info : TenantInfo) (p : Pid) :
    SameAccount info (info.removeProcess p) := by
  unfold TenantInfo.removeProcess
  split <;> exact ⟨rfl, rfl, rfl⟩

theorem sameAccount_dropProcessCount (info : TenantInfo) :
    SameAccount info info.dropProcessCount := by
  unfold TenantInfo.dropProcessCount
  split <;> exact ⟨rfl, rfl, rfl⟩

/-- A write to one tenant of a segment with the same tenants that keeps the account. -/
theorem tenantsKept_setTenant {shm base : TenantShm} {t : UInt32} {info : TenantInfo}
    (hbase : base.tenants = shm.tenants) (h : SameAccount (shm.tenant t) info) :
    TenantsKept shm (base.setTenant t info) := by
  have htenant : ∀ u, base.tenant u = shm.tenant u := by
    intro u
    unfold TenantShm.tenant
    rw [hbase]
  refine ⟨fun u => ?_, fun u => ?_, fun u => ?_⟩
  · rw [field_setTenant TenantInfo.usage (by rw [h.usage, htenant]), htenant]
  · rw [field_setTenant TenantInfo.status (by rw [h.status, htenant]), htenant]
  · rw [field_setTenant TenantInfo.quota (by rw [h.quota, htenant]), htenant]

theorem tenantsKept_storeBinding (shm : TenantShm) (isNew : Bool) (i : Fin MAX_PROCESSES)
    (p : Pid) (t : UInt32) (now : TimeT) :
    TenantsKept shm (storeBinding shm isNew i p t now) := by
  cases isNew with
  | false =>
    unfold storeBinding
    simp only [Bool.false_eq_true, if_false]
    apply tenantsKept_setTenant
    · rfl
    · exact ⟨rfl, rfl, rfl⟩
  | true =>
    unfold storeBinding
    simp only [if_true]
    apply tenantsKept_setTenant
    · rfl
    · refine ⟨?_, ?_, ?_⟩
      · simp only [(sameAccount_addProcess _ p).usage]
      · simp only [(sameAccount_addProcess _ p).status]
      · simp only [(sameAccount_addProcess _ p).quota]

theorem pidMappings_storeBinding (shm : TenantShm) (isNew : Bool) (i : Fin MAX_PROCESSES)
    (p : Pid) (t : UInt32) (now : TimeT) :
    (storeBinding shm isNew i p t now).pidMappings =
      Function.update shm.pidMappings i ⟨p, t, now⟩ := by
  unfold storeBinding TenantShm.setMapping
  cases isNew with
  | false => simp only [Bool.false_eq_true, if_false, pidMappings_setTenant]
  | true => simp only [if_true, pidMappings_setTenant]

/-- A successful `tenant_bind_process` stores the mapping in the slot that the slot table
answers for the process. -/
structure Bound (shm : TenantShm) (p : Pid) (t : UInt32) (now : TimeT) (shm' : TenantShm) :
    Prop extends TenantsKept shm shm' where
  inRange : t.toNat < MAX_TENANTS
  active : (shm.tenant t).status = .active
  stored : ∃ i, SlotTable.slotFor shm.mappedPid 0 p = some i ∧
    shm'.pidMappings = Function.update shm.pidMappings i ⟨p, t, now⟩

/-- A failing `tenant_bind_process` changes no record; it fails on a tenant that is not
ACTIVE and on a table without a slot for the process. -/
structure NotBound (shm : TenantShm) (p : Pid) (t : UInt32) (shm' : TenantShm) : Prop
    extends SameRecords shm shm' where
  reason : t.toNat < MAX_TENANTS → (shm.tenant t).status = .active →
    SlotTable.slotFor shm.mappedPid 0 p = none

theorem mappedPid_of_update {shm shm' : TenantShm} {i : Fin MAX_PROCESSES}
    {m : PidTenantMapping} (h : shm'.pidMappings = Function.update shm.pidMappings i m) :
    shm'.mappedPid = Function.update shm.mappedPid i m.pid := by
  funext j
  unfold TenantShm.mappedPid
  rw [h]
  by_cases hji : j = i
  · rw [hji, Function.update_self, Function.update_self]
  · rw [Function.update_of_ne hji, Function.update_of_ne hji]

/-- Binding one process leaves the tenants of the others. -/
theorem tenantOf_of_bind {shm shm' : TenantShm} {p q : Pid} {t : UInt32} {now : TimeT}
    {i : Fin MAX_PROCESSES} (hi : SlotTable.slotFor shm.mappedPid 0 p = some i)
    (h : shm'.pidMappings = Function.update shm.pidMappings i ⟨p, t, now⟩) (hqp : q ≠ p)
    (hq : q ≠ 0) : shm'.tenantOf q = shm.tenantOf q := by
  unfold TenantShm.tenantOf
  rw [mappedPid_of_update h, SlotTable.slotOf_update_of_ne hi hqp hq, h]
  cases hj : SlotTable.slotOf shm.mappedPid q with
  | none => rfl
  | some j =>
    have hji := SlotTable.ne_of_slotFor hi (SlotTable.key_of_slotOf hj) hqp hq
    simp only [Option.map_some, Function.update_of_ne hji]

theorem tenantBindProcess_cases (shm : TenantShm) (p : Pid) (t : UInt32) (now : TimeT) :
    ((tenantBindProcess shm p t now).1 = false ∧
      NotBound shm p t (tenantBindProcess shm p t now).2) ∨
    ((tenantBindProcess shm p t now).1 = true ∧
      Bound shm p t now (tenantBindProcess shm p t now).2) := by
  by_cases ht : t.toNat < MAX_TENANTS
  · by_cases ha : (shm.tenant t).status = .active
    · have hscan : (SlotTable.scan (tenantShmLock shm).mappedPid 0 p
          (List.finRange MAX_PROCESSES) none).1.or
          (SlotTable.scan (tenantShmLock shm).mappedPid 0 p (List.finRange MAX_PROCESSES) none).2 =
          SlotTable.slotFor shm.mappedPid 0 p := SlotTable.scan_or_eq_slotFor
      simp only [tenantBindProcess, Nat.not_le.mpr ht, if_false, tenant_lock, ha, ne_eq,
        not_true_eq_false]
      generalize SlotTable.scan (tenantShmLock shm).mappedPid 0 p
        (List.finRange MAX_PROCESSES) none = r at hscan ⊢
      obtain ⟨found, emptySlot⟩ := r
      cases hidx : found.or emptySlot with
      | none =>
        left
        simp only [hidx] at hscan ⊢
        exact ⟨trivial, sameRecords_touch shm now, fun _ _ => hscan.symm⟩
      | some idx =>
        right
        simp only [hidx] at hscan ⊢
        have hkept := tenantsKept_storeBinding (tenantShmLock shm) found.isNone idx p t now
        have hmap := pidMappings_storeBinding (tenantShmLock shm) found.isNone idx p t now
        exact ⟨trivial, ⟨hkept.usage, hkept.status, hkept.quota⟩, ht, ha, idx, hscan.symm, hmap⟩
    · left
      simp only [tenantBindProcess, Nat.not_le.mpr ht, if_false, tenant_lock, ha, ne_eq,
        not_false_eq_true, if_true]
      exact ⟨trivial, sameRecords_touch shm now, fun _ h => absurd h ha⟩
  · left
    simp only [tenantBindProcess, Nat.not_lt.mp ht, if_true]
    exact ⟨trivial, .refl shm, fun h => absurd h ht⟩

theorem tenantBindProcess_succeeds {shm : TenantShm} {p : Pid} {t : UInt32} {now : TimeT}
    (ht : t.toNat < MAX_TENANTS) (hact : (shm.tenant t).status = .active)
    (hslot : ∃ i, SlotTable.slotFor shm.mappedPid 0 p = some i) :
    (tenantBindProcess shm p t now).1 = true := by
  rcases tenantBindProcess_cases shm p t now with ⟨-, hno⟩ | ⟨hok, -⟩
  · obtain ⟨i, hi⟩ := hslot
    have hnone := hno.reason ht hact
    rw [hi] at hnone
    exact absurd hnone (Option.some_ne_none i)
  · exact hok

theorem tenantsKept_dropTotal (shm : TenantShm) : TenantsKept shm shm.dropTotalProcessCount := by
  unfold TenantShm.dropTotalProcessCount
  split <;> exact ⟨fun _ => rfl, fun _ => rfl, fun _ => rfl⟩

theorem pidMappings_dropTotal (shm : TenantShm) :
    shm.dropTotalProcessCount.pidMappings = shm.pidMappings := by
  unfold TenantShm.dropTotalProcessCount
  split <;> rfl

theorem tenantsKept_clearBinding (shm : TenantShm) (i : Fin MAX_PROCESSES) (p : Pid) :
    TenantsKept shm (clearBinding shm i p) := by
  have hremove := sameAccount_removeProcess (shm.tenant (shm.pidMappings i).tenantId) p
  have hdrop := sameAccount_dropProcessCount
    ((shm.tenant (shm.pidMappings i).tenantId).removeProcess p)
  have haccount : SameAccount (shm.tenant (shm.pidMappings i).tenantId)
      ((shm.tenant (shm.pidMappings i).tenantId).removeProcess p).dropProcessCount :=
    ⟨hdrop.usage.trans hremove.usage, hdrop.status.trans hremove.status,
      hdrop.quota.trans hremove.quota⟩
  have hset := tenantsKept_setTenant (Eq.refl shm.tenants) haccount
  unfold clearBinding
  apply TenantsKept.trans _ (tenantsKept_dropTotal _)
  exact ⟨hset.usage, hset.status, hset.quota⟩

theorem pidMappings_clearBinding (shm : TenantShm) (i : Fin MAX_PROCESSES) (p : Pid) :
    (clearBinding shm i p).pidMappings =
      Function.update shm.pidMappings i { shm.pidMappings i with pid := 0, tenantId := 0 } := by
  unfold clearBinding
  rw [pidMappings_dropTotal]
  rfl

/-- `tenant_unbind_process` of an unbound process changes no record. -/
theorem tenantUnbindProcess_of_none {shm : TenantShm} {p : Pid} (now : TimeT)
    (h : SlotTable.slotOf shm.mappedPid p = none) :
    tenantUnbindProcess shm p now = (false, tenantShmUnlock (tenantShmLock shm) now) := by
  unfold tenantUnbindProcess
  rw [← mappedPid_lock] at h
  simp only [h]

/-- `tenant_unbind_process` of a bound process clears the slot of its mapping. -/
theorem tenantUnbindProcess_of_some {shm : TenantShm} {p : Pid} {i : Fin MAX_PROCESSES}
    (now : TimeT) (h : SlotTable.slotOf shm.mappedPid p = some i) :
    tenantUnbindProcess shm p now =
      (true, tenantShmUnlock (clearBinding (tenantShmLock shm) i p) now) := by
  unfold tenantUnbindProcess
  rw [← mappedPid_lock] at h
  simp only [h]

/-- What `tenant_unbind_process` leaves alone, and what it does to the mappings. -/
theorem tenantUnbindProcess_kept (shm : TenantShm) (p : Pid) (now : TimeT) :
    TenantsKept shm (tenantUnbindProcess shm p now).2 := by
  cases hslot : SlotTable.slotOf shm.mappedPid p with
  | none =>
    rw [tenantUnbindProcess_of_none now hslot]
    exact (sameRecords_touch shm now).tenantsKept
  | some i =>
    rw [tenantUnbindProcess_of_some now hslot]
    have hkept := tenantsKept_clearBinding (tenantShmLock shm) i p
    exact ⟨hkept.usage, hkept.status, hkept.quota⟩

theorem tenantUnbindProcess_pidMappings (shm : TenantShm) (p : Pid) (now : TimeT) :
    (tenantUnbindProcess shm p now).2.pidMappings =
      match SlotTable.slotOf shm.mappedPid p with
      | none => shm.pidMappings
      | some i =>
        Function.update shm.pidMappings i { shm.pidMappings i with pid := 0, tenantId := 0 } := by
  cases hslot : SlotTable.slotOf shm.mappedPid p with
  | none => rw [tenantUnbindProcess_of_none now hslot]; rfl
  | some i =>
    rw [tenantUnbindProcess_of_some now hslot]
    exact pidMappings_clearBinding (tenantShmLock shm) i p

end RdmaIntercept.Analysis
