import RdmaIntercept.Library.Counter
import RdmaIntercept.Analysis.BindingTable

/-!
# Tenants that come and go

What every run of the tenant API keeps (`WellMapped`): the default tenant is never in
use, and a mapping slot is either free or names a tenant from 1 to 63.  The counter of
active tenants and the status of the tenants that are mapped agree with this exactly as
long as no `tenant_set_status` takes a tenant out of use, which `tenant_delete` does
together with its clean-up and `tenant_set_status` without.
-/

set_option autoImplicit false

namespace RdmaIntercept.Analysis

open RdmaIntercept.Library RdmaIntercept.Model

/-- A mapping record is free as a whole or names a process and a tenant. -/
structure ValidMapping (m : PidTenantMapping) : Prop where
  free_iff : m.pid = 0 ↔ m.tenantId = 0
  inRange : m.tenantId.toNat < MAX_TENANTS

/-- What every run keeps. -/
structure WellMapped (shm : TenantShm) : Prop where
  default : (shm.tenant 0).status = .inactive
  valid : ∀ i, ValidMapping (shm.pidMappings i)
  once : MappedOnce shm

theorem zero_inRange : (0 : UInt32).toNat < MAX_TENANTS := by decide

theorem validMapping_freed (m : PidTenantMapping) : ValidMapping (freedMapping m) :=
  ⟨iff_of_true rfl rfl, zero_inRange⟩

theorem ValidMapping.cleared {m : PidTenantMapping} (h : ValidMapping m) (t : UInt32) :
    ValidMapping (clearedMapping t m) := by
  by_cases hm : m.tenantId = t
  · rw [clearedMapping_of_eq hm]
    exact validMapping_freed m
  · rwa [clearedMapping_of_ne hm]

theorem wellMapped_fresh (now : TimeT) : WellMapped (.fresh now) :=
  ⟨rfl, fun _ => ⟨iff_of_true rfl rfl, zero_inRange⟩, mappedOnce_fresh now⟩

/-- A tenant in use is not the default tenant. -/
theorem WellMapped.ne_zero {shm : TenantShm} (h : WellMapped shm) {t : UInt32}
    (ht : (shm.tenant t).status ≠ .inactive) : t ≠ 0 := by
  rintro rfl
  exact ht h.default

theorem ActiveTenant.inUse {shm : TenantShm} {t : UInt32} (h : ActiveTenant shm t) :
    (shm.tenant t).status ≠ .inactive := by
  rw [h.2]
  decide

/-- The tenant of a mapped process. -/
theorem WellMapped.mapped_ne_zero {shm : TenantShm} (h : WellMapped shm) {i : Fin MAX_PROCESSES}
    (hi : shm.mappedPid i ≠ 0) : mappedTenant shm i ≠ 0 :=
  fun h0 => hi ((h.valid i).free_iff.mpr h0)

theorem WellMapped.pid_ne_zero {shm : TenantShm} (h : WellMapped shm) {i : Fin MAX_PROCESSES}
    (hi : mappedTenant shm i ≠ 0) : shm.mappedPid i ≠ 0 :=
  fun h0 => hi ((h.valid i).free_iff.mp h0)

theorem WellMapped.inRange {shm : TenantShm} (h : WellMapped shm) (i : Fin MAX_PROCESSES) :
    (mappedTenant shm i).toNat < MAX_TENANTS := (h.valid i).inRange

/-- A call that fails keeps it. -/
theorem WellMapped.of_same {shm shm' : TenantShm} (h : WellMapped shm)
    (hsame : SameRecords shm shm') : WellMapped shm' := by
  refine ⟨?_, ?_, h.once.congr hsame.pidMappings⟩
  · rw [hsame.tenant]
    exact h.default
  · rw [hsame.pidMappings]
    exact h.valid

/-- A call that succeeds keeps it when it writes another record than that of the default
tenant and valid mappings. -/
theorem WellMapped.of_done {shm : TenantShm} {t : UInt32} {info : TenantInfo}
    {maps : Fin MAX_PROCESSES → PidTenantMapping} {active : UInt32} {r : Bool × TenantShm}
    (h : WellMapped shm) (hdone : Done shm t info maps active r) (h0 : t ≠ 0)
    (hvalid : ∀ i, ValidMapping (maps i)) (honce : MappedOnce r.2) : WellMapped r.2 := by
  refine ⟨?_, ?_, honce⟩
  · rw [hdone.other 0 (by decide) h0.symm]
    exact h.default
  · rw [hdone.pidMappings]
    exact hvalid

theorem WellMapped.valid_update {shm : TenantShm} (h : WellMapped shm) (i : Fin MAX_PROCESSES)
    {m : PidTenantMapping} (hm : ValidMapping m) (j : Fin MAX_PROCESSES) :
    ValidMapping (Function.update shm.pidMappings i m j) := by
  by_cases hji : j = i
  · rw [hji, Function.update_self]
    exact hm
  · rw [Function.update_of_ne hji]
    exact h.valid j

/-- A call with a process fails, or writes another record than that of the default tenant and
valid mappings. -/
theorem WellMapped.exec_cases {shm : TenantShm} (h : WellMapped shm) {c : StoreCall} (now : TimeT)
    (hc : c.NamesProcess) :
    SameRecords shm (c.exec shm now) ∨
      ∃ t info maps active r, t ≠ 0 ∧ (∀ i, ValidMapping (maps i)) ∧
        Done shm t info maps active r ∧ r.2 = c.exec shm now := by
  cases c with
  | lookup p => exact Or.inl (tenantGetProcessTenant_same shm p now)
  | op o =>
    cases o with
    | create t name quota =>
      rcases tenantCreate_cases shm t name quota now with ⟨hmay, hdone⟩ | ⟨-, href⟩
      · exact Or.inr ⟨_, _, _, _, _, hmay.1, h.valid, hdone, rfl⟩
      · exact Or.inl href.toSameRecords
    | delete t =>
      rcases tenantDelete_cases shm t now with ⟨hmay, hdone⟩ | ⟨-, href⟩
      · exact Or.inr ⟨_, _, _, _, _, hmay.1, fun i => (h.valid i).cleared t, hdone, rfl⟩
      · exact Or.inl href.toSameRecords
    | setStatus t st =>
      rcases tenantSetStatus_cases shm t st now with ⟨hmay, hdone⟩ | ⟨-, href⟩
      · exact Or.inr ⟨_, _, _, _, _, h.ne_zero hmay.2, h.valid, hdone, rfl⟩
      · exact Or.inl href.toSameRecords
    | updateQuota t quota =>
      rcases tenantUpdateQuota_cases shm t quota now with ⟨hmay, hdone⟩ | ⟨-, href⟩
      · exact Or.inr ⟨_, _, _, _, _, h.ne_zero hmay.2, h.valid, hdone, rfl⟩
      · exact Or.inl href.toSameRecords
    | bind p t =>
      rcases tenantBind_cases shm p t now with ⟨i, hmay, -, hdone⟩ | ⟨-, href⟩
      · have h0 := h.ne_zero hmay.1.inUse
        have hvalid := h.valid_update i (m := ⟨p, t, now⟩) ⟨iff_of_false hc h0, hdone.inRange⟩
        exact Or.inr ⟨_, _, _, _, _, h0, hvalid, hdone, rfl⟩
      · exact Or.inl href.toSameRecords
    | unbind p =>
      rcases tenantUnbind_cases shm p now h.inRange with ⟨i, hi, hdone⟩ | ⟨-, href⟩
      · have hpid : shm.mappedPid i ≠ 0 := by
          rw [SlotTable.key_of_slotOf hi]
          exact hc
        have hvalid := h.valid_update i (validMapping_freed (shm.pidMappings i))
        exact Or.inr ⟨_, _, _, _, _, h.mapped_ne_zero hpid, hvalid, hdone, rfl⟩
      · exact Or.inl href.toSameRecords
    | updateUsage t usage =>
      rcases tenantUpdateResourceUsage_cases shm t usage now with ⟨hmay, hdone⟩ | ⟨-, href⟩
      · exact Or.inr ⟨_, _, _, _, _, h.ne_zero hmay.inUse, h.valid, hdone, rfl⟩
      · exact Or.inl href.toSameRecords

/-- Every call with a process keeps it. -/
theorem WellMapped.exec {shm : TenantShm} (h : WellMapped shm) {c : StoreCall} (now : TimeT)
    (hc : c.NamesProcess) : WellMapped (c.exec shm now) := by
  have honce : MappedOnce (c.exec shm now) := h.once.exec c now
  rcases h.exec_cases now hc with hsame | ⟨t, info, maps, active, r, h0, hvalid, hdone, hr⟩
  · exact h.of_same hsame
  · rw [← hr] at honce ⊢
    exact h.of_done hdone h0 hvalid honce

/-- The record of the default tenant is never written. -/
theorem WellMapped.exec_default {shm : TenantShm} (h : WellMapped shm) {c : StoreCall}
    (now : TimeT) (hc : c.NamesProcess) : (c.exec shm now).tenant 0 = shm.tenant 0 := by
  rcases h.exec_cases now hc with hsame | ⟨t, info, maps, active, r, h0, -, hdone, hr⟩
  · exact hsame.tenant 0
  · rw [← hr]
    exact hdone.other 0 zero_inRange h0.symm

/-! ## The tenants in use -/

/-- The tenants whose status is not INACTIVE. -/
def inUse (shm : TenantShm) : Finset (Fin MAX_TENANTS) :=
  Finset.univ.filter fun i => (shm.tenants i).status ≠ .inactive

theorem mem_inUse {shm : TenantShm} {i : Fin MAX_TENANTS} :
    i ∈ inUse shm ↔ (shm.tenants i).status ≠ .inactive := by
  simp [inUse]

theorem card_inUse_le (shm : TenantShm) : (inUse shm).card ≤ MAX_TENANTS := by
  calc (inUse shm).card ≤ (Finset.univ : Finset (Fin MAX_TENANTS)).card := Finset.card_filter_le _ _
    _ = MAX_TENANTS := by rw [Finset.card_univ, Fintype.card_fin]

/-- The counter and the mappings agree with the status of the tenants. -/
structure LifecycleConsistent (shm : TenantShm) : Prop where
  counted : shm.activeTenantCount.toNat = (inUse shm).card
  mapped : ∀ i, shm.mappedPid i ≠ 0 →
    mappedTenant shm i ≠ 0 ∧ (mappedTenant shm i).toNat < MAX_TENANTS ∧
      (shm.tenant (mappedTenant shm i)).status ≠ .inactive
  createdUnbound : ∀ t name quota now, (tenantCreate shm t name quota now).1 = true →
    ∀ i, (tenantCreate shm t name quota now).2.mappedPid i ≠ 0 →
      mappedTenant (tenantCreate shm t name quota now).2 i ≠ t

/-- The call does not take a tenant out of use by `tenant_set_status`. -/
def KeepsInUse (shm : TenantShm) (e : TimeT × StoreCall) : Prop :=
  ∀ t, e.2 = .op (.setStatus t .inactive) → ¬ MayWrite shm t

/-- The third part follows from the second. -/
theorem lifecycleConsistent_of {shm : TenantShm}
    (hcount : shm.activeTenantCount.toNat = (inUse shm).card)
    (hmapped : ∀ i, shm.mappedPid i ≠ 0 →
      mappedTenant shm i ≠ 0 ∧ (mappedTenant shm i).toNat < MAX_TENANTS ∧
        (shm.tenant (mappedTenant shm i)).status ≠ .inactive) : LifecycleConsistent shm := by
  refine ⟨hcount, hmapped, ?_⟩
  intro t name quota now hok i hi
  have hmap := tenantCreate_pidMappings shm t name quota now
  rcases tenantCreate_cases shm t name quota now with ⟨hmay, -⟩ | ⟨-, href⟩
  · rw [mappedPid_congr hmap] at hi
    rw [mappedTenant_congr hmap]
    rintro rfl
    exact (hmapped i hi).2.2 hmay.2.2
  · rw [href.failed] at hok
    exact absurd hok Bool.false_ne_true

/-- A call that fails changes none of it. -/
theorem LifecycleConsistent.of_same {shm shm' : TenantShm} (h : LifecycleConsistent shm)
    (hsame : SameStore shm shm') : LifecycleConsistent shm' := by
  apply lifecycleConsistent_of
  · unfold inUse
    rw [hsame.activeTenantCount, hsame.tenants]
    exact h.counted
  · intro i
    rw [mappedPid_congr hsame.pidMappings, mappedTenant_congr hsame.pidMappings, hsame.tenant]
    exact h.mapped i

section Success

variable {shm : TenantShm} {t : UInt32} {info : TenantInfo}
variable {maps : Fin MAX_PROCESSES → PidTenantMapping} {active : UInt32} {r : Bool × TenantShm}

/-- The tenants in use after a write that leaves tenant `t` in use. -/
theorem Done.inUse_of_inUse (hdone : Done shm t info maps active r) (hinfo : info.status ≠ .inactive) :
    inUse r.2 = insert (tenantSlot t) (inUse shm) := by
  ext i
  rw [Finset.mem_insert, mem_inUse, mem_inUse, hdone.tenants]
  by_cases hi : i = tenantSlot t
  · rw [hi, Function.update_self]
    exact iff_of_true hinfo (Or.inl rfl)
  · rw [Function.update_of_ne hi, or_iff_right hi]

/-- The tenants in use after a write that takes tenant `t` out of use. -/
theorem Done.inUse_of_inactive (hdone : Done shm t info maps active r)
    (hinfo : info.status = .inactive) : inUse r.2 = (inUse shm).erase (tenantSlot t) := by
  ext i
  rw [Finset.mem_erase, mem_inUse, mem_inUse, hdone.tenants]
  by_cases hi : i = tenantSlot t
  · rw [hi, Function.update_self]
    exact iff_of_false (not_not.mpr hinfo) (fun h => h.1 rfl)
  · rw [Function.update_of_ne hi, and_iff_right hi]

/-- A write to a tenant in use that leaves it in use, with the same count. -/
theorem Done.counted (hdone : Done shm t info maps shm.activeTenantCount r)
    (h : LifecycleConsistent shm) (ht : (shm.tenant t).status ≠ .inactive)
    (hinfo : info.status ≠ .inactive) :
    r.2.activeTenantCount.toNat = (inUse r.2).card := by
  rw [hdone.activeTenantCount, hdone.inUse_of_inUse hinfo,
    Finset.insert_eq_self.mpr (mem_inUse.mpr ht)]
  exact h.counted

/-- A mapped tenant stays in use unless tenant `t` is taken out of use. -/
theorem Done.mapped (hdone : Done shm t info maps active r) (h : LifecycleConsistent shm)
    {i : Fin MAX_PROCESSES} (hi : shm.mappedPid i ≠ 0)
    (hinfo : mappedTenant shm i = t → info.status ≠ .inactive) :
    mappedTenant shm i ≠ 0 ∧ (mappedTenant shm i).toNat < MAX_TENANTS ∧
      (r.2.tenant (mappedTenant shm i)).status ≠ .inactive := by
  obtain ⟨h0, hrange, hstatus⟩ := h.mapped i hi
  refine ⟨h0, hrange, ?_⟩
  rw [hdone.tenant hrange]
  by_cases hit : mappedTenant shm i = t
  · rw [if_pos hit]
    exact hinfo hit
  · rw [if_neg hit]
    exact hstatus

/-- A write to one record that leaves the mappings and the tenant in use. -/
theorem Done.lifecycleConsistent (hdone : Done shm t info shm.pidMappings shm.activeTenantCount r)
    (h : LifecycleConsistent shm) (ht : (shm.tenant t).status ≠ .inactive)
    (hinfo : info.status ≠ .inactive) : LifecycleConsistent r.2 := by
  apply lifecycleConsistent_of (hdone.counted h ht hinfo)
  intro i
  rw [mappedPid_congr hdone.pidMappings, mappedTenant_congr hdone.pidMappings]
  intro hi
  exact hdone.mapped h hi (fun _ => hinfo)

/-- A write to one record that leaves the tenant in use, and to one mapping slot. -/
theorem Done.lifecycleConsistent_slot {i : Fin MAX_PROCESSES} {m : PidTenantMapping}
    (hdone : Done shm t info (Function.update shm.pidMappings i m) shm.activeTenantCount r)
    (h : LifecycleConsistent shm) (ht : (shm.tenant t).status ≠ .inactive)
    (hinfo : info.status ≠ .inactive)
    (hm : m.pid ≠ 0 → m.tenantId ≠ 0 ∧ m.tenantId.toNat < MAX_TENANTS ∧
      (r.2.tenant m.tenantId).status ≠ .inactive) : LifecycleConsistent r.2 := by
  apply lifecycleConsistent_of (hdone.counted h ht hinfo)
  intro j
  rw [mappedPid_of_update hdone.pidMappings, mappedTenant_of_update hdone.pidMappings]
  by_cases hji : j = i
  · rw [hji, Function.update_self, Function.update_self]
    exact hm
  · rw [Function.update_of_ne hji, Function.update_of_ne hji]
    exact fun hj => hdone.mapped h hj (fun _ => hinfo)

end Success

/-! ## One call -/

theorem LifecycleConsistent.create {shm : TenantShm} (h : LifecycleConsistent shm) (t : UInt32)
    (name : Option (List UInt8)) (quota : Option TenantQuota) (now : TimeT) :
    LifecycleConsistent (tenantCreate shm t name quota now).2 := by
  rcases tenantCreate_cases shm t name quota now with ⟨hmay, hdone⟩ | ⟨-, href⟩
  · have hin : (createdTenant t name quota now).status ≠ .inactive := by simp [createdTenant]
    have hnew : tenantSlot t ∉ inUse shm := fun hmem => mem_inUse.mp hmem hmay.2.2
    apply lifecycleConsistent_of
    · rw [hdone.activeTenantCount, hdone.inUse_of_inUse hin, Finset.card_insert_of_notMem hnew]
      exact Counter.toNat_succ h.counted
        (lt_of_le_of_lt (Nat.add_le_add_right (card_inUse_le shm) 1) (by decide))
    · intro i
      rw [mappedPid_congr hdone.pidMappings, mappedTenant_congr hdone.pidMappings]
      intro hi
      exact hdone.mapped h hi (fun _ => hin)
  · exact h.of_same href.toSameStore

theorem LifecycleConsistent.delete {shm : TenantShm} (h : LifecycleConsistent shm) (t : UInt32)
    (now : TimeT) : LifecycleConsistent (tenantDelete shm t now).2 := by
  rcases tenantDelete_cases shm t now with ⟨hmay, hdone⟩ | ⟨-, href⟩
  · have hmem : tenantSlot t ∈ inUse shm := mem_inUse.mpr hmay.2.2
    apply lifecycleConsistent_of
    · rw [hdone.activeTenantCount, hdone.inUse_of_inactive rfl]
      exact Counter.toNat_pred (h.counted.trans (Finset.card_erase_add_one hmem).symm)
    · intro i hi
      -- a slot that is still in use was not swept, so it names another tenant
      rw [mappedPid_of_cleared hdone.pidMappings] at hi
      obtain ⟨hkey, hne⟩ := (SlotTable.sweep_eq_iff hi i).mp rfl
      rw [← hkey] at hi
      rw [mappedTenant_of_cleared hdone.pidMappings i hne]
      exact hdone.mapped h hi (fun hit => absurd hit hne)
  · exact h.of_same href.toSameStore

theorem LifecycleConsistent.bind {shm : TenantShm} (h : LifecycleConsistent shm)
    (hw : WellMapped shm) (p : Pid) (t : UInt32) (now : TimeT) :
    LifecycleConsistent (tenantBindProcess shm p t now).2 := by
  rcases tenantBind_cases shm p t now with ⟨i, hmay, -, hdone⟩ | ⟨-, href⟩
  · have ht := hmay.1.inUse
    have hin := ht
    rw [← status_boundTenant _ (SlotTable.slotOf shm.mappedPid p).isNone p now] at hin
    refine hdone.lifecycleConsistent_slot h ht hin fun _ => ⟨hw.ne_zero ht, hdone.inRange, ?_⟩
    rw [hdone.self]
    exact hin
  · exact h.of_same href.toSameStore

theorem LifecycleConsistent.unbind {shm : TenantShm} (h : LifecycleConsistent shm)
    (hw : WellMapped shm) {p : Pid} (hp : p ≠ 0) (now : TimeT) :
    LifecycleConsistent (tenantUnbindProcess shm p now).2 := by
  rcases tenantUnbind_cases shm p now hw.inRange with ⟨i, hi, hdone⟩ | ⟨-, href⟩
  · have hpid : shm.mappedPid i ≠ 0 := by
      rw [SlotTable.key_of_slotOf hi]
      exact hp
    have ht := (h.mapped i hpid).2.2
    have hin := ht
    rw [← status_unboundTenant _ p] at hin
    exact hdone.lifecycleConsistent_slot h ht hin fun hfreed => absurd rfl hfreed
  · exact h.of_same href.toSameStore

/-- Setting a status keeps the agreement exactly when it leaves the tenant in use. -/
theorem lifecycleConsistent_setStatus_iff {shm : TenantShm} (h : LifecycleConsistent shm)
    (t : UInt32) (st : TenantStatus) (now : TimeT) :
    LifecycleConsistent (tenantSetStatus shm t st now).2 ↔ (st = .inactive → ¬ MayWrite shm t) := by
  rcases tenantSetStatus_cases shm t st now with ⟨hmay, hdone⟩ | ⟨hno, href⟩
  · by_cases hst : st = .inactive
    · refine iff_of_false ?_ (fun hc => hc hst hmay)
      intro h'
      have hmem : tenantSlot t ∈ inUse shm := mem_inUse.mpr hmay.2
      have hpos := Finset.card_pos.mpr ⟨_, hmem⟩
      have hcount := h'.counted
      rw [hdone.activeTenantCount, hdone.inUse_of_inactive hst, Finset.card_erase_of_mem hmem,
        h.counted] at hcount
      omega
    · exact iff_of_true (hdone.lifecycleConsistent h hmay.2 hst) (fun hc => absurd hc hst)
  · exact iff_of_true (h.of_same href.toSameStore) (fun _ => hno)

/-- One call keeps the agreement exactly when it does not take a tenant out of use by
`tenant_set_status`. -/
theorem lifecycleConsistent_step_iff {shm : TenantShm} (hw : WellMapped shm)
    (h : LifecycleConsistent shm) {e : TimeT × StoreCall} (he : e.2.NamesProcess) :
    LifecycleConsistent (shm.step e) ↔ KeepsInUse shm e := by
  obtain ⟨now, c⟩ := e
  cases c with
  | lookup p =>
    exact iff_of_true (h.of_same ⟨tenantGetProcessTenant_same shm p now, rfl⟩)
      (by rintro t ⟨⟩)
  | op o =>
    cases o with
    | create t name quota => exact iff_of_true (h.create t name quota now) (by rintro u ⟨⟩)
    | delete t => exact iff_of_true (h.delete t now) (by rintro u ⟨⟩)
    | setStatus t st =>
      apply (lifecycleConsistent_setStatus_iff h t st now).trans
      constructor
      · rintro hc u ⟨⟩
        exact hc rfl
      · rintro hc rfl
        exact hc t rfl
    | updateQuota t quota =>
      refine iff_of_true ?_ (by rintro u ⟨⟩)
      rcases tenantUpdateQuota_cases shm t quota now with ⟨hmay, hdone⟩ | ⟨-, href⟩
      · exact hdone.lifecycleConsistent h hmay.2 hmay.2
      · exact h.of_same href.toSameStore
    | bind p t => exact iff_of_true (h.bind hw p t now) (by rintro u ⟨⟩)
    | unbind p => exact iff_of_true (h.unbind hw he now) (by rintro u ⟨⟩)
    | updateUsage t usage =>
      refine iff_of_true ?_ (by rintro u ⟨⟩)
      rcases tenantUpdateResourceUsage_cases shm t usage now with ⟨hmay, hdone⟩ | ⟨-, href⟩
      · exact hdone.lifecycleConsistent h hmay.inUse hmay.inUse
      · exact h.of_same href.toSameStore

/-! ## Runs -/

theorem lifecycleConsistent_fresh (now : TimeT) : LifecycleConsistent (.fresh now) := by
  apply lifecycleConsistent_of
  · have hnone : inUse (.fresh now) = ∅ := by
      apply Finset.filter_eq_empty_iff.mpr
      intro i _ hi
      exact hi rfl
    rw [hnone]
    rfl
  · intro i hi
    exact absurd rfl hi

/-- The counter and the mappings agree with the status of the tenants in every state of a run
exactly when no `tenant_set_status` of the run takes a tenant out of use. -/
theorem tenantLifecycle_iff (start : TimeT) (calls : List (TimeT × StoreCall))
    (hpids : ∀ e ∈ calls, e.2.NamesProcess) :
    Always TenantShm.step LifecycleConsistent (.fresh start) calls ↔
      Along TenantShm.step KeepsInUse (.fresh start) calls :=
  always_iff_along (I := WellMapped) (fun _ e hw he => hw.exec e.1 he)
    (fun _ _ hw he h => lifecycleConsistent_step_iff hw h he) (wellMapped_fresh start)
    (lifecycleConsistent_fresh start) (along_of_forall hpids _)

theorem tenantLifecycle_of_deleted :
    Always TenantShm.step LifecycleConsistent (.fresh 0)
      [(0, .op (.create 1 none none)), (1, .op (.bind 7 1)), (2, .op (.setStatus 1 .suspended)),
        (3, .op (.delete 1)), (4, .op (.create 1 none none))] := by
  refine (tenantLifecycle_iff 0 _ ?_).mpr ?_
  · simp [StoreCall.NamesProcess]
  · refine ⟨?_, ?_, ?_, ?_, ?_, trivial⟩ <;> rintro t ⟨⟩

/-- A tenant that is set to INACTIVE is still counted. -/
theorem tenantLifecycle_setInactive :
    ¬ Always TenantShm.step LifecycleConsistent (.fresh 0)
      [(0, .op (.create 1 none none)), (1, .op (.bind 7 1)), (2, .op (.setStatus 1 .inactive))] := by
  intro h
  have hcount : ∀ shm, LifecycleConsistent shm →
      shm.activeTenantCount.toNat = (inUse shm).card := fun _ hc => hc.counted
  have hlast := hcount _ h.last
  revert hlast
  decide +kernel

end RdmaIntercept.Analysis
