import RdmaIntercept.Analysis.DaemonAnswers
import RdmaIntercept.Analysis.StoreSpec

/-!
# The names of the records

In every store that the tenant API can produce, a record in use carries the id of its place
in the array, and a name that ends where its bytes do.  `tenant_create` writes both, and no
other call does.
-/

set_option autoImplicit false

namespace RdmaIntercept.Analysis

open RdmaIntercept.Library RdmaIntercept.Library.CText RdmaIntercept.Model

/-- The id and the name in a record. -/
def naming (info : TenantInfo) : UInt32 × Bytes := (info.tenantId, info.tenantName)

/-- A record in use carries the id of its place in the array, and its name is a string. -/
def NamesRecords (shm : TenantShm) : Prop :=
  ∀ u : UInt32, u.toNat < MAX_TENANTS → (shm.tenant u).status ≠ .inactive →
    (shm.tenant u).tenantId = u ∧ 0 ∉ (shm.tenant u).tenantName

section
variable {shm shm' : TenantShm}

/-- The record is in use, and named as the other. -/
def StaysNamed (info info' : TenantInfo) : Prop :=
  info'.status ≠ .inactive → info.status ≠ .inactive ∧ naming info' = naming info

theorem NamesRecords.of_staysNamed (h : NamesRecords shm)
    (hkept : ∀ u : UInt32, u.toNat < MAX_TENANTS → StaysNamed (shm.tenant u) (shm'.tenant u)) :
    NamesRecords shm' := by
  intro u hu huse
  obtain ⟨hbefore, hnaming⟩ := hkept u hu huse
  obtain ⟨hid, hname⟩ := Prod.mk.inj hnaming
  rw [hid, hname]
  exact h u hu hbefore

theorem staysNamed_refl (info : TenantInfo) : StaysNamed info info := fun h => ⟨h, rfl⟩

theorem NamesRecords.of_same (h : NamesRecords shm) (hsame : SameStore shm shm') :
    NamesRecords shm' :=
  h.of_staysNamed fun u _ => by rw [hsame.tenant]; exact staysNamed_refl _

theorem NamesRecords.of_done (h : NamesRecords shm) {t : UInt32} {info : TenantInfo}
    {maps : Fin MAX_PROCESSES → PidTenantMapping} {active : UInt32} {r : Bool × TenantShm}
    (hdone : Done shm t info maps active r) (hinfo : StaysNamed (shm.tenant t) info) :
    NamesRecords r.2 := by
  apply h.of_staysNamed
  intro u hu
  rw [hdone.tenant hu]
  by_cases hut : u = t
  · rw [if_pos hut, hut]
    exact hinfo
  · rw [if_neg hut]
    exact staysNamed_refl _

theorem zero_notMem_copyName (name : Option Bytes) : (0 : UInt8) ∉ copyName name := by
  intro h
  have hmem := List.mem_of_mem_take h
  simpa using List.mem_takeWhile_imp hmem

theorem NamesRecords.create (h : NamesRecords shm) (t : UInt32) (name : Option Bytes)
    (quota : Option TenantQuota) (now : TimeT) :
    NamesRecords (tenantCreate shm t name quota now).2 := by
  rcases tenantCreate_cases shm t name quota now with ⟨-, hdone⟩ | ⟨-, hrefused⟩
  · intro u hu huse
    rw [hdone.tenant hu] at huse ⊢
    by_cases hut : u = t
    · rw [if_pos hut]
      exact ⟨hut.symm, zero_notMem_copyName name⟩
    · rw [if_neg hut] at huse ⊢
      exact h u hu huse
  · exact h.of_same hrefused.toSameStore

theorem naming_addProcess (info : TenantInfo) (p : Pid) :
    naming (info.addProcess p) = naming info := by
  unfold TenantInfo.addProcess
  split <;> rfl

theorem naming_boundTenant (info : TenantInfo) (isNew : Bool) (p : Pid) (now : TimeT) :
    naming (boundTenant info isNew p now) = naming info := by
  cases isNew with
  | false => rfl
  | true => exact naming_addProcess _ p

theorem naming_unboundTenant (info : TenantInfo) (p : Pid) :
    naming (unboundTenant info p) = naming info := by
  unfold unboundTenant TenantInfo.removeProcess TenantInfo.dropProcessCount
  split <;> split <;> rfl

/-- `tenant_unbind_process` keeps the names of all records. -/
theorem naming_unbind (shm : TenantShm) (p : Pid) (now : TimeT) (u : UInt32) :
    naming ((tenantUnbindProcess shm p now).2.tenant u) = naming (shm.tenant u) := by
  cases hslot : SlotTable.slotOf shm.mappedPid p with
  | none =>
    rw [tenantUnbindProcess_of_none now hslot]
    rfl
  | some i =>
    rw [tenantUnbindProcess_of_some now hslot]
    simp only [tenant_unlock, clearBinding, tenant_dropTotal]
    exact field_setTenant naming (naming_unboundTenant _ p) u

theorem NamesRecords.exec (h : NamesRecords shm) (op : StoreOp) (now : TimeT) :
    NamesRecords (op.exec shm now).2 := by
  cases op with
  | create t name quota => exact h.create t name quota now
  | delete t =>
    rcases tenantDelete_cases shm t now with ⟨-, hdone⟩ | ⟨-, hrefused⟩
    · exact h.of_done hdone fun huse => absurd rfl huse
    · exact h.of_same hrefused.toSameStore
  | setStatus t status =>
    rcases tenantSetStatus_cases shm t status now with ⟨hmay, hdone⟩ | ⟨-, hrefused⟩
    · exact h.of_done hdone fun _ => ⟨hmay.2, rfl⟩
    · exact h.of_same hrefused.toSameStore
  | updateQuota t quota =>
    rcases tenantUpdateQuota_cases shm t quota now with ⟨hmay, hdone⟩ | ⟨-, hrefused⟩
    · exact h.of_done hdone fun _ => ⟨hmay.2, rfl⟩
    · exact h.of_same hrefused.toSameStore
  | updateUsage t usage =>
    rcases tenantUpdateResourceUsage_cases shm t usage now with ⟨-, hdone⟩ | ⟨-, hrefused⟩
    · exact h.of_done hdone fun huse => ⟨huse, rfl⟩
    · exact h.of_same hrefused.toSameStore
  | bind p t =>
    rcases tenantBind_cases shm p t now with ⟨i, -, -, hdone⟩ | ⟨-, hrefused⟩
    · refine h.of_done hdone fun huse => ⟨?_, naming_boundTenant _ _ p now⟩
      rwa [status_boundTenant] at huse
    · exact h.of_same hrefused.toSameStore
  | unbind p =>
    apply h.of_staysNamed
    intro u _ huse
    have hstatus := (tenantUnbindProcess_kept shm p now).status u
    refine ⟨?_, naming_unbind shm p now u⟩
    rw [← hstatus]
    exact huse

theorem NamesRecords.of_effect (h : NamesRecords shm) {now : TimeT} {monotonic : UInt64}
    (heffect : CommandEffect shm now monotonic shm') : NamesRecords shm' := by
  cases heffect with
  | none => exact h
  | read t =>
    apply h.of_staysNamed
    intro u _
    rw [(tenantGetInfo_same shm t now).tenant]
    exact staysNamed_refl _
  | op op => exact h.exec op now
  | stamped op => exact h.exec op now

/-- Every store that the tenant API and the daemon can produce. -/
theorem namesRecords_of_served {parse : Bytes → Json} (h : ServedStore parse shm) :
    NamesRecords shm := by
  induction h with
  | init now => exact fun u _ huse => absurd rfl huse
  | call op now _ ih => exact ih.exec op now
  | message message now monotonic _ ih => exact ih.of_effect (handleClient_effect parse message)

end

end RdmaIntercept.Analysis
