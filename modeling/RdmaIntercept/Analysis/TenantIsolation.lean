import RdmaIntercept.Analysis.HookSpec
import RdmaIntercept.Analysis.TenantLifecycle
import RdmaIntercept.Library.Unwinding

/-!
# Tenants do not see each other

Two runs of the tenant segment are compared: a run of all tenants, and what is left of it
when the operations on the tenants other than `A` are taken out.  The two segments keep
the processes of `A` in different slots, so they are related through the map that the
mapping table represents and not slot by slot.
-/

set_option autoImplicit false

namespace RdmaIntercept.Analysis

open RdmaIntercept.Library RdmaIntercept.Model

/-! ## Whose operation it is -/

/-- Every process is used with the tenant `owner` has for it. -/
def UsedBy (owner : Pid → UInt32) : TenantEvent → Prop
  | .call (.op (.bind p t)) => p ≠ 0 ∧ t = owner p
  | .call (.op (.unbind p)) => p ≠ 0
  | .call (.lookup p) => p ≠ 0
  | .charge p _ _ => p ≠ 0
  | _ => True

/-- The event is an operation on tenant `A` or on one of its processes. -/
def Concerns (owner : Pid → UInt32) (A : UInt32) : TenantEvent → Prop
  | .call (.op (.create t _ _)) => t = A
  | .call (.op (.delete t)) => t = A
  | .call (.op (.setStatus t _)) => t = A
  | .call (.op (.updateQuota t _)) => t = A
  | .call (.op (.updateUsage t _)) => t = A
  | .call (.op (.bind _ t)) => t = A
  | .call (.op (.unbind p)) => owner p = A
  | .call (.lookup p) => owner p = A
  | .charge p _ _ => owner p = A

instance (owner : Pid → UInt32) (A : UInt32) : DecidablePred (Concerns owner A) := by
  intro e
  unfold Concerns
  split <;> infer_instance

/-- A binding does not meet a full table. -/
def FindsSlot (s : System) (e : TimeT × TenantEvent) : Prop :=
  ∀ p t, e.2 = .call (.op (.bind p t)) →
    SlotTable.slotFor s.tenantShm.mappedPid 0 p ≠ none

theorem UsedBy.namesProcess {owner : Pid → UInt32} {c : StoreCall}
    (h : UsedBy owner (.call c)) : c.NamesProcess := by
  cases c with
  | lookup p => exact h
  | op o =>
    cases o with
    | bind p t => exact h.1
    | unbind p => exact h
    | _ => trivial

/-! ## Records without their times -/

/-- A record without its two times. -/
def untimed (info : TenantInfo) : TenantInfo := { info with createdAt := 0, lastActiveAt := 0 }

/-- A write that passes nothing but the time on to the two times. -/
def TimeFree (write : TimeT → TenantInfo → TenantInfo) : Prop :=
  ∀ now now' info, untimed (write now info) = untimed (write now' (untimed info))

theorem TimeFree.untimed_eq {write : TimeT → TenantInfo → TenantInfo} (h : TimeFree write)
    {a b : TenantInfo} (hab : untimed b = untimed a) (now now' : TimeT) :
    untimed (write now' b) = untimed (write now a) := by
  calc untimed (write now' b) = untimed (write now' (untimed b)) := h now' now' b
    _ = untimed (write now' (untimed a)) := by rw [hab]
    _ = untimed (write now a) := (h now now' a).symm

theorem untimed_addProcess (info : TenantInfo) (p : Pid) :
    untimed ((untimed info).addProcess p) = untimed (info.addProcess p) := by
  have hsame : (untimed info).processes = info.processes := rfl
  unfold TenantInfo.addProcess
  rw [hsame]
  cases SlotTable.slotOf info.processes 0 with
  | none => rfl
  | some j => rfl

theorem untimed_removeProcess (info : TenantInfo) (p : Pid) :
    untimed ((untimed info).removeProcess p) = untimed (info.removeProcess p) := by
  have hsame : (untimed info).processes = info.processes := rfl
  unfold TenantInfo.removeProcess
  rw [hsame]
  cases SlotTable.slotOf info.processes p with
  | none => rfl
  | some j => rfl

theorem untimed_dropProcessCount (info : TenantInfo) :
    untimed (untimed info).dropProcessCount = untimed info.dropProcessCount := by
  have hsame : (untimed info).processCount = info.processCount := rfl
  unfold TenantInfo.dropProcessCount
  rw [hsame]
  by_cases h : 0 < info.processCount
  · rw [if_pos h, if_pos h]
    rfl
  · rw [if_neg h, if_neg h]
    rfl

theorem timeFree_boundTenant (isNew : Bool) (p : Pid) :
    TimeFree fun now info => boundTenant info isNew p now := by
  intro now now' info
  cases isNew with
  | false => rfl
  | true =>
    have h := untimed_addProcess { info with processCount := info.processCount + 1 } p
    exact h.symm

theorem timeFree_unboundTenant (p : Pid) : TimeFree fun _ info => unboundTenant info p := by
  intro now now' info
  calc untimed (info.removeProcess p).dropProcessCount
      = untimed (untimed (info.removeProcess p)).dropProcessCount :=
        (untimed_dropProcessCount _).symm
    _ = untimed (untimed ((untimed info).removeProcess p)).dropProcessCount := by
        rw [untimed_removeProcess]
    _ = untimed ((untimed info).removeProcess p).dropProcessCount := untimed_dropProcessCount _

section Paired

variable {A : UInt32} {write : TimeT → TenantInfo → TenantInfo} {shm shm' : TenantShm}
variable {maps maps' : Fin MAX_PROCESSES → PidTenantMapping} {active active' : UInt32}
variable {r r' : Bool × TenantShm}

/-- Two calls that write the record of tenant `A` in the same way answer the same and leave the
same record. -/
theorem paired_done (hw : TimeFree write) (now now' : TimeT)
    (hrec : untimed (shm'.tenant A) = untimed (shm.tenant A))
    (hdone : Done shm A (write now (shm.tenant A)) maps active r)
    (hdone' : Done shm' A (write now' (shm'.tenant A)) maps' active' r') :
    r'.1 = r.1 ∧ untimed (r'.2.tenant A) = untimed (r.2.tenant A) := by
  rw [hdone.ok, hdone'.ok, hdone.self, hdone'.self]
  exact ⟨rfl, hw.untimed_eq hrec now now'⟩

theorem paired_refused (hrec : untimed (shm'.tenant A) = untimed (shm.tenant A))
    (href : Refused shm r) (href' : Refused shm' r') :
    r'.1 = r.1 ∧ untimed (r'.2.tenant A) = untimed (r.2.tenant A) := by
  rw [href.failed, href'.failed, href.tenant, href'.tenant]
  exact ⟨rfl, hrec⟩

/-- Conditions that hold together decide the same in both segments. -/
theorem paired_write (hw : TimeFree write) {G G' : Prop} (hG : G' ↔ G) (now now' : TimeT)
    (hrec : untimed (shm'.tenant A) = untimed (shm.tenant A))
    (h : (G ∧ Done shm A (write now (shm.tenant A)) maps active r) ∨ (¬ G ∧ Refused shm r))
    (h' : (G' ∧ Done shm' A (write now' (shm'.tenant A)) maps' active' r') ∨
      (¬ G' ∧ Refused shm' r')) :
    r'.1 = r.1 ∧ untimed (r'.2.tenant A) = untimed (r.2.tenant A) := by
  rcases h with ⟨hg, hdone⟩ | ⟨hno, href⟩
  · rcases h' with ⟨-, hdone'⟩ | ⟨hno', -⟩
    · exact paired_done hw now now' hrec hdone hdone'
    · exact absurd (hG.mpr hg) hno'
  · rcases h' with ⟨hg', -⟩ | ⟨-, href'⟩
    · exact absurd (hG.mp hg') hno
    · exact paired_refused hrec href href'

end Paired

/-! ## Segments whose processes keep to their tenants -/

/-- Every mapped process is mapped to its owner. -/
structure OwnedBy (owner : Pid → UInt32) (shm : TenantShm) : Prop extends WellMapped shm where
  owned : ∀ p t, p ≠ 0 → shm.tenantOf p = some t → t = owner p

section Calls

variable {owner : Pid → UInt32} {A : UInt32} {shm shm' : TenantShm} {c : StoreCall}

theorem OwnedBy.congr (h : OwnedBy owner shm) (hw : WellMapped shm')
    (hmap : shm'.pidMappings = shm.pidMappings) : OwnedBy owner shm' := by
  refine ⟨hw, ?_⟩
  intro p t hp ht
  rw [tenantOf_congr hmap] at ht
  exact h.owned p t hp ht

theorem OwnedBy.exec (h : OwnedBy owner shm) (hc : UsedBy owner (.call c)) (now : TimeT) :
    OwnedBy owner (c.exec shm now) := by
  refine ⟨h.toWellMapped.exec now hc.namesProcess, ?_⟩
  intro q t hq ht
  rw [tenantOf_exec h.once c now hq] at ht
  have hbefore := h.owned q t hq
  unfold entryAfter at ht
  split at ht
  · split at ht
    · rename_i hqp
      rw [hqp.2, ← hc.2]
      exact (Option.some.inj ht).symm
    · exact hbefore ht
  · split at ht
    · exact absurd ht.symm (Option.some_ne_none t)
    · exact hbefore ht
  · split at ht
    · exact absurd ht.symm (Option.some_ne_none t)
    · exact hbefore ht
  · exact hbefore ht

/-- A call that writes at most the record of `t` does not write that of another tenant. -/
theorem tenant_of_written {G : Prop} {t : UInt32} {info : TenantInfo}
    {maps : Fin MAX_PROCESSES → PidTenantMapping} {active : UInt32} {r : Bool × TenantShm}
    (h : (G ∧ Done shm t info maps active r) ∨ (¬ G ∧ Refused shm r)) (hA : A.toNat < MAX_TENANTS)
    (ht : t ≠ A) : r.2.tenant A = shm.tenant A := by
  rcases h with ⟨-, hdone⟩ | ⟨-, href⟩
  · exact hdone.other A hA (Ne.symm ht)
  · exact href.tenant A

/-- An operation on another tenant does not write the record of `A`. -/
theorem tenant_exec_of_hidden (h : OwnedBy owner shm) (hA : A.toNat < MAX_TENANTS)
    (hc : UsedBy owner (.call c)) (hv : ¬ Concerns owner A (.call c)) (now : TimeT) :
    (c.exec shm now).tenant A = shm.tenant A := by
  cases c with
  | lookup p => exact (tenantGetProcessTenant_same shm p now).tenant A
  | op o =>
    cases o with
    | create t name quota => exact tenant_of_written (tenantCreate_cases shm t name quota now) hA hv
    | delete t => exact tenant_of_written (tenantDelete_cases shm t now) hA hv
    | setStatus t st => exact tenant_of_written (tenantSetStatus_cases shm t st now) hA hv
    | updateQuota t quota => exact tenant_of_written (tenantUpdateQuota_cases shm t quota now) hA hv
    | bind p t =>
      rcases tenantBind_cases shm p t now with ⟨i, -, -, hdone⟩ | ⟨-, href⟩
      · exact hdone.other A hA (Ne.symm hv)
      · exact href.tenant A
    | unbind p =>
      rcases tenantUnbind_cases shm p now h.inRange with ⟨i, hi, hdone⟩ | ⟨-, href⟩
      · have hkey : shm.mappedPid i = p := SlotTable.key_of_slotOf hi
        have hof := tenantOf_of_slot h.once hc hkey
        refine hdone.other A hA ?_
        rintro rfl
        exact hv (h.owned p _ hc hof).symm
      · exact href.tenant A
    | updateUsage t usage =>
      exact tenant_of_written (tenantUpdateResourceUsage_cases shm t usage now) hA hv

/-- An operation on another tenant does not move the processes of `A`. -/
theorem tenantOf_exec_of_hidden (h : OwnedBy owner shm) (hc : UsedBy owner (.call c))
    (hv : ¬ Concerns owner A (.call c)) (now : TimeT) {q : Pid} (hq : q ≠ 0)
    (hqA : owner q = A) : (c.exec shm now).tenantOf q = shm.tenantOf q := by
  rw [tenantOf_exec h.once c now hq]
  unfold entryAfter
  split
  · rw [if_neg]
    rintro ⟨-, rfl⟩
    exact hv (hc.2.trans hqA)
  · rw [if_neg]
    rintro rfl
    exact hv hqA
  · rw [if_neg]
    rintro ⟨-, ht⟩
    exact hv ((h.owned q _ hq ht).trans hqA)
  · rfl

/-! ## Related segments -/

/-- The second segment shows tenant `A` and its processes as the first one does, and maps no
other processes. -/
structure Related (owner : Pid → UInt32) (A : UInt32) (shm shm' : TenantShm) : Prop where
  record : untimed (shm'.tenant A) = untimed (shm.tenant A)
  entry : ∀ p, p ≠ 0 → owner p = A → shm'.tenantOf p = shm.tenantOf p
  own : OwnedBy owner shm
  own' : OwnedBy owner shm'
  only : ∀ p, p ≠ 0 → shm'.tenantOf p ≠ none → owner p = A

theorem Related.status (h : Related owner A shm shm') :
    (shm'.tenant A).status = (shm.tenant A).status := by
  have hstatus := congrArg TenantInfo.status h.record
  exact hstatus

theorem Related.hidden (h : Related owner A shm shm') (hA : A.toNat < MAX_TENANTS)
    (hc : UsedBy owner (.call c)) (hv : ¬ Concerns owner A (.call c)) (now : TimeT) :
    Related owner A (c.exec shm now) shm' := by
  refine ⟨?_, ?_, h.own.exec hc now, h.own', h.only⟩
  · rw [tenant_exec_of_hidden h.own hA hc hv now]
    exact h.record
  · intro p hp hpA
    rw [tenantOf_exec_of_hidden h.own hc hv now hp hpA]
    exact h.entry p hp hpA

theorem Related.mayWrite_iff (h : Related owner A shm shm') :
    MayWrite shm' A ↔ MayWrite shm A := by
  unfold MayWrite
  rw [h.status]

theorem Related.activeTenant_iff (h : Related owner A shm shm') :
    ActiveTenant shm' A ↔ ActiveTenant shm A := by
  unfold ActiveTenant
  rw [h.status]

/-- The processes of the second segment are among those of the first. -/
theorem Related.boundPids_subset (h : Related owner A shm shm') :
    boundPids shm' ⊆ boundPids shm := by
  intro p hp
  have hp0 := (SlotTable.mem_keys.mp hp).1
  obtain ⟨t, ht⟩ := (mem_boundPids_iff hp0).mp hp
  have hpA := h.only p hp0 (by rw [ht]; exact Option.some_ne_none t)
  rw [h.entry p hp0 hpA] at ht
  exact (mem_boundPids_iff hp0).mpr ⟨t, ht⟩

/-- So a binding that finds a slot in the first finds one in the second. -/
theorem Related.mayBind_iff (h : Related owner A shm shm') {p : Pid} (hp : p ≠ 0)
    (hpA : owner p = A) (hroom : SlotTable.slotFor shm.mappedPid 0 p ≠ none) :
    MayBind shm' p A ↔ MayBind shm p A := by
  have hslot : ∃ i, SlotTable.slotFor shm.mappedPid 0 p = some i :=
    Option.ne_none_iff_exists'.mp hroom
  have hslot' : ∃ i, SlotTable.slotFor shm'.mappedPid 0 p = some i := by
    rw [SlotTable.exists_slotFor_iff h.own.once hp] at hslot
    rw [SlotTable.exists_slotFor_iff h.own'.once hp]
    rcases hslot with hmem | hlt
    · left
      rw [← boundPids, mem_boundPids_iff hp] at hmem ⊢
      rwa [h.entry p hp hpA]
    · right
      exact lt_of_le_of_lt (Finset.card_le_card h.boundPids_subset) hlt
  unfold MayBind
  rw [h.activeTenant_iff]
  exact ⟨fun hb => ⟨hb.1, hslot⟩, fun hb => ⟨hb.1, hslot'⟩⟩

/-- Binding a process of `A` has the same result in both segments and leaves the same
record. -/
theorem Related.paired_bind (h : Related owner A shm shm') {p : Pid} (hp : p ≠ 0)
    (hpA : owner p = A) (hroom : SlotTable.slotFor shm.mappedPid 0 p ≠ none) (now now' : TimeT) :
    (tenantBindProcess shm' p A now').1 = (tenantBindProcess shm p A now).1 ∧
      untimed ((tenantBindProcess shm' p A now').2.tenant A) =
        untimed ((tenantBindProcess shm p A now).2.tenant A) := by
  have hmay := h.mayBind_iff hp hpA hroom
  have hnew : (SlotTable.slotOf shm'.mappedPid p).isNone =
      (SlotTable.slotOf shm.mappedPid p).isNone := by
    have hentry := congrArg Option.isNone (h.entry p hp hpA)
    unfold TenantShm.tenantOf at hentry
    rwa [Option.isNone_map, Option.isNone_map] at hentry
  have hfree := timeFree_boundTenant (SlotTable.slotOf shm.mappedPid p).isNone p
  rcases tenantBind_cases shm p A now with ⟨i, hyes, -, hdone⟩ | ⟨hno, href⟩
  · rcases tenantBind_cases shm' p A now' with ⟨i', -, -, hdone'⟩ | ⟨hno', -⟩
    · rw [hnew] at hdone'
      exact paired_done hfree now now' h.record hdone hdone'
    · exact absurd (hmay.mpr hyes) hno'
  · rcases tenantBind_cases shm' p A now' with ⟨i', hyes', -, -⟩ | ⟨-, href'⟩
    · exact absurd (hmay.mp hyes') hno
    · exact paired_refused h.record href href'

/-- The slot of a process of `A` names `A`. -/
theorem OwnedBy.mappedTenant_eq (h : OwnedBy owner shm) {p : Pid} (hp : p ≠ 0)
    (hpA : owner p = A) {i : Fin MAX_PROCESSES} (hi : SlotTable.slotOf shm.mappedPid p = some i) :
    (shm.pidMappings i).tenantId = A := by
  have hof := tenantOf_of_slot h.once hp (SlotTable.key_of_slotOf hi)
  exact (h.owned p _ hp hof).trans hpA

/-- A process of `A` has a slot in both segments or in neither. -/
theorem Related.slotOf_eq_none_iff (h : Related owner A shm shm') {p : Pid} (hp : p ≠ 0)
    (hpA : owner p = A) :
    SlotTable.slotOf shm'.mappedPid p = none ↔ SlotTable.slotOf shm.mappedPid p = none := by
  have hentry := h.entry p hp hpA
  unfold TenantShm.tenantOf at hentry
  rw [← Option.map_eq_none_iff, hentry, Option.map_eq_none_iff]

/-- Unbinding a process of `A` has the same result in both segments and leaves the same
record. -/
theorem Related.paired_unbind (h : Related owner A shm shm') {p : Pid} (hp : p ≠ 0)
    (hpA : owner p = A) (now now' : TimeT) :
    (tenantUnbindProcess shm' p now').1 = (tenantUnbindProcess shm p now).1 ∧
      untimed ((tenantUnbindProcess shm' p now').2.tenant A) =
        untimed ((tenantUnbindProcess shm p now).2.tenant A) := by
  have hnone := h.slotOf_eq_none_iff hp hpA
  rcases tenantUnbind_cases shm p now h.own.inRange with ⟨i, hi, hdone⟩ | ⟨hno, href⟩
  · rcases tenantUnbind_cases shm' p now' h.own'.inRange with ⟨i', hi', hdone'⟩ | ⟨hno', -⟩
    · rw [h.own.mappedTenant_eq hp hpA hi] at hdone
      rw [h.own'.mappedTenant_eq hp hpA hi'] at hdone'
      exact paired_done (timeFree_unboundTenant p) now now' h.record hdone hdone'
    · rw [hnone.mp hno'] at hi
      exact absurd hi (Option.some_ne_none i).symm
  · rcases tenantUnbind_cases shm' p now' h.own'.inRange with ⟨i', hi', -⟩ | ⟨-, href'⟩
    · rw [hnone.mpr hno] at hi'
      exact absurd hi' (Option.some_ne_none i').symm
    · exact paired_refused h.record href href'

/-- An operation on `A` has the same result in both segments and leaves the same record. -/
theorem Related.paired (h : Related owner A shm shm') (hc : UsedBy owner (.call c))
    (hv : Concerns owner A (.call c))
    (hroom : ∀ p t, c = .op (.bind p t) → SlotTable.slotFor shm.mappedPid 0 p ≠ none)
    (now now' : TimeT) :
    c.ok shm' now' = c.ok shm now ∧
      untimed ((c.exec shm' now').tenant A) = untimed ((c.exec shm now).tenant A) := by
  cases c with
  | lookup p =>
    refine ⟨rfl, ?_⟩
    have hsame := (tenantGetProcessTenant_same shm p now).tenant A
    have hsame' := (tenantGetProcessTenant_same shm' p now').tenant A
    show untimed ((tenantGetProcessTenant shm' p now').2.tenant A) =
      untimed ((tenantGetProcessTenant shm p now).2.tenant A)
    rw [hsame, hsame']
    exact h.record
  | op o =>
    cases o with
    | create t name quota =>
      obtain rfl : t = A := hv
      have hG : MayCreate shm' t ↔ MayCreate shm t := by
        unfold MayCreate
        rw [h.status]
      have hfree : TimeFree fun now _ => createdTenant t name quota now := fun _ _ _ => rfl
      exact paired_write hfree hG now now' h.record (tenantCreate_cases shm t name quota now)
        (tenantCreate_cases shm' t name quota now')
    | delete t =>
      obtain rfl : t = A := hv
      have hG : MayDelete shm' t ↔ MayDelete shm t := by
        unfold MayDelete
        rw [h.status]
      have hfree : TimeFree fun _ info => { info with status := .inactive, processCount := 0 } :=
        fun _ _ _ => rfl
      exact paired_write hfree hG now now' h.record (tenantDelete_cases shm t now)
        (tenantDelete_cases shm' t now')
    | setStatus t st =>
      obtain rfl : t = A := hv
      have hG := h.mayWrite_iff
      have hfree : TimeFree fun now info => { info with status := st, lastActiveAt := now } :=
        fun _ _ _ => rfl
      exact paired_write hfree hG now now' h.record (tenantSetStatus_cases shm t st now)
        (tenantSetStatus_cases shm' t st now')
    | updateQuota t quota =>
      obtain rfl : t = A := hv
      have hG := h.mayWrite_iff
      have hfree : TimeFree fun now info => { info with quota := quota, lastActiveAt := now } :=
        fun _ _ _ => rfl
      exact paired_write hfree hG now now' h.record (tenantUpdateQuota_cases shm t quota now)
        (tenantUpdateQuota_cases shm' t quota now')
    | bind p t =>
      obtain rfl : t = A := hv
      exact h.paired_bind hc.1 hc.2.symm (hroom p t rfl) now now'
    | unbind p => exact h.paired_unbind hc hv now now'
    | updateUsage t usage =>
      obtain rfl : t = A := hv
      have hG := h.activeTenant_iff
      have hfree : TimeFree fun now info => { info with usage := usage, lastActiveAt := now } :=
        fun _ _ _ => rfl
      exact paired_write hfree hG now now' h.record (tenantUpdateResourceUsage_cases shm t usage now)
        (tenantUpdateResourceUsage_cases shm' t usage now')

/-- An operation on `A` performed in both segments keeps them related. -/
theorem Related.shown (h : Related owner A shm shm') (hc : UsedBy owner (.call c))
    (hv : Concerns owner A (.call c))
    (hroom : ∀ p t, c = .op (.bind p t) → SlotTable.slotFor shm.mappedPid 0 p ≠ none)
    (now now' : TimeT) : Related owner A (c.exec shm now) (c.exec shm' now') := by
  obtain ⟨hok, hrecord⟩ := h.paired hc hv hroom now now'
  refine ⟨hrecord, ?_, h.own.exec hc now, h.own'.exec hc now', ?_⟩
  · intro q hq hqA
    rw [tenantOf_exec h.own.once c now hq, tenantOf_exec h.own'.once c now' hq, hok,
      h.entry q hq hqA]
  · intro q hq hne
    rw [tenantOf_exec h.own'.once c now' hq] at hne
    have hbefore := h.only q hq
    unfold entryAfter at hne
    split at hne
    · split at hne
      · rename_i hqp
        rw [hqp.2, ← hc.2]
        exact hv
      · exact hbefore hne
    · split at hne
      · exact absurd rfl hne
      · exact hbefore hne
    · split at hne
      · exact absurd rfl hne
      · exact hbefore hne
    · exact hbefore hne

end Calls

/-! ## Charges -/

/-- A charge writes the usage of the ACTIVE tenant of the process and nothing else. -/
theorem chargeProcess_cases (s : System) (p : Pid) (kind : ResourceKind) (delta : Int32) :
    (chargeProcess s p kind delta).proc = s.proc ∧
    (((currentTenant s p ≠ 0 ∧ ActiveTenant s.tenantShm (currentTenant s p)) ∧
        ∃ active, Done s.tenantShm (currentTenant s p)
          { s.tenantShm.tenant (currentTenant s p) with
            usage := (s.tenantShm.tenant (currentTenant s p)).usage.adjust kind delta
            lastActiveAt := s.wallClock }
          s.tenantShm.pidMappings active (true, (chargeProcess s p kind delta).tenantShm)) ∨
      (¬ (currentTenant s p ≠ 0 ∧ ActiveTenant s.tenantShm (currentTenant s p)) ∧
        SameRecords s.tenantShm (chargeProcess s p kind delta).tenantShm)) := by
  have hlook := getCurrentTenantId_untouched s p
  have hstep : chargeProcess s p kind delta =
      updateTenantResourceCount (getCurrentTenantId s p).2 p (currentTenant s p) kind delta := rfl
  rw [hstep]
  generalize (getCurrentTenantId s p).2 = s₁ at hlook ⊢
  by_cases h0 : currentTenant s p = 0
  · rw [updateTenantResourceCount, if_pos (Or.inl h0)]
    exact ⟨hlook.proc, Or.inr ⟨fun h => h.1 h0, hlook.records⟩⟩
  · have hinit : (s₁.proc p).tenantInitialized = true := by
      rw [hlook.proc]
      exact tenantInitialized_of_currentTenant h0
    have hread := tenantGetResourceUsage_fst s₁.tenantShm (currentTenant s p) s₁.wallClock
    have hsame := tenantGetResourceUsage_same s₁.tenantShm (currentTenant s p) s₁.wallClock
    rw [updateTenantResourceCount, if_neg (by simp [h0, hinit])]
    generalize tenantGetResourceUsage s₁.tenantShm (currentTenant s p) s₁.wallClock = r
      at hread hsame ⊢
    obtain ⟨o, shm⟩ := r
    have hrecords := hlook.records.trans hsame
    rw [hlook.records.tenant] at hread
    by_cases ha : (currentTenant s p).toNat < MAX_TENANTS ∧
        (s.tenantShm.tenant (currentTenant s p)).status = .active
    · rw [if_pos ha] at hread
      simp only at hread hrecords
      subst hread
      refine ⟨hlook.proc, Or.inl ⟨⟨h0, ha⟩, ?_⟩⟩
      rcases tenantUpdateResourceUsage_cases shm (currentTenant s p)
          ((s.tenantShm.tenant (currentTenant s p)).usage.adjust kind delta) s₁.wallClock with
        ⟨-, hdone⟩ | ⟨hno, -⟩
      · refine ⟨_, rfl, ha.1, ?_, ?_, hdone.pidMappings.trans hrecords.pidMappings, rfl⟩
        · rw [hdone.self, hrecords.tenant, hlook.wallClock]
        · intro u hu hne
          rw [hdone.other u hu hne, hrecords.tenant]
      · refine absurd ⟨ha.1, ?_⟩ hno
        rw [hrecords.tenant]
        exact ha.2
    · rw [if_neg ha] at hread
      simp only at hread hrecords
      subst hread
      exact ⟨hlook.proc, Or.inr ⟨fun h => ha h.2, hrecords⟩⟩

/-- A charge moves no process and keeps the mappings valid. -/
theorem WellMapped.charge {s : System} (h : WellMapped s.tenantShm) (p : Pid)
    (kind : ResourceKind) (delta : Int32) :
    WellMapped (chargeProcess s p kind delta).tenantShm ∧
      (chargeProcess s p kind delta).tenantShm.pidMappings = s.tenantShm.pidMappings := by
  rcases (chargeProcess_cases s p kind delta).2 with ⟨⟨h0, -⟩, active, hdone⟩ | ⟨-, hsame⟩
  · exact ⟨h.of_done hdone h0 h.valid (h.once.congr hdone.pidMappings), hdone.pidMappings⟩
  · exact ⟨h.of_same hsame, hsame.pidMappings⟩

/-! ## Related systems -/

/-- The processes are the same and the segments are related. -/
structure RelatedSystems (owner : Pid → UInt32) (A : UInt32) (s s' : System) : Prop where
  proc : s'.proc = s.proc
  segments : Related owner A s.tenantShm s'.tenantShm

section Systems

variable {owner : Pid → UInt32} {A : UInt32} {s s' : System} {p : Pid}

theorem OwnedBy.currentTenant_eq_owner (h : OwnedBy owner s.tenantShm) (hp : p ≠ 0)
    (h0 : currentTenant s p ≠ 0) : currentTenant s p = owner p := by
  have hcur := currentTenant_eq s p
  rw [if_pos (tenantInitialized_of_currentTenant h0)] at hcur
  cases hof : s.tenantShm.tenantOf p with
  | none =>
    rw [hof] at hcur
    exact absurd hcur h0
  | some t =>
    rw [hof] at hcur
    exact hcur.trans (h.owned p t hp hof)

theorem RelatedSystems.sameCurrent (h : RelatedSystems owner A s s') (hp : p ≠ 0)
    (hpA : owner p = A) : currentTenant s' p = currentTenant s p := by
  rw [currentTenant_eq, currentTenant_eq, h.proc, h.segments.entry p hp hpA]

theorem RelatedSystems.hidden_charge (h : RelatedSystems owner A s s') (hA : A.toNat < MAX_TENANTS)
    (hp : p ≠ 0) (hpA : owner p ≠ A) (kind : ResourceKind) (delta : Int32) :
    RelatedSystems owner A (chargeProcess s p kind delta) s' := by
  obtain ⟨hproc, hcases⟩ := chargeProcess_cases s p kind delta
  obtain ⟨hw, hmap⟩ := h.segments.own.toWellMapped.charge p kind delta
  have hkept : (chargeProcess s p kind delta).tenantShm.tenant A = s.tenantShm.tenant A := by
    rcases hcases with ⟨⟨h0, -⟩, active, hdone⟩ | ⟨-, hsame⟩
    · apply hdone.other A hA
      rw [h.segments.own.currentTenant_eq_owner hp h0]
      exact hpA.symm
    · exact hsame.tenant A
  refine ⟨h.proc.trans hproc.symm, ?_, ?_, h.segments.own.congr hw hmap, h.segments.own',
    h.segments.only⟩
  · rw [hkept]
    exact h.segments.record
  · intro q hq hqA
    rw [tenantOf_congr hmap]
    exact h.segments.entry q hq hqA

theorem RelatedSystems.shown_charge (h : RelatedSystems owner A s s') (hp : p ≠ 0)
    (hpA : owner p = A) (kind : ResourceKind) (delta : Int32) :
    RelatedSystems owner A (chargeProcess s p kind delta) (chargeProcess s' p kind delta) := by
  obtain ⟨hproc, hcases⟩ := chargeProcess_cases s p kind delta
  obtain ⟨hproc', hcases'⟩ := chargeProcess_cases s' p kind delta
  obtain ⟨hw, hmap⟩ := h.segments.own.toWellMapped.charge p kind delta
  obtain ⟨hw', hmap'⟩ := h.segments.own'.toWellMapped.charge p kind delta
  refine ⟨?_, ?_, ?_, h.segments.own.congr hw hmap, h.segments.own'.congr hw' hmap', ?_⟩
  · rw [hproc, hproc', h.proc]
  · have hcur := h.sameCurrent hp hpA
    have hG : currentTenant s' p ≠ 0 ∧ ActiveTenant s'.tenantShm (currentTenant s' p) ↔
        currentTenant s p ≠ 0 ∧ ActiveTenant s.tenantShm (currentTenant s p) := by
      rw [hcur]
      apply and_congr_right
      intro h0
      rw [h.segments.own.currentTenant_eq_owner hp h0, hpA]
      exact h.segments.activeTenant_iff
    rcases hcases with ⟨hg, active, hdone⟩ | ⟨hno, hsame⟩
    · rcases hcases' with ⟨-, active', hdone'⟩ | ⟨hno', -⟩
      · have htA : currentTenant s p = A :=
          (h.segments.own.currentTenant_eq_owner hp hg.1).trans hpA
        rw [htA] at hdone
        rw [hcur, htA] at hdone'
        have hfree : TimeFree fun now info =>
            { info with usage := info.usage.adjust kind delta, lastActiveAt := now } :=
          fun _ _ _ => rfl
        exact (paired_write hfree Iff.rfl s.wallClock s'.wallClock h.segments.record
          (Or.inl ⟨trivial, hdone⟩) (Or.inl ⟨trivial, hdone'⟩)).2
      · exact absurd (hG.mpr hg) hno'
    · rcases hcases' with ⟨hg', -⟩ | ⟨-, hsame'⟩
      · exact absurd (hG.mp hg') hno
      · rw [hsame.tenant, hsame'.tenant]
        exact h.segments.record
  · intro q hq hqA
    rw [tenantOf_congr hmap, tenantOf_congr hmap']
    exact h.segments.entry q hq hqA
  · intro q hq hne
    rw [tenantOf_congr hmap'] at hne
    exact h.segments.only q hq hne

/-- An invisible event on one side. -/
theorem RelatedSystems.hidden (h : RelatedSystems owner A s s') (hA : A.toNat < MAX_TENANTS)
    {e : TimeT × TenantEvent} (he : UsedBy owner e.2) (hv : ¬ Concerns owner A e.2) :
    RelatedSystems owner A (s.tenantStep e) s' := by
  obtain ⟨now, e⟩ := e
  have hclock : RelatedSystems owner A { s with wallClock := now } s' := ⟨h.proc, h.segments⟩
  cases e with
  | call c => exact ⟨h.proc, h.segments.hidden hA he hv now⟩
  | charge p kind delta => exact hclock.hidden_charge hA he hv kind delta

/-- A visible event on both sides. -/
theorem RelatedSystems.shown (h : RelatedSystems owner A s s') {e e' : TimeT × TenantEvent}
    (he : UsedBy owner e.2) (hroom : FindsSlot s e) (hv : Concerns owner A e.2)
    (hsame : e'.2 = e.2) :
    RelatedSystems owner A (s.tenantStep e) (s'.tenantStep e') ∧
      s'.tenantAnswer e' = s.tenantAnswer e := by
  obtain ⟨now, e⟩ := e
  obtain ⟨now', e'⟩ := e'
  obtain rfl : e' = e := hsame
  have hclock : RelatedSystems owner A { s with wallClock := now } { s' with wallClock := now' } :=
    ⟨h.proc, h.segments⟩
  cases e' with
  | charge p kind delta => exact ⟨hclock.shown_charge he hv kind delta, rfl⟩
  | call c =>
    have hslot : ∀ p t, c = .op (.bind p t) →
        SlotTable.slotFor s.tenantShm.mappedPid 0 p ≠ none := by
      rintro p t rfl
      exact hroom p t rfl
    refine ⟨⟨h.proc, h.segments.shown he hv hslot now now'⟩, ?_⟩
    cases c with
    | op o => exact congrArg TenantAnswer.returned (h.segments.paired he hv hslot now now').1
    | lookup p =>
      simp only [System.tenantAnswer, tenantGetProcessTenant_fst, h.segments.entry p he hv]

/-! ## What can be seen of a tenant -/

/-- Nothing that tenant `A` can see differs. -/
structure LooksSame (owner : Pid → UInt32) (A : UInt32) (s s' : System) : Prop where
  record : untimed (s'.tenantShm.tenant A) = untimed (s.tenantShm.tenant A)
  reported : ∀ p, p ≠ 0 → owner p = A → ∀ now now',
    processTenantResult (tenantGetProcessTenant s'.tenantShm p now').1 =
      processTenantResult (tenantGetProcessTenant s.tenantShm p now).1
  current : ∀ p, p ≠ 0 → owner p = A → currentTenant s' p = currentTenant s p
  qpLimit : ∀ p, (checkTenantQpLimit s' p A).1 = (checkTenantQpLimit s p A).1
  mrLimit : ∀ p length,
    (checkTenantMrLimitInline s' p A length).1 = (checkTenantMrLimitInline s p A length).1
  resourceLimit : ∀ resourceType amount now now',
    (tenantCheckResourceLimit s'.tenantShm A resourceType amount now').1 =
      (tenantCheckResourceLimit s.tenantShm A resourceType amount now).1

theorem RelatedSystems.looksSame (h : RelatedSystems owner A s s') : LooksSame owner A s s' := by
  have hstatus := h.segments.status
  have hquota : (s'.tenantShm.tenant A).quota = (s.tenantShm.tenant A).quota := by
    have hq := congrArg TenantInfo.quota h.segments.record
    exact hq
  have husage : (s'.tenantShm.tenant A).usage = (s.tenantShm.tenant A).usage := by
    have hu := congrArg TenantInfo.usage h.segments.record
    exact hu
  refine ⟨h.segments.record, ?_, ?_, ?_, ?_, ?_⟩
  · intro p hp hpA now now'
    rw [tenantGetProcessTenant_fst, tenantGetProcessTenant_fst, h.segments.entry p hp hpA]
  · intro p hp hpA
    exact h.sameCurrent hp hpA
  · intro p
    apply Bool.eq_iff_iff.mpr
    rw [checkTenantQpLimit_iff, checkTenantQpLimit_iff]
    unfold QpQuotaAllows System.status System.usage System.quota
    rw [h.proc, hstatus, hquota, husage]
  · intro p length
    apply Bool.eq_iff_iff.mpr
    rw [checkTenantMrLimitInline_iff, checkTenantMrLimitInline_iff]
    unfold MrQuotaAllows System.status System.usage System.quota
    rw [h.proc, hstatus, hquota, husage]
  · intro resourceType amount now now'
    rw [tenantCheckResourceLimit_fst, tenantCheckResourceLimit_fst, hstatus]
    unfold TenantInfo.exceeds
    rw [hquota, husage]

end Systems

/-! ## Runs -/

theorem related_fresh (owner : Pid → UInt32) (A : UInt32) (now : TimeT) :
    Related owner A (.fresh now) (.fresh now) := by
  have hnone : ∀ p, p ≠ 0 → (TenantShm.fresh now).tenantOf p = none := by
    intro p hp
    rw [tenantOf_eq_none_iff hp]
    intro hmem
    obtain ⟨-, i, hi⟩ := SlotTable.mem_keys.mp hmem
    exact hp hi.symm
  have hown : OwnedBy owner (.fresh now) := by
    refine ⟨wellMapped_fresh now, ?_⟩
    intro p t hp ht
    rw [hnone p hp] at ht
    exact absurd ht.symm (Option.some_ne_none t)
  exact ⟨rfl, fun _ _ _ => rfl, hown, hown, fun p hp hne => absurd (hnone p hp) hne⟩

/-- Taking the operations on the other tenants and their processes out of a run changes
nothing that tenant `A` can see: not its state at the end, nor any answer on the way. -/
theorem tenantIsolation (owner : Pid → UInt32) (A : UInt32) (hA : A.toNat < MAX_TENANTS)
    (s : System) (start : TimeT) (hfresh : s.tenantShm = .fresh start)
    (run reduced : List (TimeT × TenantEvent)) (hused : ∀ e ∈ run, UsedBy owner e.2)
    (hroom : Along System.tenantStep FindsSlot s run)
    (hreduced : reduced.map Prod.snd =
      (run.map Prod.snd).filter fun e => decide (Concerns owner A e)) :
    LooksSame owner A (exec System.tenantStep s run) (exec System.tenantStep s reduced) ∧
      answers System.tenantStep System.tenantAnswer Prod.snd (Concerns owner A) s reduced =
        answers System.tenantStep System.tenantAnswer Prod.snd (Concerns owner A) s run := by
  have hstart : RelatedSystems owner A s s := by
    refine ⟨rfl, ?_⟩
    rw [hfresh]
    exact related_fresh owner A start
  have hallowed : Along System.tenantStep (fun s e => UsedBy owner e.2 ∧ FindsSlot s e) s run :=
    along_and.mpr ⟨along_of_forall hused s, hroom⟩
  have hhidden : ∀ (s s' : System) (e : TimeT × TenantEvent), RelatedSystems owner A s s' →
      UsedBy owner e.2 ∧ FindsSlot s e → ¬ Concerns owner A e.2 →
      RelatedSystems owner A (s.tenantStep e) s' :=
    fun s s' e h he hv => h.hidden hA he.1 hv
  have hshown : ∀ (s s' : System) (e e' : TimeT × TenantEvent), RelatedSystems owner A s s' →
      UsedBy owner e.2 ∧ FindsSlot s e → Concerns owner A e.2 → e'.2 = e.2 →
      RelatedSystems owner A (s.tenantStep e) (s'.tenantStep e') ∧
        s'.tenantAnswer e' = s.tenantAnswer e :=
    fun s s' e e' h he hv hsame => h.shown he.1 he.2 hv hsame
  obtain ⟨hrel, hanswers⟩ := unwinding hhidden hshown hstart hallowed hreduced
  exact ⟨hrel.looksSame, hanswers⟩

/-- A new segment that every process has mapped. -/
def freshSystem : System where
  tenantShm := .fresh 0
  shm := .fresh 0
  proc := fun _ => { ProcState.unstarted with tenantInitialized := true }
  wallClock := 0
  monoClock := 0

/-- A run of tenants 1 and 2: process 8 comes after process 7 in the table. -/
def twoTenantRun : List (TimeT × TenantEvent) :=
  [(0, .call (.op (.create 1 none none))), (1, .call (.op (.create 2 none none))),
    (2, .call (.op (.bind 7 1))), (3, .call (.op (.bind 8 2))), (4, .charge 8 .qp 1),
    (5, .call (.op (.delete 1))), (6, .call (.lookup 8))]

/-- What is left of it for tenant 2: process 8 comes first in the table. -/
def oneTenantRun : List (TimeT × TenantEvent) :=
  [(0, .call (.op (.create 2 none none))), (0, .call (.op (.bind 8 2))), (1, .charge 8 .qp 1),
    (2, .call (.lookup 8))]

theorem tenantIsolation_twoTenants :
    LooksSame (fun p => if p = 7 then 1 else 2) 2 (exec System.tenantStep freshSystem twoTenantRun)
        (exec System.tenantStep freshSystem oneTenantRun) ∧
      answers System.tenantStep System.tenantAnswer Prod.snd
          (Concerns (fun p => if p = 7 then 1 else 2) 2) freshSystem oneTenantRun =
        answers System.tenantStep System.tenantAnswer Prod.snd
          (Concerns (fun p => if p = 7 then 1 else 2) 2) freshSystem twoTenantRun := by
  refine tenantIsolation _ 2 (by decide) freshSystem 0 rfl twoTenantRun oneTenantRun ?_ ?_ ?_
  · simp [twoTenantRun, UsedBy]
  · refine ⟨by rintro p t ⟨⟩, by rintro p t ⟨⟩, ?_, ?_, by rintro p t ⟨⟩, by rintro p t ⟨⟩,
      by rintro p t ⟨⟩, trivial⟩
    · rintro p t ⟨⟩
      decide +kernel
    · rintro p t ⟨⟩
      decide +kernel
  · rfl

end RdmaIntercept.Analysis
