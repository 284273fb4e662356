import RdmaIntercept.Analysis.TenantLifecycle

/-!
# The processes of a tenant

A tenant keeps its processes three times: in the mapping table, in `process_count` and in
the array `processes`.  The three agree for every ACTIVE tenant exactly as long as no
process that is bound is bound to another tenant: such a call moves the mapping and
leaves the other two as they were, for the old tenant and for the new one.
-/

set_option autoImplicit false

namespace RdmaIntercept.Analysis

open RdmaIntercept.Library RdmaIntercept.Model

/-- The mapping slots of tenant `t`. -/
def entriesOf (shm : TenantShm) (t : UInt32) : Finset (Fin MAX_PROCESSES) :=
  Finset.univ.filter fun i => mappedTenant shm i = t

theorem mem_entriesOf {shm : TenantShm} {t : UInt32} {i : Fin MAX_PROCESSES} :
    i ∈ entriesOf shm t ↔ mappedTenant shm i = t := by
  simp [entriesOf]

/-- The count and the list of tenant `t` are those of its mapping slots. -/
structure Accounted (shm : TenantShm) (t : UInt32) : Prop where
  count : (shm.tenant t).processCount.toNat = (entriesOf shm t).card
  listed : SlotTable.keys (shm.tenant t).processes 0 = (entriesOf shm t).image shm.mappedPid
  once : SlotTable.Distinct (shm.tenant t).processes 0

/-- The three agree for every ACTIVE tenant. -/
def ProcessesExact (shm : TenantShm) : Prop :=
  ∀ t : UInt32, t.toNat < MAX_TENANTS → (shm.tenant t).status = .active → Accounted shm t

/-- The calls of the runs below. -/
def ProcessCall : StoreCall → Prop
  | .op (.setStatus ..) => False
  | c => c.NamesProcess

/-- A successful binding of a bound process is to the tenant that it has. -/
def KeepsBinding (shm : TenantShm) (e : TimeT × StoreCall) : Prop :=
  ∀ p t u, e.2 = .op (.bind p t) → ActiveTenant shm t → shm.tenantOf p = some u → u = t

/-- What such a run keeps, with re-bindings as well. -/
structure AccountingInv (shm : TenantShm) : Prop extends WellMapped shm where
  consistent : LifecycleConsistent shm
  notSuspended : ∀ t : UInt32, t.toNat < MAX_TENANTS → (shm.tenant t).status ≠ .suspended

theorem AccountingInv.active_of_inUse {shm : TenantShm} (h : AccountingInv shm) {t : UInt32}
    (ht : t.toNat < MAX_TENANTS) (hin : (shm.tenant t).status ≠ .inactive) :
    (shm.tenant t).status = .active := by
  have hns := h.notSuspended t ht
  cases hs : (shm.tenant t).status with
  | active => rfl
  | inactive => exact absurd hs hin
  | suspended => exact absurd hs hns

/-- The tenant of a mapping slot is ACTIVE. -/
theorem AccountingInv.mapped_active {shm : TenantShm} (h : AccountingInv shm)
    {i : Fin MAX_PROCESSES} (hi : shm.mappedPid i ≠ 0) :
    (shm.tenant (mappedTenant shm i)).status = .active :=
  h.active_of_inUse (h.inRange i) (h.consistent.mapped i hi).2.2

/-! ## One record -/

section Success

variable {shm : TenantShm} {t : UInt32} {info : TenantInfo}
variable {maps : Fin MAX_PROCESSES → PidTenantMapping} {active : UInt32} {r : Bool × TenantShm}

/-- A tenant stays accounted when its count, its list and its slots stay. -/
theorem Accounted.congr {shm' : TenantShm} (h : Accounted shm t)
    (hcount : (shm'.tenant t).processCount = (shm.tenant t).processCount)
    (hlist : (shm'.tenant t).processes = (shm.tenant t).processes)
    (hentries : entriesOf shm' t = entriesOf shm t)
    (hpid : ∀ i ∈ entriesOf shm t, shm'.mappedPid i = shm.mappedPid i) : Accounted shm' t := by
  refine ⟨?_, ?_, ?_⟩
  · rw [hcount, hentries]
    exact h.count
  · rw [hlist, hentries, Finset.image_congr hpid]
    exact h.listed
  · rw [hlist]
    exact h.once

theorem entriesOf_congr {shm' : TenantShm} (h : shm'.pidMappings = shm.pidMappings) (u : UInt32) :
    entriesOf shm' u = entriesOf shm u := by
  unfold entriesOf
  rw [mappedTenant_congr h]

/-- A call that fails keeps the accounts. -/
theorem ProcessesExact.of_same {shm' : TenantShm} (h : ProcessesExact shm)
    (hsame : SameRecords shm shm') : ProcessesExact shm' := by
  intro u hu hact
  rw [hsame.tenant] at hact
  apply (h u hu hact).congr
  · rw [hsame.tenant]
  · rw [hsame.tenant]
  · exact entriesOf_congr hsame.pidMappings u
  · intro i _
    rw [mappedPid_congr hsame.pidMappings]

/-- A write to one record that keeps its status, its count and its list, and the mappings. -/
theorem Done.processesExact (hdone : Done shm t info shm.pidMappings active r)
    (h : ProcessesExact shm) (hstatus : info.status = (shm.tenant t).status)
    (hcount : info.processCount = (shm.tenant t).processCount)
    (hlist : info.processes = (shm.tenant t).processes) : ProcessesExact r.2 := by
  intro u hu hact
  have htenant := hdone.tenant hu
  by_cases hut : u = t
  · subst hut
    rw [hdone.self, hstatus] at hact
    apply (h u hu hact).congr
    · rw [hdone.self, hcount]
    · rw [hdone.self, hlist]
    · exact entriesOf_congr hdone.pidMappings u
    · intro i _
      rw [mappedPid_congr hdone.pidMappings]
  · rw [if_neg hut] at htenant
    rw [htenant] at hact
    apply (h u hu hact).congr
    · rw [htenant]
    · rw [htenant]
    · exact entriesOf_congr hdone.pidMappings u
    · intro i _
      rw [mappedPid_congr hdone.pidMappings]

end Success

/-! ## Lists of processes -/

theorem processCount_addProcess (tenant : TenantInfo) (p : Pid) :
    (tenant.addProcess p).processCount = tenant.processCount := by
  unfold TenantInfo.addProcess
  split <;> rfl

/-- A process that is not listed is stored in the first entry that is zero. -/
theorem processes_addProcess {tenant : TenantInfo} {p : Pid} {j : Fin MAX_PROCESSES}
    (hnew : SlotTable.slotOf tenant.processes p = none)
    (hj : SlotTable.slotFor tenant.processes 0 p = some j) :
    (tenant.addProcess p).processes = Function.update tenant.processes j p := by
  rw [SlotTable.slotFor, hnew, Option.none_or] at hj
  unfold TenantInfo.addProcess
  rw [hj]

/-- A listed process is swept from its entry. -/
theorem processes_removeProcess {tenant : TenantInfo} {p : Pid} {j : Fin MAX_PROCESSES}
    (hj : SlotTable.slotOf tenant.processes p = some j) :
    (tenant.removeProcess p).processes = SlotTable.sweep tenant.processes 0 fun i => i = j := by
  unfold TenantInfo.removeProcess SlotTable.sweep
  rw [hj]
  funext i
  by_cases hij : i = j
  · rw [if_pos hij, hij]
    exact Function.update_self ..
  · rw [if_neg hij]
    exact Function.update_of_ne hij ..

theorem processes_dropProcessCount (tenant : TenantInfo) :
    tenant.dropProcessCount.processes = tenant.processes := by
  unfold TenantInfo.dropProcessCount
  split <;> rfl

theorem processCount_removeProcess (tenant : TenantInfo) (p : Pid) :
    (tenant.removeProcess p).processCount = tenant.processCount := by
  unfold TenantInfo.removeProcess
  split <;> rfl

theorem processCount_dropProcessCount {tenant : TenantInfo} (h : 0 < tenant.processCount) :
    tenant.dropProcessCount.processCount = tenant.processCount - 1 := by
  unfold TenantInfo.dropProcessCount
  rw [if_pos h]

/-! ## Mapping slots -/

section Slots

variable {shm shm' : TenantShm} {i : Fin MAX_PROCESSES} {m : PidTenantMapping}

theorem entriesOf_update_self (h : shm'.pidMappings = Function.update shm.pidMappings i m)
    {u : UInt32} (hu : m.tenantId = u) : entriesOf shm' u = insert i (entriesOf shm u) := by
  ext j
  rw [Finset.mem_insert, mem_entriesOf, mem_entriesOf, mappedTenant_of_update h]
  by_cases hji : j = i
  · rw [hji, Function.update_self]
    exact iff_of_true hu (Or.inl rfl)
  · rw [Function.update_of_ne hji, or_iff_right hji]

theorem entriesOf_update_of_ne (h : shm'.pidMappings = Function.update shm.pidMappings i m)
    {u : UInt32} (hu : m.tenantId ≠ u) : entriesOf shm' u = (entriesOf shm u).erase i := by
  ext j
  rw [Finset.mem_erase, mem_entriesOf, mem_entriesOf, mappedTenant_of_update h]
  by_cases hji : j = i
  · rw [hji, Function.update_self]
    exact iff_of_false hu (fun hj => hj.1 rfl)
  · rw [Function.update_of_ne hji, and_iff_right hji]

/-- A tenant whose slots do not include `i`, before and after. -/
theorem entriesOf_update_of_notMem (h : shm'.pidMappings = Function.update shm.pidMappings i m)
    {u : UInt32} (hu : m.tenantId ≠ u) (hi : mappedTenant shm i ≠ u) :
    entriesOf shm' u = entriesOf shm u := by
  rw [entriesOf_update_of_ne h hu, Finset.erase_eq_of_notMem]
  exact fun hmem => hi (mem_entriesOf.mp hmem)

theorem mappedPid_update_of_ne (h : shm'.pidMappings = Function.update shm.pidMappings i m)
    {j : Fin MAX_PROCESSES} (hji : j ≠ i) : shm'.mappedPid j = shm.mappedPid j := by
  rw [mappedPid_of_update h, Function.update_of_ne hji]

/-- The sweep of a deletion keeps the slots of the other tenants. -/
theorem entriesOf_of_cleared {t u : UInt32}
    (h : shm'.pidMappings = fun i => clearedMapping t (shm.pidMappings i)) (hut : u ≠ t)
    (hu : u ≠ 0) : entriesOf shm' u = entriesOf shm u := by
  ext i
  rw [mem_entriesOf, mem_entriesOf]
  by_cases hi : mappedTenant shm i = t
  · have hcleared : mappedTenant shm' i = 0 := by
      unfold mappedTenant
      rw [congrFun h i, clearedMapping_of_eq hi]
    rw [hcleared, hi]
    exact iff_of_false hu.symm hut.symm
  · rw [mappedTenant_of_cleared h i hi]

/-- The number of slots of a tenant is below 1024 while a slot belongs to no tenant. -/
theorem card_entriesOf_lt {t : UInt32} (hi : mappedTenant shm i ≠ t) :
    (entriesOf shm t).card < MAX_PROCESSES := by
  have hsub : entriesOf shm t ⊆ Finset.univ.erase i := by
    intro j hj
    apply Finset.mem_erase.mpr ⟨?_, Finset.mem_univ j⟩
    rintro rfl
    exact hi (mem_entriesOf.mp hj)
  calc (entriesOf shm t).card ≤ (Finset.univ.erase i).card := Finset.card_le_card hsub
    _ < MAX_PROCESSES := by
      rw [Finset.card_erase_of_mem (Finset.mem_univ i), Finset.card_univ, Fintype.card_fin]
      decide

end Slots

/-! ## One call -/

section Calls

variable {shm : TenantShm} {p : Pid} {t : UInt32} {i : Fin MAX_PROCESSES} {now : TimeT}
variable {active : UInt32} {r : Bool × TenantShm}

/-- A listed process has a slot of the tenant, and conversely. -/
theorem Accounted.mem_iff (h : Accounted shm t) (hp : p ≠ 0) :
    (∃ j, (shm.tenant t).processes j = p) ↔ ∃ i, mappedTenant shm i = t ∧ shm.mappedPid i = p := by
  have hkeys : p ∈ SlotTable.keys (shm.tenant t).processes 0 ↔
      p ∈ (entriesOf shm t).image shm.mappedPid := by rw [h.listed]
  rw [SlotTable.mem_keys, and_iff_right hp, Finset.mem_image] at hkeys
  rw [hkeys]
  simp only [mem_entriesOf]

/-- A binding of a process that is not bound adds it to its tenant. -/
theorem Accounted.bindNew (h : Accounted shm t) (hw : WellMapped shm) (ht : t ≠ 0) (hp : p ≠ 0)
    (hnone : SlotTable.slotOf shm.mappedPid p = none)
    (hi : SlotTable.slotFor shm.mappedPid 0 p = some i)
    (hdone : Done shm t (boundTenant (shm.tenant t) true p now)
      (Function.update shm.pidMappings i ⟨p, t, now⟩) active r) : Accounted r.2 t := by
  have hno := SlotTable.slotOf_eq_none_iff.mp hnone
  have hfree : shm.mappedPid i = 0 := SlotTable.free_of_slotFor hi hnone
  have hti : mappedTenant shm i ≠ t := by
    unfold mappedTenant
    rw [(hw.valid i).free_iff.mp hfree]
    exact ht.symm
  have hmem : i ∉ entriesOf shm t := fun hmem => hti (mem_entriesOf.mp hmem)
  have hcard := card_entriesOf_lt hti
  -- the tenant does not list the process yet, and its list has room
  have hunlisted : SlotTable.slotOf (shm.tenant t).processes p = none := by
    apply SlotTable.slotOf_eq_none_iff.mpr
    intro j hj
    obtain ⟨k, -, hk⟩ := (h.mem_iff hp).mp ⟨j, hj⟩
    exact hno k hk
  obtain ⟨j, hj⟩ := (SlotTable.exists_slotFor_iff h.once hp).mpr (Or.inr (by
    rw [h.listed]
    exact lt_of_le_of_lt Finset.card_image_le hcard))
  have hlist : (r.2.tenant t).processes = Function.update (shm.tenant t).processes j p := by
    rw [hdone.self, boundTenant, if_pos rfl]
    exact processes_addProcess hunlisted hj
  have hcount : (r.2.tenant t).processCount = (shm.tenant t).processCount + 1 := by
    rw [hdone.self, boundTenant, if_pos rfl]
    exact processCount_addProcess _ p
  have hentries : entriesOf r.2 t = insert i (entriesOf shm t) :=
    entriesOf_update_self hdone.pidMappings rfl
  refine ⟨?_, ?_, ?_⟩
  · rw [hcount, hentries, Finset.card_insert_of_notMem hmem]
    exact Counter.toNat_succ h.count (lt_trans (Nat.add_lt_add_right hcard 1) (by decide))
  · have himage : (entriesOf shm t).image r.2.mappedPid = (entriesOf shm t).image shm.mappedPid := by
      apply Finset.image_congr
      intro k hk
      apply mappedPid_update_of_ne hdone.pidMappings
      rintro rfl
      exact hmem hk
    rw [hlist, SlotTable.keys_store hj hp, h.listed, hentries, Finset.image_insert, himage,
      mappedPid_of_update hdone.pidMappings, Function.update_self]
  · rw [hlist]
    exact SlotTable.distinct_update h.once hj

/-- Unbinding a process removes it from its tenant. -/
theorem Accounted.unbind (h : Accounted shm (mappedTenant shm i)) (hw : WellMapped shm)
    (hp : p ≠ 0) (hi : SlotTable.slotOf shm.mappedPid p = some i)
    (hdone : Done shm (mappedTenant shm i) (unboundTenant (shm.tenant (mappedTenant shm i)) p)
      (Function.update shm.pidMappings i (freedMapping (shm.pidMappings i))) active r) :
    Accounted r.2 (mappedTenant shm i) := by
  have hpid : shm.mappedPid i = p := SlotTable.key_of_slotOf hi
  have hused : shm.mappedPid i ≠ 0 := by rwa [hpid]
  have h0 : mappedTenant shm i ≠ 0 := hw.mapped_ne_zero hused
  have hmem : i ∈ entriesOf shm (mappedTenant shm i) := mem_entriesOf.mpr rfl
  obtain ⟨j', hj'⟩ := (h.mem_iff hp).mpr ⟨i, rfl, hpid⟩
  obtain ⟨j, hj⟩ := SlotTable.exists_slotOf_of_key hj'
  have hcard : (shm.tenant (mappedTenant shm i)).processCount.toNat =
      ((entriesOf shm (mappedTenant shm i)).erase i).card + 1 :=
    h.count.trans (Finset.card_erase_add_one hmem).symm
  have hlist : (r.2.tenant (mappedTenant shm i)).processes =
      SlotTable.sweep (shm.tenant (mappedTenant shm i)).processes 0 fun k => k = j := by
    rw [hdone.self, unboundTenant, processes_dropProcessCount, processes_removeProcess hj]
  have hcount : (r.2.tenant (mappedTenant shm i)).processCount =
      (shm.tenant (mappedTenant shm i)).processCount - 1 := by
    rw [hdone.self, unboundTenant, processCount_dropProcessCount, processCount_removeProcess]
    rw [processCount_removeProcess]
    exact Counter.pos_of_toNat hcard
  have hentries : entriesOf r.2 (mappedTenant shm i) = (entriesOf shm (mappedTenant shm i)).erase i :=
    entriesOf_update_of_ne hdone.pidMappings h0.symm
  refine ⟨?_, ?_, ?_⟩
  · rw [hcount, hentries]
    exact Counter.toNat_pred hcard
  · have himage : ((entriesOf shm (mappedTenant shm i)).erase i).image r.2.mappedPid =
        ((entriesOf shm (mappedTenant shm i)).erase i).image shm.mappedPid := by
      apply Finset.image_congr
      intro k hk
      exact mappedPid_update_of_ne hdone.pidMappings (Finset.ne_of_mem_erase hk)
    rw [hlist, SlotTable.keys_sweep_slot h.once (SlotTable.key_of_slotOf hj) hp, h.listed, hentries,
      himage, SlotTable.image_erase_slot hw.once hused, hpid]
  · rw [hlist]
    exact SlotTable.distinct_sweep h.once

/-- A tenant that is neither the written one nor one of slot `i` keeps its account. -/
theorem Accounted.other {info : TenantInfo} {m : PidTenantMapping} {u : UInt32}
    (h : Accounted shm u) (hdone : Done shm t info (Function.update shm.pidMappings i m) active r)
    (hu : u.toNat < MAX_TENANTS) (hut : u ≠ t) (hm : m.tenantId ≠ u)
    (hi : mappedTenant shm i ≠ u) : Accounted r.2 u := by
  have htenant := hdone.other u hu hut
  apply h.congr
  · rw [htenant]
  · rw [htenant]
  · exact entriesOf_update_of_notMem hdone.pidMappings hm hi
  · intro k hk
    apply mappedPid_update_of_ne hdone.pidMappings
    rintro rfl
    exact hi (mem_entriesOf.mp hk)

end Calls

section Steps

variable {shm : TenantShm}

section Written

variable {t u : UInt32} {info : TenantInfo} {m : PidTenantMapping} {i : Fin MAX_PROCESSES}
variable {active : UInt32} {r : Bool × TenantShm}

/-- The same when the accounts are exact and tenant `u` is ACTIVE afterwards. -/
theorem ProcessesExact.other (h : ProcessesExact shm)
    (hdone : Done shm t info (Function.update shm.pidMappings i m) active r)
    (hu : u.toNat < MAX_TENANTS) (hut : u ≠ t) (hact : (r.2.tenant u).status = .active)
    (hm : m.tenantId ≠ u) (hi : mappedTenant shm i ≠ u) : Accounted r.2 u := by
  rw [hdone.other u hu hut] at hact
  exact (h u hu hact).other hdone hu hut hm hi

/-- An ACTIVE tenant that was not written is not the default tenant. -/
theorem WellMapped.ne_zero_of_other (hw : WellMapped shm)
    (hdone : Done shm t info (Function.update shm.pidMappings i m) active r)
    (hu : u.toNat < MAX_TENANTS) (hut : u ≠ t) (hact : (r.2.tenant u).status = .active) :
    u ≠ 0 := by
  rw [hdone.other u hu hut] at hact
  exact hw.ne_zero (by rw [hact]; decide)

end Written

theorem ProcessesExact.create (h : ProcessesExact shm) (hinv : AccountingInv shm) (t : UInt32)
    (name : Option (List UInt8)) (quota : Option TenantQuota) (now : TimeT) :
    ProcessesExact (tenantCreate shm t name quota now).2 := by
  rcases tenantCreate_cases shm t name quota now with ⟨hmay, hdone⟩ | ⟨-, href⟩
  · intro u hu hact
    have htenant := hdone.tenant hu
    have hentries := entriesOf_congr hdone.pidMappings u
    have hpid := mappedPid_congr hdone.pidMappings
    by_cases hut : u = t
    · -- nothing is mapped to a tenant that was not in use
      subst hut
      have hnone : entriesOf shm u = ∅ := by
        apply Finset.eq_empty_of_forall_notMem
        intro i hi
        have hiu := mem_entriesOf.mp hi
        have hused := (hinv.consistent.mapped i (hinv.pid_ne_zero (by rw [hiu]; exact hmay.1))).2.2
        rw [hiu] at hused
        exact hused hmay.2.2
      rw [if_pos rfl] at htenant
      refine ⟨?_, ?_, ?_⟩
      · rw [htenant, hentries, hnone]
        rfl
      · rw [htenant, hentries, hnone, Finset.image_empty]
        apply Finset.eq_empty_of_forall_notMem
        intro q hq
        obtain ⟨hq0, j, hj⟩ := SlotTable.mem_keys.mp hq
        exact hq0 hj.symm
      · rw [htenant]
        exact SlotTable.distinct_const
    · rw [if_neg hut] at htenant
      rw [htenant] at hact
      apply (h u hu hact).congr
      · rw [htenant]
      · rw [htenant]
      · exact hentries
      · intro i _
        rw [hpid]
  · exact h.of_same href.toSameRecords

theorem ProcessesExact.delete (h : ProcessesExact shm) (hinv : AccountingInv shm) (t : UInt32)
    (now : TimeT) : ProcessesExact (tenantDelete shm t now).2 := by
  rcases tenantDelete_cases shm t now with ⟨-, hdone⟩ | ⟨-, href⟩
  · intro u hu hact
    have hut : u ≠ t := by
      rintro rfl
      rw [hdone.self] at hact
      exact TenantStatus.noConfusion hact
    have htenant := hdone.other u hu hut
    rw [htenant] at hact
    have h0 : u ≠ 0 := hinv.ne_zero (by rw [hact]; decide)
    apply (h u hu hact).congr
    · rw [htenant]
    · rw [htenant]
    · exact entriesOf_of_cleared hdone.pidMappings hut h0
    · intro i hi
      have hkept : mappedTenant shm i ≠ t := by
        rw [mem_entriesOf.mp hi]
        exact hut
      rw [mappedPid_of_cleared hdone.pidMappings]
      exact if_neg hkept
  · exact h.of_same href.toSameRecords

theorem ProcessesExact.unbind (h : ProcessesExact shm) (hinv : AccountingInv shm) {p : Pid}
    (hp : p ≠ 0) (now : TimeT) : ProcessesExact (tenantUnbindProcess shm p now).2 := by
  rcases tenantUnbind_cases shm p now hinv.inRange with ⟨i, hi, hdone⟩ | ⟨-, href⟩
  · have hpid : shm.mappedPid i ≠ 0 := by
      rw [SlotTable.key_of_slotOf hi]
      exact hp
    intro u hu hact
    by_cases hut : u = mappedTenant shm i
    · subst hut
      exact (h _ hu (hinv.mapped_active hpid)).unbind hinv.toWellMapped hp hi hdone
    · have h0 := hinv.ne_zero_of_other hdone hu hut hact
      exact h.other hdone hu hut hact h0.symm (Ne.symm hut)
  · exact h.of_same href.toSameRecords

section Bind

variable {p : Pid} {t : UInt32} {i : Fin MAX_PROCESSES} {now : TimeT} {active : UInt32}
variable {r : Bool × TenantShm}

/-- Binding a process that is not bound. -/
theorem ProcessesExact.bindNew (h : ProcessesExact shm) (hinv : AccountingInv shm) (hp : p ≠ 0)
    (hactive : ActiveTenant shm t) (hslot : SlotTable.slotOf shm.mappedPid p = none)
    (hi : SlotTable.slotFor shm.mappedPid 0 p = some i)
    (hdone : Done shm t (boundTenant (shm.tenant t) true p now)
      (Function.update shm.pidMappings i ⟨p, t, now⟩) active r) : ProcessesExact r.2 := by
  have hfree : mappedTenant shm i = 0 :=
    (hinv.valid i).free_iff.mp (SlotTable.free_of_slotFor hi hslot)
  intro u hu hact
  by_cases hut : u = t
  · subst hut
    exact (h u hu hactive.2).bindNew hinv.toWellMapped (hinv.ne_zero hactive.inUse) hp hslot hi
      hdone
  · have hu0 := hinv.ne_zero_of_other hdone hu hut hact
    exact h.other hdone hu hut hact (Ne.symm hut) (by rw [hfree]; exact hu0.symm)

/-- Binding a process to the tenant that it has. -/
theorem ProcessesExact.bindSame (h : ProcessesExact shm) (hpid : shm.mappedPid i = p)
    (ht : mappedTenant shm i = t)
    (hdone : Done shm t (boundTenant (shm.tenant t) false p now)
      (Function.update shm.pidMappings i ⟨p, t, now⟩) active r) : ProcessesExact r.2 := by
  have hmap : mappedTenant r.2 = mappedTenant shm := by
    rw [mappedTenant_of_update hdone.pidMappings, ← ht, Function.update_eq_self]
  have hpids : r.2.mappedPid = shm.mappedPid := by
    rw [mappedPid_of_update hdone.pidMappings, ← hpid, Function.update_eq_self]
  intro u hu hact
  have hentries : entriesOf r.2 u = entriesOf shm u := by
    unfold entriesOf
    rw [hmap]
  have hrecord : (r.2.tenant u).status = (shm.tenant u).status ∧
      (r.2.tenant u).processCount = (shm.tenant u).processCount ∧
      (r.2.tenant u).processes = (shm.tenant u).processes := by
    rw [hdone.tenant hu]
    by_cases hut : u = t
    · rw [if_pos hut, hut]
      exact ⟨rfl, rfl, rfl⟩
    · rw [if_neg hut]
      exact ⟨rfl, rfl, rfl⟩
  rw [hrecord.1] at hact
  apply (h u hu hact).congr hrecord.2.1 hrecord.2.2 hentries
  intro j _
  rw [hpids]

/-- A moved process is in one slot more of the new tenant, which has not counted it. -/
theorem not_processesExact_bindMoved (h : ProcessesExact shm) (hactive : ActiveTenant shm t)
    (hne : mappedTenant shm i ≠ t)
    (hdone : Done shm t (boundTenant (shm.tenant t) false p now)
      (Function.update shm.pidMappings i ⟨p, t, now⟩) active r) : ¬ ProcessesExact r.2 := by
  intro h'
  have hbefore := (h t hactive.1 hactive.2).count
  have hafter := (h' t hactive.1 (by rw [hdone.self]; exact hactive.2)).count
  have hentries : entriesOf r.2 t = insert i (entriesOf shm t) :=
    entriesOf_update_self hdone.pidMappings rfl
  have hsame : (boundTenant (shm.tenant t) false p now).processCount =
      (shm.tenant t).processCount := rfl
  rw [hdone.self, hentries, hsame, hbefore,
    Finset.card_insert_of_notMem (fun hmem => hne (mem_entriesOf.mp hmem))] at hafter
  omega

end Bind

/-- A binding keeps the accounts exactly when it does not move a bound process. -/
theorem processesExact_bind_iff (h : ProcessesExact shm) (hinv : AccountingInv shm) {p : Pid}
    (hp : p ≠ 0) (t : UInt32) (now : TimeT) :
    ProcessesExact (tenantBindProcess shm p t now).2 ↔
      (ActiveTenant shm t → ∀ u, shm.tenantOf p = some u → u = t) := by
  rcases tenantBind_cases shm p t now with ⟨i, ⟨hactive, -⟩, hi, hdone⟩ | ⟨hno, href⟩
  · cases hslot : SlotTable.slotOf shm.mappedPid p with
    | none =>
      rw [hslot] at hdone
      refine iff_of_true (h.bindNew hinv hp hactive hslot hi hdone) ?_
      intro _ u hu
      rw [TenantShm.tenantOf, hslot, Option.map_none] at hu
      exact absurd hu.symm (Option.some_ne_none u)
    | some k =>
      have hki : k = i := by
        rw [SlotTable.slotFor, hslot, Option.some_or] at hi
        exact Option.some.inj hi
      subst hki
      rw [hslot] at hdone
      have hpid : shm.mappedPid k = p := SlotTable.key_of_slotOf hslot
      have hof : shm.tenantOf p = some (mappedTenant shm k) :=
        tenantOf_of_slot hinv.once hp hpid
      constructor
      · intro h' _ u hu
        rw [hof] at hu
        obtain rfl := Option.some.inj hu
        by_contra hne
        exact not_processesExact_bindMoved h hactive hne hdone h'
      · intro hc
        exact h.bindSame hpid (hc hactive _ hof) hdone
  · refine iff_of_true (h.of_same href.toSameRecords) ?_
    intro hactive u hu
    refine absurd ⟨hactive, ?_⟩ hno
    exact (SlotTable.exists_slotFor_iff hinv.once hp).mpr
      (Or.inl ((mem_boundPids_iff hp).mpr ⟨u, hu⟩))

/-- One call keeps the accounts exactly when it does not move a bound process. -/
theorem processesExact_step_iff (hinv : AccountingInv shm) (h : ProcessesExact shm)
    {e : TimeT × StoreCall} (he : ProcessCall e.2) :
    ProcessesExact (shm.step e) ↔ KeepsBinding shm e := by
  obtain ⟨now, c⟩ := e
  cases c with
  | lookup p =>
    exact iff_of_true (h.of_same (tenantGetProcessTenant_same shm p now)) (by rintro q t u ⟨⟩)
  | op o =>
    cases o with
    | create t name quota =>
      exact iff_of_true (h.create hinv t name quota now) (by rintro q u v ⟨⟩)
    | delete t => exact iff_of_true (h.delete hinv t now) (by rintro q u v ⟨⟩)
    | setStatus t st => exact he.elim
    | updateQuota t quota =>
      refine iff_of_true ?_ (by rintro q u v ⟨⟩)
      rcases tenantUpdateQuota_cases shm t quota now with ⟨-, hdone⟩ | ⟨-, href⟩
      · exact hdone.processesExact h rfl rfl rfl
      · exact h.of_same href.toSameRecords
    | bind p t =>
      apply (processesExact_bind_iff h hinv he t now).trans
      constructor
      · rintro hc q u v ⟨⟩ hactive hv
        exact hc hactive v hv
      · intro hc hactive u hu
        exact hc p t u rfl hactive hu
    | unbind p => exact iff_of_true (h.unbind hinv he now) (by rintro q u v ⟨⟩)
    | updateUsage t usage =>
      refine iff_of_true ?_ (by rintro q u v ⟨⟩)
      rcases tenantUpdateResourceUsage_cases shm t usage now with ⟨-, hdone⟩ | ⟨-, href⟩
      · exact hdone.processesExact h rfl rfl rfl
      · exact h.of_same href.toSameRecords

end Steps

/-! ## Runs -/

theorem ProcessCall.namesProcess {c : StoreCall} (h : ProcessCall c) : c.NamesProcess := by
  cases c with
  | lookup p => exact h
  | op o => cases o <;> first | exact h | trivial

theorem ProcessCall.keepsInUse {shm : TenantShm} {e : TimeT × StoreCall} (h : ProcessCall e.2) :
    KeepsInUse shm e := by
  intro t ht
  rw [ht] at h
  exact h.elim

/-- No call of such a run suspends a tenant. -/
theorem AccountingInv.step {shm : TenantShm} (h : AccountingInv shm) {e : TimeT × StoreCall}
    (he : ProcessCall e.2) : AccountingInv (shm.step e) := by
  refine ⟨h.toWellMapped.exec e.1 he.namesProcess,
    (lifecycleConsistent_step_iff h.toWellMapped h.consistent he.namesProcess).mpr he.keepsInUse, ?_⟩
  intro u hu
  obtain ⟨now, c⟩ := e
  have hwrite : ∀ {t info maps active r}, Done shm t info maps active r →
      info.status ≠ .suspended → (r.2.tenant u).status ≠ .suspended := by
    intro t info maps active r hdone hinfo
    rw [hdone.tenant hu]
    by_cases hut : u = t
    · rwa [if_pos hut]
    · rw [if_neg hut]
      exact h.notSuspended u hu
  have hsame : ∀ {r}, Refused shm r → (r.2.tenant u).status ≠ .suspended := by
    intro r href
    rw [href.tenant]
    exact h.notSuspended u hu
  cases c with
  | lookup p => exact h.notSuspended u hu
  | op o =>
    cases o with
    | create t name quota =>
      rcases tenantCreate_cases shm t name quota now with ⟨-, hdone⟩ | ⟨-, href⟩
      · exact hwrite hdone (by simp [createdTenant])
      · exact hsame href
    | delete t =>
      rcases tenantDelete_cases shm t now with ⟨-, hdone⟩ | ⟨-, href⟩
      · exact hwrite hdone (by simp)
      · exact hsame href
    | setStatus t st => exact he.elim
    | updateQuota t quota =>
      rcases tenantUpdateQuota_cases shm t quota now with ⟨-, hdone⟩ | ⟨-, href⟩
      · exact hwrite hdone (h.notSuspended t hdone.inRange)
      · exact hsame href
    | bind p t =>
      rcases tenantBind_cases shm p t now with ⟨i, -, -, hdone⟩ | ⟨-, href⟩
      · apply hwrite hdone
        rw [status_boundTenant]
        exact h.notSuspended t hdone.inRange
      · exact hsame href
    | unbind p =>
      rcases tenantUnbind_cases shm p now h.inRange with ⟨i, -, hdone⟩ | ⟨-, href⟩
      · apply hwrite hdone
        rw [status_unboundTenant]
        exact h.notSuspended _ hdone.inRange
      · exact hsame href
    | updateUsage t usage =>
      rcases tenantUpdateResourceUsage_cases shm t usage now with ⟨-, hdone⟩ | ⟨-, href⟩
      · exact hwrite hdone (h.notSuspended t hdone.inRange)
      · exact hsame href

theorem accountingInv_fresh (now : TimeT) : AccountingInv (.fresh now) :=
  ⟨wellMapped_fresh now, lifecycleConsistent_fresh now, fun _ _ h => TenantStatus.noConfusion h⟩

theorem processesExact_fresh (now : TimeT) : ProcessesExact (.fresh now) :=
  fun _ _ h => TenantStatus.noConfusion h

/-- The count and the list of every ACTIVE tenant are those of its mapping slots in every
state of a run exactly when no call of the run moves a bound process to another tenant. -/
theorem processAccounting_iff (start : TimeT) (calls : List (TimeT × StoreCall))
    (hcalls : ∀ e ∈ calls, ProcessCall e.2) :
    Always TenantShm.step ProcessesExact (.fresh start) calls ↔
      Along TenantShm.step KeepsBinding (.fresh start) calls :=
  always_iff_along (I := AccountingInv) (fun _ _ hinv he => hinv.step he)
    (fun _ _ hinv he h => processesExact_step_iff hinv h he) (accountingInv_fresh start)
    (processesExact_fresh start) (along_of_forall hcalls _)

theorem processAccounting_unmoved :
    Always TenantShm.step ProcessesExact (.fresh 0)
      [(0, .op (.create 1 none none)), (1, .op (.unbind 7)), (2, .op (.bind 7 1)),
        (3, .op (.delete 1))] := by
  refine (processAccounting_iff 0 _ ?_).mpr ?_
  · simp [ProcessCall, StoreCall.NamesProcess]
  · refine ⟨by rintro p t u ⟨⟩, by rintro p t u ⟨⟩, ?_, by rintro p t u ⟨⟩, trivial⟩
    rintro p t u ⟨⟩ - hu
    have hfree : TenantShm.tenantOf (TenantShm.step (TenantShm.step (.fresh 0)
        (0, .op (.create 1 none none))) (1, .op (.unbind 7))) 7 = none := by decide +kernel
    rw [hfree] at hu
    exact absurd hu.symm (Option.some_ne_none u)

/-- Process 7 is moved from tenant 1 to tenant 2, which does not count it. -/
theorem processAccounting_rebind :
    ¬ Always TenantShm.step ProcessesExact (.fresh 0)
      [(0, .op (.create 1 none none)), (1, .op (.create 2 none none)), (2, .op (.bind 7 1)),
        (3, .op (.bind 7 2))] := by
  intro h
  have hcount : ∀ shm, ProcessesExact shm → (shm.tenant 2).status = .active →
      (shm.tenant 2).processCount.toNat = (entriesOf shm 2).card :=
    fun _ hp hact => (hp 2 (by decide) hact).count
  have hlast := hcount _ h.last
  revert hlast
  decide +kernel

end RdmaIntercept.Analysis
