import RdmaIntercept.Analysis.TenantShmSpec

/-!
# What the hooks do

One statement for each outcome of a hook call: a refused creation and a driver failure
leave every ledger as it was (`Untouched`), a success books one unit in the ledgers of
the process and of its tenant (`Booked`).  The runs below argue from these statements
only and unfold no hook.
-/

set_option autoImplicit false

namespace RdmaIntercept.Analysis

open RdmaIntercept.Library RdmaIntercept.Model

/-- Nothing has changed but the marks that a lock leaves in the tenant segment. -/
structure Untouched (s s' : System) : Prop where
  records : SameRecords s.tenantShm s'.tenantShm
  shm : s'.shm = s.shm
  proc : s'.proc = s.proc
  wallClock : s'.wallClock = s.wallClock
  monoClock : s'.monoClock = s.monoClock

theorem Untouched.refl (s : System) : Untouched s s := ⟨.refl _, rfl, rfl, rfl, rfl⟩

theorem Untouched.trans {a b c : System} (h : Untouched a b) (h' : Untouched b c) :
    Untouched a c :=
  ⟨h.records.trans h'.records, h'.shm.trans h.shm, h'.proc.trans h.proc,
    h'.wallClock.trans h.wallClock, h'.monoClock.trans h.monoClock⟩

/-- A call that only reads the tenant segment. -/
theorem untouched_of_sameRecords {s : System} {shm : TenantShm}
    (h : SameRecords s.tenantShm shm) : Untouched s { s with tenantShm := shm } :=
  ⟨h, rfl, rfl, rfl, rfl⟩

theorem Untouched.usage {s s' : System} (h : Untouched s s') (t : UInt32) :
    s'.usage t = s.usage t := by
  unfold System.usage
  rw [h.records.tenant]

theorem Untouched.status {s s' : System} (h : Untouched s s') (t : UInt32) :
    s'.status t = s.status t := by
  unfold System.status
  rw [h.records.tenant]

theorem Untouched.quota {s s' : System} (h : Untouched s s') (t : UInt32) :
    s'.quota t = s.quota t := by
  unfold System.quota
  rw [h.records.tenant]

theorem setProc_self (s : System) (p : Pid) (st : ProcState) : (s.setProc p st).proc p = st :=
  Function.update_self _ _ _

theorem setProc_proc (s : System) (p : Pid) : s.setProc p (s.proc p) = s := by
  rw [System.setProc, Function.update_eq_self]

theorem setProc_of_ne {s : System} {p q : Pid} {st : ProcState} (h : q ≠ p) :
    (s.setProc p st).proc q = s.proc q := Function.update_of_ne h _ _

/-! ## Calls of the tenant API, read on the system -/

theorem TenantsKept.sysUsage {s : System} {shm : TenantShm} (h : TenantsKept s.tenantShm shm)
    (t : UInt32) : ({ s with tenantShm := shm } : System).usage t = s.usage t := h.usage t

theorem TenantsKept.sysStatus {s : System} {shm : TenantShm} (h : TenantsKept s.tenantShm shm)
    (t : UInt32) : ({ s with tenantShm := shm } : System).status t = s.status t := h.status t

/-! ## The tenant of a process -/

theorem currentTenant_eq (s : System) (p : Pid) :
    currentTenant s p =
      if (s.proc p).tenantInitialized then (s.tenantShm.tenantOf p).getD 0 else 0 := by
  unfold currentTenant getCurrentTenantId
  cases hi : (s.proc p).tenantInitialized with
  | false => simp
  | true =>
    have hfst := tenantGetProcessTenant_fst s.tenantShm p s.wallClock
    generalize tenantGetProcessTenant s.tenantShm p s.wallClock = r at hfst ⊢
    obtain ⟨o, shm⟩ := r
    cases o with
    | none => simp [← hfst]
    | some t => simp [← hfst]

theorem getCurrentTenantId_untouched (s : System) (p : Pid) :
    Untouched s (getCurrentTenantId s p).2 := by
  unfold getCurrentTenantId
  cases hi : (s.proc p).tenantInitialized with
  | false => exact .refl s
  | true =>
    have hsame := tenantGetProcessTenant_same s.tenantShm p s.wallClock
    simp only [Bool.not_true, Bool.false_eq_true, if_false]
    generalize tenantGetProcessTenant s.tenantShm p s.wallClock = r at hsame ⊢
    obtain ⟨o, shm⟩ := r
    cases o with
    | none => exact untouched_of_sameRecords hsame
    | some t => exact untouched_of_sameRecords hsame

/-- The tenant of a process depends on the mappings and on one flag of the process. -/
theorem currentTenant_congr {s s' : System} {p : Pid}
    (hmap : s'.tenantShm.pidMappings = s.tenantShm.pidMappings)
    (hinit : (s'.proc p).tenantInitialized = (s.proc p).tenantInitialized) :
    currentTenant s' p = currentTenant s p := by
  rw [currentTenant_eq, currentTenant_eq, hinit, tenantOf_congr hmap]

theorem Untouched.currentTenant {s s' : System} (h : Untouched s s') (p : Pid) :
    currentTenant s' p = currentTenant s p :=
  currentTenant_congr h.records.pidMappings (by rw [h.proc])

/-- A process that is charged to a tenant has the tenant segment. -/
theorem tenantInitialized_of_currentTenant {s : System} {p : Pid} (h : currentTenant s p ≠ 0) :
    (s.proc p).tenantInitialized = true := by
  by_contra hi
  rw [currentTenant_eq, if_neg hi] at h
  exact h rfl

/-! ## The admission checks -/

/-- `check_tenant_qp_limit` lets a creation charged to `t` pass. -/
def QpQuotaAllows (s : System) (p : Pid) (t : UInt32) : Prop :=
  t = 0 ∨ (s.proc p).tenantInitialized = false ∨
    (t.toNat < MAX_TENANTS ∧ s.status t ≠ .inactive ∧
      (s.usage t).qpCount.toUInt32 < (s.quota t).maxQpPerTenant)

/-- `check_tenant_mr_limit_inline` lets a registration of `length` bytes charged to `t`
pass. -/
def MrQuotaAllows (s : System) (p : Pid) (t : UInt32) (length : UInt64) : Prop :=
  t = 0 ∨ (s.proc p).tenantInitialized = false ∨
    (t.toNat < MAX_TENANTS ∧ s.status t ≠ .inactive ∧
      (s.usage t).mrCount.toUInt32 < (s.quota t).maxMrPerTenant ∧
      (0 < (s.quota t).maxMemoryPerTenant →
        (s.usage t).memoryUsed + length ≤ (s.quota t).maxMemoryPerTenant))

/-- What the two quota checks share: the default tenant passes, and the record of another
tenant decides. -/
def quotaCheck (s : System) (p : Pid) (t : UInt32) (within : TenantInfo → Bool) :
    Bool × System :=
  if t = 0 ∨ !(s.proc p).tenantInitialized then (true, s)
  else
    match tenantGetInfo s.tenantShm t s.wallClock with
    | (none, shm) => (false, { s with tenantShm := shm })
    | (some info, shm) => (within info, { s with tenantShm := shm })

theorem quotaCheck_untouched (s : System) (p : Pid) (t : UInt32) (within : TenantInfo → Bool) :
    Untouched s (quotaCheck s p t within).2 := by
  unfold quotaCheck
  split
  · exact .refl s
  · have hsame := tenantGetInfo_same s.tenantShm t s.wallClock
    generalize tenantGetInfo s.tenantShm t s.wallClock = r at hsame ⊢
    obtain ⟨o, shm⟩ := r
    cases o with
    | none => exact untouched_of_sameRecords hsame
    | some info => exact untouched_of_sameRecords hsame

theorem quotaCheck_iff (s : System) (p : Pid) (t : UInt32) (within : TenantInfo → Bool) :
    (quotaCheck s p t within).1 = true ↔
      t = 0 ∨ (s.proc p).tenantInitialized = false ∨
        (t.toNat < MAX_TENANTS ∧ s.status t ≠ .inactive ∧
          within (s.tenantShm.tenant t) = true) := by
  unfold quotaCheck
  by_cases h0 : t = 0 ∨ !(s.proc p).tenantInitialized
  · rw [if_pos h0]
    simpa [or_assoc] using h0.elim Or.inl fun h => Or.inr (Or.inl (by simpa using h))
  · rw [if_neg h0]
    have hfst := tenantGetInfo_fst s.tenantShm t s.wallClock
    generalize tenantGetInfo s.tenantShm t s.wallClock = r at hfst ⊢
    obtain ⟨o, shm⟩ := r
    have hno : ¬ (t = 0 ∨ (s.proc p).tenantInitialized = false) := by simpa using h0
    rw [← or_assoc, or_iff_right hno]
    by_cases ha : t.toNat < MAX_TENANTS ∧ (s.tenantShm.tenant t).status ≠ .inactive
    · rw [if_pos ha] at hfst
      simp only at hfst
      subst hfst
      exact ⟨fun h => ⟨ha.1, ha.2, h⟩, fun h => h.2.2⟩
    · rw [if_neg ha] at hfst
      simp only at hfst
      subst hfst
      exact iff_of_false Bool.false_ne_true fun h => ha ⟨h.1, h.2.1⟩

/-- The record of a tenant leaves room for one QP more. -/
def leavesQpRoom (info : TenantInfo) : Bool :=
  !(decide (info.quota.maxQpPerTenant ≤ info.usage.qpCount.toUInt32))

/-- The record of a tenant leaves room for a registration of `length` bytes. -/
def leavesMrRoom (length : UInt64) (info : TenantInfo) : Bool :=
  !(decide (info.quota.maxMrPerTenant ≤ info.usage.mrCount.toUInt32)) &&
    !(decide (0 < info.quota.maxMemoryPerTenant ∧
      info.quota.maxMemoryPerTenant < info.usage.memoryUsed + length))

theorem checkTenantQpLimit_eq (s : System) (p : Pid) (t : UInt32) :
    checkTenantQpLimit s p t = quotaCheck s p t leavesQpRoom := rfl

theorem checkTenantMrLimitInline_eq (s : System) (p : Pid) (t : UInt32) (length : UInt64) :
    checkTenantMrLimitInline s p t length = quotaCheck s p t (leavesMrRoom length) := by
  unfold checkTenantMrLimitInline quotaCheck
  split
  · rfl
  · generalize tenantGetInfo s.tenantShm t s.wallClock = r
    obtain ⟨o, shm⟩ := r
    cases o with
    | none => rfl
    | some info =>
      simp only [leavesMrRoom]
      split
      · rename_i hcount
        simp [hcount]
      · rename_i hcount
        split
        · rename_i hmem
          simp [hcount, hmem]
        · rename_i hmem
          simp only [hcount, hmem, decide_false, Bool.not_false, Bool.and_self]

theorem checkTenantQpLimit_untouched (s : System) (p : Pid) (t : UInt32) :
    Untouched s (checkTenantQpLimit s p t).2 := quotaCheck_untouched s p t _

theorem checkTenantQpLimit_iff (s : System) (p : Pid) (t : UInt32) :
    (checkTenantQpLimit s p t).1 = true ↔ QpQuotaAllows s p t := by
  rw [checkTenantQpLimit_eq, quotaCheck_iff, leavesQpRoom, Bool.not_eq_true',
    decide_eq_false_iff_not, UInt32.not_le]
  rfl

theorem checkTenantMrLimitInline_untouched (s : System) (p : Pid) (t : UInt32)
    (length : UInt64) : Untouched s (checkTenantMrLimitInline s p t length).2 := by
  rw [checkTenantMrLimitInline_eq]
  exact quotaCheck_untouched s p t _

theorem checkTenantMrLimitInline_iff (s : System) (p : Pid) (t : UInt32) (length : UInt64) :
    (checkTenantMrLimitInline s p t length).1 = true ↔ MrQuotaAllows s p t length := by
  have hmem : ∀ a b : UInt64, ¬ (0 < a ∧ a < b) ↔ (0 < a → b ≤ a) := by
    intro a b
    rw [not_and, UInt64.not_lt]
  rw [checkTenantMrLimitInline_eq, quotaCheck_iff, leavesMrRoom, Bool.and_eq_true,
    Bool.not_eq_true', Bool.not_eq_true', decide_eq_false_iff_not, decide_eq_false_iff_not,
    UInt32.not_le, hmem]
  rfl

/-- `check_qp_creation_restrictions` lets a creation pass. -/
def QpAdmitted (s : System) (p : Pid) (attr : QpInitAttr) : Prop :=
  (s.proc p).config.enableQpControl = true →
    qpTypeAllowed (s.proc p).config attr.qpType = true ∧
      QpQuotaAllows s p (currentTenant s p) ∧
      processLimitOk s p = true ∧ globalLimitOk s p = true

theorem Untouched.qpQuotaAllows {s s' : System} (h : Untouched s s') (p : Pid) (t : UInt32) :
    QpQuotaAllows s' p t ↔ QpQuotaAllows s p t := by
  unfold QpQuotaAllows
  rw [h.proc, h.status, h.usage, h.quota]

theorem processLimitOk_congr {s s' : System} {p : Pid} (hshm : s'.shm = s.shm)
    (hproc : s'.proc p = s.proc p) : processLimitOk s' p = processLimitOk s p := by
  unfold processLimitOk getProcessResourcesViaSharedMemory
  rw [hshm, hproc]

theorem globalLimitOk_congr {s s' : System} {p : Pid} (hshm : s'.shm = s.shm)
    (hproc : s'.proc p = s.proc p) : globalLimitOk s' p = globalLimitOk s p := by
  unfold globalLimitOk getGlobalResourcesViaSharedMemory
  rw [hshm, hproc]

theorem checkQpCreationRestrictions_untouched (s : System) (p : Pid) (attr : QpInitAttr) :
    Untouched s (checkQpCreationRestrictions s p attr).2 := by
  have htenant := getCurrentTenantId_untouched s p
  have hcheck := checkTenantQpLimit_untouched (getCurrentTenantId s p).2 p
    (getCurrentTenantId s p).1
  unfold checkQpCreationRestrictions
  simp only
  split
  · exact .refl s
  · split
    · exact .refl s
    · split
      · exact htenant.trans hcheck
      · split
        · exact htenant.trans hcheck
        · split
          · exact htenant.trans hcheck
          · exact htenant.trans hcheck

theorem checkQpCreationRestrictions_iff (s : System) (p : Pid) (attr : QpInitAttr) :
    (checkQpCreationRestrictions s p attr).1 = true ↔ QpAdmitted s p attr := by
  have htenant := getCurrentTenantId_untouched s p
  have hcheck := htenant.trans (checkTenantQpLimit_untouched (getCurrentTenantId s p).2 p
    (getCurrentTenantId s p).1)
  have hallow : (checkTenantQpLimit (getCurrentTenantId s p).2 p (getCurrentTenantId s p).1).1 =
      true ↔ QpQuotaAllows s p (currentTenant s p) :=
    (checkTenantQpLimit_iff _ _ _).trans (htenant.qpQuotaAllows p _)
  have hprocess := processLimitOk_congr (p := p) hcheck.shm (congrFun hcheck.proc p)
  have hglobal := globalLimitOk_congr (p := p) hcheck.shm (congrFun hcheck.proc p)
  unfold checkQpCreationRestrictions QpAdmitted
  simp only [hprocess, hglobal]
  rw [← hallow]
  cases (s.proc p).config.enableQpControl with
  | false => simp
  | true =>
    cases qpTypeAllowed (s.proc p).config attr.qpType with
    | false => simp
    | true =>
      cases (checkTenantQpLimit (getCurrentTenantId s p).2 p (getCurrentTenantId s p).1).1 with
      | false => simp
      | true =>
        cases processLimitOk s p with
        | false => simp
        | true => cases globalLimitOk s p <;> simp

/-- The checks of a creating hook let the call pass; those for CQs and PDs check nothing. -/
def Admitted (s : System) (p : Pid) : CreateReq → Prop
  | .qp _ attr => QpAdmitted s p attr
  | .mr _ _ length _ => MrQuotaAllows s p (currentTenant s p) length
  | .cq .. => True
  | .pd .. => True

/-! ## Booking -/

/-- The tenant `t` is charged for a call of process `p`. -/
def ChargedTo (s : System) (p : Pid) (t : UInt32) : Prop :=
  t = currentTenant s p ∧ t ≠ 0 ∧ s.status t = .active

instance (s : System) (p : Pid) (t : UInt32) : Decidable (ChargedTo s p t) := by
  unfold ChargedTo
  infer_instance

/-- A success has been booked: `st` and `shm` are the new local counts of the process and
the new process-resource segment. -/
structure Booked (s : System) (p : Pid) (kind : ResourceKind) (delta : Int32) (st : ProcState)
    (shm : SharedMemoryData) (s' : System) : Prop where
  usage : ∀ t : UInt32, t.toNat < MAX_TENANTS → s'.usage t =
    if ChargedTo s p t then (s.usage t).adjust kind delta else s.usage t
  status : ∀ t, s'.status t = s.status t
  quota : ∀ t, s'.quota t = s.quota t
  pidMappings : s'.tenantShm.pidMappings = s.tenantShm.pidMappings
  proc : s'.proc = Function.update s.proc p st
  shm : s'.shm = shm
  wallClock : s'.wallClock = s.wallClock
  monoClock : s'.monoClock = s.monoClock

/-- The tenant part of a booking. -/
theorem updateTenantResourceCount_spec (s : System) (p : Pid) (kind : ResourceKind)
    (delta : Int32) : Booked s p kind delta (s.proc p) s.shm
      (updateTenantResourceCount s p (currentTenant s p) kind delta) := by
  have hproc : s.proc = Function.update s.proc p (s.proc p) := (Function.update_eq_self p _).symm
  by_cases h0 : currentTenant s p = 0
  · have hno : ∀ t, ¬ ChargedTo s p t := fun t h => h.2.1 (h.1.trans h0)
    rw [updateTenantResourceCount, if_pos (Or.inl h0)]
    exact ⟨fun t _ => (if_neg (hno t)).symm, fun _ => rfl, fun _ => rfl, rfl, hproc, rfl, rfl, rfl⟩
  · have hinit := tenantInitialized_of_currentTenant h0
    have hread := tenantGetResourceUsage_fst s.tenantShm (currentTenant s p) s.wallClock
    have hsame := tenantGetResourceUsage_same s.tenantShm (currentTenant s p) s.wallClock
    rw [updateTenantResourceCount, if_neg (by simp [h0, hinit])]
    generalize tenantGetResourceUsage s.tenantShm (currentTenant s p) s.wallClock = r at hread hsame ⊢
    obtain ⟨o, shm⟩ := r
    by_cases ha : (currentTenant s p).toNat < MAX_TENANTS ∧
        (s.tenantShm.tenant (currentTenant s p)).status = .active
    · rw [if_pos ha] at hread
      simp only at hread hsame
      subst hread
      have hw := tenantUpdateResourceUsage_spec shm (currentTenant s p)
        ((s.tenantShm.tenant (currentTenant s p)).usage.adjust kind delta) s.wallClock
      refine ⟨?_, ?_, ?_, hw.pidMappings.trans hsame.pidMappings, hproc, rfl, rfl, rfl⟩
      · intro t ht
        have hu := hw.usage t ht
        rw [hsame.tenant, hsame.tenant] at hu
        simp only [System.usage]
        rw [hu]
        by_cases hte : t = currentTenant s p
        · rw [if_pos ⟨hte, ha.2⟩, if_pos ⟨hte, hte ▸ h0, hte ▸ ha.2⟩, hte]
        · rw [if_neg (fun h => hte h.1), if_neg (fun h => hte h.1)]
      · intro t
        exact (hw.status t).trans (congrArg TenantInfo.status (hsame.tenant t))
      · intro t
        exact (hw.quota t).trans (congrArg TenantInfo.quota (hsame.tenant t))
    · rw [if_neg ha] at hread
      simp only at hread hsame
      subst hread
      have hun := untouched_of_sameRecords hsame
      refine ⟨?_, hun.status, hun.quota, hun.records.pidMappings, hproc, rfl, rfl, rfl⟩
      intro t ht
      rw [hun.usage, if_neg]
      rintro ⟨rfl, -, hact⟩
      exact ha ⟨ht, hact⟩

/-- What a success does not change in a process. -/
structure SameSettings (st st' : ProcState) : Prop where
  initialized : st'.initialized = st.initialized
  config : st'.config = st.config
  tenantInitialized : st'.tenantInitialized = st.tenantInitialized
  shmAttached : st'.shmAttached = st.shmAttached
  realCreate : st'.realCreate = st.realCreate
  realDestroy : st'.realDestroy = st.realDestroy

theorem SameSettings.enabled {st st' : ProcState} (h : SameSettings st st')
    (he : rdmaInterceptIsEnabled st = true) : rdmaInterceptIsEnabled st' = true := by
  unfold rdmaInterceptIsEnabled at he ⊢
  rw [h.initialized, h.config, he]

/-- The process-resource segment after a creation: only a QP is published. -/
def shmAfterCreate (s : System) (p : Pid) : CreateReq → SharedMemoryData
  | .qp .. => (publishProcessResources (s.setProc p (s.proc p).addQp) p).shm
  | .mr .. => s.shm
  | .cq .. => s.shm
  | .pd .. => s.shm

theorem sameSettings_addObj (st : ProcState) (req : CreateReq) :
    SameSettings st (st.addObj req) := by
  cases req <;> exact ⟨rfl, rfl, rfl, rfl, rfl, rfl⟩

theorem sameSettings_removeQp (st : ProcState) : SameSettings st st.removeQp := by
  unfold ProcState.removeQp
  split <;> exact ⟨rfl, rfl, rfl, rfl, rfl, rfl⟩

theorem sameSettings_removeMr (st : ProcState) (length : UInt64) :
    SameSettings st (st.removeMr length) := by
  by_cases hcount : 0 < st.mrCount
  · simp only [ProcState.removeMr, hcount, if_true]
    split <;> exact ⟨rfl, rfl, rfl, rfl, rfl, rfl⟩
  · simp only [ProcState.removeMr, hcount, if_false]
    split <;> exact ⟨rfl, rfl, rfl, rfl, rfl, rfl⟩

theorem sameSettings_removeObj (st : ProcState) (req : DestroyReq) :
    SameSettings st (st.removeObj req) := by
  cases req with
  | qp h => exact sameSettings_removeQp st
  | mr m => exact sameSettings_removeMr st _
  | cq h => exact ⟨rfl, rfl, rfl, rfl, rfl, rfl⟩
  | pd h => exact ⟨rfl, rfl, rfl, rfl, rfl, rfl⟩

/-- A booking after a call that changed nothing. -/
theorem Booked.of_untouched {a b s' : System} {p : Pid} {kind : ResourceKind} {delta : Int32}
    {st : ProcState} {shm : SharedMemoryData} (h : Untouched a b)
    (hb : Booked b p kind delta st shm s') : Booked a p kind delta st shm s' := by
  have hcharged : ∀ t, ChargedTo b p t ↔ ChargedTo a p t := by
    intro t
    unfold ChargedTo
    rw [h.currentTenant, h.status]
  refine ⟨?_, fun t => (hb.status t).trans (h.status t), fun t => (hb.quota t).trans (h.quota t),
    hb.pidMappings.trans h.records.pidMappings, by rw [hb.proc, h.proc], hb.shm,
    hb.wallClock.trans h.wallClock, hb.monoClock.trans h.monoClock⟩
  intro t ht
  rw [hb.usage t ht, h.usage]
  simp only [hcharged]

/-- A booking after a write to the variables of the process and to the process-resource
segment. -/
theorem Booked.of_local {a b s' : System} {p : Pid} {kind : ResourceKind} {delta : Int32}
    {st : ProcState} (hst : SameSettings (a.proc p) st) (htenantShm : b.tenantShm = a.tenantShm)
    (hproc : b.proc = Function.update a.proc p st) (hwall : b.wallClock = a.wallClock)
    (hmono : b.monoClock = a.monoClock) (hb : Booked b p kind delta (b.proc p) b.shm s') :
    Booked a p kind delta st b.shm s' := by
  have hbp : b.proc p = st := by rw [hproc, Function.update_self]
  have htenant : currentTenant b p = currentTenant a p :=
    currentTenant_congr (by rw [htenantShm]) (by rw [hbp, hst.tenantInitialized])
  have hstatus : ∀ t, b.status t = a.status t := fun t => by
    unfold System.status
    rw [htenantShm]
  have hcharged : ∀ t, ChargedTo b p t ↔ ChargedTo a p t := by
    intro t
    unfold ChargedTo
    rw [htenant, hstatus]
  refine ⟨?_, fun t => (hb.status t).trans (hstatus t), ?_, ?_, ?_, hb.shm,
    hb.wallClock.trans hwall, hb.monoClock.trans hmono⟩
  · intro t ht
    rw [hb.usage t ht]
    simp only [hcharged, System.usage, htenantShm]
  · intro t
    rw [hb.quota t]
    simp only [System.quota, htenantShm]
  · rw [hb.pidMappings, htenantShm]
  · rw [hb.proc, hbp, hproc, Function.update_idem]

theorem Booked.congr {s s' : System} {p : Pid} {kind : ResourceKind} {delta : Int32}
    {st st' : ProcState} {shm shm' : SharedMemoryData} (hst : st = st') (hshm : shm = shm')
    (hb : Booked s p kind delta st shm s') : Booked s p kind delta st' shm' s' := by
  rw [← hst, ← hshm]
  exact hb

/-- The look-up of the tenant followed by its booking. -/
theorem charge_spec (s : System) (p : Pid) (kind : ResourceKind) (delta : Int32) :
    Booked s p kind delta (s.proc p) s.shm
      (updateTenantResourceCount (getCurrentTenantId s p).2 p (getCurrentTenantId s p).1
        kind delta) := by
  have hun := getCurrentTenantId_untouched s p
  have hbook := updateTenantResourceCount_spec (getCurrentTenantId s p).2 p kind delta
  rw [hun.currentTenant, hun.proc, hun.shm] at hbook
  exact Booked.of_untouched hun hbook

/-! ## The outcomes of a call -/

/-- Interception is on in the process and the two verbs of a kind have been found in
`libibverbs.so`. -/
structure Ready (s : System) (p : Pid) (kind : ResourceKind) : Prop where
  enabled : rdmaInterceptIsEnabled (s.proc p) = true
  realCreate : (s.proc p).realCreate kind = true
  realDestroy : (s.proc p).realDestroy kind = true

theorem Ready.congr {s s' : System} {p : Pid} {kind : ResourceKind}
    (h : SameSettings (s.proc p) (s'.proc p)) (hr : Ready s p kind) : Ready s' p kind := by
  obtain ⟨he, hc, hd⟩ := hr
  exact ⟨h.enabled he, by rw [h.realCreate, hc], by rw [h.realDestroy, hd]⟩

theorem interceptCreate_ready {s : System} {p : Pid} {req : CreateReq}
    (h : Ready s p req.kind) (driver : Option Handle)
    (hook : Outcome (Option Handle) × System) : interceptCreate s p req driver hook = hook := by
  simp [interceptCreate, h.enabled, h.realCreate]

theorem interceptDestroy_ready {s : System} {p : Pid} {req : DestroyReq}
    (h : Ready s p req.kind) (driver : Int32) (hook : Outcome Int32 × System) :
    interceptDestroy s p req driver hook = hook := by
  simp [interceptDestroy, h.enabled, h.realDestroy]

/-- A creating hook is entered, or it answers at once and changes nothing; with interception
on it then has not called the driver. -/
theorem interceptCreate_cases (s : System) (p : Pid) (req : CreateReq) (driver : Option Handle) :
    (∀ hook, interceptCreate s p req driver hook = hook) ∨
      ∃ out, (∀ hook, interceptCreate s p req driver hook = (out, s)) ∧
        (rdmaInterceptIsEnabled (s.proc p) = true → out.driverCalls = []) := by
  unfold interceptCreate
  cases rdmaInterceptIsEnabled (s.proc p) with
  | false =>
    right
    cases (s.proc p).realCreate req.kind with
    | false => exact ⟨_, fun _ => rfl, fun _ => rfl⟩
    | true => exact ⟨_, fun _ => rfl, fun h => absurd h Bool.false_ne_true⟩
  | true =>
    cases (s.proc p).realCreate req.kind with
    | false => exact Or.inr ⟨_, fun _ => rfl, fun _ => rfl⟩
    | true => exact Or.inl fun _ => rfl

theorem interceptDestroy_cases (s : System) (p : Pid) (req : DestroyReq) (driver : Int32) :
    (∀ hook, interceptDestroy s p req driver hook = hook) ∨
      ∃ out, (∀ hook, interceptDestroy s p req driver hook = (out, s)) ∧
        (rdmaInterceptIsEnabled (s.proc p) = true → out.driverCalls = []) := by
  unfold interceptDestroy
  cases rdmaInterceptIsEnabled (s.proc p) with
  | false =>
    right
    cases (s.proc p).realDestroy req.kind with
    | false => exact ⟨_, fun _ => rfl, fun _ => rfl⟩
    | true => exact ⟨_, fun _ => rfl, fun h => absurd h Bool.false_ne_true⟩
  | true =>
    cases (s.proc p).realDestroy req.kind with
    | false => exact Or.inr ⟨_, fun _ => rfl, fun _ => rfl⟩
    | true => exact Or.inl fun _ => rfl

theorem ibvCreate_of_intercept {s : System} {p : Pid} {req : CreateReq} {driver : Option Handle}
    {r : Outcome (Option Handle) × System}
    (h : ∀ hook, interceptCreate s p req driver hook = r) : ibvCreate s p req driver = r := by
  cases req with
  | qp pd attr => exact h _
  | mr pd addr length access => exact h _
  | cq context cqe cqContext channel compVector => exact h _
  | pd context => exact h _

theorem ibvDestroy_of_intercept {s : System} {p : Pid} {req : DestroyReq} {driver : Int32}
    {r : Outcome Int32 × System}
    (h : ∀ hook, interceptDestroy s p req driver hook = r) : ibvDestroy s p req driver = r := by
  cases req with
  | qp qp => exact h _
  | mr mr => exact h _
  | cq cq => exact h _
  | pd pd => exact h _

/-- What a creating hook answers and leaves. -/
structure CreateOutcome (s : System) (p : Pid) (req : CreateReq) (driver : Option Handle)
    (r : Outcome (Option Handle) × System) : Prop where
  /-- a check failed: `NULL`, `EPERM`, and the driver is not called -/
  refused : ¬ Admitted s p req → r.1 = ⟨none, some .eperm, []⟩ ∧ Untouched s r.2
  /-- the driver failed -/
  failed : Admitted s p req → driver = none →
    r.1 = ⟨none, none, [.create req]⟩ ∧ Untouched s r.2
  granted : ∀ h, Admitted s p req → driver = some h →
    r.1 = ⟨some h, none, [.create req]⟩ ∧
      Booked s p req.kind 1 ((s.proc p).addObj req) (shmAfterCreate s p req) r.2

/-- What a destroying hook answers and leaves. -/
structure DestroyOutcome (s : System) (p : Pid) (req : DestroyReq) (driver : Int32)
    (r : Outcome Int32 × System) : Prop where
  answer : r.1 = ⟨driver, none, [.destroy req]⟩
  failed : driver ≠ 0 → Untouched s r.2
  granted : driver = 0 →
    Booked s p req.kind (-1) ((s.proc p).removeObj req) s.shm r.2

theorem publish_tenantShm (s : System) (p : Pid) :
    (publishProcessResources s p).tenantShm = s.tenantShm := by
  unfold publishProcessResources
  split <;> rfl

theorem publish_proc (s : System) (p : Pid) : (publishProcessResources s p).proc = s.proc := by
  unfold publishProcessResources
  split <;> rfl

theorem publish_wallClock (s : System) (p : Pid) :
    (publishProcessResources s p).wallClock = s.wallClock := by
  unfold publishProcessResources
  split <;> rfl

theorem publish_monoClock (s : System) (p : Pid) :
    (publishProcessResources s p).monoClock = s.monoClock := by
  unfold publishProcessResources
  split <;> rfl

theorem publish_shm_congr {a b : System} {p : Pid} (hshm : b.shm = a.shm)
    (hproc : b.proc p = a.proc p) (hmono : b.monoClock = a.monoClock) :
    (publishProcessResources b p).shm = (publishProcessResources a p).shm := by
  unfold publishProcessResources
  rw [hproc, hshm, hmono]
  split
  · rfl
  · exact hshm

/-- A QP creation that the hook does not pass on at once. -/
theorem ibvCreateQp_outcome {s : System} {p : Pid} {pd : Handle} {attr : QpInitAttr}
    {driver : Option Handle}
    (hhook : ∀ hook, interceptCreate s p (.qp pd attr) driver hook = hook) :
    CreateOutcome s p (.qp pd attr) driver (ibvCreateQp s p pd attr driver) := by
  have hun := checkQpCreationRestrictions_untouched s p attr
  have hok := checkQpCreationRestrictions_iff s p attr
  rw [ibvCreateQp, hhook]
  generalize checkQpCreationRestrictions s p attr = r at hun hok ⊢
  obtain ⟨ok, a⟩ := r
  simp only at hun hok ⊢
  refine ⟨?_, ?_, ?_⟩
  · intro hno
    have hfalse : ok = false := by
      rw [← Bool.not_eq_true, hok]
      exact hno
    subst hfalse
    exact ⟨rfl, hun⟩
  · rintro hadm rfl
    have htrue : ok = true := hok.mpr hadm
    subst htrue
    exact ⟨rfl, hun⟩
  · rintro h hadm rfl
    have htrue : ok = true := hok.mpr hadm
    subst htrue
    refine ⟨rfl, ?_⟩
    -- the local count, then the process table, then the tenant
    have hset := sameSettings_addObj (a.proc p) (.qp pd attr)
    have hbook := Booked.of_local (a := a)
      (b := publishProcessResources (a.setProc p (a.proc p).addQp) p) hset
      (publish_tenantShm _ p) (publish_proc _ p) (publish_wallClock _ p) (publish_monoClock _ p)
      (charge_spec _ p .qp 1)
    have hshm := publish_shm_congr (a := s.setProc p (s.proc p).addQp)
      (b := a.setProc p (a.proc p).addQp) (p := p) hun.shm
      (by simp only [System.setProc, Function.update_self, hun.proc]) hun.monoClock
    exact (Booked.of_untouched hun hbook).congr (by rw [hun.proc]) hshm

theorem ibvCreateQp_spec {s : System} {p : Pid} {pd : Handle} {attr : QpInitAttr}
    (hr : Ready s p .qp) (driver : Option Handle) :
    CreateOutcome s p (.qp pd attr) driver (ibvCreateQp s p pd attr driver) :=
  ibvCreateQp_outcome (interceptCreate_ready hr driver)

theorem ibvRegMr_outcome {s : System} {p : Pid} {pd addr : Handle} {length : UInt64}
    {access : Int32} {driver : Option Handle}
    (hhook : ∀ hook, interceptCreate s p (.mr pd addr length access) driver hook = hook) :
    CreateOutcome s p (.mr pd addr length access) driver
      (ibvRegMr s p pd addr length access driver) := by
  have htenant := getCurrentTenantId_untouched s p
  have hun := htenant.trans (checkTenantMrLimitInline_untouched (getCurrentTenantId s p).2 p
    (getCurrentTenantId s p).1 length)
  have hok : (checkTenantMrLimitInline (getCurrentTenantId s p).2 p
      (getCurrentTenantId s p).1 length).1 = true ↔
        MrQuotaAllows s p (currentTenant s p) length := by
    rw [checkTenantMrLimitInline_iff]
    unfold MrQuotaAllows
    rw [htenant.proc, htenant.status, htenant.usage, htenant.quota]
    rfl
  rw [ibvRegMr, hhook]
  simp only
  generalize checkTenantMrLimitInline (getCurrentTenantId s p).2 p
    (getCurrentTenantId s p).1 length = r at hun hok ⊢
  obtain ⟨ok, a⟩ := r
  simp only at hun hok ⊢
  refine ⟨?_, ?_, ?_⟩
  · intro hno
    have hfalse : ok = false := by
      rw [← Bool.not_eq_true, hok]
      exact hno
    subst hfalse
    exact ⟨rfl, hun⟩
  · rintro hadm rfl
    have htrue : ok = true := hok.mpr hadm
    subst htrue
    exact ⟨rfl, hun⟩
  · rintro h hadm rfl
    have htrue : ok = true := hok.mpr hadm
    subst htrue
    refine ⟨rfl, ?_⟩
    have hset := sameSettings_addObj (a.proc p) (.mr pd addr length access)
    have hcur : currentTenant (a.setProc p ((a.proc p).addMr length)) p =
        (getCurrentTenantId s p).1 := by
      have hsame : currentTenant (a.setProc p ((a.proc p).addMr length)) p = currentTenant a p :=
        currentTenant_congr rfl (by simp [System.setProc, ProcState.addMr])
      exact hsame.trans (hun.currentTenant p)
    have hbook := updateTenantResourceCount_spec (a.setProc p ((a.proc p).addMr length)) p .mr 1
    rw [hcur] at hbook
    have hlocal := Booked.of_local (a := a) (b := a.setProc p ((a.proc p).addMr length)) hset
      rfl rfl rfl rfl hbook
    exact (Booked.of_untouched hun hlocal).congr (by rw [hun.proc]) hun.shm

/-- The hooks that only count book a success and check nothing. -/
theorem countCreate_outcome {s : System} {p : Pid} {req : CreateReq} {driver : Option Handle}
    (hhook : ∀ hook, interceptCreate s p req driver hook = hook)
    (hcount : req.kind = .cq ∨ req.kind = .pd) :
    CreateOutcome s p req driver (countCreate s p req driver) := by
  have hadm : Admitted s p req := by
    cases req <;> simp_all [CreateReq.kind, Admitted]
  have hst : s.proc p = (s.proc p).addObj req := by
    cases req <;> simp_all [CreateReq.kind, ProcState.addObj]
  have hshm : s.shm = shmAfterCreate s p req := by
    cases req <;> simp_all [CreateReq.kind, shmAfterCreate]
  unfold countCreate
  rw [hhook]
  refine ⟨fun h => absurd hadm h, ?_, ?_⟩
  · rintro - rfl
    exact ⟨rfl, .refl s⟩
  · rintro h - rfl
    exact ⟨rfl, (charge_spec s p req.kind 1).congr hst hshm⟩

/-- Every creating hook that does not pass the call on at once. -/
theorem ibvCreate_outcome {s : System} {p : Pid} {req : CreateReq} {driver : Option Handle}
    (hhook : ∀ hook, interceptCreate s p req driver hook = hook) :
    CreateOutcome s p req driver (ibvCreate s p req driver) := by
  cases req with
  | qp pd attr => exact ibvCreateQp_outcome hhook
  | mr pd addr length access => exact ibvRegMr_outcome hhook
  | cq context cqe cqContext channel compVector => exact countCreate_outcome hhook (Or.inl rfl)
  | pd context => exact countCreate_outcome hhook (Or.inr rfl)

/-- Every creating hook, on a process whose calls are intercepted. -/
theorem ibvCreate_spec {s : System} {p : Pid} {req : CreateReq} (hr : Ready s p req.kind)
    (driver : Option Handle) : CreateOutcome s p req driver (ibvCreate s p req driver) :=
  ibvCreate_outcome (interceptCreate_ready hr driver)

/-- The part of a destroying hook that follows a success of the driver. -/
theorem release_spec (s : System) (p : Pid) (kind : ResourceKind) {st : ProcState}
    (hset : SameSettings (s.proc p) st) :
    Booked s p kind (-1) st s.shm
      (updateTenantResourceCount (getCurrentTenantId (s.setProc p st) p).2 p
        (getCurrentTenantId (s.setProc p st) p).1 kind (-1)) :=
  Booked.of_local (a := s) (b := s.setProc p st) hset rfl rfl rfl rfl
    (charge_spec (s.setProc p st) p kind (-1))

/-- Every destroying hook that does not pass the call on at once. -/
theorem ibvDestroy_outcome {s : System} {p : Pid} {req : DestroyReq} {driver : Int32}
    (hhook : ∀ hook, interceptDestroy s p req driver hook = hook) :
    DestroyOutcome s p req driver (ibvDestroy s p req driver) := by
  have hset := sameSettings_removeObj (s.proc p) req
  cases req with
  | qp h =>
    rw [ibvDestroy, ibvDestroyQp, hhook]
    by_cases hd : driver = 0
    · rw [if_pos hd]
      exact ⟨rfl, fun h => absurd hd h, fun _ => release_spec s p .qp hset⟩
    · rw [if_neg hd]
      exact ⟨rfl, fun _ => .refl s, fun h => absurd h hd⟩
  | mr m =>
    rw [ibvDestroy, ibvDeregMr, hhook]
    by_cases hd : driver = 0
    · simp only [hd, if_true]
      exact ⟨rfl, fun h => absurd rfl h, fun _ => release_spec s p .mr hset⟩
    · simp only [hd, if_false]
      exact ⟨rfl, fun _ => .refl s, fun h => absurd h hd⟩
  | cq h =>
    rw [ibvDestroy, ibvDestroyCq, countDestroy, hhook]
    by_cases hd : driver = 0
    · rw [if_pos hd]
      exact ⟨rfl, fun h => absurd hd h, fun _ => charge_spec s p .cq (-1)⟩
    · rw [if_neg hd]
      exact ⟨rfl, fun _ => .refl s, fun h => absurd h hd⟩
  | pd h =>
    rw [ibvDestroy, ibvDeallocPd, countDestroy, hhook]
    by_cases hd : driver = 0
    · rw [if_pos hd]
      exact ⟨rfl, fun h => absurd hd h, fun _ => charge_spec s p .pd (-1)⟩
    · rw [if_neg hd]
      exact ⟨rfl, fun _ => .refl s, fun h => absurd h hd⟩

/-- Every destroying hook, on a process whose calls are intercepted. -/
theorem ibvDestroy_spec {s : System} {p : Pid} {req : DestroyReq} (hr : Ready s p req.kind)
    (driver : Int32) : DestroyOutcome s p req driver (ibvDestroy s p req driver) :=
  ibvDestroy_outcome (interceptDestroy_ready hr driver)

/-! ## Start-up -/

/-- A start writes the variables of the process that starts. -/
theorem initFunctionPointers_proc {s : System} {p q : Pid} (hq : q ≠ p) (env : StartEnv) :
    (initFunctionPointers s p env).proc q = s.proc q := by
  unfold initFunctionPointers
  cases env.libibverbs with
  | false => exact setProc_of_ne hq
  | true =>
    cases env.tenantShmMapped with
    | false => cases env.tenantEnv <;> exact setProc_of_ne hq
    | true =>
      cases env.tenantEnv with
      | none => exact setProc_of_ne hq
      | some t =>
        simp only [Bool.not_true, Bool.false_eq_true, if_false, if_true, true_and]
        split <;> exact setProc_of_ne hq

end RdmaIntercept.Analysis
