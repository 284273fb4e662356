import RdmaIntercept.Analysis.BindingTable
import RdmaIntercept.Analysis.Scenario
import RdmaIntercept.Analysis.VerbsSpec

/-!
# A process with a configured tenant

A process that is started with `RDMA_TENANT_ID` set is bound to that tenant once, at
start-up, and every QP creation looks the binding up.  While the binding is there the
creation is refused or is checked against the quota of the tenant; where there is none the
process is in the default tenant and no quota applies.  The binding is missing only if the
start-up could not make it, or after a manager has deleted the tenant or has unbound the
process (`configuredTenant_enforced`).
-/

set_option autoImplicit false

namespace RdmaIntercept.Analysis

open RdmaIntercept.Library RdmaIntercept.Model

/-! ## The binding -/

variable {shm : TenantShm} {p : Pid} {t : UInt32}

/-- The call takes the process out of the tenant, by its arguments. -/
def Detaches (p : Pid) (t : UInt32) (op : StoreOp) : Prop := op = .unbind p ∨ op = .delete t

theorem tenantOf_delete_of_ne {u : UInt32} (hp : p ≠ 0) (h : shm.tenantOf p = some t)
    (hut : t ≠ u) (now : TimeT) : (tenantDelete shm u now).2.tenantOf p = some t := by
  rcases tenantDelete_cases shm u now with ⟨-, hdone⟩ | ⟨-, href⟩
  · have hkept := mappedTenant_of_cleared hdone.pidMappings
    obtain ⟨i, hslot, hi⟩ := Option.map_eq_some_iff.mp h
    have hiu : ¬ mappedTenant shm i = u := fun hiu => hut (hi.symm.trans hiu)
    rw [tenantOf_eq_lookup, mappedPid_of_cleared hdone.pidMappings,
      SlotTable.lookup_sweep_of_kept hkept hp hslot hiu]
    exact h
  · rw [tenantOf_congr href.pidMappings]
    exact h

theorem tenantOf_unbind_of_ne {q : Pid} (hp : p ≠ 0) (h : shm.tenantOf p = some t) (hpq : p ≠ q)
    (now : TimeT) : (tenantUnbindProcess shm q now).2.tenantOf p = some t := by
  have hmap := tenantUnbindProcess_pidMappings shm q now
  cases hslot : SlotTable.slotOf shm.mappedPid q with
  | none =>
    rw [hslot] at hmap
    rw [tenantOf_congr hmap]
    exact h
  | some i =>
    rw [hslot] at hmap
    have hkept := mappedTenant_of_freed hmap
    obtain ⟨j, hj, -⟩ := Option.map_eq_some_iff.mp h
    have hji : ¬ j = i := by
      rintro rfl
      exact hpq ((SlotTable.key_of_slotOf hj).symm.trans (SlotTable.key_of_slotOf hslot))
    rw [tenantOf_eq_lookup, mappedPid_of_freed hmap,
      SlotTable.lookup_sweep_of_kept hkept hp hj hji]
    exact h

/-- A binding survives every call that does not detach the process or bind it anew. -/
theorem tenantOf_kept (hp : p ≠ 0) (h : shm.tenantOf p = some t) {op : StoreOp} (now : TimeT)
    (hdetach : ¬ (Detaches p t op ∧ (op.exec shm now).1 = true)) (hbind : ∀ u, op ≠ .bind p u) :
    (op.exec shm now).2.tenantOf p = some t := by
  cases op with
  | create u name quota =>
    exact (tenantOf_congr (tenantCreate_pidMappings shm u name quota now) p).trans h
  | delete u =>
    by_cases hut : t = u
    · subst hut
      have hfailed : ¬ (tenantDelete shm t now).1 = true := fun hok => hdetach ⟨Or.inr rfl, hok⟩
      rcases tenantDelete_cases shm t now with ⟨-, hdone⟩ | ⟨-, href⟩
      · exact absurd hdone.ok hfailed
      · exact (tenantOf_congr href.pidMappings p).trans h
    · exact tenantOf_delete_of_ne hp h hut now
  | setStatus u st =>
    exact (tenantOf_congr (tenantSetStatus_spec shm u st now).pidMappings p).trans h
  | updateQuota u quota =>
    exact (tenantOf_congr (tenantUpdateQuota_spec shm u quota now).pidMappings p).trans h
  | bind q u =>
    have hpq : p ≠ q := by
      rintro rfl
      exact hbind u rfl
    show (tenantBindProcess shm q u now).2.tenantOf p = some t
    rw [tenantOf_bind shm q u now hp, if_neg fun hb => hpq hb.2]
    exact h
  | unbind q =>
    by_cases hpq : p = q
    · subst hpq
      have hok := (tenantUnbind_ok_iff shm hp now).mpr ((mem_boundPids_iff hp).mpr ⟨t, h⟩)
      exact absurd ⟨Or.inl rfl, hok⟩ hdetach
    · exact tenantOf_unbind_of_ne hp h hpq now
  | updateUsage u usage =>
    exact (tenantOf_congr (tenantUpdateResourceUsage_spec shm u usage now).pidMappings p).trans h

/-! ## One creation -/

/-- The process is started with interception and QP control on and with tenant `t`
configured, and its start-up maps the tenant segment. -/
structure TenantStart (env : StartEnv) (t : UInt32) : Prop where
  initialized : env.initialized = true
  enableIntercept : env.config.enableIntercept = true
  enableQpControl : env.config.enableQpControl = true
  libibverbs : env.libibverbs = true
  tenantShmMapped : env.tenantShmMapped = true
  tenantEnv : env.tenantEnv = some t
  positive : 0 < t

/-- What the settings of such a process are. -/
structure Enforcing (st : ProcState) : Prop where
  enabled : rdmaInterceptIsEnabled st = true
  enableQpControl : st.config.enableQpControl = true
  tenantInitialized : st.tenantInitialized = true

/-- The start-up binding succeeds. -/
def BindSucceeds (s : System) (p : Pid) (t : UInt32) : Prop :=
  (tenantBindProcess (tenantShmInit s.tenantShm s.wallClock) p t s.wallClock).1 = true

/-- The creation has been refused, and the driver has not been called. -/
def CreationRefused (r : Outcome (Option Handle) × System) : Prop :=
  r.1.ret = none ∧ r.1.driverCalls = []

/-- A QP creation of `p` is checked against the quota of tenant `u`, which has room. -/
structure CheckedAgainst (s : System) (p : Pid) (u : UInt32) : Prop where
  current : currentTenant s p = u
  nonzero : u ≠ 0
  inRange : u.toNat < MAX_TENANTS
  inUse : s.status u ≠ .inactive
  room : (s.usage u).qpCount.toUInt32 < (s.quota u).maxQpPerTenant

/-- One QP more is charged to tenant `u`. -/
def QpCharged (s s' : System) (u : UInt32) : Prop :=
  (s'.usage u).qpCount = (s.usage u).qpCount + 1

/-- A QP creation of `p` is refused, or it is checked against the quota of a tenant and, if it
succeeds, charged to it. -/
def FailsClosed (p : Pid) (s : System) : VerbsEvent → Prop
  | .create q (.qp pd attr) driver =>
    q = p →
      CreationRefused (ibvCreate s p (.qp pd attr) driver) ∨
        ∃ u, CheckedAgainst s p u ∧
          (driver ≠ none → QpCharged s (ibvCreate s p (.qp pd attr) driver).2 u)
  | _ => True

variable {s : System}

theorem Enforcing.congr {st st' : ProcState} (h : Enforcing st) (hset : SameSettings st st') :
    Enforcing st' := by
  refine ⟨?_, by rw [hset.config, h.enableQpControl],
    by rw [hset.tenantInitialized, h.tenantInitialized]⟩
  unfold rdmaInterceptIsEnabled
  rw [hset.initialized, hset.config]
  exact h.enabled

/-- What the start-up leaves. -/
theorem initFunctionPointers_configured {env : StartEnv} (h : TenantStart env t) (s : System)
    (p : Pid) :
    Enforcing ((initFunctionPointers s p env).proc p) ∧
      (initFunctionPointers s p env).tenantShm =
        (tenantBindProcess (tenantShmInit s.tenantShm s.wallClock) p t s.wallClock).2 := by
  unfold initFunctionPointers
  simp only [h.libibverbs, h.tenantShmMapped, h.tenantEnv, h.positive, Bool.not_true,
    Bool.false_eq_true, if_false, if_true, and_self, System.setProc, Function.update_self]
  refine ⟨⟨?_, h.enableQpControl, rfl⟩, trivial⟩
  simp [rdmaInterceptIsEnabled, h.initialized, h.enableIntercept]

/-- An admitted creation outside the default tenant has been checked. -/
theorem checkedAgainst_of_admitted {attr : QpInitAttr} (h : Enforcing (s.proc p))
    (hadm : QpAdmitted s p attr) (hcur : currentTenant s p ≠ 0) :
    CheckedAgainst s p (currentTenant s p) := by
  obtain ⟨-, hquota, -⟩ := hadm h.enableQpControl
  rcases hquota with h0 | hno | ⟨hrange, huse, hroom⟩
  · exact absurd h0 hcur
  · exact absurd (hno.symm.trans h.tenantInitialized) Bool.false_ne_true
  · exact ⟨rfl, hcur, hrange, huse, hroom⟩

/-- A creation of a process with a tenant is refused or checked, and a success is charged if the
tenant is ACTIVE. -/
theorem creation_enforced (h : Enforcing (s.proc p)) (pd : Handle) (attr : QpInitAttr)
    (driver : Option Handle) (hcur : currentTenant s p ≠ 0) :
    CreationRefused (ibvCreate s p (.qp pd attr) driver) ∨
      ∃ u, CheckedAgainst s p u ∧ (driver ≠ none → s.status u = .active →
        QpCharged s (ibvCreate s p (.qp pd attr) driver).2 u) := by
  show CreationRefused (ibvCreateQp s p pd attr driver) ∨ _
  cases hreal : (s.proc p).realCreate .qp with
  | false =>
    left
    have hmissing : ibvCreateQp s p pd attr driver = (⟨none, some .enosys, []⟩, s) := by
      simp [ibvCreateQp, interceptCreate, CreateReq.kind, hreal]
    rw [hmissing]
    exact ⟨rfl, rfl⟩
  | true =>
    have hspec : CreateOutcome s p (.qp pd attr) driver (ibvCreateQp s p pd attr driver) := by
      apply ibvCreateQp_outcome
      intro hook
      simp [interceptCreate, CreateReq.kind, hreal, h.enabled]
    by_cases hadm : QpAdmitted s p attr
    · refine Or.inr ⟨currentTenant s p, checkedAgainst_of_admitted h hadm hcur, ?_⟩
      intro hdriver hactive
      obtain ⟨qp, rfl⟩ := Option.ne_none_iff_exists'.mp hdriver
      obtain ⟨-, hbooked⟩ := hspec.granted qp hadm rfl
      have husage := hbooked.usage (currentTenant s p)
        (checkedAgainst_of_admitted h hadm hcur).inRange
      rw [if_pos ⟨rfl, hcur, hactive⟩] at husage
      exact congrArg TenantResourceUsage.qpCount husage
    · left
      rw [CreationRefused, (hspec.refused hadm).1]
      exact ⟨rfl, rfl⟩

/-! ## Runs -/

/-- In the run a call has taken the process out of the tenant. -/
def Detached (p : Pid) (t : UInt32) (s : System) (es : List VerbsEvent) : Prop :=
  ∃ pre op post, es = pre ++ .store op :: post ∧ Detaches p t op ∧
    (op.exec (exec System.verbsStep s pre).tenantShm (exec System.verbsStep s pre).wallClock).1 =
      true

/-- The event does not bind the process anew. -/
def NoRebind (p : Pid) (e : VerbsEvent) : Prop := ∀ u, e ≠ .store (.bind p u)

theorem tenantOf_verbsStep (hp : p ≠ 0) (h : s.tenantShm.tenantOf p = some t) {e : VerbsEvent}
    (hdetach : ∀ op, e = .store op →
      ¬ (Detaches p t op ∧ (op.exec s.tenantShm s.wallClock).1 = true))
    (hbind : NoRebind p e) : (s.verbsStep e).tenantShm.tenantOf p = some t := by
  cases e with
  | create q req driver =>
    exact (tenantOf_congr (sameBindings_ibvCreate s q req driver).pidMappings p).trans h
  | destroy q req driver =>
    exact (tenantOf_congr (sameBindings_ibvDestroy s q req driver).pidMappings p).trans h
  | store op =>
    refine tenantOf_kept hp h s.wallClock (hdetach op rfl) ?_
    rintro u rfl
    exact hbind u rfl
  | tick wall mono => exact h

/-- Until it is detached a process keeps its tenant. -/
theorem tenantOf_exec_of_notDetached (hp : p ≠ 0) (h : s.tenantShm.tenantOf p = some t)
    {es : List VerbsEvent} (hes : ∀ e ∈ es, NoRebind p e) (hno : ¬ Detached p t s es) :
    (exec System.verbsStep s es).tenantShm.tenantOf p = some t := by
  refine exec_of_step (I := fun s : System => s.tenantShm.tenantOf p = some t)
    (C := fun (s : System) e => NoRebind p e ∧ ∀ op, e = .store op →
      ¬ (Detaches p t op ∧ (op.exec s.tenantShm s.wallClock).1 = true))
    (fun s e hs hC => tenantOf_verbsStep hp hs hC.2 hC.1) h ?_
  refine along_and.mpr ⟨along_of_forall hes s, along_iff_split.mpr ?_⟩
  rintro pre e post hsplit op rfl hdetached
  exact hno ⟨pre, op, post, hsplit, hdetached⟩

/-- **Every QP creation of a process with a configured tenant is refused or checked, as long
as the process has its binding.** -/
theorem configuredTenant_enforced (s : System) (p : Pid) (env : StartEnv) (t : UInt32)
    (es : List VerbsEvent) (hp : p ≠ 0) (hstart : TenantStart env t)
    (hes : ∀ e ∈ es, NoRebind p e) {pre post : List VerbsEvent} {pd : Handle} {attr : QpInitAttr}
    {driver : Option Handle} (hsplit : es = pre ++ .create p (.qp pd attr) driver :: post) :
    let s' := exec System.verbsStep (initFunctionPointers s p env) pre
    let r := ibvCreate s' p (.qp pd attr) driver
    (CreationRefused r ∨ ∃ u, CheckedAgainst s' p u ∧
      (driver ≠ none → s'.status u = .active → QpCharged s' r.2 u)) ∨
    (currentTenant s' p = 0 ∧
      (¬ BindSucceeds s p t ∨ Detached p t (initFunctionPointers s p env) pre)) := by
  intro s' r
  obtain ⟨henforcing, hshm⟩ := initFunctionPointers_configured hstart s p
  have hnow : Enforcing (s'.proc p) := exec_of_invariant (I := fun s => Enforcing (s.proc p))
    (fun s e h => h.congr (sameSettings_verbsStep s e p)) henforcing pre
  by_cases hcur : currentTenant s' p = 0
  · refine Or.inr ⟨hcur, ?_⟩
    by_contra hno
    rw [not_or, not_not] at hno
    obtain ⟨hbind, hdetached⟩ := hno
    have hbound : (initFunctionPointers s p env).tenantShm.tenantOf p = some t := by
      rw [hshm, tenantOf_bind _ p t s.wallClock hp, if_pos ⟨hbind, rfl⟩]
    have hpre : ∀ e ∈ pre, NoRebind p e := by
      intro e he
      exact hes e (hsplit ▸ List.mem_append_left _ he)
    have hkept := tenantOf_exec_of_notDetached hp hbound hpre hdetached
    rw [currentTenant_eq, if_pos hnow.tenantInitialized, hkept, Option.getD_some] at hcur
    exact absurd hstart.positive (by rw [hcur]; decide)
  · exact Or.inl (creation_enforced hnow pd attr driver hcur)

/-- The environment of a process of tenant 1; eBPF maps the segment as it is. -/
def tenantEnvironment : StartEnv where
  initialized := true
  config := qpControlConfig
  libibverbs := true
  realCreate := fun _ => true
  realDestroy := fun _ => true
  ebpfMonitorInit := fun d => (d, true)
  tenantShmMapped := true
  tenantEnv := some 1

theorem tenantEnvironment_start : TenantStart tenantEnvironment 1 :=
  ⟨rfl, rfl, rfl, rfl, rfl, rfl, by decide⟩

/-- A manager unbinds process 7, which then creates a QP. -/
def unboundRun : List VerbsEvent :=
  [.store (.unbind 7), .create 7 (.qp 1 ⟨.rc, 16, 16⟩) (some 5)]

/-- Process 7 has been started into tenant 1, which may have one QP. -/
def startedSystem : System :=
  initFunctionPointers (sampleWorld oneQpQuota qpControlConfig).sys 7 tenantEnvironment

/-- The QP is granted in the default tenant. -/
theorem unbound_process_escapes_quota :
    BindSucceeds (sampleWorld oneQpQuota qpControlConfig).sys 7 1 ∧
      ¬ Along System.verbsStep (FailsClosed 7) startedSystem unboundRun := by
  refine ⟨by unfold BindSucceeds; decide +kernel, ?_⟩
  rintro ⟨-, hcreate, -⟩
  rcases hcreate rfl with hrefused | ⟨u, hchecked, -⟩
  · have hcalls := hrefused.2
    revert hcalls
    decide +kernel
  · have hcur : currentTenant (startedSystem.verbsStep (.store (.unbind 7))) 7 = 0 := by
      decide +kernel
    exact hchecked.nonzero (hchecked.current.symm.trans hcur)

theorem configuredTenant_enforced_unbound :
    let s' := exec System.verbsStep startedSystem [.store (.unbind 7)]
    let r := ibvCreate s' 7 (.qp 1 ⟨.rc, 16, 16⟩) (some 5)
    (CreationRefused r ∨ ∃ u, CheckedAgainst s' 7 u ∧
      (some (5 : Handle) ≠ none → s'.status u = .active → QpCharged s' r.2 u)) ∨
    (currentTenant s' 7 = 0 ∧
      (¬ BindSucceeds (sampleWorld oneQpQuota qpControlConfig).sys 7 1 ∨
        Detached 7 1 startedSystem [.store (.unbind 7)])) := by
  refine configuredTenant_enforced (sampleWorld oneQpQuota qpControlConfig).sys 7
    tenantEnvironment 1 unboundRun (by decide) tenantEnvironment_start ?_ rfl
  intro e he u hu
  subst hu
  simp [unboundRun] at he

end RdmaIntercept.Analysis
