import RdmaIntercept.Analysis.WorldSpec

/-!
# Scenarios

The assumptions that the runs below share: which process belongs to which tenant, from
which usage records a run starts, and which object a process may destroy.  At the end
stands the world of two tenants and two processes in which the witnesses and the failing
runs are evaluated.
-/

set_option autoImplicit false

namespace RdmaIntercept.Analysis

open RdmaIntercept.Library RdmaIntercept.Model

/-- Process `p` belongs to the ACTIVE tenant `t`. -/
structure BoundTo (s : System) (p : Pid) (t : UInt32) : Prop where
  current : currentTenant s p = t
  nonzero : t ≠ 0
  inRange : t.toNat < MAX_TENANTS
  active : s.status t = .active

/-- No tenant has used anything yet. -/
def ZeroUsage (s : System) : Prop := ∀ i, (s.tenantShm.tenants i).usage = .zero

/-- Process `p` has made the object `o`, and `o` is still there. -/
def Owns (w : World) (p : Pid) (o : Obj) : Prop := o ∈ w.live ∧ o.owner = p

theorem ZeroUsage.usage {s : System} (h : ZeroUsage s) (t : UInt32) : s.usage t = .zero := h _

theorem ZeroUsage.count {s : System} (h : ZeroUsage s) (t : UInt32) (k : ResourceKind) :
    (s.usage t).count k = 0 := by
  rw [h.usage, count_zero]

theorem forall_live_of_nil {w : World} (h : w.live = []) {Q : Obj → Prop} :
    ∀ o ∈ w.live, Q o := by
  rw [h]
  exact List.forall_mem_nil Q

theorem liveCount_of_nil {w : World} (h : w.live = []) (t : UInt32) (k : ResourceKind) :
    w.liveCount t k = 0 := by
  unfold World.liveCount
  rw [h, countOf_nil]

theorem BoundTo.congr {s s' : System} (h : SameBindings s s')
    (hstatus : ∀ t, s'.status t = s.status t) {p : Pid} {t : UInt32} (hb : BoundTo s p t) :
    BoundTo s' p t :=
  ⟨(h.currentTenant p).trans hb.current, hb.nonzero, hb.inRange, (hstatus t).trans hb.active⟩

theorem BoundTo.initialized {s : System} {p : Pid} {t : UInt32} (h : BoundTo s p t) :
    (s.proc p).tenantInitialized = true := by
  apply tenantInitialized_of_currentTenant
  rw [h.current]
  exact h.nonzero

/-- A process that is charged passes the QP check of its ACTIVE tenant exactly when the
recorded count, cast as the code casts it, is below the quota. -/
theorem BoundTo.qpQuotaAllows_iff {s : System} {p : Pid} {t : UInt32} (h : BoundTo s p t) :
    QpQuotaAllows s p t ↔ (s.usage t).qpCount.toUInt32 < (s.quota t).maxQpPerTenant := by
  unfold QpQuotaAllows
  constructor
  · rintro (h0 | hno | ⟨-, -, hlt⟩)
    · exact absurd h0 h.nonzero
    · exact absurd (h.initialized.symm.trans hno) Bool.false_ne_true.symm
    · exact hlt
  · intro hlt
    exact Or.inr (Or.inr ⟨h.inRange, by rw [h.active]; decide, hlt⟩)

/-! ## Mappings -/

/-- Every mapping names an ACTIVE tenant or the default tenant. -/
def MappingsActive (s : System) : Prop :=
  ∀ i, (s.tenantShm.pidMappings i).tenantId ≠ 0 →
    (s.tenantShm.pidMappings i).tenantId.toNat < MAX_TENANTS ∧
      s.status (s.tenantShm.pidMappings i).tenantId = .active

theorem tenantOf_getD (shm : TenantShm) (p : Pid) :
    (shm.tenantOf p).getD 0 = 0 ∨ ∃ i, (shm.tenantOf p).getD 0 = (shm.pidMappings i).tenantId := by
  unfold TenantShm.tenantOf
  cases SlotTable.slotOf shm.mappedPid p with
  | none => exact Or.inl rfl
  | some i => exact Or.inr ⟨i, rfl⟩

/-- A process that is charged belongs to an ACTIVE tenant. -/
theorem MappingsActive.boundTo {s : System} (h : MappingsActive s) {p : Pid}
    (hp : currentTenant s p ≠ 0) : BoundTo s p (currentTenant s p) := by
  have hcur := currentTenant_eq s p
  rw [if_pos (tenantInitialized_of_currentTenant hp)] at hcur
  rcases tenantOf_getD s.tenantShm p with h0 | ⟨i, hi⟩
  · exact absurd (hcur.trans h0) hp
  · have hact := h i (by rw [← hi, ← hcur]; exact hp)
    rw [← hi, ← hcur] at hact
    exact ⟨rfl, hp, hact.1, hact.2⟩

/-- So the tenant that a call is charged to is ACTIVE. -/
theorem MappingsActive.active {s : System} (h : MappingsActive s) {p : Pid} {t : UInt32}
    (h0 : t ≠ 0) (hcur : currentTenant s p = t) : s.status t = .active := by
  rw [← hcur] at h0 ⊢
  exact (h.boundTo h0).active

theorem MappingsActive.congr {s s' : System} (h : MappingsActive s)
    (hmap : s'.tenantShm.pidMappings = s.tenantShm.pidMappings)
    (hstatus : ∀ t, s'.status t = s.status t) : MappingsActive s' := by
  unfold MappingsActive
  rw [hmap]
  intro i hi
  rw [hstatus]
  exact h i hi

/-- Writing one mapping keeps the others. -/
theorem MappingsActive.update {s s' : System} (h : MappingsActive s) {i : Fin MAX_PROCESSES}
    {m : PidTenantMapping}
    (hmap : s'.tenantShm.pidMappings = Function.update s.tenantShm.pidMappings i m)
    (hstatus : ∀ t, s'.status t = s.status t)
    (hm : m.tenantId ≠ 0 → m.tenantId.toNat < MAX_TENANTS ∧ s.status m.tenantId = .active) :
    MappingsActive s' := by
  unfold MappingsActive
  rw [hmap]
  intro j hj
  rw [hstatus]
  by_cases hji : j = i
  · rw [hji, Function.update_self] at hj ⊢
    exact hm hj
  · rw [Function.update_of_ne hji] at hj ⊢
    exact h j hj

theorem currentTenant_inRange {s : System} (h : MappingsActive s) (p : Pid) :
    (currentTenant s p).toNat < MAX_TENANTS := by
  by_cases h0 : currentTenant s p = 0
  · rw [h0]
    decide
  · exact (h.boundTo h0).inRange

/-- Binding keeps the mappings on ACTIVE tenants. -/
theorem MappingsActive.bind {s : System} (h : MappingsActive s) (p : Pid) (t : UInt32) :
    MappingsActive { s with tenantShm := (tenantBindProcess s.tenantShm p t s.wallClock).2 } := by
  rcases tenantBindProcess_cases s.tenantShm p t s.wallClock with ⟨-, hno⟩ | ⟨-, hb⟩
  · exact h.congr hno.pidMappings (fun u => congrArg TenantInfo.status (hno.tenant u))
  · obtain ⟨i, -, hmap⟩ := hb.stored
    exact h.update hmap hb.toTenantsKept.sysStatus (fun _ => ⟨hb.inRange, hb.active⟩)

/-- Unbinding keeps the mappings on ACTIVE tenants. -/
theorem MappingsActive.unbind {s : System} (h : MappingsActive s) (p : Pid) :
    MappingsActive { s with tenantShm := (tenantUnbindProcess s.tenantShm p s.wallClock).2 } := by
  have hkept := tenantUnbindProcess_kept s.tenantShm p s.wallClock
  have hmap := tenantUnbindProcess_pidMappings s.tenantShm p s.wallClock
  cases hslot : SlotTable.slotOf s.tenantShm.mappedPid p with
  | none =>
    rw [hslot] at hmap
    exact h.congr hmap hkept.sysStatus
  | some i =>
    rw [hslot] at hmap
    exact h.update hmap hkept.sysStatus (fun hne => absurd rfl hne)

theorem tenantBindProcess_kept (shm : TenantShm) (p : Pid) (t : UInt32) (now : TimeT) :
    TenantsKept shm (tenantBindProcess shm p t now).2 := by
  rcases tenantBindProcess_cases shm p t now with ⟨-, hno⟩ | ⟨-, hb⟩
  · exact hno.toSameRecords.tenantsKept
  · exact hb.toTenantsKept

/-! ## A world to evaluate in -/

/-- The tenant segment after a manager has created the tenants 1 and 2 with one quota and has
bound the processes 7 and 8 to tenant 1. -/
def sampleStore (quota : TenantQuota) : TenantShm :=
  [StoreOp.create 1 none (some quota), .create 2 none (some quota), .bind 7 1, .bind 8 1].foldl
    (fun shm op => (op.exec shm 0).2) (.fresh 0)

/-- Every process has the library loaded, both segments mapped and the given settings. -/
def sampleWorld (quota : TenantQuota) (config : InterceptConfig) : World where
  sys :=
    { tenantShm := sampleStore quota
      shm := .fresh 0
      proc := fun _ =>
        { ProcState.unstarted with
          initialized := true
          config := config
          tenantInitialized := true
          shmAttached := true
          realCreate := fun _ => true
          realDestroy := fun _ => true }
      wallClock := 0
      monoClock := 0 }
  live := []
  alive := {7, 8}
  reclaimed := []

/-- The default settings with QP control on. -/
def qpControlConfig : InterceptConfig := { InterceptConfig.default with enableQpControl := true }

/-- The default quota with a limit of one QP. -/
def oneQpQuota : TenantQuota := { defaultQuota with maxQpPerTenant := 1 }

theorem sampleWorld_ready (quota : TenantQuota) (config : InterceptConfig) (p : Pid)
    (kind : ResourceKind) (h : config.enableIntercept = true) :
    Ready (sampleWorld quota config).sys p kind :=
  ⟨by simp [sampleWorld, rdmaInterceptIsEnabled, h], rfl, rfl⟩

theorem sampleWorld_bound : ∀ p ∈ ({7, 8} : Finset Pid),
    BoundTo (sampleWorld oneQpQuota qpControlConfig).sys p 1 := by
  intro p hp
  rcases Finset.mem_insert.mp hp with rfl | hp
  · exact ⟨by decide +kernel, by decide, by decide, by decide +kernel⟩
  · obtain rfl := Finset.mem_singleton.mp hp
    exact ⟨by decide +kernel, by decide, by decide, by decide +kernel⟩

theorem sampleWorld_zeroUsage : ZeroUsage (sampleWorld oneQpQuota qpControlConfig).sys := by
  unfold ZeroUsage
  decide +kernel

end RdmaIntercept.Analysis
