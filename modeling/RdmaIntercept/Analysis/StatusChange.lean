import RdmaIntercept.Analysis.Scenario

/-!
# Quotas and status changes

The admission check refuses the processes of an INACTIVE tenant only, but a success is
booked for an ACTIVE tenant only.  In a serial run in which a tenant is suspended and
resumed, its usage record is therefore exact, and its quota kept, exactly as long as no
success falls into a suspension.
-/

set_option autoImplicit false

namespace RdmaIntercept.Analysis

open RdmaIntercept.Library RdmaIntercept.Model

/-- The events of a run with status changes of tenant `t`. -/
def StatusEvent (procs : Finset Pid) (t : UInt32) (w : World) : Event → Prop
  | .create p (.qp _ _) _ => p ∈ procs
  | .destroy p o _ => p ∈ procs ∧ Owns w p o ∧ o.kind = .qp
  | .store (.setStatus u status) => u = t ∧ status ≠ .inactive
  | .tick _ _ => True
  | _ => False

/-- The events of such a run. -/
theorem StatusEvent.cases {procs : Finset Pid} {t : UInt32} {w : World}
    {motive : ∀ e, StatusEvent procs t w e → Prop}
    (create : ∀ p pd attr driver (hp : p ∈ procs),
      motive (.create p (.qp pd attr) driver) hp)
    (destroy : ∀ p o driver (hp : p ∈ procs) (ho : o ∈ w.live) (hown : o.owner = p)
      (hkind : o.kind = .qp), motive (.destroy p o driver) ⟨hp, ⟨ho, hown⟩, hkind⟩)
    (setStatus : ∀ u (status : TenantStatus) (hset : u = t ∧ status ≠ .inactive),
      motive (.store (.setStatus u status)) hset)
    (tick : ∀ wall mono, motive (.tick wall mono) trivial)
    (e : Event) (he : StatusEvent procs t w e) : motive e he := by
  cases e with
  | create p req driver =>
    cases req with
    | qp pd attr => exact create p pd attr driver he
    | mr pd addr length access => exact he.elim
    | cq context cqe cqContext channel compVector => exact he.elim
    | pd context => exact he.elim
  | destroy p o driver => exact destroy p o driver he.1 he.2.1.1 he.2.1.2 he.2.2
  | store op =>
    cases op with
    | create t name quota => exact he.elim
    | delete t => exact he.elim
    | setStatus u status => exact setStatus u status he
    | updateQuota t quota => exact he.elim
    | bind p t => exact he.elim
    | unbind p => exact he.elim
    | updateUsage t usage => exact he.elim
  | tick wall mono => exact tick wall mono
  | start p env => exact he.elim
  | exit p => exact he.elim

/-- Where such a run starts. -/
structure StatusStart (procs : Finset Pid) (t : UInt32) (w : World) : Prop where
  ready : ∀ p ∈ procs, Ready w.sys p .qp
  control : ∀ p ∈ procs, (w.sys.proc p).config.enableQpControl = true
  bound : ∀ p ∈ procs, BoundTo w.sys p t
  usage : ZeroUsage w.sys
  live : w.live = []

/-- The quota of `t` is kept, and the usage record shows its live QPs. -/
def QuotaExact (t : UInt32) (w : World) : Prop :=
  w.liveCount t .qp ≤ (w.sys.quota t).maxQpPerTenant.toNat ∧
    (w.sys.usage t).qpCount.toInt = w.liveCount t .qp

/-- No success falls into a suspension of `t`, and the count stays in its type. -/
def BookedWhileActive (t : UInt32) (w : World) : Event → Prop
  | .create p req driver =>
    Grants w p req driver → w.sys.status t = .active ∧ w.liveCount t .qp + 1 < 2 ^ 31
  | .destroy _ _ driver => driver = 0 → w.sys.status t = .active
  | _ => True

/-- What a run with status changes keeps. -/
structure StatusInv (procs : Finset Pid) (t : UInt32) (s₀ : System) (w : World) : Prop where
  bindings : SameBindings s₀ w.sys
  owned : ∀ o ∈ w.live, o.tenant = t ∧ o.kind = .qp

theorem StatusStart.inv {procs : Finset Pid} {t : UInt32} {w : World}
    (h : StatusStart procs t w) : StatusInv procs t w.sys w :=
  ⟨.refl _, forall_live_of_nil h.live⟩

/-- An admitted creation leaves room for one more QP as long as the record is exact. -/
theorem below_of_admitted {w : World} {p : Pid} {t : UInt32} {attr : QpInitAttr}
    (hcontrol : (w.sys.proc p).config.enableQpControl = true)
    (hcur : currentTenant w.sys p = t) (h0 : t ≠ 0) (hexact : QuotaExact t w)
    (hadm : QpAdmitted w.sys p attr) :
    w.liveCount t .qp < (w.sys.quota t).maxQpPerTenant.toNat := by
  have hinit : (w.sys.proc p).tenantInitialized = true :=
    tenantInitialized_of_currentTenant (by rw [hcur]; exact h0)
  have hquota := (hadm hcontrol).2.1
  rw [hcur] at hquota
  rcases hquota with h | h | ⟨-, -, hlt⟩
  · exact absurd h h0
  · rw [hinit] at h
    exact absurd h (by decide)
  · rw [UInt32.lt_iff_toNat_lt, Counter.toNat_toUInt32_of_toInt hexact.2] at hlt
    exact hlt

theorem QuotaExact.of_quiet {t : UInt32} {w w' : World} (h : QuotaExact t w) (hq : Quiet w w') :
    QuotaExact t w' := by
  unfold QuotaExact World.liveCount
  rw [hq.live, hq.sys.quota, hq.sys.usage]
  exact h

theorem StatusInv.of_quiet {procs : Finset Pid} {t : UInt32} {s₀ : System} {w w' : World}
    (h : StatusInv procs t s₀ w) (hq : Quiet w w') : StatusInv procs t s₀ w' := by
  refine ⟨h.bindings.trans hq.sys.sameBindings, ?_⟩
  rw [hq.live]
  exact h.owned

/-- A granted creation keeps the record exact exactly when it is booked and fits. -/
theorem quotaExact_creates {w w' : World} {p : Pid} {t : UInt32} {pd h : Handle}
    {attr : QpInitAttr} (hc : Creates w p (.qp pd attr) h w') (hcur : currentTenant w.sys p = t)
    (h0 : t ≠ 0) (ht : t.toNat < MAX_TENANTS) (hexact : QuotaExact t w)
    (hbelow : w.liveCount t .qp < (w.sys.quota t).maxQpPerTenant.toNat) :
    QuotaExact t w' ↔ w.sys.status t = .active ∧ w.liveCount t .qp + 1 < 2 ^ 31 := by
  have hlive := hc.liveCount t .qp
  rw [if_pos ⟨hcur, rfl⟩] at hlive
  have hcount := hc.sys.count ht .qp
  simp only [TenantResourceUsage.count] at hcount
  unfold QuotaExact
  rw [hc.sys.quota, hcount, hlive]
  by_cases hact : w.sys.status t = .active
  · rw [if_pos ⟨⟨hcur.symm, h0, hact⟩, rfl⟩, Counter.toInt_succ_iff hexact.2]
    exact ⟨fun hboth => ⟨hact, hboth.2⟩, fun hboth => ⟨by omega, hboth.2⟩⟩
  · rw [if_neg (fun hch => hact hch.1.2.2), hexact.2]
    constructor
    · rintro ⟨-, hsame⟩
      omega
    · rintro ⟨hact', -⟩
      exact absurd hact' hact

/-- A successful destruction keeps the record exact exactly when it is booked. -/
theorem quotaExact_destroys {w w' : World} {p : Pid} {t : UInt32} {o : Obj}
    (hd : Destroys w p o w') (ho : o ∈ w.live) (hcur : currentTenant w.sys p = t)
    (hown : o.tenant = t) (hkind : o.kind = .qp) (h0 : t ≠ 0) (ht : t.toNat < MAX_TENANTS)
    (hexact : QuotaExact t w) : QuotaExact t w' ↔ w.sys.status t = .active := by
  have hlive := hd.liveCount ho t .qp
  rw [if_pos ⟨hown, hkind⟩] at hlive
  have hcount := hd.sys.count ht .qp
  simp only [TenantResourceUsage.count] at hcount
  obtain ⟨hle, hread⟩ := hexact
  rw [hlive] at hle hread
  unfold QuotaExact
  rw [hd.sys.quota, hcount]
  by_cases hact : w.sys.status t = .active
  · rw [if_pos ⟨⟨hcur.symm, h0, hact⟩, hkind⟩]
    exact ⟨fun _ => hact, fun _ => ⟨by omega, Counter.toInt_pred hread⟩⟩
  · rw [if_neg (fun hch => hact hch.1.2.2), hread]
    constructor
    · rintro ⟨-, hsame⟩
      omega
    · intro hact'
      exact absurd hact' hact

/-- One event keeps the record exact exactly when its success is booked. -/
theorem quotaExact_step {procs : Finset Pid} {t : UInt32} {w₀ w : World}
    (hstart : StatusStart procs t w₀) (h : StatusInv procs t w₀.sys w) {e : Event}
    (he : StatusEvent procs t w e) (hexact : QuotaExact t w) :
    QuotaExact t (w.step e) ↔ BookedWhileActive t w e := by
  cases e, he using StatusEvent.cases with
  | create p pd attr driver hp =>
    have hbound := hstart.bound p hp
    have hcur : currentTenant w.sys p = t :=
      (h.bindings.currentTenant p).trans hbound.current
    have hready : Ready w.sys p .qp := h.bindings.ready (hstart.ready p hp)
    have hcontrol : (w.sys.proc p).config.enableQpControl = true := by
      rw [(h.bindings.settings p).config]
      exact hstart.control p hp
    rcases step_create_cases (.qp pd attr) hready driver with
      ⟨hno, hq⟩ | ⟨g, rfl, hadm, hc⟩
    · exact ⟨fun _ hgrants => absurd hgrants hno, fun _ => hexact.of_quiet hq⟩
    · have hbelow := below_of_admitted hcontrol hcur hbound.nonzero hexact hadm
      rw [quotaExact_creates hc hcur hbound.nonzero hbound.inRange hexact hbelow]
      exact ⟨fun hboth _ => hboth, fun hbook => hbook ⟨hadm, Option.some_ne_none g⟩⟩
  | destroy p o driver hp ho _ hkind =>
    have hbound := hstart.bound p hp
    have hcur : currentTenant w.sys p = t := (h.bindings.currentTenant p).trans hbound.current
    have hready : Ready w.sys p o.kind := h.bindings.readyFor hkind (hstart.ready p hp)
    rcases step_destroy_cases hready driver with ⟨hno, hq⟩ | ⟨hzero, hd⟩
    · exact ⟨fun _ hzero => absurd hzero hno, fun _ => hexact.of_quiet hq⟩
    · rw [quotaExact_destroys hd ho hcur (h.owned o ho).1 hkind hbound.nonzero hbound.inRange
        hexact]
      exact ⟨fun hact _ => hact, fun hbook => hbook hzero⟩
  | setStatus u status hset =>
    have hw := tenantSetStatus_spec w.sys.tenantShm u status w.sys.wallClock
    have husage : (w.step (.store (.setStatus u status))).sys.usage t = w.sys.usage t :=
      hw.usage t
    have hquota : (w.step (.store (.setStatus u status))).sys.quota t = w.sys.quota t :=
      hw.quota t
    refine ⟨fun _ => trivial, fun _ => ?_⟩
    unfold QuotaExact
    rw [husage, hquota]
    exact hexact
  | tick wall mono => exact ⟨fun _ => trivial, fun _ => hexact⟩

/-- Every event of the run keeps the invariant. -/
theorem StatusInv.step {procs : Finset Pid} {t : UInt32} {w₀ w : World}
    (hstart : StatusStart procs t w₀) (h : StatusInv procs t w₀.sys w) {e : Event}
    (he : StatusEvent procs t w e) : StatusInv procs t w₀.sys (w.step e) := by
  cases e, he using StatusEvent.cases with
  | create p pd attr driver hp =>
    have hready : Ready w.sys p .qp := h.bindings.ready (hstart.ready p hp)
    rcases step_create_cases (.qp pd attr) hready driver with ⟨-, hq⟩ | ⟨g, -, -, hc⟩
    · exact h.of_quiet hq
    · have hcur : currentTenant w.sys p = t :=
        (h.bindings.currentTenant p).trans (hstart.bound p hp).current
      exact ⟨h.bindings.trans hc.sameBindings, hc.forall_live ⟨hcur, rfl⟩ h.owned⟩
  | destroy p o driver hp _ _ hkind =>
    have hready : Ready w.sys p o.kind := h.bindings.readyFor hkind (hstart.ready p hp)
    rcases step_destroy_cases hready driver with ⟨-, hq⟩ | ⟨-, hd⟩
    · exact h.of_quiet hq
    · exact ⟨h.bindings.trans hd.sameBindings, hd.forall_live h.owned⟩
  | setStatus u status hset =>
    have hw := tenantSetStatus_spec w.sys.tenantShm u status w.sys.wallClock
    exact ⟨h.bindings.trans ⟨fun _ => .refl _, hw.pidMappings⟩, h.owned⟩
  | tick wall mono =>
    exact ⟨h.bindings.trans ⟨fun _ => .refl _, rfl⟩, h.owned⟩

/-- **The quota across status changes.**  In a run with status changes of tenant `t`, its
quota is kept and its usage record shows its live QPs after every event if and only if no
QP of `t` is created or destroyed while `t` is not ACTIVE, and the count stays in its
type. -/
theorem quotaExact_iff_bookedWhileActive (procs : Finset Pid) (t : UInt32) (w : World)
    (hstart : StatusStart procs t w) (es : List Event)
    (hrun : Along World.step (StatusEvent procs t) w es) :
    Always World.step (QuotaExact t) w es ↔ Along World.step (BookedWhileActive t) w es := by
  have hexact : QuotaExact t w := by
    have hcount : (w.sys.usage t).qpCount = 0 := hstart.usage.count t .qp
    unfold QuotaExact
    rw [liveCount_of_nil hstart.live, hcount]
    exact ⟨Nat.zero_le _, rfl⟩
  exact always_iff_along (fun _ _ hi he => hi.step hstart he)
    (fun _ _ hi he hx => quotaExact_step hstart hi he hx) hstart.inv hexact hrun

theorem sampleWorld_statusStart :
    StatusStart {7, 8} 1 (sampleWorld oneQpQuota qpControlConfig) :=
  ⟨fun p _ => sampleWorld_ready _ _ p .qp rfl, fun _ _ => rfl, sampleWorld_bound,
    sampleWorld_zeroUsage, rfl⟩

/-- Tenant 1, with a quota of one QP, is suspended; then both its processes create one. -/
def suspendedRun : List Event :=
  [.store (.setStatus 1 .suspended), .create 7 (.qp 0 ⟨.rc, 1, 1⟩) (some 16),
    .create 8 (.qp 0 ⟨.rc, 1, 1⟩) (some 17)]

theorem suspendedRun_events :
    Along World.step (StatusEvent {7, 8} 1) (sampleWorld oneQpQuota qpControlConfig)
      suspendedRun :=
  ⟨⟨rfl, by decide⟩, Finset.mem_insert_self _ _,
    Finset.mem_insert_of_mem (Finset.mem_singleton_self _), trivial⟩

/-- Both creations are granted, and neither is recorded. -/
theorem suspended_tenant_exceeds_quota :
    StatusStart {7, 8} 1 (sampleWorld oneQpQuota qpControlConfig) ∧
      Along World.step (StatusEvent {7, 8} 1) (sampleWorld oneQpQuota qpControlConfig)
        suspendedRun ∧
      ¬ Always World.step (QuotaExact 1) (sampleWorld oneQpQuota qpControlConfig)
        suspendedRun := by
  refine ⟨sampleWorld_statusStart, suspendedRun_events, ?_⟩
  intro h
  have hexact := h.last
  have hlive : (exec World.step (sampleWorld oneQpQuota qpControlConfig)
      suspendedRun).liveCount 1 .qp = 2 := by decide +kernel
  have hmax : ((exec World.step (sampleWorld oneQpQuota qpControlConfig)
      suspendedRun).sys.quota 1).maxQpPerTenant = 1 := by decide +kernel
  have hle := hexact.1
  rw [hlive, hmax] at hle
  exact absurd hle (by decide)

/-- The theorem at a run whose suspension falls between a creation and a refusal. -/
theorem quotaExact_iff_bookedWhileActive_refused :
    Always World.step (QuotaExact 1) (sampleWorld oneQpQuota qpControlConfig)
      [.create 7 (.qp 0 ⟨.rc, 1, 1⟩) (some 16), .store (.setStatus 1 .suspended),
        .create 8 (.qp 0 ⟨.rc, 1, 1⟩) none] := by
  refine (quotaExact_iff_bookedWhileActive {7, 8} 1 _ sampleWorld_statusStart _ ?_).mpr ?_
  · exact ⟨Finset.mem_insert_self _ _, ⟨rfl, by decide⟩,
      Finset.mem_insert_of_mem (Finset.mem_singleton_self _), trivial⟩
  · exact ⟨fun _ => ⟨by decide +kernel, by decide +kernel⟩, trivial,
      fun hgrants => absurd rfl hgrants.2, trivial⟩

end RdmaIntercept.Analysis
