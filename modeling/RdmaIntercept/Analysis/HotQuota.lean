import RdmaIntercept.Analysis.Scenario

/-!
# Changing a quota takes effect at once

In a serial run of QP creations and destructions by processes of ACTIVE tenants, with
quota updates in between, the usage record of a tenant stays equal to its number of live
QPs; so the check of a creation compares that number with the quota that was set last.
-/

set_option autoImplicit false

namespace RdmaIntercept.Analysis

open RdmaIntercept.Library RdmaIntercept.Model

/-- The checks of a QP creation that are not about the tenant. -/
structure OtherChecksPass (s : System) (p : Pid) (attr : QpInitAttr) : Prop where
  type : qpTypeAllowed (s.proc p).config attr.qpType = true
  process : processLimitOk s p = true
  global : globalLimitOk s p = true

/-- The events of a run with quota updates. -/
def HotQuotaEvent (procs : Finset Pid) (w : World) : Event → Prop
  | .create p (.qp _ attr) _ => p ∈ procs ∧ OtherChecksPass w.sys p attr
  | .destroy p o _ => p ∈ procs ∧ Owns w p o ∧ o.kind = .qp
  | .store (.updateQuota _ _) => True
  | .tick _ _ => True
  | _ => False

/-- The events of such a run. -/
theorem HotQuotaEvent.cases {procs : Finset Pid} {w : World}
    {motive : ∀ e, HotQuotaEvent procs w e → Prop}
    (create : ∀ p pd attr driver (hp : p ∈ procs) (hother : OtherChecksPass w.sys p attr),
      motive (.create p (.qp pd attr) driver) ⟨hp, hother⟩)
    (destroy : ∀ p o driver (hp : p ∈ procs) (ho : o ∈ w.live) (hown : o.owner = p)
      (hkind : o.kind = .qp), motive (.destroy p o driver) ⟨hp, ⟨ho, hown⟩, hkind⟩)
    (updateQuota : ∀ u quota, motive (.store (.updateQuota u quota)) trivial)
    (tick : ∀ wall mono, motive (.tick wall mono) trivial)
    (e : Event) (he : HotQuotaEvent procs w e) : motive e he := by
  cases e with
  | create p req driver =>
    cases req with
    | qp pd attr => exact create p pd attr driver he.1 he.2
    | mr pd addr length access => exact he.elim
    | cq context cqe cqContext channel compVector => exact he.elim
    | pd context => exact he.elim
  | destroy p o driver => exact destroy p o driver he.1 he.2.1.1 he.2.1.2 he.2.2
  | store op =>
    cases op with
    | create t name quota => exact he.elim
    | delete t => exact he.elim
    | setStatus t status => exact he.elim
    | updateQuota u quota => exact updateQuota u quota
    | bind p t => exact he.elim
    | unbind p => exact he.elim
    | updateUsage t usage => exact he.elim
  | tick wall mono => exact tick wall mono
  | start p env => exact he.elim
  | exit p => exact he.elim

/-- Where such a run starts. -/
structure HotQuotaStart (procs : Finset Pid) (w : World) : Prop where
  ready : ∀ p ∈ procs, Ready w.sys p .qp
  control : ∀ p ∈ procs, (w.sys.proc p).config.enableQpControl = true
  bound : ∀ p ∈ procs, BoundTo w.sys p (currentTenant w.sys p)
  usage : ZeroUsage w.sys
  live : w.live = []

/-- The QP quota that was set last for tenant `t`, `max` if none was. -/
def lastMaxQp (t : UInt32) (max : UInt32) : List Event → UInt32
  | [] => max
  | .store (.updateQuota u quota) :: es =>
    lastMaxQp t (if u = t then quota.maxQpPerTenant else max) es
  | _ :: es => lastMaxQp t max es

/-- What a run with quota updates keeps. -/
structure HotQuotaInv (procs : Finset Pid) (s₀ : System) (w : World) : Prop where
  bindings : SameBindings s₀ w.sys
  status : ∀ t, w.sys.status t = s₀.status t
  owned : ∀ o ∈ w.live, o.tenant = currentTenant s₀ o.owner
  counts : ∀ t, t ≠ 0 → t.toNat < MAX_TENANTS → s₀.status t = .active →
    (w.sys.usage t).qpCount = Int32.ofNat (w.liveCount t .qp) ∧ w.liveCount t .qp < 2 ^ 32

theorem HotQuotaStart.inv {procs : Finset Pid} {w : World} (h : HotQuotaStart procs w) :
    HotQuotaInv procs w.sys w := by
  refine ⟨.refl _, fun _ => rfl, forall_live_of_nil h.live, ?_⟩
  intro t _ _ _
  have hcount := h.usage.count t .qp
  rw [liveCount_of_nil h.live]
  exact ⟨hcount, by omega⟩

/-- A creation is let through exactly when the live count is below the quota. -/
theorem HotQuotaInv.qpAdmitted_iff {procs : Finset Pid} {w₀ w : World}
    (hstart : HotQuotaStart procs w₀) (h : HotQuotaInv procs w₀.sys w) {p : Pid} (hp : p ∈ procs)
    {attr : QpInitAttr} (hother : OtherChecksPass w.sys p attr) :
    QpAdmitted w.sys p attr ↔ w.liveCount (currentTenant w₀.sys p) .qp <
      (w.sys.quota (currentTenant w₀.sys p)).maxQpPerTenant.toNat := by
  have hcontrol : (w.sys.proc p).config.enableQpControl = true := by
    rw [(h.bindings.settings p).config]
    exact hstart.control p hp
  have hbound := (hstart.bound p hp).congr h.bindings h.status
  obtain ⟨hcount, hlt⟩ := h.counts _ hbound.nonzero hbound.inRange (hstart.bound p hp).active
  have hread : (w.sys.usage (currentTenant w₀.sys p)).qpCount.toUInt32.toNat =
      w.liveCount (currentTenant w₀.sys p) .qp := by
    rw [hcount, Counter.toNat_toUInt32_ofNat hlt]
  unfold QpAdmitted
  rw [hbound.current, hbound.qpQuotaAllows_iff, UInt32.lt_iff_toNat_lt, hread]
  constructor
  · intro hadm
    exact (hadm hcontrol).2.1
  · intro hquota _
    exact ⟨hother.type, hquota, hother.process, hother.global⟩

/-- A call without effect keeps the invariant. -/
theorem HotQuotaInv.of_quiet {procs : Finset Pid} {s₀ : System} {w w' : World}
    (h : HotQuotaInv procs s₀ w) (hq : Quiet w w') : HotQuotaInv procs s₀ w' := by
  refine ⟨h.bindings.trans hq.sys.sameBindings, fun t => (hq.sys.status t).trans (h.status t),
    ?_, ?_⟩
  · rw [hq.live]
    exact h.owned
  · intro t h0 ht hact
    have hlive : w'.liveCount t .qp = w.liveCount t .qp := by
      unfold World.liveCount
      rw [hq.live]
    rw [hq.sys.usage, hlive]
    exact h.counts t h0 ht hact

/-- A created QP is counted, if its tenant has not run out of numbers. -/
theorem HotQuotaInv.of_creates {procs : Finset Pid} {s₀ : System} {w w' : World}
    (h : HotQuotaInv procs s₀ w) {p : Pid} {pd g : Handle} {attr : QpInitAttr}
    (hc : Creates w p (.qp pd attr) g w')
    (hfits : w.liveCount (currentTenant s₀ p) .qp + 1 < 2 ^ 32) : HotQuotaInv procs s₀ w' := by
  have hcur := h.bindings.currentTenant p
  refine ⟨h.bindings.trans hc.sameBindings, fun t => (hc.sys.status t).trans (h.status t),
    hc.forall_live hcur h.owned, ?_⟩
  intro t h0 ht hact
  obtain ⟨hcount, hlt⟩ := h.counts t h0 ht hact
  have hactive : w.sys.status t = .active := (h.status t).trans hact
  have hcases := hc.count_cases h0 ht (fun _ => hactive) .qp
  simp only [TenantResourceUsage.count] at hcases
  rcases hcases with ⟨hc1, -, hc3, hc4⟩ | ⟨-, hc3, hc4⟩
  · rw [hcur] at hc1
    subst hc1
    rw [hc3, hc4, hcount, Counter.ofNat_succ]
    exact ⟨rfl, hfits⟩
  · rw [hc3, hc4]
    exact ⟨hcount, hlt⟩

/-- A destroyed QP is no longer counted. -/
theorem HotQuotaInv.of_destroys {procs : Finset Pid} {s₀ : System} {w w' : World}
    (h : HotQuotaInv procs s₀ w) {p : Pid} {o : Obj} (hd : Destroys w p o w') (ho : o ∈ w.live)
    (hown : o.owner = p) : HotQuotaInv procs s₀ w' := by
  refine ⟨h.bindings.trans hd.sameBindings, fun t => (hd.sys.status t).trans (h.status t),
    hd.forall_live h.owned, ?_⟩
  intro t h0 ht hact
  obtain ⟨hcount, hlt⟩ := h.counts t h0 ht hact
  have hcharge : currentTenant w.sys p = o.tenant := by
    rw [h.bindings.currentTenant, h.owned o ho, hown]
  have hactive : w.sys.status t = .active := (h.status t).trans hact
  have hcases := hd.count_cases ho hcharge h0 ht (fun _ => hactive) .qp
  simp only [TenantResourceUsage.count] at hcases
  rcases hcases with ⟨hd1, hd2⟩ | ⟨hd1, hd2⟩
  · rw [hd2] at hcount hlt
    rw [hd1, hcount, Counter.ofNat_pred]
    exact ⟨rfl, by omega⟩
  · rw [hd1, hd2]
    exact ⟨hcount, hlt⟩

/-- Every event of the run keeps the invariant. -/
theorem HotQuotaInv.step {procs : Finset Pid} {w₀ w : World} (hstart : HotQuotaStart procs w₀)
    (h : HotQuotaInv procs w₀.sys w) {e : Event} (he : HotQuotaEvent procs w e) :
    HotQuotaInv procs w₀.sys (w.step e) := by
  cases e, he using HotQuotaEvent.cases with
  | create p pd attr driver hp hother =>
    have hready : Ready w.sys p .qp := h.bindings.ready (hstart.ready p hp)
    rcases step_create_cases (.qp pd attr) hready driver with ⟨-, hq⟩ | ⟨g, -, hadm, hc⟩
    · exact h.of_quiet hq
    · have hbelow := (h.qpAdmitted_iff hstart hp hother).mp hadm
      have hmax := (w.sys.quota (currentTenant w₀.sys p)).maxQpPerTenant.toNat_lt
      exact h.of_creates hc (by omega)
  | destroy p o driver hp ho hown hkind =>
    have hready : Ready w.sys p o.kind := h.bindings.readyFor hkind (hstart.ready p hp)
    rcases step_destroy_cases hready driver with ⟨-, hq⟩ | ⟨-, hd⟩
    · exact h.of_quiet hq
    · exact h.of_destroys hd ho hown
  | updateQuota u quota =>
    have hw := tenantUpdateQuota_spec w.sys.tenantShm u quota w.sys.wallClock
    refine ⟨h.bindings.trans ⟨fun _ => .refl _, hw.pidMappings⟩,
      fun t => (hw.status t).trans (h.status t), h.owned, ?_⟩
    intro t h0 ht hact
    have hcount := h.counts t h0 ht hact
    have husage : (w.step (.store (.updateQuota u quota))).sys.usage t = w.sys.usage t :=
      hw.usage t
    rw [husage]
    exact hcount
  | tick wall mono => exact ⟨h.bindings.trans ⟨fun _ => .refl _, rfl⟩, h.status, h.owned, h.counts⟩

/-- An event of the run moves the quota of a tenant that is not INACTIVE as `lastMaxQp` does. -/
theorem maxQp_step {procs : Finset Pid} {w₀ w : World} (hstart : HotQuotaStart procs w₀)
    (h : HotQuotaInv procs w₀.sys w) {e : Event} (he : HotQuotaEvent procs w e) {t : UInt32}
    (ht : t.toNat < MAX_TENANTS) (hact : w₀.sys.status t = .active) :
    ((w.step e).sys.quota t).maxQpPerTenant =
      lastMaxQp t (w.sys.quota t).maxQpPerTenant [e] := by
  cases e, he using HotQuotaEvent.cases with
  | create p pd attr driver hp hother =>
    have hready : Ready w.sys p .qp := h.bindings.ready (hstart.ready p hp)
    rcases step_create_cases (.qp pd attr) hready driver with ⟨-, hq⟩ | ⟨g, -, -, hc⟩
    · rw [hq.sys.quota]
      rfl
    · rw [hc.sys.quota]
      rfl
  | destroy p o driver hp _ _ hkind =>
    have hready : Ready w.sys p o.kind := h.bindings.readyFor hkind (hstart.ready p hp)
    rcases step_destroy_cases hready driver with ⟨-, hq⟩ | ⟨-, hd⟩
    · rw [hq.sys.quota]
      rfl
    · rw [hd.sys.quota]
      rfl
  | updateQuota u quota =>
    have hw := tenantUpdateQuota_spec w.sys.tenantShm u quota w.sys.wallClock
    have hquota : (w.step (.store (.updateQuota u quota))).sys.quota t =
        if t = u ∧ w.sys.status u ≠ .inactive then quota else w.sys.quota t := hw.quota t ht
    rw [hquota, lastMaxQp, lastMaxQp]
    by_cases hut : u = t
    · subst hut
      rw [if_pos ⟨rfl, by rw [h.status, hact]; decide⟩, if_pos rfl]
    · rw [if_neg (fun heq => hut heq.1.symm), if_neg hut]
  | tick wall mono => rfl

theorem lastMaxQp_cons (t max : UInt32) (e : Event) (es : List Event) :
    lastMaxQp t max (e :: es) = lastMaxQp t (lastMaxQp t max [e]) es := by
  cases e with
  | store op => cases op <;> rfl
  | create p req driver => rfl
  | destroy p o driver => rfl
  | tick wall mono => rfl
  | start p env => rfl
  | exit p => rfl

/-- After a run the quota of an ACTIVE tenant is the one that was set last. -/
theorem maxQp_exec {procs : Finset Pid} {w₀ : World} (hstart : HotQuotaStart procs w₀)
    {t : UInt32} (ht : t.toNat < MAX_TENANTS) (hact : w₀.sys.status t = .active)
    (es : List Event) {w : World} (h : HotQuotaInv procs w₀.sys w)
    (hrun : Along World.step (HotQuotaEvent procs) w es) :
    ((exec World.step w es).sys.quota t).maxQpPerTenant =
      lastMaxQp t (w.sys.quota t).maxQpPerTenant es := by
  induction es generalizing w with
  | nil => rfl
  | cons e es ih =>
    rw [exec_cons, ih (h.step hstart hrun.1) hrun.2, maxQp_step hstart h hrun.1 ht hact,
      ← lastMaxQp_cons]

/-- **A quota update takes effect at once and exactly.**  After any run of creations,
destructions and quota updates, a creation by a process of tenant `t` reaches the driver
exactly when `t` has fewer live QPs than the quota that was set last; else it answers
`NULL` and `EPERM` and changes no ledger. -/
theorem createQp_reaches_driver_iff (procs : Finset Pid) (w : World)
    (hstart : HotQuotaStart procs w) (es : List Event)
    (hrun : Along World.step (HotQuotaEvent procs) w es) (p : Pid) (hp : p ∈ procs)
    (pd : Handle) (attr : QpInitAttr) (driver : Option Handle)
    (hother : OtherChecksPass (exec World.step w es).sys p attr) :
    let w' := exec World.step w es
    let t := currentTenant w.sys p
    let call := ibvCreateQp w'.sys p pd attr driver
    let below := w'.liveCount t .qp < (lastMaxQp t (w.sys.quota t).maxQpPerTenant es).toNat
    (.create (.qp pd attr) ∈ call.1.driverCalls ↔ below) ∧
      (¬ below → call.1 = ⟨none, some .eperm, []⟩ ∧ Untouched w'.sys call.2) := by
  intro w' t call below
  have hinv : HotQuotaInv procs w.sys w' :=
    exec_of_step (fun _ _ hi he => hi.step hstart he) hstart.inv hrun
  have hbound := hstart.bound p hp
  have hquota := maxQp_exec hstart hbound.inRange hbound.active es hstart.inv hrun
  have hadm : Admitted w'.sys p (.qp pd attr) ↔ below := by
    have hiff := hinv.qpAdmitted_iff hstart hp hother
    rw [hquota] at hiff
    exact hiff
  have hready : Ready w'.sys p .qp := hinv.bindings.ready (hstart.ready p hp)
  have hspec : CreateOutcome w'.sys p (.qp pd attr) driver call := ibvCreateQp_spec hready driver
  constructor
  · rw [← hadm]
    constructor
    · intro hreach
      by_contra hno
      rw [(hspec.refused hno).1] at hreach
      exact absurd hreach (List.not_mem_nil)
    · intro ha
      cases driver with
      | none =>
        rw [(hspec.failed ha rfl).1]
        exact List.mem_singleton_self _
      | some h =>
        rw [(hspec.granted h ha rfl).1]
        exact List.mem_singleton_self _
  · intro hno
    exact hspec.refused (fun ha => hno (hadm.mp ha))

/-- The theorem at a run that lowers the quota of tenant 1 to 0 after a creation. -/
theorem createQp_reaches_driver_iff_lowered :
    let w := sampleWorld oneQpQuota qpControlConfig
    let es := [.create 7 (.qp 0 ⟨.rc, 1, 1⟩) (some 16),
      .store (.updateQuota 1 { oneQpQuota with maxQpPerTenant := 0 })]
    ¬ (.create (.qp 0 ⟨.rc, 1, 1⟩) ∈
      (ibvCreateQp (exec World.step w es).sys 8 0 ⟨.rc, 1, 1⟩ (some 17)).1.driverCalls) := by
  intro w es
  have hstart : HotQuotaStart {7, 8} w := by
    refine ⟨fun p _ => sampleWorld_ready _ _ p .qp rfl, fun _ _ => rfl, ?_,
      sampleWorld_zeroUsage, rfl⟩
    intro p hp
    have hbound := sampleWorld_bound p hp
    rw [hbound.current]
    exact hbound
  have hrun : Along World.step (HotQuotaEvent {7, 8}) w es :=
    ⟨⟨by decide, ⟨by decide +kernel, by decide +kernel, by decide +kernel⟩⟩, trivial, trivial⟩
  have hother : OtherChecksPass (exec World.step w es).sys 8 ⟨.rc, 1, 1⟩ :=
    ⟨by decide +kernel, by decide +kernel, by decide +kernel⟩
  have h := createQp_reaches_driver_iff {7, 8} w hstart es hrun 8 (by decide) 0 ⟨.rc, 1, 1⟩
    (some 17) hother
  rw [h.1]
  decide +kernel

end RdmaIntercept.Analysis
