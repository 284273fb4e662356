import RdmaIntercept.Analysis.Scenario

/-!
# Processes that move between tenants

Each hook looks up the tenant of its process afresh, and no object remembers the tenant
that was charged for it.  In a serial run in which processes are bound and unbound, the
counts of every tenant are the numbers of the live objects created in it exactly as long
as every destruction finds its process in the tenant of the object.
-/

set_option autoImplicit false

namespace RdmaIntercept.Analysis

open RdmaIntercept.Library RdmaIntercept.Model

/-- The events of a run in which processes move. -/
def MovingEvent (procs : Finset Pid) (w : World) : Event → Prop
  | .create p _ _ => p ∈ procs
  | .destroy p o _ => p ∈ procs ∧ Owns w p o
  | .store (.bind _ _) => True
  | .store (.unbind _) => True
  | .tick _ _ => True
  | _ => False

/-- The events of such a run. -/
theorem MovingEvent.cases {procs : Finset Pid} {w : World}
    {motive : ∀ e, MovingEvent procs w e → Prop}
    (create : ∀ p req driver (hp : p ∈ procs), motive (.create p req driver) hp)
    (destroy : ∀ p o driver (hp : p ∈ procs) (ho : o ∈ w.live) (hown : o.owner = p),
      motive (.destroy p o driver) ⟨hp, ho, hown⟩)
    (bind : ∀ p t, motive (.store (.bind p t)) trivial)
    (unbind : ∀ p, motive (.store (.unbind p)) trivial)
    (tick : ∀ wall mono, motive (.tick wall mono) trivial)
    (e : Event) (he : MovingEvent procs w e) : motive e he := by
  cases e with
  | create p req driver => exact create p req driver he
  | destroy p o driver => exact destroy p o driver he.1 he.2.1 he.2.2
  | store op =>
    cases op with
    | create t name quota => exact he.elim
    | delete t => exact he.elim
    | setStatus t status => exact he.elim
    | updateQuota t quota => exact he.elim
    | bind p t => exact bind p t
    | unbind p => exact unbind p
    | updateUsage t usage => exact he.elim
  | tick wall mono => exact tick wall mono
  | start p env => exact he.elim
  | exit p => exact he.elim

/-- Where such a run starts. -/
structure MovingStart (procs : Finset Pid) (w : World) : Prop where
  ready : ∀ p ∈ procs, ∀ k, Ready w.sys p k
  mappings : MappingsActive w.sys
  usage : ZeroUsage w.sys
  live : w.live = []

/-- The counts of every tenant show its live objects. -/
def CountsExact (w : World) : Prop :=
  ∀ t : UInt32, t ≠ 0 → t.toNat < MAX_TENANTS → ∀ k,
    ((w.sys.usage t).count k).toInt = w.liveCount t k

/-- The charges of every tenant are those of the live objects created in it. -/
structure ChargesFollowObjects (w : World) : Prop where
  counts : CountsExact w
  nonneg : ∀ t : UInt32, t ≠ 0 → t.toNat < MAX_TENANTS → ∀ k,
    0 ≤ ((w.sys.usage t).count k).toInt
  served : ∀ (t : UInt32) (p : Pid), t ≠ 0 → t.toNat < MAX_TENANTS →
    w.sys.status t = .active → w.liveCount t .qp < (w.sys.quota t).maxQpPerTenant.toNat →
    (checkTenantQpLimit w.sys p t).1 = true

/-- A destruction finds its process in the tenant of the object, and a creation keeps the
count of the tenant in its type. -/
def ChargedWhereCreated (w : World) : Event → Prop
  | .create p req driver =>
    Grants w p req driver → currentTenant w.sys p ≠ 0 →
      w.liveCount (currentTenant w.sys p) req.kind + 1 < 2 ^ 31
  | .destroy p o driver => driver = 0 → currentTenant w.sys p = o.tenant
  | _ => True

/-- What a run in which processes move keeps. -/
structure MovingInv (s₀ : System) (w : World) : Prop where
  settings : ∀ p, SameSettings (s₀.proc p) (w.sys.proc p)
  mappings : MappingsActive w.sys
  owned : ∀ o ∈ w.live, o.tenant.toNat < MAX_TENANTS

/-- The counts decide the rest. -/
theorem chargesFollowObjects_iff (w : World) : ChargesFollowObjects w ↔ CountsExact w := by
  constructor
  · exact ChargesFollowObjects.counts
  · intro h
    refine ⟨h, ?_, ?_⟩
    · intro t h0 ht k
      rw [h t h0 ht k]
      exact Int.natCast_nonneg _
    · intro t p h0 ht hact hlt
      have hread : (w.sys.usage t).qpCount.toUInt32.toNat = w.liveCount t .qp :=
        Counter.toNat_toUInt32_of_toInt (h t h0 ht .qp)
      rw [checkTenantQpLimit_iff]
      refine Or.inr (Or.inr ⟨ht, ?_, ?_⟩)
      · rw [hact]
        decide
      · rw [UInt32.lt_iff_toNat_lt, hread]
        exact hlt

theorem CountsExact.of_quiet {w w' : World} (h : CountsExact w) (hq : Quiet w w') :
    CountsExact w' := by
  intro t h0 ht k
  have hcount := h t h0 ht k
  unfold World.liveCount at hcount ⊢
  rw [hq.live, hq.sys.usage]
  exact hcount

theorem MovingInv.of_quiet {s₀ : System} {w w' : World} (h : MovingInv s₀ w) (hq : Quiet w w') :
    MovingInv s₀ w' := by
  refine ⟨fun p => (h.settings p).trans (hq.sys.sameBindings.settings p),
    h.mappings.congr hq.sys.records.pidMappings hq.sys.status, ?_⟩
  rw [hq.live]
  exact h.owned

/-- A creation keeps the counts exact exactly when the charged count fits its type. -/
theorem countsExact_creates {w w' : World} {p : Pid} {req : CreateReq} {g : Handle}
    (hm : MappingsActive w.sys) (hc : Creates w p req g w') (hexact : CountsExact w) :
    CountsExact w' ↔ (currentTenant w.sys p ≠ 0 →
      w.liveCount (currentTenant w.sys p) req.kind + 1 < 2 ^ 31) := by
  constructor
  · intro h h0
    have hrange := (hm.boundTo h0).inRange
    have hbefore := hexact _ h0 hrange req.kind
    have hafter := h _ h0 hrange req.kind
    rcases hc.count_cases h0 hrange (hm.active h0) req.kind with
      ⟨-, -, hcount, hlive⟩ | ⟨hno, -, -⟩
    · rw [hcount, hlive, Counter.toInt_succ_iff hbefore] at hafter
      exact hafter
    · exact absurd ⟨rfl, rfl⟩ hno
  · intro hfits t h0 ht k
    have hbefore := hexact t h0 ht k
    rcases hc.count_cases h0 ht (hm.active h0) k with
      ⟨hcur, rfl, hcount, hlive⟩ | ⟨-, hcount, hlive⟩
    · rw [hcount, hlive, Counter.toInt_succ_iff hbefore, ← hcur]
      exact hfits (by rw [hcur]; exact h0)
    · rw [hcount, hlive]
      exact hbefore

/-- A successful destruction keeps the counts exact exactly when its process is in the
tenant of the object. -/
theorem countsExact_destroys {w w' : World} {p : Pid} {o : Obj} (hm : MappingsActive w.sys)
    (hd : Destroys w p o w') (ho : o ∈ w.live) (hrange : o.tenant.toNat < MAX_TENANTS)
    (hexact : CountsExact w) : CountsExact w' ↔ currentTenant w.sys p = o.tenant := by
  constructor
  · intro h
    by_contra hne
    by_cases h0 : o.tenant = 0
    · -- an object of the default tenant is refunded to the tenant of the process
      have hcur : currentTenant w.sys p ≠ 0 := fun hz => hne (hz.trans h0.symm)
      have hbound := hm.boundTo hcur
      have hbefore := hexact _ hcur hbound.inRange o.kind
      have hafter := h _ hcur hbound.inRange o.kind
      have hcount := hd.sys.count hbound.inRange o.kind
      have hlive := hd.liveCount ho (currentTenant w.sys p) o.kind
      rw [if_pos ⟨⟨rfl, hcur, hbound.active⟩, rfl⟩] at hcount
      rw [if_neg (fun heq => hne heq.1.symm), Nat.add_zero] at hlive
      rw [hcount, ← hlive, ← hbefore] at hafter
      have hsame : (w.sys.usage (currentTenant w.sys p)).count o.kind + (-1) =
          (w.sys.usage (currentTenant w.sys p)).count o.kind := Int32.toInt_inj.mp hafter
      rw [Int32.add_eq_left] at hsame
      exact absurd hsame (by decide)
    · -- the tenant of the object is not refunded
      have hbefore := hexact _ h0 hrange o.kind
      have hafter := h _ h0 hrange o.kind
      have hcount := hd.sys.count hrange o.kind
      have hlive := hd.liveCount ho o.tenant o.kind
      rw [if_neg (fun hch => hne hch.1.1.symm)] at hcount
      rw [if_pos ⟨rfl, rfl⟩] at hlive
      rw [hcount, hbefore] at hafter
      omega
  · intro hcur t h0 ht k
    have hbefore := hexact t h0 ht k
    rcases hd.count_cases ho hcur h0 ht (hm.active h0) k with ⟨hcount, hlive⟩ | ⟨hcount, hlive⟩
    · rw [hlive] at hbefore
      rw [hcount]
      exact Counter.toInt_pred hbefore
    · rw [hcount, hlive]
      exact hbefore

theorem MovingInv.ready {procs : Finset Pid} {w₀ w : World} (hstart : MovingStart procs w₀)
    (h : MovingInv w₀.sys w) {p : Pid} (hp : p ∈ procs) (k : ResourceKind) : Ready w.sys p k :=
  (hstart.ready p hp k).congr (h.settings p)

/-- Every event of the run keeps the invariant. -/
theorem MovingInv.step {procs : Finset Pid} {w₀ w : World} (hstart : MovingStart procs w₀)
    (h : MovingInv w₀.sys w) {e : Event} (he : MovingEvent procs w e) :
    MovingInv w₀.sys (w.step e) := by
  cases e, he using MovingEvent.cases with
  | create p req driver hp =>
    rcases step_create_cases req (h.ready hstart hp req.kind) driver with ⟨-, hq⟩ | ⟨g, -, -, hc⟩
    · exact h.of_quiet hq
    · exact ⟨fun q => (h.settings q).trans (hc.sameBindings.settings q),
        h.mappings.congr hc.sys.pidMappings hc.sys.status,
        hc.forall_live (currentTenant_inRange h.mappings p) h.owned⟩
  | destroy p o driver hp _ _ =>
    rcases step_destroy_cases (h.ready hstart hp o.kind) driver with ⟨-, hq⟩ | ⟨-, hd⟩
    · exact h.of_quiet hq
    · exact ⟨fun q => (h.settings q).trans (hd.sameBindings.settings q),
        h.mappings.congr hd.sys.pidMappings hd.sys.status, hd.forall_live h.owned⟩
  | bind p t => exact ⟨h.settings, h.mappings.bind p t, h.owned⟩
  | unbind p => exact ⟨h.settings, h.mappings.unbind p, h.owned⟩
  | tick wall mono => exact ⟨h.settings, h.mappings, h.owned⟩

/-- One event keeps the counts exact exactly when it charges the right tenant. -/
theorem countsExact_step {procs : Finset Pid} {w₀ w : World} (hstart : MovingStart procs w₀)
    (h : MovingInv w₀.sys w) {e : Event} (he : MovingEvent procs w e) (hexact : CountsExact w) :
    CountsExact (w.step e) ↔ ChargedWhereCreated w e := by
  cases e, he using MovingEvent.cases with
  | create p req driver hp =>
    rcases step_create_cases req (h.ready hstart hp req.kind) driver with
      ⟨hno, hq⟩ | ⟨g, rfl, hadm, hc⟩
    · exact ⟨fun _ hgrants => absurd hgrants hno, fun _ => hexact.of_quiet hq⟩
    · rw [countsExact_creates h.mappings hc hexact]
      exact ⟨fun hfits _ => hfits, fun hfits => hfits ⟨hadm, Option.some_ne_none g⟩⟩
  | destroy p o driver hp ho _ =>
    rcases step_destroy_cases (h.ready hstart hp o.kind) driver with ⟨hno, hq⟩ | ⟨hzero, hd⟩
    · exact ⟨fun _ hzero => absurd hzero hno, fun _ => hexact.of_quiet hq⟩
    · rw [countsExact_destroys h.mappings hd ho (h.owned o ho) hexact]
      exact ⟨fun hcur _ => hcur, fun hcur => hcur hzero⟩
  | bind p t =>
    have hkept := tenantBindProcess_kept w.sys.tenantShm p t w.sys.wallClock
    have husage : ∀ u, (w.step (.store (.bind p t))).sys.usage u = w.sys.usage u :=
      hkept.sysUsage
    refine ⟨fun _ => trivial, fun _ u h0 hu k => ?_⟩
    rw [husage]
    exact hexact u h0 hu k
  | unbind p =>
    have hkept := tenantUnbindProcess_kept w.sys.tenantShm p w.sys.wallClock
    have husage : ∀ u, (w.step (.store (.unbind p))).sys.usage u = w.sys.usage u :=
      hkept.sysUsage
    refine ⟨fun _ => trivial, fun _ u h0 hu k => ?_⟩
    rw [husage]
    exact hexact u h0 hu k
  | tick wall mono => exact ⟨fun _ => trivial, fun _ => hexact⟩

/-- **Charges follow their object** after every event of a run in which processes move if
and only if every successful destruction finds its process in the tenant in which the
object was created, and every count stays in its type. -/
theorem chargesFollowObjects_iff_chargedWhereCreated (procs : Finset Pid) (w : World)
    (hstart : MovingStart procs w) (es : List Event)
    (hrun : Along World.step (MovingEvent procs) w es) :
    Always World.step ChargesFollowObjects w es ↔
      Along World.step ChargedWhereCreated w es := by
  have hinv : MovingInv w.sys w :=
    ⟨fun _ => .refl _, hstart.mappings, forall_live_of_nil hstart.live⟩
  have hexact : ChargesFollowObjects w := by
    rw [chargesFollowObjects_iff]
    intro t _ _ k
    rw [hstart.usage.count, liveCount_of_nil hstart.live]
    rfl
  apply always_iff_along (fun _ _ hi he => hi.step hstart he) ?_ hinv hexact hrun
  intro w' e hi he hx
  rw [chargesFollowObjects_iff] at hx ⊢
  exact countsExact_step hstart hi he hx

theorem sampleWorld_movingStart :
    MovingStart {7, 8} (sampleWorld oneQpQuota qpControlConfig) := by
  refine ⟨fun p _ k => sampleWorld_ready _ _ p k rfl, ?_, sampleWorld_zeroUsage, rfl⟩
  unfold MappingsActive
  decide +kernel

/-- Process 7 creates a QP in tenant 1, is moved to tenant 2 and destroys the QP there. -/
def movedRun : List Event :=
  [.create 7 (.qp 0 ⟨.rc, 1, 1⟩) (some 16), .store (.bind 7 2), .destroy 7 ⟨16, .qp, 7, 1, 0⟩ 0]

theorem movedRun_events :
    Along World.step (MovingEvent {7, 8}) (sampleWorld oneQpQuota qpControlConfig) movedRun :=
  ⟨Finset.mem_insert_self _ _, trivial, ⟨Finset.mem_insert_self _ _, by decide +kernel, rfl⟩,
    trivial⟩

/-- Tenant 1 keeps the charge and tenant 2 gets the refund. -/
theorem moved_process_refunds_other_tenant :
    MovingStart {7, 8} (sampleWorld oneQpQuota qpControlConfig) ∧
      Along World.step (MovingEvent {7, 8}) (sampleWorld oneQpQuota qpControlConfig) movedRun ∧
      ¬ Always World.step ChargesFollowObjects (sampleWorld oneQpQuota qpControlConfig)
        movedRun := by
  refine ⟨sampleWorld_movingStart, movedRun_events, ?_⟩
  intro h
  have hend := h.last
  have hcount : ((exec World.step (sampleWorld oneQpQuota qpControlConfig)
      movedRun).sys.usage 2).qpCount = -1 := by decide +kernel
  have hneg := hend.nonneg 2 (by decide) (by decide) .qp
  rw [TenantResourceUsage.count, hcount] at hneg
  exact absurd hneg (by decide)

/-- The theorem at that run. -/
theorem chargesFollowObjects_iff_chargedWhereCreated_moved :
    ¬ Always World.step ChargesFollowObjects (sampleWorld oneQpQuota qpControlConfig)
      movedRun := by
  rw [chargesFollowObjects_iff_chargedWhereCreated {7, 8} _ sampleWorld_movingStart movedRun
    movedRun_events]
  rintro ⟨-, -, hdestroy, -⟩
  have hcur : currentTenant (exec World.step (sampleWorld oneQpQuota qpControlConfig)
      (movedRun.take 2)).sys 7 = 2 := by decide +kernel
  have hown := hcur.symm.trans (hdestroy rfl)
  exact absurd hown (by decide)

end RdmaIntercept.Analysis
