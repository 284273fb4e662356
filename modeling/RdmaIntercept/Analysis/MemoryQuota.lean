import Mathlib.Algebra.GroupWithZero.Nat
import RdmaIntercept.Analysis.Scenario

/-!
# The memory quota of a tenant

A registration is checked against `usage.memory_used`, but no hook ever writes that
field.  In a serial run of registrations and deregistrations it is therefore the sum of
the registered lengths, and the memory quota is kept, exactly as long as every granted
registration is of length zero.
-/

set_option autoImplicit false

namespace RdmaIntercept.Analysis

open RdmaIntercept.Library RdmaIntercept.Model

/-- The bytes that the MRs of tenant `t` in a list register. -/
def memoryOf (objs : List Obj) (t : UInt32) : ℕ :=
  (objs.map fun o => if o.tenant = t ∧ o.kind = .mr then o.length.toNat else 0).sum

/-- The events of a run of registrations and deregistrations. -/
def MemoryEvent (procs : Finset Pid) (w : World) : Event → Prop
  | .create p (.mr _ _ _ _) _ => p ∈ procs
  | .destroy p o _ => p ∈ procs ∧ Owns w p o ∧ o.kind = .mr
  | .tick _ _ => True
  | _ => False

/-- The events of such a run. -/
theorem MemoryEvent.cases {procs : Finset Pid} {w : World}
    {motive : ∀ e, MemoryEvent procs w e → Prop}
    (create : ∀ p pd addr length access driver (hp : p ∈ procs),
      motive (.create p (.mr pd addr length access) driver) hp)
    (destroy : ∀ p o driver (hp : p ∈ procs) (ho : o ∈ w.live) (hown : o.owner = p)
      (hkind : o.kind = .mr), motive (.destroy p o driver) ⟨hp, ⟨ho, hown⟩, hkind⟩)
    (tick : ∀ wall mono, motive (.tick wall mono) trivial)
    (e : Event) (he : MemoryEvent procs w e) : motive e he := by
  cases e with
  | create p req driver =>
    cases req with
    | mr pd addr length access => exact create p pd addr length access driver he
    | qp pd attr => exact he.elim
    | cq context cqe cqContext channel compVector => exact he.elim
    | pd context => exact he.elim
  | destroy p o driver => exact destroy p o driver he.1 he.2.1.1 he.2.1.2 he.2.2
  | store op => exact he.elim
  | tick wall mono => exact tick wall mono
  | start p env => exact he.elim
  | exit p => exact he.elim

/-- Where such a run starts. -/
structure MemoryStart (procs : Finset Pid) (t : UInt32) (w : World) : Prop where
  ready : ∀ p ∈ procs, Ready w.sys p .mr
  bound : ∀ p ∈ procs, BoundTo w.sys p t
  quota : 0 < (w.sys.quota t).maxMemoryPerTenant
  usage : ZeroUsage w.sys
  live : w.live = []

/-- The usage record shows the registered bytes of `t`, and they keep the quota `max`. -/
def MemoryExact (t : UInt32) (max : UInt64) (w : World) : Prop :=
  (w.sys.usage t).memoryUsed.toNat = memoryOf w.live t ∧ memoryOf w.live t ≤ max.toNat

/-- A granted registration is of length zero. -/
def RegistersNothing (w : World) : Event → Prop
  | .create p req driver => Grants w p req driver → req.length = 0
  | _ => True

/-- What a run of registrations and deregistrations keeps. -/
structure MemoryInv (t : UInt32) (s₀ : System) (w : World) : Prop where
  bindings : SameBindings s₀ w.sys
  unwritten : (w.sys.usage t).memoryUsed = 0

theorem memoryOf_cons (o : Obj) (objs : List Obj) (t : UInt32) :
    memoryOf (o :: objs) t =
      (if o.tenant = t ∧ o.kind = .mr then o.length.toNat else 0) + memoryOf objs t := by
  simp [memoryOf]

theorem memoryOf_erase {o : Obj} {objs : List Obj} (h : o ∈ objs) (t : UInt32) :
    memoryOf objs t =
      (if o.tenant = t ∧ o.kind = .mr then o.length.toNat else 0) + memoryOf (objs.erase o) t := by
  rw [← memoryOf_cons]
  exact ((List.perm_cons_erase h).map _).sum_nat

/-- No booking touches `memory_used`. -/
theorem Booked.memoryUsed {s s' : System} {p : Pid} {kind : ResourceKind} {delta : Int32}
    {st : ProcState} {shm : SharedMemoryData} (hb : Booked s p kind delta st shm s')
    {t : UInt32} (ht : t.toNat < MAX_TENANTS) :
    (s'.usage t).memoryUsed = (s.usage t).memoryUsed := by
  rw [hb.usage t ht]
  split
  · exact memoryUsed_adjust _ _ _
  · rfl

theorem MemoryStart.inv {procs : Finset Pid} {t : UInt32} {w : World}
    (h : MemoryStart procs t w) : MemoryInv t w.sys w := by
  refine ⟨.refl _, ?_⟩
  rw [h.usage.usage]
  rfl

/-- Every event of the run keeps the invariant. -/
theorem MemoryInv.step {procs : Finset Pid} {t : UInt32} {w₀ w : World}
    (hstart : MemoryStart procs t w₀) (h : MemoryInv t w₀.sys w) {e : Event}
    (he : MemoryEvent procs w e) : MemoryInv t w₀.sys (w.step e) := by
  cases e, he using MemoryEvent.cases with
  | create p pd addr length access driver hp =>
    have hready : Ready w.sys p .mr := h.bindings.ready (hstart.ready p hp)
    have ht := (hstart.bound p hp).inRange
    rcases step_create_cases (.mr pd addr length access) hready driver with
      ⟨-, hq⟩ | ⟨g, -, -, hc⟩
    · exact ⟨h.bindings.trans hq.sys.sameBindings, by rw [hq.sys.usage, h.unwritten]⟩
    · exact ⟨h.bindings.trans hc.sameBindings, by rw [hc.sys.memoryUsed ht, h.unwritten]⟩
  | destroy p o driver hp _ _ hkind =>
    have ht := (hstart.bound p hp).inRange
    have hready : Ready w.sys p o.kind := h.bindings.readyFor hkind (hstart.ready p hp)
    rcases step_destroy_cases hready driver with ⟨-, hq⟩ | ⟨-, hd⟩
    · exact ⟨h.bindings.trans hq.sys.sameBindings, by rw [hq.sys.usage, h.unwritten]⟩
    · exact ⟨h.bindings.trans hd.sameBindings, by rw [hd.sys.memoryUsed ht, h.unwritten]⟩
  | tick wall mono => exact ⟨h.bindings.trans ⟨fun _ => .refl _, rfl⟩, h.unwritten⟩

theorem MemoryExact.of_quiet {t : UInt32} {max : UInt64} {w w' : World}
    (h : MemoryExact t max w) (hq : Quiet w w') : MemoryExact t max w' := by
  unfold MemoryExact
  rw [hq.live, hq.sys.usage]
  exact h

/-- One event keeps the record exact exactly when it registers nothing. -/
theorem memoryExact_step {procs : Finset Pid} {t : UInt32} {w₀ w : World}
    (hstart : MemoryStart procs t w₀) (h : MemoryInv t w₀.sys w) {e : Event}
    (he : MemoryEvent procs w e) {max : UInt64} (hexact : MemoryExact t max w) :
    MemoryExact t max (w.step e) ↔ RegistersNothing w e := by
  have hnone : memoryOf w.live t = 0 := by
    rw [← hexact.1, h.unwritten]
    rfl
  have hinv := h.step hstart he
  cases e, he using MemoryEvent.cases with
  | create p pd addr length access driver hp =>
    have hready : Ready w.sys p .mr := h.bindings.ready (hstart.ready p hp)
    have hcur : currentTenant w.sys p = t :=
      (h.bindings.currentTenant p).trans (hstart.bound p hp).current
    rcases step_create_cases (.mr pd addr length access) hready driver with
      ⟨hno, hq⟩ | ⟨g, rfl, hadm, hc⟩
    · exact ⟨fun _ hgrants => absurd hgrants hno, fun _ => hexact.of_quiet hq⟩
    · -- `memory_used` stays 0, the registered bytes become `length`
      have hsum : memoryOf (w.step (.create p (.mr pd addr length access) (some g))).live t =
          length.toNat := by
        rw [hc.live, memoryOf_cons, hnone, if_pos ⟨hcur, rfl⟩]
        rfl
      unfold MemoryExact
      rw [hinv.unwritten, hsum]
      constructor
      · rintro ⟨hzero, -⟩ -
        exact UInt64.toNat_inj.mp hzero.symm
      · intro hreg
        have hlen : length = 0 := hreg ⟨hadm, Option.some_ne_none g⟩
        rw [hlen]
        exact ⟨rfl, Nat.zero_le _⟩
  | destroy p o driver hp ho _ hkind =>
    have hready : Ready w.sys p o.kind := h.bindings.readyFor hkind (hstart.ready p hp)
    refine ⟨fun _ => trivial, fun _ => ?_⟩
    rcases step_destroy_cases hready driver with ⟨-, hq⟩ | ⟨-, hd⟩
    · exact hexact.of_quiet hq
    · have hsplit := memoryOf_erase ho t
      unfold MemoryExact
      rw [hinv.unwritten, hd.live, show memoryOf (w.live.erase o) t = 0 by omega]
      exact ⟨rfl, Nat.zero_le _⟩
  | tick wall mono => exact ⟨fun _ => trivial, fun _ => hexact⟩

/-- **The memory quota.**  In a run of registrations and deregistrations the usage record
shows the registered bytes of the tenant, and its memory quota is kept, after every call
if and only if every registration that is granted is of length zero. -/
theorem memoryExact_iff_registersNothing (procs : Finset Pid) (t : UInt32) (w : World)
    (hstart : MemoryStart procs t w) (es : List Event)
    (hrun : Along World.step (MemoryEvent procs) w es) :
    Always World.step (MemoryExact t (w.sys.quota t).maxMemoryPerTenant) w es ↔
      Along World.step RegistersNothing w es := by
  have hexact : MemoryExact t (w.sys.quota t).maxMemoryPerTenant w := by
    unfold MemoryExact
    rw [hstart.inv.unwritten, hstart.live]
    exact ⟨rfl, Nat.zero_le _⟩
  exact always_iff_along (fun _ _ hi he => hi.step hstart he)
    (fun _ _ hi he hx => memoryExact_step hstart hi he hx) hstart.inv hexact hrun

theorem sampleWorld_memoryStart :
    MemoryStart {7, 8} 1 (sampleWorld oneQpQuota qpControlConfig) :=
  ⟨fun p _ => sampleWorld_ready _ _ p .mr rfl, sampleWorld_bound, by decide +kernel,
    sampleWorld_zeroUsage, rfl⟩

/-- Two registrations of 1 GiB under a quota of 1 GiB. -/
def registerRun : List Event :=
  [.create 7 (.mr 0 0 1073741824 7) (some 16), .create 8 (.mr 0 0 1073741824 7) (some 17)]

theorem registerRun_events :
    Along World.step (MemoryEvent {7, 8}) (sampleWorld oneQpQuota qpControlConfig)
      registerRun :=
  ⟨Finset.mem_insert_self _ _, Finset.mem_insert_of_mem (Finset.mem_singleton_self _), trivial⟩

/-- Both are granted, and the record shows no byte. -/
theorem registrations_exceed_memory_quota :
    MemoryStart {7, 8} 1 (sampleWorld oneQpQuota qpControlConfig) ∧
      Along World.step (MemoryEvent {7, 8}) (sampleWorld oneQpQuota qpControlConfig)
        registerRun ∧
      ¬ Always World.step (MemoryExact 1
        ((sampleWorld oneQpQuota qpControlConfig).sys.quota 1).maxMemoryPerTenant)
        (sampleWorld oneQpQuota qpControlConfig) registerRun := by
  refine ⟨sampleWorld_memoryStart, registerRun_events, ?_⟩
  intro h
  have hexact := h.last
  have hsum : memoryOf (exec World.step (sampleWorld oneQpQuota qpControlConfig)
      registerRun).live 1 = 2147483648 := by decide +kernel
  have hmax : ((sampleWorld oneQpQuota qpControlConfig).sys.quota 1).maxMemoryPerTenant =
      1073741824 := by decide +kernel
  have hle := hexact.2
  rw [hsum, hmax] at hle
  exact absurd hle (by decide)

/-- The theorem at that run. -/
theorem memoryExact_iff_registersNothing_register :
    ¬ Always World.step (MemoryExact 1
      ((sampleWorld oneQpQuota qpControlConfig).sys.quota 1).maxMemoryPerTenant)
        (sampleWorld oneQpQuota qpControlConfig) registerRun := by
  rw [memoryExact_iff_registersNothing {7, 8} 1 _ sampleWorld_memoryStart _ registerRun_events]
  rintro ⟨hreg, -⟩
  have hadm : Admitted (sampleWorld oneQpQuota qpControlConfig).sys 7
      (.mr 0 0 1073741824 7) := by
    refine Or.inr (Or.inr ⟨by decide +kernel, by decide +kernel, by decide +kernel, ?_⟩)
    intro _
    decide +kernel
  exact absurd (hreg ⟨hadm, Option.some_ne_none _⟩) (by decide)

end RdmaIntercept.Analysis
