import Mathlib.Algebra.BigOperators.Group.Finset.Piecewise
import Mathlib.Algebra.Order.BigOperators.Group.Finset
import RdmaIntercept.Analysis.ProcessLimit

/-!
# The global limit

The global check reads `global_stats`, which no hook writes: in a segment that only the
hooks write it is zero, and the check refuses nothing but at the limit zero.  What
bounds the number of QPs of all processes is the per-process limits.  The global limit
is therefore kept in every run exactly if it is zero, or if the per-process limits are
all effective (the processes that may create fit into the table, and no limit is the
largest of its type) and add up to no more than it.
-/

set_option autoImplicit false

namespace RdmaIntercept.Analysis

open RdmaIntercept.Library RdmaIntercept.Model

/-- The number of live QPs of all processes. -/
def totalQps (w : World) : ℕ := w.live.countP fun o => o.kind = .qp

/-- The events of a run of creations and destructions of QPs. -/
def GlobalEvent (procs : Finset Pid) (w : World) : Event → Prop
  | .create p (.qp _ _) _ => p ∈ procs
  | .destroy p o _ => p ∈ procs ∧ Owns w p o ∧ o.kind = .qp
  | .tick _ _ => True
  | _ => False

/-- The events of such a run. -/
theorem GlobalEvent.cases {procs : Finset Pid} {w : World}
    {motive : ∀ e, GlobalEvent procs w e → Prop}
    (create : ∀ p pd attr driver (hp : p ∈ procs),
      motive (.create p (.qp pd attr) driver) hp)
    (destroy : ∀ p o driver (hp : p ∈ procs) (ho : o ∈ w.live) (hown : o.owner = p)
      (hkind : o.kind = .qp), motive (.destroy p o driver) ⟨hp, ⟨ho, hown⟩, hkind⟩)
    (tick : ∀ wall mono, motive (.tick wall mono) trivial)
    (e : Event) (he : GlobalEvent procs w e) : motive e he := by
  cases e with
  | create p req driver =>
    cases req with
    | qp pd attr => exact create p pd attr driver he
    | mr pd addr length access => exact he.elim
    | cq context cqe cqContext channel compVector => exact he.elim
    | pd context => exact he.elim
  | destroy p o driver => exact destroy p o driver he.1 he.2.1.1 he.2.1.2 he.2.2
  | store op => exact he.elim
  | tick wall mono => exact tick wall mono
  | start p env => exact he.elim
  | exit p => exact he.elim

/-- Where such a run starts: `limit p` and `g` are the configured limits. -/
structure GlobalStart (procs : Finset Pid) (limit : Pid → UInt32) (g : UInt32) (w : World) :
    Prop where
  positive : ∀ p ∈ procs, 0 < p
  ready : ∀ p ∈ procs, Ready w.sys p .qp
  control : ∀ p ∈ procs, (w.sys.proc p).config.enableQpControl = true
  attached : ∀ p ∈ procs, (w.sys.proc p).shmAttached = true
  processLimit : ∀ p ∈ procs, (w.sys.proc p).config.maxQpPerProcess = limit p
  globalLimit : ∀ p ∈ procs, (w.sys.proc p).config.maxGlobalQp = g
  uncounted : ∀ p ∈ procs, (w.sys.proc p).qpCount = 0
  emptyTable : ∀ i, w.sys.shm.processPids i = 0
  globalStats : w.sys.shm.globalStats = .zero
  live : w.live = []

/-- In every run under the limits the global limit is kept. -/
def KeepsGlobalLimit (procs : Finset Pid) (limit : Pid → UInt32) (g : UInt32) : Prop :=
  ∀ w, GlobalStart procs limit g w → ∀ es, Along World.step (GlobalEvent procs) w es →
    Always World.step (fun w => totalQps w ≤ g.toNat) w es

/-- The limits are zero for all processes together, or the per-process limits are effective
and add up to no more than the global one. -/
def LimitsSuffice (procs : Finset Pid) (limit : Pid → UInt32) (g : UInt32) : Prop :=
  g = 0 ∨ ((procs.filter fun p => 0 < limit p).card ≤ MAX_PROCESSES ∧
    (∀ p ∈ procs, (limit p).toNat < 2 ^ 32 - 1) ∧
    ∑ p ∈ procs, (limit p).toNat ≤ g.toNat)

/-! ## The total as a sum over the processes -/

theorem countP_qp_eq_sum {procs : Finset Pid} {objs : List Obj}
    (h : ∀ o ∈ objs, o.owner ∈ procs) :
    (objs.countP fun o => o.kind = .qp) =
      ∑ p ∈ procs, objs.countP fun o => o.owner = p ∧ o.kind = .qp := by
  induction objs with
  | nil => simp
  | cons o objs ih =>
    have ho := h o (List.mem_cons_self)
    simp only [List.countP_cons, decide_eq_true_eq, Finset.sum_add_distrib]
    rw [ih (fun o' ho' => h o' (List.mem_cons_of_mem _ ho'))]
    congr 1
    by_cases hk : o.kind = .qp
    · simp only [hk, and_true, if_true]
      rw [Finset.sum_ite_eq, if_pos ho]
    · simp [hk]

theorem totalQps_eq_sum {procs : Finset Pid} {w : World} (h : ∀ o ∈ w.live, o.owner ∈ procs) :
    totalQps w = ∑ p ∈ procs, liveQps w p := countP_qp_eq_sum h

/-! ## Limits that suffice -/

/-- What a run under effective limits keeps. -/
structure LimitedInv (procs : Finset Pid) (limit : Pid → UInt32) (s₀ : System) (w : World) :
    Prop where
  bindings : SameBindings s₀ w.sys
  owned : ∀ o ∈ w.live, o.owner ∈ procs
  ledger : ∀ p ∈ procs, ProcessLedger p (limit p).toNat w
  distinct : SlotTable.Distinct w.sys.shm.processPids 0
  keys : ∀ i, w.sys.shm.processPids i ≠ 0 →
    w.sys.shm.processPids i ∈ procs.filter fun p => 0 < limit p

theorem published_of_emptyTable {d : SharedMemoryData} (h : ∀ i, d.processPids i = 0) {p : Pid}
    (hp : p ≠ 0) : published d p = .zero := by
  have hnone : SlotTable.slotOf d.processPids p = none :=
    SlotTable.slotOf_eq_none_iff.mpr fun i hi => hp (hi.symm.trans (h i))
  unfold published
  rw [hnone]

theorem GlobalStart.publishedQps {procs : Finset Pid} {limit : Pid → UInt32} {g : UInt32}
    {w : World} (h : GlobalStart procs limit g w) {p : Pid} (hp : p ∈ procs) :
    publishedQps w p = 0 := by
  have hne : p ≠ 0 := (Int32.ne_of_lt (h.positive p hp)).symm
  unfold Analysis.publishedQps
  rw [published_of_emptyTable h.emptyTable hne]
  rfl

theorem liveQps_of_nil {w : World} (h : w.live = []) (p : Pid) : liveQps w p = 0 := by
  unfold liveQps
  rw [h]
  rfl

theorem GlobalStart.limitedInv {procs : Finset Pid} {limit : Pid → UInt32} {g : UInt32}
    {w : World} (h : GlobalStart procs limit g w) : LimitedInv procs limit w.sys w := by
  refine ⟨.refl _, forall_live_of_nil h.live, ?_, ?_, fun i hi => absurd (h.emptyTable i) hi⟩
  · intro p hp
    have hpub := h.publishedQps hp
    have hlive := liveQps_of_nil h.live p
    refine ⟨?_, by omega, by omega⟩
    rw [h.uncounted p hp, hlive]
    rfl
  · intro i j _ hi
    exact absurd (h.emptyTable i) hi

/-- The ledger of a process depends on its own counts only. -/
theorem ProcessLedger.congr {w w' : World} {p : Pid} {max : ℕ} (hl : ProcessLedger p max w)
    (hproc : w'.sys.proc p = w.sys.proc p) (hlive : liveQps w' p = liveQps w p)
    (hpub : publishedQps w' p = publishedQps w p) : ProcessLedger p max w' := by
  obtain ⟨hcounted, hatMost, hlimit⟩ := hl
  exact ⟨by rw [hproc, hlive, hcounted], by omega, by omega⟩

theorem LimitedInv.of_quiet {procs : Finset Pid} {limit : Pid → UInt32} {s₀ : System}
    {w w' : World} (h : LimitedInv procs limit s₀ w) (hq : Quiet w w') :
    LimitedInv procs limit s₀ w' := by
  refine ⟨h.bindings.trans hq.sys.sameBindings, ?_, ?_, ?_, ?_⟩
  · rw [hq.live]
    exact h.owned
  · intro p hp
    exact (h.ledger p hp).congr (congrFun hq.sys.proc p) (hq.liveQps p) (hq.publishedQps p)
  · rw [hq.sys.shm]
    exact h.distinct
  · rw [hq.sys.shm]
    exact h.keys

/-- A process that may create has a slot when all that may create fit into the table. -/
theorem LimitedInv.hasSlot {procs : Finset Pid} {limit : Pid → UInt32} {s₀ : System} {w : World}
    (h : LimitedInv procs limit s₀ w)
    (hcard : (procs.filter fun p => 0 < limit p).card ≤ MAX_PROCESSES) {p : Pid} (hp : p ∈ procs)
    (hpos : 0 < limit p) : HasSlot w.sys.shm p := by
  have hmem : p ∈ procs.filter fun p => 0 < limit p := Finset.mem_filter.mpr ⟨hp, hpos⟩
  cases hslot : SlotTable.slotOf w.sys.shm.processPids p with
  | some i => exact ⟨i, by rw [SlotTable.slotFor, hslot, Option.some_or]⟩
  | none =>
    -- the other processes occupy fewer slots than there are
    apply SlotTable.exists_slotFor_of_card_lt h.distinct
      ((procs.filter fun p => 0 < limit p).erase p)
    · intro i hi
      have hne : w.sys.shm.processPids i ≠ p := SlotTable.slotOf_eq_none_iff.mp hslot i
      exact Finset.mem_erase.mpr ⟨hne, h.keys i hi⟩
    · have hlt := Finset.card_erase_lt_of_mem hmem
      omega

/-- A granted creation keeps the invariant. -/
theorem LimitedInv.creates {procs : Finset Pid} {limit : Pid → UInt32} {g : UInt32}
    {w₀ w w' : World} (hstart : GlobalStart procs limit g w₀)
    (hcard : (procs.filter fun p => 0 < limit p).card ≤ MAX_PROCESSES)
    (hmax : ∀ p ∈ procs, (limit p).toNat < 2 ^ 32 - 1) (h : LimitedInv procs limit w₀.sys w)
    {p : Pid} {pd a : Handle} {attr : QpInitAttr} (hp : p ∈ procs)
    (hok : processLimitOk w.sys p = true) (hc : Creates w p (.qp pd attr) a w') :
    LimitedInv procs limit w₀.sys w' := by
  have hset := h.bindings.settings p
  have hlimit : (w.sys.proc p).config.maxQpPerProcess = limit p := by
    rw [hset.config]
    exact hstart.processLimit p hp
  have hatt : (w.sys.proc p).shmAttached = true := by
    rw [hset.shmAttached]
    exact hstart.attached p hp
  have hledger := h.ledger p hp
  have hpmax := hmax p hp
  have hpos : 0 < limit p := by
    have hle := (processLimitOk_iff (hstart.positive p hp) hatt).mp hok
    have hpub := hledger.limit
    rw [hlimit, UInt32.le_iff_toNat_le, UInt32.toNat_add] at hle
    unfold publishedQps at hpub
    rw [Nat.mod_eq_of_lt (by simp; omega)] at hle
    rw [UInt32.lt_iff_toNat_lt]
    exact Nat.lt_of_lt_of_le (Nat.succ_pos _) hle
  have hpub : Publishes w.sys p :=
    ⟨hstart.positive p hp, hatt, h.hasSlot hcard hp hpos⟩
  have htable := hc.published hpub
  refine ⟨h.bindings.trans hc.sameBindings, hc.forall_live hp h.owned, ?_, ?_, ?_⟩
  · intro q hq
    by_cases hqp : q = p
    · subst hqp
      rw [← hlimit] at hledger hpmax ⊢
      exact (hledger.creates hpmax hc hpub hok).1
    · have hq0 : q ≠ 0 := (Int32.ne_of_lt (hstart.positive q hq)).symm
      apply (h.ledger q hq).congr
      · rw [hc.sys.proc, Function.update_of_ne hqp]
      · rw [hc.liveQps q, if_neg (fun heq => hqp heq.1.symm), Nat.add_zero]
      · unfold publishedQps
        rw [htable.of_ne hqp hq0]
  · obtain ⟨i, hi, hpids, -⟩ := htable.slot
    rw [hpids]
    exact SlotTable.distinct_update h.distinct hi
  · obtain ⟨i, hi, hpids, -⟩ := htable.slot
    rw [hpids]
    intro j hj
    by_cases hji : j = i
    · rw [hji, Function.update_self]
      exact Finset.mem_filter.mpr ⟨hp, hpos⟩
    · rw [Function.update_of_ne hji] at hj ⊢
      exact h.keys j hj

/-- Every event keeps the invariant. -/
theorem LimitedInv.step {procs : Finset Pid} {limit : Pid → UInt32} {g : UInt32} {w₀ w : World}
    (hstart : GlobalStart procs limit g w₀)
    (hcard : (procs.filter fun p => 0 < limit p).card ≤ MAX_PROCESSES)
    (hmax : ∀ p ∈ procs, (limit p).toNat < 2 ^ 32 - 1) (h : LimitedInv procs limit w₀.sys w)
    {e : Event} (he : GlobalEvent procs w e) : LimitedInv procs limit w₀.sys (w.step e) := by
  cases e, he using GlobalEvent.cases with
  | create p pd attr driver hp =>
    have hready : Ready w.sys p .qp := h.bindings.ready (hstart.ready p hp)
    rcases step_create_cases (.qp pd attr) hready driver with ⟨-, hq⟩ | ⟨a, -, hadm, hc⟩
    · exact h.of_quiet hq
    · have hcontrol : (w.sys.proc p).config.enableQpControl = true := by
        rw [(h.bindings.settings p).config]
        exact hstart.control p hp
      exact h.creates hstart hcard hmax hp (hadm hcontrol).2.2.1 hc
  | destroy p o driver hp ho hown hkind =>
    have hready : Ready w.sys p o.kind := h.bindings.readyFor hkind (hstart.ready p hp)
    rcases step_destroy_cases hready driver with ⟨-, hq⟩ | ⟨-, hd⟩
    · exact h.of_quiet hq
    · refine ⟨h.bindings.trans hd.sameBindings, hd.forall_live h.owned, ?_, ?_, ?_⟩
      · intro q hq
        by_cases hqp : q = p
        · subst hqp
          exact ((h.ledger q hq).destroys hd ho hown hkind).1
        · apply (h.ledger q hq).congr
          · rw [hd.sys.proc, Function.update_of_ne hqp]
          · have hlive := hd.liveQps ho q
            rw [if_neg (fun heq => hqp (heq.1.symm.trans hown))] at hlive
            exact hlive.symm
          · unfold publishedQps
            rw [hd.sys.shm]
      · rw [hd.sys.shm]
        exact h.distinct
      · rw [hd.sys.shm]
        exact h.keys
  | tick wall mono =>
    exact ⟨h.bindings.trans ⟨fun _ => .refl _, rfl⟩, h.owned,
      fun p hp => (h.ledger p hp).congr rfl rfl rfl, h.distinct, h.keys⟩

/-- Under the invariant the total is bounded by the sum of the limits. -/
theorem LimitedInv.totalQps_le {procs : Finset Pid} {limit : Pid → UInt32} {s₀ : System}
    {w : World} (h : LimitedInv procs limit s₀ w) :
    totalQps w ≤ ∑ p ∈ procs, (limit p).toNat := by
  rw [totalQps_eq_sum h.owned]
  apply Finset.sum_le_sum
  intro p hp
  exact (h.ledger p hp).atMost.trans (h.ledger p hp).limit

/-- At the limit zero no creation is granted. -/
structure RefusedInv (s₀ : System) (w : World) : Prop where
  bindings : SameBindings s₀ w.sys
  globalStats : w.sys.shm.globalStats = .zero
  live : w.live = []

theorem not_admitted_of_zero {s : System} {p : Pid} {attr : QpInitAttr} {pd : Handle}
    (hcontrol : (s.proc p).config.enableQpControl = true)
    (hatt : (s.proc p).shmAttached = true) (hg : (s.proc p).config.maxGlobalQp = 0) :
    ¬ Admitted s p (.qp pd attr) := by
  intro hadm
  have hlt := (globalLimitOk_iff hatt).mp (hadm hcontrol).2.2.2
  rw [hg, UInt32.lt_iff_toNat_lt] at hlt
  exact absurd hlt (Nat.not_lt_zero _)

theorem RefusedInv.step {procs : Finset Pid} {limit : Pid → UInt32} {w₀ w : World}
    (hstart : GlobalStart procs limit 0 w₀) (h : RefusedInv w₀.sys w) {e : Event}
    (he : GlobalEvent procs w e) : RefusedInv w₀.sys (w.step e) := by
  cases e, he using GlobalEvent.cases with
  | create p pd attr driver hp =>
    have hset := h.bindings.settings p
    have hready : Ready w.sys p .qp := h.bindings.ready (hstart.ready p hp)
    have hno : ¬ Admitted w.sys p (.qp pd attr) := by
      apply not_admitted_of_zero
      · rw [hset.config]
        exact hstart.control p hp
      · rw [hset.shmAttached]
        exact hstart.attached p hp
      · rw [hset.config]
        exact hstart.globalLimit p hp
    rcases step_create_cases (.qp pd attr) hready driver with ⟨-, hq⟩ | ⟨-, -, hadm, -⟩
    · exact ⟨h.bindings.trans hq.sys.sameBindings, by rw [hq.sys.shm, h.globalStats],
        hq.live.trans h.live⟩
    · exact absurd hadm hno
  | destroy p o driver _ ho _ _ =>
    rw [h.live] at ho
    exact absurd ho (List.not_mem_nil)
  | tick wall mono => exact ⟨h.bindings.trans ⟨fun _ => .refl _, rfl⟩, h.globalStats, h.live⟩

/-- Limits that suffice keep the global limit in every run. -/
theorem keepsGlobalLimit_of_limitsSuffice {procs : Finset Pid} {limit : Pid → UInt32}
    {g : UInt32} (h : LimitsSuffice procs limit g) : KeepsGlobalLimit procs limit g := by
  intro w hstart es hrun
  rcases h with rfl | ⟨hcard, hmax, hsum⟩
  · have hinv : RefusedInv w.sys w := ⟨.refl _, hstart.globalStats, hstart.live⟩
    apply Always.mono ?_ (always_of_step (fun _ _ hi he => hi.step hstart he) hinv hrun)
    intro w' hi
    unfold totalQps
    rw [hi.live]
    exact Nat.zero_le _
  · apply Always.mono ?_ (always_of_step (fun _ _ hi he => hi.step hstart hcard hmax he)
      hstart.limitedInv hrun)
    intro w' hi
    exact hi.totalQps_le.trans hsum

/-! ## Limits that do not suffice -/

/-- Processes of the default tenant, each with its configured limit. -/
def openWorld (limit : Pid → UInt32) (g : UInt32) : World where
  sys :=
    { tenantShm := .fresh 0
      shm := .fresh 0
      proc := fun p =>
        { ProcState.unstarted with
          initialized := true
          config := { qpControlConfig with maxQpPerProcess := limit p, maxGlobalQp := g }
          tenantInitialized := true
          shmAttached := true
          realCreate := fun _ => true
          realDestroy := fun _ => true }
      wallClock := 0
      monoClock := 0 }
  live := []
  alive := ∅
  reclaimed := []

theorem openWorld_start {procs : Finset Pid} (hpos : ∀ p ∈ procs, 0 < p) (limit : Pid → UInt32)
    (g : UInt32) : GlobalStart procs limit g (openWorld limit g) :=
  ⟨hpos, fun _ _ => ⟨rfl, rfl, rfl⟩, fun _ _ => rfl, fun _ _ => rfl, fun _ _ => rfl,
    fun _ _ => rfl, fun _ _ => rfl, fun _ => rfl, rfl, rfl⟩

theorem openWorld_currentTenant (limit : Pid → UInt32) (g : UInt32) {p : Pid} (hp : p ≠ 0) :
    currentTenant (openWorld limit g).sys p = 0 := by
  have hnone : SlotTable.slotOf (openWorld limit g).sys.tenantShm.mappedPid p = none :=
    SlotTable.slotOf_eq_none_iff.mpr fun i hi => hp hi.symm
  rw [currentTenant_eq, TenantShm.tenantOf, hnone]
  rfl

/-- What a run of creations from the open world keeps: a process in the table has published
its live QPs. -/
structure FillInv (procs : Finset Pid) (limit : Pid → UInt32) (g : UInt32) (w : World) :
    Prop where
  bindings : SameBindings (openWorld limit g).sys w.sys
  globalStats : w.sys.shm.globalStats = .zero
  owned : ∀ o ∈ w.live, o.owner ∈ procs
  counted : ∀ p ∈ procs, (w.sys.proc p).qpCount.toNat = liveQps w p
  listed : ∀ p ∈ procs, ∀ i, SlotTable.slotOf w.sys.shm.processPids p = some i →
    publishedQps w p = liveQps w p

theorem openWorld_fillInv {procs : Finset Pid} (hpos : ∀ p ∈ procs, 0 < p)
    (limit : Pid → UInt32) (g : UInt32) : FillInv procs limit g (openWorld limit g) := by
  refine ⟨.refl _, rfl, fun o ho => absurd ho (List.not_mem_nil), fun _ _ => rfl, ?_⟩
  intro p hp _ _
  rw [(openWorld_start hpos limit g).publishedQps hp]
  rfl

theorem liveQps_le_totalQps (w : World) (p : Pid) : liveQps w p ≤ totalQps w := by
  unfold liveQps totalQps
  apply List.countP_mono_left
  intro o _ ho
  simp only [decide_eq_true_eq] at ho ⊢
  exact ho.2

/-- A process that the check refuses has at least as many live QPs as its limit, and its
limit is not the largest of its type. -/
theorem FillInv.refused {procs : Finset Pid} {limit : Pid → UInt32} {g : UInt32} {w : World}
    (h : FillInv procs limit g w) {p : Pid} (hp : p ∈ procs) (hpos : 0 < p)
    (hno : ¬ processLimitOk w.sys p = true) :
    (limit p).toNat ≤ liveQps w p ∧ (limit p).toNat < 2 ^ 32 - 1 ∧
      (0 < limit p → ∃ i, SlotTable.slotOf w.sys.shm.processPids p = some i) := by
  have hset := h.bindings.settings p
  have hatt : (w.sys.proc p).shmAttached = true := hset.shmAttached
  have hlimit : (w.sys.proc p).config.maxQpPerProcess = limit p := by
    rw [hset.config]
    rfl
  rw [processLimitOk_iff hpos hatt, hlimit, UInt32.not_le, UInt32.lt_iff_toNat_lt,
    UInt32.toNat_add] at hno
  cases hslot : SlotTable.slotOf w.sys.shm.processPids p with
  | none =>
    -- without a record the check reads zero
    have hzero : published w.sys.shm p = .zero := by
      unfold published
      rw [hslot]
    rw [hzero] at hno
    have hlimit0 : (limit p).toNat = 0 := by
      have hone : ((ResourceUsage.zero.qpCount.toUInt32).toNat + UInt32.toNat 1) % 2 ^ 32 = 1 := rfl
      omega
    refine ⟨by omega, by omega, fun hlt => ?_⟩
    rw [UInt32.lt_iff_toNat_lt, hlimit0] at hlt
    exact absurd hlt (lt_irrefl _)
  | some i =>
    have hlive := h.listed p hp i hslot
    unfold publishedQps at hlive
    rw [hlive] at hno
    have hone : UInt32.toNat 1 = 1 := rfl
    rw [hone] at hno
    refine ⟨?_, ?_, fun _ => ⟨i, rfl⟩⟩
    · have hle := Nat.mod_le (liveQps w p + 1) (2 ^ 32)
      omega
    · have hlt := Nat.mod_lt (liveQps w p + 1) (show 0 < 2 ^ 32 by omega)
      omega

/-- As long as the total keeps a limit that the per-process limits do not guarantee, some
process may create another QP. -/
theorem FillInv.exists_processLimitOk {procs : Finset Pid} {limit : Pid → UInt32} {g : UInt32}
    {w : World} (h : FillInv procs limit g w) (hpos : ∀ p ∈ procs, 0 < p)
    (hno : ¬ LimitsSuffice procs limit g) (htotal : totalQps w ≤ g.toNat) :
    ∃ p ∈ procs, processLimitOk w.sys p = true := by
  by_contra hnone
  push Not at hnone
  have hrefused := fun p hp => h.refused hp (hpos p hp) (hnone p hp)
  apply hno
  refine Or.inr ⟨?_, fun p hp => (hrefused p hp).2.1, ?_⟩
  · -- the processes that may create are in the table, each in a slot of its own
    have hslot : ∀ p ∈ procs.filter fun p => 0 < limit p,
        ∃ i, w.sys.shm.processPids i = p := by
      intro p hp
      obtain ⟨hp, hlt⟩ := Finset.mem_filter.mp hp
      obtain ⟨i, hi⟩ := (hrefused p hp).2.2 hlt
      exact ⟨i, SlotTable.key_of_slotOf hi⟩
    have hsub : (procs.filter fun p => 0 < limit p) ⊆
        Finset.univ.image w.sys.shm.processPids := by
      intro p hp
      obtain ⟨i, hi⟩ := hslot p hp
      exact Finset.mem_image.mpr ⟨i, Finset.mem_univ i, hi⟩
    have hle := (Finset.card_le_card hsub).trans Finset.card_image_le
    rw [Finset.card_univ, Fintype.card_fin] at hle
    exact hle
  · calc ∑ p ∈ procs, (limit p).toNat ≤ ∑ p ∈ procs, liveQps w p :=
          Finset.sum_le_sum fun p hp => (hrefused p hp).1
      _ = totalQps w := (totalQps_eq_sum h.owned).symm
      _ ≤ g.toNat := htotal

/-- A creation that the type check and the default tenant let through. -/
def fillEvent (p : Pid) : Event := .create p (.qp 0 ⟨.other, 0, 0⟩) (some 1)

/-- A process that the per-process check lets through gets its QP, whatever the total is. -/
theorem FillInv.creates {procs : Finset Pid} {limit : Pid → UInt32} {g : UInt32} {w : World}
    (h : FillInv procs limit g w) (hg : g ≠ 0) {p : Pid} (hpos : 0 < p)
    (hok : processLimitOk w.sys p = true) :
    Creates w p (.qp 0 ⟨.other, 0, 0⟩) 1 (w.step (fillEvent p)) := by
  have hset := h.bindings.settings p
  have hne : p ≠ 0 := (Int32.ne_of_lt hpos).symm
  have hready : Ready w.sys p .qp := h.bindings.ready ⟨rfl, rfl, rfl⟩
  have hglobal : globalLimitOk w.sys p = true := by
    have hmax : (w.sys.proc p).config.maxGlobalQp = g := by
      rw [hset.config]
      rfl
    rw [globalLimitOk_iff hset.shmAttached, h.globalStats, hmax]
    have hg0 : 0 < g.toNat := Nat.pos_of_ne_zero (fun h0 => hg (UInt32.toNat_inj.mp h0))
    exact UInt32.lt_iff_toNat_lt.mpr hg0
  have hadm : Admitted w.sys p (.qp 0 ⟨.other, 0, 0⟩) := by
    intro _
    refine ⟨rfl, Or.inl ?_, hok, hglobal⟩
    rw [h.bindings.currentTenant]
    exact openWorld_currentTenant limit g hne
  rcases step_create_cases (.qp 0 ⟨.other, 0, 0⟩) hready (some 1) with ⟨hno, -⟩ | ⟨a, ha, -, hc⟩
  · exact absurd ⟨hadm, Option.some_ne_none _⟩ hno
  · obtain rfl := Option.some.inj ha
    exact hc

theorem Creates.totalQps {w w' : World} {p : Pid} {pd a : Handle} {attr : QpInitAttr}
    (hc : Creates w p (.qp pd attr) a w') : totalQps w' = totalQps w + 1 := by
  unfold Analysis.totalQps
  rw [hc.live, List.countP_cons]
  rfl

/-- The table after a creation: the publication is stored, or it has found no slot. -/
theorem Creates.table_cases {w w' : World} {p : Pid} {pd a : Handle} {attr : QpInitAttr}
    (hc : Creates w p (.qp pd attr) a w') (hpos : 0 < p)
    (hatt : (w.sys.proc p).shmAttached = true) :
    Published w.sys.shm p (w.sys.proc p).addQp.usage w'.sys.shm ∨
      (SlotTable.slotFor w.sys.shm.processPids 0 p = none ∧
        w'.sys.shm.processPids = w.sys.shm.processPids ∧
        w'.sys.shm.processStats = w.sys.shm.processStats ∧
        w'.sys.shm.globalStats = w.sys.shm.globalStats) := by
  cases hslot : SlotTable.slotFor w.sys.shm.processPids 0 p with
  | some i => exact Or.inl (hc.published ⟨hpos, hatt, i, hslot⟩)
  | none =>
    right
    rw [hc.sys.shm, shmAfterCreate_qp hatt]
    exact ⟨rfl, (shmUpdateProcessResources_full hslot _ _).2⟩

/-- The invariant lasts while the counts fit their types. -/
theorem FillInv.step {procs : Finset Pid} {limit : Pid → UInt32} {g : UInt32} {w : World}
    (h : FillInv procs limit g w) (hpos : ∀ p ∈ procs, 0 < p) {p : Pid} (hp : p ∈ procs)
    (hfits : totalQps w + 1 < 2 ^ 32)
    (hc : Creates w p (.qp 0 ⟨.other, 0, 0⟩) 1 (w.step (fillEvent p))) :
    FillInv procs limit g (w.step (fillEvent p)) := by
  have hatt : (w.sys.proc p).shmAttached = true := (h.bindings.settings p).shmAttached
  have hlive : liveQps (w.step (fillEvent p)) p = liveQps w p + 1 := by
    rw [hc.liveQps p, if_pos ⟨rfl, rfl⟩]
  have hlocal : ((w.sys.proc p).qpCount + 1).toNat = liveQps w p + 1 := by
    have hle := liveQps_le_totalQps w p
    exact Counter.toNat_succ (h.counted p hp) (by omega)
  have hother : ∀ q, q ≠ p → liveQps (w.step (fillEvent p)) q = liveQps w q := by
    intro q hqp
    rw [hc.liveQps q, if_neg (fun heq => hqp heq.1.symm), Nat.add_zero]
  have htable := hc.table_cases (hpos p hp) hatt
  refine ⟨h.bindings.trans hc.sameBindings, ?_, hc.forall_live hp h.owned, ?_, ?_⟩
  · rcases htable with hpub | ⟨-, -, -, hstats⟩
    · rw [hpub.globalStats, h.globalStats]
    · rw [hstats, h.globalStats]
  · intro q hq
    rw [hc.sys.proc]
    by_cases hqp : q = p
    · subst hqp
      rw [Function.update_self, hlive]
      exact hlocal
    · rw [Function.update_of_ne hqp, hother q hqp]
      exact h.counted q hq
  · intro q hq i hi
    have hq0 : q ≠ 0 := (Int32.ne_of_lt (hpos q hq)).symm
    rcases htable with hpub | ⟨hfull, hpids, hstats, -⟩
    · by_cases hqp : q = p
      · subst hqp
        unfold publishedQps
        rw [hpub.self, hlive]
        exact hlocal
      · have hsame : SlotTable.slotOf w.sys.shm.processPids q = some i := by
          obtain ⟨j, hj, hpids, -⟩ := hpub.slot
          rw [hpids, SlotTable.slotOf_update_of_ne hj hqp hq0] at hi
          exact hi
        unfold publishedQps
        rw [hpub.of_ne hqp hq0, hother q hqp]
        exact h.listed q hq i hsame
    · rw [hpids] at hi
      have hqp : q ≠ p := by
        rintro rfl
        rw [SlotTable.slotFor, hi, Option.some_or] at hfull
        exact absurd hfull (Option.some_ne_none i)
      unfold publishedQps published
      rw [hpids, hstats, hother q hqp]
      exact h.listed q hq i hi

/-- Limits that do not suffice let the total grow to the global limit. -/
theorem exists_run_total {procs : Finset Pid} {limit : Pid → UInt32} {g : UInt32}
    (hpos : ∀ p ∈ procs, 0 < p) (hno : ¬ LimitsSuffice procs limit g) (n : ℕ)
    (hn : n ≤ g.toNat) :
    ∃ es, Along World.step (GlobalEvent procs) (openWorld limit g) es ∧
      FillInv procs limit g (exec World.step (openWorld limit g) es) ∧
      totalQps (exec World.step (openWorld limit g) es) = n := by
  induction n with
  | zero => exact ⟨[], trivial, openWorld_fillInv hpos limit g, rfl⟩
  | succ n ih =>
    obtain ⟨es, hrun, hinv, htotal⟩ := ih (by omega)
    have hg : g ≠ 0 := fun h0 => hno (Or.inl h0)
    have hgmax := g.toNat_lt
    obtain ⟨p, hp, hok⟩ := hinv.exists_processLimitOk hpos hno (by omega)
    have hc := hinv.creates hg (hpos p hp) hok
    refine ⟨es ++ [fillEvent p], along_append.mpr ⟨hrun, hp, trivial⟩, ?_, ?_⟩
    · rw [exec_append]
      exact hinv.step hpos hp (by omega) hc
    · rw [exec_append, exec_cons, exec_nil, hc.totalQps, htotal]

/-- **The global limit** is kept in every run of creations and destructions if and only if
it is zero, or the processes with a positive limit fit into the table, no process has the
largest limit of its type, and the limits of all processes add up to no more than it. -/
theorem keepsGlobalLimit_iff_limitsSuffice (procs : Finset Pid) (hpos : ∀ p ∈ procs, 0 < p)
    (limit : Pid → UInt32) (g : UInt32) :
    KeepsGlobalLimit procs limit g ↔ LimitsSuffice procs limit g := by
  constructor
  · intro hkeeps
    by_contra hno
    have hg : g ≠ 0 := fun h0 => hno (Or.inl h0)
    obtain ⟨es, hrun, hinv, htotal⟩ := exists_run_total hpos hno g.toNat le_rfl
    obtain ⟨p, hp, hok⟩ := hinv.exists_processLimitOk hpos hno htotal.le
    have hc := hinv.creates hg (hpos p hp) hok
    have hkept := hkeeps _ (openWorld_start hpos limit g) (es ++ [fillEvent p])
      (along_append.mpr ⟨hrun, hp, trivial⟩)
    have hend := hkept.last
    rw [exec_append, exec_cons, exec_nil, hc.totalQps, htotal] at hend
    omega
  · exact keepsGlobalLimit_of_limitsSuffice

/-- The theorem at two processes that may have one QP each, under a global limit of two. -/
theorem keepsGlobalLimit_iff_limitsSuffice_two : KeepsGlobalLimit {7, 8} (fun _ => 1) 2 := by
  have hpos : ∀ p ∈ ({7, 8} : Finset Pid), 0 < p := by
    intro p hp
    rcases Finset.mem_insert.mp hp with rfl | hp
    · decide
    · rw [Finset.mem_singleton.mp hp]
      decide
  rw [keepsGlobalLimit_iff_limitsSuffice {7, 8} hpos (fun _ => 1) 2]
  have hone : UInt32.toNat 1 < 2 ^ 32 - 1 := by decide
  exact Or.inr ⟨by decide +kernel, fun _ _ => hone, by decide +kernel⟩

/-- One process creates three QPs. -/
def threeQpRun : List Event :=
  [.create 7 (.qp 0 ⟨.rc, 1, 1⟩) (some 16), .create 7 (.qp 0 ⟨.rc, 1, 1⟩) (some 17),
    .create 7 (.qp 0 ⟨.rc, 1, 1⟩) (some 18)]

/-- Under a global limit of two the third creation is granted. -/
theorem third_qp_exceeds_global_limit :
    GlobalStart {7} (fun _ => 100) 2 (openWorld (fun _ => 100) 2) ∧
      Along World.step (GlobalEvent {7}) (openWorld (fun _ => 100) 2) threeQpRun ∧
      ¬ Always World.step (fun w => totalQps w ≤ UInt32.toNat 2) (openWorld (fun _ => 100) 2)
        threeQpRun := by
  have hpos : ∀ p ∈ ({7} : Finset Pid), 0 < p := by
    intro p hp
    rw [Finset.mem_singleton.mp hp]
    decide
  refine ⟨openWorld_start hpos _ _, ⟨Finset.mem_singleton_self _,
    Finset.mem_singleton_self _, Finset.mem_singleton_self _, trivial⟩, ?_⟩
  intro h
  have hend := h.last
  have htotal : totalQps (exec World.step (openWorld (fun _ => 100) 2) threeQpRun) = 3 := by
    decide +kernel
  rw [htotal] at hend
  exact absurd hend (by decide)

end RdmaIntercept.Analysis
