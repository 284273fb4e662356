import RdmaIntercept.Analysis.Scenario
import RdmaIntercept.Analysis.SharedMemorySpec

/-!
# Processes that exit

Nothing in the library runs when a process exits: both segments stay as they are.  What
a process leaves open therefore stays charged to its tenant, and its entries in the two
tables stay behind for the next process with its PID.  This module proves what holds
nevertheless, in every run of starts, calls and exits: the counts are those of the live
objects together with the objects that were left open, every PID has at most one entry
in each table, the tables cannot fill up before 1024 different PIDs have been used, and
a process with a PID that was never used starts from nothing.
-/

set_option autoImplicit false

namespace RdmaIntercept.Analysis

open RdmaIntercept.Library RdmaIntercept.Model

/-- All that `ebpf_monitor_init` does to the process-resource segment is to attach to it, by
`shm_init` or without touching it. -/
def AttachesOnly (f : SharedMemoryData → SharedMemoryData × Bool) : Prop :=
  ∀ d, (f d).1 = d ∨ ∃ nowNs, (f d).1 = shmInit d nowNs

/-- The events of a run with starts and exits.  The tenant segment has been initialised
before a process starts. -/
def ExitEvent (w : World) : Event → Prop
  | .start p env =>
    p ∉ w.alive ∧ 0 < p ∧ w.sys.tenantShm.version ≠ 0 ∧ AttachesOnly env.ebpfMonitorInit
  | .exit p => p ∈ w.alive
  | .create p req _ => p ∈ w.alive ∧ Ready w.sys p req.kind
  | .destroy p o _ => p ∈ w.alive ∧ Owns w p o ∧ Ready w.sys p o.kind
  | .tick _ _ => True
  | .store _ => False

/-- Where such a run starts: no process has run. -/
structure ExitStart (w : World) : Prop where
  usage : ZeroUsage w.sys
  unmapped : ∀ i, (w.sys.tenantShm.pidMappings i).pid = 0 ∧
    (w.sys.tenantShm.pidMappings i).tenantId = 0
  unlisted : ∀ i, w.sys.shm.processPids i = 0
  live : w.live = []
  alive : w.alive = ∅
  reclaimed : w.reclaimed = []

/-- The PIDs that have been used in a run. -/
def startedPids : List Event → Finset Pid
  | [] => ∅
  | .start p _ :: es => insert p (startedPids es)
  | _ :: es => startedPids es

/-- Every entry of a table of PIDs is one of `used`, and none is there twice. -/
structure TableOf (used : Finset Pid) (key : Fin MAX_PROCESSES → Pid) : Prop where
  distinct : SlotTable.Distinct key 0
  used : ∀ i, key i ≠ 0 → key i ∈ used

/-- What a run with starts and exits keeps. -/
structure ExitInv (used : Finset Pid) (w : World) : Prop where
  mappings : MappingsActive w.sys
  mapped : TableOf used w.sys.tenantShm.mappedPid
  listed : TableOf used w.sys.shm.processPids
  alive : ∀ p ∈ w.alive, p ∈ used ∧ 0 < p
  owned : ∀ o ∈ w.live, o.owner ∈ w.alive ∧ o.tenant = currentTenant w.sys o.owner
  counts : ∀ t : UInt32, t ≠ 0 → t.toNat < MAX_TENANTS → ∀ k,
    (w.sys.usage t).count k = Int32.ofNat (w.liveCount t k + countOf w.reclaimed t k)

/-! ## Tables -/

theorem TableOf.empty {key : Fin MAX_PROCESSES → Pid} (h : ∀ i, key i = 0)
    (used : Finset Pid) : TableOf used key :=
  ⟨fun i _ _ hi => absurd (h i) hi, fun i hi => absurd (h i) hi⟩

theorem TableOf.mono {used used' : Finset Pid} {key : Fin MAX_PROCESSES → Pid}
    (h : TableOf used key) (hsub : used ⊆ used') : TableOf used' key :=
  ⟨h.distinct, fun i hi => hsub (h.used i hi)⟩

theorem TableOf.update {used : Finset Pid} {key : Fin MAX_PROCESSES → Pid} {p : Pid}
    {i : Fin MAX_PROCESSES} (h : TableOf used key)
    (hi : SlotTable.slotFor key 0 p = some i) (hp : p ∈ used) :
    TableOf used (Function.update key i p) := by
  refine ⟨SlotTable.distinct_update h.distinct hi, ?_⟩
  intro j hj
  by_cases hji : j = i
  · rw [hji, Function.update_self]
    exact hp
  · rw [Function.update_of_ne hji] at hj ⊢
    exact h.used j hj

/-- There is a slot for every process while fewer PIDs have been used than there are slots. -/
theorem TableOf.exists_slot {used : Finset Pid} {key : Fin MAX_PROCESSES → Pid}
    (h : TableOf used key) (hcard : used.card < MAX_PROCESSES) (p : Pid) :
    ∃ i, SlotTable.slotFor key 0 p = some i :=
  SlotTable.exists_slotFor_of_card_lt h.distinct used h.used hcard

theorem TableOf.slotOf_eq_none {used : Finset Pid} {key : Fin MAX_PROCESSES → Pid}
    (h : TableOf used key) {p : Pid} (hp : p ∉ used) (h0 : p ≠ 0) :
    SlotTable.slotOf key p = none := by
  rw [SlotTable.slotOf_eq_none_iff]
  intro i hi
  have hused := h.used i (by rw [hi]; exact h0)
  rw [hi] at hused
  exact hp hused

/-! ## Starting -/

/-- What the start of process `p` does. -/
structure Starts (w : World) (p : Pid) (env : StartEnv) (w' : World) : Prop where
  live : w'.live = w.live
  reclaimed : w'.reclaimed = w.reclaimed
  alive : w'.alive = insert p w.alive
  proc : ∀ q, q ≠ p → w'.sys.proc q = w.sys.proc q
  kept : TenantsKept w.sys.tenantShm w'.sys.tenantShm
  mapping : w'.sys.tenantShm.pidMappings = w.sys.tenantShm.pidMappings ∨
    ∃ i t, SlotTable.slotFor w.sys.tenantShm.mappedPid 0 p = some i ∧
      t.toNat < MAX_TENANTS ∧ w.sys.status t = .active ∧
      w'.sys.tenantShm.pidMappings =
        Function.update w.sys.tenantShm.pidMappings i ⟨p, t, w.sys.wallClock⟩
  unbound : env.tenantEnv = none →
    w'.sys.tenantShm.pidMappings = w.sys.tenantShm.pidMappings
  shm : w'.sys.shm = w.sys.shm ∨ ∃ nowNs, w'.sys.shm = shmInit w.sys.shm nowNs

/-- The start-up code, on an initialised tenant segment. -/
theorem initFunctionPointers_spec {s : System} (p : Pid) (env : StartEnv)
    (hversion : s.tenantShm.version ≠ 0) :
    ((initFunctionPointers s p env).shm = s.shm ∨
      (initFunctionPointers s p env).shm = (env.ebpfMonitorInit s.shm).1) ∧
    ((initFunctionPointers s p env).tenantShm = s.tenantShm ∨
      ∃ t, env.tenantEnv = some t ∧ (initFunctionPointers s p env).tenantShm =
        (tenantBindProcess s.tenantShm p t s.wallClock).2) := by
  have hinit : tenantShmInit s.tenantShm s.wallClock = s.tenantShm := if_neg hversion
  unfold initFunctionPointers
  cases hlib : env.libibverbs with
  | false =>
    simp only [Bool.not_false, if_true]
    exact ⟨Or.inl rfl, Or.inl rfl⟩
  | true =>
    cases hmapped : env.tenantShmMapped with
    | false =>
      simp only [Bool.not_true, Bool.false_eq_true, if_false, false_and]
      cases env.tenantEnv with
      | none => exact ⟨Or.inr rfl, Or.inl rfl⟩
      | some t => exact ⟨Or.inr rfl, Or.inl rfl⟩
    | true =>
      simp only [Bool.not_true, Bool.false_eq_true, if_false, if_true, true_and, hinit]
      cases henv : env.tenantEnv with
      | none => exact ⟨Or.inr rfl, Or.inl rfl⟩
      | some t =>
        by_cases ht : 0 < t
        · simp only [if_pos ht]
          exact ⟨Or.inr rfl, Or.inr ⟨t, rfl, rfl⟩⟩
        · simp only [if_neg ht]
          exact ⟨Or.inr rfl, Or.inl rfl⟩

theorem step_start {w : World} {p : Pid} {env : StartEnv}
    (hversion : w.sys.tenantShm.version ≠ 0) (hattach : AttachesOnly env.ebpfMonitorInit) :
    Starts w p env (w.step (.start p env)) := by
  obtain ⟨hshm, hten⟩ := initFunctionPointers_spec p env hversion
  have hproc : ∀ q, q ≠ p → (w.step (.start p env)).sys.proc q = w.sys.proc q :=
    fun q hq => initFunctionPointers_proc hq env
  have hsys : (w.step (.start p env)).sys = initFunctionPointers w.sys p env := rfl
  have hshm' : (w.step (.start p env)).sys.shm = w.sys.shm ∨
      ∃ nowNs, (w.step (.start p env)).sys.shm = shmInit w.sys.shm nowNs := by
    rw [hsys]
    rcases hshm with h | h
    · exact Or.inl h
    · rw [h]
      exact hattach w.sys.shm
  rcases hten with h | ⟨t, henv, h⟩
  · refine ⟨rfl, rfl, rfl, hproc, ?_, Or.inl ?_, fun _ => ?_, hshm'⟩
    · rw [hsys, h]
      exact .refl _
    · rw [hsys, h]
    · rw [hsys, h]
  · refine ⟨rfl, rfl, rfl, hproc, ?_, ?_, fun hnone => ?_, hshm'⟩
    · rw [hsys, h]
      exact tenantBindProcess_kept _ _ _ _
    · rw [hsys, h]
      rcases tenantBindProcess_cases w.sys.tenantShm p t w.sys.wallClock with
        ⟨-, hno⟩ | ⟨-, hb⟩
      · exact Or.inl hno.pidMappings
      · obtain ⟨i, hi, hmap⟩ := hb.stored
        exact Or.inr ⟨i, t, hi, hb.inRange, hb.active, hmap⟩
    · rw [henv] at hnone
      exact absurd hnone (Option.some_ne_none t)

/-! ## What one event keeps -/

theorem ExitInv.of_quiet {used : Finset Pid} {w w' : World} (h : ExitInv used w)
    (hq : Quiet w w') : ExitInv used w' := by
  refine ⟨h.mappings.congr hq.sys.records.pidMappings hq.sys.status, ?_, ?_, ?_, ?_, ?_⟩
  · rw [mappedPid_congr hq.sys.records.pidMappings]
    exact h.mapped
  · rw [hq.sys.shm]
    exact h.listed
  · rw [hq.alive]
    exact h.alive
  · rw [hq.live, hq.alive]
    intro o ho
    rw [hq.sys.currentTenant]
    exact h.owned o ho
  · intro t h0 ht k
    have hcount := h.counts t h0 ht k
    unfold World.liveCount at hcount ⊢
    rw [hq.sys.usage, hq.live, hq.reclaimed]
    exact hcount

theorem TableOf.shmUpdate {used : Finset Pid} {d : SharedMemoryData} {p : Pid}
    (h : TableOf used d.processPids) (hp : p ∈ used) (h0 : 0 < p) (usage : ResourceUsage)
    (nowNs : UInt64) :
    TableOf used (shmUpdateProcessResources d p usage nowNs).2.processPids := by
  cases hslot : SlotTable.slotFor d.processPids 0 p with
  | none =>
    rw [(shmUpdateProcessResources_full hslot usage nowNs).2.1]
    exact h
  | some i =>
    obtain ⟨j, hj, hpids, -⟩ :=
      (shmUpdateProcessResources_spec h0 ⟨i, hslot⟩ usage nowNs).2.slot
    rw [hpids]
    exact h.update hj hp

theorem TableOf.shmAfterCreate {used : Finset Pid} {s : System} {p : Pid}
    (h : TableOf used s.shm.processPids) (hp : p ∈ used) (h0 : 0 < p) (req : CreateReq) :
    TableOf used (shmAfterCreate s p req).processPids := by
  cases req with
  | qp pd attr =>
    cases hatt : (s.proc p).shmAttached with
    | true =>
      rw [shmAfterCreate_qp hatt]
      exact h.shmUpdate hp h0 _ _
    | false =>
      have hproc : ((s.setProc p (s.proc p).addQp).proc p).shmAttached = false := by
        simp only [System.setProc, Function.update_self]
        exact hatt
      rw [Analysis.shmAfterCreate, publishProcessResources, hproc]
      exact h
  | mr pd addr length access => exact h
  | cq context cqe cqContext channel compVector => exact h
  | pd context => exact h

theorem ExitInv.of_creates {used : Finset Pid} {w w' : World} (h : ExitInv used w) {p : Pid}
    (hp : p ∈ w.alive) {req : CreateReq} {g : Handle} (hc : Creates w p req g w') :
    ExitInv used w' := by
  have hbind := hc.sameBindings
  obtain ⟨hused, hpos⟩ := h.alive p hp
  refine ⟨h.mappings.congr hc.sys.pidMappings hc.sys.status, ?_, ?_, ?_, ?_, ?_⟩
  · rw [mappedPid_congr hc.sys.pidMappings]
    exact h.mapped
  · rw [hc.sys.shm]
    exact h.listed.shmAfterCreate hused hpos req
  · rw [hc.alive]
    exact h.alive
  · rw [hc.alive]
    simp only [hbind.currentTenant]
    exact hc.forall_live ⟨hp, rfl⟩ h.owned
  · intro t h0 ht k
    have hcount := h.counts t h0 ht k
    rw [hc.reclaimed]
    rcases hc.count_cases h0 ht (h.mappings.active h0) k with
      ⟨-, -, hnew, hlive⟩ | ⟨-, hnew, hlive⟩
    · rw [hnew, hlive, hcount, Counter.ofNat_succ, Nat.add_right_comm]
    · rw [hnew, hlive, hcount]

theorem ExitInv.of_destroys {used : Finset Pid} {w w' : World} (h : ExitInv used w) {p : Pid}
    {o : Obj} (hown : Owns w p o) (hd : Destroys w p o w') : ExitInv used w' := by
  have hbind := hd.sameBindings
  have hcharge : currentTenant w.sys p = o.tenant := by
    rw [(h.owned o hown.1).2, hown.2]
  refine ⟨h.mappings.congr hd.sys.pidMappings hd.sys.status, ?_, ?_, ?_, ?_, ?_⟩
  · rw [mappedPid_congr hd.sys.pidMappings]
    exact h.mapped
  · rw [hd.sys.shm]
    exact h.listed
  · rw [hd.alive]
    exact h.alive
  · rw [hd.alive]
    simp only [hbind.currentTenant]
    exact hd.forall_live h.owned
  · intro t h0 ht k
    have hcount := h.counts t h0 ht k
    rw [hd.reclaimed]
    rcases hd.count_cases hown.1 hcharge h0 ht (h.mappings.active h0) k with
      ⟨hnew, hlive⟩ | ⟨hnew, hlive⟩
    · rw [hlive, Nat.add_right_comm] at hcount
      rw [hnew, hcount, Counter.ofNat_pred]
    · rw [hnew, hlive, hcount]

theorem TableOf.attach {used : Finset Pid} {d d' : SharedMemoryData}
    (h : TableOf used d.processPids) (hd : d' = d ∨ ∃ nowNs, d' = shmInit d nowNs) :
    TableOf used d'.processPids := by
  rcases hd with rfl | ⟨nowNs, rfl⟩
  · exact h
  · unfold shmInit
    split
    · exact .empty (fun _ => rfl) used
    · exact h

/-- The start of a process leaves the tenants of the others. -/
theorem Starts.currentTenant {w w' : World} {p q : Pid} {env : StartEnv}
    (hs : Starts w p env w') (hqp : q ≠ p) (hq : q ≠ 0) :
    currentTenant w'.sys q = currentTenant w.sys q := by
  rw [currentTenant_eq, currentTenant_eq, hs.proc q hqp]
  rcases hs.mapping with hmap | ⟨i, t, hi, -, -, hmap⟩
  · rw [tenantOf_congr hmap]
  · rw [tenantOf_of_bind hi hmap hqp hq]

theorem ExitInv.of_starts {used : Finset Pid} {w w' : World} (h : ExitInv used w) {p : Pid}
    {env : StartEnv} (hnew : p ∉ w.alive) (hpos : 0 < p) (hs : Starts w p env w') :
    ExitInv (insert p used) w' := by
  have hsub : used ⊆ insert p used := Finset.subset_insert p used
  refine ⟨?_, ?_, (h.listed.attach hs.shm).mono hsub, ?_, ?_, ?_⟩
  · rcases hs.mapping with hmap | ⟨i, t, -, ht, hact, hmap⟩
    · exact h.mappings.congr hmap hs.kept.status
    · exact h.mappings.update hmap hs.kept.status (fun _ => ⟨ht, hact⟩)
  · rcases hs.mapping with hmap | ⟨i, t, hi, -, -, hmap⟩
    · rw [mappedPid_congr hmap]
      exact h.mapped.mono hsub
    · rw [mappedPid_of_update hmap]
      exact (h.mapped.mono hsub).update hi (Finset.mem_insert_self p used)
  · rw [hs.alive]
    intro q hq
    rcases Finset.mem_insert.mp hq with rfl | hq
    · exact ⟨Finset.mem_insert_self q used, hpos⟩
    · exact ⟨hsub (h.alive q hq).1, (h.alive q hq).2⟩
  · rw [hs.live, hs.alive]
    intro o ho
    obtain ⟨halive, htenant⟩ := h.owned o ho
    have hop : o.owner ≠ p := by
      intro heq
      rw [heq] at halive
      exact hnew halive
    have hpos' := (Int32.ne_of_lt (h.alive o.owner halive).2).symm
    rw [hs.currentTenant hop hpos']
    exact ⟨Finset.mem_insert_of_mem halive, htenant⟩
  · intro t h0 ht k
    have hcount := h.counts t h0 ht k
    have husage : w'.sys.usage t = w.sys.usage t := hs.kept.usage t
    unfold World.liveCount at hcount ⊢
    rw [husage, hs.live, hs.reclaimed]
    exact hcount

/-- An exit moves what the process leaves open from the live objects to the others. -/
theorem ExitInv.exit {used : Finset Pid} {w : World} (h : ExitInv used w) (p : Pid) :
    ExitInv used (w.step (.exit p)) := by
  refine ⟨h.mappings, h.mapped, h.listed, ?_, ?_, ?_⟩
  · intro q hq
    exact h.alive q (Finset.mem_of_mem_erase hq)
  · intro o ho
    obtain ⟨ho, hop⟩ := List.mem_filter.mp ho
    have hne : o.owner ≠ p := of_decide_eq_true hop
    obtain ⟨halive, htenant⟩ := h.owned o ho
    have hcur : currentTenant (w.step (.exit p)).sys o.owner = currentTenant w.sys o.owner :=
      currentTenant_congr rfl (by rw [World.step, setProc_of_ne hne])
    exact ⟨Finset.mem_erase.mpr ⟨hne, halive⟩, htenant.trans hcur.symm⟩
  · intro t h0 ht k
    have hcount := h.counts t h0 ht k
    have hsplit := countOf_owner w.live p t k
    have hsum : (w.step (.exit p)).liveCount t k + countOf (w.step (.exit p)).reclaimed t k =
        w.liveCount t k + countOf w.reclaimed t k := by
      simp only [World.step, World.liveCount, countOf_append, hsplit]
      omega
    rw [hsum]
    exact hcount

/-! ## What a run keeps -/

theorem ExitInv.mono {used used' : Finset Pid} {w : World} (h : ExitInv used w)
    (hsub : used ⊆ used') : ExitInv used' w :=
  ⟨h.mappings, h.mapped.mono hsub, h.listed.mono hsub,
    fun p hp => ⟨hsub (h.alive p hp).1, (h.alive p hp).2⟩, h.owned, h.counts⟩

/-- Every event of the run keeps the invariant, with the PID of a start among those used. -/
theorem ExitInv.step {used : Finset Pid} {w : World} (h : ExitInv used w) {e : Event}
    (he : ExitEvent w e) : ExitInv (used ∪ startedPids [e]) (w.step e) := by
  cases e with
  | start p env =>
    obtain ⟨hnew, hpos, hversion, hattach⟩ := he
    have hused : used ∪ startedPids [.start p env] = insert p used := by
      simp only [startedPids, Finset.union_insert, Finset.union_empty]
    rw [hused]
    exact h.of_starts hnew hpos (step_start hversion hattach)
  | exit p => exact (h.exit p).mono Finset.subset_union_left
  | create p req driver =>
    obtain ⟨hp, hready⟩ := he
    rcases step_create_cases req hready driver with ⟨-, hq⟩ | ⟨g, -, -, hc⟩
    · exact (h.of_quiet hq).mono Finset.subset_union_left
    · exact (h.of_creates hp hc).mono Finset.subset_union_left
  | destroy p o driver =>
    obtain ⟨-, hown, hready⟩ := he
    rcases step_destroy_cases hready driver with ⟨-, hq⟩ | ⟨-, hd⟩
    · exact (h.of_quiet hq).mono Finset.subset_union_left
    · exact (h.of_destroys hown hd).mono Finset.subset_union_left
  | tick wall mono =>
    have hcur : ∀ p, currentTenant (w.step (.tick wall mono)).sys p = currentTenant w.sys p :=
      fun p => currentTenant_congr rfl rfl
    have htick : ExitInv used (w.step (.tick wall mono)) :=
      ⟨h.mappings, h.mapped, h.listed, h.alive,
        fun o ho => ⟨(h.owned o ho).1, (h.owned o ho).2.trans (hcur o.owner).symm⟩, h.counts⟩
    exact htick.mono Finset.subset_union_left
  | store op => exact he.elim

theorem startedPids_cons (e : Event) (es : List Event) :
    startedPids (e :: es) = startedPids [e] ∪ startedPids es := by
  cases e with
  | start p env => simp only [startedPids, Finset.insert_union, Finset.empty_union]
  | exit p => simp only [startedPids, Finset.empty_union]
  | create p req driver => simp only [startedPids, Finset.empty_union]
  | destroy p o driver => simp only [startedPids, Finset.empty_union]
  | tick wall mono => simp only [startedPids, Finset.empty_union]
  | store op => simp only [startedPids, Finset.empty_union]

theorem ExitInv.exec {used : Finset Pid} {w : World} (h : ExitInv used w) {es : List Event}
    (hrun : Along World.step ExitEvent w es) :
    ExitInv (used ∪ startedPids es) (exec World.step w es) := by
  induction es generalizing used w with
  | nil => exact h.mono Finset.subset_union_left
  | cons e es ih =>
    rw [startedPids_cons, ← Finset.union_assoc]
    exact ih (h.step hrun.1) hrun.2

theorem ExitStart.inv {w : World} (h : ExitStart w) : ExitInv ∅ w := by
  refine ⟨?_, .empty (fun i => (h.unmapped i).1) ∅, .empty h.unlisted ∅, ?_, ?_, ?_⟩
  · intro i hi
    exact absurd (h.unmapped i).2 hi
  · rw [h.alive]
    intro p hp
    exact absurd hp (Finset.notMem_empty p)
  · exact forall_live_of_nil h.live
  · intro t _ _ k
    rw [h.usage.count, liveCount_of_nil h.live, h.reclaimed, countOf_nil]
    rfl

/-! ## The accounts after a run -/

/-- What holds in a world in which the PIDs `used` have been used. -/
structure AfterExits (used : Finset Pid) (w : World) : Prop where
  /-- the counts are those of the live objects and of the objects that were left open -/
  counts : ∀ t : UInt32, t ≠ 0 → t.toNat < MAX_TENANTS → ∀ k,
    (w.sys.usage t).count k = Int32.ofNat (w.liveCount t k + countOf w.reclaimed t k)
  /-- the live objects are those of live processes, in the tenant of the process -/
  owned : ∀ o ∈ w.live, o.owner ∈ w.alive ∧ o.tenant = currentTenant w.sys o.owner
  mapped : TableOf used w.sys.tenantShm.mappedPid
  listed : TableOf used w.sys.shm.processPids
  binds : used.card < MAX_PROCESSES → ∀ (p : Pid) (t : UInt32) (now : TimeT),
    t.toNat < MAX_TENANTS → w.sys.status t = .active →
      (tenantBindProcess w.sys.tenantShm p t now).1 = true
  updates : used.card < MAX_PROCESSES → ∀ (p : Pid) (usage : ResourceUsage) (nowNs : UInt64),
    0 < p → (shmUpdateProcessResources w.sys.shm p usage nowNs).1 = true
  /-- a process with a new PID that its start-up code does not bind starts from nothing -/
  newProcess : ∀ (p : Pid) (env : StartEnv), p ∉ used → ExitEvent w (.start p env) →
    env.tenantEnv = none → currentTenant (w.step (.start p env)).sys p = 0 ∧
      published (w.step (.start p env)).sys.shm p = .zero
  /-- an exit changes neither segment -/
  exit : ∀ p, (w.step (.exit p)).sys.tenantShm = w.sys.tenantShm ∧
    (w.step (.exit p)).sys.shm = w.sys.shm

theorem ExitInv.newProcess {used : Finset Pid} {w : World} (h : ExitInv used w) {p : Pid}
    {env : StartEnv} (hp : p ∉ used) (he : ExitEvent w (.start p env))
    (henv : env.tenantEnv = none) :
    currentTenant (w.step (.start p env)).sys p = 0 ∧
      published (w.step (.start p env)).sys.shm p = .zero := by
  obtain ⟨-, hpos, hversion, hattach⟩ := he
  have hs := step_start (p := p) hversion hattach
  have h0 := (Int32.ne_of_lt hpos).symm
  constructor
  · have hnone : (w.step (.start p env)).sys.tenantShm.tenantOf p = none := by
      rw [tenantOf_congr (hs.unbound henv), TenantShm.tenantOf, h.mapped.slotOf_eq_none hp h0]
      rfl
    rw [currentTenant_eq, hnone]
    exact ite_self 0
  · unfold published
    rw [(h.listed.attach hs.shm).slotOf_eq_none hp h0]

theorem ExitInv.afterExits {used : Finset Pid} {w : World} (h : ExitInv used w) :
    AfterExits used w where
  counts := h.counts
  owned := h.owned
  mapped := h.mapped
  listed := h.listed
  binds := fun hcard p _ _ ht hact =>
    tenantBindProcess_succeeds ht hact (h.mapped.exists_slot hcard p)
  updates := fun hcard p usage nowNs hpos =>
    (shmUpdateProcessResources_spec hpos (h.listed.exists_slot hcard p) usage nowNs).1
  newProcess := fun _ _ hp he henv => h.newProcess hp he henv
  exit := fun _ => ⟨rfl, rfl⟩

/-- The world in which tenants 1 and 2 have been created and no process has run. -/
def idleWorld : World where
  sys :=
    { tenantShm := [StoreOp.create 1 none none, .create 2 none none].foldl
        (fun shm op => (op.exec shm 0).2) (.fresh 0)
      shm := .fresh 0
      proc := fun _ => .unstarted
      wallClock := 0
      monoClock := 0 }
  live := []
  alive := ∅
  reclaimed := []

/-- A start with both segments, `RDMA_TENANT_ID` set as given. -/
def attachEnv (tenant : Option UInt32) : StartEnv where
  initialized := true
  config := .default
  libibverbs := true
  realCreate := fun _ => true
  realDestroy := fun _ => true
  ebpfMonitorInit := fun d => (shmInit d 0, true)
  tenantShmMapped := true
  tenantEnv := tenant

/-- Process 7 starts in tenant 1, creates a QP and exits. -/
def openExitRun : List Event :=
  [.start 7 (attachEnv (some 1)), .create 7 (.qp 0 ⟨.rc, 1, 1⟩) (some 16), .exit 7]

theorem idleWorld_exitStart : ExitStart idleWorld := by
  refine ⟨?_, ?_, fun _ => rfl, rfl, rfl, rfl⟩
  · unfold ZeroUsage
    decide +kernel
  · decide +kernel

theorem openExitRun_events : Along World.step ExitEvent idleWorld openExitRun := by
  refine ⟨⟨by decide, by decide, by decide +kernel, fun _ => Or.inr ⟨0, rfl⟩⟩, ?_, ?_, trivial⟩
  · exact ⟨by decide +kernel, ⟨by decide +kernel, rfl, rfl⟩⟩
  · show (7 : Pid) ∈ _
    decide +kernel

/-- What an exit would have to restore: the counts are those of the live objects, the
mappings are those of live processes, and an unbound process is in the default tenant. -/
structure ReturnsHoldings (w : World) : Prop where
  counts : ∀ t : UInt32, t ≠ 0 → t.toNat < MAX_TENANTS → ∀ k,
    ((w.sys.usage t).count k).toInt = w.liveCount t k
  mapped : ∀ i, w.sys.tenantShm.mappedPid i ≠ 0 → w.sys.tenantShm.mappedPid i ∈ w.alive
  listed : ∀ i, w.sys.shm.processPids i ≠ 0 → w.sys.shm.processPids i ∈ w.alive
  newProcess : ∀ p env, ExitEvent w (.start p env) → env.tenantEnv = none →
    currentTenant (w.step (.start p env)).sys p = 0 ∧
      published (w.step (.start p env)).sys.shm p = .zero

end RdmaIntercept.Analysis
