import RdmaIntercept.Analysis.SharedMemorySpec
import RdmaIntercept.Model.SegmentRuns

/-!
# Attaching to an initialised segment

`shm_init` takes a segment for new when its three global counters are zero, and then
writes all of it.  Of a segment in use it changes nothing exactly if a global counter is
not zero, or if the segment is still as the first `shm_init` has left it.
-/

set_option autoImplicit false

namespace RdmaIntercept.Analysis

open RdmaIntercept.Library RdmaIntercept.Model

/-- A call that is not interrupted makes the three steps of its process. -/
theorem exec_steps {w : ShmWorld} {p : Pid} {op : ShmOp} (nowNs : UInt64)
    (hidle : w.phase p = .idle) (hfree : w.seg.shmLock = 0) (hop : op.accepted = true) :
    exec ShmWorld.step w (op.steps p nowNs) = { w with seg := op.call w.seg nowNs } := by
  have hphase : Function.update w.phase p .idle = w.phase := by
    rw [← hidle, Function.update_eq_self]
  simp only [ShmOp.steps, exec_cons, exec_nil, ShmWorld.step, hidle, hfree, hop, and_self,
    if_true, ShmWorld.setPhase, Function.update_self, Function.update_idem, hphase]
  cases op with
  | updateGlobal usage => rfl
  | updateProcess pid usage =>
    have hpos : ¬ pid ≤ 0 := Int32.not_le.mpr (by simpa [ShmOp.accepted] using hop)
    simp only [ShmOp.write, ShmOp.call, shmUpdateProcessResources, if_neg hpos]
  | setLimits maxQp maxMr maxMemory => rfl

/-- The fields that attaching must not change. -/
structure SameSegment (d d' : SharedMemoryData) : Prop where
  processPids : d'.processPids = d.processPids
  processStats : d'.processStats = d.processStats
  globalStats : d'.globalStats = d.globalStats
  maxGlobalQp : d'.maxGlobalQp = d.maxGlobalQp
  maxGlobalMr : d'.maxGlobalMr = d.maxGlobalMr
  maxGlobalMemory : d'.maxGlobalMemory = d.maxGlobalMemory
  shmLock : d'.shmLock = d.shmLock
  version : d'.version = d.version

/-- No process has an entry, the limits are the default ones, the lock is free and nothing
has been updated. -/
structure StillFresh (d : SharedMemoryData) : Prop where
  processPids : ∀ i, d.processPids i = 0
  maxGlobalQp : d.maxGlobalQp = 1000
  maxGlobalMr : d.maxGlobalMr = 1000
  maxGlobalMemory : d.maxGlobalMemory = 1024 * 1024 * 1024
  shmLock : d.shmLock = 0
  version : d.version = 1

/-- What the steps of all processes keep: a slot without a process has no statistics, and a
process that holds the lock for its record has a positive id. -/
structure SegmentInv (w : ShmWorld) : Prop where
  freeSlots : ∀ i, w.seg.processPids i = 0 → w.seg.processStats i = .zero
  accepted : ∀ p op, w.phase p = .locked op → op.accepted = true

theorem shmInit_blank (nowNs : UInt64) : shmInit .blank nowNs = .fresh nowNs :=
  if_pos ⟨rfl, rfl, rfl⟩

theorem created_inv (nowNs : UInt64) : SegmentInv (.created nowNs) := by
  refine ⟨?_, ?_⟩
  · intro i _
    unfold ShmWorld.created
    rw [shmInit_blank]
    rfl
  · intro p op h
    exact absurd h (by simp [ShmWorld.created])

/-- A write leaves no statistics in a free slot. -/
theorem freeSlots_write {d : SharedMemoryData}
    (h : ∀ i, d.processPids i = 0 → d.processStats i = .zero) (nowNs : UInt64) {op : ShmOp}
    (hop : op.accepted = true) (i : Fin MAX_PROCESSES)
    (hi : (op.write d nowNs).processPids i = 0) :
    (op.write d nowNs).processStats i = .zero := by
  cases op with
  | updateGlobal usage => exact h i hi
  | setLimits maxQp maxMr maxMemory => exact h i hi
  | updateProcess pid usage =>
    have hpos : 0 < pid := by simpa [ShmOp.accepted] using hop
    simp only [ShmOp.write] at hi ⊢
    cases hslot : SlotTable.slotFor d.processPids 0 pid with
    | none =>
      rw [writeProcessResources_none hslot] at hi ⊢
      exact h i hi
    | some j =>
      rw [writeProcessResources_some hslot] at hi ⊢
      simp only at hi ⊢
      by_cases hij : i = j
      · rw [hij, Function.update_self] at hi
        rw [hi] at hpos
        exact absurd hpos (by decide)
      · rw [Function.update_of_ne hij] at hi ⊢
        exact h i hi

theorem SegmentInv.setPhase {w : ShmWorld} (h : SegmentInv w) (seg : SharedMemoryData)
    (hseg : ∀ i, seg.processPids i = 0 → seg.processStats i = .zero) (p : Pid) {ph : ShmPhase}
    (hph : ∀ op, ph = .locked op → op.accepted = true) :
    SegmentInv (({ w with seg := seg } : ShmWorld).setPhase p ph) := by
  refine ⟨hseg, ?_⟩
  intro q op hq
  simp only [ShmWorld.setPhase] at hq
  by_cases hqp : q = p
  · subst hqp
    rw [Function.update_self] at hq
    exact hph op hq
  · rw [Function.update_of_ne hqp] at hq
    exact h.accepted q op hq

/-- Every step of every process keeps the invariant. -/
theorem SegmentInv.step {w : ShmWorld} (h : SegmentInv w) (e : ShmEvent) :
    SegmentInv (w.step e) := by
  cases e with
  | init p nowNs =>
    cases hph : w.phase p with
    | idle =>
      simp only [ShmWorld.step, hph]
      refine ⟨?_, h.accepted⟩
      simp only [shmInit]
      split
      · exact fun _ _ => rfl
      · exact h.freeSlots
    | locked op =>
      simp only [ShmWorld.step, hph]
      exact h
    | written =>
      simp only [ShmWorld.step, hph]
      exact h
  | acquire p op =>
    cases hph : w.phase p with
    | idle =>
      by_cases hok : op.accepted = true ∧ w.seg.shmLock = 0
      · simp only [ShmWorld.step, hph, if_pos hok]
        apply h.setPhase (shmLock w.seg) h.freeSlots p
        intro op' heq
        obtain rfl := ShmPhase.locked.inj heq
        exact hok.1
      · simp only [ShmWorld.step, hph, if_neg hok]
        exact h
    | locked op' =>
      simp only [ShmWorld.step, hph]
      exact h
    | written =>
      simp only [ShmWorld.step, hph]
      exact h
  | write p nowNs =>
    cases hph : w.phase p with
    | idle =>
      simp only [ShmWorld.step, hph]
      exact h
    | locked op =>
      simp only [ShmWorld.step, hph]
      apply h.setPhase _ (freeSlots_write h.freeSlots nowNs (h.accepted p op hph)) p
      intro op' heq
      cases heq
    | written =>
      simp only [ShmWorld.step, hph]
      exact h
  | release p =>
    cases hph : w.phase p with
    | idle =>
      simp only [ShmWorld.step, hph]
      exact h
    | locked op =>
      simp only [ShmWorld.step, hph]
      exact h
    | written =>
      simp only [ShmWorld.step, hph]
      apply h.setPhase (shmUnlock w.seg) h.freeSlots p
      intro op' heq
      cases heq

/-- A segment without statistics in free slots is left alone exactly if it is in use or still
fresh. -/
theorem sameSegment_shmInit_iff {d : SharedMemoryData}
    (h : ∀ i, d.processPids i = 0 → d.processStats i = .zero) (nowNs : UInt64) :
    SameSegment d (shmInit d nowNs) ↔ d.globalStats ≠ .zero ∨ StillFresh d := by
  have hzero : (d.globalStats.qpCount = 0 ∧ d.globalStats.mrCount = 0 ∧
      d.globalStats.memoryUsed = 0) ↔ d.globalStats = .zero := by
    rw [ResourceUsage.zero, ResourceUsage.mk.injEq]
  unfold shmInit
  rw [if_congr hzero rfl rfl]
  by_cases h0 : d.globalStats = .zero
  · rw [if_pos h0]
    constructor
    · intro hsame
      right
      exact ⟨fun i => (congrFun hsame.processPids i).symm, hsame.maxGlobalQp.symm,
        hsame.maxGlobalMr.symm, hsame.maxGlobalMemory.symm, hsame.shmLock.symm,
        hsame.version.symm⟩
    · rintro (hne | hfresh)
      · exact absurd h0 hne
      · exact ⟨funext fun i => (hfresh.processPids i).symm,
          funext fun i => (h i (hfresh.processPids i)).symm, h0.symm, hfresh.maxGlobalQp.symm,
          hfresh.maxGlobalMr.symm, hfresh.maxGlobalMemory.symm, hfresh.shmLock.symm,
          hfresh.version.symm⟩
  · rw [if_neg h0]
    exact ⟨fun _ => Or.inl h0, fun _ => ⟨rfl, rfl, rfl, rfl, rfl, rfl, rfl, rfl⟩⟩

/-- **Attaching is not resetting** in a state that the processes can reach if and only if a
global counter is not zero, or no process has an entry, the limits are the default ones,
the lock is free and the version is that of a new segment. -/
theorem attaching_keeps_segment_iff (created : UInt64) (es : List ShmEvent) (nowNs : UInt64) :
    let d := (exec ShmWorld.step (.created created) es).seg
    SameSegment d (shmInit d nowNs) ↔ d.globalStats ≠ .zero ∨ StillFresh d := by
  intro d
  have hinv : SegmentInv (exec ShmWorld.step (.created created) es) :=
    exec_of_invariant (fun _ e hi => hi.step e) (created_inv created) es
  exact sameSegment_shmInit_iff hinv.freeSlots nowNs

/-- Process 7 records one QP in a new segment, and process 8 attaches. -/
def attachRun : List ShmEvent := (ShmOp.updateProcess 7 ⟨1, 0, 0⟩).steps 7 0

/-- The record is gone. -/
theorem attaching_resets_segment :
    ¬ SameSegment (exec ShmWorld.step (.created 0) attachRun).seg
      (exec ShmWorld.step (.created 0) (attachRun ++ [.init 8 0])).seg := by
  intro h
  have hbefore : (exec ShmWorld.step (.created 0) attachRun).seg.processPids 0 = 7 := by
    decide +kernel
  have hafter : (exec ShmWorld.step (.created 0)
      (attachRun ++ [.init 8 0])).seg.processPids 0 = 0 := by decide +kernel
  have hsame := congrFun h.processPids 0
  rw [hbefore, hafter] at hsame
  exact absurd hsame (by decide)

end RdmaIntercept.Analysis
