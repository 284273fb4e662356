import RdmaIntercept.Analysis.HookSpec

/-!
# What the process-resource operations do

The table of the process-resource segment is read through `published`, the record that a
process has stored last; a store by one process is shown to change that record only, and
to fail only on a full table.
-/

set_option autoImplicit false

namespace RdmaIntercept.Analysis

open RdmaIntercept.Library RdmaIntercept.Model

/-- The record that process `p` has published, all zero if it has none. -/
def published (d : SharedMemoryData) (p : Pid) : ResourceUsage :=
  match SlotTable.slotOf d.processPids p with
  | some i => d.processStats i
  | none => .zero

/-- There is a slot for process `p`: its own, or a free one. -/
def HasSlot (d : SharedMemoryData) (p : Pid) : Prop :=
  ∃ i, SlotTable.slotFor d.processPids 0 p = some i

theorem positive_ne_zero (p : Pid) (h : 0 < p) : p ≠ 0 := by
  rintro rfl
  exact absurd h (by decide)

theorem shmGetProcessResources_eq {d : SharedMemoryData} {p : Pid} (hp : 0 < p) :
    shmGetProcessResources d p = some (published d p) := by
  unfold shmGetProcessResources published
  rw [if_neg (Int32.not_le.mpr hp)]
  cases SlotTable.slotOf d.processPids p <;> rfl

theorem writeProcessResources_some {d : SharedMemoryData} {p : Pid} {i : Fin MAX_PROCESSES}
    (hi : SlotTable.slotFor d.processPids 0 p = some i) (usage : ResourceUsage)
    (nowNs : UInt64) :
    writeProcessResources d p usage nowNs =
      (true,
        { d with
          processPids := Function.update d.processPids i p
          processStats := Function.update d.processStats i usage
          version := d.version + 1
          lastUpdateTime := nowNs }) := by
  have hscan : SlotTable.scanOne d.processPids 0 p (List.finRange MAX_PROCESSES) none = some i :=
    SlotTable.scanOne_eq_slotFor.trans hi
  have hpids : (if d.processPids i = 0 then Function.update d.processPids i p
      else d.processPids) = Function.update d.processPids i p := by
    by_cases h0 : d.processPids i = 0
    · rw [if_pos h0]
    · rw [if_neg h0, SlotTable.update_of_used hi h0]
  unfold writeProcessResources
  rw [hscan]
  simp only [hpids]

theorem writeProcessResources_none {d : SharedMemoryData} {p : Pid}
    (h : SlotTable.slotFor d.processPids 0 p = none) (usage : ResourceUsage) (nowNs : UInt64) :
    writeProcessResources d p usage nowNs = (false, d) := by
  have hscan : SlotTable.scanOne d.processPids 0 p (List.finRange MAX_PROCESSES) none = none :=
    SlotTable.scanOne_eq_slotFor.trans h
  unfold writeProcessResources
  rw [hscan]

/-- A store of process `p` into its slot `i`. -/
structure Published (d : SharedMemoryData) (p : Pid) (usage : ResourceUsage)
    (d' : SharedMemoryData) : Prop where
  slot : ∃ i, SlotTable.slotFor d.processPids 0 p = some i ∧
    d'.processPids = Function.update d.processPids i p ∧
    d'.processStats = Function.update d.processStats i usage
  globalStats : d'.globalStats = d.globalStats

theorem shmUpdateProcessResources_spec {d : SharedMemoryData} {p : Pid} (hp : 0 < p)
    (hslot : HasSlot d p) (usage : ResourceUsage) (nowNs : UInt64) :
    (shmUpdateProcessResources d p usage nowNs).1 = true ∧
      Published d p usage (shmUpdateProcessResources d p usage nowNs).2 := by
  obtain ⟨i, hi⟩ := hslot
  have hlock : SlotTable.slotFor (shmLock d).processPids 0 p = some i := hi
  unfold shmUpdateProcessResources
  rw [if_neg (Int32.not_le.mpr hp), writeProcessResources_some hlock]
  exact ⟨rfl, ⟨i, hi, rfl, rfl⟩, rfl⟩

/-- Without a slot the store fails and changes nothing but the lock word. -/
theorem shmUpdateProcessResources_full {d : SharedMemoryData} {p : Pid}
    (hslot : SlotTable.slotFor d.processPids 0 p = none) (usage : ResourceUsage)
    (nowNs : UInt64) :
    (shmUpdateProcessResources d p usage nowNs).1 = false ∧
      (shmUpdateProcessResources d p usage nowNs).2.processPids = d.processPids ∧
      (shmUpdateProcessResources d p usage nowNs).2.processStats = d.processStats ∧
      (shmUpdateProcessResources d p usage nowNs).2.globalStats = d.globalStats := by
  have hlock : SlotTable.slotFor (shmLock d).processPids 0 p = none := hslot
  unfold shmUpdateProcessResources
  by_cases hp : p ≤ 0
  · rw [if_pos hp]
    exact ⟨rfl, rfl, rfl, rfl⟩
  · rw [if_neg hp, writeProcessResources_none hlock]
    exact ⟨rfl, rfl, rfl, rfl⟩

theorem Published.self {d d' : SharedMemoryData} {p : Pid} {usage : ResourceUsage}
    (h : Published d p usage d') : published d' p = usage := by
  obtain ⟨i, hi, hpids, hstats⟩ := h.slot
  unfold published
  rw [hpids, SlotTable.slotOf_update_self hi, hstats]
  simp only [Function.update_self]

theorem Published.of_ne {d d' : SharedMemoryData} {p q : Pid} {usage : ResourceUsage}
    (h : Published d p usage d') (hqp : q ≠ p) (hq : q ≠ 0) : published d' q = published d q := by
  obtain ⟨i, hi, hpids, hstats⟩ := h.slot
  unfold published
  rw [hpids, SlotTable.slotOf_update_of_ne hi hqp hq, hstats]
  cases hj : SlotTable.slotOf d.processPids q with
  | none => rfl
  | some j =>
    have hji := SlotTable.ne_of_slotFor hi (SlotTable.key_of_slotOf hj) hqp hq
    simp only [Function.update_of_ne hji]

theorem published_congr {d d' : SharedMemoryData} (hpids : d'.processPids = d.processPids)
    (hstats : d'.processStats = d.processStats) (p : Pid) : published d' p = published d p := by
  unfold published
  rw [hpids, hstats]

/-- A store leaves the records of the other processes, also if there is no slot for it. -/
theorem published_update_of_ne (d : SharedMemoryData) {p q : Pid} (hqp : q ≠ p) (hq : q ≠ 0)
    (usage : ResourceUsage) (nowNs : UInt64) :
    published (shmUpdateProcessResources d p usage nowNs).2 q = published d q := by
  by_cases hp : 0 < p
  · cases hslot : SlotTable.slotFor d.processPids 0 p with
    | some i => exact (shmUpdateProcessResources_spec hp ⟨i, hslot⟩ usage nowNs).2.of_ne hqp hq
    | none =>
      obtain ⟨-, hpids, hstats, -⟩ := shmUpdateProcessResources_full hslot usage nowNs
      exact published_congr hpids hstats q
  · unfold shmUpdateProcessResources
    rw [if_pos (Int32.not_lt.mp hp)]

/-- A process that has stored keeps its slot. -/
theorem Published.hasSlot {d d' : SharedMemoryData} {p : Pid} {usage : ResourceUsage}
    (h : Published d p usage d') : HasSlot d' p := by
  obtain ⟨i, hi, hpids, -⟩ := h.slot
  refine ⟨i, ?_⟩
  rw [SlotTable.slotFor, hpids, SlotTable.slotOf_update_self hi, Option.some_or]

/-! ## The limits on the segment -/

theorem processLimitOk_iff {s : System} {p : Pid} (hp : 0 < p)
    (hatt : (s.proc p).shmAttached = true) :
    processLimitOk s p = true ↔
      (published s.shm p).qpCount.toUInt32 + 1 ≤ (s.proc p).config.maxQpPerProcess := by
  unfold processLimitOk getProcessResourcesViaSharedMemory
  rw [if_pos hatt, shmGetProcessResources_eq hp]
  simp

theorem globalLimitOk_iff {s : System} {p : Pid} (hatt : (s.proc p).shmAttached = true) :
    globalLimitOk s p = true ↔
      s.shm.globalStats.qpCount.toUInt32 < (s.proc p).config.maxGlobalQp := by
  unfold globalLimitOk getGlobalResourcesViaSharedMemory shmGetGlobalResources
  rw [if_pos hatt]
  simp

/-- What a creating hook publishes: its local counts after the creation, for a QP. -/
theorem shmAfterCreate_qp {s : System} {p : Pid} {pd : Handle} {attr : QpInitAttr}
    (hatt : (s.proc p).shmAttached = true) :
    shmAfterCreate s p (.qp pd attr) =
      (shmUpdateProcessResources s.shm p (s.proc p).addQp.usage s.monoClock).2 := by
  have hproc : (s.setProc p (s.proc p).addQp).proc p = (s.proc p).addQp :=
    Function.update_self _ _ _
  have hattached : (s.proc p).addQp.shmAttached = true := hatt
  simp only [shmAfterCreate, publishProcessResources, hproc, hattached, if_true]
  rfl

end RdmaIntercept.Analysis
