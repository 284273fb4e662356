import RdmaIntercept.Analysis.PerfOptimizerSpec
import RdmaIntercept.Analysis.ProcessTable
import RdmaIntercept.Library.SlotFill
import RdmaIntercept.Model.SegmentCollector

/-!
# What the shared-memory collector keeps

No call takes a process out of the table, so the table holds whom it held and of the others
the first that are written to it, until it is full; a process that comes later has no record,
however often the collector copies the maps.  Every record that there is shows the usage
written last, of a process that has ended the last one before its end.
-/

set_option autoImplicit false

namespace RdmaIntercept.Analysis

open RdmaIntercept.Library RdmaIntercept.Model

/-! ## One step -/

theorem processTable_call (d : SharedMemoryData) (op : ShmOp) (nowNs : UInt64) :
    processTable (op.call d nowNs) =
      match op with
      | .updateProcess pid usage => storeUsage (processTable d) pid usage
      | _ => processTable d := by
  cases op with
  | updateProcess pid usage => exact processTable_update d pid usage nowNs
  | _ => rfl

/-- A step writes to the table what it writes for a process. -/
theorem processTable_collectorStep (d : SharedMemoryData) (step : CollectorStep) :
    processTable (step.exec d) =
      match step.written with
      | some w => storeUsage (processTable d) w.1 w.2
      | none => processTable d := by
  cases step with
  | global usage => cases usage <;> rfl
  | entry nextPid usage nowNs =>
    cases usage with
    | none => rfl
    | some usage => exact processTable_update d nextPid.toInt32 usage nowNs
  | other op nowNs =>
    rw [CollectorStep.exec, processTable_call]
    cases op <;> rfl

theorem processTable_collectorSteps (d : SharedMemoryData) (steps : List CollectorStep) :
    processTable (exec CollectorStep.exec d steps) =
      WriteBuffer.writeOut storeUsage (processTable d) (steps.filterMap CollectorStep.written) := by
  induction steps generalizing d with
  | nil => rfl
  | cons step steps ih =>
    rw [exec_cons, ih, processTable_collectorStep]
    cases hw : step.written with
    | none => rw [List.filterMap_cons_none hw]
    | some w => rw [List.filterMap_cons_some hw, SlotTable.writeOut_cons]

/-- The limits in the segment. -/
def limitsOf (d : SharedMemoryData) : UInt32 × UInt32 × UInt64 :=
  (d.maxGlobalQp, d.maxGlobalMr, d.maxGlobalMemory)

/-- An update of a process writes nothing else. -/
theorem update_others (d : SharedMemoryData) (pid : Pid) (usage : ResourceUsage) (nowNs : UInt64) :
    (shmUpdateProcessResources d pid usage nowNs).2.globalStats = d.globalStats ∧
      limitsOf (shmUpdateProcessResources d pid usage nowNs).2 = limitsOf d := by
  unfold shmUpdateProcessResources writeProcessResources
  split
  · exact ⟨rfl, rfl⟩
  · simp only
    split <;> exact ⟨rfl, rfl⟩

theorem globalStats_collectorStep (d : SharedMemoryData) (step : CollectorStep) :
    (step.exec d).globalStats = step.globalWritten.getD d.globalStats := by
  cases step with
  | global usage => cases usage <;> rfl
  | entry nextPid usage nowNs =>
    cases usage with
    | none => rfl
    | some usage => exact (update_others d nextPid.toInt32 usage nowNs).1
  | other op nowNs =>
    cases op with
    | updateProcess pid usage => exact (update_others d pid usage nowNs).1
    | _ => rfl

theorem limitsOf_collectorStep (d : SharedMemoryData) {step : CollectorStep}
    (h : step.setsLimits = false) : limitsOf (step.exec d) = limitsOf d := by
  cases step with
  | global usage => cases usage <;> rfl
  | entry nextPid usage nowNs =>
    cases usage with
    | none => rfl
    | some usage => exact (update_others d nextPid.toInt32 usage nowNs).2
  | other op nowNs =>
    cases op with
    | updateProcess pid usage => exact (update_others d pid usage nowNs).2
    | updateGlobal usage => rfl
    | setLimits maxQp maxMr maxMemory => exact absurd h.symm Bool.false_ne_true

/-! ## The start of the service -/

theorem distinct_initializeService {d : SharedMemoryData}
    (h : SlotTable.Distinct d.processPids 0) (env : CollectorEnv) (nowNs : UInt64) :
    SlotTable.Distinct (initializeService d env nowNs).processPids 0 := by
  change SlotTable.Distinct (shmInit d nowNs).processPids 0
  unfold shmInit
  split
  · exact SlotTable.distinct_const
  · exact h

/-! ## Runs -/

/-- The processes that get a record when the table of `d` is written to for `pids`. -/
def newlyRegistered (d : SharedMemoryData) (pids : List Pid) : Finset Pid :=
  ((SlotTable.newcomers (registered d) (pids.filter fun p => 0 < p)).take
    (MAX_PROCESSES - (registered d).card)).toFinset

/-- What the segment shows after the steps. -/
structure Mirrored (d : SharedMemoryData) (steps : List CollectorStep) (d' : SharedMemoryData) :
    Prop where
  table : registered d' = registered d ∪
    newlyRegistered d ((steps.filterMap CollectorStep.written).map Prod.fst)
  record : ∀ p, 0 < p → recordOf d' p =
    if p ∈ registered d' then
      (lastWrite (SlotTable.writesOf p) (steps.filterMap CollectorStep.written)).or (recordOf d p)
    else none
  globalStats : d'.globalStats = (lastWrite CollectorStep.globalWritten steps).getD d.globalStats

theorem mirrored {d : SharedMemoryData} (h : SlotTable.Distinct d.processPids 0)
    (steps : List CollectorStep) : Mirrored d steps (exec CollectorStep.exec d steps) := by
  have htable := processTable_collectorSteps d steps
  have hpids := congrArg Prod.fst htable
  have hstats := congrArg Prod.snd htable
  have hdist : SlotTable.Distinct (processTable d).1 0 := h
  refine ⟨?_, ?_, foldl_eq_lastWrite _ _ globalStats_collectorStep d steps⟩
  · unfold registered
    rw [show (exec CollectorStep.exec d steps).processPids = _ from hpids]
    exact SlotTable.keys_writeOut positive_ne_zero hdist _
  · intro p hp
    unfold registered recordOf
    rw [show (exec CollectorStep.exec d steps).processPids = _ from hpids,
      show (exec CollectorStep.exec d steps).processStats = _ from hstats]
    exact SlotTable.lookup_writeOut positive_ne_zero hdist _ hp

theorem written_pass (maps : MapsRead) :
    (syncEbpfDataToSharedMemory maps).filterMap CollectorStep.written =
      maps.processes.filterMap fun e => e.2.1.map fun usage => (e.1.toInt32, usage) := by
  rw [syncEbpfDataToSharedMemory, List.filterMap_cons_none rfl, List.filterMap_map]
  congr 1
  funext e
  obtain ⟨nextPid, usage, nowNs⟩ := e
  cases usage <;> rfl

/-- What a pass writes stems from an entry of the map. -/
theorem mem_written_pass {maps : MapsRead} {w : Pid × ResourceUsage}
    (h : w ∈ (syncEbpfDataToSharedMemory maps).filterMap CollectorStep.written) :
    ∃ e ∈ maps.processes, e.1.toInt32 = w.1 ∧ e.2.1 = some w.2 := by
  rw [written_pass] at h
  obtain ⟨e, he, hw⟩ := List.mem_filterMap.mp h
  obtain ⟨usage, husage, rfl⟩ := Option.map_eq_some_iff.mp hw
  exact ⟨e, he, rfl, husage⟩

/-- A pass that nothing interrupts copies the entry of every process that has a record after
it. -/
theorem pass_copies {d : SharedMemoryData} (h : SlotTable.Distinct d.processPids 0)
    (maps : MapsRead) (hkeys : (maps.processes.map Prod.fst).Nodup) {nextPid : UInt32}
    {usage : ResourceUsage} {nowNs : UInt64} (he : (nextPid, some usage, nowNs) ∈ maps.processes)
    (hpos : 0 < nextPid.toInt32)
    (hin : nextPid.toInt32 ∈ registered (exec CollectorStep.exec d
      (syncEbpfDataToSharedMemory maps))) :
    recordOf (exec CollectorStep.exec d (syncEbpfDataToSharedMemory maps)) nextPid.toInt32 =
      some usage := by
  have hmem : (nextPid.toInt32, usage) ∈
      (syncEbpfDataToSharedMemory maps).filterMap CollectorStep.written := by
    rw [written_pass]
    exact List.mem_filterMap.mpr ⟨_, he, rfl⟩
  have hlast : lastWrite (SlotTable.writesOf nextPid.toInt32)
      ((syncEbpfDataToSharedMemory maps).filterMap CollectorStep.written) = some usage := by
    apply lastWrite_of_unique hmem (if_pos rfl)
    intro w hw usage' hwrites
    obtain ⟨e', he', hpid, husage'⟩ := mem_written_pass hw
    unfold SlotTable.writesOf at hwrites
    split at hwrites
    · rename_i hkey
      -- the key is visited once
      have hsame : e' = (nextPid, some usage, nowNs) := by
        apply List.inj_on_of_nodup_map hkeys he' he
        exact congrArg Int32.toUInt32 (hpid.trans hkey)
      rw [hsame] at husage'
      exact (Option.some.inj hwrites).symm.trans (Option.some.inj husage').symm
    · exact absurd hwrites.symm (Option.some_ne_none usage')
  rw [(mirrored h _).record _ hpos, if_pos hin, hlast, Option.some_or]

/-- It leaves the record of every other process, ended or not. -/
theorem pass_leaves {d : SharedMemoryData} (h : SlotTable.Distinct d.processPids 0)
    (maps : MapsRead) {p : Pid} (hp : 0 < p)
    (hout : ∀ e ∈ maps.processes, e.1.toInt32 ≠ p) :
    recordOf (exec CollectorStep.exec d (syncEbpfDataToSharedMemory maps)) p = recordOf d p := by
  have hlast : lastWrite (SlotTable.writesOf p)
      ((syncEbpfDataToSharedMemory maps).filterMap CollectorStep.written) = none := by
    rw [lastWrite_eq_none_iff]
    intro w hw
    obtain ⟨e, he, hpid, -⟩ := mem_written_pass hw
    exact if_neg fun hkey => hout e he (hpid.trans hkey)
  have hm := mirrored h (syncEbpfDataToSharedMemory maps)
  rw [hm.record p hp, hlast, Option.none_or]
  by_cases hin : p ∈ registered (exec CollectorStep.exec d (syncEbpfDataToSharedMemory maps))
  · rw [if_pos hin]
  · have hnone : p ∉ registered d := by
      intro hd
      rw [hm.table] at hin
      exact hin (Finset.mem_union_left _ hd)
    rw [if_neg hin]
    unfold recordOf
    rw [eq_comm, SlotTable.lookup_eq_none_iff]
    intro i hi
    exact hnone (SlotTable.mem_keys.mpr ⟨positive_ne_zero p hp, i, hi⟩)

end RdmaIntercept.Analysis
