import RdmaIntercept.Model.SegmentAccesses
import RdmaIntercept.Analysis.ProcessTable

/-!
# The segment under its spin lock

The accesses of an updating call, made without interruption, are the call as it is modelled
in one step (`section_result`).  The lock makes every interleaving of the accesses of all
processes equal to the calls made one after the other.
-/

set_option autoImplicit false

namespace RdmaIntercept.Analysis

open RdmaIntercept.Library RdmaIntercept.Model

/-! ## The accesses of one call -/

theorem runAll_scan_left (pid : Pid) (is : List (Fin MAX_PROCESSES)) {r : ShmRegs}
    (hleft : r.left = true) (d : SharedMemoryData) :
    SpinLock.runAll (scanAccesses pid is) (r, d) = (r, d) := by
  induction is with
  | nil => rfl
  | cons i is ih =>
    have hpid : comparePid pid i (r, d) = (r, d) := by simp [comparePid, loadWord, hleft]
    have hfree : compareFree i (r, d) = (r, d) := by simp [compareFree, loadWord, hleft]
    simp only [scanAccesses, List.flatMap_cons, SpinLock.runAll_append, SpinLock.runAll_cons,
      SpinLock.runAll_nil, hpid, hfree]
    exact ih

/-- The loop over the slots finds what one pass over the table finds. -/
theorem runAll_scan (pid : Pid) (is : List (Fin MAX_PROCESSES)) {r : ShmRegs}
    (hleft : r.left = false) (d : SharedMemoryData) :
    ∃ left, SpinLock.runAll (scanAccesses pid is) (r, d) =
      ({ r with slot := SlotTable.scanOne d.processPids 0 pid is r.slot, left := left }, d) := by
  induction is generalizing r with
  | nil => exact ⟨r.left, by simp [scanAccesses, SlotTable.scanOne]⟩
  | cons i is ih =>
    simp only [scanAccesses, List.flatMap_cons, SpinLock.runAll_append, SpinLock.runAll_cons,
      SpinLock.runAll_nil, SlotTable.scanOne]
    by_cases hpid : d.processPids i = pid
    · refine ⟨true, ?_⟩
      have hfound : compareFree i (comparePid pid i (r, d)) =
          ({ r with slot := some i, left := true }, d) := by
        simp [comparePid, compareFree, loadWord, hleft, hpid]
      rw [hfound, if_pos hpid]
      exact runAll_scan_left pid is rfl d
    · have hother : comparePid pid i (r, d) = (r, d) := by
        simp [comparePid, loadWord, hpid]
      rw [hother, if_neg hpid]
      by_cases hfree : d.processPids i = 0 ∧ r.slot = none
      · have htaken : compareFree i (r, d) = ({ r with slot := some i }, d) := by
          simp [compareFree, loadWord, hleft, hfree]
        rw [htaken, if_pos hfree]
        exact ih hleft
      · have hkept : compareFree i (r, d) = (r, d) := by
          simp [compareFree, loadWord, hleft, hfree]
        rw [hkept, if_neg hfree]
        exact ih hleft

theorem runAll_slot_none (pid : Pid) (usage : ResourceUsage) (nowNs : UInt64) {r : ShmRegs}
    (hslot : r.slot = none) (d : SharedMemoryData) :
    SpinLock.runAll (slotAccesses pid usage nowNs) (r, d) = ({ r with loaded := d.version }, d) := by
  simp [slotAccesses, testNew, storeInSlot, loadVersion, loadWord, storeWord, hslot]

theorem runAll_slot_some (pid : Pid) (usage : ResourceUsage) (nowNs : UInt64) {r : ShmRegs}
    {i : Fin MAX_PROCESSES} (hslot : r.slot = some i) (d : SharedMemoryData) :
    SpinLock.runAll (slotAccesses pid usage nowNs) (r, d) =
      ({ r with isNew := decide (d.processPids i = 0), loaded := d.version },
        { d with
          processPids :=
            if d.processPids i = 0 then Function.update d.processPids i pid else d.processPids
          processStats := Function.update d.processStats i usage
          version := d.version + 1
          lastUpdateTime := nowNs }) := by
  by_cases h0 : d.processPids i = 0 <;>
    simp [slotAccesses, testNew, storeInSlot, loadVersion, loadWord, storeWord, hslot, h0]

theorem updateProcess_result (pid : Pid) (usage : ResourceUsage) (nowNs : UInt64)
    (d : SharedMemoryData) : ∃ left,
      ((ShmOp.updateProcess pid usage).section nowNs).result d =
        SpinLock.runAll (slotAccesses pid usage nowNs)
          ({ ShmRegs.start with
            slot := SlotTable.scanOne d.processPids 0 pid (List.finRange MAX_PROCESSES) none
            left := left }, d) := by
  obtain ⟨left, hscan⟩ := runAll_scan pid (List.finRange MAX_PROCESSES) (r := .start) rfl d
  refine ⟨left, ?_⟩
  simp only [SpinLock.Call.result, ShmOp.section, ShmOp.accesses, SpinLock.runAll_append, hscan]
  rfl

/-- The accesses of an updating call, made without interruption, are the call. -/
theorem section_result (op : ShmOp) (nowNs : UInt64) (d : SharedMemoryData) :
    ((op.section nowNs).result d).2 = op.write d nowNs := by
  cases op with
  | updateGlobal usage => rfl
  | setLimits maxQp maxMr maxMemory => rfl
  | updateProcess pid usage =>
    obtain ⟨left, hresult⟩ := updateProcess_result pid usage nowNs d
    rw [hresult]
    simp only [ShmOp.write, writeProcessResources]
    cases hslot : SlotTable.scanOne d.processPids 0 pid (List.finRange MAX_PROCESSES) none with
    | none => rw [runAll_slot_none pid usage nowNs rfl]
    | some i => rw [runAll_slot_some pid usage nowNs rfl]

/-- And they end with what the call returns. -/
theorem section_answer {op : ShmOp} (hop : op.accepted) (nowNs : UInt64) (d : SharedMemoryData) :
    op.answer ((op.section nowNs).result d).1 = op.returned d nowNs := by
  cases op with
  | updateGlobal usage => rfl
  | setLimits maxQp maxMr maxMemory => rfl
  | updateProcess pid usage =>
    have hpos : ¬ pid ≤ 0 := Int32.not_le.mpr (by simpa [ShmOp.accepted] using hop)
    obtain ⟨left, hresult⟩ := updateProcess_result pid usage nowNs d
    simp only [ShmOp.answer, ShmOp.returned, hresult, shmUpdateProcessResources, if_neg hpos,
      writeProcessResources, shmLock]
    cases hslot : SlotTable.scanOne d.processPids 0 pid (List.finRange MAX_PROCESSES) none with
    | none =>
      rw [runAll_slot_none pid usage nowNs rfl]
      rfl
    | some i =>
      rw [runAll_slot_some pid usage nowNs rfl]
      rfl

/-- The call as a whole, when it finds the lock free. -/
theorem call_of_free {op : ShmOp} (hop : op.accepted) (nowNs : UInt64) {d : SharedMemoryData}
    (hfree : d.shmLock = 0) : op.call d nowNs = op.write d nowNs := by
  cases op with
  | updateGlobal usage =>
    simp only [ShmOp.call, ShmOp.write, shmUpdateGlobalResources, writeGlobalResources, shmLock,
      shmUnlock, hfree]
  | setLimits maxQp maxMr maxMemory =>
    simp only [ShmOp.call, ShmOp.write, shmSetGlobalLimits, writeGlobalLimits, shmLock, shmUnlock,
      hfree]
  | updateProcess pid usage =>
    have hpos : ¬ pid ≤ 0 := Int32.not_le.mpr (by simpa [ShmOp.accepted] using hop)
    simp only [ShmOp.call, ShmOp.write, shmUpdateProcessResources, if_neg hpos,
      writeProcessResources, shmLock, shmUnlock]
    cases SlotTable.scanOne d.processPids 0 pid (List.finRange MAX_PROCESSES) none with
    | none => simp [← hfree]
    | some i => by_cases h0 : d.processPids i = 0 <;> simp [hfree, h0]

theorem shmLock_write (op : ShmOp) (nowNs : UInt64) (d : SharedMemoryData) :
    (op.write d nowNs).shmLock = d.shmLock := by
  cases op with
  | updateGlobal usage => rfl
  | setLimits maxQp maxMr maxMemory => rfl
  | updateProcess pid usage =>
    simp only [ShmOp.write, writeProcessResources]
    cases SlotTable.scanOne d.processPids 0 pid (List.finRange MAX_PROCESSES) none <;> rfl

/-! ## The calls in the order of the lock -/

/-- The call as the lock sees it. -/
def sectionOf {T : Type} (c : ThreadCall T) : T × SpinLock.Call ShmRegs SharedMemoryData Unit :=
  (c.thread, c.op.section c.nowNs)

theorem section_whole {T : Type} {d : SharedMemoryData} {c : ThreadCall T} (hfree : d.shmLock = 0)
    (hop : c.op.accepted) : (c.op.call d c.nowNs).shmLock = 0 ∧
      ((sectionOf c).2.result d).2 = c.op.call d c.nowNs := by
  rw [call_of_free hop c.nowNs hfree, sectionOf, section_result]
  exact ⟨(shmLock_write c.op c.nowNs d).trans hfree, rfl⟩

theorem after_sections {T : Type} {calls : List (ThreadCall T)} (hops : ∀ c ∈ calls, c.op.accepted)
    {d : SharedMemoryData} (hfree : d.shmLock = 0) :
    (d.serially calls).shmLock = 0 ∧
      SpinLock.after d (calls.map sectionOf) = d.serially calls :=
  SpinLock.after_whole (I := fun d : SharedMemoryData => d.shmLock = 0) id
    (fun _ _ hd hc => section_whole hd hc) hops hfree

/-- The registers with which the calls release the lock hold what the calls return. -/
theorem replies_sections {T : Type} {calls : List (ThreadCall T)}
    (hops : ∀ c ∈ calls, c.op.accepted) {d : SharedMemoryData} (hfree : d.shmLock = 0) :
    List.zipWith (fun (c : ThreadCall T) a => (a.1, c.op.answer a.2)) calls
      (SpinLock.replies d (calls.map sectionOf)) = d.returns calls := by
  refine SpinLock.replies_whole (I := fun d : SharedMemoryData => d.shmLock = 0) id
    (fun c r => c.op.answer r) SharedMemoryData.returns (fun _ _ hd hc => section_whole hd hc)
    (fun _ => rfl) ?_ hops hfree
  intro d c calls _ hc
  rw [SharedMemoryData.returns, ← section_answer hc]
  rfl

/-! ## Every interleaving of the accesses -/

section Runs

variable {T : Type} [DecidableEq T]

theorem serial_segmentRun (d : SharedMemoryData) (es : List (SegmentEvent T)) :
    SpinLock.Serial d (segmentRun d es) :=
  (SpinLock.serial_initial d ()).exec _

/-- A call that the code makes under the lock. -/
def IsSection (c : SpinLock.Call ShmRegs SharedMemoryData Unit) : Prop :=
  ∃ op nowNs, op.accepted = true ∧ c = ShmOp.section op nowNs

omit [DecidableEq T] in
theorem isSection_of_call {es : List (SegmentEvent T)} {t : T}
    {c : SpinLock.Call ShmRegs SharedMemoryData Unit}
    (hc : SpinLock.Event.call t c ∈ es.filterMap SegmentEvent.step) : IsSection c := by
  obtain ⟨e, -, hstep⟩ := List.mem_filterMap.mp hc
  cases e with
  | call t' op nowNs =>
    by_cases hop : op.accepted = true
    · rw [SegmentEvent.step, if_pos hop] at hstep
      cases hstep
      exact ⟨op, nowNs, hop, rfl⟩
    · rw [SegmentEvent.step, if_neg hop] at hstep
      exact absurd hstep nofun
  | getProcess t' pid =>
    simp only [SegmentEvent.step] at hstep
    split at hstep <;> exact absurd hstep nofun
  | _ => exact absurd hstep nofun

/-- Every call under the lock is a call that the code makes. -/
theorem made_segmentRun (d : SharedMemoryData) (es : List (SegmentEvent T)) :
    SpinLock.Made (fun _ c => IsSection c) (segmentRun d es) :=
  SpinLock.made_exec (SpinLock.made_initial _ d ()) fun _ _ hc => isSection_of_call hc

omit [DecidableEq T] in
theorem exists_calls {taken : List (T × SpinLock.Call ShmRegs SharedMemoryData Unit)}
    (h : ∀ tc ∈ taken, IsSection tc.2) :
    ∃ calls : List (ThreadCall T), (∀ c ∈ calls, c.op.accepted) ∧ calls.map sectionOf = taken := by
  refine SpinLock.exists_map_eq fun tc htc => ?_
  obtain ⟨op, nowNs, hop, hsection⟩ := h tc htc
  exact ⟨⟨tc.1, op, nowNs⟩, hop, by rw [sectionOf, ← hsection]⟩

/-- The calls of a thread in the run, as the lock sees them. -/
theorem asked_segmentRun (t : T) (es : List (SegmentEvent T)) :
    (es.filterMap SegmentEvent.step).filterMap (SpinLock.Event.asked t) =
      (es.filterMap (SegmentEvent.madeBy t)).map fun c => (sectionOf c).2 := by
  rw [List.filterMap_filterMap, List.map_filterMap]
  congr 1
  funext e
  cases e with
  | call t' op nowNs =>
    by_cases hop : op.accepted = true
    · by_cases ht : t' = t <;>
        simp [SegmentEvent.step, SegmentEvent.madeBy, SpinLock.Event.asked, sectionOf, hop, ht]
    · simp [SegmentEvent.step, SegmentEvent.madeBy, hop]
  | getProcess t' pid =>
    simp only [SegmentEvent.step, SegmentEvent.madeBy]
    split <;> rfl
  | _ => rfl

/-- The run `es` is explained by `calls`: they are calls of its threads, each thread's in the
order in which it has made them and none twice, and whenever the lock is free the segment and
the answers are those of these calls made one after the other. -/
structure ExplainedBy (d : SharedMemoryData) (es : List (SegmentEvent T))
    (calls : List (ThreadCall T)) : Prop where
  taken : (segmentRun d es).taken = calls.map sectionOf
  accepted : ∀ c ∈ calls, c.op.accepted
  program : ∀ t, List.Sublist ((calls.filter fun c => c.thread = t).map fun c => (sectionOf c).2)
    ((es.filterMap (SegmentEvent.madeBy t)).map fun c => (sectionOf c).2)
  serial : (segmentRun d es).locked = false →
    segmentWords (segmentRun d es) = d.serially calls ∧
      SegmentState.answered (segmentRun d es) calls = d.returns calls

theorem explainedBy_of_taken {d : SharedMemoryData} (hfree : d.shmLock = 0)
    {es : List (SegmentEvent T)} {calls : List (ThreadCall T)}
    (htaken : calls.map sectionOf = (segmentRun d es).taken)
    (hops : ∀ c ∈ calls, c.op.accepted) : ExplainedBy d es calls where
  taken := htaken.symm
  accepted := hops
  program := by
    intro t
    obtain ⟨more, hcalls, hsub⟩ := SpinLock.callsOf_exec
      (SpinLock.State.initial d () : SegmentState T) (es.filterMap SegmentEvent.step) t
    rw [asked_segmentRun] at hsub
    refine List.Sublist.trans ?_ hsub
    have hall : (segmentRun d es).callsOf t = more := hcalls
    rw [← hall, SpinLock.State.callsOf, ← htaken, List.filter_map, List.map_map]
    exact List.sublist_append_left _ _
  serial := by
    intro hl
    obtain ⟨hdata, hanswers, -⟩ := (serial_segmentRun d es).free hl
    obtain ⟨hword, hafter⟩ := after_sections hops hfree
    rw [← htaken, hafter] at hdata
    rw [← htaken] at hanswers
    constructor
    · rw [segmentWords, hl, hdata, ← hword]
      rfl
    · rw [SegmentState.answered, hanswers]
      exact replies_sections hops hfree

theorem segmentRun_append (d : SharedMemoryData) (es later : List (SegmentEvent T)) :
    segmentRun d (es ++ later) =
      exec SpinLock.State.step (segmentRun d es) (later.filterMap SegmentEvent.step) := by
  rw [segmentRun, segmentRun, List.filterMap_append, exec_append]

theorem segmentRun_running (d : SharedMemoryData) (es : List (SegmentEvent T)) (ts : List T) :
    segmentRun d (es ++ ts.map .run) =
      exec SpinLock.State.step (segmentRun d es) (ts.map .run) := by
  have hsteps : (ts.map SegmentEvent.run).filterMap SegmentEvent.step =
      ts.map (SpinLock.Event.run : T → SpinLock.Event T ShmRegs SharedMemoryData Unit) := by
    rw [List.filterMap_map]
    exact congrFun List.filterMap_eq_map' ts
  rw [segmentRun_append, hsteps]

/-- After a run in which a thread has died between taking and releasing the lock, the lock word
stays 1 and no word of the segment changes any more, whatever the processes do; no call that
waits ever gets on, and none is answered. -/
structure Blocked (d : SharedMemoryData) (es : List (SegmentEvent T)) : Prop where
  words : ∀ later, segmentWords (segmentRun d (es ++ later)) = segmentWords (segmentRun d es)
  held : (segmentWords (segmentRun d es)).shmLock = 1
  waiting : ∀ t c, (segmentRun d es).phase t = .waiting c →
    ∀ later, (segmentRun d (es ++ later)).phase t = .waiting c
  answers : ∀ later, (segmentRun d (es ++ later)).answers = (segmentRun d es).answers

/-- The calls can go on: each call of a living thread that waits for the lock is answered after
some accesses of the threads that are there. -/
def Unblocked (d : SharedMemoryData) (es : List (SegmentEvent T)) : Prop :=
  ∀ t c, (segmentRun d es).alive t = true → (segmentRun d es).phase t = .waiting c →
    ∃ (ts : List T) (regs : ShmRegs),
      (segmentRun d (es ++ ts.map .run)).phase t = .leaving regs c.tail ∧
        (segmentRun d (es ++ ts.map .run)).answers.getLast? = some (t, regs)

end Runs

end RdmaIntercept.Analysis
