import RdmaIntercept.Analysis.PerfOptimizerSpec

/-!
# Batched updates against direct updates

With batching enabled throughout, the buffer postpones updates and coalesces those of one
process.  Neither is seen in the process table: after a final flush it is slot for slot
the table that the same updates leave when each of them is written at once.  The induction
carries the table that the buffer stands for; an overflow, a full table and a process that
is not positive are no cases of their own there.
-/

set_option autoImplicit false

namespace RdmaIntercept.Analysis

open RdmaIntercept.Library RdmaIntercept.Model

/-- The optimizer batches, and its buffer stands for the table of `d`. -/
structure StandsFor (s : PerfOptimizer × SharedMemoryData) (d : SharedMemoryData) : Prop where
  batching : s.1.batchingEnabled = true
  table : pendingTable s = processTable d

variable {s : PerfOptimizer × SharedMemoryData} {d : SharedMemoryData}

theorem StandsFor.flush (h : StandsFor s d) (clock : Clock) :
    StandsFor (perfOptimizerFlushBatchBuffer s.1 s.2 clock) d := by
  have hflush := flushed s.1 s.2 clock
  exact ⟨hflush.switches.batchingEnabled.trans h.batching, hflush.pendingTable.trans h.table⟩

theorem StandsFor.update (h : StandsFor s d) (p : Pid) (usage : ResourceUsage) (clock : Clock) :
    StandsFor (perfOptimizerBatchUpdateResource s.1 s.2 p (some usage) clock).2
      (shmUpdateProcessResources d p usage clock.ns).2 := by
  obtain ⟨o', d', heq, hsw, hbuf⟩ := batchUpdate_buffered h.batching s.2 p usage clock
  rw [heq]
  refine ⟨hsw.batchingEnabled.trans h.batching, ?_⟩
  calc pendingTable (o', d')
      = storeUsage (pendingTable s) p usage := hbuf.pendingTable
    _ = storeUsage (processTable d) p usage := by rw [h.table]
    _ = processTable (shmUpdateProcessResources d p usage clock.ns).2 :=
      (processTable_update d p usage clock.ns).symm

theorem StandsFor.step (h : StandsFor s d) {e : Clock × PerfEvent}
    (he : e.2 ≠ .enableBatching false) : StandsFor (perfStep s e) (directStep d e) := by
  obtain ⟨clock, ev⟩ := e
  cases ev with
  | update p usage => exact h.update p usage clock
  | flush => exact h.flush clock
  | enableBatching enable =>
    cases enable with
    | false => exact absurd rfl he
    | true => exact ⟨rfl, h.table⟩
  | tick =>
    show StandsFor (flushThreadTick s.1 s.2 clock) d
    unfold flushThreadTick
    rw [h.batching]
    cases s.1.running with
    | false => exact h
    | true => exact h.flush clock

theorem StandsFor.exec {es : List (Clock × PerfEvent)} (h : StandsFor s d)
    (hes : ∀ e ∈ es, e.2 ≠ .enableBatching false) :
    StandsFor (exec perfStep s es) (Library.exec directStep d es) := by
  induction es generalizing s d with
  | nil => exact h
  | cons e es ih =>
    exact ih (h.step (hes e List.mem_cons_self)) fun e' he' => hes e' (List.mem_cons_of_mem e he')

/-- **Batched updates are direct updates.** -/
theorem batchedUpdates_eq_direct (o : PerfOptimizer) (d : SharedMemoryData)
    (es : List (Clock × PerfEvent)) (clock : Clock) (hon : o.batchingEnabled = true)
    (hempty : o.batchBuffer.entries = []) (hes : ∀ e ∈ es, e.2 ≠ .enableBatching false) :
    let s := exec perfStep (o, d) es
    let batched := (perfOptimizerFlushBatchBuffer s.1 s.2 clock).2
    let direct := exec directStep d es
    batched.processPids = direct.processPids ∧ batched.processStats = direct.processStats := by
  intro s batched direct
  have hstart : StandsFor (o, d) d := by
    refine ⟨hon, ?_⟩
    unfold pendingTable
    rw [hempty]
    rfl
  have hs := hstart.exec hes
  have hflush := flushed s.1 s.2 clock
  have htable : processTable batched = processTable direct := hflush.table.trans hs.table
  exact ⟨congrArg Prod.fst htable, congrArg Prod.snd htable⟩

/-- Two usages of process 7 with a flush between them, and a process that is not positive. -/
def batchedRun : List (Clock × PerfEvent) :=
  [(⟨1, 10⟩, .update 7 ⟨1, 0, 0⟩), (⟨2, 20⟩, .flush), (⟨3, 30⟩, .update 0 ⟨9, 9, 9⟩),
    (⟨4, 40⟩, .update 7 ⟨2, 0, 0⟩)]

theorem batchedUpdates_eq_direct_run :
    let s := exec perfStep (perfOptimizerInit true true 0, .fresh 0) batchedRun
    let batched := (perfOptimizerFlushBatchBuffer s.1 s.2 ⟨5, 50⟩).2
    let direct := exec directStep (.fresh 0) batchedRun
    batched.processPids = direct.processPids ∧ batched.processStats = direct.processStats :=
  batchedUpdates_eq_direct (perfOptimizerInit true true 0) (.fresh 0) batchedRun ⟨5, 50⟩ rfl rfl
    (by decide)

end RdmaIntercept.Analysis
