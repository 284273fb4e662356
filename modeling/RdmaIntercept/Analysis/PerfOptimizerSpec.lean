import RdmaIntercept.Analysis.SharedMemorySpec
import RdmaIntercept.Library.Runs
import RdmaIntercept.Library.SlotStore
import RdmaIntercept.Model.PerfOptimizer

/-!
# What the calls of the performance optimizer do

The process table of the segment is a slot table, and an update of a process is a write
to it (`processTable_update`).  `pendingTable` is the table as it will be once the buffer
is written out: an update that goes through the buffer is a write to it, and a flush
leaves it as it is.
-/

set_option autoImplicit false

namespace RdmaIntercept.Analysis

open RdmaIntercept.Library RdmaIntercept.Model

/-- The table of the process-resource segment. -/
abbrev ProcessTable : Type := (Fin MAX_PROCESSES → Pid) × (Fin MAX_PROCESSES → ResourceUsage)

def processTable (d : SharedMemoryData) : ProcessTable := (d.processPids, d.processStats)

/-- A write to the table: only positive processes are stored. -/
abbrev storeUsage : ProcessTable → Pid → ResourceUsage → ProcessTable :=
  SlotTable.store 0 fun p => 0 < p

/-- The table once the buffer is written out. -/
def pendingTable (s : PerfOptimizer × SharedMemoryData) : ProcessTable :=
  WriteBuffer.writeOut storeUsage (processTable s.2) s.1.batchBuffer.entries

variable {o : PerfOptimizer} {d : SharedMemoryData} {p : Pid} {usage : ResourceUsage}
variable {clock : Clock}

theorem processTable_update (d : SharedMemoryData) (p : Pid) (usage : ResourceUsage)
    (nowNs : UInt64) :
    processTable (shmUpdateProcessResources d p usage nowNs).2 =
      storeUsage (processTable d) p usage := by
  by_cases hp : 0 < p
  · cases hi : SlotTable.slotFor d.processPids 0 p with
    | none =>
      obtain ⟨-, hpids, hstats, -⟩ := shmUpdateProcessResources_full hi usage nowNs
      have hnone : SlotTable.slotFor (processTable d).1 0 p = none := hi
      rw [storeUsage, SlotTable.store_none hnone]
      exact Prod.ext hpids hstats
    | some i =>
      obtain ⟨-, hpub⟩ := shmUpdateProcessResources_spec hp ⟨i, hi⟩ usage nowNs
      obtain ⟨j, hj, hpids, hstats⟩ := hpub.slot
      have hsome : SlotTable.slotFor (processTable d).1 0 p = some j := hj
      rw [storeUsage, SlotTable.store_some hp hsome]
      exact Prod.ext hpids hstats
  · rw [storeUsage, SlotTable.store_invalid hp]
    unfold shmUpdateProcessResources
    rw [if_pos (Int32.not_lt.mp hp)]

theorem processTable_writeBatch (d : SharedMemoryData) (entries : List (Pid × ResourceUsage))
    (nowNs : UInt64) :
    processTable (writeBatch d entries nowNs) =
      WriteBuffer.writeOut storeUsage (processTable d) entries := by
  induction entries generalizing d with
  | nil => rfl
  | cons e es ih =>
    have hrest := ih (shmUpdateProcessResources d e.1 e.2 nowNs).2
    rw [processTable_update] at hrest
    exact hrest

/-! ## The buffer -/

section Buffer

variable {β : Type} {b b' : BatchBuffer β} {v : β}

theorem submit_merged (b : BatchBuffer β) (v : β) (h : p ∈ b.entries.map Prod.fst) :
    ∃ b', b.submit p v = some b' ∧ b'.entries = WriteBuffer.replace p v b.entries := by
  unfold BatchBuffer.submit
  rw [dif_pos h]
  exact ⟨_, rfl, rfl⟩

theorem submit_added (b : BatchBuffer β) (v : β) (h : p ∉ b.entries.map Prod.fst)
    (hroom : b.entries.length < CACHE_BUCKET_COUNT) :
    ∃ b', b.submit p v = some b' ∧ b'.entries = b.entries ++ [(p, v)] := by
  unfold BatchBuffer.submit
  rw [dif_neg h, dif_pos hroom]
  exact ⟨_, rfl, rfl⟩

theorem submit_full (b : BatchBuffer β) (v : β) (h : p ∉ b.entries.map Prod.fst)
    (hfull : ¬ b.entries.length < CACHE_BUCKET_COUNT) : b.submit p v = none := by
  unfold BatchBuffer.submit
  rw [dif_neg h, dif_neg hfull]

/-- The buffer takes an update as a merge or as a new entry. -/
theorem submit_cases (h : b.submit p v = some b') :
    (p ∈ b.entries.map Prod.fst ∧ b'.entries = WriteBuffer.replace p v b.entries) ∨
      (p ∉ b.entries.map Prod.fst ∧ b'.entries = b.entries ++ [(p, v)]) := by
  by_cases hmem : p ∈ b.entries.map Prod.fst
  · obtain ⟨c, hc, hentries⟩ := submit_merged b v hmem
    obtain rfl := Option.some.inj (h.symm.trans hc)
    exact Or.inl ⟨hmem, hentries⟩
  · by_cases hroom : b.entries.length < CACHE_BUCKET_COUNT
    · obtain ⟨c, hc, hentries⟩ := submit_added b v hmem hroom
      obtain rfl := Option.some.inj (h.symm.trans hc)
      exact Or.inr ⟨hmem, hentries⟩
    · rw [submit_full b v hmem hroom] at h
      exact absurd h.symm (Option.some_ne_none b')

/-- A flush takes all entries out. -/
theorem drain_spec (b : BatchBuffer β) (nowMs : UInt64) :
    (b.drain nowMs).1 = b.entries ∧ (b.drain nowMs).2.entries = [] := by
  unfold BatchBuffer.drain
  by_cases h : b.entries = []
  · rw [if_pos h]
    exact ⟨h.symm, h⟩
  · rw [if_neg h]
    exact ⟨rfl, rfl⟩

end Buffer

/-! ## A flush -/

/-- The switches of the optimizer stay. -/
structure SwitchesKept (o o' : PerfOptimizer) : Prop where
  running : o'.running = o.running
  batchingEnabled : o'.batchingEnabled = o.batchingEnabled

/-- The buffer has been written out. -/
structure Flushed (o : PerfOptimizer) (d : SharedMemoryData) (clock : Clock)
    (s : PerfOptimizer × SharedMemoryData) : Prop where
  switches : SwitchesKept o s.1
  entries : s.1.batchBuffer.entries = []
  shm : s.2 = writeBatch d o.batchBuffer.entries clock.ns

theorem flushed (o : PerfOptimizer) (d : SharedMemoryData) (clock : Clock) :
    Flushed o d clock (perfOptimizerFlushBatchBuffer o d clock) := by
  obtain ⟨hdrain, hleft⟩ := drain_spec o.batchBuffer clock.ms
  unfold perfOptimizerFlushBatchBuffer
  by_cases h : o.batchBuffer.entries = []
  · simp only [hdrain, if_pos h]
    refine ⟨⟨rfl, rfl⟩, h, ?_⟩
    rw [h]
    rfl
  · simp only [hdrain, if_neg h]
    exact ⟨⟨rfl, rfl⟩, hleft, rfl⟩

theorem Flushed.table {s : PerfOptimizer × SharedMemoryData} (h : Flushed o d clock s) :
    processTable s.2 =
      WriteBuffer.writeOut storeUsage (processTable d) o.batchBuffer.entries := by
  rw [h.shm, processTable_writeBatch]

theorem Flushed.pendingTable {s : PerfOptimizer × SharedMemoryData} (h : Flushed o d clock s) :
    pendingTable s = pendingTable (o, d) := by
  unfold Analysis.pendingTable
  rw [h.entries]
  exact h.table

/-! ## An update -/

theorem noteBatchedUpdate_kept (o : PerfOptimizer) (p : Pid) (usage : ResourceUsage)
    (clock : Clock) : SwitchesKept o (noteBatchedUpdate o p usage clock) ∧
      (noteBatchedUpdate o p usage clock).batchBuffer = o.batchBuffer := by
  unfold noteBatchedUpdate perfOptimizerUpdateCachedResources
  by_cases h : o.cacheEnabled
  · simp only [h]
    exact ⟨⟨rfl, rfl⟩, rfl⟩
  · simp only [h]
    exact ⟨⟨rfl, rfl⟩, rfl⟩

/-- What an update through the buffer does: it is merged with the entry of its process, it
is added, or it starts a new buffer after the full one has been written out. -/
inductive Buffered (o : PerfOptimizer) (d : SharedMemoryData) (p : Pid) (usage : ResourceUsage) :
    PerfOptimizer × SharedMemoryData → Prop
  | merged {o' : PerfOptimizer} (hmem : p ∈ o.batchBuffer.entries.map Prod.fst)
      (hentries : o'.batchBuffer.entries = WriteBuffer.replace p usage o.batchBuffer.entries) :
      Buffered o d p usage (o', d)
  | added {o' : PerfOptimizer}
      (hentries : o'.batchBuffer.entries = o.batchBuffer.entries ++ [(p, usage)]) :
      Buffered o d p usage (o', d)
  | overflowed {o' : PerfOptimizer} {d' : SharedMemoryData}
      (hentries : o'.batchBuffer.entries = [(p, usage)])
      (htable : processTable d' =
        WriteBuffer.writeOut storeUsage (processTable d) o.batchBuffer.entries) :
      Buffered o d p usage (o', d')

theorem batchUpdate_of_some {b : BatchBuffer ResourceUsage} (hon : o.batchingEnabled = true)
    (h : o.batchBuffer.submit p usage = some b) :
    perfOptimizerBatchUpdateResource o d p (some usage) clock =
      (true, noteBatchedUpdate { o with batchBuffer := b } p usage clock, d) := by
  simp [perfOptimizerBatchUpdateResource, hon, h]

theorem batchUpdate_of_none (hon : o.batchingEnabled = true)
    (h : o.batchBuffer.submit p usage = none) {o' : PerfOptimizer} {d' : SharedMemoryData}
    (hflush : perfOptimizerFlushBatchBuffer o d clock = (o', d')) :
    perfOptimizerBatchUpdateResource o d p (some usage) clock =
      (true, noteBatchedUpdate { o' with batchBuffer := o'.batchBuffer.restart p usage } p usage
        clock, d') := by
  simp [perfOptimizerBatchUpdateResource, hon, h, hflush]

theorem batchUpdate_buffered (hon : o.batchingEnabled = true) (d : SharedMemoryData) (p : Pid)
    (usage : ResourceUsage) (clock : Clock) :
    ∃ o' d', perfOptimizerBatchUpdateResource o d p (some usage) clock = (true, o', d') ∧
      SwitchesKept o o' ∧ Buffered o d p usage (o', d') := by
  cases hsub : o.batchBuffer.submit p usage with
  | some b =>
    obtain ⟨hsw, hbuf⟩ := noteBatchedUpdate_kept { o with batchBuffer := b } p usage clock
    refine ⟨_, _, batchUpdate_of_some hon hsub, ⟨hsw.running, hsw.batchingEnabled⟩, ?_⟩
    rcases submit_cases hsub with ⟨hmem, hb⟩ | ⟨hnew, hb⟩
    · exact .merged hmem (by rw [hbuf, hb])
    · exact .added (by rw [hbuf, hb])
  | none =>
    cases hf : perfOptimizerFlushBatchBuffer o d clock with
    | mk o' d' =>
      have hflush := flushed o d clock
      rw [hf] at hflush
      obtain ⟨hsw, hbuf⟩ := noteBatchedUpdate_kept
        { o' with batchBuffer := o'.batchBuffer.restart p usage } p usage clock
      refine ⟨_, _, batchUpdate_of_none hon hsub hf,
        ⟨hsw.running.trans hflush.switches.running,
          hsw.batchingEnabled.trans hflush.switches.batchingEnabled⟩, ?_⟩
      exact .overflowed (by rw [hbuf]; rfl) hflush.table

/-- A buffered update is a write to the table that the buffer stands for. -/
theorem Buffered.pendingTable {s : PerfOptimizer × SharedMemoryData}
    (h : Buffered o d p usage s) :
    pendingTable s = storeUsage (pendingTable (o, d)) p usage := by
  unfold Analysis.pendingTable
  cases h with
  | merged hmem hentries =>
    rw [hentries]
    exact (SlotTable.store_overwriting positive_ne_zero).writeOut_replace _
      o.batchBuffer.distinct hmem
  | added hentries =>
    rw [hentries]
    exact WriteBuffer.writeOut_concat ..
  | overflowed hentries htable =>
    rw [hentries, htable]
    rfl

/-- With batching disabled an update goes to the table directly. -/
theorem batchUpdate_direct (hoff : o.batchingEnabled = false) (d : SharedMemoryData) (p : Pid)
    (usage : ResourceUsage) (clock : Clock) :
    (perfOptimizerBatchUpdateResource o d p (some usage) clock).2 =
      (o, (shmUpdateProcessResources d p usage clock.ns).2) := by
  unfold perfOptimizerBatchUpdateResource
  rw [hoff]
  rfl

end RdmaIntercept.Analysis
