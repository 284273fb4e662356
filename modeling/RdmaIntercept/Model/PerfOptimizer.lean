import Mathlib.Algebra.Group.Nat.Defs
import RdmaIntercept.Library.WriteBuffer
import RdmaIntercept.Model.SharedMemory

/-!
# The performance optimizer

The update path of the performance optimizer: usages of processes are collected in a
buffer and written to the process-resource segment by a flush.  What happens between
taking and releasing `g_batch_mutex` is a function on the buffer; the calls are made of
these functions.  The segment is taken as attached.

SOURCE: include/performance_optimizer.h, src/performance_optimizer.c
-/

set_option autoImplicit false

namespace RdmaIntercept.Model

open RdmaIntercept.Library

/-- SOURCE: performance_optimizer.h:12 -/
abbrev CACHE_BUCKET_COUNT : ℕ := 256

/-- SOURCE: performance_optimizer.h:15-21 -/
structure CacheEntry where
  pid : Pid
  usage : ResourceUsage
  lastUpdate : UInt64
  valid : Bool
  lock : UInt32
  deriving DecidableEq, Repr

/-- SOURCE: performance_optimizer.h:24-30 -/
structure ResourceCache where
  entries : Fin CACHE_BUCKET_COUNT → CacheEntry
  hitCount : UInt64
  missCount : UInt64
  evictionCount : UInt64
  ttlMs : UInt32

/-- The buffer holds `count` entries, at most one for a process.  What an entry carries is
`β`: the usage in the program.
SOURCE: performance_optimizer.h:33-39 -/
structure BatchBuffer (β : Type) where
  entries : List (Pid × β)
  lastFlush : UInt64
  flushIntervalMs : UInt32
  bounded : entries.length ≤ CACHE_BUCKET_COUNT
  distinct : (entries.map Prod.fst).Nodup

/-- The counters of `perf_optimizer_stats_t`; the averages are computed when it is read.
SOURCE: performance_optimizer.h:42-62 -/
structure PerfOptimizerStats where
  totalOperations : UInt64
  interceptedOperations : UInt64
  allowedOperations : UInt64
  deniedOperations : UInt64
  totalLatencyNs : UInt64
  minLatencyNs : UInt64
  maxLatencyNs : UInt64
  cacheHits : UInt64
  cacheMisses : UInt64
  batchFlushes : UInt64
  batchedUpdates : UInt64
  startTime : TimeT
  deriving DecidableEq, Repr

/-- The variables of `performance_optimizer.c`. -/
structure PerfOptimizer where
  cache : ResourceCache
  batchBuffer : BatchBuffer ResourceUsage
  stats : PerfOptimizerStats
  running : Bool
  cacheEnabled : Bool
  batchingEnabled : Bool

/-- What `get_current_time_ms` and `get_current_time_ns` answer during a call. -/
structure Clock where
  ms : UInt64
  ns : UInt64
  deriving DecidableEq, Repr

/-! ## The buffer under its mutex -/

section Buffer

variable {β : Type}

/-- The buffer without entries. -/
def BatchBuffer.empty (flushIntervalMs : UInt32) : BatchBuffer β :=
  ⟨[], 0, flushIntervalMs, by simp, by simp⟩

/-- Merges an update with the entry of its process or adds a new entry; `none` when the
buffer is full.
SOURCE: performance_optimizer.c:241-257 -/
def BatchBuffer.submit (b : BatchBuffer β) (pid : Pid) (usage : β) : Option (BatchBuffer β) :=
  if hfound : pid ∈ b.entries.map Prod.fst then
    some
      { b with
        entries := WriteBuffer.replace pid usage b.entries
        bounded := by
          rw [WriteBuffer.length_replace]
          exact b.bounded
        distinct := by
          rw [WriteBuffer.map_fst_replace]
          exact b.distinct }
  else if hroom : b.entries.length < CACHE_BUCKET_COUNT then
    some
      { b with
        entries := b.entries ++ [(pid, usage)]
        bounded := by
          rw [List.length_append]
          exact hroom
        distinct := by
          rw [List.map_append]
          refine b.distinct.append (List.nodup_singleton pid) ?_
          intro q hq hp
          rw [List.map_singleton, List.mem_singleton] at hp
          rw [hp] at hq
          exact hfound hq }
  else none

/-- After the flush of a full buffer: the update becomes the only entry.
SOURCE: performance_optimizer.c:265-267 -/
def BatchBuffer.restart (b : BatchBuffer β) (pid : Pid) (usage : β) : BatchBuffer β :=
  { b with
    entries := [(pid, usage)]
    bounded := by
      rw [List.length_singleton]
      decide
    distinct := List.nodup_singleton pid }

/-- Takes the entries out, for the flush to write them in their order.
SOURCE: performance_optimizer.c:286-299 -/
def BatchBuffer.drain (b : BatchBuffer β) (nowMs : UInt64) : List (Pid × β) × BatchBuffer β :=
  if b.entries = [] then ([], b)
  else
    (b.entries,
      { b with entries := [], lastFlush := nowMs, bounded := by simp, distinct := by simp })

end Buffer

/-! ## The calls -/

/-- SOURCE: performance_optimizer.c:38-40 -/
def hashPid (pid : Pid) : Fin CACHE_BUCKET_COUNT :=
  Fin.ofNat CACHE_BUCKET_COUNT (pid.toUInt32 * 2654435761).toNat

/-- SOURCE: performance_optimizer.c:186-202 -/
def perfOptimizerUpdateCachedResources (o : PerfOptimizer) (pid : Pid)
    (usage : Option ResourceUsage) (clock : Clock) : PerfOptimizer :=
  match usage with
  | none => o
  | some usage =>
    if !o.cacheEnabled then o
    else
      let entry := o.cache.entries (hashPid pid)
      let entry := { entry with pid := pid, usage := usage, lastUpdate := clock.ms, valid := true }
      { o with
        cache := { o.cache with entries := Function.update o.cache.entries (hashPid pid) entry } }

/-- The writes of a flush.
SOURCE: performance_optimizer.c:292-295 -/
def writeBatch (d : SharedMemoryData) (entries : List (Pid × ResourceUsage)) (nowNs : UInt64) :
    SharedMemoryData :=
  WriteBuffer.writeOut (fun d pid usage => (shmUpdateProcessResources d pid usage nowNs).2) d entries

/-- SOURCE: performance_optimizer.c:283-308 -/
def perfOptimizerFlushBatchBuffer (o : PerfOptimizer) (d : SharedMemoryData) (clock : Clock) :
    PerfOptimizer × SharedMemoryData :=
  let (entries, b) := o.batchBuffer.drain clock.ms
  if entries = [] then (o, d)
  else
    ({ o with
        batchBuffer := b
        stats := { o.stats with batchFlushes := o.stats.batchFlushes + 1 } },
      writeBatch d entries clock.ns)

/-- What follows the critical sections of an update. -/
def noteBatchedUpdate (o : PerfOptimizer) (pid : Pid) (usage : ResourceUsage) (clock : Clock) :
    PerfOptimizer :=
  let o := perfOptimizerUpdateCachedResources o pid (some usage) clock
  { o with stats := { o.stats with batchedUpdates := o.stats.batchedUpdates + 1 } }

/-- `usage` is `none` for a NULL pointer; the result is `false` for `-1`.
SOURCE: performance_optimizer.c:233-280 -/
def perfOptimizerBatchUpdateResource (o : PerfOptimizer) (d : SharedMemoryData) (pid : Pid)
    (usage : Option ResourceUsage) (clock : Clock) : Bool × PerfOptimizer × SharedMemoryData :=
  match usage with
  | none => (false, o, d)
  | some usage =>
    if !o.batchingEnabled then
      let (ok, d) := shmUpdateProcessResources d pid usage clock.ns
      (ok, o, d)
    else
      match o.batchBuffer.submit pid usage with
      | some b => (true, noteBatchedUpdate { o with batchBuffer := b } pid usage clock, d)
      | none =>
        let (o, d) := perfOptimizerFlushBatchBuffer o d clock
        let o := { o with batchBuffer := o.batchBuffer.restart pid usage }
        (true, noteBatchedUpdate o pid usage clock, d)

/-- SOURCE: performance_optimizer.c:333-336 -/
def perfOptimizerEnableBatching (o : PerfOptimizer) (enable : Bool) : PerfOptimizer :=
  { o with batchingEnabled := enable }

/-- One round of the flush thread after its sleep; its adaptive adjustment writes the TTL of
the cache only and is left out.
SOURCE: performance_optimizer.c:65-69 -/
def flushThreadTick (o : PerfOptimizer) (d : SharedMemoryData) (clock : Clock) :
    PerfOptimizer × SharedMemoryData :=
  if !o.running then (o, d)
  else if o.batchingEnabled then perfOptimizerFlushBatchBuffer o d clock
  else (o, d)

/-- SOURCE: performance_optimizer.c:117-127 -/
def perfOptimizerCleanup (o : PerfOptimizer) (d : SharedMemoryData) (clock : Clock) :
    PerfOptimizer × SharedMemoryData :=
  perfOptimizerFlushBatchBuffer { o with running := false } d clock

/-- What `perf_optimizer_init` leaves when the thread starts; the two switches keep what they
were set to before.
SOURCE: performance_optimizer.c:83-114 -/
def perfOptimizerInit (cacheEnabled batchingEnabled : Bool) (now : TimeT) : PerfOptimizer where
  cache := ⟨fun _ => ⟨0, .zero, 0, false, 0⟩, 0, 0, 0, 100⟩
  batchBuffer := .empty 50
  stats := ⟨0, 0, 0, 0, 0, UInt64.ofNat (2 ^ 64 - 1), 0, 0, 0, 0, 0, now⟩
  running := true
  cacheEnabled := cacheEnabled
  batchingEnabled := batchingEnabled

/-! ## Serial runs -/

/-- One call, or one round of the flush thread. -/
inductive PerfEvent
  | update (pid : Pid) (usage : ResourceUsage)
  | flush
  | enableBatching (enable : Bool)
  | tick
  deriving DecidableEq, Repr

/-- The optimizer and the segment after one event. -/
def perfStep (s : PerfOptimizer × SharedMemoryData) (e : Clock × PerfEvent) :
    PerfOptimizer × SharedMemoryData :=
  match e.2 with
  | .update pid usage => (perfOptimizerBatchUpdateResource s.1 s.2 pid (some usage) e.1).2
  | .flush => perfOptimizerFlushBatchBuffer s.1 s.2 e.1
  | .enableBatching enable => (perfOptimizerEnableBatching s.1 enable, s.2)
  | .tick => flushThreadTick s.1 s.2 e.1

/-- The same updates made directly. -/
def directStep (d : SharedMemoryData) (e : Clock × PerfEvent) : SharedMemoryData :=
  match e.2 with
  | .update pid usage => (shmUpdateProcessResources d pid usage e.1.ns).2
  | _ => d

end RdmaIntercept.Model
