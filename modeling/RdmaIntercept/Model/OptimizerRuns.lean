import RdmaIntercept.Model.ResourceCache

/-!
# The performance optimizer as a whole

The calls of a process on the optimizer together with the rounds of the flush thread: updates
go through the buffer and into the cache, a prefetch copies a record of the segment into the
cache, and every hundredth round adapts the time to live to the hit rate.  Beside the segment
runs one to which the same updates are written at once.  Both switches are on, as they are from
the start of the program, and only this process writes to the segment.

SOURCE: src/performance_optimizer.c
-/

set_option autoImplicit false

namespace RdmaIntercept.Model

/-! ## The remaining calls -/

/-- SOURCE: performance_optimizer.c:459-465 -/
def perfOptimizerPrefetchResources (o : PerfOptimizer) (d : SharedMemoryData) (pid : Pid)
    (clock : Clock) : PerfOptimizer :=
  match shmGetProcessResources d pid with
  | some usage => perfOptimizerUpdateCachedResources o pid (some usage) clock
  | none => o

/-- How `(double)hits / total * 100.0` compares with 50.0 and with 90.0. -/
structure HitRate where
  low : UInt64 → UInt64 → Bool
  high : UInt64 → UInt64 → Bool

/-- SOURCE: performance_optimizer.c:468-491 -/
def perfOptimizerAdaptiveAdjust (rate : HitRate) (o : PerfOptimizer) : PerfOptimizer :=
  let hits := o.stats.cacheHits
  let total := hits + o.stats.cacheMisses
  if total < 100 then o
  else if rate.low hits total ∧ 50 < o.cache.ttlMs then
    { o with cache := { o.cache with ttlMs := o.cache.ttlMs - 10 } }
  else if rate.high hits total ∧ o.cache.ttlMs < 500 then
    { o with cache := { o.cache with ttlMs := o.cache.ttlMs + 10 } }
  else o

/-- SOURCE: performance_optimizer.c:319-324 -/
def perfOptimizerSetBatchInterval (o : PerfOptimizer) (intervalMs : UInt32) : PerfOptimizer :=
  let intervalMs := if intervalMs < 10 then 10 else intervalMs
  let intervalMs := if 1000 < intervalMs then 1000 else intervalMs
  { o with batchBuffer := { o.batchBuffer with flushIntervalMs := intervalMs } }

/-- SOURCE: performance_optimizer.c:364-375 -/
def perfOptimizerResetStats (o : PerfOptimizer) (now : TimeT) : PerfOptimizer :=
  { o with
    stats := ⟨0, 0, 0, 0, 0, UInt64.ofNat (2 ^ 64 - 1), 0, 0, 0, 0, 0, now⟩
    cache := { o.cache with hitCount := 0, missCount := 0, evictionCount := 0 } }

/-- A round of the flush thread after its sleep, with its `adaptive_counter`.
SOURCE: performance_optimizer.c:65-76 -/
def flushThreadRound (rate : HitRate) (o : PerfOptimizer) (d : SharedMemoryData)
    (adaptiveCounter : Int32) (clock : Clock) : PerfOptimizer × SharedMemoryData × Int32 :=
  if !o.running then (o, d, adaptiveCounter)
  else
    let (o, d) := flushThreadTick o d clock
    if 100 ≤ adaptiveCounter + 1 then (perfOptimizerAdaptiveAdjust rate o, d, 0)
    else (o, d, adaptiveCounter + 1)

/-! ## Runs -/

/-- A call of the process, or a round of the flush thread. -/
inductive OptimizerCall
  | update (pid : Pid) (usage : ResourceUsage)
  | prefetch (pid : Pid)
  | get (pid : Pid)
  | checkFast (pid : Pid) (resourceType : Int32) (current requested limit : UInt32) (endNs : UInt64)
  | invalidate (pid : Pid)
  | clear
  | setTtl (ttlMs : UInt32)
  | setInterval (intervalMs : UInt32)
  | adjust
  | resetStats (now : TimeT)
  | flush
  | round
  | cleanup

/-- The optimizer, the segment, the segment as it is without the buffer, and the counter of the
flush thread. -/
structure OptimizerRun where
  opt : PerfOptimizer
  shm : SharedMemoryData
  direct : SharedMemoryData
  adaptiveCounter : Int32

/-- A call on the optimizer alone. -/
def OptimizerCall.exec (rate : HitRate) (o : PerfOptimizer) (clock : Clock) :
    OptimizerCall → PerfOptimizer
  | .get pid => (perfOptimizerGetCachedResources o pid clock).2
  | .checkFast pid resourceType current requested limit endNs =>
    (perfOptimizerCheckResourceFast o pid resourceType current requested limit clock endNs).2
  | .invalidate pid => perfOptimizerInvalidateCache o pid
  | .clear => perfOptimizerClearCache o
  | .setTtl ttlMs => perfOptimizerSetCacheTtl o ttlMs
  | .setInterval intervalMs => perfOptimizerSetBatchInterval o intervalMs
  | .adjust => perfOptimizerAdaptiveAdjust rate o
  | .resetStats now => perfOptimizerResetStats o now
  | _ => o

def OptimizerRun.step (rate : HitRate) (s : OptimizerRun) (e : Clock × OptimizerCall) :
    OptimizerRun :=
  match e.2 with
  | .update pid usage =>
    let (_, opt, shm) := perfOptimizerBatchUpdateResource s.opt s.shm pid (some usage) e.1
    let (_, direct) := shmUpdateProcessResources s.direct pid usage e.1.ns
    { s with opt := opt, shm := shm, direct := direct }
  | .prefetch pid => { s with opt := perfOptimizerPrefetchResources s.opt s.shm pid e.1 }
  | .flush =>
    let (opt, shm) := perfOptimizerFlushBatchBuffer s.opt s.shm e.1
    { s with opt := opt, shm := shm }
  | .round =>
    let (opt, shm, adaptiveCounter) := flushThreadRound rate s.opt s.shm s.adaptiveCounter e.1
    { s with opt := opt, shm := shm, adaptiveCounter := adaptiveCounter }
  | .cleanup =>
    let (opt, shm) := perfOptimizerCleanup s.opt s.shm e.1
    { s with opt := opt, shm := shm }
  | call => { s with opt := call.exec rate s.opt e.1 }

/-- A run begins with `perf_optimizer_init`, on any segment. -/
def OptimizerRun.start (d : SharedMemoryData) (now : TimeT) : OptimizerRun :=
  ⟨perfOptimizerInit true true now, d, d, 0⟩

end RdmaIntercept.Model
