import RdmaIntercept.Library.Runs
import RdmaIntercept.Model.PerfOptimizer

/-!
# The cache of the performance optimizer

A direct-mapped table of the usages that were stored last: the look-up with its expiry,
the calls that take entries out, the two settings, and the resource check that asks the
cache before it compares.  Calls come one after the other, so that a spin lock is found
free, and pointers to a usage are not `NULL`.

SOURCE: src/performance_optimizer.c
-/

set_option autoImplicit false

namespace RdmaIntercept.Model

open RdmaIntercept.Library

/-- The entry that belongs to a process; it may hold another with the same hash. -/
def ResourceCache.entry (c : ResourceCache) (pid : Pid) : CacheEntry := c.entries (hashPid pid)

/-- `entry->valid = 0`. -/
def ResourceCache.drop (c : ResourceCache) (pid : Pid) : ResourceCache :=
  { c with
    entries := Function.update c.entries (hashPid pid) { c.entry pid with valid := false } }

/-- SOURCE: performance_optimizer.c:140-143 -/
def noteMiss (o : PerfOptimizer) : PerfOptimizer :=
  { o with
    cache := { o.cache with missCount := o.cache.missCount + 1 }
    stats := { o.stats with cacheMisses := o.stats.cacheMisses + 1 } }

/-- SOURCE: performance_optimizer.c:177-180 -/
def noteHit (o : PerfOptimizer) : PerfOptimizer :=
  { o with
    cache := { o.cache with hitCount := o.cache.hitCount + 1 }
    stats := { o.stats with cacheHits := o.stats.cacheHits + 1 } }

/-- The usage of a hit.  The age is a difference of two readings of the clock in 64 bits.
SOURCE: performance_optimizer.c:130-183 -/
def perfOptimizerGetCachedResources (o : PerfOptimizer) (pid : Pid) (clock : Clock) :
    Option ResourceUsage × PerfOptimizer :=
  if !o.cacheEnabled then (none, o)
  else
    let entry := o.cache.entry pid
    if !entry.valid ∨ entry.pid ≠ pid then (none, noteMiss o)
    else if o.cache.ttlMs.toUInt64 < clock.ms - entry.lastUpdate then
      (none, noteMiss { o with cache := o.cache.drop pid })
    else (some entry.usage, noteHit o)

/-- SOURCE: performance_optimizer.c:205-216 -/
def perfOptimizerInvalidateCache (o : PerfOptimizer) (pid : Pid) : PerfOptimizer :=
  if (o.cache.entry pid).pid = pid then { o with cache := o.cache.drop pid } else o

/-- SOURCE: performance_optimizer.c:219-230 -/
def perfOptimizerClearCache (o : PerfOptimizer) : PerfOptimizer :=
  { o with
    cache :=
      { o.cache with
        entries := fun i => { o.cache.entries i with valid := false }
        hitCount := 0
        missCount := 0 } }

/-- SOURCE: performance_optimizer.c:311-316 -/
def perfOptimizerSetCacheTtl (o : PerfOptimizer) (ttlMs : UInt32) : PerfOptimizer :=
  let ttlMs := if ttlMs < 10 then 10 else ttlMs
  let ttlMs := if 10000 < ttlMs then 10000 else ttlMs
  { o with cache := { o.cache with ttlMs := ttlMs } }

/-- SOURCE: performance_optimizer.c:327-330 -/
def perfOptimizerEnableCache (o : PerfOptimizer) (enable : Bool) : PerfOptimizer :=
  { o with cacheEnabled := enable }

/-! ## The resource check -/

/-- The amount that the check takes for the current one: on a hit the cached usage, its
memory in whole MB; else, and for a type that is not listed, what the caller gives.
SOURCE: performance_optimizer.c:429-436 -/
def actualCurrent (cached : Option ResourceUsage) (resourceType : Int32) (current : UInt32) :
    UInt32 :=
  match cached with
  | none => current
  | some usage =>
    if resourceType = 0 then usage.qpCount.toUInt32
    else if resourceType = 1 then usage.mrCount.toUInt32
    else if resourceType = 2 then (usage.memoryUsed / (1024 * 1024)).toUInt32
    else current

/-- SOURCE: performance_optimizer.c:443-453 -/
def noteDecision (o : PerfOptimizer) (latency : UInt64) (allowed : Bool) : PerfOptimizer :=
  { o with
    stats :=
      { o.stats with
        totalLatencyNs := o.stats.totalLatencyNs + latency
        minLatencyNs := if latency < o.stats.minLatencyNs then latency else o.stats.minLatencyNs
        maxLatencyNs := if o.stats.maxLatencyNs < latency then latency else o.stats.maxLatencyNs
        allowedOperations :=
          if allowed then o.stats.allowedOperations + 1 else o.stats.allowedOperations
        deniedOperations :=
          if allowed then o.stats.deniedOperations else o.stats.deniedOperations + 1 } }

/-- `endNs` is the second reading of the nanosecond clock.
SOURCE: performance_optimizer.c:416-456 -/
def perfOptimizerCheckResourceFast (o : PerfOptimizer) (pid : Pid) (resourceType : Int32)
    (current requested limit : UInt32) (clock : Clock) (endNs : UInt64) : Bool × PerfOptimizer :=
  let o := { o with stats := { o.stats with totalOperations := o.stats.totalOperations + 1 } }
  let (cached, o) := perfOptimizerGetCachedResources o pid clock
  let allowed := decide (actualCurrent cached resourceType current + requested ≤ limit)
  (allowed, noteDecision o (endNs - clock.ns) allowed)

/-! ## Runs -/

/-- A call on the cache. -/
inductive CacheCall
  | update (pid : Pid) (usage : ResourceUsage)
  | invalidate (pid : Pid)
  | clear
  | setTtl (ttlMs : UInt32)
  | enable (on : Bool)
  | get (pid : Pid)
  deriving DecidableEq, Repr

def CacheCall.exec (o : PerfOptimizer) (clock : Clock) : CacheCall → PerfOptimizer
  | .update pid usage => perfOptimizerUpdateCachedResources o pid (some usage) clock
  | .invalidate pid => perfOptimizerInvalidateCache o pid
  | .clear => perfOptimizerClearCache o
  | .setTtl ttlMs => perfOptimizerSetCacheTtl o ttlMs
  | .enable on => perfOptimizerEnableCache o on
  | .get pid => (perfOptimizerGetCachedResources o pid clock).2

/-- The optimizer together with the calls made so far, the last one first. -/
structure CacheRun where
  opt : PerfOptimizer
  history : List CacheCall

def CacheRun.step (s : CacheRun) (e : Clock × CacheCall) : CacheRun :=
  ⟨e.2.exec s.opt e.1, e.2 :: s.history⟩

/-- A run begins with `perf_optimizer_init`. -/
def CacheRun.init (cacheEnabled batchingEnabled : Bool) (now : TimeT) : CacheRun :=
  ⟨perfOptimizerInit cacheEnabled batchingEnabled now, []⟩

end RdmaIntercept.Model
