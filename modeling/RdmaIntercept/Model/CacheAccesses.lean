import RdmaIntercept.Library.SpinLock
import RdmaIntercept.Model.ResourceCache

/-!
# The calls on one cache entry, access by access

Each entry of the cache has a spin lock of its own, and every load and store of a word of the
entry is a step.  A look-up first tests the entry without the lock; if the entry passes it
takes the lock and tests it again.  The settings and the clock are what the call has read.
Clearing the cache is a call on every entry.
-/

set_option autoImplicit false

namespace RdmaIntercept.Model

open RdmaIntercept.Library

/-- The local variables of the calls: whether the code has left the tests, whether it has found
the entry too old, and the caller's copy of the usage. -/
structure CacheRegs where
  left : Bool
  expired : Bool
  usage : ResourceUsage
  deriving DecidableEq

def CacheRegs.start : CacheRegs := ⟨false, false, .zero⟩

abbrev EntryAccess : Type := CacheRegs × CacheEntry → CacheRegs × CacheEntry

/-- A load. -/
def loadEntry (f : CacheRegs → CacheEntry → CacheRegs) : EntryAccess := fun x => (f x.1 x.2, x.2)

/-- A store. -/
def storeEntry (f : CacheRegs → CacheEntry → CacheEntry) : EntryAccess := fun x => (x.1, f x.1 x.2)

/-! ## Tests -/

/-- `!entry->valid` -/
def testValid (r : CacheRegs) (e : CacheEntry) : CacheRegs :=
  if e.valid then r else { r with left := true }

/-- `entry->pid != pid` -/
def testPid (pid : Pid) (r : CacheRegs) (e : CacheEntry) : CacheRegs :=
  if r.left = false ∧ e.pid ≠ pid then { r with left := true } else r

/-- SOURCE: performance_optimizer.c:163-164 -/
def testAge (ttlMs : UInt32) (nowMs : UInt64) (r : CacheRegs) (e : CacheEntry) : CacheRegs :=
  if r.left = false ∧ ttlMs.toUInt64 < nowMs - e.lastUpdate then
    { r with left := true, expired := true }
  else r

def copyWord (f : ResourceUsage → ResourceUsage → ResourceUsage) (r : CacheRegs) (e : CacheEntry) :
    CacheRegs :=
  if r.left then r else { r with usage := f e.usage r.usage }

/-- The test without the lock.
SOURCE: performance_optimizer.c:139 -/
def quickReads (pid : Pid) : List (CacheRegs → CacheEntry → CacheRegs) := [testValid, testPid pid]

/-! ## Calls -/

/-- What a call does to the entry when it has the lock. -/
inductive EntryOp
  | update (pid : Pid) (usage : ResourceUsage) (nowMs : UInt64)
  | invalidate (pid : Pid)
  | clear
  | get (pid : Pid) (ttlMs : UInt32) (nowMs : UInt64)
  deriving DecidableEq, Repr

/-- SOURCE: performance_optimizer.c:196-199 -/
def updateAccesses (pid : Pid) (usage : ResourceUsage) (nowMs : UInt64) : List EntryAccess :=
  [storeEntry fun _ e => { e with pid := pid },
    storeEntry fun _ e => { e with usage := { e.usage with qpCount := usage.qpCount } },
    storeEntry fun _ e => { e with usage := { e.usage with mrCount := usage.mrCount } },
    storeEntry fun _ e => { e with usage := { e.usage with memoryUsed := usage.memoryUsed } },
    storeEntry fun _ e => { e with lastUpdate := nowMs },
    storeEntry fun _ e => { e with valid := true }]

/-- SOURCE: performance_optimizer.c:211-213 -/
def invalidateAccesses (pid : Pid) : List EntryAccess :=
  [loadEntry (testPid pid),
    storeEntry fun r e => if r.left then e else { e with valid := false }]

/-- SOURCE: performance_optimizer.c:222 -/
def clearAccesses : List EntryAccess := [storeEntry fun _ e => { e with valid := false }]

/-- SOURCE: performance_optimizer.c:151-174 -/
def getAccesses (pid : Pid) (ttlMs : UInt32) (nowMs : UInt64) : List EntryAccess :=
  [loadEntry testValid, loadEntry (testPid pid), loadEntry (testAge ttlMs nowMs),
    storeEntry fun r e => if r.expired then { e with valid := false } else e,
    loadEntry (copyWord fun stored usage => { usage with qpCount := stored.qpCount }),
    loadEntry (copyWord fun stored usage => { usage with mrCount := stored.mrCount }),
    loadEntry (copyWord fun stored usage => { usage with memoryUsed := stored.memoryUsed })]

def EntryOp.accesses : EntryOp → List EntryAccess
  | .update pid usage nowMs => updateAccesses pid usage nowMs
  | .invalidate pid => invalidateAccesses pid
  | .clear => clearAccesses
  | .get pid ttlMs nowMs => getAccesses pid ttlMs nowMs

/-- The call with the spinning before it. -/
def EntryOp.section (op : EntryOp) : SpinLock.Call CacheRegs CacheEntry Unit :=
  ⟨.start, op.accesses, []⟩

/-- The usage of a hit. -/
def EntryOp.answer (r : CacheRegs) : EntryOp → Option ResourceUsage
  | .get _ _ _ => if r.left then none else some r.usage
  | _ => none

/-- The call comes to entry `i`. -/
def EntryOp.reaches (i : Fin CACHE_BUCKET_COUNT) : EntryOp → Bool
  | .update pid _ _ => decide (hashPid pid = i)
  | .invalidate pid => decide (hashPid pid = i)
  | .clear => true
  | .get pid _ _ => decide (hashPid pid = i)

/-! ## The calls as a whole -/

/-- The optimizer as a call finds it that has read the settings: the cache is on, and the time
to live is `ttlMs`. -/
def PerfOptimizer.asRead (o : PerfOptimizer) (ttlMs : UInt32) : PerfOptimizer :=
  { o with cacheEnabled := true, cache := { o.cache with ttlMs := ttlMs } }

def EntryOp.exec (o : PerfOptimizer) : EntryOp → PerfOptimizer
  | .update pid usage nowMs =>
    perfOptimizerUpdateCachedResources (o.asRead o.cache.ttlMs) pid (some usage) ⟨nowMs, 0⟩
  | .invalidate pid => perfOptimizerInvalidateCache o pid
  | .clear => perfOptimizerClearCache o
  | .get pid ttlMs nowMs => (perfOptimizerGetCachedResources (o.asRead ttlMs) pid ⟨nowMs, 0⟩).2

def EntryOp.returned (o : PerfOptimizer) : EntryOp → Option ResourceUsage
  | .get pid ttlMs nowMs => (perfOptimizerGetCachedResources (o.asRead ttlMs) pid ⟨nowMs, 0⟩).1
  | _ => none

/-- The optimizer after calls that run one after the other. -/
def PerfOptimizer.serially {T : Type} (o : PerfOptimizer) (calls : List (T × EntryOp)) :
    PerfOptimizer :=
  calls.foldl (fun o c => c.2.exec o) o

/-- What these calls answer. -/
def PerfOptimizer.returns {T : Type} : PerfOptimizer → List (T × EntryOp) →
    List (T × Option ResourceUsage)
  | _, [] => []
  | o, c :: calls => (c.1, c.2.returned o) :: (c.2.exec o).returns calls

/-! ## Runs -/

/-- What thread `t` does next at the entry.  `get` is the test without the lock; a thread that
has made it may go on to the call `.get` with the lock. -/
inductive EntryEvent (T : Type)
  | get (t : T) (pid : Pid)
  | call (t : T) (op : EntryOp)
  | run (t : T)
  | die (t : T)

/-- A call for a process whose entry is another one makes no access here. -/
def EntryEvent.step {T : Type} (i : Fin CACHE_BUCKET_COUNT) :
    EntryEvent T → Option (SpinLock.Event T CacheRegs CacheEntry Unit)
  | .get t pid => if hashPid pid = i then some (.look t .start (quickReads pid)) else none
  | .call t op => if op.reaches i then some (.call t op.section) else none
  | .run t => some (.run t)
  | .die t => some (.die t)

/-- The thread goes on with what it is doing, or it is another thread's event. -/
def EntryEvent.continues {T : Type} [DecidableEq T] (t : T) : EntryEvent T → Bool
  | .get t' _ => decide (t' ≠ t)
  | .call t' _ => decide (t' ≠ t)
  | .run _ => true
  | .die _ => true

/-- The call that thread `t` makes at entry `i`. -/
def EntryEvent.madeBy {T : Type} [DecidableEq T] (i : Fin CACHE_BUCKET_COUNT) (t : T) :
    EntryEvent T → Option EntryOp
  | .call t' op => if t' = t ∧ op.reaches i then some op else none
  | _ => none

abbrev EntryState (T : Type) : Type := SpinLock.State T CacheRegs CacheEntry Unit

/-- The threads of a process at entry `i` of its cache, nobody inside a call yet. -/
def entryRun {T : Type} [DecidableEq T] (o : PerfOptimizer) (i : Fin CACHE_BUCKET_COUNT)
    (es : List (EntryEvent T)) : EntryState T :=
  exec SpinLock.State.step (.initial (o.cache.entries i) ()) (es.filterMap (EntryEvent.step i))

/-- What the threads have been answered, when `calls` took the lock in this order. -/
def EntryState.answered {T : Type} (s : EntryState T) (calls : List (T × EntryOp)) :
    List (T × Option ResourceUsage) :=
  List.zipWith (fun c a => (a.1, c.2.answer a.2)) calls s.answers

end RdmaIntercept.Model
