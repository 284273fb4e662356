import RdmaIntercept.Library.SpinLock
import RdmaIntercept.Model.SegmentRuns

/-!
# The calls on the process-resource segment, access by access

Every load and every store of a word of the segment is a step of its own.  An updating call
spins on the lock word, makes its accesses, and stores 0 into the lock word; the reading calls
do not look at the lock.  An access that the code does not make, because the loop was left or
no slot was found, is a step that changes nothing.
-/

set_option autoImplicit false

namespace RdmaIntercept.Model

open RdmaIntercept.Library

/-- The local variables of the calls: `slot` (none for -1) and whether the loop has been left;
what the last test of the slot and the last load of the version have given; the copy that a
reading call makes. -/
structure ShmRegs where
  slot : Option (Fin MAX_PROCESSES)
  left : Bool
  isNew : Bool
  loaded : UInt64
  usage : ResourceUsage
  deriving DecidableEq

def ShmRegs.start : ShmRegs := ⟨none, false, false, 0, .zero⟩

abbrev ShmAccess : Type := ShmRegs × SharedMemoryData → ShmRegs × SharedMemoryData

/-- A load. -/
def loadWord (f : ShmRegs → SharedMemoryData → ShmRegs) : ShmAccess := fun x => (f x.1 x.2, x.2)

/-- A store. -/
def storeWord (f : ShmRegs → SharedMemoryData → SharedMemoryData) : ShmAccess :=
  fun x => (x.1, f x.1 x.2)

/-! ## Updating calls -/

/-- SOURCE: shared_memory.c:189-191 -/
def comparePid (pid : Pid) (i : Fin MAX_PROCESSES) : ShmAccess := loadWord fun r d =>
  if r.left = false ∧ d.processPids i = pid then { r with slot := some i, left := true } else r

/-- SOURCE: shared_memory.c:192-194 -/
def compareFree (i : Fin MAX_PROCESSES) : ShmAccess := loadWord fun r d =>
  if r.left = false ∧ d.processPids i = 0 ∧ r.slot = none then { r with slot := some i } else r

/-- SOURCE: shared_memory.c:188-195 -/
def scanAccesses (pid : Pid) (is : List (Fin MAX_PROCESSES)) : List ShmAccess :=
  is.flatMap fun i => [comparePid pid i, compareFree i]

/-- A store into the words of the slot, if there is one. -/
def storeInSlot (f : ShmRegs → Fin MAX_PROCESSES → SharedMemoryData → SharedMemoryData) :
    ShmAccess := storeWord fun r d =>
  match r.slot with
  | some i => f r i d
  | none => d

/-- SOURCE: shared_memory.c:204 -/
def testNew : ShmAccess := loadWord fun r d =>
  match r.slot with
  | some i => { r with isNew := decide (d.processPids i = 0) }
  | none => r

def loadVersion : ShmAccess := loadWord fun r d => { r with loaded := d.version }

/-- SOURCE: shared_memory.c:204-215 -/
def slotAccesses (pid : Pid) (usage : ResourceUsage) (nowNs : UInt64) : List ShmAccess :=
  [testNew,
    storeInSlot fun r i d =>
      if r.isNew then { d with processPids := Function.update d.processPids i pid } else d,
    storeInSlot fun _ i d => { d with
      processStats := Function.update d.processStats i
        { d.processStats i with qpCount := usage.qpCount } },
    storeInSlot fun _ i d => { d with
      processStats := Function.update d.processStats i
        { d.processStats i with mrCount := usage.mrCount } },
    storeInSlot fun _ i d => { d with
      processStats := Function.update d.processStats i
        { d.processStats i with memoryUsed := usage.memoryUsed } },
    loadVersion,
    storeInSlot fun r _ d => { d with version := r.loaded + 1 },
    storeInSlot fun _ _ d => { d with lastUpdateTime := nowNs }]

/-- SOURCE: shared_memory.c:166-172 -/
def globalAccesses (usage : ResourceUsage) (nowNs : UInt64) : List ShmAccess :=
  [storeWord fun _ d => { d with globalStats := { d.globalStats with qpCount := usage.qpCount } },
    storeWord fun _ d => { d with globalStats := { d.globalStats with mrCount := usage.mrCount } },
    storeWord fun _ d =>
      { d with globalStats := { d.globalStats with memoryUsed := usage.memoryUsed } },
    loadVersion,
    storeWord fun r d => { d with version := r.loaded + 1 },
    storeWord fun _ d => { d with lastUpdateTime := nowNs }]

/-- SOURCE: shared_memory.c:229-231 -/
def limitAccesses (maxQp maxMr : UInt32) (maxMemory : UInt64) : List ShmAccess :=
  [storeWord fun _ d => { d with maxGlobalQp := maxQp },
    storeWord fun _ d => { d with maxGlobalMr := maxMr },
    storeWord fun _ d => { d with maxGlobalMemory := maxMemory }]

/-- What the call does between taking and releasing the lock. -/
def ShmOp.accesses (nowNs : UInt64) : ShmOp → List ShmAccess
  | .updateGlobal usage => globalAccesses usage nowNs
  | .updateProcess pid usage =>
    scanAccesses pid (List.finRange MAX_PROCESSES) ++ slotAccesses pid usage nowNs
  | .setLimits maxQp maxMr maxMemory => limitAccesses maxQp maxMr maxMemory

/-- The call with the spinning before it; nothing follows the release. -/
def ShmOp.section (op : ShmOp) (nowNs : UInt64) : SpinLock.Call ShmRegs SharedMemoryData Unit :=
  ⟨.start, op.accesses nowNs, []⟩

/-- What the call returns. -/
def ShmOp.answer (r : ShmRegs) : ShmOp → Int32
  | .updateProcess _ _ => if r.slot = none then -1 else 0
  | _ => 0

/-! ## The calls as a whole -/

/-- What the call returns when it finds the segment `d`. -/
def ShmOp.returned (d : SharedMemoryData) (nowNs : UInt64) : ShmOp → Int32
  | .updateProcess pid usage => if (shmUpdateProcessResources d pid usage nowNs).1 then 0 else -1
  | _ => 0

/-- A call of a thread, with the time that it reads from the clock. -/
structure ThreadCall (T : Type) where
  thread : T
  op : ShmOp
  nowNs : UInt64

/-- The segment after calls that run one after the other. -/
def SharedMemoryData.serially {T : Type} (d : SharedMemoryData) (calls : List (ThreadCall T)) :
    SharedMemoryData :=
  calls.foldl (fun d c => c.op.call d c.nowNs) d

/-- What these calls return to their threads. -/
def SharedMemoryData.returns {T : Type} : SharedMemoryData → List (ThreadCall T) → List (T × Int32)
  | _, [] => []
  | d, c :: calls => (c.thread, c.op.returned d c.nowNs) :: (c.op.call d c.nowNs).returns calls

/-! ## Reading calls -/

/-- SOURCE: shared_memory.c:144 -/
def readPid (pid : Pid) (i : Fin MAX_PROCESSES) (r : ShmRegs) (d : SharedMemoryData) : ShmRegs :=
  if r.left = false ∧ d.processPids i = pid then { r with slot := some i, left := true } else r

/-- A load from the words of the slot, if there is one. -/
def readSlot (f : ResourceUsage → ResourceUsage → ResourceUsage) (r : ShmRegs)
    (d : SharedMemoryData) : ShmRegs :=
  match r.slot with
  | some i => { r with usage := f (d.processStats i) r.usage }
  | none => r

/-- SOURCE: shared_memory.c:145-147 -/
def copyReads : List (ShmRegs → SharedMemoryData → ShmRegs) :=
  [readSlot fun stats usage => { usage with qpCount := stats.qpCount },
    readSlot fun stats usage => { usage with mrCount := stats.mrCount },
    readSlot fun stats usage => { usage with memoryUsed := stats.memoryUsed }]

/-- A process without a slot is answered zeros.
SOURCE: shared_memory.c:142-156 -/
def lookupReads (pid : Pid) : List (ShmRegs → SharedMemoryData → ShmRegs) :=
  (List.finRange MAX_PROCESSES).map (readPid pid) ++ copyReads

/-- SOURCE: shared_memory.c:130-132 -/
def globalReads : List (ShmRegs → SharedMemoryData → ShmRegs) :=
  [fun r d => { r with usage := { r.usage with qpCount := d.globalStats.qpCount } },
    fun r d => { r with usage := { r.usage with mrCount := d.globalStats.mrCount } },
    fun r d => { r with usage := { r.usage with memoryUsed := d.globalStats.memoryUsed } }]

/-! ## Runs -/

/-- What thread `t` does next. -/
inductive SegmentEvent (T : Type)
  | call (t : T) (op : ShmOp) (nowNs : UInt64)
  | getProcess (t : T) (pid : Pid)
  | getGlobal (t : T)
  | run (t : T)
  | die (t : T)

/-- A call whose argument is refused makes no access. -/
def SegmentEvent.step {T : Type} :
    SegmentEvent T → Option (SpinLock.Event T ShmRegs SharedMemoryData Unit)
  | .call t op nowNs => if op.accepted then some (.call t (op.section nowNs)) else none
  | .getProcess t pid => if pid ≤ 0 then none else some (.look t .start (lookupReads pid))
  | .getGlobal t => some (.look t .start globalReads)
  | .run t => some (.run t)
  | .die t => some (.die t)

section Threads

variable {T : Type} [DecidableEq T]

/-- The call that thread `t` makes. -/
def SegmentEvent.madeBy (t : T) : SegmentEvent T → Option (ThreadCall T)
  | .call t' op nowNs => if t' = t ∧ op.accepted then some ⟨t, op, nowNs⟩ else none
  | _ => none

/-- The thread goes on with what it is doing, or it is another thread's event. -/
def SegmentEvent.continues (t : T) : SegmentEvent T → Bool
  | .call t' _ _ => decide (t' ≠ t)
  | .getProcess t' _ => decide (t' ≠ t)
  | .getGlobal t' => decide (t' ≠ t)
  | .run _ => true
  | .die t' => decide (t' ≠ t)

def SegmentEvent.runs (t : T) : SegmentEvent T → Bool
  | .run t' => decide (t' = t)
  | _ => false

end Threads

abbrev SegmentState (T : Type) : Type := SpinLock.State T ShmRegs SharedMemoryData Unit

/-- The threads of all processes on the segment `d`, nobody inside a call yet. -/
def segmentRun {T : Type} [DecidableEq T] (d : SharedMemoryData) (es : List (SegmentEvent T)) :
    SegmentState T :=
  exec SpinLock.State.step (.initial d ()) (es.filterMap SegmentEvent.step)

/-- What the threads have been answered, when `calls` took the lock in this order. -/
def SegmentState.answered {T : Type} (s : SegmentState T) (calls : List (ThreadCall T)) :
    List (T × Int32) :=
  List.zipWith (fun c a => (a.1, c.op.answer a.2)) calls s.answers

/-- The segment with its lock word. -/
def segmentWords {T : Type} (s : SegmentState T) : SharedMemoryData :=
  { s.data with shmLock := if s.locked then 1 else 0 }

end RdmaIntercept.Model
