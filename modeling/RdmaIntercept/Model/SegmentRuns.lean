import RdmaIntercept.Library.Runs
import RdmaIntercept.Model.SharedMemory

/-!
# Concurrent use of the process-resource segment

Any process may run `shm_init` and the updating calls at any time.  An updating call is
three steps of its process: it takes the lock, which it finds free, it writes, and it
releases the lock.  `shm_init` is one step and does not look at the lock.
-/

set_option autoImplicit false

namespace RdmaIntercept.Model

open RdmaIntercept.Library

/-- A call that writes to the segment under its lock. -/
inductive ShmOp
  | updateGlobal (usage : ResourceUsage)
  | updateProcess (pid : Pid) (usage : ResourceUsage)
  | setLimits (maxQp maxMr : UInt32) (maxMemory : UInt64)

/-- The test of the arguments before the lock is taken. -/
def ShmOp.accepted : ShmOp → Bool
  | .updateProcess pid _ => decide (0 < pid)
  | _ => true

/-- What the call does while it holds the lock. -/
def ShmOp.write (d : SharedMemoryData) (nowNs : UInt64) : ShmOp → SharedMemoryData
  | .updateGlobal usage => writeGlobalResources d usage nowNs
  | .updateProcess pid usage => (writeProcessResources d pid usage nowNs).2
  | .setLimits maxQp maxMr maxMemory => writeGlobalLimits d maxQp maxMr maxMemory

/-- The call as a whole. -/
def ShmOp.call (d : SharedMemoryData) (nowNs : UInt64) : ShmOp → SharedMemoryData
  | .updateGlobal usage => shmUpdateGlobalResources d usage nowNs
  | .updateProcess pid usage => (shmUpdateProcessResources d pid usage nowNs).2
  | .setLimits maxQp maxMr maxMemory => shmSetGlobalLimits d maxQp maxMr maxMemory

/-- How far a process has got. -/
inductive ShmPhase
  | idle
  | locked (op : ShmOp)
  | written

structure ShmWorld where
  seg : SharedMemoryData
  phase : Pid → ShmPhase

/-- A step of process `p`; a step that the process cannot make changes nothing. -/
inductive ShmEvent
  | init (p : Pid) (nowNs : UInt64)
  | acquire (p : Pid) (op : ShmOp)
  | write (p : Pid) (nowNs : UInt64)
  | release (p : Pid)

def ShmWorld.setPhase (w : ShmWorld) (p : Pid) (ph : ShmPhase) : ShmWorld :=
  { w with phase := Function.update w.phase p ph }

def ShmWorld.step (w : ShmWorld) : ShmEvent → ShmWorld
  | .init p nowNs =>
    match w.phase p with
    | .idle => { w with seg := shmInit w.seg nowNs }
    | _ => w
  | .acquire p op =>
    match w.phase p with
    | .idle =>
      if op.accepted ∧ w.seg.shmLock = 0 then
        { w with seg := shmLock w.seg }.setPhase p (.locked op)
      else w
    | _ => w
  | .write p nowNs =>
    match w.phase p with
    | .locked op => { w with seg := op.write w.seg nowNs }.setPhase p .written
    | _ => w
  | .release p =>
    match w.phase p with
    | .written => { w with seg := shmUnlock w.seg }.setPhase p .idle
    | _ => w

/-- The segment right after the `shm_init` that has created it. -/
def ShmWorld.created (nowNs : UInt64) : ShmWorld :=
  ⟨shmInit .blank nowNs, fun _ => .idle⟩

/-- The steps of one call by one process. -/
def ShmOp.steps (op : ShmOp) (p : Pid) (nowNs : UInt64) : List ShmEvent :=
  [.acquire p op, .write p nowNs, .release p]

/-! ## The table of processes, one call after the other -/

/-- A call that reads or writes the record of a process. -/
inductive TableCall
  | update (pid : Pid) (usage : ResourceUsage) (nowNs : UInt64)
  | get (pid : Pid)

/-- Reading changes nothing. -/
def SharedMemoryData.tableStep (d : SharedMemoryData) : TableCall → SharedMemoryData
  | .update pid usage nowNs => (shmUpdateProcessResources d pid usage nowNs).2
  | .get _ => d

/-- Any segment, with no process in its table and its lock free. -/
def SharedMemoryData.emptied (d : SharedMemoryData) : SharedMemoryData :=
  { d with processPids := fun _ => 0, shmLock := 0 }

end RdmaIntercept.Model
