import RdmaIntercept.Model.TenantShm

/-!
# The process-resource segment

The shared-memory segment `/rdma_intercept_shm_v2` and the operations on it.  `nowNs` is
what `get_current_time_ns` answers while an operation runs.  Whether a process has the
segment mapped (`shm_data_ptr != NULL`) is part of the process, not of the segment, and
is tested where the hooks call these operations.

SOURCE: src/shm/shared_memory.h, src/shm/shared_memory.c
-/

set_option autoImplicit false

namespace RdmaIntercept.Model

open RdmaIntercept.Library

/-- SOURCE: shared_memory.h:12-16 -/
structure ResourceUsage where
  qpCount : Int32
  mrCount : Int32
  memoryUsed : UInt64
  deriving DecidableEq, Repr

def ResourceUsage.zero : ResourceUsage := ⟨0, 0, 0⟩

/-- SOURCE: shared_memory.h:19-42 -/
structure SharedMemoryData where
  globalStats : ResourceUsage
  processStats : Fin MAX_PROCESSES → ResourceUsage
  processPids : Fin MAX_PROCESSES → Pid
  maxGlobalQp : UInt32
  maxGlobalMr : UInt32
  maxGlobalMemory : UInt64
  shmLock : Int32
  version : UInt64
  lastUpdateTime : UInt64

/-- The object that `shm_open` and `ftruncate` create, before `shm_init` writes to it. -/
def SharedMemoryData.blank : SharedMemoryData :=
  ⟨.zero, fun _ => .zero, fun _ => 0, 0, 0, 0, 0, 0, 0⟩

/-- What `shm_init` stores into a segment it takes for new.
SOURCE: shared_memory.c:57-80 -/
def SharedMemoryData.fresh (nowNs : UInt64) : SharedMemoryData where
  globalStats := .zero
  processStats := fun _ => .zero
  processPids := fun _ => 0
  maxGlobalQp := 1000
  maxGlobalMr := 1000
  maxGlobalMemory := 1024 * 1024 * 1024
  shmLock := 0
  version := 1
  lastUpdateTime := nowNs

/-- The part of `shm_init` after the mapping has succeeded.  A segment is taken for new
when its three global counters are zero.
SOURCE: shared_memory.c:52-84 -/
def shmInit (d : SharedMemoryData) (nowNs : UInt64) : SharedMemoryData :=
  if d.globalStats.qpCount = 0 ∧ d.globalStats.mrCount = 0 ∧ d.globalStats.memoryUsed = 0 then
    .fresh nowNs
  else d

/-- SOURCE: shared_memory.c:113-118 -/
def shmLock (d : SharedMemoryData) : SharedMemoryData := { d with shmLock := 1 }

/-- SOURCE: shared_memory.c:120-122 -/
def shmUnlock (d : SharedMemoryData) : SharedMemoryData := { d with shmLock := 0 }

/-- SOURCE: shared_memory.c:124-135 -/
def shmGetGlobalResources (d : SharedMemoryData) : ResourceUsage := d.globalStats

/-- A positive process without an entry is answered zeros.
SOURCE: shared_memory.c:137-157 -/
def shmGetProcessResources (d : SharedMemoryData) (pid : Pid) : Option ResourceUsage :=
  if pid ≤ 0 then none
  else
    match SlotTable.slotOf d.processPids pid with
    | some i => some (d.processStats i)
    | none => some .zero

/-- What `shm_update_global_resources` does between taking and releasing the lock. -/
def writeGlobalResources (d : SharedMemoryData) (usage : ResourceUsage) (nowNs : UInt64) :
    SharedMemoryData :=
  { d with globalStats := usage, version := d.version + 1, lastUpdateTime := nowNs }

/-- SOURCE: shared_memory.c:159-177 -/
def shmUpdateGlobalResources (d : SharedMemoryData) (usage : ResourceUsage) (nowNs : UInt64) :
    SharedMemoryData :=
  shmUnlock (writeGlobalResources (shmLock d) usage nowNs)

/-- What `shm_update_process_resources` does between taking and releasing the lock; the
result tells whether it has found a slot. -/
def writeProcessResources (d : SharedMemoryData) (pid : Pid) (usage : ResourceUsage)
    (nowNs : UInt64) : Bool × SharedMemoryData :=
  match SlotTable.scanOne d.processPids 0 pid (List.finRange MAX_PROCESSES) none with
  | none => (false, d)
  | some slot =>
    let pids :=
      if d.processPids slot = 0 then Function.update d.processPids slot pid else d.processPids
    (true,
      { d with
        processPids := pids
        processStats := Function.update d.processStats slot usage
        version := d.version + 1
        lastUpdateTime := nowNs })

/-- SOURCE: shared_memory.c:179-220 -/
def shmUpdateProcessResources (d : SharedMemoryData) (pid : Pid) (usage : ResourceUsage)
    (nowNs : UInt64) : Bool × SharedMemoryData :=
  if pid ≤ 0 then (false, d)
  else
    let (found, d) := writeProcessResources (shmLock d) pid usage nowNs
    (found, shmUnlock d)

/-- What `shm_set_global_limits` does between taking and releasing the lock. -/
def writeGlobalLimits (d : SharedMemoryData) (maxQp maxMr : UInt32) (maxMemory : UInt64) :
    SharedMemoryData :=
  { d with maxGlobalQp := maxQp, maxGlobalMr := maxMr, maxGlobalMemory := maxMemory }

/-- SOURCE: shared_memory.c:222-236 -/
def shmSetGlobalLimits (d : SharedMemoryData) (maxQp maxMr : UInt32) (maxMemory : UInt64) :
    SharedMemoryData :=
  shmUnlock (writeGlobalLimits (shmLock d) maxQp maxMr maxMemory)

end RdmaIntercept.Model
