import RdmaIntercept.Library.CText
import RdmaIntercept.Model.SegmentRuns

/-!
# The collector on shared memory

The second data collection service answers no requests: a thread of it reads the eBPF maps
ten times a second and copies them into the process-resource segment.  What the kernel answers
is given with each step: the usage in the global map, and the keys of the process map in the
order in which `bpf_map_get_next_key` yields them, each with what the look-up of it answers.
Between two steps other processes make their own calls.

SOURCE: src/collector_server_shm.c
-/

set_option autoImplicit false

namespace RdmaIntercept.Model

open RdmaIntercept.Library RdmaIntercept.Library.CText

/-- SOURCE: collector_server_shm.c:44-56 -/
def updateMaxGlobalQp (maxGlobalQp : UInt32) : Option Bytes → UInt32
  | some maxQpStr =>
    let newMax := (atoi maxQpStr).toUInt32
    if 0 < newMax then newMax else maxGlobalQp
  | none => maxGlobalQp

/-- SOURCE: collector_server_shm.c:59-71 -/
def updateMaxGlobalMemory (maxGlobalMemory : UInt64) : Option Bytes → UInt64
  | some maxMemoryStr =>
    let newMax := UInt64.ofInt (strtol maxMemoryStr)
    if 0 < newMax then newMax else maxGlobalMemory
  | none => maxGlobalMemory

/-- The two environment variables. -/
structure CollectorEnv where
  maxGlobalQp : Option Bytes
  maxGlobalMemory : Option Bytes

/-- What `initialize_service` does to the segment.
SOURCE: collector_server_shm.c:30, 34, 149-164 -/
def initializeService (d : SharedMemoryData) (env : CollectorEnv) (nowNs : UInt64) :
    SharedMemoryData :=
  shmSetGlobalLimits (shmInit d nowNs) (updateMaxGlobalQp 10 env.maxGlobalQp) 1000
    (updateMaxGlobalMemory (1024 * 1024 * 1024 * 10) env.maxGlobalMemory)

/-- A call on the segment while the service runs: the copy of the global usage, that of one
key of the process map, or a call of another process. -/
inductive CollectorStep
  | global (usage : Option ResourceUsage)
  | entry (nextPid : UInt32) (usage : Option ResourceUsage) (nowNs : UInt64)
  | other (op : ShmOp) (nowNs : UInt64)

/-- The copy of the global usage is stamped with a version, not with a time.
SOURCE: collector_server_shm.c:101-106 -/
def syncGlobalStats (d : SharedMemoryData) (usage : ResourceUsage) : SharedMemoryData :=
  let d := shmLock d
  shmUnlock { d with globalStats := usage, version := d.version + 1 }

def CollectorStep.exec (d : SharedMemoryData) : CollectorStep → SharedMemoryData
  | .global (some usage) => syncGlobalStats d usage
  | .global none => d
  | .entry nextPid (some usage) nowNs => (shmUpdateProcessResources d nextPid.toInt32 usage nowNs).2
  | .entry _ none _ => d
  | .other op nowNs => op.call d nowNs

/-- What the maps show during one pass. -/
structure MapsRead where
  global : Option ResourceUsage
  processes : List (UInt32 × Option ResourceUsage × UInt64)

/-- SOURCE: collector_server_shm.c:81-132 -/
def syncEbpfDataToSharedMemory (maps : MapsRead) : List CollectorStep :=
  .global maps.global :: maps.processes.map fun e => .entry e.1 e.2.1 e.2.2

/-- The usage that a step writes for a process. -/
def CollectorStep.written : CollectorStep → Option (Pid × ResourceUsage)
  | .entry nextPid (some usage) _ => some (nextPid.toInt32, usage)
  | .other (.updateProcess pid usage) _ => some (pid, usage)
  | _ => none

/-- The global usage that a step writes. -/
def CollectorStep.globalWritten : CollectorStep → Option ResourceUsage
  | .global usage => usage
  | .other (.updateGlobal usage) _ => some usage
  | _ => none

/-- The step sets new limits. -/
def CollectorStep.setsLimits : CollectorStep → Bool
  | .other (.setLimits ..) _ => true
  | _ => false

end RdmaIntercept.Model
