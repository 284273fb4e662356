import RdmaIntercept.Library.SpinLock
import RdmaIntercept.Model.TenantDaemon

/-!
# The release of the tenant segment's lock, access by access

`tenant_shm_unlock` stores 0 into the lock word first and increases `version` and stamps
`last_update_time` after that, outside the lock.  What a call does between taking and releasing
the lock are accesses to the records that may be cut in any way; the local variables of the
calls are of any type.
-/

set_option autoImplicit false

namespace RdmaIntercept.Model

open RdmaIntercept.Library

/-- What has been loaded from `version` and not been stored yet, and the other local
variables. -/
structure TenantRegs (ρ : Type) where
  loaded : Option UInt64
  vars : ρ

/-- The words of the segment that are written outside the lock.
SOURCE: shared_memory_tenant.h:79-82 -/
structure TenantMarks where
  version : UInt64
  lastUpdateTime : UInt64
  deriving DecidableEq

variable {ρ : Type}

abbrev MarkAccess (ρ : Type) : Type := TenantRegs ρ × TenantMarks → TenantRegs ρ × TenantMarks

/-- The load of `data->version++`. -/
def loadMark : MarkAccess ρ := fun x => ({ x.1 with loaded := some x.2.version }, x.2)

/-- The store of `data->version++`. -/
def storeMark : MarkAccess ρ := fun x =>
  match x.1.loaded with
  | some v => ({ x.1 with loaded := none }, { x.2 with version := v + 1 })
  | none => x

def stampMark (now : TimeT) : MarkAccess ρ := fun x =>
  (x.1, { x.2 with lastUpdateTime := now.toUInt64 })

/-- What follows the release of the lock.
SOURCE: shared_memory_tenant.c:121-122 -/
def unlockTail (now : TimeT) : List (MarkAccess ρ) := [loadMark, storeMark, stampMark now]

abbrev TenantThread (T ρ : Type) : Type := SpinLock.State T (TenantRegs ρ) TenantShm TenantMarks

abbrev TenantStep (T ρ : Type) : Type := SpinLock.Event T (TenantRegs ρ) TenantShm TenantMarks

/-- The threads of all processes on the segment `shm`, nobody inside a call yet. -/
def tenantThreads {T : Type} (shm : TenantShm) : TenantThread T ρ :=
  .initial shm ⟨shm.version, shm.lastUpdateTime⟩

/-- The words of the segment.  The fields `version` and `lastUpdateTime` of the guarded records
tell what the words would hold if every call stamped before it released the lock. -/
def tenantWords {T : Type} (s : TenantThread T ρ) : TenantShm :=
  { s.data with
    tenantShmLock := if s.locked then 1 else 0
    version := s.marks.version
    lastUpdateTime := s.marks.lastUpdateTime }

end RdmaIntercept.Model
