import RdmaIntercept.Library.SlotTable

/-!
# The tenant segment

The shared-memory segment `/rdma_intercept_tenant_shm_v2` and the operations of the
tenant API on it.  Every operation takes the segment lock, runs its body and releases
the lock on each of its exits; `now` is what `time(NULL)` answers while it runs.  A
result `false` or `none` stands for the return value `-1`.  The segment is taken as
mapped: `tenant_shm_get_ptr` answers `NULL` only in a process whose `tenant_shm_init`
failed, and the hooks of such a process never reach these operations.

SOURCE: src/shm/shared_memory_tenant.h, src/shm/shared_memory_tenant.c
-/

set_option autoImplicit false

namespace RdmaIntercept.Model

open RdmaIntercept.Library

/-- `pid_t`. -/
abbrev Pid := Int32

/-- `time_t`, in seconds. -/
abbrev TimeT := Int64

/-- SOURCE: shared_memory.h:7 -/
abbrev MAX_PROCESSES : ℕ := 1024

/-- SOURCE: shared_memory_tenant.h:10 -/
abbrev MAX_TENANTS : ℕ := 64

/-- SOURCE: shared_memory_tenant.h:11 -/
abbrev TENANT_NAME_MAX : ℕ := 64

/-- SOURCE: shared_memory_tenant.h:15-19 -/
inductive TenantStatus
  | inactive
  | active
  | suspended
  deriving DecidableEq, Repr

/-- SOURCE: shared_memory_tenant.h:22-28 -/
structure TenantQuota where
  maxQpPerTenant : UInt32
  maxMrPerTenant : UInt32
  maxMemoryPerTenant : UInt64
  maxCqPerTenant : UInt32
  maxPdPerTenant : UInt32
  deriving DecidableEq, Repr

/-- SOURCE: shared_memory_tenant.h:31-41 -/
structure TenantResourceUsage where
  qpCount : Int32
  mrCount : Int32
  cqCount : Int32
  pdCount : Int32
  memoryUsed : UInt64
  totalQpCreates : UInt64
  totalQpDestroys : UInt64
  totalMrRegs : UInt64
  totalMrDeregs : UInt64
  deriving DecidableEq, Repr

/-- The name is its bytes before the terminating NUL.
SOURCE: shared_memory_tenant.h:44-54 -/
structure TenantInfo where
  tenantId : UInt32
  tenantName : List UInt8
  status : TenantStatus
  quota : TenantQuota
  usage : TenantResourceUsage
  createdAt : TimeT
  lastActiveAt : TimeT
  processCount : UInt32
  processes : Fin MAX_PROCESSES → Pid

/-- SOURCE: shared_memory_tenant.h:57-61 -/
structure PidTenantMapping where
  pid : Pid
  tenantId : UInt32
  mappedAt : TimeT
  deriving DecidableEq, Repr

/-- SOURCE: shared_memory_tenant.h:64-83 -/
structure TenantShm where
  tenants : Fin MAX_TENANTS → TenantInfo
  pidMappings : Fin MAX_PROCESSES → PidTenantMapping
  activeTenantCount : UInt32
  totalProcessCount : UInt32
  tenantShmLock : Int32
  version : UInt64
  lastUpdateTime : UInt64

/-! ## All-zero records, as `memset` writes them -/

def TenantQuota.zero : TenantQuota := ⟨0, 0, 0, 0, 0⟩

def TenantResourceUsage.zero : TenantResourceUsage := ⟨0, 0, 0, 0, 0, 0, 0, 0, 0⟩

def TenantInfo.zero : TenantInfo :=
  ⟨0, [], .inactive, .zero, .zero, 0, 0, 0, fun _ => 0⟩

/-- The segment that `tenant_shm_init` leaves after it has created it.
SOURCE: shared_memory_tenant.c:62-67 -/
def TenantShm.fresh (now : TimeT) : TenantShm where
  tenants := fun _ => .zero
  pidMappings := fun _ => ⟨0, 0, 0⟩
  activeTenantCount := 0
  totalProcessCount := 0
  tenantShmLock := 0
  version := 1
  lastUpdateTime := now.toUInt64

/-! ## Access -/

/-- Position of a tenant id in the array `tenants`.  Every operation has compared the id
with `MAX_TENANTS` before it indexes, `tenant_unbind_process` excepted, whose id was
compared when it was stored in the mapping. -/
def tenantSlot (tenantId : UInt32) : Fin MAX_TENANTS := Fin.ofNat MAX_TENANTS tenantId.toNat

/-- `shm->tenants[tenant_id]`. -/
def TenantShm.tenant (shm : TenantShm) (tenantId : UInt32) : TenantInfo :=
  shm.tenants (tenantSlot tenantId)

/-- Writes through `tenant_info_t *tenant = &shm->tenants[tenant_id]`. -/
def TenantShm.setTenant (shm : TenantShm) (tenantId : UInt32) (info : TenantInfo) : TenantShm :=
  { shm with tenants := Function.update shm.tenants (tenantSlot tenantId) info }

/-- The column `pid_mappings[..].pid`. -/
def TenantShm.mappedPid (shm : TenantShm) (i : Fin MAX_PROCESSES) : Pid := (shm.pidMappings i).pid

/-- Writes `pid_mappings[i]`. -/
def TenantShm.setMapping (shm : TenantShm) (i : Fin MAX_PROCESSES) (m : PidTenantMapping) :
    TenantShm :=
  { shm with pidMappings := Function.update shm.pidMappings i m }

/-- SOURCE: shared_memory_tenant.c:111-115 -/
def tenantShmLock (shm : TenantShm) : TenantShm := { shm with tenantShmLock := 1 }

/-- Releases the lock and then stamps the segment.
SOURCE: shared_memory_tenant.c:118-124 -/
def tenantShmUnlock (shm : TenantShm) (now : TimeT) : TenantShm :=
  { shm with
    tenantShmLock := 0
    version := shm.version + 1
    lastUpdateTime := now.toUInt64 }

/-! ## Managing tenants -/

/-- The bytes of `"unnamed"`. -/
def unnamed : List UInt8 := [117, 110, 110, 97, 109, 101, 100]

/-- `strncpy(dst, src, TENANT_NAME_MAX - 1)` followed by `dst[TENANT_NAME_MAX - 1] = '\0'`. -/
def copyName (name : Option (List UInt8)) : List UInt8 :=
  ((name.getD unnamed).takeWhile (· ≠ 0)).take (TENANT_NAME_MAX - 1)

/-- SOURCE: shared_memory_tenant.c:162-168 -/
def defaultQuota : TenantQuota where
  maxQpPerTenant := 100
  maxMrPerTenant := 1000
  maxMemoryPerTenant := 1024 * 1024 * 1024
  maxCqPerTenant := 100
  maxPdPerTenant := 100

/-- SOURCE: shared_memory_tenant.c:127-176 -/
def tenantCreate (shm : TenantShm) (tenantId : UInt32) (name : Option (List UInt8))
    (quota : Option TenantQuota) (now : TimeT) : Bool × TenantShm :=
  if tenantId = 0 ∨ MAX_TENANTS ≤ tenantId.toNat then (false, shm)
  else
    let shm := tenantShmLock shm
    if (shm.tenant tenantId).status ≠ .inactive then (false, tenantShmUnlock shm now)
    else
      let tenant : TenantInfo :=
        { TenantInfo.zero with
          tenantId := tenantId
          tenantName := copyName name
          status := .active
          createdAt := now
          lastActiveAt := now
          quota := quota.getD defaultQuota }
      let shm := shm.setTenant tenantId tenant
      let shm := { shm with activeTenantCount := shm.activeTenantCount + 1 }
      (true, tenantShmUnlock shm now)

/-- The body of the clean-up loop for one mapping slot.
SOURCE: shared_memory_tenant.c:200-206 -/
def unmapIfTenant (tenantId : UInt32) (shm : TenantShm) (i : Fin MAX_PROCESSES) : TenantShm :=
  if (shm.pidMappings i).tenantId = tenantId then
    { shm.setMapping i { shm.pidMappings i with pid := 0, tenantId := 0 } with
      totalProcessCount := shm.totalProcessCount - 1 }
  else shm

/-- SOURCE: shared_memory_tenant.c:179-218 -/
def tenantDelete (shm : TenantShm) (tenantId : UInt32) (now : TimeT) : Bool × TenantShm :=
  if tenantId = 0 ∨ MAX_TENANTS ≤ tenantId.toNat then (false, shm)
  else
    let shm := tenantShmLock shm
    if (shm.tenant tenantId).status = .inactive then (false, tenantShmUnlock shm now)
    else
      let shm := (List.finRange MAX_PROCESSES).foldl (unmapIfTenant tenantId) shm
      let shm := shm.setTenant tenantId
        { shm.tenant tenantId with status := .inactive, processCount := 0 }
      let shm := { shm with activeTenantCount := shm.activeTenantCount - 1 }
      (true, tenantShmUnlock shm now)

/-- `none` when the call answers `-1`; the record it copies out in that case is not read
by any caller.
SOURCE: shared_memory_tenant.c:221-239 -/
def tenantGetInfo (shm : TenantShm) (tenantId : UInt32) (now : TimeT) :
    Option TenantInfo × TenantShm :=
  if MAX_TENANTS ≤ tenantId.toNat then (none, shm)
  else
    let shm := tenantShmLock shm
    let info := shm.tenant tenantId
    let shm := tenantShmUnlock shm now
    (if (shm.tenant tenantId).status ≠ .inactive then some info else none, shm)

/-- SOURCE: shared_memory_tenant.c:242-268 -/
def tenantSetStatus (shm : TenantShm) (tenantId : UInt32) (status : TenantStatus) (now : TimeT) :
    Bool × TenantShm :=
  if MAX_TENANTS ≤ tenantId.toNat then (false, shm)
  else
    let shm := tenantShmLock shm
    if (shm.tenant tenantId).status = .inactive then (false, tenantShmUnlock shm now)
    else
      let shm := shm.setTenant tenantId
        { shm.tenant tenantId with status := status, lastActiveAt := now }
      (true, tenantShmUnlock shm now)

/-- SOURCE: shared_memory_tenant.c:271-297 -/
def tenantUpdateQuota (shm : TenantShm) (tenantId : UInt32) (quota : TenantQuota) (now : TimeT) :
    Bool × TenantShm :=
  if MAX_TENANTS ≤ tenantId.toNat then (false, shm)
  else
    let shm := tenantShmLock shm
    if (shm.tenant tenantId).status = .inactive then (false, tenantShmUnlock shm now)
    else
      let shm := shm.setTenant tenantId
        { shm.tenant tenantId with quota := quota, lastActiveAt := now }
      (true, tenantShmUnlock shm now)

/-! ## Binding processes -/

/-- Appends a newly bound process to `tenant->processes`, in the first entry that is zero.
SOURCE: shared_memory_tenant.c:355-361 -/
def TenantInfo.addProcess (tenant : TenantInfo) (pid : Pid) : TenantInfo :=
  match SlotTable.slotOf tenant.processes 0 with
  | some i => { tenant with processes := Function.update tenant.processes i pid }
  | none => tenant

/-- Stores a binding into the chosen slot.  A process that had a mapping already keeps its
place in the old tenant's list and counts.
SOURCE: shared_memory_tenant.c:343-363 -/
def storeBinding (shm : TenantShm) (isNew : Bool) (idx : Fin MAX_PROCESSES) (pid : Pid)
    (tenantId : UInt32) (now : TimeT) : TenantShm :=
  let tenant := shm.tenant tenantId
  let tenant :=
    if isNew then { tenant with processCount := tenant.processCount + 1 } else tenant
  let shm :=
    if isNew then { shm with totalProcessCount := shm.totalProcessCount + 1 } else shm
  let shm := shm.setMapping idx ⟨pid, tenantId, now⟩
  let tenant := if isNew then tenant.addProcess pid else tenant
  shm.setTenant tenantId { tenant with lastActiveAt := now }

/-- SOURCE: shared_memory_tenant.c:300-369 -/
def tenantBindProcess (shm : TenantShm) (pid : Pid) (tenantId : UInt32) (now : TimeT) :
    Bool × TenantShm :=
  if MAX_TENANTS ≤ tenantId.toNat then (false, shm)
  else
    let shm := tenantShmLock shm
    if (shm.tenant tenantId).status ≠ .active then (false, tenantShmUnlock shm now)
    else
      let (found, emptySlot) :=
        SlotTable.scan shm.mappedPid 0 pid (List.finRange MAX_PROCESSES) none
      match found.or emptySlot with
      | none => (false, tenantShmUnlock shm now)
      | some idx =>
        (true, tenantShmUnlock (storeBinding shm found.isNone idx pid tenantId now) now)

/-- Removes the first occurrence of a process from `tenant->processes`.
SOURCE: shared_memory_tenant.c:387-393 -/
def TenantInfo.removeProcess (tenant : TenantInfo) (pid : Pid) : TenantInfo :=
  match SlotTable.slotOf tenant.processes pid with
  | some j => { tenant with processes := Function.update tenant.processes j 0 }
  | none => tenant

/-- SOURCE: shared_memory_tenant.c:395-397 -/
def TenantInfo.dropProcessCount (tenant : TenantInfo) : TenantInfo :=
  if 0 < tenant.processCount then { tenant with processCount := tenant.processCount - 1 }
  else tenant

/-- SOURCE: shared_memory_tenant.c:403-405 -/
def TenantShm.dropTotalProcessCount (shm : TenantShm) : TenantShm :=
  if 0 < shm.totalProcessCount then { shm with totalProcessCount := shm.totalProcessCount - 1 }
  else shm

/-- Clears the mapping in slot `i`, which is that of process `pid`.
SOURCE: shared_memory_tenant.c:383-405 -/
def clearBinding (shm : TenantShm) (i : Fin MAX_PROCESSES) (pid : Pid) : TenantShm :=
  let tenantId := (shm.pidMappings i).tenantId
  let tenant := ((shm.tenant tenantId).removeProcess pid).dropProcessCount
  let shm := shm.setTenant tenantId tenant
  let shm := shm.setMapping i { shm.pidMappings i with pid := 0, tenantId := 0 }
  shm.dropTotalProcessCount

/-- SOURCE: shared_memory_tenant.c:372-418 -/
def tenantUnbindProcess (shm : TenantShm) (pid : Pid) (now : TimeT) : Bool × TenantShm :=
  let shm := tenantShmLock shm
  match SlotTable.slotOf shm.mappedPid pid with
  | none => (false, tenantShmUnlock shm now)
  | some i => (true, tenantShmUnlock (clearBinding shm i pid) now)

/-- The tenant of a mapped process, as the mapping table has it. -/
def TenantShm.tenantOf (shm : TenantShm) (pid : Pid) : Option UInt32 :=
  (SlotTable.slotOf shm.mappedPid pid).map fun i => (shm.pidMappings i).tenantId

/-- SOURCE: shared_memory_tenant.c:421-444 -/
def tenantGetProcessTenant (shm : TenantShm) (pid : Pid) (now : TimeT) :
    Option UInt32 × TenantShm :=
  let shm := tenantShmLock shm
  (shm.tenantOf pid, tenantShmUnlock shm now)

/-! ## Usage records -/

/-- SOURCE: shared_memory_tenant.c:447-472 -/
def tenantUpdateResourceUsage (shm : TenantShm) (tenantId : UInt32) (usage : TenantResourceUsage)
    (now : TimeT) : Bool × TenantShm :=
  if MAX_TENANTS ≤ tenantId.toNat then (false, shm)
  else
    let shm := tenantShmLock shm
    if (shm.tenant tenantId).status ≠ .active then (false, tenantShmUnlock shm now)
    else
      let shm := shm.setTenant tenantId
        { shm.tenant tenantId with usage := usage, lastActiveAt := now }
      (true, tenantShmUnlock shm now)

/-- SOURCE: shared_memory_tenant.c:475-499 -/
def tenantGetResourceUsage (shm : TenantShm) (tenantId : UInt32) (now : TimeT) :
    Option TenantResourceUsage × TenantShm :=
  if MAX_TENANTS ≤ tenantId.toNat then (none, shm)
  else
    let shm := tenantShmLock shm
    if (shm.tenant tenantId).status ≠ .active then (none, tenantShmUnlock shm now)
    else (some (shm.tenant tenantId).usage, tenantShmUnlock shm now)

/-- The comparison for one `resource_type`; a count is added to the request as a 32-bit
unsigned number, and a type that is not listed is never exceeded.
SOURCE: shared_memory_tenant.c:522-548 -/
def TenantInfo.exceeds (tenant : TenantInfo) (resourceType : Int32) (requestedAmount : UInt32) :
    Bool :=
  if resourceType = 0 then
    decide (tenant.quota.maxQpPerTenant < tenant.usage.qpCount.toUInt32 + requestedAmount)
  else if resourceType = 1 then
    decide (tenant.quota.maxMrPerTenant < tenant.usage.mrCount.toUInt32 + requestedAmount)
  else if resourceType = 2 then
    decide (tenant.quota.maxMemoryPerTenant < tenant.usage.memoryUsed + requestedAmount.toUInt64)
  else if resourceType = 3 then
    decide (tenant.quota.maxCqPerTenant < tenant.usage.cqCount.toUInt32 + requestedAmount)
  else if resourceType = 4 then
    decide (tenant.quota.maxPdPerTenant < tenant.usage.pdCount.toUInt32 + requestedAmount)
  else false

/-- `true` when the request is to be refused; a tenant out of range refuses none.
SOURCE: shared_memory_tenant.c:502-559 -/
def tenantCheckResourceLimit (shm : TenantShm) (tenantId : UInt32) (resourceType : Int32)
    (requestedAmount : UInt32) (now : TimeT) : Bool × TenantShm :=
  if MAX_TENANTS ≤ tenantId.toNat then (false, shm)
  else
    let shm := tenantShmLock shm
    if (shm.tenant tenantId).status ≠ .active then (true, tenantShmUnlock shm now)
    else
      ((shm.tenant tenantId).exceeds resourceType requestedAmount, tenantShmUnlock shm now)

/-! ## Reports -/

/-- The ACTIVE records in the order of the array, `max_count` of them at most.
SOURCE: shared_memory_tenant.c:562-587 -/
def tenantGetActiveList (shm : TenantShm) (maxCount : Int32) (now : TimeT) :
    Option (List TenantInfo) × TenantShm :=
  if maxCount ≤ 0 then (none, shm)
  else
    let shm := tenantShmLock shm
    let active := ((List.finRange MAX_TENANTS).map shm.tenants).filter fun t => t.status = .active
    (some (active.take maxCount.toInt.toNat), tenantShmUnlock shm now)

/-- What it prints goes to `stderr` and is left out.
SOURCE: shared_memory_tenant.c:590-622 -/
def tenantPrintAll (shm : TenantShm) (now : TimeT) : TenantShm :=
  tenantShmUnlock (tenantShmLock shm) now

/-- The numbers of QP creations and MR registrations.
SOURCE: shared_memory_tenant.c:625-649 -/
def tenantGetStatistics (shm : TenantShm) (tenantId : UInt32) (now : TimeT) :
    Option (UInt64 × UInt64) × TenantShm :=
  if MAX_TENANTS ≤ tenantId.toNat then (none, shm)
  else
    let shm := tenantShmLock shm
    if (shm.tenant tenantId).status ≠ .active then (none, tenantShmUnlock shm now)
    else
      let usage := (shm.tenant tenantId).usage
      (some (usage.totalQpCreates, usage.totalMrRegs), tenantShmUnlock shm now)

/-! ## Sequences of operations -/

/-- A call of the tenant API that may change the segment. -/
inductive StoreOp
  | create (tenantId : UInt32) (name : Option (List UInt8)) (quota : Option TenantQuota)
  | delete (tenantId : UInt32)
  | setStatus (tenantId : UInt32) (status : TenantStatus)
  | updateQuota (tenantId : UInt32) (quota : TenantQuota)
  | bind (pid : Pid) (tenantId : UInt32)
  | unbind (pid : Pid)
  | updateUsage (tenantId : UInt32) (usage : TenantResourceUsage)

/-- Runs one call: its result and the segment it leaves. -/
def StoreOp.exec (shm : TenantShm) (now : TimeT) : StoreOp → Bool × TenantShm
  | .create t name quota => tenantCreate shm t name quota now
  | .delete t => tenantDelete shm t now
  | .setStatus t st => tenantSetStatus shm t st now
  | .updateQuota t q => tenantUpdateQuota shm t q now
  | .bind p t => tenantBindProcess shm p t now
  | .unbind p => tenantUnbindProcess shm p now
  | .updateUsage t u => tenantUpdateResourceUsage shm t u now

/-- The segments that the tenant API can produce from a newly created one. -/
inductive StoreReachable : TenantShm → Prop
  | init (now : TimeT) : StoreReachable (.fresh now)
  | step {shm : TenantShm} (op : StoreOp) (now : TimeT) :
      StoreReachable shm → StoreReachable (op.exec shm now).2

end RdmaIntercept.Model
