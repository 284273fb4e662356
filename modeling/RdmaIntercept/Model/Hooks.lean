import RdmaIntercept.Model.SharedMemory

/-!
# The tenant hooks

The eight verbs that the library `librdma_intercept.so` intercepts, over the two shared
segments and the state of each process.  A hook is given the driver's answer as an
argument and reports in `driverCalls` whether, and with which arguments, it called the
driver; the answer is used only where the source calls the driver.  `pthread_once` has
run `initFunctionPointers` before the first hook of a process does anything else.

SOURCE: src/rdma_hooks_tenant.c, src/intercept_core.c, include/rdma_intercept.h
-/

set_option autoImplicit false

namespace RdmaIntercept.Model

open RdmaIntercept.Library

/-- A pointer; a creation answers `none` for `NULL`. -/
abbrev Handle := UInt64

/-- The values of `enum ibv_qp_type` that the library tells apart. -/
inductive QpType
  | rc
  | uc
  | ud
  | other
  deriving DecidableEq, Repr

/-- The fields of `struct ibv_qp_init_attr` that the library reads. -/
structure QpInitAttr where
  qpType : QpType
  maxSendWr : UInt32
  maxRecvWr : UInt32
  deriving DecidableEq, Repr

/-- The fields of `struct ibv_mr` that the library reads. -/
structure Mr where
  handle : Handle
  length : UInt64
  deriving DecidableEq, Repr

/-- The argument `resource_type` of `update_tenant_resource_count`: 0, 1, 3 and 4. -/
inductive ResourceKind
  | qp
  | mr
  | cq
  | pd
  deriving DecidableEq, Repr

/-- The arguments of the four creating verbs. -/
inductive CreateReq
  | qp (pd : Handle) (attr : QpInitAttr)
  | mr (pd addr : Handle) (length : UInt64) (access : Int32)
  | cq (context : Handle) (cqe : Int32) (cqContext channel : Handle) (compVector : Int32)
  | pd (context : Handle)
  deriving DecidableEq, Repr

/-- The arguments of the four destroying verbs. -/
inductive DestroyReq
  | qp (qp : Handle)
  | mr (mr : Option Mr)
  | cq (cq : Handle)
  | pd (pd : Handle)
  deriving DecidableEq, Repr

/-- A call of a verb, by the application or by the library. -/
inductive VerbsCall
  | create (req : CreateReq)
  | destroy (req : DestroyReq)
  deriving DecidableEq, Repr

def CreateReq.kind : CreateReq → ResourceKind
  | .qp .. => .qp
  | .mr .. => .mr
  | .cq .. => .cq
  | .pd .. => .pd

/-- The bytes a registration asks for. -/
def CreateReq.length : CreateReq → UInt64
  | .mr _ _ length _ => length
  | _ => 0

/-- SOURCE: rdma_intercept.h:47-73, the resource-control part -/
structure InterceptConfig where
  enableIntercept : Bool
  enableQpControl : Bool
  maxQpPerProcess : UInt32
  maxSendWrLimit : UInt32
  maxRecvWrLimit : UInt32
  allowRcQp : Bool
  allowUcQp : Bool
  allowUdQp : Bool
  allowRqQp : Bool
  maxGlobalQp : UInt32
  enableMrControl : Bool
  maxMrPerProcess : UInt32
  maxMemoryPerProcess : UInt64
  deriving DecidableEq, Repr

/-- SOURCE: intercept_core.c:25-46 -/
def InterceptConfig.default : InterceptConfig where
  enableIntercept := true
  enableQpControl := false
  maxQpPerProcess := 100
  maxSendWrLimit := 1024
  maxRecvWrLimit := 1024
  allowRcQp := true
  allowUcQp := true
  allowUdQp := true
  allowRqQp := true
  maxGlobalQp := 1000
  enableMrControl := false
  maxMrPerProcess := 1000
  maxMemoryPerProcess := 1024 * 1024 * 1024 * 10

/-- What one process keeps: `g_intercept_state`, the two flags and the function pointers of
`rdma_hooks_tenant.c`, and whether it has the process-resource segment mapped. -/
structure ProcState where
  initialized : Bool
  config : InterceptConfig
  qpCount : UInt32
  mrCount : UInt32
  memoryUsed : UInt64
  tenantInitialized : Bool
  shmAttached : Bool
  /-- `real_ibv_create_qp` and its three siblings are not `NULL` -/
  realCreate : ResourceKind → Bool
  /-- `real_ibv_destroy_qp` and its three siblings are not `NULL` -/
  realDestroy : ResourceKind → Bool

/-- A process in which no hook has run. -/
def ProcState.unstarted : ProcState :=
  ⟨false, .default, 0, 0, 0, false, false, fun _ => false, fun _ => false⟩

/-- The two segments, the processes and the two clocks. -/
structure System where
  tenantShm : TenantShm
  shm : SharedMemoryData
  proc : Pid → ProcState
  wallClock : TimeT
  monoClock : UInt64

inductive Errno
  | eperm
  | enosys
  deriving DecidableEq, Repr

/-- What a hook gives back: its result, the `errno` it sets and the driver calls it made. -/
structure Outcome (ρ : Type) where
  ret : ρ
  errno : Option Errno
  driverCalls : List VerbsCall
  deriving DecidableEq, Repr

/-- Writes to the variables of process `p`. -/
def System.setProc (s : System) (p : Pid) (st : ProcState) : System :=
  { s with proc := Function.update s.proc p st }

/-- SOURCE: intercept_core.c:199-201 -/
def rdmaInterceptIsEnabled (st : ProcState) : Bool := st.initialized && st.config.enableIntercept

/-! ## Reading and writing the segments from a process -/

/-- SOURCE: rdma_hooks_tenant.c:72-88 -/
def getProcessResourcesViaSharedMemory (s : System) (p : Pid) : Option ResourceUsage :=
  if (s.proc p).shmAttached then shmGetProcessResources s.shm p else none

/-- SOURCE: rdma_hooks_tenant.c:91-106 -/
def getGlobalResourcesViaSharedMemory (s : System) (p : Pid) : Option ResourceUsage :=
  if (s.proc p).shmAttached then some (shmGetGlobalResources s.shm) else none

/-- SOURCE: rdma_hooks_tenant.c:109-122 -/
def getCurrentTenantId (s : System) (p : Pid) : UInt32 × System :=
  if !(s.proc p).tenantInitialized then (0, s)
  else
    match tenantGetProcessTenant s.tenantShm p s.wallClock with
    | (none, shm) => (0, { s with tenantShm := shm })
    | (some tenantId, shm) => (tenantId, { s with tenantShm := shm })

/-- The `switch` of `update_tenant_resource_count`.
SOURCE: rdma_hooks_tenant.c:194-211 -/
def TenantResourceUsage.adjust (usage : TenantResourceUsage) (kind : ResourceKind)
    (delta : Int32) : TenantResourceUsage :=
  match kind with
  | .qp =>
    { usage with
      qpCount := usage.qpCount + delta
      totalQpCreates := if 0 < delta then usage.totalQpCreates + 1 else usage.totalQpCreates
      totalQpDestroys := if delta < 0 then usage.totalQpDestroys + 1 else usage.totalQpDestroys }
  | .mr =>
    { usage with
      mrCount := usage.mrCount + delta
      totalMrRegs := if 0 < delta then usage.totalMrRegs + 1 else usage.totalMrRegs
      totalMrDeregs := if delta < 0 then usage.totalMrDeregs + 1 else usage.totalMrDeregs }
  | .cq => { usage with cqCount := usage.cqCount + delta }
  | .pd => { usage with pdCount := usage.pdCount + delta }

/-- Reads the usage record in one critical section and writes it back in another.
SOURCE: rdma_hooks_tenant.c:184-214 -/
def updateTenantResourceCount (s : System) (p : Pid) (tenantId : UInt32) (kind : ResourceKind)
    (delta : Int32) : System :=
  if tenantId = 0 ∨ !(s.proc p).tenantInitialized then s
  else
    match tenantGetResourceUsage s.tenantShm tenantId s.wallClock with
    | (none, shm) => { s with tenantShm := shm }
    | (some usage, shm) =>
      let usage := usage.adjust kind delta
      { s with tenantShm := (tenantUpdateResourceUsage shm tenantId usage s.wallClock).2 }

/-! ## Admission checks -/

/-- SOURCE: rdma_hooks_tenant.c:217-233 -/
def checkTenantQpLimit (s : System) (p : Pid) (tenantId : UInt32) : Bool × System :=
  if tenantId = 0 ∨ !(s.proc p).tenantInitialized then (true, s)
  else
    match tenantGetInfo s.tenantShm tenantId s.wallClock with
    | (none, shm) => (false, { s with tenantShm := shm })
    | (some info, shm) =>
      (!(decide (info.quota.maxQpPerTenant ≤ info.usage.qpCount.toUInt32)),
        { s with tenantShm := shm })

/-- SOURCE: rdma_hooks_tenant.c:237-273 -/
def checkTenantMrLimitInline (s : System) (p : Pid) (tenantId : UInt32) (length : UInt64) :
    Bool × System :=
  if tenantId = 0 ∨ !(s.proc p).tenantInitialized then (true, s)
  else
    match tenantGetInfo s.tenantShm tenantId s.wallClock with
    | (none, shm) => (false, { s with tenantShm := shm })
    | (some info, shm) =>
      let s := { s with tenantShm := shm }
      if info.quota.maxMrPerTenant ≤ info.usage.mrCount.toUInt32 then (false, s)
      else if 0 < info.quota.maxMemoryPerTenant ∧
          info.quota.maxMemoryPerTenant < info.usage.memoryUsed + length then (false, s)
      else (true, s)

/-- SOURCE: rdma_hooks_tenant.c:288-309 -/
def qpTypeAllowed (config : InterceptConfig) : QpType → Bool
  | .rc => config.allowRcQp
  | .uc => config.allowUcQp
  | .ud => config.allowUdQp
  | .other => true

/-- The per-process part of the check; without the segment it is skipped.
SOURCE: rdma_hooks_tenant.c:327-338 -/
def processLimitOk (s : System) (p : Pid) : Bool :=
  match getProcessResourcesViaSharedMemory s p with
  | none => true
  | some usage => !(decide ((s.proc p).config.maxQpPerProcess < usage.qpCount.toUInt32 + 1))

/-- The global part of the check; without the segment it is skipped.
SOURCE: rdma_hooks_tenant.c:340-348 -/
def globalLimitOk (s : System) (p : Pid) : Bool :=
  match getGlobalResourcesViaSharedMemory s p with
  | none => true
  | some usage => !(decide ((s.proc p).config.maxGlobalQp ≤ usage.qpCount.toUInt32))

/-- SOURCE: rdma_hooks_tenant.c:276-351 -/
def checkQpCreationRestrictions (s : System) (p : Pid) (attr : QpInitAttr) : Bool × System :=
  let config := (s.proc p).config
  if !config.enableQpControl then (true, s)
  else if !qpTypeAllowed config attr.qpType then (false, s)
  else
    let (tenantId, s) := getCurrentTenantId s p
    let (ok, s) := checkTenantQpLimit s p tenantId
    if !ok then (false, s)
    else if !processLimitOk s p then (false, s)
    else if !globalLimitOk s p then (false, s)
    else (true, s)

/-! ## The hooks -/

/-- How every creating hook starts: it passes the call on when interception is off, and fails
with `ENOSYS` when the verb was not found in `libibverbs.so`. -/
def interceptCreate (s : System) (p : Pid) (req : CreateReq) (driver : Option Handle)
    (hook : Outcome (Option Handle) × System) : Outcome (Option Handle) × System :=
  if !rdmaInterceptIsEnabled (s.proc p) || !(s.proc p).realCreate req.kind then
    if (s.proc p).realCreate req.kind then (⟨driver, none, [.create req]⟩, s)
    else (⟨none, some .enosys, []⟩, s)
  else hook

def DestroyReq.kind : DestroyReq → ResourceKind
  | .qp .. => .qp
  | .mr .. => .mr
  | .cq .. => .cq
  | .pd .. => .pd

/-- How every destroying hook starts. -/
def interceptDestroy (s : System) (p : Pid) (req : DestroyReq) (driver : Int32)
    (hook : Outcome Int32 × System) : Outcome Int32 × System :=
  if !rdmaInterceptIsEnabled (s.proc p) || !(s.proc p).realDestroy req.kind then
    if (s.proc p).realDestroy req.kind then (⟨driver, none, [.destroy req]⟩, s)
    else (⟨-1, some .enosys, []⟩, s)
  else hook

/-- The local count after a QP has been created. -/
def ProcState.addQp (st : ProcState) : ProcState := { st with qpCount := st.qpCount + 1 }

/-- The local count after a QP has been destroyed, with its guard. -/
def ProcState.removeQp (st : ProcState) : ProcState :=
  if 0 < st.qpCount then { st with qpCount := st.qpCount - 1 } else st

/-- The local counts after a registration. -/
def ProcState.addMr (st : ProcState) (length : UInt64) : ProcState :=
  { st with mrCount := st.mrCount + 1, memoryUsed := st.memoryUsed + length }

/-- The local counts after a deregistration, each with its guard. -/
def ProcState.removeMr (st : ProcState) (length : UInt64) : ProcState :=
  let st := if 0 < st.mrCount then { st with mrCount := st.mrCount - 1 } else st
  if length ≤ st.memoryUsed then { st with memoryUsed := st.memoryUsed - length } else st

/-- The local counts after a creation; CQs and PDs are not counted. -/
def ProcState.addObj (st : ProcState) : CreateReq → ProcState
  | .qp .. => st.addQp
  | .mr _ _ length _ => st.addMr length
  | .cq .. => st
  | .pd .. => st

/-- The local counts after a destruction. -/
def ProcState.removeObj (st : ProcState) : DestroyReq → ProcState
  | .qp _ => st.removeQp
  | .mr mr => st.removeMr ((mr.map Mr.length).getD 0)
  | .cq _ => st
  | .pd _ => st

/-- The local counts as a record of the process-resource segment. -/
def ProcState.usage (st : ProcState) : ResourceUsage where
  qpCount := st.qpCount.toInt32
  mrCount := st.mrCount.toInt32
  memoryUsed := st.memoryUsed

/-- Publishes the local counts of a process in the process-resource segment.
SOURCE: rdma_hooks_tenant.c:377-383 -/
def publishProcessResources (s : System) (p : Pid) : System :=
  if (s.proc p).shmAttached then
    { s with shm := (shmUpdateProcessResources s.shm p (s.proc p).usage s.monoClock).2 }
  else s

/-- SOURCE: rdma_hooks_tenant.c:354-392 -/
def ibvCreateQp (s : System) (p : Pid) (pd : Handle) (attr : QpInitAttr)
    (driver : Option Handle) : Outcome (Option Handle) × System :=
  interceptCreate s p (.qp pd attr) driver <|
    let (ok, s) := checkQpCreationRestrictions s p attr
    if !ok then (⟨none, some .eperm, []⟩, s)
    else
      match driver with
      | none => (⟨none, none, [.create (.qp pd attr)]⟩, s)
      | some qp =>
        let s := s.setProc p (s.proc p).addQp
        let s := publishProcessResources s p
        let (tenantId, s) := getCurrentTenantId s p
        let s := updateTenantResourceCount s p tenantId .qp 1
        (⟨some qp, none, [.create (.qp pd attr)]⟩, s)

/-- SOURCE: rdma_hooks_tenant.c:395-422 -/
def ibvDestroyQp (s : System) (p : Pid) (qp : Handle) (driver : Int32) : Outcome Int32 × System :=
  interceptDestroy s p (.qp qp) driver <|
    if driver = 0 then
      let s := s.setProc p (s.proc p).removeQp
      let (tenantId, s) := getCurrentTenantId s p
      let s := updateTenantResourceCount s p tenantId .qp (-1)
      (⟨driver, none, [.destroy (.qp qp)]⟩, s)
    else (⟨driver, none, [.destroy (.qp qp)]⟩, s)

/-- `__real_ibv_reg_mr_tenant`.  The tenant that is charged is the one that was checked.
SOURCE: rdma_hooks_tenant.c:425-460 -/
def ibvRegMr (s : System) (p : Pid) (pd addr : Handle) (length : UInt64) (access : Int32)
    (driver : Option Handle) : Outcome (Option Handle) × System :=
  interceptCreate s p (.mr pd addr length access) driver <|
    let (tenantId, s) := getCurrentTenantId s p
    let (ok, s) := checkTenantMrLimitInline s p tenantId length
    if !ok then (⟨none, some .eperm, []⟩, s)
    else
      match driver with
      | none => (⟨none, none, [.create (.mr pd addr length access)]⟩, s)
      | some mr =>
        let s := s.setProc p ((s.proc p).addMr length)
        let s := updateTenantResourceCount s p tenantId .mr 1
        (⟨some mr, none, [.create (.mr pd addr length access)]⟩, s)

/-- `__real_ibv_dereg_mr_tenant`.
SOURCE: rdma_hooks_tenant.c:463-494 -/
def ibvDeregMr (s : System) (p : Pid) (mr : Option Mr) (driver : Int32) : Outcome Int32 × System :=
  interceptDestroy s p (.mr mr) driver <|
    let mrLength := (mr.map Mr.length).getD 0
    if driver = 0 then
      let s := s.setProc p ((s.proc p).removeMr mrLength)
      let (tenantId, s) := getCurrentTenantId s p
      let s := updateTenantResourceCount s p tenantId .mr (-1)
      (⟨driver, none, [.destroy (.mr mr)]⟩, s)
    else (⟨driver, none, [.destroy (.mr mr)]⟩, s)

/-- A creating hook that only counts: no check and no local counter. -/
def countCreate (s : System) (p : Pid) (req : CreateReq) (driver : Option Handle) :
    Outcome (Option Handle) × System :=
  interceptCreate s p req driver <|
    match driver with
    | none => (⟨none, none, [.create req]⟩, s)
    | some h =>
      let (tenantId, s) := getCurrentTenantId s p
      let s := updateTenantResourceCount s p tenantId req.kind 1
      (⟨some h, none, [.create req]⟩, s)

/-- A destroying hook that only counts. -/
def countDestroy (s : System) (p : Pid) (req : DestroyReq) (driver : Int32) :
    Outcome Int32 × System :=
  interceptDestroy s p req driver <|
    if driver = 0 then
      let (tenantId, s) := getCurrentTenantId s p
      let s := updateTenantResourceCount s p tenantId req.kind (-1)
      (⟨driver, none, [.destroy req]⟩, s)
    else (⟨driver, none, [.destroy req]⟩, s)

/-- SOURCE: rdma_hooks_tenant.c:497-519 -/
def ibvCreateCq (s : System) (p : Pid) (context : Handle) (cqe : Int32)
    (cqContext channel : Handle) (compVector : Int32) (driver : Option Handle) :
    Outcome (Option Handle) × System :=
  countCreate s p (.cq context cqe cqContext channel compVector) driver

/-- SOURCE: rdma_hooks_tenant.c:522-542 -/
def ibvDestroyCq (s : System) (p : Pid) (cq : Handle) (driver : Int32) : Outcome Int32 × System :=
  countDestroy s p (.cq cq) driver

/-- SOURCE: rdma_hooks_tenant.c:545-565 -/
def ibvAllocPd (s : System) (p : Pid) (context : Handle) (driver : Option Handle) :
    Outcome (Option Handle) × System :=
  countCreate s p (.pd context) driver

/-- SOURCE: rdma_hooks_tenant.c:568-587 -/
def ibvDeallocPd (s : System) (p : Pid) (pd : Handle) (driver : Int32) : Outcome Int32 × System :=
  countDestroy s p (.pd pd) driver

/-- The creating verb that a request calls. -/
def ibvCreate (s : System) (p : Pid) (req : CreateReq) (driver : Option Handle) :
    Outcome (Option Handle) × System :=
  match req with
  | .qp pd attr => ibvCreateQp s p pd attr driver
  | .mr pd addr length access => ibvRegMr s p pd addr length access driver
  | .cq context cqe cqContext channel compVector =>
    ibvCreateCq s p context cqe cqContext channel compVector driver
  | .pd context => ibvAllocPd s p context driver

/-- The destroying verb that a request calls. -/
def ibvDestroy (s : System) (p : Pid) (req : DestroyReq) (driver : Int32) :
    Outcome Int32 × System :=
  match req with
  | .qp qp => ibvDestroyQp s p qp driver
  | .mr mr => ibvDeregMr s p mr driver
  | .cq cq => ibvDestroyCq s p cq driver
  | .pd pd => ibvDeallocPd s p pd driver

/-! ## Start-up -/

/-- What a starting process finds in its environment.  `ebpf_monitor_init` is not part of the
repository: of it the hooks use that it may map the process-resource segment, which its
second component tells. -/
structure StartEnv where
  /-- `init_if_needed` has set `g_intercept_state.initialized` -/
  initialized : Bool
  config : InterceptConfig
  /-- `dlopen("libibverbs.so")` succeeds -/
  libibverbs : Bool
  realCreate : ResourceKind → Bool
  realDestroy : ResourceKind → Bool
  ebpfMonitorInit : SharedMemoryData → SharedMemoryData × Bool
  /-- `tenant_shm_init` answers `0` -/
  tenantShmMapped : Bool
  /-- `atoi(getenv("RDMA_TENANT_ID"))`, if the variable is set -/
  tenantEnv : Option UInt32

/-- SOURCE: shared_memory_tenant.c:60-72, after the mapping has succeeded -/
def tenantShmInit (shm : TenantShm) (now : TimeT) : TenantShm :=
  if shm.version = 0 then .fresh now else shm

/-- The start-up code of the hooks.
SOURCE: rdma_hooks_tenant.c:125-181 -/
def initFunctionPointers (s : System) (p : Pid) (env : StartEnv) : System :=
  let st : ProcState :=
    { ProcState.unstarted with initialized := env.initialized, config := env.config }
  if !env.libibverbs then s.setProc p st
  else
    let (shm, attached) := env.ebpfMonitorInit s.shm
    let s := { s with shm := shm }
    let s :=
      if env.tenantShmMapped then
        { s with tenantShm := tenantShmInit s.tenantShm s.wallClock }
      else s
    let s := s.setProc p
      { st with
        realCreate := env.realCreate
        realDestroy := env.realDestroy
        shmAttached := attached
        tenantInitialized := env.tenantShmMapped }
    match env.tenantEnv with
    | none => s
    | some tenantId =>
      if env.tenantShmMapped ∧ 0 < tenantId then
        { s with tenantShm := (tenantBindProcess s.tenantShm p tenantId s.wallClock).2 }
      else s

end RdmaIntercept.Model
