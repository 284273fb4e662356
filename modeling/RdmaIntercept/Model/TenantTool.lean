import RdmaIntercept.Library.CText
import RdmaIntercept.Model.DynamicPolicy
import RdmaIntercept.Model.Hooks
import RdmaIntercept.Model.SegmentRuns

/-!
# The command-line tool of the tenants

An invocation of the tool attaches to both segments, reads all its options and carries out one
command on the tenant segment.  The policies that it sets are variables of its own process and
end with it.  The options come as `getopt_long` delivers them; what is printed is left out, and
so is the thread that adjusts the limits, which finds `auto_adjust` off.

SOURCE: src/tenant_manager.c
-/

set_option autoImplicit false

namespace RdmaIntercept.Model

open RdmaIntercept.Library RdmaIntercept.Library.CText

/-! ## Options -/

/-- An option with its argument.
SOURCE: tenant_manager.c:226-240, 256-257 -/
inductive ToolOption
  | create (id : Bytes)
  | name (name : Bytes)
  | delete (id : Bytes)
  | status (id : Bytes)
  | list
  | bind (pid : Bytes)
  | unbind (pid : Bytes)
  | tenant (id : Bytes)
  | quota (quota : Bytes)
  | monitor
  | interval (seconds : Bytes)
  | help
  | unknown
  deriving DecidableEq, Repr

/-- SOURCE: tenant_manager.c:244-253 -/
structure ToolArgs where
  tenantId : UInt32
  pid : Pid
  name : Option Bytes
  quotaStr : Option Bytes
  interval : Int32
  createFlag : Bool
  deleteFlag : Bool
  statusFlag : Bool
  listFlag : Bool
  bindFlag : Bool
  unbindFlag : Bool
  monitorFlag : Bool
  deriving DecidableEq, Repr

def ToolArgs.start : ToolArgs :=
  ⟨0, 0, none, none, 5, false, false, false, false, false, false, false⟩

/-- The variables after an option, or the code with which the tool exits.
SOURCE: tenant_manager.c:258-306 -/
def ToolArgs.read (a : ToolArgs) : ToolOption → Except Int32 ToolArgs
  | .create id => .ok { a with createFlag := true, tenantId := (atoi id).toUInt32 }
  | .name name => .ok { a with name := some name }
  | .delete id => .ok { a with deleteFlag := true, tenantId := (atoi id).toUInt32 }
  | .status id => .ok { a with statusFlag := true, tenantId := (atoi id).toUInt32 }
  | .list => .ok { a with listFlag := true }
  | .bind pid => .ok { a with bindFlag := true, pid := atoi pid }
  | .unbind pid => .ok { a with unbindFlag := true, pid := atoi pid }
  | .tenant id => .ok { a with tenantId := (atoi id).toUInt32 }
  | .quota quota => .ok { a with quotaStr := some quota }
  | .monitor => .ok { a with monitorFlag := true }
  | .interval seconds => .ok { a with interval := atoi seconds }
  | .help => .error 0
  | .unknown => .error 1

/-- The loop over the options. -/
def ToolArgs.readAll : ToolArgs → List ToolOption → Except Int32 ToolArgs
  | a, [] => .ok a
  | a, option :: options =>
    match a.read option with
    | .ok a => a.readAll options
    | .error code => .error code

/-! ## Quotas -/

/-- `%u`, with what follows the number. -/
def scanQuotaNumber (b : Bytes) : Option (UInt32 × Bytes) :=
  (scanNumber b).map fun r => ((unsignedValue r.1 r.2.1).toUInt32, r.2.2)

/-- `sscanf(quota_str, "%u,%u,%u", &qp, &mr, &mem_mb)`, when it reads all three.
SOURCE: tenant_manager.c:53-54 -/
def scanQuota (b : Bytes) : Option (UInt32 × UInt32 × UInt32) := do
  let (qp, b) ← scanQuotaNumber b
  let b ← scanLiteral (text ",") b
  let (mr, b) ← scanQuotaNumber b
  let b ← scanLiteral (text ",") b
  let (memMb, _) ← scanQuotaNumber b
  return (qp, mr, memMb)

/-- The quota of a new tenant; `none` when the string cannot be read.
SOURCE: tenant_manager.c:43-62 -/
def toolQuota : Option Bytes → Option TenantQuota
  | none =>
    some
      { maxQpPerTenant := 100
        maxMrPerTenant := 1000
        maxMemoryPerTenant := 1024 * 1024 * 1024
        maxCqPerTenant := 100
        maxPdPerTenant := 100 }
  | some quotaStr =>
    (scanQuota quotaStr).map fun q =>
      { maxQpPerTenant := q.1
        maxMrPerTenant := q.2.1
        maxMemoryPerTenant := q.2.2.toUInt64 * 1024 * 1024
        maxCqPerTenant := 100
        maxPdPerTenant := 100 }

/-- SOURCE: tenant_manager.c:65-73 -/
def toolPolicy (tenantId : UInt32) (name : Option Bytes) (quota : TenantQuota) : TenantPolicy :=
  let limit (n : UInt32) : PolicyRule := { PolicyRule.zero with limit := ⟨n, n, 0⟩ }
  { TenantPolicy.zero with
    tenantId := tenantId
    tenantName := copyName name
    policy :=
      { DynamicPolicyConfig.zero with
        qpPolicy := limit quota.maxQpPerTenant
        mrPolicy := limit quota.maxMrPerTenant
        memoryPolicy := { PolicyRule.zero with limit := ⟨0, 0, quota.maxMemoryPerTenant⟩ } } }

/-! ## Commands -/

/-- How an invocation fares: whether `tenant_shm_init` maps the segment, the two steps of
`dynamic_policy_init` that may fail, and the readings of the clock, one for each round of the
monitor until it is stopped. -/
structure ToolEnv where
  tenantShmMapped : Bool
  shm : ShmInit
  threadCreated : Bool
  initNow : TimeT
  policyNow : TimeT
  now : TimeT
  rounds : List TimeT

/-- What a call that answers `0` or `-1` returns. -/
def returnCode (ok : Bool) : Int32 := if ok then 0 else -1

section Commands

variable (t : Thread) (env : ToolEnv) (shm : TenantShm)

/-- SOURCE: tenant_manager.c:42-77 -/
def cmdCreateTenant (tenantId : UInt32) (name quotaStr : Option Bytes) :
    PolicyM (Int32 × TenantShm) := do
  match toolQuota quotaStr with
  | none => return (-1, shm)
  | some quota =>
    let _ ← dynamicPolicySetTenantPolicy t tenantId (some (toolPolicy tenantId name quota)) env.now
    let (ok, shm) := tenantCreate shm tenantId name (some quota) env.now
    return (returnCode ok, shm)

/-- SOURCE: tenant_manager.c:80-84 -/
def cmdDeleteTenant (tenantId : UInt32) : PolicyM (Int32 × TenantShm) := do
  let _ ← dynamicPolicyDeleteTenantPolicy t tenantId
  let (ok, shm) := tenantDelete shm tenantId env.now
  return (returnCode ok, shm)

/-- SOURCE: tenant_manager.c:87-116 -/
def cmdShowStatus (tenantId : UInt32) : Int32 × TenantShm :=
  let (info, shm) := tenantGetInfo shm tenantId env.now
  (returnCode info.isSome, shm)

/-- SOURCE: tenant_manager.c:119-149 -/
def cmdListTenants : Int32 × TenantShm :=
  (0, (tenantGetActiveList shm (Int32.ofNat MAX_TENANTS) env.now).2)

/-- SOURCE: tenant_manager.c:152-154 -/
def cmdBindProcess (pid : Pid) (tenantId : UInt32) : Int32 × TenantShm :=
  let (ok, shm) := tenantBindProcess shm pid tenantId env.now
  (returnCode ok, shm)

/-- SOURCE: tenant_manager.c:157-159 -/
def cmdUnbindProcess (pid : Pid) : Int32 × TenantShm :=
  let (ok, shm) := tenantUnbindProcess shm pid env.now
  (returnCode ok, shm)

/-- SOURCE: tenant_manager.c:162-210 -/
def cmdMonitor : Int32 × TenantShm :=
  (0, env.rounds.foldl
    (fun shm now => (tenantGetActiveList shm (Int32.ofNat MAX_TENANTS) now).2) shm)

/-- The command of the flags.
SOURCE: tenant_manager.c:309-333 -/
def executeCommand (a : ToolArgs) : PolicyM (Int32 × TenantShm) := do
  if a.createFlag then
    if a.tenantId = 0 then return (1, shm)
    else cmdCreateTenant t env shm a.tenantId a.name a.quotaStr
  else if a.deleteFlag then cmdDeleteTenant t env shm a.tenantId
  else if a.statusFlag then return cmdShowStatus env shm a.tenantId
  else if a.listFlag then return cmdListTenants env shm
  else if a.bindFlag then
    if a.tenantId = 0 then return (1, shm) else return cmdBindProcess env shm a.pid a.tenantId
  else if a.unbindFlag then return cmdUnbindProcess env shm a.pid
  else if a.monitorFlag then return cmdMonitor env shm
  else return (0, shm)

/-- SOURCE: tenant_manager.c:212-334 -/
def toolMain (options : List ToolOption) : PolicyM (Int32 × TenantShm) := do
  if !env.tenantShmMapped then return (1, shm)
  else
    let shm := tenantShmInit shm env.initNow
    let ret ← dynamicPolicyInit t env.shm env.threadCreated env.policyNow
    if ret ≠ 0 then return (1, shm)
    else
      match ToolArgs.start.readAll options with
      | .error code => return (code, shm)
      | .ok a => executeCommand t env shm a

end Commands

/-! ## Runs -/

/-- The manager as a process starts with it. -/
def PolicyManager.unstarted (segment : SharedMemoryData) : PolicyManager where
  config := .zero
  running := false
  adjustThreads := 0
  attached := false
  segment := segment
  tenantPolicies := fun _ => .zero

/-- The two segments. -/
structure Segments where
  tenants : TenantShm
  processes : SharedMemoryData

/-- An invocation on its only calling thread: the exit code and the segments it leaves; `none` if
it does not get past a mutex. -/
def Segments.invoke (s : Segments) (env : ToolEnv) (options : List ToolOption) :
    Option (Int32 × Segments) :=
  match (toolMain 0 env s.tenants options).run ⟨LockM.allFree, .unstarted s.processes⟩ with
  | .ok (code, tenants) m => some (code, ⟨tenants, m.data.segment⟩)
  | .error _ _ => none

inductive AdminEvent
  /-- the tool is invoked -/
  | tool (env : ToolEnv) (options : List ToolOption)
  /-- another process calls the tenant API -/
  | tenants (op : StoreOp) (now : TimeT)
  /-- another process updates the process-resource segment -/
  | processes (op : ShmOp) (nowNs : UInt64)

/-- The segments, the exit codes of the invocations so far, and the process-resource segment as
it is when nobody invokes the tool. -/
structure AdminRun where
  segments : Segments
  codes : List (Option Int32)
  untouched : SharedMemoryData

def AdminRun.step (s : AdminRun) : AdminEvent → AdminRun
  | .tool env options =>
    match s.segments.invoke env options with
    | some (code, segments) => { s with segments := segments, codes := s.codes ++ [some code] }
    | none => { s with codes := s.codes ++ [none] }
  | .tenants op now =>
    { s with segments := { s.segments with tenants := (op.exec s.segments.tenants now).2 } }
  | .processes op nowNs =>
    { s with
      segments := { s.segments with processes := op.call s.segments.processes nowNs }
      untouched := op.call s.untouched nowNs }

def AdminRun.start (s : Segments) : AdminRun := ⟨s, [], s.processes⟩

end RdmaIntercept.Model
