import RdmaIntercept.Library.CText
import RdmaIntercept.Library.Mutex
import RdmaIntercept.Library.Runs
import RdmaIntercept.Model.SharedMemory

/-!
# The dynamic policy manager

The policy configuration of a process under `g_policy_mutex`, the policies of the tenants
under `g_tenant_mutex`, the file that configures the former, and the thread that adjusts it.
Calls come one after the other, each on some thread.  What is printed to `stderr` is left
out; the rates that `dynamic_policy_adjust` computes are only printed.

SOURCE: include/dynamic_policy.h, src/dynamic_policy_manager.c
-/

set_option autoImplicit false

namespace RdmaIntercept.Model

open RdmaIntercept.Library RdmaIntercept.Library.CText RdmaIntercept.Library.LockM

/-- SOURCE: dynamic_policy.h:9-13 -/
inductive PolicyType
  | static
  | dynamic
  | adaptive
  deriving DecidableEq, Repr

/-- SOURCE: dynamic_policy.h:16-22 -/
inductive ResourceType
  | qp
  | mr
  | cq
  | pd
  | memory
  deriving DecidableEq, Repr

/-- The cases of a `switch` on a resource; `none` is its `default`. -/
def ResourceType.ofInt (resource : Int32) : Option ResourceType :=
  if resource = 0 then some .qp
  else if resource = 1 then some .mr
  else if resource = 2 then some .cq
  else if resource = 3 then some .pd
  else if resource = 4 then some .memory
  else none

def ResourceType.toUInt32 : ResourceType → UInt32
  | .qp => 0
  | .mr => 1
  | .cq => 2
  | .pd => 3
  | .memory => 4

/-- SOURCE: dynamic_policy.h:25-29 -/
structure ResourceLimit where
  maxPerProcess : UInt32
  maxGlobal : UInt32
  maxMemory : UInt64
  deriving DecidableEq, Repr

/-- SOURCE: dynamic_policy.h:32-41 -/
structure PolicyRule where
  ruleId : UInt32
  policyType : PolicyType
  resource : ResourceType
  limit : ResourceLimit
  priority : UInt32
  createdAt : TimeT
  expiresAt : TimeT
  enabled : Bool
  deriving DecidableEq, Repr

/-- SOURCE: dynamic_policy.h:44-56 -/
structure DynamicPolicyConfig where
  qpPolicy : PolicyRule
  mrPolicy : PolicyRule
  cqPolicy : PolicyRule
  pdPolicy : PolicyRule
  memoryPolicy : PolicyRule
  autoAdjust : Bool
  adjustInterval : UInt32
  highWatermark : Float32
  lowWatermark : Float32

/-- The name is its bytes before the terminating NUL.
SOURCE: dynamic_policy.h:59-64 -/
structure TenantPolicy where
  tenantId : UInt32
  tenantName : Bytes
  policy : DynamicPolicyConfig
  lastUpdated : TimeT

/-! ## All-zero records, as `memset` writes them -/

def PolicyRule.zero : PolicyRule := ⟨0, .static, .qp, ⟨0, 0, 0⟩, 0, 0, 0, false⟩

def DynamicPolicyConfig.zero : DynamicPolicyConfig :=
  ⟨.zero, .zero, .zero, .zero, .zero, false, 0, 0, 0⟩

def TenantPolicy.zero : TenantPolicy := ⟨0, [], .zero, 0⟩

/-! ## Rules and defaults -/

/-- The rule of a resource. -/
def DynamicPolicyConfig.rule (c : DynamicPolicyConfig) : ResourceType → PolicyRule
  | .qp => c.qpPolicy
  | .mr => c.mrPolicy
  | .cq => c.cqPolicy
  | .pd => c.pdPolicy
  | .memory => c.memoryPolicy

/-- The rule of a resource is written. -/
def DynamicPolicyConfig.modifyRule (c : DynamicPolicyConfig) (resource : ResourceType)
    (f : PolicyRule → PolicyRule) : DynamicPolicyConfig :=
  match resource with
  | .qp => { c with qpPolicy := f c.qpPolicy }
  | .mr => { c with mrPolicy := f c.mrPolicy }
  | .cq => { c with cqPolicy := f c.cqPolicy }
  | .pd => { c with pdPolicy := f c.pdPolicy }
  | .memory => { c with memoryPolicy := f c.memoryPolicy }

/-- SOURCE: dynamic_policy_manager.c:26-35 -/
def initDefaultRule (resource : ResourceType) (now : TimeT) : PolicyRule where
  ruleId := resource.toUInt32
  policyType := .static
  resource := resource
  limit := ⟨0, 0, 0⟩
  priority := 1
  createdAt := now
  expiresAt := 0
  enabled := true

/-- `now` is what `time(NULL)` answers for each of the rules.
SOURCE: dynamic_policy_manager.c:18-23, 38-70 -/
def setDefaultConfig (now : TimeT) : DynamicPolicyConfig where
  qpPolicy := { initDefaultRule .qp now with limit := ⟨100, 1000, 0⟩ }
  mrPolicy := { initDefaultRule .mr now with limit := ⟨1000, 10000, 0⟩ }
  cqPolicy := { initDefaultRule .cq now with limit := ⟨100, 1000, 0⟩ }
  pdPolicy := { initDefaultRule .pd now with limit := ⟨100, 1000, 0⟩ }
  memoryPolicy := { initDefaultRule .memory now with limit := ⟨0, 0, 10 * 1024 * 1024 * 1024⟩ }
  autoAdjust := false
  adjustInterval := 60
  highWatermark := 0.8
  lowWatermark := 0.2

/-! ## The configuration file -/

/-- The key and the value that `sscanf(line, "%63s %u", key, &val)` reads. -/
def scanPolicyLine (line : Bytes) : Option (Bytes × UInt32) :=
  match scanWord 63 line with
  | none => none
  | some (key, rest) => (scanUnsigned rest).map fun val => (key, val)

/-- The value of a key is stored; other keys are passed over.
SOURCE: dynamic_policy_manager.c:159-174 -/
def applyPolicySetting (c : DynamicPolicyConfig) (key : Bytes) (val : UInt32) :
    DynamicPolicyConfig :=
  if key = text "max_qp_per_process" then
    c.modifyRule .qp fun r => { r with limit := { r.limit with maxPerProcess := val } }
  else if key = text "max_global_qp" then
    c.modifyRule .qp fun r => { r with limit := { r.limit with maxGlobal := val } }
  else if key = text "max_mr_per_process" then
    c.modifyRule .mr fun r => { r with limit := { r.limit with maxPerProcess := val } }
  else if key = text "max_global_mr" then
    c.modifyRule .mr fun r => { r with limit := { r.limit with maxGlobal := val } }
  else if key = text "max_memory_mb" then
    c.modifyRule .memory fun r =>
      { r with limit := { r.limit with maxMemory := val.toUInt64 * 1024 * 1024 } }
  else if key = text "auto_adjust" then { c with autoAdjust := val ≠ 0 }
  else if key = text "adjust_interval" then { c with adjustInterval := val }
  else c

/-- The setting in a line; comments and empty lines have none.
SOURCE: dynamic_policy_manager.c:153-158 -/
def policySetting (line : Bytes) : Option (Bytes × UInt32) :=
  if line.head? = some 35 ∨ line.head? = some 10 then none
  else scanPolicyLine (terminated line)

def applyPolicyLine (c : DynamicPolicyConfig) (line : Bytes) : DynamicPolicyConfig :=
  match policySetting line with
  | some (key, val) => applyPolicySetting c key val
  | none => c

/-- SOURCE: dynamic_policy_manager.c:151-176 -/
def loadPolicyFile (c : DynamicPolicyConfig) (file : Bytes) : DynamicPolicyConfig :=
  (fgetsLines 256 file).foldl applyPolicyLine c

/-- What is written to the file.
SOURCE: dynamic_policy_manager.c:197-205 -/
def policyFile (c : DynamicPolicyConfig) : Bytes :=
  text "# RDMA Dynamic Policy Configuration\n" ++
  text "max_qp_per_process " ++ decimal c.qpPolicy.limit.maxPerProcess.toNat ++ text "\n" ++
  text "max_global_qp " ++ decimal c.qpPolicy.limit.maxGlobal.toNat ++ text "\n" ++
  text "max_mr_per_process " ++ decimal c.mrPolicy.limit.maxPerProcess.toNat ++ text "\n" ++
  text "max_global_mr " ++ decimal c.mrPolicy.limit.maxGlobal.toNat ++ text "\n" ++
  text "max_memory_mb " ++ decimal (c.memoryPolicy.limit.maxMemory / (1024 * 1024)).toNat ++
  text "\n" ++
  text "auto_adjust " ++ decimal (if c.autoAdjust then 1 else 0) ++ text "\n" ++
  text "adjust_interval " ++ decimal c.adjustInterval.toNat ++ text "\n"

/-! ## The manager -/

abbrev Thread : Type := ℕ

/-- SOURCE: dynamic_policy_manager.c:13, 433 -/
inductive PolicyMutex
  | policy
  | tenant
  deriving DecidableEq, Repr

/-- The variables of the manager, and the process-resource segment with the test whether the
process has it mapped.  `adjustThreads` counts the threads that run `adjust_thread_func`.
SOURCE: dynamic_policy_manager.c:12-15, 432 -/
structure PolicyManager where
  config : DynamicPolicyConfig
  running : Bool
  adjustThreads : ℕ
  attached : Bool
  segment : SharedMemoryData
  tenantPolicies : Fin MAX_TENANTS → TenantPolicy

abbrev PolicyM (α : Type) : Type := LockM PolicyMutex Thread PolicyManager α

/-- How `shm_init` fares. -/
inductive ShmInit
  | openFails
  | truncateFails
  | mapFails
  | succeeds (nowNs : UInt64)
  deriving DecidableEq, Repr

/-- `shm_init`; a mapping that an earlier call has made is lost when the new one fails.
SOURCE: shm/shared_memory.c:25-85 -/
def PolicyManager.shmInit (s : PolicyManager) : ShmInit → Bool × PolicyManager
  | .openFails => (false, s)
  | .truncateFails => (false, s)
  | .mapFails => (false, { s with attached := false })
  | .succeeds nowNs =>
    (true, { s with attached := true, segment := Model.shmInit s.segment nowNs })

/-- The limits of the configuration are stored into the segment, if there is one; nobody
looks at the result.
SOURCE: dynamic_policy_manager.c:242-246, shm/shared_memory.c:222-236 -/
def PolicyManager.syncGlobalLimits (s : PolicyManager) : PolicyManager :=
  if s.attached then
    { s with
      segment :=
        shmSetGlobalLimits s.segment s.config.qpPolicy.limit.maxGlobal
          s.config.mrPolicy.limit.maxGlobal s.config.memoryPolicy.limit.maxMemory }
  else s

/-- `shm_get_global_resources`; the argument keeps `unset` when no segment is mapped. -/
def PolicyManager.globalUsage (s : PolicyManager) (unset : ResourceUsage) : ResourceUsage :=
  if s.attached then shmGetGlobalResources s.segment else unset

/-- The configuration is written. -/
def changeConfig (f : DynamicPolicyConfig → DynamicPolicyConfig) : PolicyM Unit :=
  change fun s => { s with config := f s.config }

section Calls

variable (t : Thread)

/-- SOURCE: dynamic_policy_manager.c:92-125 -/
def dynamicPolicyInit (shm : ShmInit) (threadCreated : Bool) (now : TimeT) : PolicyM Int32 := do
  lock t .policy
  changeConfig fun _ => setDefaultConfig now
  let opened ← access fun s => s.shmInit shm
  if !opened then
    unlock .policy
    return -1
  else
    change PolicyManager.syncGlobalLimits
    unlock .policy
    change fun s => { s with running := true }
    if !threadCreated then return -1
    else
      change fun s => { s with adjustThreads := s.adjustThreads + 1 }
      return 0

/-- `pthread_join` waits until the thread that was created last has left its loop.
SOURCE: dynamic_policy_manager.c:128-137 -/
def dynamicPolicyCleanup : PolicyM Unit := do
  change fun s => { s with running := false }
  change fun s => { s with adjustThreads := s.adjustThreads - 1 }
  lock t .policy
  changeConfig fun _ => .zero
  unlock .policy

/-- `file` is `none` when the file cannot be opened.
SOURCE: dynamic_policy_manager.c:140-182 -/
def dynamicPolicyLoadConfig (file : Option Bytes) : PolicyM Int32 := do
  match file with
  | none => return -1
  | some file =>
    lock t .policy
    changeConfig fun c => loadPolicyFile c file
    unlock .policy
    return 0

/-- The file that is written, when it can be opened.
SOURCE: dynamic_policy_manager.c:185-212 -/
def dynamicPolicySaveConfig (opens : Bool) : PolicyM (Int32 × Option Bytes) := do
  lock t .policy
  if !opens then
    unlock .policy
    return (-1, none)
  else
    let file ← look fun s => policyFile s.config
    unlock .policy
    return (0, some file)

/-- SOURCE: dynamic_policy_manager.c:215-252 -/
def dynamicPolicySetLimit (resource : Int32) (limit : Option ResourceLimit) : PolicyM Int32 := do
  match limit with
  | none => return -1
  | some limit =>
    lock t .policy
    match ResourceType.ofInt resource with
    | none =>
      unlock .policy
      return -1
    | some resource =>
      changeConfig fun c => c.modifyRule resource fun r => { r with limit := limit }
      change PolicyManager.syncGlobalLimits
      unlock .policy
      return 0

/-- The limit, when it is found; `wanted` tells that the caller has given a place for it.
SOURCE: dynamic_policy_manager.c:255-283 -/
def dynamicPolicyGetLimit (resource : Int32) (wanted : Bool) : PolicyM (Option ResourceLimit) := do
  if !wanted then return none
  else
    lock t .policy
    match ResourceType.ofInt resource with
    | none =>
      unlock .policy
      return none
    | some resource =>
      let limit ← look fun s => (s.config.rule resource).limit
      unlock .policy
      return some limit

/-- `true` when a limit is exceeded.
SOURCE: dynamic_policy_manager.c:286-320 -/
def dynamicPolicyCheckLimit (resource : Int32) (currentUsage requestedAmount : UInt32)
    (unset : ResourceUsage) : PolicyM Bool := do
  match ← dynamicPolicyGetLimit t resource true with
  | none => return false
  | some limit =>
    let globalUsage ← look fun s => s.globalUsage unset
    let globalCurrent :=
      if resource = 0 then globalUsage.qpCount.toUInt32
      else if resource = 1 then globalUsage.mrCount.toUInt32
      else 0
    if limit.maxGlobal < globalCurrent + requestedAmount then return true
    else if limit.maxPerProcess < currentUsage + requestedAmount then return true
    else return false

/-- SOURCE: dynamic_policy_manager.c:323-340 -/
def dynamicPolicyUpdate (config : Option DynamicPolicyConfig) : PolicyM Int32 := do
  match config with
  | none => return -1
  | some config =>
    lock t .policy
    changeConfig fun _ => config
    change PolicyManager.syncGlobalLimits
    unlock .policy
    return 0

/-- SOURCE: dynamic_policy_manager.c:343-351 -/
def dynamicPolicyGetConfig (wanted : Bool) : PolicyM (Option DynamicPolicyConfig) := do
  if !wanted then return none
  else
    lock t .policy
    let config ← look PolicyManager.config
    unlock .policy
    return some config

/-- SOURCE: dynamic_policy_manager.c:359-368 -/
def DynamicPolicyConfig.withAutoAdjust (c : DynamicPolicyConfig) (enable : Bool)
    (interval : UInt32) (highWatermark lowWatermark : Float32) : DynamicPolicyConfig :=
  { c with
    autoAdjust := enable
    adjustInterval := if 0 < interval then interval else c.adjustInterval
    highWatermark :=
      if 0 < highWatermark ∧ highWatermark ≤ 1 then highWatermark else c.highWatermark
    lowWatermark := if 0 ≤ lowWatermark ∧ lowWatermark < 1 then lowWatermark else c.lowWatermark }

/-- SOURCE: dynamic_policy_manager.c:354-376 -/
def dynamicPolicySetAutoAdjust (enable : Bool) (interval : UInt32)
    (highWatermark lowWatermark : Float32) : PolicyM Int32 := do
  lock t .policy
  changeConfig fun c => c.withAutoAdjust enable interval highWatermark lowWatermark
  unlock .policy
  return 0

/-- SOURCE: dynamic_policy_manager.c:379-403 -/
def dynamicPolicyAdjust : PolicyM Int32 := do
  lock t .policy
  unlock .policy
  return 0

/-- SOURCE: dynamic_policy_manager.c:406-429 -/
def dynamicPolicyPrintConfig : PolicyM Unit := do
  lock t .policy
  unlock .policy

/-- SOURCE: dynamic_policy_manager.c:543-571 -/
def dynamicPolicyEnableRule (resource : Int32) (enable : Bool) : PolicyM Int32 := do
  lock t .policy
  match ResourceType.ofInt resource with
  | none =>
    unlock .policy
    return -1
  | some resource =>
    changeConfig fun c => c.modifyRule resource fun r => { r with enabled := enable }
    unlock .policy
    return 0

/-- SOURCE: dynamic_policy_manager.c:574-581 -/
def dynamicPolicySetDefault (now : TimeT) : PolicyM Int32 := do
  lock t .policy
  changeConfig fun _ => setDefaultConfig now
  unlock .policy
  return 0

/-- One turn of the loop of the adjusting thread, after its sleep.
SOURCE: dynamic_policy_manager.c:73-89 -/
def adjustThreadTick : PolicyM Unit := do
  let s ← look id
  if s.adjustThreads = 0 then return ()
  else if !s.running then change fun s => { s with adjustThreads := s.adjustThreads - 1 }
  else if s.config.autoAdjust then
    lock t .policy
    let _ ← dynamicPolicyAdjust t
    unlock .policy
  else return ()

/-! ## The policies of the tenants -/

/-- `g_tenant_policies[tenant_id] = ..` -/
def PolicyManager.setTenantPolicy (s : PolicyManager) (tenantId : UInt32)
    (policy : TenantPolicy) : PolicyManager :=
  { s with tenantPolicies := Function.update s.tenantPolicies (tenantSlot tenantId) policy }

/-- SOURCE: dynamic_policy_manager.c:436-446 -/
def dynamicPolicySetTenantPolicy (tenantId : UInt32) (policy : Option TenantPolicy)
    (now : TimeT) : PolicyM Int32 := do
  match policy with
  | none => return -1
  | some policy =>
    if 64 ≤ tenantId then return -1
    else
      lock t .tenant
      change fun s => s.setTenantPolicy tenantId { policy with lastUpdated := now }
      unlock .tenant
      return 0

/-- SOURCE: dynamic_policy_manager.c:449-457 -/
def dynamicPolicyGetTenantPolicy (tenantId : UInt32) (wanted : Bool) :
    PolicyM (Option TenantPolicy) := do
  if !wanted ∨ 64 ≤ tenantId then return none
  else
    lock t .tenant
    let policy ← look fun s => s.tenantPolicies (tenantSlot tenantId)
    unlock .tenant
    return some policy

/-- SOURCE: dynamic_policy_manager.c:460-469 -/
def dynamicPolicyDeleteTenantPolicy (tenantId : UInt32) : PolicyM Int32 := do
  if 64 ≤ tenantId then return -1
  else
    lock t .tenant
    change fun s => s.setTenantPolicy tenantId .zero
    unlock .tenant
    return 0

/-- `true` when the limit is exceeded.
SOURCE: dynamic_policy_manager.c:472-521 -/
def dynamicPolicyCheckTenantLimit (tenantId : UInt32) (resource : Int32)
    (currentUsage requestedAmount : UInt32) : PolicyM Bool := do
  if 64 ≤ tenantId then return false
  else
    match ← dynamicPolicyGetTenantPolicy t tenantId true with
    | none => return false
    | some policy =>
      match ResourceType.ofInt resource with
      | none => return false
      | some resource =>
        let limit := (policy.policy.rule resource).limit
        return decide (limit.maxPerProcess < currentUsage + requestedAmount)

/-- The policies that are in use, or the first of them when they do not fit.
SOURCE: dynamic_policy_manager.c:524-540 -/
def dynamicPolicyGetAllTenantPolicies (wanted : Bool) (maxCount : Int32) :
    PolicyM (Option (List TenantPolicy)) := do
  if !wanted ∨ maxCount ≤ 0 then return none
  else
    lock t .tenant
    let policies ← look fun s =>
      ((List.finRange MAX_TENANTS).map s.tenantPolicies).filter fun policy => policy.tenantId ≠ 0
    unlock .tenant
    return some (policies.take maxCount.toInt.toNat)

end Calls

/-! ## Runs -/

/-- The calls that write the configuration or the limits of the segment. -/
inductive PolicyOp
  | init (shm : ShmInit) (threadCreated : Bool) (now : TimeT)
  | setLimit (resource : Int32) (limit : Option ResourceLimit)
  | update (config : Option DynamicPolicyConfig)
  | loadConfig (file : Option Bytes)
  | setDefault (now : TimeT)
  | setAutoAdjust (enable : Bool) (interval : UInt32) (highWatermark lowWatermark : Float32)
  | enableRule (resource : Int32) (enable : Bool)

def PolicyOp.exec (t : Thread) : PolicyOp → PolicyM Int32
  | .init shm threadCreated now => dynamicPolicyInit t shm threadCreated now
  | .setLimit resource limit => dynamicPolicySetLimit t resource limit
  | .update config => dynamicPolicyUpdate t config
  | .loadConfig file => dynamicPolicyLoadConfig t file
  | .setDefault now => dynamicPolicySetDefault t now
  | .setAutoAdjust enable interval high low => dynamicPolicySetAutoAdjust t enable interval high low
  | .enableRule resource enable => dynamicPolicyEnableRule t resource enable

/-- A call of the manager, or a turn of the loop of an adjusting thread. -/
inductive PolicyCall
  | op (o : PolicyOp)
  | cleanup
  | saveConfig (opens : Bool)
  | getLimit (resource : Int32) (wanted : Bool)
  | checkLimit (resource : Int32) (currentUsage requestedAmount : UInt32) (unset : ResourceUsage)
  | getConfig (wanted : Bool)
  | adjust
  | printConfig
  | setTenantPolicy (tenantId : UInt32) (policy : Option TenantPolicy) (now : TimeT)
  | getTenantPolicy (tenantId : UInt32) (wanted : Bool)
  | deleteTenantPolicy (tenantId : UInt32)
  | checkTenantLimit (tenantId : UInt32) (resource : Int32) (currentUsage requestedAmount : UInt32)
  | getAllTenantPolicies (wanted : Bool) (maxCount : Int32)
  | tick

/-- The call on thread `t`, without its result. -/
def PolicyCall.exec (t : Thread) : PolicyCall → PolicyM Unit
  | .op o => discard (o.exec t)
  | .cleanup => dynamicPolicyCleanup t
  | .saveConfig opens => discard (dynamicPolicySaveConfig t opens)
  | .getLimit resource wanted => discard (dynamicPolicyGetLimit t resource wanted)
  | .checkLimit resource current requested unset =>
    discard (dynamicPolicyCheckLimit t resource current requested unset)
  | .getConfig wanted => discard (dynamicPolicyGetConfig t wanted)
  | .adjust => discard (dynamicPolicyAdjust t)
  | .printConfig => dynamicPolicyPrintConfig t
  | .setTenantPolicy tenantId policy now =>
    discard (dynamicPolicySetTenantPolicy t tenantId policy now)
  | .getTenantPolicy tenantId wanted => discard (dynamicPolicyGetTenantPolicy t tenantId wanted)
  | .deleteTenantPolicy tenantId => discard (dynamicPolicyDeleteTenantPolicy t tenantId)
  | .checkTenantLimit tenantId resource current requested =>
    discard (dynamicPolicyCheckTenantLimit t tenantId resource current requested)
  | .getAllTenantPolicies wanted maxCount =>
    discard (dynamicPolicyGetAllTenantPolicies t wanted maxCount)
  | .tick => adjustThreadTick t

abbrev PolicySystem : Type := Locked PolicyMutex Thread PolicyManager

/-- The state that a call leaves, also when its thread does not get past a lock. -/
def PolicySystem.step (s : PolicySystem) (e : Thread × PolicyCall) : PolicySystem :=
  match (e.2.exec e.1).run s with
  | .ok _ s => s
  | .error _ s => s

/-- A process in which the manager was not used yet. -/
def PolicySystem.unstarted (segment : SharedMemoryData) : PolicySystem :=
  ⟨allFree, ⟨.zero, false, 0, false, segment, fun _ => .zero⟩⟩

end RdmaIntercept.Model
