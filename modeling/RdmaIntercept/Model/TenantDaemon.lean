import RdmaIntercept.Library.Json
import RdmaIntercept.Model.TenantShm

/-!
# The tenant manager daemon

What `tenant_manager_daemon` does with one message: the JSON command is dispatched to its
handler, which calls the tenant API and answers with one JSON object.  `parse` is
`json_tokener_parse`, `Json.null` where it answers `NULL`; `now` is what `time(NULL)` and
`monotonic` what `CLOCK_MONOTONIC` (in nanoseconds) answers meanwhile.

SOURCE: src/tenant_manager_daemon.c
-/

set_option autoImplicit false

namespace RdmaIntercept.Model

open RdmaIntercept.Library RdmaIntercept.Library.CText

/-! ## Answers -/

/-- The arguments of `build_response`. -/
structure Response where
  success : Bool
  message : Bytes
  data : Option Json := none

def Response.toJson (r : Response) : Json :=
  .object ([(text "success", .boolean r.success), (text "message", .string r.message)] ++
    (r.data.map fun data => (text "data", data)).toList)

/-- SOURCE: tenant_manager_daemon.c:118-130 -/
def buildResponse (r : Response) : Bytes := r.toJson.print

/-- How a handler has ended.  `response` is `none` when the daemon has been stopped by
`strcmp`, which reads through the null pointer it is given; `nullString` says that a null
pointer was passed where a string is required. -/
structure CommandRun where
  response : Option Response
  nullString : Bool
  shm : TenantShm

/-- A handler that ends in `build_response`. -/
def answer (shm : TenantShm) (success : Bool) (message : Bytes) (data : Option Json) :
    CommandRun :=
  ⟨some ⟨success, message, data⟩, false, shm⟩

def refuse (shm : TenantShm) (message : String) : CommandRun := answer shm false (text message) none

/-! ## Reading a command -/

/-- `json_object_object_get_ex(o, name, &m) ? json_object_get_int(m) : default`. -/
def intMember (o : Json) (name : String) (default : Int32) : Int32 :=
  match o.getEx (text name) with
  | some m => m.getInt
  | none => default

/-- The member `memory`, 1 GiB without one.
SOURCE: tenant_manager_daemon.c:145-146, 192-193 -/
def memoryMember (o : Json) : UInt64 :=
  match o.getEx (text "memory") with
  | some m => m.getInt64.toUInt64
  | none => 1073741824

/-- The quota that a command asks for.
SOURCE: tenant_manager_daemon.c:148-154, 195-201 -/
def quotaOf (qp mr : Int32) (memory : UInt64) : TenantQuota where
  maxQpPerTenant := qp.toUInt32
  maxMrPerTenant := mr.toUInt32
  maxMemoryPerTenant := memory
  maxCqPerTenant := qp.toUInt32
  maxPdPerTenant := 10

/-- `snprintf(msg, sizeof(msg), "<before>%u<after>", tenant_id)`. -/
def tenantMessage (before : String) (tenantId : UInt32) (after : String) : Bytes :=
  snprintf 256 (text before ++ decimal tenantId.toNat ++ text after)

/-! ## Commands -/

/-- SOURCE: tenant_manager_daemon.c:163-170 -/
def stampUpdate (shm : TenantShm) (monotonic : UInt64) : TenantShm :=
  { shm with lastUpdateTime := monotonic, version := shm.version + 1 }

/-- SOURCE: tenant_manager_daemon.c:133-175 -/
def handleUpdateQuota (shm : TenantShm) (command : Json) (now : TimeT) (monotonic : UInt64) :
    CommandRun :=
  match command.getEx (text "tenant"), command.getEx (text "qp") with
  | some tenant, some qp =>
    let tenantId := tenant.getInt.toUInt32
    let mr := intMember command "mr" qp.getInt
    let quota := quotaOf qp.getInt mr (memoryMember command)
    let (ok, shm) := tenantUpdateQuota shm tenantId quota now
    if ok then
      answer (stampUpdate shm monotonic) true (tenantMessage "Quota updated for tenant " tenantId "")
        none
    else refuse shm "Failed to update quota"
  | _, _ => refuse shm "Missing required fields: tenant, qp"

/-- The name goes to `fprintf` and to `tenant_create`, of which only the latter accepts
`NULL`.
SOURCE: tenant_manager_daemon.c:178-213 -/
def handleCreate (shm : TenantShm) (command : Json) (now : TimeT) : CommandRun :=
  match command.getEx (text "tenant") with
  | none => refuse shm "Missing required field: tenant"
  | some tenant =>
    let tenantId := tenant.getInt.toUInt32
    let name :=
      match command.getEx (text "name") with
      | some m => m.getString
      | none => some (text "unnamed")
    let qp := intMember command "qp" 100
    let mr := intMember command "mr" 100
    let quota := quotaOf qp mr (memoryMember command)
    let (ok, shm) := tenantCreate shm tenantId name (some quota) now
    let run :=
      if ok then answer shm true (tenantMessage "Tenant " tenantId " created") none
      else refuse shm "Failed to create tenant"
    { run with nullString := name.isNone }

/-- SOURCE: tenant_manager_daemon.c:216-234 -/
def handleDelete (shm : TenantShm) (command : Json) (now : TimeT) : CommandRun :=
  match command.getEx (text "tenant") with
  | none => refuse shm "Missing required field: tenant"
  | some tenant =>
    let tenantId := tenant.getInt.toUInt32
    let (ok, shm) := tenantDelete shm tenantId now
    if ok then answer shm true (tenantMessage "Tenant " tenantId " deleted") none
    else refuse shm "Failed to delete tenant"

/-- SOURCE: shared_memory_tenant.h:15-19 -/
def TenantStatus.toInt : TenantStatus → ℤ
  | .inactive => 0
  | .active => 1
  | .suspended => 2

/-- `json_object_new_int` of an unsigned number. -/
def newInt (v : UInt32) : Json := .int v.toInt32.toInt

/-- `json_object_new_int64` of an unsigned number. -/
def newInt64 (v : UInt64) : Json := .int v.toInt64.toInt

/-- SOURCE: tenant_manager_daemon.c:249-257, 274-282 -/
def statusMembers (t : TenantInfo) : List (Bytes × Json) :=
  [(text "id", newInt t.tenantId),
    (text "name", .string t.tenantName),
    (text "status", .int t.status.toInt),
    (text "qp_used", .int t.usage.qpCount.toInt),
    (text "qp_limit", newInt t.quota.maxQpPerTenant),
    (text "mr_used", .int t.usage.mrCount.toInt),
    (text "mr_limit", newInt t.quota.maxMrPerTenant),
    (text "memory_used", newInt64 t.usage.memoryUsed),
    (text "memory_limit", newInt64 t.quota.maxMemoryPerTenant)]

/-- SOURCE: tenant_manager_daemon.c:283-284 -/
def totalMembers (t : TenantInfo) : List (Bytes × Json) :=
  [(text "total_qp_creates", newInt64 t.usage.totalQpCreates),
    (text "total_mr_regs", newInt64 t.usage.totalMrRegs)]

/-- The records of the array `tenants` that are in use, in the order of the array. -/
def TenantShm.tenantsInUse (shm : TenantShm) : List TenantInfo :=
  ((List.finRange MAX_TENANTS).map shm.tenants).filter fun t => t.status ≠ .inactive

/-- SOURCE: tenant_manager_daemon.c:237-287 -/
def handleStatus (shm : TenantShm) (command : Json) (now : TimeT) : CommandRun :=
  match command.getEx (text "tenant") with
  | none =>
    let tenants := shm.tenantsInUse.map fun t => Json.object (statusMembers t)
    answer shm true (text "All tenants status") (some (.array tenants))
  | some tenant =>
    match tenantGetInfo shm tenant.getInt.toUInt32 now with
    | (none, shm) => refuse shm "Tenant not found"
    | (some info, shm) =>
      answer shm true (text "Tenant status")
        (some (.object (statusMembers info ++ totalMembers info)))

/-- One tenant of the list.
SOURCE: tenant_manager_daemon.c:298-303 -/
def listMembers (t : TenantInfo) : List (Bytes × Json) :=
  [(text "id", newInt t.tenantId),
    (text "name", .string t.tenantName),
    (text "qp_used", .int t.usage.qpCount.toInt),
    (text "qp_limit", newInt t.quota.maxQpPerTenant),
    (text "mr_used", .int t.usage.mrCount.toInt),
    (text "mr_limit", newInt t.quota.maxMrPerTenant)]

/-- SOURCE: tenant_manager_daemon.c:309-312 -/
def listData (shm : TenantShm) : Json :=
  let tenants := shm.tenantsInUse.map fun t => Json.object (listMembers t)
  .object [(text "count", .int tenants.length), (text "version", newInt64 shm.version),
    (text "tenants", .array tenants)]

/-- SOURCE: tenant_manager_daemon.c:290-315 -/
def handleListTenants (shm : TenantShm) : CommandRun :=
  answer shm true (text "Tenant list") (some (listData shm))

/-- SOURCE: tenant_manager_daemon.c:318-349 -/
def processCommand (parse : Bytes → Json) (shm : TenantShm) (message : Bytes) (now : TimeT)
    (monotonic : UInt64) : CommandRun :=
  match parse message with
  | .null => refuse shm "Invalid JSON"
  | command =>
    match command.getEx (text "cmd") with
    | none => refuse shm "Missing 'cmd' field"
    | some cmdType =>
      match cmdType.getString with
      | none => ⟨none, true, shm⟩
      | some cmd =>
        if cmd = text "UPDATE_QUOTA" then handleUpdateQuota shm command now monotonic
        else if cmd = text "CREATE" then handleCreate shm command now
        else if cmd = text "DELETE" then handleDelete shm command now
        else if cmd = text "STATUS" then handleStatus shm command now
        else if cmd = text "LIST_TENANTS" then handleListTenants shm
        else refuse shm "Unknown command"

/-- SOURCE: tenant_manager_daemon.c:45, tenant_manager_client.c:36 -/
abbrev BUFFER_SIZE : ℕ := 4096

/-- What is sent back for the bytes that `recv` has taken, and the segment after it.
SOURCE: tenant_manager_daemon.c:352-373 -/
def handleClient (parse : Bytes → Json) (shm : TenantShm) (message : Bytes) (now : TimeT)
    (monotonic : UInt64) : Bytes × TenantShm :=
  if message = [] then ([], shm)
  else
    let run := processCommand parse shm (received BUFFER_SIZE message) now monotonic
    match run.response with
    | some r => (buildResponse r ++ [10], run.shm)
    | none => ([], run.shm)

/-! ## Sequences of calls -/

/-- The segments that the tenant API and the daemon can produce from a newly created one. -/
inductive ServedStore (parse : Bytes → Json) : TenantShm → Prop
  | init (now : TimeT) : ServedStore parse (.fresh now)
  | call {shm : TenantShm} (op : StoreOp) (now : TimeT) :
      ServedStore parse shm → ServedStore parse (op.exec shm now).2
  | message {shm : TenantShm} (message : Bytes) (now : TimeT) (monotonic : UInt64) :
      ServedStore parse shm → ServedStore parse (handleClient parse shm message now monotonic).2

/-- A call of the tenant API, or a command of the daemon. -/
inductive TenantCall
  | op (op : StoreOp)
  | getInfo (tenantId : UInt32)
  | getProcessTenant (pid : Pid)
  | getResourceUsage (tenantId : UInt32)
  | checkResourceLimit (tenantId : UInt32) (resourceType : Int32) (requestedAmount : UInt32)
  | getActiveList (maxCount : Int32)
  | printAll
  | getStatistics (tenantId : UInt32)
  /-- a call with `NULL` for a pointer that it needs: it answers `-1` before it takes the lock -/
  | nullPointer
  /-- the daemon's handler of this command -/
  | updateQuota (command : Json)

/-- A call and what the clocks show meanwhile. -/
structure TimedCall where
  call : TenantCall
  /-- `time(NULL)` -/
  wall : TimeT
  /-- `CLOCK_MONOTONIC` in nanoseconds -/
  monotonic : UInt64

/-- The segment after a call. -/
def TimedCall.exec (shm : TenantShm) (e : TimedCall) : TenantShm :=
  match e.call with
  | .op op => (op.exec shm e.wall).2
  | .getInfo t => (tenantGetInfo shm t e.wall).2
  | .getProcessTenant pid => (tenantGetProcessTenant shm pid e.wall).2
  | .getResourceUsage t => (tenantGetResourceUsage shm t e.wall).2
  | .checkResourceLimit t resourceType amount =>
    (tenantCheckResourceLimit shm t resourceType amount e.wall).2
  | .getActiveList maxCount => (tenantGetActiveList shm maxCount e.wall).2
  | .printAll => tenantPrintAll shm e.wall
  | .getStatistics t => (tenantGetStatistics shm t e.wall).2
  | .nullPointer => shm
  | .updateQuota command => (handleUpdateQuota shm command e.wall e.monotonic).shm

end RdmaIntercept.Model
