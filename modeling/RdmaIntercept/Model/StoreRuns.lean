import RdmaIntercept.Library.Runs
import RdmaIntercept.Model.World

/-!
# Runs of the tenant segment

The tenant segment on its own: one call of the tenant API after the other, by any
process, each with its own reading of the clock.  In the second kind of run the hooks
take part, which charge the tenant of their process for what it creates and destroys.
-/

set_option autoImplicit false

namespace RdmaIntercept.Model

open RdmaIntercept.Library

/-- A call of the tenant API that a run is made of. -/
inductive StoreCall
  | op (op : StoreOp)
  | lookup (pid : Pid)

/-- A call of the tenant API with any pointer it may be given: those of `StoreOp` point to a
record.  `tenant_update_quota` and `tenant_update_resource_usage` fail on `NULL` before they
take the lock.
SOURCE: shared_memory_tenant.c:271-274, 447-450 -/
inductive ApiCall
  | op (op : StoreOp)
  | updateQuotaNull (tenantId : UInt32)
  | updateUsageNull (tenantId : UInt32)

def ApiCall.exec (shm : TenantShm) (now : TimeT) : ApiCall → Bool × TenantShm
  | .op o => o.exec shm now
  | .updateQuotaNull _ => (false, shm)
  | .updateUsageNull _ => (false, shm)

/-- The return value of `tenant_get_process_tenant` and what it has stored through its
argument `tenant_id`.
SOURCE: shared_memory_tenant.c:421-444 -/
def processTenantResult : Option UInt32 → Bool × UInt32
  | none => (false, 0)
  | some tenantId => (true, tenantId)

/-- The segment that a call leaves. -/
def StoreCall.exec (shm : TenantShm) (now : TimeT) : StoreCall → TenantShm
  | .op o => (o.exec shm now).2
  | .lookup pid => (tenantGetProcessTenant shm pid now).2

/-- Whether a call answers `0`; a lookup has two results and is not meant here. -/
def StoreCall.ok (shm : TenantShm) (now : TimeT) : StoreCall → Bool
  | .op o => (o.exec shm now).1
  | .lookup _ => true

/-- One call at the time it comes with. -/
def TenantShm.step (shm : TenantShm) (e : TimeT × StoreCall) : TenantShm := e.2.exec shm e.1

/-- The process that a call binds, unbinds or looks up is none that marks a free slot. -/
def StoreCall.NamesProcess : StoreCall → Prop
  | .op (.bind pid _) => pid ≠ 0
  | .op (.unbind pid) => pid ≠ 0
  | .lookup pid => pid ≠ 0
  | _ => True

/-! ## `tenant_get_info` beside other processes -/

/-- What happens while a process is in `tenant_get_info`: the locked section of a call of
another process, or one of the two steps of the call.  It copies the record under the lock
(`copy`), and answers by the status that the record in the segment has after that
(`finish`); an id out of range it turns down at once (`turnDown`).
SOURCE: shared_memory_tenant.c:221-239 -/
inductive InfoEvent
  | other (now : TimeT) (op : StoreOp)
  | copy (now : TimeT)
  | finish
  | turnDown

/-- The segment, what the call has stored through its argument `info`, and what it has
answered. -/
structure InfoCall where
  shm : TenantShm
  info : Option TenantInfo := none
  result : Option Bool := none

def InfoCall.step (tenantId : UInt32) (s : InfoCall) : InfoEvent → InfoCall
  | .other now op => { s with shm := (op.exec s.shm now).2 }
  | .copy now =>
    let shm := tenantShmLock s.shm
    { s with shm := tenantShmUnlock shm now, info := some (shm.tenant tenantId) }
  | .finish => { s with result := some ((s.shm.tenant tenantId).status ≠ .inactive) }
  | .turnDown => { s with result := some false }

/-- The steps of the call itself, with the calls of other processes that fall between them. -/
def tenantGetInfoSteps (tenantId : UInt32) (now : TimeT) (between : List InfoEvent) :
    List InfoEvent :=
  if MAX_TENANTS ≤ tenantId.toNat then .turnDown :: between
  else .copy now :: between ++ [.finish]

/-- Where the calls of the other processes fall. -/
structure InfoSchedule where
  before : List (TimeT × StoreOp)
  between : List (TimeT × StoreOp)
  after : List (TimeT × StoreOp)
  copied : TimeT

def otherCalls (calls : List (TimeT × StoreOp)) : List InfoEvent :=
  calls.map fun c => .other c.1 c.2

def InfoSchedule.events (sched : InfoSchedule) (tenantId : UInt32) : List InfoEvent :=
  otherCalls sched.before ++
    tenantGetInfoSteps tenantId sched.copied (otherCalls sched.between) ++
    otherCalls sched.after

/-- The call in an interleaving with the calls of other processes. -/
def tenantGetInfoAmong (shm : TenantShm) (tenantId : UInt32) (sched : InfoSchedule) : InfoCall :=
  exec (InfoCall.step tenantId) { shm } (sched.events tenantId)

/-! ## With the hooks -/

/-- A call of the tenant API, or the charge that a hook books for its process: it looks up
the tenant of the process and passes it to `update_tenant_resource_count`. -/
inductive TenantEvent
  | call (c : StoreCall)
  | charge (pid : Pid) (kind : ResourceKind) (delta : Int32)

/-- What a caller sees of an event. -/
inductive TenantAnswer
  | returned (ok : Bool)
  | tenant (ok : Bool) (tenantId : UInt32)
  | nothing
  deriving DecidableEq, Repr

/-- What every hook does after the driver has created or destroyed an object.
SOURCE: rdma_hooks_tenant.c:386-387 -/
def chargeProcess (s : System) (pid : Pid) (kind : ResourceKind) (delta : Int32) : System :=
  let (tenantId, s) := getCurrentTenantId s pid
  updateTenantResourceCount s pid tenantId kind delta

def System.tenantStep (s : System) (e : TimeT × TenantEvent) : System :=
  let s := { s with wallClock := e.1 }
  match e.2 with
  | .call c => { s with tenantShm := c.exec s.tenantShm s.wallClock }
  | .charge pid kind delta => chargeProcess s pid kind delta

def System.tenantAnswer (s : System) (e : TimeT × TenantEvent) : TenantAnswer :=
  match e.2 with
  | .call (.op op) => .returned (op.exec s.tenantShm e.1).1
  | .call (.lookup pid) =>
    let (ok, tenantId) := processTenantResult (tenantGetProcessTenant s.tenantShm pid e.1).1
    .tenant ok tenantId
  | .charge .. => .nothing

end RdmaIntercept.Model
