import RdmaIntercept.Library.Runs
import RdmaIntercept.Model.Hooks

/-!
# Runs of the hooks

The hooks on their own: one complete call after the other, by any process and with any
answer of the driver, and between them calls of the tenant API by managers and the passing
of time.
-/

set_option autoImplicit false

namespace RdmaIntercept.Model

inductive VerbsEvent
  | create (p : Pid) (req : CreateReq) (driver : Option Handle)
  | destroy (p : Pid) (req : DestroyReq) (driver : Int32)
  | store (op : StoreOp)
  | tick (wall : TimeT) (mono : UInt64)

def System.verbsStep (s : System) : VerbsEvent → System
  | .create p req driver => (ibvCreate s p req driver).2
  | .destroy p req driver => (ibvDestroy s p req driver).2
  | .store op => { s with tenantShm := (op.exec s.tenantShm s.wallClock).2 }
  | .tick wall mono => { s with wallClock := wall, monoClock := mono }

/-- `tenant_check_resource_limit` as process `p` calls it, `true` for a refusal.  In a process
whose `tenant_shm_init` has failed, `tenant_shm_get_ptr` answers `NULL` and nothing is refused.
SOURCE: shared_memory_tenant.c:502-510 -/
def checkResourceLimitFrom (s : System) (p : Pid) (tenantId : UInt32) (resourceType : Int32)
    (requestedAmount : UInt32) : Bool :=
  (s.proc p).tenantInitialized &&
    (tenantCheckResourceLimit s.tenantShm tenantId resourceType requestedAmount s.wallClock).1

end RdmaIntercept.Model
