import RdmaIntercept.Library.Runs
import RdmaIntercept.Model.Hooks

/-!
# Serial runs

The system together with what the driver and the kernel know: the objects that are
live, the processes that run, and the objects that were still open when their process
exited.  A serial run is a list of events, each of which is one complete call of a hook,
one complete call of the tenant API by a manager, the start or the exit of a process, or
the passing of time.
-/

set_option autoImplicit false

namespace RdmaIntercept.Model

open RdmaIntercept.Library

/-- An object of the driver.  `tenant` is the tenant its process belonged to when it was
created, 0 for the default tenant; it is known to the run and not to the code. -/
structure Obj where
  handle : Handle
  kind : ResourceKind
  owner : Pid
  tenant : UInt32
  length : UInt64
  deriving DecidableEq, Repr

/-- The call that destroys an object; `mr->length` is the registered length. -/
def Obj.destroyReq (o : Obj) : DestroyReq :=
  match o.kind with
  | .qp => .qp o.handle
  | .mr => .mr (some ⟨o.handle, o.length⟩)
  | .cq => .cq o.handle
  | .pd => .pd o.handle

structure World where
  sys : System
  live : List Obj
  alive : Finset Pid
  /-- objects that the kernel took back from processes that exited -/
  reclaimed : List Obj

inductive Event
  | create (p : Pid) (req : CreateReq) (driver : Option Handle)
  | destroy (p : Pid) (o : Obj) (driver : Int32)
  | store (op : StoreOp)
  | tick (wall : TimeT) (mono : UInt64)
  | start (p : Pid) (env : StartEnv)
  | exit (p : Pid)

/-- The tenant a process is charged to now. -/
def currentTenant (s : System) (p : Pid) : UInt32 := (getCurrentTenantId s p).1

/-- The object that a successful creation by `p` makes. -/
def newObj (s : System) (p : Pid) (req : CreateReq) (h : Handle) : Obj :=
  ⟨h, req.kind, p, currentTenant s p, req.length⟩

/-- One event.  A creation makes an object when the driver was called and answered one; a
destruction removes it when the driver was called and answered `0`; an exit leaves both
segments as they are. -/
def World.step (w : World) : Event → World
  | .create p req driver =>
    let (out, s) := ibvCreate w.sys p req driver
    match driver with
    | some h =>
      { w with
        sys := s
        live := if out.driverCalls = [] then w.live else newObj w.sys p req h :: w.live }
    | none => { w with sys := s }
  | .destroy p o driver =>
    let (out, s) := ibvDestroy w.sys p o.destroyReq driver
    { w with
      sys := s
      live := if out.driverCalls ≠ [] ∧ driver = 0 then w.live.erase o else w.live }
  | .store op =>
    { w with
      sys := { w.sys with tenantShm := (op.exec w.sys.tenantShm w.sys.wallClock).2 } }
  | .tick wall mono => { w with sys := { w.sys with wallClock := wall, monoClock := mono } }
  | .start p env =>
    { w with sys := initFunctionPointers w.sys p env, alive := insert p w.alive }
  | .exit p =>
    { sys := w.sys.setProc p .unstarted
      live := w.live.filter fun o => o.owner ≠ p
      alive := w.alive.erase p
      reclaimed := (w.live.filter fun o => o.owner = p) ++ w.reclaimed }

/-- How many objects of a list are of kind `k` and were created in tenant `t`. -/
def countOf (objs : List Obj) (t : UInt32) (k : ResourceKind) : ℕ :=
  objs.countP fun o => o.tenant = t ∧ o.kind = k

/-- The number of live objects of kind `k` that were created in tenant `t`. -/
def World.liveCount (w : World) (t : UInt32) (k : ResourceKind) : ℕ := countOf w.live t k

/-- The counter of a kind in a usage record. -/
def TenantResourceUsage.count (usage : TenantResourceUsage) : ResourceKind → Int32
  | .qp => usage.qpCount
  | .mr => usage.mrCount
  | .cq => usage.cqCount
  | .pd => usage.pdCount

/-- The usage record of a tenant. -/
def System.usage (s : System) (t : UInt32) : TenantResourceUsage := (s.tenantShm.tenant t).usage

/-- The status of a tenant. -/
def System.status (s : System) (t : UInt32) : TenantStatus := (s.tenantShm.tenant t).status

/-- The quota of a tenant. -/
def System.quota (s : System) (t : UInt32) : TenantQuota := (s.tenantShm.tenant t).quota

end RdmaIntercept.Model
