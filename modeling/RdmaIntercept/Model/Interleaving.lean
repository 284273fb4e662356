import RdmaIntercept.Model.World

/-!
# Interleaved calls

The hooks as they run in several processes at once.  A call is cut at every access to a
segment that takes its lock, and at the call of the driver; between two such steps of one
process any other process may make its own.  What a process does with its own variables
is part of the step before it.  A process makes one call at a time, and a call that is
not intercepted is no step here.
-/

set_option autoImplicit false

namespace RdmaIntercept.Model

open RdmaIntercept.Library

/-- A success of the driver: an object was made or is gone. -/
structure Change where
  obj : Obj
  made : Bool
  deriving DecidableEq

/-- The argument `delta` of the update that follows. -/
def Change.delta (c : Change) : Int32 := if c.made then 1 else -1

/-- How far the call of a process has got. -/
inductive Phase
  | idle
  /-- about to look up the tenant whose quota is checked -/
  | lookup (req : CreateReq)
  /-- about to read the record of tenant `t` for the quota check -/
  | quota (req : CreateReq) (t : UInt32)
  /-- about to read the process's own record for the per-process check -/
  | processLimit (req : CreateReq)
  /-- about to read the global record for the global check -/
  | globalLimit (req : CreateReq)
  /-- about to call the driver; a registration remembers the tenant that was checked -/
  | create (req : CreateReq) (checked : Option UInt32)
  | destroy (o : Obj)
  /-- about to publish the local counts -/
  | publish (c : Change)
  /-- about to look up the tenant to charge -/
  | charge (c : Change)
  /-- about to read the usage record of tenant `t` -/
  | read (c : Change) (t : UInt32)
  /-- about to write the usage record of tenant `t`, which was read as `usage` -/
  | write (c : Change) (t : UInt32) (usage : TenantResourceUsage)
  deriving DecidableEq

/-- The system, the objects, the phases, and the objects of all successful calls so far. -/
structure CWorld where
  sys : System
  live : List Obj
  made : List Obj
  gone : List Obj
  phase : Pid → Phase

/-- A step of process `p`, or the passing of time.  A step that the process cannot make
changes nothing. -/
inductive CEvent
  /-- the application calls a creating verb -/
  | create (p : Pid) (req : CreateReq)
  /-- the application calls a destroying verb -/
  | destroy (p : Pid) (o : Obj)
  /-- the driver answers a creation -/
  | created (p : Pid) (driver : Option Handle)
  /-- the driver answers a destruction -/
  | destroyed (p : Pid) (driver : Int32)
  /-- the call of the process takes its next step -/
  | next (p : Pid)
  | tick (wall : TimeT) (mono : UInt64)

/-- The process that takes the step. -/
def CEvent.actor : CEvent → Option Pid
  | .create p _ => some p
  | .destroy p _ => some p
  | .created p _ => some p
  | .destroyed p _ => some p
  | .next p => some p
  | .tick _ _ => none

/-- The process goes on to phase `ph`, and the system to `s`. -/
def CWorld.move (w : CWorld) (s : System) (p : Pid) (ph : Phase) : CWorld :=
  { w with sys := s, phase := Function.update w.phase p ph }

/-- The first phase of a creating call: QP control and the type of the QP are looked at in
the process's own settings. -/
def startCreate (st : ProcState) (req : CreateReq) : Phase :=
  if !rdmaInterceptIsEnabled st || !st.realCreate req.kind then .idle
  else
    match req with
    | .qp _ attr =>
      if !st.config.enableQpControl then .create req none
      else if !qpTypeAllowed st.config attr.qpType then .idle
      else .lookup req
    | .mr .. => .lookup req
    | .cq .. => .create req none
    | .pd .. => .create req none

/-- The first phase of a destroying call. -/
def startDestroy (st : ProcState) (o : Obj) : Phase :=
  if !rdmaInterceptIsEnabled st || !st.realDestroy o.kind then .idle else .destroy o

/-- The quota check of a creation; CQs and PDs have none. -/
def checkQuota (s : System) (p : Pid) (t : UInt32) : CreateReq → Bool × System
  | .qp .. => checkTenantQpLimit s p t
  | .mr _ _ length _ => checkTenantMrLimitInline s p t length
  | .cq .. => (true, s)
  | .pd .. => (true, s)

/-- The phase after a passed quota check. -/
def afterQuota (t : UInt32) (req : CreateReq) : Phase :=
  match req with
  | .mr .. => .create req (some t)
  | _ => .processLimit req

/-- The phase after a creation: QPs are published, and a registration is charged to the
tenant that was checked. -/
def afterCreated (req : CreateReq) (checked : Option UInt32) (c : Change) : Phase :=
  match checked, req with
  | some t, _ => .read c t
  | none, .qp .. => .publish c
  | none, _ => .charge c

/-- Reads the usage record that is to be changed. -/
def CWorld.readUsage (w : CWorld) (p : Pid) (c : Change) (t : UInt32) : CWorld :=
  if t = 0 ∨ !(w.sys.proc p).tenantInitialized then w.move w.sys p .idle
  else
    match tenantGetResourceUsage w.sys.tenantShm t w.sys.wallClock with
    | (none, shm) => w.move { w.sys with tenantShm := shm } p .idle
    | (some usage, shm) => w.move { w.sys with tenantShm := shm } p (.write c t usage)

/-- The next step of the call that process `p` is in. -/
def CWorld.next (w : CWorld) (p : Pid) : CWorld :=
  match w.phase p with
  | .idle => w
  | .lookup req =>
    let (t, s) := getCurrentTenantId w.sys p
    w.move s p (.quota req t)
  | .quota req t =>
    let (ok, s) := checkQuota w.sys p t req
    w.move s p (if ok then afterQuota t req else .idle)
  | .processLimit req =>
    w.move w.sys p (if processLimitOk w.sys p then .globalLimit req else .idle)
  | .globalLimit req =>
    w.move w.sys p (if globalLimitOk w.sys p then .create req none else .idle)
  | .create _ _ => w
  | .destroy _ => w
  | .publish c => w.move (publishProcessResources w.sys p) p (.charge c)
  | .charge c =>
    let (t, s) := getCurrentTenantId w.sys p
    w.move s p (.read c t)
  | .read c t => w.readUsage p c t
  | .write c t usage =>
    let usage := usage.adjust c.obj.kind c.delta
    w.move
      { w.sys with
        tenantShm := (tenantUpdateResourceUsage w.sys.tenantShm t usage w.sys.wallClock).2 }
      p .idle

/-- The driver has made object `o` for process `p`. -/
def CWorld.grant (w : CWorld) (p : Pid) (req : CreateReq) (checked : Option UInt32) (o : Obj) :
    CWorld :=
  { w.move (w.sys.setProc p ((w.sys.proc p).addObj req)) p
      (afterCreated req checked ⟨o, true⟩) with
    live := o :: w.live
    made := o :: w.made }

/-- The driver has destroyed object `o` for process `p`. -/
def CWorld.release (w : CWorld) (p : Pid) (o : Obj) : CWorld :=
  { w.move (w.sys.setProc p ((w.sys.proc p).removeObj o.destroyReq)) p (.charge ⟨o, false⟩) with
    live := w.live.erase o
    gone := o :: w.gone }

def CWorld.step (w : CWorld) : CEvent → CWorld
  | .create p req =>
    match w.phase p with
    | .idle => w.move w.sys p (startCreate (w.sys.proc p) req)
    | _ => w
  | .destroy p o =>
    match w.phase p with
    | .idle => w.move w.sys p (startDestroy (w.sys.proc p) o)
    | _ => w
  | .created p driver =>
    match w.phase p, driver with
    | .create _ _, none => w.move w.sys p .idle
    | .create req checked, some h => w.grant p req checked (newObj w.sys p req h)
    | _, _ => w
  | .destroyed p driver =>
    match w.phase p with
    | .destroy o => if driver = 0 then w.release p o else w.move w.sys p .idle
    | _ => w
  | .next p => w.next p
  | .tick wall mono => { w with sys := { w.sys with wallClock := wall, monoClock := mono } }

/-- No call is in progress. -/
def CWorld.Quiescent (w : CWorld) : Prop := ∀ p, w.phase p = .idle

def CWorld.liveCount (w : CWorld) (t : UInt32) (k : ResourceKind) : ℕ := countOf w.live t k

/-- A serial world as the start of interleaved calls. -/
def World.concurrent (w : World) : CWorld := ⟨w.sys, w.live, [], [], fun _ => .idle⟩

/-- All steps of one creating call. -/
def createSteps (p : Pid) (req : CreateReq) (driver : Option Handle) : List CEvent :=
  [.create p req, .next p, .next p, .next p, .next p, .created p driver,
    .next p, .next p, .next p, .next p]

/-- All steps of one destroying call. -/
def destroySteps (p : Pid) (o : Obj) (driver : Int32) : List CEvent :=
  [.destroy p o, .destroyed p driver, .next p, .next p, .next p]

/-- The steps of an event of a serial run. -/
def Event.steps : Event → List CEvent
  | .create p req driver => createSteps p req driver
  | .destroy p o driver => destroySteps p o driver
  | .tick wall mono => [.tick wall mono]
  | _ => []

end RdmaIntercept.Model
