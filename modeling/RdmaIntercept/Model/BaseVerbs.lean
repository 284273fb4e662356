import RdmaIntercept.Model.BaseHooks
import RdmaIntercept.Model.SegmentRuns

/-!
# The verbs of the base library

The library without tenants counts what its process has made: QPs on both paths, MRs when they
are registered and deregistered, not when they go through `ibv_destroy_mr`.  It publishes
the counts when a QP has been created, and at no other time.  The verbs for address handles,
shared receive queues, CQs and PDs pass the call on and keep nothing.

SOURCE: src/rdma_hooks.c
-/

set_option autoImplicit false

namespace RdmaIntercept.Model

/-- What the hooks ask outside the library: the eBPF maps, and the collector server through
`collector_check_global_memory_limit`. -/
structure BaseEnv where
  ebpf : EbpfMonitor
  memoryLimitReached : UInt64 → Bool

/-- The two tests of a registration, on whichever counts are at hand; the sum of the lengths
is taken in 64 bits.
SOURCE: rdma_hooks.c:1049-1062 -/
def mrLimitOk (config : InterceptConfig) (mrCount : UInt32) (memoryUsed length : UInt64) : Bool :=
  if config.maxMrPerProcess ≤ mrCount then false
  else if config.maxMemoryPerProcess < memoryUsed + length then false
  else true

/-- The local counts as the last resort.
SOURCE: rdma_hooks.c:1084-1097, 1101-1114 -/
def localMrLimitOk (st : ProcState) (length : UInt64) : Bool :=
  mrLimitOk st.config st.mrCount st.memoryUsed length

/-- Without the segment.
SOURCE: rdma_hooks.c:1063-1116 -/
def fallbackMrLimitOk (st : ProcState) (p : Pid) (ebpf : EbpfMonitor) (length : UInt64) : Bool :=
  if ebpf.initialized then
    match ebpf.getProcessResources p with
    | some usage => mrLimitOk st.config usage.mrCount.toUInt32 usage.memoryUsed length
    | none => localMrLimitOk st length
  else localMrLimitOk st length

/-- SOURCE: rdma_hooks.c:1043-1044, 1048-1116 -/
def baseMrLimitOk (s : System) (p : Pid) (ebpf : EbpfMonitor) (length : UInt64) : Bool :=
  match getProcessResourcesViaSharedMemory s p with
  | some usage => mrLimitOk (s.proc p).config usage.mrCount.toUInt32 usage.memoryUsed length
  | none => fallbackMrLimitOk (s.proc p) p ebpf length

/-- The checks of a registration.
SOURCE: rdma_hooks.c:1043-1124 -/
def baseCheckMrRegistration (s : System) (p : Pid) (env : BaseEnv) (length : UInt64) : Bool :=
  if (s.proc p).config.enableMrControl && !baseMrLimitOk s p env.ebpf length then false
  else !env.memoryLimitReached length

/-! ## The verbs -/

/-- `ibv_create_qp`.
SOURCE: rdma_hooks.c:405-469 -/
def baseCreateQp (s : System) (p : Pid) (env : BaseEnv) (pd : Handle) (attr : QpInitAttr)
    (driver : Option Handle) : Outcome (Option Handle) × System :=
  interceptCreate s p (.qp pd attr) driver <|
    if !baseCheckQpCreationRestrictions s p env.ebpf attr then (⟨none, some .eperm, []⟩, s)
    else
      match driver with
      | none => (⟨none, none, [.create (.qp pd attr)]⟩, s)
      | some qp =>
        let s := s.setProc p (s.proc p).addQp
        let s := publishProcessResources s p
        (⟨some qp, none, [.create (.qp pd attr)]⟩, s)

/-- `ibv_destroy_qp`.
SOURCE: rdma_hooks.c:479-537 -/
def baseDestroyQp (s : System) (p : Pid) (qp : Handle) (driver : Int32) : Outcome Int32 × System :=
  interceptDestroy s p (.qp qp) driver <|
    if driver = 0 then
      (⟨driver, none, [.destroy (.qp qp)]⟩, s.setProc p (s.proc p).removeQp)
    else (⟨driver, none, [.destroy (.qp qp)]⟩, s)

/-- `__real_ibv_reg_mr`.
SOURCE: rdma_hooks.c:1024-1170 -/
def baseRegMr (s : System) (p : Pid) (env : BaseEnv) (pd addr : Handle) (length : UInt64)
    (access : Int32) (driver : Option Handle) : Outcome (Option Handle) × System :=
  interceptCreate s p (.mr pd addr length access) driver <|
    if !baseCheckMrRegistration s p env length then (⟨none, some .eperm, []⟩, s)
    else
      match driver with
      | none => (⟨none, none, [.create (.mr pd addr length access)]⟩, s)
      | some mr =>
        (⟨some mr, none, [.create (.mr pd addr length access)]⟩,
          s.setProc p ((s.proc p).addMr length))

/-- `ibv_dereg_mr`.
SOURCE: rdma_hooks.c:782-850 -/
def baseDeregMr (s : System) (p : Pid) (mr : Option Mr) (driver : Int32) :
    Outcome Int32 × System :=
  interceptDestroy s p (.mr mr) driver <|
    let mrLength := (mr.map Mr.length).getD 0
    if driver = 0 then
      (⟨driver, none, [.destroy (.mr mr)]⟩, s.setProc p ((s.proc p).removeMr mrLength))
    else (⟨driver, none, [.destroy (.mr mr)]⟩, s)

/-- `ibv_destroy_mr`: with interception on or off the call is passed on.  `real` tells whether
the verb was found.
SOURCE: rdma_hooks.c:853-884 -/
def baseDestroyMr (real : Bool) (mr : Mr) (driver : Int32) : Outcome Int32 :=
  if real then ⟨driver, none, [.destroy (.mr (some mr))]⟩ else ⟨-1, some .enosys, []⟩

/-! ## Runs of one process -/

/-- The system together with what process `p` has: its live QPs and MRs, and the MRs that it
has destroyed with `ibv_destroy_mr`. -/
structure BaseRun where
  sys : System
  qps : List Handle
  mrs : List Mr
  lost : List Mr

/-- A call of the process, a call of another process on the segment, or the passing of time. -/
inductive BaseEvent
  | createQp (env : BaseEnv) (pd : Handle) (attr : QpInitAttr) (driver : Option Handle)
  | destroyQp (qp : Handle) (driver : Int32)
  | regMr (env : BaseEnv) (pd addr : Handle) (length : UInt64) (access : Int32)
      (driver : Option Handle)
  | deregMr (mr : Mr) (driver : Int32)
  | destroyMr (real : Bool) (mr : Mr) (driver : Int32)
  | other (op : ShmOp) (nowNs : UInt64)
  | tick (mono : UInt64)

/-- One event of process `p`; the driver makes an object when it was called and answered one,
and takes it away when it was called and answered `0`. -/
def BaseRun.step (p : Pid) (r : BaseRun) : BaseEvent → BaseRun
  | .createQp env pd attr driver =>
    let (out, s) := baseCreateQp r.sys p env pd attr driver
    { r with
      sys := s
      qps := if out.driverCalls = [] then r.qps else driver.toList ++ r.qps }
  | .destroyQp qp driver =>
    let (out, s) := baseDestroyQp r.sys p qp driver
    { r with
      sys := s
      qps := if out.driverCalls ≠ [] ∧ driver = 0 then r.qps.erase qp else r.qps }
  | .regMr env pd addr length access driver =>
    let (out, s) := baseRegMr r.sys p env pd addr length access driver
    { r with
      sys := s
      mrs := if out.driverCalls = [] then r.mrs
        else (driver.map fun mr => ⟨mr, length⟩).toList ++ r.mrs }
  | .deregMr mr driver =>
    let (out, s) := baseDeregMr r.sys p (some mr) driver
    { r with
      sys := s
      mrs := if out.driverCalls ≠ [] ∧ driver = 0 then r.mrs.erase mr else r.mrs }
  | .destroyMr real mr driver =>
    let out := baseDestroyMr real mr driver
    if out.driverCalls ≠ [] ∧ driver = 0 then
      { r with mrs := r.mrs.erase mr, lost := mr :: r.lost }
    else r
  | .other op nowNs => { r with sys := { r.sys with shm := op.call r.sys.shm nowNs } }
  | .tick mono => { r with sys := { r.sys with monoClock := mono } }

end RdmaIntercept.Model
