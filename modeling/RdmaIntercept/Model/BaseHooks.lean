import RdmaIntercept.Model.Hooks

/-!
# The admission check of the base library

The library without tenants decides on a QP creation with the same settings and the same
process-resource segment.  Where it cannot read the segment it falls back to the eBPF maps
and then to the local count; the functions that read the maps are not part of the
repository.

SOURCE: src/rdma_hooks.c
-/

set_option autoImplicit false

namespace RdmaIntercept.Model

/-- The eBPF side of the base library. -/
structure EbpfMonitor where
  initialized : Bool
  /-- what `ebpf_get_process_resources` answers; `none` for a failure -/
  getProcessResources : Pid → Option ResourceUsage

/-- The local count as the last resort.
SOURCE: rdma_hooks.c:343-367 -/
def localLimitOk (st : ProcState) : Bool := decide (st.qpCount + 1 ≤ st.config.maxQpPerProcess)

/-- Without the segment.
SOURCE: rdma_hooks.c:327-371 -/
def fallbackLimitOk (st : ProcState) (p : Pid) (ebpf : EbpfMonitor) : Bool :=
  if ebpf.initialized then
    match ebpf.getProcessResources p with
    | some usage =>
      let effectiveQpCount :=
        if usage.qpCount = 0 ∧ 0 < st.qpCount then st.qpCount else usage.qpCount.toUInt32
      decide (effectiveQpCount + 1 ≤ st.config.maxQpPerProcess)
    | none => localLimitOk st
  else localLimitOk st

/-- SOURCE: rdma_hooks.c:310-372 -/
def baseProcessLimitOk (s : System) (p : Pid) (ebpf : EbpfMonitor) : Bool :=
  match getProcessResourcesViaSharedMemory s p with
  | some usage => decide (usage.qpCount.toUInt32 + 1 ≤ (s.proc p).config.maxQpPerProcess)
  | none => fallbackLimitOk (s.proc p) p ebpf

/-- SOURCE: rdma_hooks.c:273-402 -/
def baseCheckQpCreationRestrictions (s : System) (p : Pid) (ebpf : EbpfMonitor)
    (attr : QpInitAttr) : Bool :=
  let config := (s.proc p).config
  if !config.enableQpControl then true
  else if !qpTypeAllowed config attr.qpType then false
  else if !baseProcessLimitOk s p ebpf then false
  else if !globalLimitOk s p then false
  else if config.maxSendWrLimit < attr.maxSendWr then false
  else if config.maxRecvWrLimit < attr.maxRecvWr then false
  else true

end RdmaIntercept.Model
