import RdmaIntercept.Model.SegmentCollector
import RdmaIntercept.Model.World

/-!
# Serial runs beside the collector

The shared-memory collector runs beside the processes that call the hooks: between two events
of the world it copies the eBPF maps into the process-resource segment.

SOURCE: src/rdma_hooks_tenant.c, src/collector_server_shm.c:81-146
-/

set_option autoImplicit false

namespace RdmaIntercept.Model

inductive CollectedEvent
  | event (e : Event)
  | collect (step : CollectorStep)

/-- A step of the collector changes the segment only. -/
def World.collect (w : World) (step : CollectorStep) : World :=
  { w with sys := { w.sys with shm := step.exec w.sys.shm } }

def World.collectedStep (w : World) : CollectedEvent → World
  | .event e => w.step e
  | .collect step => w.collect step

/-- The global usage that an event writes to the segment. -/
def CollectedEvent.copied : CollectedEvent → Option ResourceUsage
  | .event _ => none
  | .collect step => step.globalWritten

end RdmaIntercept.Model
