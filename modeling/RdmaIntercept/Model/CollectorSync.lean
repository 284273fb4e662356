import RdmaIntercept.Library.ChainedTable
import RdmaIntercept.Model.CollectorServer
import RdmaIntercept.Model.SharedMemory

/-!
# The collector server and the eBPF maps

The maps are open: `sync_ebpf_data` copies them into the hash table and the global counts.
The thread that synchronises and the main loop take turns; a request for the statistics
begins with a synchronisation, which is an event of its own here.

SOURCE: src/collector_server.c
-/

set_option autoImplicit false

namespace RdmaIntercept.Model

open RdmaIntercept.Library RdmaIntercept.Library.CText

/-- A map of the kernel: its keys in the order in which `bpf_map_get_next_key` visits them,
each once, with the values that `bpf_map_lookup_elem` reads. -/
structure EbpfMap where
  entries : List (UInt32 × ResourceUsage)
  nodup : (entries.map Prod.fst).Nodup

/-- The maps `process_resources` and `global_resources`, the latter with its only key. -/
structure EbpfMaps where
  processResources : EbpfMap
  globalResources : ResourceUsage

/-- `pid % 1024` -/
def hashIndex (pid : UInt32) : Fin 1024 := ⟨pid.toNat % 1024, Nat.mod_lt _ (by decide)⟩

/-- The counts of a map are stored as unsigned words.
SOURCE: collector_server.c:132-134 -/
def ResourceUsage.toProcess (u : ResourceUsage) : ProcessResourceUsage where
  qpCount := u.qpCount.toUInt32
  mrCount := u.mrCount.toUInt32
  memoryUsed := u.memoryUsed

/-- `memory` tells for which process `malloc` finds memory for a new node.
SOURCE: collector_server.c:107-177 -/
def syncEbpfData (s : CollectorServer) (maps : EbpfMaps) (memory : UInt32 → Bool) :
    CollectorServer :=
  { s with
    processResources :=
      ChainedTable.storeAll hashIndex memory s.processResources
        (maps.processResources.entries.map (Prod.map id ResourceUsage.toProcess))
    globalQpCount := maps.globalResources.qpCount.toUInt32
    globalMrCount := maps.globalResources.mrCount.toUInt32
    globalMemoryUsed := maps.globalResources.memoryUsed }

inductive CollectorEvent
  | sync (maps : EbpfMaps) (memory : UInt32 → Bool)
  | request (request : Bytes)

def CollectorServer.step (s : CollectorServer) : CollectorEvent → CollectorServer
  | .sync maps memory => syncEbpfData s maps memory
  | .request request => (mainLoop s request).2

end RdmaIntercept.Model
