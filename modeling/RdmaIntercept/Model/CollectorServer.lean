import RdmaIntercept.Library.CText

/-!
# The collector server

The data collection service: it answers one request on each connection it accepts.  The
eBPF maps could not be opened, so that `sync_ebpf_data` changes nothing and the counts are
those of the requests served.  What `main_loop` does with a request is a function from the
bytes it reads to the bytes it writes and the counts it leaves.

SOURCE: src/collector_server.c
-/

set_option autoImplicit false

namespace RdmaIntercept.Model

open RdmaIntercept.Library.CText

/-- SOURCE: collector_server.c:32-36 -/
structure ProcessResourceUsage where
  qpCount : UInt32
  mrCount : UInt32
  memoryUsed : UInt64
  deriving DecidableEq, Repr

/-- The variables of the server; a bucket of the hash table is its chain of nodes.
SOURCE: collector_server.c:49-61 -/
structure CollectorServer where
  globalQpCount : UInt32
  maxGlobalQp : UInt32
  globalMrCount : UInt32
  globalMemoryUsed : UInt64
  maxGlobalMemory : UInt64
  processResources : Fin 1024 → List (UInt32 × ProcessResourceUsage)

/-- What `initialize_service` leaves when the environment sets no limit.
SOURCE: collector_server.c:49-56, 197-215 -/
def CollectorServer.init : CollectorServer where
  globalQpCount := 0
  maxGlobalQp := 10
  globalMrCount := 0
  globalMemoryUsed := 0
  maxGlobalMemory := 1024 * 1024 * 1024 * 10
  processResources := fun _ => []

/-- What `initialize_service` leaves when the environment sets the two limits.
SOURCE: collector_server.c:70-97, 197-215 -/
def CollectorServer.started (maxGlobalQp : UInt32) (maxGlobalMemory : UInt64) : CollectorServer :=
  { CollectorServer.init with
    maxGlobalQp := maxGlobalQp
    maxGlobalMemory := maxGlobalMemory }

/-- A process without a node is answered zeros.
SOURCE: collector_server.c:244-264 -/
def getProcessResourceUsage (s : CollectorServer) (pid : UInt32) : ProcessResourceUsage :=
  ((s.processResources (Fin.ofNat 1024 pid.toNat)).lookup pid).getD ⟨0, 0, 0⟩

/-! ## The operations -/

/-- SOURCE: collector_server.c:366-391 -/
def getProcStats (s : CollectorServer) (pid : UInt32) : Bytes × CollectorServer :=
  let usage := getProcessResourceUsage s pid
  (snprintf 256
    (text "QP:" ++ decimal usage.qpCount.toNat ++ text ",MR:" ++ decimal usage.mrCount.toNat ++
      text ",Memory:" ++ decimal usage.memoryUsed.toNat), s)

/-- SOURCE: collector_server.c:393-420 -/
def getStats (s : CollectorServer) : Bytes × CollectorServer :=
  (snprintf 512
    (text "Total QP: " ++ decimal s.globalQpCount.toNat ++ text "\nMax QP: " ++
      decimal s.maxGlobalQp.toNat ++ text "\nTotal MR: " ++ decimal s.globalMrCount.toNat ++
      text "\nTotal Memory Used: " ++ decimal s.globalMemoryUsed.toNat ++
      text " bytes\nMax Memory: " ++ decimal s.maxGlobalMemory.toNat ++ text " bytes\n"), s)

/-- SOURCE: collector_server.c:421-443 -/
def qpCreate (s : CollectorServer) : Bytes × CollectorServer :=
  if s.maxGlobalQp ≤ s.globalQpCount then (text "Error: QP limit reached\n", s)
  else (text "Success: QP created\n", { s with globalQpCount := s.globalQpCount + 1 })

/-- SOURCE: collector_server.c:444-457 -/
def qpDestroy (s : CollectorServer) : Bytes × CollectorServer :=
  let s :=
    if 0 < s.globalQpCount then { s with globalQpCount := s.globalQpCount - 1 } else s
  (text "Success: QP destroyed\n", s)

/-- The test of `MR_CREATE` and `CHECK_MEMORY`, a sum in 64 bits.
SOURCE: collector_server.c:463, 497 -/
def memoryAdmits (s : CollectorServer) (length : UInt64) : Bool :=
  !(decide (s.maxGlobalMemory < s.globalMemoryUsed + length))

/-- SOURCE: collector_server.c:462-483 -/
def mrCreate (s : CollectorServer) (length : UInt64) : Bytes × CollectorServer :=
  if !memoryAdmits s length then (text "Error: Memory limit reached\n", s)
  else
    (text "Success: MR created\n",
      { s with
        globalMrCount := s.globalMrCount + 1
        globalMemoryUsed := s.globalMemoryUsed + length })

/-- SOURCE: collector_server.c:496-515 -/
def checkMemory (s : CollectorServer) (length : UInt64) : Bytes × CollectorServer :=
  if !memoryAdmits s length then (text "Error: Memory limit reached\n", s)
  else (text "Success: Memory check passed\n", s)

/-- SOURCE: collector_server.c:528-542 -/
def mrDestroy (s : CollectorServer) (length : UInt64) : Bytes × CollectorServer :=
  let s :=
    if 0 < s.globalMrCount then { s with globalMrCount := s.globalMrCount - 1 } else s
  let s :=
    if 0 < length ∧ length ≤ s.globalMemoryUsed then
      { s with globalMemoryUsed := s.globalMemoryUsed - length }
    else s
  (text "Success: MR destroyed\n", s)

/-! ## The main loop -/

/-- A request whose length is read with `%zu`. -/
def withLength (s : CollectorServer) (argument : Bytes)
    (operation : CollectorServer → UInt64 → Bytes × CollectorServer) (invalid : Bytes) :
    Bytes × CollectorServer :=
  match scanSize argument with
  | some length => operation s length
  | none => (invalid, s)

/-- The string in the buffer after the newline has been cut off. -/
def requestString (request : Bytes) : Bytes := (received 1024 request).takeWhile (· ≠ 10)

/-- One connection: the request that is read, the response that is written.
SOURCE: collector_server.c:351-571 -/
def mainLoop (s : CollectorServer) (request : Bytes) : Bytes × CollectorServer :=
  let buffer := requestString request
  if request = [] then ([], s)
  else if (text "GET_PROC_STATS:").isPrefixOf buffer then
    getProcStats s (atoi (buffer.drop 15)).toUInt32
  else if buffer = text "GET_STATS" then getStats s
  else if buffer = text "QP_CREATE" then qpCreate s
  else if buffer = text "QP_DESTROY" then qpDestroy s
  else if (text "MR_CREATE ").isPrefixOf buffer then
    withLength s (buffer.drop 10) mrCreate (text "Error: Invalid MR_CREATE request\n")
  else if (text "CHECK_MEMORY ").isPrefixOf buffer then
    withLength s (buffer.drop 13) checkMemory (text "Error: Invalid CHECK_MEMORY request\n")
  else if (text "MR_DESTROY ").isPrefixOf buffer then
    withLength s (buffer.drop 11) mrDestroy (text "Error: Invalid MR_DESTROY request\n")
  else (text "Error: Unknown request\n", s)

end RdmaIntercept.Model
