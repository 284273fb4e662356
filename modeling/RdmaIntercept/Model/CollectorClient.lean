import RdmaIntercept.Library.Runs
import RdmaIntercept.Model.CollectorServer

/-!
# The collector client

The calls of the library that ask the collector server.  Each opens a connection of its
own, writes one request and reads one response; the calls below are those whose connection
succeeds, on a socket on which a read returns what one write has sent.

SOURCE: src/collector_client.c
-/

set_option autoImplicit false

namespace RdmaIntercept.Model

open RdmaIntercept.Library.CText

/-- The variables of the client.
SOURCE: collector_client.c:10-11 -/
structure CollectorClient where
  globalQpCount : UInt32
  maxGlobalQp : UInt32
  deriving DecidableEq, Repr

/-! ## The requests -/

/-- SOURCE: collector_client.c:42 -/
def getStatsRequest : Bytes := text "GET_STATS"

/-- SOURCE: collector_client.c:134 -/
def qpCreateRequest : Bytes := text "QP_CREATE"

/-- The eleven bytes include the NUL.
SOURCE: collector_client.c:193 -/
def qpDestroyRequest : Bytes := text "QP_DESTROY" ++ [0]

/-- A request that names a length, built in a buffer of 64 bytes. -/
def lengthRequest (word : Bytes) (length : UInt64) : Bytes :=
  snprintf 64 (word ++ decimal length.toNat)

/-- SOURCE: collector_client.c:274 -/
def mrCreateRequest (length : UInt64) : Bytes := lengthRequest (text "MR_CREATE ") length

/-- SOURCE: collector_client.c:335 -/
def mrDestroyRequest (length : UInt64) : Bytes := lengthRequest (text "MR_DESTROY ") length

/-- SOURCE: collector_client.c:388 -/
def checkMemoryRequest (length : UInt64) : Bytes := lengthRequest (text "CHECK_MEMORY ") length

/-! ## The calls -/

/-- `strstr(buffer, "Success") != NULL` -/
def saysSuccess (response : Bytes) : Bool :=
  (strstr (text "Success") (received 64 response)).isSome

/-- SOURCE: collector_client.c:108-163 -/
def collectorSendQpCreateEvent (s : CollectorServer) : Bool × CollectorServer :=
  let (response, s) := mainLoop s qpCreateRequest
  (saysSuccess response, s)

/-- The response is read and not looked at.
SOURCE: collector_client.c:167-211 -/
def collectorSendQpDestroyEvent (s : CollectorServer) : CollectorServer :=
  (mainLoop s qpDestroyRequest).2

/-- SOURCE: collector_client.c:247-305 -/
def collectorSendMrCreateEvent (s : CollectorServer) (length : UInt64) : Bool × CollectorServer :=
  let (response, s) := mainLoop s (mrCreateRequest length)
  (saysSuccess response, s)

/-- SOURCE: collector_client.c:308-356 -/
def collectorSendMrDestroyEvent (s : CollectorServer) (length : UInt64) : CollectorServer :=
  (mainLoop s (mrDestroyRequest length)).2

/-- `true` when the registration is to be refused.
SOURCE: collector_client.c:359-414 -/
def collectorCheckGlobalMemoryLimit (s : CollectorServer) (requestedSize : UInt64) :
    Bool × CollectorServer :=
  let (response, s) := mainLoop s (checkMemoryRequest requestedSize)
  (!saysSuccess response, s)

/-- The number in the line that begins with `word`, as `sscanf(line, "<word> %u", ..)` reads
it; `none` when there is no such line, and inside when it holds no number. -/
def statsLine (word : Bytes) (buffer : Bytes) : Option (Option UInt32) :=
  (strstr word buffer).map fun line => (scanLiteral (word ++ text " ") line).bind scanUnsigned

/-- `unset` is what the local variable `new_max_global` holds before `sscanf` writes it.
SOURCE: collector_client.c:14-81 -/
def getGlobalQpStats (c : CollectorClient) (s : CollectorServer) (unset : UInt32) :
    CollectorClient × CollectorServer :=
  let (response, s) := mainLoop s getStatsRequest
  let buffer := received 1024 response
  let c :=
    match statsLine (text "Total QP:") buffer with
    | some (some count) => { c with globalQpCount := count }
    | _ => c
  let c :=
    match statsLine (text "Max QP:") buffer with
    | some read =>
      let newMaxGlobal := read.getD unset
      if 0 < newMaxGlobal then { c with maxGlobalQp := newMaxGlobal } else c
    | none => c
  (c, s)

/-- `true` when the creation of a QP is to be refused; both values are asked for on a
connection of their own.
SOURCE: collector_client.c:84-105, 214-244 -/
def collectorCheckGlobalQpLimit (c : CollectorClient) (s : CollectorServer) (unset : UInt32) :
    Bool × CollectorClient × CollectorServer :=
  let (c, s) := getGlobalQpStats c s unset
  let globalCount := c.globalQpCount
  let (c, s) := getGlobalQpStats c s unset
  let maxGlobal := c.maxGlobalQp
  let reached :=
    if maxGlobal = 0 then false
    else if globalCount = 0 ∧ 0 < maxGlobal then false
    else if globalCount < maxGlobal then false
    else true
  (reached, c, s)

/-! ## Runs -/

/-- A request about memory, from whichever client. -/
inductive MemoryRequest
  | mrCreate (length : UInt64)
  | checkMemory (length : UInt64)
  | mrDestroy (length : UInt64)
  deriving DecidableEq, Repr

/-- What is sent to the server. -/
def MemoryRequest.bytes : MemoryRequest → Bytes
  | .mrCreate length => mrCreateRequest length
  | .checkMemory length => checkMemoryRequest length
  | .mrDestroy length => mrDestroyRequest length

/-- The server together with the lengths of the registrations whose `MR_CREATE` was answered
with success and that were not destroyed yet. -/
structure LedgerRun where
  server : CollectorServer
  outstanding : List UInt64

/-- One request is served. -/
def LedgerRun.step (s : LedgerRun) (r : MemoryRequest) : LedgerRun :=
  let (response, server) := mainLoop s.server r.bytes
  match r with
  | .mrCreate length =>
    ⟨server, if saysSuccess response then length :: s.outstanding else s.outstanding⟩
  | .checkMemory _ => ⟨server, s.outstanding⟩
  | .mrDestroy length => ⟨server, s.outstanding.erase length⟩

end RdmaIntercept.Model
