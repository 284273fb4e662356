import RdmaIntercept.Model.TenantClient

/-!
# The tenant manager's client and daemon together

A client turns its command line into one JSON command and sends it over a connection of its
own.  The daemon takes the connections one at a time in the order in which they were made,
reads the command, carries it out, answers and closes; meanwhile other processes call the
tenant API on the same segment.

SOURCE: src/tenant_manager_client.c, src/tenant_manager_daemon.c
-/

set_option autoImplicit false

namespace RdmaIntercept.Model

open RdmaIntercept.Library RdmaIntercept.Library.CText

/-! ## The command line -/

/-- `(uint64_t)atoll(b)` -/
def atoll (b : Bytes) : UInt64 := (Int64.ofInt (strtol b)).toUInt64

/-- `argv[5]`, 1 GiB without it.
SOURCE: tenant_manager_client.c:234, 279 -/
def memoryWord : List Bytes → UInt64
  | memory :: _ => atoll memory
  | [] => 1073741824

/-- `argv[6]`.
SOURCE: tenant_manager_client.c:235 -/
def nameWord : List Bytes → Bytes
  | _ :: name :: _ => name
  | _ => text "unnamed"

/-- SOURCE: tenant_manager_client.c:225-249 -/
def buildCreateCmd : List Bytes → Option Json
  | _ :: _ :: tenant :: qp :: mr :: more =>
    some (.object [(text "cmd", .string (text "CREATE")),
      (text "tenant", newInt (atoi tenant).toUInt32),
      (text "name", .string (nameWord more)),
      (text "qp", .int (atoi qp).toInt),
      (text "mr", .int (atoi mr).toInt),
      (text "memory", newInt64 (memoryWord more))])
  | _ => none

/-- SOURCE: tenant_manager_client.c:251-267 -/
def buildDeleteCmd : List Bytes → Option Json
  | _ :: _ :: tenant :: _ =>
    some (.object [(text "cmd", .string (text "DELETE")),
      (text "tenant", newInt (atoi tenant).toUInt32)])
  | _ => none

/-- SOURCE: tenant_manager_client.c:269-292 -/
def buildUpdateCmd : List Bytes → Option Json
  | _ :: _ :: tenant :: qp :: mr :: more =>
    some (.object [(text "cmd", .string (text "UPDATE_QUOTA")),
      (text "tenant", newInt (atoi tenant).toUInt32),
      (text "qp", .int (atoi qp).toInt),
      (text "mr", .int (atoi mr).toInt),
      (text "memory", newInt64 (memoryWord more))])
  | _ => none

/-- SOURCE: tenant_manager_client.c:294-307 -/
def buildStatusCmd : List Bytes → Json
  | _ :: _ :: tenant :: _ =>
    .object [(text "cmd", .string (text "STATUS")),
      (text "tenant", newInt (atoi tenant).toUInt32)]
  | _ => .object [(text "cmd", .string (text "STATUS"))]

/-- The command that is sent; without one the client prints how it is used and exits with 1.
SOURCE: tenant_manager_client.c:336-362 -/
def clientCommand (argv : List Bytes) : Option Json :=
  match argv with
  | _ :: word :: _ =>
    if word = text "create" then buildCreateCmd argv
    else if word = text "delete" then buildDeleteCmd argv
    else if word = text "update" ∨ word = text "set-quota" then buildUpdateCmd argv
    else if word = text "status" then some (buildStatusCmd argv)
    else if word = text "list" then some listCommand
    else none
  | _ => none

/-- What the client prints, and its exit code, when it finds `arrived` in the stream.
SOURCE: tenant_manager_client.c:362-378 -/
def clientMain (parse : Bytes → Json) (command : Json) (arrived : Bytes) : Bytes × Int32 :=
  let sending := text "Sending: " ++ command.print ++ text "\n"
  match sendCommand arrived with
  | none => (sending, 1)
  | some response => (sending ++ text "\nResponse:\n" ++ printResponse parse response, 0)

/-! ## The daemon and its clients -/

/-- The segment, what the clients have sent over connections that the daemon has not taken yet,
and what it has answered on the connections it has closed. -/
structure TenantService where
  shm : TenantShm
  waiting : List Bytes
  answered : List Bytes

inductive ServiceEvent
  /-- a client is started -/
  | client (argv : List Bytes)
  /-- the daemon takes the next connection -/
  | serve (now : TimeT) (monotonic : UInt64)
  /-- another process calls the tenant API -/
  | other (op : StoreOp) (now : TimeT)

/-- The daemon's round of its main loop.
SOURCE: tenant_manager_daemon.c:376-406 -/
def TenantService.step (parse : Bytes → Json) (s : TenantService) : ServiceEvent → TenantService
  | .client argv =>
    match clientCommand argv with
    | none => s
    | some command => { s with waiting := s.waiting ++ [command.print] }
  | .serve now monotonic =>
    match s.waiting with
    | [] => s
    | message :: rest =>
      let (response, shm) := handleClient parse s.shm message now monotonic
      { shm := shm, waiting := rest, answered := s.answered ++ [response] }
  | .other op now => { s with shm := (op.exec s.shm now).2 }

end RdmaIntercept.Model
