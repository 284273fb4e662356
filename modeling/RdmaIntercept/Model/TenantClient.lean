import RdmaIntercept.Model.TenantDaemon

/-!
# The tenant manager client

The command that asks for the list of tenants, how the client takes the daemon's answer
from the stream, and what it prints of it.  `parse` is `json_tokener_parse`, `Json.null`
where it answers `NULL`.

SOURCE: src/tenant_manager_client.c
-/

set_option autoImplicit false

namespace RdmaIntercept.Model

open RdmaIntercept.Library RdmaIntercept.Library.CText

/-- SOURCE: tenant_manager_client.c:309-317 -/
def listCommand : Json := .object [(text "cmd", .string (text "LIST_TENANTS"))]

/-- SOURCE: tenant_manager_client.c:309-317 -/
def buildListCmd : Bytes := listCommand.print

/-- What `send_command` returns when the bytes `arrived` are in the stream at its one `recv`.
SOURCE: tenant_manager_client.c:62-77 -/
def sendCommand (arrived : Bytes) : Option Bytes :=
  if arrived = [] then none else some (received BUFFER_SIZE arrived)

/-! ## Printing an answer -/

/-- `%s`; the C library writes `(null)` for `NULL`. -/
def shown (s : Option Bytes) : Bytes := s.getD (text "(null)")

/-- `%d` -/
def shownInt (v : Int32) : Bytes := Json.signedDecimal v.toInt

/-- `%u` of an id. -/
def shownId (v : Int32) : Bytes := decimal v.toUInt32.toNat

/-- `%lu` of a number read with `json_object_get_int64`. -/
def shownLong (v : Int64) : Bytes := decimal v.toUInt64.toNat

/-- What is printed for a member that is there. -/
def ifMember (o : Json) (name : String) (print : Json → Bytes) : Bytes :=
  match o.getEx (text name) with
  | some m => print m
  | none => []

/-- `name` is `"?"` without a member of that name. -/
def nameOf (item : Json) : Bytes :=
  match item.getEx (text "name") with
  | some m => shown m.getString
  | none => text "?"

/-- `json_object_get_int`, 0 without the member. -/
def intOf (item : Json) (name : String) : Int32 := (item.member (text name)).getInt

/-- A tenant of an answer whose data is an array.
SOURCE: tenant_manager_client.c:112-137 -/
def printStatusItem (item : Json) : Bytes :=
  match item.getEx (text "id"), item.getEx (text "qp_used") with
  | some id, some qp =>
    text "  Tenant " ++ shownId id.getInt ++ text " (" ++ nameOf item ++ text "): QP=" ++
      shownInt qp.getInt ++ text "/" ++ shownInt (intOf item "qp_limit") ++
      ifMember item "mr_used" (fun mr =>
        text ", MR=" ++ shownInt mr.getInt ++ text "/" ++ shownInt (intOf item "mr_limit")) ++
      text "\n"
  | _, _ => []

/-- The line for one tenant of a list.
SOURCE: tenant_manager_client.c:177-178 -/
def tenantLine (id : UInt32) (name : Bytes) (qp qpLimit mr mrLimit : Int32) : Bytes :=
  text "    [" ++ decimal id.toNat ++ text "] " ++ name ++ text ": QP=" ++ shownInt qp ++
    text "/" ++ shownInt qpLimit ++ text ", MR=" ++ shownInt mr ++ text "/" ++ shownInt mrLimit ++
    text "\n"

/-- A tenant of a list.
SOURCE: tenant_manager_client.c:157-179 -/
def printListItem (item : Json) : Bytes :=
  match item.getEx (text "id") with
  | some id =>
    tenantLine id.getInt.toUInt32 (nameOf item) (intOf item "qp_used") (intOf item "qp_limit")
      (intOf item "mr_used") (intOf item "mr_limit")
  | none => []

/-- `%d/%d` or `%lu/%lu` of two members, if both are there. -/
def ifMembers (o : Json) (used limit : String) (print : Json → Json → Bytes) : Bytes :=
  match o.getEx (text used), o.getEx (text limit) with
  | some u, some l => print u l
  | _, _ => []

/-- SOURCE: tenant_manager_client.c:195 -/
def shownStatus (status : Int32) : Bytes :=
  if status = 1 then text "ACTIVE" else if status = 2 then text "SUSPENDED" else text "INACTIVE"

/-- The status of one tenant.
SOURCE: tenant_manager_client.c:184-217 -/
def printTenant (data : Json) : Bytes :=
  ifMember data "id" (fun id => text "  Tenant ID: " ++ shownInt id.getInt ++ text "\n") ++
  ifMember data "name" (fun name => text "  Name: " ++ shown name.getString ++ text "\n") ++
  ifMember data "status" (fun st => text "  Status: " ++ shownStatus st.getInt ++ text "\n") ++
  ifMembers data "qp_used" "qp_limit" (fun used limit =>
    text "  QP: " ++ shownInt used.getInt ++ text "/" ++ shownInt limit.getInt ++ text "\n") ++
  ifMembers data "mr_used" "mr_limit" (fun used limit =>
    text "  MR: " ++ shownInt used.getInt ++ text "/" ++ shownInt limit.getInt ++ text "\n") ++
  ifMembers data "memory_used" "memory_limit" (fun used limit =>
    text "  Memory: " ++ shownLong used.getInt64 ++ text "/" ++ shownLong limit.getInt64 ++
      text " bytes\n") ++
  ifMember data "total_qp_creates" (fun n =>
    text "  Total QP creates: " ++ shownLong n.getInt64 ++ text "\n") ++
  ifMember data "total_mr_regs" (fun n =>
    text "  Total MR registers: " ++ shownLong n.getInt64 ++ text "\n")

/-- What stands before the tenants of a list.
SOURCE: tenant_manager_client.c:145-150 -/
def printListHead (data : Json) : Bytes :=
  ifMember data "count" (fun n => text "  Active tenants: " ++ shownInt n.getInt ++ text "\n") ++
  ifMember data "version" (fun n => text "  Policy version: " ++ shownLong n.getInt64 ++ text "\n")

/-- SOURCE: tenant_manager_client.c:104-219 -/
def printData : Json → Bytes
  | .array items => items.flatMap printStatusItem
  | .object members =>
    let data := Json.object members
    printListHead data ++
      match data.getEx (text "tenants") with
      | some (.array tenants) => text "\n  Tenants:\n" ++ tenants.flatMap printListItem
      | _ => printTenant data
  | _ => []

/-- SOURCE: tenant_manager_client.c:81-222 -/
def printResponse (parse : Bytes → Json) (response : Bytes) : Bytes :=
  match parse response with
  | .null => text "Response: " ++ response ++ text "\n"
  | obj =>
    ifMember obj "success" (fun s => if s.getBoolean then text "✓ Success\n" else text "✗ Failed\n") ++
    ifMember obj "message" (fun m => text "Message: " ++ shown m.getString ++ text "\n") ++
    ifMember obj "data" (fun data => text "\nData:\n" ++ printData data)

end RdmaIntercept.Model
