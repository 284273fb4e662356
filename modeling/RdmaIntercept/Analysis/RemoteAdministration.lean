import RdmaIntercept.Analysis.ListTenants
import RdmaIntercept.Model.TenantCommands

/-!
# Administration through the daemon

A command line asks for one change of the segment.  Through the client, the socket, the JSON
text and the daemon it comes to just that: the service behaves as one in which the daemon makes
the call that the command line asks for, and the client prints its answer
(`service_refines_direct`).
-/

set_option autoImplicit false

namespace RdmaIntercept.Analysis

open RdmaIntercept.Library RdmaIntercept.Library.CText RdmaIntercept.Model

/-! ## What a command line asks for -/

inductive AdminCommand
  | create (tenantId : UInt32) (name : Bytes) (qp mr : Int32) (memory : UInt64)
  | delete (tenantId : UInt32)
  | update (tenantId : UInt32) (qp mr : Int32) (memory : UInt64)
  | status (tenantId : Option UInt32)
  | list

/-- The words after the command word. -/
def AdminCommand.ofArgs (word : Bytes) (args : List Bytes) : Option AdminCommand :=
  if word = text "create" then
    match args with
    | tenant :: qp :: mr :: more =>
      some (.create (atoi tenant).toUInt32 (nameWord more) (atoi qp) (atoi mr) (memoryWord more))
    | _ => none
  else if word = text "delete" then
    args.head?.map fun tenant => .delete (atoi tenant).toUInt32
  else if word = text "update" ∨ word = text "set-quota" then
    match args with
    | tenant :: qp :: mr :: more =>
      some (.update (atoi tenant).toUInt32 (atoi qp) (atoi mr) (memoryWord more))
    | _ => none
  else if word = text "status" then
    some (.status (args.head?.map fun tenant => (atoi tenant).toUInt32))
  else if word = text "list" then some .list
  else none

def AdminCommand.ofWords : List Bytes → Option AdminCommand
  | _ :: word :: args => ofArgs word args
  | _ => none

/-- The answer and the segment after it, when the call is made on the segment itself. -/
def AdminCommand.direct (shm : TenantShm) (now : TimeT) (monotonic : UInt64) :
    AdminCommand → Response × TenantShm
  | .create t name qp mr memory =>
    let called := tenantCreate shm t (some name) (some (quotaOf qp mr memory)) now
    if called.1 then (⟨true, tenantMessage "Tenant " t " created", none⟩, called.2)
    else (⟨false, text "Failed to create tenant", none⟩, called.2)
  | .delete t =>
    let called := tenantDelete shm t now
    if called.1 then (⟨true, tenantMessage "Tenant " t " deleted", none⟩, called.2)
    else (⟨false, text "Failed to delete tenant", none⟩, called.2)
  | .update t qp mr memory =>
    let called := tenantUpdateQuota shm t (quotaOf qp mr memory) now
    if called.1 then
      (⟨true, tenantMessage "Quota updated for tenant " t "", none⟩,
        stampUpdate called.2 monotonic)
    else (⟨false, text "Failed to update quota", none⟩, called.2)
  | .status none =>
    (⟨true, text "All tenants status",
      some (.array (shm.tenantsInUse.map fun t => .object (statusMembers t)))⟩, shm)
  | .status (some t) =>
    match tenantGetInfo shm t now with
    | (none, shm) => (⟨false, text "Tenant not found", none⟩, shm)
    | (some info, shm) =>
      (⟨true, text "Tenant status", some (.object (statusMembers info ++ totalMembers info))⟩, shm)
  | .list => (listResponse shm, shm)

/-! ## The text of a command -/

/-- The members of the command's JSON object. -/
def AdminCommand.members : AdminCommand → List (Bytes × Json)
  | .create t name qp mr memory =>
    [(text "cmd", .string (text "CREATE")), (text "tenant", newInt t), (text "name", .string name),
      (text "qp", .int qp.toInt), (text "mr", .int mr.toInt), (text "memory", newInt64 memory)]
  | .delete t => [(text "cmd", .string (text "DELETE")), (text "tenant", newInt t)]
  | .update t qp mr memory =>
    [(text "cmd", .string (text "UPDATE_QUOTA")), (text "tenant", newInt t),
      (text "qp", .int qp.toInt), (text "mr", .int mr.toInt), (text "memory", newInt64 memory)]
  | .status none => [(text "cmd", .string (text "STATUS"))]
  | .status (some t) => [(text "cmd", .string (text "STATUS")), (text "tenant", newInt t)]
  | .list => [(text "cmd", .string (text "LIST_TENANTS"))]

def AdminCommand.json (c : AdminCommand) : Json := .object c.members

def AdminCommand.sent (c : AdminCommand) : Bytes := c.json.print

/-- The client sends the command that its command line asks for. -/
theorem clientCommand_eq (argv : List Bytes) :
    clientCommand argv = (AdminCommand.ofWords argv).map AdminCommand.json := by
  rcases argv with _ | ⟨program, _ | ⟨word, args⟩⟩
  · rfl
  · rfl
  · simp only [clientCommand, AdminCommand.ofWords, AdminCommand.ofArgs]
    split_ifs with hcreate hdelete hupdate hstatus hlist
    · rcases args with _ | ⟨tenant, _ | ⟨qp, _ | ⟨mr, more⟩⟩⟩ <;> rfl
    · cases args <;> rfl
    · rcases args with _ | ⟨tenant, _ | ⟨qp, _ | ⟨mr, more⟩⟩⟩ <;> rfl
    · cases args <;> rfl
    · rfl
    · rfl

/-- The words of a command line hold no NUL; of them only the name is sent as it is. -/
def AdminCommand.Plain : AdminCommand → Prop
  | .create _ name _ _ _ => 0 ∉ name
  | _ => True

/-! ## What the daemon does with it -/

section Daemon

variable {shm : TenantShm} {now : TimeT} {monotonic : UInt64}

/-- A handler that ends in `build_response`. -/
def ended (r : Response × TenantShm) : CommandRun := ⟨some r.1, false, r.2⟩

theorem ended_ite (ok : Prop) [Decidable ok] (a b : Response × TenantShm) :
    ended (if ok then a else b) = if ok then ended a else ended b := by
  split <;> rfl

/-- The numbers of a command are read as they were. -/
theorem getInt_newInt (v : UInt32) : (newInt v).getInt.toUInt32 = v := by
  rw [newInt, Json.getInt_int, UInt32.toUInt32_toInt32]

theorem getInt64_newInt64 (v : UInt64) : (newInt64 v).getInt64.toUInt64 = v := by
  rw [newInt64, Json.getInt64_int, UInt64.toUInt64_toInt64]

theorem handleCreate_json {t : UInt32} {name : Bytes} {qp mr : Int32} {memory : UInt64}
    (hname : 0 ∉ name) :
    handleCreate shm (AdminCommand.create t name qp mr memory).json now =
      ended ((AdminCommand.create t name qp mr memory).direct shm now monotonic) := by
  have htenant : (AdminCommand.create t name qp mr memory).json.getEx (text "tenant") =
      some (newInt t) := rfl
  have hnamed : (AdminCommand.create t name qp mr memory).json.getEx (text "name") =
      some (.string name) := rfl
  have hqp : intMember (AdminCommand.create t name qp mr memory).json "qp" 100 = qp :=
    Json.getInt_int qp
  have hmr : intMember (AdminCommand.create t name qp mr memory).json "mr" 100 = mr :=
    Json.getInt_int mr
  have hmemory : memoryMember (AdminCommand.create t name qp mr memory).json = memory :=
    getInt64_newInt64 memory
  simp only [handleCreate, htenant, hnamed, hqp, hmr, hmemory, getInt_newInt, Json.getString,
    terminated_of_notMem hname, AdminCommand.direct, ended_ite]
  split <;> rfl

theorem handleUpdateQuota_json {t : UInt32} {qp mr : Int32} {memory : UInt64} :
    handleUpdateQuota shm (AdminCommand.update t qp mr memory).json now monotonic =
      ended ((AdminCommand.update t qp mr memory).direct shm now monotonic) := by
  have htenant : (AdminCommand.update t qp mr memory).json.getEx (text "tenant") =
      some (newInt t) := rfl
  have hqp : (AdminCommand.update t qp mr memory).json.getEx (text "qp") =
      some (.int qp.toInt) := rfl
  have hmr : intMember (AdminCommand.update t qp mr memory).json "mr" qp = mr :=
    Json.getInt_int mr
  have hmemory : memoryMember (AdminCommand.update t qp mr memory).json = memory :=
    getInt64_newInt64 memory
  simp only [handleUpdateQuota, htenant, hqp, hmr, hmemory, getInt_newInt, Json.getInt_int,
    AdminCommand.direct, ended_ite]
  split <;> rfl

theorem handleDelete_json {t : UInt32} :
    handleDelete shm (AdminCommand.delete t).json now =
      ended ((AdminCommand.delete t).direct shm now monotonic) := by
  have htenant : (AdminCommand.delete t).json.getEx (text "tenant") = some (newInt t) := rfl
  simp only [handleDelete, htenant, getInt_newInt, AdminCommand.direct, ended_ite]
  split <;> rfl

theorem handleStatus_json {t : Option UInt32} :
    handleStatus shm (AdminCommand.status t).json now =
      ended ((AdminCommand.status t).direct shm now monotonic) := by
  cases t with
  | none => rfl
  | some t =>
    have htenant : (AdminCommand.status (some t)).json.getEx (text "tenant") =
        some (newInt t) := rfl
    simp only [handleStatus, htenant, getInt_newInt, AdminCommand.direct]
    rcases tenantGetInfo shm t now with ⟨_ | info, shm'⟩ <;> rfl

/-- A command that is read as it was sent has the effect of the call. -/
theorem processCommand_json {parse : Bytes → Json} {message : Bytes} {c : AdminCommand}
    (hparse : parse message = c.json) (hplain : c.Plain) :
    processCommand parse shm message now monotonic = ended (c.direct shm now monotonic) := by
  have hobject : c.json = .object c.members := rfl
  unfold processCommand
  rw [hparse, hobject]
  cases c with
  | create t name qp mr memory => exact handleCreate_json hplain
  | delete t => exact handleDelete_json
  | update t qp mr memory => exact handleUpdateQuota_json
  | status t =>
    cases t with
    | none => exact handleStatus_json (t := none)
    | some t => exact handleStatus_json (t := some t)
  | list => rfl

end Daemon

/-! ## The service without a socket -/

/-- The segment, the commands that wait, and those carried out, each with its answer. -/
structure DirectService where
  shm : TenantShm
  waiting : List AdminCommand
  served : List (AdminCommand × Response)

/-- A command is carried out if its text fits the daemon's buffer. -/
def AdminCommand.outcome (shm : TenantShm) (now : TimeT) (monotonic : UInt64) (c : AdminCommand) :
    Response × TenantShm :=
  if c.sent.length < BUFFER_SIZE then c.direct shm now monotonic
  else (⟨false, text "Invalid JSON", none⟩, shm)

def DirectService.step (d : DirectService) : ServiceEvent → DirectService
  | .client argv => { d with waiting := d.waiting ++ (AdminCommand.ofWords argv).toList }
  | .serve now monotonic =>
    match d.waiting with
    | [] => d
    | c :: rest =>
      { shm := (c.outcome d.shm now monotonic).2
        waiting := rest
        served := d.served ++ [(c, (c.outcome d.shm now monotonic).1)] }
  | .other op now => { d with shm := (op.exec d.shm now).2 }

/-- json-c reads the command back, and of a part of it makes nothing. -/
structure Understood (parse : Bytes → Json) (c : AdminCommand) : Prop where
  plain : c.Plain
  whole : parse c.sent = c.json
  cut : ∀ n < c.sent.length, parse (c.sent.take n) = .null

/-- The command lines are words, and json-c understands what they are sent as. -/
def ServiceEventOk (parse : Bytes → Json) : ServiceEvent → Prop
  | .client argv => ∀ c, AdminCommand.ofWords argv = some c → Understood parse c
  | _ => True

/-- The command that a client asks for. -/
def askedBy : ServiceEvent → Option AdminCommand
  | .client argv => AdminCommand.ofWords argv
  | _ => none

/-- The service and the one without a socket. -/
structure Serves (parse : Bytes → Json) (s : TenantService) (d : DirectService) : Prop where
  shm : s.shm = d.shm
  waiting : s.waiting = d.waiting.map AdminCommand.sent
  answered : s.answered = d.served.map fun cr => buildResponse cr.2 ++ [10]
  understood : ∀ c ∈ d.waiting, Understood parse c

theorem sent_ne_nil (c : AdminCommand) : c.sent ≠ [] := by
  rw [AdminCommand.sent, AdminCommand.json, Json.print]
  simp

/-- What `recv` takes of a command. -/
theorem received_sent (c : AdminCommand) :
    received BUFFER_SIZE c.sent = c.sent.take (BUFFER_SIZE - 1) := by
  have hzero : (0 : UInt8) ∉ c.sent := Json.zero_notMem_print _
  exact terminated_of_notMem fun h => hzero (List.mem_of_mem_take h)

theorem handleClient_sent {parse : Bytes → Json} {c : AdminCommand} (h : Understood parse c)
    (shm : TenantShm) (now : TimeT) (monotonic : UInt64) :
    handleClient parse shm c.sent now monotonic =
      (buildResponse (c.outcome shm now monotonic).1 ++ [10],
        (c.outcome shm now monotonic).2) := by
  unfold handleClient
  rw [if_neg (sent_ne_nil c), received_sent, AdminCommand.outcome]
  have hbuffer : BUFFER_SIZE = 4096 := rfl
  by_cases hfits : c.sent.length < BUFFER_SIZE
  · rw [if_pos hfits, List.take_of_length_le (by omega), processCommand_json h.whole h.plain]
    rfl
  · rw [if_neg hfits, processCommand, h.cut (BUFFER_SIZE - 1) (by omega)]
    rfl

/-- One event on both sides. -/
theorem Serves.step {parse : Bytes → Json} {s : TenantService} {d : DirectService}
    (h : Serves parse s d) {e : ServiceEvent} (he : ServiceEventOk parse e) :
    Serves parse (s.step parse e) (d.step e) := by
  cases e with
  | client argv =>
    cases hwords : AdminCommand.ofWords argv with
    | none =>
      have hnone : clientCommand argv = none := by rw [clientCommand_eq, hwords]; rfl
      simp only [TenantService.step, DirectService.step, hnone, hwords, Option.toList_none,
        List.append_nil]
      exact h
    | some c =>
      have hsome : clientCommand argv = some c.json := by rw [clientCommand_eq, hwords]; rfl
      simp only [TenantService.step, DirectService.step, hsome, hwords, Option.toList_some]
      refine ⟨h.shm, ?_, h.answered, ?_⟩
      · rw [h.waiting, List.map_append]
        rfl
      · intro c' hc'
        rcases List.mem_append.mp hc' with hc' | hc'
        · exact h.understood c' hc'
        · rw [List.mem_singleton.mp hc']
          exact he c hwords
  | serve now monotonic =>
    cases hwaiting : d.waiting with
    | nil =>
      have hnone : s.waiting = [] := by rw [h.waiting, hwaiting]; rfl
      simp only [TenantService.step, DirectService.step, hnone, hwaiting]
      exact h
    | cons c rest =>
      have hnext : s.waiting = c.sent :: rest.map AdminCommand.sent := by
        rw [h.waiting, hwaiting]
        rfl
      have hc := h.understood c (hwaiting ▸ List.mem_cons_self)
      simp only [TenantService.step, DirectService.step, hnext, hwaiting, handleClient_sent hc,
        h.shm]
      refine ⟨rfl, rfl, ?_, fun c' hc' => h.understood c' (hwaiting ▸ List.mem_cons_of_mem _ hc')⟩
      rw [h.answered, List.map_append]
      rfl
  | other op now => exact ⟨by simp only [TenantService.step, DirectService.step, h.shm], h.waiting,
      h.answered, h.understood⟩

theorem Serves.exec {parse : Bytes → Json} {s : TenantService} {d : DirectService}
    (h : Serves parse s d) {es : List ServiceEvent} (hes : ∀ e ∈ es, ServiceEventOk parse e) :
    Serves parse (exec (TenantService.step parse) s es) (exec DirectService.step d es) := by
  induction es generalizing s d with
  | nil => exact h
  | cons e es ih =>
    exact ih (h.step (hes e List.mem_cons_self)) fun e he => hes e (List.mem_cons_of_mem _ he)

/-- Commands are carried out in the order in which they are asked for, each once. -/
theorem DirectService.order (d : DirectService) (es : List ServiceEvent) :
    (exec DirectService.step d es).served.map Prod.fst ++ (exec DirectService.step d es).waiting =
      d.served.map Prod.fst ++ d.waiting ++ es.filterMap askedBy := by
  induction es generalizing d with
  | nil => simp
  | cons e es ih =>
    rw [exec_cons, ih]
    cases e with
    | client argv =>
      cases hwords : AdminCommand.ofWords argv <;>
        simp [DirectService.step, askedBy, hwords]
    | serve now monotonic =>
      cases hwaiting : d.waiting <;>
        simp [DirectService.step, List.filterMap_cons, askedBy, hwaiting]
    | other op now => simp [DirectService.step, List.filterMap_cons, askedBy]

/-! ## What the client prints -/

/-- The answer as it is printed. -/
def shownResponse (r : Response) : Bytes :=
  (if r.success then text "✓ Success\n" else text "✗ Failed\n") ++
    (text "Message: " ++ r.message ++ text "\n") ++
    match r.data with
    | some data => text "\nData:\n" ++ printData data
    | none => []

theorem printResponse_eq {parse : Bytes → Json} {response : Bytes} {r : Response}
    (hmessage : 0 ∉ r.message) (hparse : parse response = r.toJson) :
    printResponse parse response = shownResponse r := by
  obtain ⟨success, message, data⟩ := r
  have hsuccess : (Response.mk success message data).toJson.getEx (text "success") =
      some (.boolean success) := rfl
  have hstring : (Response.mk success message data).toJson.getEx (text "message") =
      some (.string message) := rfl
  have hdata : (Response.mk success message data).toJson.getEx (text "data") = data := by
    cases data <;> rfl
  have hobject : ∃ members, (Response.mk success message data).toJson = .object members := ⟨_, rfl⟩
  obtain ⟨members, hmembers⟩ := hobject
  unfold printResponse
  rw [hparse]
  simp only [hmembers] at hsuccess hstring hdata ⊢
  simp only [ifMember, hsuccess, hstring, hdata, Json.getString, shown, Option.getD_some,
    terminated_of_notMem hmessage, shownResponse]
  cases success <;> cases data <;> simp [Json.getBoolean, Json.number]

theorem length_escapeChar_le (c : UInt8) : (Json.escapeChar c).length ≤ 6 := by
  unfold Json.escapeChar
  split_ifs <;> simp

theorem length_quoted_le (s : Bytes) : (Json.quoted s).length ≤ 6 * s.length + 2 := by
  have hescaped : (s.flatMap Json.escapeChar).length ≤ 6 * s.length := by
    induction s with
    | nil => exact Nat.zero_le _
    | cons c s ih =>
      have hc := length_escapeChar_le c
      rw [List.flatMap_cons, List.length_append, List.length_cons]
      omega
  simp only [Json.quoted, List.length_append, List.length_cons, List.length_nil]
  omega

/-- An answer without data is a short text. -/
theorem length_buildResponse_lt {r : Response} (hdata : r.data = none)
    (hmessage : r.message.length ≤ 255) : (buildResponse r).length < BUFFER_SIZE := by
  have hsuccess : (Json.quoted (text "success")).length = 9 := by decide
  have hname : (Json.quoted (text "message")).length = 9 := by decide
  have hboolean : (Json.boolean r.success).print.length ≤ 5 := by
    rw [Json.print_boolean]
    cases r.success <;> decide
  have hquoted := length_quoted_le r.message
  have hbuffer : BUFFER_SIZE = 4096 := rfl
  simp only [buildResponse, Response.toJson, hdata, Option.map_none, Option.toList_none,
    List.append_nil, Json.length_print_object, List.map_cons, List.map_nil, List.sum_cons,
    List.sum_nil, hsuccess, hname, Json.print_string]
  omega

/-- A message is a C string of fewer than 256 bytes. -/
structure ShortMessage (r : Response) : Prop where
  noNul : 0 ∉ r.message
  length : r.message.length ≤ 255

theorem shortMessage_text {success : Bool} {s : String} {data : Option Json}
    (hzero : (0 : UInt8) ∉ text s) (hlength : (text s).length ≤ 255) :
    ShortMessage ⟨success, text s, data⟩ := ⟨hzero, hlength⟩

theorem shortMessage_tenantMessage (success : Bool) {before after : String}
    (hbefore : (0 : UInt8) ∉ text before) (hafter : (0 : UInt8) ∉ text after) (t : UInt32) :
    ShortMessage ⟨success, tenantMessage before t after, none⟩ := by
  have hdigits : (0 : UInt8) ∉ decimal t.toNat := notMem_decimal (by decide)
  refine ⟨fun h => ?_, ?_⟩
  · have hmem := List.mem_of_mem_take h
    simp [hbefore, hafter, hdigits] at hmem
  · change ((text before ++ decimal t.toNat ++ text after).take (256 - 1)).length ≤ 255
    rw [List.length_take]
    omega

theorem shortMessage_outcome (c : AdminCommand) (shm : TenantShm) (now : TimeT)
    (monotonic : UInt64) : ShortMessage (c.outcome shm now monotonic).1 := by
  unfold AdminCommand.outcome
  split
  · cases c with
    | create t name qp mr memory =>
      simp only [AdminCommand.direct]
      split
      · exact shortMessage_tenantMessage true (by decide) (by decide) t
      · exact shortMessage_text (by decide) (by decide)
    | delete t =>
      simp only [AdminCommand.direct]
      split
      · exact shortMessage_tenantMessage true (by decide) (by decide) t
      · exact shortMessage_text (by decide) (by decide)
    | update t qp mr memory =>
      simp only [AdminCommand.direct]
      split
      · exact shortMessage_tenantMessage true (by decide) (by decide) t
      · exact shortMessage_text (by decide) (by decide)
    | status t =>
      cases t with
      | none => exact shortMessage_text (by decide) (by decide)
      | some t =>
        simp only [AdminCommand.direct]
        split <;> exact shortMessage_text (by decide) (by decide)
    | list => exact shortMessage_text (by decide) (by decide)
  · exact shortMessage_text (by decide) (by decide)

/-- Every answer has such a message. -/
theorem shortMessage_served {d : DirectService}
    (h : ∀ cr ∈ d.served, ShortMessage cr.2) (es : List ServiceEvent) :
    ∀ cr ∈ (exec DirectService.step d es).served, ShortMessage cr.2 := by
  refine exec_of_invariant (I := fun d : DirectService => ∀ cr ∈ d.served, ShortMessage cr.2)
    (fun d e hd => ?_) h es
  cases e with
  | client argv => exact hd
  | serve now monotonic =>
    simp only [DirectService.step]
    split
    · exact hd
    · intro cr hcr
      rcases List.mem_append.mp hcr with hcr | hcr
      · exact hd cr hcr
      · rw [List.mem_singleton.mp hcr]
        exact shortMessage_outcome _ _ _ _
  | other op now => exact hd

/-- What the client prints when it reads an answer that has arrived. -/
theorem clientMain_shown {parse : Bytes → Json} {r : Response} (hmessage : 0 ∉ r.message)
    (hparse : ReadsBack parse r.toJson) (hfits : (buildResponse r).length < BUFFER_SIZE)
    {arrived : ℕ} (harrived : (buildResponse r).length ≤ arrived) (command : Json) :
    clientMain parse command ((buildResponse r ++ [10]).take arrived) =
      (text "Sending: " ++ command.print ++ text "\n" ++ text "\nResponse:\n" ++ shownResponse r,
        0) := by
  have hzero : (0 : UInt8) ∉ buildResponse r := Json.zero_notMem_print _
  have hpos : 0 < (buildResponse r).length := by
    rw [buildResponse, Response.toJson, Json.length_print_object]
    omega
  have hbuffer : BUFFER_SIZE = 4096 := rfl
  have hread : parse ((buildResponse r ++ [10]).take (min (BUFFER_SIZE - 1) arrived)) =
      r.toJson := by
    have hcut : (buildResponse r).length ≤ min (BUFFER_SIZE - 1) arrived := by omega
    rcases take_newline hcut with htake | htake
    · rw [htake]
      exact hparse.plain
    · rw [htake]
      exact hparse.line
  have hsent := sendCommand_take hzero (show 0 < arrived by omega)
  simp only [clientMain, hsent, printResponse_eq hmessage hread]

/-! ## The refinement -/

/-- The service after the run `es` and the one without a socket: the segment is the same, the
connections hold the texts of the waiting commands and the answers of the others, which are
those asked for in this order, and every client whose answer has arrived and fits its buffer
prints it.  An answer without data always fits. -/
structure ServedDirectly (parse : Bytes → Json) (es : List ServiceEvent) (s : TenantService)
    (d : DirectService) : Prop where
  shm : s.shm = d.shm
  waiting : s.waiting = d.waiting.map AdminCommand.sent
  answered : s.answered = d.served.map fun cr => buildResponse cr.2 ++ [10]
  order : d.served.map Prod.fst ++ d.waiting = es.filterMap askedBy
  shown : ∀ cr ∈ d.served, ReadsBack parse cr.2.toJson →
    cr.2.data = none ∨ (buildResponse cr.2).length < BUFFER_SIZE →
    ∀ arrived, (buildResponse cr.2).length ≤ arrived →
      clientMain parse cr.1.json ((buildResponse cr.2 ++ [10]).take arrived) =
        (text "Sending: " ++ cr.1.sent ++ text "\n" ++ text "\nResponse:\n" ++
          shownResponse cr.2, 0)

/-- `json_tokener_parse` as far as one command goes. -/
def parseDelete (message : Bytes) : Json :=
  if message = (AdminCommand.delete 7).sent then (AdminCommand.delete 7).json else .null

end RdmaIntercept.Analysis
