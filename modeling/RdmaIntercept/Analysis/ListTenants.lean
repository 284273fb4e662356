import Mathlib.Algebra.Order.BigOperators.Group.List
import Mathlib.Algebra.Order.Group.Nat
import RdmaIntercept.Analysis.InfoSnapshot
import RdmaIntercept.Analysis.NamedRecords
import RdmaIntercept.Model.TenantClient

/-!
# The list of tenants, from the store to the terminal

The daemon prints one JSON document for all records in use, and the client takes one chunk
of 4095 bytes at most out of the stream.  Each tenant adds its numbers and its escaped name
to the document (`length_document`), so the client shows the list exactly as long as this
size stays below that of its buffer and the document has arrived when the client reads.
-/

set_option autoImplicit false

namespace RdmaIntercept.Analysis

open RdmaIntercept.Library RdmaIntercept.Library.CText RdmaIntercept.Model

/-! ## The records in use -/

/-- The ids that the list has, in its order. -/
def listedIds (shm : TenantShm) : List UInt32 := shm.tenantsInUse.map TenantInfo.tenantId

theorem mem_tenantsInUse {shm : TenantShm} {info : TenantInfo} :
    info ∈ shm.tenantsInUse ↔
      ∃ u : UInt32, u.toNat < MAX_TENANTS ∧ shm.tenant u = info ∧ info.status ≠ .inactive := by
  simp only [TenantShm.tenantsInUse, List.mem_filter, List.mem_map, List.mem_finRange, true_and,
    decide_eq_true_eq]
  constructor
  · rintro ⟨⟨i, rfl⟩, huse⟩
    obtain ⟨u, hu, -, hrecord⟩ := tenants_eq_tenant shm i
    exact ⟨u, hu, hrecord.symm, huse⟩
  · rintro ⟨u, -, rfl, huse⟩
    exact ⟨⟨tenantSlot u, rfl⟩, huse⟩

/-- The list has the ids of the records in use. -/
theorem mem_listedIds {shm : TenantShm} (h : NamesRecords shm) {t : UInt32} :
    t ∈ listedIds shm ↔ t.toNat < MAX_TENANTS ∧ (shm.tenant t).status ≠ .inactive := by
  simp only [listedIds, List.mem_map, mem_tenantsInUse]
  constructor
  · rintro ⟨info, ⟨u, hu, rfl, huse⟩, hid⟩
    obtain rfl : u = t := (h u hu huse).1.symm.trans hid
    exact ⟨hu, huse⟩
  · rintro ⟨ht, huse⟩
    exact ⟨_, ⟨t, ht, rfl, huse⟩, (h t ht huse).1⟩

/-- It has each of them once. -/
theorem nodup_listedIds {shm : TenantShm} (h : NamesRecords shm) : (listedIds shm).Nodup := by
  have hslot : ∀ i, (shm.tenants i).status ≠ .inactive →
      tenantSlot (shm.tenants i).tenantId = i := by
    intro i huse
    obtain ⟨u, hu, hi, hrecord⟩ := tenants_eq_tenant shm i
    rw [hrecord] at huse ⊢
    rw [(h u hu huse).1, hi]
  rw [listedIds, TenantShm.tenantsInUse, List.filter_map, List.map_map]
  apply List.Nodup.map_on _ ((List.nodup_finRange _).filter _)
  intro i hi j hj hij
  have huse : ∀ k, k ∈ (List.finRange MAX_TENANTS).filter
      ((fun t : TenantInfo => decide (t.status ≠ .inactive)) ∘ shm.tenants) →
      (shm.tenants k).status ≠ .inactive := by
    intro k hk
    simpa using (List.mem_filter.mp hk).2
  rw [← hslot i (huse i hi), ← hslot j (huse j hj)]
  exact congrArg tenantSlot hij

/-! ## The document -/

/-- What the daemon answers to LIST_TENANTS. -/
def listResponse (shm : TenantShm) : Response := ⟨true, text "Tenant list", some (listData shm)⟩

def document (shm : TenantShm) : Bytes := buildResponse (listResponse shm)

/-- The digits of a number in the document. -/
def numberSize (v : ℤ) : ℕ := (Json.signedDecimal v).length

/-- What one tenant adds to the document, the blank before it and the comma behind it
included. -/
def tenantSize (info : TenantInfo) : ℕ :=
  78 + (info.tenantName.flatMap Json.escapeChar).length +
    numberSize info.tenantId.toInt32.toInt +
    numberSize info.usage.qpCount.toInt + numberSize info.quota.maxQpPerTenant.toInt32.toInt +
    numberSize info.usage.mrCount.toInt + numberSize info.quota.maxMrPerTenant.toInt32.toInt

/-- The size of the document, from the records and the version. -/
def listSize (shm : TenantShm) : ℕ :=
  97 + numberSize shm.tenantsInUse.length + numberSize shm.version.toInt64.toInt +
    ((shm.tenantsInUse.map tenantSize).sum - 1)

theorem length_listItem (info : TenantInfo) :
    (Json.object (listMembers info)).print.length + 2 = tenantSize info := by
  have hid : (Json.quoted (text "id")).length = 4 := by decide
  have hname : (Json.quoted (text "name")).length = 6 := by decide
  have hqp : (Json.quoted (text "qp_used")).length = 9 := by decide
  have hqpLimit : (Json.quoted (text "qp_limit")).length = 10 := by decide
  have hmr : (Json.quoted (text "mr_used")).length = 9 := by decide
  have hmrLimit : (Json.quoted (text "mr_limit")).length = 10 := by decide
  have hstring : (Json.quoted info.tenantName).length =
      (info.tenantName.flatMap Json.escapeChar).length + 2 := by
    simp [Json.quoted]
  simp only [Json.length_print_object, listMembers, List.map_cons, List.map_nil, List.sum_cons,
    List.sum_nil, hid, hname, hqp, hqpLimit, hmr, hmrLimit, hstring, newInt, Json.print_int,
    Json.print_string, tenantSize, numberSize]
  omega

theorem length_document (shm : TenantShm) : (document shm).length = listSize shm := by
  have hitems : (shm.tenantsInUse.map fun t => Json.object (listMembers t)).map
      (fun e => e.print.length + 2) = shm.tenantsInUse.map tenantSize := by
    rw [List.map_map]
    exact List.map_congr_left fun info _ => length_listItem info
  have hsuccess : (Json.quoted (text "success")).length = 9 := by decide
  have hmessage : (Json.quoted (text "message")).length = 9 := by decide
  have hdata : (Json.quoted (text "data")).length = 6 := by decide
  have hcount : (Json.quoted (text "count")).length = 7 := by decide
  have hversion : (Json.quoted (text "version")).length = 9 := by decide
  have htenants : (Json.quoted (text "tenants")).length = 9 := by decide
  have htrue : (text "true").length = 4 := by decide
  have hlist : (Json.quoted (text "Tenant list")).length = 13 := by decide
  simp only [document, buildResponse, Response.toJson, listResponse, listData, Option.map_some,
    Option.toList_some, List.cons_append, List.nil_append, Json.length_print_object,
    Json.length_print_array, hitems, List.map_cons, List.map_nil, List.sum_cons, List.sum_nil,
    hsuccess, hmessage, hdata, hcount, hversion, htenants, htrue, hlist, Json.print_boolean,
    Json.print_int, Json.print_string, newInt64, List.length_map, if_true, listSize, numberSize]
  omega

/-! ## What the client prints -/

/-- json-c reads the document back, also with the newline behind it. -/
structure ReadsBack (parse : Bytes → Json) (o : Json) : Prop where
  plain : parse o.print = o
  line : parse (o.print ++ [10]) = o

/-- The line for the record of a tenant. -/
def shownTenant (info : TenantInfo) : Bytes :=
  tenantLine info.tenantId info.tenantName info.usage.qpCount
    info.quota.maxQpPerTenant.toInt32 info.usage.mrCount info.quota.maxMrPerTenant.toInt32

/-- What is printed for the list: after the head, a line for each record in use. -/
def shownList (shm : TenantShm) : Bytes :=
  text "✓ Success\n" ++ text "Message: Tenant list\n" ++
    (text "\nData:\n" ++ (printListHead (listData shm) ++
      (text "\n  Tenants:\n" ++ shm.tenantsInUse.flatMap shownTenant)))

theorem printListItem_listMembers {info : TenantInfo} (hname : 0 ∉ info.tenantName) :
    printListItem (.object (listMembers info)) = shownTenant info := by
  have hid : (Json.object (listMembers info)).getEx (text "id") = some (newInt info.tenantId) := rfl
  have hnamed : nameOf (.object (listMembers info)) = info.tenantName := by
    have hmember : (Json.object (listMembers info)).getEx (text "name") =
        some (.string info.tenantName) := rfl
    rw [nameOf, hmember]
    simp only [Json.getString, shown, Option.getD_some, terminated_of_notMem hname]
  have hqp : intOf (.object (listMembers info)) "qp_used" = info.usage.qpCount :=
    Json.getInt_int _
  have hqpLimit : intOf (.object (listMembers info)) "qp_limit" =
      info.quota.maxQpPerTenant.toInt32 := Json.getInt_int _
  have hmr : intOf (.object (listMembers info)) "mr_used" = info.usage.mrCount :=
    Json.getInt_int _
  have hmrLimit : intOf (.object (listMembers info)) "mr_limit" =
      info.quota.maxMrPerTenant.toInt32 := Json.getInt_int _
  rw [printListItem, hid]
  simp only [hnamed, hqp, hqpLimit, hmr, hmrLimit, newInt, Json.getInt_int,
    UInt32.toUInt32_toInt32, shownTenant]

/-- Data with an array of tenants are printed as a list. -/
theorem printData_of_tenants {members : List (Bytes × Json)} {tenants : List Json}
    (htenants : (Json.object members).getEx (text "tenants") = some (.array tenants)) :
    printData (.object members) =
      printListHead (.object members) ++
        (text "\n  Tenants:\n" ++ tenants.flatMap printListItem) := by
  simp only [printData, htenants]

theorem printData_listData {shm : TenantShm} (h : NamesRecords shm) :
    printData (listData shm) =
      printListHead (listData shm) ++
        (text "\n  Tenants:\n" ++ shm.tenantsInUse.flatMap shownTenant) := by
  have htenants : (listData shm).getEx (text "tenants") =
      some (.array (shm.tenantsInUse.map fun t => Json.object (listMembers t))) := rfl
  have hitems : (shm.tenantsInUse.map fun t => Json.object (listMembers t)).flatMap printListItem =
      shm.tenantsInUse.flatMap shownTenant := by
    rw [List.flatMap_map]
    apply List.flatMap_congr
    intro info hinfo
    obtain ⟨u, hu, rfl, huse⟩ := mem_tenantsInUse.mp hinfo
    exact printListItem_listMembers (h u hu huse).2
  rw [← hitems]
  exact printData_of_tenants htenants

theorem printResponse_of_document {shm : TenantShm} (h : NamesRecords shm)
    {parse : Bytes → Json} {response : Bytes}
    (hparse : parse response = (listResponse shm).toJson) :
    printResponse parse response = shownList shm := by
  have hsuccess : (listResponse shm).toJson.getEx (text "success") = some (.boolean true) := rfl
  have hmessage : (listResponse shm).toJson.getEx (text "message") =
      some (.string (text "Tenant list")) := rfl
  have hdata : (listResponse shm).toJson.getEx (text "data") = some (listData shm) := rfl
  have hanswer : printResponse (fun _ => (listResponse shm).toJson) response =
      ifMember (listResponse shm).toJson "success"
        (fun s => if s.getBoolean then text "✓ Success\n" else text "✗ Failed\n") ++
      ifMember (listResponse shm).toJson "message"
        (fun m => text "Message: " ++ shown m.getString ++ text "\n") ++
      ifMember (listResponse shm).toJson "data"
        (fun data => text "\nData:\n" ++ printData data) := rfl
  have hline : text "Message: " ++ shown (Json.string (text "Tenant list")).getString ++ text "\n" =
      text "Message: Tenant list\n" := by decide
  have hsame : printResponse parse response =
      printResponse (fun _ => (listResponse shm).toJson) response := by
    unfold printResponse
    rw [hparse]
  rw [hsame, hanswer, ifMember, ifMember, ifMember, hsuccess, hmessage, hdata]
  simp only [hline, printData_listData h]
  rfl

/-! ## One chunk of the stream -/

theorem take_newline {doc : Bytes} {n : ℕ} (h : doc.length ≤ n) :
    (doc ++ [10]).take n = doc ∨ (doc ++ [10]).take n = doc ++ [10] := by
  rcases Nat.eq_or_lt_of_le h with heq | hlt
  · left
    rw [← heq, List.take_left]
  · right
    apply List.take_of_length_le
    rw [List.length_append]
    exact hlt

theorem zero_notMem_document (shm : TenantShm) : (0 : UInt8) ∉ document shm :=
  Json.zero_notMem_print _

/-- What the client takes of the answer. -/
theorem sendCommand_take {doc : Bytes} (hzero : (0 : UInt8) ∉ doc) {arrived : ℕ}
    (harrived : 0 < arrived) :
    sendCommand ((doc ++ [10]).take arrived) =
      some ((doc ++ [10]).take (min (BUFFER_SIZE - 1) arrived)) := by
  have hne : (doc ++ [10]).take arrived ≠ [] := by
    rw [Ne, List.take_eq_nil_iff]
    simp [Nat.ne_of_gt harrived]
  have hmem : (0 : UInt8) ∉ (doc ++ [10]).take (min (BUFFER_SIZE - 1) arrived) := by
    intro h
    have := List.mem_of_mem_take h
    simp [hzero] at this
  rw [sendCommand, if_neg hne, received, List.take_take, terminated_of_notMem hmem]

/-- A whole document has fitted, and had arrived. -/
theorem length_le_of_whole {doc response : Bytes} (hzero : (0 : UInt8) ∉ doc) {arrived : ℕ}
    (hhanded : sendCommand ((doc ++ [10]).take arrived) = some response)
    (hwhole : response = doc ∨ response = doc ++ [10]) :
    doc.length < BUFFER_SIZE ∧ doc.length ≤ arrived := by
  have harrived : 0 < arrived := by
    apply Nat.pos_of_ne_zero
    rintro rfl
    simp [sendCommand] at hhanded
  rw [sendCommand_take hzero harrived] at hhanded
  have hresponse := congrArg List.length (Option.some.inj hhanded)
  have hlong : doc.length ≤ response.length := by
    rcases hwhole with rfl | rfl
    · exact Nat.le_refl _
    · rw [List.length_append]
      omega
  have hbuffer : BUFFER_SIZE = 4096 := rfl
  rw [List.length_take] at hresponse
  omega

/-- The answer to the client's command. -/
theorem handleClient_list {parse : Bytes → Json} (hcommand : parse buildListCmd = listCommand)
    (shm : TenantShm) (now : TimeT) (monotonic : UInt64) :
    (handleClient parse shm buildListCmd now monotonic).1 = document shm ++ [10] := by
  have hne : buildListCmd ≠ [] := by decide
  have hreceived : received BUFFER_SIZE buildListCmd = buildListCmd := by decide
  have hrun : processCommand parse shm buildListCmd now monotonic = handleListTenants shm := by
    unfold processCommand
    rw [hcommand]
    rfl
  unfold handleClient
  rw [if_neg hne, hreceived, hrun]
  rfl

/-- The text handed to `print_response` is the whole document, what is printed has a line for
each record in use, and no two of them have one id. -/
structure ShowsWholeList (parse : Bytes → Json) (shm : TenantShm) (handed : Option Bytes) :
    Prop where
  whole : ∃ response, handed = some response ∧
    (response = document shm ∨ response = document shm ++ [10]) ∧
    printResponse parse response = shownList shm
  ids : ∀ t, t ∈ listedIds shm ↔ t.toNat < MAX_TENANTS ∧ (shm.tenant t).status ≠ .inactive
  once : (listedIds shm).Nodup

/-- The client shows the whole list if and only if the document is shorter than its buffer, and
has arrived whole when it reads. -/
theorem listTenants_shown_iff {parse : Bytes → Json} {shm : TenantShm}
    (hshm : ServedStore parse shm) (hcommand : parse buildListCmd = listCommand)
    (hdoc : ReadsBack parse (listResponse shm).toJson) (now : TimeT) (monotonic : UInt64)
    (arrived : ℕ) :
    ShowsWholeList parse shm
        (sendCommand ((handleClient parse shm buildListCmd now monotonic).1.take arrived)) ↔
      listSize shm < BUFFER_SIZE ∧ listSize shm ≤ arrived := by
  have hnamed : NamesRecords shm := namesRecords_of_served hshm
  have hlength : (document shm).length = listSize shm := length_document shm
  have hpos : 0 < listSize shm := by
    unfold listSize
    omega
  rw [handleClient_list hcommand]
  constructor
  · rintro ⟨⟨response, hhanded, hwhole, -⟩, -, -⟩
    rw [← hlength]
    exact length_le_of_whole (zero_notMem_document shm) hhanded hwhole
  · rintro ⟨hsize, harrived⟩
    refine ⟨?_, fun t => mem_listedIds hnamed, nodup_listedIds hnamed⟩
    rw [sendCommand_take (zero_notMem_document shm) (Nat.lt_of_lt_of_le hpos harrived)]
    rcases take_newline (show (document shm).length ≤ min (BUFFER_SIZE - 1) arrived by omega) with
      hplain | hline
    · rw [hplain]
      exact ⟨_, rfl, Or.inl rfl, printResponse_of_document hnamed hdoc.plain⟩
    · rw [hline]
      exact ⟨_, rfl, Or.inr rfl, printResponse_of_document hnamed hdoc.line⟩

/-- `json_tokener_parse` as far as the answer for one store goes. -/
def readsAnswer (shm : TenantShm) (message : Bytes) : Json :=
  if message = buildListCmd then listCommand
  else if message = document shm ∨ message = document shm ++ [10] then (listResponse shm).toJson
  else .null

theorem readsBack_readsAnswer (shm : TenantShm) :
    ReadsBack (readsAnswer shm) (listResponse shm).toJson := by
  have hcommand : buildListCmd.length = 25 := by decide
  have hlength : (document shm).length = listSize shm := length_document shm
  have hsize : 97 ≤ listSize shm := by
    unfold listSize
    omega
  have hne : ∀ rest : Bytes, document shm ++ rest ≠ buildListCmd := by
    intro rest h
    have hlengths := congrArg List.length h
    rw [List.length_append] at hlengths
    omega
  constructor
  · have hplain := hne []
    rw [List.append_nil] at hplain
    exact (if_neg hplain).trans (if_pos (Or.inl rfl))
  · exact (if_neg (hne [10])).trans (if_pos (Or.inr rfl))

theorem listSize_fresh (now : TimeT) : listSize (.fresh now) = 99 := by
  have hempty : (TenantShm.fresh now).tenantsInUse = [] := by
    apply List.eq_nil_iff_forall_not_mem.mpr
    intro info hinfo
    obtain ⟨u, -, rfl, huse⟩ := mem_tenantsInUse.mp hinfo
    exact huse rfl
  have hcount : numberSize 0 = 1 := by decide
  have hversion : numberSize (1 : UInt64).toInt64.toInt = 1 := by decide
  rw [listSize, hempty]
  show 97 + numberSize 0 + numberSize (1 : UInt64).toInt64.toInt + 0 = 99
  rw [hcount, hversion]

theorem listTenants_shown_empty :
    ShowsWholeList (readsAnswer (.fresh 0)) (.fresh 0)
      (sendCommand ((handleClient (readsAnswer (.fresh 0)) (.fresh 0) buildListCmd 0 0).1.take
        100)) :=
  (listTenants_shown_iff (.init 0) (if_pos rfl) (readsBack_readsAnswer _) 0 0 100).mpr
    (by rw [listSize_fresh]; decide)

/-! ## All tenants -/

theorem served_afterCalls {parse : Bytes → Json} {shm : TenantShm} (h : ServedStore parse shm)
    (calls : List (TimeT × StoreOp)) : ServedStore parse (afterCalls shm calls) :=
  exec_of_invariant (fun _ call h => .call call.2 call.1 h) h calls

def allIds : List UInt32 := (List.range 63).map fun i => UInt32.ofNat (i + 1)

/-- Every tenant that there can be, without a name of its own. -/
def fullStore : TenantShm := afterCalls (.fresh 0) (allIds.map fun t => (0, .create t none none))

theorem mem_allIds {t : UInt32} (ht : t ∈ allIds) : t ≠ 0 ∧ t.toNat < MAX_TENANTS := by
  obtain ⟨i, hi, rfl⟩ := List.mem_map.mp ht
  have hrange : i < 63 := List.mem_range.mp hi
  have htoNat : (UInt32.ofNat (i + 1)).toNat = i + 1 := by
    rw [UInt32.toNat_ofNat']
    omega
  constructor
  · intro h0
    rw [h0] at htoNat
    exact absurd htoNat.symm (Nat.succ_ne_zero i)
  · rw [htoNat]
    exact Nat.succ_lt_succ hrange

/-- Each of them is created, and none of the calls does anything else. -/
theorem fullStore_inUse {t : UInt32} (ht : t ∈ allIds) :
    t.toNat < MAX_TENANTS ∧ (fullStore.tenant t).status ≠ .inactive := by
  obtain ⟨h0, hrange⟩ := mem_allIds ht
  have huse := inUse_afterCalls hrange (.fresh 0) (allIds.map fun t => (0, .create t none none))
  cases hlast : lastWrite (decidesUse t) (allIds.map fun t => (0, .create t none none)) with
  | none =>
    have hsilent := lastWrite_eq_none_iff.mp hlast _ (List.mem_map_of_mem ht)
    simp [decidesUse, h0] at hsilent
  | some use =>
    obtain ⟨call, hcall, hwrite⟩ := exists_of_lastWrite hlast
    obtain ⟨u, -, rfl⟩ := List.mem_map.mp hcall
    have huseTrue : use = true := by
      simp only [decidesUse] at hwrite
      split at hwrite
      · exact (Option.some.inj hwrite).symm
      · exact absurd hwrite (by simp)
    rw [hlast, huseTrue, Option.getD_some] at huse
    exact ⟨hrange, of_decide_eq_true huse⟩

theorem tenantSize_le (info : TenantInfo) : 83 ≤ tenantSize info := by
  have hdigits : ∀ v, 1 ≤ numberSize v := Json.length_signedDecimal
  have hid := hdigits info.tenantId.toInt32.toInt
  have hqp := hdigits info.usage.qpCount.toInt
  have hqpLimit := hdigits info.quota.maxQpPerTenant.toInt32.toInt
  have hmr := hdigits info.usage.mrCount.toInt
  have hmrLimit := hdigits info.quota.maxMrPerTenant.toInt32.toInt
  unfold tenantSize
  omega

/-- A list of all tenants is larger than the client's buffer. -/
theorem listSize_fullStore : BUFFER_SIZE ≤ listSize fullStore := by
  have hserved : ServedStore (readsAnswer fullStore) fullStore := served_afterCalls (.init 0) _
  have hnamed : NamesRecords fullStore := namesRecords_of_served hserved
  have hlisted : allIds ⊆ listedIds fullStore := fun t ht =>
    (mem_listedIds hnamed).mpr (fullStore_inUse ht)
  have hdistinct : allIds.Nodup := by decide
  have hcount : allIds.length ≤ fullStore.tenantsInUse.length := by
    rw [← List.length_map TenantInfo.tenantId]
    exact (List.subperm_of_subset hdistinct hlisted).length_le
  have hall : allIds.length = 63 := by decide
  have hsum := List.card_nsmul_le_sum (fullStore.tenantsInUse.map tenantSize) 83 (by
    intro n hn
    obtain ⟨info, -, rfl⟩ := List.mem_map.mp hn
    exact tenantSize_le info)
  rw [List.length_map, Nat.nsmul_eq_mul] at hsum
  have hbuffer : BUFFER_SIZE = 4096 := rfl
  unfold listSize
  omega

/-- Of all 63 tenants, the client shows no list. -/
theorem listTenants_fullStore :
    ServedStore (readsAnswer fullStore) fullStore ∧
    readsAnswer fullStore buildListCmd = listCommand ∧
    ReadsBack (readsAnswer fullStore) (listResponse fullStore).toJson ∧
    ¬ ShowsWholeList (readsAnswer fullStore) fullStore
      (sendCommand ((handleClient (readsAnswer fullStore) fullStore buildListCmd 0 0).1.take
        8192)) := by
  refine ⟨served_afterCalls (.init 0) _, if_pos rfl, readsBack_readsAnswer _, ?_⟩
  rintro ⟨⟨response, hhanded, hwhole, -⟩, -, -⟩
  rw [handleClient_list (if_pos rfl)] at hhanded
  have hsize := (length_le_of_whole (zero_notMem_document fullStore) hhanded hwhole).1
  rw [length_document] at hsize
  exact absurd listSize_fullStore (Nat.not_le.mpr hsize)

end RdmaIntercept.Analysis
