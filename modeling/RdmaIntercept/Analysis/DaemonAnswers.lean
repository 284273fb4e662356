import RdmaIntercept.Model.TenantDaemon

/-!
# What the daemon answers

Every handler answers, whatever its members are: `json_object_get_int` takes any value, and
an absent member has a default.  Two members are read as strings.  The value `null` counts
as present and its string is `NULL`, which is handed to `strcmp` for `cmd` and to `fprintf`
for the name of a tenant.
-/

set_option autoImplicit false

namespace RdmaIntercept.Analysis

open RdmaIntercept.Library RdmaIntercept.Library.CText RdmaIntercept.Model

/-- There is a response, and no null pointer went where a string is required. -/
structure Answered (run : CommandRun) : Prop where
  response : ∃ r, run.response = some r
  strings : run.nullString = false

/-- The string in the member `cmd`. -/
def commandName (o : Json) : Option Bytes := (o.getEx (text "cmd")).bind Json.getString

/-- `cmd` is not `null`, nor is the name in a CREATE that names its tenant. -/
structure NamesItsStrings (o : Json) : Prop where
  cmd : o.getEx (text "cmd") ≠ some .null
  name : commandName o = some (text "CREATE") → (o.getEx (text "tenant")).isSome →
    o.getEx (text "name") ≠ some .null

/-! ## The handlers -/

section Handlers
variable {shm : TenantShm} {now : TimeT} {ok : Bool} {message : Bytes} {reason : String}
  {data : Option Json}

theorem answered_answer : Answered (answer shm ok message data) := ⟨⟨_, rfl⟩, rfl⟩

theorem answered_result {shm' : TenantShm} :
    Answered (if ok then answer shm true message data else refuse shm' reason) := by
  cases ok <;> exact answered_answer

theorem answered_handleUpdateQuota (command : Json) (monotonic : UInt64) :
    Answered (handleUpdateQuota shm command now monotonic) := by
  unfold handleUpdateQuota
  split
  · exact answered_result
  · exact answered_answer

theorem answered_handleDelete (command : Json) : Answered (handleDelete shm command now) := by
  unfold handleDelete
  split
  · exact answered_answer
  · exact answered_result

theorem answered_handleStatus (command : Json) : Answered (handleStatus shm command now) := by
  unfold handleStatus
  split
  · exact answered_answer
  · split <;> exact answered_answer

/-- CREATE answers always; it needs a name that is not `null`. -/
theorem answered_handleCreate_iff (command : Json) :
    Answered (handleCreate shm command now) ↔
      ((command.getEx (text "tenant")).isSome → command.getEx (text "name") ≠ some .null) := by
  unfold handleCreate
  cases htenant : command.getEx (text "tenant") with
  | none =>
    refine ⟨fun _ => ?_, fun _ => answered_answer⟩
    rintro ⟨⟩
  | some tenant =>
    cases hname : command.getEx (text "name") with
    | none => exact ⟨fun _ _ => nofun, fun _ => ⟨answered_result.response, rfl⟩⟩
    | some name =>
      constructor
      · rintro ⟨-, hstrings⟩ - hnull
        obtain rfl : name = .null := Option.some.inj hnull
        simp [Json.getString] at hstrings
      · intro h
        refine ⟨answered_result.response, ?_⟩
        have hne : name ≠ .null := fun hnull => h rfl (by rw [hnull])
        cases hstring : name.getString with
        | none => exact absurd (Json.getString_eq_none_iff.mp hstring) hne
        | some s => simp [hstring]

end Handlers

/-! ## The dispatcher -/

theorem namesItsStrings_of_absent {o : Json} (h : o.getEx (text "cmd") = none) :
    NamesItsStrings o := by
  refine ⟨by simp [h], ?_⟩
  simp [commandName, h]

/-- A command that is not CREATE has one string, `cmd`, and it is not `null`. -/
theorem namesItsStrings_of_ne {o : Json} (hnull : o.getEx (text "cmd") ≠ some .null)
    (hname : commandName o ≠ some (text "CREATE")) : NamesItsStrings o :=
  ⟨hnull, fun h => absurd h hname⟩

/-- A `cmd` that is `null` stops the daemon. -/
theorem processCommand_of_null {parse : Bytes → Json} {message : Bytes}
    (h : (parse message).getEx (text "cmd") = some .null) (shm : TenantShm) (now : TimeT)
    (monotonic : UInt64) :
    processCommand parse shm message now monotonic = ⟨none, true, shm⟩ := by
  unfold processCommand
  split
  · rename_i hnull
    rw [hnull] at h
    exact absurd h (by simp [Json.getEx])
  · rw [h]
    rfl

theorem not_answered_of_null {shm : TenantShm} : ¬ Answered ⟨none, true, shm⟩ := by
  rintro ⟨⟨r, ⟨⟩⟩, -⟩

/-- The daemon answers a message, and hands no null pointer to code that requires a string, if
and only if neither of the two strings it reads is `null`. -/
theorem processCommand_answers_iff (parse : Bytes → Json) (shm : TenantShm) (message : Bytes)
    (now : TimeT) (monotonic : UInt64) :
    Answered (processCommand parse shm message now monotonic) ↔
      NamesItsStrings (parse message) := by
  by_cases hnull : (parse message).getEx (text "cmd") = some .null
  · rw [processCommand_of_null hnull]
    exact iff_of_false not_answered_of_null fun h => h.cmd hnull
  unfold processCommand
  split
  · rename_i hinvalid
    rw [hinvalid]
    exact iff_of_true answered_answer (namesItsStrings_of_absent rfl)
  · cases hcmd : (parse message).getEx (text "cmd") with
    | none => exact iff_of_true answered_answer (namesItsStrings_of_absent hcmd)
    | some cmdType =>
      cases hstring : cmdType.getString with
      | none =>
        rw [Json.getString_eq_none_iff.mp hstring] at hcmd
        exact absurd hcmd hnull
      | some cmd =>
        have hname : commandName (parse message) = some cmd := by
          rw [commandName, hcmd, Option.bind_some, hstring]
        by_cases hcreate : cmd = text "CREATE"
        · have hupdate : text "CREATE" ≠ text "UPDATE_QUOTA" := by decide
          subst hcreate
          simp only [hstring, if_neg hupdate, if_true]
          rw [answered_handleCreate_iff]
          constructor
          · exact fun h => ⟨hnull, fun _ => h⟩
          · exact fun h => h.name hname
        · refine iff_of_true ?_ (namesItsStrings_of_ne hnull (by simpa [hname] using hcreate))
          simp only [hstring, if_neg hcreate]
          split_ifs
          · exact answered_handleUpdateQuota _ _
          · exact answered_handleDelete _
          · exact answered_handleStatus _
          · exact answered_answer
          · exact answered_answer

/-- `json_tokener_parse` as far as the message below goes. -/
def parseNullCommand (message : Bytes) : Json :=
  if message = text "\x7b\"cmd\":null\x7d" then .object [(text "cmd", .null)] else .null

/-- `{"cmd":null}` stops the daemon. -/
theorem processCommand_stopsOnNull :
    ¬ Answered (processCommand parseNullCommand (.fresh 0) (text "\x7b\"cmd\":null\x7d") 0 0) := by
  rw [processCommand_of_null rfl]
  exact not_answered_of_null

/-! ## The segment after a command -/

/-- A command calls one operation of the tenant API or none; UPDATE_QUOTA then stamps the
segment. -/
inductive CommandEffect (shm : TenantShm) (now : TimeT) (monotonic : UInt64) : TenantShm → Prop
  | none : CommandEffect shm now monotonic shm
  | read (t : UInt32) : CommandEffect shm now monotonic (tenantGetInfo shm t now).2
  | op (op : StoreOp) : CommandEffect shm now monotonic (op.exec shm now).2
  | stamped (op : StoreOp) :
      CommandEffect shm now monotonic (stampUpdate (op.exec shm now).2 monotonic)

section Effects
variable {shm shm' shm'' : TenantShm} {now : TimeT} {monotonic : UInt64} {ok : Bool}
  {message : Bytes} {reason : String} {data : Option Json}

theorem effect_result (hok : CommandEffect shm now monotonic shm')
    (hfailed : CommandEffect shm now monotonic shm'') :
    CommandEffect shm now monotonic
      (if ok then answer shm' true message data else refuse shm'' reason).shm := by
  cases ok with
  | true => exact hok
  | false => exact hfailed

theorem handleUpdateQuota_effect (command : Json) :
    CommandEffect shm now monotonic (handleUpdateQuota shm command now monotonic).shm := by
  unfold handleUpdateQuota
  split
  · exact effect_result (.stamped (.updateQuota _ _)) (.op (.updateQuota _ _))
  · exact .none

theorem handleCreate_effect (command : Json) :
    CommandEffect shm now monotonic (handleCreate shm command now).shm := by
  unfold handleCreate
  split
  · exact .none
  · exact effect_result (.op (.create _ _ _)) (.op (.create _ _ _))

theorem handleDelete_effect (command : Json) :
    CommandEffect shm now monotonic (handleDelete shm command now).shm := by
  unfold handleDelete
  split
  · exact .none
  · exact effect_result (.op (.delete _)) (.op (.delete _))

theorem handleStatus_effect (command : Json) :
    CommandEffect shm now monotonic (handleStatus shm command now).shm := by
  unfold handleStatus
  split
  · exact .none
  · rename_i tenant htenant
    have hread : CommandEffect shm now monotonic (tenantGetInfo shm tenant.getInt.toUInt32 now).2 :=
      .read _
    split
    · rename_i hinfo
      rw [hinfo] at hread
      exact hread
    · rename_i hinfo
      rw [hinfo] at hread
      exact hread

theorem processCommand_effect (parse : Bytes → Json) (message : Bytes) :
    CommandEffect shm now monotonic (processCommand parse shm message now monotonic).shm := by
  unfold processCommand
  split
  · exact .none
  · split
    · exact .none
    · split
      · exact .none
      · split_ifs
        · exact handleUpdateQuota_effect _
        · exact handleCreate_effect _
        · exact handleDelete_effect _
        · exact handleStatus_effect _
        · exact .none
        · exact .none

theorem handleClient_effect (parse : Bytes → Json) (message : Bytes) :
    CommandEffect shm now monotonic (handleClient parse shm message now monotonic).2 := by
  have heffect : CommandEffect shm now monotonic
      (processCommand parse shm (received BUFFER_SIZE message) now monotonic).shm :=
    processCommand_effect parse _
  by_cases hmessage : message = []
  · rw [handleClient, if_pos hmessage]
    exact .none
  · rw [handleClient, if_neg hmessage]
    cases hresponse : (processCommand parse shm (received BUFFER_SIZE message) now monotonic).response
      <;> simpa only [hresponse] using heffect

end Effects

end RdmaIntercept.Analysis
