import RdmaIntercept.Analysis.StoreSpec
import RdmaIntercept.Model.StoreRuns
import RdmaIntercept.Model.TenantDaemon

/-!
# Calls that fail

Every operation of the tenant API has two exits on which it answers `-1`: before it takes
the lock, and after it has looked at the record under the lock.  On the first the segment
is the one it was given (`early`), on the second the lock has been taken and given back
(`locked`).  A command of the daemon fails where the one operation it calls does, or
before it calls any.
-/

set_option autoImplicit false

namespace RdmaIntercept.Analysis

open RdmaIntercept.Library RdmaIntercept.Library.CText RdmaIntercept.Model

/-- No record, no mapping and neither count has changed, and the lock is free if it was free
when the call began. -/
structure StoreUnchanged (shm shm' : TenantShm) : Prop where
  tenants : shm'.tenants = shm.tenants
  pidMappings : shm'.pidMappings = shm.pidMappings
  activeTenantCount : shm'.activeTenantCount = shm.activeTenantCount
  totalProcessCount : shm'.totalProcessCount = shm.totalProcessCount
  lockFree : shm.tenantShmLock = 0 → shm'.tenantShmLock = 0

/-- What a failed call leaves. -/
inductive LeftAlone (shm : TenantShm) (now : TimeT) : TenantShm → Prop
  | early : LeftAlone shm now shm
  | locked : LeftAlone shm now (tenantShmUnlock (tenantShmLock shm) now)

theorem LeftAlone.unchanged {shm shm' : TenantShm} {now : TimeT} (h : LeftAlone shm now shm') :
    StoreUnchanged shm shm' := by
  cases h with
  | early => exact ⟨rfl, rfl, rfl, rfl, id⟩
  | locked => exact ⟨rfl, rfl, rfl, rfl, fun _ => rfl⟩

/-! ## The tenant API -/

section Operations
variable {shm shm' : TenantShm} {now : TimeT}

/-- The two tests of an operation: on its arguments, and on the record under the lock. -/
theorem leftAlone_of_tests {early locked : Prop} [Decidable early] [Decidable locked]
    (h : (if early then (false, shm)
      else if locked then (false, tenantShmUnlock (tenantShmLock shm) now)
      else (true, shm')).1 = false) :
    LeftAlone shm now (if early then (false, shm)
      else if locked then (false, tenantShmUnlock (tenantShmLock shm) now)
      else (true, shm')).2 := by
  by_cases he : early
  · simp only [if_pos he]
    exact .early
  · by_cases hl : locked
    · simp only [if_neg he, if_pos hl]
      exact .locked
    · simp [he, hl] at h

theorem tenantDelete_failed {t : UInt32} (h : (tenantDelete shm t now).1 = false) :
    LeftAlone shm now (tenantDelete shm t now).2 := by
  obtain ⟨sweep, -, hdelete⟩ := tenantDelete_eq t
  rw [hdelete] at h ⊢
  exact leftAlone_of_tests h

theorem tenantBindProcess_failed {pid : Pid} {t : UInt32}
    (h : (tenantBindProcess shm pid t now).1 = false) :
    LeftAlone shm now (tenantBindProcess shm pid t now).2 := by
  unfold tenantBindProcess at h ⊢
  by_cases ht : MAX_TENANTS ≤ t.toNat
  · simp only [if_pos ht]
    exact .early
  · simp only [if_neg ht] at h ⊢
    by_cases hactive : ((tenantShmLock shm).tenant t).status = .active
    · simp only [hactive, ne_eq, not_true_eq_false, if_false] at h ⊢
      generalize SlotTable.scan (tenantShmLock shm).mappedPid 0 pid
        (List.finRange MAX_PROCESSES) none = scanned at h ⊢
      obtain ⟨found, emptySlot⟩ := scanned
      cases hidx : found.or emptySlot with
      | none => exact .locked
      | some idx => simp [hidx] at h
    · simp only [hactive, ne_eq, not_false_eq_true, if_true]
      exact .locked

theorem tenantUnbindProcess_failed {pid : Pid}
    (h : (tenantUnbindProcess shm pid now).1 = false) :
    LeftAlone shm now (tenantUnbindProcess shm pid now).2 := by
  cases hslot : SlotTable.slotOf shm.mappedPid pid with
  | none =>
    rw [tenantUnbindProcess_of_none now hslot]
    exact .locked
  | some i =>
    rw [tenantUnbindProcess_of_some now hslot] at h
    exact absurd h (by simp)

theorem exec_failed (c : ApiCall) (h : (c.exec shm now).1 = false) :
    LeftAlone shm now (c.exec shm now).2 := by
  cases c with
  | updateQuotaNull t => exact .early
  | updateUsageNull t => exact .early
  | op o =>
    cases o with
    | create t name quota => exact leftAlone_of_tests h
    | delete t => exact tenantDelete_failed h
    | setStatus t status => exact leftAlone_of_tests h
    | updateQuota t quota => exact leftAlone_of_tests h
    | bind pid t => exact tenantBindProcess_failed h
    | unbind pid => exact tenantUnbindProcess_failed h
    | updateUsage t usage => exact leftAlone_of_tests h

theorem tenantGetInfo_leftAlone (t : UInt32) : LeftAlone shm now (tenantGetInfo shm t now).2 := by
  unfold tenantGetInfo
  split
  · exact .early
  · exact .locked

end Operations

/-! ## The daemon -/

/-- When the answer is a failure, the segment has been left alone. -/
def FailsCleanly (shm : TenantShm) (now : TimeT) (run : CommandRun) : Prop :=
  ∀ r, run.response = some r → r.success = false → LeftAlone shm now run.shm

section Commands
variable {shm shm' shm'' : TenantShm} {now : TimeT} {ok : Bool} {message : Bytes} {reason : String}
  {data : Option Json}

theorem failsCleanly_refuse (h : LeftAlone shm now shm') :
    FailsCleanly shm now (refuse shm' reason) := fun _ _ _ => h

theorem failsCleanly_success : FailsCleanly shm now (answer shm' true message data) := by
  rintro r ⟨rfl⟩ hr
  exact absurd hr (by simp)

/-- The answer follows the result of the one operation that the handler calls. -/
theorem failsCleanly_result (h : ok = false → LeftAlone shm now shm') :
    FailsCleanly shm now
      (if ok then answer shm'' true message data else refuse shm' reason) := by
  cases ok with
  | true => exact failsCleanly_success
  | false => exact failsCleanly_refuse (h rfl)

theorem handleUpdateQuota_failsCleanly (command : Json) (monotonic : UInt64) :
    FailsCleanly shm now (handleUpdateQuota shm command now monotonic) := by
  unfold handleUpdateQuota
  split
  · exact failsCleanly_result (exec_failed (.op (.updateQuota _ _)))
  · exact failsCleanly_refuse .early

theorem handleCreate_failsCleanly (command : Json) :
    FailsCleanly shm now (handleCreate shm command now) := by
  unfold handleCreate
  split
  · exact failsCleanly_refuse .early
  · exact failsCleanly_result (exec_failed (.op (.create _ _ _)))

theorem handleDelete_failsCleanly (command : Json) :
    FailsCleanly shm now (handleDelete shm command now) := by
  unfold handleDelete
  split
  · exact failsCleanly_refuse .early
  · exact failsCleanly_result (exec_failed (.op (.delete _)))

theorem handleStatus_failsCleanly (command : Json) :
    FailsCleanly shm now (handleStatus shm command now) := by
  unfold handleStatus
  split
  · exact failsCleanly_success
  · rename_i tenant htenant
    have hleft : LeftAlone shm now (tenantGetInfo shm tenant.getInt.toUInt32 now).2 :=
      tenantGetInfo_leftAlone _
    split
    · rename_i heq
      rw [heq] at hleft
      exact failsCleanly_refuse hleft
    · exact failsCleanly_success

theorem processCommand_failsCleanly (parse : Bytes → Json) (message : Bytes)
    (monotonic : UInt64) :
    FailsCleanly shm now (processCommand parse shm message now monotonic) := by
  unfold processCommand
  split
  · exact failsCleanly_refuse .early
  · rename_i command hcommand
    split
    · exact failsCleanly_refuse .early
    · split
      · rintro r ⟨⟩
      · split_ifs
        · exact handleUpdateQuota_failsCleanly _ _
        · exact handleCreate_failsCleanly _
        · exact handleDelete_failsCleanly _
        · exact handleStatus_failsCleanly _
        · exact failsCleanly_success
        · exact failsCleanly_refuse .early

end Commands

/-- A call of the tenant API that answers `-1` and a command that the daemon answers with a
failure leave every record, every mapping and both counts as they were, and the lock free. -/
theorem failed_unchanged (parse : Bytes → Json) (shm : TenantShm) (now : TimeT)
    (monotonic : UInt64) :
    (∀ c : ApiCall, (c.exec shm now).1 = false → StoreUnchanged shm (c.exec shm now).2) ∧
    (∀ message r, (processCommand parse shm message now monotonic).response = some r →
      r.success = false →
      StoreUnchanged shm (processCommand parse shm message now monotonic).shm) := by
  constructor
  · intro c h
    exact (exec_failed c h).unchanged
  · intro message r hr hfail
    exact (processCommand_failsCleanly parse message monotonic r hr hfail).unchanged

end RdmaIntercept.Analysis
