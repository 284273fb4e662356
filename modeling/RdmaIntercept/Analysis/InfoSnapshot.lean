import RdmaIntercept.Analysis.StoreSpec
import RdmaIntercept.Library.LastWrite
import RdmaIntercept.Model.StoreRuns

/-!
# The answer of `tenant_get_info` and its copy

The call copies the record under the lock, but answers by the status that the record has
when the lock has been released.  Whether a record is in use after some calls of the tenant
API does not depend on which of them succeed: `tenant_create` leaves it in use in any case,
`tenant_delete` and `tenant_set_status` to INACTIVE out of use, and every other call as it
was (`inUse_exec`).  So the answer is the one for the copy exactly when the last of those
calls in between puts the record back to what it was.
-/

set_option autoImplicit false

namespace RdmaIntercept.Analysis

open RdmaIntercept.Library RdmaIntercept.Model

/-- Whether the record of tenant `t` is in use. -/
def recordInUse (t : UInt32) (shm : TenantShm) : Bool := (shm.tenant t).status ≠ .inactive

/-- Whether the record is in use after a call that decides it. -/
def decidesUse (t : UInt32) (call : TimeT × StoreOp) : Option Bool :=
  match call.2 with
  | .create u _ _ => if u = t ∧ t ≠ 0 then some true else none
  | .delete u => if u = t ∧ t ≠ 0 then some false else none
  | .setStatus u status => if u = t ∧ status = .inactive then some false else none
  | _ => none

/-- The call answers, and if it has copied a record, it answers 0 exactly when the copy is of a
record in use. -/
structure MatchesCopy (s : InfoCall) : Prop where
  answers : ∃ ok, s.result = some ok
  agrees : ∀ ok info, s.result = some ok → s.info = some info →
    (ok = true ↔ info.status ≠ .inactive)

/-! ## Calls of other processes -/

section OtherCalls
variable {t : UInt32}

theorem recordInUse_congr {shm shm' : TenantShm}
    (h : (shm'.tenant t).status = (shm.tenant t).status) :
    recordInUse t shm' = recordInUse t shm := by
  rw [recordInUse, recordInUse, h]

theorem recordInUse_of_same {shm shm' : TenantShm} (h : SameStore shm shm') :
    recordInUse t shm' = recordInUse t shm := recordInUse_congr (by rw [h.tenant])

/-- A call that brings record `u` in use (`b`), or takes it out of use, and fails only where the
record is so already. -/
theorem recordInUse_own {shm : TenantShm} {u : UInt32} {info : TenantInfo}
    {maps : Fin MAX_PROCESSES → PidTenantMapping} {active : UInt32} {r : Bool × TenantShm}
    {may : Prop} {b : Bool} (ht : t.toNat < MAX_TENANTS)
    (h : (may ∧ Done shm u info maps active r) ∨ (¬ may ∧ Refused shm r)) (h0 : may → u ≠ 0)
    (hno : ¬ may → u ≠ 0 → u.toNat < MAX_TENANTS → recordInUse u shm = b)
    (hinfo : decide (info.status ≠ .inactive) = b) :
    recordInUse t r.2 = (if u = t ∧ t ≠ 0 then some b else none).getD (recordInUse t shm) := by
  rcases h with ⟨hmay, hdone⟩ | ⟨hfailed, hrefused⟩
  · rw [recordInUse, hdone.tenant ht]
    by_cases hut : u = t
    · subst hut
      rw [if_pos rfl, if_pos ⟨rfl, h0 hmay⟩]
      exact hinfo
    · rw [if_neg (Ne.symm hut), if_neg (fun hand => hut hand.1)]
      rfl
  · rw [recordInUse_of_same hrefused.toSameStore]
    by_cases hut : u = t ∧ t ≠ 0
    · obtain ⟨rfl, hne⟩ := hut
      rw [if_pos ⟨rfl, hne⟩]
      exact hno hfailed hne ht
    · rw [if_neg hut]
      rfl

theorem recordInUse_create (ht : t.toNat < MAX_TENANTS) (shm : TenantShm) (u : UInt32)
    (name : Option (List UInt8)) (quota : Option TenantQuota) (now : TimeT) :
    recordInUse t (tenantCreate shm u name quota now).2 =
      (if u = t ∧ t ≠ 0 then some true else none).getD (recordInUse t shm) := by
  have hstatus : (createdTenant u name quota now).status ≠ .inactive := by simp [createdTenant]
  refine recordInUse_own ht (tenantCreate_cases shm u name quota now) (fun h => h.1) ?_
    (decide_eq_true hstatus)
  intro hno h0 hu
  exact decide_eq_true fun hs => hno ⟨h0, hu, hs⟩

theorem recordInUse_delete (ht : t.toNat < MAX_TENANTS) (shm : TenantShm) (u : UInt32)
    (now : TimeT) :
    recordInUse t (tenantDelete shm u now).2 =
      (if u = t ∧ t ≠ 0 then some false else none).getD (recordInUse t shm) := by
  refine recordInUse_own ht (tenantDelete_cases shm u now) (fun h => h.1) ?_
    (decide_eq_false (not_not.mpr rfl))
  intro hno h0 hu
  exact decide_eq_false fun hs => hno ⟨h0, hu, hs⟩

theorem recordInUse_setStatus (ht : t.toNat < MAX_TENANTS) (shm : TenantShm) (u : UInt32)
    (status : TenantStatus) (now : TimeT) :
    recordInUse t (tenantSetStatus shm u status now).2 =
      (if u = t ∧ status = .inactive then some false else none).getD (recordInUse t shm) := by
  rw [recordInUse, (tenantSetStatus_spec shm u status now).status t ht, recordInUse]
  by_cases hut : u = t
  · subst hut
    by_cases huse : (shm.tenant u).status = .inactive <;> by_cases hs : status = .inactive <;>
      simp [huse, hs]
  · simp [hut, Ne.symm hut]

/-- One call: whether it succeeds is of no account. -/
theorem inUse_exec (ht : t.toNat < MAX_TENANTS) (shm : TenantShm) (call : TimeT × StoreOp) :
    recordInUse t (call.2.exec shm call.1).2 = (decidesUse t call).getD (recordInUse t shm) := by
  obtain ⟨now, op⟩ := call
  cases op with
  | create u name quota => exact recordInUse_create ht shm u name quota now
  | delete u => exact recordInUse_delete ht shm u now
  | setStatus u status => exact recordInUse_setStatus ht shm u status now
  | updateQuota u quota => exact recordInUse_congr ((tenantUpdateQuota_spec shm u quota now).status t)
  | updateUsage u usage =>
    exact recordInUse_congr ((tenantUpdateResourceUsage_spec shm u usage now).status t)
  | unbind pid => exact recordInUse_congr ((tenantUnbindProcess_kept shm pid now).status t)
  | bind pid u =>
    rcases tenantBindProcess_cases shm pid u now with ⟨-, hno⟩ | ⟨-, hbound⟩
    · exact recordInUse_congr (hno.toSameRecords.tenantsKept.status t)
    · exact recordInUse_congr (hbound.status t)

/-- The segment after the calls of other processes. -/
def afterCalls (shm : TenantShm) (calls : List (TimeT × StoreOp)) : TenantShm :=
  calls.foldl (fun shm call => (call.2.exec shm call.1).2) shm

theorem inUse_afterCalls (ht : t.toNat < MAX_TENANTS) (shm : TenantShm)
    (calls : List (TimeT × StoreOp)) :
    recordInUse t (afterCalls shm calls) =
      (lastWrite (decidesUse t) calls).getD (recordInUse t shm) :=
  foldl_eq_lastWrite _ (recordInUse t) (inUse_exec ht) shm calls

/-- They change nothing but the segment. -/
theorem exec_otherCalls (s : InfoCall) (calls : List (TimeT × StoreOp)) :
    exec (InfoCall.step t) s (otherCalls calls) = { s with shm := afterCalls s.shm calls } := by
  induction calls generalizing s with
  | nil => rfl
  | cons call calls ih =>
    rw [otherCalls, List.map_cons, exec_cons]
    exact ih _

end OtherCalls

/-! ## The call -/

section Call
variable {t : UInt32}

/-- Whether the record is in use when it is copied. -/
def inUseWhenCopied (t : UInt32) (shm : TenantShm) (sched : InfoSchedule) : Bool :=
  (lastWrite (decidesUse t) sched.before).getD (recordInUse t shm)

theorem among_of_outOfRange (ht : ¬ t.toNat < MAX_TENANTS) (shm : TenantShm)
    (sched : InfoSchedule) :
    (tenantGetInfoAmong shm t sched).info = none ∧
      (tenantGetInfoAmong shm t sched).result = some false := by
  unfold tenantGetInfoAmong InfoSchedule.events tenantGetInfoSteps
  rw [if_pos (Nat.not_lt.mp ht)]
  simp only [exec_append, exec_cons, exec_otherCalls]
  exact ⟨rfl, rfl⟩

theorem among_of_inRange (ht : t.toNat < MAX_TENANTS) (shm : TenantShm) (sched : InfoSchedule) :
    ∃ info, (tenantGetInfoAmong shm t sched).info = some info ∧
      (info.status ≠ .inactive ↔ inUseWhenCopied t shm sched = true) ∧
      (tenantGetInfoAmong shm t sched).result =
        some ((lastWrite (decidesUse t) sched.between).getD (inUseWhenCopied t shm sched)) := by
  have hcopied : recordInUse t (afterCalls shm sched.before) = inUseWhenCopied t shm sched :=
    inUse_afterCalls ht shm sched.before
  unfold tenantGetInfoAmong InfoSchedule.events tenantGetInfoSteps
  rw [if_neg (Nat.not_le.mpr ht)]
  simp only [exec_append, exec_cons, exec_nil, exec_otherCalls, List.cons_append, InfoCall.step]
  refine ⟨_, rfl, ?_, ?_⟩
  · rw [← hcopied, recordInUse, decide_eq_true_eq, tenant_lock]
  · have hend := inUse_afterCalls ht
      (tenantShmUnlock (tenantShmLock (afterCalls shm sched.before)) sched.copied) sched.between
    rw [recordInUse_of_same ((refused_touch _ sched.copied).toSameStore), hcopied] at hend
    exact congrArg some hend

/-- With nothing in between, the two steps are the function. -/
theorem among_alone (shm : TenantShm) (t : UInt32) (now : TimeT) :
    let call := tenantGetInfoAmong shm t ⟨[], [], [], now⟩
    tenantGetInfo shm t now = (if call.result = some true then call.info else none, call.shm) := by
  unfold tenantGetInfoAmong InfoSchedule.events tenantGetInfoSteps tenantGetInfo
  by_cases ht : MAX_TENANTS ≤ t.toNat
  · simp [ht, otherCalls, InfoCall.step]
  · by_cases huse : (shm.tenant t).status = .inactive <;>
      simp [ht, otherCalls, InfoCall.step, huse]

/-- In an interleaving with any calls of other processes, `tenant_get_info` answers for the
record it has copied exactly when the id is out of range, or the last call between the copy
and the answer that decides whether the record is in use leaves it as it was. -/
theorem tenantGetInfo_matches_iff (shm : TenantShm) (t : UInt32) (sched : InfoSchedule) :
    MatchesCopy (tenantGetInfoAmong shm t sched) ↔
      (t.toNat < MAX_TENANTS → ∀ use, lastWrite (decidesUse t) sched.between = some use →
        use = inUseWhenCopied t shm sched) := by
  by_cases ht : t.toNat < MAX_TENANTS
  · obtain ⟨info, hinfo, hcopied, hresult⟩ := among_of_inRange ht shm sched
    constructor
    · intro h _ use huse
      have hagrees := h.agrees _ _ hresult hinfo
      rw [hcopied, huse, Option.getD_some] at hagrees
      exact Bool.eq_iff_iff.mpr hagrees
    · intro h
      refine ⟨⟨_, hresult⟩, ?_⟩
      intro ok info' hok hinfo'
      obtain rfl : info = info' := Option.some.inj (hinfo.symm.trans hinfo')
      obtain rfl := Option.some.inj (hresult.symm.trans hok)
      rw [hcopied]
      cases hlast : lastWrite (decidesUse t) sched.between with
      | none => rw [Option.getD_none]
      | some use => rw [Option.getD_some, h ht use hlast]
  · obtain ⟨hinfo, hresult⟩ := among_of_outOfRange ht shm sched
    refine iff_of_true ⟨⟨false, hresult⟩, ?_⟩ fun h => absurd h ht
    intro ok info _ hsome
    rw [hinfo] at hsome
    exact absurd hsome (by simp)

/-- Tenant 1 is created, copied and then deleted before the call has answered. -/
def deletedBehindCopy : InfoSchedule where
  before := [(0, .create 1 none none)]
  between := [(0, .delete 1)]
  after := []
  copied := 0

/-- The call answers `-1` and has copied the record of an ACTIVE tenant. -/
theorem tenantGetInfo_missesDelete :
    ¬ MatchesCopy (tenantGetInfoAmong (.fresh 0) 1 deletedBehindCopy) := by
  intro h
  obtain ⟨info, hinfo, hcopied, hresult⟩ :=
    among_of_inRange (show (1 : UInt32).toNat < MAX_TENANTS by decide) (.fresh 0) deletedBehindCopy
  have hagrees := h.agrees _ _ hresult hinfo
  have huse : inUseWhenCopied 1 (.fresh 0) deletedBehindCopy = true := rfl
  have hlast : lastWrite (decidesUse 1) deletedBehindCopy.between = some false := rfl
  rw [hcopied, huse, hlast] at hagrees
  exact absurd hagrees (by decide)

end Call

end RdmaIntercept.Analysis
