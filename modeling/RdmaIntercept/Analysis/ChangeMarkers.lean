import RdmaIntercept.Library.Counter
import RdmaIntercept.Library.Runs
import RdmaIntercept.Analysis.StoreSpec
import RdmaIntercept.Model.TenantDaemon

/-!
# The change markers of the tenant segment

Every call that takes the segment lock advances `version` and stamps `last_update_time` with
the wall clock, in seconds; a successful `UPDATE_QUOTA` command stamps it once more, with the
monotonic clock in nanoseconds.  So `version` moves forward whenever a record or a mapping
changes, while `last_update_time` moves forward exactly as long as the two clocks are never
compared the wrong way round.
-/

set_option autoImplicit false

namespace RdmaIntercept.Analysis

open RdmaIntercept.Library RdmaIntercept.Model

/-! ## Which calls stamp -/

/-- Where `last_update_time` was last taken from. -/
inductive Stamp
  | wall (t : TimeT)
  | monotonic (ns : UInt64)
  deriving DecidableEq, Repr

/-- What the field holds then. -/
def Stamp.value : Stamp → UInt64
  | .wall t => t.toUInt64
  | .monotonic ns => ns

/-- The id passes the range check that comes before the lock. -/
def TakesLock : StoreOp → Prop
  | .create t _ _ => t ≠ 0 ∧ t.toNat < MAX_TENANTS
  | .delete t => t ≠ 0 ∧ t.toNat < MAX_TENANTS
  | .setStatus t _ => t.toNat < MAX_TENANTS
  | .updateQuota t _ => t.toNat < MAX_TENANTS
  | .bind _ t => t.toNat < MAX_TENANTS
  | .unbind _ => True
  | .updateUsage t _ => t.toNat < MAX_TENANTS

instance (op : StoreOp) : Decidable (TakesLock op) := by
  cases op <;> unfold TakesLock <;> infer_instance

/-- The tenant that an `UPDATE_QUOTA` command names, unless a field is missing. -/
def quotaTarget (command : Json) : Option UInt32 :=
  match command.getEx (CText.text "tenant"), command.getEx (CText.text "qp") with
  | some tenant, some _ => some tenant.getInt.toUInt32
  | _, _ => none

/-- The stamp of `tenant_shm_unlock`, in a call that has taken the lock. -/
def unlockStamp (now : TimeT) (lock : Prop) [Decidable lock] : Option Stamp :=
  if lock then some (.wall now) else none

instance (shm : TenantShm) (t : UInt32) : Decidable (MayWrite shm t) := by
  unfold MayWrite
  infer_instance

/-- The stamp that an `UPDATE_QUOTA` command leaves: of the daemon, if the quota was written. -/
def commandStamp (shm : TenantShm) (target : Option UInt32) (now : TimeT) (monotonic : UInt64) :
    Option Stamp :=
  match target with
  | none => none
  | some t =>
    if MayWrite shm t then some (.monotonic monotonic)
    else unlockStamp now (t.toNat < MAX_TENANTS)

/-- Where a call takes the new `last_update_time` from, if it writes it: a command that succeeds
is stamped by the daemon, every other call that takes the lock by `tenant_shm_unlock`. -/
def stampOf (shm : TenantShm) (e : TimedCall) : Option Stamp :=
  match e.call with
  | .op op => unlockStamp e.wall (TakesLock op)
  | .getInfo t => unlockStamp e.wall (t.toNat < MAX_TENANTS)
  | .getProcessTenant _ => unlockStamp e.wall True
  | .getResourceUsage t => unlockStamp e.wall (t.toNat < MAX_TENANTS)
  | .checkResourceLimit t _ _ => unlockStamp e.wall (t.toNat < MAX_TENANTS)
  | .getActiveList maxCount => unlockStamp e.wall (0 < maxCount)
  | .printAll => unlockStamp e.wall True
  | .getStatistics t => unlockStamp e.wall (t.toNat < MAX_TENANTS)
  | .nullPointer => none
  | .updateQuota command => commandStamp shm (quotaTarget command) e.wall e.monotonic

/-! ## What a call does to the markers -/

/-- The segment after a call that stamps, or does not. -/
def Marks (shm shm' : TenantShm) : Option Stamp → Prop
  | none => shm' = shm
  | some (.wall t) => shm'.version = shm.version + 1 ∧ shm'.lastUpdateTime = t.toUInt64
  | some (.monotonic ns) => shm'.version = shm.version + 2 ∧ shm'.lastUpdateTime = ns

variable {shm body : TenantShm} {now : TimeT}

section Parts

variable {α : Type} {shm body : TenantShm} {now : TimeT} {a b : α × TenantShm}

/-- A locked section that leaves `version` to the release of the lock. -/
theorem marks_unlock (h : body.version = shm.version) :
    Marks shm (tenantShmUnlock body now) (some (.wall now)) := ⟨congrArg (· + 1) h, rfl⟩

/-- A test under the lock. -/
theorem marks_ite {c : Prop} [Decidable c] {stamp : Option Stamp} (ha : Marks shm a.2 stamp)
    (hb : Marks shm b.2 stamp) : Marks shm (if c then a else b).2 stamp := by
  split
  · exact ha
  · exact hb

/-- A test before the lock. -/
theorem marks_guard {c lock : Prop} [Decidable c] [Decidable lock] (hlock : lock ↔ ¬ c)
    (ha : a.2 = shm) (hb : Marks shm b.2 (some (.wall now))) :
    Marks shm (if c then a else b).2 (unlockStamp now lock) := by
  by_cases hc : c
  · rw [if_pos hc, unlockStamp, if_neg (fun h => hlock.mp h hc)]
    exact ha
  · rw [if_neg hc, unlockStamp, if_pos (hlock.mpr hc)]
    exact hb

/-- The range check of a tenant id. -/
theorem inRange_iff {t : UInt32} : t.toNat < MAX_TENANTS ↔ ¬ MAX_TENANTS ≤ t.toNat :=
  Nat.not_le.symm

/-- The range check of the calls that do not serve the default tenant. -/
theorem ownId_iff {t : UInt32} :
    t ≠ 0 ∧ t.toNat < MAX_TENANTS ↔ ¬ (t = 0 ∨ MAX_TENANTS ≤ t.toNat) := by
  rw [not_or, Nat.not_le]

end Parts

variable {shm : TenantShm} {now : TimeT}

theorem version_storeBinding (shm : TenantShm) (isNew : Bool) (i : Fin MAX_PROCESSES) (p : Pid)
    (t : UInt32) : (storeBinding shm isNew i p t now).version = shm.version := by
  cases isNew <;> rfl

theorem version_clearBinding (shm : TenantShm) (i : Fin MAX_PROCESSES) (p : Pid) :
    (clearBinding shm i p).version = shm.version := by
  simp only [clearBinding, TenantShm.dropTotalProcessCount]
  split <;> rfl

theorem version_foldl_unmapIfTenant (t : UInt32) (is : List (Fin MAX_PROCESSES))
    (shm : TenantShm) : (is.foldl (unmapIfTenant t) shm).version = shm.version := by
  refine exec_kept ?_ shm is
  intro shm i
  unfold unmapIfTenant
  split <;> rfl

theorem marks_delete (t : UInt32) :
    Marks shm (tenantDelete shm t now).2 (unlockStamp now (t ≠ 0 ∧ t.toNat < MAX_TENANTS)) := by
  obtain ⟨sweep, hsweep, hdelete⟩ := tenantDelete_eq t
  have hversion : (sweep (tenantShmLock shm)).version = shm.version := by
    rw [hsweep, version_foldl_unmapIfTenant]
    rfl
  rw [hdelete]
  exact marks_guard ownId_iff rfl (marks_ite (marks_unlock rfl) (marks_unlock hversion))

theorem marks_bind (p : Pid) (t : UInt32) :
    Marks shm (tenantBindProcess shm p t now).2 (unlockStamp now (t.toNat < MAX_TENANTS)) := by
  refine marks_guard inRange_iff rfl (marks_ite (marks_unlock rfl) ?_)
  generalize SlotTable.scan (tenantShmLock shm).mappedPid 0 p (List.finRange MAX_PROCESSES) none = r
  obtain ⟨found, emptySlot⟩ := r
  simp only
  cases found.or emptySlot with
  | none => exact marks_unlock rfl
  | some i => exact marks_unlock (version_storeBinding _ _ i p t)

theorem marks_unbind (p : Pid) :
    Marks shm (tenantUnbindProcess shm p now).2 (unlockStamp now True) := by
  unfold tenantUnbindProcess
  simp only
  cases SlotTable.slotOf (tenantShmLock shm).mappedPid p with
  | none => exact marks_unlock rfl
  | some i => exact marks_unlock (version_clearBinding _ i p)

/-- The calls that may change a record or a mapping. -/
theorem marks_op (op : StoreOp) :
    Marks shm (op.exec shm now).2 (unlockStamp now (TakesLock op)) := by
  cases op with
  | create t name quota =>
    exact marks_guard ownId_iff rfl (marks_ite (marks_unlock rfl) (marks_unlock rfl))
  | delete t => exact marks_delete t
  | setStatus t status =>
    exact marks_guard inRange_iff rfl (marks_ite (marks_unlock rfl) (marks_unlock rfl))
  | updateQuota t quota =>
    exact marks_guard inRange_iff rfl (marks_ite (marks_unlock rfl) (marks_unlock rfl))
  | bind p t => exact marks_bind p t
  | unbind p => exact marks_unbind p
  | updateUsage t usage =>
    exact marks_guard inRange_iff rfl (marks_ite (marks_unlock rfl) (marks_unlock rfl))

/-- A command with its fields updates the quota of the tenant it names; the daemon stamps the
segment if that succeeds. -/
theorem handleUpdateQuota_shm (shm : TenantShm) (command : Json) (now : TimeT)
    (monotonic : UInt64) :
    (quotaTarget command = none ∧ (handleUpdateQuota shm command now monotonic).shm = shm) ∨
      ∃ t quota, quotaTarget command = some t ∧
        (handleUpdateQuota shm command now monotonic).shm =
          if (tenantUpdateQuota shm t quota now).1 = true then
            stampUpdate (tenantUpdateQuota shm t quota now).2 monotonic
          else (tenantUpdateQuota shm t quota now).2 := by
  unfold handleUpdateQuota quotaTarget
  cases command.getEx (CText.text "tenant") with
  | none => exact Or.inl ⟨rfl, rfl⟩
  | some tenant =>
    cases command.getEx (CText.text "qp") with
    | none => exact Or.inl ⟨rfl, rfl⟩
    | some qp =>
      refine Or.inr ⟨tenant.getInt.toUInt32, quotaOf qp.getInt (intMember command "mr" qp.getInt)
        (memoryMember command), rfl, ?_⟩
      simp only
      split <;> rfl

/-- The command: a success adds the stamp of the daemon to that of `tenant_update_quota`. -/
theorem marks_command (command : Json) (monotonic : UInt64) :
    Marks shm (handleUpdateQuota shm command now monotonic).shm
      (commandStamp shm (quotaTarget command) now monotonic) := by
  rcases handleUpdateQuota_shm shm command now monotonic with
    ⟨htarget, hshm⟩ | ⟨t, quota, htarget, hshm⟩
  · rw [htarget, hshm]
    rfl
  · have hmarks : Marks shm (tenantUpdateQuota shm t quota now).2
        (unlockStamp now (t.toNat < MAX_TENANTS)) := marks_op (.updateQuota t quota)
    rw [htarget, hshm, commandStamp]
    rcases tenantUpdateQuota_cases shm t quota now with ⟨hmay, hdone⟩ | ⟨hno, hrefused⟩
    · rw [if_pos hdone.ok, if_pos hmay]
      rw [unlockStamp, if_pos hmay.1] at hmarks
      refine ⟨?_, rfl⟩
      rw [stampUpdate, hmarks.1, UInt64.add_assoc]
      rfl
    · rw [if_neg (by rw [hrefused.failed]; exact Bool.false_ne_true), if_neg hno]
      exact hmarks

/-- Every call. -/
theorem marks_exec (shm : TenantShm) (e : TimedCall) : Marks shm (e.exec shm) (stampOf shm e) := by
  obtain ⟨call, now, monotonic⟩ := e
  cases call with
  | op op => exact marks_op op
  | getInfo t => exact marks_guard inRange_iff rfl (marks_unlock rfl)
  | getProcessTenant pid => exact marks_unlock rfl
  | getResourceUsage t =>
    exact marks_guard inRange_iff rfl (marks_ite (marks_unlock rfl) (marks_unlock rfl))
  | checkResourceLimit t resourceType amount =>
    exact marks_guard inRange_iff rfl (marks_ite (marks_unlock rfl) (marks_unlock rfl))
  | getActiveList maxCount => exact marks_guard Int32.not_le.symm rfl (marks_unlock rfl)
  | printAll => exact marks_unlock rfl
  | getStatistics t =>
    exact marks_guard inRange_iff rfl (marks_ite (marks_unlock rfl) (marks_unlock rfl))
  | nullPointer => rfl
  | updateQuota command => exact marks_command command monotonic

/-! ## One call -/

/-- The number of places at which a call may advance `version`: in `tenant_shm_unlock`, and for
the command once more after it. -/
def increments : TenantCall → ℕ
  | .updateQuota _ => 2
  | _ => 1

/-- The segment, what the clocks have shown last, and where the last stamp is from. -/
structure MarkerRun where
  shm : TenantShm
  wall : TimeT
  monotonic : UInt64
  last : Stamp

/-- A run begins with the creation of the segment. -/
def MarkerRun.start (wall : TimeT) (monotonic : UInt64) : MarkerRun :=
  ⟨.fresh wall, wall, monotonic, .wall wall⟩

def MarkerRun.step (s : MarkerRun) (e : TimedCall) : MarkerRun :=
  ⟨e.exec s.shm, e.wall, e.monotonic, (stampOf s.shm e).getD s.last⟩

/-- Neither clock goes back. -/
structure ClocksForward (s : MarkerRun) (e : TimedCall) : Prop where
  wall : s.wall ≤ e.wall
  monotonic : s.monotonic ≤ e.monotonic

/-- The markers after a call: a change of a record or a mapping has advanced `version`, unless
`version` is at its end, and `last_update_time` is not earlier than before. -/
structure MarkersForward (s : MarkerRun) (e : TimedCall) : Prop where
  version : (e.exec s.shm).tenants ≠ s.shm.tenants ∨
      (e.exec s.shm).pidMappings ≠ s.shm.pidMappings →
    s.shm.version.toNat + increments e.call < 2 ^ 64 → s.shm.version < (e.exec s.shm).version
  lastUpdateTime : s.shm.lastUpdateTime ≤ (e.exec s.shm).lastUpdateTime

/-- A stamp that may follow another.  Two readings of one clock may, unless the wall clock
crosses zero in between, where the cast to the unsigned field turns them round; readings of
different clocks may if the numbers happen to be in order. -/
def MayFollow : Stamp → Stamp → Prop
  | .wall t, .wall now => 0 ≤ t ∨ now < 0
  | .wall t, .monotonic ns => t.toUInt64 ≤ ns
  | .monotonic ns, .wall now => ns ≤ now.toUInt64
  | .monotonic _, .monotonic _ => True

/-- If a call stamps, its stamp may follow the last one. -/
def StampMayFollow (s : MarkerRun) (e : TimedCall) : Prop :=
  ∀ stamp, stampOf s.shm e = some stamp → MayFollow s.last stamp

/-- A stamp is a reading of the clocks at the call, and that of the monotonic clock is made by
the command. -/
theorem stampOf_cases {e : TimedCall} {stamp : Stamp} (h : stampOf shm e = some stamp) :
    stamp = .wall e.wall ∨ (stamp = .monotonic e.monotonic ∧ increments e.call = 2) := by
  have hunlock : ∀ {now : TimeT} {lock : Prop} [Decidable lock],
      unlockStamp now lock = some stamp → stamp = .wall now := by
    intro now lock _ hstamp
    unfold unlockStamp at hstamp
    split at hstamp
    · exact (Option.some.inj hstamp).symm
    · simp at hstamp
  obtain ⟨call, now, monotonic⟩ := e
  cases call with
  | updateQuota command =>
    change commandStamp shm (quotaTarget command) now monotonic = some stamp at h
    cases htarget : quotaTarget command with
    | none => simp [htarget, commandStamp] at h
    | some t =>
      rw [htarget, commandStamp] at h
      split at h
      · exact Or.inr ⟨(Option.some.inj h).symm, rfl⟩
      · exact Or.inl (hunlock h)
  | nullPointer => simp [stampOf] at h
  | op op => exact Or.inl (hunlock h)
  | getInfo t => exact Or.inl (hunlock h)
  | getProcessTenant pid => exact Or.inl (hunlock h)
  | getResourceUsage t => exact Or.inl (hunlock h)
  | checkResourceLimit t resourceType amount => exact Or.inl (hunlock h)
  | getActiveList maxCount => exact Or.inl (hunlock h)
  | printAll => exact Or.inl (hunlock h)
  | getStatistics t => exact Or.inl (hunlock h)

/-- A call that changes a record or a mapping stamps, and so advances `version`. -/
theorem version_forward {e : TimedCall}
    (hchanged : (e.exec shm).tenants ≠ shm.tenants ∨ (e.exec shm).pidMappings ≠ shm.pidMappings)
    (hfits : shm.version.toNat + increments e.call < 2 ^ 64) :
    shm.version < (e.exec shm).version := by
  have hmarks := marks_exec shm e
  cases hstamp : stampOf shm e with
  | none =>
    rw [hstamp] at hmarks
    have hsame : e.exec shm = shm := hmarks
    rw [hsame] at hchanged
    exact absurd hchanged (by simp)
  | some stamp =>
    rw [hstamp] at hmarks
    rw [UInt64.lt_iff_toNat_lt]
    rcases stampOf_cases hstamp with rfl | ⟨rfl, htwo⟩
    · have hone : 1 ≤ increments e.call := by
        unfold increments
        split <;> decide
      rw [hmarks.1, Counter.toNat_add_amount rfl (by rw [UInt64.toNat_one]; omega)]
      exact Nat.lt_succ_self _
    · rw [htwo] at hfits
      rw [hmarks.1, Counter.toNat_add_amount rfl hfits]
      exact Nat.lt_add_of_pos_right (by decide)

/-- A stamp is no later than what its clock has shown last. -/
def NotAfter (wall : TimeT) (monotonic : UInt64) : Stamp → Prop
  | .wall t => t ≤ wall
  | .monotonic ns => ns ≤ monotonic

/-- What a run keeps: the field holds the last stamp. -/
structure MarkerInv (s : MarkerRun) : Prop where
  value : s.shm.lastUpdateTime = s.last.value
  notAfter : NotAfter s.wall s.monotonic s.last

/-- A stamp at the call is in order with the last one exactly when it may follow it. -/
theorem value_le_iff {s : MarkerRun} {e : TimedCall} {stamp : Stamp}
    (h : NotAfter s.wall s.monotonic s.last) (hclocks : ClocksForward s e)
    (hstamp : stamp = .wall e.wall ∨ stamp = .monotonic e.monotonic) :
    s.last.value ≤ stamp.value ↔ MayFollow s.last stamp := by
  cases hlast : s.last with
  | wall t =>
    rw [hlast] at h
    rcases hstamp with rfl | rfl
    · exact Counter.toUInt64_le_iff (Int64.le_trans h hclocks.wall)
    · exact Iff.rfl
  | monotonic ns =>
    rw [hlast] at h
    rcases hstamp with rfl | rfl
    · exact Iff.rfl
    · exact iff_of_true (UInt64.le_trans h hclocks.monotonic) trivial

/-- The field after a call. -/
theorem lastUpdateTime_exec {e : TimedCall} (shm : TenantShm) :
    (e.exec shm).lastUpdateTime = ((stampOf shm e).map Stamp.value).getD shm.lastUpdateTime := by
  have hmarks := marks_exec shm e
  cases hstamp : stampOf shm e with
  | none =>
    rw [hstamp] at hmarks
    exact congrArg TenantShm.lastUpdateTime hmarks
  | some stamp =>
    rw [hstamp] at hmarks
    cases stamp with
    | wall t => exact hmarks.2
    | monotonic ns => exact hmarks.2

theorem MarkerInv.start (wall : TimeT) (monotonic : UInt64) :
    MarkerInv (.start wall monotonic) := ⟨rfl, Int64.le_refl wall⟩

theorem MarkerInv.step {s : MarkerRun} {e : TimedCall} (h : MarkerInv s)
    (hclocks : ClocksForward s e) : MarkerInv (s.step e) := by
  constructor
  · change (e.exec s.shm).lastUpdateTime = ((stampOf s.shm e).getD s.last).value
    rw [lastUpdateTime_exec]
    cases stampOf s.shm e with
    | none => exact h.value
    | some stamp => rfl
  · change NotAfter e.wall e.monotonic ((stampOf s.shm e).getD s.last)
    cases hstamp : stampOf s.shm e with
    | none =>
      have hlast := h.notAfter
      cases hs : s.last with
      | wall t =>
        rw [hs] at hlast
        exact Int64.le_trans hlast hclocks.wall
      | monotonic ns =>
        rw [hs] at hlast
        exact UInt64.le_trans hlast hclocks.monotonic
    | some stamp =>
      rcases stampOf_cases hstamp with rfl | ⟨rfl, -⟩
      · exact Int64.le_refl e.wall
      · exact UInt64.le_refl e.monotonic

/-- The step lemma: a call moves the markers forward exactly when its stamp may follow. -/
theorem MarkerInv.forward_iff {s : MarkerRun} {e : TimedCall} (h : MarkerInv s)
    (hclocks : ClocksForward s e) : MarkersForward s e ↔ StampMayFollow s e := by
  have htime : s.shm.lastUpdateTime ≤ (e.exec s.shm).lastUpdateTime ↔ StampMayFollow s e := by
    unfold StampMayFollow
    rw [lastUpdateTime_exec, h.value]
    cases hstamp : stampOf s.shm e with
    | none => simp
    | some stamp =>
      have hnow : stamp = .wall e.wall ∨ stamp = .monotonic e.monotonic :=
        (stampOf_cases hstamp).imp id And.left
      simpa using value_le_iff h.notAfter hclocks hnow
  rw [← htime]
  exact ⟨MarkersForward.lastUpdateTime, fun hle => ⟨version_forward, hle⟩⟩

/-! ## Runs -/

/-- **The change markers move forward exactly as long as every stamp may follow the one before
it.** -/
theorem changeMarkers_forward_iff (wall : TimeT) (monotonic : UInt64) (calls : List TimedCall)
    (hclocks : Along MarkerRun.step ClocksForward (.start wall monotonic) calls) :
    Along MarkerRun.step MarkersForward (.start wall monotonic) calls ↔
      Along MarkerRun.step StampMayFollow (.start wall monotonic) calls :=
  along_congr_of_allowed (fun _ _ h hc => h.step hc) (fun _ _ h hc => h.forward_iff hc)
    (MarkerInv.start wall monotonic) hclocks

/-- The command that sets the QP quota of tenant 1 to 50. -/
def quotaCommand : Json :=
  .object [(CText.text "cmd", .string (CText.text "UPDATE_QUOTA")), (CText.text "tenant", .int 1),
    (CText.text "qp", .int 50)]

/-- A tenant is created, its quota is updated by the daemon after an uptime of 5000 seconds, and
a second later a manager sets its status. -/
def quotaRun : List TimedCall :=
  [⟨.op (.create 1 none none), 1700000000, 4999000000000⟩,
    ⟨.updateQuota quotaCommand, 1700000001, 5000000000000⟩,
    ⟨.op (.setStatus 1 .suspended), 1700000002, 5001000000000⟩]

theorem quotaRun_clocks :
    Along MarkerRun.step ClocksForward (.start 1700000000 4999000000000) quotaRun :=
  ⟨⟨by decide, by decide⟩, ⟨by decide, by decide⟩, ⟨by decide, by decide⟩, trivial⟩

/-- The status change takes `last_update_time` back. -/
theorem changeMarkers_goBack :
    ¬ ∀ (wall : TimeT) (monotonic : UInt64) (calls : List TimedCall),
      Along MarkerRun.step ClocksForward (.start wall monotonic) calls →
      Along MarkerRun.step MarkersForward (.start wall monotonic) calls := by
  intro hclaim
  obtain ⟨-, -, hstatus, -⟩ := hclaim 1700000000 4999000000000 quotaRun quotaRun_clocks
  have hlate := hstatus.lastUpdateTime
  revert hlate
  decide +kernel

theorem changeMarkers_forward_iff_quotaRun :
    Along MarkerRun.step MarkersForward (.start 1700000000 4999000000000) quotaRun ↔
      Along MarkerRun.step StampMayFollow (.start 1700000000 4999000000000) quotaRun :=
  changeMarkers_forward_iff 1700000000 4999000000000 quotaRun quotaRun_clocks

end RdmaIntercept.Analysis
