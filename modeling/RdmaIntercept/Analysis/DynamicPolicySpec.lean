import RdmaIntercept.Model.DynamicPolicy

/-!
# What the operations of the policy manager do

An operation that finds the mutexes free runs to its end and leaves them free.  What it
returns and what it does to the data is then said without them (`opOutcome`); the proofs
about operations use that and do not look at the locks again.
-/

set_option autoImplicit false

namespace RdmaIntercept.Analysis

open RdmaIntercept.Library RdmaIntercept.Library.LockM RdmaIntercept.Model

variable {d : PolicyManager} {t : Thread}

/-- The result of an operation and the data it leaves. -/
def opOutcome (d : PolicyManager) : PolicyOp → Int32 × PolicyManager
  | .init shm threadCreated now =>
    let (opened, d) := { d with config := setDefaultConfig now }.shmInit shm
    if !opened then (-1, d)
    else
      let d := { d.syncGlobalLimits with running := true }
      if !threadCreated then (-1, d) else (0, { d with adjustThreads := d.adjustThreads + 1 })
  | .setLimit resource limit =>
    match limit, ResourceType.ofInt resource with
    | some limit, some resource =>
      let config := d.config.modifyRule resource fun r => { r with limit := limit }
      (0, { d with config := config }.syncGlobalLimits)
    | _, _ => (-1, d)
  | .update config =>
    match config with
    | some config => (0, { d with config := config }.syncGlobalLimits)
    | none => (-1, d)
  | .loadConfig file =>
    match file with
    | some file => (0, { d with config := loadPolicyFile d.config file })
    | none => (-1, d)
  | .setDefault now => (0, { d with config := setDefaultConfig now })
  | .setAutoAdjust enable interval high low =>
    (0, { d with config := d.config.withAutoAdjust enable interval high low })
  | .enableRule resource enable =>
    match ResourceType.ofInt resource with
    | some resource =>
      (0, { d with config := d.config.modifyRule resource fun r => { r with enabled := enable } })
    | none => (-1, d)

/-- An operation runs to its end. -/
theorem run_op (o : PolicyOp) :
    (o.exec t).run ⟨allFree, d⟩ = .ok (opOutcome d o).1 ⟨allFree, (opOutcome d o).2⟩ := by
  cases o with
  | init shm threadCreated now =>
    cases shm <;> cases threadCreated <;>
      simp [PolicyOp.exec, dynamicPolicyInit, changeConfig, PolicyManager.shmInit, opOutcome]
  | setLimit resource limit =>
    cases limit with
    | none => simp [PolicyOp.exec, dynamicPolicySetLimit, opOutcome]
    | some limit =>
      cases hr : ResourceType.ofInt resource <;>
        simp [PolicyOp.exec, dynamicPolicySetLimit, changeConfig, opOutcome, hr]
  | update config =>
    cases config <;> simp [PolicyOp.exec, dynamicPolicyUpdate, changeConfig, opOutcome]
  | loadConfig file =>
    cases file <;> simp [PolicyOp.exec, dynamicPolicyLoadConfig, changeConfig, opOutcome]
  | setDefault now => simp [PolicyOp.exec, dynamicPolicySetDefault, changeConfig, opOutcome]
  | setAutoAdjust enable interval high low =>
    simp [PolicyOp.exec, dynamicPolicySetAutoAdjust, changeConfig, opOutcome]
  | enableRule resource enable =>
    cases hr : ResourceType.ofInt resource <;>
      simp [PolicyOp.exec, dynamicPolicyEnableRule, changeConfig, opOutcome, hr]

theorem run_getLimit (resource : Int32) :
    (dynamicPolicyGetLimit t resource true).run ⟨allFree, d⟩ =
      .ok ((ResourceType.ofInt resource).map fun r => (d.config.rule r).limit) ⟨allFree, d⟩ := by
  cases hr : ResourceType.ofInt resource <;> simp [dynamicPolicyGetLimit, hr]

/-- The global count that is compared with the limit; some resources have none. -/
def globalCurrent (usage : ResourceUsage) : ResourceType → UInt32
  | .qp => usage.qpCount.toUInt32
  | .mr => usage.mrCount.toUInt32
  | _ => 0

/-- The two comparisons of the limit check. -/
def OverLimit (limit : ResourceLimit) (globalCurrent current requested : UInt32) : Prop :=
  limit.maxGlobal < globalCurrent + requested ∨ limit.maxPerProcess < current + requested

instance (limit : ResourceLimit) (globalCurrent current requested : UInt32) :
    Decidable (OverLimit limit globalCurrent current requested) :=
  inferInstanceAs (Decidable (_ ∨ _))

/-- The limit check runs to its end and changes nothing. -/
theorem run_checkLimit (resource : Int32) (current requested : UInt32) (unset : ResourceUsage) :
    (dynamicPolicyCheckLimit t resource current requested unset).run ⟨allFree, d⟩ =
      .ok ((ResourceType.ofInt resource).elim false fun r =>
          OverLimit (d.config.rule r).limit (globalCurrent (d.globalUsage unset) r) current
            requested)
        ⟨allFree, d⟩ := by
  cases hr : ResourceType.ofInt resource with
  | none => simp [dynamicPolicyCheckLimit, run_getLimit, hr]
  | some r =>
    have hcount : (if resource = 0 then (d.globalUsage unset).qpCount.toUInt32
        else if resource = 1 then (d.globalUsage unset).mrCount.toUInt32 else 0) =
        globalCurrent (d.globalUsage unset) r := by
      unfold ResourceType.ofInt at hr
      split_ifs at hr <;> cases hr <;> simp_all [globalCurrent]
    simp only [dynamicPolicyCheckLimit, EStateM.run_bind, run_getLimit, hr, Option.map_some,
      run_look, hcount]
    split_ifs with hglobal hprocess
    · have hover : OverLimit (d.config.rule r).limit (globalCurrent (d.globalUsage unset) r)
          current requested := Or.inl hglobal
      simp [hover]
    · have hover : OverLimit (d.config.rule r).limit (globalCurrent (d.globalUsage unset) r)
          current requested := Or.inr hprocess
      simp [hover]
    · have hover : ¬ OverLimit (d.config.rule r).limit (globalCurrent (d.globalUsage unset) r)
          current requested := not_or.mpr ⟨hglobal, hprocess⟩
      simp [hover]

theorem run_getTenantPolicy {tenantId : UInt32} (h : ¬ 64 ≤ tenantId) :
    (dynamicPolicyGetTenantPolicy t tenantId true).run ⟨allFree, d⟩ =
      .ok (some (d.tenantPolicies (tenantSlot tenantId))) ⟨allFree, d⟩ := by
  simp [dynamicPolicyGetTenantPolicy, h]

end RdmaIntercept.Analysis
