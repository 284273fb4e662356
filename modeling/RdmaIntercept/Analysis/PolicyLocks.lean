import RdmaIntercept.Analysis.DynamicPolicySpec

/-!
# The lock discipline of the policy manager

Every call of the manager releases what it has locked, on each of its exits.  The thread
that adjusts the policies calls `dynamic_policy_adjust`, which locks for itself, with the
mutex in its hands.  The discipline is kept throughout a run exactly when that thread never
comes round while the automatic adjustment is on.
-/

set_option autoImplicit false

namespace RdmaIntercept.Analysis

open RdmaIntercept.Library RdmaIntercept.Library.LockM RdmaIntercept.Model

/-- The call gets past its locks and returns with `g_policy_mutex` released. -/
def ReleasesPolicyMutex (s : PolicySystem) (e : Thread × PolicyCall) : Prop :=
  ∃ s', (e.2.exec e.1).run s = .ok () s' ∧ s'.holder .policy = none

/-- An adjusting thread comes round, and is to adjust. -/
def AdjustsOnTick (s : PolicySystem) (e : Thread × PolicyCall) : Prop :=
  e.2 = .tick ∧ s.data.adjustThreads ≠ 0 ∧ s.data.running = true ∧ s.data.config.autoAdjust = true

variable {d : PolicyManager} {t : Thread}

/-! ## One call -/

/-- The thread has locked the mutex before `dynamic_policy_adjust` locks it. -/
theorem tick_deadlocks (hthread : d.adjustThreads ≠ 0) (hrun : d.running = true)
    (hadjust : d.config.autoAdjust = true) :
    ∃ s', (adjustThreadTick t).run ⟨allFree, d⟩ = .error (.selfDeadlock .policy) s' := by
  simp [adjustThreadTick, dynamicPolicyAdjust, hthread, hrun, hadjust]

theorem tick_returns (h : ¬ (d.adjustThreads ≠ 0 ∧ d.running = true ∧ d.config.autoAdjust = true)) :
    ∃ d', (adjustThreadTick t).run ⟨allFree, d⟩ = .ok () ⟨allFree, d'⟩ := by
  by_cases hthread : d.adjustThreads = 0
  · simp [adjustThreadTick, hthread]
  · cases hrun : d.running with
    | false => simp [adjustThreadTick, hthread, hrun]
    | true =>
      have hadjust : d.config.autoAdjust = false := by
        simpa [hthread, hrun] using h
      simp [adjustThreadTick, hthread, hrun, hadjust]

/-- Every call but that of a thread that adjusts returns with all mutexes released. -/
theorem call_returns {e : Thread × PolicyCall} (h : ¬ AdjustsOnTick ⟨allFree, d⟩ e) :
    ∃ d', (e.2.exec e.1).run ⟨allFree, d⟩ = .ok () ⟨allFree, d'⟩ := by
  obtain ⟨t, c⟩ := e
  cases c with
  | op o => simp [PolicyCall.exec, run_op]
  | cleanup => simp [PolicyCall.exec, dynamicPolicyCleanup, changeConfig]
  | saveConfig opens => cases opens <;> simp [PolicyCall.exec, dynamicPolicySaveConfig]
  | getLimit resource wanted =>
    cases wanted with
    | false => simp [PolicyCall.exec, dynamicPolicyGetLimit]
    | true => simp [PolicyCall.exec, run_getLimit]
  | checkLimit resource current requested unset => simp [PolicyCall.exec, run_checkLimit]
  | getConfig wanted => cases wanted <;> simp [PolicyCall.exec, dynamicPolicyGetConfig]
  | adjust => simp [PolicyCall.exec, dynamicPolicyAdjust]
  | printConfig => simp [PolicyCall.exec, dynamicPolicyPrintConfig]
  | setTenantPolicy tenantId policy now =>
    cases policy with
    | none => simp [PolicyCall.exec, dynamicPolicySetTenantPolicy]
    | some policy =>
      by_cases hid : 64 ≤ tenantId <;>
        simp [PolicyCall.exec, dynamicPolicySetTenantPolicy, hid]
  | getTenantPolicy tenantId wanted =>
    by_cases hnone : wanted = false ∨ 64 ≤ tenantId <;>
      simp [PolicyCall.exec, dynamicPolicyGetTenantPolicy, hnone]
  | deleteTenantPolicy tenantId =>
    by_cases hid : 64 ≤ tenantId <;>
      simp [PolicyCall.exec, dynamicPolicyDeleteTenantPolicy, hid]
  | checkTenantLimit tenantId resource current requested =>
    by_cases hid : 64 ≤ tenantId
    · simp [PolicyCall.exec, dynamicPolicyCheckTenantLimit, hid]
    · cases hr : ResourceType.ofInt resource <;>
        simp [PolicyCall.exec, dynamicPolicyCheckTenantLimit, hid, run_getTenantPolicy, hr]
  | getAllTenantPolicies wanted maxCount =>
    by_cases hnone : wanted = false ∨ maxCount ≤ 0 <;>
      simp [PolicyCall.exec, dynamicPolicyGetAllTenantPolicies, hnone]
  | tick =>
    apply tick_returns
    intro hadjusts
    exact h ⟨rfl, hadjusts⟩

/-! ## Runs -/

/-- The step lemma: with all mutexes free, a call keeps the discipline exactly when it is not
that of a thread that adjusts. -/
theorem releasesPolicyMutex_iff {s : PolicySystem} (hs : s.holder = allFree)
    (e : Thread × PolicyCall) : ReleasesPolicyMutex s e ↔ ¬ AdjustsOnTick s e := by
  obtain ⟨hold, d⟩ := s
  obtain rfl : hold = allFree := hs
  constructor
  · rintro ⟨s', hreturns, -⟩ ⟨htick, hthread, hrun, hadjust⟩
    obtain ⟨t, c⟩ := e
    obtain rfl : c = .tick := htick
    obtain ⟨s'', hdeadlock⟩ := tick_deadlocks (t := t) hthread hrun hadjust
    have htwo : (adjustThreadTick t).run ⟨allFree, d⟩ = .ok () s' := hreturns
    rw [hdeadlock] at htwo
    cases htwo
  · intro h
    obtain ⟨d', hreturns⟩ := call_returns h
    exact ⟨_, hreturns, rfl⟩

/-- Such a call leaves all mutexes free. -/
theorem holder_step {s : PolicySystem} (hs : s.holder = allFree) {e : Thread × PolicyCall}
    (h : ¬ AdjustsOnTick s e) : (s.step e).holder = allFree := by
  obtain ⟨hold, d⟩ := s
  obtain rfl : hold = allFree := hs
  obtain ⟨d', hreturns⟩ := call_returns h
  simp only [PolicySystem.step, hreturns]

/-- The lock discipline is kept throughout a run exactly when no thread comes round to
adjust while the automatic adjustment is on. -/
theorem policyMutex_released_iff (segment : SharedMemoryData)
    (calls : List (Thread × PolicyCall)) :
    Along PolicySystem.step ReleasesPolicyMutex (.unstarted segment) calls ↔
      Along PolicySystem.step (fun s e => ¬ AdjustsOnTick s e) (.unstarted segment) calls := by
  apply along_congr_of_step (I := fun s => s.holder = allFree)
  · intro s e hs hreleases
    exact holder_step hs ((releasesPolicyMutex_iff hs e).mp hreleases)
  · intro s e hs
    exact releasesPolicyMutex_iff hs e
  · rfl

/-- The automatic adjustment is switched on and an interval passes. -/
theorem policyMutex_deadlocks :
    ¬ ∀ (segment : SharedMemoryData) (calls : List (Thread × PolicyCall)),
      Along PolicySystem.step ReleasesPolicyMutex (.unstarted segment) calls := by
  intro h
  have hquiet := (policyMutex_released_iff .blank
    [(0, .op (.init (.succeeds 0) true 0)), (0, .op (.setAutoAdjust true 1 0.8 0.2)),
      (1, .tick)]).mp (h .blank _)
  exact hquiet.2.2.1 ⟨rfl, by decide, rfl, rfl⟩

end RdmaIntercept.Analysis
