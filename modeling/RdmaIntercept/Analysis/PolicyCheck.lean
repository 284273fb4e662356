import RdmaIntercept.Analysis.PolicyLimits
import RdmaIntercept.Library.Counter

/-!
# The limit check of the policy manager

What `dynamic_policy_check_limit` answers, against the limits as they are meant: an enabled
rule, the limit of the resource in question, and sums that are not cut off.  The code looks at
no rule's `enabled`, compares memory with the limits on numbers, compares the resources
without a global count with the global limit all the same, and adds in 32 bits.  The answer is
the one that is meant exactly when none of this shows.
-/

set_option autoImplicit false

namespace RdmaIntercept.Analysis

open RdmaIntercept.Library RdmaIntercept.Library.LockM RdmaIntercept.Model

/-! ## The meaning of the limits -/

/-- The limit on what one process has: bytes of memory, a number of the others. -/
def processLimitOf (limit : ResourceLimit) : ResourceType → ℕ
  | .memory => limit.maxMemory.toNat
  | _ => limit.maxPerProcess.toNat

/-- The global count, of the resources that are counted. -/
def globalCount (usage : ResourceUsage) : ResourceType → Option ℤ
  | .qp => some usage.qpCount.toInt
  | .mr => some usage.mrCount.toInt
  | _ => none

/-- The rule is enabled and what the process would have, or all of them together, exceeds the
limit. -/
def LimitExceeded (d : PolicyManager) (r : ResourceType) (current requested : UInt32) : Prop :=
  (d.config.rule r).enabled = true ∧
    (processLimitOf (d.config.rule r).limit r < current.toNat + requested.toNat ∨
      ∃ g ∈ globalCount d.segment.globalStats r,
        ((d.config.rule r).limit.maxGlobal.toNat : ℤ) < g + requested.toNat)

/-- The check returns, leaves everything as it was and reports what it should. -/
def CheckMeets (d : PolicyManager) (t : Thread) (r : ResourceType) (current requested : UInt32)
    (unset : ResourceUsage) : Prop :=
  ∃ reported : Bool,
    (dynamicPolicyCheckLimit t r.toUInt32.toInt32 current requested unset).run ⟨allFree, d⟩ =
      .ok reported ⟨allFree, d⟩ ∧
    (reported = true ↔ LimitExceeded d r current requested)

/-! ## Where the code gives that answer -/

/-- A sum that is cut off at 32 bits is over the limit on numbers, for all processes or for
one. -/
def CutOver (limit : ResourceLimit) (g : ℤ) (current requested : ℕ) : Prop :=
  (limit.maxGlobal.toNat : ℤ) < (g + requested) % 2 ^ 32 ∨
    limit.maxPerProcess.toNat < (current + requested) % 2 ^ 32

/-- The rule, the counts and the amounts are such that the code's comparisons are right: a
disabled rule whose numbers are not exceeded; of an enabled one, sums too large for 32 bits
that show all the same, and no excess that is seen only in a count that does not exist or is
negative; of memory, numbers that are exceeded together with the bytes. -/
def CheckSuits (d : PolicyManager) (r : ResourceType) (current requested : UInt32) : Prop :=
  let limit := (d.config.rule r).limit
  let count := globalCount d.segment.globalStats r
  let c := current.toNat
  let q := requested.toNat
  let cut := CutOver limit (count.getD 0) c q
  if (d.config.rule r).enabled = false then ¬ cut
  else if r = .memory then limit.maxMemory.toNat < c + q ↔ cut
  else
    (2 ^ 32 ≤ c + q ∨ 2 ^ 32 ≤ count.getD 0 + q → cut) ∧
      (c + q < 2 ^ 32 → count = none ∨ count.getD 0 + q < 0 →
        (limit.maxGlobal.toNat : ℤ) < (count.getD 0 + q) % 2 ^ 32 →
          limit.maxPerProcess.toNat < c + q)

variable {d : PolicyManager} {t : Thread}

theorem ofInt_toUInt32 (r : ResourceType) : ResourceType.ofInt r.toUInt32.toInt32 = some r := by
  cases r <;> rfl

/-- The count that the code compares is the global count read as an unsigned word. -/
theorem toNat_globalCurrent (usage : ResourceUsage) (r : ResourceType) :
    ((globalCurrent usage r).toNat : ℤ) = (globalCount usage r).getD 0 % 2 ^ 32 := by
  cases r with
  | qp => exact Counter.natCast_toNat_toUInt32 usage.qpCount
  | mr => exact Counter.natCast_toNat_toUInt32 usage.mrCount
  | cq => rfl
  | pd => rfl
  | memory => rfl

/-- The comparisons of the code are those of the cut sums. -/
theorem overLimit_iff (limit : ResourceLimit) (usage : ResourceUsage) (r : ResourceType)
    (current requested : UInt32) :
    OverLimit limit (globalCurrent usage r) current requested ↔
      CutOver limit ((globalCount usage r).getD 0) current.toNat requested.toNat := by
  have hcount := toNat_globalCurrent usage r
  unfold OverLimit CutOver
  rw [UInt32.lt_iff_toNat_lt, UInt32.lt_iff_toNat_lt, UInt32.toNat_add, UInt32.toNat_add]
  omega

/-! ## One check -/

section Sums

variable (limit : ResourceLimit) (g : ℤ) {current requested : ℕ}

/-- With a global count, the cut sums are wrong where a sum does not fit and shows nowhere, or
where the count is negative beyond what is requested. -/
theorem cutOver_iff_of_counted (hcurrent : current < 2 ^ 32) (hrequested : requested < 2 ^ 32) :
    (CutOver limit g current requested ↔
        limit.maxPerProcess.toNat < current + requested ∨
          (limit.maxGlobal.toNat : ℤ) < g + requested) ↔
      (2 ^ 32 ≤ current + requested ∨ 2 ^ 32 ≤ g + requested → CutOver limit g current requested) ∧
        (current + requested < 2 ^ 32 → g + requested < 0 →
          (limit.maxGlobal.toNat : ℤ) < (g + requested) % 2 ^ 32 →
            limit.maxPerProcess.toNat < current + requested) := by
  have hglobal := limit.maxGlobal.toNat_lt
  have hprocess := limit.maxPerProcess.toNat_lt
  unfold CutOver
  omega

/-- Without one, they are wrong too where the request alone is over the global limit. -/
theorem cutOver_iff_of_uncounted (hcurrent : current < 2 ^ 32) (hrequested : requested < 2 ^ 32) :
    (CutOver limit 0 current requested ↔ limit.maxPerProcess.toNat < current + requested) ↔
      (2 ^ 32 ≤ current + requested ∨ 2 ^ 32 ≤ 0 + (requested : ℤ) →
          CutOver limit 0 current requested) ∧
        (current + requested < 2 ^ 32 →
          (limit.maxGlobal.toNat : ℤ) < (0 + requested) % 2 ^ 32 →
            limit.maxPerProcess.toNat < current + requested) := by
  have hglobal := limit.maxGlobal.toNat_lt
  have hprocess := limit.maxPerProcess.toNat_lt
  unfold CutOver
  omega

end Sums

/-- The comparisons say what is meant exactly when they suit. -/
theorem cutOver_meant_iff (d : PolicyManager) (r : ResourceType) (current requested : UInt32) :
    (CutOver (d.config.rule r).limit ((globalCount d.segment.globalStats r).getD 0)
        current.toNat requested.toNat ↔ LimitExceeded d r current requested) ↔
      CheckSuits d r current requested := by
  have hcurrent := current.toNat_lt
  have hrequested := requested.toNat_lt
  cases henabled : (d.config.rule r).enabled with
  | false => simp [CheckSuits, LimitExceeded, henabled]
  | true =>
    cases r with
    | memory =>
      simp only [CheckSuits, LimitExceeded, henabled, globalCount, processLimitOf]
      simpa using iff_comm
    | qp =>
      have hcounted := cutOver_iff_of_counted (d.config.rule .qp).limit
        d.segment.globalStats.qpCount.toInt hcurrent hrequested
      simpa [CheckSuits, LimitExceeded, henabled, globalCount, processLimitOf] using hcounted
    | mr =>
      have hcounted := cutOver_iff_of_counted (d.config.rule .mr).limit
        d.segment.globalStats.mrCount.toInt hcurrent hrequested
      simpa [CheckSuits, LimitExceeded, henabled, globalCount, processLimitOf] using hcounted
    | cq =>
      have huncounted := cutOver_iff_of_uncounted (d.config.rule .cq).limit hcurrent hrequested
      simpa [CheckSuits, LimitExceeded, henabled, globalCount, processLimitOf] using huncounted
    | pd =>
      have huncounted := cutOver_iff_of_uncounted (d.config.rule .pd).limit hcurrent hrequested
      simpa [CheckSuits, LimitExceeded, henabled, globalCount, processLimitOf] using huncounted

end RdmaIntercept.Analysis
