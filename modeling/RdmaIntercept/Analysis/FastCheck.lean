import RdmaIntercept.Model.ResourceCache

/-!
# The fast resource check

`perf_optimizer_check_resource_fast` is given the current amount and yet compares with the
amount in the cache when its process has a fresh entry there, and it adds the request in 32
bits.  Its verdict is that of the comparison `current + requested ≤ limit` exactly when the
two amounts are on the same side of the limit and the sum does not wrap, or when a sum that
wraps to an amount within the limit meets a caller's amount that is within the limit.
-/

set_option autoImplicit false

namespace RdmaIntercept.Analysis

open RdmaIntercept.Library RdmaIntercept.Model

/-- The check holds exactly when the request fits. -/
def FastCheckAgrees (o : PerfOptimizer) (p : Pid) (resourceType : Int32)
    (current requested limit : UInt32) (clock : Clock) (endNs : UInt64) : Prop :=
  (perfOptimizerCheckResourceFast o p resourceType current requested limit clock endNs).1 = true ↔
    current.toNat + requested.toNat ≤ limit.toNat

/-- The amount beside which the request is put: that of a fresh entry of the process, or
else the caller's. -/
def amountFor (o : PerfOptimizer) (p : Pid) (resourceType : Int32) (current : UInt32)
    (clock : Clock) : UInt32 :=
  actualCurrent (perfOptimizerGetCachedResources o p clock).1 resourceType current

/-- The sum does not fit in 32 bits, and what is left of it is within the limit. -/
def WrapsBelow (amount requested limit : UInt32) : Prop :=
  2 ^ 32 ≤ amount.toNat + requested.toNat ∧
    amount.toNat + requested.toNat ≤ limit.toNat + 2 ^ 32

/-- The request fits beside both amounts or beside none, and the sum does not wrap; or it
wraps and the request fits beside the caller's. -/
def SameSide (amount current requested limit : UInt32) : Prop :=
  (WrapsBelow amount requested limit → current.toNat + requested.toNat ≤ limit.toNat) ∧
    (¬ WrapsBelow amount requested limit →
      (amount.toNat + requested.toNat ≤ limit.toNat ↔
        current.toNat + requested.toNat ≤ limit.toNat))

/-- A comparison of a sum in 32 bits. -/
theorem add_le_iff (amount requested limit : UInt32) :
    amount + requested ≤ limit ↔
      amount.toNat + requested.toNat ≤ limit.toNat ∨ WrapsBelow amount requested limit := by
  have hamount := amount.toNat_lt
  have hrequested := requested.toNat_lt
  have hlimit := limit.toNat_lt
  rw [UInt32.le_iff_toNat_le, UInt32.toNat_add, WrapsBelow]
  omega

/-- The counters do not matter to a look-up. -/
theorem get_fst_withStats (o : PerfOptimizer) (stats : PerfOptimizerStats) (p : Pid)
    (clock : Clock) :
    (perfOptimizerGetCachedResources { o with stats := stats } p clock).1 =
      (perfOptimizerGetCachedResources o p clock).1 := by
  unfold perfOptimizerGetCachedResources
  simp only
  split
  · rfl
  · split
    · rfl
    · split <;> rfl

theorem checkResourceFast_iff (o : PerfOptimizer) (p : Pid) (resourceType : Int32)
    (current requested limit : UInt32) (clock : Clock) (endNs : UInt64) :
    (perfOptimizerCheckResourceFast o p resourceType current requested limit clock endNs).1 = true ↔
      amountFor o p resourceType current clock + requested ≤ limit := by
  have hget := get_fst_withStats o
    { o.stats with totalOperations := o.stats.totalOperations + 1 } p clock
  unfold perfOptimizerCheckResourceFast amountFor
  simp only
  rw [hget, decide_eq_true_iff]

/-- The check in one state of the cache. -/
theorem fastCheckAgrees_iff (o : PerfOptimizer) (p : Pid) (resourceType : Int32)
    (current requested limit : UInt32) (clock : Clock) (endNs : UInt64) :
    FastCheckAgrees o p resourceType current requested limit clock endNs ↔
      SameSide (amountFor o p resourceType current clock) current requested limit := by
  rw [FastCheckAgrees, checkResourceFast_iff, add_le_iff, SameSide]
  by_cases hwrap : WrapsBelow (amountFor o p resourceType current clock) requested limit
  · simp [hwrap]
  · simp [hwrap]

/-- On a miss the check is wrong only when the sum wraps. -/
theorem fastCheckAgrees_of_miss {o : PerfOptimizer} {p : Pid} {clock : Clock}
    (hmiss : (perfOptimizerGetCachedResources o p clock).1 = none) (resourceType : Int32)
    (current requested limit : UInt32) (endNs : UInt64) :
    FastCheckAgrees o p resourceType current requested limit clock endNs ↔
      ¬ WrapsBelow current requested limit := by
  have hamount : amountFor o p resourceType current clock = current := by
    rw [amountFor, hmiss]
    rfl
  have hlimit := limit.toNat_lt
  rw [fastCheckAgrees_iff, hamount, SameSide]
  by_cases hwrap : WrapsBelow current requested limit
  · have hlarge := hwrap.1
    simp [hwrap]
    omega
  · simp [hwrap]

end RdmaIntercept.Analysis
