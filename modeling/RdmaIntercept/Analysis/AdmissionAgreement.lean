import RdmaIntercept.Analysis.StoreSpec
import RdmaIntercept.Analysis.WorldSpec
import RdmaIntercept.Model.VerbsRuns

/-!
# The two admission checks

The hooks decide about a creation with `check_tenant_qp_limit` and
`check_tenant_mr_limit_inline`, every other caller of the tenant API asks
`tenant_check_resource_limit`.  Both read the same record of the tenant and decide again
what it allows.  They answer alike for an INACTIVE tenant.  They differ for an ACTIVE one
whose count is `-1`, to which the second adds one before it compares, for one whose memory
quota is zero, which only the first takes for no quota, and for a SUSPENDED tenant with
room, which only the second refuses.
-/

set_option autoImplicit false

namespace RdmaIntercept.Analysis

open RdmaIntercept.Library RdmaIntercept.Model

/-- `check_tenant_qp_limit` holds exactly when `tenant_check_resource_limit` refuses no
further QP. -/
def AgreeOnQp (s : System) (p : Pid) (t : UInt32) : Prop :=
  (checkTenantQpLimit s p t).1 = true ↔ checkResourceLimitFrom s p t 0 1 = false

/-- `check_tenant_mr_limit_inline` holds exactly when `tenant_check_resource_limit` refuses
neither a further MR nor the bytes. -/
def AgreeOnMr (s : System) (p : Pid) (t length : UInt32) : Prop :=
  (checkTenantMrLimitInline s p t length.toUInt64).1 = true ↔
    checkResourceLimitFrom s p t 1 1 = false ∧ checkResourceLimitFrom s p t 2 length = false

/-- No room for a further QP. -/
def QpFull (info : TenantInfo) : Prop := info.quota.maxQpPerTenant ≤ info.usage.qpCount.toUInt32

/-- No room for a further MR. -/
def MrFull (info : TenantInfo) : Prop := info.quota.maxMrPerTenant ≤ info.usage.mrCount.toUInt32

/-- `length` bytes more would exceed the number in `max_memory_per_tenant`. -/
def MemoryFull (info : TenantInfo) (length : UInt32) : Prop :=
  info.quota.maxMemoryPerTenant < info.usage.memoryUsed + length.toUInt64

/-- When a record gets the same verdict on a QP from both checks. -/
def SameQpVerdict (info : TenantInfo) : Prop :=
  match info.status with
  | .inactive => True
  | .active => info.usage.qpCount ≠ -1
  | .suspended => QpFull info

/-- When a record gets the same verdict on a registration of `length` bytes from both
checks. -/
def SameMrVerdict (info : TenantInfo) (length : UInt32) : Prop :=
  match info.status with
  | .inactive => True
  | .active =>
    if info.usage.mrCount = -1 then MemoryFull info length
    else info.quota.maxMemoryPerTenant = 0 → MemoryFull info length → MrFull info
  | .suspended => MrFull info ∨ (0 < info.quota.maxMemoryPerTenant ∧ MemoryFull info length)

/-! ## Counts -/

/-- Adding one before the comparison misses the count that wraps. -/
theorem lt_add_one_iff (max count : UInt32) :
    max < count + 1 ↔ count ≠ 4294967295 ∧ max ≤ count := by
  have hmax := max.toNat_lt
  have hcount := count.toNat_lt
  rw [UInt32.lt_iff_toNat_lt, UInt32.le_iff_toNat_le, ne_eq, ← UInt32.toNat_inj,
    UInt32.toNat_add]
  simp
  omega

/-- The count that wraps is `-1`. -/
theorem toUInt32_eq_max_iff (count : Int32) : count.toUInt32 = 4294967295 ↔ count = -1 := by
  constructor
  · intro h
    calc count = count.toUInt32.toInt32 := by simp
      _ = -1 := by rw [h]; rfl
  · rintro rfl
    rfl

theorem exceeds_qp_iff (info : TenantInfo) :
    info.exceeds 0 1 = true ↔ info.usage.qpCount ≠ -1 ∧ QpFull info := by
  simp only [TenantInfo.exceeds, if_true, decide_eq_true_eq]
  rw [lt_add_one_iff, ne_eq, toUInt32_eq_max_iff]
  rfl

theorem exceeds_mr_iff (info : TenantInfo) :
    info.exceeds 1 1 = true ↔ info.usage.mrCount ≠ -1 ∧ MrFull info := by
  have h10 : ¬ (1 : Int32) = 0 := by decide
  simp only [TenantInfo.exceeds, if_neg h10, if_true, decide_eq_true_eq]
  rw [lt_add_one_iff, ne_eq, toUInt32_eq_max_iff]
  rfl

theorem exceeds_memory_iff (info : TenantInfo) (length : UInt32) :
    info.exceeds 2 length = true ↔ MemoryFull info length := by
  have h20 : ¬ (2 : Int32) = 0 := by decide
  have h21 : ¬ (2 : Int32) = 1 := by decide
  simp only [TenantInfo.exceeds, if_neg h20, if_neg h21, if_true, decide_eq_true_eq]
  rfl

/-- A count of `-1` leaves no room, whatever the quota. -/
theorem qpFull_of_neg_one {info : TenantInfo} (h : info.usage.qpCount = -1) : QpFull info := by
  unfold QpFull
  rw [h, UInt32.le_iff_toNat_le]
  have := info.quota.maxQpPerTenant.toNat_lt
  have hmax : ((-1 : Int32).toUInt32).toNat = 4294967295 := rfl
  omega

theorem mrFull_of_neg_one {info : TenantInfo} (h : info.usage.mrCount = -1) : MrFull info := by
  unfold MrFull
  rw [h, UInt32.le_iff_toNat_le]
  have := info.quota.maxMrPerTenant.toNat_lt
  have hmax : ((-1 : Int32).toUInt32).toNat = 4294967295 := rfl
  omega

/-! ## The checks on a record -/

/-- In a process without the tenant segment both checks let everything pass. -/
theorem checkResourceLimitFrom_unattached {s : System} {p : Pid} (t : UInt32)
    (h : (s.proc p).tenantInitialized = false) (resourceType : Int32) (amount : UInt32) :
    checkResourceLimitFrom s p t resourceType amount = false := by
  simp [checkResourceLimitFrom, h]

/-- What `tenant_check_resource_limit` lets pass. -/
theorem checkResourceLimitFrom_iff {s : System} {p : Pid} {t : UInt32}
    (hinit : (s.proc p).tenantInitialized = true) (ht : t.toNat < MAX_TENANTS)
    (resourceType : Int32) (amount : UInt32) :
    checkResourceLimitFrom s p t resourceType amount = false ↔
      s.status t = .active ∧ ¬ (s.tenantShm.tenant t).exceeds resourceType amount = true := by
  rw [checkResourceLimitFrom, hinit, Bool.true_and, tenantCheckResourceLimit_fst,
    decide_eq_true ht, Bool.true_and, Bool.or_eq_false_iff, Bool.not_eq_false', decide_eq_true_iff,
    Bool.not_eq_true]
  rfl

theorem agreeOnQp_unattached {s : System} {p : Pid} (t : UInt32)
    (h : (s.proc p).tenantInitialized = false) : AgreeOnQp s p t := by
  rw [AgreeOnQp, checkTenantQpLimit_iff]
  exact iff_of_true (Or.inr (Or.inl h)) (checkResourceLimitFrom_unattached t h 0 1)

theorem agreeOnMr_unattached {s : System} {p : Pid} (t length : UInt32)
    (h : (s.proc p).tenantInitialized = false) : AgreeOnMr s p t length := by
  rw [AgreeOnMr, checkTenantMrLimitInline_iff]
  exact iff_of_true (Or.inr (Or.inl h)) ⟨checkResourceLimitFrom_unattached t h 1 1,
    checkResourceLimitFrom_unattached t h 2 length⟩

/-- The check of the hooks, for a tenant whose id they do not exempt. -/
theorem qpQuotaAllows_iff {s : System} {p : Pid} {t : UInt32}
    (hinit : (s.proc p).tenantInitialized = true) (h0 : t ≠ 0) (ht : t.toNat < MAX_TENANTS) :
    QpQuotaAllows s p t ↔ s.status t ≠ .inactive ∧ ¬ QpFull (s.tenantShm.tenant t) := by
  simp only [QpQuotaAllows, h0, hinit, Bool.true_eq_false, ht, false_or, true_and, QpFull,
    UInt32.not_le]
  rfl

theorem mrQuotaAllows_iff {s : System} {p : Pid} {t : UInt32} (length : UInt32)
    (hinit : (s.proc p).tenantInitialized = true) (h0 : t ≠ 0) (ht : t.toNat < MAX_TENANTS) :
    MrQuotaAllows s p t length.toUInt64 ↔
      s.status t ≠ .inactive ∧ ¬ MrFull (s.tenantShm.tenant t) ∧
        (0 < (s.quota t).maxMemoryPerTenant → ¬ MemoryFull (s.tenantShm.tenant t) length) := by
  simp only [MrQuotaAllows, h0, hinit, Bool.true_eq_false, ht, false_or, true_and, MrFull,
    MemoryFull, UInt32.not_le, UInt64.not_lt]
  rfl

/-! ## Agreement -/

theorem agreeOnQp_iff {s : System} {p : Pid} {t : UInt32}
    (hinit : (s.proc p).tenantInitialized = true) (h0 : t ≠ 0) (ht : t.toNat < MAX_TENANTS) :
    AgreeOnQp s p t ↔ SameQpVerdict (s.tenantShm.tenant t) := by
  have hstatus : (s.tenantShm.tenant t).status = s.status t := rfl
  rw [AgreeOnQp, checkTenantQpLimit_iff, qpQuotaAllows_iff hinit h0 ht,
    checkResourceLimitFrom_iff hinit ht, exceeds_qp_iff, SameQpVerdict, hstatus]
  cases hs : s.status t with
  | inactive => simp
  | active =>
    by_cases hneg : (s.tenantShm.tenant t).usage.qpCount = -1
    · have hfull := qpFull_of_neg_one hneg
      simp [hneg, hfull]
    · simp [hneg]
  | suspended => simp

theorem agreeOnMr_iff {s : System} {p : Pid} {t : UInt32} (length : UInt32)
    (hinit : (s.proc p).tenantInitialized = true) (h0 : t ≠ 0) (ht : t.toNat < MAX_TENANTS) :
    AgreeOnMr s p t length ↔ SameMrVerdict (s.tenantShm.tenant t) length := by
  have hstatus : (s.tenantShm.tenant t).status = s.status t := rfl
  have hquota : (s.tenantShm.tenant t).quota = s.quota t := rfl
  rw [AgreeOnMr, checkTenantMrLimitInline_iff, mrQuotaAllows_iff length hinit h0 ht,
    checkResourceLimitFrom_iff hinit ht, checkResourceLimitFrom_iff hinit ht, exceeds_mr_iff,
    exceeds_memory_iff, SameMrVerdict, hstatus, hquota]
  have hzero : (s.quota t).maxMemoryPerTenant = 0 ↔ ¬ 0 < (s.quota t).maxMemoryPerTenant := by
    rw [UInt64.lt_iff_toNat_lt, ← UInt64.toNat_inj]
    simp
  cases hs : s.status t with
  | inactive => simp
  | active =>
    by_cases hneg : (s.tenantShm.tenant t).usage.mrCount = -1
    · have hfull := mrFull_of_neg_one hneg
      simp [hneg, hfull]
    · by_cases hfull : MrFull (s.tenantShm.tenant t) <;>
        by_cases hpos : 0 < (s.quota t).maxMemoryPerTenant <;> simp [hneg, hzero, hfull, hpos]
  | suspended =>
    by_cases hfull : MrFull (s.tenantShm.tenant t) <;>
      by_cases hpos : 0 < (s.quota t).maxMemoryPerTenant <;> simp [hfull, hpos]

end RdmaIntercept.Analysis
