import RdmaIntercept.Analysis.Scenario
import RdmaIntercept.Analysis.SharedMemorySpec
import RdmaIntercept.Model.BaseHooks

/-!
# The two admission checks

The tenant library and the base library decide on a QP creation by two copies of one
procedure.  For a process of the default tenant the copies agree on every check but the
last two: the limits on the work requests are in the base library only.  The decisions
are the same exactly when those limits are kept or something else decides before them
(`sameDecision_iff`).
-/

set_option autoImplicit false

namespace RdmaIntercept.Analysis

open RdmaIntercept.Library RdmaIntercept.Model

/-- The attributes ask for more work requests than the settings allow. -/
def WrLimitExceeded (config : InterceptConfig) (attr : QpInitAttr) : Prop :=
  config.maxSendWrLimit < attr.maxSendWr ∨ config.maxRecvWrLimit < attr.maxRecvWr

/-- QP control is on, and the checks of the type, of the process and of the system pass. -/
def CommonChecksPass (s : System) (p : Pid) (attr : QpInitAttr) : Prop :=
  (s.proc p).config.enableQpControl = true ∧
    qpTypeAllowed (s.proc p).config attr.qpType = true ∧
    processLimitOk s p = true ∧ globalLimitOk s p = true

variable {s : System} {p : Pid}

/-- With the segment mapped neither library uses anything else. -/
theorem baseProcessLimitOk_eq (hp : 0 < p) (hatt : (s.proc p).shmAttached = true)
    (ebpf : EbpfMonitor) : baseProcessLimitOk s p ebpf = processLimitOk s p := by
  unfold baseProcessLimitOk processLimitOk getProcessResourcesViaSharedMemory
  rw [if_pos hatt, shmGetProcessResources_eq hp]
  simp only
  rw [← decide_not]
  exact decide_eq_decide.mpr UInt32.not_lt.symm

theorem baseCheck_iff (hp : 0 < p) (hatt : (s.proc p).shmAttached = true) (ebpf : EbpfMonitor)
    (attr : QpInitAttr) :
    baseCheckQpCreationRestrictions s p ebpf attr = true ↔
      ((s.proc p).config.enableQpControl = true →
        qpTypeAllowed (s.proc p).config attr.qpType = true ∧
          processLimitOk s p = true ∧ globalLimitOk s p = true ∧
          ¬ WrLimitExceeded (s.proc p).config attr) := by
  unfold baseCheckQpCreationRestrictions WrLimitExceeded
  rw [baseProcessLimitOk_eq hp hatt ebpf]
  simp only [not_or]
  cases (s.proc p).config.enableQpControl with
  | false => simp
  | true =>
    cases qpTypeAllowed (s.proc p).config attr.qpType with
    | false => simp
    | true =>
      cases processLimitOk s p with
      | false => simp
      | true => cases globalLimitOk s p <;> simp

/-- In the default tenant there is no quota. -/
theorem tenantCheck_iff (htenant : currentTenant s p = 0) (attr : QpInitAttr) :
    (checkQpCreationRestrictions s p attr).1 = true ↔
      ((s.proc p).config.enableQpControl = true →
        qpTypeAllowed (s.proc p).config attr.qpType = true ∧
          processLimitOk s p = true ∧ globalLimitOk s p = true) := by
  have hquota : QpQuotaAllows s p (currentTenant s p) := Or.inl htenant
  rw [checkQpCreationRestrictions_iff]
  unfold QpAdmitted
  simp only [hquota, true_and]

/-- What the tenant library refuses the base library refuses. -/
theorem base_refuses_of_tenant_refuses (hp : 0 < p) (hatt : (s.proc p).shmAttached = true)
    (htenant : currentTenant s p = 0) (ebpf : EbpfMonitor) {attr : QpInitAttr}
    (h : (checkQpCreationRestrictions s p attr).1 = false) :
    baseCheckQpCreationRestrictions s p ebpf attr = false := by
  by_contra hbase
  have hadm := (baseCheck_iff hp hatt ebpf attr).mp (Bool.eq_true_of_not_eq_false hbase)
  have htrue := (tenantCheck_iff htenant attr).mpr fun hon =>
    ⟨(hadm hon).1, (hadm hon).2.1, (hadm hon).2.2.1⟩
  exact Bool.false_ne_true (h.symm.trans htrue)

/-- **The two libraries decide alike exactly when the limits on the work requests are not all
that stands against the creation.** -/
theorem sameDecision_iff (s : System) (p : Pid) (attr : QpInitAttr) (ebpf : EbpfMonitor)
    (hp : 0 < p) (hatt : (s.proc p).shmAttached = true) (htenant : currentTenant s p = 0) :
    (checkQpCreationRestrictions s p attr).1 = baseCheckQpCreationRestrictions s p ebpf attr ↔
      ¬ (CommonChecksPass s p attr ∧ WrLimitExceeded (s.proc p).config attr) := by
  have htwo := tenantCheck_iff htenant attr
  have hbase := baseCheck_iff hp hatt ebpf attr
  rw [Bool.eq_iff_iff, htwo, hbase]
  unfold CommonChecksPass
  constructor
  · rintro hsame ⟨⟨hon, htype, hprocess, hglobal⟩, hwr⟩
    exact (hsame.mp (fun _ => ⟨htype, hprocess, hglobal⟩) hon).2.2.2 hwr
  · intro hno
    constructor
    · intro h hon
      obtain ⟨htype, hprocess, hglobal⟩ := h hon
      exact ⟨htype, hprocess, hglobal, fun hwr => hno ⟨⟨hon, htype, hprocess, hglobal⟩, hwr⟩⟩
    · intro h hon
      obtain ⟨htype, hprocess, hglobal, -⟩ := h hon
      exact ⟨htype, hprocess, hglobal⟩

/-- An RC queue pair with more send requests than the default limit of 1024. -/
def deepQueue : QpInitAttr := ⟨.rc, 2048, 16⟩

/-- eBPF is not there. -/
def noEbpf : EbpfMonitor := ⟨false, fun _ => none⟩

/-- Process 9, which belongs to no tenant, may create it with the tenant library only. -/
theorem tenant_library_drops_wr_limit :
    currentTenant (sampleWorld defaultQuota qpControlConfig).sys 9 = 0 ∧
      ¬ (checkQpCreationRestrictions (sampleWorld defaultQuota qpControlConfig).sys 9 deepQueue).1 =
        baseCheckQpCreationRestrictions (sampleWorld defaultQuota qpControlConfig).sys 9 noEbpf
          deepQueue := by
  decide +kernel

theorem sameDecision_iff_deepQueue :
    (checkQpCreationRestrictions (sampleWorld defaultQuota qpControlConfig).sys 9 deepQueue).1 =
        baseCheckQpCreationRestrictions (sampleWorld defaultQuota qpControlConfig).sys 9 noEbpf
          deepQueue ↔
      ¬ (CommonChecksPass (sampleWorld defaultQuota qpControlConfig).sys 9 deepQueue ∧
        WrLimitExceeded ((sampleWorld defaultQuota qpControlConfig).sys.proc 9).config
          deepQueue) :=
  sameDecision_iff _ 9 deepQueue noEbpf (by decide) rfl (by decide +kernel)

end RdmaIntercept.Analysis
