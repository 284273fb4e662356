import RdmaIntercept.Analysis.BaseComparison
import RdmaIntercept.Analysis.LocalLedger
import RdmaIntercept.Model.BaseVerbs

/-!
# The limits of the base library as a last resort

Where the base library can read neither the segment nor the eBPF maps it decides on the counts
of its own process.  They count what the process has, and in every run the three limits are
kept exactly if no count wraps (`last_resort_limits`): the check of a creation adds one in 32
bits and that of a registration adds the length in 64 bits before they compare.
-/

set_option autoImplicit false

namespace RdmaIntercept.Analysis

open RdmaIntercept.Library RdmaIntercept.Model

/-! ## What the process has -/

/-- The MRs that are registered, or were destroyed without being deregistered. -/
def heldMrs (r : BaseRun) : ℕ := r.mrs.length + r.lost.length

/-- Their bytes. -/
def heldBytes (r : BaseRun) : ℕ :=
  (r.mrs.map fun mr => mr.length.toNat).sum + (r.lost.map fun mr => mr.length.toNat).sum

/-- The counts show what the process has. -/
def CountsHeld (p : Pid) (r : BaseRun) : Prop :=
  Shows (r.sys.proc p) r.qps.length (heldMrs r) (heldBytes r)

/-- What the process has is within its limits. -/
structure WithinLimits (config : InterceptConfig) (r : BaseRun) : Prop where
  qps : r.qps.length ≤ config.maxQpPerProcess.toNat
  mrs : heldMrs r ≤ config.maxMrPerProcess.toNat
  bytes : heldBytes r ≤ config.maxMemoryPerProcess.toNat

/-! ## Runs without the segment -/

/-- The eBPF maps answer nothing for the process. -/
def NoAnswer (ebpf : EbpfMonitor) (p : Pid) : Prop :=
  ebpf.initialized = false ∨ ebpf.getProcessResources p = none

/-- The hooks of the process are entered and have both controls, and no segment. -/
structure LastResort (p : Pid) (config : InterceptConfig) (r : BaseRun) : Prop where
  config : (r.sys.proc p).config = config
  qp : Ready r.sys p .qp
  mr : Ready r.sys p .mr
  unattached : (r.sys.proc p).shmAttached = false

/-- The eBPF maps answer nothing, and the process destroys what it has. -/
def LastResortEvent (p : Pid) (r : BaseRun) : BaseEvent → Prop
  | .createQp env _ _ _ => NoAnswer env.ebpf p
  | .destroyQp qp _ => qp ∈ r.qps
  | .regMr env _ _ _ _ _ => NoAnswer env.ebpf p
  | .deregMr mr _ => mr ∈ r.mrs
  | .destroyMr _ mr _ => mr ∈ r.mrs
  | .other _ _ => True
  | .tick _ => True

/-- No count wraps at a granted creation. -/
def NoWrap (p : Pid) (r : BaseRun) : BaseEvent → Prop
  | .createQp env _ attr driver =>
    baseCheckQpCreationRestrictions r.sys p env.ebpf attr = true → driver ≠ none →
      r.qps.length + 1 < 2 ^ 32
  | .regMr env _ _ length _ driver =>
    baseCheckMrRegistration r.sys p env length = true → driver ≠ none →
      heldBytes r + length.toNat < 2 ^ 64
  | _ => True

/-- The checks decide on what the process has, as long as their sums do not wrap. -/
def DecidesOnHeld (p : Pid) (config : InterceptConfig) (r : BaseRun) : BaseEvent → Prop
  | .createQp env _ attr _ =>
    r.qps.length + 1 < 2 ^ 32 →
      (baseCheckQpCreationRestrictions r.sys p env.ebpf attr = true ↔
        qpTypeAllowed config attr.qpType = true ∧
          r.qps.length + 1 ≤ config.maxQpPerProcess.toNat ∧ ¬ WrLimitExceeded config attr)
  | .regMr env _ _ length _ _ =>
    heldBytes r + length.toNat < 2 ^ 64 →
      (baseCheckMrRegistration r.sys p env length = true ↔
        heldMrs r + 1 ≤ config.maxMrPerProcess.toNat ∧
          heldBytes r + length.toNat ≤ config.maxMemoryPerProcess.toNat ∧
          env.memoryLimitReached length = false)
  | _ => True

variable {p : Pid} {config : InterceptConfig} {r : BaseRun}

/-! ## The checks -/

theorem mrLimitOk_iff (config : InterceptConfig) (mrCount : UInt32) (memoryUsed length : UInt64) :
    mrLimitOk config mrCount memoryUsed length = true ↔
      mrCount.toNat + 1 ≤ config.maxMrPerProcess.toNat ∧
        (memoryUsed + length).toNat ≤ config.maxMemoryPerProcess.toNat := by
  unfold mrLimitOk
  by_cases hcount : config.maxMrPerProcess ≤ mrCount
  · rw [if_pos hcount]
    rw [UInt32.le_iff_toNat_le] at hcount
    exact iff_of_false Bool.false_ne_true (by omega)
  · rw [if_neg hcount]
    rw [UInt32.le_iff_toNat_le] at hcount
    by_cases hmemory : config.maxMemoryPerProcess < memoryUsed + length
    · rw [if_pos hmemory]
      rw [UInt64.lt_iff_toNat_lt] at hmemory
      exact iff_of_false Bool.false_ne_true (by omega)
    · rw [if_neg hmemory]
      rw [UInt64.lt_iff_toNat_lt] at hmemory
      exact iff_of_true rfl (by omega)

theorem LastResort.check_iff (h : LastResort p config r) (hcontrol : config.enableQpControl = true)
    {ebpf : EbpfMonitor} (hno : NoAnswer ebpf p) (attr : QpInitAttr) :
    baseCheckQpCreationRestrictions r.sys p ebpf attr = true ↔
      qpTypeAllowed config attr.qpType = true ∧
        ((r.sys.proc p).qpCount + 1).toNat ≤ config.maxQpPerProcess.toNat ∧
        ¬ WrLimitExceeded config attr := by
  have hprocess : baseProcessLimitOk r.sys p ebpf = localLimitOk (r.sys.proc p) := by
    unfold baseProcessLimitOk getProcessResourcesViaSharedMemory fallbackLimitOk
    rw [h.unattached]
    rcases hno with hno | hno
    · simp [hno]
    · simp [hno]
  have hglobal : globalLimitOk r.sys p = true := by
    unfold globalLimitOk getGlobalResourcesViaSharedMemory
    simp [h.unattached]
  unfold baseCheckQpCreationRestrictions WrLimitExceeded
  rw [hprocess, hglobal, localLimitOk, h.config, ← UInt32.le_iff_toNat_le]
  simp only [hcontrol, not_or]
  cases qpTypeAllowed config attr.qpType with
  | false => simp
  | true =>
    by_cases hlimit : (r.sys.proc p).qpCount + 1 ≤ config.maxQpPerProcess
    · simp [hlimit]
    · simp [hlimit]

theorem LastResort.checkMr_iff (h : LastResort p config r)
    (hcontrol : config.enableMrControl = true) {env : BaseEnv} (hno : NoAnswer env.ebpf p)
    (length : UInt64) :
    baseCheckMrRegistration r.sys p env length = true ↔
      (r.sys.proc p).mrCount.toNat + 1 ≤ config.maxMrPerProcess.toNat ∧
        ((r.sys.proc p).memoryUsed + length).toNat ≤ config.maxMemoryPerProcess.toNat ∧
        env.memoryLimitReached length = false := by
  have hlocal : baseMrLimitOk r.sys p env.ebpf length =
      mrLimitOk config (r.sys.proc p).mrCount (r.sys.proc p).memoryUsed length := by
    unfold baseMrLimitOk getProcessResourcesViaSharedMemory fallbackMrLimitOk localMrLimitOk
    rw [h.unattached, h.config]
    rcases hno with hno | hno
    · simp [hno]
    · simp [hno]
  have hiff := mrLimitOk_iff config (r.sys.proc p).mrCount (r.sys.proc p).memoryUsed length
  unfold baseCheckMrRegistration
  rw [hlocal, h.config, hcontrol]
  rw [← and_assoc, ← hiff]
  cases mrLimitOk config (r.sys.proc p).mrCount (r.sys.proc p).memoryUsed length <;>
    cases env.memoryLimitReached length <;> simp

/-! ## One event -/

theorem step_createQp_cases (hready : Ready r.sys p .qp) (env : BaseEnv) (pd : Handle)
    (attr : QpInitAttr) (driver : Option Handle) :
    (¬ (baseCheckQpCreationRestrictions r.sys p env.ebpf attr = true ∧ driver ≠ none) ∧
        r.step p (.createQp env pd attr driver) = r) ∨
      ∃ qp, driver = some qp ∧ baseCheckQpCreationRestrictions r.sys p env.ebpf attr = true ∧
        r.step p (.createQp env pd attr driver) =
          { r with
            sys := publishProcessResources (r.sys.setProc p (r.sys.proc p).addQp) p
            qps := qp :: r.qps } := by
  have hhook : ∀ hook, interceptCreate r.sys p (.qp pd attr) driver hook = hook :=
    interceptCreate_ready hready driver
  unfold BaseRun.step baseCreateQp
  simp only [hhook]
  cases hcheck : baseCheckQpCreationRestrictions r.sys p env.ebpf attr with
  | false => exact Or.inl ⟨fun h => Bool.false_ne_true h.1, by simp⟩
  | true =>
    cases driver with
    | none => exact Or.inl ⟨fun h => h.2 rfl, by simp⟩
    | some qp => exact Or.inr ⟨qp, rfl, rfl, by simp⟩

theorem step_regMr_cases (hready : Ready r.sys p .mr) (env : BaseEnv) (pd addr : Handle)
    (length : UInt64) (access : Int32) (driver : Option Handle) :
    (¬ (baseCheckMrRegistration r.sys p env length = true ∧ driver ≠ none) ∧
        r.step p (.regMr env pd addr length access driver) = r) ∨
      ∃ mr, driver = some mr ∧ baseCheckMrRegistration r.sys p env length = true ∧
        r.step p (.regMr env pd addr length access driver) =
          { r with
            sys := r.sys.setProc p ((r.sys.proc p).addMr length)
            mrs := ⟨mr, length⟩ :: r.mrs } := by
  have hhook : ∀ hook, interceptCreate r.sys p (.mr pd addr length access) driver hook = hook :=
    interceptCreate_ready hready driver
  unfold BaseRun.step baseRegMr
  simp only [hhook]
  cases hcheck : baseCheckMrRegistration r.sys p env length with
  | false => exact Or.inl ⟨fun h => Bool.false_ne_true h.1, by simp⟩
  | true =>
    cases driver with
    | none => exact Or.inl ⟨fun h => h.2 rfl, by simp⟩
    | some mr => exact Or.inr ⟨mr, rfl, rfl, by simp⟩

theorem step_destroyQp_cases (hready : Ready r.sys p .qp) (qp : Handle) (driver : Int32) :
    r.step p (.destroyQp qp driver) = r ∨
      r.step p (.destroyQp qp driver) =
        { r with sys := r.sys.setProc p (r.sys.proc p).removeQp, qps := r.qps.erase qp } := by
  have hhook : ∀ hook, interceptDestroy r.sys p (.qp qp) driver hook = hook :=
    interceptDestroy_ready hready driver
  unfold BaseRun.step baseDestroyQp
  simp only [hhook]
  by_cases hdriver : driver = 0
  · right
    simp [hdriver]
  · left
    simp [hdriver]

theorem step_deregMr_cases (hready : Ready r.sys p .mr) (mr : Mr) (driver : Int32) :
    r.step p (.deregMr mr driver) = r ∨
      r.step p (.deregMr mr driver) =
        { r with
          sys := r.sys.setProc p ((r.sys.proc p).removeMr mr.length)
          mrs := r.mrs.erase mr } := by
  have hhook : ∀ hook, interceptDestroy r.sys p (.mr (some mr)) driver hook = hook :=
    interceptDestroy_ready hready driver
  unfold BaseRun.step baseDeregMr
  simp only [hhook]
  by_cases hdriver : driver = 0
  · right
    simp [hdriver]
  · left
    simp [hdriver]

theorem step_destroyMr_cases (p : Pid) (r : BaseRun) (real : Bool) (mr : Mr) (driver : Int32) :
    r.step p (.destroyMr real mr driver) = r ∨
      r.step p (.destroyMr real mr driver) =
        { r with mrs := r.mrs.erase mr, lost := mr :: r.lost } := by
  unfold BaseRun.step
  simp only
  split
  · exact Or.inr rfl
  · exact Or.inl rfl

/-! ## The settings -/

theorem LastResort.congr {r' : BaseRun} (h : LastResort p config r)
    (hset : SameSettings (r.sys.proc p) (r'.sys.proc p)) : LastResort p config r' :=
  ⟨hset.config.trans h.config, h.qp.congr hset, h.mr.congr hset,
    hset.shmAttached.trans h.unattached⟩

/-- Without the segment nothing is published. -/
theorem publish_unattached {s : System} {st : ProcState} (h : st.shmAttached = false) :
    publishProcessResources (s.setProc p st) p = s.setProc p st := by
  unfold publishProcessResources
  rw [setProc_self, h]
  simp

theorem sameSettings_setProc {s : System} {st : ProcState} (h : SameSettings (s.proc p) st) :
    SameSettings (s.proc p) ((s.setProc p st).proc p) := by
  rw [setProc_self]
  exact h

theorem LastResort.step (h : LastResort p config r) (e : BaseEvent) :
    LastResort p config (r.step p e) := by
  cases e with
  | createQp env pd attr driver =>
    rcases step_createQp_cases h.qp env pd attr driver with ⟨-, hstep⟩ | ⟨qp, -, -, hstep⟩
    · rw [hstep]
      exact h
    · have hattached : (r.sys.proc p).addQp.shmAttached = false := h.unattached
      rw [hstep, publish_unattached hattached]
      exact h.congr (sameSettings_setProc (sameSettings_addObj _ (.qp pd attr)))
  | destroyQp qp driver =>
    rcases step_destroyQp_cases h.qp qp driver with hstep | hstep
    · rw [hstep]
      exact h
    · rw [hstep]
      exact h.congr (sameSettings_setProc (sameSettings_removeQp _))
  | regMr env pd addr length access driver =>
    rcases step_regMr_cases h.mr env pd addr length access driver with ⟨-, hstep⟩ | ⟨mr, -, -, hstep⟩
    · rw [hstep]
      exact h
    · rw [hstep]
      exact h.congr (sameSettings_setProc (sameSettings_addObj _ (.mr pd addr length access)))
  | deregMr mr driver =>
    rcases step_deregMr_cases h.mr mr driver with hstep | hstep
    · rw [hstep]
      exact h
    · rw [hstep]
      exact h.congr (sameSettings_setProc (sameSettings_removeMr _ _))
  | destroyMr real mr driver =>
    rcases step_destroyMr_cases p r real mr driver with hstep | hstep
    · rw [hstep]
      exact h
    · rw [hstep]
      exact ⟨h.config, h.qp, h.mr, h.unattached⟩
  | other op nowNs => exact h.congr (.refl _)
  | tick mono => exact h.congr (.refl _)

/-! ## The counts -/

theorem sum_lengths_erase {mr : Mr} {mrs : List Mr} (h : mr ∈ mrs) :
    (mrs.map fun mr => mr.length.toNat).sum =
      ((mrs.erase mr).map fun mr => mr.length.toNat).sum + mr.length.toNat := by
  rw [Nat.add_comm]
  exact (List.sum_map_erase _ h).symm

theorem heldMrs_cons (sys : System) (mr : Mr) :
    heldMrs { r with sys := sys, mrs := mr :: r.mrs } = heldMrs r + 1 := by
  simp only [heldMrs, List.length_cons]
  omega

theorem heldMrs_erase {mr : Mr} (h : mr ∈ r.mrs) :
    heldMrs r = heldMrs { r with mrs := r.mrs.erase mr } + 1 := by
  have hpos := List.length_pos_of_mem h
  simp only [heldMrs, List.length_erase_of_mem h]
  omega

theorem heldMrs_lose {mr : Mr} (h : mr ∈ r.mrs) :
    heldMrs { r with mrs := r.mrs.erase mr, lost := mr :: r.lost } = heldMrs r := by
  have hpos := List.length_pos_of_mem h
  simp only [heldMrs, List.length_erase_of_mem h, List.length_cons]
  omega

theorem heldBytes_cons (sys : System) (mr : Mr) :
    heldBytes { r with sys := sys, mrs := mr :: r.mrs } = heldBytes r + mr.length.toNat := by
  simp only [heldBytes, List.map_cons, List.sum_cons]
  omega

theorem heldBytes_erase {mr : Mr} (h : mr ∈ r.mrs) :
    heldBytes r = heldBytes { r with mrs := r.mrs.erase mr } + mr.length.toNat := by
  simp only [heldBytes, sum_lengths_erase h]
  omega

theorem heldBytes_lose {mr : Mr} (h : mr ∈ r.mrs) :
    heldBytes { r with mrs := r.mrs.erase mr, lost := mr :: r.lost } = heldBytes r := by
  simp only [heldBytes, sum_lengths_erase h, List.map_cons, List.sum_cons]
  omega

/-- A granted creation of a QP counts it, unless the count wraps. -/
theorem CountsHeld.addQp (h : CountsHeld p r) (hroom : r.qps.length + 1 < 2 ^ 32) (qp : Handle) :
    CountsHeld p
      { r with sys := r.sys.setProc p (r.sys.proc p).addQp, qps := qp :: r.qps } := by
  unfold CountsHeld
  dsimp only
  rw [setProc_self]
  exact ⟨Counter.toNat_succ h.qpCount hroom, h.mrCount, h.memoryUsed⟩

theorem CountsHeld.removeQp (h : CountsHeld p r) {qp : Handle} (hqp : qp ∈ r.qps) :
    CountsHeld p
      { r with sys := r.sys.setProc p (r.sys.proc p).removeQp, qps := r.qps.erase qp } := by
  have hlength : r.qps.length = (r.qps.erase qp).length + 1 := by
    have hpos := List.length_pos_of_mem hqp
    rw [List.length_erase_of_mem hqp]
    omega
  have hcount := h.qpCount
  rw [hlength] at hcount
  unfold CountsHeld
  rw [setProc_self, ProcState.removeQp, if_pos (Counter.pos_of_toNat hcount)]
  exact ⟨Counter.toNat_pred hcount, h.mrCount, h.memoryUsed⟩

theorem CountsHeld.addMr (h : CountsHeld p r) {length : UInt64} (hroom : heldMrs r + 1 < 2 ^ 32)
    (hbytes : heldBytes r + length.toNat < 2 ^ 64) (mr : Handle) :
    CountsHeld p { r with
      sys := r.sys.setProc p ((r.sys.proc p).addMr length)
      mrs := ⟨mr, length⟩ :: r.mrs } := by
  have hcount := Counter.toNat_succ h.mrCount hroom
  have hmemory := Counter.toNat_add_amount h.memoryUsed hbytes
  unfold CountsHeld
  dsimp only
  rw [setProc_self]
  refine ⟨h.qpCount, ?_, ?_⟩
  · rw [heldMrs_cons]
    exact hcount
  · change ((r.sys.proc p).memoryUsed + length).toNat = _
    rw [hmemory, heldBytes_cons]

theorem CountsHeld.removeMr (h : CountsHeld p r) {mr : Mr} (hmr : mr ∈ r.mrs) :
    CountsHeld p { r with
      sys := r.sys.setProc p ((r.sys.proc p).removeMr mr.length)
      mrs := r.mrs.erase mr } := by
  have hcount := h.mrCount.trans (heldMrs_erase hmr)
  have hmemory := h.memoryUsed.trans (heldBytes_erase hmr)
  obtain ⟨hguard, hless⟩ := Counter.toNat_sub_amount hmemory
  unfold CountsHeld
  dsimp only
  rw [setProc_self]
  simp only [ProcState.removeMr, if_pos (Counter.pos_of_toNat hcount), if_pos hguard]
  exact ⟨h.qpCount, Counter.toNat_pred hcount, hless⟩

/-- An MR that is destroyed without being deregistered stays counted. -/
theorem CountsHeld.loseMr (h : CountsHeld p r) {mr : Mr} (hmr : mr ∈ r.mrs) :
    CountsHeld p { r with mrs := r.mrs.erase mr, lost := mr :: r.lost } := by
  unfold CountsHeld
  rw [heldMrs_lose hmr, heldBytes_lose hmr]
  exact h

/-! ## Runs -/

/-- An event that keeps the counts and creates nothing keeps the limits. -/
theorem WithinLimits.of_le {r' : BaseRun} (h : WithinLimits config r)
    (hqps : r'.qps.length ≤ r.qps.length) (hmrs : heldMrs r' ≤ heldMrs r)
    (hbytes : heldBytes r' ≤ heldBytes r) : WithinLimits config r' :=
  ⟨hqps.trans h.qps, hmrs.trans h.mrs, hbytes.trans h.bytes⟩

/-- An event at which no count wraps. -/
theorem ledger_of_noWrap {e : BaseEvent} {r' : BaseRun} (hroom : NoWrap p r e)
    (hstep : r.step p e = r') (hcounts : CountsHeld p r') (hwithin : WithinLimits config r') :
    (NoWrap p r e → CountsHeld p (r.step p e) ∧ WithinLimits config (r.step p e)) ∧
      (¬ NoWrap p r e → ¬ WithinLimits config (r.step p e)) := by
  rw [hstep]
  exact ⟨fun _ => ⟨hcounts, hwithin⟩, fun hwrap => absurd hroom hwrap⟩

/-- One event keeps the counts and the limits if no count wraps, and else breaks a limit. -/
theorem LastResort.ledger (h : LastResort p config r) (hqpControl : config.enableQpControl = true)
    (hmrControl : config.enableMrControl = true) {e : BaseEvent} (he : LastResortEvent p r e)
    (hcounts : CountsHeld p r) (hwithin : WithinLimits config r) :
    (NoWrap p r e → CountsHeld p (r.step p e) ∧ WithinLimits config (r.step p e)) ∧
      (¬ NoWrap p r e → ¬ WithinLimits config (r.step p e)) := by
  cases e with
  | createQp env pd attr driver =>
    rcases step_createQp_cases h.qp env pd attr driver with
      ⟨hno, hstep⟩ | ⟨qp, hdriver, hcheck, hstep⟩
    · have hroom : NoWrap p r (.createQp env pd attr driver) :=
        fun hcheck hdriver => absurd ⟨hcheck, hdriver⟩ hno
      exact ledger_of_noWrap hroom hstep hcounts hwithin
    · have hattached : (r.sys.proc p).addQp.shmAttached = false := h.unattached
      have hlimit := ((h.check_iff hqpControl he attr).mp hcheck).2.1
      rw [hstep, publish_unattached hattached]
      constructor
      · intro hroom
        have hroom := hroom hcheck (by rw [hdriver]; exact Option.some_ne_none qp)
        rw [Counter.toNat_succ hcounts.qpCount hroom] at hlimit
        exact ⟨hcounts.addQp hroom qp, hlimit, hwithin.mrs, hwithin.bytes⟩
      · intro hwrap hafter
        have hmax := config.maxQpPerProcess.toNat_lt
        have hqps : r.qps.length + 1 ≤ config.maxQpPerProcess.toNat := hafter.qps
        exact hwrap fun _ _ => by omega
  | destroyQp qp driver =>
    rcases step_destroyQp_cases h.qp qp driver with hstep | hstep
    · exact ledger_of_noWrap trivial hstep hcounts hwithin
    · exact ledger_of_noWrap trivial hstep (hcounts.removeQp he)
        (hwithin.of_le List.length_erase_le le_rfl le_rfl)
  | regMr env pd addr length access driver =>
    rcases step_regMr_cases h.mr env pd addr length access driver with
      ⟨hno, hstep⟩ | ⟨mr, hdriver, hcheck, hstep⟩
    · have hroom : NoWrap p r (.regMr env pd addr length access driver) :=
        fun hcheck hdriver => absurd ⟨hcheck, hdriver⟩ hno
      exact ledger_of_noWrap hroom hstep hcounts hwithin
    · obtain ⟨hcount, hmemory, -⟩ := (h.checkMr_iff hmrControl he length).mp hcheck
      rw [hcounts.mrCount] at hcount
      have hmrs : heldMrs (r.step p (.regMr env pd addr length access driver)) = heldMrs r + 1 := by
        rw [hstep, heldMrs_cons]
      have hbytes : heldBytes (r.step p (.regMr env pd addr length access driver)) =
          heldBytes r + length.toNat := by
        rw [hstep, heldBytes_cons]
      have hqps : (r.step p (.regMr env pd addr length access driver)).qps = r.qps := by
        rw [hstep]
      constructor
      · intro hroom
        have hroom := hroom hcheck (by rw [hdriver]; exact Option.some_ne_none mr)
        have hmax := config.maxMrPerProcess.toNat_lt
        rw [Counter.toNat_add_amount hcounts.memoryUsed hroom] at hmemory
        refine ⟨?_, ?_⟩
        · rw [hstep]
          exact hcounts.addMr (by omega) hroom mr
        · exact ⟨hqps ▸ hwithin.qps, hmrs.trans_le hcount, hbytes.trans_le hmemory⟩
      · intro hwrap hafter
        have hmax := config.maxMemoryPerProcess.toNat_lt
        have hfits := hafter.bytes
        rw [hbytes] at hfits
        exact hwrap fun _ _ => by omega
  | deregMr mr driver =>
    rcases step_deregMr_cases h.mr mr driver with hstep | hstep
    · exact ledger_of_noWrap trivial hstep hcounts hwithin
    · refine ledger_of_noWrap trivial hstep (hcounts.removeMr he) (hwithin.of_le le_rfl ?_ ?_)
      · exact (Nat.le_succ _).trans (heldMrs_erase he).ge
      · exact (Nat.le_add_right _ _).trans (heldBytes_erase he).ge
  | destroyMr real mr driver =>
    rcases step_destroyMr_cases p r real mr driver with hstep | hstep
    · exact ledger_of_noWrap trivial hstep hcounts hwithin
    · exact ledger_of_noWrap trivial hstep (hcounts.loseMr he)
        (hwithin.of_le le_rfl (heldMrs_lose he).le (heldBytes_lose he).le)
  | other op nowNs =>
    exact ledger_of_noWrap trivial rfl hcounts (hwithin.of_le le_rfl le_rfl le_rfl)
  | tick mono =>
    exact ledger_of_noWrap trivial rfl hcounts (hwithin.of_le le_rfl le_rfl le_rfl)

/-- Counts that show what the process has decide on it. -/
theorem CountsHeld.decides (hcounts : CountsHeld p r) (h : LastResort p config r)
    (hqpControl : config.enableQpControl = true) (hmrControl : config.enableMrControl = true)
    {e : BaseEvent} (he : LastResortEvent p r e) : DecidesOnHeld p config r e := by
  cases e with
  | createQp env pd attr driver =>
    intro hroom
    rw [h.check_iff hqpControl he attr, Counter.toNat_succ hcounts.qpCount hroom]
  | regMr env pd addr length access driver =>
    intro hroom
    rw [h.checkMr_iff hmrControl he length, hcounts.mrCount,
      Counter.toNat_add_amount hcounts.memoryUsed hroom]
  | _ => trivial

/-- Both controls, and room for one QP and one MR. -/
def tightConfig : InterceptConfig :=
  { InterceptConfig.default with
    enableQpControl := true
    maxQpPerProcess := 1
    enableMrControl := true
    maxMrPerProcess := 1 }

/-- A process without the segment, which has nothing. -/
def blindRun : BaseRun where
  sys :=
    { tenantShm := .fresh 0
      shm := .fresh 0
      proc := fun _ =>
        { ProcState.unstarted with
          initialized := true
          config := tightConfig
          realCreate := fun _ => true
          realDestroy := fun _ => true }
      wallClock := 0
      monoClock := 0 }
  qps := []
  mrs := []
  lost := []

/-- The eBPF monitor has not started. -/
def blindEnv : BaseEnv := ⟨⟨false, fun _ => none⟩, fun _ => false⟩

/-- Two QPs and two MRs are asked for. -/
def blindEvents : List BaseEvent :=
  [.createQp blindEnv 0 ⟨.rc, 1, 1⟩ (some 16), .createQp blindEnv 0 ⟨.rc, 1, 1⟩ (some 17),
    .regMr blindEnv 0 0 4096 7 (some 5), .regMr blindEnv 0 0 4096 7 (some 6)]

end RdmaIntercept.Analysis
