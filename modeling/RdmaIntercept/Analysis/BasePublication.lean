import RdmaIntercept.Analysis.BaseLedger
import RdmaIntercept.Analysis.GlobalLimit
import RdmaIntercept.Analysis.ProcessTable
import RdmaIntercept.Library.StaleLimit

/-!
# The MR limit of the base library

With the segment mapped the base library checks a registration against the record that its
process has published, and it publishes only when it has created a QP.  The registrations
after the last QP are not in the record: the MRs of a process exceed its limit by as many as it
registers between two QPs, less one, and no further (`registersWithin_iff`).
-/

set_option autoImplicit false

namespace RdmaIntercept.Analysis

open RdmaIntercept.Library RdmaIntercept.Model

/-! ## Runs with the segment -/

/-- The run, and the number of MRs registered since a QP was created last. -/
def publicationStep (p : Pid) (c : BaseRun × ℕ) (e : BaseEvent) : BaseRun × ℕ :=
  (c.1.step p e,
    if c.1.qps.length < (c.1.step p e).qps.length then 0
    else c.2 + (heldMrs (c.1.step p e) - heldMrs c.1))

/-- The hooks of the process are entered, it has MR control and the segment, and its count of
MRs is exact. -/
structure Attached (p : Pid) (limit : UInt32) (r : BaseRun) : Prop where
  positive : 0 < p
  control : (r.sys.proc p).config.enableMrControl = true
  limit : (r.sys.proc p).config.maxMrPerProcess = limit
  qp : Ready r.sys p .qp
  mr : Ready r.sys p .mr
  attached : (r.sys.proc p).shmAttached = true
  counted : (r.sys.proc p).mrCount.toNat = heldMrs r

/-- The table has room for the process, nobody else writes its record, it destroys what it has,
and its MRs fit their count. -/
def AttachedEvent (p : Pid) (r : BaseRun) : BaseEvent → Prop
  | .createQp _ _ _ _ => HasSlot r.sys.shm p
  | .destroyQp _ _ => True
  | .regMr _ _ _ _ _ _ => heldMrs r + 1 < 2 ^ 32
  | .deregMr mr _ => mr ∈ r.mrs
  | .destroyMr _ mr _ => mr ∈ r.mrs
  | .other op _ => ∀ usage, op ≠ .updateProcess p usage
  | .tick _ => True

/-- The number of MRs in the record. -/
def shownMrs (p : Pid) (r : BaseRun) : ℕ := (published r.sys.shm p).mrCount.toUInt32.toNat

/-- In every such run with at most `window` registrations between two QPs the process never has
more than `n` MRs. -/
def RegistersWithin (limit : UInt32) (window n : ℕ) : Prop :=
  ∀ (p : Pid) (r : BaseRun), Attached p limit r → heldMrs r = 0 → ∀ es,
    Along (publicationStep p)
      (fun c e => AttachedEvent p c.1 e ∧ (publicationStep p c e).2 ≤ window) (r, 0) es →
    Always (publicationStep p) (fun c => heldMrs c.1 ≤ n) (r, 0) es

variable {p : Pid} {limit : UInt32} {r : BaseRun}

/-! ## One event -/

theorem Attached.congr {r' : BaseRun} (h : Attached p limit r)
    (hset : SameSettings (r.sys.proc p) (r'.sys.proc p))
    (hcounted : (r'.sys.proc p).mrCount.toNat = heldMrs r') : Attached p limit r' :=
  ⟨h.positive, by rw [hset.config, h.control], by rw [hset.config, h.limit], h.qp.congr hset,
    h.mr.congr hset, hset.shmAttached.trans h.attached, hcounted⟩

/-- With the segment mapped the record decides. -/
theorem Attached.mrLimitOk_eq (h : Attached p limit r) (ebpf : EbpfMonitor) (length : UInt64) :
    baseMrLimitOk r.sys p ebpf length =
      mrLimitOk (r.sys.proc p).config (published r.sys.shm p).mrCount.toUInt32
        (published r.sys.shm p).memoryUsed length := by
  unfold baseMrLimitOk getProcessResourcesViaSharedMemory
  rw [if_pos h.attached, shmGetProcessResources_eq h.positive]

/-- The check of a registration with the segment mapped. -/
theorem Attached.under (h : Attached p limit r) {env : BaseEnv} {length : UInt64}
    (hcheck : baseCheckMrRegistration r.sys p env length = true) : shownMrs p r < limit.toNat := by
  unfold baseCheckMrRegistration at hcheck
  rw [h.mrLimitOk_eq, h.control, Bool.true_and] at hcheck
  split at hcheck
  · exact absurd hcheck Bool.false_ne_true
  · rename_i hok
    rw [Bool.not_eq_true', Bool.not_eq_false, mrLimitOk_iff, h.limit] at hok
    exact hok.1

/-- A granted QP publishes the count of MRs. -/
theorem Attached.publishes (h : Attached p limit r) (hslot : HasSlot r.sys.shm p) :
    (publishProcessResources (r.sys.setProc p (r.sys.proc p).addQp) p).proc =
        Function.update r.sys.proc p (r.sys.proc p).addQp ∧
      Published r.sys.shm p (r.sys.proc p).addQp.usage
        (publishProcessResources (r.sys.setProc p (r.sys.proc p).addQp) p).shm := by
  have hproc := setProc_self r.sys p (r.sys.proc p).addQp
  have hattached : (r.sys.proc p).addQp.shmAttached = true := h.attached
  unfold publishProcessResources
  rw [hproc, if_pos hattached]
  exact ⟨rfl, (shmUpdateProcessResources_spec h.positive hslot _ _).2⟩

/-- A call for another process leaves the record. -/
theorem published_other (d : SharedMemoryData) (op : ShmOp) (nowNs : UInt64) (hp : 0 < p)
    (hother : ∀ usage, op ≠ .updateProcess p usage) :
    published (op.call d nowNs) p = published d p := by
  cases op with
  | updateProcess q usage =>
    have hne : p ≠ q := by
      rintro rfl
      exact hother usage rfl
    exact published_update_of_ne d hne (positive_ne_zero p hp) usage nowNs
  | updateGlobal usage => rfl
  | setLimits maxQp maxMr maxMemory => rfl

/-- The MRs, the record of them and the registrations since. -/
def checkedMrs (p : Pid) (c : BaseRun × ℕ) : StaleLimit.State :=
  ⟨heldMrs c.1, shownMrs p c.1, c.2⟩

theorem publicationStep_same {c : BaseRun × ℕ} {e : BaseEvent}
    (hqps : (c.1.step p e).qps.length ≤ c.1.qps.length) :
    (publicationStep p c e).2 = c.2 + (heldMrs (c.1.step p e) - heldMrs c.1) :=
  if_neg (Nat.not_lt.mpr hqps)

/-- An event that creates nothing and writes no record. -/
theorem Attached.idle {c : BaseRun × ℕ} (h : Attached p limit c.1) {e : BaseEvent} {r' : BaseRun}
    (hstep : c.1.step p e = r') (hset : SameSettings (c.1.sys.proc p) (r'.sys.proc p))
    (hcounted : (r'.sys.proc p).mrCount.toNat = heldMrs r')
    (hqps : r'.qps.length ≤ c.1.qps.length) (hmrs : heldMrs r' ≤ heldMrs c.1)
    (hshown : published r'.sys.shm p = published c.1.sys.shm p) :
    Attached p limit (c.1.step p e) ∧
      StaleLimit.Step limit.toNat (checkedMrs p c) (checkedMrs p (publicationStep p c e)) := by
  subst hstep
  refine ⟨h.congr hset hcounted, .idle hmrs ?_ ?_⟩
  · exact congrArg (fun usage => usage.mrCount.toUInt32.toNat) hshown
  · exact (publicationStep_same hqps).trans (by dsimp only [checkedMrs]; omega)

/-- A call that fails. -/
theorem Attached.unchanged {c : BaseRun × ℕ} (h : Attached p limit c.1) {e : BaseEvent}
    (hstep : c.1.step p e = c.1) :
    Attached p limit (c.1.step p e) ∧
      StaleLimit.Step limit.toNat (checkedMrs p c) (checkedMrs p (publicationStep p c e)) :=
  h.idle hstep (.refl _) h.counted le_rfl le_rfl rfl

/-- Every event keeps the settings and the count, and is a step under the limit. -/
theorem Attached.step {c : BaseRun × ℕ} (h : Attached p limit c.1) {e : BaseEvent}
    (he : AttachedEvent p c.1 e) :
    Attached p limit (c.1.step p e) ∧
      StaleLimit.Step limit.toNat (checkedMrs p c) (checkedMrs p (publicationStep p c e)) := by
  cases e with
  | createQp env pd attr driver =>
    rcases step_createQp_cases h.qp env pd attr driver with ⟨-, hstep⟩ | ⟨qp, -, -, hstep⟩
    · exact h.unchanged hstep
    · obtain ⟨hproc, hpub⟩ := h.publishes he
      have hself : (publishProcessResources (c.1.sys.setProc p (c.1.sys.proc p).addQp) p).proc p =
          (c.1.sys.proc p).addQp := by
        rw [hproc, Function.update_self]
      refine ⟨?_, .copy ?_ ?_ ?_⟩
      · rw [hstep]
        refine h.congr ?_ ?_
        · rw [hself]
          exact sameSettings_addObj _ (.qp pd attr)
        · rw [hself]
          exact h.counted
      · dsimp only [checkedMrs, publicationStep]
        rw [hstep]
        exact le_rfl
      · -- the record shows the count, which is exact
        dsimp only [checkedMrs, publicationStep, shownMrs]
        rw [hstep]
        dsimp only
        rw [hpub.self]
        exact h.counted.symm.le
      · refine if_pos ?_
        rw [hstep]
        exact Nat.lt_succ_self _
  | destroyQp qp driver =>
    rcases step_destroyQp_cases h.qp qp driver with hstep | hstep
    · exact h.unchanged hstep
    · have hself : (c.1.sys.setProc p (c.1.sys.proc p).removeQp).proc p =
          (c.1.sys.proc p).removeQp := setProc_self _ _ _
      have hsame : (c.1.sys.proc p).removeQp.mrCount = (c.1.sys.proc p).mrCount := by
        unfold ProcState.removeQp
        split <;> rfl
      refine h.idle hstep (sameSettings_setProc (sameSettings_removeQp _)) ?_
        List.length_erase_le le_rfl rfl
      rw [hself, hsame]
      exact h.counted
  | regMr env pd addr length access driver =>
    rcases step_regMr_cases h.mr env pd addr length access driver with
      ⟨-, hstep⟩ | ⟨mr, -, hcheck, hstep⟩
    · exact h.unchanged hstep
    · have hself : (c.1.sys.setProc p ((c.1.sys.proc p).addMr length)).proc p =
          (c.1.sys.proc p).addMr length := setProc_self _ _ _
      have hmrs : heldMrs (c.1.step p (.regMr env pd addr length access driver)) =
          heldMrs c.1 + 1 := by
        rw [hstep, heldMrs_cons]
      have hsince := publicationStep_same (p := p) (c := c)
        (e := .regMr env pd addr length access driver) (by rw [hstep])
      refine ⟨?_, .grant (h.under hcheck) hmrs ?_ ?_⟩
      · rw [hstep]
        refine h.congr (sameSettings_setProc (sameSettings_addObj _ (.mr pd addr length access))) ?_
        rw [hself, heldMrs_cons]
        exact Counter.toNat_succ h.counted he
      · dsimp only [checkedMrs, publicationStep, shownMrs]
        rw [hstep]
        rfl
      · rw [hmrs] at hsince
        exact hsince.trans (by dsimp only [checkedMrs]; omega)
  | deregMr mr driver =>
    rcases step_deregMr_cases h.mr mr driver with hstep | hstep
    · exact h.unchanged hstep
    · have hself : (c.1.sys.setProc p ((c.1.sys.proc p).removeMr mr.length)).proc p =
          (c.1.sys.proc p).removeMr mr.length := setProc_self _ _ _
      have hcount := h.counted.trans (heldMrs_erase he)
      have hless : ((c.1.sys.proc p).removeMr mr.length).mrCount = (c.1.sys.proc p).mrCount - 1 := by
        simp only [ProcState.removeMr, if_pos (Counter.pos_of_toNat hcount)]
        split <;> rfl
      refine h.idle hstep (sameSettings_setProc (sameSettings_removeMr _ _)) ?_
        le_rfl ((Nat.le_succ _).trans (heldMrs_erase he).ge) rfl
      rw [hself, hless]
      exact Counter.toNat_pred hcount
  | destroyMr real mr driver =>
    rcases step_destroyMr_cases p c.1 real mr driver with hstep | hstep
    · exact h.unchanged hstep
    · have hsame := heldMrs_lose he
      exact h.idle hstep (.refl _) (h.counted.trans hsame.symm) le_rfl hsame.le rfl
  | other op nowNs =>
    exact h.idle rfl (.refl _) h.counted le_rfl le_rfl (published_other _ op nowNs h.positive he)
  | tick mono => exact h.idle rfl (.refl _) h.counted le_rfl le_rfl rfl

/-! ## The bound -/

theorem registersWithin_peak (limit : UInt32) (window : ℕ) :
    RegistersWithin limit window (StaleLimit.peak limit.toNat window) := by
  intro p r hr hnone es hrun
  have hstart : StaleLimit.Inv limit.toNat window (checkedMrs p (r, 0)) := by
    rw [checkedMrs, hnone]
    exact StaleLimit.inv_zero _ _ _ _
  exact StaleLimit.always_le_peak (I := fun c => Attached p limit c.1) (checkedMrs p)
    (fun c e hc he => (hc.step he).1) (fun c e hc he => (hc.step he).2) hr hstart hrun

/-! ## The bound is reached -/

/-- A process with MR control only, which has nothing. -/
def openRun (limit : UInt32) : BaseRun where
  sys :=
    { tenantShm := .fresh 0
      shm := .fresh 0
      proc := fun _ =>
        { ProcState.unstarted with
          initialized := true
          config := { InterceptConfig.default with
            enableMrControl := true
            maxMrPerProcess := limit }
          shmAttached := true
          realCreate := fun _ => true
          realDestroy := fun _ => true }
      wallClock := 0
      monoClock := 0 }
  qps := []
  mrs := []
  lost := []

def registerEvent : BaseEvent := .regMr blindEnv 0 0 0 0 (some 1)

def publishEvent : BaseEvent := .createQp blindEnv 0 ⟨.other, 0, 0⟩ (some 1)

/-- A state of the run that reaches the bound: the process has registered `held` MRs of no
bytes, of which its record shows `shown`. -/
structure Registered (limit : UInt32) (held shown since : ℕ) (c : BaseRun × ℕ) : Prop where
  attached : Attached 7 limit c.1
  control : (c.1.sys.proc 7).config.enableQpControl = false
  memoryUsed : (c.1.sys.proc 7).memoryUsed = 0
  hasSlot : HasSlot c.1.sys.shm 7
  held : heldMrs c.1 = held
  shown : shownMrs 7 c.1 = shown
  shownMemory : (published c.1.sys.shm 7).memoryUsed = 0
  since : c.2 = since

variable {held shown since window : ℕ} {c : BaseRun × ℕ}

theorem registered_openRun (limit : UInt32) : Registered limit 0 0 0 (openRun limit, 0) := by
  have hnone : published (SharedMemoryData.fresh 0) 7 = .zero :=
    published_of_emptyTable (fun _ => rfl) (by decide)
  refine ⟨⟨by decide, rfl, rfl, ⟨rfl, rfl, rfl⟩, ⟨rfl, rfl, rfl⟩, rfl, rfl⟩, rfl, rfl, ?_, rfl,
    ?_, ?_, rfl⟩
  · exact SlotTable.exists_slotFor_of_card_lt (fun _ _ _ h => absurd rfl h) ∅
      (fun i hi => absurd rfl hi) (by decide)
  · exact congrArg (fun usage => usage.mrCount.toUInt32.toNat) hnone
  · exact congrArg ResourceUsage.memoryUsed hnone

/-- As long as the record is below the limit a registration is granted. -/
theorem Registered.registers (h : Registered limit held shown since c)
    (hunder : shown < limit.toNat) (hfits : held + 1 < 2 ^ 32) :
    AttachedEvent 7 c.1 registerEvent ∧
      Registered limit (held + 1) shown (since + 1) (publicationStep 7 c registerEvent) := by
  have hevent : AttachedEvent 7 c.1 registerEvent := by
    change heldMrs c.1 + 1 < 2 ^ 32
    rw [h.held]
    exact hfits
  have hok : baseMrLimitOk c.1.sys 7 blindEnv.ebpf 0 = true := by
    rw [h.attached.mrLimitOk_eq, mrLimitOk_iff, h.attached.limit, h.shownMemory]
    exact ⟨h.shown.trans_lt hunder, Nat.zero_le _⟩
  have hcheck : baseCheckMrRegistration c.1.sys 7 blindEnv 0 = true := by
    unfold baseCheckMrRegistration
    rw [hok]
    simp [blindEnv]
  obtain ⟨hattached, -⟩ := h.attached.step hevent
  refine ⟨hevent, ?_⟩
  rcases step_regMr_cases h.attached.mr blindEnv 0 0 0 0 (some 1) with
    ⟨hno, -⟩ | ⟨mr, -, -, hstep⟩
  · exact absurd ⟨hcheck, Option.some_ne_none _⟩ hno
  · have hself : (c.1.sys.setProc 7 ((c.1.sys.proc 7).addMr 0)).proc 7 =
        (c.1.sys.proc 7).addMr 0 := setProc_self _ _ _
    have hheld : heldMrs (c.1.step 7 registerEvent) = held + 1 := by
      rw [registerEvent, hstep, heldMrs_cons, h.held]
    have hsince : (publicationStep 7 c registerEvent).2 = since + 1 := by
      have hqps : (c.1.step 7 registerEvent).qps.length ≤ c.1.qps.length := by
        rw [registerEvent, hstep]
      rw [publicationStep_same hqps, hheld, h.held, h.since]
      omega
    refine ⟨hattached, ?_, ?_, ?_, hheld, ?_, ?_, hsince⟩
    all_goals dsimp only [publicationStep, registerEvent, shownMrs]; rw [hstep]
    · dsimp only
      rw [hself]
      exact h.control
    · dsimp only
      rw [hself]
      change (c.1.sys.proc 7).memoryUsed + 0 = 0
      rw [h.memoryUsed]
      rfl
    · exact h.hasSlot
    · exact h.shown
    · exact h.shownMemory

/-- A QP, which nothing refuses, brings the record up to date. -/
theorem Registered.publishes (h : Registered limit held shown since c) :
    AttachedEvent 7 c.1 publishEvent ∧
      Registered limit held held 0 (publicationStep 7 c publishEvent) := by
  have hevent : AttachedEvent 7 c.1 publishEvent := h.hasSlot
  have hcheck : baseCheckQpCreationRestrictions c.1.sys 7 blindEnv.ebpf ⟨.other, 0, 0⟩ = true := by
    unfold baseCheckQpCreationRestrictions
    simp [h.control]
  obtain ⟨hattached, -⟩ := h.attached.step hevent
  obtain ⟨hproc, hpub⟩ := h.attached.publishes h.hasSlot
  refine ⟨hevent, ?_⟩
  rcases step_createQp_cases h.attached.qp blindEnv 0 ⟨.other, 0, 0⟩ (some 1) with
    ⟨hno, -⟩ | ⟨qp, -, -, hstep⟩
  · exact absurd ⟨hcheck, Option.some_ne_none _⟩ hno
  · have hself : (publishProcessResources (c.1.sys.setProc 7 (c.1.sys.proc 7).addQp) 7).proc 7 =
        (c.1.sys.proc 7).addQp := by
      rw [hproc, Function.update_self]
    have hsince : (publicationStep 7 c publishEvent).2 = 0 := by
      refine if_pos ?_
      rw [publishEvent, hstep]
      exact Nat.lt_succ_self _
    refine ⟨hattached, ?_, ?_, ?_, ?_, ?_, ?_, hsince⟩
    all_goals dsimp only [publicationStep, publishEvent, shownMrs]; rw [hstep]
    · dsimp only
      rw [hself]
      exact h.control
    · dsimp only
      rw [hself]
      exact h.memoryUsed
    · exact hpub.hasSlot
    · exact h.held
    · dsimp only
      rw [hpub.self]
      exact h.attached.counted.trans h.held
    · dsimp only
      rw [hpub.self]
      exact h.memoryUsed

/-- Registrations, each with a QP after it, bring the record just below the limit. -/
theorem exists_run_published (hwindow : 0 < window) (n : ℕ) (hn : n < limit.toNat) :
    ∃ es, Along (publicationStep 7)
        (fun c e => AttachedEvent 7 c.1 e ∧ (publicationStep 7 c e).2 ≤ window)
        (openRun limit, 0) es ∧
      Registered limit n n 0 (exec (publicationStep 7) (openRun limit, 0) es) := by
  induction n with
  | zero => exact ⟨[], trivial, registered_openRun limit⟩
  | succ n ih =>
    obtain ⟨es, hrun, hreached⟩ := ih (by omega)
    have hmax := limit.toNat_lt
    obtain ⟨hallowed, hmore⟩ := hreached.registers (by omega) (by omega)
    obtain ⟨hallowed', hpublished⟩ := hmore.publishes
    refine ⟨es ++ [registerEvent, publishEvent], ?_, ?_⟩
    · exact along_append.mpr ⟨hrun, ⟨hallowed, hmore.since.trans_le (by omega)⟩,
        ⟨hallowed', hpublished.since.trans_le (Nat.zero_le _)⟩, trivial⟩
    · rw [exec_append]
      exact hpublished

/-- Then a window of registrations is granted. -/
theorem exists_run_registered (hunder : shown < limit.toNat) {es : List BaseEvent}
    (hrun : Along (publicationStep 7)
      (fun c e => AttachedEvent 7 c.1 e ∧ (publicationStep 7 c e).2 ≤ window) c es)
    (hreached : Registered limit held shown 0 (exec (publicationStep 7) c es)) (n : ℕ)
    (hn : n ≤ window) (hfits : held + n < 2 ^ 32) :
    ∃ es, Along (publicationStep 7)
        (fun c e => AttachedEvent 7 c.1 e ∧ (publicationStep 7 c e).2 ≤ window) c es ∧
      Registered limit (held + n) shown n (exec (publicationStep 7) c es) := by
  induction n with
  | zero => exact ⟨es, hrun, hreached⟩
  | succ n ih =>
    obtain ⟨es, hrun, hreached⟩ := ih (by omega) (by omega)
    obtain ⟨hallowed, hmore⟩ := hreached.registers hunder (by omega)
    refine ⟨es ++ [registerEvent], ?_, ?_⟩
    · exact along_append.mpr ⟨hrun, ⟨hallowed, hmore.since.trans_le hn⟩, trivial⟩
    · rw [exec_append]
      exact hmore

end RdmaIntercept.Analysis
