import RdmaIntercept.Analysis.Scenario
import RdmaIntercept.Analysis.SharedMemorySpec

/-!
# The per-process limit

The per-process check reads the record that the process has published, and a process
publishes its local counts when it creates a QP and not when it destroys one.  The
record is thus the number of live QPs right after the last creation, and the check
counts live QPs exactly as long as that number is below the limit or none of these QPs
has been destroyed since.
-/

set_option autoImplicit false

namespace RdmaIntercept.Analysis

open RdmaIntercept.Library RdmaIntercept.Model

/-- The number of live QPs of process `p`. -/
def liveQps (w : World) (p : Pid) : ℕ := w.live.countP fun o => o.owner = p ∧ o.kind = .qp

/-- The QP count that process `p` has published, as the check reads it. -/
def publishedQps (w : World) (p : Pid) : ℕ := (published w.sys.shm p).qpCount.toUInt32.toNat

theorem Creates.liveQps {w w' : World} {p : Pid} {req : CreateReq} {h : Handle}
    (hc : Creates w p req h w') (q : Pid) :
    liveQps w' q = liveQps w q + if p = q ∧ req.kind = .qp then 1 else 0 :=
  hc.ownedCount q .qp

theorem Destroys.liveQps {w w' : World} {p : Pid} {o : Obj} (hd : Destroys w p o w')
    (ho : o ∈ w.live) (q : Pid) :
    liveQps w q = liveQps w' q + if o.owner = q ∧ o.kind = .qp then 1 else 0 :=
  ownedCount_of_erase hd.live ho q .qp

theorem Quiet.liveQps {w w' : World} (hq : Quiet w w') (p : Pid) : liveQps w' p = liveQps w p := by
  unfold Analysis.liveQps
  rw [hq.live]

theorem Quiet.publishedQps {w w' : World} (hq : Quiet w w') (p : Pid) :
    publishedQps w' p = publishedQps w p := by
  unfold Analysis.publishedQps
  rw [hq.sys.shm]

/-- The three counts of one process: the live QPs, the local count and the published one,
of which the last may run ahead but keeps the limit. -/
structure ProcessLedger (p : Pid) (max : ℕ) (w : World) : Prop where
  counted : (w.sys.proc p).qpCount.toNat = liveQps w p
  atMost : liveQps w p ≤ publishedQps w p
  limit : publishedQps w p ≤ max

/-- What a creating process must have for its record to be published. -/
structure Publishes (s : System) (p : Pid) : Prop where
  positive : 0 < p
  attached : (s.proc p).shmAttached = true
  hasSlot : HasSlot s.shm p

/-- The effect of a creation on the table. -/
theorem Creates.published {w w' : World} {p : Pid} {pd h : Handle} {attr : QpInitAttr}
    (hc : Creates w p (.qp pd attr) h w') (hpub : Publishes w.sys p) :
    Published w.sys.shm p (w.sys.proc p).addQp.usage w'.sys.shm := by
  rw [hc.sys.shm, shmAfterCreate_qp hpub.attached]
  exact (shmUpdateProcessResources_spec hpub.positive hpub.hasSlot _ _).2

/-- A creation that the check lets through keeps the ledger of its process, and publishes
the live count. -/
theorem ProcessLedger.creates {w w' : World} {p : Pid} {pd h : Handle} {attr : QpInitAttr}
    (hl : ProcessLedger p (w.sys.proc p).config.maxQpPerProcess.toNat w)
    (hmax : (w.sys.proc p).config.maxQpPerProcess.toNat < 2 ^ 32 - 1)
    (hc : Creates w p (.qp pd attr) h w') (hpub : Publishes w.sys p)
    (hok : processLimitOk w.sys p = true) :
    ProcessLedger p (w.sys.proc p).config.maxQpPerProcess.toNat w' ∧
      publishedQps w' p = liveQps w' p := by
  obtain ⟨hcounted, hatMost, hlimit⟩ := hl
  -- the addition in the check does not wrap
  have hbelow : publishedQps w p + 1 ≤ (w.sys.proc p).config.maxQpPerProcess.toNat := by
    have hle := (processLimitOk_iff hpub.positive hpub.attached).mp hok
    rw [UInt32.le_iff_toNat_le, UInt32.toNat_add] at hle
    unfold publishedQps at hlimit ⊢
    rw [Nat.mod_eq_of_lt (by simp; omega)] at hle
    exact hle
  have hlive : liveQps w' p = liveQps w p + 1 := by
    rw [hc.liveQps p, if_pos ⟨rfl, rfl⟩]
  have hlocal : ((w.sys.proc p).qpCount + 1).toNat = liveQps w p + 1 :=
    Counter.toNat_succ hcounted (by omega)
  have hpublished : publishedQps w' p = liveQps w' p := by
    unfold Analysis.publishedQps
    rw [(hc.published hpub).self, hlive, ← hlocal]
    rfl
  refine ⟨⟨?_, by omega, by omega⟩, hpublished⟩
  rw [hc.sys.proc, Function.update_self, hlive]
  exact hlocal

/-- A destruction keeps the ledger of its process and the published count. -/
theorem ProcessLedger.destroys {w w' : World} {p : Pid} {o : Obj} {max : ℕ}
    (hl : ProcessLedger p max w) (hd : Destroys w p o w') (ho : o ∈ w.live) (hown : o.owner = p)
    (hkind : o.kind = .qp) :
    ProcessLedger p max w' ∧ publishedQps w' p = publishedQps w p := by
  obtain ⟨hcounted, hatMost, hlimit⟩ := hl
  have hlive := hd.liveQps ho p
  rw [if_pos ⟨hown, hkind⟩] at hlive
  have hpublished : publishedQps w' p = publishedQps w p := by
    unfold Analysis.publishedQps
    rw [hd.sys.shm]
  refine ⟨⟨?_, by omega, by omega⟩, hpublished⟩
  have hcount : (w.sys.proc p).qpCount.toNat = liveQps w' p + 1 := hcounted.trans hlive
  have hreq : o.destroyReq = .qp o.handle := by
    unfold Obj.destroyReq
    rw [hkind]
  rw [hd.sys.proc, Function.update_self, hreq, ProcState.removeObj, ProcState.removeQp,
    if_pos (Counter.pos_of_toNat hcount)]
  exact Counter.toNat_pred hcount

/-! ## Runs of one process -/

/-- The events of a run of one process in which only the per-process check can refuse. -/
def ProcessEvent (p : Pid) (w : World) : Event → Prop
  | .create q (.qp _ attr) _ =>
    q = p ∧ qpTypeAllowed (w.sys.proc p).config attr.qpType = true ∧
      QpQuotaAllows w.sys p (currentTenant w.sys p) ∧ globalLimitOk w.sys p = true
  | .destroy q o _ => q = p ∧ Owns w p o ∧ o.kind = .qp
  | .tick _ _ => True
  | _ => False

/-- Where such a run starts: a process that has neither a QP nor a record. -/
structure ProcessStart (p : Pid) (w : World) : Prop where
  ready : Ready w.sys p .qp
  control : (w.sys.proc p).config.enableQpControl = true
  publishes : Publishes w.sys p
  unpublished : publishedQps w p = 0
  uncounted : (w.sys.proc p).qpCount = 0
  noQp : liveQps w p = 0

/-- The number of live QPs of `p` right after its last creation, `n` if there was none. -/
def liveAfterLastCreation (p : Pid) (w : World) (n : ℕ) : List Event → ℕ
  | [] => n
  | e :: es =>
    liveAfterLastCreation p (w.step e)
      (if liveQps w p < liveQps (w.step e) p then liveQps (w.step e) p else n) es

/-- What a run of one process keeps; `n` is its live count after its last creation. -/
structure ProcessInv (p : Pid) (s₀ : System) (n : ℕ) (w : World) : Prop where
  settings : SameSettings (s₀.proc p) (w.sys.proc p)
  publishes : Publishes w.sys p
  ledger : (s₀.proc p).config.maxQpPerProcess.toNat < 2 ^ 32 - 1 →
    ProcessLedger p (s₀.proc p).config.maxQpPerProcess.toNat w ∧ publishedQps w p = n

theorem ProcessStart.inv {p : Pid} {w : World} (h : ProcessStart p w) :
    ProcessInv p w.sys 0 w := by
  refine ⟨.refl _, h.publishes, fun _ => ⟨⟨?_, ?_, ?_⟩, h.unpublished⟩⟩
  · rw [h.uncounted, h.noQp]
    rfl
  · rw [h.noQp]
    exact Nat.zero_le _
  · rw [h.unpublished]
    exact Nat.zero_le _

theorem ProcessInv.of_quiet {p : Pid} {s₀ : System} {n : ℕ} {w w' : World}
    (h : ProcessInv p s₀ n w) (hq : Quiet w w') : ProcessInv p s₀ n w' := by
  have hproc := congrFun hq.sys.proc p
  refine ⟨?_, ⟨h.publishes.positive, ?_, ?_⟩, fun hmax => ?_⟩
  · rw [hproc]
    exact h.settings
  · rw [hproc]
    exact h.publishes.attached
  · rw [hq.sys.shm]
    exact h.publishes.hasSlot
  · obtain ⟨⟨hcounted, hatMost, hlimit⟩, hn⟩ := h.ledger hmax
    rw [← hq.publishedQps] at hatMost hlimit hn
    rw [← hq.liveQps] at hcounted hatMost
    rw [← hproc] at hcounted
    exact ⟨⟨hcounted, hatMost, hlimit⟩, hn⟩

/-- Every event of the run keeps the invariant and moves `n` as the live count. -/
theorem ProcessInv.step {p : Pid} {w₀ w : World} {n : ℕ} (hstart : ProcessStart p w₀)
    (h : ProcessInv p w₀.sys n w) {e : Event} (he : ProcessEvent p w e) :
    ProcessInv p w₀.sys
      (if liveQps w p < liveQps (w.step e) p then liveQps (w.step e) p else n) (w.step e) := by
  have hready : Ready w.sys p .qp := hstart.ready.congr h.settings
  have hconfig := h.settings.config
  cases e with
  | create q req driver =>
    cases req with
    | qp pd attr =>
      obtain ⟨rfl, -, -, -⟩ := he
      rcases step_create_cases (.qp pd attr) hready driver with ⟨-, hq⟩ | ⟨g, -, hadm, hc⟩
      · rw [if_neg (by rw [hq.liveQps]; exact lt_irrefl _)]
        exact h.of_quiet hq
      · have hcontrol : (w.sys.proc q).config.enableQpControl = true := by
          rw [hconfig]
          exact hstart.control
        have hok := (hadm hcontrol).2.2.1
        have hgrow : liveQps w q < liveQps (w.step (.create q (.qp pd attr) driver)) q := by
          rw [hc.liveQps q, if_pos ⟨rfl, rfl⟩]
          exact Nat.lt_succ_self _
        rw [if_pos hgrow]
        have hset := hc.sameBindings.settings q
        refine ⟨h.settings.trans hset, ⟨h.publishes.positive, ?_,
          (hc.published h.publishes).hasSlot⟩, fun hmax => ?_⟩
        · rw [hset.shmAttached]
          exact h.publishes.attached
        · rw [← hconfig] at hmax ⊢
          have hledger := (h.ledger (by rw [← hconfig]; exact hmax)).1
          rw [← hconfig] at hledger
          exact hledger.creates hmax hc h.publishes hok
    | mr pd addr length access => exact he.elim
    | cq context cqe cqContext channel compVector => exact he.elim
    | pd context => exact he.elim
  | destroy q o driver =>
    obtain ⟨rfl, ⟨ho, hown⟩, hkind⟩ := he
    have hready' : Ready w.sys q o.kind := by
      rw [hkind]
      exact hready
    rcases step_destroy_cases hready' driver with ⟨-, hq⟩ | ⟨-, hd⟩
    · rw [if_neg (by rw [hq.liveQps]; exact lt_irrefl _)]
      exact h.of_quiet hq
    · rw [if_neg (by rw [hd.liveQps ho q]; omega)]
      have hset := hd.sameBindings.settings q
      refine ⟨h.settings.trans hset, ⟨h.publishes.positive, ?_, ?_⟩, fun hmax => ?_⟩
      · rw [hset.shmAttached]
        exact h.publishes.attached
      · rw [hd.sys.shm]
        exact h.publishes.hasSlot
      · obtain ⟨hledger, hn⟩ := h.ledger hmax
        obtain ⟨hledger', hkept⟩ := hledger.destroys hd ho hown hkind
        exact ⟨hledger', hkept.trans hn⟩
  | store op => exact he.elim
  | tick wall mono =>
    have hsame : liveQps (w.step (.tick wall mono)) p = liveQps w p := rfl
    rw [if_neg (by rw [hsame]; exact lt_irrefl _)]
    exact ⟨h.settings, ⟨h.publishes.positive, h.publishes.attached, h.publishes.hasSlot⟩,
      fun hmax => ⟨⟨(h.ledger hmax).1.counted, (h.ledger hmax).1.atMost,
        (h.ledger hmax).1.limit⟩, (h.ledger hmax).2⟩⟩
  | start p env => exact he.elim
  | exit p => exact he.elim

/-- The invariant after a run. -/
theorem ProcessInv.exec {p : Pid} {w₀ : World} (hstart : ProcessStart p w₀) (es : List Event)
    {w : World} {n : ℕ} (h : ProcessInv p w₀.sys n w)
    (hrun : Along World.step (ProcessEvent p) w es) :
    ProcessInv p w₀.sys (liveAfterLastCreation p w n es) (exec World.step w es) := by
  induction es generalizing w n with
  | nil => exact h
  | cons e es ih => exact ih (h.step hstart hrun.1) hrun.2

/-- The check never refuses at the largest limit of its type, since its addition wraps. -/
theorem processLimitOk_of_largest {s : System} {p : Pid} (hpub : Publishes s p)
    (hmax : ¬ (s.proc p).config.maxQpPerProcess.toNat < 2 ^ 32 - 1) :
    processLimitOk s p = true := by
  rw [processLimitOk_iff hpub.positive hpub.attached, UInt32.le_iff_toNat_le]
  have hlt := ((published s.shm p).qpCount.toUInt32 + 1).toNat_lt
  omega

/-- **The per-process limit.**  In a run of one process in which only the per-process
check can refuse, the next creation is refused exactly when the live QPs have reached the
limit, if and only if the live count after the last creation was below the limit or the
limit is still reached; at the largest limit of its type, if and only if the live QPs are
below it. -/
theorem process_limit_counts_live_iff (p : Pid) (w : World) (hstart : ProcessStart p w)
    (es : List Event) (hrun : Along World.step (ProcessEvent p) w es) (pd : Handle)
    (attr : QpInitAttr) (driver : Option Handle)
    (hnext : ProcessEvent p (exec World.step w es) (.create p (.qp pd attr) driver)) :
    let w' := exec World.step w es
    let max := (w.sys.proc p).config.maxQpPerProcess.toNat
    let refused := (ibvCreateQp w'.sys p pd attr driver).1 = ⟨none, some .eperm, []⟩
    (refused ↔ max ≤ liveQps w' p) ↔
      if max < 2 ^ 32 - 1 then liveAfterLastCreation p w 0 es < max ∨ max ≤ liveQps w' p
      else liveQps w' p < max := by
  intro w' max refused
  have hinv : ProcessInv p w.sys (liveAfterLastCreation p w 0 es) w' :=
    hstart.inv.exec hstart es hrun
  have hconfig : (w'.sys.proc p).config = (w.sys.proc p).config := hinv.settings.config
  have hready : Ready w'.sys p .qp := hstart.ready.congr hinv.settings
  have hspec : CreateOutcome w'.sys p (.qp pd attr) driver (ibvCreateQp w'.sys p pd attr driver) :=
    ibvCreateQp_spec hready driver
  obtain ⟨-, htype, hquota, hglobal⟩ := hnext
  have hrefused : refused ↔ ¬ processLimitOk w'.sys p = true := by
    constructor
    · intro href hok
      have hadm : Admitted w'.sys p (.qp pd attr) := fun _ => ⟨htype, hquota, hok, hglobal⟩
      cases driver with
      | none => exact absurd (href.symm.trans (hspec.failed hadm rfl).1) (by simp)
      | some h => exact absurd (href.symm.trans (hspec.granted h hadm rfl).1) (by simp)
    · intro hno
      refine (hspec.refused ?_).1
      intro hadm
      have hcontrol : (w'.sys.proc p).config.enableQpControl = true := by
        rw [hconfig]
        exact hstart.control
      exact hno (hadm hcontrol).2.2.1
  rw [hrefused]
  by_cases hmax : max < 2 ^ 32 - 1
  · rw [if_pos hmax]
    obtain ⟨⟨-, hatMost, hlimit⟩, hn⟩ := hinv.ledger hmax
    have hok : processLimitOk w'.sys p = true ↔ publishedQps w' p + 1 ≤ max := by
      rw [processLimitOk_iff hinv.publishes.positive hinv.publishes.attached, hconfig,
        UInt32.le_iff_toNat_le, UInt32.toNat_add]
      have hlt : publishedQps w' p + 1 < 2 ^ 32 := by omega
      unfold publishedQps at hlt ⊢
      rw [Nat.mod_eq_of_lt (by simpa using hlt)]
      rfl
    rw [hok]
    omega
  · rw [if_neg hmax]
    have hok : processLimitOk w'.sys p = true :=
      processLimitOk_of_largest hinv.publishes (by rw [hconfig]; exact hmax)
    rw [hok]
    simp

/-- The settings of a process that may have one QP. -/
def oneQpConfig : InterceptConfig := { qpControlConfig with maxQpPerProcess := 1 }

theorem sampleWorld_processStart : ProcessStart 7 (sampleWorld defaultQuota oneQpConfig) :=
  ⟨sampleWorld_ready _ _ 7 .qp rfl, rfl,
    ⟨by decide, rfl, ⟨0, by decide +kernel⟩⟩, by decide +kernel, rfl, rfl⟩

/-- A QP is created and destroyed. -/
def lifecycleRun : List Event :=
  [.create 7 (.qp 0 ⟨.rc, 1, 1⟩) (some 16), .destroy 7 ⟨16, .qp, 7, 1, 0⟩ 0]

theorem lifecycleRun_events :
    Along World.step (ProcessEvent 7) (sampleWorld defaultQuota oneQpConfig) lifecycleRun := by
  refine ⟨⟨rfl, by decide +kernel, ?_, by decide +kernel⟩,
    ⟨rfl, ⟨by decide +kernel, rfl⟩, rfl⟩, trivial⟩
  rw [← checkTenantQpLimit_iff]
  decide +kernel

theorem lifecycleRun_next :
    ProcessEvent 7 (exec World.step (sampleWorld defaultQuota oneQpConfig) lifecycleRun)
      (.create 7 (.qp 0 ⟨.rc, 1, 1⟩) (some 17)) := by
  refine ⟨rfl, by decide +kernel, ?_, by decide +kernel⟩
  rw [← checkTenantQpLimit_iff]
  decide +kernel

/-- After it the process has no QP, and its next creation is refused. -/
theorem destroyed_qp_still_counts :
    ProcessStart 7 (sampleWorld defaultQuota oneQpConfig) ∧
      Along World.step (ProcessEvent 7) (sampleWorld defaultQuota oneQpConfig) lifecycleRun ∧
      ProcessEvent 7 (exec World.step (sampleWorld defaultQuota oneQpConfig) lifecycleRun)
        (.create 7 (.qp 0 ⟨.rc, 1, 1⟩) (some 17)) ∧
      liveQps (exec World.step (sampleWorld defaultQuota oneQpConfig) lifecycleRun) 7 < 1 ∧
      (ibvCreateQp (exec World.step (sampleWorld defaultQuota oneQpConfig) lifecycleRun).sys 7 0
        ⟨.rc, 1, 1⟩ (some 17)).1 = ⟨none, some .eperm, []⟩ :=
  ⟨sampleWorld_processStart, lifecycleRun_events, lifecycleRun_next, by decide +kernel,
    by decide +kernel⟩

/-- The theorem at that run. -/
theorem process_limit_counts_live_iff_lifecycle :
    ¬ ((ibvCreateQp (exec World.step (sampleWorld defaultQuota oneQpConfig) lifecycleRun).sys 7 0
        ⟨.rc, 1, 1⟩ (some 17)).1 = ⟨none, some .eperm, []⟩ ↔
      1 ≤ liveQps (exec World.step (sampleWorld defaultQuota oneQpConfig) lifecycleRun) 7) := by
  have h := process_limit_counts_live_iff 7 (sampleWorld defaultQuota oneQpConfig)
    sampleWorld_processStart lifecycleRun lifecycleRun_events 0 ⟨.rc, 1, 1⟩ (some 17)
    lifecycleRun_next
  have hmax : ((sampleWorld defaultQuota oneQpConfig).sys.proc 7).config.maxQpPerProcess.toNat =
      1 := rfl
  simp only [hmax] at h
  rw [h]
  decide +kernel

end RdmaIntercept.Analysis
