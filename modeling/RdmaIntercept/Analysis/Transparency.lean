import RdmaIntercept.Analysis.Scenario
import RdmaIntercept.Analysis.VerbsSpec

/-!
# Calls with both controls off

With QP control and MR control off an application should see the driver as it is.  The
check of QP creations is behind its switch, the quota check of registrations is not: the
calls of a process with both controls off are transparent exactly when each registration
made with interception on is within the quota of the tenant that the process belongs to
(`controlsOff_transparent_iff`).  Other processes and managers may act in between.
-/

set_option autoImplicit false

namespace RdmaIntercept.Analysis

open RdmaIntercept.Library RdmaIntercept.Model

/-- Both controls are off, and the driver offers the eight verbs. -/
structure ControlsOff (st : ProcState) : Prop where
  qpControl : st.config.enableQpControl = false
  mrControl : st.config.enableMrControl = false
  realCreate : ∀ kind, st.realCreate kind = true
  realDestroy : ∀ kind, st.realDestroy kind = true

/-- A call of `p` calls the driver once, with its own arguments, and answers what the driver
has answered; `errno` is left alone. -/
def Transparent (p : Pid) (s : System) : VerbsEvent → Prop
  | .create q req driver =>
    q = p → (ibvCreate s p req driver).1 = ⟨driver, none, [.create req]⟩
  | .destroy q req driver =>
    q = p → (ibvDestroy s p req driver).1 = ⟨driver, none, [.destroy req]⟩
  | _ => True

/-- A registration by `p` with interception on is within the quota of its tenant. -/
def WithinMrQuota (p : Pid) (s : System) : VerbsEvent → Prop
  | .create q (.mr _ _ length _) _ =>
    q = p → rdmaInterceptIsEnabled (s.proc p) = true →
      MrQuotaAllows s p (currentTenant s p) length
  | _ => True

variable {s : System} {p : Pid}

theorem ControlsOff.congr {st st' : ProcState} (h : ControlsOff st) (hset : SameSettings st st') :
    ControlsOff st' :=
  ⟨by rw [hset.config, h.qpControl], by rw [hset.config, h.mrControl],
    fun kind => by rw [hset.realCreate, h.realCreate],
    fun kind => by rw [hset.realDestroy, h.realDestroy]⟩

/-! ## One call -/

/-- With interception off a creation is passed on. -/
theorem ibvCreate_disabled {req : CreateReq} (hoff : rdmaInterceptIsEnabled (s.proc p) = false)
    (hreal : (s.proc p).realCreate req.kind = true) (driver : Option Handle) :
    (ibvCreate s p req driver).1 = ⟨driver, none, [.create req]⟩ := by
  have hpass : ∀ hook, interceptCreate s p req driver hook = (⟨driver, none, [.create req]⟩, s) := by
    intro hook
    simp [interceptCreate, hoff, hreal]
  rw [ibvCreate_of_intercept hpass]

theorem ibvDestroy_disabled {req : DestroyReq} (hoff : rdmaInterceptIsEnabled (s.proc p) = false)
    (hreal : (s.proc p).realDestroy req.kind = true) (driver : Int32) :
    (ibvDestroy s p req driver).1 = ⟨driver, none, [.destroy req]⟩ := by
  have hpass : ∀ hook,
      interceptDestroy s p req driver hook = (⟨driver, none, [.destroy req]⟩, s) := by
    intro hook
    simp [interceptDestroy, hoff, hreal]
  rw [ibvDestroy_of_intercept hpass]

/-- A creation is transparent exactly when interception is off or it is admitted. -/
theorem create_transparent_iff (h : ControlsOff (s.proc p)) (req : CreateReq)
    (driver : Option Handle) :
    (ibvCreate s p req driver).1 = ⟨driver, none, [.create req]⟩ ↔
      (rdmaInterceptIsEnabled (s.proc p) = true → Admitted s p req) := by
  cases hen : rdmaInterceptIsEnabled (s.proc p) with
  | false =>
    exact iff_of_true (ibvCreate_disabled hen (h.realCreate _) driver)
      fun hon => absurd hon Bool.false_ne_true
  | true =>
    have hready : Ready s p req.kind := ⟨hen, h.realCreate _, h.realDestroy _⟩
    have hspec := ibvCreate_spec hready driver
    constructor
    · intro heq _
      by_contra hno
      rw [(hspec.refused hno).1] at heq
      exact List.cons_ne_nil _ _ (congrArg Outcome.driverCalls heq).symm
    · intro hadm
      cases driver with
      | none => exact (hspec.failed (hadm rfl) rfl).1
      | some obj => exact (hspec.granted obj (hadm rfl) rfl).1

theorem destroy_transparent (h : ControlsOff (s.proc p)) (req : DestroyReq) (driver : Int32) :
    (ibvDestroy s p req driver).1 = ⟨driver, none, [.destroy req]⟩ := by
  cases hen : rdmaInterceptIsEnabled (s.proc p) with
  | false => exact ibvDestroy_disabled hen (h.realDestroy _) driver
  | true => exact (ibvDestroy_spec ⟨hen, h.realCreate _, h.realDestroy _⟩ driver).answer

theorem transparent_iff (h : ControlsOff (s.proc p)) (e : VerbsEvent) :
    Transparent p s e ↔ WithinMrQuota p s e := by
  cases e with
  | create q req driver =>
    have hiff := create_transparent_iff h req driver
    cases req with
    | qp pd attr =>
      have hadm : QpAdmitted s p attr := fun hon =>
        absurd (h.qpControl.symm.trans hon) Bool.false_ne_true
      exact iff_of_true (fun _ => hiff.mpr fun _ => hadm) trivial
    | mr pd addr length access => exact imp_congr_right fun _ => hiff
    | cq context cqe cqContext channel compVector =>
      exact iff_of_true (fun _ => hiff.mpr fun _ => trivial) trivial
    | pd context => exact iff_of_true (fun _ => hiff.mpr fun _ => trivial) trivial
  | destroy q req driver => exact iff_of_true (fun _ => destroy_transparent h req driver) trivial
  | store op => exact Iff.rfl
  | tick wall mono => exact Iff.rfl

/-! ## Runs -/

/-- **With both controls off the calls of a process are transparent exactly when its
registrations are within the quota of its tenant.** -/
theorem controlsOff_transparent_iff (s : System) (p : Pid) (es : List VerbsEvent)
    (hoff : ControlsOff (s.proc p)) :
    Along System.verbsStep (Transparent p) s es ↔ Along System.verbsStep (WithinMrQuota p) s es :=
  along_congr (I := fun s => ControlsOff (s.proc p))
    (fun s e h => h.congr (sameSettings_verbsStep s e p)) (fun _ e h => transparent_iff h e) hoff es

/-- The default quota with a limit of one registration. -/
def oneMrQuota : TenantQuota := { defaultQuota with maxMrPerTenant := 1 }

/-- Process 7 of tenant 1 registers twice; the driver grants both. -/
def registeringRun : List VerbsEvent :=
  [.create 7 (.mr 1 2 4096 7) (some 5), .create 7 (.mr 1 3 4096 7) (some 6)]

/-- The default settings have both controls off. -/
theorem sampleWorld_controlsOff (quota : TenantQuota) :
    ControlsOff ((sampleWorld quota .default).sys.proc 7) := ⟨rfl, rfl, fun _ => rfl, fun _ => rfl⟩

/-- The second registration is refused although MR control is off. -/
theorem registration_refused_without_control :
    ControlsOff ((sampleWorld oneMrQuota .default).sys.proc 7) ∧
      ¬ Along System.verbsStep (Transparent 7) (sampleWorld oneMrQuota .default).sys
        registeringRun := by
  refine ⟨sampleWorld_controlsOff oneMrQuota, ?_⟩
  rintro ⟨-, hsecond, -⟩
  have hanswer := hsecond rfl
  revert hanswer
  decide +kernel

theorem controlsOff_transparent_iff_registering :
    Along System.verbsStep (Transparent 7) (sampleWorld oneMrQuota .default).sys registeringRun ↔
      Along System.verbsStep (WithinMrQuota 7) (sampleWorld oneMrQuota .default).sys
        registeringRun :=
  controlsOff_transparent_iff _ 7 _ (sampleWorld_controlsOff oneMrQuota)

end RdmaIntercept.Analysis
