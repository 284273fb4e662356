import RdmaIntercept.Analysis.WorldSpec
import RdmaIntercept.Model.VerbsRuns

/-!
# What no hook changes

A call of a verb changes neither the settings of any process nor the mapping of processes
to tenants, whatever the settings are and however the call ends.
-/

set_option autoImplicit false

namespace RdmaIntercept.Analysis

open RdmaIntercept.Library RdmaIntercept.Model

variable {s : System} {p : Pid}

/-! ## The parts of a hook -/

theorem sameBindings_setProc {st : ProcState} (h : SameSettings (s.proc p) st) :
    SameBindings s (s.setProc p st) := by
  refine ⟨?_, rfl⟩
  intro q
  by_cases hq : q = p
  · rw [hq, setProc_self]
    exact h
  · rw [setProc_of_ne hq]
    exact .refl _

theorem sameBindings_publish (s : System) (p : Pid) :
    SameBindings s (publishProcessResources s p) := by
  refine ⟨?_, congrArg TenantShm.pidMappings (publish_tenantShm s p)⟩
  intro q
  rw [publish_proc]
  exact .refl _

theorem sameBindings_updateTenantResourceCount (s : System) (p : Pid) (t : UInt32)
    (kind : ResourceKind) (delta : Int32) :
    SameBindings s (updateTenantResourceCount s p t kind delta) := by
  have hread := tenantGetResourceUsage_same s.tenantShm t s.wallClock
  unfold updateTenantResourceCount
  split
  · exact .refl s
  · generalize tenantGetResourceUsage s.tenantShm t s.wallClock = r at hread ⊢
    obtain ⟨o, shm⟩ := r
    cases o with
    | none => exact ⟨fun _ => .refl _, hread.pidMappings⟩
    | some usage =>
      have hwrite := tenantUpdateResourceUsage_spec shm t (usage.adjust kind delta) s.wallClock
      exact ⟨fun _ => .refl _, hwrite.pidMappings.trans hread.pidMappings⟩

/-- The look-up of the tenant followed by its charge. -/
theorem sameBindings_charge (s : System) (p : Pid) (kind : ResourceKind) (delta : Int32) :
    SameBindings s (updateTenantResourceCount (getCurrentTenantId s p).2 p
      (getCurrentTenantId s p).1 kind delta) :=
  (getCurrentTenantId_untouched s p).sameBindings.trans
    (sameBindings_updateTenantResourceCount _ p _ kind delta)

/-! ## The hooks -/

theorem sameBindings_interceptCreate {req : CreateReq} {driver : Option Handle}
    {hook : Outcome (Option Handle) × System} (h : SameBindings s hook.2) :
    SameBindings s (interceptCreate s p req driver hook).2 := by
  unfold interceptCreate
  split
  · split <;> exact .refl s
  · exact h

theorem sameBindings_interceptDestroy {req : DestroyReq} {driver : Int32}
    {hook : Outcome Int32 × System} (h : SameBindings s hook.2) :
    SameBindings s (interceptDestroy s p req driver hook).2 := by
  unfold interceptDestroy
  split
  · split <;> exact .refl s
  · exact h

theorem sameBindings_ibvCreateQp (s : System) (p : Pid) (pd : Handle) (attr : QpInitAttr)
    (driver : Option Handle) : SameBindings s (ibvCreateQp s p pd attr driver).2 := by
  apply sameBindings_interceptCreate
  have hcheck := (checkQpCreationRestrictions_untouched s p attr).sameBindings
  generalize checkQpCreationRestrictions s p attr = r at hcheck ⊢
  obtain ⟨ok, a⟩ := r
  cases ok with
  | false => exact hcheck
  | true =>
    cases driver with
    | none => exact hcheck
    | some qp =>
      exact ((hcheck.trans (sameBindings_setProc (sameSettings_addObj _ (.qp pd attr)))).trans
        (sameBindings_publish _ p)).trans (sameBindings_charge _ p .qp 1)

theorem sameBindings_ibvRegMr (s : System) (p : Pid) (pd addr : Handle) (length : UInt64)
    (access : Int32) (driver : Option Handle) :
    SameBindings s (ibvRegMr s p pd addr length access driver).2 := by
  apply sameBindings_interceptCreate
  have hcheck := ((getCurrentTenantId_untouched s p).trans (checkTenantMrLimitInline_untouched
    (getCurrentTenantId s p).2 p (getCurrentTenantId s p).1 length)).sameBindings
  simp only
  generalize checkTenantMrLimitInline (getCurrentTenantId s p).2 p
    (getCurrentTenantId s p).1 length = r at hcheck ⊢
  obtain ⟨ok, a⟩ := r
  cases ok with
  | false => exact hcheck
  | true =>
    cases driver with
    | none => exact hcheck
    | some mr =>
      exact (hcheck.trans (sameBindings_setProc
        (sameSettings_addObj _ (.mr pd addr length access)))).trans
          (sameBindings_updateTenantResourceCount _ p _ .mr 1)

theorem sameBindings_countCreate (s : System) (p : Pid) (req : CreateReq)
    (driver : Option Handle) : SameBindings s (countCreate s p req driver).2 := by
  apply sameBindings_interceptCreate
  cases driver with
  | none => exact .refl s
  | some h => exact sameBindings_charge s p req.kind 1

/-- No creating call changes settings or mappings. -/
theorem sameBindings_ibvCreate (s : System) (p : Pid) (req : CreateReq)
    (driver : Option Handle) : SameBindings s (ibvCreate s p req driver).2 := by
  cases req with
  | qp pd attr => exact sameBindings_ibvCreateQp s p pd attr driver
  | mr pd addr length access => exact sameBindings_ibvRegMr s p pd addr length access driver
  | cq context cqe cqContext channel compVector => exact sameBindings_countCreate s p _ driver
  | pd context => exact sameBindings_countCreate s p _ driver

/-- No destroying call does. -/
theorem sameBindings_ibvDestroy (s : System) (p : Pid) (req : DestroyReq) (driver : Int32) :
    SameBindings s (ibvDestroy s p req driver).2 := by
  have hset := sameSettings_removeObj (s.proc p) req
  cases req with
  | qp h =>
    apply sameBindings_interceptDestroy
    split
    · exact (sameBindings_setProc hset).trans (sameBindings_charge _ p .qp (-1))
    · exact .refl s
  | mr m =>
    apply sameBindings_interceptDestroy
    simp only
    split
    · exact (sameBindings_setProc hset).trans (sameBindings_charge _ p .mr (-1))
    · exact .refl s
  | cq h =>
    apply sameBindings_interceptDestroy
    split
    · exact sameBindings_charge s p .cq (-1)
    · exact .refl s
  | pd h =>
    apply sameBindings_interceptDestroy
    split
    · exact sameBindings_charge s p .pd (-1)
    · exact .refl s

/-- Calls and managers leave the settings of every process. -/
theorem sameSettings_verbsStep (s : System) (e : VerbsEvent) (p : Pid) :
    SameSettings (s.proc p) ((s.verbsStep e).proc p) := by
  cases e with
  | create q req driver => exact (sameBindings_ibvCreate s q req driver).settings p
  | destroy q req driver => exact (sameBindings_ibvDestroy s q req driver).settings p
  | store op => exact .refl _
  | tick wall mono => exact .refl _

end RdmaIntercept.Analysis
