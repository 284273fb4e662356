import RdmaIntercept.Analysis.ConcurrentAccounting

/-!
# Quotas under concurrency

A creation is checked against the usage record, and the record is raised only after the
driver has made the object.  Between the two, the creation is in no count, and a second
check may let a creation pass that has no room left.  This module proves that this is
the only way past a quota: the live objects never exceed it as long as no check lets a
creation pass for which the live objects and the creations in flight have left no room.
-/

set_option autoImplicit false

namespace RdmaIntercept.Analysis

open RdmaIntercept.Library RdmaIntercept.Model

/-- The limit of a kind in a quota. -/
def maxOf (quota : TenantQuota) : ResourceKind → UInt32
  | .qp => quota.maxQpPerTenant
  | .mr => quota.maxMrPerTenant
  | .cq => quota.maxCqPerTenant
  | .pd => quota.maxPdPerTenant

/-- The kinds whose creation is checked. -/
def Checked (k : ResourceKind) : Prop := k = .qp ∨ k = .mr

/-- A creation of kind `k` that has passed the quota check and may still reach the driver. -/
def admits (k : ResourceKind) : Phase → ℕ
  | .processLimit req => if req.kind = k then 1 else 0
  | .globalLimit req => if req.kind = k then 1 else 0
  | .create req _ => if req.kind = k then 1 else 0
  | _ => 0

/-- The number of such creations. -/
def admitted (procs : Finset Pid) (w : CWorld) (k : ResourceKind) : ℕ :=
  inFlight procs (admits k) w.phase

/-- Where a run starts: the processes are bound to the ACTIVE tenant `t`, QP control is on, and
the tenant has no objects. -/
structure QuotaStart (procs : Finset Pid) (t : UInt32) (w : CWorld) : Prop where
  bound : ∀ p ∈ procs, BoundTo w.sys p t
  control : ∀ p ∈ procs, (w.sys.proc p).config.enableQpControl = true
  live : w.live = []
  idle : w.Quiescent

/-- When the record of a tenant leaves room at a check, the live objects and the creations
in flight leave room. -/
def RecordShowsRoom (procs : Finset Pid) (w : CWorld) : CEvent → Prop
  | .next p =>
    match w.phase p with
    | .quota req t =>
      ((w.sys.usage t).count req.kind).toUInt32 < maxOf (w.sys.quota t) req.kind →
        w.liveCount t req.kind + admitted procs w req.kind <
          (maxOf (w.sys.quota t) req.kind).toNat
    | _ => True
  | _ => True

/-- The tenant has no more live QPs and MRs than its quota allows. -/
def WithinQuota (t : UInt32) (w : CWorld) : Prop :=
  w.liveCount t .qp ≤ (w.sys.quota t).maxQpPerTenant.toNat ∧
    w.liveCount t .mr ≤ (w.sys.quota t).maxMrPerTenant.toNat

/-- What a run of such checks keeps. -/
structure QuotaInv (procs : Finset Pid) (t : UInt32) (s₀ : System) (w : CWorld) : Prop where
  fixed : Fixed s₀ w.sys
  checking : ∀ p ∈ procs, ∀ req u, w.phase p = .quota req u → u = t
  room : ∀ k, Checked k →
    w.liveCount t k + admitted procs w k ≤ (maxOf (w.sys.quota t) k).toNat

theorem QuotaStart.inv {procs : Finset Pid} {t : UInt32} {w : CWorld}
    (h : QuotaStart procs t w) : QuotaInv procs t w.sys w := by
  refine ⟨.refl _, ?_, ?_⟩
  · intro p _ req u hph
    rw [h.idle p] at hph
    cases hph
  · intro k _
    have hlive : w.liveCount t k = 0 := by rw [CWorld.liveCount, h.live, countOf_nil]
    have hadmitted : admitted procs w k = 0 := by
      apply inFlight_eq_zero
      intro p _
      rw [h.idle p]
      rfl
    omega

theorem QuotaInv.withinQuota {procs : Finset Pid} {t : UInt32} {s₀ : System} {w : CWorld}
    (h : QuotaInv procs t s₀ w) : WithinQuota t w := by
  have hqp := h.room .qp (Or.inl rfl)
  have hmr := h.room .mr (Or.inr rfl)
  simp only [maxOf] at hqp hmr
  exact ⟨by omega, by omega⟩

/-- The quota check of a bound process lets a creation pass only below the recorded limit. -/
theorem checkQuota_below {s : System} {p : Pid} {t : UInt32} {req : CreateReq}
    (hbound : BoundTo s p t) (hreq : Checked req.kind) (hok : (checkQuota s p t req).1 = true) :
    ((s.usage t).count req.kind).toUInt32 < maxOf (s.quota t) req.kind := by
  cases req with
  | qp pd attr => exact hbound.qpQuotaAllows_iff.mp ((checkTenantQpLimit_iff s p t).mp hok)
  | mr pd addr length access =>
    rcases (checkTenantMrLimitInline_iff s p t length).mp hok with h0 | hno | ⟨-, -, hlt, -⟩
    · exact absurd h0 hbound.nonzero
    · exact absurd (hbound.initialized.symm.trans hno) Bool.false_ne_true.symm
    · exact hlt
  | cq context cqe cqContext channel compVector =>
    rcases hreq with h | h <;> cases h
  | pd context =>
    rcases hreq with h | h <;> cases h

theorem admits_afterCreated (k : ResourceKind) (req : CreateReq) (checked : Option UInt32)
    (c : Change) : admits k (afterCreated req checked c) = 0 := by
  cases checked with
  | some t => rfl
  | none => cases req <;> rfl

theorem admits_afterQuota (k : ResourceKind) (t : UInt32) (req : CreateReq) :
    admits k (afterQuota t req) = if req.kind = k then 1 else 0 := by
  cases req <;> rfl

/-- With QP control on, no creation of a checked kind gets past its check at the start. -/
theorem admits_startCreate {st : ProcState} (hcontrol : st.config.enableQpControl = true)
    (req : CreateReq) {k : ResourceKind} (hk : Checked k) : admits k (startCreate st req) = 0 := by
  unfold startCreate
  split
  · rfl
  · cases req with
    | qp pd attr =>
      simp only [hcontrol, Bool.not_true, Bool.false_eq_true, if_false]
      split <;> rfl
    | mr pd addr length access => rfl
    | cq context cqe cqContext channel compVector =>
      rcases hk with rfl | rfl <;> rfl
    | pd context =>
      rcases hk with rfl | rfl <;> rfl

/-! ## Steps -/

section Steps

variable {procs : Finset Pid} {t : UInt32} {s₀ s : System} {w : CWorld} {p : Pid}

theorem checking_move {ph : Phase} {phase : Pid → Phase}
    (h : ∀ q ∈ procs, ∀ req u, w.phase q = .quota req u → u = t)
    (hphase : phase = Function.update w.phase p ph) (hph : ∀ req u, ph = .quota req u → u = t) :
    ∀ q ∈ procs, ∀ req u, phase q = .quota req u → u = t := by
  intro q hq req u
  rw [hphase]
  by_cases hqp : q = p
  · rw [hqp, Function.update_self]
    exact hph req u
  · rw [Function.update_of_ne hqp]
    exact h q hq req u

/-- A step that makes no object and lets no creation pass. -/
theorem QuotaInv.of_move (h : QuotaInv procs t s₀ w) {ph : Phase} (hfixed : Fixed w.sys s)
    (hph : ∀ req u, ph = .quota req u → u = t)
    (hle : ∀ k, Checked k → admits k ph ≤ admits k (w.phase p)) :
    QuotaInv procs t s₀ (w.move s p ph) := by
  refine ⟨h.fixed.trans hfixed, checking_move h.checking rfl hph, ?_⟩
  intro k hk
  have hroom := h.room k hk
  have hadmitted : admitted procs (w.move s p ph) k ≤ admitted procs w k :=
    inFlight_update_le (hle k hk)
  rw [move_sys, hfixed.quota, move_live_count]
  omega

/-- A check of another limit lets the creation go on or refuses it. -/
theorem QuotaInv.of_otherCheck (h : QuotaInv procs t s₀ w) {ph : Phase}
    (hph : ∀ req u, ph ≠ .quota req u) (hsame : ∀ k, admits k ph = admits k (w.phase p))
    (ok : Bool) : QuotaInv procs t s₀ (w.move w.sys p (if ok then ph else .idle)) := by
  cases ok with
  | false => exact h.of_move (.refl _) (fun _ _ heq => by cases heq) (fun _ _ => Nat.zero_le _)
  | true =>
    apply h.of_move (.refl _) (fun req u heq => absurd heq (hph req u))
    intro k _
    exact (hsame k).le

/-- A check lets a creation pass that has room. -/
theorem QuotaInv.of_pass (h : QuotaInv procs t s₀ w) (hp : p ∈ procs) {req : CreateReq}
    (hph : w.phase p = .quota req t) (hfixed : Fixed w.sys s)
    (hroom : Checked req.kind → w.liveCount t req.kind + admitted procs w req.kind <
      (maxOf (w.sys.quota t) req.kind).toNat) :
    QuotaInv procs t s₀ (w.move s p (afterQuota t req)) := by
  refine ⟨h.fixed.trans hfixed, checking_move h.checking rfl ?_, ?_⟩
  · intro req' u heq
    cases req <;> cases heq
  · intro k hk
    have hold := h.room k hk
    have hmove : admitted procs (w.move s p (afterQuota t req)) k + admits k (w.phase p) =
        admitted procs w k + admits k (afterQuota t req) := inFlight_update hp _
    have hzero : admits k (w.phase p) = 0 := by
      rw [hph]
      rfl
    rw [hzero, admits_afterQuota] at hmove
    rw [move_sys, hfixed.quota, move_live_count]
    by_cases hreq : req.kind = k
    · subst hreq
      have hlt := hroom hk
      rw [if_pos rfl] at hmove
      omega
    · rw [if_neg hreq] at hmove
      omega

/-- A creation in flight becomes a live object. -/
theorem QuotaInv.of_grant (h : QuotaInv procs t s₀ w) (hp : p ∈ procs) {req : CreateReq}
    {checked : Option UInt32} (hph : w.phase p = .create req checked) {o : Obj}
    (hkind : o.kind = req.kind) : QuotaInv procs t s₀ (w.grant p req checked o) := by
  have hfixed : Fixed w.sys (w.sys.setProc p ((w.sys.proc p).addObj req)) :=
    (kept_setProc (sameSettings_addObj _ _)).toFixed
  refine ⟨h.fixed.trans hfixed, checking_move h.checking rfl ?_, ?_⟩
  · intro req' u heq
    cases checked with
    | some v => cases heq
    | none => cases req <;> cases heq
  · intro k hk
    have hold := h.room k hk
    have hmove : admitted procs (w.grant p req checked o) k + admits k (w.phase p) =
        admitted procs w k + admits k (afterCreated req checked ⟨o, true⟩) :=
      inFlight_update hp _
    have hlive : (w.grant p req checked o).liveCount t k =
        w.liveCount t k + if o.tenant = t ∧ o.kind = k then 1 else 0 := countOf_cons o w.live t k
    have hquota : (w.grant p req checked o).sys.quota t = w.sys.quota t := hfixed.quota t
    have hone : admits k (w.phase p) = if o.kind = k then 1 else 0 := by
      rw [hph, hkind]
      rfl
    rw [hone, admits_afterCreated] at hmove
    rw [hquota, hlive]
    by_cases hkk : o.kind = k
    · rw [if_pos hkk] at hmove
      split <;> omega
    · rw [if_neg hkk] at hmove
      rw [if_neg (fun hb => hkk hb.2)]
      omega

/-- A destruction only lowers a live count. -/
theorem QuotaInv.of_release (h : QuotaInv procs t s₀ w) {o : Obj} :
    QuotaInv procs t s₀ (w.release p o) := by
  have hfixed : Fixed w.sys (w.sys.setProc p ((w.sys.proc p).removeObj o.destroyReq)) :=
    (kept_setProc (sameSettings_removeObj _ _)).toFixed
  refine ⟨h.fixed.trans hfixed, checking_move h.checking rfl ?_, ?_⟩
  · intro req u heq
    cases heq
  · intro k hk
    have hold := h.room k hk
    have hlive : (w.release p o).liveCount t k ≤ w.liveCount t k :=
      List.erase_sublist.countP_le
    have hadmitted : admitted procs (w.release p o) k ≤ admitted procs w k :=
      inFlight_update_le (Nat.zero_le _)
    have hquota : (w.release p o).sys.quota t = w.sys.quota t := hfixed.quota t
    rw [hquota]
    omega

theorem QuotaInv.boundTo {w₀ : CWorld} (hstart : QuotaStart procs t w₀)
    (h : QuotaInv procs t w₀.sys w) (hp : p ∈ procs) : BoundTo w.sys p t :=
  (hstart.bound p hp).congr h.fixed.toSameBindings h.fixed.status

/-- The next step of a call keeps the invariant, if a check finds room where it sees room. -/
theorem QuotaInv.next {w₀ : CWorld} (hstart : QuotaStart procs t w₀)
    (h : QuotaInv procs t w₀.sys w) (hp : p ∈ procs)
    (hcond : RecordShowsRoom procs w (.next p)) : QuotaInv procs t w₀.sys (w.next p) := by
  have hbound := h.boundTo hstart hp
  have hfixed := next_fixed w p
  cases hph : w.phase p with
  | idle =>
    rw [next_idle hph]
    exact h
  | lookup req =>
    rw [next_lookup hph] at hfixed ⊢
    apply h.of_move hfixed
    · intro req' u heq
      cases heq
      exact hbound.current
    · intro k _
      exact Nat.zero_le _
  | quota req u =>
    obtain rfl := h.checking p hp req u hph
    simp only [RecordShowsRoom, hph] at hcond
    rw [next_quota hph] at hfixed ⊢
    cases hok : (checkQuota w.sys p u req).1 with
    | false =>
      exact h.of_move (checkQuota_untouched _ _ _ _).kept.toFixed (fun _ _ heq => by cases heq)
        (fun _ _ => Nat.zero_le _)
    | true =>
      exact h.of_pass hp hph (checkQuota_untouched _ _ _ _).kept.toFixed
        (fun hreq => hcond (checkQuota_below hbound hreq hok))
  | processLimit req =>
    rw [next_processLimit hph]
    refine h.of_otherCheck (fun _ _ heq => by cases heq) ?_ _
    intro k
    rw [hph]
    rfl
  | globalLimit req =>
    rw [next_globalLimit hph]
    refine h.of_otherCheck (fun _ _ heq => by cases heq) ?_ _
    intro k
    rw [hph]
    rfl
  | create req checked =>
    rw [next_create hph]
    exact h
  | destroy o =>
    rw [next_destroy hph]
    exact h
  | publish c =>
    rw [next_publish hph] at hfixed ⊢
    exact h.of_move hfixed (fun _ _ heq => by cases heq) (fun _ _ => Nat.zero_le _)
  | charge c =>
    rw [next_charge hph] at hfixed ⊢
    exact h.of_move hfixed (fun _ _ heq => by cases heq) (fun _ _ => Nat.zero_le _)
  | read c u =>
    obtain ⟨s, -, ⟨-, hs⟩ | ⟨-, hs⟩⟩ := next_read hph
    · rw [hs] at hfixed ⊢
      exact h.of_move hfixed (fun _ _ heq => by cases heq) (fun _ _ => Nat.zero_le _)
    · rw [hs] at hfixed ⊢
      exact h.of_move hfixed (fun _ _ heq => by cases heq) (fun _ _ => Nat.zero_le _)
  | write c u usage =>
    obtain ⟨s, -, hs, -⟩ := next_write hph
    rw [hs] at hfixed ⊢
    exact h.of_move hfixed (fun _ _ heq => by cases heq) (fun _ _ => Nat.zero_le _)

/-- Every step of the run keeps the invariant. -/
theorem QuotaInv.step {w₀ : CWorld} (hstart : QuotaStart procs t w₀)
    (h : QuotaInv procs t w₀.sys w) {e : CEvent} (he : HookStep procs w e)
    (hcond : RecordShowsRoom procs w e) : QuotaInv procs t w₀.sys (w.step e) := by
  cases e with
  | create p req =>
    have hcontrol : (w.sys.proc p).config.enableQpControl = true := by
      rw [(h.fixed.settings p).config]
      exact hstart.control p he
    rcases step_create w p req with hs | ⟨hph, hs⟩
    · rw [hs]
      exact h
    · rw [hs]
      apply h.of_move (.refl _)
      · intro req' u heq
        rcases startCreate_cases (w.sys.proc p) req with hph' | hph' | hph' <;>
          rw [hph'] at heq <;> cases heq
      · intro k hk
        rw [admits_startCreate hcontrol req hk]
        exact Nat.zero_le _
  | destroy p o =>
    rcases step_destroy w p o with hs | ⟨-, hs⟩
    · rw [hs]
      exact h
    · rw [hs]
      rcases startDestroy_cases (w.sys.proc p) o with hph' | hph'
      · rw [hph']
        exact h.of_move (.refl _) (fun _ _ heq => by cases heq) (fun _ _ => Nat.zero_le _)
      · rw [hph']
        exact h.of_move (.refl _) (fun _ _ heq => by cases heq) (fun _ _ => Nat.zero_le _)
  | created p driver =>
    rcases step_created w p driver with hs | ⟨req, checked, hph, ⟨-, hs⟩ | ⟨g, -, hs⟩⟩
    · rw [hs]
      exact h
    · rw [hs]
      exact h.of_move (.refl _) (fun _ _ heq => by cases heq) (fun _ _ => Nat.zero_le _)
    · rw [hs]
      exact h.of_grant he hph rfl
  | destroyed p driver =>
    rcases step_destroyed w p driver with hs | ⟨o, -, ⟨-, hs⟩ | ⟨-, hs⟩⟩
    · rw [hs]
      exact h
    · rw [hs]
      exact h.of_move (.refl _) (fun _ _ heq => by cases heq) (fun _ _ => Nat.zero_le _)
    · rw [hs]
      exact h.of_release
  | next p => exact h.next hstart he hcond
  | tick wall mono =>
    exact ⟨h.fixed.trans (step_fixed w (.tick wall mono)), h.checking, h.room⟩

end Steps

/-- **No quota is exceeded while every check sees what is in flight.**  In every interleaving
of the steps of the hooks, by any number of processes bound to an ACTIVE tenant, in which a
record that leaves room at a check is right about it, the tenant never has more live QPs or
MRs than its quota allows. -/
theorem withinQuota_of_recordShowsRoom (procs : Finset Pid) (t : UInt32) (w : CWorld)
    (hstart : QuotaStart procs t w) (es : List CEvent)
    (hrun : Along CWorld.step (HookStep procs) w es)
    (hcond : Along CWorld.step (RecordShowsRoom procs) w es) :
    Always CWorld.step (WithinQuota t) w es := by
  have hinv : Always CWorld.step (QuotaInv procs t w.sys) w es :=
    always_of_step (fun _ _ h he => h.step hstart he.1 he.2) hstart.inv
      (along_and.mpr ⟨hrun, hcond⟩)
  exact hinv.mono (fun _ h => h.withinQuota)

theorem sampleWorld_quotaStart :
    QuotaStart {7, 8} 1 (sampleWorld oneQpQuota qpControlConfig).concurrent :=
  ⟨sampleWorld_bound, fun _ _ => rfl, rfl, fun _ => rfl⟩

/-- The arguments of a QP. -/
def qpRequest : CreateReq := .qp 0 ⟨.rc, 1, 1⟩

/-- Process 7 creates a QP. -/
def singleQpRun : List CEvent :=
  [.create 7 qpRequest, .next 7, .next 7, .next 7, .next 7, .created 7 (some 16)]

/-- The theorem at that run. -/
theorem withinQuota_of_recordShowsRoom_single :
    WithinQuota 1 (exec CWorld.step (sampleWorld oneQpQuota qpControlConfig).concurrent
      singleQpRun) := by
  have hp : (7 : Pid) ∈ ({7, 8} : Finset Pid) := Finset.mem_insert_self _ _
  have hrun : Along CWorld.step (HookStep {7, 8})
      (sampleWorld oneQpQuota qpControlConfig).concurrent singleQpRun :=
    ⟨hp, hp, hp, hp, hp, hp, trivial⟩
  let after := fun n => exec CWorld.step (sampleWorld oneQpQuota qpControlConfig).concurrent
    (singleQpRun.take n)
  have hlookup : (after 1).phase 7 = .lookup qpRequest := by decide +kernel
  have hquota : (after 2).phase 7 = .quota qpRequest 1 := by decide +kernel
  have hprocess : (after 3).phase 7 = .processLimit qpRequest := by decide +kernel
  have hglobal : (after 4).phase 7 = .globalLimit qpRequest := by decide +kernel
  have hcond : Along CWorld.step (RecordShowsRoom {7, 8})
      (sampleWorld oneQpQuota qpControlConfig).concurrent singleQpRun := by
    refine ⟨trivial, ?_, ?_, ?_, ?_, trivial, trivial⟩
    · show RecordShowsRoom {7, 8} (after 1) (.next 7)
      simp only [RecordShowsRoom, hlookup]
    · show RecordShowsRoom {7, 8} (after 2) (.next 7)
      simp only [RecordShowsRoom, hquota]
      decide +kernel
    · show RecordShowsRoom {7, 8} (after 3) (.next 7)
      simp only [RecordShowsRoom, hprocess]
    · show RecordShowsRoom {7, 8} (after 4) (.next 7)
      simp only [RecordShowsRoom, hglobal]
  have h := withinQuota_of_recordShowsRoom {7, 8} 1 _ sampleWorld_quotaStart singleQpRun hrun hcond
  exact h.last

/-- Processes 7 and 8 create a QP each, under a quota of one; both are checked before either
QP is recorded. -/
def bothCheckedRun : List CEvent :=
  [.create 7 qpRequest, .create 8 qpRequest, .next 7, .next 8, .next 7, .next 8,
    .next 7, .next 8, .next 7, .next 8, .created 7 (some 16), .created 8 (some 17)]

/-- Two QPs are live. -/
theorem both_checked_calls_exceed_quota :
    QuotaStart {7, 8} 1 (sampleWorld oneQpQuota qpControlConfig).concurrent ∧
      Along CWorld.step (HookStep {7, 8}) (sampleWorld oneQpQuota qpControlConfig).concurrent
        bothCheckedRun ∧
      ¬ Always CWorld.step (WithinQuota 1) (sampleWorld oneQpQuota qpControlConfig).concurrent
        bothCheckedRun := by
  have h7 : (7 : Pid) ∈ ({7, 8} : Finset Pid) := Finset.mem_insert_self _ _
  have h8 : (8 : Pid) ∈ ({7, 8} : Finset Pid) :=
    Finset.mem_insert_of_mem (Finset.mem_singleton_self _)
  refine ⟨sampleWorld_quotaStart,
    ⟨h7, h8, h7, h8, h7, h8, h7, h8, h7, h8, h7, h8, trivial⟩, ?_⟩
  intro h
  have hend := h.last
  have hlive : (exec CWorld.step (sampleWorld oneQpQuota qpControlConfig).concurrent
      bothCheckedRun).liveCount 1 .qp = 2 := by decide +kernel
  have hmax : ((exec CWorld.step (sampleWorld oneQpQuota qpControlConfig).concurrent
      bothCheckedRun).sys.quota 1).maxQpPerTenant = 1 := by decide +kernel
  have hle := hend.1
  rw [hlive, hmax] at hle
  exact absurd hle (by decide)

end RdmaIntercept.Analysis
