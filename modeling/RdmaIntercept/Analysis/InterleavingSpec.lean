import RdmaIntercept.Model.Interleaving
import RdmaIntercept.Analysis.WorldSpec

/-!
# What the steps of interleaved calls do

No step changes who belongs to which tenant, or the status and the quota of a tenant, and
only the last step of a call writes a usage record.  Each event is described once, by the
ways in which it can change the world; the invariants of the interleavings are derived
from these descriptions.
-/

set_option autoImplicit false

namespace RdmaIntercept.Analysis

open RdmaIntercept.Library RdmaIntercept.Model

/-- The processes keep their settings and tenants, and the tenants their status and quota. -/
structure Fixed (s s' : System) : Prop extends SameBindings s s' where
  status : ∀ t, s'.status t = s.status t
  quota : ∀ t, s'.quota t = s.quota t

/-- The usage records are kept as well. -/
structure Kept (s s' : System) : Prop extends Fixed s s' where
  usage : ∀ t, s'.usage t = s.usage t

theorem Fixed.refl (s : System) : Fixed s s := ⟨.refl s, fun _ => rfl, fun _ => rfl⟩

theorem Fixed.trans {a b c : System} (h : Fixed a b) (h' : Fixed b c) : Fixed a c :=
  ⟨h.toSameBindings.trans h'.toSameBindings, fun t => (h'.status t).trans (h.status t),
    fun t => (h'.quota t).trans (h.quota t)⟩

theorem Kept.refl (s : System) : Kept s s := ⟨.refl s, fun _ => rfl⟩

theorem Untouched.kept {s s' : System} (h : Untouched s s') : Kept s s' :=
  ⟨⟨h.sameBindings, h.status, h.quota⟩, h.usage⟩

/-- Writing to the local counts of a process keeps the tenants. -/
theorem kept_setProc {s : System} {p : Pid} {st : ProcState} (h : SameSettings (s.proc p) st) :
    Kept s (s.setProc p st) := by
  refine ⟨⟨⟨fun q => ?_, rfl⟩, fun _ => rfl, fun _ => rfl⟩, fun _ => rfl⟩
  by_cases hq : q = p
  · rw [hq, setProc_self]
    exact h
  · rw [setProc_of_ne hq]
    exact .refl _

theorem kept_publish (s : System) (p : Pid) : Kept s (publishProcessResources s p) := by
  have htenant := publish_tenantShm s p
  refine ⟨⟨⟨fun q => ?_, by rw [htenant]⟩, fun t => ?_, fun t => ?_⟩, fun t => ?_⟩
  · rw [publish_proc]
    exact .refl _
  · rw [System.status, htenant, System.status]
  · rw [System.quota, htenant, System.quota]
  · rw [System.usage, htenant, System.usage]

theorem checkQuota_untouched (s : System) (p : Pid) (t : UInt32) (req : CreateReq) :
    Untouched s (checkQuota s p t req).2 := by
  cases req with
  | qp pd attr => exact checkTenantQpLimit_untouched s p t
  | mr pd addr length access => exact checkTenantMrLimitInline_untouched s p t length
  | cq context cqe cqContext channel compVector => exact .refl s
  | pd context => exact .refl s

theorem startCreate_cases (st : ProcState) (req : CreateReq) :
    startCreate st req = .idle ∨ startCreate st req = .lookup req ∨
      startCreate st req = .create req none := by
  unfold startCreate
  split
  · exact Or.inl rfl
  · cases req with
    | qp pd attr =>
      simp only
      split
      · exact Or.inr (Or.inr rfl)
      · split
        · exact Or.inl rfl
        · exact Or.inr (Or.inl rfl)
    | mr pd addr length access => exact Or.inr (Or.inl rfl)
    | cq context cqe cqContext channel compVector => exact Or.inr (Or.inr rfl)
    | pd context => exact Or.inr (Or.inr rfl)

theorem startDestroy_cases (st : ProcState) (o : Obj) :
    startDestroy st o = .idle ∨ startDestroy st o = .destroy o := by
  unfold startDestroy
  split
  · exact Or.inl rfl
  · exact Or.inr rfl

/-! ## Moving one process -/

@[simp] theorem move_sys (w : CWorld) (s : System) (p : Pid) (ph : Phase) :
    (w.move s p ph).sys = s := rfl

@[simp] theorem move_live (w : CWorld) (s : System) (p : Pid) (ph : Phase) :
    (w.move s p ph).live = w.live := rfl

@[simp] theorem move_phase (w : CWorld) (s : System) (p : Pid) (ph : Phase) :
    (w.move s p ph).phase p = ph := by
  simp only [CWorld.move, Function.update_self]

theorem move_phase_of_ne {w : CWorld} {s : System} {p q : Pid} {ph : Phase} (h : q ≠ p) :
    (w.move s p ph).phase q = w.phase q := by
  simp only [CWorld.move, Function.update_of_ne h]

theorem grant_phase_of_ne {w : CWorld} {p q : Pid} {req : CreateReq} {checked : Option UInt32}
    {o : Obj} (h : q ≠ p) : (w.grant p req checked o).phase q = w.phase q :=
  Function.update_of_ne h _ _

theorem release_phase_of_ne {w : CWorld} {p q : Pid} {o : Obj} (h : q ≠ p) :
    (w.release p o).phase q = w.phase q := Function.update_of_ne h _ _

@[simp] theorem move_move (w : CWorld) (s s' : System) (p : Pid) (ph ph' : Phase) :
    (w.move s p ph).move s' p ph' = w.move s' p ph' := by
  simp only [CWorld.move, Function.update_idem]

/-! ## The steps of a call -/

section Next

variable {w : CWorld} {p : Pid}

theorem next_idle (h : w.phase p = .idle) : w.next p = w := by
  simp only [CWorld.next, h]

theorem next_lookup {req : CreateReq} (h : w.phase p = .lookup req) :
    w.next p = w.move (getCurrentTenantId w.sys p).2 p (.quota req (currentTenant w.sys p)) := by
  simp only [CWorld.next, h]
  rfl

theorem next_quota {req : CreateReq} {t : UInt32} (h : w.phase p = .quota req t) :
    w.next p = w.move (checkQuota w.sys p t req).2 p
      (if (checkQuota w.sys p t req).1 then afterQuota t req else .idle) := by
  simp only [CWorld.next, h]

theorem next_processLimit {req : CreateReq} (h : w.phase p = .processLimit req) :
    w.next p = w.move w.sys p
      (if processLimitOk w.sys p then .globalLimit req else .idle) := by
  simp only [CWorld.next, h]

theorem next_globalLimit {req : CreateReq} (h : w.phase p = .globalLimit req) :
    w.next p = w.move w.sys p
      (if globalLimitOk w.sys p then .create req none else .idle) := by
  simp only [CWorld.next, h]

theorem next_create {req : CreateReq} {checked : Option UInt32}
    (h : w.phase p = .create req checked) : w.next p = w := by
  simp only [CWorld.next, h]

theorem next_destroy {o : Obj} (h : w.phase p = .destroy o) : w.next p = w := by
  simp only [CWorld.next, h]

theorem next_publish {c : Change} (h : w.phase p = .publish c) :
    w.next p = w.move (publishProcessResources w.sys p) p (.charge c) := by
  simp only [CWorld.next, h]

theorem next_charge {c : Change} (h : w.phase p = .charge c) :
    w.next p = w.move (getCurrentTenantId w.sys p).2 p (.read c (currentTenant w.sys p)) := by
  simp only [CWorld.next, h]
  rfl

/-- Process `p` is given the usage record of tenant `t`. -/
structure Readable (s : System) (p : Pid) (t : UInt32) : Prop where
  nonzero : t ≠ 0
  tenantInitialized : (s.proc p).tenantInitialized = true
  inRange : t.toNat < MAX_TENANTS
  active : s.status t = .active

/-- The read of a usage record copies it, or ends the call. -/
theorem next_read {c : Change} {t : UInt32} (h : w.phase p = .read c t) :
    ∃ s, Untouched w.sys s ∧
      (Readable w.sys p t ∧ w.next p = w.move s p (.write c t (w.sys.usage t)) ∨
        ¬ Readable w.sys p t ∧ w.next p = w.move s p .idle) := by
  simp only [CWorld.next, h]
  unfold CWorld.readUsage
  by_cases h0 : t = 0 ∨ !(w.sys.proc p).tenantInitialized
  · rw [if_pos h0]
    refine ⟨w.sys, .refl _, Or.inr ⟨?_, rfl⟩⟩
    rintro ⟨hne, hinit, -, -⟩
    rcases h0 with rfl | hno
    · exact hne rfl
    · rw [hinit] at hno
      exact absurd hno (by decide)
  · rw [if_neg h0]
    have hread := tenantGetResourceUsage_fst w.sys.tenantShm t w.sys.wallClock
    have hsame := tenantGetResourceUsage_same w.sys.tenantShm t w.sys.wallClock
    generalize tenantGetResourceUsage w.sys.tenantShm t w.sys.wallClock = r at hread hsame ⊢
    obtain ⟨o, shm⟩ := r
    refine ⟨{ w.sys with tenantShm := shm }, untouched_of_sameRecords hsame, ?_⟩
    by_cases ha : t.toNat < MAX_TENANTS ∧ (w.sys.tenantShm.tenant t).status = .active
    · rw [if_pos ha] at hread
      simp only at hread
      subst hread
      left
      refine ⟨⟨fun hz => h0 (Or.inl hz), ?_, ha.1, ha.2⟩, rfl⟩
      cases hinit : (w.sys.proc p).tenantInitialized with
      | true => rfl
      | false => exact absurd (Or.inr (by rw [hinit]; rfl)) h0
    · rw [if_neg ha] at hread
      simp only at hread
      subst hread
      right
      exact ⟨fun hr => ha ⟨hr.inRange, hr.active⟩, rfl⟩

theorem next_write {c : Change} {t : UInt32} {usage : TenantResourceUsage}
    (h : w.phase p = .write c t usage) :
    ∃ s, Fixed w.sys s ∧ w.next p = w.move s p .idle ∧
      ∀ u : UInt32, u.toNat < MAX_TENANTS → s.usage u =
        if u = t ∧ w.sys.status t = .active then usage.adjust c.obj.kind c.delta
        else w.sys.usage u := by
  have hw := tenantUpdateResourceUsage_spec w.sys.tenantShm t
    (usage.adjust c.obj.kind c.delta) w.sys.wallClock
  refine ⟨{ w.sys with tenantShm := (tenantUpdateResourceUsage w.sys.tenantShm t
    (usage.adjust c.obj.kind c.delta) w.sys.wallClock).2 }, ?_, ?_, hw.usage⟩
  · exact ⟨⟨fun _ => .refl _, hw.pidMappings⟩, hw.status, hw.quota⟩
  · simp only [CWorld.next, h]

/-- The next step of a call moves its process at most. -/
theorem next_move (w : CWorld) (p : Pid) : w.next p = w ∨ ∃ s ph, w.next p = w.move s p ph := by
  cases h : w.phase p with
  | idle => exact Or.inl (next_idle h)
  | lookup req => exact Or.inr ⟨_, _, next_lookup h⟩
  | quota req t => exact Or.inr ⟨_, _, next_quota h⟩
  | processLimit req => exact Or.inr ⟨_, _, next_processLimit h⟩
  | globalLimit req => exact Or.inr ⟨_, _, next_globalLimit h⟩
  | create req checked => exact Or.inl (next_create h)
  | destroy o => exact Or.inl (next_destroy h)
  | publish c => exact Or.inr ⟨_, _, next_publish h⟩
  | charge c => exact Or.inr ⟨_, _, next_charge h⟩
  | read c t =>
    obtain ⟨s, -, ⟨-, hs⟩ | ⟨-, hs⟩⟩ := next_read h
    · exact Or.inr ⟨_, _, hs⟩
    · exact Or.inr ⟨_, _, hs⟩
  | write c t usage =>
    obtain ⟨s, -, hs, -⟩ := next_write h
    exact Or.inr ⟨_, _, hs⟩

end Next

/-! ## The other events -/

section Step

variable (w : CWorld) (p : Pid)

theorem step_create (req : CreateReq) :
    w.step (.create p req) = w ∨
      w.phase p = .idle ∧
        w.step (.create p req) = w.move w.sys p (startCreate (w.sys.proc p) req) := by
  simp only [CWorld.step]
  cases w.phase p with
  | idle => exact Or.inr ⟨rfl, rfl⟩
  | _ => exact Or.inl rfl

theorem step_destroy (o : Obj) :
    w.step (.destroy p o) = w ∨
      w.phase p = .idle ∧
        w.step (.destroy p o) = w.move w.sys p (startDestroy (w.sys.proc p) o) := by
  simp only [CWorld.step]
  cases w.phase p with
  | idle => exact Or.inr ⟨rfl, rfl⟩
  | _ => exact Or.inl rfl

theorem step_created (driver : Option Handle) :
    w.step (.created p driver) = w ∨
      ∃ req checked, w.phase p = .create req checked ∧
        (driver = none ∧ w.step (.created p driver) = w.move w.sys p .idle ∨
          ∃ h, driver = some h ∧
            w.step (.created p driver) = w.grant p req checked (newObj w.sys p req h)) := by
  simp only [CWorld.step]
  cases w.phase p with
  | create req checked =>
    cases driver with
    | none => exact Or.inr ⟨req, checked, rfl, Or.inl ⟨rfl, rfl⟩⟩
    | some h => exact Or.inr ⟨req, checked, rfl, Or.inr ⟨h, rfl, rfl⟩⟩
  | _ => exact Or.inl rfl

theorem step_destroyed (driver : Int32) :
    w.step (.destroyed p driver) = w ∨
      ∃ o, w.phase p = .destroy o ∧
        (driver ≠ 0 ∧ w.step (.destroyed p driver) = w.move w.sys p .idle ∨
          driver = 0 ∧ w.step (.destroyed p driver) = w.release p o) := by
  simp only [CWorld.step]
  cases w.phase p with
  | destroy o =>
    right
    refine ⟨o, rfl, ?_⟩
    by_cases hd : driver = 0
    · exact Or.inr ⟨hd, if_pos hd⟩
    · exact Or.inl ⟨hd, if_neg hd⟩
  | _ => exact Or.inl rfl

end Step

/-! ## What no step changes -/

/-- A step of one process leaves the others where they are. -/
theorem step_phase_of_ne {w : CWorld} {e : CEvent} {q : Pid} (h : e.actor ≠ some q) :
    (w.step e).phase q = w.phase q := by
  cases e with
  | create p req =>
    have hq : q ≠ p := fun heq => h (by rw [heq]; rfl)
    rcases step_create w p req with hs | ⟨-, hs⟩
    · rw [hs]
    · rw [hs, move_phase_of_ne hq]
  | destroy p o =>
    have hq : q ≠ p := fun heq => h (by rw [heq]; rfl)
    rcases step_destroy w p o with hs | ⟨-, hs⟩
    · rw [hs]
    · rw [hs, move_phase_of_ne hq]
  | created p driver =>
    have hq : q ≠ p := fun heq => h (by rw [heq]; rfl)
    rcases step_created w p driver with hs | ⟨req, checked, -, ⟨-, hs⟩ | ⟨g, -, hs⟩⟩
    · rw [hs]
    · rw [hs, move_phase_of_ne hq]
    · rw [hs, grant_phase_of_ne hq]
  | destroyed p driver =>
    have hq : q ≠ p := fun heq => h (by rw [heq]; rfl)
    rcases step_destroyed w p driver with hs | ⟨o, -, ⟨-, hs⟩ | ⟨-, hs⟩⟩
    · rw [hs]
    · rw [hs, move_phase_of_ne hq]
    · rw [hs, release_phase_of_ne hq]
  | next p =>
    have hq : q ≠ p := fun heq => h (by rw [heq]; rfl)
    rcases next_move w p with hs | ⟨s, ph, hs⟩
    · rw [CWorld.step, hs]
    · rw [CWorld.step, hs, move_phase_of_ne hq]
  | tick wall mono => rfl

/-- So does a run of steps of other processes. -/
theorem exec_phase_of_ne {w : CWorld} {es : List CEvent} {q : Pid}
    (h : ∀ e ∈ es, e.actor ≠ some q) : (exec CWorld.step w es).phase q = w.phase q :=
  exec_of_step (I := fun w' => w'.phase q = w.phase q)
    (fun _ _ hw he => (step_phase_of_ne he).trans hw) rfl (along_of_forall h w)

theorem next_fixed (w : CWorld) (p : Pid) : Fixed w.sys (w.next p).sys := by
  cases hph : w.phase p with
  | idle =>
    rw [next_idle hph]
    exact .refl _
  | lookup req =>
    rw [next_lookup hph]
    exact (getCurrentTenantId_untouched w.sys p).kept.toFixed
  | quota req t =>
    rw [next_quota hph]
    exact (checkQuota_untouched w.sys p t req).kept.toFixed
  | processLimit req =>
    rw [next_processLimit hph]
    exact .refl _
  | globalLimit req =>
    rw [next_globalLimit hph]
    exact .refl _
  | create req checked =>
    rw [next_create hph]
    exact .refl _
  | destroy o =>
    rw [next_destroy hph]
    exact .refl _
  | publish c =>
    rw [next_publish hph]
    exact (kept_publish w.sys p).toFixed
  | charge c =>
    rw [next_charge hph]
    exact (getCurrentTenantId_untouched w.sys p).kept.toFixed
  | read c t =>
    obtain ⟨s, hun, ⟨-, hs⟩ | ⟨-, hs⟩⟩ := next_read hph
    · rw [hs]
      exact hun.kept.toFixed
    · rw [hs]
      exact hun.kept.toFixed
  | write c t usage =>
    obtain ⟨s, hfixed, hs, -⟩ := next_write hph
    rw [hs]
    exact hfixed

/-- No step moves a process to another tenant or changes the status or quota of a tenant. -/
theorem step_fixed (w : CWorld) (e : CEvent) : Fixed w.sys (w.step e).sys := by
  cases e with
  | create p req =>
    rcases step_create w p req with h | ⟨-, h⟩
    · rw [h]
      exact .refl _
    · rw [h]
      exact .refl _
  | destroy p o =>
    rcases step_destroy w p o with h | ⟨-, h⟩
    · rw [h]
      exact .refl _
    · rw [h]
      exact .refl _
  | created p driver =>
    rcases step_created w p driver with h | ⟨req, checked, -, ⟨-, h⟩ | ⟨g, -, h⟩⟩
    · rw [h]
      exact .refl _
    · rw [h]
      exact .refl _
    · rw [h]
      exact (kept_setProc (sameSettings_addObj _ _)).toFixed
  | destroyed p driver =>
    rcases step_destroyed w p driver with h | ⟨o, -, ⟨-, h⟩ | ⟨-, h⟩⟩
    · rw [h]
      exact .refl _
    · rw [h]
      exact .refl _
    · rw [h]
      exact (kept_setProc (sameSettings_removeObj _ _)).toFixed
  | next p => exact next_fixed w p
  | tick wall mono => exact ⟨⟨fun _ => .refl _, rfl⟩, fun _ => rfl, fun _ => rfl⟩

end RdmaIntercept.Analysis
