import Mathlib.Data.List.Count
import RdmaIntercept.Library.Counter
import RdmaIntercept.Analysis.HookSpec

/-!
# What one event of a serial run does

The outcomes of a hook call, read on the world: a call either leaves all ledgers and all
live objects as they were (`Quiet`), or makes or removes one object and books it
(`Creates`, `Destroys`).  The number of live objects and the counter in the usage record
then move by one each, and the two movements are set side by side here.
-/

set_option autoImplicit false

namespace RdmaIntercept.Analysis

open RdmaIntercept.Library RdmaIntercept.Model

/-! ## Counting objects -/

theorem countOf_cons (o : Obj) (objs : List Obj) (t : UInt32) (k : ResourceKind) :
    countOf (o :: objs) t k = countOf objs t k + if o.tenant = t ∧ o.kind = k then 1 else 0 := by
  unfold countOf
  rw [List.countP_cons]
  simp only [decide_eq_true_eq]

theorem countOf_erase {o : Obj} {objs : List Obj} (h : o ∈ objs) (t : UInt32)
    (k : ResourceKind) :
    countOf objs t k =
      countOf (objs.erase o) t k + if o.tenant = t ∧ o.kind = k then 1 else 0 := by
  rw [← countOf_cons]
  unfold countOf
  exact (List.perm_cons_erase h).countP_eq _

theorem countOf_append (xs ys : List Obj) (t : UInt32) (k : ResourceKind) :
    countOf (xs ++ ys) t k = countOf xs t k + countOf ys t k := List.countP_append

/-- The objects of one process and those of the others make up the list. -/
theorem countOf_owner (objs : List Obj) (p : Pid) (t : UInt32) (k : ResourceKind) :
    countOf objs t k = countOf (objs.filter fun o => o.owner ≠ p) t k +
      countOf (objs.filter fun o => o.owner = p) t k := by
  induction objs with
  | nil => rfl
  | cons o objs ih =>
    rw [countOf_cons, ih, List.filter_cons, List.filter_cons]
    by_cases hop : o.owner = p
    · simp only [hop, ne_eq, not_true_eq_false, decide_false, Bool.false_eq_true, if_false,
        decide_true, if_true, countOf_cons]
      omega
    · simp only [hop, ne_eq, not_false_eq_true, decide_true, if_true, decide_false,
        Bool.false_eq_true, if_false, countOf_cons]
      omega

theorem countOf_nil (t : UInt32) (k : ResourceKind) : countOf [] t k = 0 := rfl

/-! ## Adjusting a usage record -/

theorem count_adjust (usage : TenantResourceUsage) (kind k : ResourceKind) (delta : Int32) :
    (usage.adjust kind delta).count k =
      if kind = k then usage.count k + delta else usage.count k := by
  cases kind <;> cases k <;> rfl

theorem memoryUsed_adjust (usage : TenantResourceUsage) (kind : ResourceKind) (delta : Int32) :
    (usage.adjust kind delta).memoryUsed = usage.memoryUsed := by
  cases kind <;> rfl

theorem count_zero (k : ResourceKind) : TenantResourceUsage.zero.count k = 0 := by
  cases k <;> rfl

/-! ## The outcomes of an event -/

/-- A call without effect. -/
structure Quiet (w w' : World) : Prop where
  sys : Untouched w.sys w'.sys
  live : w'.live = w.live
  alive : w'.alive = w.alive
  reclaimed : w'.reclaimed = w.reclaimed

/-- A call that has created object `o`. -/
structure Creates (w : World) (p : Pid) (req : CreateReq) (h : Handle) (w' : World) : Prop where
  sys : Booked w.sys p req.kind 1 ((w.sys.proc p).addObj req) (shmAfterCreate w.sys p req)
    w'.sys
  live : w'.live = newObj w.sys p req h :: w.live
  alive : w'.alive = w.alive
  reclaimed : w'.reclaimed = w.reclaimed

/-- A call that has destroyed object `o`. -/
structure Destroys (w : World) (p : Pid) (o : Obj) (w' : World) : Prop where
  sys : Booked w.sys p o.kind (-1) ((w.sys.proc p).removeObj o.destroyReq) w.sys.shm w'.sys
  live : w'.live = w.live.erase o
  alive : w'.alive = w.alive
  reclaimed : w'.reclaimed = w.reclaimed

/-- The checks pass and the driver answers an object. -/
def Grants (w : World) (p : Pid) (req : CreateReq) (driver : Option Handle) : Prop :=
  Admitted w.sys p req ∧ driver ≠ none

@[simp] theorem kind_destroyReq (o : Obj) : o.destroyReq.kind = o.kind := by
  unfold Obj.destroyReq
  cases o.kind <;> rfl

/-- A creation whose hook does not pass the call on at once. -/
theorem step_create_outcome {w : World} {p : Pid} {req : CreateReq} {driver : Option Handle}
    (hhook : ∀ hook, interceptCreate w.sys p req driver hook = hook) :
    (¬ Grants w p req driver ∧ Quiet w (w.step (.create p req driver))) ∨
      ∃ h, driver = some h ∧ Admitted w.sys p req ∧
        Creates w p req h (w.step (.create p req driver)) := by
  have hspec := ibvCreate_outcome hhook
  simp only [World.step]
  generalize ibvCreate w.sys p req driver = r at hspec ⊢
  obtain ⟨out, s⟩ := r
  by_cases hadm : Admitted w.sys p req
  · cases driver with
    | none =>
      left
      obtain ⟨-, hun⟩ := hspec.failed hadm rfl
      exact ⟨fun h => h.2 rfl, hun, rfl, rfl, rfl⟩
    | some h =>
      right
      obtain ⟨hout, hbook⟩ := hspec.granted h hadm rfl
      simp only at hout
      subst hout
      refine ⟨h, rfl, hadm, hbook, ?_, rfl, rfl⟩
      simp only [List.cons_ne_nil, if_false]
  · left
    obtain ⟨hout, hun⟩ := hspec.refused hadm
    simp only at hout
    subst hout
    refine ⟨fun h => hadm h.1, ?_⟩
    cases driver with
    | none => exact ⟨hun, rfl, rfl, rfl⟩
    | some h => exact ⟨hun, by simp only [if_true], rfl, rfl⟩

theorem step_create_cases {w : World} {p : Pid} (req : CreateReq)
    (hr : Ready w.sys p req.kind) (driver : Option Handle) :
    (¬ Grants w p req driver ∧ Quiet w (w.step (.create p req driver))) ∨
      ∃ h, driver = some h ∧ Admitted w.sys p req ∧
        Creates w p req h (w.step (.create p req driver)) :=
  step_create_outcome (interceptCreate_ready hr driver)

/-- A destruction whose hook does not pass the call on at once. -/
theorem step_destroy_outcome {w : World} {p : Pid} {o : Obj} {driver : Int32}
    (hhook : ∀ hook, interceptDestroy w.sys p o.destroyReq driver hook = hook) :
    (driver ≠ 0 ∧ Quiet w (w.step (.destroy p o driver))) ∨
      (driver = 0 ∧ Destroys w p o (w.step (.destroy p o driver))) := by
  have hspec := ibvDestroy_outcome hhook
  simp only [World.step]
  generalize ibvDestroy w.sys p o.destroyReq driver = r at hspec ⊢
  obtain ⟨out, s⟩ := r
  have hout := hspec.answer
  simp only at hout
  subst hout
  by_cases hd : driver = 0
  · right
    have hbook := hspec.granted hd
    rw [kind_destroyReq] at hbook
    exact ⟨hd, hbook, if_pos ⟨by simp, hd⟩, rfl, rfl⟩
  · left
    exact ⟨hd, hspec.failed hd, if_neg (fun h => hd h.2), rfl, rfl⟩

theorem step_destroy_cases {w : World} {p : Pid} {o : Obj} (hr : Ready w.sys p o.kind)
    (driver : Int32) :
    (driver ≠ 0 ∧ Quiet w (w.step (.destroy p o driver))) ∨
      (driver = 0 ∧ Destroys w p o (w.step (.destroy p o driver))) := by
  rw [← kind_destroyReq o] at hr
  exact step_destroy_outcome (interceptDestroy_ready hr driver)

/-! ## The live objects -/

/-- What holds of every live object and of the new one holds of every live object after. -/
theorem Creates.forall_live {w w' : World} {p : Pid} {req : CreateReq} {h : Handle}
    (hc : Creates w p req h w') {Q : Obj → Prop} (hnew : Q (newObj w.sys p req h))
    (hold : ∀ o ∈ w.live, Q o) : ∀ o ∈ w'.live, Q o := by
  rw [hc.live]
  exact List.forall_mem_cons.mpr ⟨hnew, hold⟩

theorem Destroys.forall_live {w w' : World} {p : Pid} {o : Obj} (hd : Destroys w p o w')
    {Q : Obj → Prop} (hold : ∀ o ∈ w.live, Q o) : ∀ o ∈ w'.live, Q o := by
  rw [hd.live]
  exact fun o' ho' => hold o' (List.mem_of_mem_erase ho')

/-- The number of live objects of kind `k` that process `p` has made. -/
def ownedCount (w : World) (p : Pid) (k : ResourceKind) : ℕ :=
  w.live.countP fun o => o.owner = p ∧ o.kind = k

theorem Creates.ownedCount {w w' : World} {p : Pid} {req : CreateReq} {h : Handle}
    (hc : Creates w p req h w') (q : Pid) (k : ResourceKind) :
    ownedCount w' q k = ownedCount w q k + if p = q ∧ req.kind = k then 1 else 0 := by
  unfold Analysis.ownedCount
  rw [hc.live, List.countP_cons]
  simp only [decide_eq_true_eq]
  rfl

theorem ownedCount_of_erase {w w' : World} {o : Obj} (h : w'.live = w.live.erase o)
    (ho : o ∈ w.live) (q : Pid) (k : ResourceKind) :
    ownedCount w q k = ownedCount w' q k + if o.owner = q ∧ o.kind = k then 1 else 0 := by
  unfold ownedCount
  rw [h, (List.perm_cons_erase ho).countP_eq, List.countP_cons]
  simp only [decide_eq_true_eq]

/-! ## The two ledgers of a tenant side by side -/

theorem Creates.liveCount {w w' : World} {p : Pid} {req : CreateReq} {h : Handle}
    (hc : Creates w p req h w') (t : UInt32) (k : ResourceKind) :
    w'.liveCount t k =
      w.liveCount t k + if currentTenant w.sys p = t ∧ req.kind = k then 1 else 0 := by
  unfold World.liveCount
  rw [hc.live, countOf_cons]
  rfl

theorem Destroys.liveCount {w w' : World} {p : Pid} {o : Obj} (hd : Destroys w p o w')
    (ho : o ∈ w.live) (t : UInt32) (k : ResourceKind) :
    w.liveCount t k = w'.liveCount t k + if o.tenant = t ∧ o.kind = k then 1 else 0 := by
  unfold World.liveCount
  rw [hd.live]
  exact countOf_erase ho t k

theorem Booked.count {s s' : System} {p : Pid} {kind : ResourceKind} {delta : Int32}
    {st : ProcState} {shm : SharedMemoryData} (hb : Booked s p kind delta st shm s')
    {t : UInt32} (ht : t.toNat < MAX_TENANTS) (k : ResourceKind) :
    (s'.usage t).count k =
      if ChargedTo s p t ∧ kind = k then (s.usage t).count k + delta
      else (s.usage t).count k := by
  rw [hb.usage t ht]
  by_cases hcharged : ChargedTo s p t
  · rw [if_pos hcharged, count_adjust]
    by_cases hk : kind = k
    · rw [if_pos hk, if_pos ⟨hcharged, hk⟩]
    · rw [if_neg hk, if_neg (fun h => hk h.2)]
  · rw [if_neg hcharged, if_neg (fun h => hcharged h.1)]

/-- A creation moves the counter and the live count of a tenant together, if the tenant of
its process is ACTIVE. -/
theorem Creates.count_cases {w w' : World} {p : Pid} {req : CreateReq} {h : Handle}
    (hc : Creates w p req h w') {t : UInt32} (h0 : t ≠ 0) (ht : t.toNat < MAX_TENANTS)
    (hact : currentTenant w.sys p = t → w.sys.status t = .active) (k : ResourceKind) :
    (currentTenant w.sys p = t ∧ req.kind = k ∧
      (w'.sys.usage t).count k = (w.sys.usage t).count k + 1 ∧
      w'.liveCount t k = w.liveCount t k + 1) ∨
    (¬ (currentTenant w.sys p = t ∧ req.kind = k) ∧
      (w'.sys.usage t).count k = (w.sys.usage t).count k ∧
      w'.liveCount t k = w.liveCount t k) := by
  have hcount := hc.sys.count ht k
  have hlive := hc.liveCount t k
  by_cases hcur : currentTenant w.sys p = t ∧ req.kind = k
  · left
    rw [if_pos ⟨⟨hcur.1.symm, h0, hact hcur.1⟩, hcur.2⟩] at hcount
    rw [if_pos hcur] at hlive
    exact ⟨hcur.1, hcur.2, hcount, hlive⟩
  · right
    rw [if_neg (fun h => hcur ⟨h.1.1.symm, h.2⟩)] at hcount
    rw [if_neg hcur] at hlive
    exact ⟨hcur, hcount, hlive⟩

/-- So does a destruction, when the process is still in the tenant of the object. -/
theorem Destroys.count_cases {w w' : World} {p : Pid} {o : Obj} (hd : Destroys w p o w')
    (ho : o ∈ w.live) (hown : currentTenant w.sys p = o.tenant) {t : UInt32} (h0 : t ≠ 0)
    (ht : t.toNat < MAX_TENANTS) (hact : currentTenant w.sys p = t → w.sys.status t = .active)
    (k : ResourceKind) :
    ((w'.sys.usage t).count k = (w.sys.usage t).count k + (-1) ∧
      w.liveCount t k = w'.liveCount t k + 1) ∨
    ((w'.sys.usage t).count k = (w.sys.usage t).count k ∧
      w'.liveCount t k = w.liveCount t k) := by
  have hcount := hd.sys.count ht k
  have hlive := hd.liveCount ho t k
  by_cases hcur : o.tenant = t ∧ o.kind = k
  · left
    rw [if_pos ⟨⟨hcur.1.symm.trans hown.symm, h0, hact (hown.trans hcur.1)⟩, hcur.2⟩] at hcount
    rw [if_pos hcur] at hlive
    exact ⟨hcount, hlive⟩
  · right
    rw [if_neg (fun h => hcur ⟨hown.symm.trans h.1.1.symm, h.2⟩)] at hcount
    rw [if_neg hcur] at hlive
    exact ⟨hcount, hlive.symm⟩

/-! ## What an event leaves alone -/

/-- The processes keep their settings and their tenants. -/
structure SameBindings (s s' : System) : Prop where
  settings : ∀ p, SameSettings (s.proc p) (s'.proc p)
  pidMappings : s'.tenantShm.pidMappings = s.tenantShm.pidMappings

theorem SameSettings.refl (st : ProcState) : SameSettings st st := ⟨rfl, rfl, rfl, rfl, rfl, rfl⟩

theorem SameSettings.trans {a b c : ProcState} (h : SameSettings a b) (h' : SameSettings b c) :
    SameSettings a c :=
  ⟨h'.initialized.trans h.initialized, h'.config.trans h.config,
    h'.tenantInitialized.trans h.tenantInitialized, h'.shmAttached.trans h.shmAttached,
    h'.realCreate.trans h.realCreate, h'.realDestroy.trans h.realDestroy⟩

theorem SameBindings.refl (s : System) : SameBindings s s := ⟨fun _ => .refl _, rfl⟩

theorem SameBindings.trans {a b c : System} (h : SameBindings a b) (h' : SameBindings b c) :
    SameBindings a c :=
  ⟨fun p => (h.settings p).trans (h'.settings p), h'.pidMappings.trans h.pidMappings⟩

theorem SameBindings.currentTenant {s s' : System} (h : SameBindings s s') (p : Pid) :
    currentTenant s' p = currentTenant s p :=
  currentTenant_congr h.pidMappings (h.settings p).tenantInitialized

theorem SameBindings.ready {s s' : System} (h : SameBindings s s') {p : Pid}
    {kind : ResourceKind} (hr : Ready s p kind) : Ready s' p kind := hr.congr (h.settings p)

/-- The same for an object of that kind. -/
theorem SameBindings.readyFor {s s' : System} (h : SameBindings s s') {p : Pid} {o : Obj}
    {kind : ResourceKind} (hkind : o.kind = kind) (hr : Ready s p kind) : Ready s' p o.kind := by
  rw [hkind]
  exact h.ready hr

theorem Untouched.sameBindings {s s' : System} (h : Untouched s s') : SameBindings s s' :=
  ⟨fun p => by rw [h.proc]; exact .refl _, h.records.pidMappings⟩

theorem Booked.sameBindings {s s' : System} {p : Pid} {kind : ResourceKind} {delta : Int32}
    {st : ProcState} {shm : SharedMemoryData} (hb : Booked s p kind delta st shm s')
    (hst : SameSettings (s.proc p) st) : SameBindings s s' := by
  refine ⟨fun q => ?_, hb.pidMappings⟩
  rw [hb.proc]
  by_cases hq : q = p
  · rw [hq, Function.update_self]
    exact hst
  · rw [Function.update_of_ne hq]
    exact .refl _

theorem Creates.sameBindings {w w' : World} {p : Pid} {req : CreateReq} {h : Handle}
    (hc : Creates w p req h w') : SameBindings w.sys w'.sys :=
  hc.sys.sameBindings (sameSettings_addObj _ _)

theorem Destroys.sameBindings {w w' : World} {p : Pid} {o : Obj} (hd : Destroys w p o w') :
    SameBindings w.sys w'.sys :=
  hd.sys.sameBindings (sameSettings_removeObj _ _)

end RdmaIntercept.Analysis
