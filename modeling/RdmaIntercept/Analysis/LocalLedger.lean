import Mathlib.Algebra.BigOperators.Group.List.Basic
import Mathlib.Algebra.GroupWithZero.Nat
import RdmaIntercept.Analysis.Scenario

/-!
# The ledger of one process

Each process counts its own QPs, MRs and registered bytes, on the four paths that create and
destroy QPs and MRs, each of which the checks or the driver may cut short.  The counts are
exact in every run, and the guards before the decrements always let the decrement through,
as long as the live objects fit the words that count them.
-/

set_option autoImplicit false

namespace RdmaIntercept.Analysis

open RdmaIntercept.Library RdmaIntercept.Model

/-! ## What is counted -/

/-- The bytes that the live MRs of process `p` register. -/
def ownedBytes (w : World) (p : Pid) : ℕ :=
  (w.live.map fun o => if o.owner = p ∧ o.kind = .mr then o.length.toNat else 0).sum

/-- The three counters of a process show `qps` QPs and `mrs` MRs of `bytes` bytes. -/
structure Shows (st : ProcState) (qps mrs bytes : ℕ) : Prop where
  qpCount : st.qpCount.toNat = qps
  mrCount : st.mrCount.toNat = mrs
  memoryUsed : st.memoryUsed.toNat = bytes

/-- The counters of process `p` show what it has. -/
def LocalExact (p : Pid) (w : World) : Prop :=
  Shows (w.sys.proc p) (ownedCount w p .qp) (ownedCount w p .mr) (ownedBytes w p)

/-- What process `p` has fits its three counters. -/
structure Fits (p : Pid) (w : World) : Prop where
  qps : ownedCount w p .qp < 2 ^ 32
  mrs : ownedCount w p .mr < 2 ^ 32
  bytes : ownedBytes w p < 2 ^ 64

/-- The guards that a successful destruction by `p` meets let its decrements through. -/
def GuardsPass (p : Pid) (w : World) : Event → Prop
  | .destroy q o _ =>
    q = p →
      (o.kind = .qp → 0 < (w.sys.proc p).qpCount) ∧
        (o.kind = .mr → 0 < (w.sys.proc p).mrCount ∧ o.length ≤ (w.sys.proc p).memoryUsed)
  | _ => True

/-- The events of a run: the calls of `p` itself, each of which destroys an object that `p`
has made and that is still there, and whatever other processes and managers do. -/
def LocalEvent (p : Pid) (w : World) : Event → Prop
  | .create _ _ _ => True
  | .destroy q o _ => Owns w q o
  | .store _ => True
  | .tick _ _ => True
  | .start q _ => q ≠ p
  | .exit q => q ≠ p

/-- Where such a run starts: interception is on in `p`, which has nothing and counts nothing. -/
structure LocalStart (p : Pid) (w : World) : Prop where
  enabled : rdmaInterceptIsEnabled (w.sys.proc p) = true
  qpCount : (w.sys.proc p).qpCount = 0
  mrCount : (w.sys.proc p).mrCount = 0
  memoryUsed : (w.sys.proc p).memoryUsed = 0
  noObj : ∀ o ∈ w.live, o.owner ≠ p

theorem Creates.ownedBytes {w w' : World} {p : Pid} {req : CreateReq} {h : Handle}
    (hc : Creates w p req h w') (q : Pid) :
    ownedBytes w' q =
      ownedBytes w q + if p = q ∧ req.kind = .mr then req.length.toNat else 0 := by
  unfold Analysis.ownedBytes
  rw [hc.live, List.map_cons, List.sum_cons, Nat.add_comm]
  rfl

theorem ownedBytes_of_erase {w w' : World} {o : Obj} (h : w'.live = w.live.erase o)
    (ho : o ∈ w.live) (q : Pid) :
    ownedBytes w q =
      ownedBytes w' q + if o.owner = q ∧ o.kind = .mr then o.length.toNat else 0 := by
  unfold Analysis.ownedBytes
  rw [h, Nat.add_comm]
  exact (List.sum_map_erase _ ho).symm

/-! ## Events that do not touch the ledger -/

/-- The counters of process `p` and its objects are as before, up to their order. -/
structure Elsewhere (p : Pid) (w w' : World) : Prop where
  proc : w'.sys.proc p = w.sys.proc p
  objs : (w'.live.filter fun o => o.owner = p).Perm (w.live.filter fun o => o.owner = p)

theorem ownedCount_eq (w : World) (p : Pid) (k : ResourceKind) :
    ownedCount w p k = (w.live.filter fun o => o.owner = p).countP fun o => o.kind = k := by
  unfold ownedCount
  rw [List.countP_filter]
  congr 1
  funext o
  rw [Bool.and_comm, Bool.decide_and]

theorem ownedBytes_eq (w : World) (p : Pid) :
    ownedBytes w p = ((w.live.filter fun o => o.owner = p).map fun o =>
      if o.kind = .mr then o.length.toNat else 0).sum := by
  unfold ownedBytes
  induction w.live with
  | nil => rfl
  | cons o objs ih =>
    rw [List.map_cons, List.sum_cons, ih, List.filter_cons]
    by_cases hown : o.owner = p
    · simp only [hown, true_and, decide_true, if_true, List.map_cons, List.sum_cons]
    · simp only [hown, false_and, decide_false, if_false, Bool.false_eq_true, Nat.zero_add]

theorem Elsewhere.ownedCount {p : Pid} {w w' : World} (h : Elsewhere p w w') (k : ResourceKind) :
    ownedCount w' p k = ownedCount w p k := by
  rw [ownedCount_eq, ownedCount_eq, h.objs.countP_eq]

theorem Elsewhere.ownedBytes {p : Pid} {w w' : World} (h : Elsewhere p w w') :
    ownedBytes w' p = ownedBytes w p := by
  rw [ownedBytes_eq, ownedBytes_eq]
  exact (h.objs.map _).sum_nat

theorem LocalExact.elsewhere {p : Pid} {w w' : World} (hl : LocalExact p w)
    (h : Elsewhere p w w') : LocalExact p w' := by
  unfold LocalExact
  rw [h.proc, h.ownedCount, h.ownedCount, h.ownedBytes]
  exact hl

theorem Quiet.elsewhere {w w' : World} (hq : Quiet w w') (p : Pid) : Elsewhere p w w' :=
  ⟨congrFun hq.sys.proc p, by rw [hq.live]⟩

theorem filter_owner_cons {p : Pid} {o : Obj} (h : o.owner ≠ p) (objs : List Obj) :
    ((o :: objs).filter fun o => o.owner = p) = objs.filter fun o => o.owner = p :=
  List.filter_cons_of_neg (by rw [decide_eq_true_eq]; exact h)

theorem filter_owner_erase {p : Pid} {o : Obj} {objs : List Obj} (ho : o ∈ objs)
    (h : o.owner ≠ p) :
    ((objs.erase o).filter fun o => o.owner = p).Perm (objs.filter fun o => o.owner = p) := by
  have hperm := (List.perm_cons_erase ho).filter fun o => o.owner = p
  rw [filter_owner_cons h] at hperm
  exact hperm.symm

theorem Creates.elsewhere {w w' : World} {p q : Pid} {req : CreateReq} {h : Handle}
    (hc : Creates w q req h w') (hq : q ≠ p) : Elsewhere p w w' := by
  refine ⟨?_, ?_⟩
  · rw [hc.sys.proc, Function.update_of_ne hq.symm]
  · rw [hc.live, filter_owner_cons (by exact hq)]

theorem Destroys.elsewhere {w w' : World} {p q : Pid} {o : Obj} (hd : Destroys w q o w')
    (ho : Owns w q o) (hq : q ≠ p) : Elsewhere p w w' := by
  refine ⟨?_, ?_⟩
  · rw [hd.sys.proc, Function.update_of_ne hq.symm]
  · rw [hd.live]
    exact filter_owner_erase ho.1 (by rw [ho.2]; exact hq)

/-! ## The calls -/

variable {p : Pid} {w : World}

/-- A creation makes an object of `p` and books it, or it does not concern `p`. -/
theorem step_create_ledger (henabled : rdmaInterceptIsEnabled (w.sys.proc p) = true) (q : Pid)
    (req : CreateReq) (driver : Option Handle) :
    Elsewhere p w (w.step (.create q req driver)) ∨
      (q = p ∧ ∃ h, Creates w p req h (w.step (.create q req driver))) := by
  rcases interceptCreate_cases w.sys q req driver with hhook | ⟨out, hout, hcalls⟩
  · rcases step_create_outcome hhook with ⟨-, hq⟩ | ⟨h, -, -, hc⟩
    · exact Or.inl (hq.elsewhere p)
    · by_cases hqp : q = p
      · subst hqp
        exact Or.inr ⟨rfl, h, hc⟩
      · exact Or.inl (hc.elsewhere hqp)
  · left
    rw [World.step, ibvCreate_of_intercept hout]
    cases driver with
    | none => exact ⟨rfl, .refl _⟩
    | some h =>
      refine ⟨rfl, ?_⟩
      change List.Perm (List.filter _ (if out.driverCalls = [] then _ else _)) _
      by_cases hnone : out.driverCalls = []
      · rw [if_pos hnone]
      · rw [if_neg hnone]
        -- the driver was called with interception off, so not for `p`
        have hqp : q ≠ p := by
          rintro rfl
          exact hnone (hcalls henabled)
        rw [filter_owner_cons (by exact hqp)]

/-- A destruction removes an object of `p` and books it, or it does not concern `p`. -/
theorem step_destroy_ledger (henabled : rdmaInterceptIsEnabled (w.sys.proc p) = true) {q : Pid}
    {o : Obj} (ho : Owns w q o) (driver : Int32) :
    Elsewhere p w (w.step (.destroy q o driver)) ∨
      (q = p ∧ Destroys w p o (w.step (.destroy q o driver))) := by
  rcases interceptDestroy_cases w.sys q o.destroyReq driver with hhook | ⟨out, hout, hcalls⟩
  · rcases step_destroy_outcome hhook with ⟨-, hq⟩ | ⟨-, hd⟩
    · exact Or.inl (hq.elsewhere p)
    · by_cases hqp : q = p
      · subst hqp
        exact Or.inr ⟨rfl, hd⟩
      · exact Or.inl (hd.elsewhere ho hqp)
  · left
    rw [World.step, ibvDestroy_of_intercept hout]
    refine ⟨rfl, ?_⟩
    change List.Perm (List.filter _ (if out.driverCalls ≠ [] ∧ driver = 0 then _ else _)) _
    by_cases hdone : out.driverCalls ≠ [] ∧ driver = 0
    · rw [if_pos hdone]
      have hqp : q ≠ p := by
        rintro rfl
        exact hdone.1 (hcalls henabled)
      exact filter_owner_erase ho.1 (by rw [ho.2]; exact hqp)
    · rw [if_neg hdone]

/-! ## The two bookings -/

theorem Shows.addObj {st : ProcState} {qps mrs bytes : ℕ} (h : Shows st qps mrs bytes)
    (req : CreateReq) (hqps : qps + (if req.kind = .qp then 1 else 0) < 2 ^ 32)
    (hmrs : mrs + (if req.kind = .mr then 1 else 0) < 2 ^ 32)
    (hbytes : bytes + (if req.kind = .mr then req.length.toNat else 0) < 2 ^ 64) :
    Shows (st.addObj req) (qps + if req.kind = .qp then 1 else 0)
      (mrs + if req.kind = .mr then 1 else 0)
      (bytes + if req.kind = .mr then req.length.toNat else 0) := by
  obtain ⟨hqp, hmr, hmem⟩ := h
  cases req with
  | qp pd attr => exact ⟨Counter.toNat_succ hqp hqps, hmr, hmem⟩
  | mr pd addr length access =>
    exact ⟨hqp, Counter.toNat_succ hmr hmrs, Counter.toNat_add_amount hmem hbytes⟩
  | cq context cqe cqContext channel compVector => exact ⟨hqp, hmr, hmem⟩
  | pd context => exact ⟨hqp, hmr, hmem⟩

/-- Counters that cover an object let the decrements of its destruction through. -/
theorem Shows.guards {st : ProcState} {o : Obj} {qps mrs bytes : ℕ}
    (h : Shows st (qps + if o.kind = .qp then 1 else 0) (mrs + if o.kind = .mr then 1 else 0)
      (bytes + if o.kind = .mr then o.length.toNat else 0)) :
    (o.kind = .qp → 0 < st.qpCount) ∧
      (o.kind = .mr → 0 < st.mrCount ∧ o.length ≤ st.memoryUsed) := by
  obtain ⟨hqp, hmr, hmem⟩ := h
  refine ⟨fun hkind => ?_, fun hkind => ⟨?_, ?_⟩⟩
  · rw [if_pos hkind] at hqp
    exact Counter.pos_of_toNat hqp
  · rw [if_pos hkind] at hmr
    exact Counter.pos_of_toNat hmr
  · rw [if_pos hkind] at hmem
    exact (Counter.toNat_sub_amount hmem).1

theorem Shows.removeObj {st : ProcState} {o : Obj} {qps mrs bytes : ℕ}
    (h : Shows st (qps + if o.kind = .qp then 1 else 0) (mrs + if o.kind = .mr then 1 else 0)
      (bytes + if o.kind = .mr then o.length.toNat else 0)) :
    Shows (st.removeObj o.destroyReq) qps mrs bytes := by
  obtain ⟨hqpGuard, hmrGuard⟩ := h.guards
  obtain ⟨hqp, hmr, hmem⟩ := h
  obtain ⟨handle, kind, owner, tenant, length⟩ := o
  cases kind with
  | qp =>
    change Shows st.removeQp qps mrs bytes
    rw [ProcState.removeQp, if_pos (hqpGuard rfl)]
    exact ⟨Counter.toNat_pred hqp, hmr, hmem⟩
  | mr =>
    obtain ⟨hcount, hlength⟩ := hmrGuard rfl
    change Shows (st.removeMr length) qps mrs bytes
    simp only [ProcState.removeMr, if_pos hcount, if_pos hlength]
    exact ⟨hqp, Counter.toNat_pred hmr, (Counter.toNat_sub_amount hmem).2⟩
  | cq => exact ⟨hqp, hmr, hmem⟩
  | pd => exact ⟨hqp, hmr, hmem⟩

/-- A creation moves the counters with the objects, as long as these fit. -/
theorem LocalExact.creates {w' : World} {req : CreateReq} {h : Handle} (hl : LocalExact p w)
    (hc : Creates w p req h w') (hfits : Fits p w') : LocalExact p w' := by
  obtain ⟨hqps, hmrs, hbytes⟩ := hfits
  unfold LocalExact
  rw [hc.ownedCount] at hqps hmrs ⊢
  rw [hc.ownedCount]
  rw [hc.ownedBytes] at hbytes ⊢
  rw [hc.sys.proc, Function.update_self]
  simp only [true_and] at hqps hmrs hbytes ⊢
  exact hl.addObj req hqps hmrs hbytes

/-- What the counters show, with an object of `p` set apart. -/
theorem LocalExact.apart {w' : World} {o : Obj} (hl : LocalExact p w)
    (h : w'.live = w.live.erase o) (ho : Owns w p o) :
    Shows (w.sys.proc p) (ownedCount w' p .qp + if o.kind = .qp then 1 else 0)
      (ownedCount w' p .mr + if o.kind = .mr then 1 else 0)
      (ownedBytes w' p + if o.kind = .mr then o.length.toNat else 0) := by
  unfold LocalExact at hl
  rw [ownedCount_of_erase h ho.1, ownedCount_of_erase h ho.1, ownedBytes_of_erase h ho.1] at hl
  simpa only [ho.2, true_and] using hl

theorem LocalExact.destroys {w' : World} {o : Obj} (hl : LocalExact p w)
    (hd : Destroys w p o w') (ho : Owns w p o) : LocalExact p w' := by
  unfold LocalExact
  rw [hd.sys.proc, Function.update_self]
  exact (hl.apart hd.live ho).removeObj

theorem LocalExact.guardsPass {e : Event} (hl : LocalExact p w) (he : LocalEvent p w e) :
    GuardsPass p w e := by
  cases e with
  | destroy q o driver =>
    rintro rfl
    have hlive : ({ w with live := w.live.erase o } : World).live = w.live.erase o := rfl
    exact (hl.apart hlive he).guards
  | create q req driver => trivial
  | store op => trivial
  | tick wall mono => trivial
  | start q env => trivial
  | exit q => trivial

/-! ## Runs -/

/-- What a run keeps: interception stays on in `p`, and its counters are exact. -/
structure LocalInv (p : Pid) (w : World) : Prop where
  enabled : rdmaInterceptIsEnabled (w.sys.proc p) = true
  counters : LocalExact p w

theorem LocalStart.inv (h : LocalStart p w) : LocalInv p w := by
  have hnone : ∀ k, ownedCount w p k = 0 := by
    intro k
    rw [ownedCount, List.countP_eq_zero]
    intro o ho
    rw [decide_eq_true_eq]
    exact fun hown => h.noObj o ho hown.1
  refine ⟨h.enabled, ?_, ?_, ?_⟩
  · rw [h.qpCount, hnone]
    rfl
  · rw [h.mrCount, hnone]
    rfl
  · rw [h.memoryUsed, ownedBytes, List.sum_eq_zero]
    · rfl
    · intro n hn
      obtain ⟨o, ho, rfl⟩ := List.mem_map.mp hn
      exact if_neg fun hown => h.noObj o ho hown.1

theorem LocalInv.elsewhere {w' : World} (h : LocalInv p w) (he : Elsewhere p w w') :
    LocalInv p w' :=
  ⟨by rw [he.proc]; exact h.enabled, h.counters.elsewhere he⟩

/-- Every event of the run keeps the invariant. -/
theorem LocalInv.step {e : Event} (h : LocalInv p w) (he : LocalEvent p w e)
    (hfits : Fits p (w.step e)) : LocalInv p (w.step e) := by
  cases e with
  | create q req driver =>
    rcases step_create_ledger h.enabled q req driver with helse | ⟨-, g, hc⟩
    · exact h.elsewhere helse
    · exact ⟨(hc.sameBindings.settings p).enabled h.enabled, h.counters.creates hc hfits⟩
  | destroy q o driver =>
    rcases step_destroy_ledger h.enabled he driver with helse | ⟨rfl, hd⟩
    · exact h.elsewhere helse
    · exact ⟨(hd.sameBindings.settings q).enabled h.enabled, h.counters.destroys hd he⟩
  | store op => exact h.elsewhere ⟨rfl, .refl _⟩
  | tick wall mono => exact h.elsewhere ⟨rfl, .refl _⟩
  | start q env => exact h.elsewhere ⟨initFunctionPointers_proc he.symm env, .refl _⟩
  | exit q =>
    refine h.elsewhere ⟨setProc_of_ne he.symm, ?_⟩
    change List.Perm (List.filter _ (List.filter _ _)) _
    rw [List.filter_filter]
    refine .of_eq (List.filter_congr fun o _ => ?_)
    by_cases hown : o.owner = p
    · simp [hown, he.symm]
    · simp [hown]

/-- **The ledger of a process is exact.**  In every run in which interception is on in `p`, the
counters of `p` show its live QPs, its live MRs and their bytes after every call, and no guard
skips a decrement, as long as these numbers fit the counters. -/
theorem local_ledger_exact (p : Pid) (w : World) (hstart : LocalStart p w) (es : List Event)
    (hrun : Along World.step (LocalEvent p) w es) (hfits : Always World.step (Fits p) w es) :
    Always World.step (LocalExact p) w es ∧ Along World.step (GuardsPass p) w es := by
  have hinv : Always World.step (LocalInv p) w es :=
    always_of_step (fun _ _ h he => h.step he.1 he.2.2) hstart.inv
      (along_and.mpr ⟨hrun, hfits.along⟩)
  refine ⟨hinv.mono fun _ h => h.counters, ?_⟩
  exact (along_and.mpr ⟨hrun, hinv.along⟩).mono fun _ _ h => h.2.1.counters.guardsPass h.1

/-- A registration and a QP, each made and destroyed. -/
def twoObjectsRun : List Event :=
  [.create 7 (.mr 0 0 4096 7) (some 5), .create 7 (.qp 0 ⟨.rc, 1, 1⟩) (some 16),
    .destroy 7 ⟨5, .mr, 7, 1, 4096⟩ 0, .destroy 7 ⟨16, .qp, 7, 1, 0⟩ 0]

theorem local_ledger_exact_twoObjects :
    Always World.step (LocalExact 7) (sampleWorld defaultQuota .default) twoObjectsRun ∧
      Along World.step (GuardsPass 7) (sampleWorld defaultQuota .default) twoObjectsRun := by
  refine local_ledger_exact 7 (sampleWorld defaultQuota .default)
    ⟨rfl, rfl, rfl, rfl, forall_live_of_nil rfl⟩ twoObjectsRun ⟨trivial, trivial, ?_, ?_, trivial⟩
    ⟨?_, ?_, ?_, ?_, ?_⟩
  · exact ⟨by decide +kernel, rfl⟩
  · exact ⟨by decide +kernel, rfl⟩
  all_goals exact ⟨by decide +kernel, by decide +kernel, by decide +kernel⟩

/-! ## A counter that wraps -/

/-- Process `p` creates QPs without a check and has registered nothing. -/
structure Unchecked (p : Pid) (w : World) : Prop where
  ready : Ready w.sys p .qp
  control : (w.sys.proc p).config.enableQpControl = false
  bytes : ownedBytes w p = 0

/-- The creations of QPs that the driver answers with the given handles. -/
def qpCreations (p : Pid) (handles : List Handle) : List Event :=
  handles.map fun h => .create p (.qp 0 ⟨.rc, 1, 1⟩) (some h)

theorem Unchecked.step (h : Unchecked p w) (handle : Handle) :
    Unchecked p (w.step (.create p (.qp 0 ⟨.rc, 1, 1⟩) (some handle))) ∧
      ownedCount (w.step (.create p (.qp 0 ⟨.rc, 1, 1⟩) (some handle))) p .qp =
        ownedCount w p .qp + 1 := by
  have hadm : Admitted w.sys p (.qp 0 ⟨.rc, 1, 1⟩) := fun hon =>
    absurd (h.control.symm.trans hon) Bool.false_ne_true
  rcases step_create_cases (.qp 0 ⟨.rc, 1, 1⟩) h.ready (some handle) with ⟨hno, -⟩ | ⟨g, -, -, hc⟩
  · exact absurd ⟨hadm, Option.some_ne_none handle⟩ hno
  · have hset := hc.sameBindings.settings p
    refine ⟨⟨h.ready.congr hset, by rw [hset.config, h.control], ?_⟩, ?_⟩
    · rw [hc.ownedBytes, h.bytes, if_neg (fun hmr => absurd hmr.2 (by decide))]
    · rw [hc.ownedCount, if_pos ⟨rfl, rfl⟩]

/-- The live QPs of a run of creations. -/
theorem Unchecked.exec (handles : List Handle) (h : Unchecked p w) :
    Always World.step (fun w => ownedBytes w p < 2 ^ 64) w (qpCreations p handles) ∧
      ownedCount (exec World.step w (qpCreations p handles)) p .qp =
        ownedCount w p .qp + handles.length := by
  have hbytes : ownedBytes w p < 2 ^ 64 := by
    rw [h.bytes]
    exact Nat.two_pow_pos 64
  induction handles generalizing w with
  | nil => exact ⟨hbytes, rfl⟩
  | cons handle handles ih =>
    obtain ⟨hnext, hcount⟩ := h.step handle
    have hrest := ih hnext (by rw [hnext.bytes]; exact Nat.two_pow_pos 64)
    refine ⟨⟨hbytes, hrest.1⟩, hrest.2.trans ?_⟩
    rw [hcount, List.length_cons]
    omega

theorem localEvent_qpCreations (handles : List Handle) :
    Along World.step (LocalEvent p) w (qpCreations p handles) := by
  induction handles generalizing w with
  | nil => trivial
  | cons handle handles ih => exact ⟨trivial, ih⟩

/-- So many QPs do not fit the counter. -/
theorem Unchecked.not_exact (h : Unchecked p w) {handles : List Handle}
    (hmany : 2 ^ 32 ≤ handles.length) :
    ¬ LocalExact p (Library.exec World.step w (qpCreations p handles)) := by
  intro hexact
  have hshown := hexact.qpCount
  rw [(h.exec handles).2] at hshown
  have hlt := UInt32.toNat_lt
    ((Library.exec World.step w (qpCreations p handles)).sys.proc p).qpCount
  omega

/-- As many handles as the counter has values. -/
def tooManyHandles : List Handle := (List.range (2 ^ 32)).map UInt64.ofNat

theorem length_tooManyHandles : tooManyHandles.length = 2 ^ 32 := by
  rw [tooManyHandles, List.length_map, List.length_range]

/-- The bytes alone do not bound the counters: after `2 ^ 32` creations the count of QPs is back
at zero. -/
theorem qp_count_wraps :
    ¬ ∀ (p : Pid) (w : World), LocalStart p w → ∀ es : List Event,
      Along World.step (LocalEvent p) w es →
      Always World.step (fun w => ownedBytes w p < 2 ^ 64) w es →
      Always World.step (LocalExact p) w es ∧ Along World.step (GuardsPass p) w es := by
  intro hclaim
  have hunchecked : Unchecked 7 (sampleWorld defaultQuota .default) :=
    ⟨sampleWorld_ready _ _ 7 .qp rfl, rfl, rfl⟩
  have hstart : LocalStart 7 (sampleWorld defaultQuota .default) :=
    ⟨rfl, rfl, rfl, rfl, forall_live_of_nil rfl⟩
  -- the list is too long to be looked at: only its length matters
  have hmany := length_tooManyHandles.ge
  generalize tooManyHandles = handles at hmany
  have hexact := (hclaim 7 _ hstart _ (localEvent_qpCreations handles)
    (hunchecked.exec handles).1).1
  exact hunchecked.not_exact hmany hexact.last

end RdmaIntercept.Analysis
