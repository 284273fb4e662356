import RdmaIntercept.Analysis.InterleavingSpec

/-!
# Serial runs as interleavings

The hooks are modelled twice, as complete calls and as the steps of a call.  Here the two
are shown to agree: the steps of a call that nobody interrupts leave the system and the
objects as the complete call does, and so every serial run is one of the interleavings.
-/

set_option autoImplicit false

namespace RdmaIntercept.Analysis

open RdmaIntercept.Library RdmaIntercept.Model

/-! ## The steps of one call -/

section Alone

variable {w : CWorld} {s : System} {p : Pid}

/-- The rest of a call that has ended. -/
theorem exec_idle {es : List CEvent} (h : w.phase p = .idle)
    (hes : ∀ e ∈ es, e = .next p ∨ ∃ driver, e = .created p driver) :
    exec CWorld.step w es = w := by
  induction es with
  | nil => rfl
  | cons e es ih =>
    have hstep : w.step e = w := by
      rcases hes e List.mem_cons_self with rfl | ⟨driver, rfl⟩
      · exact next_idle h
      · simp only [CWorld.step, h]
    rw [exec_cons, hstep]
    exact ih (fun e' he' => hes e' (List.mem_cons_of_mem e he'))

/-- The two steps of `update_tenant_resource_count`. -/
theorem next_next_read {c : Change} {t : UInt32} (h : w.phase p = .read c t) :
    (w.next p).next p =
      w.move (updateTenantResourceCount w.sys p t c.obj.kind c.delta) p .idle := by
  have hnext : w.next p = w.readUsage p c t := by simp only [CWorld.next, h]
  rw [hnext, CWorld.readUsage, updateTenantResourceCount]
  by_cases h0 : t = 0 ∨ !(w.sys.proc p).tenantInitialized
  · rw [if_pos h0, if_pos h0, next_idle (move_phase _ _ _ _)]
  · rw [if_neg h0, if_neg h0]
    generalize tenantGetResourceUsage w.sys.tenantShm t w.sys.wallClock = r
    obtain ⟨o, shm⟩ := r
    cases o with
    | none => rw [next_idle (move_phase _ _ _ _)]
    | some usage =>
      simp only [CWorld.next, move_phase, move_sys, move_move]

/-- The three steps after a success that is charged to the tenant of the process. -/
theorem next_next_charge {c : Change} (h : w.phase p = .charge c) :
    ((w.next p).next p).next p =
      w.move (updateTenantResourceCount (getCurrentTenantId w.sys p).2 p
        (currentTenant w.sys p) c.obj.kind c.delta) p .idle := by
  rw [next_charge h, next_next_read (move_phase _ _ _ _), move_sys, move_move]

/-- The checks of a QP creation, one after the other. -/
theorem exec_check_qp {pd : Handle} {attr : QpInitAttr} (hr : Ready w.sys p .qp)
    (h : w.phase p = .idle) :
    exec CWorld.step w [.create p (.qp pd attr), .next p, .next p, .next p, .next p] =
      w.move (checkQpCreationRestrictions w.sys p attr).2 p
        (if (checkQpCreationRestrictions w.sys p attr).1 then .create (.qp pd attr) none
          else .idle) := by
  have hstart : w.step (.create p (.qp pd attr)) =
      w.move w.sys p (startCreate (w.sys.proc p) (.qp pd attr)) := by
    simp only [CWorld.step, h]
  have hrest : ∀ e ∈ [CEvent.next p, .next p, .next p], e = .next p ∨ ∃ d, e = .created p d := by
    simp
  rw [exec_cons, hstart]
  unfold startCreate checkQpCreationRestrictions
  simp only [hr.enabled, CreateReq.kind, hr.realCreate, Bool.not_true, Bool.or_self,
    Bool.false_eq_true, if_false]
  cases hcontrol : (w.sys.proc p).config.enableQpControl with
  | false =>
    simp [next_create (move_phase _ _ _ _), CWorld.step]
  | true =>
    cases htype : qpTypeAllowed (w.sys.proc p).config attr.qpType with
    | false => simp [next_idle (move_phase _ _ _ _), CWorld.step]
    | true =>
      have htenant : (getCurrentTenantId w.sys p).1 = currentTenant w.sys p := rfl
      simp only [Bool.not_true, Bool.false_eq_true, if_false, exec_cons, exec_nil, CWorld.step,
        next_lookup (move_phase _ _ _ _), next_quota (move_phase _ _ _ _), move_sys, move_move,
        checkQuota, htenant]
      by_cases hok : (checkTenantQpLimit (getCurrentTenantId w.sys p).2 p
          (currentTenant w.sys p)).1 = true
      · simp only [hok, if_true, afterQuota, next_processLimit (move_phase _ _ _ _), move_sys,
          move_move, Bool.not_true, Bool.false_eq_true, if_false]
        by_cases hprocess : processLimitOk (checkTenantQpLimit (getCurrentTenantId w.sys p).2 p
            (currentTenant w.sys p)).2 p = true
        · simp only [hprocess, if_true, next_globalLimit (move_phase _ _ _ _), move_sys,
            move_move, Bool.not_true, Bool.false_eq_true, if_false]
          by_cases hglobal : globalLimitOk (checkTenantQpLimit (getCurrentTenantId w.sys p).2 p
              (currentTenant w.sys p)).2 p = true
          · simp [hglobal]
          · simp [hglobal]
        · simp [hprocess, next_idle (move_phase _ _ _ _)]
      · simp [hok, next_idle (move_phase _ _ _ _)]

/-- The check of a registration. -/
theorem exec_check_mr {pd addr : Handle} {length : UInt64} {access : Int32}
    (hr : Ready w.sys p .mr) (h : w.phase p = .idle) :
    exec CWorld.step w
        [.create p (.mr pd addr length access), .next p, .next p, .next p, .next p] =
      w.move (checkTenantMrLimitInline (getCurrentTenantId w.sys p).2 p
          (currentTenant w.sys p) length).2 p
        (if (checkTenantMrLimitInline (getCurrentTenantId w.sys p).2 p
            (currentTenant w.sys p) length).1
          then .create (.mr pd addr length access) (some (currentTenant w.sys p)) else .idle) := by
  have hstart : w.step (.create p (.mr pd addr length access)) =
      w.move w.sys p (startCreate (w.sys.proc p) (.mr pd addr length access)) := by
    simp only [CWorld.step, h]
  rw [exec_cons, hstart]
  unfold startCreate
  simp only [hr.enabled, CreateReq.kind, hr.realCreate, Bool.not_true, Bool.or_self,
    Bool.false_eq_true, if_false, exec_cons, exec_nil, CWorld.step,
    next_lookup (move_phase _ _ _ _), next_quota (move_phase _ _ _ _), move_sys, move_move,
    checkQuota]
  by_cases hok : (checkTenantMrLimitInline (getCurrentTenantId w.sys p).2 p
      (currentTenant w.sys p) length).1 = true
  · simp [hok, afterQuota, next_create (move_phase _ _ _ _)]
  · simp [hok, next_idle (move_phase _ _ _ _)]

/-- A creation of a kind that has no check. -/
theorem exec_check_none (req : CreateReq) (hr : Ready w.sys p req.kind)
    (hcount : req.kind = .cq ∨ req.kind = .pd) (h : w.phase p = .idle) :
    exec CWorld.step w [.create p req, .next p, .next p, .next p, .next p] =
      w.move w.sys p (if true then .create req none else .idle) := by
  have hstart : startCreate (w.sys.proc p) req = .create req none := by
    unfold startCreate
    cases req with
    | cq context cqe cqContext channel compVector =>
      simp only [hr.enabled, hr.realCreate, Bool.not_true, Bool.or_self, Bool.false_eq_true,
        if_false]
    | pd context =>
      simp only [hr.enabled, hr.realCreate, Bool.not_true, Bool.or_self, Bool.false_eq_true,
        if_false]
    | qp pd attr => rcases hcount with hk | hk <;> cases hk
    | mr pd addr length access => rcases hcount with hk | hk <;> cases hk
  have hstep : w.step (.create p req) = w.move w.sys p (.create req none) := by
    simp only [CWorld.step, h, hstart]
  have hnext : ∀ v : CWorld, v.step (.next p) = v.next p := fun _ => rfl
  rw [exec_cons, hstep]
  simp only [exec_cons, exec_nil, hnext, next_create (move_phase _ _ _ _), if_true]

/-- What a creating hook does to the segments after a success. -/
def bookCreated (s : System) (p : Pid) (req : CreateReq) (checked : Option UInt32) : System :=
  match checked, req with
  | some t, _ => updateTenantResourceCount s p t req.kind 1
  | none, .qp .. =>
    let s := publishProcessResources s p
    updateTenantResourceCount (getCurrentTenantId s p).2 p (currentTenant s p) req.kind 1
  | none, _ =>
    updateTenantResourceCount (getCurrentTenantId s p).2 p (currentTenant s p) req.kind 1

/-- The steps after a creation that has been granted. -/
theorem exec_granted {req : CreateReq} {checked : Option UInt32} {o : Obj}
    (hkind : o.kind = req.kind) (h : w.phase p = afterCreated req checked ⟨o, true⟩) :
    exec CWorld.step w [.next p, .next p, .next p, .next p] =
      w.move (bookCreated w.sys p req checked) p .idle := by
  have hstep : ∀ v : CWorld, v.step (.next p) = v.next p := fun _ => rfl
  have hdelta : Change.delta ⟨o, true⟩ = 1 := rfl
  simp only [exec_cons, exec_nil, hstep]
  cases checked with
  | some t =>
    rw [next_next_read h, next_idle (move_phase _ _ _ _), next_idle (move_phase _ _ _ _), hdelta,
      hkind]
    rfl
  | none =>
    cases req with
    | qp pd attr =>
      rw [next_publish h, next_next_charge (move_phase _ _ _ _), move_sys, move_move, hdelta, hkind]
      rfl
    | mr pd addr length access =>
      rw [next_next_charge h, next_idle (move_phase _ _ _ _), hdelta, hkind]
      rfl
    | cq context cqe cqContext channel compVector =>
      rw [next_next_charge h, next_idle (move_phase _ _ _ _), hdelta, hkind]
      rfl
    | pd context =>
      rw [next_next_charge h, next_idle (move_phase _ _ _ _), hdelta, hkind]
      rfl

theorem quiescent_move {v : CWorld} (hw : w.Quiescent)
    (hv : ∀ q, q ≠ p → v.phase q = w.phase q) : (v.move s p .idle).Quiescent := by
  intro q
  by_cases hq : q = p
  · rw [hq, move_phase]
  · rw [move_phase_of_ne hq, hv q hq, hw q]

end Alone

/-! ## Whole calls and whole runs -/

/-- The serial world `w` and the world `c`, in which no call is in progress, are the same. -/
structure Agrees (w : World) (c : CWorld) : Prop where
  sys : c.sys = w.sys
  live : c.live = w.live
  idle : c.Quiescent

section Agrees

variable {w : World} {c : CWorld} {p : Pid}

/-- The steps of a creating call from the driver on. -/
theorem exec_created {v : CWorld} {req : CreateReq} {checked : Option UInt32}
    (h : v.phase p = .create req checked) (g : Handle) :
    exec CWorld.step v [.created p (some g), .next p, .next p, .next p, .next p] =
      (v.grant p req checked (newObj v.sys p req g)).move
        (bookCreated (v.sys.setProc p ((v.sys.proc p).addObj req)) p req checked) p .idle := by
  have hstep : v.step (.created p (some g)) = v.grant p req checked (newObj v.sys p req g) := by
    simp only [CWorld.step, h]
  have hphase : (v.grant p req checked (newObj v.sys p req g)).phase p =
      afterCreated req checked ⟨newObj v.sys p req g, true⟩ := Function.update_self _ _ _
  have hkind : (newObj v.sys p req g).kind = req.kind := rfl
  rw [exec_cons, hstep, exec_granted hkind hphase]
  rfl

/-- A creating call whose check ends in `(ok, s)`, run alone. -/
theorem Agrees.of_check (h : Agrees w c) {req : CreateReq} {checked : Option UInt32} {ok : Bool}
    {s : System} (driver : Option Handle)
    (hcheck : exec CWorld.step c [.create p req, .next p, .next p, .next p, .next p] =
      c.move s p (if ok then .create req checked else .idle))
    (htenant : currentTenant s p = currentTenant w.sys p)
    (hhook : ibvCreate w.sys p req driver =
      if !ok then (⟨none, some .eperm, []⟩, s)
      else
        match driver with
        | none => (⟨none, none, [.create req]⟩, s)
        | some g => (⟨some g, none, [.create req]⟩,
            bookCreated (s.setProc p ((s.proc p).addObj req)) p req checked)) :
    Agrees (w.step (.create p req driver)) (exec CWorld.step c (createSteps p req driver)) := by
  have hsplit : createSteps p req driver =
      [.create p req, .next p, .next p, .next p, .next p] ++
        [.created p driver, .next p, .next p, .next p, .next p] := rfl
  have hrest : ∀ e ∈ [CEvent.created p driver, .next p, .next p, .next p, .next p],
      e = .next p ∨ ∃ driver, e = .created p driver := by
    simp
  rw [hsplit, exec_append, hcheck]
  simp only [World.step, hhook]
  cases ok with
  | false =>
    simp only [Bool.false_eq_true, if_false, Bool.not_false, if_true]
    rw [exec_idle (move_phase _ _ _ _) hrest]
    cases driver with
    | none => exact ⟨rfl, h.live, quiescent_move h.idle (fun _ _ => rfl)⟩
    | some g => exact ⟨rfl, h.live, quiescent_move h.idle (fun _ _ => rfl)⟩
  | true =>
    simp only [if_true, Bool.not_true, Bool.false_eq_true, if_false]
    cases driver with
    | none =>
      have hstep : (c.move s p (.create req checked)).step (.created p none) = c.move s p .idle := by
        simp only [CWorld.step, move_phase, move_sys, move_move]
      rw [exec_cons, hstep,
        exec_idle (move_phase _ _ _ _) (fun e he => hrest e (List.mem_cons_of_mem _ he))]
      exact ⟨rfl, h.live, quiescent_move h.idle (fun _ _ => rfl)⟩
    | some g =>
      rw [exec_created (move_phase _ _ _ _)]
      refine ⟨rfl, ?_, ?_⟩
      · have hobj : newObj s p req g = newObj w.sys p req g := by
          unfold newObj
          rw [htenant]
        show newObj s p req g :: c.live = newObj w.sys p req g :: w.live
        rw [hobj, h.live]
      · apply quiescent_move h.idle
        intro q hq
        exact (grant_phase_of_ne hq).trans (move_phase_of_ne hq)

/-- A creating call that is not interleaved is the call of the serial run. -/
theorem Agrees.create (h : Agrees w c) {req : CreateReq} (hr : Ready w.sys p req.kind)
    (driver : Option Handle) :
    Agrees (w.step (.create p req driver)) (exec CWorld.step c (createSteps p req driver)) := by
  have hr' : Ready c.sys p req.kind := by rw [h.sys]; exact hr
  have hidle := h.idle p
  cases req with
  | qp pd attr =>
    apply h.of_check driver (exec_check_qp hr' hidle)
    · rw [(checkQpCreationRestrictions_untouched c.sys p attr).currentTenant, h.sys]
    · rw [h.sys, ibvCreate, ibvCreateQp, interceptCreate_ready hr]
      generalize checkQpCreationRestrictions w.sys p attr = r
      obtain ⟨ok, s⟩ := r
      cases driver <;> rfl
  | mr pd addr length access =>
    apply h.of_check driver (exec_check_mr hr' hidle)
    · rw [((getCurrentTenantId_untouched c.sys p).trans
        (checkTenantMrLimitInline_untouched _ p _ length)).currentTenant, h.sys]
    · have htenant : (getCurrentTenantId w.sys p).1 = currentTenant w.sys p := rfl
      rw [h.sys, ibvCreate, ibvRegMr, interceptCreate_ready hr]
      simp only [htenant]
      generalize checkTenantMrLimitInline (getCurrentTenantId w.sys p).2 p
        (currentTenant w.sys p) length = r
      obtain ⟨ok, s⟩ := r
      cases driver <;> rfl
  | cq context cqe cqContext channel compVector =>
    have hcheck := exec_check_none (.cq context cqe cqContext channel compVector) hr'
      (Or.inl rfl) hidle
    apply h.of_check driver hcheck (by rw [h.sys])
    rw [h.sys]
    rw [ibvCreate, ibvCreateCq, countCreate.eq_def, interceptCreate_ready hr]
    simp only [ProcState.addObj, setProc_proc]
    cases driver <;> rfl
  | pd context =>
    have hcheck := exec_check_none (.pd context) hr' (Or.inr rfl) hidle
    apply h.of_check driver hcheck (by rw [h.sys])
    rw [h.sys]
    rw [ibvCreate, ibvAllocPd, countCreate.eq_def, interceptCreate_ready hr]
    simp only [ProcState.addObj, setProc_proc]
    cases driver <;> rfl

/-- What a destroying hook does after its start, on a process whose calls are intercepted. -/
theorem ibvDestroy_eq {s : System} {o : Obj} (hr : Ready s p o.kind) (driver : Int32) :
    ibvDestroy s p o.destroyReq driver =
      if driver = 0 then
        let s := s.setProc p ((s.proc p).removeObj o.destroyReq)
        (⟨driver, none, [.destroy o.destroyReq]⟩,
          updateTenantResourceCount (getCurrentTenantId s p).2 p (currentTenant s p) o.kind (-1))
      else (⟨driver, none, [.destroy o.destroyReq]⟩, s) := by
  rw [← kind_destroyReq o] at hr
  have hkind := kind_destroyReq o
  generalize o.destroyReq = req at hr hkind ⊢
  rw [← hkind]
  cases req with
  | qp qp =>
    rw [ibvDestroy, ibvDestroyQp, interceptDestroy_ready hr]
    rfl
  | mr mr =>
    rw [ibvDestroy, ibvDeregMr, interceptDestroy_ready hr]
    rfl
  | cq cq =>
    rw [ibvDestroy, ibvDestroyCq, countDestroy, interceptDestroy_ready hr]
    simp only [ProcState.removeObj, setProc_proc]
    rfl
  | pd pd =>
    rw [ibvDestroy, ibvDeallocPd, countDestroy, interceptDestroy_ready hr]
    simp only [ProcState.removeObj, setProc_proc]
    rfl

/-- A destroying call that is not interleaved is the call of the serial run. -/
theorem Agrees.destroy (h : Agrees w c) {o : Obj} (hr : Ready w.sys p o.kind) (driver : Int32) :
    Agrees (w.step (.destroy p o driver)) (exec CWorld.step c (destroySteps p o driver)) := by
  have hidle := h.idle p
  have hnext : ∀ v : CWorld, v.step (.next p) = v.next p := fun _ => rfl
  have hstart : c.step (.destroy p o) = c.move c.sys p (.destroy o) := by
    simp only [CWorld.step, hidle, startDestroy, h.sys, hr.enabled, hr.realDestroy, Bool.not_true,
      Bool.or_self, Bool.false_eq_true, if_false]
  simp only [destroySteps, exec_cons, exec_nil, hstart, hnext, World.step, ibvDestroy_eq hr]
  by_cases hd : driver = 0
  · have hstep : (c.move c.sys p (.destroy o)).step (.destroyed p driver) =
        (c.move c.sys p (.destroy o)).release p o := by
      simp only [CWorld.step, move_phase, if_pos hd]
    have hphase : ((c.move c.sys p (.destroy o)).release p o).phase p = .charge ⟨o, false⟩ :=
      Function.update_self _ _ _
    have hsys : ((c.move c.sys p (.destroy o)).release p o).sys =
        w.sys.setProc p ((w.sys.proc p).removeObj o.destroyReq) := by
      rw [← h.sys]
      rfl
    rw [hstep, next_next_charge hphase]
    refine ⟨?_, ?_, ?_⟩
    · rw [move_sys, hsys]
      simp only [if_pos hd]
      rfl
    · show c.live.erase o = _
      rw [h.live]
      simp [hd]
    · apply quiescent_move h.idle
      intro q hq
      exact (release_phase_of_ne hq).trans (move_phase_of_ne hq)
  · have hstep : (c.move c.sys p (.destroy o)).step (.destroyed p driver) =
        c.move c.sys p .idle := by
      simp only [CWorld.step, move_phase, move_sys, move_move, if_neg hd]
    rw [hstep, next_idle (move_phase _ _ _ _), next_idle (move_phase _ _ _ _),
      next_idle (move_phase _ _ _ _)]
    refine ⟨?_, ?_, quiescent_move h.idle (fun _ _ => rfl)⟩
    · simp [hd, h.sys]
    · simp [hd, h.live]

end Agrees

/-- The events of a serial run of hook calls. -/
def HookCall (w : World) : Event → Prop
  | .create p req _ => Ready w.sys p req.kind
  | .destroy p o _ => Ready w.sys p o.kind
  | .tick _ _ => True
  | _ => False

/-- Every serial run of hook calls is an interleaving, the one without overlaps. -/
theorem Agrees.exec {w : World} {c : CWorld} (h : Agrees w c) {es : List Event}
    (hrun : Along World.step HookCall w es) :
    Agrees (exec World.step w es) (exec CWorld.step c (es.flatMap Event.steps)) := by
  induction es generalizing w c with
  | nil => exact h
  | cons e es ih =>
    rw [List.flatMap_cons, exec_append, exec_cons]
    refine ih ?_ hrun.2
    have he := hrun.1
    cases e with
    | create p req driver => exact h.create he driver
    | destroy p o driver => exact h.destroy he driver
    | tick wall mono =>
      refine ⟨?_, h.live, h.idle⟩
      simp only [Event.steps, exec_cons, exec_nil, CWorld.step, World.step, h.sys]
    | store op => exact he.elim
    | start p env => exact he.elim
    | exit p => exact he.elim

end RdmaIntercept.Analysis
