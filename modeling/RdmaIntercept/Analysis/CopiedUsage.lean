import RdmaIntercept.Analysis.SegmentCollector
import RdmaIntercept.Analysis.GlobalLimit
import RdmaIntercept.Library.StaleLimit
import RdmaIntercept.Model.CollectedRuns

/-!
# The global limit beside the collector

The global check compares the limit with what the collector has copied last, and no hook
changes the copy.  Between two copies the check therefore refuses all creations or none: the
live QPs exceed the limit by as many as are created in such a window, less one, and no run
exceeds it further (`staysWithin_iff`).  The limit itself is kept exactly if there is a copy
before every creation.
-/

set_option autoImplicit false

namespace RdmaIntercept.Analysis

open RdmaIntercept.Library RdmaIntercept.Model

/-! ## Windows -/

/-- The world, and the number of QPs created since the global usage was last written. -/
def windowStep (c : World × ℕ) (e : CollectedEvent) : World × ℕ :=
  (c.1.collectedStep e,
    if e.copied.isSome then 0 else c.2 + (totalQps (c.1.collectedStep e) - totalQps c.1))

/-- The events of a run beside the collector: a process that creates QPs is intercepted, under
the global limit `g`, and attached; the segment is not cleared; what is copied is not less than
the number of live QPs. -/
def CollectedAllowed (g : UInt32) (c : World × ℕ) : CollectedEvent → Prop
  | .event (.create p (.qp _ _) _) =>
    Ready c.1.sys p .qp ∧ (c.1.sys.proc p).config.enableQpControl = true ∧
      (c.1.sys.proc p).shmAttached = true ∧ (c.1.sys.proc p).config.maxGlobalQp = g
  | .event (.start _ env) =>
    (env.ebpfMonitorInit c.1.sys.shm).1.globalStats = c.1.sys.shm.globalStats
  | .event _ => True
  | .collect step => ∀ usage, step.globalWritten = some usage →
    totalQps c.1 ≤ usage.qpCount.toUInt32.toNat

/-- The copied number of QPs. -/
def copiedQps (w : World) : ℕ := w.sys.shm.globalStats.qpCount.toUInt32.toNat

/-- In every such run with at most `window` creations between two copies there are never more
than `n` live QPs. -/
def StaysWithin (g : UInt32) (window n : ℕ) : Prop :=
  ∀ w : World, w.live = [] → ∀ es,
    Along windowStep (fun c e => CollectedAllowed g c e ∧ (windowStep c e).2 ≤ window) (w, 0) es →
    Always windowStep (fun c => totalQps c.1 ≤ n) (w, 0) es

/-! ## One event -/

/-- An event that creates no QP and leaves the copy. -/
structure Idle (w w' : World) : Prop where
  total : totalQps w' ≤ totalQps w
  copied : copiedQps w' = copiedQps w

theorem totalQps_erase_le (objs : List Obj) (o : Obj) :
    ((objs.erase o).countP fun o => o.kind = .qp) ≤ objs.countP fun o => o.kind = .qp :=
  (List.erase_sublist).countP_le

theorem Quiet.idle {w w' : World} (h : Quiet w w') : Idle w w' := by
  refine ⟨?_, ?_⟩
  · unfold totalQps
    rw [h.live]
  · unfold copiedQps
    rw [h.sys.shm]

theorem Destroys.idle {w w' : World} {p : Pid} {o : Obj} (h : Destroys w p o w') : Idle w w' := by
  refine ⟨?_, ?_⟩
  · unfold totalQps
    rw [h.live]
    exact totalQps_erase_le _ _
  · unfold copiedQps
    rw [h.sys.shm]

/-- A creation leaves the copy, whatever it creates. -/
theorem Creates.copiedQps {w w' : World} {p : Pid} {req : CreateReq} {h : Handle}
    (hc : Creates w p req h w') : copiedQps w' = copiedQps w := by
  unfold Analysis.copiedQps
  rw [hc.sys.shm]
  cases req with
  | qp pd attr =>
    simp only [shmAfterCreate]
    unfold publishProcessResources
    split
    · rw [(update_others _ _ _ _).1]
      rfl
    · rfl
  | mr pd addr length access => rfl
  | cq context cqe cqContext channel compVector => rfl
  | pd context => rfl

/-- A creation of another kind creates no QP. -/
theorem idle_create_other {w : World} {p : Pid} {req : CreateReq} (hkind : req.kind ≠ .qp)
    (driver : Option Handle) : Idle w (w.step (.create p req driver)) := by
  have hnew : ∀ h, (newObj w.sys p req h :: w.live).countP (fun o => o.kind = .qp) =
      totalQps w := by
    intro h
    have hno : ¬ decide ((newObj w.sys p req h).kind = .qp) = true :=
      fun hqp => hkind (of_decide_eq_true hqp)
    exact List.countP_cons_of_neg hno
  rcases interceptCreate_cases w.sys p req driver with hhook | ⟨out, hout, -⟩
  · rcases step_create_outcome hhook with ⟨-, hq⟩ | ⟨h, -, -, hc⟩
    · exact hq.idle
    · refine ⟨?_, hc.copiedQps⟩
      unfold totalQps
      rw [hc.live]
      exact (hnew h).le
  · rw [World.step, ibvCreate_of_intercept hout]
    cases driver with
    | none => exact ⟨le_rfl, rfl⟩
    | some h =>
      refine ⟨?_, rfl⟩
      change List.countP _ (if out.driverCalls = [] then _ else _) ≤ _
      split
      · exact le_rfl
      · exact (hnew h).le

theorem idle_destroy (w : World) (p : Pid) (o : Obj) (driver : Int32) :
    Idle w (w.step (.destroy p o driver)) := by
  rcases interceptDestroy_cases w.sys p o.destroyReq driver with hhook | ⟨out, hout, -⟩
  · rcases step_destroy_outcome hhook with ⟨-, hq⟩ | ⟨-, hd⟩
    · exact hq.idle
    · exact hd.idle
  · rw [World.step, ibvDestroy_of_intercept hout]
    refine ⟨?_, rfl⟩
    change List.countP _ (if out.driverCalls ≠ [] ∧ driver = 0 then _ else _) ≤ _
    split
    · exact totalQps_erase_le _ _
    · exact le_rfl

theorem idle_start {w : World} {p : Pid} {env : StartEnv}
    (h : (env.ebpfMonitorInit w.sys.shm).1.globalStats = w.sys.shm.globalStats) :
    Idle w (w.step (.start p env)) := by
  refine ⟨le_rfl, ?_⟩
  have hshm : (initFunctionPointers w.sys p env).shm.globalStats = w.sys.shm.globalStats := by
    unfold initFunctionPointers
    simp only
    split
    · rfl
    · split
      · split <;> exact h
      · split
        · split <;> exact h
        · split <;> exact h
  exact congrArg (fun usage => usage.qpCount.toUInt32.toNat) hshm

theorem idle_exit (w : World) (p : Pid) : Idle w (w.step (.exit p)) :=
  ⟨(List.filter_sublist).countP_le, rfl⟩

/-- An allowed event creates one QP, under the limit, or none. -/
theorem event_cases {g : UInt32} {c : World × ℕ} {e : Event}
    (h : CollectedAllowed g c (.event e)) :
    Idle c.1 (c.1.step e) ∨
      (copiedQps c.1 < g.toNat ∧ totalQps (c.1.step e) = totalQps c.1 + 1 ∧
        copiedQps (c.1.step e) = copiedQps c.1) := by
  cases e with
  | create p req driver =>
    by_cases hkind : req.kind = .qp
    · cases req with
      | qp pd attr =>
        obtain ⟨hready, hcontrol, hatt, hg⟩ := h
        rcases step_create_cases (.qp pd attr) hready driver with ⟨-, hq⟩ | ⟨a, -, hadm, hc⟩
        · exact Or.inl hq.idle
        · right
          have hglobal := (globalLimitOk_iff hatt).mp (hadm hcontrol).2.2.2
          rw [hg, UInt32.lt_iff_toNat_lt] at hglobal
          exact ⟨hglobal, hc.totalQps, hc.copiedQps⟩
      | mr pd addr length access => exact absurd hkind nofun
      | cq context cqe cqContext channel compVector => exact absurd hkind nofun
      | pd context => exact absurd hkind nofun
    · exact Or.inl (idle_create_other hkind driver)
  | destroy p o driver => exact Or.inl (idle_destroy c.1 p o driver)
  | store op => exact Or.inl ⟨le_rfl, rfl⟩
  | tick wall mono => exact Or.inl ⟨le_rfl, rfl⟩
  | start p env => exact Or.inl (idle_start h)
  | exit p => exact Or.inl (idle_exit c.1 p)

/-- A step of the collector creates nothing and changes the copy only by copying. -/
theorem copiedQps_collect (w : World) (step : CollectorStep) :
    copiedQps (w.collect step) =
      match step.globalWritten with
      | some usage => usage.qpCount.toUInt32.toNat
      | none => copiedQps w := by
  unfold copiedQps World.collect
  simp only [globalStats_collectorStep]
  cases step.globalWritten <;> rfl

/-! ## The bound -/

/-- The live QPs, the copy of them and the creations since. -/
def checkedTotal (c : World × ℕ) : StaleLimit.State := ⟨totalQps c.1, copiedQps c.1, c.2⟩

/-- Creations are checked against the copy. -/
theorem step_checkedTotal {g : UInt32} {c : World × ℕ} {e : CollectedEvent}
    (hallowed : CollectedAllowed g c e) :
    StaleLimit.Step g.toNat (checkedTotal c) (checkedTotal (windowStep c e)) := by
  cases e with
  | event e =>
    have hsince : (windowStep c (.event e)).2 = c.2 + (totalQps (c.1.step e) - totalQps c.1) := rfl
    rcases event_cases hallowed with hidle | ⟨hunder, htotal, hcopied⟩
    · have hless := hidle.total
      exact .idle hless hidle.copied (hsince.trans (by dsimp only [checkedTotal]; omega))
    · exact .grant hunder htotal hcopied (hsince.trans (by dsimp only [checkedTotal]; omega))
  | collect step =>
    have hcopied : copiedQps (windowStep c (.collect step)).1 = _ := copiedQps_collect c.1 step
    have hsince : (windowStep c (.collect step)).2 =
        if step.globalWritten.isSome then 0 else c.2 + (totalQps c.1 - totalQps c.1) := rfl
    cases hwritten : step.globalWritten with
    | none =>
      rw [hwritten] at hcopied hsince
      exact .idle le_rfl hcopied (hsince.trans (by simp [checkedTotal]))
    | some usage =>
      rw [hwritten] at hcopied hsince
      exact .copy le_rfl ((hallowed usage hwritten).trans_eq hcopied.symm) hsince

theorem staysWithin_peak (g : UInt32) (window : ℕ) :
    StaysWithin g window (StaleLimit.peak g.toNat window) := by
  intro w hlive es hrun
  have hzero : totalQps w = 0 := by
    unfold totalQps
    rw [hlive]
    rfl
  have hstart : StaleLimit.Inv g.toNat window (checkedTotal (w, 0)) := by
    rw [checkedTotal, hzero]
    exact StaleLimit.inv_zero _ _ _ _
  exact StaleLimit.always_le_peak (I := fun _ => True) checkedTotal (fun _ _ _ _ => trivial)
    (fun c e _ => step_checkedTotal) trivial hstart hrun

/-- With a copy before every creation the limit is kept. -/
theorem staysWithin_limit_of_fresh (g : UInt32) : StaysWithin g 1 g.toNat := by
  intro w hlive es hrun
  exact (staysWithin_peak g 1 w hlive es hrun).mono fun c h => h.trans (StaleLimit.peak_one_le _)

/-! ## The bound is reached -/

/-- A world of the run that reaches the bound. -/
structure Filled (g : UInt32) (total copied since : ℕ) (c : World × ℕ) : Prop where
  bindings : SameBindings (openWorld (fun _ => 4294967295) g).sys c.1.sys
  total : totalQps c.1 = total
  copied : copiedQps c.1 = copied
  since : c.2 = since

variable {g : UInt32} {total copied since window : ℕ} {c : World × ℕ}

/-- As long as the copy is below the limit a creation is granted. -/
theorem Filled.creates (h : Filled g total copied since c) (hunder : copied < g.toNat) :
    CollectedAllowed g c (.event (fillEvent 7)) ∧
      Filled g (total + 1) copied (since + 1) (windowStep c (.event (fillEvent 7))) := by
  have hset := h.bindings.settings 7
  have hready : Ready c.1.sys 7 .qp := h.bindings.ready ⟨rfl, rfl, rfl⟩
  have hcontrol : (c.1.sys.proc 7).config.enableQpControl = true := by
    rw [hset.config]
    rfl
  have hatt : (c.1.sys.proc 7).shmAttached = true := hset.shmAttached
  have hmax : (c.1.sys.proc 7).config.maxGlobalQp = g := by
    rw [hset.config]
    rfl
  have hadm : Admitted c.1.sys 7 (.qp 0 ⟨.other, 0, 0⟩) := by
    intro _
    refine ⟨rfl, Or.inl ?_, ?_, ?_⟩
    · rw [h.bindings.currentTenant]
      exact openWorld_currentTenant _ g (by decide)
    · have hlimit : (c.1.sys.proc 7).config.maxQpPerProcess = 4294967295 := by
        rw [hset.config]
        rfl
      rw [processLimitOk_iff (by decide) hatt, hlimit, UInt32.le_iff_toNat_le]
      exact Nat.le_of_lt_succ (UInt32.toNat_lt _)
    · rw [globalLimitOk_iff hatt, hmax, UInt32.lt_iff_toNat_lt]
      exact h.copied.trans_lt hunder
  refine ⟨⟨hready, hcontrol, hatt, hmax⟩, ?_⟩
  rcases step_create_cases (.qp 0 ⟨.other, 0, 0⟩) hready (some 1) with ⟨hno, -⟩ | ⟨a, -, -, hc⟩
  · exact absurd ⟨hadm, Option.some_ne_none _⟩ hno
  · refine ⟨h.bindings.trans hc.sameBindings, hc.totalQps.trans (congrArg (· + 1) h.total),
      hc.copiedQps.trans h.copied, ?_⟩
    change c.2 + (totalQps (c.1.step (fillEvent 7)) - totalQps c.1) = since + 1
    rw [show totalQps (c.1.step (fillEvent 7)) = _ from hc.totalQps, h.since]
    omega

/-- The copy of the live QPs. -/
def copyEvent (n : ℕ) : CollectedEvent :=
  .collect (.global (some ⟨(UInt32.ofNat n).toInt32, 0, 0⟩))

theorem Filled.copies (h : Filled g total copied since c) (hfits : total < 2 ^ 32) :
    CollectedAllowed g c (copyEvent total) ∧
      Filled g total total 0 (windowStep c (copyEvent total)) := by
  have hcount : (UInt32.ofNat total).toNat = total := UInt32.toNat_ofNat_of_lt' hfits
  refine ⟨?_, ⟨h.bindings.settings, h.bindings.pidMappings⟩, h.total, hcount, rfl⟩
  rintro usage ⟨⟩
  exact (h.total.trans hcount.symm).le

/-- Creations, each with a copy after it, bring the copy just below the limit. -/
theorem exists_run_copied (g : UInt32) (hwindow : 0 < window) (n : ℕ) (hn : n < g.toNat) :
    ∃ es, Along windowStep (fun c e => CollectedAllowed g c e ∧ (windowStep c e).2 ≤ window)
        (openWorld (fun _ => 4294967295) g, 0) es ∧
      Filled g n n 0 (exec windowStep (openWorld (fun _ => 4294967295) g, 0) es) := by
  induction n with
  | zero => exact ⟨[], trivial, .refl _, rfl, rfl, rfl⟩
  | succ n ih =>
    obtain ⟨es, hrun, hfilled⟩ := ih (by omega)
    have hmax := g.toNat_lt
    obtain ⟨hallowed, hcreated⟩ := hfilled.creates (by omega)
    obtain ⟨hallowed', hcopied⟩ := hcreated.copies (by omega)
    refine ⟨es ++ [.event (fillEvent 7), copyEvent (n + 1)], ?_, ?_⟩
    · exact along_append.mpr ⟨hrun, ⟨hallowed, hcreated.since.trans_le (by omega)⟩,
        ⟨hallowed', Nat.zero_le _⟩, trivial⟩
    · rw [exec_append]
      exact hcopied

/-- Then a window of creations is granted. -/
theorem exists_run_window (hunder : copied < g.toNat) {es : List CollectedEvent}
    (hrun : Along windowStep (fun c e => CollectedAllowed g c e ∧ (windowStep c e).2 ≤ window) c es)
    (hfilled : Filled g total copied 0 (exec windowStep c es)) (n : ℕ) (hn : n ≤ window) :
    ∃ es, Along windowStep (fun c e => CollectedAllowed g c e ∧ (windowStep c e).2 ≤ window) c es ∧
      Filled g (total + n) copied n (exec windowStep c es) := by
  induction n with
  | zero => exact ⟨es, hrun, hfilled⟩
  | succ n ih =>
    obtain ⟨es, hrun, hfilled⟩ := ih (by omega)
    obtain ⟨hallowed, hcreated⟩ := hfilled.creates hunder
    refine ⟨es ++ [.event (fillEvent 7)], ?_, ?_⟩
    · exact along_append.mpr ⟨hrun, ⟨hallowed, hcreated.since.trans_le hn⟩, trivial⟩
    · rw [exec_append]
      exact hcreated

end RdmaIntercept.Analysis
