import RdmaIntercept.Analysis.ChangeMarkers
import RdmaIntercept.Library.RacyCounter
import RdmaIntercept.Model.TenantAccesses

/-!
# The version of the tenant segment when processes run side by side

The records are guarded by the lock, so the calls of all processes act on them one after the
other.  `version` is increased after the lock has been released: it counts the calls exactly as
long as no process stores into it between the load and the store of another.
-/

set_option autoImplicit false

namespace RdmaIntercept.Analysis

open RdmaIntercept.Library RdmaIntercept.Model

variable {T ρ : Type}

/-- The accesses `c` are a way to make the call `e`, which takes the lock and is stamped by
`tenant_shm_unlock`. -/
structure MakesCall (c : SpinLock.Call (TenantRegs ρ) TenantShm TenantMarks) (e : TimedCall) :
    Prop where
  locks : ∀ shm, ∃ now, stampOf shm e = some (.wall now)
  body : ∀ shm, (c.result shm).2 = e.exec shm
  loaded : ∀ shm, (c.result shm).1.loaded = none
  tail : ∃ now, c.tail = unlockTail now

/-- A store into `version` finds the value that its thread has loaded. -/
def FreshStore (s : TenantThread T ρ) (e : TenantStep T ρ) : Prop :=
  ∀ t regs rest v, e = .run t → s.alive t = true → s.phase t = .leaving regs rest →
    regs.loaded = some v → v = s.marks.version

/-! ## What follows the release -/

/-- How far a thread has got in `tenant_shm_unlock`. -/
inductive Leaving : TenantRegs ρ → List (MarkAccess ρ) → Prop
  | toLoad (regs : TenantRegs ρ) (now : TimeT) (h : regs.loaded = none) :
    Leaving regs [loadMark, storeMark, stampMark now]
  | toStore (regs : TenantRegs ρ) (now : TimeT) (v : UInt64) (h : regs.loaded = some v) :
    Leaving regs [storeMark, stampMark now]
  | toStamp (regs : TenantRegs ρ) (now : TimeT) (h : regs.loaded = none) :
    Leaving regs [stampMark now]
  | done (regs : TenantRegs ρ) (h : regs.loaded = none) : Leaving regs []

/-- Every thread outside the lock is at one of these places. -/
def LeavingOk (s : TenantThread T ρ) : Prop :=
  ∀ t regs rest, s.phase t = .leaving regs rest → Leaving regs rest

/-- The store into `version` is still to come. -/
def Pending (s : TenantThread T ρ) (t : T) : Prop :=
  ∃ regs rest, s.phase t = .leaving regs rest ∧ 2 ≤ rest.length

/-- What the thread has loaded and not stored. -/
def loadedBy (s : TenantThread T ρ) (t : T) : Option UInt64 :=
  match s.phase t with
  | .leaving regs _ => regs.loaded
  | _ => none

/-- The segment's `version` as a counter without a lock, after `n` stores. -/
def counterOf (s : TenantThread T ρ) (n : ℕ) : RacyCounter.State T :=
  ⟨s.marks.version, loadedBy s, n⟩

theorem loadedBy_of_leaving {s : TenantThread T ρ} {t : T} {regs : TenantRegs ρ}
    {rest : List (MarkAccess ρ)} (h : s.phase t = .leaving regs rest) :
    loadedBy s t = regs.loaded := by
  rw [loadedBy, h]

/-- The store is the access before the last. -/
theorem pending_of_leaving {s : TenantThread T ρ} {t : T} {regs : TenantRegs ρ}
    {rest : List (MarkAccess ρ)} (h : s.phase t = .leaving regs rest) :
    Pending s t ↔ 2 ≤ rest.length := by
  constructor
  · rintro ⟨regs', rest', h', hlen⟩
    cases h.symm.trans h'
    exact hlen
  · intro hlen
    exact ⟨regs, rest, h, hlen⟩

section Steps

variable [DecidableEq T]

theorem loadedBy_setPhase (s : TenantThread T ρ) (t : T)
    (p : SpinLock.Phase (TenantRegs ρ) TenantShm TenantMarks) :
    loadedBy (s.setPhase t p) = Function.update (loadedBy s) t
      (match p with
        | .leaving regs _ => regs.loaded
        | _ => none) := by
  funext t'
  by_cases ht : t' = t
  · subst ht
    rw [Function.update_self, loadedBy, SpinLock.setPhase_self]
  · rw [Function.update_of_ne ht, loadedBy, SpinLock.setPhase_of_ne s ht]
    rfl

/-- A step outside `tenant_shm_unlock`, in which nothing is loaded or stored. -/
theorem counterOf_setPhase {s : TenantThread T ρ} {t : T} (ht : loadedBy s t = none)
    {p : SpinLock.Phase (TenantRegs ρ) TenantShm TenantMarks}
    (hp : ∀ regs rest, p = .leaving regs rest → regs.loaded = none) (n : ℕ) :
    counterOf (s.setPhase t p) n = counterOf s n := by
  have hnone : (match p with
      | .leaving regs _ => regs.loaded
      | _ => none) = none := by
    cases p with
    | leaving regs rest => exact hp regs rest rfl
    | _ => rfl
  rw [counterOf, loadedBy_setPhase, hnone, ← ht, Function.update_eq_self]
  rfl

theorem leavingOk_setPhase {s : TenantThread T ρ} (hs : LeavingOk s) {t : T}
    {p : SpinLock.Phase (TenantRegs ρ) TenantShm TenantMarks}
    (hp : ∀ regs rest, p = .leaving regs rest → Leaving regs rest) : LeavingOk (s.setPhase t p) := by
  intro t' regs rest h
  by_cases ht : t' = t
  · subst ht
    exact hp regs rest ((SpinLock.setPhase_self s t' p).symm.trans h)
  · rw [SpinLock.setPhase_of_ne s ht] at h
    exact hs t' regs rest h

theorem pending_setPhase_self {s : TenantThread T ρ} {t : T}
    {p : SpinLock.Phase (TenantRegs ρ) TenantShm TenantMarks} :
    Pending (s.setPhase t p) t ↔ ∃ regs rest, p = .leaving regs rest ∧ 2 ≤ rest.length := by
  unfold Pending
  rw [SpinLock.setPhase_self]

theorem pending_setPhase_of_ne {s : TenantThread T ρ} {t t' : T} (ht : t' ≠ t)
    {p : SpinLock.Phase (TenantRegs ρ) TenantShm TenantMarks} :
    Pending (s.setPhase t p) t' ↔ Pending s t' := by
  unfold Pending
  rw [SpinLock.setPhase_of_ne s ht]

omit [DecidableEq T] in
theorem not_pending {s : TenantThread T ρ} {t : T}
    (h : ∀ regs rest, s.phase t = .leaving regs rest → rest.length < 2) : ¬ Pending s t := by
  rintro ⟨regs, rest, hphase, hlen⟩
  exact absurd (h regs rest hphase) (Nat.not_lt.mpr hlen)

/-- The calls that have been answered are those whose store has been made, `n` of them, and
those of the threads `ts`, whose store is still to come. -/
structure Counted (s : TenantThread T ρ) (n : ℕ) (ts : List T) : Prop where
  nodup : ts.Nodup
  pending : ∀ t, t ∈ ts ↔ Pending s t
  answers : s.answers.length = n + ts.length

omit [DecidableEq T] in
/-- A step that neither releases the lock nor stores. -/
theorem Counted.kept {s s' : TenantThread T ρ} {n : ℕ} {ts : List T} (h : Counted s n ts)
    (hanswers : s'.answers = s.answers) (hpending : ∀ t, Pending s' t ↔ Pending s t) :
    Counted s' n ts :=
  ⟨h.nodup, fun t => (h.pending t).trans (hpending t).symm, hanswers ▸ h.answers⟩

/-- What the run of the counter says about one step of the segment. -/
structure CountedStep (s : TenantThread T ρ) (e : TenantStep T ρ) (n : ℕ) : Prop where
  leaving : LeavingOk (s.step e)
  counter : ∃ n' ces ts, Counted (s.step e) n' ts ∧
    counterOf (s.step e) n' = exec RacyCounter.State.step (counterOf s n) ces ∧
    (FreshStore s e ↔ Along RacyCounter.State.step RacyCounter.Fresh (counterOf s n) ces)

/-- A step in which nothing is loaded or stored. -/
theorem countedStep_of_kept {s : TenantThread T ρ} {e : TenantStep T ρ} {n : ℕ} (ts : List T)
    (hleaving : LeavingOk (s.step e)) (hcounted : Counted (s.step e) n ts)
    (hcounter : counterOf (s.step e) n = counterOf s n) (hfresh : FreshStore s e) :
    CountedStep s e n :=
  ⟨hleaving, n, [], ts, hcounted, hcounter, iff_of_true hfresh trivial⟩

theorem step_leaving {s : TenantThread T ρ} {t : T} (halive : s.alive t = true)
    {regs : TenantRegs ρ} {f : MarkAccess ρ} {rest : List (MarkAccess ρ)}
    (hphase : s.phase t = .leaving regs (f :: rest)) :
    s.step (.run t) = { s with marks := (f (regs, s.marks)).2 }.setPhase t
      (.leaving (f (regs, s.marks)).1 rest) := by
  simp only [SpinLock.State.step, halive, if_true, SpinLock.State.advance, hphase]

omit [DecidableEq T] in
/-- An access is fresh if what its thread has loaded is still the version. -/
theorem freshStore_leaving {s : TenantThread T ρ} {t : T} (halive : s.alive t = true)
    {regs : TenantRegs ρ} {rest : List (MarkAccess ρ)} (hphase : s.phase t = .leaving regs rest) :
    FreshStore s (.run t) ↔ ∀ v, regs.loaded = some v → v = s.marks.version := by
  constructor
  · intro h v hv
    exact h t regs rest v rfl halive hphase hv
  · intro h t' regs' rest' v he _ hphase' hv
    cases he
    cases hphase.symm.trans hphase'
    exact h v hv

/-- One access in `tenant_shm_unlock`. -/
theorem countedStep_leaving {s : TenantThread T ρ} {n : ℕ} {ts : List T} (hs : LeavingOk s)
    (hcounted : Counted s n ts) {t : T} (halive : s.alive t = true) {regs : TenantRegs ρ}
    {f : MarkAccess ρ} {rest : List (MarkAccess ρ)} (hphase : s.phase t = .leaving regs (f :: rest)) :
    CountedStep s (.run t) n := by
  have hstep := step_leaving halive hphase
  have hothers : ∀ t', t' ≠ t → (Pending (s.step (.run t)) t' ↔ Pending s t') := by
    intro t' ht'
    rw [hstep, pending_setPhase_of_ne ht']
    rfl
  have hself : Pending (s.step (.run t)) t ↔ 2 ≤ rest.length := by
    rw [hstep]
    exact pending_of_leaving (SpinLock.setPhase_self _ t _)
  have hbefore := pending_of_leaving hphase
  have hanswers : (s.step (.run t)).answers = s.answers := by
    rw [hstep]
    rfl
  have hfresh := freshStore_leaving halive hphase
  have hleaving : ∀ {regs'}, (f (regs, s.marks)).1 = regs' → Leaving regs' rest →
      LeavingOk (s.step (.run t)) := by
    rintro regs' rfl hleave
    rw [hstep]
    refine leavingOk_setPhase (s := { s with marks := (f (regs, s.marks)).2 }) hs ?_
    rintro regs'' rest'' heq
    cases heq
    exact hleave
  have hloads := loadedBy_setPhase { s with marks := (f (regs, s.marks)).2 } t
    (.leaving (f (regs, s.marks)).1 rest)
  cases hs t regs (f :: rest) hphase with
  | toLoad now hl =>
    refine ⟨hleaving rfl (.toStore _ now _ rfl), n, [.load t], ts,
      hcounted.kept hanswers fun t' => ?_, ?_, ?_⟩
    · by_cases ht : t' = t
      · subst ht
        exact hself.trans (iff_of_true le_rfl (hbefore.mpr (by simp)))
      · exact hothers t' ht
    · rw [hstep, counterOf, hloads]
      rfl
    · rw [hfresh]
      exact iff_of_true (fun v hv => absurd (hv.symm.trans hl) (Option.some_ne_none v)) ⟨trivial, trivial⟩
  | toStore now v hl =>
    have hstored : storeMark (regs, s.marks) =
        ({ regs with loaded := none }, { s.marks with version := v + 1 }) := by
      simp only [storeMark, hl]
    have hmem : t ∈ ts := (hcounted.pending t).mpr (hbefore.mpr le_rfl)
    have hlt : loadedBy s t = some v := (loadedBy_of_leaving hphase).trans hl
    refine ⟨hleaving (by rw [hstored]) (.toStamp _ now rfl), n + 1, [.store t], ts.erase t,
      ⟨hcounted.nodup.erase t, fun t' => ?_, ?_⟩, ?_, ?_⟩
    · rw [hcounted.nodup.mem_erase_iff]
      by_cases ht : t' = t
      · subst ht
        exact iff_of_false (fun h => h.1 rfl) fun h => absurd (hself.mp h) (by simp)
      · rw [hothers t' ht, ← hcounted.pending]
        exact and_iff_right ht
    · have hpos : 0 < ts.length := List.length_pos_of_mem hmem
      rw [hanswers, hcounted.answers, List.length_erase_of_mem hmem]
      omega
    · have hcounter : (counterOf s n).step (.store t) =
          ⟨v + 1, Function.update (loadedBy s) t none, n + 1⟩ := by
        simp only [RacyCounter.State.step, counterOf, hlt]
      rw [exec_cons, exec_nil, hcounter, hstep, counterOf, hloads, hstored]
      rfl
    · rw [hfresh]
      constructor
      · intro h
        exact ⟨fun v' hv' => h v' (hl.trans (hlt.symm.trans hv')), trivial⟩
      · rintro ⟨h, -⟩ v' hv'
        exact h v' (hlt.trans (hl.symm.trans hv'))
  | toStamp now hl =>
    refine ⟨hleaving rfl (.done _ hl), n, [], ts, hcounted.kept hanswers fun t' => ?_, ?_, ?_⟩
    · by_cases ht : t' = t
      · subst ht
        exact iff_of_false (fun h => absurd (hself.mp h) (by simp))
          fun h => absurd (hbefore.mp h) (by simp)
      · exact hothers t' ht
    · have hsame : Function.update (loadedBy s) t regs.loaded = loadedBy s := by
        rw [← loadedBy_of_leaving hphase, Function.update_eq_self]
      rw [hstep, counterOf, hloads]
      exact congrArg (fun l => RacyCounter.State.mk s.marks.version l n) hsame
    · rw [hfresh]
      exact iff_of_true (fun v hv => absurd (hv.symm.trans hl) (Option.some_ne_none v)) trivial

/-- A step that changes neither phases nor marks. -/
theorem countedStep_same {s s' : TenantThread T ρ} {e : TenantStep T ρ} {n : ℕ} {ts : List T}
    (hs : LeavingOk s) (hcounted : Counted s n ts) (hfresh : FreshStore s e)
    (hstep : s.step e = s') (hphase : s'.phase = s.phase) (hmarks : s'.marks = s.marks)
    (hanswers : s'.answers = s.answers) : CountedStep s e n := by
  refine countedStep_of_kept ts ?_ ?_ ?_ hfresh <;> rw [hstep]
  · exact fun t regs rest h => hs t regs rest (hphase ▸ h)
  · refine hcounted.kept hanswers fun t => ?_
    rw [Pending, Pending, hphase]
  · rw [counterOf, counterOf, hmarks]
    congr 1
    funext t
    rw [loadedBy, loadedBy, hphase]

/-- A step that changes one phase, neither from nor to a place where a store is to come. -/
theorem countedStep_setPhase {s s₁ : TenantThread T ρ} {e : TenantStep T ρ} {n : ℕ} {ts : List T}
    (hs : LeavingOk s) (hcounted : Counted s n ts) (hfresh : FreshStore s e) {t : T}
    {p : SpinLock.Phase (TenantRegs ρ) TenantShm TenantMarks} (hstep : s.step e = s₁.setPhase t p)
    (hphase : s₁.phase = s.phase) (hmarks : s₁.marks = s.marks) (hanswers : s₁.answers = s.answers)
    (hold : ∀ regs f rest, s.phase t ≠ .leaving regs (f :: rest))
    (hnew : ∀ regs rest, p ≠ .leaving regs rest) : CountedStep s e n := by
  have hs₁ : LeavingOk s₁ := fun t' regs rest h => hs t' regs rest (hphase ▸ h)
  have hloaded : loadedBy s₁ = loadedBy s := by
    funext t'
    rw [loadedBy, loadedBy, hphase]
  have hnone : loadedBy s₁ t = none := by
    rw [hloaded]
    unfold loadedBy
    cases hp : s.phase t with
    | leaving regs rest =>
      cases rest with
      | nil =>
        cases hs t regs [] hp with
        | done hl => exact hl
      | cons f rest => exact absurd hp (hold regs f rest)
    | _ => rfl
  refine countedStep_of_kept ts ?_ ?_ ?_ hfresh
  · rw [hstep]
    exact leavingOk_setPhase hs₁ fun regs rest h => absurd h (hnew regs rest)
  · rw [hstep]
    refine hcounted.kept hanswers fun t' => ?_
    by_cases ht : t' = t
    · subst ht
      refine iff_of_false ?_ (not_pending fun regs rest h => ?_)
      · rw [pending_setPhase_self]
        rintro ⟨regs, rest, h, -⟩
        exact hnew regs rest h
      · cases rest with
        | nil => exact Nat.zero_lt_two
        | cons f rest => exact absurd h (hold regs f rest)
    · rw [pending_setPhase_of_ne ht, Pending, Pending, hphase]
  · rw [hstep, counterOf_setPhase hnone fun regs rest h => absurd h (hnew regs rest), counterOf,
      counterOf, hloaded, hmarks]

/-- The release of the lock: the store of this call is now to come. -/
theorem countedStep_release {s : TenantThread T ρ} {e : TenantStep T ρ} {n : ℕ} {ts : List T}
    (hs : LeavingOk s) (hcounted : Counted s n ts) (hfresh : FreshStore s e) {t : T}
    {c : SpinLock.Call (TenantRegs ρ) TenantShm TenantMarks} {regs : TenantRegs ρ}
    (hphase : s.phase t = .inside c regs [])
    (hstep : s.step e = { s with locked := false, answers := s.answers ++ [(t, regs)] }.setPhase t
      (.leaving regs c.tail))
    (hloaded : regs.loaded = none) {now : TimeT} (htail : c.tail = unlockTail now) :
    CountedStep s e n := by
  have hnone : loadedBy s t = none := by rw [loadedBy, hphase]
  have hnot : t ∉ ts := by
    rw [hcounted.pending]
    exact not_pending fun regs' rest h => absurd (hphase.symm.trans h) nofun
  refine countedStep_of_kept (t :: ts) ?_ ⟨List.nodup_cons.mpr ⟨hnot, hcounted.nodup⟩, ?_, ?_⟩
    ?_ hfresh
  · rw [hstep, htail]
    refine leavingOk_setPhase
      (s := { s with locked := false, answers := s.answers ++ [(t, regs)] }) hs ?_
    rintro regs' rest ⟨⟩
    exact .toLoad regs now hloaded
  · intro t'
    rw [hstep, htail]
    by_cases ht : t' = t
    · subst ht
      rw [pending_setPhase_self]
      exact iff_of_true List.mem_cons_self ⟨regs, _, rfl, by simp [unlockTail]⟩
    · rw [pending_setPhase_of_ne ht, List.mem_cons, or_iff_right ht]
      exact hcounted.pending t'
  · rw [hstep]
    change (s.answers ++ [(t, regs)]).length = n + (ts.length + 1)
    rw [List.length_append, hcounted.answers]
    rfl
  · rw [hstep]
    refine counterOf_setPhase
      (s := { s with locked := false, answers := s.answers ++ [(t, regs)] }) hnone ?_ n
    rintro regs' rest ⟨⟩
    exact hloaded

omit [DecidableEq T] in
/-- Outside `tenant_shm_unlock` nothing is stored into `version`. -/
theorem freshStore_of_not_leaving {s : TenantThread T ρ} (hs : LeavingOk s) {e : TenantStep T ρ}
    (h : ¬ ∃ t regs f rest, e = .run t ∧ s.alive t = true ∧
      s.phase t = .leaving regs (f :: rest)) : FreshStore s e := by
  rintro t regs rest v rfl halive hphase hv
  refine absurd ⟨t, regs, ?_⟩ h
  cases hs t regs rest hphase with
  | toStore now v' hl => exact ⟨_, _, rfl, halive, hphase⟩
  | toLoad now hl => exact absurd (hl.symm.trans hv) nofun
  | toStamp now hl => exact absurd (hl.symm.trans hv) nofun
  | done hl => exact absurd (hl.symm.trans hv) nofun

/-- One step of any kind. -/
theorem countedStep {shm : TenantShm} {s : TenantThread T ρ} (hserial : SpinLock.Serial shm s)
    (hmade : SpinLock.Made (fun _ c => ∃ e, MakesCall c e) s) {n : ℕ} {ts : List T}
    (hs : LeavingOk s) (hcounted : Counted s n ts) (e : TenantStep T ρ) : CountedStep s e n := by
  by_cases hleave : ∃ t regs f rest, e = .run t ∧ s.alive t = true ∧
      s.phase t = .leaving regs (f :: rest)
  · obtain ⟨t, regs, f, rest, rfl, halive, hphase⟩ := hleave
    exact countedStep_leaving hs hcounted halive hphase
  · have hfresh := freshStore_of_not_leaving hs hleave
    cases hlive : s.alive e.thread with
    | false =>
      rcases SpinLock.step_of_dead hlive with heq | heq
      · exact countedStep_same hs hcounted hfresh heq rfl rfl rfl
      · exact countedStep_same hs hcounted hfresh heq rfl rfl rfl
    | true =>
      have hmove := SpinLock.step_moved s e
      generalize hstep : s.step e = s' at hmove
      cases hmove with
      | stay => exact countedStep_same hs hcounted hfresh hstep rfl rfl rfl
      | die t => exact countedStep_same hs hcounted hfresh hstep rfl rfl rfl
      | ask t c hrest =>
        refine countedStep_setPhase hs hcounted hfresh hstep rfl rfl rfl (fun regs f rest h => ?_) nofun
        rw [h] at hrest
        exact absurd hrest Bool.false_ne_true
      | glance t regs' reads hrest =>
        refine countedStep_setPhase hs hcounted hfresh hstep rfl rfl rfl (fun regs f rest h => ?_) nofun
        rw [h] at hrest
        exact absurd hrest Bool.false_ne_true
      | acquire t c hphase hfree =>
        exact countedStep_setPhase hs hcounted hfresh hstep rfl rfl rfl
          (fun _ _ _ h => absurd (hphase.symm.trans h) nofun) nofun
      | access t c regs f rest hphase =>
        exact countedStep_setPhase hs hcounted hfresh hstep rfl rfl rfl
          (fun _ _ _ h => absurd (hphase.symm.trans h) nofun) nofun
      | read t regs f rest hphase =>
        exact countedStep_setPhase hs hcounted hfresh hstep rfl rfl rfl
          (fun _ _ _ h => absurd (hphase.symm.trans h) nofun) nofun
      | mark t regs f rest hphase => exact absurd ⟨t, regs, f, rest, rfl, hlive, hphase⟩ hleave
      | release t c regs hphase =>
        obtain ⟨-, hsec⟩ := hserial.section hphase
        obtain ⟨pre, before, htaken, hbody, hrun, -⟩ := hsec.partly
        obtain ⟨call, hcall⟩ := hmade.1 (t, c) (by rw [htaken]; simp)
        obtain ⟨now, htail⟩ := hcall.tail
        have hresult : c.result (SpinLock.after shm pre) = (regs, s.data) := by
          rw [SpinLock.Call.result, hbody, List.append_nil, hrun]
        have hloaded : regs.loaded = none := by
          rw [← hcall.loaded (SpinLock.after shm pre), hresult]
        exact countedStep_release hs hcounted hfresh hphase hstep hloaded htail

/-! ## Runs -/

/-- The condition on the calls of a run. -/
def TenantRun (es : List (TenantStep T ρ)) : Prop :=
  ∀ t c, SpinLock.Event.call t c ∈ es → ∃ e, MakesCall c e

/-- The run of the segment, seen as a run of its version counter. -/
theorem exists_counter_run {shm : TenantShm} {s : TenantThread T ρ}
    (hserial : SpinLock.Serial shm s)
    (hmade : SpinLock.Made (fun _ c => ∃ e, MakesCall c e) s) {n : ℕ} {ts : List T}
    (hs : LeavingOk s) (hcounted : Counted s n ts) {es : List (TenantStep T ρ)}
    (hes : TenantRun es) :
    ∃ n' ces ts', Counted (exec SpinLock.State.step s es) n' ts' ∧
      counterOf (exec SpinLock.State.step s es) n' =
        exec RacyCounter.State.step (counterOf s n) ces ∧
      (Along SpinLock.State.step FreshStore s es ↔
        Along RacyCounter.State.step RacyCounter.Fresh (counterOf s n) ces) := by
  induction es generalizing s n ts with
  | nil => exact ⟨n, [], ts, hcounted, rfl, Iff.rfl⟩
  | cons e es ih =>
    obtain ⟨hleaving, n₁, ces₁, ts₁, hcounted₁, hcounter₁, hfresh₁⟩ :=
      countedStep hserial hmade hs hcounted e
    have hmade₁ := hmade.moved (SpinLock.step_moved s e) fun t c he =>
      hes t c (he ▸ List.mem_cons_self)
    obtain ⟨n', ces, ts', hcounted', hcounter, hfresh⟩ :=
      ih (hserial.step e) hmade₁ hleaving hcounted₁ fun t c hc => hes t c (List.mem_cons_of_mem _ hc)
    refine ⟨n', ces₁ ++ ces, ts', hcounted', ?_, ?_⟩
    · rw [exec_cons, hcounter, hcounter₁, exec_append]
    · rw [along_append, ← hcounter₁]
      exact and_congr hfresh₁ hfresh

/-- The segment after calls that run one after the other. -/
def serially (shm : TenantShm) (calls : List (T × TimedCall)) : TenantShm :=
  calls.foldl (fun shm call => call.2.exec shm) shm

omit [DecidableEq T] in
/-- Calls that are stamped by `tenant_shm_unlock`, one after the other, are counted. -/
theorem version_serially {calls : List (T × TimedCall)}
    (hlocks : ∀ call ∈ calls, ∀ shm, ∃ now, stampOf shm call.2 = some (.wall now))
    (shm : TenantShm) (hroom : shm.version.toNat + calls.length < 2 ^ 64) :
    (serially shm calls).version.toNat = shm.version.toNat + calls.length := by
  induction calls generalizing shm with
  | nil => rfl
  | cons call calls ih =>
    obtain ⟨now, hstamp⟩ := hlocks call List.mem_cons_self shm
    have hmarks := marks_exec shm call.2
    rw [hstamp] at hmarks
    rw [List.length_cons] at hroom ⊢
    have hversion : (call.2.exec shm).version.toNat = shm.version.toNat + 1 := by
      rw [hmarks.1]
      exact RacyCounter.toNat_increment le_rfl (by omega)
    have hrest := ih (fun c hc => hlocks c (List.mem_cons_of_mem _ hc)) (call.2.exec shm) (by omega)
    rw [serially, List.foldl_cons]
    exact hrest.trans (by omega)

omit [DecidableEq T] in
theorem exists_timedCalls (shm : TenantShm)
    {taken : List (T × SpinLock.Call (TenantRegs ρ) TenantShm TenantMarks)}
    (h : ∀ tc ∈ taken, ∃ e, MakesCall tc.2 e) :
    ∃ calls : List (T × TimedCall), calls.map Prod.fst = taken.map Prod.fst ∧
      (∀ call ∈ calls, ∀ shm, ∃ now, stampOf shm call.2 = some (.wall now)) ∧
      SpinLock.after shm taken = serially shm calls := by
  induction taken generalizing shm with
  | nil => exact ⟨[], rfl, nofun, rfl⟩
  | cons tc taken ih =>
    obtain ⟨e, he⟩ := h tc List.mem_cons_self
    obtain ⟨calls, hthreads, hlocks, hafter⟩ :=
      ih (e.exec shm) fun tc htc => h tc (List.mem_cons_of_mem _ htc)
    refine ⟨(tc.1, e) :: calls, ?_, ?_, ?_⟩
    · rw [List.map_cons, List.map_cons, hthreads]
    · intro call hcall
      rcases List.mem_cons.mp hcall with rfl | hcall
      · exact he.locks
      · exact hlocks call hcall
    · rw [SpinLock.after, he.body, hafter, serially, serially, List.foldl_cons]

/-- The words of the segment beside those that the calls leave which run one after the other. -/
structure CountsCalls (shm : TenantShm) (es : List (TenantStep T ρ)) (s : TenantThread T ρ)
    (calls : List (T × TimedCall)) : Prop where
  threads : calls.map Prod.fst = s.answers.map Prod.fst
  tenants : (tenantWords s).tenants = (serially shm calls).tenants
  pidMappings : (tenantWords s).pidMappings = (serially shm calls).pidMappings
  activeTenantCount : (tenantWords s).activeTenantCount = (serially shm calls).activeTenantCount
  totalProcessCount : (tenantWords s).totalProcessCount = (serially shm calls).totalProcessCount
  notAbove : (tenantWords s).version ≤ (serially shm calls).version
  exact_iff : (tenantWords s).version = (serially shm calls).version ↔
    Along SpinLock.State.step FreshStore (tenantThreads shm) es

/-- `tenant_set_status` on tenant 1, as one access to the records. -/
def setStatusCall : SpinLock.Call (TenantRegs Unit) TenantShm TenantMarks where
  regs := ⟨none, ()⟩
  body := [fun x => (x.1, (tenantSetStatus x.2 1 .suspended 7).2)]
  tail := unlockTail 7

/-- Both processes load `version` before one of them stores it. -/
def overlappingUnlocks : List (TenantStep Bool Unit) :=
  [.call true setStatusCall, .run true, .run true, .run true, .call false setStatusCall, .run false,
    .run false, .run false, .run true, .run false, .run true, .run false, .run true, .run false]

theorem makesCall_setStatus :
    MakesCall setStatusCall ⟨.op (.setStatus 1 .suspended), 7, 0⟩ where
  locks := fun _ => ⟨7, rfl⟩
  body := fun _ => rfl
  loaded := fun _ => rfl
  tail := ⟨7, rfl⟩

end Steps

end RdmaIntercept.Analysis
