import RdmaIntercept.Analysis.PerfOptimizerSpec
import RdmaIntercept.Library.Counter
import RdmaIntercept.Model.BatchThreads

/-!
# Batched updates of several threads

An update that has overflowed takes the mutex again after its flush and makes itself the
only entry, whatever the buffer holds by then.  No update is lost exactly when it finds
nothing there that is not followed by a newer usage (`noUpdateLost_iff`); all other
critical sections keep every update that has returned.  The invariant is that what the
buffer holds has returned, and that numbers are given in the order of the submissions.
-/

set_option autoImplicit false

namespace RdmaIntercept.Analysis

open RdmaIntercept.Library RdmaIntercept.Model

/-- `f` is the update `e`, or one of the same process submitted later. -/
def Follows (f e : Pid × Submission) : Prop := f = e ∨ f.1 = e.1 ∧ e.2.number < f.2.number

instance (f e : Pid × Submission) : Decidable (Follows f e) := by
  unfold Follows
  infer_instance

theorem Follows.refl (e : Pid × Submission) : Follows e e := Or.inl rfl

theorem Follows.trans {e f g : Pid × Submission} (h : Follows f e) (h' : Follows g f) :
    Follows g e := by
  rcases h with rfl | ⟨hp, hn⟩
  · exact h'
  · rcases h' with rfl | ⟨hp', hn'⟩
    · exact Or.inr ⟨hp, hn⟩
    · exact Or.inr ⟨hp'.trans hp, hn.trans hn'⟩

variable {T : Type}

/-- The update or a later one of its process is pending, or was passed on by a flush. -/
def Retained (w : BatchWorld T) (e : Pid × Submission) : Prop :=
  ∃ f ∈ w.buffer.entries ++ w.passed, Follows f e

/-- No update that has returned is lost. -/
def NoUpdateLost (w : BatchWorld T) : Prop := ∀ e ∈ w.returned, Retained w e

/-- An update that takes the mutex again finds only entries that it follows itself, or that
were followed by what has been passed on. -/
def RetrySpares (w : BatchWorld T) : BatchEvent T → Prop
  | .next t _ =>
    match w.phase t with
    | .retry pid sub => ∀ e ∈ w.buffer.entries, ∃ f ∈ (pid, sub) :: w.passed, Follows f e
    | _ => True
  | _ => True

/-- The number of the update that a thread has not finished. -/
def openNumber : BatchPhase → Option ℕ
  | .idle => none
  | .overflow _ sub => some sub.number
  | .retry _ sub => some sub.number

/-- The entries have returned, and numbers are given in order. -/
structure BatchInv (w : BatchWorld T) : Prop where
  entries : ∀ e ∈ w.buffer.entries, e ∈ w.returned
  numbers : ∀ e ∈ w.returned, e.2.number < w.submitted
  opened : ∀ t n, openNumber (w.phase t) = some n → n < w.submitted

variable {w : BatchWorld T}

/-! ## A flush -/

theorem batchFlush_spec (w : BatchWorld T) (clock : Clock) :
    (w.flush clock).buffer.entries = [] ∧
      (w.flush clock).passed = w.passed ++ w.buffer.entries ∧
      (w.flush clock).shm = writeBatch w.shm (w.buffer.entries.map unnumbered) clock.ns := by
  obtain ⟨hdrain, hleft⟩ := drain_spec w.buffer clock.ms
  refine ⟨hleft, ?_, ?_⟩
  · show w.passed ++ (w.buffer.drain clock.ms).1 = w.passed ++ w.buffer.entries
    rw [hdrain]
  · show writeBatch w.shm ((w.buffer.drain clock.ms).1.map unnumbered) clock.ns = _
    rw [hdrain]

theorem BatchInv.flush (h : BatchInv w) (clock : Clock) : BatchInv (w.flush clock) := by
  refine ⟨?_, h.numbers, h.opened⟩
  rw [(batchFlush_spec w clock).1]
  intro e he
  exact absurd he List.not_mem_nil

/-- A flush moves the entries. -/
theorem retained_flush_iff {clock : Clock} {e : Pid × Submission} :
    Retained (w.flush clock) e ↔ Retained w e := by
  obtain ⟨hentries, hpassed, -⟩ := batchFlush_spec w clock
  unfold Retained
  rw [hentries, hpassed, List.nil_append]
  constructor
  · rintro ⟨f, hf, hfe⟩
    exact ⟨f, List.mem_append.mpr (List.mem_append.mp hf).symm, hfe⟩
  · rintro ⟨f, hf, hfe⟩
    exact ⟨f, List.mem_append.mpr (List.mem_append.mp hf).symm, hfe⟩

/-! ## The critical sections of an update -/

/-- A submission that finds room is pending afterwards, and every other entry of another
process stays. -/
theorem submit_retains {b : BatchBuffer Submission} {p : Pid} {sub : Submission}
    (h : w.buffer.submit p sub = some b) :
    (p, sub) ∈ b.entries ∧ (∀ e ∈ w.buffer.entries, e.1 ≠ p → e ∈ b.entries) ∧
      ∀ e ∈ b.entries, e = (p, sub) ∨ e ∈ w.buffer.entries := by
  rcases submit_cases h with ⟨hmem, hb⟩ | ⟨-, hb⟩
  · rw [hb]
    exact ⟨WriteBuffer.mem_replace_self hmem, fun e he hne => WriteBuffer.mem_replace_of_ne he hne,
      fun e he => WriteBuffer.mem_of_mem_replace he⟩
  · rw [hb]
    refine ⟨List.mem_append_right _ List.mem_cons_self, ?_, ?_⟩
    · intro e he _
      exact List.mem_append_left _ he
    · intro e he
      rcases List.mem_append.mp he with he | he
      · exact Or.inr he
      · exact Or.inl (List.mem_singleton.mp he)

variable [DecidableEq T]

theorem update_of_some {t : T} {p : Pid} {usage : ResourceUsage} {b : BatchBuffer Submission}
    (h : w.buffer.submit p ⟨w.submitted, usage⟩ = some b) :
    w.update t p usage =
      { w with
        buffer := b
        submitted := w.submitted + 1
        returned := (p, ⟨w.submitted, usage⟩) :: w.returned } := by
  simp [BatchWorld.update, h]

theorem update_of_none {t : T} {p : Pid} {usage : ResourceUsage}
    (h : w.buffer.submit p ⟨w.submitted, usage⟩ = none) :
    w.update t p usage =
      { w with
        phase := Function.update w.phase t (.overflow p ⟨w.submitted, usage⟩)
        submitted := w.submitted + 1 } := by
  simp [BatchWorld.update, h]

/-- The threads after one of them has gone on to phase `ph`. -/
theorem opened_update {t : T} {ph : BatchPhase} {m : ℕ}
    (h : ∀ t n, openNumber (w.phase t) = some n → n < m)
    (hph : ∀ n, openNumber ph = some n → n < m) :
    ∀ t' n, openNumber (Function.update w.phase t ph t') = some n → n < m := by
  intro t' n hn
  by_cases ht : t' = t
  · rw [ht, Function.update_self] at hn
    exact hph n hn
  · rw [Function.update_of_ne ht] at hn
    exact h t' n hn

theorem BatchInv.update (h : BatchInv w) (t : T) (p : Pid) (usage : ResourceUsage) :
    BatchInv (w.update t p usage) := by
  have hopened : ∀ t n, openNumber (w.phase t) = some n → n < w.submitted + 1 := fun t n hn =>
    Nat.lt_succ_of_lt (h.opened t n hn)
  cases hsub : w.buffer.submit p ⟨w.submitted, usage⟩ with
  | none =>
    rw [update_of_none hsub]
    refine ⟨h.entries, fun e he => Nat.lt_succ_of_lt (h.numbers e he), opened_update hopened ?_⟩
    intro n hn
    rw [← Option.some.inj hn]
    exact Nat.lt_succ_self _
  | some b =>
    obtain ⟨-, -, hold⟩ := submit_retains hsub
    rw [update_of_some hsub]
    refine ⟨?_, ?_, hopened⟩
    · intro e he
      rcases hold e he with rfl | he
      · exact List.mem_cons_self
      · exact List.mem_cons_of_mem _ (h.entries e he)
    · intro e he
      rcases List.mem_cons.mp he with rfl | he
      · exact Nat.lt_succ_self _
      · exact Nat.lt_succ_of_lt (h.numbers e he)

/-- What an update replaces in its first critical section it follows itself. -/
theorem NoUpdateLost.update (hinv : BatchInv w) (h : NoUpdateLost w) (t : T) (p : Pid)
    (usage : ResourceUsage) : NoUpdateLost (w.update t p usage) := by
  cases hsub : w.buffer.submit p ⟨w.submitted, usage⟩ with
  | none =>
    rw [update_of_none hsub]
    exact h
  | some b =>
    obtain ⟨hnew, hstay, -⟩ := submit_retains hsub
    rw [update_of_some hsub]
    intro e he
    rcases List.mem_cons.mp he with rfl | he
    · exact ⟨_, List.mem_append_left _ hnew, .refl _⟩
    · obtain ⟨f, hf, hfe⟩ := h e he
      rcases List.mem_append.mp hf with hf | hf
      · by_cases hp : f.1 = p
        · have hlater : Follows (p, ⟨w.submitted, usage⟩) f :=
            Or.inr ⟨hp.symm, hinv.numbers f (hinv.entries f hf)⟩
          exact ⟨_, List.mem_append_left _ hnew, hfe.trans hlater⟩
        · exact ⟨f, List.mem_append_left _ (hstay f hf hp), hfe⟩
      · exact ⟨f, List.mem_append_right _ hf, hfe⟩

theorem BatchInv.retry (h : BatchInv w) {t : T} {p : Pid} {sub : Submission}
    (hphase : w.phase t = .retry p sub) : BatchInv (w.retry t p sub) := by
  have hnumber : sub.number < w.submitted := h.opened t sub.number (by rw [hphase]; rfl)
  refine ⟨?_, ?_, opened_update h.opened fun n hn => absurd hn.symm (Option.some_ne_none n)⟩
  · intro e he
    rw [List.mem_singleton.mp he]
    exact List.mem_cons_self
  · intro e he
    rcases List.mem_cons.mp he with rfl | he
    · exact hnumber
    · exact h.numbers e he

/-- Taking the mutex again keeps every update exactly when what is there is spared. -/
theorem noUpdateLost_retry_iff (hinv : BatchInv w) (h : NoUpdateLost w) (t : T) (p : Pid)
    (sub : Submission) :
    NoUpdateLost (w.retry t p sub) ↔
      ∀ e ∈ w.buffer.entries, ∃ f ∈ (p, sub) :: w.passed, Follows f e := by
  constructor
  · intro hafter e he
    exact hafter e (List.mem_cons_of_mem _ (hinv.entries e he))
  · intro hspares e he
    rcases List.mem_cons.mp he with rfl | he
    · exact ⟨_, List.mem_cons_self, .refl _⟩
    · obtain ⟨f, hf, hfe⟩ := h e he
      rcases List.mem_append.mp hf with hf | hf
      · obtain ⟨g, hg, hgf⟩ := hspares f hf
        exact ⟨g, hg, hfe.trans hgf⟩
      · exact ⟨f, List.mem_cons_of_mem _ hf, hfe⟩

/-! ## Runs -/

theorem step_update {t : T} {p : Pid} {usage : ResourceUsage} (h : w.phase t = .idle) :
    w.step (.update t p usage) = w.update t p usage := by
  simp only [BatchWorld.step, h]

theorem step_overflow {t : T} {p : Pid} {sub : Submission} {clock : Clock}
    (h : w.phase t = .overflow p sub) :
    w.step (.next t clock) =
      { w.flush clock with phase := Function.update w.phase t (.retry p sub) } := by
  simp only [BatchWorld.step, h]

theorem step_retry {t : T} {p : Pid} {sub : Submission} {clock : Clock}
    (h : w.phase t = .retry p sub) : w.step (.next t clock) = w.retry t p sub := by
  simp only [BatchWorld.step, h]

/-- What a step can do. -/
inductive BatchStep (w : BatchWorld T) : BatchEvent T → BatchWorld T → Prop
  | update (t : T) (p : Pid) (usage : ResourceUsage) :
      BatchStep w (.update t p usage) (w.update t p usage)
  | flush (t : T) (clock : Clock) : BatchStep w (.flush t clock) (w.flush clock)
  | flushFull {t : T} {p : Pid} {sub : Submission} (clock : Clock)
      (hphase : w.phase t = .overflow p sub) :
      BatchStep w (.next t clock)
        { w.flush clock with phase := Function.update w.phase t (.retry p sub) }
  | retry {t : T} {p : Pid} {sub : Submission} (clock : Clock)
      (hphase : w.phase t = .retry p sub) : BatchStep w (.next t clock) (w.retry t p sub)
  | none {e : BatchEvent T} (hspares : RetrySpares w e) : BatchStep w e w

theorem batchStep (w : BatchWorld T) (e : BatchEvent T) : BatchStep w e (w.step e) := by
  cases e with
  | update t p usage =>
    have hnone : BatchStep w (.update t p usage) w := .none trivial
    cases hphase : w.phase t with
    | idle =>
      rw [step_update hphase]
      exact .update t p usage
    | overflow q sub => simpa only [BatchWorld.step, hphase] using hnone
    | retry q sub => simpa only [BatchWorld.step, hphase] using hnone
  | next t clock =>
    cases hphase : w.phase t with
    | idle =>
      have hspares : RetrySpares w (.next t clock) := by simp only [RetrySpares, hphase]
      simpa only [BatchWorld.step, hphase] using BatchStep.none hspares
    | overflow q sub =>
      rw [step_overflow hphase]
      exact .flushFull clock hphase
    | retry q sub =>
      rw [step_retry hphase]
      exact .retry clock hphase
  | flush t clock =>
    have hnone : BatchStep w (.flush t clock) w := .none trivial
    cases hphase : w.phase t with
    | idle => simpa only [BatchWorld.step, hphase] using BatchStep.flush t clock
    | overflow q sub => simpa only [BatchWorld.step, hphase] using hnone
    | retry q sub => simpa only [BatchWorld.step, hphase] using hnone

theorem BatchInv.step (h : BatchInv w) (e : BatchEvent T) : BatchInv (w.step e) := by
  have hstep := batchStep w e
  generalize w.step e = w' at hstep ⊢
  cases hstep with
  | update t p usage => exact h.update t p usage
  | flush t clock => exact h.flush clock
  | flushFull clock hphase =>
    have hflush := h.flush clock
    have hopen := h.opened _ _ (congrArg openNumber hphase)
    refine ⟨hflush.entries, hflush.numbers, opened_update h.opened ?_⟩
    intro n hn
    rw [← Option.some.inj hn]
    exact hopen
  | retry clock hphase => exact h.retry hphase
  | none hspares => exact h

theorem noUpdateLost_step_iff (hinv : BatchInv w) (h : NoUpdateLost w) (e : BatchEvent T) :
    NoUpdateLost (w.step e) ↔ RetrySpares w e := by
  have hstep := batchStep w e
  generalize w.step e = w' at hstep ⊢
  cases hstep with
  | update t p usage => exact iff_of_true (h.update hinv t p usage) trivial
  | flush t clock => exact iff_of_true (fun e he => retained_flush_iff.mpr (h e he)) trivial
  | flushFull clock hphase =>
    refine iff_of_true (fun e he => retained_flush_iff.mpr (h e he)) ?_
    simp only [RetrySpares, hphase]
  | retry clock hphase =>
    rw [noUpdateLost_retry_iff hinv h]
    simp only [RetrySpares, hphase]
  | none hspares => exact iff_of_true h hspares

omit [DecidableEq T] in
theorem batchInv_start (shm : SharedMemoryData) :
    BatchInv (BatchWorld.start shm : BatchWorld T) :=
  ⟨fun _ he => absurd he List.not_mem_nil, fun _ he => absurd he List.not_mem_nil,
    fun _ n hn => absurd hn.symm (Option.some_ne_none n)⟩

omit [DecidableEq T] in
theorem noUpdateLost_start (shm : SharedMemoryData) :
    NoUpdateLost (BatchWorld.start shm : BatchWorld T) :=
  fun _ he => absurd he List.not_mem_nil

/-- **No update is lost exactly when every update that takes the mutex again spares what it
finds in the buffer.** -/
theorem noUpdateLost_iff (shm : SharedMemoryData) (es : List (BatchEvent T)) :
    Always BatchWorld.step NoUpdateLost (.start shm) es ↔
      Along BatchWorld.step RetrySpares (.start shm) es :=
  always_iff_along (A := fun _ _ => True) (fun _ e h _ => h.step e)
    (fun _ e hinv _ h => noUpdateLost_step_iff hinv h e) (batchInv_start shm)
    (noUpdateLost_start shm) (along_of_forall (fun _ _ => trivial) _)

/-! ## A lost update -/

/-- Updates of new processes fill the buffer. -/
theorem exec_fill (w : BatchWorld T) (t : T) (ps : List Pid) (usage : ResourceUsage)
    (hidle : w.phase t = .idle) (hnew : (w.buffer.entries.map Prod.fst ++ ps).Nodup)
    (hroom : w.buffer.entries.length + ps.length ≤ CACHE_BUCKET_COUNT) :
    (exec BatchWorld.step w (ps.map fun p => .update t p usage)).phase = w.phase ∧
      (exec BatchWorld.step w (ps.map fun p => .update t p usage)).buffer.entries.map Prod.fst =
        w.buffer.entries.map Prod.fst ++ ps ∧
      (exec BatchWorld.step w (ps.map fun p => .update t p usage)).passed = w.passed := by
  induction ps generalizing w with
  | nil => exact ⟨rfl, (List.append_nil _).symm, rfl⟩
  | cons p ps ih =>
    have hp : p ∉ w.buffer.entries.map Prod.fst := by
      intro hmem
      exact (List.nodup_append.mp hnew).2.2 p hmem p List.mem_cons_self rfl
    rw [List.length_cons] at hroom
    obtain ⟨b, hb, hentries⟩ :=
      submit_added w.buffer (⟨w.submitted, usage⟩ : Submission) hp (by omega)
    have hkeys : b.entries.map Prod.fst = w.buffer.entries.map Prod.fst ++ [p] := by
      rw [hentries, List.map_append, List.map_singleton]
    have hlength : b.entries.length = w.buffer.entries.length + 1 := by
      rw [hentries, List.length_append, List.length_singleton]
    rw [List.map_cons, exec_cons, step_update hidle, update_of_some hb]
    obtain ⟨hphase, hfst, hpassed⟩ := ih
      { w with
        buffer := b
        submitted := w.submitted + 1
        returned := (p, ⟨w.submitted, usage⟩) :: w.returned }
      hidle (by simpa only [hkeys, List.append_assoc, List.singleton_append] using hnew)
      (by simp only [hlength]; omega)
    refine ⟨hphase, ?_, hpassed⟩
    simpa only [hkeys, List.append_assoc, List.singleton_append] using hfst

/-- A full buffer has been flushed by the update of thread `t`. -/
structure Overflowed (w : BatchWorld T) (t : T) (p : Pid) (usage : ResourceUsage) (clock : Clock)
    (w' : BatchWorld T) : Prop where
  entries : w'.buffer.entries = []
  passed : w'.passed = w.passed ++ w.buffer.entries
  shm : w'.shm = writeBatch w.shm (w.buffer.entries.map unnumbered) clock.ns
  phase : w'.phase = Function.update w.phase t (.retry p ⟨w.submitted, usage⟩)

theorem overflowed {t : T} {p : Pid} {usage : ResourceUsage} (ht : w.phase t = .idle)
    (hsub : w.buffer.submit p ⟨w.submitted, usage⟩ = none) (clock : Clock) :
    Overflowed w t p usage clock
      (exec BatchWorld.step w [.update t p usage, .next t clock]) := by
  rw [exec_cons, step_update ht, update_of_none hsub, exec_cons,
    step_overflow (Function.update_self ..), exec_nil]
  obtain ⟨hentries, hpassed, hshm⟩ := batchFlush_spec
    { w with
      phase := Function.update w.phase t (.overflow p ⟨w.submitted, usage⟩)
      submitted := w.submitted + 1 } clock
  exact ⟨hentries, hpassed, hshm, Function.update_idem ..⟩

/-- When a second thread gets in after the flush of an overflow, its update is lost. -/
theorem overflow_loses {t t' : T} {p q : Pid} (ht : w.phase t = .idle) (ht' : w.phase t' = .idle)
    (htt : t' ≠ t) (hfull : ¬ w.buffer.entries.length < CACHE_BUCKET_COUNT)
    (hp : p ∉ w.buffer.entries.map Prod.fst) (hpq : p ≠ q)
    (hq : q ∉ (w.passed ++ w.buffer.entries).map Prod.fst) (usage : ResourceUsage)
    (clock clock' : Clock) :
    ¬ NoUpdateLost (exec BatchWorld.step w
      ([.update t p usage, .next t clock] ++ [.update t' q usage, .next t clock'])) := by
  have hover := overflowed ht (submit_full w.buffer ⟨w.submitted, usage⟩ hp hfull) clock
  rw [exec_append]
  generalize exec BatchWorld.step w [.update t p usage, .next t clock] = v at hover
  have hidle : v.phase t' = .idle := by rw [hover.phase, Function.update_of_ne htt, ht']
  have hretry : v.phase t = .retry p ⟨w.submitted, usage⟩ := by
    rw [hover.phase, Function.update_self]
  have hnew : q ∉ v.buffer.entries.map Prod.fst := by
    rw [hover.entries]
    exact List.not_mem_nil
  have hroom : v.buffer.entries.length < CACHE_BUCKET_COUNT := by
    rw [hover.entries]
    decide
  obtain ⟨b, hb, -⟩ := submit_added v.buffer (⟨v.submitted, usage⟩ : Submission) hnew hroom
  rw [exec_cons, step_update hidle, update_of_some hb, exec_cons, step_retry (by exact hretry),
    exec_nil]
  intro h
  -- only the update of `p` is pending now, and `q` has not been passed on
  obtain ⟨f, hf, hfq⟩ := h (q, ⟨v.submitted, usage⟩) (List.mem_cons_of_mem _ List.mem_cons_self)
  have hfst : f.1 = q := by
    rcases hfq with rfl | ⟨hfst, -⟩
    · rfl
    · exact hfst
  rcases List.mem_append.mp hf with hf | hf
  · rw [List.mem_singleton.mp hf] at hfst
    exact hpq hfst
  · have hf' : f ∈ v.passed := hf
    rw [hover.passed] at hf'
    exact hq (List.mem_map.mpr ⟨f, hf', hfst⟩)

/-- The processes 1 to `n`. -/
def firstPids (n : ℕ) : List Pid := (List.range n).map fun i => Int32.ofNat (i + 1)

theorem notMem_firstPids {m n : ℕ} (hmn : n < m) (hm : m < 2 ^ 31) :
    Int32.ofNat m ∉ firstPids n := by
  intro h
  obtain ⟨i, hi, heq⟩ := List.mem_map.mp h
  have hlt := List.mem_range.mp hi
  have him := (Counter.ofNat_inj (by omega) hm).mp heq
  omega

theorem nodup_firstPids {n : ℕ} (hn : n < 2 ^ 31) : (firstPids n).Nodup := by
  refine List.nodup_range.map_on ?_
  intro i hi j hj hij
  have hin := List.mem_range.mp hi
  have hjn := List.mem_range.mp hj
  have hsucc := (Counter.ofNat_inj (by omega) (by omega)).mp hij
  omega

/-- Thread 0 fills the buffer with 256 processes and overflows with process 257.  Between its
flush and its next critical section thread 1 updates process 258. -/
def overflowRun : List (BatchEvent ℕ) :=
  ((firstPids CACHE_BUCKET_COUNT).map fun p => .update 0 p ⟨1, 0, 0⟩) ++
    ([.update 0 257 ⟨1, 0, 0⟩, .next 0 ⟨1, 10⟩] ++ [.update 1 258 ⟨1, 0, 0⟩, .next 0 ⟨2, 20⟩])

/-- The update of process 258 has returned and is lost. -/
theorem retry_drops_update :
    ¬ Always BatchWorld.step NoUpdateLost (.start (.fresh 0)) overflowRun := by
  intro h
  have hend := h.last
  revert hend
  rw [overflowRun, exec_append]
  have hlength : (firstPids CACHE_BUCKET_COUNT).length = CACHE_BUCKET_COUNT := by simp [firstPids]
  obtain ⟨hphase, hkeys, hpassed⟩ := exec_fill (BatchWorld.start (.fresh 0)) 0
    (firstPids CACHE_BUCKET_COUNT) ⟨1, 0, 0⟩ rfl (nodup_firstPids (by decide))
    (le_of_eq ((Nat.zero_add _).trans hlength))
  have hkeys' := hkeys.trans (List.nil_append _)
  have hfull := congrArg List.length hkeys'
  rw [List.length_map, hlength] at hfull
  refine overflow_loses (congrFun hphase 0) (congrFun hphase 1) (by decide) ?_ ?_ (by decide) ?_
    ⟨1, 0, 0⟩ ⟨1, 10⟩ ⟨2, 20⟩
  · rw [hfull]
    exact lt_irrefl _
  · rw [hkeys']
    exact notMem_firstPids (by decide) (by decide)
  · rw [hpassed, List.map_append, hkeys']
    exact notMem_firstPids (by decide) (by decide)

/-! ## What has been passed on is written -/

/-- What flushes have passed on is in the process table. -/
theorem processTable_exec (shm : SharedMemoryData) (es : List (BatchEvent T)) :
    processTable (exec BatchWorld.step (.start shm) es).shm =
      WriteBuffer.writeOut storeUsage (processTable shm)
        ((exec BatchWorld.step (.start shm) es).passed.map unnumbered) := by
  have hflush : ∀ (w : BatchWorld T) (clock : Clock),
      processTable w.shm = WriteBuffer.writeOut storeUsage (processTable shm)
        (w.passed.map unnumbered) →
      processTable (w.flush clock).shm = WriteBuffer.writeOut storeUsage (processTable shm)
        ((w.flush clock).passed.map unnumbered) := by
    intro w clock h
    obtain ⟨-, hpassed, hshm⟩ := batchFlush_spec w clock
    rw [hpassed, hshm, processTable_writeBatch, h, List.map_append, WriteBuffer.writeOut_append]
  refine exec_of_invariant (I := fun w : BatchWorld T =>
    processTable w.shm = WriteBuffer.writeOut storeUsage (processTable shm)
      (w.passed.map unnumbered)) ?_ rfl es
  intro w e h
  have hstep := batchStep w e
  generalize w.step e = w' at hstep ⊢
  cases hstep with
  | update t p usage =>
    cases hsub : w.buffer.submit p ⟨w.submitted, usage⟩ with
    | none =>
      rw [update_of_none hsub]
      exact h
    | some b =>
      rw [update_of_some hsub]
      exact h
  | flush t clock => exact hflush w clock h
  | flushFull clock hphase => exact hflush w clock h
  | retry clock hphase => exact h
  | none hspares => exact h

/-! ## Updates that nobody interrupts -/

/-- Numbers play no part in what the buffer takes. -/
theorem submit_unnumbered {b : BatchBuffer Submission} {c : BatchBuffer ResourceUsage}
    (h : c.entries = b.entries.map unnumbered) (p : Pid) (sub : Submission) :
    (b.submit p sub = none ∧ c.submit p sub.usage = none) ∨
      ∃ b' c', b.submit p sub = some b' ∧ c.submit p sub.usage = some c' ∧
        c'.entries = b'.entries.map unnumbered := by
  have hkeys : c.entries.map Prod.fst = b.entries.map Prod.fst := by
    rw [h, List.map_map]
    rfl
  have hlength : c.entries.length = b.entries.length := by rw [h, List.length_map]
  by_cases hmem : p ∈ b.entries.map Prod.fst
  · obtain ⟨b', hb, hb'⟩ := submit_merged b sub hmem
    obtain ⟨c', hc, hc'⟩ := submit_merged c sub.usage (hkeys ▸ hmem)
    refine Or.inr ⟨b', c', hb, hc, ?_⟩
    rw [hc', hb', h]
    exact WriteBuffer.replace_map Submission.usage p sub b.entries
  · by_cases hroom : b.entries.length < CACHE_BUCKET_COUNT
    · obtain ⟨b', hb, hb'⟩ := submit_added b sub hmem hroom
      obtain ⟨c', hc, hc'⟩ := submit_added c sub.usage (hkeys ▸ hmem) (hlength ▸ hroom)
      refine Or.inr ⟨b', c', hb, hc, ?_⟩
      rw [hc', hb', h, List.map_append]
      rfl
    · exact Or.inl ⟨submit_full b sub hmem hroom,
        submit_full c sub.usage (hkeys ▸ hmem) (hlength ▸ hroom)⟩

/-- Between two calls the threads and the optimizer share the buffer and the segment. -/
structure SerialView (w : BatchWorld T) (s : PerfOptimizer × SharedMemoryData) : Prop where
  batching : s.1.batchingEnabled = true
  entries : s.1.batchBuffer.entries = w.buffer.entries.map unnumbered
  shm : s.2 = w.shm
  idle : ∀ t, w.phase t = .idle

variable {s : PerfOptimizer × SharedMemoryData}

theorem SerialView.flush (h : SerialView w s) (t : T) (clock : Clock) :
    SerialView (exec BatchWorld.step w [.flush t clock]) (perfStep s (clock, .flush)) := by
  have hflush := flushed s.1 s.2 clock
  obtain ⟨hentries, -, hshm⟩ := batchFlush_spec w clock
  have hstep : w.step (.flush t clock) = w.flush clock := by
    simp only [BatchWorld.step, h.idle t]
  rw [exec_cons, hstep, exec_nil]
  refine ⟨hflush.switches.batchingEnabled.trans h.batching, ?_, ?_, h.idle⟩
  · rw [hentries]
    exact hflush.entries
  · rw [hshm, ← h.entries, ← h.shm]
    exact hflush.shm

/-- The critical sections of an update, one after the other, are the update. -/
theorem SerialView.update (h : SerialView w s) (t : T) (p : Pid) (usage : ResourceUsage)
    (clock : Clock) :
    SerialView (exec BatchWorld.step w (updateSteps t p usage clock))
      (perfStep s (clock, .update p usage)) := by
  have hstep : perfStep s (clock, .update p usage) =
      (perfOptimizerBatchUpdateResource s.1 s.2 p (some usage) clock).2 := rfl
  rw [hstep]
  rcases submit_unnumbered h.entries p ⟨w.submitted, usage⟩ with
    ⟨hnone, hnone'⟩ | ⟨b, c, hb, hc, hentries⟩
  · cases hf : perfOptimizerFlushBatchBuffer s.1 s.2 clock with
    | mk o d =>
      have hflush := flushed s.1 s.2 clock
      rw [hf] at hflush
      obtain ⟨hsw, hbuf⟩ := noteBatchedUpdate_kept
        { o with batchBuffer := o.batchBuffer.restart p usage } p usage clock
      have hover := overflowed (h.idle t) hnone clock
      have hsteps : updateSteps t p usage clock =
        [.update t p usage, .next t clock] ++ [.next t clock] := rfl
      rw [batchUpdate_of_none h.batching hnone' hf, hsteps, exec_append]
      generalize exec BatchWorld.step w [.update t p usage, .next t clock] = v at hover
      have hretry : v.phase t = .retry p ⟨w.submitted, usage⟩ := by
        rw [hover.phase, Function.update_self]
      rw [exec_cons, step_retry hretry, exec_nil]
      refine ⟨hsw.batchingEnabled.trans (hflush.switches.batchingEnabled.trans h.batching),
        ?_, ?_, ?_⟩
      · rw [hbuf]
        rfl
      · show d = v.shm
        rw [hover.shm, ← h.entries, ← h.shm]
        exact hflush.shm
      · intro t'
        show Function.update v.phase t .idle t' = .idle
        rw [hover.phase, Function.update_idem]
        by_cases ht : t' = t
        · rw [ht, Function.update_self]
        · rw [Function.update_of_ne ht, h.idle]
  · obtain ⟨hsw, hbuf⟩ := noteBatchedUpdate_kept { s.1 with batchBuffer := c } p usage clock
    rw [batchUpdate_of_some h.batching hc]
    have hnext : exec BatchWorld.step w (updateSteps t p usage clock) =
        { w with
          buffer := b
          submitted := w.submitted + 1
          returned := (p, ⟨w.submitted, usage⟩) :: w.returned } := by
      rw [updateSteps, exec_cons, step_update (h.idle t), update_of_some hb]
      simp only [exec_cons, exec_nil, BatchWorld.step, h.idle t]
    rw [hnext]
    refine ⟨hsw.batchingEnabled.trans h.batching, ?_, h.shm, h.idle⟩
    rw [hbuf]
    exact hentries

/-- A serial run of updates and flushes is one of the interleavings, whichever threads make
the calls. -/
theorem SerialView.exec (h : SerialView w s) {calls : List (T × Clock × PerfEvent)}
    (hcalls : ∀ c ∈ calls, c.2.2 = .flush ∨ ∃ p usage, c.2.2 = .update p usage) :
    SerialView (exec BatchWorld.step w (calls.flatMap callSteps))
      (Library.exec perfStep s (calls.map Prod.snd)) := by
  induction calls generalizing w s with
  | nil => exact h
  | cons c calls ih =>
    rw [List.flatMap_cons, exec_append, List.map_cons, exec_cons]
    refine ih ?_ fun c' hc' => hcalls c' (List.mem_cons_of_mem c hc')
    obtain ⟨t, clock, ev⟩ := c
    rcases hcalls (t, clock, ev) List.mem_cons_self with hev | ⟨p, usage, hev⟩
    · obtain rfl : ev = .flush := hev
      exact h.flush t clock
    · obtain rfl : ev = .update p usage := hev
      exact h.update t p usage clock

end RdmaIntercept.Analysis
