import RdmaIntercept.Model.CacheAccesses

/-!
# The cache under its spin locks

The calls on an entry take its lock one after the other, and each answers as the call that is
modelled in one step (`entry_result`, `entry_answer`).  The test before the lock is taken reads
two words that a call may be writing at that time; when it fails, the look-up answers as the
cache would after some number of whole calls.
-/

set_option autoImplicit false

namespace RdmaIntercept.Analysis

open RdmaIntercept.Library RdmaIntercept.Model

/-! ## The accesses of one call -/

/-- The look-up under the lock, made without interruption. -/
theorem runAll_get (pid : Pid) (ttlMs : UInt32) (nowMs : UInt64) (e : CacheEntry) :
    SpinLock.runAll (getAccesses pid ttlMs nowMs) (.start, e) =
      if !e.valid ∨ e.pid ≠ pid then (⟨true, false, .zero⟩, e)
      else if ttlMs.toUInt64 < nowMs - e.lastUpdate then
        (⟨true, true, .zero⟩, { e with valid := false })
      else (⟨false, false, e.usage⟩, e) := by
  by_cases hvalid : e.valid = true
  · by_cases hpid : e.pid = pid
    · by_cases hage : ttlMs.toUInt64 < nowMs - e.lastUpdate <;>
        simp [getAccesses, loadEntry, storeEntry, testValid, testPid, testAge, copyWord,
          CacheRegs.start, hvalid, hpid, hage]
    · simp [getAccesses, loadEntry, storeEntry, testValid, testPid, testAge, copyWord,
        CacheRegs.start, hvalid, hpid]
  · simp [getAccesses, loadEntry, storeEntry, testValid, testPid, testAge, copyWord,
      CacheRegs.start, hvalid]

/-- The look-up as a whole. -/
theorem get_asRead (o : PerfOptimizer) (pid : Pid) (ttlMs : UInt32) (clock : Clock) :
    let e := o.cache.entries (hashPid pid)
    let got := perfOptimizerGetCachedResources (o.asRead ttlMs) pid clock
    (got.1, got.2.cache.entries (hashPid pid)) =
      if !e.valid ∨ e.pid ≠ pid then (none, e)
      else if ttlMs.toUInt64 < clock.ms - e.lastUpdate then (none, { e with valid := false })
      else (some e.usage, e) := by
  have hon : (o.asRead ttlMs).cacheEnabled = true := rfl
  have hentry : (o.asRead ttlMs).cache.entry pid = o.cache.entries (hashPid pid) := rfl
  have hread : (o.asRead ttlMs).cache.ttlMs = ttlMs := rfl
  simp only [perfOptimizerGetCachedResources, hon, hentry, hread, Bool.not_true,
    Bool.false_eq_true, if_false]
  split
  · rfl
  · split
    · simp only [noteMiss, ResourceCache.drop, hentry, Function.update_self]
    · rfl

/-- The accesses of a call, made without interruption, are the call. -/
theorem entry_result {op : EntryOp} {i : Fin CACHE_BUCKET_COUNT} (h : op.reaches i = true)
    (o : PerfOptimizer) :
    (op.section.result (o.cache.entries i)).2 = (op.exec o).cache.entries i := by
  cases op with
  | update pid usage nowMs =>
    obtain rfl := of_decide_eq_true h
    simp [SpinLock.Call.result, EntryOp.section, EntryOp.accesses, updateAccesses, storeEntry,
      EntryOp.exec, perfOptimizerUpdateCachedResources, PerfOptimizer.asRead]
  | invalidate pid =>
    obtain rfl := of_decide_eq_true h
    by_cases hpid : (o.cache.entries (hashPid pid)).pid = pid <;>
      simp [SpinLock.Call.result, EntryOp.section, EntryOp.accesses, invalidateAccesses, loadEntry,
        storeEntry, testPid, EntryOp.exec, perfOptimizerInvalidateCache, ResourceCache.entry,
        ResourceCache.drop, CacheRegs.start, hpid]
  | clear => rfl
  | get pid ttlMs nowMs =>
    obtain rfl := of_decide_eq_true h
    have hget := congrArg Prod.snd (get_asRead o pid ttlMs ⟨nowMs, 0⟩)
    refine Eq.trans ?_ hget.symm
    change (SpinLock.runAll (getAccesses pid ttlMs nowMs) (.start, _)).2 = _
    rw [runAll_get]
    split
    · rfl
    · split <;> rfl

/-- And they end with what the call answers. -/
theorem entry_answer {op : EntryOp} {i : Fin CACHE_BUCKET_COUNT} (h : op.reaches i = true)
    (o : PerfOptimizer) :
    op.answer (op.section.result (o.cache.entries i)).1 = op.returned o := by
  cases op with
  | get pid ttlMs nowMs =>
    obtain rfl := of_decide_eq_true h
    have hget := congrArg Prod.fst (get_asRead o pid ttlMs ⟨nowMs, 0⟩)
    refine Eq.trans ?_ hget.symm
    change (if (SpinLock.runAll (getAccesses pid ttlMs nowMs) (.start, _)).1.left then none
      else some (SpinLock.runAll (getAccesses pid ttlMs nowMs) (.start, _)).1.usage) = _
    rw [runAll_get]
    split
    · rfl
    · split <;> rfl
  | _ => rfl

/-! ## The test without the lock -/

/-- What makes the test fail. -/
def MissesQuickly (pid : Pid) (e : CacheEntry) : Prop := e.valid = false ∨ e.pid ≠ pid

theorem get_of_missesQuickly {o : PerfOptimizer} {pid : Pid}
    (h : MissesQuickly pid (o.cache.entries (hashPid pid))) (ttlMs : UInt32) (clock : Clock) :
    (perfOptimizerGetCachedResources (o.asRead ttlMs) pid clock).1 = none := by
  have hmiss : (!(o.cache.entries (hashPid pid)).valid) = true ∨
      (o.cache.entries (hashPid pid)).pid ≠ pid := by
    rcases h with hvalid | hpid
    · exact Or.inl (by rw [hvalid]; rfl)
    · exact Or.inr hpid
  have hget := congrArg Prod.fst (get_asRead o pid ttlMs clock)
  rwa [if_pos hmiss] at hget

/-- The other calls store no pid, and into `valid` nothing but 0. -/
theorem keeps_of_access {op : EntryOp} (hop : ∀ q usage nowMs, op ≠ .update q usage nowMs)
    {f : EntryAccess} (hf : f ∈ op.accesses) (x : CacheRegs × CacheEntry) :
    (f x).2.pid = x.2.pid ∧ (x.2.valid = false → (f x).2.valid = false) := by
  cases op with
  | update q usage nowMs => exact absurd rfl (hop q usage nowMs)
  | invalidate q =>
    simp only [EntryOp.accesses, invalidateAccesses, List.mem_cons, List.not_mem_nil,
      or_false] at hf
    rcases hf with rfl | rfl
    · exact ⟨rfl, fun h => h⟩
    · simp only [storeEntry]
      split
      · exact ⟨rfl, fun h => h⟩
      · exact ⟨rfl, fun _ => rfl⟩
  | clear =>
    simp only [EntryOp.accesses, clearAccesses, List.mem_singleton] at hf
    subst hf
    exact ⟨rfl, fun _ => rfl⟩
  | get q ttlMs nowMs =>
    simp only [EntryOp.accesses, getAccesses, List.mem_cons, List.not_mem_nil, or_false] at hf
    rcases hf with rfl | rfl | rfl | rfl | rfl | rfl | rfl
    · exact ⟨rfl, fun h => h⟩
    · exact ⟨rfl, fun h => h⟩
    · exact ⟨rfl, fun h => h⟩
    · simp only [storeEntry]
      split
      · exact ⟨rfl, fun _ => rfl⟩
      · exact ⟨rfl, fun h => h⟩
    · exact ⟨rfl, fun h => h⟩
    · exact ⟨rfl, fun h => h⟩
    · exact ⟨rfl, fun h => h⟩

/-- An update stores its pid, and into `valid` nothing but 1. -/
theorem keeps_of_update {q : Pid} {usage : ResourceUsage} {nowMs : UInt64} {f : EntryAccess}
    (hf : f ∈ updateAccesses q usage nowMs) (x : CacheRegs × CacheEntry) :
    ((f x).2.pid = x.2.pid ∨ (f x).2.pid = q) ∧
      ((f x).2.valid = x.2.valid ∨ (f x).2.valid = true) := by
  simp only [updateAccesses, List.mem_cons, List.not_mem_nil, or_false] at hf
  rcases hf with rfl | rfl | rfl | rfl | rfl | rfl
  · exact ⟨Or.inr rfl, Or.inl rfl⟩
  · exact ⟨Or.inl rfl, Or.inl rfl⟩
  · exact ⟨Or.inl rfl, Or.inl rfl⟩
  · exact ⟨Or.inl rfl, Or.inl rfl⟩
  · exact ⟨Or.inl rfl, Or.inl rfl⟩
  · exact ⟨Or.inl rfl, Or.inr rfl⟩

/-- A test that fails while a call is under way would fail before the call or after it. -/
theorem missesQuickly_partly {pid : Pid} {op : EntryOp} {e : CacheEntry}
    {before rest : List EntryAccess} (hbody : op.accesses = before ++ rest)
    (h : MissesQuickly pid (SpinLock.runAll before (.start, e)).2) :
    MissesQuickly pid e ∨ MissesQuickly pid (op.section.result e).2 := by
  have hbefore : ∀ f ∈ before, f ∈ op.accesses := fun f hf => hbody ▸ List.mem_append_left _ hf
  have hrest : ∀ f ∈ rest, f ∈ op.accesses := fun f hf => hbody ▸ List.mem_append_right _ hf
  by_cases hop : ∃ q usage nowMs, op = .update q usage nowMs
  · obtain ⟨q, usage, nowMs, rfl⟩ := hop
    have hkept := SpinLock.runAll_of_mem (x := (CacheRegs.start, e))
      (I := fun x : CacheRegs × CacheEntry =>
        (x.2.pid = e.pid ∨ x.2.pid = q) ∧ (x.2.valid = e.valid ∨ x.2.valid = true))
      (fun f hf x hx => by
        obtain ⟨hpid, hvalid⟩ := keeps_of_update (hbefore f hf) x
        constructor
        · rcases hpid with hpid | hpid
          · rw [hpid]
            exact hx.1
          · exact Or.inr hpid
        · rcases hvalid with hvalid | hvalid
          · rw [hvalid]
            exact hx.2
          · exact Or.inr hvalid) ⟨Or.inl rfl, Or.inl rfl⟩
    obtain ⟨hpid, hvalid⟩ := hkept
    rcases h with hinvalid | hother
    · rcases hvalid with hvalid | hvalid
      · exact Or.inl (Or.inl (hvalid.symm.trans hinvalid))
      · exact absurd (hvalid.symm.trans hinvalid) Bool.false_ne_true.symm
    · rcases hpid with hpid | hpid
      · exact Or.inl (Or.inr (hpid ▸ hother))
      · -- the whole update leaves its pid
        exact Or.inr (Or.inr (hpid ▸ hother))
  · have hno : ∀ q usage nowMs, op ≠ .update q usage nowMs :=
      fun q usage nowMs heq => hop ⟨q, usage, nowMs, heq⟩
    rcases h with hinvalid | hother
    · refine Or.inr (Or.inl ?_)
      rw [SpinLock.Call.result, EntryOp.section, hbody, SpinLock.runAll_append]
      exact SpinLock.runAll_of_mem (I := fun x : CacheRegs × CacheEntry => x.2.valid = false)
        (fun f hf x hx => (keeps_of_access hno (hrest f hf) x).2 hx) hinvalid
    · have hpid := SpinLock.runAll_of_mem (x := (CacheRegs.start, e))
        (I := fun x : CacheRegs × CacheEntry => x.2.pid = e.pid)
        (fun f hf x hx => (keeps_of_access hno (hbefore f hf) x).1.trans hx) rfl
      exact Or.inl (Or.inr (hpid ▸ hother))

/-! ## Every interleaving of the accesses -/

section Runs

variable {T : Type}

/-- The call as the lock sees it. -/
def entrySection (c : T × EntryOp) : T × SpinLock.Call CacheRegs CacheEntry Unit :=
  (c.1, c.2.section)

variable {i : Fin CACHE_BUCKET_COUNT}

theorem entry_whole (o : PerfOptimizer) (c : T × EntryOp) (_ : True) (hc : c.2.reaches i = true) :
    True ∧ ((entrySection c).2.result (o.cache.entries i)).2 = (c.2.exec o).cache.entries i :=
  ⟨trivial, entry_result hc o⟩

theorem after_entrySections {calls : List (T × EntryOp)} (h : ∀ c ∈ calls, c.2.reaches i = true)
    (o : PerfOptimizer) :
    SpinLock.after (o.cache.entries i) (calls.map entrySection) =
      (o.serially calls).cache.entries i :=
  (SpinLock.after_whole (fun o : PerfOptimizer => o.cache.entries i) entry_whole h trivial).2

theorem replies_entrySections {calls : List (T × EntryOp)}
    (h : ∀ c ∈ calls, c.2.reaches i = true) (o : PerfOptimizer) :
    List.zipWith (fun (c : T × EntryOp) a => (a.1, c.2.answer a.2)) calls
      (SpinLock.replies (o.cache.entries i) (calls.map entrySection)) = o.returns calls := by
  refine SpinLock.replies_whole (fun o : PerfOptimizer => o.cache.entries i)
    (fun c r => c.2.answer r) PerfOptimizer.returns entry_whole (fun _ => rfl) ?_ h trivial
  intro o c calls _ hc
  rw [PerfOptimizer.returns, ← entry_answer hc]
  rfl

variable [DecidableEq T]

theorem serial_entryRun (o : PerfOptimizer) (i : Fin CACHE_BUCKET_COUNT)
    (es : List (EntryEvent T)) : SpinLock.Serial (o.cache.entries i) (entryRun o i es) :=
  (SpinLock.serial_initial _ ()).exec _

theorem entryRun_append (o : PerfOptimizer) (i : Fin CACHE_BUCKET_COUNT)
    (es later : List (EntryEvent T)) : entryRun o i (es ++ later) =
      exec SpinLock.State.step (entryRun o i es) (later.filterMap (EntryEvent.step i)) := by
  rw [entryRun, entryRun, List.filterMap_append, exec_append]

theorem entryRun_grows (o : PerfOptimizer) (i : Fin CACHE_BUCKET_COUNT)
    (es later : List (EntryEvent T)) :
    (entryRun o i es).taken <+: (entryRun o i (es ++ later)).taken ∧
      (entryRun o i es).answers <+: (entryRun o i (es ++ later)).answers := by
  rw [entryRun_append]
  exact SpinLock.exec_prefix _ _

/-- Every call under the lock is a call that comes to the entry. -/
theorem exists_entryCalls (o : PerfOptimizer) (i : Fin CACHE_BUCKET_COUNT)
    (es : List (EntryEvent T)) :
    ∃ calls : List (T × EntryOp), (∀ c ∈ calls, c.2.reaches i = true) ∧
      calls.map entrySection = (entryRun o i es).taken := by
  have hmade : SpinLock.Made (fun _ c => ∃ op : EntryOp, op.reaches i = true ∧ op.section = c)
      (entryRun o i es) := by
    refine SpinLock.made_exec (SpinLock.made_initial _ _ ()) fun t c hc => ?_
    obtain ⟨e, -, hstep⟩ := List.mem_filterMap.mp hc
    cases e with
    | get t' pid =>
      simp only [EntryEvent.step] at hstep
      split at hstep <;> cases hstep
    | call t' op =>
      simp only [EntryEvent.step] at hstep
      split at hstep
      · rename_i hop
        cases hstep
        exact ⟨op, hop, rfl⟩
      · cases hstep
    | run t' => cases hstep
    | die t' => cases hstep
  refine SpinLock.exists_map_eq fun tc htc => ?_
  obtain ⟨op, hop, hsection⟩ := hmade.1 tc htc
  exact ⟨(tc.1, op), hop, by rw [entrySection, hsection]⟩

/-- The calls of a thread in the run, as the lock sees them. -/
theorem asked_entryRun (i : Fin CACHE_BUCKET_COUNT) (t : T) (es : List (EntryEvent T)) :
    (es.filterMap (EntryEvent.step i)).filterMap (SpinLock.Event.asked t) =
      (es.filterMap (EntryEvent.madeBy i t)).map EntryOp.section := by
  rw [List.filterMap_filterMap, List.map_filterMap]
  congr 1
  funext e
  cases e with
  | get t' pid =>
    simp only [EntryEvent.step, EntryEvent.madeBy]
    split <;> rfl
  | call t' op =>
    by_cases hop : op.reaches i = true
    · by_cases ht : t' = t <;>
        simp [EntryEvent.step, EntryEvent.madeBy, SpinLock.Event.asked, hop, ht]
    · simp [EntryEvent.step, EntryEvent.madeBy, hop]
  | run t' => rfl
  | die t' => rfl

theorem begins_of_entryContinues {t : T} {e : EntryEvent T} (h : e.continues t = true)
    {e' : SpinLock.Event T CacheRegs CacheEntry Unit} (he : e.step i = some e') :
    e'.begins t = false := by
  cases e with
  | get t' pid =>
    simp only [EntryEvent.step] at he
    split at he
    · cases he
      exact decide_eq_false (of_decide_eq_true h)
    · cases he
  | call t' op =>
    simp only [EntryEvent.step] at he
    split at he
    · cases he
      exact decide_eq_false (of_decide_eq_true h)
    · cases he
  | run t' =>
    cases he
    rfl
  | die t' =>
    cases he
    rfl

/-- The entry as it is at some moment between the beginning `e` of a test and now. -/
def DuringTest (o : PerfOptimizer) (i : Fin CACHE_BUCKET_COUNT) (es : List (EntryEvent T))
    (e : EntryEvent T) (later : List (EntryEvent T)) (entry : CacheEntry) : Prop :=
  ∃ now, now <+: later ∧ entry = (entryRun o i (es ++ e :: now)).data

/-- How far a test has got; `M` holds of the entries that it may have found. -/
def Testing (M : CacheEntry → Prop) (pid : Pid) (rest : List (CacheRegs → CacheEntry → CacheRegs))
    (r : CacheRegs) (_ : CacheEntry) : Prop :=
  (rest = quickReads pid ∨ rest = [testPid pid] ∨ rest = []) ∧
    (r.left = true → ∃ e, M e ∧ MissesQuickly pid e)

theorem Testing.read {M : CacheEntry → Prop} {pid : Pid}
    {f : CacheRegs → CacheEntry → CacheRegs} {rest : List (CacheRegs → CacheEntry → CacheRegs)}
    {r : CacheRegs} {e : CacheEntry} (hM : M e) (h : Testing M pid (f :: rest) r e) :
    Testing M pid rest (f r e) e := by
  obtain ⟨hrest | hrest | hrest, hfound⟩ := h
  · obtain ⟨rfl, rfl⟩ := List.cons.inj hrest
    refine ⟨Or.inr (Or.inl rfl), fun hleft => ?_⟩
    cases hvalid : e.valid with
    | true =>
      rw [testValid, if_pos hvalid] at hleft
      exact hfound hleft
    | false => exact ⟨e, hM, Or.inl hvalid⟩
  · obtain ⟨rfl, rfl⟩ := List.cons.inj hrest
    refine ⟨Or.inr (Or.inr rfl), fun hleft => ?_⟩
    by_cases hpid : e.pid = pid
    · have hsame : testPid pid r e = r := if_neg fun h => h.2 hpid
      rw [hsame] at hleft
      exact hfound hleft
    · exact ⟨e, hM, Or.inr hpid⟩
  · cases hrest

theorem entryRun_get {o : PerfOptimizer} {es : List (EntryEvent T)} {t : T} {pid : Pid}
    (hpid : hashPid pid = i) (halive : (entryRun o i es).alive t = true)
    (hready : ((entryRun o i es).phase t).atRest = true) :
    entryRun o i (es ++ [.get t pid]) =
      (entryRun o i es).setPhase t (.looking .start (quickReads pid)) := by
  have hstep : (EntryEvent.get t pid).step i = some (.look t .start (quickReads pid)) :=
    if_pos hpid
  rw [entryRun_append, List.filterMap_cons_some hstep, List.filterMap_nil, exec_cons, exec_nil]
  exact if_pos ⟨halive, hready⟩

/-- A test that has failed has failed on an entry that it has found. -/
theorem exists_missesQuickly {o : PerfOptimizer} {es : List (EntryEvent T)} {t : T} {pid : Pid}
    (hpid : hashPid pid = i) (halive : (entryRun o i es).alive t = true)
    (hready : ((entryRun o i es).phase t).atRest = true) {later : List (EntryEvent T)}
    (hlater : ∀ e ∈ later, e.continues t = true) {regs : CacheRegs}
    (hover : (entryRun o i (es ++ .get t pid :: later)).phase t = .looking regs [])
    (hleft : regs.left = true) :
    ∃ entry, DuringTest o i es (.get t pid) later entry ∧ MissesQuickly pid entry := by
  have hbegun := entryRun_get hpid halive hready
  have hsplit : ∀ now : List (EntryEvent T), entryRun o i (es ++ .get t pid :: now) =
      exec SpinLock.State.step (entryRun o i (es ++ [.get t pid]))
        (now.filterMap (EntryEvent.step i)) := by
    intro now
    rw [← entryRun_append, List.append_assoc]
    rfl
  have hduring : Along SpinLock.State.step
      (fun s _ => DuringTest o i es (.get t pid) later s.data)
      (entryRun o i (es ++ [.get t pid])) (later.filterMap (EntryEvent.step i)) := by
    apply along_iff_split.mpr
    intro pre e post hes
    obtain ⟨now, hnow, rfl⟩ := List.prefix_filterMap_iff.mp ⟨e :: post, hes.symm⟩
    exact ⟨now, hnow, congrArg SpinLock.State.data (hsplit now).symm⟩
  have hgoesOn : ∀ e ∈ later.filterMap (EntryEvent.step i), e.begins t = false := by
    intro e he
    obtain ⟨e', he', hstep⟩ := List.mem_filterMap.mp he
    exact begins_of_entryContinues (hlater e' he') hstep
  obtain ⟨regs', rest, hend, -, hfound⟩ := SpinLock.look_rule
    (J := Testing (DuringTest o i es (.get t pid) later) pid) (K := fun _ _ => True)
    (D := DuringTest o i es (.get t pid) later) (s := entryRun o i (es ++ [.get t pid]))
    (fun f rest r d hM htest => htest.read hM) (fun rest r d d' _ htest => htest)
    (by rw [hbegun, SpinLock.setPhase_self]) ⟨Or.inl rfl, fun h => absurd h Bool.false_ne_true⟩
    (hduring.mono fun s e h => ⟨h, trivial⟩) hgoesOn
  obtain ⟨rfl, rfl⟩ := SpinLock.Phase.looking.inj (hend.symm.trans ((hsplit later).symm ▸ hover))
  exact hfound hleft

/-! ## The answers -/

/-- The run `es` at entry `i` is explained by `calls`: they are the calls that take the lock, in
this order, each thread's in the order in which it has made them; whenever the lock is free the
entry and the answers are those of these calls made one after the other; and a test without the
lock that fails is answered as after a number of them, no fewer than were over when the test
began and no more than had taken the lock when it ended. -/
structure EntryExplainedBy (o : PerfOptimizer) (i : Fin CACHE_BUCKET_COUNT)
    (es : List (EntryEvent T)) (calls : List (T × EntryOp)) : Prop where
  taken : (entryRun o i es).taken = calls.map entrySection
  reaches : ∀ c ∈ calls, c.2.reaches i = true
  program : ∀ t, List.Sublist ((calls.filter fun c => c.1 = t).map fun c => c.2.section)
    ((es.filterMap (EntryEvent.madeBy i t)).map EntryOp.section)
  serial : (entryRun o i es).locked = false →
    (entryRun o i es).data = (o.serially calls).cache.entries i ∧
      EntryState.answered (entryRun o i es) calls = o.returns calls
  tested : ∀ before t pid later after regs, es = before ++ .get t pid :: later ++ after →
    hashPid pid = i → (entryRun o i before).alive t = true →
    ((entryRun o i before).phase t).atRest = true → (∀ e ∈ later, e.continues t = true) →
    (entryRun o i (before ++ .get t pid :: later)).phase t = .looking regs [] →
    regs.left = true → ∃ n, (entryRun o i before).answers.length ≤ n ∧
      n ≤ (entryRun o i (before ++ .get t pid :: later)).taken.length ∧
      ∀ ttlMs clock, (perfOptimizerGetCachedResources
        ((o.serially (calls.take n)).asRead ttlMs) pid clock).1 = none

/-- What makes a test fail at some moment makes it fail after a number of whole calls. -/
theorem exists_serially {o : PerfOptimizer} {now : List (EntryEvent T)}
    {calls : List (T × EntryOp)} (hreach : ∀ c ∈ calls, c.2.reaches i = true)
    (hcalls : (entryRun o i now).taken <+: calls.map entrySection) {pid : Pid}
    (h : MissesQuickly pid (entryRun o i now).data) :
    ∃ n, (entryRun o i now).answers.length ≤ n ∧ n ≤ (entryRun o i now).taken.length ∧
      MissesQuickly pid ((o.serially (calls.take n)).cache.entries i) := by
  obtain ⟨n, hmin, hmax, hafter⟩ := (serial_entryRun o i now).exists_after h (by
    intro tc htc d before rest hbody hpartly
    obtain ⟨c, -, rfl⟩ := List.mem_map.mp (hcalls.subset htc)
    exact missesQuickly_partly hbody hpartly)
  refine ⟨n, hmin, hmax, ?_⟩
  have htake : (entryRun o i now).taken.take n = (calls.take n).map entrySection := by
    obtain ⟨more, hmore⟩ := hcalls
    rw [List.map_take, ← hmore, List.take_append_of_le_length hmax]
  rwa [htake, after_entrySections fun c hc => hreach c (List.mem_of_mem_take hc)] at hafter

/-- Every interleaving of the accesses of all threads to an entry of the cache, some of which
may stop for ever on the way, is explained by its calls in the order in which they took the
lock. -/
theorem entry_linearizable (o : PerfOptimizer) (i : Fin CACHE_BUCKET_COUNT)
    (es : List (EntryEvent T)) : ∃ calls, EntryExplainedBy o i es calls := by
  obtain ⟨calls, hreach, hcalls⟩ := exists_entryCalls o i es
  refine ⟨calls, hcalls.symm, hreach, ?_, ?_, ?_⟩
  · intro t
    obtain ⟨more, hmore, hsub⟩ := SpinLock.callsOf_exec
      (SpinLock.State.initial (o.cache.entries i) () : EntryState T)
      (es.filterMap (EntryEvent.step i)) t
    rw [asked_entryRun] at hsub
    refine List.Sublist.trans ?_ hsub
    have hall : (entryRun o i es).callsOf t = more := hmore
    rw [← hall, SpinLock.State.callsOf, ← hcalls, List.filter_map, List.map_map]
    exact List.sublist_append_left _ _
  · intro hfree
    obtain ⟨hdata, hanswers, -⟩ := (serial_entryRun o i es).free hfree
    rw [← hcalls] at hdata hanswers
    constructor
    · rw [hdata, after_entrySections hreach]
    · rw [EntryState.answered, hanswers]
      exact replies_entrySections hreach o
  · intro before t pid later after regs hes hpid halive hready hlater hover hleft
    obtain ⟨entry, ⟨now, ⟨rest, rfl⟩, rfl⟩, hmiss⟩ :=
      exists_missesQuickly hpid halive hready hlater hover hleft
    -- the moment `now` lies between the beginning of the test and its end
    have hmoment : es = (before ++ .get t pid :: now) ++ (rest ++ after) := by
      rw [hes]
      simp
    have htaken : (entryRun o i (before ++ .get t pid :: now)).taken <+:
        calls.map entrySection := by
      rw [hcalls, hmoment]
      exact (entryRun_grows o i _ _).1
    obtain ⟨n, hmin, hmax, hserial⟩ := exists_serially hreach htaken hmiss
    have hbefore := (entryRun_grows o i before (.get t pid :: now)).2.length_le
    have hafter := (entryRun_grows o i (before ++ .get t pid :: now) rest).1.length_le
    rw [List.append_assoc, List.cons_append] at hafter
    refine ⟨n, hbefore.trans hmin, hmax.trans hafter, fun ttlMs clock => ?_⟩
    rw [← hpid] at hserial
    exact get_of_missesQuickly hserial ttlMs clock

end Runs

end RdmaIntercept.Analysis
