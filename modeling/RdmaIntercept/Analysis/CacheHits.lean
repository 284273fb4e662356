import RdmaIntercept.Model.ResourceCache

/-!
# What a cache hit answers

A hit is to answer the usage that was stored last for its process, by a call after which
the process was not invalidated nor the cache cleared.  An update made while the cache is
switched off is dropped and leaves the older entry of its process in place.  So hits are
current throughout a run exactly when no such entry is left whenever the cache is switched
on again.
-/

set_option autoImplicit false

namespace RdmaIntercept.Analysis

open RdmaIntercept.Library RdmaIntercept.Model

/-- The usage of the last update of process `p`, unless `p` was invalidated or the cache
cleared after it.  The last call comes first. -/
def storedUsage (p : Pid) : List CacheCall → Option ResourceUsage
  | [] => none
  | .update q usage :: history => if q = p then some usage else storedUsage p history
  | .invalidate q :: history => if q = p then none else storedUsage p history
  | .clear :: _ => none
  | _ :: history => storedUsage p history

/-- A look-up that may come next and hits answers the usage stored last, from an entry that
is not older than the time to live. -/
def HitsCurrent (s : CacheRun) : Prop :=
  ∀ (p : Pid) (clock : Clock) (usage : ResourceUsage),
    (perfOptimizerGetCachedResources s.opt p clock).1 = some usage →
      storedUsage p s.history = some usage ∧
        (clock.ms.toNat : ℤ) - (s.opt.cache.entry p).lastUpdate.toNat ≤ s.opt.cache.ttlMs.toNat

/-- No entry is out of date: a valid entry holds the usage stored last for its process. -/
def UpToDate (s : CacheRun) : Prop :=
  ∀ i, (s.opt.cache.entries i).valid = true →
    storedUsage (s.opt.cache.entries i).pid s.history = some (s.opt.cache.entries i).usage

/-- The cache is switched on only while no entry is out of date. -/
def SwitchedOnCurrent (s : CacheRun) (e : Clock × CacheCall) : Prop :=
  e.2 = .enable true → UpToDate s

/-- An entry lies where its process is looked for, and its process was updated and not
invalidated since. -/
structure CacheInv (s : CacheRun) : Prop where
  placed : ∀ i, (s.opt.cache.entries i).valid = true → hashPid (s.opt.cache.entries i).pid = i
  stored : ∀ i, (s.opt.cache.entries i).valid = true →
    ∃ usage, storedUsage (s.opt.cache.entries i).pid s.history = some usage

/-! ## Hits -/

/-- A look-up hits a valid entry of its process that is young enough. -/
theorem get_eq_some_iff (o : PerfOptimizer) (p : Pid) (clock : Clock) (usage : ResourceUsage) :
    (perfOptimizerGetCachedResources o p clock).1 = some usage ↔
      o.cacheEnabled = true ∧ (o.cache.entry p).valid = true ∧ (o.cache.entry p).pid = p ∧
        clock.ms - (o.cache.entry p).lastUpdate ≤ o.cache.ttlMs.toUInt64 ∧
        (o.cache.entry p).usage = usage := by
  unfold perfOptimizerGetCachedResources
  cases hon : o.cacheEnabled with
  | false => simp
  | true =>
    cases hvalid : (o.cache.entry p).valid with
    | false => simp [hvalid]
    | true =>
      by_cases hpid : (o.cache.entry p).pid = p
      · by_cases hage : o.cache.ttlMs.toUInt64 < clock.ms - (o.cache.entry p).lastUpdate
        · simp [hvalid, hpid, hage, UInt64.not_le.mpr hage]
        · simp [hvalid, hpid, hage, UInt64.not_lt.mp hage]
      · simp [hpid]

/-- A difference of two clock readings that is small in 64 bits is small. -/
theorem age_le {now last : UInt64} {ttl : UInt32} (h : now - last ≤ ttl.toUInt64) :
    (now.toNat : ℤ) - last.toNat ≤ ttl.toNat := by
  rw [UInt64.le_iff_toNat_le, UInt64.toNat_sub, UInt32.toNat_toUInt64] at h
  have hnow := now.toNat_lt
  have hlast := last.toNat_lt
  omega

/-- While the cache is on, hits are current exactly when the entries are up to date. -/
theorem hitsCurrent_iff {s : CacheRun} (h : CacheInv s) :
    HitsCurrent s ↔ (s.opt.cacheEnabled = true → UpToDate s) := by
  constructor
  · intro hhits hon i hvalid
    have hplaced := h.placed i hvalid
    have hentry : s.opt.cache.entry (s.opt.cache.entries i).pid = s.opt.cache.entries i := by
      unfold ResourceCache.entry
      rw [hplaced]
    -- looked up at the time of its update, the entry has the age 0
    have hhit := (get_eq_some_iff s.opt (s.opt.cache.entries i).pid
      ⟨(s.opt.cache.entries i).lastUpdate, 0⟩ (s.opt.cache.entries i).usage).mpr
      ⟨hon, by rw [hentry]; exact hvalid, by rw [hentry], by rw [hentry]; simp, by rw [hentry]⟩
    exact (hhits _ _ _ hhit).1
  · intro hdate p clock usage hhit
    obtain ⟨hon, hvalid, hpid, hage, husage⟩ := (get_eq_some_iff s.opt p clock usage).mp hhit
    have hstored := hdate hon (hashPid p) hvalid
    refine ⟨?_, age_le hage⟩
    calc storedUsage p s.history = storedUsage (s.opt.cache.entry p).pid s.history := by rw [hpid]
      _ = some (s.opt.cache.entry p).usage := hstored
      _ = some usage := by rw [husage]

/-! ## One call -/

/-- A look-up leaves the table, or it misses and takes out the entry of its process. -/
theorem get_entries_cases (o : PerfOptimizer) (p : Pid) (clock : Clock) :
    (perfOptimizerGetCachedResources o p clock).2.cache.entries = o.cache.entries ∨
      ((perfOptimizerGetCachedResources o p clock).2.cache.entries = (o.cache.drop p).entries ∧
        (o.cache.entry p).pid = p ∧ (perfOptimizerGetCachedResources o p clock).1 = none) := by
  unfold perfOptimizerGetCachedResources
  by_cases hoff : !o.cacheEnabled
  · rw [if_pos hoff]
    exact Or.inl rfl
  · rw [if_neg hoff]
    by_cases hmiss : !(o.cache.entry p).valid ∨ (o.cache.entry p).pid ≠ p
    · simp only [if_pos hmiss]
      exact Or.inl rfl
    · simp only [if_neg hmiss]
      by_cases hold : o.cache.ttlMs.toUInt64 < clock.ms - (o.cache.entry p).lastUpdate
      · rw [if_pos hold]
        exact Or.inr ⟨rfl, not_not.mp fun hpid => hmiss (Or.inr hpid), rfl⟩
      · rw [if_neg hold]
        exact Or.inl rfl

theorem entries_drop_of_ne (c : ResourceCache) {p : Pid} {i : Fin CACHE_BUCKET_COUNT}
    (h : i ≠ hashPid p) : (c.drop p).entries i = c.entries i := Function.update_of_ne h _ _

/-- A look-up takes an entry out or leaves it. -/
theorem entries_get (o : PerfOptimizer) (p : Pid) (clock : Clock) (i : Fin CACHE_BUCKET_COUNT)
    (h : ((perfOptimizerGetCachedResources o p clock).2.cache.entries i).valid = true) :
    (perfOptimizerGetCachedResources o p clock).2.cache.entries i = o.cache.entries i := by
  rcases get_entries_cases o p clock with hsame | ⟨hdrop, -, -⟩
  · exact congrFun hsame i
  · rw [hdrop] at h ⊢
    by_cases hi : i = hashPid p
    · simp [ResourceCache.drop, hi] at h
    · exact entries_drop_of_ne _ hi

/-- A look-up writes neither of the two settings. -/
theorem get_settings (o : PerfOptimizer) (p : Pid) (clock : Clock) :
    (perfOptimizerGetCachedResources o p clock).2.cacheEnabled = o.cacheEnabled ∧
      (perfOptimizerGetCachedResources o p clock).2.cache.ttlMs = o.cache.ttlMs := by
  unfold perfOptimizerGetCachedResources
  split
  · exact ⟨rfl, rfl⟩
  · simp only
    split
    · exact ⟨rfl, rfl⟩
    · split <;> exact ⟨rfl, rfl⟩

/-- An entry that is valid after a call held the same before and is spoken of alike by the
history, or it is the one that the call has just stored. -/
theorem entry_step {s : CacheRun} (h : CacheInv s) (e : Clock × CacheCall)
    (hkept : s.opt.cacheEnabled = true ∨ ∀ p usage, e.2 ≠ .update p usage)
    {i : Fin CACHE_BUCKET_COUNT} (hvalid : ((s.step e).opt.cache.entries i).valid = true) :
    ((s.step e).opt.cache.entries i = s.opt.cache.entries i ∧
      storedUsage (s.opt.cache.entries i).pid (s.step e).history =
        storedUsage (s.opt.cache.entries i).pid s.history) ∨
    (hashPid ((s.step e).opt.cache.entries i).pid = i ∧
      storedUsage ((s.step e).opt.cache.entries i).pid (s.step e).history =
        some ((s.step e).opt.cache.entries i).usage) := by
  obtain ⟨clock, c⟩ := e
  cases c with
  | update p usage =>
    have hon : s.opt.cacheEnabled = true := hkept.resolve_right fun hno => hno p usage rfl
    have hentries : (s.step (clock, .update p usage)).opt.cache.entries =
        Function.update s.opt.cache.entries (hashPid p)
          { s.opt.cache.entries (hashPid p) with
            pid := p, usage := usage, lastUpdate := clock.ms, valid := true } := by
      simp [CacheRun.step, CacheCall.exec, perfOptimizerUpdateCachedResources, hon]
    rw [hentries] at hvalid ⊢
    by_cases hi : i = hashPid p
    · right
      rw [hi, Function.update_self]
      exact ⟨rfl, if_pos rfl⟩
    · left
      rw [Function.update_of_ne hi] at hvalid ⊢
      refine ⟨rfl, if_neg ?_⟩
      rintro rfl
      exact hi (h.placed i hvalid).symm
  | invalidate p =>
    left
    by_cases hp : (s.opt.cache.entry p).pid = p
    · have hentries : (s.step (clock, .invalidate p)).opt.cache.entries =
          Function.update s.opt.cache.entries (hashPid p)
            { s.opt.cache.entry p with valid := false } := by
        simp [CacheRun.step, CacheCall.exec, perfOptimizerInvalidateCache, hp, ResourceCache.drop]
      rw [hentries] at hvalid ⊢
      by_cases hi : i = hashPid p
      · rw [hi, Function.update_self] at hvalid
        exact absurd hvalid Bool.false_ne_true
      · rw [Function.update_of_ne hi] at hvalid ⊢
        refine ⟨rfl, if_neg ?_⟩
        rintro rfl
        exact hi (h.placed i hvalid).symm
    · have hentries : (s.step (clock, .invalidate p)).opt.cache.entries = s.opt.cache.entries := by
        simp [CacheRun.step, CacheCall.exec, perfOptimizerInvalidateCache, hp]
      rw [hentries] at hvalid ⊢
      refine ⟨rfl, if_neg fun hi => hp ?_⟩
      have hplaced := h.placed i hvalid
      rw [← hi] at hplaced
      unfold ResourceCache.entry
      rw [hplaced, ← hi]
  | clear => exact absurd hvalid Bool.false_ne_true
  | setTtl ttl => exact Or.inl ⟨rfl, rfl⟩
  | enable on => exact Or.inl ⟨rfl, rfl⟩
  | get p => exact Or.inl ⟨entries_get s.opt p clock i hvalid, rfl⟩

/-- While the cache is on, every call keeps the entries up to date; an update made while it
is off is the only one that does not. -/
theorem UpToDate.step {s : CacheRun} (h : CacheInv s) (hdate : UpToDate s) (e : Clock × CacheCall)
    (hkept : s.opt.cacheEnabled = true ∨ ∀ p usage, e.2 ≠ .update p usage) :
    UpToDate (s.step e) := by
  intro i hvalid
  rcases entry_step h e hkept hvalid with ⟨hentry, hstored⟩ | ⟨-, hstored⟩
  · rw [hentry] at hvalid ⊢
    rw [hstored]
    exact hdate i hvalid
  · exact hstored

theorem CacheInv.step {s : CacheRun} (h : CacheInv s) (e : Clock × CacheCall) :
    CacheInv (s.step e) := by
  by_cases hkept : s.opt.cacheEnabled = true ∨ ∀ p usage, e.2 ≠ .update p usage
  · constructor
    · intro i hvalid
      rcases entry_step h e hkept hvalid with ⟨hentry, -⟩ | ⟨hplaced, -⟩
      · rw [hentry] at hvalid ⊢
        exact h.placed i hvalid
      · exact hplaced
    · intro i hvalid
      rcases entry_step h e hkept hvalid with ⟨hentry, hstored⟩ | ⟨-, hstored⟩
      · rw [hentry] at hvalid ⊢
        rw [hstored]
        exact h.stored i hvalid
      · exact ⟨_, hstored⟩
  · -- a dropped update changes the history only
    obtain ⟨hoff, hupdate⟩ := not_or.mp hkept
    push Not at hupdate
    obtain ⟨p, usage, he⟩ := hupdate
    obtain ⟨clock, c⟩ := e
    obtain rfl : c = .update p usage := he
    have hopt : (s.step (clock, .update p usage)).opt = s.opt := by
      simp [CacheRun.step, CacheCall.exec, perfOptimizerUpdateCachedResources, hoff]
    constructor
    · rw [hopt]
      exact h.placed
    · rw [hopt]
      intro i hvalid
      by_cases hp : p = (s.opt.cache.entries i).pid
      · exact ⟨usage, if_pos hp⟩
      · obtain ⟨u, hu⟩ := h.stored i hvalid
        exact ⟨u, (if_neg hp).trans hu⟩

theorem cacheInv_init (cacheEnabled batchingEnabled : Bool) (now : TimeT) :
    CacheInv (.init cacheEnabled batchingEnabled now) :=
  ⟨fun _ h => absurd h Bool.false_ne_true, fun _ h => absurd h Bool.false_ne_true⟩

/-- Only `perf_optimizer_enable_cache` writes the switch. -/
theorem cacheEnabled_step (s : CacheRun) {e : Clock × CacheCall} (h : ∀ on, e.2 ≠ .enable on) :
    (s.step e).opt.cacheEnabled = s.opt.cacheEnabled := by
  obtain ⟨clock, c⟩ := e
  cases c with
  | update p usage =>
    simp only [CacheRun.step, CacheCall.exec, perfOptimizerUpdateCachedResources]
    split <;> rfl
  | invalidate p =>
    simp only [CacheRun.step, CacheCall.exec, perfOptimizerInvalidateCache]
    split <;> rfl
  | clear => rfl
  | setTtl ttl => rfl
  | enable on => exact absurd rfl (h on)
  | get p => exact (get_settings s.opt p clock).1

/-! ## Runs -/

/-- The step lemma: hits stay current exactly when the call does not switch on a cache with
an entry that is out of date. -/
theorem hitsCurrent_step {s : CacheRun} (h : CacheInv s) (e : Clock × CacheCall)
    (hs : HitsCurrent s) : HitsCurrent (s.step e) ↔ SwitchedOnCurrent s e := by
  rw [hitsCurrent_iff (h.step e)]
  rw [hitsCurrent_iff h] at hs
  by_cases hswitch : ∃ on, e.2 = .enable on
  · obtain ⟨on, he⟩ := hswitch
    obtain ⟨clock, c⟩ := e
    obtain rfl : c = .enable on := he
    cases on with
    | false =>
      exact iff_of_true (fun hon => absurd hon Bool.false_ne_true)
        (fun hc => by simp at hc)
    | true => exact ⟨fun hdate _ => hdate rfl, fun hdate _ => hdate rfl⟩
  · push Not at hswitch
    refine iff_of_true ?_ (fun hc => absurd hc (hswitch true))
    rw [cacheEnabled_step s hswitch]
    intro hon
    exact (hs hon).step h e (Or.inl hon)

/-- Hits are current throughout a run exactly when the cache is never switched on with an
entry that is out of date. -/
theorem cacheHits_current_iff (cacheEnabled batchingEnabled : Bool) (now : TimeT)
    (calls : List (Clock × CacheCall)) :
    Always CacheRun.step HitsCurrent (.init cacheEnabled batchingEnabled now) calls ↔
      Along CacheRun.step SwitchedOnCurrent (.init cacheEnabled batchingEnabled now) calls := by
  have hinv := cacheInv_init cacheEnabled batchingEnabled now
  have hstart : HitsCurrent (.init cacheEnabled batchingEnabled now) :=
    (hitsCurrent_iff hinv).mpr fun _ _ h => absurd h Bool.false_ne_true
  exact always_iff_along (A := fun _ _ => True) (fun _ e h _ => h.step e)
    (fun _ e h _ hs => hitsCurrent_step h e hs) hinv hstart
    (along_of_forall (fun _ _ => trivial) _)

/-- An update made while the cache is off, after one made while it was on. -/
theorem cacheHits_afterSwitch :
    ¬ ∀ (cacheEnabled batchingEnabled : Bool) (now : TimeT) (calls : List (Clock × CacheCall)),
      Always CacheRun.step HitsCurrent (.init cacheEnabled batchingEnabled now) calls := by
  intro h
  let clock : Clock := ⟨0, 0⟩
  have hdate := (cacheHits_current_iff true true 0
    [(clock, .update 7 ⟨10, 20, 1024⟩), (clock, .enable false), (clock, .update 7 ⟨11, 20, 1024⟩),
      (clock, .enable true)]).mp (h true true 0 _)
  have hlast := hdate.2.2.2.1 rfl (hashPid 7) rfl
  have hwrong : some (⟨11, 20, 1024⟩ : ResourceUsage) = some ⟨10, 20, 1024⟩ := hlast
  simp at hwrong

end RdmaIntercept.Analysis
