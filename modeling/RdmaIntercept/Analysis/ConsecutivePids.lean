import Mathlib.Data.Int.ModEq
import Mathlib.Data.Nat.ModEq
import RdmaIntercept.Library.Counter
import RdmaIntercept.Analysis.CacheHits

/-!
# Consecutive PIDs

The bucket of a process is a multiplicative hash of its PID.  The factor is odd and the number
of buckets a power of two, so two PIDs share a bucket exactly when they agree modulo the number
of buckets, and any 256 consecutive PIDs have one each.  Updates of such processes therefore do
not evict one another: within the time to live every one of them is answered from the cache.
-/

set_option autoImplicit false

namespace RdmaIntercept.Analysis

open RdmaIntercept.Library RdmaIntercept.Model

/-! ## Multiplicative hashing -/

/-- A hash that multiplies in words of size `w` and reduces to `m` buckets separates what differs
modulo `m`, if `m` divides `w` and the factor is coprime to `m`. -/
theorem mulHash_eq_iff {a m w : ℕ} (hdvd : m ∣ w) (ha : Nat.gcd m a = 1) (x y : ℕ) :
    x * a % w % m = y * a % w % m ↔ x ≡ y [MOD m] := by
  rw [Nat.mod_mod_of_dvd _ hdvd, Nat.mod_mod_of_dvd _ hdvd]
  constructor
  · intro h
    exact Nat.ModEq.cancel_right_of_coprime ha h
  · intro h
    exact h.mul_right a

/-- No two numbers of a window of length `m` agree modulo `m`. -/
theorem eq_of_modEq_of_window {b x y m : ℤ} (hx : b ≤ x ∧ x < b + m) (hy : b ≤ y ∧ y < b + m)
    (h : x ≡ y [ZMOD m]) : x = y := by
  have hdvd : m ∣ x - y := h.symm.dvd
  have habs : |x - y| < m := by
    rw [abs_lt]
    omega
  have hzero := Int.eq_zero_of_abs_lt_dvd hdvd habs
  omega

/-- Two PIDs have the same bucket exactly when they agree modulo the number of buckets. -/
theorem hashPid_eq_iff (p q : Pid) : hashPid p = hashPid q ↔ p.toInt ≡ q.toInt [ZMOD 256] := by
  have hval : ∀ r : Pid, (hashPid r).val = r.toUInt32.toNat * 2654435761 % 2 ^ 32 % 256 := by
    intro r
    rw [← UInt32.toNat_ofNat_of_lt' (show 2654435761 < UInt32.size by decide), ← UInt32.toNat_mul]
    rfl
  have hcast : ∀ r : Pid, (r.toUInt32.toNat : ℤ) ≡ r.toInt [ZMOD 256] := by
    intro r
    rw [Counter.natCast_toNat_toUInt32, Int.ModEq]
    exact Int.emod_emod_of_dvd _ (by decide)
  rw [Fin.ext_iff, hval, hval, mulHash_eq_iff (by decide) (by decide), ← Int.natCast_modEq_iff]
  exact ⟨fun h => (hcast p).symm.trans (h.trans (hcast q)),
    fun h => (hcast p).trans (h.trans (hcast q).symm)⟩

/-! ## Updates and look-ups -/

/-- A call of `perf_optimizer_update_cached_resources`. -/
structure CacheUpdate where
  pid : Pid
  usage : ResourceUsage
  clock : Clock

/-- A call of `perf_optimizer_get_cached_resources`. -/
structure CacheLookup where
  pid : Pid
  clock : Clock

def CacheUpdate.exec (o : PerfOptimizer) (u : CacheUpdate) : PerfOptimizer :=
  perfOptimizerUpdateCachedResources o u.pid (some u.usage) u.clock

def CacheLookup.exec (o : PerfOptimizer) (l : CacheLookup) : PerfOptimizer :=
  (perfOptimizerGetCachedResources o l.pid l.clock).2

/-- A reading of the clock that is not before an update and not later than the time to live. -/
def WithinTtl (ttlMs : UInt32) (u : CacheUpdate) (clock : Clock) : Prop :=
  u.clock.ms ≤ clock.ms ∧ clock.ms.toNat ≤ u.clock.ms.toNat + ttlMs.toNat

instance (ttlMs : UInt32) (u : CacheUpdate) (clock : Clock) :
    Decidable (WithinTtl ttlMs u clock) := by
  unfold WithinTtl
  infer_instance

/-- The cache is on and holds what the update `u` has stored. -/
structure Holds (ttlMs : UInt32) (u : CacheUpdate) (o : PerfOptimizer) : Prop where
  enabled : o.cacheEnabled = true
  ttl : o.cache.ttlMs = ttlMs
  valid : (o.cache.entry u.pid).valid = true
  pid : (o.cache.entry u.pid).pid = u.pid
  usage : (o.cache.entry u.pid).usage = u.usage
  lastUpdate : (o.cache.entry u.pid).lastUpdate = u.clock.ms

variable {ttlMs : UInt32} {o : PerfOptimizer} {u : CacheUpdate}

/-- With the cache on, an update stores the usage and leaves the two settings. -/
theorem entries_update (hon : o.cacheEnabled = true) (u : CacheUpdate) :
    (u.exec o).cacheEnabled = true ∧ (u.exec o).cache.ttlMs = o.cache.ttlMs ∧
      (u.exec o).cache.entries = Function.update o.cache.entries (hashPid u.pid)
        { o.cache.entry u.pid with
          pid := u.pid, usage := u.usage, lastUpdate := u.clock.ms, valid := true } := by
  simp only [CacheUpdate.exec, perfOptimizerUpdateCachedResources, hon, Bool.not_true,
    Bool.false_eq_true, if_false, true_and]
  rfl

/-- The entry of the process and the two settings are all that is looked at. -/
theorem Holds.congr (h : Holds ttlMs u o) {o' : PerfOptimizer}
    (hon : o'.cacheEnabled = o.cacheEnabled) (httl : o'.cache.ttlMs = o.cache.ttlMs)
    (hentry : o'.cache.entry u.pid = o.cache.entry u.pid) : Holds ttlMs u o' where
  enabled := hon.trans h.enabled
  ttl := httl.trans h.ttl
  valid := by rw [hentry]; exact h.valid
  pid := by rw [hentry]; exact h.pid
  usage := by rw [hentry]; exact h.usage
  lastUpdate := by rw [hentry]; exact h.lastUpdate

theorem Holds.of_update (hon : o.cacheEnabled = true) (httl : o.cache.ttlMs = ttlMs)
    (u : CacheUpdate) : Holds ttlMs u (u.exec o) := by
  obtain ⟨henabled, hsame, hentries⟩ := entries_update hon u
  have hentry : (u.exec o).cache.entry u.pid = { o.cache.entry u.pid with
      pid := u.pid, usage := u.usage, lastUpdate := u.clock.ms, valid := true } := by
    rw [ResourceCache.entry, hentries, Function.update_self]
  exact ⟨henabled, hsame.trans httl, by rw [hentry], by rw [hentry], by rw [hentry], by rw [hentry]⟩

/-- An update of a process with another bucket leaves the entry. -/
theorem Holds.update (h : Holds ttlMs u o) {v : CacheUpdate} (hne : hashPid u.pid ≠ hashPid v.pid) :
    Holds ttlMs u (v.exec o) := by
  obtain ⟨henabled, hsame, hentries⟩ := entries_update h.enabled v
  have hentry : (v.exec o).cache.entry u.pid = o.cache.entry u.pid := by
    rw [ResourceCache.entry, hentries, Function.update_of_ne hne]
    rfl
  exact h.congr (henabled.trans h.enabled.symm) hsame hentry

/-- Within the time to live a look-up of the process hits. -/
theorem Holds.hit (h : Holds ttlMs u o) {clock : Clock} (hage : WithinTtl ttlMs u clock) :
    (perfOptimizerGetCachedResources o u.pid clock).1 = some u.usage := by
  refine (get_eq_some_iff o u.pid clock u.usage).mpr ⟨h.enabled, h.valid, h.pid, ?_, h.usage⟩
  rw [h.lastUpdate, h.ttl, UInt64.le_iff_toNat_le, UInt64.toNat_sub_of_le _ _ hage.1,
    UInt32.toNat_toUInt64]
  have hlate := hage.2
  omega

/-- A look-up takes out only an entry of its own process that is too old. -/
theorem Holds.lookup (h : Holds ttlMs u o) {l : CacheLookup}
    (hage : l.pid = u.pid → WithinTtl ttlMs u l.clock) : Holds ttlMs u (l.exec o) := by
  have hswitch := get_settings o l.pid l.clock
  have hentry : (l.exec o).cache.entry u.pid = o.cache.entry u.pid := by
    rcases get_entries_cases o l.pid l.clock with hsame | ⟨hdrop, hpid, hold⟩
    · exact congrFun hsame _
    · have hne : hashPid u.pid ≠ hashPid l.pid := by
        intro hbucket
        have hown : l.pid = u.pid := by
          rw [← hpid, ResourceCache.entry, ← hbucket]
          exact h.pid
        have hhit := h.hit (hage hown)
        rw [← hown, hold] at hhit
        exact Option.some_ne_none _ hhit.symm
      rw [ResourceCache.entry, CacheLookup.exec, hdrop, entries_drop_of_ne _ hne]
      rfl
  exact h.congr hswitch.1 hswitch.2 hentry

/-! ## Runs -/

/-- With the cache on, updates leave the two settings. -/
theorem settings_exec_update (hon : o.cacheEnabled = true) (updates : List CacheUpdate) :
    (exec CacheUpdate.exec o updates).cacheEnabled = true ∧
      (exec CacheUpdate.exec o updates).cache.ttlMs = o.cache.ttlMs := by
  have hstep : ∀ o' (v : CacheUpdate),
      (o'.cacheEnabled = true ∧ o'.cache.ttlMs = o.cache.ttlMs) →
        (v.exec o').cacheEnabled = true ∧ (v.exec o').cache.ttlMs = o.cache.ttlMs := by
    rintro o' v ⟨hon', httl⟩
    obtain ⟨henabled, hsame, -⟩ := entries_update hon' v
    exact ⟨henabled, hsame.trans httl⟩
  exact exec_of_invariant hstep ⟨hon, rfl⟩ updates

/-- Of updates with different buckets none evicts another. -/
theorem holds_of_separate (hon : o.cacheEnabled = true) {updates : List CacheUpdate}
    (hsep : (updates.map fun v => hashPid v.pid).Nodup) (hu : u ∈ updates) :
    Holds o.cache.ttlMs u (exec CacheUpdate.exec o updates) := by
  obtain ⟨before, after, rfl⟩ := List.append_of_mem hu
  obtain ⟨hon', httl⟩ := settings_exec_update hon before
  rw [List.map_append, List.map_cons, List.nodup_append] at hsep
  have hother : ∀ v ∈ after, hashPid u.pid ≠ hashPid v.pid := by
    intro v hv hbucket
    apply (List.nodup_cons.mp hsep.2.1).1
    rw [hbucket]
    exact List.mem_map_of_mem hv
  rw [exec_append, exec_cons]
  exact exec_of_step (fun _ _ h hne => h.update hne) (Holds.of_update hon' httl u)
    (along_of_forall hother _)

/-- **Consecutive PIDs do not evict each other.**  Two PIDs share a bucket exactly when they
agree modulo 256.  After one update for each process of any set of PIDs within a window of 256,
in any order, and any look-ups, every one of them hits with its own usage within its time to
live. -/
theorem consecutivePids_hit :
    (∀ p q : Pid, hashPid p = hashPid q ↔ p.toInt ≡ q.toInt [ZMOD 256]) ∧
    ∀ (o : PerfOptimizer) (b : Pid) (updates : List CacheUpdate) (lookups : List CacheLookup),
      o.cacheEnabled = true →
      (∀ u ∈ updates, b.toInt ≤ u.pid.toInt ∧ u.pid.toInt ≤ b.toInt + 255) →
      (updates.map CacheUpdate.pid).Nodup →
      (∀ u ∈ updates, ∀ l ∈ lookups, l.pid = u.pid → WithinTtl o.cache.ttlMs u l.clock) →
      ∀ u ∈ updates, ∀ clock, WithinTtl o.cache.ttlMs u clock →
        (perfOptimizerGetCachedResources
          (exec CacheLookup.exec (exec CacheUpdate.exec o updates) lookups) u.pid clock).1 =
            some u.usage := by
  refine ⟨hashPid_eq_iff, ?_⟩
  intro o b updates lookups hon hwindow hnodup hlookups u hu clock hclock
  have hsep : (updates.map fun v => hashPid v.pid).Nodup := by
    have hmap : (updates.map fun v => hashPid v.pid) =
        (updates.map CacheUpdate.pid).map hashPid := by rw [List.map_map]; rfl
    rw [hmap]
    refine hnodup.map_on ?_
    intro p hp q hq hbucket
    obtain ⟨v, hv, rfl⟩ := List.mem_map.mp hp
    obtain ⟨v', hv', rfl⟩ := List.mem_map.mp hq
    have hlow := hwindow v hv
    have hhigh := hwindow v' hv'
    exact Int32.toInt_inj.mp (eq_of_modEq_of_window ⟨hlow.1, by omega⟩ ⟨hhigh.1, by omega⟩
      ((hashPid_eq_iff _ _).mp hbucket))
  have hstored := holds_of_separate hon hsep hu
  have hkept : Holds o.cache.ttlMs u
      (exec CacheLookup.exec (exec CacheUpdate.exec o updates) lookups) :=
    exec_of_step (fun _ _ h hage => h.lookup hage) hstored (along_of_forall (hlookups u hu) _)
  exact hkept.hit hclock

/-- The usage that the cache experiment stores for its process number `i`. -/
def experimentUsage (i : ℕ) : ResourceUsage where
  qpCount := Int32.ofNat (i % 50)
  mrCount := Int32.ofNat (i % 20)
  memoryUsed := UInt64.ofNat (i % 100) * 1024 * 1024

/-- The updates of the cache experiment, made within one millisecond. -/
def experimentUpdates : List CacheUpdate :=
  (List.range 256).map fun i => ⟨Int32.ofNat (2000 + i), experimentUsage i, ⟨1000, 0⟩⟩

/-- A round of its look-ups, 50 milliseconds later. -/
def experimentLookups : List CacheLookup :=
  (List.range 256).map fun i => ⟨Int32.ofNat (2000 + i), ⟨1050, 0⟩⟩

theorem experiment_pid_toInt {i : ℕ} (hi : i < 256) :
    (Int32.ofNat (2000 + i)).toInt = 2000 + i := by
  rw [Int32.toInt_ofNat_of_lt (by omega)]
  push_cast
  rfl

theorem experimentUpdates_window {u : CacheUpdate} (hu : u ∈ experimentUpdates) :
    (2000 : Pid).toInt ≤ u.pid.toInt ∧ u.pid.toInt ≤ (2000 : Pid).toInt + 255 := by
  obtain ⟨i, hi, rfl⟩ := List.mem_map.mp hu
  have hlt := List.mem_range.mp hi
  have hbase : (2000 : Pid).toInt = 2000 := rfl
  rw [experiment_pid_toInt hlt, hbase]
  omega

theorem experimentUpdates_nodup : (experimentUpdates.map CacheUpdate.pid).Nodup := by
  rw [experimentUpdates, List.map_map]
  refine List.Nodup.map_on ?_ List.nodup_range
  intro i hi j hj h
  have hint := congrArg Int32.toInt h
  simp only [Function.comp_apply] at hint
  rw [experiment_pid_toInt (List.mem_range.mp hi),
    experiment_pid_toInt (List.mem_range.mp hj)] at hint
  omega

theorem experiment_withinTtl {u : CacheUpdate} (hu : u ∈ experimentUpdates) {clock : Clock}
    (h : clock.ms = 1050 ∨ clock.ms = 1100) : WithinTtl 100 u clock := by
  obtain ⟨i, -, rfl⟩ := List.mem_map.mp hu
  rcases h with h | h
  all_goals
    rw [WithinTtl, h]
    change (1000 : UInt64) ≤ _ ∧ _ ≤ (1000 : UInt64).toNat + (100 : UInt32).toNat
    decide

/-- All 256 processes of the experiment hit. -/
theorem consecutivePids_hit_experiment :
    ∀ u ∈ experimentUpdates,
      (perfOptimizerGetCachedResources
        (exec CacheLookup.exec (exec CacheUpdate.exec (perfOptimizerInit true true 0)
          experimentUpdates) experimentLookups) u.pid ⟨1100, 0⟩).1 = some u.usage := by
  intro u hu
  refine consecutivePids_hit.2 (perfOptimizerInit true true 0) 2000 experimentUpdates
    experimentLookups rfl ?_ experimentUpdates_nodup ?_ u hu ⟨1100, 0⟩
    (experiment_withinTtl hu (Or.inr rfl))
  · exact fun _ hv => experimentUpdates_window hv
  · intro v hv l hl _
    obtain ⟨i, -, rfl⟩ := List.mem_map.mp hl
    exact experiment_withinTtl hv (Or.inl rfl)

end RdmaIntercept.Analysis
