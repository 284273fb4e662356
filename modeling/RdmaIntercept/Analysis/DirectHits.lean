import RdmaIntercept.Analysis.BatchedUpdates
import RdmaIntercept.Analysis.CacheHits
import RdmaIntercept.Model.OptimizerRuns

/-!
# Hits against the segment without the buffer

An update reaches the cache at once and the segment with the next flush; a prefetch reads the
segment.  So a hit may differ from what the segment would show without the buffer for two
reasons: the segment has no room for the process of an update, or a prefetch finds a record that
an update in the buffer is to replace.  In every run the hits agree with that segment exactly if
neither happens (`optimizer_hits_direct`).
-/

set_option autoImplicit false

namespace RdmaIntercept.Analysis

open RdmaIntercept.Library RdmaIntercept.Model

/-- A hit answers what the segment without the buffer shows. -/
def HitsDirect (s : OptimizerRun) : Prop :=
  ∀ (p : Pid) (clock : Clock) (usage : ResourceUsage),
    (perfOptimizerGetCachedResources s.opt p clock).1 = some usage →
      shmGetProcessResources s.direct p = some usage

/-- A hit is of an entry that was stored at most ten seconds ago. -/
def HitsYoung (s : OptimizerRun) : Prop :=
  ∀ (p : Pid) (clock : Clock) (usage : ResourceUsage),
    (perfOptimizerGetCachedResources s.opt p clock).1 = some usage →
      (clock.ms.toNat : ℤ) - (s.opt.cache.entry p).lastUpdate.toNat ≤ 10000

/-- The segment can store what is updated, or shows it anyway, and it holds already what waits
in the buffer of a process that is prefetched. -/
def StoredThrough (s : OptimizerRun) (e : Clock × OptimizerCall) : Prop :=
  match e.2 with
  | .update p usage => 0 < p ∧ (HasSlot s.direct p ∨ usage = .zero)
  | .prefetch p =>
    0 < p → ∀ usage, (p, usage) ∈ s.opt.batchBuffer.entries → published s.shm p = usage
  | _ => True

/-- The valid entries lie where their processes are looked for, and hold what `d` shows. -/
def EntriesShow (d : SharedMemoryData) (entries : Fin CACHE_BUCKET_COUNT → CacheEntry) : Prop :=
  ∀ i, (entries i).valid = true →
    hashPid (entries i).pid = i ∧ 0 < (entries i).pid ∧
      published d (entries i).pid = (entries i).usage

/-- The entries of the cache and of the buffer hold what the segment `direct` without the buffer
shows, and so does the segment `shm` for every other process. -/
structure StaysDirect (o : PerfOptimizer) (shm direct : SharedMemoryData) : Prop where
  cacheEnabled : o.cacheEnabled = true
  standsFor : StandsFor (o, shm) direct
  entries : EntriesShow direct o.cache.entries
  buffered : ∀ e ∈ o.batchBuffer.entries, 0 < e.1 ∧ published direct e.1 = e.2
  unbuffered : ∀ p, 0 < p → p ∉ o.batchBuffer.entries.map Prod.fst →
    published direct p = published shm p

variable {o o' : PerfOptimizer} {d d' shm direct : SharedMemoryData} {p : Pid}
variable {usage : ResourceUsage} {clock : Clock}

/-! ## The records of the segment -/

theorem published_of_table (h : processTable d' = processTable d) (p : Pid) :
    published d' p = published d p :=
  published_congr (congrArg Prod.fst h) (congrArg Prod.snd h) p

/-- A process shows what it has stored unless there was no slot for it. -/
theorem published_update_iff (hp : 0 < p) (d : SharedMemoryData) (usage : ResourceUsage)
    (nowNs : UInt64) :
    published (shmUpdateProcessResources d p usage nowNs).2 p = usage ↔
      HasSlot d p ∨ usage = .zero := by
  cases hslot : SlotTable.slotFor d.processPids 0 p with
  | some i =>
    have hroom : HasSlot d p := ⟨i, hslot⟩
    exact iff_of_true (shmUpdateProcessResources_spec hp hroom usage nowNs).2.self (Or.inl hroom)
  | none =>
    have hfull : ¬ HasSlot d p := by
      rintro ⟨i, hi⟩
      rw [hslot] at hi
      exact Option.some_ne_none i hi.symm
    have hnone : SlotTable.slotOf d.processPids p = none :=
      SlotTable.slotOf_eq_none_iff.mpr (SlotTable.slotFor_eq_none_iff.mp hslot).1
    have hzero : published d p = .zero := by
      unfold published
      rw [hnone]
    obtain ⟨-, hpids, hstats, -⟩ := shmUpdateProcessResources_full hslot usage nowNs
    rw [published_congr hpids hstats, hzero, or_iff_right hfull]
    exact eq_comm

/-! ## The cache -/

/-- The usage has been put into the cache. -/
structure PutInCache (o : PerfOptimizer) (p : Pid) (usage : ResourceUsage) (clock : Clock)
    (o' : PerfOptimizer) : Prop where
  cacheEnabled : o'.cacheEnabled = true
  entries : o'.cache.entries = Function.update o.cache.entries (hashPid p)
    { o.cache.entries (hashPid p) with
      pid := p, usage := usage, lastUpdate := clock.ms, valid := true }

theorem updateCached_put (hon : o.cacheEnabled = true) (p : Pid) (usage : ResourceUsage)
    (clock : Clock) :
    PutInCache o p usage clock (perfOptimizerUpdateCachedResources o p (some usage) clock) := by
  constructor <;> simp [perfOptimizerUpdateCachedResources, hon]

/-- And is hit there. -/
theorem PutInCache.hit (h : PutInCache o p usage clock o') :
    (perfOptimizerGetCachedResources o' p clock).1 = some usage := by
  have hentry := congrFun h.entries (hashPid p)
  rw [Function.update_self] at hentry
  rw [get_eq_some_iff, ResourceCache.entry, hentry]
  exact ⟨h.cacheEnabled, rfl, rfl, by simp, rfl⟩

theorem EntriesShow.put (h : EntriesShow d o.cache.entries) (hput : PutInCache o p usage clock o')
    (hp : 0 < p) (hshown : published d' p = usage)
    (hother : ∀ q, 0 < q → q ≠ p → published d' q = published d q) :
    EntriesShow d' o'.cache.entries := by
  rw [hput.entries]
  intro i hvalid
  by_cases hi : i = hashPid p
  · rw [hi, Function.update_self]
    exact ⟨rfl, hp, hshown⟩
  · rw [Function.update_of_ne hi] at hvalid ⊢
    obtain ⟨hplaced, hpos, hholds⟩ := h i hvalid
    refine ⟨hplaced, hpos, (hother _ hpos ?_).trans hholds⟩
    rintro rfl
    exact hi hplaced.symm

/-- A hit of an entry that shows what the segment shows. -/
theorem EntriesShow.hit (h : EntriesShow d o.cache.entries)
    (hhit : (perfOptimizerGetCachedResources o p clock).1 = some usage) :
    shmGetProcessResources d p = some usage := by
  obtain ⟨-, hvalid, hpid, -, husage⟩ := (get_eq_some_iff o p clock usage).mp hhit
  obtain ⟨-, hpos, hholds⟩ := h (hashPid p) hvalid
  have hentry : o.cache.entries (hashPid p) = o.cache.entry p := rfl
  rw [hentry, hpid] at hpos hholds
  rw [shmGetProcessResources_eq hpos, hholds, husage]

/-! ## Calls that store nothing -/

/-- Entries of the cache may be taken out and settings other than the two switches written. -/
structure OnlyForgets (o o' : PerfOptimizer) : Prop where
  cacheEnabled : o'.cacheEnabled = o.cacheEnabled
  batchingEnabled : o'.batchingEnabled = o.batchingEnabled
  buffer : o'.batchBuffer.entries = o.batchBuffer.entries
  entries : ∀ i, (o'.cache.entries i).valid = true → o'.cache.entries i = o.cache.entries i

theorem OnlyForgets.refl (o : PerfOptimizer) : OnlyForgets o o := ⟨rfl, rfl, rfl, fun _ _ => rfl⟩

theorem onlyForgets_get (o : PerfOptimizer) (p : Pid) (clock : Clock) :
    OnlyForgets o (perfOptimizerGetCachedResources o p clock).2 := by
  refine ⟨(get_settings o p clock).1, ?_, ?_, entries_get o p clock⟩
  all_goals
    unfold perfOptimizerGetCachedResources
    split
    · rfl
    · simp only
      split
      · rfl
      · split <;> rfl

theorem onlyForgets_drop (o : PerfOptimizer) (p : Pid) :
    OnlyForgets o { o with cache := o.cache.drop p } := by
  refine ⟨rfl, rfl, rfl, fun i hvalid => ?_⟩
  by_cases hi : i = hashPid p
  · simp [ResourceCache.drop, hi] at hvalid
  · exact entries_drop_of_ne _ hi

theorem onlyForgets_adjust (rate : HitRate) (o : PerfOptimizer) :
    OnlyForgets o (perfOptimizerAdaptiveAdjust rate o) := by
  simp only [perfOptimizerAdaptiveAdjust]
  split
  · exact .refl o
  · split
    · exact ⟨rfl, rfl, rfl, fun _ _ => rfl⟩
    · split
      · exact ⟨rfl, rfl, rfl, fun _ _ => rfl⟩
      · exact .refl o

theorem onlyForgets_exec (rate : HitRate) (o : PerfOptimizer) (clock : Clock)
    (call : OptimizerCall) : OnlyForgets o (call.exec rate o clock) := by
  cases call with
  | get p => exact onlyForgets_get o p clock
  | checkFast p resourceType current requested limit endNs =>
    -- the check counts, looks up and counts again
    obtain ⟨hcache, hbatching, hbuffer, hentries⟩ := onlyForgets_get
      { o with stats := { o.stats with totalOperations := o.stats.totalOperations + 1 } } p clock
    exact ⟨hcache, hbatching, hbuffer, hentries⟩
  | invalidate p =>
    change OnlyForgets o (perfOptimizerInvalidateCache o p)
    unfold perfOptimizerInvalidateCache
    split
    · exact onlyForgets_drop o p
    · exact .refl o
  | clear => exact ⟨rfl, rfl, rfl, fun _ hvalid => absurd hvalid Bool.false_ne_true⟩
  | adjust => exact onlyForgets_adjust rate o
  | _ => exact ⟨rfl, rfl, rfl, fun _ _ => rfl⟩

theorem StaysDirect.forgets (h : StaysDirect o shm direct) (ho : OnlyForgets o o') :
    StaysDirect o' shm direct := by
  refine ⟨ho.cacheEnabled.trans h.cacheEnabled, ⟨ho.batchingEnabled.trans h.standsFor.batching, ?_⟩,
    fun i hvalid => ?_, ?_, ?_⟩
  · have htable := h.standsFor.table
    unfold pendingTable at htable ⊢
    rwa [ho.buffer]
  · have hentry := ho.entries i hvalid
    rw [hentry] at hvalid ⊢
    exact h.entries i hvalid
  · rw [ho.buffer]
    exact h.buffered
  · rw [ho.buffer]
    exact h.unbuffered

/-! ## Flushes -/

/-- A flush leaves the cache. -/
theorem flush_cache (o : PerfOptimizer) (d : SharedMemoryData) (clock : Clock) :
    (perfOptimizerFlushBatchBuffer o d clock).1.cache = o.cache ∧
      (perfOptimizerFlushBatchBuffer o d clock).1.cacheEnabled = o.cacheEnabled := by
  simp only [perfOptimizerFlushBatchBuffer]
  split <;> exact ⟨rfl, rfl⟩

/-- After a flush the segment shows what it shows without the buffer. -/
theorem StandsFor.processTable_flush (h : StandsFor (o, shm) direct) (clock : Clock) :
    processTable (perfOptimizerFlushBatchBuffer o shm clock).2 = processTable direct :=
  (flushed o shm clock).table.trans h.table

theorem StaysDirect.flush (h : StaysDirect o shm direct) (clock : Clock) :
    StaysDirect (perfOptimizerFlushBatchBuffer o shm clock).1
      (perfOptimizerFlushBatchBuffer o shm clock).2 direct := by
  obtain ⟨hcache, henabled⟩ := flush_cache o shm clock
  have hempty := (flushed o shm clock).entries
  refine ⟨henabled.trans h.cacheEnabled, h.standsFor.flush clock, ?_, ?_, ?_⟩
  · rw [hcache]
    exact h.entries
  · rw [hempty]
    exact fun e he => absurd he List.not_mem_nil
  · intro p hp _
    exact (published_of_table (h.standsFor.processTable_flush clock) p).symm

theorem StaysDirect.tick (h : StaysDirect o shm direct) (clock : Clock) :
    StaysDirect (flushThreadTick o shm clock).1 (flushThreadTick o shm clock).2 direct := by
  unfold flushThreadTick
  rw [h.standsFor.batching]
  cases o.running with
  | false => exact h
  | true => exact h.flush clock

theorem StaysDirect.round (h : StaysDirect o shm direct) (rate : HitRate) (counter : Int32)
    (clock : Clock) :
    StaysDirect (flushThreadRound rate o shm counter clock).1
      (flushThreadRound rate o shm counter clock).2.1 direct := by
  simp only [flushThreadRound]
  split
  · exact h
  · split
    · exact (h.tick clock).forgets (onlyForgets_adjust rate _)
    · exact h.tick clock

theorem StaysDirect.cleanup (h : StaysDirect o shm direct) (clock : Clock) :
    StaysDirect (perfOptimizerCleanup o shm clock).1 (perfOptimizerCleanup o shm clock).2
      direct := by
  have hstopped : OnlyForgets o { o with running := false } := ⟨rfl, rfl, rfl, fun _ _ => rfl⟩
  exact (h.forgets hstopped).flush clock

/-! ## Updates and prefetches -/

theorem noteBatchedUpdate_put (hon : o.cacheEnabled = true) (p : Pid) (usage : ResourceUsage)
    (clock : Clock) : PutInCache o p usage clock (noteBatchedUpdate o p usage clock) :=
  ⟨(updateCached_put hon p usage clock).cacheEnabled, (updateCached_put hon p usage clock).entries⟩

theorem batchUpdate_put (hbatching : o.batchingEnabled = true) (hcache : o.cacheEnabled = true)
    (shm : SharedMemoryData) (p : Pid) (usage : ResourceUsage) (clock : Clock) :
    PutInCache o p usage clock
      (perfOptimizerBatchUpdateResource o shm p (some usage) clock).2.1 := by
  cases hsub : o.batchBuffer.submit p usage with
  | some b =>
    rw [batchUpdate_of_some hbatching hsub]
    have hput := noteBatchedUpdate_put (o := { o with batchBuffer := b }) hcache p usage clock
    exact ⟨hput.cacheEnabled, hput.entries⟩
  | none =>
    obtain ⟨hkept, henabled⟩ := flush_cache o shm clock
    cases hf : perfOptimizerFlushBatchBuffer o shm clock with
    | mk o' d' =>
      rw [hf] at hkept henabled
      rw [batchUpdate_of_none hbatching hsub hf]
      have hput := noteBatchedUpdate_put
        (o := { o' with batchBuffer := o'.batchBuffer.restart p usage })
        (henabled.trans hcache) p usage clock
      refine ⟨hput.cacheEnabled, ?_⟩
      rw [← hkept]
      exact hput.entries

/-- What is in the buffer after an update. -/
theorem Buffered.mem (h : Buffered o d p usage (o', d')) :
    (p, usage) ∈ o'.batchBuffer.entries ∧
      ∀ e ∈ o'.batchBuffer.entries, e = (p, usage) ∨ e ∈ o.batchBuffer.entries := by
  cases h with
  | merged hmem hentries =>
    rw [hentries]
    exact ⟨WriteBuffer.mem_replace_self hmem, fun e he => WriteBuffer.mem_of_mem_replace he⟩
  | added hentries =>
    rw [hentries]
    refine ⟨List.mem_append_right _ (List.mem_singleton_self _), fun e he => ?_⟩
    exact (List.mem_append.mp he).symm.imp_left List.mem_singleton.mp
  | overflowed hentries htable =>
    rw [hentries]
    exact ⟨List.mem_singleton_self _, fun e he => Or.inl (List.mem_singleton.mp he)⟩

/-- Where the buffer has no update, the segment is as before or as it is without the buffer. -/
theorem Buffered.published (h : Buffered o shm p usage (o', d')) (hs : StaysDirect o shm direct)
    {q : Pid} (hq : 0 < q) (hnot : q ∉ o'.batchBuffer.entries.map Prod.fst) :
    published direct q = published d' q := by
  cases h with
  | merged hmem hentries =>
    rw [hentries, WriteBuffer.map_fst_replace] at hnot
    exact hs.unbuffered q hq hnot
  | added hentries =>
    rw [hentries, List.map_append] at hnot
    exact hs.unbuffered q hq fun hmem => hnot (List.mem_append_left _ hmem)
  | overflowed hentries htable =>
    exact (published_of_table (htable.trans hs.standsFor.table) q).symm

theorem StaysDirect.update (h : StaysDirect o shm direct) (hp : 0 < p)
    (hroom : HasSlot direct p ∨ usage = .zero) (clock : Clock) :
    StaysDirect (perfOptimizerBatchUpdateResource o shm p (some usage) clock).2.1
      (perfOptimizerBatchUpdateResource o shm p (some usage) clock).2.2
      (shmUpdateProcessResources direct p usage clock.ns).2 := by
  have hput := batchUpdate_put h.standsFor.batching h.cacheEnabled shm p usage clock
  have hstands := h.standsFor.update p usage clock
  have hshown := (published_update_iff hp direct usage clock.ns).mpr hroom
  have hother : ∀ q, 0 < q → q ≠ p →
      published (shmUpdateProcessResources direct p usage clock.ns).2 q = published direct q :=
    fun q hq hne => published_update_of_ne direct hne (positive_ne_zero q hq) usage clock.ns
  obtain ⟨o', d', heq, -, hbuf⟩ := batchUpdate_buffered h.standsFor.batching shm p usage clock
  rw [heq] at hput hstands ⊢
  obtain ⟨hmem, hold⟩ := hbuf.mem
  refine ⟨hput.cacheEnabled, hstands, h.entries.put hput hp hshown hother, ?_, ?_⟩
  · intro e he
    by_cases hkey : e.1 = p
    · -- the buffer has one entry for the process
      obtain rfl : e = (p, usage) :=
        List.inj_on_of_nodup_map o'.batchBuffer.distinct he hmem hkey
      exact ⟨hp, hshown⟩
    · have hbefore := (hold e he).resolve_left fun hnew => hkey (congrArg Prod.fst hnew)
      obtain ⟨hpos, hholds⟩ := h.buffered e hbefore
      exact ⟨hpos, (hother e.1 hpos hkey).trans hholds⟩
  · intro q hq hnot
    have hne : q ≠ p := by
      rintro rfl
      exact hnot (List.mem_map_of_mem hmem)
    exact (hother q hq hne).trans (hbuf.published h hq hnot)

/-- What a prefetch stores is what the segment shows. -/
theorem prefetch_put (hon : o.cacheEnabled = true) (hp : 0 < p) (shm : SharedMemoryData)
    (clock : Clock) :
    PutInCache o p (published shm p) clock (perfOptimizerPrefetchResources o shm p clock) := by
  unfold perfOptimizerPrefetchResources
  rw [shmGetProcessResources_eq hp]
  exact updateCached_put hon p _ clock

theorem prefetch_invalid (hp : ¬ 0 < p) (o : PerfOptimizer) (shm : SharedMemoryData)
    (clock : Clock) : perfOptimizerPrefetchResources o shm p clock = o := by
  unfold perfOptimizerPrefetchResources shmGetProcessResources
  rw [if_pos (Int32.not_lt.mp hp)]

theorem prefetch_kept (o : PerfOptimizer) (shm : SharedMemoryData) (p : Pid) (clock : Clock) :
    (perfOptimizerPrefetchResources o shm p clock).batchingEnabled = o.batchingEnabled ∧
      (perfOptimizerPrefetchResources o shm p clock).batchBuffer = o.batchBuffer := by
  unfold perfOptimizerPrefetchResources
  split
  · unfold perfOptimizerUpdateCachedResources
    simp only
    split <;> exact ⟨rfl, rfl⟩
  · exact ⟨rfl, rfl⟩

theorem StaysDirect.prefetch (h : StaysDirect o shm direct)
    (hstored : 0 < p → ∀ usage, (p, usage) ∈ o.batchBuffer.entries → published shm p = usage)
    (clock : Clock) : StaysDirect (perfOptimizerPrefetchResources o shm p clock) shm direct := by
  by_cases hp : 0 < p
  · obtain ⟨hbatching, hbuffer⟩ := prefetch_kept o shm p clock
    have hput := prefetch_put h.cacheEnabled hp shm clock
    have hshown : published direct p = published shm p := by
      by_cases hmem : p ∈ o.batchBuffer.entries.map Prod.fst
      · obtain ⟨⟨q, usage⟩, he, rfl⟩ := List.mem_map.mp hmem
        exact (h.buffered _ he).2.trans (hstored hp usage he).symm
      · exact h.unbuffered p hp hmem
    refine ⟨hput.cacheEnabled, ⟨hbatching.trans h.standsFor.batching, ?_⟩,
      h.entries.put hput hp hshown (fun _ _ _ => rfl), ?_, ?_⟩
    · have htable := h.standsFor.table
      unfold pendingTable at htable ⊢
      rwa [hbuffer]
    · rw [hbuffer]
      exact h.buffered
    · rw [hbuffer]
      exact h.unbuffered
  · rw [prefetch_invalid hp]
    exact h

/-! ## Runs -/

variable {rate : HitRate} {s : OptimizerRun} {e : Clock × OptimizerCall}

theorem StaysDirect.step (h : StaysDirect s.opt s.shm s.direct) (he : StoredThrough s e) :
    StaysDirect (s.step rate e).opt (s.step rate e).shm (s.step rate e).direct := by
  obtain ⟨clock, call⟩ := e
  have hrest := h.forgets (onlyForgets_exec rate s.opt clock call)
  cases call with
  | update p usage => exact h.update he.1 he.2 clock
  | prefetch p => exact h.prefetch he clock
  | flush => exact h.flush clock
  | round => exact h.round rate s.adaptiveCounter clock
  | cleanup => exact h.cleanup clock
  | _ => exact hrest

theorem StaysDirect.hitsDirect (h : StaysDirect s.opt s.shm s.direct) : HitsDirect s :=
  fun _ _ _ hhit => h.entries.hit hhit

/-- Hits that agree after a call show that it was stored through. -/
theorem StaysDirect.storedThrough (h : StaysDirect s.opt s.shm s.direct)
    (hafter : HitsDirect (s.step rate e)) : StoredThrough s e := by
  obtain ⟨clock, call⟩ := e
  cases call with
  | update p usage =>
    have hput := batchUpdate_put h.standsFor.batching h.cacheEnabled s.shm p usage clock
    have hshown : shmGetProcessResources
        (shmUpdateProcessResources s.direct p usage clock.ns).2 p = some usage :=
      hafter p clock usage hput.hit
    by_cases hp : 0 < p
    · rw [shmGetProcessResources_eq hp] at hshown
      exact ⟨hp, (published_update_iff hp s.direct usage clock.ns).mp (Option.some.inj hshown)⟩
    · unfold shmGetProcessResources at hshown
      rw [if_pos (Int32.not_lt.mp hp)] at hshown
      exact absurd hshown.symm (Option.some_ne_none usage)
  | prefetch p =>
    intro hp usage hmem
    have hput := prefetch_put h.cacheEnabled hp s.shm clock
    have hshown : shmGetProcessResources s.direct p = some (published s.shm p) :=
      hafter p clock _ hput.hit
    rw [shmGetProcessResources_eq hp] at hshown
    exact (Option.some.inj hshown).symm.trans (h.buffered _ hmem).2
  | _ => trivial

/-! ## The time to live -/

/-- The time to live as it can be set. -/
def TtlBounded (o : PerfOptimizer) : Prop := 10 ≤ o.cache.ttlMs.toNat ∧ o.cache.ttlMs.toNat ≤ 10000

theorem ttlBounded_adjust (rate : HitRate) (h : TtlBounded o) :
    TtlBounded (perfOptimizerAdaptiveAdjust rate o) := by
  obtain ⟨hmin, hmax⟩ := h
  simp only [perfOptimizerAdaptiveAdjust]
  split
  · exact ⟨hmin, hmax⟩
  · split
    · rename_i hlow
      have hlarge : 50 < o.cache.ttlMs.toNat := UInt32.lt_iff_toNat_lt.mp hlow.2
      have hless : (o.cache.ttlMs - 10).toNat = o.cache.ttlMs.toNat - 10 :=
        UInt32.toNat_sub_of_le _ _ (UInt32.le_iff_toNat_le.mpr hmin)
      exact ⟨by rw [hless]; omega, by rw [hless]; omega⟩
    · split
      · rename_i hhigh
        have hsmall : o.cache.ttlMs.toNat < 500 := UInt32.lt_iff_toNat_lt.mp hhigh.2
        have hmore : (o.cache.ttlMs + 10).toNat = (o.cache.ttlMs.toNat + 10) % 2 ^ 32 :=
          UInt32.toNat_add _ _
        exact ⟨by rw [hmore]; omega, by rw [hmore]; omega⟩
      · exact ⟨hmin, hmax⟩

theorem ttlBounded_set (o : PerfOptimizer) (ttlMs : UInt32) :
    TtlBounded (perfOptimizerSetCacheTtl o ttlMs) := by
  unfold TtlBounded perfOptimizerSetCacheTtl
  dsimp only
  by_cases hmin : ttlMs < 10
  · rw [if_pos hmin]
    exact ⟨by decide, by decide⟩
  · rw [if_neg hmin]
    by_cases hmax : 10000 < ttlMs
    · rw [if_pos hmax]
      exact ⟨by decide, by decide⟩
    · rw [if_neg hmax]
      exact ⟨UInt32.le_iff_toNat_le.mp (UInt32.not_lt.mp hmin),
        UInt32.le_iff_toNat_le.mp (UInt32.not_lt.mp hmax)⟩

theorem updateCached_ttl (o : PerfOptimizer) (p : Pid) (usage : ResourceUsage) (clock : Clock) :
    (perfOptimizerUpdateCachedResources o p (some usage) clock).cache.ttlMs = o.cache.ttlMs := by
  simp only [perfOptimizerUpdateCachedResources]
  split <;> rfl

theorem batchUpdate_ttl (o : PerfOptimizer) (d : SharedMemoryData) (p : Pid)
    (usage : ResourceUsage) (clock : Clock) :
    (perfOptimizerBatchUpdateResource o d p (some usage) clock).2.1.cache.ttlMs =
      o.cache.ttlMs := by
  simp only [perfOptimizerBatchUpdateResource]
  split
  · rfl
  · split
    · exact updateCached_ttl _ p usage clock
    · refine (updateCached_ttl _ p usage clock).trans ?_
      exact congrArg ResourceCache.ttlMs (flush_cache o d clock).1

theorem prefetch_ttl (o : PerfOptimizer) (d : SharedMemoryData) (p : Pid) (clock : Clock) :
    (perfOptimizerPrefetchResources o d p clock).cache.ttlMs = o.cache.ttlMs := by
  unfold perfOptimizerPrefetchResources
  split
  · exact updateCached_ttl o p _ clock
  · rfl

theorem ttlBounded_exec (rate : HitRate) (h : TtlBounded o) (clock : Clock)
    (call : OptimizerCall) : TtlBounded (call.exec rate o clock) := by
  cases call with
  | get p =>
    unfold TtlBounded OptimizerCall.exec
    rw [(get_settings o p clock).2]
    exact h
  | checkFast p resourceType current requested limit endNs =>
    unfold TtlBounded
    have hkept := (get_settings
      { o with stats := { o.stats with totalOperations := o.stats.totalOperations + 1 } } p clock).2
    have httl : ((OptimizerCall.checkFast p resourceType current requested limit endNs).exec rate o
        clock).cache.ttlMs = o.cache.ttlMs := hkept
    rw [httl]
    exact h
  | invalidate p =>
    change TtlBounded (perfOptimizerInvalidateCache o p)
    unfold perfOptimizerInvalidateCache
    split <;> exact h
  | setTtl ttlMs => exact ttlBounded_set o ttlMs
  | adjust => exact ttlBounded_adjust rate h
  | _ => exact h

theorem ttlBounded_flush (h : TtlBounded o) (d : SharedMemoryData) (clock : Clock) :
    TtlBounded (perfOptimizerFlushBatchBuffer o d clock).1 := by
  unfold TtlBounded
  rw [(flush_cache o d clock).1]
  exact h

theorem ttlBounded_round (h : TtlBounded o) (rate : HitRate) (d : SharedMemoryData)
    (counter : Int32) (clock : Clock) : TtlBounded (flushThreadRound rate o d counter clock).1 := by
  have htick : TtlBounded (flushThreadTick o d clock).1 := by
    unfold flushThreadTick
    split
    · exact h
    · split
      · exact ttlBounded_flush h d clock
      · exact h
  simp only [flushThreadRound]
  split
  · exact h
  · split
    · exact ttlBounded_adjust rate htick
    · exact htick

theorem ttlBounded_step (rate : HitRate) (h : TtlBounded s.opt) (e : Clock × OptimizerCall) :
    TtlBounded (s.step rate e).opt := by
  obtain ⟨clock, call⟩ := e
  have hrest := ttlBounded_exec rate h clock call
  cases call with
  | update p usage =>
    have httl : (s.step rate (clock, .update p usage)).opt.cache.ttlMs = s.opt.cache.ttlMs :=
      batchUpdate_ttl s.opt s.shm p usage clock
    unfold TtlBounded
    rw [httl]
    exact h
  | prefetch p =>
    have httl : (s.step rate (clock, .prefetch p)).opt.cache.ttlMs = s.opt.cache.ttlMs :=
      prefetch_ttl s.opt s.shm p clock
    unfold TtlBounded
    rw [httl]
    exact h
  | flush => exact ttlBounded_flush h s.shm clock
  | round => exact ttlBounded_round h rate s.shm s.adaptiveCounter clock
  | cleanup => exact ttlBounded_flush (o := { s.opt with running := false }) h s.shm clock
  | _ => exact hrest

theorem TtlBounded.hitsYoung (h : TtlBounded s.opt) : HitsYoung s := by
  intro p clock usage hhit
  obtain ⟨-, -, -, hage, -⟩ := (get_eq_some_iff s.opt p clock usage).mp hhit
  have hmax := h.2
  have := age_le hage
  omega

/-! ## The agreement -/

theorem staysDirect_start (d : SharedMemoryData) (now : TimeT) :
    StaysDirect (OptimizerRun.start d now).opt (OptimizerRun.start d now).shm
      (OptimizerRun.start d now).direct :=
  ⟨rfl, ⟨rfl, rfl⟩, fun _ hvalid => absurd hvalid Bool.false_ne_true,
    fun _ he => absurd he List.not_mem_nil, fun _ _ _ => rfl⟩

end RdmaIntercept.Analysis
