import RdmaIntercept.Analysis.PerfOptimizerSpec

/-!
# The newest usage when batching is switched

While batching is disabled an update goes to the process table at once, but the buffer may
still hold an older usage of the process, and clean-up writes that one out afterwards.
The newest usage of every process survives a run exactly when no process is updated for
the last time while an older, different usage of it is pending and batching is disabled
(`newestWins_iff`).  The invariant is that the table has room for all that is updated; then
it answers like a map, whichever of the two ways a usage takes.
-/

set_option autoImplicit false

namespace RdmaIntercept.Analysis

open RdmaIntercept.Library RdmaIntercept.Model

/-- The process that an event updates. -/
def updatedPid : PerfEvent → Option Pid
  | .update pid _ => some pid
  | _ => none

theorem eq_update_of_updatedPid {ev : PerfEvent} {p : Pid} (h : updatedPid ev = some p) :
    ∃ usage, ev = .update p usage := by
  cases ev with
  | update pid usage => exact ⟨usage, by rw [Option.some.inj h]⟩
  | flush => exact absurd h.symm (Option.some_ne_none p)
  | enableBatching enable => exact absurd h.symm (Option.some_ne_none p)
  | tick => exact absurd h.symm (Option.some_ne_none p)

/-- The positive processes that a run updates. -/
def updatedPids (es : List (Clock × PerfEvent)) : Finset Pid :=
  (es.filterMap fun e => updatedPid e.2).toFinset.filter fun p => 0 < p

/-- The last update of `p` in the run is `usage`, after the events `pre`. -/
def LastUpdate (es : List (Clock × PerfEvent)) (p : Pid) (usage : ResourceUsage)
    (pre : List (Clock × PerfEvent)) : Prop :=
  ∃ clock post, es = pre ++ (clock, .update p usage) :: post ∧ ∀ e ∈ post, updatedPid e.2 ≠ some p

/-- After the run and the clean-up every updated process is answered its last usage. -/
def NewestWins (s : PerfOptimizer × SharedMemoryData) (es : List (Clock × PerfEvent))
    (clock : Clock) : Prop :=
  ∀ p usage pre, 0 < p → LastUpdate es p usage pre →
    shmGetProcessResources
      (perfOptimizerCleanup (exec perfStep s es).1 (exec perfStep s es).2 clock).2 p = some usage

/-- An update with `usage` would be made directly, below a pending older usage. -/
def Shadowed (s : PerfOptimizer × SharedMemoryData) (p : Pid) (usage : ResourceUsage) : Prop :=
  s.1.batchingEnabled = false ∧
    ∃ older, WriteBuffer.pending s.1.batchBuffer.entries p = some older ∧ older ≠ usage

/-! ## Room for all updates -/

/-- The table has room for the processes `S`, and no other is pending. -/
structure HasRoom (S : Finset Pid) (s : PerfOptimizer × SharedMemoryData) : Prop where
  positive : (0 : Pid) ∉ S
  room : SlotTable.Room 0 S (processTable s.2).1
  entries : ∀ p ∈ s.1.batchBuffer.entries.map Prod.fst, p ∈ S ∨ ¬ 0 < p

/-- What a table answers for `p`. -/
def tableUsage (t : ProcessTable) (p : Pid) : Option ResourceUsage := SlotTable.lookup t.1 t.2 p

variable {S : Finset Pid} {s : PerfOptimizer × SharedMemoryData} {p q : Pid}
variable {usage : ResourceUsage}

/-- A table with room is written and read like a map. -/
theorem tableUsage_store {t : ProcessTable} {k : Pid} (v : ResourceUsage)
    (ht : SlotTable.Room 0 S t.1) (hk : k ∈ S ∨ ¬ 0 < k) (hq : 0 < q) :
    tableUsage (storeUsage t k v) q = if q = k then some v else tableUsage t q :=
  SlotTable.lookup_store_of_room ht hk hq (positive_ne_zero q hq)

theorem HasRoom.read (h : HasRoom S s) :
    SlotTable.Room 0 S (pendingTable s).1 ∧ ∀ q, 0 < q →
      tableUsage (pendingTable s) q =
        (WriteBuffer.pending s.1.batchBuffer.entries q).or (tableUsage (processTable s.2) q) := by
  have hkeep : ∀ (t : ProcessTable) (k : Pid) (v : ResourceUsage), SlotTable.Room 0 S t.1 →
      (k ∈ S ∨ ¬ 0 < k) → SlotTable.Room 0 S (storeUsage t k v).1 := by
    intro t k v ht hk
    exact ht.store h.positive hk
  have hread : ∀ (t : ProcessTable) (k : Pid) (v : ResourceUsage) (q : Pid),
      SlotTable.Room 0 S t.1 → (k ∈ S ∨ ¬ 0 < k) → 0 < q →
      tableUsage (storeUsage t k v) q = if q = k then some v else tableUsage t q := by
    intro t k v q ht hk hq
    exact tableUsage_store v ht hk hq
  exact WriteBuffer.read_writeOut hkeep hread h.room
    (fun e he => h.entries e.1 (List.mem_map_of_mem he)) s.1.batchBuffer.distinct

/-! ## One event -/

/-- The event has not changed what the buffer stands for. -/
structure Unmoved (S : Finset Pid) (s s' : PerfOptimizer × SharedMemoryData) : Prop where
  hasRoom : HasRoom S s'
  table : pendingTable s' = pendingTable s

theorem HasRoom.flush (h : HasRoom S s) (clock : Clock) :
    Unmoved S s (perfOptimizerFlushBatchBuffer s.1 s.2 clock) := by
  have hflush := flushed s.1 s.2 clock
  refine ⟨⟨h.positive, ?_, ?_⟩, hflush.pendingTable⟩
  · rw [hflush.table]
    exact h.read.1
  · rw [hflush.entries]
    intro p hp
    exact absurd hp List.not_mem_nil

theorem HasRoom.tick (h : HasRoom S s) (clock : Clock) :
    Unmoved S s (flushThreadTick s.1 s.2 clock) := by
  unfold flushThreadTick
  cases s.1.running with
  | false => exact ⟨h, rfl⟩
  | true =>
    cases s.1.batchingEnabled with
    | false => exact ⟨h, rfl⟩
    | true => exact h.flush clock

/-- An event that updates no process leaves what the buffer stands for. -/
theorem HasRoom.unmoved (h : HasRoom S s) {e : Clock × PerfEvent} (he : updatedPid e.2 = none) :
    Unmoved S s (perfStep s e) := by
  obtain ⟨clock, ev⟩ := e
  cases ev with
  | update pid usage => exact absurd he (Option.some_ne_none pid)
  | flush => exact h.flush clock
  | enableBatching enable => exact ⟨⟨h.positive, h.room, h.entries⟩, rfl⟩
  | tick => exact h.tick clock

theorem HasRoom.buffered (h : HasRoom S s) (hp : p ∈ S ∨ ¬ 0 < p)
    {s' : PerfOptimizer × SharedMemoryData} (hbuf : Buffered s.1 s.2 p usage s') :
    HasRoom S s' := by
  cases hbuf with
  | merged hmem hentries =>
    refine ⟨h.positive, h.room, ?_⟩
    rw [hentries, WriteBuffer.map_fst_replace]
    exact h.entries
  | added hentries =>
    refine ⟨h.positive, h.room, ?_⟩
    rw [hentries, List.map_append]
    intro q hq
    rcases List.mem_append.mp hq with hq | hq
    · exact h.entries q hq
    · rw [List.map_singleton, List.mem_singleton] at hq
      rw [hq]
      exact hp
  | overflowed hentries htable =>
    refine ⟨h.positive, ?_, ?_⟩
    · rw [htable]
      exact h.read.1
    · rw [hentries]
      intro q hq
      rw [List.map_singleton, List.mem_singleton] at hq
      rw [hq]
      exact hp

/-- With batching enabled an update is what the buffer stands for afterwards. -/
theorem HasRoom.update_on (h : HasRoom S s) (hp : p ∈ S ∨ ¬ 0 < p) (usage : ResourceUsage)
    (clock : Clock) (hon : s.1.batchingEnabled = true) :
    HasRoom S (perfStep s (clock, .update p usage)) ∧ ∀ q, 0 < q →
      tableUsage (pendingTable (perfStep s (clock, .update p usage))) q =
        if q = p then some usage else tableUsage (pendingTable s) q := by
  obtain ⟨o', d', heq, -, hbuf⟩ := batchUpdate_buffered hon s.2 p usage clock
  have hstep : perfStep s (clock, .update p usage) = (o', d') := by
    show (perfOptimizerBatchUpdateResource s.1 s.2 p (some usage) clock).2 = (o', d')
    rw [heq]
  rw [hstep]
  refine ⟨h.buffered hp hbuf, ?_⟩
  intro q hq
  rw [hbuf.pendingTable]
  exact tableUsage_store usage h.read.1 hp hq

/-- With batching disabled it is written to the table, below what is pending. -/
theorem HasRoom.update_off (h : HasRoom S s) (hp : p ∈ S ∨ ¬ 0 < p) (usage : ResourceUsage)
    (clock : Clock) (hoff : s.1.batchingEnabled = false) :
    HasRoom S (perfStep s (clock, .update p usage)) ∧ ∀ q, 0 < q →
      tableUsage (pendingTable (perfStep s (clock, .update p usage))) q =
        if q = p then some ((WriteBuffer.pending s.1.batchBuffer.entries p).getD usage)
        else tableUsage (pendingTable s) q := by
  have hstep : perfStep s (clock, .update p usage) =
      (s.1, (shmUpdateProcessResources s.2 p usage clock.ns).2) :=
    batchUpdate_direct hoff s.2 p usage clock
  rw [hstep]
  have hroom : HasRoom S (s.1, (shmUpdateProcessResources s.2 p usage clock.ns).2) := by
    refine ⟨h.positive, ?_, h.entries⟩
    rw [processTable_update]
    exact h.room.store h.positive hp
  refine ⟨hroom, ?_⟩
  intro q hq
  rw [hroom.read.2 q hq, processTable_update, tableUsage_store usage h.room hp hq, h.read.2 q hq]
  by_cases hqp : q = p
  · rw [if_pos hqp, if_pos hqp, hqp]
    cases WriteBuffer.pending s.1.batchBuffer.entries p <;> rfl
  · rw [if_neg hqp, if_neg hqp]

theorem HasRoom.step (h : HasRoom S s) {e : Clock × PerfEvent}
    (he : ∀ p, updatedPid e.2 = some p → p ∈ S ∨ ¬ 0 < p) : HasRoom S (perfStep s e) := by
  cases hup : updatedPid e.2 with
  | none => exact (h.unmoved hup).hasRoom
  | some p =>
    obtain ⟨clock, ev⟩ := e
    obtain ⟨usage, rfl⟩ := eq_update_of_updatedPid hup
    cases hb : s.1.batchingEnabled with
    | true => exact (h.update_on (he p rfl) usage clock hb).1
    | false => exact (h.update_off (he p rfl) usage clock hb).1

/-- A process that an event does not update keeps its pending usage. -/
theorem HasRoom.tableUsage_step (h : HasRoom S s) {e : Clock × PerfEvent}
    (he : ∀ p, updatedPid e.2 = some p → p ∈ S ∨ ¬ 0 < p) (hq : 0 < q)
    (hother : updatedPid e.2 ≠ some q) :
    tableUsage (pendingTable (perfStep s e)) q = tableUsage (pendingTable s) q := by
  cases hup : updatedPid e.2 with
  | none => rw [(h.unmoved hup).table]
  | some p =>
    have hqp : q ≠ p := by
      rintro rfl
      exact hother hup
    obtain ⟨clock, ev⟩ := e
    obtain ⟨usage, rfl⟩ := eq_update_of_updatedPid hup
    cases hb : s.1.batchingEnabled with
    | true => rw [(h.update_on (he p rfl) usage clock hb).2 q hq, if_neg hqp]
    | false => rw [(h.update_off (he p rfl) usage clock hb).2 q hq, if_neg hqp]

/-! ## Runs -/

/-- Every process that the run updates is in `S`, or is not stored at all. -/
def UpdatesIn (S : Finset Pid) (es : List (Clock × PerfEvent)) : Prop :=
  ∀ e ∈ es, ∀ p, updatedPid e.2 = some p → p ∈ S ∨ ¬ 0 < p

variable {es : List (Clock × PerfEvent)}

theorem updatesIn_updatedPids (es : List (Clock × PerfEvent)) :
    UpdatesIn (updatedPids es) es := by
  intro e he p hp
  by_cases hpos : 0 < p
  · refine Or.inl (Finset.mem_filter.mpr ⟨?_, hpos⟩)
    exact List.mem_toFinset.mpr (List.mem_filterMap.mpr ⟨e, he, hp⟩)
  · exact Or.inr hpos

theorem HasRoom.exec (h : HasRoom S s) (hes : UpdatesIn S es) : HasRoom S (exec perfStep s es) :=
  exec_of_step (fun _ _ h he => h.step he) h (along_of_forall hes s)

theorem HasRoom.tableUsage_exec (h : HasRoom S s) (hes : UpdatesIn S es) (hq : 0 < q)
    (hother : ∀ e ∈ es, updatedPid e.2 ≠ some q) :
    tableUsage (pendingTable (Library.exec perfStep s es)) q = tableUsage (pendingTable s) q := by
  induction es generalizing s with
  | nil => rfl
  | cons e es ih =>
    have he := hes e List.mem_cons_self
    have hrest := ih (h.step he) (fun e' he' => hes e' (List.mem_cons_of_mem e he'))
      fun e' he' => hother e' (List.mem_cons_of_mem e he')
    exact hrest.trans (h.tableUsage_step he hq (hother e List.mem_cons_self))

/-- After the clean-up the segment answers what the buffer stood for. -/
theorem shmGet_cleanup (s : PerfOptimizer × SharedMemoryData) (clock : Clock) (hp : 0 < p) :
    shmGetProcessResources (perfOptimizerCleanup s.1 s.2 clock).2 p =
      some ((tableUsage (pendingTable s) p).getD .zero) := by
  have hflush := flushed { s.1 with running := false } s.2 clock
  have htable : processTable (perfOptimizerCleanup s.1 s.2 clock).2 = pendingTable s :=
    hflush.table
  rw [← htable]
  unfold shmGetProcessResources tableUsage SlotTable.lookup processTable
  rw [if_neg (Int32.not_le.mpr hp)]
  cases SlotTable.slotOf (perfOptimizerCleanup s.1 s.2 clock).2.processPids p <;> rfl

/-- What an update of `p` makes the buffer stand for is its usage, unless it is shadowed. -/
theorem HasRoom.tableUsage_update_iff (h : HasRoom S s) (hp : 0 < p) (hpS : p ∈ S ∨ ¬ 0 < p)
    (usage : ResourceUsage) (clock : Clock) :
    ∃ v, tableUsage (pendingTable (perfStep s (clock, .update p usage))) p = some v ∧
      (v = usage ↔ ¬ Shadowed s p usage) := by
  unfold Shadowed
  cases hb : s.1.batchingEnabled with
  | true =>
    refine ⟨usage, ?_, ?_⟩
    · rw [(h.update_on hpS usage clock hb).2 p hp, if_pos rfl]
    · exact iff_of_true rfl fun hsh => Bool.noConfusion hsh.1
  | false =>
    refine ⟨(WriteBuffer.pending s.1.batchBuffer.entries p).getD usage, ?_, ?_⟩
    · rw [(h.update_off hpS usage clock hb).2 p hp, if_pos rfl]
    · cases hpend : WriteBuffer.pending s.1.batchBuffer.entries p with
      | none =>
        refine iff_of_true rfl ?_
        rintro ⟨-, older, holder, -⟩
        exact Option.some_ne_none older holder.symm
      | some older =>
        constructor
        · rintro hv ⟨-, older', holder, hne⟩
          exact hne ((Option.some.inj holder).symm.trans hv)
        · intro hno
          by_contra hne
          exact hno ⟨rfl, older, rfl, hne⟩

/-- The last usage of `p` is answered exactly when its update was not shadowed. -/
theorem HasRoom.answers_last_iff (h : HasRoom S s) (hes : UpdatesIn S es) (hp : 0 < p)
    {pre : List (Clock × PerfEvent)} (hlast : LastUpdate es p usage pre) (clock : Clock) :
    shmGetProcessResources
        (perfOptimizerCleanup (Library.exec perfStep s es).1 (Library.exec perfStep s es).2 clock).2
        p = some usage ↔
      ¬ Shadowed (Library.exec perfStep s pre) p usage := by
  obtain ⟨now, post, rfl, hpost⟩ := hlast
  have hpre : UpdatesIn S pre := fun e he => hes e (List.mem_append_left _ he)
  have hupdate : p ∈ S ∨ ¬ 0 < p :=
    hes (now, .update p usage) (List.mem_append_right _ List.mem_cons_self) p rfl
  have hrest : UpdatesIn S post := fun e he =>
    hes e (List.mem_append_right _ (List.mem_cons_of_mem _ he))
  have hbefore := h.exec hpre
  have hafter : HasRoom S (perfStep (Library.exec perfStep s pre) (now, .update p usage)) := by
    apply hbefore.step
    intro q hq
    obtain rfl := Option.some.inj hq
    exact hupdate
  obtain ⟨v, hv, hiff⟩ := hbefore.tableUsage_update_iff hp hupdate usage now
  have hend := hafter.tableUsage_exec hrest hp hpost
  rw [hv] at hend
  rw [shmGet_cleanup _ clock hp, exec_append, exec_cons, hend, ← hiff]
  exact Option.some_inj

/-- **The newest usage wins exactly when no last update is shadowed.** -/
theorem newestWins_iff (o : PerfOptimizer) (d : SharedMemoryData) (es : List (Clock × PerfEvent))
    (clock : Clock) (hempty : o.batchBuffer.entries = [])
    (hroom : SlotTable.Room 0 (updatedPids es) d.processPids) :
    NewestWins (o, d) es clock ↔
      ∀ p usage pre, 0 < p → LastUpdate es p usage pre →
        ¬ Shadowed (exec perfStep (o, d) pre) p usage := by
  have hstart : HasRoom (updatedPids es) (o, d) := by
    refine ⟨?_, hroom, ?_⟩
    · intro h0
      exact absurd (Finset.mem_filter.mp h0).2 (by decide)
    · rw [hempty]
      intro p hp
      exact absurd hp List.not_mem_nil
  constructor
  · intro h p usage pre hp hlast
    exact (hstart.answers_last_iff (updatesIn_updatedPids es) hp hlast clock).mp
      (h p usage pre hp hlast)
  · intro h p usage pre hp hlast
    exact (hstart.answers_last_iff (updatesIn_updatedPids es) hp hlast clock).mpr
      (h p usage pre hp hlast)

/-- Process 7 is updated with batching enabled, then with batching disabled. -/
def shadowedRun : List (Clock × PerfEvent) :=
  [(⟨1, 10⟩, .update 7 ⟨1, 0, 0⟩), (⟨2, 20⟩, .enableBatching false),
    (⟨3, 30⟩, .update 7 ⟨2, 0, 0⟩)]

theorem room_shadowedRun :
    SlotTable.Room 0 (updatedPids shadowedRun) (SharedMemoryData.fresh 0).processPids := by
  have hfree : (Finset.univ.filter fun i => (SharedMemoryData.fresh 0).processPids i = 0) =
      (Finset.univ : Finset (Fin MAX_PROCESSES)) := Finset.filter_true_of_mem fun _ _ => rfl
  have hfew : (updatedPids shadowedRun).card ≤ 1 := by decide
  unfold SlotTable.Room
  rw [hfree, Finset.card_univ, Fintype.card_fin]
  exact (Finset.card_filter_le _ _).trans (hfew.trans (by decide))

/-- Clean-up writes the older usage over the newer one. -/
theorem cleanup_restores_older_usage :
    SlotTable.Room 0 (updatedPids shadowedRun) (SharedMemoryData.fresh 0).processPids ∧
      ¬ NewestWins (perfOptimizerInit true true 0, .fresh 0) shadowedRun ⟨4, 40⟩ := by
  refine ⟨room_shadowedRun, ?_⟩
  intro h
  have hlast : LastUpdate shadowedRun 7 ⟨2, 0, 0⟩
      [(⟨1, 10⟩, .update 7 ⟨1, 0, 0⟩), (⟨2, 20⟩, .enableBatching false)] :=
    ⟨⟨3, 30⟩, [], rfl, fun e he => absurd he List.not_mem_nil⟩
  have hanswer := h 7 ⟨2, 0, 0⟩ _ (by decide) hlast
  revert hanswer
  decide +kernel

theorem newestWins_iff_shadowed :
    NewestWins (perfOptimizerInit true true 0, .fresh 0) shadowedRun ⟨4, 40⟩ ↔
      ∀ p usage pre, 0 < p → LastUpdate shadowedRun p usage pre →
        ¬ Shadowed (exec perfStep (perfOptimizerInit true true 0, .fresh 0) pre) p usage :=
  newestWins_iff (perfOptimizerInit true true 0) (.fresh 0) shadowedRun ⟨4, 40⟩ rfl
    room_shadowedRun

end RdmaIntercept.Analysis
