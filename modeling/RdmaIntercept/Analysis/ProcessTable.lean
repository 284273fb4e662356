import RdmaIntercept.Analysis.SharedMemorySpec
import RdmaIntercept.Library.SlotMap
import RdmaIntercept.Model.SegmentRuns

/-!
# The process table is a finite map

The arrays `process_pids` and `process_stats` represent a partial map from positive pids
to usages.  An update either sets one key or fails and changes nothing, and a look-up
answers what the map has.
-/

set_option autoImplicit false

namespace RdmaIntercept.Analysis

open RdmaIntercept.Library RdmaIntercept.Model

/-- The processes that have a record. -/
def registered (d : SharedMemoryData) : Finset Pid := SlotTable.keys d.processPids 0

/-- The record of a process, if it has one. -/
def recordOf (d : SharedMemoryData) (p : Pid) : Option ResourceUsage :=
  SlotTable.lookup d.processPids d.processStats p

/-- What every call keeps: no process has two slots, none is negative, and the lock is free. -/
structure TableInv (d : SharedMemoryData) : Prop where
  once : SlotTable.Distinct d.processPids 0
  positive : ∀ i, d.processPids i ≠ 0 → 0 < d.processPids i
  unlocked : d.shmLock = 0

/-- The table is a partial map with at most `MAX_PROCESSES` keys, and every call that may
come next acts on it as on such a map. -/
structure ProcessMapAt (d : SharedMemoryData) : Prop where
  once : ∀ i j, d.processPids i = d.processPids j → d.processPids i ≠ 0 → i = j
  positive : ∀ p, p ∈ registered d → 0 < p
  bounded : (registered d).card ≤ MAX_PROCESSES
  represents : ∀ p usage, 0 < p →
    (recordOf d p = some usage ↔ ∃ i, d.processPids i = p ∧ d.processStats i = usage)
  isKey : ∀ p, 0 < p → (p ∈ registered d ↔ recordOf d p ≠ none)
  update_ok : ∀ p usage nowNs, (shmUpdateProcessResources d p usage nowNs).1 = true ↔
    0 < p ∧ (p ∈ registered d ∨ (registered d).card < MAX_PROCESSES)
  update : ∀ p usage nowNs, (shmUpdateProcessResources d p usage nowNs).1 = true →
    ∀ q, 0 < q → recordOf (shmUpdateProcessResources d p usage nowNs).2 q =
      if q = p then some usage else recordOf d q
  update_failed : ∀ p usage nowNs, (shmUpdateProcessResources d p usage nowNs).1 = false →
    (shmUpdateProcessResources d p usage nowNs).2 = d
  get : ∀ p, 0 < p → shmGetProcessResources d p = some ((recordOf d p).getD .zero)

/-- The record that a look-up answers. -/
theorem published_eq (d : SharedMemoryData) (p : Pid) :
    published d p = (recordOf d p).getD .zero := by
  unfold published recordOf SlotTable.lookup
  cases SlotTable.slotOf d.processPids p <;> rfl

/-- An update either stores into the slot of its process or fails. -/
theorem shmUpdateProcessResources_cases (d : SharedMemoryData) (p : Pid) (usage : ResourceUsage)
    (nowNs : UInt64) :
    (0 < p ∧ HasSlot d p ∧ (shmUpdateProcessResources d p usage nowNs).1 = true ∧
      Published d p usage (shmUpdateProcessResources d p usage nowNs).2) ∨
    (¬ (0 < p ∧ HasSlot d p) ∧ (shmUpdateProcessResources d p usage nowNs).1 = false) := by
  by_cases hp : 0 < p
  · cases hslot : SlotTable.slotFor d.processPids 0 p with
    | some i =>
      have hspec := shmUpdateProcessResources_spec hp ⟨i, hslot⟩ usage nowNs
      exact Or.inl ⟨hp, ⟨i, hslot⟩, hspec⟩
    | none =>
      refine Or.inr ⟨?_, (shmUpdateProcessResources_full hslot usage nowNs).1⟩
      rintro ⟨-, i, hi⟩
      rw [hslot] at hi
      exact absurd hi.symm (Option.some_ne_none i)
  · refine Or.inr ⟨fun h => hp h.1, ?_⟩
    unfold shmUpdateProcessResources
    rw [if_pos (Int32.not_lt.mp hp)]

/-- A failed update of a segment that is not locked leaves it as it was. -/
theorem shmUpdateProcessResources_failed {d : SharedMemoryData} (hlock : d.shmLock = 0) {p : Pid}
    {usage : ResourceUsage} {nowNs : UInt64}
    (h : (shmUpdateProcessResources d p usage nowNs).1 = false) :
    (shmUpdateProcessResources d p usage nowNs).2 = d := by
  have hunlock : shmUnlock (shmLock d) = d := by
    unfold shmUnlock shmLock
    rw [← hlock]
  unfold shmUpdateProcessResources at h ⊢
  by_cases hp : p ≤ 0
  · rw [if_pos hp]
  · rw [if_neg hp] at h ⊢
    cases hslot : SlotTable.slotFor (shmLock d).processPids 0 p with
    | some i =>
      rw [writeProcessResources_some hslot] at h
      exact absurd h.symm Bool.false_ne_true
    | none =>
      rw [writeProcessResources_none hslot]
      exact hunlock

theorem shmLock_shmUpdateProcessResources {d : SharedMemoryData} (hlock : d.shmLock = 0) (p : Pid)
    (usage : ResourceUsage) (nowNs : UInt64) :
    (shmUpdateProcessResources d p usage nowNs).2.shmLock = 0 := by
  unfold shmUpdateProcessResources
  split
  · exact hlock
  · rfl

/-! ## One update -/

theorem TableInv.update_ok_iff {d : SharedMemoryData} (h : TableInv d) (p : Pid)
    (usage : ResourceUsage) (nowNs : UInt64) :
    (shmUpdateProcessResources d p usage nowNs).1 = true ↔
      0 < p ∧ (p ∈ registered d ∨ (registered d).card < MAX_PROCESSES) := by
  have hroom : 0 < p → (HasSlot d p ↔ p ∈ registered d ∨ (registered d).card < MAX_PROCESSES) :=
    fun hp => SlotTable.exists_slotFor_iff h.once (positive_ne_zero _ hp)
  rw [← and_congr_right hroom]
  rcases shmUpdateProcessResources_cases d p usage nowNs with ⟨hp, hslot, hok, -⟩ | ⟨hno, hfail⟩
  · exact iff_of_true hok ⟨hp, hslot⟩
  · exact iff_of_false (by rw [hfail]; exact Bool.false_ne_true) hno

/-- A store sets one key. -/
theorem Published.recordOf {d d' : SharedMemoryData} {p : Pid} {usage : ResourceUsage}
    (h : Published d p usage d') {q : Pid} (hq : q ≠ 0) :
    recordOf d' q = if q = p then some usage else recordOf d q := by
  obtain ⟨i, hi, hpids, hstats⟩ := h.slot
  unfold Analysis.recordOf
  rw [hpids, hstats, SlotTable.lookup_store usage hi hq]

theorem TableInv.update {d : SharedMemoryData} (h : TableInv d) (p : Pid) (usage : ResourceUsage)
    (nowNs : UInt64) : TableInv (shmUpdateProcessResources d p usage nowNs).2 := by
  rcases shmUpdateProcessResources_cases d p usage nowNs with ⟨hp, -, -, hpub⟩ | ⟨-, hfail⟩
  · obtain ⟨i, hi, hpids, -⟩ := hpub.slot
    refine ⟨?_, ?_, shmLock_shmUpdateProcessResources h.unlocked p usage nowNs⟩
    · rw [hpids]
      exact SlotTable.distinct_update h.once hi
    · intro j hj
      rw [hpids] at hj ⊢
      by_cases hji : j = i
      · rw [hji, Function.update_self]
        exact hp
      · rw [Function.update_of_ne hji] at hj ⊢
        exact h.positive j hj
  · rw [shmUpdateProcessResources_failed h.unlocked hfail]
    exact h

theorem TableInv.step {d : SharedMemoryData} (h : TableInv d) (c : TableCall) :
    TableInv (d.tableStep c) := by
  cases c with
  | update p usage nowNs => exact h.update p usage nowNs
  | get p => exact h

theorem tableInv_emptied (d : SharedMemoryData) : TableInv d.emptied :=
  ⟨SlotTable.distinct_const, fun _ h => absurd rfl h, rfl⟩

/-! ## The map in every state -/

theorem processMapAt_of_tableInv {d : SharedMemoryData} (h : TableInv d) : ProcessMapAt d where
  once := h.once
  positive := by
    intro p hp
    obtain ⟨hne, i, rfl⟩ := SlotTable.mem_keys.mp hp
    exact h.positive i hne
  bounded := SlotTable.card_keys_le
  represents := by
    intro p usage hp
    constructor
    · intro husage
      exact SlotTable.exists_of_lookup husage
    · rintro ⟨i, hi, rfl⟩
      exact SlotTable.lookup_of_key h.once (positive_ne_zero _ hp) hi
  isKey := by
    intro p hp
    rw [Option.ne_none_iff_exists']
    exact SlotTable.mem_keys_iff_lookup (positive_ne_zero _ hp)
  update_ok := h.update_ok_iff
  update := by
    intro p usage nowNs hok q hq
    rcases shmUpdateProcessResources_cases d p usage nowNs with ⟨-, -, -, hpub⟩ | ⟨-, hfail⟩
    · exact hpub.recordOf (positive_ne_zero _ hq)
    · rw [hfail] at hok
      exact absurd hok Bool.false_ne_true
  update_failed := fun p usage nowNs hfail => shmUpdateProcessResources_failed h.unlocked hfail
  get := by
    intro p hp
    rw [shmGetProcessResources_eq hp, published_eq]

/-- In every state of every run the table is a finite map. -/
theorem processTable_finiteMap (d : SharedMemoryData) (calls : List TableCall) :
    Always SharedMemoryData.tableStep ProcessMapAt d.emptied calls := by
  have hinv : Always SharedMemoryData.tableStep TableInv d.emptied calls :=
    always_iff_initial.mpr fun pre _ =>
      exec_of_invariant (fun _ c h => h.step c) (tableInv_emptied d) pre
  exact hinv.mono fun _ h => processMapAt_of_tableInv h

end RdmaIntercept.Analysis
