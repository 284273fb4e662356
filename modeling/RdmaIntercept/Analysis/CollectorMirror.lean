import RdmaIntercept.Library.Runs
import RdmaIntercept.Model.CollectorSync

/-!
# The collector's copy of the process map

After a synchronisation the hash table holds the values of the map, but nodes are never taken
out: a process that has left the map keeps its last values.  The table mirrors the map after
every synchronisation of a run exactly when a process leaves the map only with nothing left,
and every process that comes with something gets a node.
-/

set_option autoImplicit false

namespace RdmaIntercept.Analysis

open RdmaIntercept.Library RdmaIntercept.Model

/-- Every process is answered with its value in the map, or with zeros when it has none. -/
def Mirrors (s : CollectorServer) (m : EbpfMap) : Prop :=
  ∀ pid, getProcessResourceUsage s pid =
    ((m.entries.lookup pid).map ResourceUsage.toProcess).getD ⟨0, 0, 0⟩

/-- All nodes of the hash table. -/
def processNodes (s : CollectorServer) : List (UInt32 × ProcessResourceUsage) :=
  (List.finRange 1024).flatMap s.processResources

def OneNodePerPid (s : CollectorServer) : Prop := ((processNodes s).map Prod.fst).Nodup

/-- After a synchronisation the table mirrors the map, and always it has one node of a process
at most. -/
def ReflectsAfter (s : CollectorServer) : CollectorEvent → Prop
  | .sync maps memory =>
    Mirrors (s.step (.sync maps memory)) maps.processResources ∧
      OneNodePerPid (s.step (.sync maps memory))
  | .request request => OneNodePerPid (s.step (.request request))

/-- A process whose node holds something is still in the map, and a process that has something
has a node or gets one. -/
def MapFollows (s : CollectorServer) : CollectorEvent → Prop
  | .sync maps memory =>
    (∀ node ∈ processNodes s, node.2 ≠ ⟨0, 0, 0⟩ →
        node.1 ∈ maps.processResources.entries.map Prod.fst) ∧
      ∀ entry ∈ maps.processResources.entries, entry.2 ≠ .zero →
        entry.1 ∈ (processNodes s).map Prod.fst ∨ memory entry.1 = true
  | .request _ => True

variable {s : CollectorServer} {m : EbpfMap} {maps : EbpfMaps} {memory : UInt32 → Bool}

/-! ## The table -/

abbrev TableOk (s : CollectorServer) : Prop :=
  ChainedTable.WellPlaced hashIndex s.processResources

theorem getProcessResourceUsage_eq (s : CollectorServer) (pid : UInt32) :
    getProcessResourceUsage s pid =
      (ChainedTable.find hashIndex s.processResources pid).getD ⟨0, 0, 0⟩ := rfl

theorem mem_processNodes {node : UInt32 × ProcessResourceUsage} (h : TableOk s) :
    node ∈ processNodes s ↔
      ChainedTable.find hashIndex s.processResources node.1 = some node.2 := by
  rw [← h.mem_iff_find]
  simp [processNodes]

theorem mem_map_processNodes {pid : UInt32} (h : TableOk s) :
    pid ∈ (processNodes s).map Prod.fst ↔
      (ChainedTable.find hashIndex s.processResources pid).isSome := by
  rw [List.mem_map, Option.isSome_iff_exists]
  constructor
  · rintro ⟨node, hnode, rfl⟩
    exact ⟨node.2, (mem_processNodes h).mp hnode⟩
  · rintro ⟨usage, hfound⟩
    exact ⟨(pid, usage), (mem_processNodes h).mpr hfound, rfl⟩

theorem oneNodePerPid (h : TableOk s) : OneNodePerPid s :=
  h.nodup_flatMap (List.nodup_finRange 1024)

/-! ## One event -/

theorem processResources_withLength {argument invalid : CText.Bytes}
    {operation : CollectorServer → UInt64 → CText.Bytes × CollectorServer}
    (h : ∀ length, (operation s length).2.processResources = s.processResources) :
    (withLength s argument operation invalid).2.processResources = s.processResources := by
  unfold withLength
  cases CText.scanSize argument with
  | none => rfl
  | some length => exact h length

/-- Requests leave the hash table alone. -/
theorem processResources_mainLoop (s : CollectorServer) (request : CText.Bytes) :
    (mainLoop s request).2.processResources = s.processResources := by
  have hqpCreate : (qpCreate s).2.processResources = s.processResources := by
    unfold qpCreate
    split <;> rfl
  have hqpDestroy : (qpDestroy s).2.processResources = s.processResources := by
    unfold qpDestroy
    dsimp only
    split <;> rfl
  have hmrCreate (length : UInt64) :
      (mrCreate s length).2.processResources = s.processResources := by
    unfold mrCreate
    split <;> rfl
  have hcheckMemory (length : UInt64) :
      (checkMemory s length).2.processResources = s.processResources := by
    unfold checkMemory
    split <;> rfl
  have hmrDestroy (length : UInt64) :
      (mrDestroy s length).2.processResources = s.processResources := by
    unfold mrDestroy
    dsimp only
    split_ifs <;> rfl
  unfold mainLoop
  dsimp only
  split_ifs
  · rfl
  · rfl
  · rfl
  · exact hqpCreate
  · exact hqpDestroy
  · exact processResources_withLength hmrCreate
  · exact processResources_withLength hcheckMemory
  · exact processResources_withLength hmrDestroy
  · rfl

theorem toProcess_eq_zero_iff {u : ResourceUsage} : u.toProcess = ⟨0, 0, 0⟩ ↔ u = .zero := by
  have hcount (c : Int32) : c.toUInt32 = 0 ↔ c = 0 := by
    constructor
    · intro h
      calc c = c.toUInt32.toInt32 := by simp
        _ = 0 := by rw [h]; rfl
    · rintro rfl
      rfl
  obtain ⟨qpCount, mrCount, memoryUsed⟩ := u
  simp [ResourceUsage.toProcess, ResourceUsage.zero, hcount]

/-- What a synchronisation makes of the table. -/
theorem find_syncEbpfData (s : CollectorServer) (maps : EbpfMaps) (memory : UInt32 → Bool)
    (pid : UInt32) :
    ChainedTable.find hashIndex (syncEbpfData s maps memory).processResources pid =
      match maps.processResources.entries.lookup pid with
      | some u =>
        if (ChainedTable.find hashIndex s.processResources pid).isSome ∨ memory pid then
          some u.toProcess
        else none
      | none => ChainedTable.find hashIndex s.processResources pid := by
  have hnodup : ((maps.processResources.entries.map
      (Prod.map id ResourceUsage.toProcess)).map Prod.fst).Nodup := by
    have hkeys : (maps.processResources.entries.map
        (Prod.map id ResourceUsage.toProcess)).map Prod.fst =
          maps.processResources.entries.map Prod.fst := by simp
    rw [hkeys]
    exact maps.processResources.nodup
  have hlookup : (maps.processResources.entries.map
      (Prod.map id ResourceUsage.toProcess)).lookup pid =
        (maps.processResources.entries.lookup pid).map ResourceUsage.toProcess :=
    ChainedTable.lookup_map_snd ..
  have hfind : ChainedTable.find hashIndex (syncEbpfData s maps memory).processResources pid = _ :=
    ChainedTable.find_storeAll hnodup pid
  rw [hlookup] at hfind
  cases hentry : maps.processResources.entries.lookup pid <;> rw [hentry] at hfind <;> exact hfind

/-- A process of the map is answered with its value, if there is a node or room for one. -/
theorem usage_sync_of_entry {pid : UInt32} {u : ResourceUsage}
    (hentry : maps.processResources.entries.lookup pid = some u) :
    getProcessResourceUsage (s.step (.sync maps memory)) pid =
      if (ChainedTable.find hashIndex s.processResources pid).isSome ∨ memory pid = true then
        u.toProcess
      else ⟨0, 0, 0⟩ := by
  rw [getProcessResourceUsage_eq, CollectorServer.step, find_syncEbpfData, hentry]
  dsimp only
  split_ifs <;> rfl

/-- Any other process is answered as before. -/
theorem usage_sync_of_gone {pid : UInt32}
    (hgone : maps.processResources.entries.lookup pid = none) :
    getProcessResourceUsage (s.step (.sync maps memory)) pid = getProcessResourceUsage s pid := by
  rw [getProcessResourceUsage_eq, getProcessResourceUsage_eq, CollectorServer.step,
    find_syncEbpfData, hgone]

/-- A process that has a node is answered with what it holds. -/
theorem usage_eq_of_node {node : UInt32 × ProcessResourceUsage} (h : TableOk s)
    (hnode : node ∈ processNodes s) : getProcessResourceUsage s node.1 = node.2 := by
  rw [getProcessResourceUsage_eq, (mem_processNodes h).mp hnode, Option.getD_some]

/-- The table stays well placed. -/
theorem tableOk_step (h : TableOk s) (e : CollectorEvent) : TableOk (s.step e) := by
  cases e with
  | sync maps memory => exact h.storeAll memory _
  | request request =>
    unfold TableOk
    rw [CollectorServer.step, processResources_mainLoop]
    exact h

/-- The step lemma: a synchronisation mirrors the map exactly when the map follows the table. -/
theorem mirrors_sync_iff (h : TableOk s) :
    Mirrors (s.step (.sync maps memory)) maps.processResources ↔ MapFollows s (.sync maps memory) := by
  have hkey (pid : UInt32) : pid ∈ maps.processResources.entries.map Prod.fst ↔
      (maps.processResources.entries.lookup pid).isSome := ChainedTable.lookup_isSome_iff.symm
  have hentry (entry : UInt32 × ResourceUsage) : entry ∈ maps.processResources.entries ↔
      maps.processResources.entries.lookup entry.1 = some entry.2 :=
    ChainedTable.mem_iff_lookup maps.processResources.nodup
  constructor
  · intro hmirrors
    constructor
    · intro node hnode hused
      rw [hkey]
      by_contra hgone
      have hnone := Option.not_isSome_iff_eq_none.mp hgone
      have hpid := hmirrors node.1
      rw [usage_sync_of_gone hnone, usage_eq_of_node h hnode, hnone] at hpid
      exact hused hpid
    · intro entry hmem hused
      rw [hentry] at hmem
      rw [mem_map_processNodes h]
      by_contra hrefused
      have hpid := hmirrors entry.1
      rw [usage_sync_of_entry hmem, if_neg hrefused, hmem] at hpid
      exact hused (toProcess_eq_zero_iff.mp hpid.symm)
  · rintro ⟨hgone, hnew⟩ pid
    cases hmem : maps.processResources.entries.lookup pid with
    | some u =>
      rw [usage_sync_of_entry hmem]
      by_cases hroom : (ChainedTable.find hashIndex s.processResources pid).isSome ∨
          memory pid = true
      · rw [if_pos hroom]
        rfl
      · have hzero : u = .zero := by
          by_contra hused
          have hnode := hnew (pid, u) ((hentry (pid, u)).mpr hmem) hused
          exact hroom (hnode.imp_left (mem_map_processNodes h).mp)
        rw [if_neg hroom]
        exact (toProcess_eq_zero_iff.mpr hzero).symm
    | none =>
      rw [usage_sync_of_gone hmem, getProcessResourceUsage_eq]
      cases hnode : ChainedTable.find hashIndex s.processResources pid with
      | none => rfl
      | some usage =>
        by_contra hused
        have hkept := hgone (pid, usage) ((mem_processNodes h).mpr hnode) hused
        rw [hkey, hmem] at hkept
        exact absurd hkept Bool.false_ne_true

/-! ## Runs -/

theorem reflectsAfter_iff (h : TableOk s) (e : CollectorEvent) :
    ReflectsAfter s e ↔ MapFollows s e := by
  have hone := oneNodePerPid (tableOk_step h e)
  cases e with
  | sync maps memory => exact (and_iff_left hone).trans (mirrors_sync_iff h)
  | request request => exact iff_of_true hone trivial

theorem tableOk_started (maxGlobalQp : UInt32) (maxGlobalMemory : UInt64) :
    TableOk (.started maxGlobalQp maxGlobalMemory) :=
  ⟨fun _ => List.nodup_nil, fun _ _ he => absurd he List.not_mem_nil⟩

/-- The collector reflects the process map after every synchronisation of a run exactly when
the map follows the table at each. -/
theorem sync_reflects_iff (maxGlobalQp : UInt32) (maxGlobalMemory : UInt64)
    (events : List CollectorEvent) :
    Along CollectorServer.step ReflectsAfter (.started maxGlobalQp maxGlobalMemory) events ↔
      Along CollectorServer.step MapFollows (.started maxGlobalQp maxGlobalMemory) events := by
  apply along_congr (I := TableOk)
  · exact fun s e hs => tableOk_step hs e
  · exact fun s e hs => reflectsAfter_iff hs e
  · exact tableOk_started maxGlobalQp maxGlobalMemory

/-- The node of a process that has left the map is kept. -/
theorem sync_keepsDeparted :
    ¬ ∀ (maxGlobalQp : UInt32) (maxGlobalMemory : UInt64) (events : List CollectorEvent),
      Along CollectorServer.step ReflectsAfter (.started maxGlobalQp maxGlobalMemory) events := by
  intro h
  let maps : EbpfMaps := ⟨⟨[(5, ⟨1, 0, 0⟩)], by decide⟩, ⟨1, 0, 0⟩⟩
  let synced := CollectorServer.step (.started 10 0) (.sync maps fun _ => true)
  have hfollows := (sync_reflects_iff 10 0
    [.sync maps (fun _ => true), .sync ⟨⟨[], by decide⟩, .zero⟩ (fun _ => true)]).mp (h 10 0 _)
  have hok : TableOk synced := tableOk_step (tableOk_started 10 0) _
  have hnode : ((5, ⟨1, 0, 0⟩) : UInt32 × ProcessResourceUsage) ∈ processNodes synced :=
    (mem_processNodes hok).mpr (by decide)
  exact absurd (hfollows.2.1.1 _ hnode (by decide)) List.not_mem_nil

end RdmaIntercept.Analysis
