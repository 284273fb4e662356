import RdmaIntercept.Analysis.SegmentSections

/-!
# Look-ups without the lock

`shm_get_process_resources` does not take the lock, so other processes may update the table
between any two of its loads.  A slot that holds a pid holds it for ever, and no pid is ever
stored twice, not even inside a section; hence a look-up never misses a process that was
registered when it began, and each counter it answers is one that the process had published
at some moment of the look-up.
-/

set_option autoImplicit false

namespace RdmaIntercept.Analysis

open RdmaIntercept.Library RdmaIntercept.Model

/-- No slot in use has been given to another process. -/
def KeepsSlots (d d' : SharedMemoryData) : Prop :=
  ∀ i, d.processPids i ≠ 0 → d'.processPids i = d.processPids i

theorem KeepsSlots.refl (d : SharedMemoryData) : KeepsSlots d d := fun _ _ => rfl

theorem KeepsSlots.of_eq {d d' : SharedMemoryData} (h : d'.processPids = d.processPids) :
    KeepsSlots d d' := fun _ _ => by rw [h]

theorem KeepsSlots.trans {d d' d'' : SharedMemoryData} (h : KeepsSlots d d')
    (h' : KeepsSlots d' d'') : KeepsSlots d d'' := by
  intro i hi
  rw [h' i (by rwa [h i hi]), h i hi]

/-! ## What one access does to the pids -/

theorem loads_scanAccesses {pid : Pid} {is : List (Fin MAX_PROCESSES)} {f : ShmAccess}
    (hf : f ∈ scanAccesses pid is) (x : ShmRegs × SharedMemoryData) : (f x).2 = x.2 := by
  obtain ⟨i, -, hi⟩ := List.mem_flatMap.mp hf
  rcases List.mem_pair.mp hi with rfl | rfl <;> rfl

theorem runAll_loads {fs : List ShmAccess} (h : ∀ f ∈ fs, ∀ x, (f x).2 = x.2)
    (x : ShmRegs × SharedMemoryData) : (SpinLock.runAll fs x).2 = x.2 :=
  SpinLock.runAll_of_mem (I := fun y => y.2 = x.2) (fun f hf y hy => (h f hf y).trans hy) rfl

/-- After the loop the call knows the slot for `pid`; the pid is stored there or not yet. -/
structure Storing (pid : Pid) (d : SharedMemoryData) (x : ShmRegs × SharedMemoryData) : Prop where
  slot : x.1.slot = SlotTable.slotFor d.processPids 0 pid
  pids : x.2.processPids = d.processPids ∨ ∃ i, SlotTable.slotFor d.processPids 0 pid = some i ∧
    x.2.processPids = Function.update d.processPids i pid

/-- The slot of the call is free or its own. -/
theorem Storing.own {pid : Pid} {d : SharedMemoryData} {x : ShmRegs × SharedMemoryData}
    (h : Storing pid d x) {i : Fin MAX_PROCESSES} (hi : x.1.slot = some i) :
    x.2.processPids i = 0 ∨ x.2.processPids i = pid := by
  have hslot := h.slot.symm.trans hi
  rcases h.pids with heq | ⟨j, hj, heq⟩
  · rw [heq]
    rcases SlotTable.key_of_slotFor hslot with hk | ⟨hf, -⟩
    · exact Or.inr hk
    · exact Or.inl hf
  · obtain rfl := Option.some.inj (hj.symm.trans hslot)
    rw [heq, Function.update_self]
    exact Or.inr rfl

/-- An access that leaves the slot variable and the pids. -/
theorem Storing.kept {pid : Pid} {d : SharedMemoryData} {x y : ShmRegs × SharedMemoryData}
    (h : Storing pid d x) (hslot : y.1.slot = x.1.slot)
    (hpids : y.2.processPids = x.2.processPids) : Storing pid d y ∧ KeepsSlots x.2 y.2 :=
  ⟨⟨hslot.trans h.slot, hpids ▸ h.pids⟩, .of_eq hpids⟩

/-- The store of the pid, into a slot that was free. -/
theorem Storing.store {pid : Pid} {d : SharedMemoryData} {x : ShmRegs × SharedMemoryData}
    (h : Storing pid d x) {i : Fin MAX_PROCESSES} (hi : x.1.slot = some i)
    {d' : SharedMemoryData} (hd' : d'.processPids = Function.update x.2.processPids i pid) :
    Storing pid d (x.1, d') ∧ KeepsSlots x.2 d' := by
  have hslot := h.slot.symm.trans hi
  constructor
  · refine ⟨h.slot, Or.inr ⟨i, hslot, hd'.trans ?_⟩⟩
    rcases h.pids with heq | ⟨j, hj, heq⟩
    · rw [heq]
    · obtain rfl := Option.some.inj (hj.symm.trans hslot)
      rw [heq, Function.update_idem]
  · intro j hj
    rw [hd']
    by_cases hji : j = i
    · subst hji
      rw [Function.update_self]
      exact ((h.own hi).resolve_left hj).symm
    · rw [Function.update_of_ne hji]

theorem Storing.inSlot {pid : Pid} {d : SharedMemoryData} {x : ShmRegs × SharedMemoryData}
    (h : Storing pid d x) {f : ShmRegs → Fin MAX_PROCESSES → SharedMemoryData → SharedMemoryData}
    (hf : ∀ i, x.1.slot = some i → (f x.1 i x.2).processPids = x.2.processPids ∨
      (f x.1 i x.2).processPids = Function.update x.2.processPids i pid) :
    Storing pid d (storeInSlot f x) ∧ KeepsSlots x.2 (storeInSlot f x).2 := by
  cases hslot : x.1.slot with
  | none =>
    have hsame : storeInSlot f x = x := by
      simp only [storeInSlot, storeWord, hslot]
    rw [hsame]
    exact ⟨h, .refl _⟩
  | some i =>
    have hstore : storeInSlot f x = (x.1, f x.1 i x.2) := by
      simp only [storeInSlot, storeWord, hslot]
    rw [hstore]
    rcases hf i hslot with hsame | hpid
    · exact h.kept rfl hsame
    · exact h.store hslot hpid

theorem Storing.access {pid : Pid} {usage : ResourceUsage} {nowNs : UInt64} {d : SharedMemoryData}
    {x : ShmRegs × SharedMemoryData} (h : Storing pid d x) {f : ShmAccess}
    (hf : f ∈ slotAccesses pid usage nowNs) : Storing pid d (f x) ∧ KeepsSlots x.2 (f x).2 := by
  simp only [slotAccesses, List.mem_cons, List.not_mem_nil, or_false] at hf
  rcases hf with rfl | rfl | rfl | rfl | rfl | rfl | rfl | rfl
  · refine h.kept ?_ rfl
    simp only [testNew, loadWord]
    cases hslot : x.1.slot with
    | none => exact hslot
    | some i => rfl
  · refine h.inSlot fun i _ => ?_
    by_cases hnew : x.1.isNew = true
    · exact Or.inr (by rw [if_pos hnew])
    · exact Or.inl (by rw [if_neg hnew])
  · exact h.inSlot fun _ _ => Or.inl rfl
  · exact h.inSlot fun _ _ => Or.inl rfl
  · exact h.inSlot fun _ _ => Or.inl rfl
  · exact h.kept rfl rfl
  · exact h.inSlot fun _ _ => Or.inl rfl
  · exact h.inSlot fun _ _ => Or.inl rfl

theorem storing_scan (pid : Pid) (d : SharedMemoryData) :
    Storing pid d (SpinLock.runAll (scanAccesses pid (List.finRange MAX_PROCESSES)) (.start, d)) := by
  obtain ⟨left, hscan⟩ := runAll_scan pid (List.finRange MAX_PROCESSES) (r := .start) rfl d
  rw [hscan]
  exact ⟨SlotTable.scanOne_eq_slotFor, Or.inl rfl⟩

/-! ## The pids inside a section -/

theorem pids_globalAccesses {usage : ResourceUsage} {nowNs : UInt64} {f : ShmAccess}
    (hf : f ∈ globalAccesses usage nowNs) (x : ShmRegs × SharedMemoryData) :
    (f x).2.processPids = x.2.processPids := by
  simp only [globalAccesses, List.mem_cons, List.not_mem_nil, or_false] at hf
  rcases hf with rfl | rfl | rfl | rfl | rfl | rfl <;> rfl

theorem pids_limitAccesses {maxQp maxMr : UInt32} {maxMemory : UInt64} {f : ShmAccess}
    (hf : f ∈ limitAccesses maxQp maxMr maxMemory) (x : ShmRegs × SharedMemoryData) :
    (f x).2.processPids = x.2.processPids := by
  simp only [limitAccesses, List.mem_cons, List.not_mem_nil, or_false] at hf
  rcases hf with rfl | rfl | rfl <;> rfl

theorem runAll_pids {fs : List ShmAccess}
    (h : ∀ f ∈ fs, ∀ x, (f x).2.processPids = x.2.processPids) (x : ShmRegs × SharedMemoryData) :
    (SpinLock.runAll fs x).2.processPids = x.2.processPids :=
  SpinLock.runAll_of_mem (I := fun y => y.2.processPids = x.2.processPids)
    (fun f hf y hy => (h f hf y).trans hy) rfl

/-- Where an updating call may stand, as far as the pids are concerned: it has not touched
them, or it knows its slot. -/
theorem partly_cases (op : ShmOp) (nowNs : UInt64) (d : SharedMemoryData)
    {before rest : List ShmAccess} (h : op.accesses nowNs = before ++ rest) :
    ((SpinLock.runAll before (.start, d)).2.processPids = d.processPids ∧
      ∀ f ∈ rest.head?, ∀ x, (f x).2.processPids = x.2.processPids) ∨
    ∃ pid usage, Storing pid d (SpinLock.runAll before (.start, d)) ∧
      ∀ f ∈ rest, f ∈ slotAccesses pid usage nowNs := by
  have hbefore : ∀ f ∈ before, f ∈ op.accesses nowNs := fun f hf => h ▸ List.mem_append_left _ hf
  have hrest : ∀ f ∈ rest.head?, f ∈ op.accesses nowNs :=
    fun f hf => h ▸ List.mem_append_right _ (List.mem_of_mem_head? hf)
  cases op with
  | updateGlobal usage =>
    exact Or.inl ⟨runAll_pids (fun f hf => pids_globalAccesses (hbefore f hf)) _,
      fun f hf => pids_globalAccesses (hrest f hf)⟩
  | setLimits maxQp maxMr maxMemory =>
    exact Or.inl ⟨runAll_pids (fun f hf => pids_limitAccesses (hbefore f hf)) _,
      fun f hf => pids_limitAccesses (hrest f hf)⟩
  | updateProcess pid usage =>
    have hscanned := storing_scan pid d
    have hloads : ∀ f ∈ scanAccesses pid (List.finRange MAX_PROCESSES), ∀ x, (f x).2 = x.2 :=
      fun f hf x => loads_scanAccesses hf x
    simp only [ShmOp.accesses] at h
    -- the thousand steps of the loop are not to be unfolded
    generalize scanAccesses pid (List.finRange MAX_PROCESSES) = scan at h hscanned hloads
    rcases List.append_eq_append_iff.mp h with ⟨stored, rfl, hslots⟩ | ⟨more, hscan, rfl⟩
    · refine Or.inr ⟨pid, usage, ?_, fun f hf => hslots ▸ List.mem_append_right _ hf⟩
      rw [SpinLock.runAll_append]
      refine SpinLock.runAll_of_mem (I := Storing pid d) (fun f hf x hx => ?_) hscanned
      have hmem : f ∈ slotAccesses pid usage nowNs := hslots ▸ List.mem_append_left _ hf
      exact (hx.access hmem).1
    · cases more with
      | nil =>
        rw [List.append_nil] at hscan
        subst hscan
        exact Or.inr ⟨pid, usage, hscanned, fun f hf => hf⟩
      | cons g more =>
        subst hscan
        refine Or.inl ⟨?_, ?_⟩
        · rw [runAll_loads fun f hf => hloads f (List.mem_append_left _ hf)]
        · rintro f hf x
          obtain rfl := Option.some.inj hf
          rw [hloads g (by simp)]

theorem distinct_partly {op : ShmOp} {nowNs : UInt64} {d : SharedMemoryData}
    (hd : SlotTable.Distinct d.processPids 0) {before rest : List ShmAccess}
    (h : op.accesses nowNs = before ++ rest) :
    SlotTable.Distinct (SpinLock.runAll before (.start, d)).2.processPids 0 := by
  rcases partly_cases op nowNs d h with ⟨hpids, -⟩ | ⟨pid, usage, hstoring, -⟩
  · rw [hpids]
    exact hd
  · rcases hstoring.pids with hpids | ⟨i, hi, hpids⟩
    · rw [hpids]
      exact hd
    · rw [hpids]
      exact SlotTable.distinct_update hd hi

theorem keepsSlots_access {op : ShmOp} {nowNs : UInt64} {d : SharedMemoryData}
    {before rest : List ShmAccess} {f : ShmAccess} (h : op.accesses nowNs = before ++ f :: rest) :
    KeepsSlots (SpinLock.runAll before (.start, d)).2
      (f (SpinLock.runAll before (.start, d))).2 := by
  rcases partly_cases op nowNs d h with ⟨-, hpids⟩ | ⟨pid, usage, hstoring, hrest⟩
  · exact .of_eq (hpids f rfl _)
  · exact (hstoring.access (hrest f List.mem_cons_self)).2

/-! ## The pids along a run -/

section Runs

variable {T : Type} [DecidableEq T]

omit [DecidableEq T] in
theorem distinct_result {c : SpinLock.Call ShmRegs SharedMemoryData Unit} (hc : IsSection c)
    {d : SharedMemoryData} (hd : SlotTable.Distinct d.processPids 0) :
    SlotTable.Distinct (c.result d).2.processPids 0 := by
  obtain ⟨op, nowNs, -, rfl⟩ := hc
  exact distinct_partly hd (List.append_nil _).symm

omit [DecidableEq T] in
theorem distinct_data {d : SharedMemoryData} (hd : SlotTable.Distinct d.processPids 0)
    {s : SegmentState T} (hserial : SpinLock.Serial d s)
    (hmade : SpinLock.Made (fun _ c => IsSection c) s) :
    SlotTable.Distinct s.data.processPids 0 := by
  refine hserial.data_rule (G := fun d => SlotTable.Distinct d.processPids 0)
    (D := fun d => SlotTable.Distinct d.processPids 0) hd (fun _ h => h) ?_ ?_
  · intro tc htc d' hd'
    exact distinct_result (hmade.1 tc htc) hd'
  · intro tc htc d' hd' before rest hbody
    obtain ⟨op, nowNs, -, hc⟩ := hmade.1 tc htc
    rw [hc] at hbody ⊢
    exact distinct_partly hd' hbody

theorem keepsSlots_step {d : SharedMemoryData} {s : SegmentState T} (hserial : SpinLock.Serial d s)
    (hmade : SpinLock.Made (fun _ c => IsSection c) s)
    (e : SpinLock.Event T ShmRegs SharedMemoryData Unit) : KeepsSlots s.data (s.step e).data := by
  refine hserial.step_rule (G := fun _ => True) (K := KeepsSlots) (SpinLock.step_moved s e) trivial
    KeepsSlots.refl (fun _ _ _ _ => trivial) ?_
  intro tc htc d' _ before f rest hbody
  obtain ⟨op, nowNs, -, hc⟩ := hmade.1 tc htc
  rw [hc] at hbody ⊢
  exact keepsSlots_access hbody

/-- At every moment of a run no pid is stored twice, and no step takes a slot away. -/
theorem along_pids {d : SharedMemoryData} (hd : SlotTable.Distinct d.processPids 0)
    {s : SegmentState T} (hserial : SpinLock.Serial d s)
    (hmade : SpinLock.Made (fun _ c => IsSection c) s)
    {es : List (SpinLock.Event T ShmRegs SharedMemoryData Unit)}
    (hes : ∀ t c, SpinLock.Event.call t c ∈ es → IsSection c) :
    Along SpinLock.State.step (fun s e => SlotTable.Distinct s.data.processPids 0 ∧
      KeepsSlots s.data (s.step e).data) s es := by
  induction es generalizing s with
  | nil => trivial
  | cons e es ih =>
    refine ⟨⟨distinct_data hd hserial hmade, keepsSlots_step hserial hmade e⟩,
      ih (hserial.step e) (hmade.moved (SpinLock.step_moved s e) ?_)
        fun t c hc => hes t c (List.mem_cons_of_mem _ hc)⟩
    rintro t c rfl
    exact hes t c List.mem_cons_self

end Runs

/-! ## A look-up -/

/-- The pid is found in the one slot that holds it. -/
theorem published_of_slot {d : SharedMemoryData} (hd : SlotTable.Distinct d.processPids 0)
    {pid : Pid} (hpid : 0 < pid) {i : Fin MAX_PROCESSES} (hi : d.processPids i = pid) :
    published d pid = d.processStats i := by
  rw [published_eq, recordOf, SlotTable.lookup_of_key hd (positive_ne_zero _ hpid) hi]
  rfl

/-- Without a slot a process has published nothing. -/
theorem published_of_none {d : SharedMemoryData} {pid : Pid} (h : ∀ i, d.processPids i ≠ pid) :
    published d pid = .zero := by
  rw [published, SlotTable.slotOf_eq_none_iff.mpr h]

/-- The loop has gone over the slots `is` of a segment that was `d₀` when it began: it has found
the slot of the pid, or the pid was not in them at the beginning. -/
structure Scanned (pid : Pid) (d₀ : SharedMemoryData) (is : List (Fin MAX_PROCESSES)) (r : ShmRegs)
    (d : SharedMemoryData) : Prop where
  since : KeepsSlots d₀ d
  usage : r.usage = .zero
  slot : (r.left = true ∧ ∃ i, r.slot = some i ∧ d.processPids i = pid) ∨
    (r.left = false ∧ r.slot = none ∧ ∀ i ∈ is, d₀.processPids i ≠ pid)

theorem Scanned.keeps {pid : Pid} (hpid : 0 < pid) {d₀ d d' : SharedMemoryData}
    {is : List (Fin MAX_PROCESSES)} {r : ShmRegs} (h : Scanned pid d₀ is r d)
    (hkeep : KeepsSlots d d') : Scanned pid d₀ is r d' := by
  refine ⟨h.since.trans hkeep, h.usage, ?_⟩
  rcases h.slot with ⟨hleft, i, hslot, hi⟩ | hnone
  · exact Or.inl ⟨hleft, i, hslot, by rw [hkeep i (hi ▸ positive_ne_zero _ hpid), hi]⟩
  · exact Or.inr hnone

theorem Scanned.read {pid : Pid} (hpid : 0 < pid) {d₀ d : SharedMemoryData}
    {is : List (Fin MAX_PROCESSES)} {r : ShmRegs} (h : Scanned pid d₀ is r d)
    (i : Fin MAX_PROCESSES) : Scanned pid d₀ (is ++ [i]) (readPid pid i r d) d := by
  rcases h.slot with ⟨hleft, hfound⟩ | ⟨hleft, hslot, hnone⟩
  · have hsame : readPid pid i r d = r := by simp [readPid, hleft]
    rw [hsame]
    exact ⟨h.since, h.usage, Or.inl ⟨hleft, hfound⟩⟩
  · by_cases hi : d.processPids i = pid
    · have hfound : readPid pid i r d = { r with slot := some i, left := true } := by
        simp [readPid, hleft, hi]
      rw [hfound]
      exact ⟨h.since, h.usage, Or.inl ⟨rfl, i, rfl, hi⟩⟩
    · have hsame : readPid pid i r d = r := by simp [readPid, hi]
      rw [hsame]
      refine ⟨h.since, h.usage, Or.inr ⟨hleft, hslot, ?_⟩⟩
      intro j hj
      rcases List.mem_append.mp hj with hj | hj
      · exact hnone j hj
      · rw [List.mem_singleton.mp hj]
        intro hj₀
        -- a slot of the pid at the beginning would be its slot now
        exact hi (by rw [h.since i (hj₀ ▸ positive_ne_zero _ hpid), hj₀])

section Copy

variable (M : SharedMemoryData → Prop) (pid : Pid)

/-- The value is one that the process had published in a segment of which `M` holds. -/
def Seen {α : Type} (f : ResourceUsage → α) (v : α) : Prop :=
  ∃ d, M d ∧ v = f (published d pid)

/-- `n` counters have been copied. -/
structure Copied (n : ℕ) (r : ShmRegs) (d : SharedMemoryData) : Prop where
  slot : ∀ i, r.slot = some i → d.processPids i = pid
  qp : r.slot = none ∨ 1 ≤ n → Seen M pid ResourceUsage.qpCount r.usage.qpCount
  mr : r.slot = none ∨ 2 ≤ n → Seen M pid ResourceUsage.mrCount r.usage.mrCount
  memory : r.slot = none ∨ 3 ≤ n → Seen M pid ResourceUsage.memoryUsed r.usage.memoryUsed

variable {M pid}

theorem Copied.keeps (hpid : 0 < pid) {n : ℕ} {r : ShmRegs} {d d' : SharedMemoryData}
    (h : Copied M pid n r d) (hkeep : KeepsSlots d d') : Copied M pid n r d' := by
  refine ⟨?_, h.qp, h.mr, h.memory⟩
  intro i hi
  rw [hkeep i (h.slot i hi ▸ positive_ne_zero _ hpid), h.slot i hi]

/-- A pid that was in no slot at the beginning had published nothing then. -/
theorem Scanned.copied {d₀ d : SharedMemoryData} (hd₀ : M d₀) {r : ShmRegs}
    (h : Scanned pid d₀ (List.finRange MAX_PROCESSES) r d) : Copied M pid 0 r d := by
  rcases h.slot with ⟨-, i, hslot, hi⟩ | ⟨-, hslot, hnone⟩
  · refine ⟨?_, ?_, ?_, ?_⟩
    · intro j hj
      obtain rfl := Option.some.inj (hslot.symm.trans hj)
      exact hi
    all_goals
      rintro (hno | hn)
      · rw [hslot] at hno
        exact absurd hno nofun
      · omega
  · have hzero : published d₀ pid = .zero :=
      published_of_none fun i => hnone i (List.mem_finRange i)
    refine ⟨fun i hi => absurd (hslot.symm.trans hi) nofun, fun _ => ⟨d₀, hd₀, ?_⟩,
      fun _ => ⟨d₀, hd₀, ?_⟩, fun _ => ⟨d₀, hd₀, ?_⟩⟩ <;> rw [hzero, h.usage]

theorem readSlot_some {f : ResourceUsage → ResourceUsage → ResourceUsage} {r : ShmRegs}
    {i : Fin MAX_PROCESSES} (hslot : r.slot = some i) (d : SharedMemoryData) :
    readSlot f r d = { r with usage := f (d.processStats i) r.usage } := by
  simp only [readSlot, hslot]

theorem Copied.read {n : ℕ} {r : ShmRegs} {d : SharedMemoryData} (h : Copied M pid n r d)
    (hM : M d) (hd : SlotTable.Distinct d.processPids 0) (hpid : 0 < pid)
    {f : ShmRegs → SharedMemoryData → ShmRegs} {rest : List (ShmRegs → SharedMemoryData → ShmRegs)}
    (hf : copyReads.drop n = f :: rest) : Copied M pid (n + 1) (f r d) d := by
  cases hslot : r.slot with
  | none =>
    have hsame : f r d = r := by
      have hmem : f ∈ copyReads := List.mem_of_mem_drop (hf ▸ List.mem_cons_self)
      simp only [copyReads, List.mem_cons, List.not_mem_nil, or_false] at hmem
      rcases hmem with rfl | rfl | rfl <;> simp only [readSlot, hslot]
    rw [hsame]
    exact ⟨h.slot, fun _ => h.qp (Or.inl hslot), fun _ => h.mr (Or.inl hslot),
      fun _ => h.memory (Or.inl hslot)⟩
  | some i =>
    have hpub : published d pid = d.processStats i := published_of_slot hd hpid (h.slot i hslot)
    have hlater : ∀ m, r.slot = none ∨ m ≤ n + 1 → m ≤ n + 1 :=
      fun m hm => hm.resolve_left (by rw [hslot]; exact nofun)
    match n, hf with
    | 0, hf =>
      obtain ⟨rfl, -⟩ := List.cons.inj hf
      rw [readSlot_some hslot]
      exact ⟨h.slot, fun _ => ⟨d, hM, by rw [hpub]⟩, fun hm => absurd (hlater _ hm) (by omega),
        fun hm => absurd (hlater _ hm) (by omega)⟩
    | 1, hf =>
      obtain ⟨rfl, -⟩ := List.cons.inj hf
      rw [readSlot_some hslot]
      exact ⟨h.slot, fun _ => h.qp (Or.inr le_rfl), fun _ => ⟨d, hM, by rw [hpub]⟩,
        fun hm => absurd (hlater _ hm) (by omega)⟩
    | 2, hf =>
      obtain ⟨rfl, -⟩ := List.cons.inj hf
      rw [readSlot_some hslot]
      exact ⟨h.slot, fun _ => h.qp (Or.inr (by omega)), fun _ => h.mr (Or.inr le_rfl),
        fun _ => ⟨d, hM, by rw [hpub]⟩⟩
    | n + 3, hf =>
      have hnil : copyReads.drop (n + 3) = [] := List.drop_eq_nil_of_le (Nat.le_add_left 3 n)
      exact absurd (hnil.symm.trans hf) nofun

/-- How far a look-up has got that began on the segment `d₀`. -/
def LookingUp (M : SharedMemoryData → Prop) (pid : Pid) (d₀ : SharedMemoryData)
    (rest : List (ShmRegs → SharedMemoryData → ShmRegs)) (r : ShmRegs) (d : SharedMemoryData) :
    Prop :=
  (∃ is is', List.finRange MAX_PROCESSES = is ++ is' ∧
    rest = is'.map (readPid pid) ++ copyReads ∧ Scanned pid d₀ is r d) ∨
  ∃ n ≤ 3, rest = copyReads.drop n ∧ Copied M pid n r d

theorem LookingUp.keeps (hpid : 0 < pid) {d₀ : SharedMemoryData}
    {rest : List (ShmRegs → SharedMemoryData → ShmRegs)} {r : ShmRegs} {d d' : SharedMemoryData}
    (hkeep : KeepsSlots d d') (h : LookingUp M pid d₀ rest r d) : LookingUp M pid d₀ rest r d' := by
  rcases h with ⟨is, is', hall, hrest, hscan⟩ | ⟨n, hn, hrest, hcopied⟩
  · exact Or.inl ⟨is, is', hall, hrest, hscan.keeps hpid hkeep⟩
  · exact Or.inr ⟨n, hn, hrest, hcopied.keeps hpid hkeep⟩

theorem LookingUp.read (hpid : 0 < pid) {d₀ : SharedMemoryData} (hd₀ : M d₀)
    {f : ShmRegs → SharedMemoryData → ShmRegs} {rest : List (ShmRegs → SharedMemoryData → ShmRegs)}
    {r : ShmRegs} {d : SharedMemoryData} (hd : SlotTable.Distinct d.processPids 0) (hM : M d)
    (h : LookingUp M pid d₀ (f :: rest) r d) : LookingUp M pid d₀ rest (f r d) d := by
  have hcopy : ∀ n ≤ 3, f :: rest = copyReads.drop n → Copied M pid n r d →
      LookingUp M pid d₀ rest (f r d) d := by
    intro n hn hrest hcopied
    have hlt : n < copyReads.length := by
      rw [← not_le, ← List.drop_eq_nil_iff, ← hrest]
      exact nofun
    refine Or.inr ⟨n + 1, hlt, ?_, hcopied.read hM hd hpid hrest.symm⟩
    rw [← List.tail_drop, ← hrest, List.tail_cons]
  rcases h with ⟨is, is', hall, hrest, hscan⟩ | ⟨n, hn, hrest, hcopied⟩
  · cases is' with
    | nil =>
      rw [List.append_nil] at hall
      exact hcopy 0 (Nat.zero_le 3) hrest ((hall ▸ hscan).copied hd₀)
    | cons i is' =>
      obtain ⟨rfl, rfl⟩ := List.cons.inj hrest
      exact Or.inl ⟨is ++ [i], is', by rw [hall]; simp, rfl, hscan.read hpid i⟩
  · exact hcopy n hn hrest hcopied

theorem LookingUp.done {d₀ : SharedMemoryData} {r : ShmRegs} {d : SharedMemoryData}
    (h : LookingUp M pid d₀ [] r d) : Copied M pid 3 r d := by
  rcases h with ⟨is, is', -, hrest, -⟩ | ⟨n, hn, hrest, hcopied⟩
  · exact absurd (List.append_eq_nil_iff.mp hrest.symm).2 nofun
  · have hlen : copyReads.length ≤ n := List.drop_eq_nil_iff.mp hrest.symm
    obtain rfl : n = 3 := Nat.le_antisymm hn hlen
    exact hcopied

end Copy

section Runs

variable {T : Type} [DecidableEq T]

theorem begins_of_continues {t : T} {e : SegmentEvent T} (h : e.continues t = true)
    {e' : SpinLock.Event T ShmRegs SharedMemoryData Unit} (he : e.step = some e') :
    e'.begins t = false ∧ e'.kills t = false := by
  cases e with
  | call t' op nowNs =>
    simp only [SegmentEvent.step] at he
    split at he
    · cases he
      exact ⟨decide_eq_false (of_decide_eq_true h), rfl⟩
    · cases he
  | getProcess t' pid =>
    simp only [SegmentEvent.step] at he
    split at he
    · cases he
    · cases he
      exact ⟨decide_eq_false (of_decide_eq_true h), rfl⟩
  | getGlobal t' =>
    cases he
    exact ⟨decide_eq_false (of_decide_eq_true h), rfl⟩
  | run t' =>
    cases he
    exact ⟨rfl, rfl⟩
  | die t' =>
    cases he
    exact ⟨rfl, decide_eq_false (of_decide_eq_true h)⟩

theorem countP_runs (t : T) (es : List (SegmentEvent T)) :
    (es.filterMap SegmentEvent.step).countP (SpinLock.Event.runs t) =
      es.countP (SegmentEvent.runs t) := by
  rw [List.countP_filterMap]
  congr 1
  funext e
  cases e with
  | call t' op nowNs =>
    simp only [SegmentEvent.step]
    split <;> rfl
  | getProcess t' pid =>
    simp only [SegmentEvent.step]
    split <;> rfl
  | _ => rfl

/-- The segment as it is at some moment between the beginning `e` of a look-up and now. -/
def DuringLook (d : SharedMemoryData) (es : List (SegmentEvent T)) (e : SegmentEvent T)
    (later : List (SegmentEvent T)) (d' : SharedMemoryData) : Prop :=
  ∃ now, now <+: later ∧ d' = (segmentRun d (es ++ e :: now)).data

theorem segmentRun_after (d : SharedMemoryData) (es : List (SegmentEvent T)) (e : SegmentEvent T)
    (now : List (SegmentEvent T)) :
    segmentRun d (es ++ e :: now) =
      exec SpinLock.State.step (segmentRun d (es ++ [e])) (now.filterMap SegmentEvent.step) := by
  rw [← segmentRun_append, List.append_assoc]
  rfl

theorem along_duringLook (d : SharedMemoryData) (es : List (SegmentEvent T)) (e : SegmentEvent T)
    (later : List (SegmentEvent T)) :
    Along SpinLock.State.step (fun s _ => DuringLook d es e later s.data)
      (segmentRun d (es ++ [e])) (later.filterMap SegmentEvent.step) := by
  apply along_iff_split.mpr
  intro pre step post hes
  obtain ⟨now, hnow, rfl⟩ := List.prefix_filterMap_iff.mp ⟨step :: post, hes.symm⟩
  exact ⟨now, hnow, congrArg SpinLock.State.data (segmentRun_after d es e now).symm⟩

/-- A thread that is in no call begins a look-up. -/
theorem segmentRun_getProcess {d : SharedMemoryData} {es : List (SegmentEvent T)} {t : T}
    {pid : Pid} (hpid : 0 < pid) (halive : (segmentRun d es).alive t = true)
    (hready : ((segmentRun d es).phase t).atRest = true) :
    segmentRun d (es ++ [.getProcess t pid]) =
      (segmentRun d es).setPhase t (.looking .start (lookupReads pid)) := by
  rw [segmentRun_append]
  simp only [List.filterMap_cons, SegmentEvent.step, if_neg (Int32.not_le.mpr hpid),
    List.filterMap_nil, exec_cons, exec_nil, SpinLock.State.step, halive, hready, and_self, if_true]

end Runs

end RdmaIntercept.Analysis
