import RdmaIntercept.Analysis.StoreSpec
import RdmaIntercept.Model.StoreRuns

/-!
# The binding table is a finite map

The table `pid_mappings` represents a partial map from processes to tenants.  One
equation for each call of the tenant API says how the call changes this map, whatever the
holes in the table and the order of its entries; the only invariant that the equations
need is that no process occupies two slots.
-/

set_option autoImplicit false

namespace RdmaIntercept.Analysis

open RdmaIntercept.Library RdmaIntercept.Model

/-- The processes that have a mapping. -/
def boundPids (shm : TenantShm) : Finset Pid := SlotTable.keys shm.mappedPid 0

/-- The tenants beside the processes. -/
def mappedTenant (shm : TenantShm) (i : Fin MAX_PROCESSES) : UInt32 := (shm.pidMappings i).tenantId

/-- No process occupies two slots. -/
def MappedOnce (shm : TenantShm) : Prop := SlotTable.Distinct shm.mappedPid 0

theorem tenantOf_eq_lookup (shm : TenantShm) (p : Pid) :
    shm.tenantOf p = SlotTable.lookup shm.mappedPid (mappedTenant shm) p := rfl

theorem mappedTenant_congr {shm shm' : TenantShm} (h : shm'.pidMappings = shm.pidMappings) :
    mappedTenant shm' = mappedTenant shm := by
  funext i
  unfold mappedTenant
  rw [h]

theorem mappedTenant_of_update {shm shm' : TenantShm} {i : Fin MAX_PROCESSES}
    {m : PidTenantMapping} (h : shm'.pidMappings = Function.update shm.pidMappings i m) :
    mappedTenant shm' = Function.update (mappedTenant shm) i m.tenantId := by
  funext j
  unfold mappedTenant
  rw [h]
  by_cases hji : j = i
  · rw [hji, Function.update_self, Function.update_self]
  · rw [Function.update_of_ne hji, Function.update_of_ne hji]

theorem MappedOnce.congr {shm shm' : TenantShm} (h : MappedOnce shm)
    (hmap : shm'.pidMappings = shm.pidMappings) : MappedOnce shm' := by
  unfold MappedOnce
  rw [mappedPid_congr hmap]
  exact h

theorem mem_boundPids_iff {shm : TenantShm} {p : Pid} (hp : p ≠ 0) :
    p ∈ boundPids shm ↔ ∃ t, shm.tenantOf p = some t := SlotTable.mem_keys_iff_lookup hp

theorem tenantOf_eq_none_iff {shm : TenantShm} {p : Pid} (hp : p ≠ 0) :
    shm.tenantOf p = none ↔ p ∉ boundPids shm := by
  rw [mem_boundPids_iff hp, ← Option.ne_none_iff_exists', Ne, not_not]

theorem tenantOf_of_slot {shm : TenantShm} (h : MappedOnce shm) {p : Pid} (hp : p ≠ 0)
    {i : Fin MAX_PROCESSES} (hi : shm.mappedPid i = p) :
    shm.tenantOf p = some (mappedTenant shm i) := SlotTable.lookup_of_key h hp hi

theorem slot_of_tenantOf {shm : TenantShm} {p : Pid} {t : UInt32} (h : shm.tenantOf p = some t) :
    ∃ i, shm.mappedPid i = p ∧ mappedTenant shm i = t := SlotTable.exists_of_lookup h

/-! ## Binding -/

/-- A binding that is not there yet needs room. -/
theorem mayBind_iff {shm : TenantShm} (h : MappedOnce shm) {p : Pid} (hp : p ≠ 0) (t : UInt32) :
    MayBind shm p t ↔
      t.toNat < MAX_TENANTS ∧ (shm.tenant t).status = .active ∧
        (p ∈ boundPids shm ∨ (boundPids shm).card < MAX_PROCESSES) := by
  unfold MayBind ActiveTenant
  rw [SlotTable.exists_slotFor_iff h hp, and_assoc]
  rfl

theorem tenantBind_ok_iff (shm : TenantShm) (p : Pid) (t : UInt32) (now : TimeT) :
    (tenantBindProcess shm p t now).1 = true ↔ MayBind shm p t := by
  rcases tenantBind_cases shm p t now with ⟨i, hmay, -, hdone⟩ | ⟨hno, href⟩
  · exact iff_of_true hdone.ok hmay
  · exact iff_of_false (by rw [href.failed]; exact Bool.false_ne_true) hno

theorem tenantOf_bind (shm : TenantShm) (p : Pid) (t : UInt32) (now : TimeT) {q : Pid}
    (hq : q ≠ 0) :
    (tenantBindProcess shm p t now).2.tenantOf q =
      if (tenantBindProcess shm p t now).1 = true ∧ q = p then some t else shm.tenantOf q := by
  rcases tenantBind_cases shm p t now with ⟨i, -, hi, hdone⟩ | ⟨-, href⟩
  · rw [hdone.ok, tenantOf_eq_lookup, mappedPid_of_update hdone.pidMappings,
      mappedTenant_of_update hdone.pidMappings, SlotTable.lookup_store t hi hq]
    simp only [true_and]
    rfl
  · rw [href.failed, tenantOf_congr href.pidMappings, if_neg (fun h => Bool.false_ne_true h.1)]

theorem MappedOnce.bind {shm : TenantShm} (h : MappedOnce shm) (p : Pid) (t : UInt32)
    (now : TimeT) : MappedOnce (tenantBindProcess shm p t now).2 := by
  rcases tenantBind_cases shm p t now with ⟨i, -, hi, hdone⟩ | ⟨-, href⟩
  · unfold MappedOnce
    rw [mappedPid_of_update hdone.pidMappings]
    exact SlotTable.distinct_update h hi
  · exact h.congr href.pidMappings

/-! ## Unbinding -/

/-- Clearing one slot is a sweep of that slot. -/
theorem mappedPid_of_freed {shm shm' : TenantShm} {i : Fin MAX_PROCESSES}
    (h : shm'.pidMappings = Function.update shm.pidMappings i (freedMapping (shm.pidMappings i))) :
    shm'.mappedPid = SlotTable.sweep shm.mappedPid 0 fun j => j = i := by
  funext j
  rw [mappedPid_of_update h]
  unfold SlotTable.sweep
  by_cases hji : j = i
  · rw [if_pos hji, hji, Function.update_self]
    rfl
  · rw [if_neg hji, Function.update_of_ne hji]

theorem mappedTenant_of_freed {shm shm' : TenantShm} {i : Fin MAX_PROCESSES}
    (h : shm'.pidMappings = Function.update shm.pidMappings i (freedMapping (shm.pidMappings i))) :
    ∀ j, ¬ j = i → mappedTenant shm' j = mappedTenant shm j := by
  intro j hj
  rw [mappedTenant_of_update h, Function.update_of_ne hj]

theorem tenantUnbind_ok_iff (shm : TenantShm) {p : Pid} (hp : p ≠ 0) (now : TimeT) :
    (tenantUnbindProcess shm p now).1 = true ↔ p ∈ boundPids shm := by
  rw [boundPids, SlotTable.mem_keys, and_iff_right hp]
  cases hslot : SlotTable.slotOf shm.mappedPid p with
  | none =>
    rw [tenantUnbindProcess_of_none now hslot]
    have hno := SlotTable.slotOf_eq_none_iff.mp hslot
    exact iff_of_false Bool.false_ne_true (fun ⟨i, hi⟩ => hno i hi)
  | some i =>
    rw [tenantUnbindProcess_of_some now hslot]
    exact iff_of_true rfl ⟨i, SlotTable.key_of_slotOf hslot⟩

theorem tenantOf_unbind {shm : TenantShm} (h : MappedOnce shm) (p : Pid) (now : TimeT) {q : Pid}
    (hq : q ≠ 0) :
    (tenantUnbindProcess shm p now).2.tenantOf q = if q = p then none else shm.tenantOf q := by
  have hmap := tenantUnbindProcess_pidMappings shm p now
  cases hslot : SlotTable.slotOf shm.mappedPid p with
  | none =>
    rw [hslot] at hmap
    rw [tenantOf_congr hmap]
    by_cases hqp : q = p
    · rw [if_pos hqp, hqp, TenantShm.tenantOf, hslot, Option.map_none]
    · rw [if_neg hqp]
  | some i =>
    rw [hslot] at hmap
    have hkey := SlotTable.key_of_slotOf hslot
    have hkept := mappedTenant_of_freed hmap
    rw [tenantOf_eq_lookup, tenantOf_eq_lookup, mappedPid_of_freed hmap]
    cases hq' : SlotTable.lookup shm.mappedPid (mappedTenant shm) q with
    | none =>
      rw [SlotTable.lookup_sweep_of_none hq hq', ite_self]
    | some u =>
      obtain ⟨j, hj, -⟩ := SlotTable.exists_of_lookup hq'
      rw [SlotTable.lookup_sweep h hkept hq hj, hq']
      by_cases hqp : q = p
      · rw [if_pos hqp, if_pos (h j i (hj.trans (hqp.trans hkey.symm)) (by rwa [hj]))]
      · rw [if_neg hqp, if_neg]
        rintro rfl
        exact hqp (hj.symm.trans hkey)

theorem MappedOnce.unbind {shm : TenantShm} (h : MappedOnce shm) (p : Pid) (now : TimeT) :
    MappedOnce (tenantUnbindProcess shm p now).2 := by
  have hmap := tenantUnbindProcess_pidMappings shm p now
  cases hslot : SlotTable.slotOf shm.mappedPid p with
  | none =>
    rw [hslot] at hmap
    exact h.congr hmap
  | some i =>
    rw [hslot] at hmap
    unfold MappedOnce
    rw [mappedPid_of_freed hmap]
    exact SlotTable.distinct_sweep h

/-! ## Deleting a tenant -/

theorem mappedPid_of_cleared {shm shm' : TenantShm} {t : UInt32}
    (h : shm'.pidMappings = fun i => clearedMapping t (shm.pidMappings i)) :
    shm'.mappedPid = SlotTable.sweep shm.mappedPid 0 fun i => mappedTenant shm i = t := by
  funext i
  unfold TenantShm.mappedPid SlotTable.sweep
  rw [congrFun h i]
  by_cases hi : mappedTenant shm i = t
  · rw [if_pos hi, clearedMapping_of_eq hi]
  · rw [if_neg hi, clearedMapping_of_ne hi]

theorem mappedTenant_of_cleared {shm shm' : TenantShm} {t : UInt32}
    (h : shm'.pidMappings = fun i => clearedMapping t (shm.pidMappings i)) :
    ∀ i, ¬ mappedTenant shm i = t → mappedTenant shm' i = mappedTenant shm i := by
  intro i hi
  unfold mappedTenant
  rw [congrFun h i, clearedMapping_of_ne hi]

theorem tenantOf_delete {shm : TenantShm} (h : MappedOnce shm) (t : UInt32) (now : TimeT)
    {q : Pid} (hq : q ≠ 0) :
    (tenantDelete shm t now).2.tenantOf q =
      if (tenantDelete shm t now).1 = true ∧ shm.tenantOf q = some t then none
      else shm.tenantOf q := by
  rcases tenantDelete_cases shm t now with ⟨-, hdone⟩ | ⟨-, href⟩
  · have hkept := mappedTenant_of_cleared hdone.pidMappings
    rw [hdone.ok, tenantOf_eq_lookup, tenantOf_eq_lookup, mappedPid_of_cleared hdone.pidMappings]
    simp only [true_and]
    cases hq' : SlotTable.lookup shm.mappedPid (mappedTenant shm) q with
    | none => rw [SlotTable.lookup_sweep_of_none hq hq', ite_self]
    | some u =>
      obtain ⟨i, hi, hu⟩ := SlotTable.exists_of_lookup hq'
      rw [SlotTable.lookup_sweep h hkept hq hi, hq', hu]
      simp only [Option.some.injEq]
  · rw [href.failed, tenantOf_congr href.pidMappings, if_neg (fun h => Bool.false_ne_true h.1)]

theorem MappedOnce.delete {shm : TenantShm} (h : MappedOnce shm) (t : UInt32) (now : TimeT) :
    MappedOnce (tenantDelete shm t now).2 := by
  rcases tenantDelete_cases shm t now with ⟨-, hdone⟩ | ⟨-, href⟩
  · unfold MappedOnce
    rw [mappedPid_of_cleared hdone.pidMappings]
    exact SlotTable.distinct_sweep h
  · exact h.congr href.pidMappings

/-! ## The other calls -/

theorem tenantCreate_pidMappings (shm : TenantShm) (t : UInt32) (name : Option (List UInt8))
    (quota : Option TenantQuota) (now : TimeT) :
    (tenantCreate shm t name quota now).2.pidMappings = shm.pidMappings := by
  rcases tenantCreate_cases shm t name quota now with ⟨-, hdone⟩ | ⟨-, href⟩
  · exact hdone.pidMappings
  · exact href.pidMappings

/-- Only bindings, unbindings and deletions change the table. -/
theorem MappedOnce.exec {shm : TenantShm} (h : MappedOnce shm) (c : StoreCall) (now : TimeT) :
    MappedOnce (c.exec shm now) := by
  cases c with
  | lookup p => exact h.congr (tenantGetProcessTenant_same shm p now).pidMappings
  | op o =>
    cases o with
    | create t name quota => exact h.congr (tenantCreate_pidMappings shm t name quota now)
    | delete t => exact h.delete t now
    | setStatus t st => exact h.congr (tenantSetStatus_spec shm t st now).pidMappings
    | updateQuota t quota => exact h.congr (tenantUpdateQuota_spec shm t quota now).pidMappings
    | bind p t => exact h.bind p t now
    | unbind p => exact h.unbind p now
    | updateUsage t usage =>
      exact h.congr (tenantUpdateResourceUsage_spec shm t usage now).pidMappings

/-- What a call makes of the entry of process `q` in the map. -/
def entryAfter (c : StoreCall) (ok : Bool) (q : Pid) (entry : Option UInt32) : Option UInt32 :=
  match c with
  | .op (.bind p t) => if ok = true ∧ q = p then some t else entry
  | .op (.unbind p) => if q = p then none else entry
  | .op (.delete t) => if ok = true ∧ entry = some t then none else entry
  | _ => entry

/-- Every call acts on the map entry by entry. -/
theorem tenantOf_exec {shm : TenantShm} (h : MappedOnce shm) (c : StoreCall) (now : TimeT) {q : Pid}
    (hq : q ≠ 0) :
    (c.exec shm now).tenantOf q = entryAfter c (c.ok shm now) q (shm.tenantOf q) := by
  cases c with
  | lookup p => exact tenantOf_congr (tenantGetProcessTenant_same shm p now).pidMappings q
  | op o =>
    cases o with
    | create t name quota => exact tenantOf_congr (tenantCreate_pidMappings shm t name quota now) q
    | delete t => exact tenantOf_delete h t now hq
    | setStatus t st => exact tenantOf_congr (tenantSetStatus_spec shm t st now).pidMappings q
    | updateQuota t quota =>
      exact tenantOf_congr (tenantUpdateQuota_spec shm t quota now).pidMappings q
    | bind p t => exact tenantOf_bind shm p t now hq
    | unbind p => exact tenantOf_unbind h p now hq
    | updateUsage t usage =>
      exact tenantOf_congr (tenantUpdateResourceUsage_spec shm t usage now).pidMappings q

theorem mappedOnce_fresh (now : TimeT) : MappedOnce (.fresh now) := SlotTable.distinct_const

/-! ## The map in every state -/

/-- The table is a partial map with at most `MAX_PROCESSES` keys, and every call that may
come next acts on it as on such a map. -/
structure FiniteMapAt (shm : TenantShm) : Prop where
  once : ∀ i j, shm.mappedPid i = shm.mappedPid j → shm.mappedPid i ≠ 0 → i = j
  bounded : (boundPids shm).card ≤ MAX_PROCESSES
  represents : ∀ p t, p ≠ 0 →
    (shm.tenantOf p = some t ↔ ∃ i, shm.pidMappings i = ⟨p, t, (shm.pidMappings i).mappedAt⟩)
  isKey : ∀ p, p ≠ 0 → (p ∈ boundPids shm ↔ shm.tenantOf p ≠ none)
  bind : ∀ p t now, p ≠ 0 →
    ((tenantBindProcess shm p t now).1 = true ↔
      t.toNat < MAX_TENANTS ∧ (shm.tenant t).status = .active ∧
        (p ∈ boundPids shm ∨ (boundPids shm).card < MAX_PROCESSES)) ∧
    ∀ q, q ≠ 0 → (tenantBindProcess shm p t now).2.tenantOf q =
      if (tenantBindProcess shm p t now).1 = true ∧ q = p then some t else shm.tenantOf q
  unbind : ∀ p now, p ≠ 0 →
    ((tenantUnbindProcess shm p now).1 = true ↔ p ∈ boundPids shm) ∧
    ∀ q, q ≠ 0 → (tenantUnbindProcess shm p now).2.tenantOf q =
      if q = p then none else shm.tenantOf q
  delete : ∀ t now q, q ≠ 0 → (tenantDelete shm t now).2.tenantOf q =
    if (tenantDelete shm t now).1 = true ∧ shm.tenantOf q = some t then none else shm.tenantOf q
  lookup : ∀ p now, p ≠ 0 →
    processTenantResult (tenantGetProcessTenant shm p now).1 =
      match shm.tenantOf p with
      | some t => (true, t)
      | none => (false, 0)
  kept : ∀ t now q,
    (∀ name quota, (tenantCreate shm t name quota now).2.tenantOf q = shm.tenantOf q) ∧
    (∀ st, (tenantSetStatus shm t st now).2.tenantOf q = shm.tenantOf q) ∧
    ∀ p, (tenantGetProcessTenant shm p now).2.tenantOf q = shm.tenantOf q

theorem finiteMapAt_of_mappedOnce {shm : TenantShm} (h : MappedOnce shm) : FiniteMapAt shm where
  once := h
  bounded := SlotTable.card_keys_le
  represents := by
    intro p t hp
    constructor
    · intro ht
      obtain ⟨i, hi, hti⟩ := slot_of_tenantOf ht
      exact ⟨i, by rw [← hi, ← hti]; rfl⟩
    · rintro ⟨i, hi⟩
      have hpid : shm.mappedPid i = p := congrArg PidTenantMapping.pid hi
      have htenant : mappedTenant shm i = t := congrArg PidTenantMapping.tenantId hi
      rw [tenantOf_of_slot h hp hpid, htenant]
  isKey := by
    intro p hp
    rw [Ne, tenantOf_eq_none_iff hp, not_not]
  bind := by
    intro p t now hp
    refine ⟨(tenantBind_ok_iff shm p t now).trans (mayBind_iff h hp t), ?_⟩
    intro q hq
    exact tenantOf_bind shm p t now hq
  unbind := by
    intro p now hp
    refine ⟨tenantUnbind_ok_iff shm hp now, ?_⟩
    intro q hq
    exact tenantOf_unbind h p now hq
  delete := by
    intro t now q hq
    exact tenantOf_delete h t now hq
  lookup := by
    intro p now _
    rw [tenantGetProcessTenant_fst]
    cases shm.tenantOf p <;> rfl
  kept := by
    intro t now q
    refine ⟨?_, ?_, ?_⟩
    · intro name quota
      exact tenantOf_congr (tenantCreate_pidMappings shm t name quota now) q
    · intro st
      exact tenantOf_congr (tenantSetStatus_spec shm t st now).pidMappings q
    · intro p
      exact tenantOf_congr (tenantGetProcessTenant_same shm p now).pidMappings q

/-- In every state of every run the table is a finite map. -/
theorem bindingTable_finiteMap (start : TimeT) (calls : List (TimeT × StoreCall)) :
    Always TenantShm.step FiniteMapAt (.fresh start) calls := by
  have hinv : Always TenantShm.step MappedOnce (.fresh start) calls :=
    always_iff_initial.mpr fun pre _ =>
      exec_of_invariant (fun shm e h => h.exec e.2 e.1) (mappedOnce_fresh start) pre
  exact hinv.mono fun shm h => finiteMapAt_of_mappedOnce h

end RdmaIntercept.Analysis
