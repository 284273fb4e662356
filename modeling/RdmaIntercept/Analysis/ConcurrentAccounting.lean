import RdmaIntercept.Library.InFlight
import RdmaIntercept.Analysis.InterleavingSpec
import RdmaIntercept.Analysis.Scenario

/-!
# Accounting under concurrency

`update_tenant_resource_count` copies the usage record of a tenant out of the segment
and copies the changed record back in a second critical section.  Two calls that overlap
in between lose one update.  This module proves that nothing else can go wrong: as long
as every call writes over the record that it has read, the record is the exact one, up
to the changes that calls in progress have made and not recorded yet.
-/

set_option autoImplicit false

namespace RdmaIntercept.Analysis

open RdmaIntercept.Library RdmaIntercept.Model

/-- The four counters of calls. -/
inductive Total
  | qpCreates
  | qpDestroys
  | mrRegs
  | mrDeregs

def Total.kind : Total → ResourceKind
  | .qpCreates | .qpDestroys => .qp
  | .mrRegs | .mrDeregs => .mr

/-- The counter counts creations. -/
def Total.made : Total → Bool
  | .qpCreates | .mrRegs => true
  | .qpDestroys | .mrDeregs => false

/-- What a usage record says. -/
def Total.ofUsage (usage : TenantResourceUsage) : Total → UInt64
  | .qpCreates => usage.totalQpCreates
  | .qpDestroys => usage.totalQpDestroys
  | .mrRegs => usage.totalMrRegs
  | .mrDeregs => usage.totalMrDeregs

/-- The number of successful creations (`made`) or destructions of objects of a tenant. -/
def calls (w : CWorld) (made : Bool) (t : UInt32) (k : ResourceKind) : ℕ :=
  countOf (if made then w.made else w.gone) t k

/-- The records of every tenant show its live objects and its successful calls. -/
structure AccountsExact (w : CWorld) : Prop where
  counts : ∀ t : UInt32, t ≠ 0 → t.toNat < MAX_TENANTS → ∀ k,
    ((w.sys.usage t).count k).toInt = w.liveCount t k
  totals : ∀ t : UInt32, t ≠ 0 → t.toNat < MAX_TENANTS → ∀ x : Total,
    (x.ofUsage (w.sys.usage t)).toNat = calls w x.made t x.kind

/-- The steps of a run: those of the processes `procs`, which destroy objects that they have
made. -/
def HookStep (procs : Finset Pid) (w : CWorld) : CEvent → Prop
  | .create p _ => p ∈ procs
  | .destroy p o => p ∈ procs ∧ o ∈ w.live ∧ o.owner = p
  | .created p _ => p ∈ procs
  | .destroyed p _ => p ∈ procs
  | .next p => p ∈ procs
  | .tick _ _ => True

/-- Where such a run starts: the processes belong to ACTIVE tenants and nothing is used. -/
structure ConcurrentStart (procs : Finset Pid) (w : CWorld) : Prop where
  bound : ∀ p ∈ procs, BoundTo w.sys p (currentTenant w.sys p)
  usage : ZeroUsage w.sys
  live : w.live = []
  made : w.made = []
  gone : w.gone = []
  idle : w.Quiescent

/-- A call writes over the record that it has read, and the numbers stay in their types. -/
def Undisturbed (w : CWorld) : CEvent → Prop
  | .next p =>
    match w.phase p with
    | .write _ t usage => w.sys.usage t = usage
    | _ => True
  | .created p (some _) =>
    match w.phase p with
    | .create req _ =>
      w.liveCount (currentTenant w.sys p) req.kind + 1 < 2 ^ 31 ∧
        calls w true (currentTenant w.sys p) req.kind + 1 < 2 ^ 64
    | _ => True
  | _ => True

/-! ## Changes that are not recorded yet -/

/-- The change that a call has made and not recorded. -/
def pendingChange : Phase → Option Change
  | .publish c => some c
  | .charge c => some c
  | .read c _ => some c
  | .write c _ _ => some c
  | _ => none

/-- Whether the change `c` counts as a creation (`made`) or destruction in tenant `t`. -/
def Counts (c : Change) (made : Bool) (t : UInt32) (k : ResourceKind) : Prop :=
  c.made = made ∧ c.obj.tenant = t ∧ c.obj.kind = k

instance (c : Change) (made : Bool) (t : UInt32) (k : ResourceKind) :
    Decidable (Counts c made t k) := by
  unfold Counts
  infer_instance

def pends (made : Bool) (t : UInt32) (k : ResourceKind) (ph : Phase) : ℕ :=
  match pendingChange ph with
  | some c => if Counts c made t k then 1 else 0
  | none => 0

/-- The number of successful calls that have not been recorded. -/
def pending (procs : Finset Pid) (w : CWorld) (made : Bool) (t : UInt32) (k : ResourceKind) : ℕ :=
  inFlight procs (pends made t k) w.phase

theorem pends_of_none {ph : Phase} (h : pendingChange ph = none) (made : Bool) (t : UInt32)
    (k : ResourceKind) : pends made t k ph = 0 := by
  unfold pends
  rw [h]

theorem pends_of_some {ph : Phase} {c : Change} (h : pendingChange ph = some c) (made : Bool)
    (t : UInt32) (k : ResourceKind) :
    pends made t k ph = if Counts c made t k then 1 else 0 := by
  unfold pends
  rw [h]

theorem pendingChange_afterCreated (req : CreateReq) (checked : Option UInt32) (c : Change) :
    pendingChange (afterCreated req checked c) = some c := by
  cases checked with
  | some t => rfl
  | none => cases req <;> rfl

theorem pendingChange_afterQuota (t : UInt32) (req : CreateReq) :
    pendingChange (afterQuota t req) = none := by
  cases req <;> rfl

/-! ## One change of the record -/

theorem total_adjust (usage : TenantResourceUsage) (c : Change) (x : Total) :
    x.ofUsage (usage.adjust c.obj.kind c.delta) =
      x.ofUsage usage + if c.made = x.made ∧ c.obj.kind = x.kind then 1 else 0 := by
  obtain ⟨o, made⟩ := c
  cases made with
  | true =>
    have hpos : (0 : Int32) < 1 := by decide
    have hneg : ¬ (1 : Int32) < 0 := by decide
    cases x <;> cases o.kind <;>
      simp [TenantResourceUsage.adjust, Total.ofUsage, Total.made, Total.kind, Change.delta,
        hpos, hneg]
  | false =>
    have hpos : ¬ (0 : Int32) < -1 := by decide
    have hneg : (-1 : Int32) < 0 := by decide
    cases x <;> cases o.kind <;>
      simp [TenantResourceUsage.adjust, Total.ofUsage, Total.made, Total.kind, Change.delta,
        hpos, hneg]

/-- A change moves the size that a counter stands for. -/
theorem count_change {usage : TenantResourceUsage} {k : ResourceKind} {z : ℤ} (c : Change)
    (h : usage.count k = Int32.ofInt z) :
    (usage.adjust c.obj.kind c.delta).count k =
      Int32.ofInt (z + (if c.made = true ∧ c.obj.kind = k then 1 else 0) -
        if c.made = false ∧ c.obj.kind = k then 1 else 0) := by
  rw [count_adjust, h]
  by_cases hk : c.obj.kind = k
  · cases hmade : c.made with
    | true =>
      rw [if_pos hk, Change.delta, hmade, if_pos rfl, Counter.ofInt_succ]
      simp [hk]
    | false =>
      rw [if_pos hk, Change.delta, hmade, if_neg Bool.false_ne_true, Counter.ofInt_pred]
      simp [hk]
  · simp [hk]

theorem total_zero (x : Total) : x.ofUsage .zero = 0 := by
  cases x <;> rfl

/-! ## The invariant -/

/-- What the call of process `p` carries from one step to the next. -/
def PhaseOk (s₀ : System) (live : List Obj) (p : Pid) : Phase → Prop
  | .idle => True
  | .lookup _ => True
  | .quota _ t => t = currentTenant s₀ p
  | .processLimit _ => True
  | .globalLimit _ => True
  | .create _ checked => ∀ t, checked = some t → t = currentTenant s₀ p
  | .destroy o => o ∈ live ∧ o.owner = p
  | .publish c => c.obj.tenant = currentTenant s₀ p
  | .charge c => c.obj.tenant = currentTenant s₀ p
  | .read c t => c.obj.tenant = currentTenant s₀ p ∧ t = currentTenant s₀ p
  | .write c t _ => c.obj.tenant = currentTenant s₀ p ∧ t = currentTenant s₀ p

/-- What a run of undisturbed steps keeps. -/
structure AccountInv (procs : Finset Pid) (s₀ : System) (w : CWorld) : Prop where
  fixed : Fixed s₀ w.sys
  phases : ∀ p ∈ procs, PhaseOk s₀ w.live p (w.phase p)
  owned : ∀ o ∈ w.live, o.tenant = currentTenant s₀ o.owner
  flow : ∀ t k, calls w true t k = w.liveCount t k + calls w false t k
  fits : ∀ t k, w.liveCount t k < 2 ^ 31 ∧ calls w true t k < 2 ^ 64
  counts : ∀ t : UInt32, t ≠ 0 → t.toNat < MAX_TENANTS → ∀ k,
    (w.sys.usage t).count k =
      Int32.ofInt (w.liveCount t k - pending procs w true t k + pending procs w false t k)
  totals : ∀ t : UInt32, t ≠ 0 → t.toNat < MAX_TENANTS → ∀ x : Total,
    x.ofUsage (w.sys.usage t) =
      UInt64.ofInt (calls w x.made t x.kind - pending procs w x.made t x.kind)

theorem pending_of_quiescent {procs : Finset Pid} {w : CWorld} (h : w.Quiescent) (made : Bool)
    (t : UInt32) (k : ResourceKind) : pending procs w made t k = 0 := by
  apply inFlight_eq_zero
  intro p _
  rw [h p]
  rfl

/-- Without calls in progress the records are exact. -/
theorem AccountInv.accountsExact {procs : Finset Pid} {s₀ : System} {w : CWorld}
    (h : AccountInv procs s₀ w) (hidle : w.Quiescent) : AccountsExact w := by
  constructor
  · intro t h0 ht k
    have hfits := (h.fits t k).1
    rw [h.counts t h0 ht k, pending_of_quiescent hidle, pending_of_quiescent hidle]
    simp only [Int.natCast_zero, sub_zero, add_zero]
    exact Counter.toInt_ofInt_natCast hfits
  · intro t h0 ht x
    have hflow := h.flow t x.kind
    have hmade := (h.fits t x.kind).2
    have hfits : calls w x.made t x.kind < 2 ^ 64 := by
      cases x.made with
      | true => exact hmade
      | false => omega
    rw [h.totals t h0 ht x, pending_of_quiescent hidle]
    simp only [Int.natCast_zero, sub_zero]
    exact Counter.toNat_ofInt64_natCast hfits

theorem ConcurrentStart.inv {procs : Finset Pid} {w : CWorld} (h : ConcurrentStart procs w) :
    AccountInv procs w.sys w := by
  have hlive : ∀ t k, w.liveCount t k = 0 := fun t k => by
    rw [CWorld.liveCount, h.live, countOf_nil]
  have hcalls : ∀ made t k, calls w made t k = 0 := fun made t k => by
    unfold calls
    cases made with
    | true => rw [if_pos rfl, h.made, countOf_nil]
    | false => rw [if_neg Bool.false_ne_true, h.gone, countOf_nil]
  refine ⟨.refl _, ?_, ?_, ?_, ?_, ?_, ?_⟩
  · intro p _
    rw [h.idle p]
    trivial
  · rw [h.live]
    exact List.forall_mem_nil _
  · intro t k
    rw [hlive, hcalls, hcalls]
  · intro t k
    rw [hlive, hcalls]
    exact ⟨by omega, by omega⟩
  · intro t _ _ k
    rw [h.usage.count, hlive, pending_of_quiescent h.idle, pending_of_quiescent h.idle]
    rfl
  · intro t _ _ x
    rw [h.usage.usage, total_zero, hcalls, pending_of_quiescent h.idle]
    rfl

/-! ## Steps -/

section Steps

variable {procs : Finset Pid} {s₀ s : System} {w : CWorld} {p : Pid}

/-- The other processes are not concerned by the move of one process, unless it destroys
one of their objects. -/
theorem phaseOk_others {live : List Obj} {ph : Phase} {w' : CWorld}
    (hphases : ∀ q ∈ procs, PhaseOk s₀ w.live q (w.phase q))
    (hw' : w'.phase = Function.update w.phase p ph) (hok : PhaseOk s₀ live p ph)
    (hlive : ∀ o ∈ w.live, o.owner ≠ p → o ∈ live) :
    ∀ q ∈ procs, PhaseOk s₀ live q (w'.phase q) := by
  intro q hq
  by_cases hqp : q = p
  · rw [hw', hqp, Function.update_self]
    exact hok
  · have hold := hphases q hq
    rw [hw', Function.update_of_ne hqp]
    cases hph : w.phase q with
    | destroy o =>
      rw [hph] at hold
      exact ⟨hlive o hold.1 (by rw [hold.2]; exact hqp), hold.2⟩
    | _ =>
      rw [hph] at hold
      exact hold

theorem pending_move_eq {ph : Phase} (h : pendingChange ph = pendingChange (w.phase p))
    (made : Bool) (t : UInt32) (k : ResourceKind) :
    pending procs (w.move s p ph) made t k = pending procs w made t k := by
  apply inFlight_update_eq
  unfold pends
  rw [h]

/-- A call that has just made change `c` adds it to those not recorded. -/
theorem pending_gain (hp : p ∈ procs) {w' : CWorld} {ph : Phase} {c : Change}
    (hw' : w'.phase = Function.update w.phase p ph) (hold : pendingChange (w.phase p) = none)
    (hnew : pendingChange ph = some c) (made : Bool) (t : UInt32) (k : ResourceKind) :
    pending procs w' made t k =
      pending procs w made t k + if Counts c made t k then 1 else 0 := by
  have hmove : inFlight procs (pends made t k) (Function.update w.phase p ph) +
      pends made t k (w.phase p) =
        inFlight procs (pends made t k) w.phase + pends made t k ph := inFlight_update hp _
  rw [pends_of_none hold, pends_of_some hnew, Nat.add_zero, ← hw'] at hmove
  exact hmove

/-- A call that records change `c` takes it from those not recorded. -/
theorem pending_loss (hp : p ∈ procs) {w' : CWorld} {ph : Phase} {c : Change}
    (hw' : w'.phase = Function.update w.phase p ph) (hold : pendingChange (w.phase p) = some c)
    (hnew : pendingChange ph = none) (made : Bool) (t : UInt32) (k : ResourceKind) :
    pending procs w' made t k + (if Counts c made t k then 1 else 0) =
      pending procs w made t k := by
  have hmove : inFlight procs (pends made t k) (Function.update w.phase p ph) +
      pends made t k (w.phase p) =
        inFlight procs (pends made t k) w.phase + pends made t k ph := inFlight_update hp _
  rw [pends_of_some hold, pends_of_none hnew, Nat.add_zero, ← hw'] at hmove
  exact hmove

theorem move_live_count {ph : Phase} (t : UInt32) (k : ResourceKind) :
    (w.move s p ph).liveCount t k = w.liveCount t k := rfl

/-- A step that changes no record and no object. -/
theorem AccountInv.of_silent (h : AccountInv procs s₀ w) {old ph : Phase}
    (hph : w.phase p = old) (hkept : Kept w.sys s)
    (hchange : pendingChange ph = pendingChange old)
    (hok : PhaseOk s₀ w.live p ph) : AccountInv procs s₀ (w.move s p ph) := by
  rw [← hph] at hchange
  refine ⟨h.fixed.trans hkept.toFixed, ?_, h.owned, h.flow, h.fits, ?_, ?_⟩
  · exact phaseOk_others h.phases rfl hok (fun o ho _ => ho)
  · intro t h0 ht k
    rw [pending_move_eq hchange, pending_move_eq hchange, move_sys, hkept.usage]
    exact h.counts t h0 ht k
  · intro t h0 ht x
    rw [pending_move_eq hchange, move_sys, hkept.usage]
    exact h.totals t h0 ht x

/-- A step that makes change `c` and leaves it to be recorded: the calls and those not
recorded grow together. -/
theorem AccountInv.of_change (h : AccountInv procs s₀ w) {w' : CWorld} (c : Change)
    (hkept : Kept w.sys w'.sys) (hphases : ∀ q ∈ procs, PhaseOk s₀ w'.live q (w'.phase q))
    (howned : ∀ o ∈ w'.live, o.tenant = currentTenant s₀ o.owner)
    (hflow : ∀ t k, calls w' true t k = w'.liveCount t k + calls w' false t k)
    (hfits : ∀ t k, w'.liveCount t k < 2 ^ 31 ∧ calls w' true t k < 2 ^ 64)
    (hcalls : ∀ made t k,
      calls w' made t k = calls w made t k + if Counts c made t k then 1 else 0)
    (hpend : ∀ made t k,
      pending procs w' made t k = pending procs w made t k + if Counts c made t k then 1 else 0) :
    AccountInv procs s₀ w' := by
  refine ⟨h.fixed.trans hkept.toFixed, hphases, howned, hflow, hfits, ?_, ?_⟩
  · intro t h0 ht k
    have hold := h.flow t k
    have hnew := hflow t k
    rw [hcalls, hcalls] at hnew
    rw [hkept.usage, h.counts t h0 ht k, hpend, hpend]
    congr 1
    omega
  · intro t h0 ht x
    rw [hkept.usage, h.totals t h0 ht x, hcalls, hpend]
    congr 1
    omega

/-- The driver makes an object: one more is live, and one more is not recorded. -/
theorem AccountInv.of_grant (h : AccountInv procs s₀ w) (hp : p ∈ procs) {req : CreateReq}
    {checked : Option UInt32} (hph : w.phase p = .create req checked) {o : Obj}
    (howner : o.owner = p) (htenant : o.tenant = currentTenant s₀ p)
    (hfits : w.liveCount o.tenant o.kind + 1 < 2 ^ 31 ∧ calls w true o.tenant o.kind + 1 < 2 ^ 64) :
    AccountInv procs s₀ (w.grant p req checked o) := by
  have hok := h.phases p hp
  rw [hph] at hok
  have hlive : ∀ t k, (w.grant p req checked o).liveCount t k =
      w.liveCount t k + if o.tenant = t ∧ o.kind = k then 1 else 0 := fun t k =>
    countOf_cons o w.live t k
  have hmade : ∀ t k, calls (w.grant p req checked o) true t k =
      calls w true t k + if o.tenant = t ∧ o.kind = k then 1 else 0 := fun t k =>
    countOf_cons o w.made t k
  have hgone : ∀ t k, calls (w.grant p req checked o) false t k = calls w false t k :=
    fun _ _ => rfl
  apply h.of_change ⟨o, true⟩ (kept_setProc (sameSettings_addObj _ _))
  · apply phaseOk_others h.phases rfl ?_ (fun o' ho' _ => List.mem_cons_of_mem _ ho')
    cases checked with
    | some t => exact ⟨htenant, hok t rfl⟩
    | none => cases req <;> exact htenant
  · refine List.forall_mem_cons.mpr ⟨?_, h.owned⟩
    rw [howner]
    exact htenant
  · intro t k
    have hflow := h.flow t k
    rw [hlive, hmade, hgone]
    omega
  · intro t k
    have hold := h.fits t k
    rw [hlive, hmade]
    by_cases hb : o.tenant = t ∧ o.kind = k
    · obtain ⟨rfl, rfl⟩ := hb
      simp only [and_self, if_true]
      exact hfits
    · simp only [if_neg hb, Nat.add_zero]
      exact hold
  · intro made t k
    cases made with
    | true => simp only [hmade, Counts, true_and]
    | false => simp only [hgone, Counts, Bool.true_eq_false, false_and, if_false, Nat.add_zero]
  · exact pending_gain hp rfl (by rw [hph]; rfl) (pendingChange_afterCreated _ _ ⟨o, true⟩)

/-- The driver destroys an object: one fewer is live, and one more is not recorded. -/
theorem AccountInv.of_release (h : AccountInv procs s₀ w) (hp : p ∈ procs) {o : Obj}
    (hph : w.phase p = .destroy o) : AccountInv procs s₀ (w.release p o) := by
  have hok := h.phases p hp
  rw [hph] at hok
  obtain ⟨ho, howner⟩ := hok
  have htenant : o.tenant = currentTenant s₀ p := by rw [h.owned o ho, howner]
  have hlive : ∀ t k, w.liveCount t k =
      (w.release p o).liveCount t k + if o.tenant = t ∧ o.kind = k then 1 else 0 := fun t k =>
    countOf_erase ho t k
  have hmade : ∀ t k, calls (w.release p o) true t k = calls w true t k := fun _ _ => rfl
  have hgone : ∀ t k, calls (w.release p o) false t k =
      calls w false t k + if o.tenant = t ∧ o.kind = k then 1 else 0 := fun t k =>
    countOf_cons o w.gone t k
  have hcharge : pendingChange (.charge ⟨o, false⟩) = some ⟨o, false⟩ := rfl
  apply h.of_change ⟨o, false⟩ (kept_setProc (sameSettings_removeObj _ _))
  · have hnow : PhaseOk s₀ (w.live.erase o) p (.charge ⟨o, false⟩) := htenant
    apply phaseOk_others h.phases rfl hnow
    intro o' ho' hne
    have hoo : o' ≠ o := by
      rintro rfl
      exact hne howner
    exact (List.mem_erase_of_ne hoo).mpr ho'
  · intro o' ho'
    exact h.owned o' (List.mem_of_mem_erase ho')
  · intro t k
    have hflow := h.flow t k
    have hsplit := hlive t k
    rw [hmade, hgone]
    omega
  · intro t k
    have hold := h.fits t k
    have hsplit := hlive t k
    rw [hmade]
    exact ⟨by omega, hold.2⟩
  · intro made t k
    cases made with
    | true => simp only [hmade, Counts, Bool.false_eq_true, false_and, if_false, Nat.add_zero]
    | false => simp only [hgone, Counts, true_and]
  · exact pending_gain hp rfl (by rw [hph]; rfl) hcharge

/-- A call records its change in the record that it has read: one fewer is not recorded. -/
theorem AccountInv.of_write (h : AccountInv procs s₀ w) (hp : p ∈ procs) {c : Change}
    {t : UInt32} {usage : TenantResourceUsage} (hph : w.phase p = .write c t usage)
    (hact : w.sys.status t = .active) (hread : w.sys.usage t = usage) (hfixed : Fixed w.sys s)
    (hwrite : ∀ u : UInt32, u.toNat < MAX_TENANTS → s.usage u =
      if u = t ∧ w.sys.status t = .active then usage.adjust c.obj.kind c.delta
      else w.sys.usage u) : AccountInv procs s₀ (w.move s p .idle) := by
  have hok := h.phases p hp
  rw [hph] at hok
  have htenant : c.obj.tenant = t := hok.1.trans hok.2.symm
  have hpend : ∀ made u k, pending procs (w.move s p .idle) made u k +
      (if Counts c made u k then 1 else 0) = pending procs w made u k :=
    pending_loss hp rfl (by rw [hph]; rfl) rfl
  refine ⟨h.fixed.trans hfixed, ?_, h.owned, h.flow, h.fits, ?_, ?_⟩
  · exact phaseOk_others h.phases rfl trivial (fun o ho _ => ho)
  · intro u h0 hu k
    have hcount := h.counts u h0 hu k
    have htrue := hpend true u k
    have hfalse := hpend false u k
    rw [move_sys, hwrite u hu]
    by_cases hut : u = t
    · subst hut
      rw [if_pos ⟨rfl, hact⟩, ← hread, count_change c hcount, move_live_count]
      simp only [Counts, htenant, true_and] at htrue hfalse
      congr 1
      split_ifs at htrue hfalse ⊢ <;> omega
    · rw [if_neg (fun hc => hut (hc.2.1.symm.trans htenant))] at htrue hfalse
      rw [if_neg (fun hc => hut hc.1), hcount, move_live_count]
      congr 1
      omega
  · intro u h0 hu x
    have htotal := h.totals u h0 hu x
    have hcalls : calls (w.move s p .idle) x.made u x.kind = calls w x.made u x.kind := rfl
    have hmade := hpend x.made u x.kind
    rw [move_sys, hwrite u hu, hcalls]
    by_cases hut : u = t
    · subst hut
      rw [if_pos ⟨rfl, hact⟩, ← hread, total_adjust, htotal]
      simp only [Counts, htenant, true_and] at hmade
      by_cases hx : c.made = x.made ∧ c.obj.kind = x.kind
      · rw [if_pos hx] at hmade
        rw [if_pos hx, Counter.ofInt64_succ]
        congr 1
        omega
      · rw [if_neg hx] at hmade
        rw [if_neg hx, UInt64.add_zero]
        congr 1
        omega
    · rw [if_neg (fun hc => hut (hc.2.1.symm.trans htenant))] at hmade
      rw [if_neg (fun hc => hut hc.1), htotal]
      congr 1
      omega

end Steps

section Run

variable {procs : Finset Pid} {w₀ w : CWorld} {p : Pid}

/-- A process of an ACTIVE tenant is given the usage record of its tenant. -/
theorem readable_of_bound (hstart : ConcurrentStart procs w₀) (hfixed : Fixed w₀.sys w.sys)
    (hp : p ∈ procs) : Readable w.sys p (currentTenant w₀.sys p) := by
  have hbound := (hstart.bound p hp).congr hfixed.toSameBindings hfixed.status
  exact ⟨hbound.nonzero, hbound.initialized, hbound.inRange, hbound.active⟩

/-- The next step of a call keeps the invariant, if a write finds the record as it was read. -/
theorem AccountInv.next (hstart : ConcurrentStart procs w₀) (h : AccountInv procs w₀.sys w)
    (hp : p ∈ procs) (hcond : Undisturbed w (.next p)) : AccountInv procs w₀.sys (w.next p) := by
  have hcur : currentTenant w.sys p = currentTenant w₀.sys p := h.fixed.currentTenant p
  have hok := h.phases p hp
  cases hph : w.phase p with
  | idle =>
    rw [next_idle hph]
    exact h
  | lookup req =>
    rw [next_lookup hph]
    exact h.of_silent hph (getCurrentTenantId_untouched w.sys p).kept rfl hcur
  | quota req t =>
    rw [hph] at hok
    rw [next_quota hph]
    have hkept := (checkQuota_untouched w.sys p t req).kept
    cases (checkQuota w.sys p t req).1 with
    | false => exact h.of_silent hph hkept rfl trivial
    | true =>
      apply h.of_silent hph hkept (pendingChange_afterQuota t req)
      cases req with
      | mr pd addr length access =>
        intro t' heq
        rw [← Option.some.inj heq]
        exact hok
      | _ => trivial
  | processLimit req =>
    rw [next_processLimit hph]
    cases processLimitOk w.sys p with
    | false => exact h.of_silent hph (.refl _) rfl trivial
    | true => exact h.of_silent hph (.refl _) rfl trivial
  | globalLimit req =>
    rw [next_globalLimit hph]
    cases globalLimitOk w.sys p with
    | false => exact h.of_silent hph (.refl _) rfl trivial
    | true =>
      refine h.of_silent hph (.refl _) rfl ?_
      intro t heq
      exact absurd heq.symm (Option.some_ne_none t)
  | create req checked =>
    rw [next_create hph]
    exact h
  | destroy o =>
    rw [next_destroy hph]
    exact h
  | publish c =>
    rw [hph] at hok
    rw [next_publish hph]
    exact h.of_silent hph (kept_publish w.sys p) rfl hok
  | charge c =>
    rw [hph] at hok
    rw [next_charge hph]
    exact h.of_silent hph (getCurrentTenantId_untouched w.sys p).kept rfl ⟨hok, hcur⟩
  | read c t =>
    rw [hph] at hok
    obtain ⟨s, hun, ⟨-, hs⟩ | ⟨hno, -⟩⟩ := next_read hph
    · rw [hs]
      exact h.of_silent hph hun.kept rfl hok
    · rw [hok.2] at hno
      exact absurd (readable_of_bound hstart h.fixed hp) hno
  | write c t usage =>
    rw [hph] at hok
    simp only [Undisturbed, hph] at hcond
    have hact := (readable_of_bound hstart h.fixed hp).active
    rw [← hok.2] at hact
    obtain ⟨s, hfixed, hs, hwrite⟩ := next_write hph
    rw [hs]
    exact h.of_write hp hph hact hcond hfixed hwrite

/-- Every undisturbed step of the run keeps the invariant. -/
theorem AccountInv.step (hstart : ConcurrentStart procs w₀) (h : AccountInv procs w₀.sys w)
    {e : CEvent} (he : HookStep procs w e) (hcond : Undisturbed w e) :
    AccountInv procs w₀.sys (w.step e) := by
  cases e with
  | create p req =>
    rcases step_create w p req with hs | ⟨hph, hs⟩
    · rw [hs]
      exact h
    · rw [hs]
      rcases startCreate_cases (w.sys.proc p) req with hph' | hph' | hph'
      · rw [hph']
        exact h.of_silent hph (.refl _) rfl trivial
      · rw [hph']
        exact h.of_silent hph (.refl _) rfl trivial
      · rw [hph']
        exact h.of_silent hph (.refl _) rfl
          (fun t heq => absurd heq.symm (Option.some_ne_none t))
  | destroy p o =>
    rcases step_destroy w p o with hs | ⟨hph, hs⟩
    · rw [hs]
      exact h
    · rw [hs]
      rcases startDestroy_cases (w.sys.proc p) o with hph' | hph'
      · rw [hph']
        exact h.of_silent hph (.refl _) rfl trivial
      · rw [hph']
        exact h.of_silent hph (.refl _) rfl he.2
  | created p driver =>
    rcases step_created w p driver with hs | ⟨req, checked, hph, ⟨-, hs⟩ | ⟨g, rfl, hs⟩⟩
    · rw [hs]
      exact h
    · rw [hs]
      exact h.of_silent hph (.refl _) rfl trivial
    · simp only [Undisturbed, hph] at hcond
      rw [hs]
      exact h.of_grant he hph rfl (h.fixed.currentTenant p) hcond
  | destroyed p driver =>
    rcases step_destroyed w p driver with hs | ⟨o, hph, ⟨-, hs⟩ | ⟨-, hs⟩⟩
    · rw [hs]
      exact h
    · rw [hs]
      exact h.of_silent hph (.refl _) rfl trivial
    · rw [hs]
      exact h.of_release he hph
  | next p => exact h.next hstart he hcond
  | tick wall mono =>
    exact ⟨h.fixed.trans (step_fixed w (.tick wall mono)), h.phases, h.owned, h.flow, h.fits,
      h.counts, h.totals⟩

end Run

/-- **No update is lost while nobody writes in between.**  In every interleaving of the
steps of the eight hooks, by any number of processes of ACTIVE tenants, in which each call
writes over the usage record that it has read, the records of every tenant are exact
whenever no call is in progress. -/
theorem accounts_exact_of_undisturbed (procs : Finset Pid) (w : CWorld)
    (hstart : ConcurrentStart procs w) (es : List CEvent)
    (hrun : Along CWorld.step (HookStep procs) w es)
    (hcond : Along CWorld.step Undisturbed w es) :
    Always CWorld.step (fun w' => w'.Quiescent → AccountsExact w') w es := by
  have hinv : Always CWorld.step (AccountInv procs w.sys) w es :=
    always_of_step (fun _ _ h he => h.step hstart he.1 he.2) hstart.inv
      (along_and.mpr ⟨hrun, hcond⟩)
  exact hinv.mono (fun _ h hidle => h.accountsExact hidle)

theorem sampleWorld_concurrentStart :
    ConcurrentStart {7, 8} (sampleWorld oneQpQuota qpControlConfig).concurrent := by
  refine ⟨?_, sampleWorld_zeroUsage, rfl, rfl, rfl, fun _ => rfl⟩
  intro p hp
  have hbound := sampleWorld_bound p hp
  have hcur : currentTenant (sampleWorld oneQpQuota qpControlConfig).concurrent.sys p = 1 :=
    hbound.current
  rw [hcur]
  exact hbound

/-- The arguments of a CQ. -/
def cqRequest : CreateReq := .cq 0 1 0 0 0

/-- Process 7 creates a CQ. -/
def singleRun : List CEvent :=
  [.create 7 cqRequest, .created 7 (some 16), .next 7, .next 7, .next 7]

theorem singleRun_undisturbed :
    Along CWorld.step Undisturbed (sampleWorld oneQpQuota qpControlConfig).concurrent
      singleRun := by
  let after := fun n => exec CWorld.step (sampleWorld oneQpQuota qpControlConfig).concurrent
    (singleRun.take n)
  have hcreate : (after 1).phase 7 = .create cqRequest none := by decide +kernel
  have hcharge : (after 2).phase 7 = .charge ⟨⟨16, .cq, 7, 1, 0⟩, true⟩ := by decide +kernel
  have hread : (after 3).phase 7 = .read ⟨⟨16, .cq, 7, 1, 0⟩, true⟩ 1 := by decide +kernel
  have hwrite : (after 4).phase 7 = .write ⟨⟨16, .cq, 7, 1, 0⟩, true⟩ 1 .zero := by decide +kernel
  refine ⟨trivial, ?_, ?_, ?_, ?_, trivial⟩
  · show Undisturbed (after 1) (.created 7 (some 16))
    simp only [Undisturbed, hcreate]
    exact ⟨by decide +kernel, by decide +kernel⟩
  · show Undisturbed (after 2) (.next 7)
    simp only [Undisturbed, hcharge]
  · show Undisturbed (after 3) (.next 7)
    simp only [Undisturbed, hread]
  · show Undisturbed (after 4) (.next 7)
    simp only [Undisturbed, hwrite]
    decide +kernel

/-- The theorem at that run. -/
theorem accounts_exact_of_undisturbed_single :
    ((exec CWorld.step (sampleWorld oneQpQuota qpControlConfig).concurrent
      singleRun).sys.usage 1).cqCount.toInt = 1 := by
  have hp : (7 : Pid) ∈ ({7, 8} : Finset Pid) := Finset.mem_insert_self _ _
  have hrun : Along CWorld.step (HookStep {7, 8})
      (sampleWorld oneQpQuota qpControlConfig).concurrent singleRun := ⟨hp, hp, hp, hp, hp, trivial⟩
  have h := accounts_exact_of_undisturbed {7, 8} _ sampleWorld_concurrentStart singleRun hrun
    singleRun_undisturbed
  have hend := h.last
  have hidle : (exec CWorld.step (sampleWorld oneQpQuota qpControlConfig).concurrent
      singleRun).Quiescent := by
    intro q
    by_cases hq : q = 7
    · rw [hq]
      decide +kernel
    · apply exec_phase_of_ne
      simp [singleRun, CEvent.actor, Ne.symm hq]
  have hlive : (exec CWorld.step (sampleWorld oneQpQuota qpControlConfig).concurrent
      singleRun).liveCount 1 .cq = 1 := by decide +kernel
  have hcount := (hend hidle).counts 1 (by decide) (by decide) .cq
  rw [hlive] at hcount
  exact hcount

/-- Processes 7 and 8 create a CQ each; both read the usage record before either writes. -/
def overlappedRun : List CEvent :=
  [.create 7 cqRequest, .create 8 cqRequest, .created 7 (some 16), .created 8 (some 17),
    .next 7, .next 8, .next 7, .next 8, .next 7, .next 8]

/-- Two CQs are live and no call is in progress, but the record shows one. -/
theorem overlapped_calls_lose_update :
    ConcurrentStart {7, 8} (sampleWorld oneQpQuota qpControlConfig).concurrent ∧
      Along CWorld.step (HookStep {7, 8}) (sampleWorld oneQpQuota qpControlConfig).concurrent
        overlappedRun ∧
      ¬ Always CWorld.step (fun w' => w'.Quiescent → AccountsExact w')
        (sampleWorld oneQpQuota qpControlConfig).concurrent overlappedRun := by
  have h7 : (7 : Pid) ∈ ({7, 8} : Finset Pid) := Finset.mem_insert_self _ _
  have h8 : (8 : Pid) ∈ ({7, 8} : Finset Pid) := Finset.mem_insert_of_mem (Finset.mem_singleton_self _)
  refine ⟨sampleWorld_concurrentStart, ⟨h7, h8, h7, h8, h7, h8, h7, h8, h7, h8, trivial⟩, ?_⟩
  intro h
  have hend := h.last
  have hidle : (exec CWorld.step (sampleWorld oneQpQuota qpControlConfig).concurrent
      overlappedRun).Quiescent := by
    intro q
    by_cases hq7 : q = 7
    · rw [hq7]
      decide +kernel
    · by_cases hq8 : q = 8
      · rw [hq8]
        decide +kernel
      · apply exec_phase_of_ne
        simp [overlappedRun, CEvent.actor, Ne.symm hq7, Ne.symm hq8]
  have hcount := (hend hidle).counts 1 (by decide) (by decide) .cq
  exact absurd hcount (by decide +kernel)

end RdmaIntercept.Analysis
