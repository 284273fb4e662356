import Mathlib.Algebra.BigOperators.Group.List.Basic
import Mathlib.Algebra.GroupWithZero.Nat
import RdmaIntercept.Library.Counter
import RdmaIntercept.Analysis.CollectorProtocol

/-!
# The memory ledger of the collector

The server keeps the lengths of the registrations it has admitted as one sum and their
number as one counter.  The sum is formed in 64 bits before it is compared, so that a length
near the width of the word is admitted as a small one.  The ledger is exact throughout a
run exactly when no such length is admitted and the counter does not wrap round.
-/

set_option autoImplicit false

namespace RdmaIntercept.Analysis

open RdmaIntercept.Library RdmaIntercept.Model

/-- The lengths of the outstanding registrations together. -/
def outstandingTotal (s : LedgerRun) : ℕ := (s.outstanding.map UInt64.toNat).sum

/-- The counts of the server are those of the outstanding registrations, which keep to the
limit. -/
structure LedgerExact (s : LedgerRun) : Prop where
  memoryUsed : s.server.globalMemoryUsed.toNat = outstandingTotal s
  mrCount : s.server.globalMrCount.toNat = s.outstanding.length
  limit : outstandingTotal s ≤ s.server.maxGlobalMemory.toNat

/-- Only outstanding registrations are destroyed. -/
def DestroysOutstanding (s : LedgerRun) (r : MemoryRequest) : Prop :=
  ∀ length, r = .mrDestroy length → length ∈ s.outstanding

/-- An `MR_CREATE` that passes the test of the server adds up within 64 bits, and the counter
has room for one more. -/
def AdmitsInRange (s : LedgerRun) (r : MemoryRequest) : Prop :=
  ∀ length, r = .mrCreate length → memoryAdmits s.server length = true →
    s.server.globalMemoryUsed.toNat + length.toNat < 2 ^ 64 ∧ s.outstanding.length + 1 < 2 ^ 32

/-! ## One request -/

/-- The registration is counted, and its length is kept, when the test is passed. -/
theorem step_mrCreate (s : LedgerRun) (length : UInt64) :
    s.step (.mrCreate length) =
      if memoryAdmits s.server length = true then
        ⟨withMr s.server length, length :: s.outstanding⟩
      else s := by
  have hresponse := saysSuccess_mrCreate (s := s.server) length
  simp only [LedgerRun.step, MemoryRequest.bytes, mainLoop_mrCreate, hresponse]
  cases hadmits : memoryAdmits s.server length with
  | true => simp [mrCreate, hadmits, withMr]
  | false => simp [mrCreate, hadmits]

theorem step_checkMemory (s : LedgerRun) (length : UInt64) : s.step (.checkMemory length) = s := by
  simp only [LedgerRun.step, MemoryRequest.bytes, mainLoop_checkMemory, checkMemory_snd]

theorem step_mrDestroy (s : LedgerRun) (length : UInt64) :
    s.step (.mrDestroy length) =
      ⟨(mrDestroy s.server length).2, s.outstanding.erase length⟩ := by
  simp only [LedgerRun.step, MemoryRequest.bytes, mainLoop_mrDestroy]

/-- An outstanding registration is counted, so that nothing of its destruction is skipped. -/
theorem ledgerExact_mrDestroy {s : LedgerRun} (h : LedgerExact s) {length : UInt64}
    (hmem : length ∈ s.outstanding) : LedgerExact (s.step (.mrDestroy length)) := by
  have hsum : length.toNat + ((s.outstanding.erase length).map UInt64.toNat).sum =
      outstandingTotal s := List.sum_map_erase UInt64.toNat hmem
  have hlimit := h.limit
  have hused : s.server.globalMemoryUsed.toNat =
      ((s.outstanding.erase length).map UInt64.toNat).sum + length.toNat := by
    rw [h.memoryUsed, ← hsum, Nat.add_comm]
  have hcount : s.server.globalMrCount.toNat = (s.outstanding.erase length).length + 1 :=
    h.mrCount.trans (List.length_erase_add_one hmem).symm
  obtain ⟨hle, hrest⟩ := Counter.toNat_sub_amount hused
  have hpositive := Counter.pos_of_toNat hcount
  have hserver : (mrDestroy s.server length).2 =
      { s.server with
        globalMrCount := s.server.globalMrCount - 1
        globalMemoryUsed := s.server.globalMemoryUsed - length } := by
    by_cases hzero : 0 < length
    · simp [mrDestroy, hpositive, hzero, hle]
    · -- a length of 0 is not subtracted, and need not be
      obtain rfl : length = 0 := UInt64.toNat_inj.mp (by simpa [UInt64.lt_iff_toNat_lt] using hzero)
      simp [mrDestroy, hpositive]
  rw [step_mrDestroy, hserver]
  constructor
  · exact hrest
  · exact Counter.toNat_pred hcount
  · change ((s.outstanding.erase length).map UInt64.toNat).sum ≤ s.server.maxGlobalMemory.toNat
    omega

/-- An admitted registration keeps the ledger exact when neither the sum nor the counter
wraps round. -/
theorem ledgerExact_mrCreate {s : LedgerRun} (h : LedgerExact s) {length : UInt64}
    (hadmits : memoryAdmits s.server length = true) :
    LedgerExact (s.step (.mrCreate length)) ↔
      s.server.globalMemoryUsed.toNat + length.toNat < 2 ^ 64 ∧
        s.outstanding.length + 1 < 2 ^ 32 := by
  have hused := h.memoryUsed
  have hcount := h.mrCount
  have htotal : outstandingTotal ⟨withMr s.server length, length :: s.outstanding⟩ =
      length.toNat + outstandingTotal s := by
    simp [outstandingTotal]
  have hbelow : (s.server.globalMemoryUsed + length).toNat ≤ s.server.maxGlobalMemory.toNat := by
    simpa [memoryAdmits, UInt64.le_iff_toNat_le] using hadmits
  rw [step_mrCreate, if_pos hadmits]
  constructor
  · intro hexact
    have hused' : (s.server.globalMemoryUsed + length).toNat =
        length.toNat + outstandingTotal s := htotal ▸ hexact.memoryUsed
    have hcount' : (s.server.globalMrCount + 1).toNat = s.outstanding.length + 1 := hexact.mrCount
    have hwordUsed := (s.server.globalMemoryUsed + length).toNat_lt
    have hwordCount := (s.server.globalMrCount + 1).toNat_lt
    omega
  · rintro ⟨hsum, hnumber⟩
    rw [UInt64.toNat_add, Nat.mod_eq_of_lt hsum] at hbelow
    constructor
    · rw [htotal, Nat.add_comm]
      exact Counter.toNat_add_amount hused (by omega)
    · exact Counter.toNat_succ hcount hnumber
    · rw [htotal]
      change _ ≤ s.server.maxGlobalMemory.toNat
      omega

/-- The step lemma: the ledger stays exact exactly when an admitted registration is in
range. -/
theorem ledgerExact_step {s : LedgerRun} (h : LedgerExact s) {r : MemoryRequest}
    (hr : DestroysOutstanding s r) : LedgerExact (s.step r) ↔ AdmitsInRange s r := by
  cases r with
  | mrCreate length =>
    by_cases hadmits : memoryAdmits s.server length = true
    · rw [ledgerExact_mrCreate h hadmits]
      constructor
      · rintro hrange _ ⟨⟩ _
        exact hrange
      · intro hrange
        exact hrange length rfl hadmits
    · rw [step_mrCreate, if_neg hadmits]
      refine iff_of_true h ?_
      rintro _ ⟨⟩ hin
      exact absurd hin hadmits
  | checkMemory length =>
    rw [step_checkMemory]
    refine iff_of_true h ?_
    rintro _ ⟨⟩
  | mrDestroy length =>
    refine iff_of_true (ledgerExact_mrDestroy h (hr length rfl)) ?_
    rintro _ ⟨⟩

/-! ## Runs -/

theorem ledgerExact_started (maxGlobalQp : UInt32) (maxGlobalMemory : UInt64) :
    LedgerExact ⟨.started maxGlobalQp maxGlobalMemory, []⟩ :=
  ⟨rfl, rfl, Nat.zero_le _⟩

/-- In a run that destroys only outstanding registrations the ledger is exact throughout
exactly when every admitted registration is in range. -/
theorem collectorLedger_exact_iff (maxGlobalQp : UInt32) (maxGlobalMemory : UInt64)
    {requests : List MemoryRequest}
    (h : Along LedgerRun.step DestroysOutstanding ⟨.started maxGlobalQp maxGlobalMemory, []⟩
      requests) :
    Always LedgerRun.step LedgerExact ⟨.started maxGlobalQp maxGlobalMemory, []⟩ requests ↔
      Along LedgerRun.step AdmitsInRange ⟨.started maxGlobalQp maxGlobalMemory, []⟩ requests :=
  always_iff_along (I := fun _ => True) (fun _ _ _ _ => trivial)
    (fun _ _ _ hr hs => ledgerExact_step hs hr) trivial
    (ledgerExact_started maxGlobalQp maxGlobalMemory) h

theorem collectorLedger_exact_iff_pair :
    Always LedgerRun.step LedgerExact ⟨.started 10 100, []⟩ [.mrCreate 60, .mrDestroy 60] ↔
      Along LedgerRun.step AdmitsInRange ⟨.started 10 100, []⟩ [.mrCreate 60, .mrDestroy 60] := by
  apply collectorLedger_exact_iff
  refine ⟨?_, ?_, trivial⟩
  · rintro _ ⟨⟩
  · rintro length ⟨⟩
    rw [step_mrCreate, if_pos (by decide)]
    exact List.mem_cons_self

/-- Two bytes and then all but one of 2^64 pass as a registration of one byte. -/
theorem collectorLedger_wraps :
    ¬ ∀ (maxGlobalQp : UInt32) (maxGlobalMemory : UInt64) (requests : List MemoryRequest),
      Along LedgerRun.step DestroysOutstanding ⟨.started maxGlobalQp maxGlobalMemory, []⟩
          requests →
        Always LedgerRun.step LedgerExact ⟨.started maxGlobalQp maxGlobalMemory, []⟩ requests := by
  intro h
  let requests : List MemoryRequest := [.mrCreate 2, .mrCreate 18446744073709551615]
  have hdestroys : Along LedgerRun.step DestroysOutstanding ⟨.started 10 10737418240, []⟩
      requests := by
    refine ⟨?_, ?_, trivial⟩
    · rintro _ ⟨⟩
    · rintro _ ⟨⟩
  have hrange := (collectorLedger_exact_iff 10 10737418240 hdestroys).mp (h _ _ _ hdestroys)
  have hsecond := hrange.2.1 18446744073709551615 rfl
  rw [step_mrCreate, if_pos (by decide)] at hsecond
  exact absurd (hsecond (by decide)).1 (by decide)

end RdmaIntercept.Analysis
