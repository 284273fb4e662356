import Mathlib.Algebra.Group.Int.Defs
import Mathlib.Algebra.Group.Nat.Defs
import Mathlib.Data.Nat.Notation
import Mathlib.Data.Int.Notation
import Mathlib.Tactic.Common

/-!
# Counters of machine width

A program keeps the size of a collection in a machine word and moves it by one on every
insertion and removal.  The word is then the size reduced to the width of the word
(`ofNat`, and `ofInt` where removals may run ahead), and it is the size itself as long
as the size fits (`toInt_eq_natCast_iff`).  A signed counter that is cast before it is
compared reads back as the size up to the unsigned width (`toNat_toUInt32_ofNat`).  An
unsigned counter, and a total of amounts, is followed on its value (`toNat_succ` and below).
-/

set_option autoImplicit false

namespace RdmaIntercept.Library.Counter

/-! ## One step -/

theorem ofNat_succ (n : ℕ) : Int32.ofNat n + 1 = Int32.ofNat (n + 1) := by
  rw [Int32.ofNat_add]
  rfl

theorem ofNat_pred (n : ℕ) : Int32.ofNat (n + 1) + (-1) = Int32.ofNat n := by
  rw [Int32.ofNat_add]
  simp [Int32.add_assoc]

theorem ofInt_succ (z : ℤ) : Int32.ofInt z + 1 = Int32.ofInt (z + 1) := by
  rw [Int32.ofInt_add]
  rfl

theorem ofInt_pred (z : ℤ) : Int32.ofInt z + (-1) = Int32.ofInt (z - 1) := by
  rw [Int.sub_eq_add_neg, Int32.ofInt_add]
  rfl

theorem ofInt64_succ (z : ℤ) : UInt64.ofInt z + 1 = UInt64.ofInt (z + 1) := by
  rw [UInt64.ofInt_add]
  rfl

/-! ## Reading a counter -/

/-- A counter shows the size exactly when it is the size and the size fits. -/
theorem toInt_eq_natCast_iff {c : Int32} {n : ℕ} :
    c.toInt = n ↔ c = Int32.ofNat n ∧ n < 2 ^ 31 := by
  constructor
  · intro h
    have hlt := Int32.toInt_lt c
    have hn : n < 2 ^ 31 := by omega
    refine ⟨?_, hn⟩
    apply Int32.toInt_inj.mp
    rw [Int32.toInt_ofNat_of_lt hn, h]
  · rintro ⟨rfl, hn⟩
    exact Int32.toInt_ofNat_of_lt hn

/-- Sizes that fit are told apart. -/
theorem ofNat_inj {m n : ℕ} (hm : m < 2 ^ 31) (hn : n < 2 ^ 31) :
    Int32.ofNat m = Int32.ofNat n ↔ m = n := by
  rw [← Int32.toInt_inj, Int32.toInt_ofNat_of_lt hm, Int32.toInt_ofNat_of_lt hn, Int.ofNat_inj]

theorem toInt_ofInt_natCast {n : ℕ} (h : n < 2 ^ 31) : (Int32.ofInt n).toInt = n := by
  rw [Int32.ofInt_eq_ofNat, Int32.toInt_ofNat_of_lt h]

theorem toNat_ofInt64_natCast {n : ℕ} (h : n < 2 ^ 64) : (UInt64.ofInt n).toNat = n := by
  have hmod : ((n : ℤ) % 2 ^ 64).toNat = n := by omega
  rw [UInt64.ofInt, hmod, UInt64.toNat_ofNat_of_lt' h]

/-- The unsigned reading of a word is the signed one reduced to the width. -/
theorem natCast_toNat {w : ℕ} (x : BitVec w) : (x.toNat : ℤ) = x.toInt % 2 ^ w := by
  have hmod : x.toInt % 2 ^ w = (x.toNat : ℤ) % 2 ^ w := by
    rw [BitVec.toInt_eq_toNat_bmod]
    exact_mod_cast Int.bmod_emod
  rw [hmod]
  exact (Int.emod_eq_of_lt (Int.natCast_nonneg _) (by exact_mod_cast x.isLt)).symm

/-- A signed word that is cast to the unsigned type is reduced to the width. -/
theorem natCast_toNat_toUInt32 (c : Int32) : (c.toUInt32.toNat : ℤ) = c.toInt % 2 ^ 32 :=
  natCast_toNat c.toBitVec

theorem natCast_toNat_toUInt64 (c : Int64) : (c.toUInt64.toNat : ℤ) = c.toInt % 2 ^ 64 :=
  natCast_toNat c.toBitVec

/-- The cast to the unsigned type keeps the order of two words, unless only the smaller one is
negative. -/
theorem toUInt64_le_iff {a b : Int64} (h : a ≤ b) : a.toUInt64 ≤ b.toUInt64 ↔ 0 ≤ a ∨ b < 0 := by
  have ha := natCast_toNat_toUInt64 a
  have hb := natCast_toNat_toUInt64 b
  have hlow := Int64.le_toInt a
  have hhigh := Int64.toInt_lt b
  rw [Int64.le_iff_toInt_le] at h
  rw [UInt64.le_iff_toNat_le, Int64.le_iff_toInt_le, Int64.lt_iff_toInt_lt, Int64.toInt_zero]
  omega

theorem toNat_toUInt32_ofNat {n : ℕ} (h : n < 2 ^ 32) :
    (Int32.ofNat n).toUInt32.toNat = n := by
  rw [Int32.toUInt32_ofNat', UInt32.toNat_ofNat_of_lt' h]

/-- A counter that shows the size is not changed by the cast to the unsigned type. -/
theorem toNat_toUInt32_of_toInt {c : Int32} {n : ℕ} (h : c.toInt = n) :
    c.toUInt32.toNat = n := by
  obtain ⟨rfl, hn⟩ := toInt_eq_natCast_iff.mp h
  exact toNat_toUInt32_ofNat (by omega)

/-- Counting up keeps the counter at the size exactly when the new size fits. -/
theorem toInt_succ_iff {c : Int32} {n : ℕ} (h : c.toInt = n) :
    (c + 1).toInt = (n + 1 : ℕ) ↔ n + 1 < 2 ^ 31 := by
  obtain ⟨rfl, -⟩ := toInt_eq_natCast_iff.mp h
  rw [ofNat_succ, toInt_eq_natCast_iff]
  exact and_iff_right rfl

/-- Counting down keeps the counter at the size. -/
theorem toInt_pred {c : Int32} {n : ℕ} (h : c.toInt = (n + 1 : ℕ)) : (c + (-1)).toInt = n := by
  obtain ⟨rfl, hn⟩ := toInt_eq_natCast_iff.mp h
  rw [ofNat_pred]
  exact Int32.toInt_ofNat_of_lt (by omega)

/-! ## Unsigned counters -/

theorem toNat_succ {c : UInt32} {n : ℕ} (h : c.toNat = n) (hn : n + 1 < 2 ^ 32) :
    (c + 1).toNat = n + 1 := by
  rw [UInt32.toNat_add, h]
  exact Nat.mod_eq_of_lt hn

theorem pos_of_toNat {c : UInt32} {n : ℕ} (h : c.toNat = n + 1) : 0 < c := by
  rw [UInt32.lt_iff_toNat_lt, h]
  exact Nat.succ_pos n

theorem toNat_pred {c : UInt32} {n : ℕ} (h : c.toNat = n + 1) : (c - 1).toNat = n := by
  have hle : (1 : UInt32) ≤ c := by
    rw [UInt32.le_iff_toNat_le, h]
    exact Nat.le_add_left 1 n
  rw [UInt32.toNat_sub_of_le _ _ hle, h]
  rfl

/-- A total of amounts goes up by an amount as long as the sum fits. -/
theorem toNat_add_amount {total amount : UInt64} {n : ℕ} (h : total.toNat = n)
    (hn : n + amount.toNat < 2 ^ 64) : (total + amount).toNat = n + amount.toNat := by
  rw [UInt64.toNat_add, h]
  exact Nat.mod_eq_of_lt hn

/-- It covers each amount that went into it, and goes down by it again. -/
theorem toNat_sub_amount {total amount : UInt64} {n : ℕ} (h : total.toNat = n + amount.toNat) :
    amount ≤ total ∧ (total - amount).toNat = n := by
  have hle : amount ≤ total := by
    rw [UInt64.le_iff_toNat_le, h]
    exact Nat.le_add_left _ n
  refine ⟨hle, ?_⟩
  rw [UInt64.toNat_sub_of_le _ _ hle, h, Nat.add_sub_cancel]

end RdmaIntercept.Library.Counter
