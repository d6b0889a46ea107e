import Mathlib.Algebra.Order.Field.Basic
import Mathlib.Algebra.Order.Ring.Rat
import Mathlib.Data.Rat.Cast.Order
import Mathlib.Tactic.FieldSimp
import Mathlib.Tactic.Linarith
import Mathlib.Tactic.NormNum
import Proforma.Json.Field
import Proforma.Proofs.Number.Whole

/-!
# What numbers denote

The rational number that a floating point number or a number in JSON stands for. Two floating
point numbers denote the same one when they are equal, signs of zero aside (`value_eq_iff`). The
64-bit integer that is taken for a number in JSON is, among those, the nearest to its value
(`integerOfNumber?_eq_some_iff`).
-/

namespace Proforma

open Number

namespace Number.Binary64

/-- The units with the sign. -/
def signedUnits (x : Binary64) : ℤ :=
  if x.negative then -(x.units : ℤ) else x.units

/-- The number that it stands for. -/
def value (x : Binary64) : ℚ :=
  x.signedUnits / unitsOfOne

theorem unitsOfOne_cast_pos : (0 : ℚ) < unitsOfOne :=
  Nat.cast_pos.mpr unitsOfOne_pos

variable {x y : Binary64}

/-- Equal values: equal numbers, signs of zero aside. -/
theorem value_eq_iff :
    x.value = y.value ↔ x.units = y.units ∧ (x.units = 0 ∨ x.negative = y.negative) := by
  unfold value
  rw [div_left_inj' unitsOfOne_cast_pos.ne', Int.cast_inj]
  unfold signedUnits
  cases x.negative <;> cases y.negative <;> simp <;> omega

theorem signedUnits_eq_mul_iff {z : ℤ} :
    x.signedUnits = z * unitsOfOne ↔ unitsOfOne ∣ x.units ∧ x.truncate = z := by
  have hpos : (0 : ℤ) < unitsOfOne := Int.natCast_pos.mpr unitsOfOne_pos
  unfold signedUnits truncate
  rw [← Int.natCast_dvd_natCast, Int.natCast_ediv]
  generalize (x.units : ℤ) = units at *
  generalize (unitsOfOne : ℤ) = one at *
  simp only
  split
  · constructor
    · intro h
      have hunits : units = -z * one := by linarith
      rw [hunits, Int.mul_ediv_cancel _ hpos.ne']
      exact ⟨Dvd.intro_left _ rfl, neg_neg z⟩
    · rintro ⟨hdvd, rfl⟩
      rw [Int.neg_mul, Int.ediv_mul_cancel hdvd]
  · constructor
    · rintro rfl
      rw [Int.mul_ediv_cancel _ hpos.ne']
      exact ⟨Dvd.intro_left _ rfl, rfl⟩
    · rintro ⟨hdvd, rfl⟩
      rw [Int.ediv_mul_cancel hdvd]

/-- An integer as the value: the number is whole, and the integer is what is left of it without
its fraction. -/
theorem value_eq_intCast_iff {z : ℤ} :
    x.value = z ↔ unitsOfOne ∣ x.units ∧ x.truncate = z := by
  rw [← signedUnits_eq_mul_iff]
  unfold value
  rw [div_eq_iff unitsOfOne_cast_pos.ne']
  exact_mod_cast Iff.rfl

/-- The 64-bit integer of a number is its value. -/
theorem value_of_whole? {id : Int64} (h : x.whole? = some id) : x.value = id.toInt := by
  obtain ⟨hwhole, -, htruncate⟩ := whole?_eq_some_iff.mp h
  exact value_eq_intCast_iff.mpr ⟨hwhole, htruncate⟩

end Number.Binary64

namespace JsonNumber

/-- The number that it stands for. -/
def value : JsonNumber → ℚ
  | .int n _ => n
  | .double x => x.value

end JsonNumber

namespace Json

theorem toInt_clampInt64 (z : ℤ) : (clampInt64 z).toInt = max (-2 ^ 63) (min (2 ^ 63 - 1) z) := by
  unfold clampInt64
  exact Int64.toInt_ofInt_of_le (by omega) (by omega)

/-- An integer that is too large for 64 bits with a sign is taken through floating point, where
it is rounded, but not to below `2 ^ 63`. -/
theorem integerOfNumber?_of_large {k : ℤ} (hk : IsJsonInt k) (hlarge : 2 ^ 63 ≤ k) :
    integerOfNumber? (.int k hk) = some (clampInt64 k) := by
  have hsize : k.natAbs < 2 ^ 64 := by
    have := hk.2
    omega
  have hwhole : (nearestTo k hsize).isWhole = true :=
    Binary64.isWhole_iff.mpr (unitsOfOne_dvd_wholeUnits _)
  -- rounding does not take it below the power of two
  have htruncate : 2 ^ 63 ≤ (nearestTo k hsize).truncate := by
    have hunits := two_pow_mul_le_wholeUnits (show 2 ^ 63 ≤ k.natAbs by omega)
    have hdiv := (Nat.le_div_iff_mul_le unitsOfOne_pos).mpr hunits
    have hnegative : decide (k < 0) = false := decide_eq_false (by omega)
    unfold Binary64.truncate nearestTo
    simp only [hnegative, Bool.false_eq_true, if_false]
    exact_mod_cast hdiv
  have hclamp (z : ℤ) (hz : 2 ^ 63 ≤ z) : clampInt64 z = clampInt64 (2 ^ 63) := by
    rw [← Int64.toInt_inj, toInt_clampInt64, toInt_clampInt64]
    omega
  have hnone : (JsonNumber.int k hk).toInt64? = none := if_neg (by omega)
  have hdouble : (JsonNumber.int k hk).toDouble = .finite (nearestTo k hsize) := ofInt_eq hsize
  unfold integerOfNumber?
  rw [hnone, hdouble]
  simp only [hwhole, if_true, hclamp _ htruncate, hclamp _ hlarge]

/-- **The integer that is taken for a number is the nearest of 64 bits to its value**, and there
is none if the value is not whole. -/
theorem integerOfNumber?_eq_some_iff (v : JsonNumber) (n : Int64) :
    integerOfNumber? v = some n ↔ ∃ z : ℤ, v.value = z ∧ n = clampInt64 z := by
  cases v with
  | int k hk =>
    have hread : integerOfNumber? (.int k hk) = some (clampInt64 k) := by
      by_cases hlarge : 2 ^ 63 ≤ k
      · exact integerOfNumber?_of_large hk hlarge
      · have hclamp : clampInt64 k = Int64.ofInt k := by
          have := hk.1
          unfold clampInt64
          congr 1
          omega
        have hsome : (JsonNumber.int k hk).toInt64? = some (Int64.ofInt k) := if_pos (by omega)
        unfold integerOfNumber?
        rw [hsome, hclamp]
    have hvalue (z : ℤ) : (JsonNumber.int k hk).value = z ↔ k = z := Int.cast_inj
    simp only [hread, hvalue, Option.some.injEq, exists_eq_left', eq_comm]
  | double x =>
    have hnone : (JsonNumber.double x).toInt64? = none := rfl
    have hdouble : (JsonNumber.double x).toDouble = .finite x := rfl
    have hvalue (z : ℤ) : (JsonNumber.double x).value = z ↔ unitsOfOne ∣ x.units ∧ x.truncate = z :=
      Binary64.value_eq_intCast_iff
    unfold integerOfNumber?
    rw [hnone, hdouble]
    simp only [hvalue]
    by_cases hwhole : x.isWhole = true
    · rw [if_pos hwhole]
      constructor
      · intro h
        exact ⟨x.truncate, ⟨Binary64.isWhole_iff.mp hwhole, rfl⟩, (Option.some.inj h).symm⟩
      · rintro ⟨z, ⟨-, rfl⟩, rfl⟩
        rfl
    · rw [if_neg hwhole]
      constructor
      · nofun
      · rintro ⟨z, ⟨hdvd, -⟩, -⟩
        exact absurd (Binary64.isWhole_iff.mpr hdvd) hwhole

end Json

end Proforma
