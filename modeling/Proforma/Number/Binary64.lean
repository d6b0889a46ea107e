import Proforma.Number.Rounding

/-!
# Binary floating point

The numbers of the 64-bit binary format. Every finite one is a whole multiple of `2 ^ -1074`, so
its magnitude is kept as that multiple, its *units*; a whole number of units is in the format
when at most 53 binary digits of it are significant and it lies below the units of `2 ^ 1024`.
Arithmetic is exact on units and then rounds once, to the nearest number of the format, a half
going to the even one.
-/

namespace Proforma.Number

/-- How many binary places the unit stands after the point. -/
def unitPlaces : Nat := 1074

/-- How many binary digits the units of a magnitude have at most. -/
def unitDigits : Nat := 1024 + unitPlaces

/-- The units of one. -/
def unitsOfOne : Nat := 2 ^ unitPlaces

/-- The units of the least magnitude that is too large. -/
def unitsLimit : Nat := 2 ^ unitDigits

theorem unitsOfOne_pos : 0 < unitsOfOne :=
  Nat.two_pow_pos unitPlaces

theorem unitsLimit_pos : 0 < unitsLimit :=
  Nat.two_pow_pos unitDigits

/-- The magnitudes of the format, in units. -/
def IsMagnitude (units : Nat) : Prop :=
  2 ^ (bitLength units - 53) ∣ units ∧ units < unitsLimit

instance (units : Nat) : Decidable (IsMagnitude units) :=
  inferInstanceAs (Decidable (_ ∧ _))

/-- A finite number of the format. Zero has a sign as well. -/
structure Binary64 where
  negative : Bool
  units : Nat
  isMagnitude : IsMagnitude units
  deriving DecidableEq

/-- A number of the format, finite or not. -/
inductive Double where
  | nan
  | infinite (negative : Bool)
  | finite (x : Binary64)
  deriving DecidableEq

/-! ## Rounding to the format -/

/-- The units nearest to `num / den` units with 53 significant binary digits. -/
def nearestUnits (num den : Nat) : Nat :=
  let spare := bitLength (num / den) - 53
  roundHalfEven num (den * 2 ^ spare) * 2 ^ spare

/-- What is rounded to 53 significant digits has no more than those. -/
theorem dvd_nearestUnits (num den : Nat) :
    2 ^ (bitLength (nearestUnits num den) - 53) ∣ nearestUnits num den := by
  simp only [nearestUnits]
  generalize hs : bitLength (num / den) - 53 = s
  generalize hm : roundHalfEven num (den * 2 ^ s) = m
  have hq : num / den < 2 ^ (53 + s) :=
    Nat.lt_of_lt_of_le (lt_two_pow_bitLength _) (Nat.pow_le_pow_right (by decide) (by omega))
  have hle : m ≤ 2 ^ 53 := by
    have := roundHalfEven_le num (den * 2 ^ s)
    have hdiv : num / (den * 2 ^ s) < 2 ^ 53 := by
      rw [← Nat.div_div_eq_div_mul]
      exact Nat.div_lt_of_lt_mul (by rw [Nat.mul_comm, ← Nat.pow_add]; exact hq)
    omega
  rcases Nat.lt_or_eq_of_le hle with hlt | heq
  · -- fewer than 54 digits before the shift
    have : bitLength (m * 2 ^ s) ≤ 53 + s :=
      bitLength_le (by rw [Nat.pow_add]; exact Nat.mul_lt_mul_of_pos_right hlt (Nat.two_pow_pos s))
    exact Nat.dvd_trans (Nat.pow_dvd_pow 2 (by omega)) (Nat.dvd_mul_left _ _)
  · -- the carry to the next power of two
    subst heq
    have : bitLength (2 ^ 53 * 2 ^ s) ≤ 54 + s :=
      bitLength_le (by rw [← Nat.pow_add]; exact Nat.pow_lt_pow_right (by decide) (by omega))
    rw [← Nat.pow_add] at this ⊢
    exact Nat.pow_dvd_pow 2 (by omega)

namespace Double

/-- The number nearest to `num / den` units. -/
def ofUnits (negative : Bool) (num den : Nat) : Double :=
  if h : nearestUnits num den < unitsLimit then
    .finite ⟨negative, nearestUnits num den, dvd_nearestUnits num den, h⟩
  else .infinite negative

/-- The number nearest to `num / den`. -/
def ofRatio (negative : Bool) (num den : Nat) : Double :=
  ofUnits negative (num * unitsOfOne) den

/-- The number nearest to a whole number. Zero gets no sign. -/
def ofInt (n : Int) : Double :=
  ofRatio (n < 0) n.natAbs 1

end Double

namespace Binary64

/-- Zero, of either sign. -/
def zero (negative : Bool) : Binary64 :=
  ⟨negative, 0, Nat.dvd_zero _, unitsLimit_pos⟩

/-- The product, rounded once. -/
def mul (x y : Binary64) : Double :=
  Double.ofUnits (x.negative != y.negative) (x.units * y.units) unitsOfOne

/-- The quotient by a number that is not zero, rounded once. -/
def div (x y : Binary64) : Double :=
  Double.ofUnits (x.negative != y.negative) (x.units * unitsOfOne) y.units

/-- Whether the number is whole. -/
def isWhole (x : Binary64) : Bool :=
  x.units % unitsOfOne == 0

/-- The number without its fraction. -/
def truncate (x : Binary64) : Int :=
  let n : Int := (x.units / unitsOfOne : Nat)
  if x.negative then -n else n

/-- The number as a 64-bit integer, if it is whole and of magnitude below `2 ^ 63`. -/
def whole? (x : Binary64) : Option Int64 :=
  if x.isWhole && x.units < 2 ^ 63 * unitsOfOne then some (Int64.ofInt x.truncate) else none

end Binary64

end Proforma.Number
