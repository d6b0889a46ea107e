import Mathlib.Algebra.Order.Field.Basic
import Mathlib.Algebra.Order.Ring.Rat
import Mathlib.Data.Rat.Cast.Order
import Mathlib.Tactic.FieldSimp
import Mathlib.Tactic.Linarith
import Mathlib.Tactic.NormNum
import Mathlib.Tactic.Ring
import Proforma.Amount.Text
import Proforma.Proofs.Amount.Cents

/-!
# What amounts denote

The rational number that an amount stands for, and how far rounding takes it from there. Rounding
errs by half a unit of the last place (`abs_decimal_rescaled_sub_le`). A product in cents may have
been rounded twice, first to as many decimals as fit and then to cents; the two errors together
stay below one cent (`abs_cents_sub_product_le`), so a product that is a whole number of cents is
exact (`cents_eq_of_product_eq`).
-/

namespace Proforma

open Number

/-- Rounding errs by half the divisor at the most. -/
theorem Number.roundHalfEven_error (n : Nat) {d : Nat} (hd : 0 < d) :
    2 * (roundHalfEven n d * d) ≤ 2 * n + d ∧ 2 * n ≤ 2 * (roundHalfEven n d * d) + d := by
  have hdivision : n / d * d + n % d = n := Nat.div_add_mod' n d
  have hremainder : n % d < d := Nat.mod_lt n hd
  have hnext : (n / d + 1) * d = n / d * d + d := Nat.succ_mul _ _
  unfold roundHalfEven
  simp only
  split
  · rw [hnext]
    omega
  · omega

namespace Amount

/-! ## Decimals -/

/-- `n / 10 ^ scale`. -/
def decimal (n : Int) (scale : Nat) : ℚ :=
  n / (10 ^ scale : Nat)

/-- The number that an amount stands for. -/
def value (a : Amount) : ℚ :=
  decimal a.coefficient a.scale

/-- The number that a text stands for, zero if it is no amount. -/
def figure (text : String) : ℚ :=
  ((read? text).map value).getD 0

theorem figure_of_amount {text : String} {a : Amount} (h : read? text = some a) :
    figure text = a.value := by
  unfold figure
  rw [h]
  rfl

theorem figure_of_none {text : String} (h : read? text = none) : figure text = 0 := by
  unfold figure
  rw [h]
  rfl

theorem decimal_two (n : Int) : decimal n 2 = n / 100 := by
  unfold decimal
  norm_num

theorem tenPower_pos (k : Nat) : (0 : ℚ) < (10 ^ k : Nat) :=
  Nat.cast_pos.mpr (Nat.pow_pos (by decide))

theorem tenPower_add (k m : Nat) :
    ((10 ^ (k + m) : Nat) : ℚ) = (10 ^ k : Nat) * (10 ^ m : Nat) := by
  rw [Nat.pow_add, Nat.cast_mul]

/-- More decimals change nothing. -/
theorem decimal_rescaled_of_le {scale target : Nat} (n : Int) (h : scale ≤ target) :
    decimal (rescaled n scale target) target = decimal n scale := by
  obtain ⟨k, rfl⟩ := Nat.exists_eq_add_of_le h
  have hscale := (tenPower_pos scale).ne'
  have hmore := (tenPower_pos k).ne'
  rw [rescaled_of_le n h, Nat.add_sub_cancel_left]
  unfold decimal
  rw [tenPower_add]
  push_cast at hscale hmore ⊢
  field_simp

/-- The error of giving up decimals, in units of the decimals before. -/
theorem abs_rescaled_mul_sub_le {scale target : Nat} (n : Int) (h : target < scale) :
    2 * |rescaled n scale target * (10 ^ (scale - target) : Nat) - n| ≤
      (10 ^ (scale - target) : Nat) := by
  have hpos : 0 < 10 ^ (scale - target) := Nat.pow_pos (by decide)
  rw [rescaled_of_lt n h]
  generalize 10 ^ (scale - target) = d at hpos ⊢
  obtain ⟨hlow, hhigh⟩ := roundHalfEven_error n.natAbs hpos
  have hlow : (2 : Int) * ((roundHalfEven n.natAbs d : Nat) * d) ≤ 2 * n.natAbs + d := by
    exact_mod_cast hlow
  have hhigh : (2 : Int) * n.natAbs ≤ 2 * ((roundHalfEven n.natAbs d : Nat) * d) + d := by
    exact_mod_cast hhigh
  generalize ((roundHalfEven n.natAbs d : Nat) : Int) = r at hlow hhigh ⊢
  rcases lt_trichotomy n 0 with hneg | rfl | hpos
  · rw [Int.sign_eq_neg_one_of_neg hneg, neg_one_mul, neg_mul]
    have habs : (n.natAbs : Int) = -n := by omega
    rw [habs] at hlow hhigh
    generalize r * (d : Int) = m at hlow hhigh ⊢
    rcases abs_cases (-m - n) with ⟨heq, -⟩ | ⟨heq, -⟩ <;> omega
  · simp
  · rw [Int.sign_eq_one_of_pos hpos, one_mul]
    have habs : (n.natAbs : Int) = n := by omega
    rw [habs] at hlow hhigh
    generalize r * (d : Int) = m at hlow hhigh ⊢
    rcases abs_cases (m - n) with ⟨heq, -⟩ | ⟨heq, -⟩ <;> omega

/-- Rounding errs by half a unit of the last place. -/
theorem abs_decimal_rescaled_sub_le (n : Int) (scale target : Nat) :
    |decimal (rescaled n scale target) target - decimal n scale| ≤
      1 / (2 * (10 ^ target : Nat)) := by
  rcases Nat.lt_or_ge target scale with hlt | hge
  · obtain ⟨k, rfl⟩ := Nat.exists_eq_add_of_lt hlt
    have herror := abs_rescaled_mul_sub_le n hlt
    have hk : target + k + 1 - target = k + 1 := by omega
    rw [hk] at herror
    have herror : 2 * |(rescaled n (target + k + 1) target : ℚ) * (10 ^ (k + 1) : Nat) - n| ≤
        (10 ^ (k + 1) : Nat) := by
      exact_mod_cast herror
    have htarget := tenPower_pos target
    have hlost := tenPower_pos (k + 1)
    have hdifference : decimal (rescaled n (target + k + 1) target) target -
        decimal n (target + k + 1) =
          ((rescaled n (target + k + 1) target : ℚ) * (10 ^ (k + 1) : Nat) - n) /
            ((10 ^ target : Nat) * (10 ^ (k + 1) : Nat)) := by
      unfold decimal
      rw [Nat.add_assoc, tenPower_add]
      field_simp
    rw [hdifference, abs_div, abs_of_pos (mul_pos htarget hlost), div_le_div_iff₀
      (mul_pos htarget hlost) (mul_pos two_pos htarget)]
    nlinarith
  · rw [decimal_rescaled_of_le n hge, sub_self, abs_zero]
    exact one_div_nonneg.mpr (mul_nonneg zero_le_two (tenPower_pos target).le)

/-! ## Cents -/

theorem value_ofCents {n : Int} (hn : InRange n) : (ofCents n).value = n / 100 := by
  unfold value
  rw [ofCents_coefficient hn, ofCents_scale hn, decimal_two]

theorem abs_cents_sub_le (a : Amount) : |(a.cents : ℚ) / 100 - a.value| ≤ 1 / 200 := by
  have herror := abs_decimal_rescaled_sub_le a.coefficient a.scale 2
  rw [decimal_two] at herror
  norm_num at herror ⊢
  exact herror

/-- An amount with two decimals or fewer is a whole number of cents. -/
theorem value_eq_cents {a : Amount} (h : a.scale ≤ 2) : a.value = a.cents / 100 := by
  unfold value cents
  rw [← decimal_two, decimal_rescaled_of_le _ h]

/-! ## Products -/

theorem decimal_mul (a b : Amount) :
    decimal (a.coefficient * b.coefficient) (a.scale + b.scale) = a.value * b.value := by
  unfold value decimal
  rw [tenPower_add, Int.cast_mul, mul_div_mul_comm]

/-- How far the cents of a product may be from the product. Rounding to cents errs by half a
cent, and if decimals beyond the cents were rounded before, that was a tenth of it at the most. -/
def centsError : ℚ := 11 / 2000

/-- The cents of a product are close to the product. -/
theorem abs_cents_sub_product_le {a b p : Amount} (h : InRange (productCents a b))
    (hp : a.mul? b = some p) : |(p.cents : ℚ) / 100 - a.value * b.value| ≤ centsError := by
  obtain ⟨hcoefficient, hscale⟩ := mul?_spec hp
  obtain ⟨q, hq, hplaces⟩ := exists_mul? h
  obtain rfl : q = p := Option.some.inj (hq.symm.trans hp)
  have hvalue : q.value = decimal (rescaled (a.coefficient * b.coefficient) (a.scale + b.scale)
      q.scale) q.scale := by
    unfold value
    rw [hcoefficient]
  unfold centsError
  rcases Nat.lt_or_ge q.scale 3 with hfew | hmany
  · -- rounded once: either no decimal was lost in the product, or none is lost after it
    have hcents : (q.cents : ℚ) / 100 = q.value := (value_eq_cents (by omega)).symm
    have herror : |q.value - a.value * b.value| ≤ 1 / 200 := by
      rcases Nat.eq_or_lt_of_le hscale with hall | hlost
      · rw [hvalue, hall, rescaled_self, decimal_mul, sub_self, abs_zero]
        norm_num
      · obtain htwo : q.scale = 2 := by omega
        have := abs_decimal_rescaled_sub_le (a.coefficient * b.coefficient) (a.scale + b.scale) 2
        rw [htwo] at hvalue
        rw [← hvalue, decimal_mul] at this
        norm_num at this ⊢
        exact this
    rw [hcents]
    linarith
  · have hfirst := abs_decimal_rescaled_sub_le (a.coefficient * b.coefficient) (a.scale + b.scale)
      q.scale
    rw [← hvalue, decimal_mul] at hfirst
    have hsmall : 1 / (2 * ((10 ^ q.scale : Nat) : ℚ)) ≤ 1 / 2000 := by
      have hpower : 10 ^ 3 ≤ 10 ^ q.scale := Nat.pow_le_pow_right (by decide) hmany
      have hpower : (1000 : ℚ) ≤ (10 ^ q.scale : Nat) := by exact_mod_cast hpower
      apply one_div_le_one_div_of_le <;> linarith
    have hsecond := abs_cents_sub_le q
    have htriangle := abs_sub_le ((q.cents : ℚ) / 100) q.value (a.value * b.value)
    linarith

/-- A product that is a whole number of cents is exact. -/
theorem cents_eq_of_product_eq {a b p : Amount} {m : Int} (h : InRange (productCents a b))
    (hp : a.mul? b = some p) (hwhole : a.value * b.value = m / 100) : p.cents = m := by
  have herror := abs_cents_sub_product_le h hp
  rw [hwhole, ← sub_div, abs_div, abs_of_pos (by norm_num : (0 : ℚ) < 100)] at herror
  have hless : |((p.cents - m : Int) : ℚ)| < 1 := by
    push_cast
    unfold centsError at herror
    linarith
  have hless : |p.cents - m| < 1 := by exact_mod_cast hless
  have := Int.abs_lt_one_iff.mp hless
  omega

end Amount

end Proforma
