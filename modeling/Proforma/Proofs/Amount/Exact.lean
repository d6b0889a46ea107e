import Proforma.Proofs.Amount.Normal

/-!
# Exact results

Rounding does not see how a number is written (`rescaled_congr`), so a result that is itself an
amount is found as it is: a product, a sum or a difference is exact if there is an amount of its
value (`exists_mul?_of_representable` and the like), with however many decimals it was computed.
Putting an exact result into cents then errs by half a cent and no more, whether cents fit or not
(`abs_toCents_sub_le`).
-/

namespace Proforma

namespace Amount

/-- Whether there is an amount of that value. -/
def Representable (x : ℚ) : Prop :=
  ∃ a : Amount, a.value = x

/-! ## The value alone counts -/

section Value

variable {n m : Int} {scale other : Nat}

/-- Numbers of one value are the same number with zeros written behind. -/
theorem padded_of_decimal_eq (h : decimal n scale = decimal m other) :
    n * 10 ^ other = m * 10 ^ scale := by
  unfold decimal at h
  rw [div_eq_div_iff (tenPower_pos _).ne' (tenPower_pos _).ne'] at h
  exact_mod_cast h

theorem rescaled_congr (h : decimal n scale = decimal m other) (target : Nat) :
    rescaled n scale target = rescaled m other target := by
  rw [← rescaled_padded n other, padded_of_decimal_eq h, Nat.add_comm, rescaled_padded]

/-- **What is an amount is found exactly**, if there is room for all decimals that it is written
with, or for as many as an amount can have. -/
theorem exists_fit?_of_representable {target : Nat} (htarget : target ≤ maxScale)
    (hroom : min scale maxScale ≤ target) (h : Representable (decimal n scale)) :
    ∃ p, fit? n scale target = some p ∧ p.scale ≤ target ∧ p.value = decimal n scale := by
  obtain ⟨a, ha⟩ := h
  have hfits : InRange (rescaled n scale (min a.scale target)) := by
    rw [← rescaled_congr ha]
    exact InRange.rescaled a.coefficient_lt (Nat.min_le_left _ _)
  obtain ⟨p, hp, hplaces⟩ := exists_fit? htarget (Nat.min_le_right _ _) hfits
  obtain ⟨hcoefficient, hscale, -⟩ := fit?_spec htarget hp
  refine ⟨p, hp, hscale, ?_⟩
  unfold value
  rw [hcoefficient]
  rcases Nat.lt_or_ge target a.scale with hfewer | hall
  · -- the number is written with no more decimals than are kept
    have hmax := a.scale_le
    exact decimal_rescaled_of_le n (by omega)
  · -- the decimals of the amount are kept
    rw [← rescaled_congr ha, decimal_rescaled_of_le _ (by omega)]
    exact ha

end Value

/-! ## Arithmetic -/

section Arithmetic

variable {a b : Amount}

/-- A product that is an amount is exact. -/
theorem exists_mul?_of_representable (h : Representable (a.value * b.value)) :
    ∃ p, a.mul? b = some p ∧ p.value = a.value * b.value := by
  rw [← decimal_mul] at h ⊢
  obtain ⟨p, hp, -, hvalue⟩ :=
    exists_fit?_of_representable (Nat.min_le_right _ _) (Nat.le_refl _) h
  exact ⟨p, hp, hvalue⟩

theorem decimal_add (n m : Int) (scale : Nat) :
    decimal (n + m) scale = decimal n scale + decimal m scale := by
  unfold decimal
  rw [Int.cast_add, add_div]

/-- A sum that is an amount is exact, and has no more decimals than its parts. -/
theorem exists_add?_of_representable (h : Representable (a.value + b.value)) :
    ∃ p, a.add? b = some p ∧ p.scale ≤ max a.scale b.scale ∧ p.value = a.value + b.value := by
  have hsum : decimal (rescaled a.coefficient a.scale (max a.scale b.scale) +
      rescaled b.coefficient b.scale (max a.scale b.scale)) (max a.scale b.scale) =
        a.value + b.value := by
    rw [decimal_add, decimal_rescaled_of_le _ (Nat.le_max_left _ _),
      decimal_rescaled_of_le _ (Nat.le_max_right _ _)]
    rfl
  rw [← hsum] at h ⊢
  exact exists_fit?_of_representable (Nat.max_le.mpr ⟨a.scale_le, b.scale_le⟩)
    (Nat.min_le_left _ _) h

theorem value_neg (a : Amount) : a.neg.value = -a.value := by
  unfold value decimal neg
  rw [Int.cast_neg, neg_div]

/-- A difference that is an amount is exact, and has no more decimals than its parts. -/
theorem exists_sub?_of_representable (h : Representable (a.value - b.value)) :
    ∃ p, a.sub? b = some p ∧ p.scale ≤ max a.scale b.scale ∧ p.value = a.value - b.value := by
  rw [sub_eq_add_neg, ← value_neg] at h ⊢
  exact exists_add?_of_representable (b := b.neg) h

end Arithmetic

/-! ## Cents -/

/-- Half a cent. -/
def halfCent : ℚ := 1 / 200

theorem scale_toCents_le (a : Amount) : a.toCents.scale ≤ 2 :=
  (fit?_spec (by decide) (fit?_toCents a).1).2.1

/-- What is written with two decimals or fewer keeps its value in cents. -/
theorem value_toCents_of_le {a : Amount} (h : a.scale ≤ 2) : a.toCents.value = a.value := by
  obtain ⟨hfit, hplaces⟩ := fit?_toCents a
  obtain ⟨hcoefficient, -, -⟩ := fit?_spec (by decide) hfit
  rw [value, hcoefficient, decimal_rescaled_of_le _ (by omega)]
  rfl

/-- Putting into cents errs by half a cent at the most, also where there is no room for cents. -/
theorem abs_toCents_sub_le (a : Amount) : |a.toCents.value - a.value| ≤ halfCent := by
  rcases Nat.le_total a.scale 2 with hfew | hmany
  · rw [value_toCents_of_le hfew, sub_self, abs_zero]
    norm_num [halfCent]
  · obtain ⟨hfit, hplaces⟩ := fit?_toCents a
    obtain ⟨hcoefficient, htwo, -⟩ := fit?_spec (by decide) hfit
    have herror := abs_decimal_rescaled_sub_le a.coefficient a.scale 2
    rw [value, hcoefficient, show a.toCents.scale = 2 by omega]
    norm_num [halfCent] at herror ⊢
    exact herror

end Amount

end Proforma
