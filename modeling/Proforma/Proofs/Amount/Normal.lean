import Proforma.Proofs.Amount.Value

/-!
# Cents are final

An amount with zeros written behind it is the same amount, and no rounding sees them
(`rescaled_padded`, `fit?_padded`). An amount in cents, or with as many decimals as fit where not
even cents do, therefore stays as it is when it is put into cents once more (`toCents_toCents`);
and one is neutral however many zeros it is written with: the product with it in cents is the
amount in cents (`map_toCents_mul?_of_one`).
-/

namespace Proforma

open Number

namespace Amount

/-! ## Zeros behind the last decimal -/

/-- Rounding does not see zeros that were written behind. -/
theorem rescaled_padded (n : Int) (k scale target : Nat) :
    rescaled (n * 10 ^ k) (scale + k) target = rescaled n scale target := by
  have hsign : (n * 10 ^ k).sign = n.sign := by
    rw [Int.sign_mul, Int.sign_eq_one_of_pos (Int.pow_pos (by decide)), Int.mul_one]
  have habs : (n * 10 ^ k).natAbs = n.natAbs * 10 ^ k := by
    rw [Int.natAbs_mul, Int.natAbs_pow]
    rfl
  rcases Nat.lt_or_ge target scale with hlost | hkept
  · -- all zeros are rounded away, with some of the decimals before them
    rw [rescaled_of_lt _ (by omega), rescaled_of_lt _ hlost, hsign, habs,
      show scale + k - target = scale - target + k by omega, Nat.pow_add,
      roundHalfEven_mul_mul _ _ (Nat.pow_pos (by decide))]
  · rw [rescaled_of_le n hkept]
    rcases Nat.lt_or_ge target (scale + k) with hsome | hall
    · -- nothing but zeros is rounded away
      obtain ⟨m, hm⟩ : ∃ m, k = target - scale + m := ⟨scale + k - target, by omega⟩
      rw [rescaled_of_lt _ hsome, hsign, habs, show scale + k - target = m by omega, hm,
        Nat.pow_add, ← Nat.mul_assoc, roundHalfEven_mul_right _ _ (Nat.pow_pos (by decide))]
      push_cast
      rw [← mul_assoc, Int.sign_mul_abs]
    · rw [rescaled_of_le _ hall, Int.mul_assoc, ← Int.pow_add]
      congr 2
      omega

theorem fit?_padded (n : Int) (k scale target : Nat) :
    fit? (n * 10 ^ k) (scale + k) target = fit? n scale target := by
  induction target with
  | zero => rw [fit?, fit?, rescaled_padded]
  | succ target ih => rw [fit?, fit?, rescaled_padded, ih]

/-! ## Putting into cents -/

/-- Putting an amount into cents always ends with an amount, which has all its decimals unless
they are more than two. -/
theorem fit?_toCents (a : Amount) :
    fit? a.coefficient a.scale 2 = some a.toCents ∧ min 2 a.scale ≤ a.toCents.scale := by
  have hfits : InRange (rescaled a.coefficient a.scale (min 2 a.scale)) :=
    InRange.rescaled a.coefficient_lt (Nat.min_le_right _ _)
  obtain ⟨r, hr, hplaces⟩ := exists_fit? (by decide) (Nat.min_le_left _ _) hfits
  have heq : a.toCents = r := by
    unfold toCents
    rw [hr]
    rfl
  rw [heq]
  exact ⟨hr, hplaces⟩

/-- What depends on an amount through its cents does not see zeros written behind it. -/
theorem toCents_of_padded {a b : Amount} {k : Nat} (hscale : b.scale = a.scale + k)
    (hcoefficient : b.coefficient = a.coefficient * 10 ^ k) : b.toCents = a.toCents := by
  have hb := (fit?_toCents b).1
  rw [hscale, hcoefficient, fit?_padded, (fit?_toCents a).1, Option.some.injEq] at hb
  exact hb.symm

/-- **Cents are final**: an amount that has been put into cents stays as it is. -/
@[simp] theorem toCents_toCents (a : Amount) : a.toCents.toCents = a.toCents := by
  obtain ⟨hfit, hplaces⟩ := fit?_toCents a
  obtain ⟨hcoefficient, htwo, -⟩ := fit?_spec (by decide) hfit
  generalize a.toCents = r at *
  rcases Nat.lt_or_ge r.scale 2 with hfew | hmany
  · -- no decimal was lost, so `r` is `a` with zeros behind it
    obtain ⟨k, hk⟩ := Nat.exists_eq_add_of_le (show a.scale ≤ r.scale by omega)
    rw [hk, rescaled_of_le _ (by omega), Nat.add_sub_cancel_left] at hcoefficient
    have hsame := toCents_of_padded hk hcoefficient
    have ha := (fit?_toCents a).1
    rw [hfit, Option.some.injEq] at ha
    rw [hsame, ← ha]
  · have hscale : r.scale = 2 := Nat.le_antisymm htwo hmany
    have hcents : r.cents = r.coefficient := by
      unfold cents
      rw [hscale, rescaled_self]
    rw [toCents_eq_ofCents (hcents ▸ r.coefficient_lt), hcents]
    exact (eq_ofCents hscale).symm

/-! ## One -/

/-- One is written as a power of ten. -/
theorem coefficient_of_one {one : Amount} (h : one.value = 1) :
    one.coefficient = 10 ^ one.scale := by
  unfold value decimal at h
  rw [div_eq_one_iff_eq (tenPower_pos _).ne'] at h
  exact_mod_cast h

/-- **One is neutral**: the product with it, in cents, is the amount in cents. -/
theorem map_toCents_mul?_of_one {one : Amount} (h : one.value = 1) (a : Amount) :
    (a.mul? one).map toCents = some a.toCents := by
  have hproduct : a.mul? one =
      fit? a.coefficient a.scale (min (a.scale + one.scale) maxScale) := by
    unfold mul?
    simp only
    rw [coefficient_of_one h, fit?_padded]
  -- all decimals of the amount are kept, and what is kept beyond them are zeros
  have hroom : a.scale ≤ min (a.scale + one.scale) maxScale :=
    Nat.le_min.mpr ⟨Nat.le_add_right _ _, a.scale_le⟩
  have hfits : InRange (rescaled a.coefficient a.scale a.scale) := by
    rw [rescaled_self]
    exact a.coefficient_lt
  obtain ⟨p, hp, hplaces⟩ := exists_fit? (Nat.min_le_right _ _) hroom hfits
  obtain ⟨hcoefficient, -, -⟩ := fit?_spec (Nat.min_le_right _ _) hp
  obtain ⟨k, hk⟩ := Nat.exists_eq_add_of_le hplaces
  rw [hk, rescaled_of_le _ (by omega), Nat.add_sub_cancel_left] at hcoefficient
  rw [hproduct, hp, Option.map_some, toCents_of_padded hk hcoefficient]

end Amount

end Proforma
