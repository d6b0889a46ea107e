import Proforma.Proofs.Amount.Normal

/-!
# Products keep the order

Rounding to a fixed number of decimals keeps the order of numbers (`rescaled_mono`), so amounts in
cents are in the order of the amounts (`cents_le_cents`). A product is rounded to as many decimals
as fit, and a larger product may have room for fewer of them; even so it does not fall behind a
smaller one that kept more (`value_le_of_mul?`). The reason is in the limit itself: a coefficient
that has just become too large is rounded up when its last decimal is given up.
-/

namespace Proforma

open Number

namespace Amount

/-! ## A fixed number of decimals -/

theorem rescaled_of_nonneg {n : Int} {scale target : Nat} (hn : 0 ≤ n) (h : target < scale) :
    rescaled n scale target = (roundHalfEven n.natAbs (10 ^ (scale - target)) : Nat) := by
  rw [rescaled_of_lt n h]
  rcases Int.lt_or_eq_of_le hn with hpos | rfl
  · rw [Int.sign_eq_one_of_pos hpos, Int.one_mul]
  · simp [roundHalfEven]

theorem rescaled_nonneg {n : Int} (hn : 0 ≤ n) (scale target : Nat) :
    0 ≤ rescaled n scale target := by
  rcases Nat.lt_or_ge target scale with hlt | hge
  · rw [rescaled_of_nonneg hn hlt]
    exact Int.natCast_nonneg _
  · rw [rescaled_of_le n hge]
    exact Int.mul_nonneg hn (Int.pow_nonneg (by decide))

theorem rescaled_mono_of_nonneg {n m : Int} (hn : 0 ≤ n) (h : n ≤ m) (scale target : Nat) :
    rescaled n scale target ≤ rescaled m scale target := by
  rcases Nat.lt_or_ge target scale with hlt | hge
  · rw [rescaled_of_nonneg hn hlt, rescaled_of_nonneg (Int.le_trans hn h) hlt]
    exact Int.ofNat_le.mpr (roundHalfEven_mono _ (by omega))
  · rw [rescaled_of_le n hge, rescaled_of_le m hge]
    exact Int.mul_le_mul_of_nonneg_right h (Int.pow_nonneg (by decide))

/-- **Rounding to so many decimals keeps the order.** -/
theorem rescaled_mono {n m : Int} (h : n ≤ m) (scale target : Nat) :
    rescaled n scale target ≤ rescaled m scale target := by
  rcases Int.lt_or_le n 0 with hneg | hn
  · rcases Int.lt_or_le m 0 with hmneg | hm
    · -- below zero the order is that of the opposite numbers
      have hopposite := rescaled_mono_of_nonneg (n := -m) (m := -n) (by omega) (by omega) scale
        target
      rw [rescaled_neg, rescaled_neg] at hopposite
      omega
    · have hopposite := rescaled_nonneg (n := -n) (by omega) scale target
      rw [rescaled_neg] at hopposite
      have := rescaled_nonneg hm scale target
      omega
  · exact rescaled_mono_of_nonneg hn h scale target

/-! ## Amounts -/

theorem value_nonneg_iff (a : Amount) : 0 ≤ a.value ↔ 0 ≤ a.coefficient := by
  unfold value decimal
  rw [div_nonneg_iff]
  have hpower := tenPower_pos a.scale
  constructor
  · rintro (⟨hcoefficient, -⟩ | ⟨-, hnot⟩)
    · exact_mod_cast hcoefficient
    · exact absurd hnot (not_le.mpr hpower)
  · intro hcoefficient
    exact .inl ⟨by exact_mod_cast hcoefficient, hpower.le⟩

/-- Cents keep the order of amounts, whatever their decimals. -/
theorem cents_le_cents {a b : Amount} (h : a.value ≤ b.value) : a.cents ≤ b.cents := by
  -- both amounts written with the decimals of either
  have hpadded : a.coefficient * 10 ^ b.scale ≤ b.coefficient * 10 ^ a.scale := by
    unfold value decimal at h
    rw [div_le_div_iff₀ (tenPower_pos _) (tenPower_pos _)] at h
    exact_mod_cast h
  have hcents := rescaled_mono hpadded (a.scale + b.scale) 2
  rwa [rescaled_padded, Nat.add_comm, rescaled_padded] at hcents

/-! ## As many decimals as fit -/

/-- What one decimal more can be at the most. -/
theorem two_mul_rescaled_succ_le (n : Int) {scale d : Nat} (h : d < scale) :
    2 * rescaled n scale (d + 1) ≤ 20 * rescaled n scale d + 11 := by
  obtain ⟨e, rfl⟩ := Nat.exists_eq_add_of_lt h
  have hpower : (0 : Int) < (10 ^ e : Nat) := by exact_mod_cast Nat.pow_pos (by decide)
  have hmore : 2 * (rescaled n (d + e + 1) (d + 1) * (10 ^ e : Nat) - n) ≤ (10 ^ e : Nat) := by
    rcases Nat.eq_zero_or_pos e with rfl | hpos
    · simp
    · have herror := abs_rescaled_mul_sub_le n (show d + 1 < d + e + 1 by omega)
      rw [show d + e + 1 - (d + 1) = e by omega] at herror
      have := le_abs_self (rescaled n (d + e + 1) (d + 1) * (10 ^ e : Nat) - n)
      omega
  have hfewer : 2 * (n - rescaled n (d + e + 1) d * (10 ^ (e + 1) : Nat)) ≤
      (10 ^ (e + 1) : Nat) := by
    have herror := abs_rescaled_mul_sub_le n h
    rw [show d + e + 1 - d = e + 1 by omega] at herror
    have := neg_abs_le (rescaled n (d + e + 1) d * (10 ^ (e + 1) : Nat) - n)
    omega
  generalize rescaled n (d + e + 1) (d + 1) = more at *
  generalize rescaled n (d + e + 1) d = fewer at *
  refine le_of_mul_le_mul_right ?_ hpower
  rw [Nat.pow_succ] at hfewer
  push_cast at *
  linarith

/-- Where one decimal more makes the coefficient too large, without it the number is above all
amounts with that decimal. -/
theorem limit_le_of_crowded {n : Int} {scale d : Nat} (h : d < scale)
    (hcrowded : (coefficientLimit : Int) ≤ rescaled n scale (d + 1)) :
    (coefficientLimit : Int) ≤ 10 * rescaled n scale d + 1 := by
  have hbound := two_mul_rescaled_succ_le n h
  unfold coefficientLimit at *
  push_cast at *
  omega

/-- The larger of two numbers does not fall behind the smaller one, though it may have room for
fewer decimals. -/
theorem value_le_of_fit? {n m : Int} {scale target : Nat} {p q : Amount} (hn : 0 ≤ n) (h : n ≤ m)
    (htarget : target ≤ maxScale) (hscale : target ≤ scale) (hp : fit? n scale target = some p)
    (hq : fit? m scale target = some q) : p.value ≤ q.value := by
  obtain ⟨hpvalue, hptarget, hplost⟩ := fit?_spec htarget hp
  obtain ⟨hqvalue, hqtarget, hqlost⟩ := fit?_spec htarget hq
  rcases Nat.lt_trichotomy p.scale q.scale with hfewer | hsame | hmore
  · -- impossible: the smaller number has room wherever the larger one has
    refine absurd ?_ (hplost q.scale hfewer hqtarget)
    have hnonneg := rescaled_nonneg hn scale q.scale
    have hle := rescaled_mono h scale q.scale
    have hfits := q.coefficient_lt
    rw [← hqvalue] at hle
    unfold InRange
    omega
  · unfold value decimal
    rw [hpvalue, hqvalue, hsame]
    refine div_le_div_of_nonneg_right ?_ (tenPower_pos _).le
    exact_mod_cast rescaled_mono h scale q.scale
  · -- one decimal more would make the larger number too large
    have hlarge : (coefficientLimit : Int) ≤ rescaled m scale (q.scale + 1) := by
      have hnonneg := rescaled_nonneg (Int.le_trans hn h) scale (q.scale + 1)
      have hlost := hqlost (q.scale + 1) (by omega) (by omega)
      unfold InRange at hlost
      omega
    have hcrowded := limit_le_of_crowded (by omega) hlarge
    rw [← hqvalue] at hcrowded
    have hlimit := p.coefficient_lt
    have hcoefficient : p.coefficient ≤ 10 * q.coefficient := by omega
    have hpower : 10 ^ (q.scale + 1) ≤ 10 ^ p.scale := Nat.pow_le_pow_right (by decide) (by omega)
    have hqnonneg : 0 ≤ q.coefficient := hqvalue ▸ rescaled_nonneg (Int.le_trans hn h) _ _
    unfold value decimal
    rw [div_le_div_iff₀ (tenPower_pos _) (tenPower_pos _)]
    have hcast : p.coefficient * (10 ^ q.scale : Nat) ≤ q.coefficient * (10 ^ p.scale : Nat) := by
      calc p.coefficient * (10 ^ q.scale : Nat)
          ≤ 10 * q.coefficient * (10 ^ q.scale : Nat) :=
            Int.mul_le_mul_of_nonneg_right hcoefficient (Int.natCast_nonneg _)
        _ = q.coefficient * (10 ^ (q.scale + 1) : Nat) := by
            rw [Nat.pow_succ]
            push_cast
            ring
        _ ≤ q.coefficient * (10 ^ p.scale : Nat) :=
            Int.mul_le_mul_of_nonneg_left (by exact_mod_cast hpower) hqnonneg
    exact_mod_cast hcast

/-- **Products keep the order** of amounts that are written with equally many decimals, however
many decimals of either product fit. -/
theorem value_le_of_mul? {a b factor p q : Amount} (hfactor : 0 ≤ factor.value) (ha : 0 ≤ a.value)
    (hab : a.value ≤ b.value) (hscale : a.scale = b.scale) (hp : a.mul? factor = some p)
    (hq : b.mul? factor = some q) : p.value ≤ q.value := by
  rw [value_nonneg_iff] at hfactor ha
  have hcoefficient : a.coefficient ≤ b.coefficient := by
    unfold value decimal at hab
    rw [hscale, div_le_div_iff_of_pos_right (tenPower_pos _)] at hab
    exact_mod_cast hab
  unfold mul? at hp hq
  simp only at hp hq
  rw [hscale] at hp
  exact value_le_of_fit? (Int.mul_nonneg ha hfactor)
    (Int.mul_le_mul_of_nonneg_right hcoefficient hfactor) (Nat.min_le_right _ _)
    (Nat.min_le_left _ _) hp hq

/-- A product of amounts that are not negative is not negative. -/
theorem value_nonneg_of_mul? {a factor p : Amount} (hfactor : 0 ≤ factor.value)
    (ha : 0 ≤ a.value) (hp : a.mul? factor = some p) : 0 ≤ p.value := by
  rw [value_nonneg_iff] at hfactor ha ⊢
  rw [(mul?_spec hp).1]
  exact rescaled_nonneg (Int.mul_nonneg ha hfactor) _ _

end Amount

end Proforma
