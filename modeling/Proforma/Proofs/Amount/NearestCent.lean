import Mathlib.Algebra.Order.Round
import Mathlib.Data.Rat.Floor
import Proforma.Proofs.Amount.Exact
import Proforma.Proofs.Amount.Order
import Proforma.Proofs.Number.Nearest

/-!
# The nearest cent

Every number has one nearest cent, where of two that are equally near the even one counts
(`IsNearestCents.eq`), and it is what rounding to cents finds (`isNearestCents_rescaled`). Cents are
written with two decimals, behind a sign if they are below zero (`text_ofCents`).
-/

namespace Proforma

open Number

namespace Amount

/-! ## The nearest cent -/

/-- So many cents are nearest to a number, and if others are as near, the number of them is even. -/
structure IsNearestCents (n : Int) (x : ℚ) : Prop where
  nearest : ∀ m : Int, |(n : ℚ) / 100 - x| ≤ |(m : ℚ) / 100 - x|
  even : ∀ m : Int, m ≠ n → |(m : ℚ) / 100 - x| = |(n : ℚ) / 100 - x| → n % 2 = 0

section Nearest

variable {n m : Int} {x : ℚ}

/-- Where one number of cents is within half a cent, all others are at least half a cent away. -/
theorem halfCent_le_abs_sub (hn : |(n : ℚ) / 100 - x| ≤ halfCent) (hne : m ≠ n) :
    halfCent ≤ |(m : ℚ) / 100 - x| := by
  obtain ⟨hlow, hhigh⟩ := abs_le.mp hn
  unfold halfCent at *
  rcases Int.lt_or_gt_of_ne hne with hless | hmore
  · have hstep : (m : ℚ) + 1 ≤ n := by exact_mod_cast hless
    exact le_abs.mpr (.inr (by linarith))
  · have hstep : (n : ℚ) + 1 ≤ m := by exact_mod_cast hmore
    exact le_abs.mpr (.inl (by linarith))

/-- To be nearest is to be within half a cent, and even if half a cent away. -/
theorem isNearestCents_iff : IsNearestCents n x ↔
    |(n : ℚ) / 100 - x| ≤ halfCent ∧ (|(n : ℚ) / 100 - x| = halfCent → n % 2 = 0) := by
  constructor
  · intro h
    have hround := abs_sub_round (x * 100)
    have hhalf : |(n : ℚ) / 100 - x| ≤ halfCent := by
      refine (h.nearest (round (x * 100))).trans ?_
      rw [show (round (x * 100) : ℚ) / 100 - x = -(x * 100 - round (x * 100)) / 100 by ring,
        abs_div, abs_neg, abs_of_pos (by norm_num : (0 : ℚ) < 100)]
      unfold halfCent
      linarith
    refine ⟨hhalf, fun htie => ?_⟩
    -- half a cent away on one side there is a neighbour half a cent away on the other
    unfold halfCent at htie
    rcases (abs_eq (by norm_num)).mp htie with hup | hdown
    · refine h.even (n - 1) (by omega) ?_
      rw [show ((n - 1 : Int) : ℚ) / 100 - x = -(1 / 200) by push_cast; linarith, htie, abs_neg]
      exact abs_of_pos (by norm_num)
    · refine h.even (n + 1) (by omega) ?_
      rw [show ((n + 1 : Int) : ℚ) / 100 - x = 1 / 200 by push_cast; linarith, htie]
      exact abs_of_pos (by norm_num)
  · rintro ⟨hhalf, heven⟩
    refine ⟨fun m => ?_, fun m hne htie => heven (le_antisymm hhalf ?_)⟩
    · rcases eq_or_ne m n with rfl | hne
      · exact le_rfl
      · exact hhalf.trans (halfCent_le_abs_sub hhalf hne)
    · exact (halfCent_le_abs_sub hhalf hne).trans htie.le

/-- **The nearest cent is unique.** -/
theorem IsNearestCents.eq (hn : IsNearestCents n x) (hm : IsNearestCents m x) : m = n := by
  by_contra hne
  have htie := le_antisymm (hm.nearest n) (hn.nearest m)
  have hnhalf := (isNearestCents_iff.mp hn).1
  have hmhalf := (isNearestCents_iff.mp hm).1
  have hneven := hn.even m hne htie
  have hmeven := hm.even n (Ne.symm hne) htie.symm
  have hnext : |(m : ℚ) - n| ≤ 1 := by
    have htriangle := abs_sub_le ((m : ℚ) / 100) x ((n : ℚ) / 100)
    rw [abs_sub_comm x, ← sub_div, abs_div, abs_of_pos (by norm_num : (0 : ℚ) < 100)] at htriangle
    unfold halfCent at hnhalf hmhalf
    linarith
  have hnext : |m - n| ≤ 1 := by exact_mod_cast hnext
  rw [abs_le] at hnext
  omega

/-- Rounding does not favour a side. -/
theorem IsNearestCents.neg (h : IsNearestCents n x) : IsNearestCents (-n) (-x) := by
  have hopposite (m : Int) : |((-m : Int) : ℚ) / 100 - -x| = |(m : ℚ) / 100 - x| := by
    rw [show ((-m : Int) : ℚ) / 100 - -x = -((m : ℚ) / 100 - x) by push_cast; ring, abs_neg]
  rw [isNearestCents_iff] at h ⊢
  rw [hopposite]
  exact ⟨h.1, fun htie => by have := h.2 htie; omega⟩

end Nearest

theorem isNearestCents_rescaled_of_nonneg {n : Int} (hn : 0 ≤ n) (scale : Nat) :
    IsNearestCents (rescaled n scale 2) (decimal n scale) := by
  rw [isNearestCents_iff]
  rcases Nat.lt_or_ge 2 scale with hlost | hkept
  · -- the quotient that is rounded is a hundred times the number
    obtain ⟨k, rfl⟩ := Nat.exists_eq_add_of_lt hlost
    have hpower : 0 < 10 ^ (k + 1) := Nat.pow_pos (by decide)
    have hquotient : decimal n (2 + k + 1) = (n.natAbs : ℚ) / (10 ^ (k + 1) : Nat) / 100 := by
      have habs : (n : ℚ) = (n.natAbs : ℚ) := by
        rw [Nat.cast_natAbs, abs_of_nonneg hn]
      unfold decimal
      rw [Nat.add_assoc, tenPower_add, habs, mul_comm, ← div_div]
      norm_num
    have hrounded : rescaled n (2 + k + 1) 2 = (roundHalfEven n.natAbs (10 ^ (k + 1)) : Nat) := by
      rw [rescaled_of_nonneg hn hlost, show 2 + k + 1 - 2 = k + 1 by omega]
    have herror : |(rescaled n (2 + k + 1) 2 : ℚ) / 100 - decimal n (2 + k + 1)| =
        |(roundHalfEven n.natAbs (10 ^ (k + 1)) : ℚ) - n.natAbs / (10 ^ (k + 1) : Nat)| / 100 := by
      rw [hquotient, hrounded, Int.cast_natCast, ← sub_div, abs_div,
        abs_of_pos (by norm_num : (0 : ℚ) < 100)]
    rw [herror, hrounded]
    unfold halfCent
    refine ⟨?_, fun htie => ?_⟩
    · have := abs_roundHalfEven_sub_le_half n.natAbs hpower
      linarith
    · have := roundHalfEven_even_of_half n.natAbs hpower (by linarith)
      omega
  · -- no decimal is lost
    rw [← decimal_two, decimal_rescaled_of_le n hkept, sub_self, abs_zero]
    unfold halfCent
    exact ⟨by norm_num, fun htie => by norm_num at htie⟩

/-- **Rounding to cents goes to the nearest cent.** -/
theorem isNearestCents_rescaled (n : Int) (scale : Nat) :
    IsNearestCents (rescaled n scale 2) (decimal n scale) := by
  rcases Int.le_total 0 n with hn | hneg
  · exact isNearestCents_rescaled_of_nonneg hn scale
  · have hopposite := (isNearestCents_rescaled_of_nonneg (n := -n) (by omega) scale).neg
    have hdecimal : -decimal (-n) scale = decimal n scale := by
      unfold decimal
      push_cast
      ring
    rwa [rescaled_neg, neg_neg, hdecimal] at hopposite

/-! ## Cents as text -/

/-- The text of so many cents: the whole units, a point and two decimals, behind a sign if they
are below zero. -/
def centsText (n : Int) : String :=
  (if n < 0 then "-" else "") ++ toString (n.natAbs / 100) ++ "." ++
    toString (n.natAbs / 10 % 10) ++ toString (n.natAbs % 10)

/-- The opposite of cents above zero is written with a sign in front. -/
theorem centsText_neg {n : Int} (h : 0 < n) : centsText (-n) = "-" ++ centsText n := by
  unfold centsText
  rw [if_pos (by omega), if_neg (by omega), Int.natAbs_neg]
  simp only [String.append_assoc, String.empty_append]

/-- The last two digits stand behind the point, zeros if there are none. -/
theorem pointed_two (m : Nat) : pointed 2 (Nat.toDigits 10 m) =
    Nat.toDigits 10 (m / 100) ++ ['.', (m / 10 % 10).digitChar, (m % 10).digitChar] := by
  have hlast {k : Nat} (hk : 10 ≤ k) :
      Nat.toDigits 10 k = Nat.toDigits 10 (k / 10) ++ [(k % 10).digitChar] :=
    Nat.toDigits_of_base_le (by decide) hk
  have hfew {k : Nat} (hk : k < 10) : Nat.toDigits 10 k = [k.digitChar] :=
    Nat.toDigits_of_lt_base hk
  unfold pointed
  rw [if_neg (by decide)]
  rcases Nat.lt_or_ge m 10 with hone | hmore
  · rw [hfew hone, show m / 100 = 0 by omega, show m / 10 % 10 = 0 by omega, Nat.mod_eq_of_lt hone]
    rfl
  · rcases Nat.lt_or_ge m 100 with htwo | hmany
    · rw [hlast hmore, hfew (by omega : m / 10 < 10), show m / 100 = 0 by omega,
        Nat.mod_eq_of_lt (by omega : m / 10 < 10)]
      rfl
    · have hdigits : Nat.toDigits 10 m = Nat.toDigits 10 (m / 100) ++
          [(m / 10 % 10).digitChar, (m % 10).digitChar] := by
        rw [hlast hmore, hlast (by omega : 10 ≤ m / 10), Nat.div_div_eq_div_mul, List.append_assoc]
        rfl
      have hwhole : 1 ≤ (Nat.toDigits 10 (m / 100)).length := Nat.length_toDigits_pos
      rw [hdigits]
      generalize Nat.toDigits 10 (m / 100) = whole at hwhole
      have hnone : 1 - whole.length = 0 := by omega
      simp [hnone]

/-- **An amount of cents is written as its text.** -/
theorem text_ofCents {n : Int} (hn : InRange n) : (ofCents n).text = centsText n := by
  have hdigit (k : Nat) : Nat.toDigits 10 (k % 10) = [(k % 10).digitChar] :=
    Nat.toDigits_of_lt_base (Nat.mod_lt k (by decide))
  apply String.toList_injective
  unfold text centsText
  rw [ofCents_coefficient hn, ofCents_scale hn, String.toList_ofList, pointed_two]
  simp only [String.toList_append, Nat.toString_eq_repr, Nat.toList_repr, hdigit]
  split <;> simp

end Amount

end Proforma
