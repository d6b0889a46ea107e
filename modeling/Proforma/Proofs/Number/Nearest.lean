import Mathlib.Data.Nat.Cast.Order.Field
import Mathlib.Tactic.Ring
import Proforma.Proofs.Amount.Value
import Proforma.Proofs.Number.Value

/-!
# The nearest number of the format

Rounding gives the number of the format that is nearest to the exact one, and where two are equally
near the one whose last digit is even (`isNearest_of_ofUnits`). There is only one such number, signs
of zero aside (`IsNearest.value_eq`). On a grid of equal steps this is rounding to the nearest whole
number; the steps below a power of two are finer than those above, but what lies there is strictly
farther from a number beyond the power than the power itself.
-/

namespace Proforma.Number

/-! ## Whole numbers -/

section Whole

variable (n : Nat) {d : Nat} (hd : 0 < d)

include hd

theorem abs_roundHalfEven_sub_le_half : |(roundHalfEven n d : ℚ) - n / d| ≤ 1 / 2 := by
  obtain ⟨hlow, hhigh⟩ := roundHalfEven_error n hd
  have hlow : 2 * ((roundHalfEven n d : ℚ) * d) ≤ 2 * n + d := by exact_mod_cast hlow
  have hhigh : 2 * (n : ℚ) ≤ 2 * (roundHalfEven n d * d) + d := by exact_mod_cast hhigh
  have hpos : (0 : ℚ) < d := Nat.cast_pos.mpr hd
  have hquotient : (n : ℚ) / d * d = n := div_mul_cancel₀ _ hpos.ne'
  rw [abs_le]
  constructor <;> nlinarith

omit hd in
/-- Where one whole number is within half a step, all others are at least half a step away. -/
theorem half_le_abs_sub {r t : Nat} {v : ℚ} (hr : |(r : ℚ) - v| ≤ 1 / 2) (hne : t ≠ r) :
    1 / 2 ≤ |(t : ℚ) - v| := by
  obtain ⟨hlow, hhigh⟩ := abs_le.mp hr
  rcases Nat.lt_or_gt_of_ne hne with hless | hmore
  · have hstep : (t : ℚ) + 1 ≤ r := by exact_mod_cast hless
    exact le_abs.mpr (.inr (by linarith))
  · have hstep : (r : ℚ) + 1 ≤ t := by exact_mod_cast hmore
    exact le_abs.mpr (.inl (by linarith))

/-- No other whole number is nearer to the quotient. -/
theorem abs_roundHalfEven_sub_le (t : Nat) :
    |(roundHalfEven n d : ℚ) - n / d| ≤ |(t : ℚ) - n / d| := by
  have hhalf := abs_roundHalfEven_sub_le_half n hd
  rcases eq_or_ne t (roundHalfEven n d) with rfl | hne
  · exact le_rfl
  · exact hhalf.trans (half_le_abs_sub hhalf hne)

/-- Half way between two whole numbers the even one is taken. -/
theorem roundHalfEven_even_of_half (h : |(roundHalfEven n d : ℚ) - n / d| = 1 / 2) :
    roundHalfEven n d % 2 = 0 := by
  have hpos : (0 : ℚ) < d := Nat.cast_pos.mpr hd
  have hquotient : (n : ℚ) / d * d = n := div_mul_cancel₀ _ hpos.ne'
  have hhalf : 2 * (roundHalfEven n d * d) = 2 * n + d ∨
      2 * n = 2 * (roundHalfEven n d * d) + d := by
    rcases (abs_eq (by norm_num)).mp h with hup | hdown
    · refine .inl ?_
      have hcast : 2 * ((roundHalfEven n d : ℚ) * d) = 2 * n + d := by nlinarith
      exact_mod_cast hcast
    · refine .inr ?_
      have hcast : 2 * (n : ℚ) = 2 * (roundHalfEven n d * d) + d := by nlinarith
      exact_mod_cast hcast
  have hdivision : n / d * d + n % d = n := Nat.div_add_mod' n d
  have hremainder : n % d < d := Nat.mod_lt n hd
  have hnext : (n / d + 1) * d = n / d * d + d := Nat.succ_mul _ _
  clear h hquotient
  unfold roundHalfEven at hhalf ⊢
  simp only at hhalf ⊢
  split at hhalf <;> split <;> first | contradiction | omega

/-- If another whole number is as near, it is the odd one of the two. -/
theorem parity_of_tie {t : Nat} (hne : t ≠ roundHalfEven n d)
    (htie : |(t : ℚ) - n / d| = |(roundHalfEven n d : ℚ) - n / d|) :
    roundHalfEven n d % 2 = 0 ∧ t % 2 = 1 := by
  have hle := abs_roundHalfEven_sub_le_half n hd
  have hge := half_le_abs_sub hle hne
  have heven := roundHalfEven_even_of_half n hd (by linarith)
  have hnext : |(t : ℚ) - roundHalfEven n d| ≤ 1 := by
    have htriangle := abs_sub_le (t : ℚ) (n / d) (roundHalfEven n d)
    rw [abs_sub_comm ((n : ℚ) / d)] at htriangle
    linarith
  have hnext : |(t : ℤ) - roundHalfEven n d| ≤ 1 := by exact_mod_cast hnext
  rw [abs_le] at hnext
  exact ⟨heven, by omega⟩

end Whole

/-! ## Magnitudes -/

/-- The last of 53 significant digits is zero. -/
def IsEven (n : Nat) : Prop :=
  2 * 2 ^ (bitLength n - 53) ∣ n

/-- The step between the magnitudes around `num / den` units. -/
def step (num den : Nat) : Nat :=
  2 ^ (bitLength (num / den) - 53)

/-- How many steps the nearest magnitude is. -/
def nearestSteps (num den : Nat) : Nat :=
  roundHalfEven num (den * step num den)

theorem step_pos (num den : Nat) : 0 < step num den :=
  Nat.two_pow_pos _

theorem nearestUnits_eq (num den : Nat) :
    nearestUnits num den = nearestSteps num den * step num den :=
  rfl

/-- The steps are no more than the digits that are kept. -/
theorem nearestSteps_le (num den : Nat) : nearestSteps num den ≤ 2 ^ 53 := by
  have hwhole : num / (den * step num den) < 2 ^ 53 := by
    rw [← Nat.div_div_eq_div_mul]
    refine Nat.div_lt_of_lt_mul (Nat.lt_of_lt_of_le (lt_two_pow_bitLength _) ?_)
    unfold step
    rw [← Nat.pow_add]
    exact Nat.pow_le_pow_right (by decide) (by omega)
  have := roundHalfEven_le num (den * step num den)
  unfold nearestSteps
  omega

/-- An even number of steps is an even magnitude, also where a carry gives it one digit more. -/
theorem isEven_mul_two_pow {r s : Nat} (heven : r % 2 = 0) (hle : r ≤ 2 ^ 53) :
    IsEven (r * 2 ^ s) := by
  unfold IsEven
  rcases Nat.lt_or_eq_of_le hle with hlt | rfl
  · have hlength : bitLength (r * 2 ^ s) ≤ 53 + s := bitLength_le <| by
      rw [Nat.pow_add]
      exact Nat.mul_lt_mul_of_pos_right hlt (Nat.two_pow_pos s)
    exact Nat.mul_dvd_mul (Nat.dvd_of_mod_eq_zero heven) (Nat.pow_dvd_pow 2 (by omega))
  · have hlength : bitLength (2 ^ 53 * 2 ^ s) ≤ 54 + s := bitLength_le <| by
      rw [← Nat.pow_add]
      exact Nat.pow_lt_pow_right (by decide) (by omega)
    rw [← Nat.pow_succ', ← Nat.pow_add]
    exact Nat.pow_dvd_pow 2 (by rw [← Nat.pow_add] at hlength; omega)

/-- An odd number of steps is an odd magnitude, if the steps there are no finer. -/
theorem not_isEven_of_odd {num den t : Nat} (hodd : t % 2 = 1)
    (hcoarse : bitLength (num / den) - 53 ≤ bitLength (step num den * t) - 53) :
    ¬IsEven (step num den * t) := by
  intro heven
  have hdvd : step num den * 2 ∣ step num den * t := by
    refine Nat.dvd_trans ?_ heven
    rw [Nat.mul_comm]
    exact Nat.mul_dvd_mul_left 2 (Nat.pow_dvd_pow 2 hcoarse)
  have htwo := Nat.dvd_of_mul_dvd_mul_left (step_pos num den) hdvd
  omega

section Magnitudes

variable (num : Nat) {den : Nat} (hden : 0 < den) {m : Nat}

/-- What has finer steps is below a whole number of steps that is not too large, the power of two
where the steps begin. -/
theorem finer_lt (den m : Nat) : bitLength (num / den) - 53 ≤ bitLength m - 53 ∨
    ∃ p, step num den ∣ p ∧ m < p ∧ p ≤ num / den := by
  rcases Nat.lt_or_ge (bitLength m - 53) (bitLength (num / den) - 53) with hfiner | hcoarse
  · obtain ⟨s, hs⟩ := Nat.exists_eq_add_of_lt (show 53 < bitLength (num / den) by omega)
    refine .inr ⟨2 ^ (53 + s), ?_, ?_, two_pow_le_of_bitLength hs⟩
    · unfold step
      exact Nat.pow_dvd_pow 2 (by omega)
    · exact Nat.lt_of_lt_of_le (lt_two_pow_bitLength m)
        (Nat.pow_le_pow_right (by decide) (by omega))
  · exact .inl hcoarse

include hden

/-- Distances are counted in steps. -/
theorem abs_steps_sub (t : Nat) :
    |((t * step num den : Nat) : ℚ) - num / den| =
      |(t : ℚ) - num / (den * step num den : Nat)| * step num den := by
  have hstep : (0 : ℚ) < step num den := Nat.cast_pos.mpr (step_pos num den)
  have hden : (0 : ℚ) < den := Nat.cast_pos.mpr hden
  have hscaled : ((t * step num den : Nat) : ℚ) - num / den =
      ((t : ℚ) - num / (den * step num den : Nat)) * step num den := by
    push_cast
    field_simp
  rw [hscaled, abs_mul, abs_of_pos hstep]

theorem abs_nearestUnits_sub_le_of_dvd (h : step num den ∣ m) :
    |(nearestUnits num den : ℚ) - num / den| ≤ |(m : ℚ) - num / den| := by
  obtain ⟨t, rfl⟩ := h
  rw [Nat.mul_comm, nearestUnits_eq, abs_steps_sub num hden, abs_steps_sub num hden]
  refine mul_le_mul_of_nonneg_right ?_ (Nat.cast_nonneg _)
  exact abs_roundHalfEven_sub_le num (Nat.mul_pos hden (step_pos num den)) t

/-- What lies below a power of two is farther from a number beyond it than the power. -/
theorem abs_nearestUnits_sub_lt {p : Nat} (hp : step num den ∣ p) (hm : m < p)
    (hle : p ≤ num / den) :
    |(nearestUnits num den : ℚ) - num / den| < |(m : ℚ) - num / den| := by
  have hpu : (p : ℚ) ≤ num / den := (Nat.cast_le.mpr hle).trans Nat.cast_div_le
  have hmp : (m : ℚ) < p := Nat.cast_lt.mpr hm
  calc |(nearestUnits num den : ℚ) - num / den|
      ≤ |(p : ℚ) - num / den| := abs_nearestUnits_sub_le_of_dvd num hden hp
    _ = num / den - p := by rw [abs_of_nonpos (by linarith), neg_sub]
    _ < num / den - m := by linarith
    _ = |(m : ℚ) - num / den| := by rw [abs_of_nonpos (by linarith), neg_sub]

/-- **No number with 53 significant digits is nearer.** -/
theorem abs_nearestUnits_sub_le (hm : IsExact m) :
    |(nearestUnits num den : ℚ) - num / den| ≤ |(m : ℚ) - num / den| := by
  rcases finer_lt num den m with hcoarse | ⟨p, hp, hlt, hle⟩
  · exact abs_nearestUnits_sub_le_of_dvd num hden (Nat.dvd_trans (Nat.pow_dvd_pow 2 hcoarse) hm)
  · exact (abs_nearestUnits_sub_lt num hden hp hlt hle).le

/-- **If another number is as near, it is the odd one of the two.** -/
theorem even_of_tie (hm : IsExact m) (hne : m ≠ nearestUnits num den)
    (htie : |(m : ℚ) - num / den| = |(nearestUnits num den : ℚ) - num / den|) :
    IsEven (nearestUnits num den) ∧ ¬IsEven m := by
  rcases finer_lt num den m with hcoarse | ⟨p, hp, hlt, hle⟩
  · obtain ⟨t, rfl⟩ : step num den ∣ m := Nat.dvd_trans (Nat.pow_dvd_pow 2 hcoarse) hm
    have hsteps : t ≠ nearestSteps num den := by
      rintro rfl
      exact hne (Nat.mul_comm _ _)
    have hstep : (0 : ℚ) < step num den := Nat.cast_pos.mpr (step_pos num den)
    rw [nearestUnits_eq, Nat.mul_comm, abs_steps_sub num hden, abs_steps_sub num hden] at htie
    obtain ⟨heven, hodd⟩ := parity_of_tie num (Nat.mul_pos hden (step_pos num den)) hsteps
      (mul_right_cancel₀ hstep.ne' htie)
    exact ⟨isEven_mul_two_pow heven (nearestSteps_le num den), not_isEven_of_odd hodd hcoarse⟩
  · exact absurd htie (abs_nearestUnits_sub_lt num hden hp hlt hle).ne'

end Magnitudes

theorem isMagnitude_two_pow_mul {b : Nat} (h : b ≤ 1023) : IsMagnitude (2 ^ b * unitsOfOne) := by
  unfold unitsOfOne
  rw [← Nat.pow_add]
  have hlength : bitLength (2 ^ (b + unitPlaces)) ≤ b + unitPlaces + 1 :=
    bitLength_le (Nat.pow_lt_pow_right (by decide) (by omega))
  refine ⟨Nat.pow_dvd_pow 2 (by omega), ?_⟩
  unfold unitsLimit unitDigits
  exact Nat.pow_lt_pow_right (by decide) (by omega)

/-- The magnitude nearest to that many units, the even one if there are two. -/
structure IsNearestUnits (m : Nat) (u : ℚ) : Prop where
  isMagnitude : IsMagnitude m
  nearest : ∀ k, IsMagnitude k → |(m : ℚ) - u| ≤ |(k : ℚ) - u|
  even : ∀ k, IsMagnitude k → k ≠ m → |(k : ℚ) - u| = |(m : ℚ) - u| → IsEven m

section Nearest

variable (num : Nat) {den : Nat} (hden : 0 < den) {m k : Nat}

include hden

theorem isNearestUnits_nearestUnits (h : nearestUnits num den < unitsLimit) :
    IsNearestUnits (nearestUnits num den) (num / den) :=
  ⟨⟨dvd_nearestUnits num den, h⟩, fun _ hk => abs_nearestUnits_sub_le num hden hk.1,
    fun _ hk hne htie => (even_of_tie num hden hk.1 hne htie).1⟩

/-- If rounding goes beyond the format, all magnitudes are below the number. -/
theorem le_of_unitsLimit_le (h : unitsLimit ≤ nearestUnits num den) (hm : IsMagnitude m) :
    (m : ℚ) ≤ num / den := by
  by_contra hbelow
  have hlt : (m : ℚ) < nearestUnits num den := by exact_mod_cast hm.2.trans_le h
  have hnearest := abs_nearestUnits_sub_le num hden hm.1
  rw [abs_of_pos (by linarith), abs_of_pos (by linarith)] at hnearest
  linarith

/-- **The nearest magnitude is unique.** -/
theorem IsNearestUnits.eq (hm : IsNearestUnits m (num / den)) (hk : IsNearestUnits k (num / den)) :
    m = k := by
  rcases Nat.lt_or_ge (nearestUnits num den) unitsLimit with hlt | hge
  · have hrounded := isNearestUnits_nearestUnits num hden hlt
    have hall {n : Nat} (hn : IsNearestUnits n (num / den)) : n = nearestUnits num den := by
      by_contra hne
      have htie := le_antisymm (hn.nearest _ hrounded.isMagnitude)
        (hrounded.nearest n hn.isMagnitude)
      have hodd := (even_of_tie num hden hn.isMagnitude.1 hne htie).2
      exact hodd (hn.even _ hrounded.isMagnitude (Ne.symm hne) htie.symm)
    rw [hall hm, hall hk]
  · -- of magnitudes below the number only one is nearest
    have htie := le_antisymm (hm.nearest k hk.isMagnitude) (hk.nearest m hm.isMagnitude)
    have hmle := le_of_unitsLimit_le num hden hge hm.isMagnitude
    have hkle := le_of_unitsLimit_le num hden hge hk.isMagnitude
    rw [abs_of_nonpos (by linarith), abs_of_nonpos (by linarith)] at htie
    have hsame : (m : ℚ) = k := by linarith
    exact_mod_cast hsame

end Nearest

/-! ## Signed numbers -/

/-- So many units of the given sign. -/
def ofSide (negative : Bool) (u : ℚ) : ℚ :=
  if negative then -u / unitsOfOne else u / unitsOfOne

theorem ofSide_true (u : ℚ) : ofSide true u = -u / unitsOfOne :=
  if_pos rfl

theorem ofSide_false (u : ℚ) : ofSide false u = u / unitsOfOne :=
  if_neg Bool.false_ne_true

theorem ofSide_zero (negative : Bool) : ofSide negative 0 = 0 := by
  cases negative
  · rw [ofSide_false, zero_div]
  · rw [ofSide_true, neg_zero, zero_div]

theorem ofSide_not (negative : Bool) (u : ℚ) : ofSide (!negative) u = ofSide negative (-u) := by
  cases negative
  · rw [Bool.not_false, ofSide_true, ofSide_false]
  · rw [Bool.not_true, ofSide_true, ofSide_false, neg_neg]

namespace Binary64

/-- No number of the format is nearer, and if another one is as near this is the even one. -/
structure IsNearest (x : Binary64) (q : ℚ) : Prop where
  nearest : ∀ y : Binary64, |x.value - q| ≤ |y.value - q|
  even : ∀ y : Binary64, y.value ≠ x.value → |y.value - q| = |x.value - q| → IsEven x.units

variable {x y : Binary64} {q u : ℚ} {negative : Bool}

theorem value_eq_ofSide (x : Binary64) : x.value = ofSide x.negative x.units := by
  unfold value signedUnits
  cases x.negative
  · rw [if_neg Bool.false_ne_true, Int.cast_natCast, ofSide_false]
  · rw [if_pos rfl, Int.cast_neg, Int.cast_natCast, ofSide_true]

theorem abs_value (x : Binary64) : |x.value| = x.units / unitsOfOne := by
  have hone := unitsOfOne_cast_pos
  have hunits : (0 : ℚ) ≤ x.units / unitsOfOne := div_nonneg (Nat.cast_nonneg _) hone.le
  rw [value_eq_ofSide]
  unfold ofSide
  split
  · rw [neg_div, abs_neg, abs_of_nonneg hunits]
  · exact abs_of_nonneg hunits

theorem ofSide_natCast_eq_value (negative : Bool) {m : Nat} (hm : IsMagnitude m) :
    (⟨negative, m, hm⟩ : Binary64).value = ofSide negative m :=
  value_eq_ofSide _

/-- The distance of numbers on the same side, in units. -/
theorem abs_ofSide_sub (negative : Bool) (a u : ℚ) :
    |ofSide negative a - ofSide negative u| = |a - u| / unitsOfOne := by
  have hone := unitsOfOne_cast_pos
  cases negative
  · rw [ofSide_false, ofSide_false, ← sub_div, abs_div, abs_of_pos hone]
  · rw [ofSide_true, ofSide_true, ← sub_div, abs_div, abs_of_pos hone, neg_sub_neg, abs_sub_comm]

/-- The distance of numbers on different sides. -/
theorem abs_value_sub_of_ne (h : x.negative ≠ negative) (hu : 0 ≤ u) :
    |x.value - ofSide negative u| = (x.units + u) / unitsOfOne := by
  have hone := unitsOfOne_cast_pos
  have hunits : (0 : ℚ) ≤ x.units := Nat.cast_nonneg _
  have hopposite : ofSide negative u = ofSide x.negative (-u) := by
    rw [Bool.eq_not.mpr h, ofSide_not, neg_neg]
  rw [value_eq_ofSide, hopposite, abs_ofSide_sub, sub_neg_eq_add, abs_of_nonneg (by linarith)]

/-- On the other side a number is no nearer. -/
theorem le_abs_value_sub (x : Binary64) (negative : Bool) (hu : 0 ≤ u) :
    |(x.units : ℚ) - u| / unitsOfOne ≤ |x.value - ofSide negative u| := by
  by_cases h : x.negative = negative
  · rw [value_eq_ofSide, h, abs_ofSide_sub]
  · have hunits : (0 : ℚ) ≤ x.units := Nat.cast_nonneg _
    rw [abs_value_sub_of_ne h hu, div_le_div_iff_of_pos_right unitsOfOne_cast_pos, abs_le]
    constructor <;> linarith

/-- A nearest number is on the side of the exact one, or zero. -/
theorem IsNearest.value_eq_ofSide (h : x.IsNearest (ofSide negative u)) (hu : 0 ≤ u) :
    x.value = ofSide negative x.units := by
  by_cases hsign : x.negative = negative
  · rw [← hsign]
    exact Binary64.value_eq_ofSide x
  · -- zero would be nearer
    have hzero := h.nearest (zero negative)
    rw [abs_value_sub_of_ne hsign hu, Binary64.value_eq_ofSide (zero negative)] at hzero
    have hdistance : |ofSide negative ((zero negative).units : ℚ) - ofSide negative u| =
        u / unitsOfOne := by
      rw [abs_ofSide_sub]
      show |((0 : Nat) : ℚ) - u| / unitsOfOne = _
      rw [Nat.cast_zero, zero_sub, abs_neg, abs_of_nonneg hu]
    rw [show (zero negative).negative = negative from rfl, hdistance,
      div_le_div_iff_of_pos_right unitsOfOne_cast_pos] at hzero
    have hnone : (x.units : ℚ) ≤ 0 := by linarith
    have hunits : x.units = 0 := Nat.cast_nonpos.mp hnone
    rw [Binary64.value_eq_ofSide, hunits, Nat.cast_zero, ofSide_zero, ofSide_zero]

/-- **The nearest number has the nearest magnitude.** -/
theorem isNearest_iff (hu : 0 ≤ u) : x.IsNearest (ofSide negative u) ↔
    x.value = ofSide negative x.units ∧ IsNearestUnits x.units u := by
  have hone := unitsOfOne_cast_pos
  constructor
  · intro h
    have hside := h.value_eq_ofSide hu
    refine ⟨hside, x.isMagnitude, fun k hk => ?_, fun k hk hne htie => ?_⟩
    · have hle := h.nearest ⟨negative, k, hk⟩
      rwa [hside, ofSide_natCast_eq_value, abs_ofSide_sub, abs_ofSide_sub,
        div_le_div_iff_of_pos_right hone] at hle
    · refine h.even ⟨negative, k, hk⟩ (fun hsame => hne (value_eq_iff.mp hsame).1) ?_
      rw [hside, ofSide_natCast_eq_value, abs_ofSide_sub, abs_ofSide_sub, htie]
  · rintro ⟨hside, hnearest⟩
    refine ⟨fun y => ?_, fun y hne htie => ?_⟩
    · rw [hside, abs_ofSide_sub]
      refine le_trans ?_ (le_abs_value_sub y negative hu)
      exact div_le_div_of_nonneg_right (hnearest.nearest y.units y.isMagnitude) hone.le
    · rw [hside, abs_ofSide_sub] at htie
      have hle := le_abs_value_sub y negative hu
      rw [htie, div_le_div_iff_of_pos_right hone] at hle
      have hsame := hle.antisymm (hnearest.nearest y.units y.isMagnitude)
      by_cases hunits : y.units = x.units
      · -- the opposite number is as near as this one only if both are zero
        have hsign : y.negative ≠ negative := by
          rintro rfl
          rw [hside, ← hunits] at hne
          exact hne (Binary64.value_eq_ofSide y)
        have hzero := hnearest.nearest 0 (zero negative).isMagnitude
        rw [abs_value_sub_of_ne hsign hu, hunits, div_left_inj' hone.ne'] at htie
        rw [Nat.cast_zero, zero_sub, abs_neg, abs_of_nonneg hu] at hzero
        have hsmall : (x.units : ℚ) ≤ 0 := by linarith
        have hnone : x.units = 0 := Nat.cast_nonpos.mp hsmall
        exact absurd (value_eq_iff.mpr ⟨hunits, .inl (hunits.trans hnone)⟩) hne
      · exact hnearest.even y.units y.isMagnitude hunits hsame

/-- Every number is so many units of its sign. -/
theorem exists_ofSide (q : ℚ) :
    ∃ (negative : Bool) (num den : Nat), 0 < den ∧ q = ofSide negative ((num : ℚ) / den) := by
  refine ⟨q < 0, q.num.natAbs * unitsOfOne, q.den, q.den_pos, ?_⟩
  have hone := unitsOfOne_cast_pos
  have hden : (0 : ℚ) < q.den := Nat.cast_pos.mpr q.den_pos
  have hmagnitude : ((q.num.natAbs * unitsOfOne : Nat) : ℚ) / q.den = |q| * unitsOfOne := by
    have habs : |q| = q.num.natAbs / q.den := by
      rw [Nat.cast_natAbs, Int.cast_abs]
      nth_rewrite 1 [← Rat.num_div_den q]
      rw [abs_div, abs_of_pos hden]
    rw [habs, Nat.cast_mul, mul_div_right_comm]
  rw [hmagnitude]
  unfold ofSide
  rw [← neg_div', mul_div_cancel_right₀ _ hone.ne']
  split
  · next h => rw [abs_of_neg (of_decide_eq_true h), neg_neg]
  · next h => rw [abs_of_nonneg (not_lt.mp fun hneg => h (decide_eq_true hneg))]

/-- **There is one nearest number.** -/
theorem IsNearest.value_eq (hx : x.IsNearest q) (hy : y.IsNearest q) : x.value = y.value := by
  obtain ⟨negative, num, den, hden, rfl⟩ := exists_ofSide q
  have hu : (0 : ℚ) ≤ (num : ℚ) / den := by positivity
  obtain ⟨hsideX, hunitsX⟩ := (isNearest_iff hu).mp hx
  obtain ⟨hsideY, hunitsY⟩ := (isNearest_iff hu).mp hy
  rw [hsideX, hsideY, hunitsX.eq num hden hunitsY]

/-- A power of two within the format. -/
def power (negative : Bool) (b : Nat) (h : b ≤ 1023) : Binary64 :=
  ⟨negative, 2 ^ b * unitsOfOne, isMagnitude_two_pow_mul h⟩

theorem value_power (negative : Bool) {b : Nat} (h : b ≤ 1023) :
    (power negative b h).value = if negative then -((2 ^ b : Nat) : ℚ) else (2 ^ b : Nat) := by
  rw [Binary64.value_eq_ofSide]
  show ofSide negative ((2 ^ b * unitsOfOne : Nat) : ℚ) = _
  unfold ofSide
  rw [Nat.cast_mul, ← neg_mul, mul_div_cancel_right₀ _ unitsOfOne_cast_pos.ne',
    mul_div_cancel_right₀ _ unitsOfOne_cast_pos.ne']

/-- The nearest number is not below a power of two that the exact one reaches. -/
theorem IsNearest.two_pow_le {b : Nat} (h : x.IsNearest q) (hb : b ≤ 1023)
    (hq : ((2 ^ b : Nat) : ℚ) ≤ |q|) : ((2 ^ b : Nat) : ℚ) ≤ |x.value| := by
  have hnearest := h.nearest (power (q < 0) b hb)
  rw [value_power] at hnearest
  rcases lt_or_ge q 0 with hneg | hpos
  · rw [abs_of_neg hneg] at hq
    rw [decide_eq_true hneg, if_pos rfl, abs_of_nonneg (show 0 ≤ -((2 ^ b : Nat) : ℚ) - q by
      linarith)] at hnearest
    have hle := (abs_le.mp hnearest).2
    exact le_abs.mpr (.inr (by linarith))
  · rw [abs_of_nonneg hpos] at hq
    rw [decide_eq_false (not_lt.mpr hpos), if_neg Bool.false_ne_true,
      abs_of_nonpos (show ((2 ^ b : Nat) : ℚ) - q ≤ 0 by linarith)] at hnearest
    have hge := (abs_le.mp hnearest).1
    exact le_abs.mpr (.inl (by linarith))

end Binary64

/-! ## Rounding to the format -/

section Rounding

variable {negative side : Bool} {num den : Nat} {x : Binary64} (hden : 0 < den)

include hden

/-- **Rounding gives the nearest number.** -/
theorem isNearest_of_ofUnits (h : Double.ofUnits negative num den = .finite x) :
    x.IsNearest (ofSide negative ((num : ℚ) / den)) := by
  have hu : (0 : ℚ) ≤ (num : ℚ) / den := by positivity
  unfold Double.ofUnits at h
  split at h
  · next hlt =>
    rw [Double.finite.injEq] at h
    rw [← h, Binary64.isNearest_iff hu]
    exact ⟨Binary64.value_eq_ofSide _, isNearestUnits_nearestUnits num hden hlt⟩
  · exact nomatch h

/-- It goes beyond the format only from large numbers. -/
theorem le_of_ofUnits_infinite (h : Double.ofUnits negative num den = .infinite side) :
    ((2 ^ 1023 : Nat) : ℚ) ≤ |ofSide negative ((num : ℚ) / den)| := by
  have hu : (0 : ℚ) ≤ (num : ℚ) / den := by positivity
  have hone := Binary64.unitsOfOne_cast_pos
  have habs : |ofSide negative ((num : ℚ) / den)| = (num : ℚ) / den / unitsOfOne := by
    unfold ofSide
    split
    · rw [abs_div, abs_neg, abs_of_pos hone, abs_of_nonneg hu]
    · rw [abs_of_nonneg (div_nonneg hu hone.le)]
  unfold Double.ofUnits at h
  split at h
  · exact nomatch h
  · next hge =>
    have hlarge := le_of_unitsLimit_le num hden (not_lt.mp hge)
      (isMagnitude_two_pow_mul (le_refl 1023))
    rw [Nat.cast_mul] at hlarge
    rwa [habs, le_div_iff₀ hone]

end Rounding

end Proforma.Number
