import Proforma.Amount.Basic

/-!
# Amounts in cents

Arithmetic keeps as many decimals as the coefficient has room for (`fit?_spec`). Where two
decimals fit, no more than the rounding to cents is lost: sums of cents are exact
(`add?_of_whole`), and a product that fits in cents is an amount whose cents fit
(`exists_mul?`, `InRange.cents`).
-/

namespace Proforma

open Number

namespace Amount

/-- Whether a coefficient is small enough for an amount. -/
def InRange (n : Int) : Prop :=
  n.natAbs < coefficientLimit

instance (n : Int) : Decidable (InRange n) := by
  unfold InRange
  infer_instance

/-! ## Rounding to a number of decimals -/

@[simp] theorem rescaled_self (n : Int) (scale : Nat) : rescaled n scale scale = n := by
  simp [rescaled]

theorem rescaled_of_le {scale target : Nat} (n : Int) (h : scale ≤ target) :
    rescaled n scale target = n * 10 ^ (target - scale) :=
  if_pos h

theorem rescaled_of_lt {scale target : Nat} (n : Int) (h : target < scale) :
    rescaled n scale target =
      n.sign * (roundHalfEven n.natAbs (10 ^ (scale - target)) : Nat) :=
  if_neg (Nat.not_le_of_lt h)

theorem rescaled_neg (n : Int) (scale target : Nat) :
    rescaled (-n) scale target = -rescaled n scale target := by
  unfold rescaled
  split
  · exact Int.neg_mul n _
  · rw [Int.sign_neg, Int.natAbs_neg, Int.neg_mul]

/-- Giving up decimals leaves at most a tenth, but for the rounding. -/
theorem natAbs_rescaled_le {scale target : Nat} (n : Int) (h : target < scale) :
    (rescaled n scale target).natAbs ≤ n.natAbs / 10 + 1 := by
  have hpower : 10 ≤ 10 ^ (scale - target) := by
    calc 10 = 10 ^ 1 := rfl
      _ ≤ 10 ^ (scale - target) := Nat.pow_le_pow_right (by decide) (by omega)
  have hsign : n.sign.natAbs ≤ 1 := by
    rw [Int.natAbs_sign]
    split <;> decide
  rw [rescaled_of_lt n h, Int.natAbs_mul, Int.natAbs_natCast]
  calc n.sign.natAbs * roundHalfEven n.natAbs (10 ^ (scale - target))
      ≤ 1 * roundHalfEven n.natAbs (10 ^ (scale - target)) := Nat.mul_le_mul_right _ hsign
    _ = roundHalfEven n.natAbs (10 ^ (scale - target)) := Nat.one_mul _
    _ ≤ n.natAbs / 10 ^ (scale - target) + 1 := roundHalfEven_le _ _
    _ ≤ n.natAbs / 10 + 1 := Nat.add_le_add_right (Nat.div_le_div_left hpower (by decide)) 1

/-- Giving up decimals never makes a coefficient too large. -/
theorem InRange.rescaled {n : Int} {scale target : Nat} (h : InRange n) (hle : target ≤ scale) :
    InRange (Amount.rescaled n scale target) := by
  rcases Nat.lt_or_eq_of_le hle with hlt | rfl
  · have htenth := natAbs_rescaled_le n hlt
    have hlarge : 100 ≤ coefficientLimit := by decide
    unfold InRange at h ⊢
    omega
  · rwa [rescaled_self]

/-! ## As many decimals as fit -/

theorem make?_of_inRange {n : Int} {scale : Nat} (hn : InRange n) (hscale : scale ≤ maxScale) :
    make? n scale = some ⟨n, scale, hn, hscale⟩ :=
  dif_pos ⟨hn, hscale⟩

theorem eq_of_make? {n : Int} {scale : Nat} {a : Amount} (h : make? n scale = some a) :
    a.coefficient = n ∧ a.scale = scale := by
  unfold make? at h
  split at h
  · cases h
    exact ⟨rfl, rfl⟩
  · cases h

theorem make?_eq_none {n : Int} {scale : Nat} (hscale : scale ≤ maxScale)
    (h : make? n scale = none) : ¬ InRange n := by
  intro hn
  rw [make?_of_inRange hn hscale] at h
  cases h

/-- What is found is rounded to its number of decimals, and with more decimals it does not fit. -/
theorem fit?_spec {n : Int} {scale target : Nat} {p : Amount} (htarget : target ≤ maxScale)
    (h : fit? n scale target = some p) :
    p.coefficient = rescaled n scale p.scale ∧ p.scale ≤ target ∧
      ∀ more, p.scale < more → more ≤ target → ¬ InRange (rescaled n scale more) := by
  induction target with
  | zero =>
    obtain ⟨hcoefficient, hscale⟩ := eq_of_make? h
    rw [hscale]
    exact ⟨hcoefficient, Nat.le_refl 0, fun more hlow hhigh => by omega⟩
  | succ target ih =>
    rw [fit?] at h
    cases hmake : make? (rescaled n scale (target + 1)) (target + 1) with
    | some q =>
      rw [hmake] at h
      cases h
      obtain ⟨hcoefficient, hscale⟩ := eq_of_make? hmake
      rw [hscale]
      exact ⟨hcoefficient, Nat.le_refl _, fun more hlow hhigh => by omega⟩
    | none =>
      rw [hmake] at h
      obtain ⟨hcoefficient, hscale, hlost⟩ := ih (by omega) h
      refine ⟨hcoefficient, by omega, fun more hlow hhigh => ?_⟩
      rcases Nat.lt_or_eq_of_le hhigh with hless | rfl
      · exact hlost more hlow (by omega)
      · exact make?_eq_none htarget hmake

/-- If it fits with some number of decimals, it is found with that many or more. -/
theorem exists_fit? {n : Int} {scale target places : Nat} (htarget : target ≤ maxScale)
    (hplaces : places ≤ target) (hfits : InRange (rescaled n scale places)) :
    ∃ p, fit? n scale target = some p ∧ places ≤ p.scale := by
  induction target with
  | zero =>
    obtain rfl : places = 0 := by omega
    exact ⟨_, make?_of_inRange hfits htarget, Nat.le_refl 0⟩
  | succ target ih =>
    rw [fit?]
    cases hmake : make? (rescaled n scale (target + 1)) (target + 1) with
    | some q => exact ⟨q, rfl, (eq_of_make? hmake).2 ▸ hplaces⟩
    | none =>
      rcases Nat.lt_or_eq_of_le hplaces with hless | rfl
      · exact ih (by omega) (by omega)
      · exact absurd hfits (make?_eq_none htarget hmake)

/-- If all decimals fit, all are kept. -/
theorem fit?_of_inRange {n : Int} {scale target : Nat} (htarget : target ≤ maxScale)
    (hfits : InRange (rescaled n scale target)) :
    fit? n scale target = make? (rescaled n scale target) target := by
  cases target with
  | zero => rfl
  | succ target =>
    rw [fit?, make?_of_inRange hfits htarget]
    rfl

/-! ## Cents -/

/-- The amount rounded to cents, as a number of cents. -/
def cents (a : Amount) : Int :=
  rescaled a.coefficient a.scale 2

/-- The amount of that many cents, written with two decimals. -/
def ofCents (n : Int) : Amount :=
  (make? n 2).getD zero

variable {n : Int}

theorem make?_two (hn : InRange n) : make? n 2 = some (ofCents n) := by
  unfold ofCents
  rw [make?_of_inRange hn (by decide)]
  rfl

theorem ofCents_coefficient (hn : InRange n) : (ofCents n).coefficient = n :=
  (eq_of_make? (make?_two hn)).1

theorem ofCents_scale (hn : InRange n) : (ofCents n).scale = 2 :=
  (eq_of_make? (make?_two hn)).2

@[simp] theorem cents_zero : zero.cents = 0 := rfl

theorem cents_ofCents (hn : InRange n) : (ofCents n).cents = n := by
  unfold cents
  rw [ofCents_scale hn, ofCents_coefficient hn, rescaled_self]

/-- An amount with two decimals is so many cents. -/
theorem eq_ofCents {a : Amount} (h : a.scale = 2) : a = ofCents a.coefficient := by
  have hmake : make? a.coefficient 2 = some a := by
    rw [← h]
    exact dif_pos ⟨a.coefficient_lt, a.scale_le⟩
  rw [make?_two a.coefficient_lt, Option.some.injEq] at hmake
  exact hmake.symm

theorem toCents_eq_ofCents {a : Amount} (h : InRange a.cents) : a.toCents = ofCents a.cents := by
  unfold toCents
  rw [fit?_of_inRange (by decide) h]
  show (make? a.cents 2).getD a = ofCents a.cents
  rw [make?_two h]
  rfl

/-! ## Sums -/

/-- Amounts of whole cents are added exactly as long as the sum fits. -/
theorem add?_of_whole {a b : Amount} (hscale : max a.scale b.scale = 2)
    (hsum : InRange (a.cents + b.cents)) :
    a.add? b = some (ofCents (a.cents + b.cents)) := by
  unfold add?
  simp only [hscale]
  show fit? (a.cents + b.cents) 2 2 = some (ofCents (a.cents + b.cents))
  rw [fit?_of_inRange (by decide) (by rwa [rescaled_self]), rescaled_self, make?_two hsum]

theorem cents_neg (a : Amount) : a.neg.cents = -a.cents :=
  rescaled_neg a.coefficient a.scale 2

/-- Amounts of whole cents are subtracted exactly as long as the difference fits. -/
theorem sub?_of_whole {a b : Amount} (hscale : max a.scale b.scale = 2)
    (hdifference : InRange (a.cents - b.cents)) :
    a.sub? b = some (ofCents (a.cents - b.cents)) := by
  rw [Int.sub_eq_add_neg, ← cents_neg] at hdifference ⊢
  exact add?_of_whole (b := b.neg) hscale hdifference

/-! ## Products -/

/-- The exact product of two amounts, rounded to cents. -/
def productCents (a b : Amount) : Int :=
  rescaled (a.coefficient * b.coefficient) (a.scale + b.scale) 2

/-- A product that fits in cents does not overflow. It has two decimals at least if it needs
them, and all it needs if they are fewer. -/
theorem exists_mul? {a b : Amount} (h : InRange (productCents a b)) :
    ∃ p, a.mul? b = some p ∧ min 2 (a.scale + b.scale) ≤ p.scale := by
  have hscale : min (a.scale + b.scale) maxScale ≤ maxScale := Nat.min_le_right _ _
  have hdecimals : 2 ≤ maxScale := by decide
  unfold mul?
  rcases Nat.lt_or_ge (a.scale + b.scale) 2 with hfew | hmany
  · have hexact : InRange (rescaled (a.coefficient * b.coefficient) (a.scale + b.scale)
        (a.scale + b.scale)) := by
      unfold productCents at h
      rw [rescaled_of_le _ (by omega)] at h
      rw [rescaled_self]
      unfold InRange at h ⊢
      rw [Int.natAbs_mul] at h
      have hpower : 1 ≤ ((10 : Int) ^ (2 - (a.scale + b.scale))).natAbs := by
        rw [Int.natAbs_pow]
        exact Nat.pow_pos (by decide)
      exact Nat.lt_of_le_of_lt (Nat.le_mul_of_pos_right _ hpower) h
    obtain ⟨p, hp, hplaces⟩ := exists_fit? hscale (by omega) hexact
    exact ⟨p, hp, by omega⟩
  · have hcents : InRange (rescaled (a.coefficient * b.coefficient) (a.scale + b.scale) 2) := h
    obtain ⟨p, hp, hplaces⟩ := exists_fit? hscale (by omega) hcents
    exact ⟨p, hp, by omega⟩

theorem mul?_spec {a b p : Amount} (h : a.mul? b = some p) :
    p.coefficient = rescaled (a.coefficient * b.coefficient) (a.scale + b.scale) p.scale ∧
      p.scale ≤ a.scale + b.scale := by
  obtain ⟨hcoefficient, hscale, -⟩ := fit?_spec (Nat.min_le_right _ _) h
  exact ⟨hcoefficient, Nat.le_trans hscale (Nat.min_le_left _ _)⟩

/-- The cents of a product fit if those of the exact product do. The product may have been
rounded before, but only one that is far from the limit has decimals left to be rounded away. -/
theorem InRange.cents {a b p : Amount} (h : InRange (productCents a b)) (hp : a.mul? b = some p) :
    InRange p.cents := by
  obtain ⟨hcoefficient, hscale⟩ := mul?_spec hp
  obtain ⟨q, hq, hplaces⟩ := exists_mul? h
  obtain rfl : q = p := Option.some.inj (hq.symm.trans hp)
  rcases Nat.lt_trichotomy q.scale 2 with hfew | htwo | hmany
  · have hall : q.scale = a.scale + b.scale := by omega
    unfold Amount.cents
    rw [hcoefficient, hall, rescaled_self]
    exact h
  · unfold Amount.cents
    rw [htwo, rescaled_self]
    exact q.coefficient_lt
  · exact InRange.rescaled q.coefficient_lt (Nat.le_of_lt hmany)

end Amount

end Proforma
