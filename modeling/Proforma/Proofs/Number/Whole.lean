import Proforma.Number.Binary64

/-!
# Whole numbers in binary floating point

A whole number is held exactly when 53 of its binary digits are significant, as they are up to
`2 ^ 53` (`isExact_of_le`). Any other is rounded (`wholeUnits_eq_iff`), but to a whole number again,
because the last digit that is kept counts ones or more (`unitsOfOne_dvd_wholeUnits`). So the
floating point number of an integer is a 64-bit integer unless it has been rounded up to `2 ^ 63`,
and it is that very integer exactly when nothing was rounded (`whole?_nearestTo_iff`).
-/

namespace Proforma.Number

/-! ## Binary digits -/

theorem bitLength_eq {n k : Nat} (hlo : 2 ^ k ≤ n) (hhi : n < 2 ^ (k + 1)) :
    bitLength n = k + 1 := by
  have hn : n ≠ 0 := by
    have := Nat.two_pow_pos k
    omega
  rw [bitLength, if_neg hn, (Nat.log2_eq_iff hn).mpr ⟨hlo, hhi⟩]

theorem two_pow_le_of_bitLength {n k : Nat} (h : bitLength n = k + 1) : 2 ^ k ≤ n := by
  unfold bitLength at h
  split at h
  · cases h
  · next hn =>
    cases h
    exact Nat.log2_self_le hn

theorem exists_bitLength {n : Nat} (h : n ≠ 0) : ∃ k, bitLength n = k + 1 :=
  ⟨n.log2, by rw [bitLength, if_neg h]⟩

/-- A shift to the left lengthens a number by as many digits. -/
theorem bitLength_mul_unitsOfOne {n : Nat} (h : n ≠ 0) :
    bitLength (n * unitsOfOne) = bitLength n + unitPlaces := by
  obtain ⟨k, hk⟩ := exists_bitLength h
  have hlo : 2 ^ (k + unitPlaces) ≤ n * unitsOfOne := by
    rw [Nat.pow_add]
    exact Nat.mul_le_mul_right _ (two_pow_le_of_bitLength hk)
  have hhi : n * unitsOfOne < 2 ^ (k + unitPlaces + 1) := by
    rw [Nat.add_right_comm, Nat.pow_add, ← hk]
    exact Nat.mul_lt_mul_of_pos_right (lt_two_pow_bitLength n) unitsOfOne_pos
  rw [bitLength_eq hlo hhi, hk, Nat.add_right_comm]

/-! ## Rounding a whole number -/

/-- The whole numbers of which 53 binary digits are significant. -/
def IsExact (n : Nat) : Prop :=
  2 ^ (bitLength n - 53) ∣ n

instance (n : Nat) : Decidable (IsExact n) :=
  inferInstanceAs (Decidable (_ ∣ _))

/-- The units of the number nearest to a whole number. -/
def wholeUnits (n : Nat) : Nat :=
  nearestUnits (n * unitsOfOne) 1

theorem isExact_of_le {n : Nat} (h : n ≤ 2 ^ 53) : IsExact n := by
  rcases Nat.lt_or_eq_of_le h with hlt | rfl
  · have hlength : bitLength n - 53 = 0 := Nat.sub_eq_zero_of_le (bitLength_le hlt)
    rw [IsExact, hlength]
    exact Nat.one_dvd n
  · decide

@[simp] theorem wholeUnits_zero : wholeUnits 0 = 0 := by
  unfold wholeUnits nearestUnits
  simp [roundHalfEven]

/-- How far the last of 53 digits stands from the unit. -/
def spare (n : Nat) : Nat :=
  bitLength n + unitPlaces - 53

theorem wholeUnits_eq {n : Nat} (h : n ≠ 0) :
    wholeUnits n = roundHalfEven (n * unitsOfOne) (2 ^ spare n) * 2 ^ spare n := by
  unfold wholeUnits nearestUnits
  simp only [Nat.div_one, Nat.one_mul, bitLength_mul_unitsOfOne h]
  rfl

theorem two_pow_spare_dvd_iff (n : Nat) : 2 ^ spare n ∣ n * unitsOfOne ↔ IsExact n := by
  unfold spare IsExact unitsOfOne
  rcases Nat.le_total (bitLength n) 53 with hshort | hlong
  · -- all digits of a short number are kept, whatever they are
    have hspare : bitLength n + unitPlaces - 53 ≤ unitPlaces := by omega
    rw [Nat.sub_eq_zero_of_le hshort]
    exact ⟨fun _ => Nat.one_dvd n,
      fun _ => Nat.dvd_trans (Nat.pow_dvd_pow 2 hspare) (Nat.dvd_mul_left _ n)⟩
  · have hspare : bitLength n + unitPlaces - 53 = bitLength n - 53 + unitPlaces := by omega
    rw [hspare, Nat.pow_add]
    exact Nat.mul_dvd_mul_iff_right (Nat.two_pow_pos unitPlaces)

/-- **A whole number is its own rounding exactly when 53 digits of it are significant.** -/
theorem wholeUnits_eq_iff (n : Nat) : wholeUnits n = n * unitsOfOne ↔ IsExact n := by
  rcases Nat.eq_zero_or_pos n with rfl | hpos
  · simp [isExact_of_le (Nat.zero_le _)]
  rw [wholeUnits_eq (by omega), ← two_pow_spare_dvd_iff]
  constructor
  · intro h
    rw [← h]
    exact Nat.dvd_mul_left _ _
  · rintro ⟨k, hk⟩
    rw [hk, Nat.mul_comm _ k, roundHalfEven_mul_right k _ (Nat.two_pow_pos _)]

/-- What a whole number is rounded to is whole. -/
theorem unitsOfOne_dvd_wholeUnits (n : Nat) : unitsOfOne ∣ wholeUnits n := by
  rcases Nat.lt_or_ge (bitLength n) 53 with hshort | hlong
  · have hexact : IsExact n := by
      rw [IsExact, Nat.sub_eq_zero_of_le (Nat.le_of_lt hshort)]
      exact Nat.one_dvd n
    rw [(wholeUnits_eq_iff n).mpr hexact]
    exact Nat.dvd_mul_left _ n
  · have hn : n ≠ 0 := by
      rintro rfl
      exact absurd hlong (by decide)
    have hspare : unitPlaces ≤ spare n := by
      unfold spare
      omega
    rw [wholeUnits_eq hn]
    exact Nat.dvd_trans (Nat.pow_dvd_pow 2 hspare) (Nat.dvd_mul_left _ _)

/-- Rounding does not take a number below the power of two under it. -/
theorem two_pow_mul_le_wholeUnits {n k : Nat} (h : 2 ^ k ≤ n) :
    2 ^ k * unitsOfOne ≤ wholeUnits n := by
  have hn : n ≠ 0 := by
    have := Nat.two_pow_pos k
    omega
  obtain ⟨m, hm⟩ := exists_bitLength hn
  have hkm : k ≤ m := by
    have hlt : 2 ^ k < 2 ^ (m + 1) := by
      rw [← hm]
      exact Nat.lt_of_le_of_lt h (lt_two_pow_bitLength n)
    have := (Nat.pow_lt_pow_iff_right (by decide)).mp hlt
    omega
  have hspare : spare n ≤ m + unitPlaces := by
    unfold spare
    omega
  obtain ⟨d, hd⟩ := Nat.exists_eq_add_of_le hspare
  rw [wholeUnits_eq hn]
  calc 2 ^ k * unitsOfOne
      ≤ 2 ^ m * unitsOfOne :=
        Nat.mul_le_mul_right _ (Nat.pow_le_pow_right (by decide) hkm)
    _ = 2 ^ d * 2 ^ spare n := by
        rw [unitsOfOne, ← Nat.pow_add, hd, ← Nat.pow_add, Nat.add_comm d]
    _ ≤ roundHalfEven (n * unitsOfOne) (2 ^ spare n) * 2 ^ spare n := by
        refine Nat.mul_le_mul_right _ (Nat.le_trans ?_ (div_le_roundHalfEven _ _))
        rw [Nat.le_div_iff_mul_le (Nat.two_pow_pos _), ← Nat.pow_add, Nat.add_comm d, ← hd,
          Nat.pow_add]
        exact Nat.mul_le_mul_right _ (two_pow_le_of_bitLength hm)

/-- Rounding takes a number to its double at the most. -/
theorem wholeUnits_le (n : Nat) : wholeUnits n ≤ 2 * n * unitsOfOne := by
  rcases Nat.eq_zero_or_pos n with rfl | hpos
  · simp
  have hn : n ≠ 0 := by omega
  obtain ⟨m, hm⟩ := exists_bitLength hn
  have hspare : 2 ^ spare n ≤ n * unitsOfOne := by
    have hle : spare n ≤ m + unitPlaces := by
      unfold spare
      omega
    refine Nat.le_trans (Nat.pow_le_pow_right (by decide) hle) ?_
    rw [Nat.pow_add]
    exact Nat.mul_le_mul_right _ (two_pow_le_of_bitLength hm)
  have hround := Nat.mul_le_mul_right (2 ^ spare n)
    (roundHalfEven_le (n * unitsOfOne) (2 ^ spare n))
  have hfloor := Nat.div_mul_le_self (n * unitsOfOne) (2 ^ spare n)
  rw [wholeUnits_eq hn]
  rw [Nat.add_mul, Nat.one_mul] at hround
  rw [Nat.mul_assoc]
  omega

theorem isMagnitude_wholeUnits {n : Nat} (h : n < 2 ^ 64) : IsMagnitude (wholeUnits n) := by
  refine ⟨dvd_nearestUnits _ 1, Nat.lt_of_le_of_lt (wholeUnits_le n) ?_⟩
  have hdouble : 2 * n < 2 ^ 65 := by omega
  have hlimit : 2 ^ 65 * unitsOfOne ≤ unitsLimit := by
    rw [unitsOfOne, ← Nat.pow_add]
    exact Nat.pow_le_pow_right (by decide) (by decide)
  refine Nat.lt_of_lt_of_le ?_ hlimit
  exact Nat.mul_lt_mul_of_pos_right hdouble unitsOfOne_pos

/-! ## The floating point number of an integer -/

/-- The number nearest to an integer of 64 bits. -/
def nearestTo (n : Int) (h : n.natAbs < 2 ^ 64) : Binary64 :=
  ⟨n < 0, wholeUnits n.natAbs, isMagnitude_wholeUnits h⟩

theorem ofInt_eq {n : Int} (h : n.natAbs < 2 ^ 64) :
    Double.ofInt n = .finite (nearestTo n h) := by
  unfold Double.ofInt Double.ofRatio Double.ofUnits
  exact dif_pos (isMagnitude_wholeUnits h).2

namespace Binary64

variable {x : Binary64} {id : Int64}

theorem isWhole_iff : x.isWhole = true ↔ unitsOfOne ∣ x.units := by
  rw [isWhole, beq_iff_eq]
  exact Nat.dvd_iff_mod_eq_zero.symm

theorem natAbs_truncate (x : Binary64) : x.truncate.natAbs = x.units / unitsOfOne := by
  unfold truncate
  split
  · exact Int.natAbs_neg _
  · rfl

/-- The 64-bit integer of a number: the number is whole, not too large, and that integer. -/
theorem whole?_eq_some_iff : x.whole? = some id ↔
    unitsOfOne ∣ x.units ∧ x.units < 2 ^ 63 * unitsOfOne ∧ x.truncate = id.toInt := by
  have hread (hsmall : x.units < 2 ^ 63 * unitsOfOne) :
      (Int64.ofInt x.truncate).toInt = x.truncate := by
    have habs := natAbs_truncate x
    have hdiv := Nat.div_lt_of_lt_mul (Nat.mul_comm _ _ ▸ hsmall)
    exact Int64.toInt_ofInt_of_le (by omega) (by omega)
  unfold whole?
  by_cases h : x.isWhole = true ∧ x.units < 2 ^ 63 * unitsOfOne
  · obtain ⟨hwhole, hsmall⟩ := h
    rw [if_pos (by rw [hwhole, decide_eq_true hsmall]; rfl), Option.some.injEq,
      ← Int64.toInt_inj, hread hsmall]
    exact ⟨fun heq => ⟨isWhole_iff.mp hwhole, hsmall, heq⟩, fun ⟨_, _, heq⟩ => heq⟩
  · rw [if_neg (by simpa using h)]
    constructor
    · nofun
    · rintro ⟨hwhole, hsmall, -⟩
      exact absurd ⟨isWhole_iff.mpr hwhole, hsmall⟩ h

end Binary64

/-- **An integer goes through floating point unchanged exactly when 53 digits of it are
significant**, unless it is `-2 ^ 63`, which is held but taken for too large. -/
theorem whole?_nearestTo_iff {id : Int64} (h : id.toInt.natAbs < 2 ^ 64) :
    (nearestTo id.toInt h).whole? = some id ↔ IsExact id.toInt.natAbs ∧ id.toInt ≠ -2 ^ 63 := by
  have hlo := id.le_toInt
  have hhi := id.toInt_lt
  rw [Binary64.whole?_eq_some_iff, ← wholeUnits_eq_iff]
  show unitsOfOne ∣ wholeUnits id.toInt.natAbs ∧ wholeUnits id.toInt.natAbs < _ ∧ _ ↔ _
  constructor
  · rintro ⟨hwhole, hsmall, htruncate⟩
    have habs := Binary64.natAbs_truncate (nearestTo id.toInt h)
    rw [htruncate] at habs
    have hunits : wholeUnits id.toInt.natAbs = id.toInt.natAbs * unitsOfOne :=
      (Nat.div_mul_cancel hwhole).symm.trans (congrArg (· * unitsOfOne) habs.symm)
    refine ⟨hunits, fun hmin => ?_⟩
    rw [hunits, Nat.mul_lt_mul_right unitsOfOne_pos, hmin] at hsmall
    exact absurd hsmall (by decide)
  · rintro ⟨hunits, hmin⟩
    have htruncate : (nearestTo id.toInt h).truncate = id.toInt := by
      unfold Binary64.truncate nearestTo
      simp only [hunits, Nat.mul_div_cancel _ unitsOfOne_pos, decide_eq_true_eq]
      clear hunits
      split <;> omega
    have hbound : id.toInt.natAbs < 2 ^ 63 := by
      clear hunits htruncate
      omega
    rw [hunits, Nat.mul_lt_mul_right unitsOfOne_pos]
    exact ⟨Nat.dvd_mul_left _ _, hbound, htruncate⟩

end Proforma.Number
