import Mathlib.Algebra.Order.Field.Power
import Mathlib.Data.List.TakeWhile
import Proforma.Proofs.Number.Decimal
import Proforma.Proofs.Number.Nearest

/-!
# Decimal literals

What a decimal literal looks like and the number that it denotes (`DecimalLiteral`). The literals of
this grammar are those that are read (`decimalLiteral?_iff`), and each is read as the number of the
format that is nearest to what it denotes (`isNearest_of_toDouble`), however long it is and however
large its power of ten: the short cuts for powers beyond the format change nothing.
-/

namespace Proforma.Number

/-! ## Literals -/

/-- The number that a literal denotes. -/
def Literal.value (l : Literal) : ℚ :=
  (if l.negative then -1 else 1) * (l.digits * (10 : ℚ) ^ l.exponent)

/-- The power of ten behind the digits, zero if there is none. -/
inductive TenPower : List Char → ℤ → Prop where
  | none : TenPower [] 0
  | marked {mark : Char} {ps : List Char} {p : ℤ} : mark = 'e' ∨ mark = 'E' →
      IntegerLiteral ps p → TenPower (mark :: ps) p

/-- The literals without a sign: digits, with or without a point, and a power of ten. -/
inductive UnsignedLiteral : List Char → ℚ → Prop where
  | whole {ds ts : List Char} {p : ℤ} : ds ≠ [] → (∀ c ∈ ds, c.isDigit = true) → TenPower ts p →
      UnsignedLiteral (ds ++ ts) (ofDigits ds * (10 : ℚ) ^ p)
  | pointed {ds fs ts : List Char} {p : ℤ} : ds ++ fs ≠ [] → (∀ c ∈ ds ++ fs, c.isDigit = true) →
      TenPower ts p →
      UnsignedLiteral (ds ++ '.' :: (fs ++ ts)) (ofDigits (ds ++ fs) * (10 : ℚ) ^ (p - fs.length))

/-- The decimal literals, with the numbers that they denote. -/
inductive DecimalLiteral : List Char → ℚ → Prop where
  | plain {cs : List Char} {q : ℚ} : UnsignedLiteral cs q → DecimalLiteral cs q
  | plus {cs : List Char} {q : ℚ} : UnsignedLiteral cs q → DecimalLiteral ('+' :: cs) q
  | minus {cs : List Char} {q : ℚ} : UnsignedLiteral cs q → DecimalLiteral ('-' :: cs) (-q)

/-! ## The literals that are read -/

theorem powerOfTen?_iff {ts : List Char} {p : ℤ} : powerOfTen? ts = some p ↔ TenPower ts p := by
  cases ts with
  | nil =>
    constructor
    · intro h
      cases h
      exact .none
    · rintro ⟨⟩
      rfl
  | cons mark ps =>
    rw [powerOfTen?, Option.ite_none_right_eq_some, integerLiteral?_iff]
    constructor
    · rintro ⟨hmark, hps⟩
      exact .marked hmark hps
    · rintro ⟨⟩
      exact ⟨‹_›, ‹_›⟩

/-- A digit is neither a point nor a mark of a power. -/
theorem not_isDigit_of_tenPower {ts : List Char} {p : ℤ} (h : TenPower ts p) :
    ∀ c ∈ ts.head?, c.isDigit = false ∧ c ≠ '.' := by
  cases h with
  | none => nofun
  | marked hmark _ =>
    rintro c ⟨⟩
    rcases hmark with rfl | rfl <;> decide

/-- Digits end where something else begins. -/
theorem takeWhile_isDigit {ds rest : List Char} (hds : ∀ c ∈ ds, c.isDigit = true)
    (hrest : ∀ c ∈ rest.head?, c.isDigit = false) :
    (ds ++ rest).takeWhile Char.isDigit = ds ∧ (ds ++ rest).dropWhile Char.isDigit = rest := by
  rw [List.takeWhile_append_of_pos hds, List.dropWhile_append_of_pos hds]
  cases rest with
  | nil => simp
  | cons c more =>
    have hc := hrest c rfl
    simp [hc]

variable {cs us : List Char} {negative : Bool} {q : ℚ}

/-- What is read behind the sign is a literal without one. -/
theorem unsignedLiteral_of_read {l : Literal} (hsplit : splitSign cs = (negative, us))
    (h : decimalLiteral? cs = some l) :
    l.negative = negative ∧ UnsignedLiteral us (l.digits * (10 : ℚ) ^ l.exponent) := by
  have hdigits (ds : List Char) : ∀ c ∈ ds.takeWhile Char.isDigit, c.isDigit = true :=
    fun c hc => List.mem_takeWhile_imp hc
  unfold decimalLiteral? at h
  simp only [hsplit] at h
  have hall : us.takeWhile Char.isDigit ++ us.dropWhile Char.isDigit = us :=
    List.takeWhile_append_dropWhile
  rw [← hall]
  split at h
  · next rest hpoint =>
    have hrest : rest.takeWhile Char.isDigit ++ rest.dropWhile Char.isDigit = rest :=
      List.takeWhile_append_dropWhile
    rw [hpoint, ← hrest]
    dsimp only at h
    rw [Option.ite_none_left_eq_some] at h
    obtain ⟨hne, hpower⟩ := h
    obtain ⟨p, hp, rfl⟩ := Option.map_eq_some_iff.mp hpower
    refine ⟨rfl, .pointed ?_ ?_ (powerOfTen?_iff.mp hp)⟩
    · simpa using hne
    · exact List.forall_mem_append.mpr ⟨hdigits us, hdigits rest⟩
  · dsimp only at h
    rw [Option.ite_none_left_eq_some, List.append_nil, List.length_nil] at h
    obtain ⟨hne, hpower⟩ := h
    obtain ⟨p, hp, rfl⟩ := Option.map_eq_some_iff.mp hpower
    rw [Nat.cast_zero, sub_zero]
    refine ⟨rfl, .whole ?_ (hdigits us) (powerOfTen?_iff.mp hp)⟩
    simpa using hne

/-- A literal without a sign is read with the sign in front. -/
theorem read_of_unsignedLiteral (hsplit : splitSign cs = (negative, us))
    (h : UnsignedLiteral us q) :
    ∃ l, decimalLiteral? cs = some l ∧ l.negative = negative ∧
      l.digits * (10 : ℚ) ^ l.exponent = q := by
  unfold decimalLiteral?
  simp only [hsplit]
  cases h with
  | @whole ds ts p hne hds hts =>
    -- behind the digits is nothing or a mark, so no digit is left and no point follows
    obtain ⟨htake, hdrop⟩ := takeWhile_isDigit hds fun c hc => (not_isDigit_of_tenPower hts c hc).1
    refine ⟨⟨negative, ofDigits ds, p⟩, ?_, rfl, rfl⟩
    rw [htake, hdrop]
    split
    · next hpoint => exact absurd rfl (not_isDigit_of_tenPower hts '.' rfl).2
    · simp [hne, powerOfTen?_iff.mpr hts]
  | @pointed ds fs ts p hne hdigits hts =>
    obtain ⟨hds, hfs⟩ := List.forall_mem_append.mp hdigits
    have hpoint : ∀ c ∈ ('.' :: (fs ++ ts)).head?, c.isDigit = false := by
      rintro c ⟨⟩
      decide
    obtain ⟨htake, hdrop⟩ := takeWhile_isDigit hds hpoint
    obtain ⟨htakeFraction, hdropFraction⟩ :=
      takeWhile_isDigit hfs fun c hc => (not_isDigit_of_tenPower hts c hc).1
    have hsome : (ds.isEmpty && fs.isEmpty) = false := by
      simpa using hne
    refine ⟨⟨negative, ofDigits (ds ++ fs), p - fs.length⟩, ?_, rfl, rfl⟩
    simp only [htake, hdrop, htakeFraction, hdropFraction, hsome, powerOfTen?_iff.mpr hts]
    rfl

/-- A literal without a sign begins with a digit or a point. -/
theorem UnsignedLiteral.exists_head (h : UnsignedLiteral us q) :
    ∃ c rest, us = c :: rest ∧ (c.isDigit = true ∨ c = '.') := by
  cases h with
  | @whole ds ts p hne hds _ =>
    obtain ⟨c, rest, rfl⟩ := List.exists_cons_of_ne_nil hne
    exact ⟨c, rest ++ ts, rfl, .inl (hds c List.mem_cons_self)⟩
  | @pointed ds fs ts p _ hdigits _ =>
    cases ds with
    | nil => exact ⟨'.', fs ++ ts, rfl, .inr rfl⟩
    | cons c rest =>
      exact ⟨c, rest ++ '.' :: (fs ++ ts), rfl, .inl (hdigits c List.mem_cons_self)⟩

theorem UnsignedLiteral.splitSign_eq (h : UnsignedLiteral us q) : splitSign us = (false, us) := by
  obtain ⟨c, rest, rfl, hdigit | rfl⟩ := h.exists_head
  · exact splitSign_of_isDigit rest hdigit
  · rfl

/-- **The literals that are read are the decimal literals.** -/
theorem decimalLiteral?_iff :
    (∃ l, decimalLiteral? cs = some l ∧ l.value = q) ↔ DecimalLiteral cs q := by
  constructor
  · rintro ⟨l, hl, rfl⟩
    rcases hsplit : splitSign cs with ⟨negative, us⟩
    obtain ⟨hsign, hunsigned⟩ := unsignedLiteral_of_read hsplit hl
    unfold Literal.value
    unfold splitSign at hsplit
    split at hsplit
    · cases hsplit
      rw [hsign, if_pos rfl, neg_one_mul]
      exact .minus hunsigned
    · cases hsplit
      rw [hsign, if_neg Bool.false_ne_true, one_mul]
      exact .plus hunsigned
    · cases hsplit
      rw [hsign, if_neg Bool.false_ne_true, one_mul]
      exact .plain hunsigned
  · intro h
    have hread {cs us : List Char} {q : ℚ} {negative : Bool}
        (hsplit : splitSign cs = (negative, us)) (h : UnsignedLiteral us q) :
        ∃ l, decimalLiteral? cs = some l ∧ l.value = (if negative then -1 else 1) * q := by
      obtain ⟨l, hl, hsign, hvalue⟩ := read_of_unsignedLiteral hsplit h
      exact ⟨l, hl, by rw [Literal.value, hsign, hvalue]⟩
    cases h with
    | plain h => simpa using hread h.splitSign_eq h
    | @plus us _ h => simpa using hread (show splitSign ('+' :: us) = (false, us) from rfl) h
    | @minus us _ h => simpa using hread (show splitSign ('-' :: us) = (true, us) from rfl) h

/-- No word for infinity or for no number is a decimal literal. -/
theorem UnsignedLiteral.map_toLower_ne (h : UnsignedLiteral us q) {c : Char} {word : List Char}
    (hc : c.isDigit = false ∧ c ≠ '.') : us.map Char.toLower ≠ c :: word := by
  obtain ⟨d, rest, rfl, hd⟩ := h.exists_head
  intro hword
  have hlower : d.toLower = d := by
    rcases hd with hdigit | rfl
    · exact toLower_of_isDigit hdigit
    · rfl
  rw [List.map_cons, hlower] at hword
  obtain ⟨rfl, -⟩ := List.cons.inj hword
  rcases hd with hdigit | rfl
  · exact absurd hdigit (by rw [hc.1]; decide)
  · exact hc.2 rfl

/-! ## What is read -/

/-- Zero is the number nearest to anything small enough. -/
theorem isNearest_zero (side : Bool) (h : |q| * (2 * unitsOfOne) < 1) :
    (Binary64.zero side).IsNearest q := by
  have hone := Binary64.unitsOfOne_cast_pos
  have hzero : (Binary64.zero side).value = 0 := by
    have habs : |(Binary64.zero side).value| = ((0 : Nat) : ℚ) / unitsOfOne := Binary64.abs_value _
    rwa [Nat.cast_zero, zero_div, abs_eq_zero] at habs
  have hfarther (y : Binary64) (hy : y.value ≠ 0) : |(0 : ℚ) - q| < |y.value - q| := by
    have hunits : (1 : ℚ) ≤ y.units := by
      rw [Nat.one_le_cast, Nat.one_le_iff_ne_zero]
      intro hnone
      exact hy (abs_eq_zero.mp (by rw [Binary64.abs_value, hnone, Nat.cast_zero, zero_div]))
    have hsize : 1 / unitsOfOne ≤ |y.value| := by
      rw [Binary64.abs_value]
      exact div_le_div_of_nonneg_right hunits hone.le
    have hhalf : 2 * |q| < 1 / unitsOfOne := by
      rw [lt_div_iff₀ hone]
      linarith
    have htriangle := abs_sub_abs_le_abs_sub y.value q
    rw [zero_sub, abs_neg]
    linarith
  rw [← hzero] at hfarther
  refine ⟨fun y => ?_, fun y hne htie => ?_⟩
  -- the other zero is as near, and has the same value
  · rcases eq_or_ne y.value (Binary64.zero side).value with heq | hne
    · rw [heq]
    · exact (hfarther y hne).le
  · exact absurd htie (hfarther y hne).ne'

theorem tenPower_natCast (k : Nat) : (10 : ℚ) ^ (k : ℤ) = ((10 ^ k : Nat) : ℚ) := by
  rw [zpow_natCast, Nat.cast_pow]
  rfl

/-- A power of ten as a quotient of natural numbers. -/
theorem tenPower_eq (e : ℤ) :
    (10 : ℚ) ^ e = (10 ^ e.toNat : Nat) / (10 ^ (-e).toNat : Nat) := by
  obtain ⟨k, rfl | rfl⟩ := e.eq_nat_or_neg
  · simp
  · simp

/-- The power of ten above the digits of a number. -/
theorem digits_bounds {n : Nat} (hn : n ≠ 0) :
    10 ^ ((Nat.toDigits 10 n).length - 1) ≤ n ∧ n < 10 ^ (Nat.toDigits 10 n).length := by
  have hlength : 0 < (Nat.toDigits 10 n).length := List.length_pos_of_ne_nil Nat.toDigits_ne_nil
  refine ⟨?_, (Nat.length_toDigits_le_iff (by decide) hlength).mp (Nat.le_refl _)⟩
  by_contra hless
  rcases Nat.eq_zero_or_pos ((Nat.toDigits 10 n).length - 1) with hone | hmore
  · rw [hone] at hless
    omega
  · have hshort := (Nat.length_toDigits_le_iff (by decide) hmore).mpr (not_le.mp hless)
    omega

namespace Literal

variable {l : Literal} {x : Binary64} {side : Bool}

theorem abs_value (l : Literal) : |l.value| = l.digits * (10 : ℚ) ^ l.exponent := by
  have hnonneg : (0 : ℚ) ≤ l.digits * (10 : ℚ) ^ l.exponent := by positivity
  unfold value
  cases l.negative
  · simp [abs_of_nonneg hnonneg]
  · simp [abs_of_nonneg hnonneg]

/-- The quotient that is rounded is what the literal denotes. -/
theorem ofSide_ratio (l : Literal) :
    ofSide l.negative (((l.digits * 10 ^ l.exponent.toNat * unitsOfOne : Nat) : ℚ) /
      (10 ^ (-l.exponent).toNat : Nat)) = l.value := by
  have hone := Binary64.unitsOfOne_cast_pos.ne'
  unfold value ofSide
  rw [tenPower_eq, Nat.cast_mul, Nat.cast_mul, mul_div_right_comm, ← neg_mul,
    mul_div_cancel_right₀ _ hone, mul_div_cancel_right₀ _ hone, mul_div_assoc]
  cases l.negative
  · simp
  · simp

theorem two_mul_unitsOfOne_lt : 2 * unitsOfOne < 10 ^ 401 := by
  decide +kernel

theorem two_pow_le_tenPower : 2 ^ 1023 ≤ 10 ^ 400 := by
  decide +kernel

/-- What is below all powers of ten that matter. -/
theorem abs_value_lt (hne : l.digits ≠ 0)
    (h : l.exponent + (Nat.toDigits 10 l.digits).length < -400) :
    |l.value| * (2 * unitsOfOne) < 1 := by
  have hdigits : (l.digits : ℚ) ≤ (10 : ℚ) ^ ((Nat.toDigits 10 l.digits).length : ℤ) := by
    rw [tenPower_natCast, Nat.cast_le]
    exact (digits_bounds hne).2.le
  -- digits and exponent together leave less than half a unit
  have hsmall : |l.value| ≤ (10 : ℚ) ^ (-(401 : Nat) : ℤ) := by
    calc |l.value|
        ≤ (10 : ℚ) ^ ((Nat.toDigits 10 l.digits).length : ℤ) * (10 : ℚ) ^ l.exponent := by
          rw [abs_value]
          exact mul_le_mul_of_nonneg_right hdigits (by positivity)
      _ = (10 : ℚ) ^ ((Nat.toDigits 10 l.digits).length + l.exponent) :=
          (zpow_add₀ (by norm_num) _ _).symm
      _ ≤ (10 : ℚ) ^ (-(401 : Nat) : ℤ) := zpow_le_zpow_right₀ (by norm_num) (by omega)
  have hunit : (2 * unitsOfOne : ℚ) < (10 : ℚ) ^ ((401 : Nat) : ℤ) := by
    rw [tenPower_natCast]
    exact_mod_cast two_mul_unitsOfOne_lt
  have hpower : (0 : ℚ) < (10 : ℚ) ^ ((401 : Nat) : ℤ) := by positivity
  rw [zpow_neg] at hsmall
  calc |l.value| * (2 * unitsOfOne)
      ≤ ((10 : ℚ) ^ ((401 : Nat) : ℤ))⁻¹ * (2 * unitsOfOne) :=
        mul_le_mul_of_nonneg_right hsmall (mul_nonneg zero_le_two Binary64.unitsOfOne_cast_pos.le)
    _ < ((10 : ℚ) ^ ((401 : Nat) : ℤ))⁻¹ * (10 : ℚ) ^ ((401 : Nat) : ℤ) :=
        mul_lt_mul_of_pos_left hunit (inv_pos.mpr hpower)
    _ = 1 := inv_mul_cancel₀ hpower.ne'

theorem le_abs_value (hne : l.digits ≠ 0)
    (h : 400 < l.exponent + (Nat.toDigits 10 l.digits).length) :
    ((2 ^ 1023 : Nat) : ℚ) ≤ |l.value| := by
  have hlength : 0 < (Nat.toDigits 10 l.digits).length :=
    List.length_pos_of_ne_nil Nat.toDigits_ne_nil
  have hdigits :
      (10 : ℚ) ^ (((Nat.toDigits 10 l.digits).length - 1 : Nat) : ℤ) ≤ l.digits := by
    rw [tenPower_natCast, Nat.cast_le]
    exact (digits_bounds hne).1
  have hlimit : ((2 ^ 1023 : Nat) : ℚ) ≤ ((10 ^ 400 : Nat) : ℚ) :=
    Nat.cast_le.mpr two_pow_le_tenPower
  calc ((2 ^ 1023 : Nat) : ℚ)
      ≤ ((10 ^ 400 : Nat) : ℚ) := hlimit
    _ = (10 : ℚ) ^ ((400 : Nat) : ℤ) := (tenPower_natCast 400).symm
    _ ≤ (10 : ℚ) ^ ((((Nat.toDigits 10 l.digits).length - 1 : Nat) : ℤ) + l.exponent) :=
        zpow_le_zpow_right₀ (by norm_num) (by omega)
    _ = (10 : ℚ) ^ (((Nat.toDigits 10 l.digits).length - 1 : Nat) : ℤ) * (10 : ℚ) ^ l.exponent :=
        zpow_add₀ (by norm_num) _ _
    _ ≤ |l.value| := by
        rw [abs_value]
        exact mul_le_mul_of_nonneg_right hdigits (by positivity)

/-- **A literal is read as the number nearest to what it denotes.** -/
theorem isNearest_of_toDouble (h : l.toDouble = .finite x) : x.IsNearest l.value := by
  unfold toDouble at h
  split at h
  · next hnone =>
    rw [Double.finite.injEq] at h
    rw [← h]
    refine isNearest_zero _ ?_
    rw [abs_value, hnone, Nat.cast_zero, zero_mul, zero_mul]
    exact zero_lt_one
  · next hsome =>
    dsimp only at h
    split at h
    · exact nomatch h
    · split at h
      · next hsmall =>
        rw [Double.finite.injEq] at h
        rw [← h]
        exact isNearest_zero _ (abs_value_lt hsome hsmall)
      · rw [← ofSide_ratio]
        exact isNearest_of_ofUnits (Nat.pow_pos (by decide)) h

/-- It is taken for infinite only if it is large. -/
theorem le_of_toDouble_infinite (h : l.toDouble = .infinite side) :
    ((2 ^ 1023 : Nat) : ℚ) ≤ |l.value| := by
  unfold toDouble at h
  split at h
  · exact nomatch h
  · next hsome =>
    dsimp only at h
    split at h
    · next hlarge => exact le_abs_value hsome hlarge
    · split at h
      · exact nomatch h
      · rw [← ofSide_ratio]
        exact le_of_ofUnits_infinite (Nat.pow_pos (by decide)) h

theorem toDouble_ne_nan (l : Literal) : l.toDouble ≠ .nan := by
  intro h
  unfold toDouble Double.ofRatio Double.ofUnits at h
  dsimp only at h
  split at h
  · cases h
  · split at h
    · cases h
    · split at h
      · cases h
      · split at h <;> cases h

end Literal

/-- That number of the format is the nearest to the exact one. -/
def RoundsTo (q v : ℚ) : Prop :=
  ∃ x : Binary64, x.IsNearest q ∧ x.value = v

/-- A literal is read as a number below the largest powers exactly if that is the nearest one. -/
theorem Literal.exists_toDouble_iff {l : Literal} {v : ℚ} (hv : |v| < (2 ^ 1023 : Nat)) :
    (∃ x, l.toDouble = .finite x ∧ x.value = v) ↔ RoundsTo l.value v := by
  constructor
  · rintro ⟨x, hx, hvalue⟩
    exact ⟨x, Literal.isNearest_of_toDouble hx, hvalue⟩
  · rintro ⟨x, hnearest, rfl⟩
    cases hread : l.toDouble with
    | nan => exact absurd hread l.toDouble_ne_nan
    | infinite side =>
      -- what overflows is nearest to nothing so small
      have hlarge := hnearest.two_pow_le (Nat.le_refl 1023) (Literal.le_of_toDouble_infinite hread)
      exact absurd hv (not_lt.mpr hlarge)
    | finite y => exact ⟨y, rfl, (Literal.isNearest_of_toDouble hread).value_eq hnearest⟩

/-- The words that are no decimal literals are read as no finite number. -/
theorem Double.read?_eq_finite_iff {cs : List Char} {x : Binary64} :
    Double.read? cs = some (.finite x) ↔
      ∃ l, decimalLiteral? cs = some l ∧ l.toDouble = .finite x := by
  rcases hsplit : splitSign cs with ⟨negative, us⟩
  unfold Double.read?
  simp only [hsplit]
  constructor
  · intro h
    split at h
    · exact nomatch Option.some.inj h
    · split at h
      · exact nomatch Option.some.inj h
      · exact Option.map_eq_some_iff.mp h
  · rintro ⟨l, hl, hx⟩
    have hunsigned := (unsignedLiteral_of_read hsplit hl).2
    have hnan : us.map Char.toLower ≠ "nan".toList := hunsigned.map_toLower_ne (by decide)
    have hinf : us.map Char.toLower ≠ "inf".toList := hunsigned.map_toLower_ne (by decide)
    have hinfinity : us.map Char.toLower ≠ "infinity".toList :=
      hunsigned.map_toLower_ne (by decide)
    rw [if_neg hnan, if_neg (not_or.mpr ⟨hinf, hinfinity⟩), hl, Option.map_some, hx]

/-- **What is read in floating point** is the number nearest to what a decimal literal denotes. -/
theorem Double.exists_read?_iff {cs : List Char} {v : ℚ} (hv : |v| < (2 ^ 1023 : Nat)) :
    (∃ x, Double.read? cs = some (.finite x) ∧ x.value = v) ↔
      ∃ q, DecimalLiteral cs q ∧ RoundsTo q v := by
  constructor
  · rintro ⟨x, hx, rfl⟩
    obtain ⟨l, hl, hread⟩ := Double.read?_eq_finite_iff.mp hx
    exact ⟨l.value, decimalLiteral?_iff.mp ⟨l, hl, rfl⟩, x, Literal.isNearest_of_toDouble hread,
      rfl⟩
  · rintro ⟨q, hliteral, hrounds⟩
    obtain ⟨l, hl, rfl⟩ := decimalLiteral?_iff.mpr hliteral
    obtain ⟨x, hx, hvalue⟩ := (Literal.exists_toDouble_iff hv).mpr hrounds
    exact ⟨x, Double.read?_eq_finite_iff.mpr ⟨l, hl, hx⟩, hvalue⟩

/-- A literal denotes one number. -/
theorem DecimalLiteral.unique {cs : List Char} {p q : ℚ} (hp : DecimalLiteral cs p)
    (hq : DecimalLiteral cs q) : p = q := by
  obtain ⟨l, hl, rfl⟩ := decimalLiteral?_iff.mpr hp
  obtain ⟨k, hk, rfl⟩ := decimalLiteral?_iff.mpr hq
  rw [Option.some.inj (hl.symm.trans hk)]

/-- An integer literal is a decimal literal of the same number. -/
theorem IntegerLiteral.decimalLiteral {cs : List Char} {z : ℤ} (h : IntegerLiteral cs z) :
    DecimalLiteral cs z := by
  have hunsigned {ds : List Char} (hne : ds ≠ []) (hds : ∀ c ∈ ds, c.isDigit = true) :
      UnsignedLiteral ds (ofDigits ds : ℤ) := by
    have hwhole := UnsignedLiteral.whole hne hds .none
    rwa [List.append_nil, zpow_zero, mul_one] at hwhole
  cases h with
  | plain hne hds => exact .plain (hunsigned hne hds)
  | plus hne hds => exact .plus (hunsigned hne hds)
  | minus hne hds =>
    rw [Int.cast_neg]
    exact .minus (hunsigned hne hds)

/-- A number of the format is nearest to itself, and nothing else is. -/
theorem roundsTo_value_iff (x : Binary64) (v : ℚ) : RoundsTo x.value v ↔ v = x.value := by
  have hself : x.IsNearest x.value := by
    refine ⟨fun y => ?_, fun y hne htie => ?_⟩
    · rw [sub_self, abs_zero]
      exact abs_nonneg _
    · rw [sub_self, abs_zero, abs_eq_zero, sub_eq_zero] at htie
      exact absurd htie hne
  constructor
  · rintro ⟨y, hy, rfl⟩
    exact hy.value_eq hself
  · rintro rfl
    exact ⟨x, hself, rfl⟩

end Proforma.Number
