import Proforma.Proofs.Number.DecimalLiteral
import Proforma.Proofs.Scenario.Integers

/-!
# The project in a reply

A reply names a project by a number or a text that stands for one (`Json.StandsFor`). Written as an
integer, it is taken exactly. Written with a point or an exponent it goes through floating point, so
what counts is the number of the format that is nearest to it (`Json.Identifies`): another one may
be taken in its place, as `2 ^ 53` is for the text of `2 ^ 53 + 1` with a fraction of zero, and
`-2 ^ 63` is not taken at all. All that floating point holds is taken for what it is, but for that
one end of the range (`project_key_of_reply`).
-/

namespace Proforma

open Number

/-! ## Whole numbers of the format -/

namespace Number

theorem natAbs_lt_iff (n : Int64) : n.toInt.natAbs < 2 ^ 63 ↔ n ≠ Int64.minValue := by
  have hlo := n.le_toInt
  have hhi := n.toInt_lt
  have hmin : Int64.minValue.toInt = -2 ^ 63 := rfl
  rw [ne_eq, ← Int64.toInt_inj, hmin]
  omega

/-- The integer that is taken for a number of the format is its value, and any but the least one
is. -/
theorem Binary64.whole?_iff_value {x : Binary64} {n : Int64} :
    x.whole? = some n ↔ x.value = n.toInt ∧ n ≠ Int64.minValue := by
  have habs := natAbs_truncate x
  rw [whole?_eq_some_iff, value_eq_intCast_iff, ← natAbs_lt_iff, ← Nat.div_lt_iff_lt_mul
    unitsOfOne_pos]
  constructor
  · rintro ⟨hdvd, hsmall, htruncate⟩
    exact ⟨⟨hdvd, htruncate⟩, by rwa [← htruncate, habs]⟩
  · rintro ⟨⟨hdvd, htruncate⟩, hsmall⟩
    exact ⟨hdvd, by rwa [← htruncate, habs] at hsmall, htruncate⟩

theorem abs_toInt_lt (n : Int64) {b : Nat} (hb : 64 ≤ b) : |(n.toInt : ℚ)| < (2 ^ b : Nat) := by
  have hlo := n.le_toInt
  have hhi := n.toInt_lt
  have hbits : n.toInt.natAbs < 2 ^ 64 := by omega
  rw [← Int.cast_abs, ← Nat.cast_natAbs, Nat.cast_lt]
  exact hbits.trans_le (Nat.pow_le_pow_right Nat.two_pos hb)

/-- What is beyond 64 bits is not rounded to less. -/
theorem not_roundsTo_of_large {q : ℚ} {n : Int64} (hq : ((2 ^ 63 : Nat) : ℚ) ≤ |q|)
    (hn : n ≠ Int64.minValue) : ¬RoundsTo q n.toInt := by
  rintro ⟨x, hx, hvalue⟩
  have hlarge := hx.two_pow_le (by decide) hq
  rw [hvalue, ← Int.cast_abs, ← Nat.cast_natAbs, Nat.cast_le] at hlarge
  exact absurd ((natAbs_lt_iff n).mpr hn) (not_lt.mpr hlarge)

end Number

/-! ## What a value stands for -/

namespace Json

/-- The number that a value stands for, by itself or as a text that is a literal of it once
trimmed. -/
inductive StandsFor : Json → ℚ → Prop where
  | number (v : JsonNumber) : StandsFor (.number v) v.value
  | text {s : String} {q : ℚ} : DecimalLiteral (Text.trimChars s.toList) q →
      StandsFor (.string s) q

/-- The value is written as an integer, without a point or an exponent. -/
inductive IsInteger : Json → Prop where
  | number {k : ℤ} (hk : IsJsonInt k) : IsInteger (.number (.int k hk))
  | text {s : String} {z : ℤ} : IntegerLiteral (Text.trimChars s.toList) z → IsInteger (.string s)

/-- The integer that is taken for a value. -/
inductive Identifies : Json → Int64 → Prop where
  /-- What is written as an integer is taken for it. -/
  | exact {j : Json} {n : Int64} : j.IsInteger → j.StandsFor n.toInt → Identifies j n
  /-- Any other number is rounded, and the least integer is not taken. -/
  | rounded {j : Json} {q : ℚ} {n : Int64} : ¬j.IsInteger → j.StandsFor q → RoundsTo q n.toInt →
      n ≠ Int64.minValue → Identifies j n

variable {j : Json} {p q : ℚ} {n : Int64}

theorem StandsFor.unique (hp : j.StandsFor p) (hq : j.StandsFor q) : p = q := by
  cases hp with
  | number =>
    cases hq
    rfl
  | text hp =>
    cases hq with
    | text hq => exact hp.unique hq

end Json

namespace ProjectKey

open Json

/-- An integer that is too large for 64 bits with a sign is rounded to one that is. -/
theorem wholeOf?_ofInt_of_large {k : ℤ} (hk : IsJsonInt k) (hlarge : 2 ^ 63 ≤ k) :
    integerOf?.wholeOf? (Double.ofInt k) = none := by
  have hsize : k.natAbs < 2 ^ 64 := by
    have := hk.2
    omega
  have hunits := two_pow_mul_le_wholeUnits (show 2 ^ 63 ≤ k.natAbs by omega)
  rw [ofInt_eq hsize]
  show Binary64.whole? _ = none
  rw [Option.eq_none_iff_forall_ne_some]
  intro n hn
  exact absurd (Binary64.whole?_eq_some_iff.mp hn).2.1 (not_lt.mpr hunits)

theorem integerOf?_number_iff (v : JsonNumber) (n : Int64) :
    integerOf? (.number v) = some n ↔ Identifies (.number v) n := by
  cases v with
  | int k hk =>
    have hidentifies : Identifies (.number (.int k hk)) n ↔ k = n.toInt := by
      constructor
      · rintro (⟨-, hn⟩ | ⟨hnot, -⟩)
        · exact Int.cast_injective ((StandsFor.number _).unique hn)
        · exact absurd (.number hk) hnot
      · rintro rfl
        exact .exact (.number hk) (.number _)
    rw [hidentifies]
    -- beyond 64 bits it is read once more in floating point, where it is no less
    by_cases hsmall : k < 2 ^ 63
    · have hid : (JsonNumber.int k hk).toInt64? = some (Int64.ofInt k) := if_pos hsmall
      have hread : integerOf? (.number (.int k hk)) = some (Int64.ofInt k) := by
        unfold integerOf?
        simp only [hid]
      rw [hread, Option.some.injEq, ← Int64.toInt_inj, Int64.toInt_ofInt_of_le hk.1 hsmall]
    · have hid : (JsonNumber.int k hk).toInt64? = none := if_neg hsmall
      have hread : integerOf? (.number (.int k hk)) = none := by
        unfold integerOf?
        simp only [hid]
        exact wholeOf?_ofInt_of_large hk (not_lt.mp hsmall)
      have hhi := n.toInt_lt
      rw [hread]
      exact iff_of_false (Option.some_ne_none n).symm (by omega)
  | double x =>
    have hread : integerOf? (.number (.double x)) = x.whole? := rfl
    have hpointed : ¬IsInteger (.number (.double x)) := by
      intro hinteger
      cases hinteger
    rw [hread, Binary64.whole?_iff_value]
    constructor
    · rintro ⟨hvalue, hmin⟩
      exact .rounded hpointed (.number _) ((roundsTo_value_iff x _).mpr hvalue.symm) hmin
    · rintro (⟨hinteger, -⟩ | ⟨-, hq, hrounds, hmin⟩)
      · exact absurd hinteger hpointed
      · rw [hq.unique (.number _)] at hrounds
        exact ⟨((roundsTo_value_iff x _).mp hrounds).symm, hmin⟩

/-- The integer that is taken for a text in floating point. -/
theorem read?_whole?_iff {cs : List Char} {n : Int64} :
    (Double.read? cs >>= integerOf?.wholeOf?) = some n ↔
      ∃ q, DecimalLiteral cs q ∧ RoundsTo q n.toInt ∧ n ≠ Int64.minValue := by
  -- all 64-bit integers are far below the numbers that are read as infinite
  have hsize : |(n.toInt : ℚ)| < (2 ^ 1023 : Nat) := abs_toInt_lt n (by decide)
  have hwhole (value : Double) : integerOf?.wholeOf? value = some n ↔
      ∃ x, value = .finite x ∧ x.value = n.toInt ∧ n ≠ Int64.minValue := by
    cases value with
    | finite x =>
      show x.whole? = some n ↔ _
      rw [Binary64.whole?_iff_value]
      exact ⟨fun h => ⟨x, rfl, h⟩, by rintro ⟨y, hy, h⟩; rwa [Double.finite.inj hy]⟩
    | _ => exact ⟨nofun, fun ⟨_, h, _⟩ => nomatch h⟩
  rw [Option.bind_eq_bind, Option.bind_eq_some_iff]
  constructor
  · rintro ⟨value, hread, hn⟩
    obtain ⟨x, rfl, hvalue, hmin⟩ := (hwhole value).mp hn
    obtain ⟨q, hq, hrounds⟩ := (Double.exists_read?_iff hsize).mp ⟨x, hread, hvalue⟩
    exact ⟨q, hq, hrounds, hmin⟩
  · rintro ⟨q, hq, hrounds, hmin⟩
    obtain ⟨x, hread, hvalue⟩ := (Double.exists_read?_iff hsize).mpr ⟨q, hq, hrounds⟩
    exact ⟨.finite x, hread, (hwhole _).mpr ⟨x, rfl, hvalue, hmin⟩⟩

/-- An integer literal that is not one of 64 bits is beyond them. -/
theorem two_pow_le_abs_of_not_read {cs : List Char} {z : ℤ} (hread : int64Literal? cs = none)
    (hz : IntegerLiteral cs z) : ((2 ^ 63 : Nat) : ℚ) ≤ |(z : ℚ)| := by
  have hbeyond : ¬(-2 ^ 63 ≤ z ∧ z < 2 ^ 63) := by
    rintro ⟨hlo, hhi⟩
    rw [← Int64.toInt_ofInt_of_le hlo hhi, ← int64Literal?_eq_some_iff, hread] at hz
    exact nomatch hz
  rw [← Int.cast_abs, ← Nat.cast_natAbs, Nat.cast_le]
  omega

theorem integerOf?_string_iff (s : String) (n : Int64) :
    integerOf? (.string s) = some n ↔ Identifies (.string s) n := by
  unfold integerOf?
  simp only
  cases hliteral : int64Literal? (Text.trimChars s.toList) with
  | some id =>
    have hinteger := int64Literal?_eq_some_iff.mp hliteral
    simp only [Option.some.injEq]
    constructor
    · rintro rfl
      exact .exact (.text hinteger) (.text hinteger.decimalLiteral)
    · rintro (⟨-, hn⟩ | ⟨hnot, -⟩)
      · have hsame := (StandsFor.text hinteger.decimalLiteral).unique hn
        exact Int64.toInt_inj.mp (Int.cast_injective hsame)
      · exact absurd (.text hinteger) hnot
  | none =>
    simp only
    rw [read?_whole?_iff]
    constructor
    · rintro ⟨q, hq, hrounds, hmin⟩
      refine .rounded ?_ (.text hq) hrounds hmin
      -- written as an integer it would be beyond 64 bits, and what is rounded from there is not less
      intro hinteger
      cases hinteger with
      | text hz =>
        rw [hq.unique hz.decimalLiteral] at hrounds
        exact not_roundsTo_of_large (two_pow_le_abs_of_not_read hliteral hz) hmin hrounds
    · rintro (⟨hinteger, hn⟩ | ⟨-, hq, hrounds, hmin⟩)
      · cases hinteger with
        | text hz =>
          have hsame := Int.cast_injective ((StandsFor.text hz.decimalLiteral).unique hn)
          rw [hsame, ← int64Literal?_eq_some_iff, hliteral] at hz
          exact nomatch hz
      · cases hq with
        | text hq => exact ⟨_, hq, hrounds, hmin⟩

theorem integerOf?_iff (j : Json) (n : Int64) : integerOf? j = some n ↔ j.Identifies n := by
  cases j with
  | number v => exact integerOf?_number_iff v n
  | string s => exact integerOf?_string_iff s n
  | _ =>
    constructor
    · nofun
    · rintro (⟨-, hstands⟩ | ⟨-, hstands, -⟩) <;> cases hstands

theorem ofJson_eq_number_iff (j : Json) (n : Int64) : ofJson j = .number n ↔ j.Identifies n := by
  rw [← integerOf?_iff]
  unfold ofJson
  cases integerOf? j with
  | none => exact ⟨nofun, nofun⟩
  | some id => rw [ProjectKey.number.injEq, Option.some.injEq]

theorem ofJson_eq_raw_of_not {j : Json} (h : ∀ n, ¬j.Identifies n) : ofJson j = .raw j := by
  have hnone : integerOf? j = none :=
    Option.eq_none_iff_forall_ne_some.mpr fun n hn => h n ((integerOf?_iff j n).mp hn)
  unfold ofJson
  rw [hnone]

end ProjectKey

open Json

/-- **How a reply names a project.** It is by the integer that is taken for the value, and by the
unchanged value if there is none. A number that is written as an integer, and one that floating
point holds, as it does every number in JSON, is taken for an integer exactly if it is one in range;
only the least integer must be written as one. -/
theorem project_key_of_reply (j : Json) :
    (∀ n, ProjectKey.ofJson j = .number n ↔ j.Identifies n) ∧
    ((∀ n, ¬j.Identifies n) → ProjectKey.ofJson j = .raw j) ∧
    ∀ q, j.StandsFor q → (j.IsInteger ∨ ∃ x : Binary64, x.value = q) →
      ∀ n, ProjectKey.ofJson j = .number n ↔
        q = n.toInt ∧ (j.IsInteger ∨ n ≠ Int64.minValue) := by
  refine ⟨ProjectKey.ofJson_eq_number_iff j, ProjectKey.ofJson_eq_raw_of_not, ?_⟩
  intro q hq hheld n
  rw [ProjectKey.ofJson_eq_number_iff]
  constructor
  · rintro (⟨hinteger, hn⟩ | ⟨hnot, hp, hrounds, hmin⟩)
    · exact ⟨hq.unique hn, .inl hinteger⟩
    · obtain ⟨x, rfl⟩ := hheld.resolve_left hnot
      rw [hp.unique hq, roundsTo_value_iff] at hrounds
      exact ⟨hrounds.symm, .inr hmin⟩
  · rintro ⟨rfl, hcase⟩
    by_cases hinteger : j.IsInteger
    · exact .exact hinteger hq
    · obtain ⟨x, hx⟩ := hheld.resolve_left hinteger
      exact .rounded hinteger hq (hx ▸ (roundsTo_value_iff x _).mpr rfl)
        (hcase.resolve_left hinteger)

/-- With a fraction of zero, `2 ^ 53 + 1` is taken for `2 ^ 53` and `-2 ^ 63` for no integer. -/
theorem project_key_of_pointed :
    (Json.string "9007199254740993.0").StandsFor 9007199254740993 ∧
    ProjectKey.ofJson (.string "9007199254740993.0") = .number 9007199254740992 ∧
    (Json.string "-9223372036854775808.0").StandsFor (-2 ^ 63) ∧
    ProjectKey.ofJson (.string "-9223372036854775808.0") =
      .raw (.string "-9223372036854775808.0") := by
  have hodd : decimalLiteral? "9007199254740993.0".toList =
      some ⟨false, 90071992547409930, -1⟩ := by decide
  have hleast : decimalLiteral? "-9223372036854775808.0".toList =
      some ⟨true, 92233720368547758080, -1⟩ := by decide
  refine ⟨.text (decimalLiteral?_iff.mp ⟨_, hodd, ?_⟩), by decide +kernel,
    .text (decimalLiteral?_iff.mp ⟨_, hleast, ?_⟩), by decide +kernel⟩
  · norm_num [Literal.value]
  · norm_num [Literal.value]

end Proforma
