import Proforma.Number.Literal
import Proforma.Number.Shortest

/-!
# Integers as decimal text

An integer that is written in decimal digits is read back by the integer literal reader
(`integerLiteral?_toString`), and in floating point as the number nearest to it
(`read?_toString`). What the reader takes is a literal with at least one digit behind its sign
(`IntegerLiteral`). So different integers have different texts. No text of an integer has a
character that is neither a digit nor the sign, while every text of a floating point number has
one (`text_ne_toString`).
-/

namespace Proforma.Number

/-- The two ways to add up digits agree. -/
theorem ofDigits_eq_ofDigitChars (ds : List Char) : ofDigits ds = Nat.ofDigitChars 10 ds 0 := by
  unfold ofDigits Nat.ofDigitChars
  congr 1
  funext n c
  rw [Nat.mul_comm]

@[simp] theorem ofDigits_toDigits (n : Nat) : ofDigits (Nat.toDigits 10 n) = n := by
  rw [ofDigits_eq_ofDigitChars, Nat.ofDigitChars_ten_toDigits]

/-- Decimal digits are digits. -/
theorem all_isDigit_toDigits (n : Nat) : (Nat.toDigits 10 n).all Char.isDigit = true := by
  rw [List.all_eq_true]
  intro c hc
  exact Nat.isDigit_of_mem_toDigits (by decide) (by decide) hc

/-- A text that starts with a digit has no sign. -/
theorem splitSign_of_isDigit {c : Char} (cs : List Char) (h : c.isDigit = true) :
    splitSign (c :: cs) = (false, c :: cs) := by
  unfold splitSign
  split
  · next heq =>
    obtain ⟨rfl, -⟩ := List.cons.inj heq
    exact absurd h (by decide)
  · next heq =>
    obtain ⟨rfl, -⟩ := List.cons.inj heq
    exact absurd h (by decide)
  · rfl

theorem splitSign_toDigits (n : Nat) :
    splitSign (Nat.toDigits 10 n) = (false, Nat.toDigits 10 n) := by
  have hall := all_isDigit_toDigits n
  cases hds : Nat.toDigits 10 n with
  | nil => exact absurd hds Nat.toDigits_ne_nil
  | cons c cs =>
    rw [hds, List.all_cons, Bool.and_eq_true] at hall
    exact splitSign_of_isDigit cs hall.1

/-- The characters of an integer in decimal: its digits, behind a sign if it is negative. -/
theorem toList_toString (n : Int) :
    (toString n).toList =
      if 0 ≤ n then Nat.toDigits 10 n.toNat else '-' :: Nat.toDigits 10 (-n).toNat := by
  rw [Int.toString_eq_repr, Int.repr_eq_if]
  split <;> simp

theorem mem_toString {n : Int} {c : Char} (h : c ∈ (toString n).toList) :
    c.isDigit = true ∨ c = '-' := by
  have hdigits (m : Nat) (hc : c ∈ Nat.toDigits 10 m) : c.isDigit = true :=
    Nat.isDigit_of_mem_toDigits (by decide) (by decide) hc
  rw [toList_toString] at h
  split at h
  · exact .inl (hdigits _ h)
  · rcases List.mem_cons.mp h with rfl | hc
    · exact .inr rfl
    · exact .inl (hdigits _ hc)

/-- The sign and the digits of an integer. -/
theorem splitSign_toString (n : Int) :
    splitSign (toString n).toList = (decide (n < 0), Nat.toDigits 10 n.natAbs) := by
  rw [toList_toString]
  split
  · next h =>
    have hvalue : n.toNat = n.natAbs := by omega
    rw [splitSign_toDigits, hvalue, decide_eq_false (by omega)]
  · next h =>
    have hvalue : (-n).toNat = n.natAbs := by omega
    rw [hvalue, decide_eq_true (by omega)]
    rfl

/-- **Decimal text is read back.** -/
theorem integerLiteral?_toString (n : Int) : integerLiteral? (toString n).toList = some n := by
  have hne : (Nat.toDigits 10 n.natAbs).isEmpty = false := by
    simp [Nat.toDigits_ne_nil]
  unfold integerLiteral?
  simp only [splitSign_toString, hne, all_isDigit_toDigits, ofDigits_toDigits, decide_eq_true_eq,
    Bool.not_true, Bool.or_self, Bool.false_eq_true, if_false, Option.some.injEq]
  split <;> omega

/-- Different integers have different texts. -/
theorem toString_injective {m n : Int} (h : toString m = toString n) : m = n := by
  have hread := integerLiteral?_toString m
  rw [h, integerLiteral?_toString n, Option.some.injEq] at hread
  exact hread.symm

/-- No slash stands in the text of an integer. -/
theorem slash_notMem_toString (n : Int) : '/' ∉ (toString n).toList := by
  intro h
  rcases mem_toString h with hdigit | hsign
  · exact absurd hdigit (by decide)
  · exact absurd hsign (by decide)

/-! ## Literals -/

/-- The integer literals, with the numbers that they denote. -/
inductive IntegerLiteral : List Char → Int → Prop where
  | plain {ds : List Char} : ds ≠ [] → (∀ c ∈ ds, c.isDigit = true) →
      IntegerLiteral ds (ofDigits ds)
  | plus {ds : List Char} : ds ≠ [] → (∀ c ∈ ds, c.isDigit = true) →
      IntegerLiteral ('+' :: ds) (ofDigits ds)
  | minus {ds : List Char} : ds ≠ [] → (∀ c ∈ ds, c.isDigit = true) →
      IntegerLiteral ('-' :: ds) (-(ofDigits ds))

/-- Behind the sign there are digits, at least one. -/
theorem integerLiteral?_of_splitSign {cs ds : List Char} {negative : Bool} {n : Int}
    (h : splitSign cs = (negative, ds)) :
    integerLiteral? cs = some n ↔ (ds ≠ [] ∧ ∀ c ∈ ds, c.isDigit = true) ∧
      (if negative then -(ofDigits ds : Int) else ofDigits ds) = n := by
  have hrefused : ¬(ds.isEmpty || !ds.all Char.isDigit) = true ↔
      ds ≠ [] ∧ ∀ c ∈ ds, c.isDigit = true := by
    simp
  unfold integerLiteral?
  simp only [h]
  rw [← hrefused, Option.ite_none_left_eq_some, Option.some.injEq]

/-- **The literals that are read are the integer literals.** -/
theorem integerLiteral?_iff {cs : List Char} {n : Int} :
    integerLiteral? cs = some n ↔ IntegerLiteral cs n := by
  constructor
  · intro h
    rcases hsplit : splitSign cs with ⟨negative, ds⟩
    obtain ⟨⟨hne, hdigits⟩, rfl⟩ := (integerLiteral?_of_splitSign hsplit).mp h
    unfold splitSign at hsplit
    split at hsplit
    · cases hsplit
      exact .minus hne hdigits
    · cases hsplit
      exact .plus hne hdigits
    · cases hsplit
      exact .plain hne hdigits
  · intro h
    cases h with
    | plain hne hdigits =>
      have hsplit : splitSign cs = (false, cs) := by
        cases cs with
        | nil => exact absurd rfl hne
        | cons c rest => exact splitSign_of_isDigit rest (hdigits c List.mem_cons_self)
      exact (integerLiteral?_of_splitSign hsplit).mpr ⟨⟨hne, hdigits⟩, rfl⟩
    | plus hne hdigits => exact (integerLiteral?_of_splitSign rfl).mpr ⟨⟨hne, hdigits⟩, rfl⟩
    | minus hne hdigits => exact (integerLiteral?_of_splitSign rfl).mpr ⟨⟨hne, hdigits⟩, rfl⟩

/-! ## Floating point -/

/-- Digits have no capitals. -/
theorem toLower_of_isDigit {c : Char} (h : c.isDigit = true) : c.toLower = c := by
  simp only [Char.isDigit, Bool.and_eq_true, decide_eq_true_eq, UInt32.le_iff_toNat_le] at h
  have hhigh : c.toNat ≤ 57 := h.2
  unfold Char.toLower
  rw [dif_neg]
  rintro ⟨hcapital, -⟩
  have : 65 ≤ c.toNat := UInt32.le_iff_toNat_le.mp hcapital
  omega

/-- No word for infinity or for no number is made of digits. -/
theorem map_toLower_toDigits_ne {word : List Char} (hword : word.all Char.isDigit = false)
    (n : Nat) : (Nat.toDigits 10 n).map Char.toLower ≠ word := by
  rintro rfl
  have hlower : (Nat.toDigits 10 n).map Char.toLower = (Nat.toDigits 10 n).map id :=
    List.map_congr_left fun c hc =>
      toLower_of_isDigit (Nat.isDigit_of_mem_toDigits (by decide) (by decide) hc)
  rw [hlower, List.map_id, all_isDigit_toDigits] at hword
  cases hword

theorem decimalLiteral?_toString (n : Int) :
    decimalLiteral? (toString n).toList = some ⟨decide (n < 0), n.natAbs, 0⟩ := by
  have hdigits (c : Char) (hc : c ∈ Nat.toDigits 10 n.natAbs) : c.isDigit = true :=
    Nat.isDigit_of_mem_toDigits (by decide) (by decide) hc
  have htake : (Nat.toDigits 10 n.natAbs ++ []).takeWhile Char.isDigit =
      Nat.toDigits 10 n.natAbs ++ [] := List.takeWhile_append_of_pos hdigits
  have hdrop : (Nat.toDigits 10 n.natAbs ++ []).dropWhile Char.isDigit = [] :=
    List.dropWhile_append_of_pos hdigits
  have hne : (Nat.toDigits 10 n.natAbs).isEmpty = false := by
    simp [Nat.toDigits_ne_nil]
  rw [List.append_nil] at htake hdrop
  unfold decimalLiteral?
  simp only [splitSign_toString, htake, hdrop, hne, List.append_nil, ofDigits_toDigits]
  rfl

theorem toDouble_of_int {n : Int} (h : n.natAbs < 10 ^ 400) :
    (⟨decide (n < 0), n.natAbs, 0⟩ : Literal).toDouble = Double.ofInt n := by
  unfold Literal.toDouble
  by_cases hn : n.natAbs = 0
  · obtain rfl := Int.natAbs_eq_zero.mp hn
    decide +kernel
  · have hlength := (Nat.length_toDigits_le_iff (by decide) (by decide)).mpr h
    rw [if_neg hn]
    simp only
    rw [if_neg (by omega), if_neg (by omega)]
    show Double.ofRatio (decide (n < 0)) (n.natAbs * 1) 1 = Double.ofInt n
    rw [Nat.mul_one]
    rfl

/-- **Decimal text is read in floating point as the number nearest to it.** -/
theorem read?_toString {n : Int} (h : n.natAbs < 10 ^ 400) :
    Double.read? (toString n).toList = some (Double.ofInt n) := by
  have hword (word : String) (hword : word.toList.all Char.isDigit = false) :=
    map_toLower_toDigits_ne hword n.natAbs
  unfold Double.read?
  simp only [splitSign_toString]
  rw [if_neg (hword "nan" (by decide)),
    if_neg (not_or.mpr ⟨hword "inf" (by decide), hword "infinity" (by decide)⟩),
    decimalLiteral?_toString, Option.map_some, toDouble_of_int h]

/-- The text of a floating point number has a point or an exponent. -/
theorem Decimal.mark_mem_text (d : Decimal) : '.' ∈ d.text.toList ∨ 'e' ∈ d.text.toList := by
  unfold Decimal.text
  simp only [String.toList_ofList]
  split
  · exact .inr (by simp)
  · split
    · exact .inl (by simp)
    · split
      · exact .inl (by simp)
      · exact .inl (by simp)

/-- **No floating point number is written like an integer.** -/
theorem text_ne_toString (x : Binary64) (n : Int) : x.text ≠ toString n := by
  have hmark : '.' ∈ x.text.toList ∨ 'e' ∈ x.text.toList := by
    have hmagnitude (s : String) (hs : '.' ∈ s.toList ∨ 'e' ∈ s.toList) :
        '.' ∈ ("-" ++ s).toList ∨ 'e' ∈ ("-" ++ s).toList := by
      simpa using hs
    have hzero : '.' ∈ "0.0".toList ∨ 'e' ∈ "0.0".toList := by decide
    unfold Binary64.text
    simp only
    split <;> split
    · exact hmagnitude _ hzero
    · exact hmagnitude _ (Decimal.mark_mem_text _)
    · exact hzero
    · exact Decimal.mark_mem_text _
  intro h
  rw [h] at hmark
  rcases hmark with hc | hc
  · rcases mem_toString hc with hdigit | hsign
    · exact absurd hdigit (by decide)
    · exact absurd hsign (by decide)
  · rcases mem_toString hc with hdigit | hsign
    · exact absurd hdigit (by decide)
    · exact absurd hsign (by decide)

end Proforma.Number
