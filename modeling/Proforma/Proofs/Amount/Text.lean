import Proforma.Amount.Text
import Proforma.Proofs.Number.Decimal

/-!
# Amounts are read back

The text of an amount is the amount's digits with a point at its scale, behind a sign if it is
negative. Reading takes the digits one by one; as long as the coefficient so far fits, it is the
number that the digits denote (`readDigits?_whole`, `readDigits?_decimals`). So the text of any
amount reads as that amount, scale included (`read?_text`).
-/

namespace Proforma

namespace Amount

open Number

/-! ## Digits -/

theorem digitOf_of_isDigit {c : Char} (h : c.isDigit = true) : digitOf c = c.toNat - '0'.toNat := by
  unfold digitOf
  rw [if_neg]
  rintro rfl
  exact absurd h (by decide)

/-- What `n` becomes when digits are written behind it. -/
def extend (n : Nat) (ds : List Char) : Nat :=
  ds.foldl (fun n c => n * 10 + (c.toNat - '0'.toNat)) n

theorem extend_append (n : Nat) (ds more : List Char) :
    extend n (ds ++ more) = extend (extend n ds) more :=
  List.foldl_append

theorem le_extend (n : Nat) (ds : List Char) : n ≤ extend n ds := by
  induction ds generalizing n with
  | nil => exact Nat.le_refl n
  | cons c rest ih =>
    have hstep : n ≤ n * 10 + (c.toNat - '0'.toNat) := by omega
    exact Nat.le_trans hstep (ih _)

theorem extend_toDigits (n : Nat) : extend 0 (Nat.toDigits 10 n) = n :=
  ofDigits_toDigits n

/-- Leading zeros do not count. -/
theorem extend_replicate_zero (k : Nat) : extend 0 (List.replicate k '0') = 0 := by
  induction k with
  | zero => rfl
  | succ k ih => exact ih

variable (negative : Bool) {ds : List Char}

/-- Digits in front of the point. -/
theorem readDigits?_whole (started : Bool) (n : Nat) (rest : List Char)
    (hds : ∀ c ∈ ds, c.isDigit = true) (hfits : extend n ds < coefficientLimit) :
    readDigits? negative false started n 0 (ds ++ rest) =
      readDigits? negative false (started || !ds.isEmpty) (extend n ds) 0 rest := by
  induction ds generalizing started n with
  | nil => simp [extend]
  | cons c more ih =>
    have hc := hds c List.mem_cons_self
    have hnext : n * 10 + digitOf c < coefficientLimit := by
      rw [digitOf_of_isDigit hc]
      exact Nat.lt_of_le_of_lt (le_extend _ more) hfits
    rw [List.cons_append, readDigits?]
    simp only [Bool.false_and, Bool.false_eq_true, if_false, hc, if_true, hnext]
    rw [digitOf_of_isDigit hc, ih true _ (fun d hd => hds d (List.mem_cons_of_mem c hd)) hfits]
    simp [extend]

/-- Decimals up to the end of the text. -/
theorem readDigits?_decimals (n scale : Nat) (hds : ∀ c ∈ ds, c.isDigit = true)
    (hfits : extend n ds < coefficientLimit) (hscale : scale + ds.length ≤ maxScale) :
    readDigits? negative true true n scale ds =
      make? (signed negative (extend n ds)) (scale + ds.length) := by
  induction ds generalizing n scale with
  | nil => rfl
  | cons c more ih =>
    have hc := hds c List.mem_cons_self
    have hnext : n * 10 + digitOf c < coefficientLimit := by
      rw [digitOf_of_isDigit hc]
      exact Nat.lt_of_le_of_lt (le_extend _ more) hfits
    rw [List.length_cons] at hscale ⊢
    have hroom : ¬ maxScale ≤ scale := by omega
    have hmore := ih (n * 10 + (c.toNat - '0'.toNat)) (scale + 1)
      (fun d hd => hds d (List.mem_cons_of_mem c hd)) hfits (by omega)
    rw [readDigits?]
    simp only [Bool.true_and, decide_eq_true_eq, hroom, if_false, hc, if_true, hnext]
    rw [digitOf_of_isDigit hc, hmore, Nat.add_right_comm scale 1 more.length]
    rfl

/-! ## The whole text -/

theorem isDigit_of_mem_padded {k n : Nat} {c : Char}
    (h : c ∈ List.replicate k '0' ++ Nat.toDigits 10 n) : c.isDigit = true := by
  rcases List.mem_append.mp h with hzero | hdigit
  · rw [List.eq_of_mem_replicate hzero]
    decide
  · exact Nat.isDigit_of_mem_toDigits (by decide) (by decide) hdigit

/-- Reading the digits of a coefficient with the point before the last `scale` of them. -/
theorem readDigits?_pointed {n scale : Nat} (hn : n < coefficientLimit)
    (hscale : scale ≤ maxScale) :
    readDigits? negative false false 0 0 (pointed scale (Nat.toDigits 10 n)) =
      make? (signed negative n) scale := by
  have hnonempty : (Nat.toDigits 10 n).isEmpty = false := by simp [Nat.toDigits_ne_nil]
  unfold pointed
  by_cases hzero : scale = 0
  · subst hzero
    have hdigits : ∀ c ∈ Nat.toDigits 10 n, c.isDigit = true :=
      fun c hc => Nat.isDigit_of_mem_toDigits (by decide) (by decide) hc
    have hread := readDigits?_whole negative false 0 [] hdigits (by rw [extend_toDigits]; exact hn)
    rw [List.append_nil, extend_toDigits, hnonempty] at hread
    rw [if_pos rfl, hread]
    rfl
  · rw [if_neg hzero]
    simp only
    generalize hpadded : List.replicate (scale + 1 - (Nat.toDigits 10 n).length) '0' ++
      Nat.toDigits 10 n = padded
    have hdigits (c : Char) (hc : c ∈ padded) : c.isDigit = true :=
      isDigit_of_mem_padded (hpadded ▸ hc)
    have hlength : scale + 1 ≤ padded.length := by
      rw [← hpadded, List.length_append, List.length_replicate]
      omega
    have hvalue : extend 0 padded = n := by
      rw [← hpadded, extend_append, extend_replicate_zero, extend_toDigits]
    -- the whole part has a digit, because there are more digits than decimals
    generalize hwhole : padded.take (padded.length - scale) = whole
    generalize hdecimals : padded.drop (padded.length - scale) = decimals
    have hsplit : whole ++ decimals = padded := by
      rw [← hwhole, ← hdecimals, List.take_append_drop]
    have hwholeEmpty : whole.isEmpty = false := by
      rw [List.isEmpty_eq_false_iff_exists_mem, ← List.length_pos_iff_exists_mem, ← hwhole,
        List.length_take]
      omega
    have hdecimalsLength : decimals.length = scale := by
      rw [← hdecimals, List.length_drop]
      omega
    have hall : extend (extend 0 whole) decimals = n := by
      rw [← extend_append, hsplit, hvalue]
    have hwholeFits : extend 0 whole < coefficientLimit :=
      Nat.lt_of_le_of_lt (le_extend _ decimals) (hall ▸ hn)
    rw [readDigits?_whole negative false 0 ('.' :: decimals)
      (fun c hc => hdigits c (hsplit ▸ List.mem_append_left _ hc)) hwholeFits, hwholeEmpty]
    have hpoint : readDigits? negative false (false || !false) (extend 0 whole) 0
        ('.' :: decimals) = readDigits? negative true true (extend 0 whole) 0 decimals := rfl
    rw [hpoint, readDigits?_decimals negative (extend 0 whole) 0
      (fun c hc => hdigits c (hsplit ▸ List.mem_append_right _ hc)) (hall ▸ hn) (by omega), hall,
      hdecimalsLength, Nat.zero_add]

/-- The characters of a written magnitude. -/
theorem mem_pointed {n scale : Nat} {c : Char} (h : c ∈ pointed scale (Nat.toDigits 10 n)) :
    c.isDigit = true ∨ c = '.' := by
  unfold pointed at h
  by_cases hzero : scale = 0
  · rw [if_pos hzero] at h
    exact .inl (Nat.isDigit_of_mem_toDigits (by decide) (by decide) h)
  · rw [if_neg hzero] at h
    rcases List.mem_append.mp h with hwhole | hrest
    · exact .inl (isDigit_of_mem_padded (List.mem_of_mem_take hwhole))
    · rcases List.mem_cons.mp hrest with rfl | hdecimal
      · exact .inr rfl
      · exact .inl (isDigit_of_mem_padded (List.mem_of_mem_drop hdecimal))

theorem splitSign_pointed (n scale : Nat) :
    splitSign (pointed scale (Nat.toDigits 10 n)) = (false, pointed scale (Nat.toDigits 10 n)) := by
  cases hcs : pointed scale (Nat.toDigits 10 n) with
  | nil => rfl
  | cons c rest =>
    rcases mem_pointed (hcs ▸ List.mem_cons_self : c ∈ pointed scale (Nat.toDigits 10 n)) with
      hdigit | rfl
    · exact splitSign_of_isDigit rest hdigit
    · rfl

/-- The characters of the text of an amount. -/
theorem mem_text {a : Amount} {c : Char} (h : c ∈ a.text.toList) :
    c.isDigit = true ∨ c = '.' ∨ c = '-' := by
  unfold text at h
  rw [String.toList_ofList] at h
  have hmagnitude (hc : c ∈ pointed a.scale (Nat.toDigits 10 a.coefficient.natAbs)) :
      c.isDigit = true ∨ c = '.' ∨ c = '-' :=
    (mem_pointed hc).elim .inl fun hpoint => .inr (.inl hpoint)
  by_cases hneg : a.coefficient < 0
  · rw [if_pos hneg] at h
    rcases List.mem_cons.mp h with rfl | hc
    · exact .inr (.inr rfl)
    · exact hmagnitude hc
  · rw [if_neg hneg] at h
    exact hmagnitude h

theorem isPowerMark_of_isDigit {c : Char} (h : c.isDigit = true) : isPowerMark c = false := by
  unfold isPowerMark
  rw [Bool.or_eq_false_iff, decide_eq_false_iff_not, decide_eq_false_iff_not]
  constructor
  · rintro rfl
    exact absurd h (by decide)
  · rintro rfl
    exact absurd h (by decide)

theorem plain_of_mem_text {a : Amount} {c : Char} (h : c ∈ a.text.toList) :
    Text.isBlank c = false ∧ isPowerMark c = false := by
  rcases mem_text h with hdigit | rfl | rfl
  · exact ⟨Text.isBlank_of_isDigit hdigit, isPowerMark_of_isDigit hdigit⟩
  · decide
  · decide

/-- Parts in range make an amount. -/
theorem make?_self (a : Amount) : make? a.coefficient a.scale = some a :=
  dif_pos ⟨a.coefficient_lt, a.scale_le⟩

theorem readPlain?_text (a : Amount) : readPlain? a.text.toList = some a := by
  unfold readPlain? text
  rw [String.toList_ofList]
  by_cases hneg : a.coefficient < 0
  · have hsign (cs : List Char) : splitSign ('-' :: cs) = (true, cs) := rfl
    have hvalue : signed true a.coefficient.natAbs = a.coefficient := by
      show -(a.coefficient.natAbs : Int) = a.coefficient
      omega
    rw [if_pos hneg, hsign]
    show readDigits? true false false 0 0 _ = some a
    rw [readDigits?_pointed true a.coefficient_lt a.scale_le, hvalue, make?_self]
  · have hvalue : signed false a.coefficient.natAbs = a.coefficient := by
      show (a.coefficient.natAbs : Int) = a.coefficient
      omega
    rw [if_neg hneg, splitSign_pointed]
    show readDigits? false false false 0 0 _ = some a
    rw [readDigits?_pointed false a.coefficient_lt a.scale_le, hvalue, make?_self]

/-- **The text of an amount is read back**, with the number of its decimals. -/
@[simp] theorem read?_text (a : Amount) : read? a.text = some a := by
  have hplain (c : Char) (hc : c ∈ a.text.toList) : (!isPowerMark c) = true := by
    simp [(plain_of_mem_text hc).2]
  have htrim : Text.trimChars a.text.toList = a.text.toList :=
    Text.trimChars_of_not_blank fun c hc => (plain_of_mem_text hc).1
  have htake : (a.text.toList ++ []).takeWhile (!isPowerMark ·) = a.text.toList ++ [] :=
    List.takeWhile_append_of_pos hplain
  have hdrop : (a.text.toList ++ []).dropWhile (!isPowerMark ·) = [] :=
    List.dropWhile_append_of_pos hplain
  rw [List.append_nil] at htake hdrop
  unfold read?
  rw [htrim]
  simp only [htake, hdrop]
  exact readPlain?_text a

end Amount

end Proforma
