import Proforma.Proofs.Amount.Text

/-!
# Opposite amounts

A sign in front of a text turns it into the text of the opposite amount (`read?_minus`): the sign
is all that reading the digits keeps of it, and moving the point does not see it.
-/

namespace Proforma

open Number

/-! ## Trimming -/

namespace Text

variable {cs : List Char} (h : ∀ c ∈ cs.head?, isBlank c = false)

include h

theorem dropWhile_isBlank : cs.dropWhile isBlank = cs := by
  cases cs with
  | nil => rfl
  | cons c rest => simp [h c rfl]

/-- What is put in front of a text without blanks there is not trimmed away. -/
theorem trimChars_cons {c : Char} (hc : isBlank c = false) :
    trimChars (c :: cs) = c :: trimChars cs := by
  have hfront : (c :: cs).dropWhile isBlank = c :: cs := by simp [hc]
  unfold trimChars
  rw [hfront, dropWhile_isBlank h, List.reverse_cons, List.dropWhile_append]
  split
  · next hempty => simp [List.isEmpty_iff.mp hempty, hc]
  · simp

theorem mem_head?_of_trimChars {c : Char} (hc : c ∈ (trimChars cs).head?) : c ∈ cs.head? := by
  have hprefix : trimChars cs <+: cs := by
    unfold trimChars
    rw [dropWhile_isBlank h, ← List.reverse_suffix, List.reverse_reverse]
    exact List.dropWhile_suffix _
  obtain ⟨rest, hrest⟩ := hprefix
  rw [← hrest, List.head?_append, Option.mem_def.mp hc]
  rfl

end Text

namespace Amount

/-! ## The parts of a text -/

theorem make?_neg (n : Int) (scale : Nat) : make? (-n) scale = (make? n scale).map neg := by
  unfold make?
  by_cases h : n.natAbs < coefficientLimit ∧ scale ≤ maxScale
  · have hopposite : (-n).natAbs < coefficientLimit ∧ scale ≤ maxScale := by
      rwa [Int.natAbs_neg]
    rw [dif_pos h, dif_pos hopposite]
    rfl
  · have hopposite : ¬((-n).natAbs < coefficientLimit ∧ scale ≤ maxScale) := by
      rwa [Int.natAbs_neg]
    rw [dif_neg h, dif_neg hopposite]
    rfl

theorem dropFrom?_true (n scale : Nat) (next : Char) (rest : List Char) :
    dropFrom? true n scale next rest = (dropFrom? false n scale next rest).map neg := by
  have hmake (n scale : Nat) :
      make? (signed true n) scale = (make? (signed false n) scale).map neg := make?_neg n scale
  unfold dropFrom?
  split
  · rfl
  · split
    · exact hmake _ _
    · split
      · exact hmake _ _
      · split
        · rfl
        · exact hmake _ _

/-- The sign is the only difference in reading digits. -/
theorem readDigits?_true (point started : Bool) (n scale : Nat) (cs : List Char) :
    readDigits? true point started n scale cs =
      (readDigits? false point started n scale cs).map neg := by
  induction cs generalizing point started n scale with
  | nil =>
    simp only [readDigits?]
    split
    · exact make?_neg n scale
    · rfl
  | cons c rest ih =>
    simp only [readDigits?]
    split
    · exact dropFrom?_true n scale c rest
    · split
      · split
        · exact ih _ _ _ _
        · split
          · exact dropFrom?_true n scale c rest
          · rfl
      · split
        · exact ih _ _ _ _
        · split
          · exact ih _ _ _ _
          · rfl

theorem movedRight?_neg (a : Amount) (places : Nat) :
    a.neg.movedRight? places = (a.movedRight? places).map neg := by
  unfold movedRight?
  show (if places ≤ a.scale then make? (-a.coefficient) (a.scale - places)
    else if maxScale < places then none
    else make? (-a.coefficient * 10 ^ (places - a.scale)) 0) = _
  split
  · exact make?_neg _ _
  · split
    · rfl
    · rw [Int.neg_mul]
      exact make?_neg _ _

theorem movedLeft?_neg (a : Amount) (places : Nat) :
    a.neg.movedLeft? places = (a.movedLeft? places).map neg := by
  unfold movedLeft?
  show (if maxScale < places then none
    else if a.scale + places ≤ maxScale then make? (-a.coefficient) (a.scale + places)
    else make? ((-a.coefficient).sign * (roundHalfUp (-a.coefficient).natAbs
      (10 ^ (a.scale + places - maxScale)) : Nat)) maxScale) = _
  split
  · rfl
  · split
    · exact make?_neg _ _
    · rw [Int.sign_neg, Int.natAbs_neg, Int.neg_mul]
      exact make?_neg _ _

/-! ## The whole text -/

/-- Whether a text begins with its digits: with neither a blank nor a sign. -/
def IsUnsigned (text : String) : Prop :=
  ∀ c ∈ text.toList.head?, Text.isBlank c = false ∧ c ≠ '-' ∧ c ≠ '+'

instance (text : String) : Decidable (IsUnsigned text) :=
  -- only the first character is looked at
  decidable_of_iff (text.toList.head?.all fun c => !Text.isBlank c && c != '-' && c != '+') (by
    unfold IsUnsigned
    cases text.toList.head? <;> simp [and_assoc])

theorem splitSign_of_unsigned {cs : List Char} (h : ∀ c ∈ cs.head?, c ≠ '-' ∧ c ≠ '+') :
    splitSign cs = (false, cs) := by
  unfold splitSign
  split
  · exact absurd rfl (h _ rfl).1
  · exact absurd rfl (h _ rfl).2
  · rfl

/-- A sign in front of the digits makes the opposite number. -/
theorem readPlain?_minus {cs : List Char} (h : ∀ c ∈ cs.head?, c ≠ '-' ∧ c ≠ '+') :
    readPlain? ('-' :: cs) = (readPlain? cs).map neg := by
  unfold readPlain?
  rw [splitSign_of_unsigned h]
  exact readDigits?_true false false 0 0 cs

/-- **The opposite text is the opposite amount**, if it is one. -/
theorem read?_minus {text : String} (h : IsUnsigned text) :
    read? ("-" ++ text) = (read? text).map neg := by
  have hblank : ∀ c ∈ text.toList.head?, Text.isBlank c = false := fun c hc => (h c hc).1
  have htrim : Text.trimChars ("-" ++ text).toList = '-' :: Text.trimChars text.toList := by
    rw [String.toList_append]
    exact Text.trimChars_cons hblank (by decide)
  have hsign : ∀ c ∈ ((Text.trimChars text.toList).takeWhile (!isPowerMark ·)).head?,
      c ≠ '-' ∧ c ≠ '+' := by
    intro c hc
    rw [List.head?_takeWhile, Option.mem_def, Option.filter_eq_some_iff] at hc
    exact (h c (Text.mem_head?_of_trimChars hblank hc.1)).2
  -- the sign stands before the power of ten and does not change it
  have htake (cs : List Char) : ('-' :: cs).takeWhile (!isPowerMark ·) =
      '-' :: cs.takeWhile (!isPowerMark ·) := rfl
  have hdrop (cs : List Char) : ('-' :: cs).dropWhile (!isPowerMark ·) =
      cs.dropWhile (!isPowerMark ·) := rfl
  unfold read?
  simp only [htrim, htake, hdrop, readPlain?_minus hsign]
  generalize readPlain? ((Text.trimChars text.toList).takeWhile (!isPowerMark ·)) = base
  generalize (Text.trimChars text.toList).dropWhile (!isPowerMark ·) = tail
  split
  · rfl
  · cases base with
    | none => rfl
    | some a =>
      cases naturalLiteral? _ with
      | none => rfl
      | some places => exact movedLeft?_neg a places
  · cases base with
    | none => rfl
    | some a =>
      cases naturalLiteral? _ with
      | none => rfl
      | some places => exact movedRight?_neg a places

end Amount

end Proforma
