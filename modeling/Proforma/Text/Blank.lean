/-!
# Blank characters

The white space of Unicode and trimming. A text is blank when trimming leaves nothing of it.
-/

namespace Proforma.Text

/-- The characters with the Unicode property `White_Space`. -/
def isBlank (c : Char) : Bool :=
  let n := c.toNat
  (0x09 ≤ n && n ≤ 0x0D) || n == 0x20 || n == 0x85 || n == 0xA0 || n == 0x1680 ||
    (0x2000 ≤ n && n ≤ 0x200A) || n == 0x2028 || n == 0x2029 || n == 0x202F ||
    n == 0x205F || n == 0x3000

/-- A digit is no blank. -/
theorem isBlank_of_isDigit {c : Char} (h : c.isDigit = true) : isBlank c = false := by
  simp only [Char.isDigit, Bool.and_eq_true, decide_eq_true_eq, UInt32.le_iff_toNat_le] at h
  have hlow : 48 ≤ c.toNat := h.1
  have hhigh : c.toNat ≤ 57 := h.2
  simp only [isBlank, Bool.or_eq_false_iff, Bool.and_eq_false_iff, decide_eq_false_iff_not,
    beq_eq_false_iff_ne]
  omega

/-- The characters left when blanks are removed from both ends. -/
def trimChars (cs : List Char) : List Char :=
  ((cs.dropWhile isBlank).reverse.dropWhile isBlank).reverse

/-- Trimming leaves what stands between the blanks at the two ends. -/
theorem trimChars_between (before after : List Char) {cs : List Char}
    (hbefore : ∀ c ∈ before, isBlank c = true) (hafter : ∀ c ∈ after, isBlank c = true)
    (hcs : ∀ c ∈ cs, isBlank c = false) : trimChars (before ++ cs ++ after) = cs := by
  cases cs with
  | nil =>
    have hall : (after ++ []).dropWhile isBlank = [] := List.dropWhile_append_of_pos hafter
    rw [trimChars, List.append_nil, List.dropWhile_append_of_pos hbefore, ← List.append_nil after,
      hall]
    rfl
  | cons c rest =>
    have hdrop (c : Char) (hc : isBlank c = false) (more : List Char) :
        (c :: more).dropWhile isBlank = c :: more := by simp [hc]
    have hfront : (before ++ c :: rest ++ after).dropWhile isBlank = c :: rest ++ after := by
      rw [List.append_assoc, List.dropWhile_append_of_pos hbefore]
      exact hdrop c (hcs c List.mem_cons_self) _
    have hback : (c :: rest ++ after).reverse.dropWhile isBlank = (c :: rest).reverse := by
      rw [List.reverse_append,
        List.dropWhile_append_of_pos fun d hd => hafter d (List.mem_reverse.mp hd)]
      cases hrev : (c :: rest).reverse with
      | nil => rfl
      | cons d more =>
        have hd : d ∈ (c :: rest).reverse := hrev ▸ List.mem_cons_self
        exact hdrop d (hcs d (List.mem_reverse.mp hd)) more
    rw [trimChars, hfront, hback, List.reverse_reverse]

theorem trimChars_of_not_blank {cs : List Char} (h : ∀ c ∈ cs, isBlank c = false) :
    trimChars cs = cs := by
  simpa using trimChars_between [] [] nofun nofun h

/-- The text without the blanks at its two ends. -/
def trim (s : String) : String :=
  String.ofList (trimChars s.toList)

/-- The trimmed text, if anything is left of it. -/
def nonBlank? (s : String) : Option String :=
  let trimmed := trim s
  if trimmed.isEmpty then none else some trimmed

end Proforma.Text
