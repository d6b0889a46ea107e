import Proforma.Number.Power

/-!
# Rounding a quotient

The nearest natural number to `n / d`. A half goes to the even neighbour in the results of binary
and decimal arithmetic, and upwards where the text of a decimal has too many digits.
-/

namespace Proforma.Number

/-- `n / d` to the nearest natural number, a half to the even one. -/
def roundHalfEven (n d : Nat) : Nat :=
  let q := n / d
  let r := n % d
  if d < 2 * r ∨ (2 * r = d ∧ q % 2 = 1) then q + 1 else q

/-- Rounding goes up by one at the most. -/
theorem roundHalfEven_le (n d : Nat) : roundHalfEven n d ≤ n / d + 1 := by
  simp only [roundHalfEven]
  split <;> omega

/-- Rounding never goes below the whole part. -/
theorem div_le_roundHalfEven (n d : Nat) : n / d ≤ roundHalfEven n d := by
  simp only [roundHalfEven]
  split <;> omega

/-- A whole number is its own rounding. -/
theorem roundHalfEven_mul_right (k d : Nat) (h : 0 < d) : roundHalfEven (k * d) d = k := by
  simp only [roundHalfEven, Nat.mul_div_cancel k h, Nat.mul_mod_left]
  split <;> omega

/-- A larger number is never rounded to a smaller one. -/
theorem roundHalfEven_mono {n m : Nat} (d : Nat) (h : n ≤ m) :
    roundHalfEven n d ≤ roundHalfEven m d := by
  rcases Nat.lt_or_eq_of_le (Nat.div_le_div_right h : n / d ≤ m / d) with hlt | heq
  · calc roundHalfEven n d ≤ n / d + 1 := roundHalfEven_le n d
      _ ≤ m / d := hlt
      _ ≤ roundHalfEven m d := div_le_roundHalfEven m d
  · have hn := Nat.div_add_mod n d
    have hm := Nat.div_add_mod m d
    rw [heq] at hn
    have hremainder : n % d ≤ m % d := by omega
    simp only [roundHalfEven, heq]
    split <;> split <;> omega

/-- The quotient alone counts. -/
theorem roundHalfEven_mul_mul (n d : Nat) {k : Nat} (h : 0 < k) :
    roundHalfEven (n * k) (d * k) = roundHalfEven n d := by
  have hless : d * k < 2 * (n % d * k) ↔ d < 2 * (n % d) := by
    rw [← Nat.mul_assoc, Nat.mul_lt_mul_right h]
  have hequal : 2 * (n % d * k) = d * k ↔ 2 * (n % d) = d := by
    rw [← Nat.mul_assoc, Nat.mul_right_cancel_iff h]
  simp only [roundHalfEven, Nat.mul_div_mul_right n d h, Nat.mul_mod_mul_right, hless, hequal]

/-- `n / d` to the nearest natural number, a half upwards. -/
def roundHalfUp (n d : Nat) : Nat :=
  if d ≤ 2 * (n % d) then n / d + 1 else n / d

/-- The number of binary digits, none for zero. -/
def bitLength (n : Nat) : Nat :=
  if n = 0 then 0 else n.log2 + 1

/-- A number needs no more digits than its length. -/
theorem lt_two_pow_bitLength (n : Nat) : n < 2 ^ bitLength n := by
  simp only [bitLength]
  split
  · simp_all
  · exact Nat.lt_log2_self

/-- A number below a power of two has at most that many digits. -/
theorem bitLength_le {n k : Nat} (h : n < 2 ^ k) : bitLength n ≤ k := by
  simp only [bitLength]
  split
  · exact Nat.zero_le k
  · next hn => exact (Nat.log2_lt hn).2 h

end Proforma.Number
