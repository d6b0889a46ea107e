import Proforma.Number.Rounding

/-!
# Amounts

Decimal numbers with a coefficient of at most 96 bits and at most 28 decimals. Every operation
takes the exact result and keeps as many decimals of it as fit, the last one rounded with a half
going to the even digit. An operation overflows when not even the whole part fits.
-/

namespace Proforma

open Number

/-- The least magnitude that is too large for a coefficient. -/
def coefficientLimit : Nat := 2 ^ 96

/-- The largest number of decimals. -/
def maxScale : Nat := 28

/-- The number `coefficient / 10 ^ scale`. The scale is how many decimals are written. -/
structure Amount where
  coefficient : Int
  scale : Nat
  coefficient_lt : coefficient.natAbs < coefficientLimit
  scale_le : scale ≤ maxScale
  deriving DecidableEq

/-- The arithmetic operation whose result was too large. -/
inductive Overflow where
  | addition
  | subtraction
  | multiplication
  deriving DecidableEq

/-- What is reported about an overflow. -/
def Overflow.message : Overflow → String
  | .addition => "Addition overflowed"
  | .subtraction => "Subtraction overflowed"
  | .multiplication => "Multiplication overflowed"

namespace Amount

/-- The amount with the given parts, if they are in range. -/
def make? (coefficient : Int) (scale : Nat) : Option Amount :=
  if h : coefficient.natAbs < coefficientLimit ∧ scale ≤ maxScale then
    some ⟨coefficient, scale, h.1, h.2⟩
  else none

/-- Zero, written without decimals. -/
def zero : Amount := ⟨0, 0, by decide, by decide⟩

/-- `n / 10 ^ scale` in units of `10 ^ -target`, rounded where digits are lost. -/
def rescaled (n : Int) (scale target : Nat) : Int :=
  if scale ≤ target then n * 10 ^ (target - scale)
  else n.sign * (roundHalfEven n.natAbs (10 ^ (scale - target)) : Nat)

/-- `n / 10 ^ scale` with as many decimals as fit, at most `target`. -/
def fit? (n : Int) (scale : Nat) : (target : Nat) → Option Amount
  | 0 => make? (rescaled n scale 0) 0
  | target + 1 => make? (rescaled n scale (target + 1)) (target + 1) <|> fit? n scale target

/-- The product, unless it is too large. -/
def mul? (a b : Amount) : Option Amount :=
  let scale := a.scale + b.scale
  fit? (a.coefficient * b.coefficient) scale (min scale maxScale)

/-- The sum, unless it is too large. -/
def add? (a b : Amount) : Option Amount :=
  let scale := max a.scale b.scale
  fit? (rescaled a.coefficient a.scale scale + rescaled b.coefficient b.scale scale) scale scale

/-- The amount with the opposite sign. -/
def neg (a : Amount) : Amount :=
  { a with
    coefficient := -a.coefficient
    coefficient_lt := by simpa using a.coefficient_lt }

/-- The difference, unless it is too large. -/
def sub? (a b : Amount) : Option Amount :=
  add? a b.neg

/-- The amount rounded to two decimals and written with two, or with as many as fit. An amount
of two decimals or fewer fits as it stands, and rounding more of them away makes it smaller, so
the search always ends with an amount. -/
def toCents (a : Amount) : Amount :=
  (fit? a.coefficient a.scale 2).getD a

end Amount

end Proforma
