import Proforma.Number.Binary64

/-!
# Shortest decimals

The decimal with the fewest digits that still rounds to a given binary number, and its text.
The multiples of a power of ten form a grid; a grid is coarser the larger its power. Every
number that rounds to the given one lies in an interval around it, so the shortest decimal is
the point of the coarsest grid that falls into that interval, the nearer one if there are two.
-/

namespace Proforma.Number

/-- The decimal `digits * 10 ^ exponent`. -/
structure Decimal where
  digits : Nat
  exponent : Int
  deriving DecidableEq

/-- The numbers that round to a magnitude, by their distance from it in quarters of a unit. -/
structure RoundingInterval where
  below : Nat
  above : Nat
  /-- Whether the ends belong to it, as they do when the magnitude wins ties. -/
  closed : Bool

/-- The interval around a magnitude. Below a power of two the grid of the format is twice as
fine, so there the interval reaches half as far. -/
def RoundingInterval.around (units : Nat) : RoundingInterval :=
  let spare := bitLength units - 53
  let step := 2 ^ spare
  { below := if 0 < spare ∧ units = 2 ^ (bitLength units - 1) then step else 2 * step
    above := 2 * step
    closed := units / step % 2 == 0 }

/-- The multiple of `10 ^ exponent` that rounds to the magnitude, if there is one. -/
def gridPoint? (units : Nat) (exponent : Int) : Option Nat :=
  let interval := RoundingInterval.around units
  -- all in quarters of a unit, times a power of ten for the fine grids
  let refine := 10 ^ (-exponent).toNat
  let step := 4 * unitsOfOne * 10 ^ exponent.toNat
  let value := 4 * units * refine
  let lower := value / step
  let down := value - lower * step
  let up := (lower + 1) * step - value
  let within (distance reach : Nat) : Bool :=
    distance < reach || (interval.closed && distance == reach)
  let downFits := 0 < lower && within down (interval.below * refine)
  let upFits := within up (interval.above * refine)
  match downFits, upFits with
  | true, true => some (if down < up ∨ (down = up ∧ lower % 2 = 0) then lower else lower + 1)
  | true, false => some lower
  | false, true => some (lower + 1)
  | false, false => none

/-- The exponent of the finest grid that is ever needed. -/
def finestExponent : Int := -324

/-- The first grid with a point for the magnitude, from the `n`-th above the finest downwards. -/
def coarsestPoint (units : Nat) : Nat → Decimal
  | 0 => ⟨(gridPoint? units finestExponent).getD 0, finestExponent⟩
  | n + 1 =>
    let exponent := finestExponent + (n + 1)
    match gridPoint? units exponent with
    | some digits => ⟨digits, exponent⟩
    | none => coarsestPoint units n

/-- The decimal of fewest digits that rounds to the magnitude. -/
def shortest (units : Nat) : Decimal :=
  coarsestPoint units 633

/-- The decimal digits of a number, as characters. -/
def digitChars (n : Nat) : List Char :=
  Nat.toDigits 10 n

/-- The text of a decimal that is not zero: positional, with a point, when the exponent of the
first digit is at least -5 and at most 15, else scientific with a signed exponent. -/
def Decimal.text (d : Decimal) : String :=
  let ds := digitChars d.digits
  let first := d.exponent + ds.length - 1
  String.ofList <|
    if first < -5 ∨ 15 < first then
      let mantissa := match ds with
        | [] => []
        | [c] => [c]
        | c :: rest => c :: '.' :: rest
      mantissa ++ ['e', if first < 0 then '-' else '+'] ++ digitChars first.natAbs
    else if first < 0 then
      '0' :: '.' :: List.replicate (first.natAbs - 1) '0' ++ ds
    else if 0 ≤ d.exponent then
      ds ++ List.replicate d.exponent.toNat '0' ++ ['.', '0']
    else
      ds.take (first.toNat + 1) ++ '.' :: ds.drop (first.toNat + 1)

/-- The text of a finite number: the shortest decimal that reads back. -/
def Binary64.text (x : Binary64) : String :=
  let magnitude := if x.units = 0 then "0.0" else (shortest x.units).text
  if x.negative then "-" ++ magnitude else magnitude

/-- The text of a number, finite or not. -/
def Double.text : Double → String
  | .nan => "NaN"
  | .infinite negative => if negative then "-inf" else "inf"
  | .finite x => x.text

end Proforma.Number
