import Proforma.Json.Basic
import Proforma.Number.Literal

/-!
# JSON number literals

A literal without fraction and exponent that fits a signed or unsigned 64-bit integer is that
integer, except that minus zero is a floating point number. The value of any other literal is
computed fast and not always rounded correctly: the leading digits that fit 64 bits are taken as
a floating point number, which is multiplied or divided by a power of ten as a floating point
number. A literal whose value is too large is refused.
-/

namespace Proforma.JsonNumber

open Number

/-- The least whole number that 64 bits do not hold. -/
def wordLimit : Nat := 2 ^ 64

/-- Appends digits to a number while it fits 64 bits, and returns the number with the digits
left over. -/
def absorb (n : Nat) : List Char → Nat × List Char
  | [] => (n, [])
  | c :: rest =>
    let next := n * 10 + (c.toNat - '0'.toNat)
    if next < wordLimit then absorb next rest else (n, c :: rest)

/-- The whole digits, the decimals and the exponent digits of a literal, and the text after it. -/
structure Parts where
  negative : Bool
  whole : List Char
  decimals : Option (List Char)
  exponent : Option (Bool × List Char)

/-- Splits the digits off the front; there has to be one. -/
def digits? (cs : List Char) : Option (List Char × List Char) :=
  let ds := cs.takeWhile Char.isDigit
  if ds.isEmpty then none else some (ds, cs.dropWhile Char.isDigit)

/-- Splits a number literal off the front. A whole part of several digits does not start with
zero, and a point or an exponent mark is followed by digits. -/
def parts? (cs : List Char) : Option (Parts × List Char) := do
  let (negative, unsigned) :=
    match cs with
    | '-' :: rest => (true, rest)
    | cs => (false, cs)
  let (whole, rest) ← digits? unsigned
  if whole.head? = some '0' && 1 < whole.length then none
  let (decimals, rest) ←
    match rest with
    | '.' :: rest => (digits? rest).map fun (ds, r) => (some ds, r)
    | rest => some (none, rest)
  let (exponent, rest) ←
    match rest with
    | c :: rest' =>
      if c = 'e' ∨ c = 'E' then
        let (minus, unsigned) := splitSign rest'
        (digits? unsigned).map fun (ds, r) => (some (minus, ds), r)
      else some (none, rest)
    | [] => some (none, rest)
  return (⟨negative, whole, decimals, exponent⟩, rest)

/-- A finite number as such. -/
def finite? : Double → Option Binary64
  | .finite x => some x
  | _ => none

/-- A power of ten in floating point. -/
def powerOfTen (n : Nat) : Double :=
  .ofRatio false (10 ^ n) 1

/-- The product with a power of ten, unless it is too large. -/
def timesPower (x : Binary64) (n : Nat) : Option Binary64 := do
  let power ← finite? (powerOfTen n)
  finite? (x.mul power)

/-- The quotient by a power of ten. -/
def overPower (x : Binary64) (n : Nat) : Option Binary64 := do
  let power ← finite? (powerOfTen n)
  finite? (x.div power)

/-- `significand * 10 ^ exponent`, through the floating point number of the significand. Powers
beyond `10 ^ 308` are not in the format, so a smaller number is reached in two steps. -/
def scale (significand : Nat) (exponent : Int) : Option Binary64 := do
  let x ← finite? (.ofInt significand)
  if x.units = 0 then some x
  else if 308 < exponent then none
  else if 0 ≤ exponent then timesPower x exponent.toNat
  else if -308 ≤ exponent then overPower x exponent.natAbs
  else if -616 ≤ exponent then
    let y ← overPower x 308
    overPower y (exponent.natAbs - 308)
  else some (.zero false)

/-- The floating point number of a literal. -/
def Parts.toBinary64? (p : Parts) : Option Binary64 := do
  let (head, dropped) := absorb 0 p.whole
  let decimals := p.decimals.getD []
  let (significand, tail) := absorb head decimals
  let shift : Int := dropped.length - (decimals.length - tail.length : Nat)
  let power : Int :=
    match p.exponent with
    | none => 0
    | some (minus, ds) => if minus then -(ofDigits ds : Int) else ofDigits ds
  let magnitude ← scale significand (shift + power)
  return { magnitude with negative := p.negative }

/-- The number of a literal. -/
def Parts.toNumber? (p : Parts) : Option JsonNumber :=
  let n : Int := if p.negative then -(ofDigits p.whole : Int) else ofDigits p.whole
  if h : IsJsonInt n then
    if p.decimals.isNone && p.exponent.isNone && !(p.negative && n == 0) then some (.int n h)
    else p.toBinary64?.map .double
  else p.toBinary64?.map .double

end Proforma.JsonNumber
