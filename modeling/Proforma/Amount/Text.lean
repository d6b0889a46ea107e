import Proforma.Amount.Basic
import Proforma.Number.Literal
import Proforma.Text.Blank

/-!
# Amounts as text

An amount is written with a sign if it is negative and with exactly as many decimals as its
scale. Reading is generous: a plus sign, a missing whole part or missing decimals, underscores
after the first digit and a power of ten are accepted. Decimals beyond what an amount can hold
are dropped, the first of them rounding the last one kept, a half upwards. A power of ten moves
the point, by 28 places at the most; decimals that it moves out of reach are rounded in the same
way.
-/

namespace Proforma.Amount

open Number

/-- `coefficient` with the sign given apart. -/
def signed (negative : Bool) (coefficient : Nat) : Int :=
  if negative then -(coefficient : Int) else coefficient

/-! ## Digits -/

/-- The digit that a character stands for. An underscore among dropped decimals stands for a
zero. -/
def digitOf (c : Char) : Nat :=
  if c = '_' then 0 else c.toNat - '0'.toNat

/-- Whether a character may stand among dropped decimals. -/
def isDroppable (c : Char) : Bool :=
  c.isDigit || c = '_'

/-- The amount left when the characters from `next` on are dropped. A carry that no longer fits
gives up one more decimal. -/
def dropFrom? (negative : Bool) (coefficient scale : Nat) (next : Char) (rest : List Char) :
    Option Amount :=
  if !(next :: rest).all isDroppable then none
  else if digitOf next < 5 then make? (signed negative coefficient) scale
  else if coefficient + 1 < coefficientLimit then make? (signed negative (coefficient + 1)) scale
  else if scale = 0 then none
  else make? (signed negative ((coefficient + 5) / 10)) (scale - 1)

/-- Reads what remains of the digits. `point` says whether the point has been read, `started`
whether a digit has. -/
def readDigits? (negative point started : Bool) (coefficient scale : Nat) :
    List Char → Option Amount
  | [] => if started then make? (signed negative coefficient) scale else none
  | c :: rest =>
    if point && maxScale ≤ scale then dropFrom? negative coefficient scale c rest
    else if c.isDigit then
      let next := coefficient * 10 + digitOf c
      if next < coefficientLimit then
        readDigits? negative point true next (if point then scale + 1 else scale) rest
      else if point then dropFrom? negative coefficient scale c rest
      else none
    else if c = '.' && !point then readDigits? negative true started coefficient scale rest
    else if c = '_' && started then readDigits? negative point started coefficient scale rest
    else none

/-- The amount that a text without a power of ten denotes. -/
def readPlain? (cs : List Char) : Option Amount :=
  let (negative, digits) := splitSign cs
  readDigits? negative false false 0 0 digits

/-! ## Powers of ten -/

/-- The point moved to the right. -/
def movedRight? (a : Amount) (places : Nat) : Option Amount :=
  if places ≤ a.scale then make? a.coefficient (a.scale - places)
  else if maxScale < places then none
  else make? (a.coefficient * 10 ^ (places - a.scale)) 0

/-- The point moved to the left. -/
def movedLeft? (a : Amount) (places : Nat) : Option Amount :=
  if maxScale < places then none
  else if a.scale + places ≤ maxScale then make? a.coefficient (a.scale + places)
  else
    let lost := 10 ^ (a.scale + places - maxScale)
    make? (a.coefficient.sign * (roundHalfUp a.coefficient.natAbs lost : Nat)) maxScale

/-- The letter in front of a power of ten. -/
def isPowerMark (c : Char) : Bool :=
  c = 'e' || c = 'E'

/-- The amount that a text denotes, blanks around it aside. -/
def read? (s : String) : Option Amount :=
  let cs := Text.trimChars s.toList
  let base := readPlain? (cs.takeWhile (!isPowerMark ·))
  match cs.dropWhile (!isPowerMark ·) with
  | [] => base
  | _ :: '-' :: places => do (← base).movedLeft? (← naturalLiteral? places)
  | _ :: places => do (← base).movedRight? (← naturalLiteral? places)

/-! ## Writing -/

/-- The digits of a coefficient with the point before the last `scale` of them. -/
def pointed (scale : Nat) (ds : List Char) : List Char :=
  if scale = 0 then ds
  else
    let padded := List.replicate (scale + 1 - ds.length) '0' ++ ds
    padded.take (padded.length - scale) ++ '.' :: padded.drop (padded.length - scale)

/-- The text of an amount. -/
def text (a : Amount) : String :=
  let magnitude := pointed a.scale (Nat.toDigits 10 a.coefficient.natAbs)
  String.ofList (if a.coefficient < 0 then '-' :: magnitude else magnitude)

end Proforma.Amount
