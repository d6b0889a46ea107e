import Proforma.Number.Binary64
import Proforma.Text.Ascii

/-!
# Numbers written as text

Integer and decimal literals. An integer literal has an optional sign and at least one digit. A
decimal literal may have a point, with digits on at least one side of it, and a power of ten; it
denotes the nearest binary number, and the words for infinity and for no number count as well.
-/

namespace Proforma.Number

/-- The number that a list of digits denotes. -/
def ofDigits (ds : List Char) : Nat :=
  ds.foldl (fun n c => n * 10 + (c.toNat - '0'.toNat)) 0

/-- Takes a sign off the front and says whether it is a minus. -/
def splitSign : List Char → Bool × List Char
  | '-' :: rest => (true, rest)
  | '+' :: rest => (false, rest)
  | cs => (false, cs)

/-- The number that a literal without a minus sign denotes. -/
def naturalLiteral? (cs : List Char) : Option Nat :=
  match splitSign cs with
  | (false, ds) => if ds.isEmpty || !ds.all Char.isDigit then none else some (ofDigits ds)
  | (true, _) => none

/-- The number that an integer literal denotes. -/
def integerLiteral? (cs : List Char) : Option Int :=
  let (negative, ds) := splitSign cs
  if ds.isEmpty || !ds.all Char.isDigit then none
  else some (if negative then -(ofDigits ds : Int) else ofDigits ds)

/-- A number as a 64-bit integer, if it is in range. -/
def toInt64? (n : Int) : Option Int64 :=
  if -2 ^ 63 ≤ n ∧ n < 2 ^ 63 then some (Int64.ofInt n) else none

/-- The 64-bit integer that a text denotes as a literal. -/
def int64Literal? (s : List Char) : Option Int64 :=
  integerLiteral? s >>= toInt64?

/-- What a decimal literal denotes: `± digits * 10 ^ exponent`. -/
structure Literal where
  negative : Bool
  digits : Nat
  exponent : Int
  deriving DecidableEq

/-- The power of ten at the end of a literal, zero if there is none. -/
def powerOfTen? : List Char → Option Int
  | [] => some 0
  | c :: rest => if c = 'e' ∨ c = 'E' then integerLiteral? rest else none

/-- Reads a decimal literal. -/
def decimalLiteral? (cs : List Char) : Option Literal :=
  let (negative, unsigned) := splitSign cs
  let whole := unsigned.takeWhile Char.isDigit
  let afterWhole := unsigned.dropWhile Char.isDigit
  let (fraction, tail) :=
    match afterWhole with
    | '.' :: rest => (rest.takeWhile Char.isDigit, rest.dropWhile Char.isDigit)
    | rest => ([], rest)
  if whole.isEmpty && fraction.isEmpty then none
  else
    (powerOfTen? tail).map fun power =>
      ⟨negative, ofDigits (whole ++ fraction), power - fraction.length⟩

/-- The binary number nearest to a literal. A literal beyond `10 ^ 400` is beyond the format and
one below `10 ^ -400` is nearer to zero than to anything else, which keeps the powers small. -/
def Literal.toDouble (l : Literal) : Double :=
  if l.digits = 0 then .finite (.zero l.negative)
  else
    let magnitude := l.exponent + (Nat.toDigits 10 l.digits).length
    if 400 < magnitude then .infinite l.negative
    else if magnitude < -400 then .finite (.zero l.negative)
    else .ofRatio l.negative (l.digits * 10 ^ l.exponent.toNat) (10 ^ (-l.exponent).toNat)

/-- The binary number that a text denotes. -/
def Double.read? (cs : List Char) : Option Double :=
  let (negative, word) := splitSign cs
  let word := word.map Char.toLower
  if word = "nan".toList then some .nan
  else if word = "inf".toList ∨ word = "infinity".toList then some (.infinite negative)
  else (decimalLiteral? cs).map Literal.toDouble

end Proforma.Number
