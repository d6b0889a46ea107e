import Proforma.Address.CharTable
import Proforma.Number.Literal

/-!
# Classes of characters in names

What the names of hosts need to know about a character: whether it may stand in a name, which way
it is written, and whether it joins with its neighbours.
-/

namespace Proforma.Address

/-- What becomes of a character in a name. -/
inductive Treatment where
  | kept
  /-- It stands for other characters, which are kept. -/
  | replaced
  | dropped
  | refused
  deriving DecidableEq

/-- Which way a character is written. -/
inductive Direction where
  | leftToRight
  | rightToLeft
  /-- A digit that is written like the Arabic ones. -/
  | arabicDigit
  | digit
  | neutral
  /-- A mark that goes with the character before it. -/
  | mark
  deriving DecidableEq

/-- The sides on which a letter of a cursive script joins with its neighbours. -/
inductive Joining where
  | none
  | left
  | right
  | both
  /-- The neighbours of the character join as if it were not there. -/
  | transparent
  deriving DecidableEq

/-- What names need to know about a character. -/
structure CharClass where
  treatment : Treatment
  direction : Direction
  joining : Joining
  /-- Whether it goes with the character before it. -/
  isMark : Bool
  /-- Whether it is a mark that takes the vowel from a consonant. -/
  isVirama : Bool
  deriving DecidableEq

namespace CharClass

/-- A character that is kept and that is no mark. -/
def base (direction : Direction) (joining : Joining) : CharClass :=
  ⟨.kept, direction, joining, false, false⟩

/-- A mark. -/
def mark (direction : Direction) (joining : Joining) (isVirama : Bool) : CharClass :=
  ⟨.kept, direction, joining, true, isVirama⟩

/-- A character that is no part of a name. -/
def other (treatment : Treatment) : CharClass :=
  ⟨treatment, .neutral, .none, false, false⟩

/-- The class for which a small letter stands in the table. -/
def ofLetter : Char → CharClass
  | 'l' => base .leftToRight .none
  | 'b' => base .leftToRight .transparent
  | 'f' => base .leftToRight .both
  | 'g' => base .leftToRight .left
  | 'r' => base .rightToLeft .none
  | 'd' => base .rightToLeft .both
  | 'j' => base .rightToLeft .right
  | 'k' => base .rightToLeft .left
  | 't' => base .rightToLeft .transparent
  | 'n' => base .neutral .none
  | 'm' => base .neutral .both
  | 'a' => base .arabicDigit .none
  | 'e' => base .digit .none
  | 's' => mark .mark .transparent false
  | 'v' => mark .mark .transparent true
  | 'w' => mark .mark .none false
  | 'c' => mark .leftToRight .none false
  | 'z' => mark .leftToRight .transparent false
  | 'y' => mark .leftToRight .none true
  | 'h' => mark .leftToRight .transparent true
  | 'i' => other .dropped
  | _ => other .refused

/-- The class for which a letter stands in the table. With a capital the character is
replaced. -/
def ofCode (code : Char) : CharClass :=
  if code.isUpper then { ofLetter code.toLower with treatment := .replaced } else ofLetter code

/-- The class of a character of ASCII. -/
def ofAscii (c : Char) : CharClass :=
  base (if c.isDigit then .digit else if c.isAlpha then .leftToRight else .neutral) .none

end CharClass

/-- The letter of the run in which a position falls. -/
def codeAt (position : Nat) : List Char → Option Char
  | [] => none
  | code :: rest =>
    let digits := rest.takeWhile Char.isDigit
    let length := if digits.isEmpty then 1 else Number.ofDigits digits
    if position < length then some code
    else codeAt (position - length) (rest.dropWhile Char.isDigit)
termination_by runs => runs.length
decreasing_by
  exact Nat.lt_succ_of_le (List.dropWhile_sublist Char.isDigit).length_le

/-- The row in which a code point falls, and its position there. -/
def findRow (rows : List (Nat × String)) (point : Nat) : Option (Nat × String) :=
  (rows.reverse.find? (·.1 ≤ point)).map fun row => (point - row.1, row.2)

/-- The class of a character. -/
def classOf (c : Char) : CharClass :=
  if c.toNat < 0x80 then .ofAscii c
  else
    let code := do
      let (position, runs) ← findRow classRows c.toNat
      codeAt position runs.toList
    .ofCode (code.getD 'x')

/-- The texts for which one word of the table stands. -/
def expandImages : List Char → List (List Char)
  | [first, '-', last] =>
    (List.range (last.toNat + 1 - first.toNat)).map fun n => [Char.ofNat (first.toNat + n)]
  | image => [image]

/-- The text with ASCII in it for which a character stands, if it does. -/
def imageOf? (c : Char) : Option (List Char) := do
  let (position, images) ← findRow imageRows c.toNat
  ((images.toList.splitOn ' ').flatMap expandImages)[position]?

/-- What a character leaves in a name, unless it is refused. Capitals become small letters. A
character that stands for others without ASCII is left as it is. -/
def image? (c : Char) : Option (List Char) :=
  if c.toNat < 0x80 then some [c.toLower]
  else
    match imageOf? c, (classOf c).treatment with
    | some image, _ => some image
    | none, .kept | none, .replaced => some [c]
    | none, .dropped => some []
    | none, .refused => none

end Proforma.Address
