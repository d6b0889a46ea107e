import Proforma.Address.CharClass
import Proforma.Address.Punycode

/-!
# Domain names

A name of a host is a sequence of labels with dots between them. Characters beyond ASCII are
allowed if they may stand in a name, also in the form in which they are sent. A label does not
begin with a mark. Invisible joiners stand only where they change how letters look. If any label
is written from right to left, each must be written in one direction from end to end.
-/

namespace Proforma.Address

/-! ## Joiners -/

/-- The character that keeps letters from joining. -/
def nonJoiner : Char := '\u200C'

/-- The character that joins letters. -/
def joiner : Char := '\u200D'

/-- Whether the first character that is not transparent joins as it should. -/
def joins (asItShould : Joining → Bool) (cs : List Char) : Bool :=
  match cs.dropWhile fun c => (classOf c).joining = .transparent with
  | [] => false
  | c :: _ => asItShould (classOf c).joining

/-- Whether letters would join, given the characters before in reverse and those after. -/
def wouldJoin (before after : List Char) : Bool :=
  joins (fun j => j = .left || j = .both) before && joins (fun j => j = .right || j = .both) after

/-- Whether all joiners are in place, given the characters before in reverse. After a virama they
always are; a non-joiner also is between letters that would join. -/
def joinersInPlace (before : List Char) : List Char → Bool
  | [] => true
  | c :: rest =>
    let afterVirama := (before.head?.map fun b => (classOf b).isVirama).getD false
    if c = nonJoiner && !afterVirama && !wouldJoin before rest then false
    else if c = joiner && !afterVirama then false
    else joinersInPlace (c :: before) rest

/-! ## Directions -/

/-- The directions of the characters of a label. -/
def directions (label : List Char) : List Direction :=
  label.map fun c => (classOf c).direction

/-- The direction of the last character that is no mark. -/
def lastDirection? (ds : List Direction) : Option Direction :=
  (ds.filter (· ≠ .mark)).getLast?

/-- Whether a label has characters that are written from right to left. -/
def isRightToLeft (label : List Char) : Bool :=
  (directions label).any fun d => d = .rightToLeft || d = .arabicDigit

/-- Whether a label is written in one direction from end to end. From right to left there may be
digits of one kind; from left to right all but the Arabic ones. -/
def isOneWay (label : List Char) : Bool :=
  let ds := directions label
  match ds.head?, lastDirection? ds with
  | none, _ => true
  | some .rightToLeft, some last =>
    !ds.contains .leftToRight && !(ds.contains .digit && ds.contains .arabicDigit) &&
      (last = .rightToLeft || last = .digit || last = .arabicDigit)
  | some .leftToRight, some last =>
    !ds.contains .rightToLeft && !ds.contains .arabicDigit &&
      (last = .leftToRight || last = .digit)
  | _, _ => false

/-! ## Labels and names -/

/-- The characters of ASCII that no name has. -/
def isForbidden (c : Char) : Bool :=
  c.toNat ≤ 0x20 || c.toNat == 0x7F || "#/:<>?@[\\]^|%\"\x60\x7b\x7d".toList.contains c

/-- Whether a character is beyond ASCII. -/
def isBeyondAscii (c : Char) : Bool :=
  0x80 ≤ c.toNat

/-- The label that a text denotes. After `xn--` it is given in the form in which it is sent; then
it must have a character beyond ASCII, and nothing that another text would be sent for. -/
def readLabel? : List Char → Option (List Char)
  | 'x' :: 'n' :: '-' :: '-' :: coded =>
    if coded.any isBeyondAscii then none
    else
      (Punycode.decode? coded).filter fun label =>
        label.any isBeyondAscii && label.all fun c => (classOf c).treatment = .kept
  | label => some label

/-- Whether the characters of a label are in place. -/
def isLabel (label : List Char) : Bool :=
  !((label.head?.map fun c => (classOf c).isMark).getD false) && joinersInPlace [] label

/-- The name that a text denotes, with small letters. -/
def readName? (cs : List Char) : Option (List Char) := do
  let name := (← cs.mapM image?).flatten
  let labels ← (name.splitOn '.').mapM readLabel?
  if name.isEmpty || name.any isForbidden || !labels.all isLabel then none
  else if labels.any isRightToLeft && !labels.all isOneWay then none
  else some name

end Proforma.Address
