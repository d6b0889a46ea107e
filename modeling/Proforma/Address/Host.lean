import Proforma.Address.DomainName
import Proforma.Number.Power
import Proforma.Text.Percent

/-!
# Hosts

A host is given by a name or by a number. A number of 32 bits is written in up to four parts, each
in base ten, eight or sixteen, of which the last fills what the others leave. A number of 128 bits
is written in brackets, in eight groups of sixteen bits; two colons together stand for the groups
that are missing, and the last two groups may be written like a number of 32 bits.
-/

namespace Proforma.Address

/-- What to connect to. -/
inductive Host where
  | name (text : List Char)
  | ipv4 (address : UInt32)
  | ipv6 (groups : List UInt16)
  deriving DecidableEq

/-! ## Numbers of 32 bits -/

/-- The number that digits denote in a base. -/
def numeral? (base : Nat) (ds : List Char) : Option Nat := do
  let values ← ds.mapM Text.hexDigit?
  if values.all (· < base) then some (values.foldl (fun n d => n * base + d) 0) else none

/-- The number that a part denotes. Base sixteen is marked by `0x`, which may stand alone, and
base eight by a zero in front. -/
def part? : List Char → Option Nat
  | [] => none
  | '0' :: 'x' :: ds => numeral? 16 ds
  | '0' :: d :: ds => numeral? 8 (d :: ds)
  | ds => numeral? 10 ds

/-- The parts of a name. A dot at the end adds none. -/
def parts (name : List Char) : List (List Char) :=
  let labels := name.splitOn '.'
  if labels.getLast? = some [] then labels.dropLast else labels

/-- Whether a name must be a number, since its last part is one. -/
def endsInNumber (name : List Char) : Bool :=
  match (parts name).getLast? with
  | some last => (!last.isEmpty && last.all Char.isDigit) || (part? last).isSome
  | none => false

/-- The number of 32 bits that a name denotes. -/
def ipv4? (name : List Char) : Option UInt32 := do
  let numbers ← (parts name).mapM part?
  let last ← numbers.getLast?
  let leading := numbers.dropLast
  if 3 < leading.length || leading.any (255 < ·) || 256 ^ (4 - leading.length) ≤ last then none
  else
    let high := leading.foldl (fun n part => n * 256 + part) 0
    some (UInt32.ofNat (high * 256 ^ (4 - leading.length) + last))

/-! ## Numbers of 128 bits -/

/-- The number of a group, of one to four digits. -/
def group? (ds : List Char) : Option UInt16 :=
  if ds.isEmpty || 4 < ds.length then none else (numeral? 16 ds).map UInt16.ofNat

/-- A number of eight bits in base ten, without zeros in front. -/
def byte? (ds : List Char) : Option Nat :=
  if ds.isEmpty || 3 < ds.length || (ds.head? = some '0' && 1 < ds.length) then none
  else (numeral? 10 ds).filter (· < 256)

/-- The two groups that four bytes with dots between them denote. -/
def byteGroups? (cs : List Char) : Option (List UInt16) :=
  match (cs.splitOn '.').mapM byte? with
  | some [a, b, c, d] => some [UInt16.ofNat (a * 256 + b), UInt16.ofNat (c * 256 + d)]
  | _ => none

/-- The groups that pieces between colons denote, at the end of an address. -/
def groups? : List (List Char) → Option (List UInt16)
  | [] => some []
  | [last] => (group? last).map ([·]) <|> byteGroups? last
  | piece :: rest => do return (← group? piece) :: (← groups? rest)

/-- The text before and after the first two colons together. -/
def splitGap? : List Char → Option (List Char × List Char)
  | ':' :: ':' :: rest => some ([], rest)
  | c :: rest => (splitGap? rest).map fun (before, after) => (c :: before, after)
  | [] => none

/-- The pieces between colons, none in an empty text. -/
def colonPieces (cs : List Char) : List (List Char) :=
  if cs.isEmpty then [] else cs.splitOn ':'

/-- The groups of the address in brackets. Two colons stand for one group at least. -/
def ipv6? (cs : List Char) : Option (List UInt16) :=
  match splitGap? cs with
  | none => (groups? (cs.splitOn ':')).filter (·.length = 8)
  | some (before, after) => do
    let left ← (colonPieces before).mapM group?
    let right ← groups? (colonPieces after)
    let missing := 8 - (left.length + right.length)
    if missing = 0 then none else some (left ++ List.replicate missing 0 ++ right)

/-! ## Reading and writing -/

namespace Host

/-- Reads a host: an address in brackets, or a name in which bytes may be encoded. -/
def read? : List Char → Option Host
  | '[' :: rest => if rest.getLast? = some ']' then (ipv6? rest.dropLast).map .ipv6 else none
  | cs => do
    let name ← readName? (← Text.Utf8.decode? (Text.Percent.decode cs))
    if endsInNumber name then (ipv4? name).map .ipv4 else some (.name name)

/-- The bytes of a number of 32 bits with dots between them. -/
def dotted (address : UInt32) : List Char :=
  let byte (shift : Nat) : List Char := Nat.toDigits 10 (address.toNat / 2 ^ shift % 256)
  byte 24 ++ '.' :: byte 16 ++ '.' :: byte 8 ++ '.' :: byte 0

/-- Groups with colons between them. -/
def colons (groups : List UInt16) : List Char :=
  ((groups.map fun g => Nat.toDigits 16 g.toNat).intersperse [':']).flatten

/-- How many groups at the front are zero. -/
def zeroRun (groups : List UInt16) : Nat :=
  (groups.takeWhile (· = 0)).length

/-- The longest run of zeros: where it begins, and its length. Of equal ones it is the first. -/
def longestZeroRun : List UInt16 → Nat × Nat
  | [] => (0, 0)
  | g :: rest =>
    let (start, length) := longestZeroRun rest
    if length ≤ zeroRun (g :: rest) then (0, zeroRun (g :: rest)) else (start + 1, length)

/-- The text of an address of 128 bits. The longest run of zeros is left out, if it has more than
one. -/
def bracketed (groups : List UInt16) : List Char :=
  let (start, length) := longestZeroRun groups
  let inner :=
    if length < 2 then colons groups
    else colons (groups.take start) ++ "::".toList ++ colons (groups.drop (start + length))
  '[' :: inner ++ [']']

/-- The text of a host. -/
def text : Host → List Char
  | .name text => text
  | .ipv4 address => dotted address
  | .ipv6 groups => bracketed groups

end Host

end Proforma.Address
