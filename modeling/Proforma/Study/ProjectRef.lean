import Proforma.Failure
import Proforma.Json.Field
import Proforma.Json.Record

/-!
# Project identifiers

A study names its project by a number or by a numeric text. Both are read in binary floating
point; a whole value in the range of 64-bit integers is sent as an integer and any other finite
value as it is. A scenario names its project by an integer where the identifier denotes one, and
otherwise keeps what it was given.
-/

namespace Proforma

open Number

/-- How a caller names a project. -/
inductive ProjectRef where
  | number (value : Double)
  | text (s : String)
  deriving DecidableEq

/-- How a scenario names its project. -/
inductive ProjectKey where
  | number (id : Int64)
  | raw (value : Json)
  deriving DecidableEq

namespace ProjectRef

/-- The project of that integer. -/
def ofInt64 (id : Int64) : ProjectRef :=
  .number (.ofInt id.toInt)

/-- The value that the reference denotes, if it is numeric. -/
def value? : ProjectRef → Except Refusal Double
  | .number value => .ok value
  | .text s =>
    match Double.read? (Text.trimChars s.toList) with
    | some value => .ok value
    | none => .error (.projectNotNumeric s)

/-- A finite value as the number that is sent: an integer if it is one. -/
def numberOf (x : Binary64) : JsonNumber :=
  match x.whole? with
  | some id => .ofInt64 id
  | none => .double x

/-- The number that is sent for the reference. -/
def number? (ref : ProjectRef) : Except Refusal JsonNumber :=
  match ref.value? with
  | .ok (.finite x) => .ok (numberOf x)
  | .ok value => .error (.projectNotFinite value)
  | .error cause => .error cause

/-- A number as a double, or a text. -/
def read? : Json → Option ProjectRef
  | .number n => some (.number n.toDouble)
  | .string s => some (.text s)
  | _ => none

end ProjectRef

namespace ProjectKey

/-- The identifier if it is an integer. -/
def id? : ProjectKey → Option Int64
  | .number id => some id
  | .raw _ => none

/-- The identifier in JSON, an integer or what was kept. -/
def record : ProjectKey → Json
  | .number id => Json.ofInt64 id
  | .raw value => value

/-- An integer in range is an identifier; anything else, null too, is kept. -/
def read? (j : Json) : Option ProjectKey :=
  match Json.readInt64? j with
  | some id => some (.number id)
  | none => some (.raw j)

/-- The integer that a value of a reply denotes. A text is tried as an integer first. -/
def integerOf? : Json → Option Int64
  | .number n =>
    match n.toInt64? with
    | some id => some id
    | none => wholeOf? n.toDouble
  | .string s =>
    let cs := Text.trimChars s.toList
    match int64Literal? cs with
    | some id => some id
    | none => Double.read? cs >>= wholeOf?
  | _ => none
where
  wholeOf? : Double → Option Int64
    | .finite x => x.whole?
    | _ => none

/-- The identifier in a reply. -/
def ofJson (j : Json) : ProjectKey :=
  match integerOf? j with
  | some id => .number id
  | none => .raw j

/-- The identifier of an offline scenario. Offline data never fails, so a reference that denotes
no number is kept as it was given. -/
def ofRef (ref : ProjectRef) : ProjectKey :=
  match ref.number? with
  | .ok n =>
    match n.toInt64? with
    | some id => .number id
    | none => .raw (.number n)
  | .error _ =>
    match ref with
    | .text s => .raw (.string s)
    | .number _ => .raw .null

end ProjectKey

end Proforma
