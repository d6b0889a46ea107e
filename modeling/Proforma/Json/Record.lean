import Proforma.Json.Basic
import Proforma.Number.Literal

/-!
# Records in JSON

A record is an object with one field for each part; it may also be given as the array of its
parts in order. The two formats of this library write the same field names differently: with
underscores between the words, or with a capital at the start of each word but the first.
Reading is strict: a part of the wrong kind makes the whole unreadable. Fields of other names do
not matter.
-/

namespace Proforma.Json

open Number

/-! ## Field names -/

/-- How the words of a field name are joined. -/
inductive Spelling where
  | snake
  | camel

/-- Drops the underscores and capitalises the letters after them. -/
def joinWords : List Char → List Char
  | [] => []
  | '_' :: c :: rest => c.toUpper :: joinWords rest
  | c :: rest => c :: joinWords rest

/-- The spelling of a name given with underscores. -/
def Spelling.key : Spelling → String → String
  | .snake, name => name
  | .camel, name => String.ofList (joinWords name.toList)

/-- The object with the given fields in a spelling. -/
def record (spelling : Spelling) (fields : List (String × Json)) : Json :=
  ofFields (fields.map fun f => (spelling.key f.1, f.2))

/-! ## Parts -/

/-- A text. -/
def readString? : Json → Option String
  | .string s => some s
  | _ => none

/-- A truth value. -/
def readBool? : Json → Option Bool
  | .bool b => some b
  | _ => none

/-- A number that is an integer in range. -/
def readInt64? : Json → Option Int64
  | .number n => n.toInt64?
  | _ => none

/-- An array whose items are all readable. -/
def readList? (read : Json → Option α) : Json → Option (List α)
  | .array items => items.mapM read
  | _ => none

/-- Null, or a readable value. -/
def readOption? (read : Json → Option α) : Json → Option (Option α)
  | .null => some none
  | j => (read j).map some

/-! ## Reading a record -/

/-- What is left of a record while it is read part by part. -/
inductive Source where
  /-- All the fields. -/
  | named (fields : Object)
  /-- The parts not read yet. -/
  | listed (parts : List Json)

/-- Reads the parts of a record in order. -/
abbrev RecordReader := StateT Source Option

namespace RecordReader

/-- Reads a part; `absent` is the value of a missing field, `short` that of a part beyond the end
of the array. -/
def part (name : String) (read : Json → Option α) (absent short : Option α) : RecordReader α :=
  fun source =>
    match source with
    | .named fields =>
      match fields.get? (Spelling.key .camel name) with
      | some j => (read j).map (·, source)
      | none => absent.map (·, source)
    | .listed (j :: rest) => (read j).map (·, .listed rest)
    | .listed [] => short.map (·, source)

/-- A part that has to be there. -/
def required (name : String) (read : Json → Option α) : RecordReader α :=
  part name read none none

/-- A part that may be null, and whose field may be missing. -/
def optional (name : String) (read : Json → Option α) : RecordReader (Option α) :=
  part name (readOption? read) (some none) none

/-- A list that is empty when missing. -/
def listed (name : String) (read : Json → Option α) : RecordReader (List α) :=
  part name (readList? read) (some []) (some [])

/-- Reads a whole record. Nothing may be left of an array. -/
def run (reader : RecordReader α) : Json → Option α
  | .object fields => (reader (.named fields)).map (·.1)
  | .array parts =>
    match reader (.listed parts) with
    | some (a, .listed []) => some a
    | _ => none
  | _ => none

end RecordReader

end Proforma.Json
