import Proforma.Json.Basic
import Proforma.Number.Literal
import Proforma.Text.Blank

/-!
# Lenient fields

What a reply says under a name, taken as generously as possible. A field that is missing, null
or of a kind that cannot be used is absent; none of these readings fails.
-/

namespace Proforma.Json

open Number

/-- The fields of an object. -/
def object? : Json → Option Object
  | .object fields => some fields
  | _ => none

/-- A text, or a number as it is written. -/
def decimal? : Json → Option String
  | .string s => some s
  | .number n => some n.text
  | _ => none

/-- A text, or a number or truth value as it is written. -/
def text? : Json → Option String
  | .bool b => some (if b then "true" else "false")
  | j => j.decimal?

/-- The nearest 64-bit integer to a whole number. -/
def clampInt64 (n : Int) : Int64 :=
  Int64.ofInt (max (-2 ^ 63) (min (2 ^ 63 - 1) n))

/-- The 64-bit integer of a number: its own value if it is one, and otherwise the nearest one to
its value in floating point, if that is whole. -/
def integerOfNumber? (n : JsonNumber) : Option Int64 :=
  match n.toInt64? with
  | some i => some i
  | none =>
    match n.toDouble with
    | .finite x => if x.isWhole then some (clampInt64 x.truncate) else none
    | _ => none

/-- A 64-bit integer, given as a number or as a literal. -/
def integer? : Json → Option Int64
  | .number n => integerOfNumber? n
  | .string s => int64Literal? (Text.trimChars s.toList)
  | _ => none

/-- A truth value. -/
def bool? : Json → Option Bool
  | .bool b => some b
  | _ => none

/-- The items of an array, none if it is no array. -/
def items : Json → List Json
  | .array items => items
  | _ => []

/-- The items of an array that are objects. -/
def objects (j : Json) : List Object :=
  j.items.filterMap object?

namespace Object

/-- A field that is there and not null. -/
def field? (o : Object) (name : String) : Option Json :=
  (o.get? name).filter (· ≠ .null)

/-- A text, or a number or truth value as it is written. -/
def text? (o : Object) (name : String) : Option String :=
  o.field? name >>= Json.text?

/-- A text that is empty when absent. -/
def text (o : Object) (name : String) : String :=
  (o.text? name).getD ""

/-- A decimal. -/
def decimal? (o : Object) (name : String) : Option String :=
  o.field? name >>= Json.decimal?

/-- A decimal that is zero when absent. -/
def decimal (o : Object) (name : String) : String :=
  (o.decimal? name).getD "0"

/-- A 64-bit integer. -/
def integer? (o : Object) (name : String) : Option Int64 :=
  o.field? name >>= Json.integer?

/-- A truth value. -/
def bool? (o : Object) (name : String) : Option Bool :=
  o.field? name >>= Json.bool?

/-- A truth value that is false when absent. -/
def flag (o : Object) (name : String) : Bool :=
  (o.bool? name).getD false

/-- The texts and numbers of an array. -/
def texts (o : Object) (name : String) : List String :=
  match o.field? name with
  | some j => j.items.filterMap Json.decimal?
  | none => []

/-- The object under a name, as the given reading takes it. -/
def section? (o : Object) (name : String) (read : Object → α) : Option α :=
  (o.field? name >>= Json.object?).map read

/-- The objects of an array. -/
def objects (o : Object) (name : String) : List Object :=
  match o.field? name with
  | some j => j.objects
  | none => []

/-- Free data: an object as it stands, and the empty object when absent. -/
def metadata (o : Object) (name : String) : Json :=
  match o.field? name with
  | some (.object fields) => .object fields
  | _ => .object []

/-- Free data that may be absent. -/
def metadata? (o : Object) (name : String) : Option Json :=
  match o.field? name with
  | some (.object fields) => some (.object fields)
  | _ => none

end Object

end Proforma.Json
