import Proforma.NameMap
import Proforma.Number.Shortest

/-!
# JSON values

A number is an integer of 64 bits, signed or not, or a binary floating point number. The fields
of an object are kept in the order of their names by code point, so that objects with the same
fields are equal.
-/

namespace Proforma

open Number

/-- The integers that a JSON number holds exactly. -/
def IsJsonInt (n : Int) : Prop := -2 ^ 63 ≤ n ∧ n < 2 ^ 64

instance (n : Int) : Decidable (IsJsonInt n) :=
  inferInstanceAs (Decidable (_ ∧ _))

/-- A JSON number. -/
inductive JsonNumber where
  | int (n : Int) (isJsonInt : IsJsonInt n)
  | double (x : Binary64)
  deriving DecidableEq

namespace JsonNumber

/-- A 64-bit integer as a number. -/
def ofInt64 (n : Int64) : JsonNumber :=
  .int n.toInt ⟨n.le_toInt, Int.lt_trans n.toInt_lt (by decide)⟩

/-- The number as a signed 64-bit integer, if it is an integer in range. -/
def toInt64? : JsonNumber → Option Int64
  | .int n _ => if n < 2 ^ 63 then some (Int64.ofInt n) else none
  | .double _ => none

/-- The number in binary floating point. -/
def toDouble : JsonNumber → Double
  | .int n _ => .ofInt n
  | .double x => .finite x

/-- The text of a number. -/
def text : JsonNumber → String
  | .int n _ => toString n
  | .double x => x.text

end JsonNumber

/-- A JSON value. -/
inductive Json where
  | null
  | bool (b : Bool)
  | number (n : JsonNumber)
  | string (s : String)
  | array (items : List Json)
  | object (fields : List (String × Json))

namespace Json

/-! ## Equality -/

mutual

/-- Equality of values. -/
def same : Json → Json → Bool
  | .null, .null => true
  | .bool a, .bool b => a == b
  | .number a, .number b => a == b
  | .string a, .string b => a == b
  | .array a, .array b => sameItems a b
  | .object a, .object b => sameFields a b
  | _, _ => false

/-- Equality of arrays, item by item. -/
def sameItems : List Json → List Json → Bool
  | [], [] => true
  | a :: as, b :: bs => same a b && sameItems as bs
  | _, _ => false

/-- Equality of objects, field by field. -/
def sameFields : List (String × Json) → List (String × Json) → Bool
  | [], [] => true
  | (k, a) :: as, (l, b) :: bs => k == l && same a b && sameFields as bs
  | _, _ => false

end

mutual

theorem same_iff : ∀ a b : Json, same a b = true ↔ a = b
  | .null, b => by cases b <;> simp [same]
  | .bool x, b => by cases b <;> simp [same]
  | .number x, b => by cases b <;> simp [same]
  | .string x, b => by cases b <;> simp [same]
  | .array xs, b => by cases b <;> simp [same, sameItems_iff xs]
  | .object xs, b => by cases b <;> simp [same, sameFields_iff xs]

theorem sameItems_iff : ∀ a b : List Json, sameItems a b = true ↔ a = b
  | [], b => by cases b <;> simp [sameItems]
  | x :: xs, b => by cases b <;> simp [sameItems, same_iff x, sameItems_iff xs]

theorem sameFields_iff : ∀ a b : List (String × Json), sameFields a b = true ↔ a = b
  | [], b => by cases b <;> simp [sameFields]
  | (k, x) :: xs, b => by
    rcases b with _ | ⟨⟨l, y⟩, ys⟩ <;>
      simp [sameFields, same_iff x, sameFields_iff xs, and_assoc]

end

instance : DecidableEq Json := fun a b =>
  if h : same a b = true then isTrue ((same_iff a b).1 h)
  else isFalse fun e => h ((same_iff a b).2 e)

/-! ## Objects -/

/-- The fields of an object, by name. -/
abbrev Object := NameMap Json

/-- The object with the given fields. -/
def ofFields (fields : List (String × Json)) : Json :=
  .object (NameMap.ofList fields)

/-- Null stands for an absent value. -/
def ofOption (write : α → Json) : Option α → Json
  | none => .null
  | some a => write a

/-- A 64-bit integer as a value. -/
def ofInt64 (n : Int64) : Json :=
  .number (.ofInt64 n)

end Json

end Proforma
