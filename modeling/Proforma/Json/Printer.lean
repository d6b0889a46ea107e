import Proforma.Json.Basic
import Proforma.Text.Hex

/-!
# Writing JSON

The compact text of a value: no blanks, fields in the order in which the object has them, and
only those characters escaped that have to be.
-/

namespace Proforma.Json

/-- The characters written for one character of a string. -/
def escapeChar (c : Char) : List Char :=
  if c = '"' then ['\\', '"']
  else if c = '\\' then ['\\', '\\']
  else if c = '\n' then ['\\', 'n']
  else if c = '\r' then ['\\', 'r']
  else if c = '\t' then ['\\', 't']
  else if c = '\x08' then ['\\', 'b']
  else if c = '\x0c' then ['\\', 'f']
  else if c.toNat < 0x20 then
    ['\\', 'u', '0', '0', Text.hexDigit (c.toNat / 16), Text.hexDigit (c.toNat % 16)]
  else [c]

/-- A string in quotes. -/
def quoted (s : String) : List Char :=
  '"' :: s.toList.flatMap escapeChar ++ ['"']

mutual

/-- The characters of a value, in front of `tail`. -/
def write (tail : List Char) : Json → List Char
  | .null => "null".toList ++ tail
  | .bool b => (if b then "true".toList else "false".toList) ++ tail
  | .number n => n.text.toList ++ tail
  | .string s => quoted s ++ tail
  | .array items => '[' :: writeItems (']' :: tail) items
  | .object fields => '{' :: writeFields ('}' :: tail) fields

/-- The items of an array with commas between them. -/
def writeItems (tail : List Char) : List Json → List Char
  | [] => tail
  | [item] => write tail item
  | item :: rest => write (',' :: writeItems tail rest) item

/-- The fields of an object with commas between them. -/
def writeFields (tail : List Char) : List (String × Json) → List Char
  | [] => tail
  | [(name, value)] => quoted name ++ ':' :: write tail value
  | (name, value) :: rest =>
    quoted name ++ ':' :: write (',' :: writeFields tail rest) value

end

/-- The compact text of a value. -/
def text (j : Json) : String :=
  String.ofList (write [] j)

end Proforma.Json
