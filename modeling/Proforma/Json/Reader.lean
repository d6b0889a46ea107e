import Proforma.Json.Literal
import Proforma.Text.Hex
import Proforma.Text.Utf8

/-!
# Reading JSON

A text is read as one value with blanks around it and nothing else. Arrays and objects may be
nested 127 deep. Of two fields with one name the later counts.
-/

namespace Proforma.Json

/-- The blanks of JSON. -/
def isSpace (c : Char) : Bool :=
  c == ' ' || c == '\t' || c == '\n' || c == '\r'

/-- What is left after blanks. -/
def skipSpace (cs : List Char) : List Char :=
  cs.dropWhile isSpace

/-- The deepest nesting of arrays and objects. -/
def maxDepth : Nat := 127

/-! ## Strings -/

/-- The number of four hexadecimal digits. -/
def hexUnit? (a b c d : Char) : Option Nat := do
  let digits ← [a, b, c, d].mapM Text.hexDigit?
  return digits.foldl (fun n digit => n * 16 + digit) 0

/-- The character of a high and a low surrogate. -/
def surrogatePair? (high low : Nat) : Option Char :=
  if 0xD800 ≤ high ∧ high < 0xDC00 ∧ 0xDC00 ≤ low ∧ low < 0xE000 then
    some (Char.ofNat (0x10000 + (high - 0xD800) * 0x400 + (low - 0xDC00)))
  else none

/-- The character that a letter after a backslash stands for. -/
def escape? : Char → Option Char
  | '"' => some '"'
  | '\\' => some '\\'
  | '/' => some '/'
  | 'b' => some '\x08'
  | 'f' => some '\x0c'
  | 'n' => some '\n'
  | 'r' => some '\r'
  | 't' => some '\t'
  | _ => none

/-- Reads a string after its opening quote. A surrogate counts only as half of a pair. -/
def readString (acc : List Char) : List Char → Option (String × List Char)
  | '"' :: rest => some (String.ofList acc.reverse, rest)
  | '\\' :: 'u' :: a :: b :: c :: d :: rest =>
    match hexUnit? a b c d with
    | none => none
    | some unit =>
      if unit < 0xD800 ∨ 0xE000 ≤ unit then readString (Char.ofNat unit :: acc) rest
      else
        match rest with
        | '\\' :: 'u' :: e :: f :: g :: h :: rest =>
          match hexUnit? e f g h >>= surrogatePair? unit with
          | some char => readString (char :: acc) rest
          | none => none
        | _ => none
  | '\\' :: c :: rest =>
    match escape? c with
    | some char => readString (char :: acc) rest
    | none => none
  | c :: rest => if c.toNat < 0x20 then none else readString (c :: acc) rest
  | [] => none

/-! ## Values -/

/-- Splits a word off the front. -/
def takeWord : List Char → List Char → Option (List Char)
  | [], rest => some rest
  | w :: ws, c :: cs => if w = c then takeWord ws cs else none
  | _ :: _, [] => none

mutual

/-- Reads a value that starts here, blanks skipped. `depth` is how much nesting is left, `fuel`
bounds the number of calls. -/
def readValue (fuel depth : Nat) (cs : List Char) : Option (Json × List Char) :=
  match fuel with
  | 0 => none
  | fuel + 1 =>
    match skipSpace cs with
    | '"' :: rest => (readString [] rest).map fun (s, r) => (.string s, r)
    | '[' :: rest =>
      match depth with
      | 0 => none
      | depth + 1 =>
        match skipSpace rest with
        | ']' :: rest => some (.array [], rest)
        | rest => readItems fuel depth [] rest
    | '{' :: rest =>
      match depth with
      | 0 => none
      | depth + 1 =>
        match skipSpace rest with
        | '}' :: rest => some (.object [], rest)
        | rest => readFields fuel depth [] rest
    | 't' :: rest => (takeWord "rue".toList rest).map fun r => (.bool true, r)
    | 'f' :: rest => (takeWord "alse".toList rest).map fun r => (.bool false, r)
    | 'n' :: rest => (takeWord "ull".toList rest).map fun r => (.null, r)
    | cs => do
      let (parts, rest) ← JsonNumber.parts? cs
      return (.number (← parts.toNumber?), rest)

/-- Reads the items of an array from the next one on; `items` are those before it, last first. -/
def readItems (fuel depth : Nat) (items : List Json) (cs : List Char) :
    Option (Json × List Char) :=
  match fuel with
  | 0 => none
  | fuel + 1 =>
    match readValue fuel depth cs with
    | none => none
    | some (item, rest) =>
      match skipSpace rest with
      | ',' :: rest => readItems fuel depth (item :: items) rest
      | ']' :: rest => some (.array (item :: items).reverse, rest)
      | _ => none

/-- Reads the fields of an object from the next one on. -/
def readFields (fuel depth : Nat) (fields : Object) (cs : List Char) :
    Option (Json × List Char) :=
  match fuel with
  | 0 => none
  | fuel + 1 =>
    match skipSpace cs with
    | '"' :: rest =>
      match readString [] rest with
      | none => none
      | some (name, rest) =>
        match skipSpace rest with
        | ':' :: rest =>
          match readValue fuel depth rest with
          | none => none
          | some (value, rest) =>
            let fields := fields.insert name value
            match skipSpace rest with
            | ',' :: rest => readFields fuel depth fields rest
            | '}' :: rest => some (.object fields, rest)
            | _ => none
        | _ => none
    | _ => none

end

/-- Reads a text as one value. Every call of the reader that leads to another takes a character
or is the one reading of a value in an item or field that took one, so twice the length bounds
the calls. -/
def read? (cs : List Char) : Option Json :=
  match readValue (2 * cs.length + 2) maxDepth cs with
  | some (value, rest) => if (skipSpace rest).isEmpty then some value else none
  | none => none

/-- Reads bytes as one value. -/
def ofBytes? (bytes : List UInt8) : Option Json :=
  Text.Utf8.decode? bytes >>= read?

end Proforma.Json
