/-!
# ASCII letters

Comparison and search that ignore the case of the 26 ASCII letters and nothing else.
-/

namespace Proforma.Text

/-- The characters with ASCII capitals turned into small letters. -/
def lowerChars (s : String) : List Char :=
  s.toList.map Char.toLower

/-- The text with ASCII capitals turned into small letters. -/
def lower (s : String) : String :=
  String.ofList (lowerChars s)

/-- Equality up to the case of ASCII letters. -/
def sameIgnoringCase (a b : String) : Bool :=
  lowerChars a == lowerChars b

/-- Whether `needle` stands somewhere in the characters. -/
def occursIn (needle : List Char) : List Char → Bool
  | [] => needle.isEmpty
  | c :: rest => needle.isPrefixOf (c :: rest) || occursIn needle rest

/-- Whether the text contains `needle`, a word in small letters, in any case of ASCII letters. -/
def containsIgnoringCase (needle : String) (s : String) : Bool :=
  occursIn needle.toList (lowerChars s)

end Proforma.Text
