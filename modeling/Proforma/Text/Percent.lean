import Proforma.Text.Hex
import Proforma.Text.Utf8

/-!
# Percent signs

In addresses a byte may be written as a percent sign and two hexadecimal digits. Characters
beyond ASCII are always written so, byte by byte; which others are is for each part of an address
to say. In a form a space becomes a plus sign.
-/

namespace Proforma.Text.Percent

/-- A byte as a percent sign and two digits. -/
def encodeByte (b : UInt8) : List Char :=
  ['%', (hexDigit (b.toNat / 16)).toUpper, (hexDigit (b.toNat % 16)).toUpper]

/-- The characters with all but the kept ones encoded. -/
def encode (keeps : Char → Bool) (cs : List Char) : List Char :=
  cs.flatMap fun c =>
    if c.toNat < 0x80 && keeps c then [c]
    else (Utf8.encode (String.singleton c)).flatMap encodeByte

/-- The bytes of a text with its encoded bytes decoded. A percent sign without two digits stands
for itself. -/
def decode : List Char → List UInt8
  | [] => []
  | '%' :: high :: low :: rest =>
    match hexDigit? high, hexDigit? low with
    | some h, some l => UInt8.ofNat (h * 16 + l) :: decode rest
    | _, _ => 0x25 :: decode (high :: low :: rest)
  | c :: rest => Utf8.encode (String.singleton c) ++ decode rest

/-! ## Forms -/

/-- The characters that stand for themselves in a form. -/
def isFormChar (c : Char) : Bool :=
  c.isAlphanum || "*-._".toList.contains c

/-- A text as it stands in a form. -/
def formText (s : String) : List Char :=
  (encode (fun c => c = ' ' || isFormChar c) s.toList).map fun c => if c = ' ' then '+' else c

/-- Names with values as they stand in a form. -/
def formPairs (pairs : List (String × String)) : List Char :=
  ((pairs.map fun p => formText p.1 ++ '=' :: formText p.2).intersperse ['&']).flatten

end Proforma.Text.Percent
