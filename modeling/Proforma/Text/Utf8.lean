/-!
# UTF-8

Bytes are read one at a time. What is not UTF-8 is cut into maximal invalid parts: a part ends
where the next byte can no longer continue the sequence begun. Lossy reading puts one
replacement character for each part; strict reading refuses them all.
-/

namespace Proforma.Text.Utf8

/-- A sequence begun and not yet complete. -/
structure Pending where
  /-- The bits of the code point read so far. -/
  bits : Nat
  /-- How many continuation bytes are missing, less one. -/
  missing : Nat
  /-- The least value that the next byte may have. -/
  low : Nat
  /-- The greatest value that the next byte may have. -/
  high : Nat

/-- What a byte says when it stands at the start of a sequence. -/
inductive Lead where
  | char (c : Char)
  | begins (p : Pending)
  | invalid

/-- Reads a byte at the start of a sequence. Overlong forms, surrogates and code points beyond
U+10FFFF are kept out by the range of the second byte. -/
def lead (b : UInt8) : Lead :=
  let n := b.toNat
  if n < 0x80 then .char (Char.ofNat n)
  else if n < 0xC2 then .invalid
  else if n < 0xE0 then .begins ⟨n - 0xC0, 0, 0x80, 0xBF⟩
  else if n = 0xE0 then .begins ⟨0, 1, 0xA0, 0xBF⟩
  else if n = 0xED then .begins ⟨0xD, 1, 0x80, 0x9F⟩
  else if n < 0xF0 then .begins ⟨n - 0xE0, 1, 0x80, 0xBF⟩
  else if n = 0xF0 then .begins ⟨0, 2, 0x90, 0xBF⟩
  else if n < 0xF4 then .begins ⟨n - 0xF0, 2, 0x80, 0xBF⟩
  else if n = 0xF4 then .begins ⟨4, 2, 0x80, 0x8F⟩
  else .invalid

/-- The characters of the bytes in order, with `none` for each maximal invalid part. -/
def pieces : Option Pending → List UInt8 → List (Option Char)
  | none, [] => []
  | some _, [] => [none]
  | none, b :: rest =>
    match lead b with
    | .char c => some c :: pieces none rest
    | .begins p => pieces (some p) rest
    | .invalid => none :: pieces none rest
  | some p, b :: rest =>
    let n := b.toNat
    if p.low ≤ n ∧ n ≤ p.high then
      let bits := p.bits * 64 + (n - 0x80)
      match p.missing with
      | 0 => some (Char.ofNat bits) :: pieces none rest
      | m + 1 => pieces (some ⟨bits, m, 0x80, 0xBF⟩) rest
    else
      -- the part ends before this byte, which starts anew
      match lead b with
      | .char c => none :: some c :: pieces none rest
      | .begins p => none :: pieces (some p) rest
      | .invalid => none :: none :: pieces none rest

/-- The character put in place of each maximal invalid part. -/
def replacement : Char := '\uFFFD'

/-- The text of the bytes, with the replacement character for each maximal invalid part. -/
def decodeLossy (bytes : List UInt8) : String :=
  String.ofList ((pieces none bytes).map (·.getD replacement))

/-- The characters of the bytes, if all of them are UTF-8. -/
def decode? (bytes : List UInt8) : Option (List Char) :=
  (pieces none bytes).mapM id

/-- The bytes of a text. -/
def encode (s : String) : List UInt8 :=
  s.toUTF8.toList

end Proforma.Text.Utf8
