import Proforma.Address.Host

/-!
# Addresses

The address of something that can be asked for over HTTP. Reading is generous: blanks and control
characters at both ends, tabs and line ends anywhere, and any number of slashes before the host
count for nothing, a backslash is a slash, and the dots in a path that mean this level or the one
above are worked out. A user in front of the host is passed over.
-/

namespace Proforma

/-- An address. Path, query and fragment are as they are sent. -/
structure Address where
  secure : Bool
  host : Address.Host
  port : Nat
  /-- Begins with a slash. -/
  path : List Char
  query : Option (List Char)
  fragment : Option (List Char)
  deriving DecidableEq

namespace Address

/-! ## Characters -/

/-- Whether a character at the end of an address counts for nothing. -/
def isPadding (c : Char) : Bool :=
  c.toNat ≤ 0x20

/-- Whether a character of an address counts for nothing wherever it stands. -/
def isIgnored (c : Char) : Bool :=
  c = '\t' || c = '\n' || c = '\r'

/-- Slashes of both kinds. -/
def isSlash (c : Char) : Bool :=
  c = '/' || c = '\\'

/-- The printable characters of ASCII, without the blank and some others. -/
def isPrintableBut (others : String) (c : Char) : Bool :=
  0x20 < c.toNat && c.toNat < 0x7F && !others.toList.contains c

/-- The characters that stand for themselves in a fragment. -/
def isFragmentChar : Char → Bool :=
  isPrintableBut "\"<>\x60"

/-- The characters that stand for themselves in a path. -/
def isPathChar : Char → Bool :=
  isPrintableBut "\"#<>?\x60\x7b\x7d"

/-- The characters that stand for themselves in a query. -/
def isQueryChar : Char → Bool :=
  isPrintableBut "\"#<>'"

/-! ## Host and port -/

/-- The port of an address that gives none. -/
def defaultPort (secure : Bool) : Nat :=
  if secure then 443 else 80

/-- A port is empty or a number of 16 bits. -/
def port? (secure : Bool) (ds : List Char) : Option Nat :=
  if !ds.all Char.isDigit then none
  else if ds.isEmpty then some (defaultPort secure)
  else some (Number.ofDigits ds) |>.filter (· < 65536)

/-- The characters before the first colon that is not in brackets, and those from there on. -/
def splitHost (inBrackets : Bool) : List Char → List Char × List Char
  | [] => ([], [])
  | c :: rest =>
    if c = ':' && !inBrackets then ([], c :: rest)
    else
      let (host, port) := splitHost (if c = '[' then true else c ≠ ']' && inBrackets) rest
      (c :: host, port)

/-- The characters after the last at-sign. -/
def afterUser (cs : List Char) : List Char :=
  (cs.reverse.takeWhile (· ≠ '@')).reverse

/-- Reads host and port. -/
def authority? (secure : Bool) (cs : List Char) : Option (Host × Nat) := do
  let (host, port) := splitHost false (afterUser cs)
  return (← Host.read? host, ← port? secure (port.drop 1))

/-! ## Paths -/

/-- A piece of a path with its encoded dots written as dots. -/
def withDots : List Char → List Char
  | '%' :: '2' :: 'e' :: rest | '%' :: '2' :: 'E' :: rest => '.' :: withDots rest
  | c :: rest => c :: withDots rest
  | [] => []

/-- Whether a piece means this level. -/
def isThisLevel (piece : List Char) : Bool :=
  withDots piece = ['.']

/-- Whether a piece means the level above. -/
def isLevelAbove (piece : List Char) : Bool :=
  withDots piece = ['.', '.']

/-- The pieces of a path with the levels worked out. `kept` are the pieces so far in reverse. -/
def resolve (kept : List (List Char)) : List (List Char) → List (List Char)
  | [] => kept.reverse
  | piece :: rest =>
    if isLevelAbove piece then resolve (if rest.isEmpty then [] :: kept.tail else kept.tail) rest
    else if isThisLevel piece then resolve (if rest.isEmpty then [] :: kept else kept) rest
    else resolve (Text.Percent.encode isPathChar piece :: kept) rest

/-- The path as it is sent. -/
def readPath (cs : List Char) : List Char :=
  (resolve [] ((cs.drop 1).splitOnP isSlash)).flatMap ('/' :: ·)

/-! ## Addresses -/

/-- Splits at the first of a character, which is left out. -/
def splitFirst (c : Char) (cs : List Char) : List Char × Option (List Char) :=
  match cs.dropWhile (· ≠ c) with
  | [] => (cs, none)
  | _ :: rest => (cs.takeWhile (· ≠ c), some rest)

/-- Whether an address with this scheme is secure, if the scheme is one of HTTP. -/
def isSecure? (scheme : List Char) : Option Bool :=
  let scheme := scheme.map Char.toLower
  if scheme = "http".toList then some false
  else if scheme = "https".toList then some true
  else none

/-- Reads an address. -/
def read? (url : String) : Option Address := do
  let trimmed := ((url.toList.dropWhile isPadding).reverse.dropWhile isPadding).reverse
  let (scheme, rest) := splitFirst ':' (trimmed.filter (!isIgnored ·))
  let secure ← isSecure? scheme
  let (rest, fragment) := splitFirst '#' ((← rest).dropWhile isSlash)
  let (rest, query) := splitFirst '?' rest
  let (host, port) ← authority? secure (rest.takeWhile (!isSlash ·))
  return {
    secure, host, port
    path := readPath (rest.dropWhile (!isSlash ·))
    query := query.map (Text.Percent.encode isQueryChar)
    fragment := fragment.map (Text.Percent.encode isFragmentChar) }

/-- The address with names and values added to its query. -/
def addQuery (a : Address) (pairs : List (String × String)) : Address :=
  if pairs.isEmpty then a
  else
    match a.query.getD [] with
    | [] => { a with query := some (Text.Percent.formPairs pairs) }
    | query => { a with query := some (query ++ '&' :: Text.Percent.formPairs pairs) }

/-- What is asked for at the host. -/
def target (a : Address) : List Char :=
  a.path ++ (a.query.map ('?' :: ·)).getD []

/-- The text of an address. The port is left out if it goes without saying. -/
def text (a : Address) : List Char :=
  let scheme := if a.secure then "https://" else "http://"
  let port := if a.port = defaultPort a.secure then [] else ':' :: Nat.toDigits 10 a.port
  scheme.toList ++ a.host.text ++ port ++ a.target ++ (a.fragment.map ('#' :: ·)).getD []

end Address

end Proforma
