/-!
# Names in ASCII

The form in which names with characters beyond ASCII are sent: their ASCII characters, a hyphen,
and a number for each of the others that says which it is and where it goes. The numbers are
written with the digits `a` to `z` and `0` to `9`, the least first. Which digit ends a number
depends on a bias, which follows the size of the numbers before.
-/

namespace Proforma.Address.Punycode

/-- The value of a digit. -/
def digit? (c : Char) : Option Nat :=
  if c.isLower then some (c.toNat - 'a'.toNat)
  else if c.isDigit then some (c.toNat - '0'.toNat + 26)
  else none

/-- The least digit that does not end a number. `place` is 36 for the first digit, 72 for the
second and so on. -/
def threshold (place bias : Nat) : Nat :=
  min (max (place - bias) 1) 26

/-- Reads the digits of a number. The result is the number, added to `sum`, and what follows. -/
def readNumber? (bias place weight sum : Nat) : List Char → Option (Nat × List Char)
  | [] => none
  | c :: rest =>
    match digit? c with
    | none => none
    | some d =>
      let t := threshold place bias
      if d < t then some (sum + d * weight, rest)
      else readNumber? bias (place + 36) (weight * (36 - t)) (sum + d * weight) rest

/-- Reading a number uses up characters. -/
theorem length_lt_of_readNumber? {bias place weight sum : Nat} {cs : List Char}
    {r : Nat × List Char} (h : readNumber? bias place weight sum cs = some r) :
    r.2.length < cs.length := by
  induction cs generalizing place weight sum with
  | nil => simp [readNumber?] at h
  | cons c rest ih =>
    simp only [readNumber?] at h
    split at h
    · simp at h
    · split at h
      · simp only [Option.some.injEq] at h
        simp [← h]
      · exact Nat.lt_succ_of_lt (ih h)

/-- The bias after a large number. -/
def biasOf (delta bias : Nat) : Nat :=
  if 455 < delta then biasOf (delta / 35) (bias + 36)
  else bias + 36 * delta / (delta + 38)
termination_by delta
decreasing_by exact Nat.div_lt_self (by omega) (by decide)

/-- The bias after a number, when there are `count` characters. The first number counts less. -/
def nextBias (delta count : Nat) (isFirst : Bool) : Nat :=
  let scaled := if isFirst then delta / 700 else delta / 2
  biasOf (scaled + scaled / count) 0

/-- Reads the numbers and puts their characters in. The search for the next place goes on at the
code point `point` and the position `position`. -/
def insertAll? (bias point position : Nat) (out : List Char) (cs : List Char) :
    Option (List Char) :=
  match cs with
  | [] => some out
  | c :: rest =>
    match _read : readNumber? bias 36 1 position (c :: rest) with
    | none => none
    | some (sum, after) =>
      let count := out.length + 1
      let point := point + sum / count
      if point.isValidChar then
        insertAll? (nextBias (sum - position) count (position = 0)) point
          (sum % count + 1) (out.insertIdx (sum % count) (Char.ofNat point)) after
      else none
termination_by cs.length
decreasing_by exact length_lt_of_readNumber? _read

/-- The characters before the last hyphen, and those after it. A hyphen with nothing before it
belongs to the rest. -/
def splitBasic (cs : List Char) : List Char × List Char :=
  let numbers := (cs.reverse.takeWhile (· ≠ '-')).reverse
  match cs.take (cs.length - numbers.length - 1) with
  | [] => ([], cs)
  | basic => (basic, numbers)

/-- The name that a text in ASCII denotes. -/
def decode? (cs : List Char) : Option (List Char) :=
  let (basic, numbers) := splitBasic cs
  insertAll? 72 0x80 0 basic numbers

end Proforma.Address.Punycode
