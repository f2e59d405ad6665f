/-
This file reads whole numbers written in decimal.
-/

namespace ContentMount.Number

/-- The value of a decimal digit. Only the ten ASCII digits count. -/
def digitValue? (c : Char) : Option Nat :=
  if c.isDigit then some (c.toNat - '0'.toNat) else none

/-- The value of a run of digits read from the left, on top of a value read before. -/
def digitsValue (start : Nat) (digits : List Char) : Nat :=
  digits.foldl (fun value c => 10 * value + (digitValue? c).getD 0) start

/-- Splits a sign off. The flag holds for a minus. -/
def splitSign : List Char → Bool × List Char
  | '-' :: rest => (true, rest)
  | '+' :: rest => (false, rest)
  | text => (false, text)

/-- An integer is an optional sign and at least one digit, and nothing else. -/
def readInteger (text : List Char) : Option Int :=
  let (negative, digits) := splitSign text
  if digits.isEmpty || !digits.all Char.isDigit then none
  else
    let value := digitsValue 0 digits
    some (if negative then -value else value)

/-- A long integer fits into 64 bits with a sign. -/
def isLong (n : Int) : Bool :=
  -0x8000000000000000 ≤ n && n < 0x8000000000000000

/-- Reads an integer that is a long one. -/
def readLong (text : List Char) : Option Int :=
  (readInteger text).filter isLong

end ContentMount.Number
