/-
This file reads numbers with binary64 precision. A decimal is rounded once, from its exact value
to the nearest double, and a tie goes to the even one.
-/

import ContentMount.Number.Integer
import ContentMount.Number.Rounding

namespace ContentMount.Number

/-- The bits of positive infinity. -/
def infinityBits : Nat := 0x7FF0000000000000

/-- The bits of a value that is not a number. -/
def notNumberBits : Nat := 0x7FF8000000000000

/-- The bit of a minus sign. -/
def minusBit : Nat := 0x8000000000000000

/-- The bits of the double that is nearest to a positive quotient. The significand has 53 bits,
or fewer once the exponent is at its least value. -/
def nearestBits (dividend divisor : Nat) : Nat :=
  if dividend == 0 then 0
  else
    let estimate : Int := Int.ofNat dividend.log2 - Int.ofNat divisor.log2 - 52
    let fits : Bool :=
      dividend <<< (-estimate).toNat < divisor <<< (52 + estimate.toNat)
    let exponent := max (if fits then estimate - 1 else estimate) (-1074)
    let significand := roundDiv (dividend <<< (-exponent).toNat) (divisor <<< exponent.toNat)
    min infinityBits ((exponent + 1074).toNat <<< 52 + significand)

/-- The bits of the double nearest to a decimal. A decimal beyond every double is not expanded. -/
def decimalBits (digits : Nat) (exponent : Int) : Nat :=
  let size := Int.ofNat (Nat.toDigits 10 digits).length + exponent
  if digits == 0 || size < -400 then 0
  else if size > 400 then infinityBits
  else nearestBits (digits * Nat.pow 10 exponent.toNat) (Nat.pow 10 (-exponent).toNat)

/-- The words for numbers that have no digits. -/
def specialBits? (word : List Char) : Option Nat :=
  let word := String.ofList (word.map Char.toLower)
  if word == "inf" || word == "infinity" then some infinityBits
  else if word == "nan" then some notNumberBits
  else none

/-- Reads the exponent after a decimal. Without the letter the exponent is zero. -/
def readExponent : List Char → Option Int
  | [] => some 0
  | c :: rest => if c == 'e' || c == 'E' then readInteger rest else none

/-- Reads digits with an optional point among them and an optional exponent. At least one digit
stands before or after the point. -/
def readDecimal (text : List Char) : Option (Nat × Int) :=
  let whole := text.takeWhile Char.isDigit
  let (places, rest) :=
    match text.dropWhile Char.isDigit with
    | '.' :: rest => (rest.takeWhile Char.isDigit, rest.dropWhile Char.isDigit)
    | rest => ([], rest)
  if whole.isEmpty && places.isEmpty then none
  else (readExponent rest).map fun exponent =>
    (digitsValue 0 (whole ++ places), exponent - Int.ofNat places.length)

/-- Reads a double: an optional sign, and then a special word or a decimal. -/
def readDouble (text : List Char) : Option Float :=
  let (negative, body) := splitSign text
  let bits := specialBits? body <|> (readDecimal body).map fun (digits, exponent) =>
    decimalBits digits exponent
  bits.map fun bits => Float.ofBits (bits + if negative then minusBit else 0).toUInt64

end ContentMount.Number
