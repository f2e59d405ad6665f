/-
This file reads JSON documents. Nothing but blanks may stand around a document.
-/

import ContentMount.Json.Basic

namespace ContentMount.Json

/-- The blanks of JSON. -/
def isGap (c : Char) : Bool :=
  c == ' ' || c == '\n' || c == '\r' || c == '\t'

/-- The rest after blanks. -/
def skipGap (text : List Char) : List Char :=
  text.dropWhile isGap

/-- The value of a hexadecimal digit of either case. -/
def hexValue? (c : Char) : Option Nat :=
  if c.isDigit then some (c.toNat - '0'.toNat)
  else if 'a' ≤ c && c ≤ 'f' then some (c.toNat - 'a'.toNat + 10)
  else if 'A' ≤ c && c ≤ 'F' then some (c.toNat - 'A'.toNat + 10)
  else none

/-- The number that four hexadecimal digits write. -/
def unitOf? (a b c d : Char) : Option Nat := do
  return ((← hexValue? a) * 16 + (← hexValue? b)) * 256 + (← hexValue? c) * 16 + (← hexValue? d)

/-- A part of a string: a character, or half of a surrogate pair written by its number. -/
inductive Piece where
  | char (c : Char)
  | half (unit : Nat)

/-- The piece that an escaped number stands for. -/
def Piece.ofUnit (unit : Nat) : Piece :=
  if 0xD800 ≤ unit && unit < 0xE000 then .half unit else .char (Char.ofNat unit)

/-- The character that a pair of surrogates stands for, the high one first. -/
def joinSurrogates? (high low : Nat) : Option Char :=
  if high < 0xDC00 && 0xDC00 ≤ low then
    some (Char.ofNat (0x10000 + (high - 0xD800) * 0x400 + (low - 0xDC00)))
  else none

/-- The text of a string. Every half has to belong to a pair. -/
def textOf? : List Piece → Option (List Char)
  | [] => some []
  | .char c :: rest => (textOf? rest).map (c :: ·)
  | .half high :: .half low :: rest => do
    return (← joinSurrogates? high low) :: (← textOf? rest)
  | .half _ :: _ => none

/-- The character that a letter after a backslash stands for. -/
def shortEscape? (c : Char) : Option Char :=
  if c == '"' || c == '\\' || c == '/' then some c
  else if c == 'b' then some (Char.ofNat 8)
  else if c == 'f' then some (Char.ofNat 12)
  else if c == 'n' then some '\n'
  else if c == 'r' then some '\r'
  else if c == 't' then some '\t'
  else none

/-- Adds a piece in front of those that have been read. -/
def withPiece (piece : Piece) : Option (List Piece × List Char) → Option (List Piece × List Char)
  | some (pieces, rest) => some (piece :: pieces, rest)
  | none => none

/-- Reads the pieces of a string after its opening quote, up to its closing one. -/
def readPieces : List Char → Option (List Piece × List Char)
  | [] => none
  | '"' :: rest => some ([], rest)
  | '\\' :: 'u' :: a :: b :: c :: d :: rest =>
    match unitOf? a b c d with
    | none => none
    | some unit => withPiece (.ofUnit unit) (readPieces rest)
  | '\\' :: c :: rest =>
    match shortEscape? c with
    | none => none
    | some c => withPiece (.char c) (readPieces rest)
  | c :: rest =>
    if c.toNat < 0x20 || c == '\\' then none else withPiece (.char c) (readPieces rest)

/-- Reads a string after its opening quote. A torn string has no text. -/
def readString (text : List Char) : Option (Option (List Char) × List Char) :=
  (readPieces text).map fun (pieces, rest) => (textOf? pieces, rest)

/-- Splits off the digits at the start. -/
def spanDigits (text : List Char) : List Char × List Char :=
  (text.takeWhile Char.isDigit, text.dropWhile Char.isDigit)

/-- Splits off the whole part of a number. A zero stands alone. -/
def spanWhole (text : List Char) : Option (List Char × List Char) :=
  match text with
  | '0' :: rest => if (rest.head?.map Char.isDigit).getD false then none else some (['0'], rest)
  | _ =>
    let (digits, rest) := spanDigits text
    if digits.isEmpty then none else some (digits, rest)

/-- Splits off the places after a point. A point needs at least one. -/
def spanPlaces : List Char → Option (List Char × List Char)
  | '.' :: rest =>
    let (digits, rest) := spanDigits rest
    if digits.isEmpty then none else some ('.' :: digits, rest)
  | text => some ([], text)

/-- Splits off an exponent. Its letter needs at least one digit. -/
def spanExponent (text : List Char) : Option (List Char × List Char) :=
  match text with
  | c :: rest =>
    if c == 'e' || c == 'E' then
      let (sign, rest) := match rest with
        | '+' :: rest => (['+'], rest)
        | '-' :: rest => (['-'], rest)
        | rest => ([], rest)
      let (digits, rest) := spanDigits rest
      if digits.isEmpty then none else some (c :: sign ++ digits, rest)
    else some ([], text)
  | [] => some ([], [])

/-- Reads a number and keeps its text. -/
def readNumber (text : List Char) : Option (Json × List Char) := do
  let (sign, body) := match text with
    | '-' :: rest => (['-'], rest)
    | rest => ([], rest)
  let (whole, rest) ← spanWhole body
  let (places, rest) ← spanPlaces rest
  let (exponent, rest) ← spanExponent rest
  return (.number (sign ++ whole ++ places ++ exponent), rest)

/-- Reads one of the three words. -/
def readWord (text : List Char) : Option (Json × List Char) :=
  match text with
  | 'n' :: 'u' :: 'l' :: 'l' :: rest => some (.null, rest)
  | 't' :: 'r' :: 'u' :: 'e' :: rest => some (.bool true, rest)
  | 'f' :: 'a' :: 'l' :: 's' :: 'e' :: rest => some (.bool false, rest)
  | _ => none

/-- The document of a string. -/
def ofString : Option (List Char) → Json
  | some text => .string (String.ofList text)
  | none => .torn

/-- The document of an object. A torn name tears all of it. -/
def ofFields : Option (List (String × Json)) → Json
  | some fields => .object fields
  | none => .torn

/-- Adds a field in front of others, unless a name is torn. -/
def withField (name : Option (List Char)) (value : Json) (fields : Option (List (String × Json))) :
    Option (List (String × Json)) := do
  return (String.ofList (← name), value) :: (← fields)

mutual

/-- Reads a value. The depth bounds how far this function calls itself. -/
def readValue : Nat → List Char → Option (Json × List Char)
  | 0, _ => none
  | depth + 1, text =>
    match text with
    | '"' :: rest => (readString rest).map fun (text, rest) => (ofString text, rest)
    | '[' :: rest =>
      match skipGap rest with
      | ']' :: rest => some (.array [], rest)
      | rest => (readItems depth rest).map fun (items, rest) => (.array items, rest)
    | '\x7b' :: rest =>
      match skipGap rest with
      | '\x7d' :: rest => some (.object [], rest)
      | rest => (readFields depth rest).map fun (fields, rest) => (ofFields fields, rest)
    | _ => readWord text <|> readNumber text

/-- Reads at least one item, up to the closing bracket. -/
def readItems : Nat → List Char → Option (List Json × List Char)
  | 0, _ => none
  | depth + 1, text =>
    match readValue depth (skipGap text) with
    | none => none
    | some (item, rest) =>
      match skipGap rest with
      | ',' :: rest => (readItems depth rest).map fun (items, rest) => (item :: items, rest)
      | ']' :: rest => some ([item], rest)
      | _ => none

/-- Reads at least one field, up to the closing brace. -/
def readFields : Nat → List Char → Option (Option (List (String × Json)) × List Char)
  | 0, _ => none
  | depth + 1, text =>
    match skipGap text with
    | '"' :: rest =>
      match readString rest with
      | none => none
      | some (name, rest) =>
        match skipGap rest with
        | ':' :: rest =>
          match readValue depth (skipGap rest) with
          | none => none
          | some (value, rest) =>
            match skipGap rest with
            | ',' :: rest =>
              (readFields depth rest).map fun (fields, rest) => (withField name value fields, rest)
            | '\x7d' :: rest => some (withField name value (some []), rest)
            | _ => none
        | _ => none
    | _ => none

end

/-- Reads a whole document. Each call takes a character or ends, so twice the length of the text
is depth enough. -/
def read (text : String) : Option Json :=
  let text := text.toList
  match readValue (2 * text.length + 1) (skipGap text) with
  | some (json, rest) => if (skipGap rest).isEmpty then some json else none
  | none => none

end ContentMount.Json
