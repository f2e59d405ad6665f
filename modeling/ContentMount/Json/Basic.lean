/-
This file defines JSON documents and writes them without blanks.
-/

namespace ContentMount

/-- A document. A number keeps the text in which it was written, and an object keeps its fields
in their order, even when two have the same name. A torn document is a string, or an object with
a name, that escapes half of a surrogate pair. It is well formed, but no text holds what it says,
so it can be passed over and not looked into. -/
inductive Json where
  | null
  | bool (value : Bool)
  | number (text : List Char)
  | string (text : String)
  | array (items : List Json)
  | object (fields : List (String × Json))
  | torn

namespace Json

/-- A hexadecimal digit, lower case. -/
def hexDigit (n : Nat) : Char :=
  Nat.digitChar n

/-- How a character is written in a string. Only quotes, backslashes and the characters below
the space are escaped. -/
def escape (c : Char) : List Char :=
  if c == '"' then ['\\', '"']
  else if c == '\\' then ['\\', '\\']
  else if c == '\n' then ['\\', 'n']
  else if c == '\r' then ['\\', 'r']
  else if c == '\t' then ['\\', 't']
  else if c.toNat == 8 then ['\\', 'b']
  else if c.toNat == 12 then ['\\', 'f']
  else if c.toNat < 0x20 then
    ['\\', 'u', '0', '0', hexDigit (c.toNat / 16), hexDigit (c.toNat % 16)]
  else [c]

/-- The shortest torn document, a string with the first half of a pair. -/
def tornText : List Char :=
  ['"', '\\', 'u', 'd', '8', '0', '0', '"']

/-- A string between its quotes. -/
def writeString (text : List Char) : List Char :=
  '"' :: text.flatMap escape ++ ['"']

mutual

/-- The document as text. -/
def write : Json → List Char
  | .null => "null".toList
  | .bool true => "true".toList
  | .bool false => "false".toList
  | .number text => text
  | .string text => writeString text.toList
  | .array items => '[' :: writeItems items
  | .object fields => '\x7b' :: writeFields fields
  | .torn => tornText

/-- The items after an opening bracket, with the closing one. -/
def writeItems : List Json → List Char
  | [] => [']']
  | [item] => write item ++ [']']
  | item :: rest => write item ++ ',' :: writeItems rest

/-- The fields after an opening brace, with the closing one. -/
def writeFields : List (String × Json) → List Char
  | [] => ['\x7d']
  | [(name, value)] => writeString name.toList ++ ':' :: write value ++ ['\x7d']
  | (name, value) :: rest =>
    writeString name.toList ++ ':' :: write value ++ ',' :: writeFields rest

end

/-- The document as a text. -/
def text (json : Json) : String :=
  String.ofList json.write

end Json

end ContentMount
