/-
This file writes text in double quotes so that every character shows.
-/

import ContentMount.Text.Printable
import ContentMount.Text.Extending

namespace ContentMount.Text

/-- The hexadecimal digits of a number, lower case, without leading zeros. -/
def hexDigits (n : Nat) : List Char :=
  Nat.toDigits 16 n

/-- A character by its number: a backslash, the letter u and the number in braces. -/
def escapeByNumber (c : Char) : List Char :=
  ['\\', 'u', '\x7b'] ++ hexDigits c.toNat ++ ['\x7d']

/-- How one character is written between double quotes. A mark that extends the character
before it is written by its number, as is everything that leaves no trace on paper. -/
def escapeChar (c : Char) : List Char :=
  match c with
  | '\x00' => ['\\', '0']
  | '\t' => ['\\', 't']
  | '\r' => ['\\', 'r']
  | '\n' => ['\\', 'n']
  | '\\' => ['\\', '\\']
  | '"' => ['\\', '"']
  | _ => if isExtending c || !isPrintable c then escapeByNumber c else [c]

/-- The text between double quotes, each character escaped as needed. -/
def quoted (text : String) : String :=
  String.ofList ('"' :: text.toList.flatMap escapeChar ++ ['"'])

end ContentMount.Text
