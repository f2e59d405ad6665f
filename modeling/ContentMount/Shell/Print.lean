/-
This file prints the content of files. Text is printed as it is, and other bytes are printed in
hexadecimal.
-/

import ContentMount.Shell.Location
import ContentMount.Shell.Output

namespace ContentMount.Shell

/-- The hexadecimal digits of a number, filled with zeros up to a width. -/
def paddedHex (width n : Nat) : List Char :=
  let digits := Nat.toDigits 16 n
  List.replicate (width - digits.length) '0' ++ digits

/-- The number of bytes in a row, and the number of bytes that are shown at most. -/
def rowLength : Nat := 16

def shownLength : Nat := 1024

/-- One byte of a dump. A row begins on a new line with the offset of its first byte. -/
def dumpByte (offset : Nat) (byte : UInt8) : List Char :=
  (if offset % rowLength == 0 then '\n' :: paddedHex 8 offset ++ [':', ' '] else []) ++
    paddedHex 2 byte.toNat ++ [' ']

/-- The dump of some bytes, from an offset on. -/
def dumpFrom (offset : Nat) : List UInt8 → List Char
  | [] => []
  | byte :: rest => dumpByte offset byte ++ dumpFrom (offset + 1) rest

/-- The text, with an end of line if it does not have one. -/
def printText (text : String) : Output :=
  ⟨if text.toList.getLast? == some '\n' then text else text ++ "\n", ""⟩

/-- The first bytes in rows. The rest is only counted. -/
def printBytes (payload : ByteArray) : Output :=
  let bytes := payload.toList
  let more := bytes.length - shownLength
  { out := String.ofList (dumpFrom 0 (bytes.take shownLength) ++ ['\n'])
    err := "Warning: File contains binary data\n" ++
      (if more == 0 then "" else "... (" ++ toString more ++ " more bytes)\n") }

/-- Prints a payload. It is text when it is valid UTF-8. -/
def printPayload (payload : ByteArray) : Output :=
  match String.fromUTF8? payload with
  | some text => printText text
  | none => printBytes payload

/-- The content of a node. A file has it on its content node, and any other node has it as its
primary item. -/
def contentOf (shell : Shell) (path : String) (node : Node) : Except ShellError Property :=
  if node.primaryType == NodeKind.file.primaryType then
    (node.property shell.view (Name.content ++ "/" ++ Name.data)).mapError ShellError.mount
  else
    node.primaryItem.mapError fun _ => .notFile path

/-- Prints the file at a path. Every look at a path makes a new value, so the file is downloaded
each time. -/
def print (shell : Shell) (words : List String) : Remote.Asking (Except ShellError Output) :=
  match words.head? with
  | none => return .error .missingFile
  | some path =>
    match shell.node path >>= shell.contentOf path with
    | .error error => return .error error
    | .ok property => do
      let (payload, _) ← property.first.read.start Cells.empty
      return (payload.mapError (ShellError.unreadable path)).map printPayload

end ContentMount.Shell
