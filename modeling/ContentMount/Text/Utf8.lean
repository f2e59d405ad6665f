/-
This file reads bytes as UTF-8. Bytes that do not belong there are replaced.
-/

namespace ContentMount.Text

/-- The character that stands for bytes that are not UTF-8. -/
def replacement : Char := Char.ofNat 0xFFFD

/-- The part of a character read so far: its bits, the number of bytes still to come, and the
range in which the next one must lie. -/
structure CharPart where
  bits : Nat
  missing : Nat
  least : UInt8
  greatest : UInt8

/-- What a first byte begins. A byte below 128 is a whole character. -/
inductive Lead where
  | whole (c : Char)
  | opens (part : CharPart)
  | stray

/-- The shortest form of every character is the only one, and surrogates have none. -/
def lead (byte : UInt8) : Lead :=
  let n := byte.toNat
  if n < 0x80 then .whole (Char.ofNat n)
  else if n < 0xC2 then .stray
  else if n < 0xE0 then .opens ⟨n % 0x20, 1, 0x80, 0xBF⟩
  else if n == 0xE0 then .opens ⟨0, 2, 0xA0, 0xBF⟩
  else if n == 0xED then .opens ⟨0xD, 2, 0x80, 0x9F⟩
  else if n < 0xF0 then .opens ⟨n % 0x10, 2, 0x80, 0xBF⟩
  else if n == 0xF0 then .opens ⟨0, 3, 0x90, 0xBF⟩
  else if n < 0xF4 then .opens ⟨n % 8, 3, 0x80, 0xBF⟩
  else if n == 0xF4 then .opens ⟨4, 3, 0x80, 0x8F⟩
  else .stray

/-- Begins a character with a byte. -/
def openWith (byte : UInt8) : List Char × Option CharPart :=
  match lead byte with
  | .whole c => ([c], none)
  | .opens part => ([], some part)
  | .stray => ([replacement], none)

/-- Takes one byte. A byte that does not fit ends the character before it and begins a new
one. -/
def takeByte (part : Option CharPart) (byte : UInt8) : List Char × Option CharPart :=
  match part with
  | none => openWith byte
  | some part =>
    if part.least ≤ byte && byte ≤ part.greatest then
      let bits := part.bits * 0x40 + byte.toNat % 0x40
      if part.missing == 1 then ([Char.ofNat bits], none)
      else ([], some ⟨bits, part.missing - 1, 0x80, 0xBF⟩)
    else
      let (written, next) := openWith byte
      (replacement :: written, next)

/-- Reads the rest of the bytes after a part of a character. -/
def readFrom (part : Option CharPart) : List UInt8 → List Char
  | [] => if part.isSome then [replacement] else []
  | byte :: rest =>
    let (written, next) := takeByte part byte
    written ++ readFrom next rest

/-- Reads all bytes. Each longest beginning of a character that is not completed becomes one
replacement. -/
def readLossy (bytes : ByteArray) : String :=
  String.ofList (readFrom none bytes.toList)

end ContentMount.Text
