/-
This file takes control characters and the control sequences of terminals out of a text.
-/

namespace ContentMount.Text

/-- The place of a character with respect to control sequences. An escape character begins one,
and the next characters say of which kind it is. A command ends with a letter, a title with a bell
and a message with the byte 9C. A message to a device has a header in front: numbers, which may
begin with one of the signs from U+003C to U+003F, and then marks. The header goes on up to a
letter or to a character that is out of order. -/
inductive Sequence where
  | outside
  | escape
  | escapeMarks
  | command
  | device
  | deviceNumbers
  | deviceMarks
  | title
  | message
  deriving DecidableEq

/-- A tab, a line end or a page end. They are the control characters that show. -/
def isLayout (c : Char) : Bool :=
  c == '\t' || c == '\n' || c == '\r' || c.toNat == 12

/-- The character shows where no control sequence goes on. -/
def showsAlone (c : Char) : Bool :=
  isLayout c || 0x20 ≤ c.toNat && c.toNat != 0x7F

namespace Sequence

/-- The character shows in its place. Layout shows within the short kinds of sequences too. -/
def shows (c : Char) : Sequence → Bool
  | .outside => showsAlone c
  | .escape | .escapeMarks | .command => isLayout c
  | .device | .deviceNumbers | .deviceMarks | .title | .message => false

/-- The place after a character that follows an escape character. -/
def afterEscape (c : Char) : Sequence :=
  if c == '[' then .command
  else if c == ']' then .title
  else if c == 'P' then .device
  else if c == 'X' || c == '^' || c == '_' then .message
  else if 0x20 ≤ c.toNat && c.toNat < 0x30 then .escapeMarks
  else if 0x30 ≤ c.toNat && c.toNat < 0x7F then .outside
  else .escape

/-- The place after a character in the header of a message to a device. The character may belong
to the numbers, and when it has no meaning there the place stays. -/
def afterDevice (c : Char) (isNumber : Bool) (place : Sequence) : Sequence :=
  if isNumber then .deviceNumbers
  else if 0x20 ≤ c.toNat && c.toNat < 0x30 then .deviceMarks
  else if 0x30 ≤ c.toNat && c.toNat < 0x7F then .message
  else place

/-- The place after a character. An escape character begins a sequence everywhere, and the two
characters that cancel a sequence do so everywhere. -/
def next (c : Char) (sequence : Sequence) : Sequence :=
  if c.toNat == 0x1B then .escape
  else if c.toNat == 0x18 || c.toNat == 0x1A then .outside
  else match sequence with
    | .outside => .outside
    | .escape => afterEscape c
    | .escapeMarks => if 0x30 ≤ c.toNat && c.toNat < 0x7F then .outside else .escapeMarks
    | .command => if 0x40 ≤ c.toNat && c.toNat < 0x7F then .outside else .command
    | .device => afterDevice c (0x30 ≤ c.toNat && c.toNat < 0x40) .device
    | .deviceNumbers => afterDevice c (0x30 ≤ c.toNat && c.toNat < 0x3C) .deviceNumbers
    | .deviceMarks => afterDevice c false .deviceMarks
    | .title => if c.toNat == 7 then .outside else .title
    | .message => if (String.utf8EncodeChar c).contains 0x9C then .outside else .message

end Sequence

/-- What shows of the rest of a text. Once something shows, all that follows shows as if no
sequence went on, up to the next control character. A character beyond ASCII in such a stretch
ends the sequence. -/
def shownFrom (sequence : Sequence) (showing : Bool) : List Char → List Char
  | [] => []
  | c :: rest =>
    if showing && showsAlone c then
      c :: shownFrom (if c.toNat < 0x80 then sequence else .outside) true rest
    else if sequence.shows c then c :: shownFrom (sequence.next c) true rest
    else shownFrom (sequence.next c) false rest

/-- The text without control sequences and without control characters other than layout. -/
def withoutControls (text : String) : String :=
  String.ofList (shownFrom .outside true text.toList)

end ContentMount.Text
