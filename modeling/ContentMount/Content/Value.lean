/-
This file defines values, which are texts or binaries, and the forms in which they are read.
Binaries that still have to be downloaded keep their bytes in numbered cells.
-/

import ContentMount.Mount.Error
import ContentMount.Number.Double
import ContentMount.Text.Blank
import ContentMount.Text.Escape

namespace ContentMount

/-- Payloads are compared byte by byte. -/
instance payloadDecidableEq : DecidableEq ByteArray := fun first second =>
  decidable_of_iff (first.data = second.data) ByteArray.ext_iff.symm

/-- A cell is known by its number. Copies of one value use the same cell. -/
abbrev Cell : Type := Nat

/-- The payloads that have been downloaded so far, each in the cell of its value. -/
structure Cells where
  contents : Array (Option ByteArray)

namespace Cells

def empty : Cells := ⟨#[]⟩

/-- The payload in a cell. -/
def get? (cells : Cells) (cell : Cell) : Option ByteArray :=
  cells.contents[cell]?.join

/-- A new cell is empty and is not shared with any value made before. -/
def fresh (cells : Cells) : Cell × Cells :=
  (cells.contents.size, ⟨cells.contents.push none⟩)

/-- Keeps a payload in a cell. -/
def fill (cells : Cells) (cell : Cell) (payload : ByteArray) : Cells :=
  ⟨cells.contents.setIfInBounds cell (some payload)⟩

end Cells

/-- A binary is at hand, or it is to be downloaded from a remote path. A deferred binary that is
in use has a cell for its payload. -/
inductive Binary where
  | loaded (payload : ByteArray)
  | deferred (source : String) (cell : Option Cell)
  deriving DecidableEq

namespace Binary

/-- The remote path of a deferred binary. -/
def source? : Binary → Option String
  | .loaded _ => none
  | .deferred source _ => some source

/-- The payload, if it is at hand. -/
def payload? (cells : Cells) : Binary → Option ByteArray
  | .loaded payload => some payload
  | .deferred _ cell => cell.bind cells.get?

/-- The length of the payload at hand. -/
def length? (cells : Cells) (binary : Binary) : Option Nat :=
  (binary.payload? cells).map ByteArray.size

def isLoaded (cells : Cells) (binary : Binary) : Bool :=
  (binary.payload? cells).isSome

/-- Takes a deferred binary into use with the given cell. -/
def hold (cell : Cell) : Binary → Binary
  | .loaded payload => .loaded payload
  | .deferred source _ => .deferred source (some cell)

/-- The binary without its cell. -/
def release : Binary → Binary
  | .loaded payload => .loaded payload
  | .deferred source _ => .deferred source none

/-- Two binaries are the same when they have the same source, or the same payload and no
source. What has been downloaded makes no difference. -/
def same (first second : Binary) : Bool :=
  first.release == second.release

/-- The binary as it is shown for inspection. -/
def inspect (cells : Cells) (binary : Binary) : String :=
  let source := match binary.source? with
    | none => "None"
    | some source => "Some(" ++ Text.quoted source ++ ")"
  let length := match binary.length? cells with
    | none => "None"
    | some length => "Some(" ++ toString length ++ ")"
  "BinaryValue \x7b source: " ++ source ++ ", buffered_len: " ++ length ++ " \x7d"

end Binary

/-- The type of a property. -/
inductive PropertyType where
  | string
  | binary
  deriving DecidableEq

/-- The form that values of a type have. -/
def PropertyType.form : PropertyType → ValueForm
  | .string => .string
  | .binary => .binary

def PropertyType.name (type : PropertyType) : String :=
  type.form.name

/-- A value is a text or a binary. -/
inductive Value where
  | text (text : String)
  | binary (binary : Binary)
  deriving DecidableEq

namespace Value

def type : Value → PropertyType
  | .text _ => .string
  | .binary _ => .binary

/-- The value as a text. Binaries have none. -/
def string : Value → Except MountError String
  | .text s => .ok s
  | .binary _ => .error (.valueFormat .string .binary)

/-- The value as a binary. A text is a payload at hand. -/
def toBinary : Value → Binary
  | .text s => .loaded s.toUTF8
  | .binary b => b

/-- The value as a long integer. A text is read, and a binary gives its length, which is -1 until
the payload is at hand. -/
def long (cells : Cells) : Value → Except MountError Int
  | .text s =>
    match Number.readLong (Text.trim s.toList) with
    | some n => .ok n
    | none => .error (.valueFormat .long .string)
  | .binary b => .ok (match b.length? cells with
    | some length => Int.ofNat length
    | none => -1)

/-- The value as a double. -/
def double : Value → Except MountError Float
  | .text s =>
    match Number.readDouble (Text.trim s.toList) with
    | some x => .ok x
    | none => .error (.valueFormat .double .string)
  | .binary _ => .error (.valueFormat .double .binary)

/-- A text is true when it is the word true in any mixture of ASCII cases. -/
def boolean : Value → Except MountError Bool
  | .text s => .ok ((Text.trim s.toList).map Char.toLower == "true".toList)
  | .binary _ => .error (.valueFormat .boolean .binary)

/-- The value as it is shown. A binary shows its length once the payload is at hand. -/
def display (cells : Cells) : Value → String
  | .text s => s
  | .binary b => match b.length? cells with
    | some length => "<binary, " ++ toString length ++ " bytes>"
    | none => "<binary>"

/-- Takes the value into use with a cell. -/
def hold (cell : Cell) : Value → Value
  | .text s => .text s
  | .binary b => .binary (b.hold cell)

/-- A deferred value in use has a cell. -/
def isHeld : Value → Bool
  | .binary (.deferred _ cell) => cell.isSome
  | _ => false

/-- The value without its cell. -/
def release : Value → Value
  | .text s => .text s
  | .binary b => .binary b.release

/-- Two values are the same when they differ in their cells at most. -/
def same (first second : Value) : Bool :=
  first.release == second.release

end Value

end ContentMount
