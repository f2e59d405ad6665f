/-
This file reads the payloads of values. A payload that is not at hand is downloaded, and the
cell of the value keeps it for every later reader.
-/

import ContentMount.Content.Value
import ContentMount.Remote.Request

namespace ContentMount

open Remote

/-- A reading may fail, may fill cells, and asks the store for the payloads that it lacks. The
cells that it filled stay filled when it fails. -/
abbrev Reading : Type → Type := ExceptT MountError (StateT Cells Asking)

/-- Carries out a reading from the given cells. -/
def Reading.start {α : Type} (reading : Reading α) (cells : Cells) :
    Asking (Except MountError α × Cells) :=
  reading.run.run cells

/-- The error of a reader whose download failed. -/
def fetchFailure (source : String) (error : RemoteError) : MountError :=
  .contentFetch source error

/-- One download, whose failure names the remote path. -/
def fetch (source : String) : Reading ByteArray := do
  match ← (askContent source : Asking _) with
  | .ok payload => return payload
  | .error error => throw (fetchFailure source error)

/-- Keeps a payload when there is a cell for it. -/
def keep (cell : Option Cell) (payload : ByteArray) : Reading Unit :=
  match cell with
  | some cell => modify (·.fill cell payload)
  | none => pure ()

/-- The payload of a binary. -/
def Binary.read : Binary → Reading ByteArray
  | .loaded payload => return payload
  | .deferred source cell => do
    match (Binary.deferred source cell).payload? (← get) with
    | some payload => return payload
    | none =>
      let payload ← fetch source
      keep cell payload
      return payload

/-- The length of the payload of a binary, in bytes. -/
def Binary.readSize (binary : Binary) : Reading Nat :=
  return (← binary.read).size

/-- The value as bytes. A text is written in UTF-8. -/
def Value.read (value : Value) : Reading ByteArray :=
  value.toBinary.read

/-- The length of a value: the characters of a text or the bytes of a binary. -/
def Value.readLength : Value → Reading Nat
  | .text s => return s.length
  | .binary b => b.readSize

end ContentMount
