/-
This file defines web requests and what can come back for them.
-/

import ContentMount.Remote.Dialogue

namespace ContentMount.Remote

/-- A request that posts a body with some headers. -/
structure WebRequest where
  url : String
  headers : List (String × String)
  body : String
  deriving DecidableEq

/-- The value of a header. -/
def WebRequest.header? (request : WebRequest) (name : String) : Option String :=
  request.headers.lookup name

/-- An exchange gives no answer at all, or a status and a body. A body that breaks off before its
end is missing. -/
inductive Exchange where
  | noAnswer (detail : String)
  | answer (status : Nat) (body : Option ByteArray)

/-- Programs that make web requests and nothing else. -/
abbrev Web : Type → Type := Dialogue WebRequest fun _ => Exchange

/-- A status from 200 to 299 is a success. -/
def isSuccess (status : Nat) : Bool :=
  200 ≤ status && status < 300

/-- A header may hold tabs and every byte from the space on except DEL. -/
def isHeaderByte (byte : UInt8) : Bool :=
  byte == 9 || (0x20 ≤ byte && byte != 0x7F)

/-- Every byte of the text may stand in a header. -/
def isHeaderValue (value : String) : Bool :=
  value.toUTF8.toList.all isHeaderByte

end ContentMount.Remote
