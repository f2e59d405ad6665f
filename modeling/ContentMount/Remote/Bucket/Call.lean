/-
This file lists the calls to an object store with buckets and what they yield.
-/

import ContentMount.Remote.Dialogue

namespace ContentMount.Remote.Bucket

/-- What a listing asks for. The parts that are not sent are missing. -/
structure Selection where
  start : Option String
  delimiter : Option String
  maxKeys : Option Nat
  token : Option String
  deriving DecidableEq

/-- The calls are to look at the head of an object, to list objects, and to get one. -/
inductive Call where
  | head (key : String)
  | list (selection : Selection)
  | get (key : String)
  deriving DecidableEq

/-- One page of a listing. Parts that the store leaves out are missing. -/
structure Found where
  commonStarts : List (Option String)
  keys : List (Option String)
  truncated : Option Bool
  nextToken : Option String
  count : Option Int
  deriving DecidableEq

/-- A call that fails may bring a code. -/
structure Fault where
  code : Option String
  detail : String
  deriving DecidableEq

/-- What a call yields. The body of an object may break off. -/
def Call.Result : Call → Type
  | .head _ => Unit
  | .list _ => Found
  | .get _ => Option ByteArray

abbrev Call.Answer (call : Call) : Type :=
  Except Fault call.Result

/-- Programs that call an object store and do nothing else. -/
abbrev Calling : Type → Type := Dialogue Call Call.Answer

end ContentMount.Remote.Bucket
