/-
This file reads records with known fields from JSON documents.
A record is an object or an array of its fields in order. Other fields of an object are ignored.
-/

import ContentMount.Json.Reader

namespace ContentMount.Json

/-- The values of one field. A field may be missing but may not occur twice. -/
def uniqueField? (name : String) (fields : List (String × Json)) : Option (Option Json) :=
  match fields.filter fun field => field.1 == name with
  | [] => some none
  | [(_, value)] => some (some value)
  | _ => none

/-- The fields of a record by their names, in the order of the names. -/
def record? (names : List String) : Json → Option (List (Option Json))
  | .object fields => names.mapM fun name => uniqueField? name fields
  | .array items =>
    if names.length < items.length then none
    else some (items.map some ++ List.replicate (names.length - items.length) none)
  | _ => none

/-- A field that has to hold a text. -/
def textField? : Option Json → Option String
  | some (.string text) => some text
  | _ => none

/-- A field that has to hold a truth value. -/
def boolField? : Option Json → Option Bool
  | some (.bool value) => some value
  | _ => none

/-- A field that may be missing or null, and otherwise holds a text. -/
def optionalText? : Option Json → Option (Option String)
  | none => some none
  | some .null => some none
  | some (.string text) => some (some text)
  | _ => none

/-- A field that may be missing, and otherwise holds a text. -/
def defaultText? (standard : String) : Option Json → Option String
  | none => some standard
  | some (.string text) => some text
  | _ => none

/-- A field that has to hold a list, each item of which is read. -/
def listField? {α : Type} (item? : Json → Option α) : Option Json → Option (List α)
  | some (.array items) => items.mapM item?
  | _ => none

end ContentMount.Json
