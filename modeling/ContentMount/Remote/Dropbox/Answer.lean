/-
This file reads the answers of the Dropbox files service.
-/

import ContentMount.Json.Record
import ContentMount.Path.Basic
import ContentMount.Remote.Entry
import ContentMount.Remote.Error
import ContentMount.Remote.Web
import ContentMount.Text.Lowercase
import ContentMount.Text.Search
import ContentMount.Text.Utf8

namespace ContentMount.Remote.Dropbox

/-- The kind that a tag stands for. Every tag but two marks something deleted. -/
def kindOf (tag : String) : EntryKind :=
  (EntryKind.ofName? tag).getD .deleted

/-- The path of an entry that comes without one. -/
def fallbackPath (name : String) : String :=
  "/" ++ Text.lowercase name

/-- An entry with its tag, its name and perhaps its path. -/
def readEntry? (json : Json) : Option Entry := do
  match ← json.record? [".tag", "name", "path_lower"] with
  | [tag, name, path] =>
    let tag ← Json.textField? tag
    let name ← Json.textField? name
    let path ← Json.optionalText? path
    return ⟨kindOf tag, name, path.getD (fallbackPath name)⟩
  | _ => none

/-- A page with its entries, its cursor and the note whether more follows. -/
def readPage? (json : Json) : Option Page := do
  match ← json.record? ["entries", "cursor", "has_more"] with
  | [entries, cursor, hasMore] =>
    let entries ← Json.listField? readEntry? entries
    let cursor ← Json.textField? cursor
    let hasMore ← Json.boolField? hasMore
    return ⟨entries, cursor, hasMore⟩
  | _ => none

/-- The summary in an error object. -/
def readSummary? (json : Json) : Option String := do
  match ← json.record? ["error_summary"] with
  | [summary] => Json.defaultText? "" summary
  | _ => none

/-- The summary of a failure: the one in the error object, or else the whole text. -/
def summaryOf (text : String) : String :=
  ((Json.read text).bind readSummary?).getD text

/-- The text contains the words that report an absence. -/
def reportsAbsence (summary : String) : Bool :=
  Text.occursIn "not_found".toList summary.toList

/-- The error that a status without success stands for. Only a conflict reports an absence. -/
def failureOf (endpoint : String) (status : Nat) (summary : String) : RemoteError :=
  if status == 409 && reportsAbsence summary then .notFound summary
  else .refused endpoint status summary

/-- The bytes of an answer that is a success and whole. -/
def bodyOf (endpoint : String) : Exchange → Except RemoteError ByteArray
  | .noAnswer detail => .error (.exchange detail)
  | .answer status body =>
    if isSuccess status then
      match body with
      | some body => .ok body
      | none => .error (.exchange "the body of the answer breaks off")
    else
      let text := (body.map Text.readLossy).getD ""
      .error (failureOf endpoint status (summaryOf text))

/-- Reads a body that holds a document. -/
def decode {α : Type} (read? : Json → Option α) (body : ByteArray) : Except RemoteError α :=
  match (Json.read (Text.readLossy body)).bind read? with
  | some result => .ok result
  | none => .error (.undecodable "the answer does not have the expected form")

end ContentMount.Remote.Dropbox
