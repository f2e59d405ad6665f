/-
This file presents the objects of a bucket as files in folders.
The slashes in the keys separate the folders.
-/

import ContentMount.Json.Record
import ContentMount.Path.Text
import ContentMount.Remote.Bucket.Call
import ContentMount.Remote.Request

namespace ContentMount.Remote.Bucket

/-- A client knows its bucket, the region that it signs for and perhaps an address other than
the public one. -/
structure Client where
  bucket : String
  region : String
  endpoint : Option String
  deriving DecidableEq

/-- The key of a remote path is the path without slashes at its ends. -/
def keyOf (path : String) : String :=
  Path.withoutSlashes path

/-- What the keys below a remote path start with. -/
def startOf (path : String) : String :=
  let key := keyOf path
  if key == "" then "" else key ++ "/"

/-- A page is continued with the start of its keys and the token of the page before. -/
structure Cursor where
  start : String
  token : String
  deriving DecidableEq

/-- A cursor as a text. -/
def Cursor.write (cursor : Cursor) : String :=
  (Json.object [("prefix", .string cursor.start), ("token", .string cursor.token)]).text

/-- The cursor that a text holds. -/
def Cursor.read? (text : String) : Option Cursor := do
  match ← (← Json.read text).record? ["prefix", "token"] with
  | [start, token] => return ⟨← Json.textField? start, ← Json.textField? token⟩
  | _ => none

/-- The folder that a common start of keys stands for. -/
def folderOf (start : String) : Entry :=
  let key := Path.withoutTrailingSlashes start
  ⟨.folder, Path.lastPiece key, "/" ++ key⟩

/-- The file that a key stands for. -/
def fileOf (key : String) : Entry :=
  ⟨.file, Path.lastPiece key, "/" ++ key⟩

/-- The entries of a page: folders first and then files. The object that marks the folder itself
is no entry. -/
def entriesOf (start : String) (found : Found) : List Entry :=
  (found.commonStarts.filterMap id).map folderOf ++
    ((found.keys.filterMap id).filter (· != start)).map fileOf

/-- A page goes on when it is cut off and has a token. -/
def pageOf (start : String) (found : Found) : Page :=
  { entries := entriesOf start found
    cursor := (found.nextToken.map fun token => Cursor.write ⟨start, token⟩).getD ""
    hasMore := found.truncated.getD false && found.nextToken.isSome }

/-- The error for a call that failed. -/
def errorOf (operation : String) (fault : Fault) : RemoteError :=
  .objectStore operation fault.detail

/-- The listing of the keys with a start, up to the next slash in each. -/
def folderSelection (start : String) (token : Option String) : Selection :=
  { start := if start == "" then none else some start
    delimiter := some "/"
    maxKeys := none
    token }

/-- Lists one page of a folder. -/
def listPage (start : String) (token : Option String) : Calling (Except RemoteError Page) :=
  .ask (.list (folderSelection start token)) fun answer =>
    .done (match answer with
      | .ok found => .ok (pageOf start found)
      | .error fault => .error (errorOf "ListObjectsV2" fault))

/-- Asks whether any key lies below a path. -/
def probe (path : String) : Calling (Except RemoteError Bool) :=
  .ask (.list ⟨some (startOf path), none, some 1, none⟩) fun answer =>
    .done (match answer with
      | .ok found => .ok (0 < found.count.getD 0)
      | .error fault => .error (errorOf "ListObjectsV2" fault))

/-- Looks up a path. An object under the exact key is a file. Without one the path is a folder
when anything lies below it. -/
def lookUp (bucket path : String) : Calling (Except RemoteError (Option Entry)) :=
  let key := keyOf path
  if key == "" then .done (.ok (some ⟨.folder, bucket, "/"⟩))
  else .ask (.head key) fun answer => match answer with
    | .ok _ => .done (.ok (some (fileOf key)))
    | .error fault =>
      if fault.code == some "NotFound" then do
        match ← probe path with
        | .ok true => return .ok (some ⟨.folder, Path.lastPiece key, "/" ++ key⟩)
        | .ok false => return .ok none
        | .error error => return .error error
      else .done (.error (errorOf "HeadObject" fault))

/-- Gets the object at a path. -/
def fetch (path : String) : Calling (Except RemoteError ByteArray) :=
  .ask (.get (keyOf path)) fun answer =>
    .done (match answer with
      | .ok (some payload) => .ok payload
      | .ok none => .error (.objectStore "GetObject body" "the body of the answer breaks off")
      | .error fault =>
        if fault.code == some "NoSuchKey" then .error (.notFound path)
        else .error (errorOf "GetObject" fault))

/-- Goes on with a listing. -/
def listNext (cursor : String) : Calling (Except RemoteError Page) :=
  match Cursor.read? cursor with
  | some cursor => listPage cursor.start (some cursor.token)
  | none => .done (.error (.undecodable "the cursor does not have the expected form"))

/-- Answers each request of a store with calls to the bucket. -/
def Client.answer (client : Client) : (request : Request) → Calling request.Answer
  | .metadata path => lookUp client.bucket path
  | .list path => listPage (startOf path) none
  | .listNext cursor => listNext cursor
  | .download path => fetch path

end ContentMount.Remote.Bucket
