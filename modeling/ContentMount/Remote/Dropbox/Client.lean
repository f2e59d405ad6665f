/-
This file turns requests to a store into requests to the Dropbox files service.
-/

import ContentMount.Path.Text
import ContentMount.Remote.Dropbox.Answer
import ContentMount.Remote.Request

namespace ContentMount.Remote.Dropbox

/-- A client has the value of its authorization header and the two addresses of the service. -/
structure Client where
  authorization : String
  apiUrl : String
  contentUrl : String
  deriving DecidableEq

/-- The public addresses of the service. -/
def publicApiUrl : String := "https://api.dropboxapi.com/2"

def publicContentUrl : String := "https://content.dropboxapi.com/2"

/-- How the client introduces itself. -/
def agent : String := "cloudmount/0.1.0"

/-- A client needs a token that may stand in a header. -/
def Client.create (token apiUrl contentUrl : String) : Except RemoteError Client :=
  let authorization := "Bearer " ++ token
  if isHeaderValue authorization then
    .ok ⟨authorization, Path.withoutTrailingSlashes apiUrl, Path.withoutTrailingSlashes contentUrl⟩
  else .error (.refused "auth" 0 "access token contains invalid header characters")

/-- The service calls its root by the empty text. -/
def apiPath (path : String) : String :=
  if path == "/" then "" else path

/-- The argument that names a path. -/
def pathArgument (path : String) : Json :=
  .object [("path", .string path)]

/-- The argument that asks for the direct children of a folder. -/
def folderArgument (path : String) : Json :=
  .object [("path", .string path), ("recursive", .bool false)]

/-- The argument that names a cursor. -/
def cursorArgument (cursor : String) : Json :=
  .object [("cursor", .string cursor)]

/-- The request that sends its argument as the body. -/
def Client.call (client : Client) (endpoint : String) (argument : Json) : WebRequest :=
  { url := client.apiUrl ++ "/" ++ endpoint
    headers :=
      [("Authorization", client.authorization), ("Content-Type", "application/json"),
        ("User-Agent", agent)]
    body := argument.text }

/-- The request for a file sends its argument in a header. -/
def Client.fileCall (client : Client) (argument : Json) : WebRequest :=
  { url := client.contentUrl ++ "/files/download"
    headers :=
      [("Authorization", client.authorization), ("Dropbox-API-Arg", argument.text),
        ("User-Agent", agent)]
    body := "" }

/-- Posts an argument and reads the document that comes back. -/
def Client.post {α : Type} (client : Client) (endpoint : String) (argument : Json)
    (read? : Json → Option α) : Web (Except RemoteError α) :=
  .ask (client.call endpoint argument) fun exchange =>
    .done (bodyOf endpoint exchange >>= decode read?)

/-- Looks up one path. A report of absence is an answer, not a failure. -/
def Client.lookUp (client : Client) (path : String) :
    Web (Except RemoteError (Option Entry)) := do
  match ← client.post "files/get_metadata" (pathArgument (apiPath path)) readEntry? with
  | .ok entry => return .ok (some entry)
  | .error (.notFound _) => return .ok none
  | .error error => return .error error

/-- Fetches a file, unless its path cannot be sent in a header. -/
def Client.fetch (client : Client) (path : String) : Web (Except RemoteError ByteArray) :=
  let argument := pathArgument path
  if isHeaderValue argument.text then
    .ask (client.fileCall argument) fun exchange => .done (bodyOf "files/download" exchange)
  else .done (.error (.exchange "the path cannot be sent in a header"))

/-- Answers each request of a store with the help of the service. -/
def Client.answer (client : Client) : (request : Request) → Web request.Answer
  | .metadata path => client.lookUp path
  | .list path => client.post "files/list_folder" (folderArgument (apiPath path)) readPage?
  | .listNext cursor => client.post "files/list_folder/continue" (cursorArgument cursor) readPage?
  | .download path => client.fetch path

end ContentMount.Remote.Dropbox
