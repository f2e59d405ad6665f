/-
This file lists the requests that a remote store answers.
-/

import ContentMount.Remote.Entry
import ContentMount.Remote.Error
import ContentMount.Remote.Dialogue

namespace ContentMount.Remote

/-- The four requests are to look at one path, to list a folder, to go on with a listing and to
fetch a file. -/
inductive Request where
  | metadata (path : String)
  | list (path : String)
  | listNext (cursor : String)
  | download (path : String)
  deriving DecidableEq

/-- What a request yields when it succeeds. A path without an entry has no metadata. -/
def Request.Result : Request → Type
  | .metadata _ => Option Entry
  | .list _ => Page
  | .listNext _ => Page
  | .download _ => ByteArray

/-- An answer is a result or the reason for its absence. -/
abbrev Request.Answer (request : Request) : Type :=
  Except RemoteError request.Result

/-- The kinds of request, without what they ask about. -/
inductive RequestKind where
  | metadata
  | list
  | listNext
  | download
  deriving DecidableEq

namespace RequestKind

def all : List RequestKind := [.metadata, .list, .listNext, .download]

def name : RequestKind → String
  | .metadata => "metadata"
  | .list => "list"
  | .listNext => "continue"
  | .download => "download"

def ofName? (name : String) : Option RequestKind :=
  all.find? fun kind => kind.name == name

end RequestKind

def Request.kind : Request → RequestKind
  | .metadata _ => .metadata
  | .list _ => .list
  | .listNext _ => .listNext
  | .download _ => .download

/-- The path or cursor that a request names. -/
def Request.target : Request → String
  | .metadata path => path
  | .list path => path
  | .listNext cursor => cursor
  | .download path => path

/-- Programs that talk to a remote store and to nothing else. -/
abbrev Asking : Type → Type := Dialogue Request Request.Answer

/-- A store has a short name and answers requests. Its state is all that it remembers. -/
structure Store (σ : Type) where
  name : String
  answer : (request : Request) → StateM σ request.Answer

/-- Runs a program against a store. -/
def Store.run {σ α : Type} (store : Store σ) (program : Asking α) : StateM σ α :=
  Dialogue.run store.answer program

/-- The lookup of one path. -/
def askMetadata (path : String) : Asking (Except RemoteError (Option Entry)) :=
  .ask (.metadata path) .done

/-- A request for a page, either the first or a later one. -/
inductive Listing where
  | first (path : String)
  | after (cursor : String)
  deriving DecidableEq

/-- The page that a listing stands before. -/
def askPage : Listing → Asking (Except RemoteError Page)
  | .first path => .ask (.list path) .done
  | .after cursor => .ask (.listNext cursor) .done

/-- The whole content of one file. -/
def askContent (path : String) : Asking (Except RemoteError ByteArray) :=
  .ask (.download path) .done

end ContentMount.Remote
