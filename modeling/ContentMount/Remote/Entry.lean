/-
This file defines what a remote store reports about its files and folders.
-/

namespace ContentMount.Remote

/-- An entry is a file, a folder, or the mark that a deleted one left behind. -/
inductive EntryKind where
  | file
  | folder
  | deleted
  deriving DecidableEq

namespace EntryKind

def all : List EntryKind := [.file, .folder, .deleted]

def name : EntryKind → String
  | .file => "file"
  | .folder => "folder"
  | .deleted => "deleted"

def ofName? (name : String) : Option EntryKind :=
  all.find? fun kind => kind.name == name

end EntryKind

/-- A store names an entry as people see it and gives the path by which to ask for it again. -/
structure Entry where
  kind : EntryKind
  name : String
  path : String
  deriving DecidableEq

/-- A live entry has not been deleted. -/
def Entry.isLive (entry : Entry) : Bool :=
  entry.kind != .deleted

/-- One page of a folder listing. The cursor asks for the page after it. -/
structure Page where
  entries : List Entry
  cursor : String
  hasMore : Bool
  deriving DecidableEq

/-- The entries of a page that have not been deleted, in the order of the page. -/
def Page.live (page : Page) : List Entry :=
  page.entries.filter Entry.isLive

end ContentMount.Remote
