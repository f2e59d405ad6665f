/-
This file lists the children of a node, all of them or those that match a pattern.
-/

import ContentMount.Query.Glob
import ContentMount.Shell.Location
import ContentMount.Shell.Output

namespace ContentMount.Shell

/-- What a listing is asked for. -/
structure ListingRequest where
  long : Bool
  path : Option String

/-- Reads the words after the command. The first word that is no option is the path, and later
ones are left out. -/
def readListingRequest (request : ListingRequest) :
    List String → Except ShellError ListingRequest
  | [] => .ok request
  | word :: rest =>
    if word == "-l" then readListingRequest { request with long := true } rest
    else if word.toList.head? == some '-' then .error (.unknownOption word)
    else readListingRequest { request with path := request.path <|> some word } rest

/-- A star or a question mark makes a pattern. -/
def isWildcard (c : Char) : Bool :=
  c == '*' || c == '?'

/-- The text up to the last slash, without it, and the text after it. -/
def splitAtLastSlash (path : String) : Option (String × String) :=
  match (Path.pieces path).reverse with
  | last :: before :: rest => some ("/".intercalate (before :: rest).reverse, last)
  | _ => none

/-- The folder to list and the pattern for its children. A wildcard anywhere makes the last piece
the pattern. -/
def listingTarget : Option String → String × Option String
  | none => (".", none)
  | some path =>
    if path.toList.any isWildcard then
      match splitAtLastSlash path with
      | none => (".", some path)
      | some (folder, pattern) => (if folder == "" then "/" else folder, some pattern)
    else (path, none)

/-- The children that a listing shows. -/
def listed (shell : Shell) (path : Option String) : Except ShellError (List Node) := do
  let (folder, pattern) := listingTarget path
  let node ← shell.node folder
  return (node.children shell.view).filter fun child =>
    match pattern with
    | none => true
    | some pattern => Glob.matchesName child.name pattern

/-- The line of a child: its name, with a slash after a folder. -/
def shortLine (styled : Bool) (child : Node) : List Char :=
  if child.isFolder then Text.Style.boldBlue.apply styled 0 child.name.toList ++ ['/']
  else child.name.toList

/-- The widths of the first two columns of a long listing. -/
def nameWidth : Nat := 40

def typeWidth : Nat := 14

/-- A line in three columns. -/
def longLine (name : List Char) (type last : String) : List Char :=
  name ++ ' ' :: Text.padTo typeWidth type.toList ++ ' ' :: last.toList

/-- The long line of a child: name, type and number of children. -/
def childLine (view : View) (styled : Bool) (child : Node) : List Char :=
  let name :=
    if child.isFolder then
      Text.Style.boldBlue.apply styled nameWidth (child.name.toList ++ ['/'])
    else Text.padTo nameWidth child.name.toList
  longLine name child.primaryType (toString (child.children view).length)

/-- The first two lines of a long listing. -/
def longHeading : List (List Char) :=
  [longLine (Text.padTo nameWidth "NAME".toList) "TYPE" "CHILDREN", List.replicate 66 '-']

/-- Lists children. -/
def list (shell : Shell) (styled : Bool) (words : List String) : Except ShellError Output := do
  let request ← readListingRequest ⟨false, none⟩ words
  let children ← shell.listed request.path
  if request.long then
    return .ofCharLines (longHeading ++ children.map (childLine shell.view styled))
  else
    return .ofCharLines (children.map (shortLine styled))

end ContentMount.Shell
