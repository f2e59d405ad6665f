/-
This file works on paths as they are written, without reading them into segments first.
The keys of a mounted tree are made this way.
-/

import ContentMount.Path.Basic
import ContentMount.Text.Blank

namespace ContentMount.Path

/-- The character that stands between segments. -/
def isSlash (c : Char) : Bool := c == '/'

/-- The text without the slashes at its start. -/
def withoutLeadingSlashes (text : String) : String :=
  String.ofList (text.toList.dropWhile isSlash)

/-- The text without the slashes at its end. -/
def withoutTrailingSlashes (text : String) : String :=
  String.ofList (Text.dropEndWhile isSlash text.toList)

/-- The text without the slashes at both ends. -/
def withoutSlashes (text : String) : String :=
  String.ofList (Text.stripWhile isSlash text.toList)

/-- The piece after the last slash, or the whole text without one. -/
def lastPiece (text : String) : String :=
  (pieces text).getLast?.getD ""

/-- Writes a name below a path. An empty parent counts as the root, and an empty name leaves any
other parent as it is. -/
def below (parent name : String) : String :=
  let name := withoutLeadingSlashes name
  if parent == "" || parent == "/" then "/" ++ name
  else if name == "" then parent
  else withoutTrailingSlashes parent ++ "/" ++ name

/-- The text of the path one segment up. -/
def parentText (text : String) : String :=
  (parse text).up.text

/-- The last name in a text. Slashes at its end do not count. -/
def nameText (text : String) : String :=
  lastPiece (withoutTrailingSlashes text)

end ContentMount.Path
