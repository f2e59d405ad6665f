/-
This file defines the roots that queries are answered for.
-/

import ContentMount.Query.Glob

namespace ContentMount

/-- A root is one path, or every path that a pattern matches. -/
inductive QueryRoot where
  | path (path : Path)
  | glob (pattern : String)
  deriving DecidableEq

namespace QueryRoot

/-- The mark in front of a pattern. -/
def globMark : List Char := "glob:".toList

/-- A text is read as a pattern after the mark, and as a path without it. -/
def parse (text : String) : QueryRoot :=
  if globMark.isPrefixOf text.toList then
    .glob (String.ofList (text.toList.drop globMark.length))
  else .path (Path.parse text)

/-- The path is the root or lies below it. -/
def covers : QueryRoot → Path → Bool
  | .path root, other => root.isAncestorOrSelf other
  | .glob pattern, other => Glob.covers pattern other

/-- The parent of a plain root. Patterns have none. -/
def parent? : QueryRoot → Option Path
  | .path root => root.parent?
  | .glob _ => none

/-- The text of a plain root. -/
def text? : QueryRoot → Option String
  | .path root => some root.text
  | .glob _ => none

end QueryRoot

end ContentMount
