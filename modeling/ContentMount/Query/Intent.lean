/-
This file decides what a statement asks for.
-/

import ContentMount.Query.Root
import ContentMount.Query.Statement

namespace ContentMount

/-- A query asks for the roots at some paths, for the children of one path, or for nothing that
is understood. -/
inductive QueryIntent where
  | roots (paths : List String)
  | children (path : String)
  | unsupported
  deriving DecidableEq

namespace QueryIntent

/-- The texts of the plain roots right below a path, sorted and each once. -/
def rootsBelow (path : Path) (roots : List QueryRoot) : List String :=
  let texts := (roots.filter fun root => root.parent? == some path).filterMap QueryRoot.text?
  (texts.mergeSort fun first second => first ≤ second).eraseReps

/-- Roots right below the path come first. Without them the path must lie within a root. -/
def ofPath (path : Path) (roots : List QueryRoot) : QueryIntent :=
  match rootsBelow path roots with
  | [] =>
    if roots.any fun root => root.covers path then .children path.text else .unsupported
  | texts => .roots texts

/-- Only the first language is understood, and of it only listings. -/
def ofStatement (statement language : String) (roots : List QueryRoot) : QueryIntent :=
  if language == Statement.xpath then
    match Statement.listedPath? statement with
    | some path => ofPath path roots
    | none => .unsupported
  else .unsupported

end QueryIntent

end ContentMount
