/-
This file runs queries against a view and gives their results as rows.
-/

import ContentMount.Content.View
import ContentMount.Query.Intent

namespace ContentMount

/-- A query keeps its statement and language as they were given. It belongs to a view and is
answered for some roots. -/
structure Query where
  view : View
  roots : List QueryRoot
  statement : String
  language : String

/-- A row shows one node. -/
structure Row where
  node : Node

/-- The roots of a view are its mount point alone. -/
def View.queryRoots (view : View) : List QueryRoot :=
  [.path view.mountPoint]

namespace Query

def intent (query : Query) : QueryIntent :=
  QueryIntent.ofStatement query.statement query.language query.roots

/-- The nodes that are asked for, in enumeration order. Roots that do not exist are left out. -/
def nodes (query : Query) : List Node :=
  match query.intent with
  | .roots paths => paths.filterMap query.view.node?
  | .children path => query.view.children path
  | .unsupported => []

/-- The rows of the result. -/
def rows (query : Query) : List Row :=
  query.nodes.map Row.mk

/-- A query is stored nowhere and has no variables. -/
def storedPath? (_ : Query) : Option String := none

def variableNames (_ : Query) : List String := []

/-- Columns and selectors are known only by the rows themselves. -/
def columnNames (_ : Query) : List String := []

def selectorNames (_ : Query) : List String := []

end Query

namespace Row

def path (row : Row) : String :=
  row.node.path

/-- No row is a better match than another. -/
def score (_ : Row) : Nat := 0

/-- The path, and then the first value of each property. -/
def values (row : Row) : List Value :=
  .text row.path :: row.node.properties.map Property.first

/-- The value of a column. The path has a column of its own, and every property has one. -/
def value (row : Row) (column : String) : Except MountError Value :=
  if column == Name.path then .ok (.text row.path)
  else match row.node.property? column with
    | some property => .ok property.first
    | none => .error (.itemNotFound column)

end Row

end ContentMount
