/-
This file prints the properties of nodes, the rows of queries and the numbers of requests.
-/

import ContentMount.Number.Amount
import ContentMount.Query.Result
import ContentMount.Remote.Metrics
import ContentMount.Shell.Location
import ContentMount.Shell.Output

namespace ContentMount.Shell

open Remote

/-- The property is the primary item of the node. -/
def isPrimary (node : Node) (property : Property) : Bool :=
  match node.primaryItem with
  | .ok item => item.path == property.path
  | .error _ => false

/-- The line of a property: a star for the primary item, the name, the type and the value. -/
def propertyLine (styled : Bool) (node : Node) (property : Property) : List Char :=
  (if isPrimary node property then '*' else ' ') :: ' ' ::
    Text.Style.cyan.apply styled 20 property.name.toList ++ ' ' :: property.type.name.toList ++
    ' ' :: (property.first.display Cells.empty).toList

/-- Shows the properties of a node below its path. -/
def showProperties (shell : Shell) (styled : Bool) (words : List String) :
    Except ShellError Output := do
  let node ← shell.node (words.head?.getD ".")
  return .ofCharLines (Text.Style.bold.apply styled 0 node.path.toList ::
    node.properties.map (propertyLine styled node))

/-- The statement that a word stands for. A path is turned into a listing. -/
def statementOf (shell : Shell) : Option String → String
  | none => Statement.listing shell.location
  | some word =>
    if Statement.anchor.isPrefixOf word.toList then word
    else Statement.listing (shell.resolve word)

/-- The values of a row, with tabs between them. -/
def rowLine (row : Row) : String :=
  "\t".intercalate (row.values.map (Value.display Cells.empty))

/-- Runs a query and prints its rows. Their number goes to the standard error. -/
def runQuery (shell : Shell) (words : List String) : Output :=
  let query : Query :=
    { view := shell.view
      roots := shell.view.queryRoots
      statement := shell.statementOf words.head?
      language := words[1]?.getD Statement.xpath }
  let rows := query.rows
  { Output.ofLines (rows.map rowLine) with err := toString rows.length ++ " row(s)\n" }

/-- The labels of the kinds of request. -/
def kindLabels : List (String × RequestKind) :=
  [("metadata", .metadata), ("list", .list), ("list/continue", .listNext),
    ("download", .download)]

/-- The line that counts the requests of one kind. -/
def kindLine (metrics : Metrics) (entry : String × RequestKind) : String :=
  "  " ++ String.ofList (Text.padTo 16 entry.1.toList) ++ "  " ++
    toString (metrics.countOf entry.2)

/-- Prints the numbers of nodes and of requests. -/
def showMetrics (shell : Shell) : Option Metrics → Output
  | none => .ofLines ["Request metrics are not enabled"]
  | some metrics => .ofLines (
    ["Snapshot nodes:     " ++ toString shell.view.snapshot.size,
      "Remote requests:    " ++ toString metrics.count] ++
    kindLabels.map (kindLine metrics) ++
    ["Downloaded:         " ++ Number.byteSize metrics.bytes.toNat,
      "Time waiting:       " ++ Number.duration metrics.nanoseconds.toNat])

end ContentMount.Shell
