/-
This file holds what a command prints.
-/

import ContentMount.Text.Style

namespace ContentMount

/-- The texts printed on the standard output and on the standard error. -/
structure Output where
  out : String
  err : String
  deriving DecidableEq

namespace Output

def empty : Output := ⟨"", ""⟩

/-- Lines of text, each with its end. -/
def ofLines (lines : List String) : Output :=
  ⟨String.join (lines.map (· ++ "\n")), ""⟩

/-- Lines of characters, each with its end. -/
def ofCharLines (lines : List (List Char)) : Output :=
  ofLines (lines.map String.ofList)

end Output

end ContentMount
