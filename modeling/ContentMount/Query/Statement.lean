/-
This file writes and reads the one statement that queries understand.
It asks for the children of a folder that are not hidden, the newest first.
-/

import ContentMount.Path.Basic

namespace ContentMount.Statement

/-- The languages that a query may name. -/
def xpath : String := "xpath"

def languages : List String := [xpath, "sql", "JCR-SQL2", "JCR-JQOM"]

/-- What every statement starts with. -/
def anchor : List Char := "/jcr:root".toList

/-- What every listing ends with. -/
def ending : List Char :=
  "/*[((@hidden = 'false' or not(@hidden)))] order by @jcr:created descending".toList

/-- The statement that lists the children of a path. The root is written as nothing. -/
def listing (path : Path) : String :=
  String.ofList (anchor ++ (if path.isRoot then [] else path.text.toList) ++ ending)

/-- The text before the first slash that a star follows. -/
def beforeStar : List Char → Option (List Char)
  | [] => none
  | c :: rest =>
    if c == '/' && rest.head? == some '*' then some []
    else (beforeStar rest).map (c :: ·)

/-- The path that a listing asks about. Any other statement has none. -/
def listedPath? (statement : String) : Option Path :=
  let text := statement.toList
  let body := text.drop anchor.length
  if anchor.isPrefixOf text && body.head? == some '/' && ending.isSuffixOf text then
    (beforeStar body).map fun path => Path.parse (String.ofList path)
  else none

end ContentMount.Statement
