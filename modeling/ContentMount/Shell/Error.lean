/-
This file lists what a command line can fail with.
-/

import ContentMount.Mount.Error
import ContentMount.Shell.Words

namespace ContentMount

/-- The reasons for which a line is not carried out. Leaving the shell is one of them. -/
inductive ShellError where
  | exit
  | unclosedQuote (mark : QuoteMark)
  | unknownCommand (name : String)
  | unknownOption (option : String)
  | missingFile
  | noSuchDirectory (path : String)
  | notDirectory (path : String)
  | notFile (path : String)
  /-- The tree does not have what the line asks for. -/
  | mount (error : MountError)
  /-- The content of a file could not be read. -/
  | unreadable (path : String) (error : MountError)
  deriving DecidableEq

/-- The outermost message, and then the ones that explain it. -/
def ShellError.chain : ShellError → List String
  | .exit => ["exit"]
  | .unclosedQuote .single => ["Unclosed single quote"]
  | .unclosedQuote .double => ["Unclosed double quote"]
  | .unknownCommand name => ["Unknown command: " ++ name]
  | .unknownOption option => ["Unknown option: " ++ option]
  | .missingFile => ["Usage: cat FILE"]
  | .noSuchDirectory path => ["No such directory: " ++ path]
  | .notDirectory path => ["Not a directory: " ++ path]
  | .notFile path => ["Not a file: " ++ path]
  | .mount error => error.chain
  | .unreadable path error => ("Failed to read " ++ path) :: error.chain

/-- The whole chain on one line. -/
def ShellError.message (error : ShellError) : String :=
  ": ".intercalate error.chain

/-- The error of the tree behind this one. -/
def ShellError.mountError? : ShellError → Option MountError
  | .mount error => some error
  | .unreadable _ error => some error
  | _ => none

end ContentMount
