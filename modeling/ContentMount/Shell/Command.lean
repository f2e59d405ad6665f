/-
This file carries out command lines.
-/

import ContentMount.Shell.Listing
import ContentMount.Shell.Print
import ContentMount.Shell.Report
import ContentMount.Text.Blank

namespace ContentMount

open Remote

/-- The commands that work on the tree. -/
inductive Command where
  | cat
  | cd
  | ls
  | props
  | query
  | stats
  deriving DecidableEq

namespace Command

/-- All commands in the order of their names. -/
def all : List Command := [.cat, .cd, .ls, .props, .query, .stats]

def name : Command → String
  | .cat => "cat"
  | .cd => "cd"
  | .ls => "ls"
  | .props => "props"
  | .query => "query"
  | .stats => "stats"

/-- How a command is used and what it does. -/
def usage : Command → String
  | .cat => "cat FILE - Display file contents"
  | .cd => "cd [PATH] - Change current directory (no PATH returns to the mount point)"
  | .ls => "ls [-l] [PATH|PATTERN] - List directory contents"
  | .props => "props [PATH] - Show the properties of a node"
  | .query =>
    "query [STATEMENT|PATH] [LANGUAGE] - Run a listing query (PATH expands to a listing)"
  | .stats => "stats - Show remote request statistics"

/-- The command of a name. -/
def ofName? (name : String) : Option Command :=
  all.find? fun command => command.name == name

end Command

namespace Shell

/-- What a line leaves behind: its output or its error, and the shell after it. -/
abbrev Outcome : Type := Except ShellError Output × Shell

/-- The outcome of a line that does not move the shell. -/
def stay (shell : Shell) (result : Except ShellError Output) : Outcome :=
  (result, shell)

/-- The outcome of moving the shell. It moves only without an error, and it prints nothing. -/
def move (shell : Shell) : Except ShellError Shell → Outcome
  | .ok moved => (.ok .empty, moved)
  | .error error => (.error error, shell)

/-- Names every command with its usage. -/
def help : Output :=
  .ofLines (["Available commands:"] ++ Command.all.map (fun command => "  " ++ command.usage) ++
    ["  pwd - Print working directory", "  help - Show this help",
      "  exit/quit - Exit the shell"])

/-- Carries out one command on its words. -/
def perform (shell : Shell) (styled : Bool) (metrics : Option Metrics) (words : List String) :
    Command → Asking Outcome
  | .cat => return shell.stay (← shell.print words)
  | .cd => return shell.move (shell.enter words.head?)
  | .ls => return shell.stay (shell.list styled words)
  | .props => return shell.stay (shell.showProperties styled words)
  | .query => return shell.stay (.ok (shell.runQuery words))
  | .stats => return shell.stay (.ok (shell.showMetrics metrics))

/-- Carries out a line that has been cut into words. A line without words does nothing. -/
def executeWords (shell : Shell) (styled : Bool) (metrics : Option Metrics) :
    List String → Asking Outcome
  | [] => return shell.stay (.ok .empty)
  | name :: words =>
    if name == "exit" || name == "quit" then return shell.stay (.error .exit)
    else if name == "help" then return shell.stay (.ok help)
    else if name == "pwd" then return shell.stay (.ok (.ofLines [shell.location.text]))
    else match Command.ofName? name with
      | some command => shell.perform styled metrics words command
      | none => return shell.stay (.error (.unknownCommand name))

/-- Carries out a line. Blanks around it do not count. -/
def execute (shell : Shell) (styled : Bool) (metrics : Option Metrics) (line : String) :
    Asking Outcome :=
  match Words.read (Text.trim line.toList) with
  | .ok words => shell.executeWords styled metrics words
  | .error mark => return shell.stay (.error (.unclosedQuote mark))

end Shell

end ContentMount
