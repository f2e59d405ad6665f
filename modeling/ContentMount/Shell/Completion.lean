/-
This file completes the word before the cursor of a command line.
Positions in a line count bytes.
-/

import ContentMount.Shell.Location
import ContentMount.Text.Blank

namespace ContentMount

/-- A candidate is shown in one form and written in another. -/
structure Candidate where
  shown : String
  written : String
  deriving DecidableEq

namespace Completion

/-- The commands that the first word is completed to, in the order in which they are offered. -/
def commands : List String :=
  ["ls", "cd", "cat", "props", "query", "stats", "pwd", "help", "exit"]

/-- The number of bytes that a text takes. -/
def byteLength : List Char → Nat
  | [] => 0
  | c :: rest => c.utf8Size + byteLength rest

/-- The characters before a position. A position within a character or past the end of the line
has none. -/
def before? : Nat → List Char → Option (List Char)
  | 0, _ => some []
  | _ + 1, [] => none
  | position + 1, c :: rest =>
    if position + 1 < c.utf8Size then none
    else (before? (position + 1 - c.utf8Size) rest).map (c :: ·)

/-- The commands that a word is the start of. -/
def ofCommand (word : List Char) : List Candidate :=
  (commands.filter fun command => word.isPrefixOf command.toList).map fun command =>
    ⟨command, command⟩

/-- A child of a folder, and whether it is a folder itself. -/
structure Entry where
  name : String
  isFolder : Bool
  deriving DecidableEq

/-- The children of the folder that a text leads to. -/
def entries (shell : Shell) (folder : String) : List Entry :=
  let place := shell.completion
  (place.view.children (place.resolve folder).text).map fun node => ⟨node.name, node.isFolder⟩

/-- The part of a path up to its last slash, with it, and the part after it. -/
def splitFolder (path : List Char) : List Char × List Char :=
  let name := (path.reverse.takeWhile (· != '/')).reverse
  (path.take (path.length - name.length), name)

/-- The candidate for a child in a folder. A folder gets a slash. -/
def candidate (folder : List Char) (entry : Entry) : Candidate :=
  ⟨entry.name, String.ofList folder ++ entry.name ++ if entry.isFolder then "/" else ""⟩

/-- The children that a path is the start of. Only folders can be entered. -/
def ofPath (shell : Shell) (command path : List Char) : List Candidate :=
  let (folder, start) := splitFolder path
  let fitting := (entries shell (String.ofList folder)).filter fun entry =>
    start.isPrefixOf entry.name.toList && (command != "cd".toList || entry.isFolder)
  fitting.map (candidate folder)

/-- The word that the line ends in. After a blank it is empty. -/
def lastWord (line : List Char) : List Char :=
  if (line.getLast?.map Text.isBlank).getD true then [] else (Text.words line).getLast?.getD []

/-- Completes the last word of a line. The number is the position at which that word begins. -/
def ofLine (shell : Shell) (line : List Char) : Nat × List Candidate :=
  match Text.words line with
  | [] => (0, [])
  | command :: rest =>
    let word := lastWord line
    let start := byteLength line - byteLength word
    if rest.isEmpty && !word.isEmpty then (start, ofCommand command)
    else (start, ofPath shell command word)

/-- Completes the word before a position, if that is the start of a character or the end of the
line. -/
def complete? (shell : Shell) (line : String) (position : Nat) : Option (Nat × List Candidate) :=
  (before? position line.toList).map (ofLine shell)

end Completion

end ContentMount
