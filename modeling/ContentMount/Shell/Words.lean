/-
This file cuts a command line into words. Blanks separate words, and quotes and backslashes keep
them together.
-/

namespace ContentMount

/-- The two kinds of quotes. -/
inductive QuoteMark where
  | single
  | double
  deriving DecidableEq

namespace Words

/-- Inside single quotes a backslash is a character like any other. -/
def isEscape (quote : Option QuoteMark) (c : Char) : Bool :=
  c == '\\' && quote != some .single

/-- The quote mark that a character writes. -/
def mark? (c : Char) : Option QuoteMark :=
  if c == Char.ofNat 39 then some .single
  else if c == '"' then some .double
  else none

/-- Spaces and tabs separate words. -/
def isSeparator (c : Char) : Bool :=
  c == ' ' || c == '\t'

/-- Ends a word. An empty word is left out. -/
def endWord (word : List Char) (rest : List (List Char)) : List (List Char) :=
  if word.isEmpty then rest else word :: rest

/-- Ends the line. A quote must not be open there. -/
def endLine (quote : Option QuoteMark) (word : List Char) : Except QuoteMark (List (List Char)) :=
  match quote with
  | some opened => .error opened
  | none => .ok (endWord word [])

/-- Reads the rest of a line. The word so far is given, and the quote that it stands in. A
backslash at the end of the line is left out. -/
def readFrom (quote : Option QuoteMark) (word : List Char) :
    List Char → Except QuoteMark (List (List Char))
  | [] => endLine quote word
  | c :: rest =>
    if isEscape quote c then
      match rest with
      | [] => endLine quote word
      | next :: rest => readFrom quote (word ++ [next]) rest
    else match quote, mark? c with
      | none, some opened => readFrom (some opened) word rest
      | some opened, some mark =>
        if opened == mark then readFrom none word rest
        else readFrom quote (word ++ [c]) rest
      | none, none =>
        if isSeparator c then (readFrom none [] rest).map (endWord word)
        else readFrom none (word ++ [c]) rest
      | some _, none => readFrom quote (word ++ [c]) rest

/-- The words of a line, or the quote that is left open. -/
def read (line : List Char) : Except QuoteMark (List String) :=
  (readFrom none [] line).map fun words => words.map String.ofList

end Words

end ContentMount
