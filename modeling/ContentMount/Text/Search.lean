/-
This file looks for a word in a text.
-/

namespace ContentMount.Text

/-- The word stands somewhere in the text. -/
def occursIn (word : List Char) : List Char → Bool
  | [] => word.isEmpty
  | c :: rest => word.isPrefixOf (c :: rest) || occursIn word rest

/-- Writes an addition after each place where the word stands. The places do not overlap, and
the first one counts. The number gives the characters of a place still to be passed. -/
def addAfterFrom (word addition : List Char) : Nat → List Char → List Char
  | _, [] => []
  | left + 1, c :: rest =>
    c :: (if left == 0 then addition else []) ++ addAfterFrom word addition left rest
  | 0, c :: rest =>
    if word.isPrefixOf (c :: rest) then
      c :: (if word.length == 1 then addition else []) ++
        addAfterFrom word addition (word.length - 1) rest
    else c :: addAfterFrom word addition 0 rest

/-- Writes an addition after each place where the word stands. -/
def addAfter (word addition text : List Char) : List Char :=
  if word.isEmpty then text else addAfterFrom word addition 0 text

end ContentMount.Text
