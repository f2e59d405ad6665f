/-
This file lays text out in columns and marks it with terminal styles.
-/

import ContentMount.Text.Search

namespace ContentMount.Text

/-- Fills a text with blanks up to a width. A longer text stays as it is. -/
def padTo (width : Nat) (text : List Char) : List Char :=
  text ++ List.replicate (width - text.length) ' '

/-- The terminal styles in use. -/
inductive Style where
  | bold
  | cyan
  | boldBlue
  deriving DecidableEq

/-- The sequence that begins a style. -/
def Style.opening : Style → List Char
  | .bold => "\x1b[1m".toList
  | .cyan => "\x1b[36m".toList
  | .boldBlue => "\x1b[1;34m".toList

/-- The sequence that ends every style. -/
def styleEnd : List Char := "\x1b[0m".toList

/-- Fills a text up to a width and styles it, when styles are wanted. A style that ends within
the text begins again there, and the width counts that too. -/
def Style.apply (style : Style) (wanted : Bool) (width : Nat) (text : List Char) : List Char :=
  if wanted then
    style.opening ++ padTo width (addAfter styleEnd style.opening text) ++ styleEnd
  else padTo width text

end ContentMount.Text
