/-
This file defines where a shell stands and how it finds its way from there.
-/

import ContentMount.Content.View
import ContentMount.Shell.Error

namespace ContentMount

/-- Completion looks into a view from the location that it was told last. -/
structure Completion.Place where
  view : View
  location : Path

namespace Completion.Place

/-- Before anything is told, the location is the root. -/
def start (view : View) : Place :=
  ⟨view, .root⟩

/-- Tells a new location. -/
def moveTo (place : Place) (path : Path) : Place :=
  { place with location := path }

/-- The path that a text leads to from the location, unless it is absolute. -/
def resolve (place : Place) (text : String) : Path :=
  place.location.resolve text

end Completion.Place

/-- A shell stands at a location in a view. Completion keeps a place of its own. -/
structure Shell where
  view : View
  location : Path
  completion : Completion.Place

namespace Shell

/-- Moves to a path and tells completion. -/
def moveTo (shell : Shell) (path : Path) : Shell :=
  { shell with location := path, completion := shell.completion.moveTo path }

/-- A new shell stands at the mount point. -/
def start (view : View) : Shell :=
  moveTo ⟨view, .root, .start view⟩ view.mountPoint

/-- What the shell prints when it waits for a line. -/
def prompt (shell : Shell) : String :=
  "cloudmount:" ++ shell.location.text ++ " $ "

/-- The path that a text leads to from the location, unless it is absolute. -/
def resolve (shell : Shell) (text : String) : Path :=
  shell.location.resolve text

/-- The node that a text leads to. -/
def node (shell : Shell) (text : String) : Except ShellError Node :=
  (shell.view.node (shell.resolve text).text).mapError ShellError.mount

/-- Moves to the folder that a text leads to. Without a text it is the mount point. -/
def enter (shell : Shell) : Option String → Except ShellError Shell
  | none => .ok (shell.moveTo shell.view.mountPoint)
  | some text =>
    let target := shell.resolve text
    match shell.view.node? target.text with
    | none => .error (.noSuchDirectory text)
    | some node =>
      if node.isFolder then .ok (shell.moveTo target)
      else .error (.notDirectory text)

end Shell

end ContentMount
