/-
This file defines properties, which hold one or more values at a path.
-/

import ContentMount.Content.Readers
import ContentMount.Path.Text
import ContentMount.Tree.Descriptor

namespace ContentMount

/-- A property has at least one value. A property of one value may still be a multiple one. -/
structure Property where
  path : String
  first : Value
  rest : List Value
  multiple : Bool
  deriving DecidableEq

namespace Property

/-- A property with a single value. -/
def single (path : String) (value : Value) : Property :=
  ⟨path, value, [], false⟩

/-- A property with a list of values, unless the list is empty. -/
def ofValues? (path : String) : List Value → Option Property
  | [] => none
  | first :: rest => some ⟨path, first, rest, true⟩

/-- The property that shows an attribute. Content is left to be downloaded. -/
def ofAttribute (path : String) : Attribute → Property
  | .text value => single path (.text value)
  | .data source => single path (.binary (.deferred source none))

def values (property : Property) : List Value :=
  property.first :: property.rest

def name (property : Property) : String :=
  Path.nameText property.path

/-- The path of the node that has the property. -/
def parentPath (property : Property) : String :=
  Path.parentText property.path

/-- The number of names in the path. -/
def depth (property : Property) : Nat :=
  ((Path.pieces property.path).filter (· != "")).length

/-- The type of a property is the type of its first value. -/
def type (property : Property) : PropertyType :=
  property.first.type

/-- Takes all values into use with one cell. -/
def hold (cell : Cell) (property : Property) : Property :=
  { property with
    first := property.first.hold cell, rest := property.rest.map (Value.hold cell) }

/-- Hands out a property for use. One that was made anew gets a fresh cell, and one from a node in
use shares the cell of the node. -/
def handOut (property : Property) : StateM Cells Property := do
  if property.values.any Value.isHeld then return property
  else return property.hold (← modifyGet Cells.fresh)

/-- The property without its cells. -/
def release (property : Property) : Property :=
  { property with first := property.first.release, rest := property.rest.map Value.release }

/-- Two properties are the same when they differ in their cells at most. -/
def same (first second : Property) : Bool :=
  first.release == second.release

/-- A property always stays as it was mounted. -/
def isNew (_ : Property) : Bool := false

def isModified (_ : Property) : Bool := false

/-- The length of the first value. -/
def readLength (property : Property) : Reading Nat :=
  property.first.readLength

/-- The lengths of all values in order. The first failure ends the reading. -/
def readLengths (property : Property) : Reading (List Nat) :=
  property.values.mapM Value.readLength

end Property

/-- What may be tried on a property. Changes are refused, and there is nothing to save. -/
inductive PropertyAction where
  | setValue
  | setValues
  | remove
  | save
  | refresh
  deriving DecidableEq

/-- The action that a name calls for. -/
def PropertyAction.ofName? : String → Option PropertyAction
  | "set_value" => some .setValue
  | "set_values" => some .setValues
  | "remove" => some .remove
  | "save" => some .save
  | "refresh" => some .refresh
  | _ => none

/-- What comes of an action on a property. -/
def PropertyAction.attempt (property : Property) : PropertyAction → Except MountError Unit
  | .setValue => .error (.constraintViolation .setValue property.path)
  | .setValues => .error (.constraintViolation .setValue property.path)
  | .remove => .error (.constraintViolation .remove property.path)
  | .save => .ok ()
  | .refresh => .ok ()

end ContentMount
