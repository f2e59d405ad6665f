/-
This file defines nodes and what they tell about themselves.
-/

import ContentMount.Content.Property

namespace ContentMount

/-- A node has a path, a type and properties in a fixed order. One property may be its primary
item. -/
structure Node where
  path : String
  primaryType : String
  properties : List Property
  primary : Option String
  deriving DecidableEq

namespace Node

/-- The node that a descriptor stands for below a parent. The primary item of a content node is
its content. -/
def ofDescriptor (parent : String) (descriptor : Descriptor) : Node :=
  let path := Path.below parent descriptor.name
  { path
    primaryType := descriptor.primaryType
    properties := descriptor.attributes.map fun entry =>
      Property.ofAttribute (Path.below path entry.1) entry.2
    primary := descriptor.source?.map fun _ => Name.data }

/-- A virtual folder has a type and nothing else. -/
def virtualFolder (path : String) : Node :=
  { path
    primaryType := virtualFolderType
    properties :=
      [.single (Path.below path Name.primaryType) (.text virtualFolderType)]
    primary := none }

def name (node : Node) : String :=
  Path.nameText node.path

def depth (node : Node) : Nat :=
  (Path.parse node.path).depth

/-- Folders are the nodes that can be entered. -/
def isFolder (node : Node) : Bool :=
  isFolderType node.primaryType

/-- Only the type itself matches, since no other types are known. -/
def isType (node : Node) (type : String) : Bool :=
  node.primaryType == type

/-- The property of one name. A property lies directly below its node under the key of the attribute
that it shows. A key is a single segment, so it is the last name in the path of the property. -/
def property? (node : Node) (name : String) : Option Property :=
  node.properties.find? fun property => property.name == name

/-- The property that is the primary item. -/
def primaryItem (node : Node) : Except MountError Property :=
  match node.primary.bind node.property? with
  | some property => .ok property
  | none => .error (.itemNotFound ("primary item of " ++ node.path))

/-- The path that a text leads to from this node. An absolute text is read as it stands, and
any other text is followed. -/
def resolve (node : Node) (text : String) : String :=
  if Path.isAbsolute text then (Path.parse text).text
  else ((Path.parse node.path).join text).text

/-- Takes all properties into use with one cell. -/
def hold (cell : Cell) (node : Node) : Node :=
  { node with properties := node.properties.map (Property.hold cell) }

/-- Hands out a node for use. A node that was looked up has one binary at most, so one fresh cell is
enough. -/
def handOut (node : Node) : StateM Cells Node :=
  return node.hold (← modifyGet Cells.fresh)

/-- The node without its cells. -/
def release (node : Node) : Node :=
  { node with properties := node.properties.map Property.release }

/-- Two nodes are the same when they differ in their cells at most. -/
def same (first second : Node) : Bool :=
  first.release == second.release

/-- A node is identified by its path. -/
def identifier (node : Node) : String :=
  node.path

/-- Nodes have no identifier of their own. -/
def uuid (_ : Node) : Except MountError String :=
  .error (.unsupported .uuid)

/-- A node always stays as it was mounted. -/
def isNew (_ : Node) : Bool := false

def isModified (_ : Node) : Bool := false

/-- Without versions a node counts as checked out, and without locks it is never locked. -/
def isCheckedOut (_ : Node) : Bool := true

def isLocked (_ : Node) : Bool := false

def holdsLock (_ : Node) : Bool := false

/-- Siblings are told apart by their names, so every node is the first one of its name. -/
def index (_ : Node) : Nat := 0

/-- No type is ever mixed in, and no node refers to another. -/
def mixins (_ : Node) : List String := []

def canAddMixin (_ : Node) (_mixin : String) : Bool := false

def references (_ : Node) : List Property := []

def weakReferences (_ : Node) : List Property := []

/-- Two nodes at one path show the same item. -/
def isSameItem (first second : Node) : Bool :=
  first.path == second.path

end Node

/-- What may be tried on a node. Changes are refused, versions, locks and workspaces are not
supported, and there is nothing to save. -/
inductive NodeAction where
  | setProperty (name : String)
  | addNode (path : String)
  | orderBefore | setPrimaryType | addMixin | removeMixin
  | remove
  | checkin | checkout | restore | restoreByLabel
  | merge | doneMerge | cancelMerge | update | correspondingNodePath
  | lock | unlock | getLock
  | followLifecycleTransition | allowedLifecycleTransitions
  | save | refresh
  deriving DecidableEq

/-- The action that a name calls for. Some actions are told what to make. -/
def NodeAction.ofName? (argument : String) : String → Option NodeAction
  | "set_property" => some (.setProperty argument)
  | "add_node" => some (.addNode argument)
  | "order_before" => some .orderBefore
  | "set_primary_type" => some .setPrimaryType
  | "add_mixin" => some .addMixin
  | "remove_mixin" => some .removeMixin
  | "remove" => some .remove
  | "checkin" => some .checkin
  | "checkout" => some .checkout
  | "restore" => some .restore
  | "restore_by_label" => some .restoreByLabel
  | "merge" => some .merge
  | "done_merge" => some .doneMerge
  | "cancel_merge" => some .cancelMerge
  | "update" => some .update
  | "corresponding_node_path" => some .correspondingNodePath
  | "lock" => some .lock
  | "unlock" => some .unlock
  | "get_lock" => some .getLock
  | "follow_lifecycle_transition" => some .followLifecycleTransition
  | "allowed_lifecycle_transitions" => some .allowedLifecycleTransitions
  | "save" => some .save
  | "refresh" => some .refresh
  | _ => none

/-- What comes of an action on a node. -/
def NodeAction.attempt (node : Node) : NodeAction → Except MountError Unit
  | .setProperty name => .error (.constraintViolation .setProperty (Path.below node.path name))
  | .addNode path => .error (.constraintViolation .addNode (node.resolve path))
  | .orderBefore => .error (.constraintViolation .orderBefore node.path)
  | .setPrimaryType => .error (.constraintViolation .setPrimaryType node.path)
  | .addMixin => .error (.constraintViolation .addMixin node.path)
  | .removeMixin => .error (.constraintViolation .removeMixin node.path)
  | .remove => .error (.accessDenied .remove node.path)
  | .checkin => .error (.unsupported .checkin)
  | .checkout => .error (.unsupported .checkout)
  | .restore => .error (.unsupported .restore)
  | .restoreByLabel => .error (.unsupported .restoreByLabel)
  | .merge => .error (.unsupported .merge)
  | .doneMerge => .error (.unsupported .doneMerge)
  | .cancelMerge => .error (.unsupported .cancelMerge)
  | .update => .error (.unsupported .update)
  | .correspondingNodePath => .error (.unsupported .correspondingNodePath)
  | .lock => .error (.unsupported .lock)
  | .unlock => .error (.unsupported .unlock)
  | .getLock => .error (.unsupported .getLock)
  | .followLifecycleTransition => .error (.unsupported .followLifecycleTransition)
  | .allowedLifecycleTransitions => .error (.unsupported .allowedLifecycleTransitions)
  | .save => .ok ()
  | .refresh => .ok ()

end ContentMount
