/-
This file looks into a mounted tree. A view is a snapshot together with its mount point.
The mount point and everything above it are virtual folders.
-/

import ContentMount.Content.Node
import ContentMount.Tree.Snapshot

namespace ContentMount

/-- A view shows a snapshot below a mount point and never changes it. -/
structure View where
  snapshot : Snapshot
  mountPoint : Path

/-- A node or a property. -/
inductive Item where
  | node (node : Node)
  | property (property : Property)
  deriving DecidableEq

def Item.path : Item → String
  | .node n => n.path
  | .property p => p.path

def Item.isNode : Item → Bool
  | .node _ => true
  | .property _ => false

/-- Turns a missing thing into an error that names its path. -/
def orNotFound {α : Type} (path : String) : Option α → Except MountError α
  | some found => .ok found
  | none => .error (.notFound path)

namespace View

/-- A snapshot seen below the mount point that a text names. -/
def ofSnapshot (snapshot : Snapshot) (mountPoint : String) : View :=
  ⟨snapshot, Path.parse mountPoint⟩

/-- The node at a path. Above the mount point and at it the snapshot is not asked. -/
def nodeAt? (view : View) (path : Path) : Option Node :=
  if path.isAncestorOrSelf view.mountPoint then some (Node.virtualFolder path.text)
  else (view.snapshot.get? path.text).map (Node.ofDescriptor path.up.text)

/-- The node at the path that a text names. -/
def node? (view : View) (path : String) : Option Node :=
  view.nodeAt? (Path.parse path)

/-- The property at a path is looked up on the node above it. -/
def property? (view : View) (path : String) : Option Property := do
  let target := Path.parse path
  let name ← target.name?
  let parent ← view.nodeAt? target.up
  parent.property? name

/-- The children below a path, in their remote order. -/
def children (view : View) (path : String) : List Node :=
  let parent := (Path.parse path).text
  (view.snapshot.children parent).map (Node.ofDescriptor parent)

/-- The node at a path, or the error that names the path as it was given. -/
def node (view : View) (path : String) : Except MountError Node :=
  orNotFound path (view.node? path)

/-- The property at a path, or the error that names the path as it was given. -/
def property (view : View) (path : String) : Except MountError Property :=
  orNotFound path (view.property? path)

/-- The node at a path, or else the property. -/
def item (view : View) (path : String) : Except MountError Item :=
  match view.node? path with
  | some node => .ok (.node node)
  | none => (view.property path).map Item.property

def hasNode (view : View) (path : String) : Bool :=
  (view.node? path).isSome

def hasProperty (view : View) (path : String) : Bool :=
  (view.property? path).isSome

def hasItem (view : View) (path : String) : Bool :=
  view.hasNode path || view.hasProperty path

/-- There is never anything to save or to read again. -/
def hasPendingChanges (_ : View) : Bool := false

def save (_ : View) : Except MountError Unit := .ok ()

def refresh (_ : View) : Except MountError Unit := .ok ()

/-- The root is always a virtual folder. -/
def rootNode (view : View) : Except MountError Node :=
  view.node "/"

/-- Nothing can be removed. The error depends on what is at the path. -/
def removeItem (view : View) (path : String) : Except MountError Unit :=
  match view.item path with
  | .ok (.node node) => NodeAction.remove.attempt node
  | .ok (.property property) => PropertyAction.remove.attempt property
  | .error error => .error error

/-- Items cannot be moved. -/
def moveItem (_ : View) (_source _target : String) : Except MountError Unit :=
  .error (.unsupported .move)

/-- Items cannot be copied. -/
def copyItem (_ : View) (_source _target : String) : Except MountError Unit :=
  .error (.unsupported .copy)

end View

namespace Node

/-- A property by its name, or by a path that starts at this node unless it is absolute. -/
def property (node : Node) (view : View) (text : String) : Except MountError Property :=
  if text.toList.contains '/' then
    let path := node.resolve text
    orNotFound path (view.property? path)
  else orNotFound (Path.below node.path text) (node.property? text)

def hasProperty (node : Node) (view : View) (text : String) : Bool :=
  if text.toList.contains '/' then view.hasProperty (node.resolve text)
  else (node.property? text).isSome

/-- The node at a path that starts at this node unless it is absolute. -/
def node (node : Node) (view : View) (text : String) : Except MountError Node :=
  let path := node.resolve text
  orNotFound path (view.node? path)

def hasNode (node : Node) (view : View) (text : String) : Bool :=
  view.hasNode (node.resolve text)

/-- The children in their remote order. -/
def children (node : Node) (view : View) : List Node :=
  view.children node.path

def hasChildren (node : Node) (view : View) : Bool :=
  !(node.children view).isEmpty

/-- The node one path segment up. -/
def parent (node : Node) (view : View) : Except MountError Node :=
  if (Path.parse node.path).isRoot then .error (.itemNotFound "parent of /")
  else
    let path := Path.parentText node.path
    orNotFound path (view.node? path)

/-- The node above this one at a depth. The root is at depth zero. -/
def ancestor (node : Node) (view : View) (depth : Nat) : Except MountError Node :=
  let path := Path.parse node.path
  if path.depth < depth then
    .error (.itemNotFound ("ancestor " ++ toString depth ++ " of " ++ node.path))
  else
    let path := (path.take depth).text
    orNotFound path (view.node? path)

end Node

end ContentMount
