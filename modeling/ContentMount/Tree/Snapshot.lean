/-
This file defines the snapshot of a mounted tree.
It finds nodes by their whole path and knows the children of each node in their remote order.
-/

import Std.Data.TreeMap
import ContentMount.Tree.Descriptor

namespace ContentMount

/-- A snapshot holds a descriptor for each key, and for each key the list of its children. -/
structure Snapshot where
  nodes : Std.TreeMap String Descriptor
  families : Std.TreeMap String (List Descriptor)

namespace Snapshot

def empty : Snapshot := ⟨∅, ∅⟩

/-- The descriptor under a key. -/
def get? (snapshot : Snapshot) (key : String) : Option Descriptor :=
  snapshot.nodes[key]?

/-- The children under a key. A key without children has the empty list. -/
def children (snapshot : Snapshot) (key : String) : List Descriptor :=
  snapshot.families.getD key []

/-- The number of nodes. -/
def size (snapshot : Snapshot) : Nat :=
  snapshot.nodes.size

/-- The keys with their descriptors, in the order of the keys. -/
def toList (snapshot : Snapshot) : List (String × Descriptor) :=
  snapshot.nodes.toList

/-- A later node takes the place of an earlier one under the same key. -/
def addNode (snapshot : Snapshot) (key : String) (descriptor : Descriptor) : Snapshot :=
  { snapshot with nodes := snapshot.nodes.insert key descriptor }

/-- A later family takes the place of an earlier one. An empty family leaves the key as it is. -/
def addFamily (snapshot : Snapshot) (key : String) (family : List Descriptor) : Snapshot :=
  if family.isEmpty then snapshot
  else { snapshot with families := snapshot.families.insert key family }

@[simp] theorem get?_empty (key : String) : empty.get? key = none := by
  simp [empty, get?]

@[simp] theorem children_empty (key : String) : empty.children key = [] := by
  simp [empty, children]

theorem get?_addNode (snapshot : Snapshot) (key other : String) (descriptor : Descriptor) :
    (snapshot.addNode key descriptor).get? other =
      if key = other then some descriptor else snapshot.get? other := by
  simp [addNode, get?, Std.TreeMap.getElem?_insert]

theorem children_addFamily (snapshot : Snapshot) (key other : String)
    (family : List Descriptor) (present : family ≠ []) :
    (snapshot.addFamily key family).children other =
      if key = other then family else snapshot.children other := by
  simp [addFamily, children, present, Std.TreeMap.getD_insert]

end Snapshot

end ContentMount
