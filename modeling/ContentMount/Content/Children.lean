/-
This file walks over the children of a node one by one.
A walk never holds a position that does not fit into 64 bits.
-/

import ContentMount.Content.View

namespace ContentMount

/-- The greatest position of a walk. -/
def lastPosition : Nat := 0xFFFFFFFFFFFFFFFF

/-- A walk knows whose children it visits and how many it has passed. -/
structure Children where
  view : View
  parent : String
  position : Nat

namespace Children

/-- A walk from the first child on. -/
def start (view : View) (path : String) : Children :=
  ⟨view, (Path.parse path).text, 0⟩

/-- The descriptors of all the children. -/
def descriptors (walk : Children) : List Descriptor :=
  walk.view.snapshot.children walk.parent

/-- The number of all children, passed or not. -/
def size (walk : Children) : Nat :=
  walk.descriptors.length

/-- The number of children still to come. -/
def remaining (walk : Children) : Nat :=
  walk.size - walk.position

/-- A lower and an upper bound for the number of children still to come. -/
def bounds (walk : Children) : Nat × Option Nat :=
  (walk.remaining, some walk.remaining)

/-- The exact number of children still to come, which is told only when both bounds agree. -/
def length? (walk : Children) : Option Nat :=
  let (lower, upper) := walk.bounds
  if upper = some lower then some lower else none

/-- The next child. A walk at its end stays where it is. -/
def next (walk : Children) : Option Node × Children :=
  match walk.descriptors[walk.position]? with
  | some descriptor =>
    (some (Node.ofDescriptor walk.parent descriptor),
      { walk with position := walk.position + 1 })
  | none => (none, walk)

/-- Skips a number of children and takes the next one. Past the end the position stops growing
at the greatest one. -/
def nth (walk : Children) (skipped : Nat) : Option Node × Children :=
  { walk with position := min (walk.position + skipped) lastPosition }.next

/-- All children still to come, and the walk at its end. -/
def rest (walk : Children) : List Node × Children :=
  ((walk.descriptors.drop walk.position).map (Node.ofDescriptor walk.parent),
    { walk with position := max walk.position walk.size })

end Children

end ContentMount
