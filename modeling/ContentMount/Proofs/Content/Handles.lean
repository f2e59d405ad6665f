/-
This file is about values in use. All copies of a value use one cell, and comparing values part by
part never depends on what has been downloaded.
-/

import ContentMount.Content.View

namespace ContentMount

/-! ## Cells in use -/

/-- The content of a node, with the cell that it uses. -/
def Node.content (node : Node) (source : String) (cell : Cell) : Property :=
  .single (Path.below node.path Name.data) (.binary (.deferred source (some cell)))

/-- A node has no binary but its content, so one cell is enough for it. -/
theorem Node.hold_ofDescriptor {parent : String} {descriptor : Descriptor} {property : Property}
    {binary : Binary} (cell : Cell)
    (member : property ∈ (ofDescriptor parent descriptor).properties)
    (inside : .binary binary ∈ property.values) :
    ∃ source, property.hold cell = (ofDescriptor parent descriptor).content source cell := by
  obtain ⟨⟨name, attr⟩, listed, rfl⟩ := List.mem_map.mp member
  cases attr with
  | text value => simp [Property.ofAttribute, Property.single, Property.values] at inside
  | data source =>
    refine ⟨source, ?_⟩
    cases descriptor <;> simp [Descriptor.attributes, Descriptor.source?] at listed
    obtain ⟨rfl, rfl⟩ := listed
    rfl

theorem View.hold_of_nodeAt? {view : View} {path : Path} {node : Node} {property : Property}
    {binary : Binary} (cell : Cell) (found : view.nodeAt? path = some node)
    (member : property ∈ node.properties) (inside : .binary binary ∈ property.values) :
    ∃ source, property.hold cell = node.content source cell := by
  unfold nodeAt? at found
  split at found
  · cases found
    simp only [Node.virtualFolder, List.mem_singleton] at member
    subst member
    simp [Property.single, Property.values] at inside
  · obtain ⟨descriptor, _, rfl⟩ := Option.map_eq_some_iff.mp found
    exact Node.hold_ofDescriptor cell member inside

/-- Values in use are binaries only if they were so before. -/
theorem Property.exists_binary_of_hold {property : Property} {binary : Binary} {cell : Cell}
    (inside : .binary binary ∈ (property.hold cell).values) :
    ∃ held, .binary held ∈ property.values := by
  rw [show (property.hold cell).values = property.values.map (Value.hold cell) from rfl] at inside
  obtain ⟨value, member, same⟩ := List.mem_map.mp inside
  cases value with
  | text => cases same
  | binary held => exact ⟨held, member⟩

/-- In a node that was looked up or is a child of another, all that is to be downloaded is one
value. In use this value has the cell, and so has every copy of it. -/
theorem View.content_of_shown {view : View} {path : String} {node : Node} {property : Property}
    {binary : Binary} {cell : Cell}
    (shown : view.node? path = some node ∨ node ∈ view.children path)
    (member : property ∈ (node.hold cell).properties) (inside : .binary binary ∈ property.values) :
    ∃ source, property = node.content source cell := by
  obtain ⟨original, listed, rfl⟩ := List.mem_map.mp member
  obtain ⟨held, inside⟩ := Property.exists_binary_of_hold inside
  rcases shown with found | child
  · exact hold_of_nodeAt? cell found listed inside
  · obtain ⟨descriptor, _, rfl⟩ := List.mem_map.mp child
    exact Node.hold_ofDescriptor cell listed inside

/-- The same holds for a property that was looked up. -/
theorem View.content_of_property? {view : View} {path : String} {property : Property}
    {binary : Binary} {cell : Cell} (found : view.property? path = some property)
    (inside : .binary binary ∈ (property.hold cell).values) :
    ∃ node source, property.hold cell = Node.content node source cell := by
  simp only [property?, Option.bind_eq_bind, Option.bind_eq_some_iff] at found
  obtain ⟨name, _, node, parent, named⟩ := found
  obtain ⟨held, inside⟩ := Property.exists_binary_of_hold inside
  exact ⟨node, hold_of_nodeAt? cell parent (List.mem_of_find?_eq_some named) inside⟩

/-! ## Handing out -/

theorem Node.handOut_eq (node : Node) (cells : Cells) :
    node.handOut cells = (node.hold cells.fresh.1, cells.fresh.2) := rfl

/-- A property without cells gets a fresh one. -/
theorem Property.handOut_of_new {property : Property}
    (new : property.values.any Value.isHeld = false) (cells : Cells) :
    property.handOut cells = (property.hold cells.fresh.1, cells.fresh.2) := by
  rw [handOut, new]
  rfl

/-- A copy of a property in use has the same cell. -/
theorem Property.handOut_content (node : Node) (source : String) (cell : Cell) (cells : Cells) :
    (node.content source cell).handOut cells = (node.content source cell, cells) := rfl

theorem Property.isHeld_ofAttribute (path : String) (attr : Attribute) :
    (ofAttribute path attr).values.any Value.isHeld = false := by
  cases attr <;> rfl

/-- Nothing is in use in a view. -/
theorem View.isHeld_of_property? {view : View} {path : String} {property : Property}
    (found : view.property? path = some property) :
    property.values.any Value.isHeld = false := by
  simp only [property?, Option.bind_eq_bind, Option.bind_eq_some_iff] at found
  obtain ⟨name, _, node, parent, named⟩ := found
  have member : property ∈ node.properties := List.mem_of_find?_eq_some named
  unfold nodeAt? at parent
  split at parent
  · obtain rfl := Option.some.inj parent
    obtain rfl := List.mem_singleton.mp member
    rfl
  · obtain ⟨descriptor, _, rfl⟩ := Option.map_eq_some_iff.mp parent
    obtain ⟨entry, _, rfl⟩ := List.mem_map.mp member
    exact Property.isHeld_ofAttribute _ _

/-! ## Comparing values -/

/-- Deferred binaries are compared by their sources, and the others by their payloads. -/
def Binary.equal (cells : Cells) (first second : Binary) : Bool :=
  match first.source?, second.source? with
  | some first, some second => first == second
  | none, none => decide (first.payload? cells = second.payload? cells)
  | _, _ => false

/-- A text is never equal to a binary. -/
def Value.equal (cells : Cells) : Value → Value → Bool
  | .text first, .text second => first == second
  | .binary first, .binary second => first.equal cells second
  | _, _ => false

def Property.equal (cells : Cells) (first second : Property) : Bool :=
  first.path == second.path && first.values.isEqv second.values (Value.equal cells) &&
    first.multiple == second.multiple && first.type == second.type

def Node.equal (cells : Cells) (first second : Node) : Bool :=
  first.path == second.path && first.primaryType == second.primaryType &&
    first.primary == second.primary &&
    first.properties.isEqv second.properties (Property.equal cells)

/-- Lists are compared like their images when their items are. -/
theorem isEqv_iff_map {α β : Type} {test : α → α → Bool} {image : α → β}
    (each : ∀ first second, test first second = true ↔ image first = image second)
    (first second : List α) :
    first.isEqv second test = true ↔ first.map image = second.map image := by
  induction first generalizing second with
  | nil => cases second <;> simp [List.isEqv]
  | cons head tail ih => cases second <;> simp [List.isEqv, each, ih]

theorem Binary.equal_iff (cells : Cells) (first second : Binary) :
    first.equal cells second = true ↔ first.release = second.release := by
  cases first <;> cases second <;> simp [equal, source?, payload?, release]

theorem Value.equal_iff (cells : Cells) (first second : Value) :
    first.equal cells second = true ↔ first.release = second.release := by
  cases first <;> cases second <;> simp [equal, release, Binary.equal_iff]

theorem Value.type_release (value : Value) : value.release.type = value.type := by
  cases value <;> rfl

theorem Property.equal_iff (cells : Cells) (first second : Property) :
    first.equal cells second = true ↔ first.release = second.release := by
  have typed (same : first.first.release = second.first.release) : first.type = second.type := by
    rw [type, type, ← Value.type_release, same, Value.type_release]
  simp only [equal, release, Bool.and_eq_true, beq_iff_eq,
    isEqv_iff_map (Value.equal_iff cells), values, List.map_cons, List.cons.injEq, mk.injEq]
  grind

theorem Node.equal_iff (cells : Cells) (first second : Node) :
    first.equal cells second = true ↔ first.release = second.release := by
  simp only [equal, release, Bool.and_eq_true, beq_iff_eq,
    isEqv_iff_map (Property.equal_iff cells), mk.injEq]
  grind

/-- Properties are the same when all their parts are equal. -/
theorem Property.equal_eq_same (cells : Cells) (first second : Property) :
    first.equal cells second = first.same second := by
  rw [Bool.eq_iff_iff, equal_iff, same, beq_iff_eq]

/-- Nodes are the same when all their parts are equal. -/
theorem Node.equal_eq_same (cells : Cells) (first second : Node) :
    first.equal cells second = first.same second := by
  rw [Bool.eq_iff_iff, equal_iff, same, beq_iff_eq]

theorem Value.release_hold (cell : Cell) (value : Value) :
    (value.hold cell).release = value.release := by
  rcases value with text | payload | ⟨source, cell⟩ <;> rfl

theorem Property.release_hold (cell : Cell) (property : Property) :
    (property.hold cell).release = property.release := by
  simp [hold, release, Value.release_hold]

theorem Node.release_hold (cell : Cell) (node : Node) :
    (node.hold cell).release = node.release := by
  simp [hold, release, Property.release_hold]

/-- Two lookups of one node give equal nodes, whichever cells they use. -/
theorem Node.equal_hold (cells : Cells) (node : Node) (first second : Cell) :
    (node.hold first).equal cells (node.hold second) = true := by
  rw [equal_iff, release_hold, release_hold]

end ContentMount
