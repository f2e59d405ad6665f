/-
This file relates the properties of nodes to the attributes of their descriptors. A property has the
name of its attribute, so that looking up the one is looking up the other.
-/

import ContentMount.Content.Node
import ContentMount.Proofs.Path.Below

namespace ContentMount

open ContentMount.Path

/-- No node has attributes with other names than these, and they come in this order. -/
theorem Descriptor.names_attributes (descriptor : Descriptor) :
    (descriptor.attributes.map Prod.fst).Sublist [Name.primaryType, Name.name, Name.data] := by
  cases descriptor <;> simp [attributes, source?]

theorem Descriptor.isSegment_of_mem_attributes {descriptor : Descriptor}
    {entry : String × Attribute} (member : entry ∈ descriptor.attributes) :
    IsSegment entry.1 := by
  have known := descriptor.names_attributes.subset (List.mem_map_of_mem member)
  have segments : ∀ name ∈ [Name.primaryType, Name.name, Name.data],
      name ≠ "" ∧ '/' ∉ name.toList := by decide
  exact ⟨(segments _ known).1, (segments _ known).2⟩

theorem Property.path_ofAttribute (path : String) (attr : Attribute) :
    (ofAttribute path attr).path = path := by
  cases attr <;> rfl

/-- A property that is made below a path has the name of its attribute. -/
theorem Property.name_ofAttribute (parent : String) {name : String} (segment : IsSegment name)
    (attr : Attribute) : (ofAttribute (below parent name) attr).name = name := by
  rw [Property.name, path_ofAttribute, nameText_below _ segment]

/-- The properties of a node have the names of the attributes of its descriptor. -/
theorem Node.names_ofDescriptor (parent : String) (descriptor : Descriptor) :
    (Node.ofDescriptor parent descriptor).properties.map Property.name =
      descriptor.attributes.map Prod.fst := by
  rw [Node.ofDescriptor, List.map_map]
  apply List.map_congr_left
  intro entry member
  have segment := Descriptor.isSegment_of_mem_attributes member
  rw [Function.comp_apply, Property.name_ofAttribute _ segment]

/-- Looking a property up by its name is looking up the attribute by its key. -/
theorem Property.find?_ofAttribute (parent : String) {entries : List (String × Attribute)}
    (segments : ∀ entry ∈ entries, IsSegment entry.1) (name : String) :
    (entries.map fun entry => ofAttribute (below parent entry.1) entry.2).find?
        (fun property => property.name == name) =
      (entries.lookup name).map (ofAttribute (below parent name)) := by
  induction entries with
  | nil => rfl
  | cons entry rest ih =>
      obtain ⟨key, attr⟩ := entry
      have isKey : (ofAttribute (below parent key) attr).name = key :=
        name_ofAttribute parent (segments _ List.mem_cons_self) attr
      rw [List.map_cons, List.find?_cons, isKey, List.lookup_cons]
      by_cases same : key = name
      · simp [same]
      · have different : (name == key) = false := beq_eq_false_iff_ne.mpr (Ne.symm same)
        rw [beq_eq_false_iff_ne.mpr same, different]
        exact ih fun other member => segments other (List.mem_cons_of_mem _ member)

/-- A node has the properties that the attributes of its descriptor make, under the same keys. -/
theorem Node.property?_ofDescriptor (parent : String) (descriptor : Descriptor) (name : String) :
    (Node.ofDescriptor parent descriptor).property? name =
      (descriptor.attributes.lookup name).map
        (Property.ofAttribute (below (below parent descriptor.name) name)) :=
  Property.find?_ofAttribute _ (fun _ => Descriptor.isSegment_of_mem_attributes) name

/-- The content of a file holds a binary that is downloaded from the path of the file. -/
theorem Node.property?_data (parent source : String) :
    ∃ property, (Node.ofDescriptor parent (.content source)).property? Name.data =
        some property ∧ property.first = .binary (.deferred source none) :=
  ⟨_, Node.property?_ofDescriptor parent (.content source) Name.data, rfl⟩

end ContentMount
