/-
This file follows the ways to the properties of nodes. By its name, by a path, from the view and
from the node above, a property is the one that the attribute with its name makes.
-/

import ContentMount.Proofs.Content.Attributes
import ContentMount.Proofs.Content.Navigation
import ContentMount.Proofs.Path.Following

namespace ContentMount

open Remote ContentMount.Path

/-! ## Ways to a property -/

/-- What a view keeps at a path. The mount point and everything above it have the type of a virtual
folder and no other attribute. -/
def View.attributesAt (view : View) (path : Path) : List (String × Attribute) :=
  if path.isAncestorOrSelf view.mountPoint then [(Name.primaryType, .text virtualFolderType)]
  else ((view.snapshot.get? path.text).map Descriptor.attributes).getD []

/-- The property that an attribute at a path makes. -/
def View.made? (view : View) (path : Path) (name : String) : Option Property :=
  ((view.attributesAt path).lookup name).map (Property.ofAttribute (below path.text name))

/-- All the ways to a property of a node have one outcome. Where there is no property, each of them
fails with the path at which it would be. -/
structure Node.Offers (node : Node) (view : View) (name : String) (outcome : Option Property) :
    Prop where
  byName : node.property view name = orNotFound (below node.path name) outcome
  byPath : node.property view (node.path ++ "/" ++ name) =
    orNotFound (below node.path name) outcome
  fromView : view.property (below node.path name) = orNotFound (below node.path name) outcome
  fromAbove : node.path ≠ "/" → ∃ above, node.parent view = .ok above ∧
    above.property view (node.name ++ "/" ++ name) = orNotFound (below node.path name) outcome ∧
      above.hasProperty view (node.name ++ "/" ++ name) = outcome.isSome
  hasByName : node.hasProperty view name = outcome.isSome
  hasByPath : node.hasProperty view (node.path ++ "/" ++ name) = outcome.isSome
  hasFromView : view.hasProperty (below node.path name) = outcome.isSome
  located : ∀ property ∈ outcome, property.path = below node.path name ∧ property.name = name ∧
    property.parentPath = node.path

/-! ## Paths to properties -/

namespace Path

theorem segments_parse_name {name : String} (isName : IsName name) :
    (parse name).segments = [name] := by
  rw [segments_parse, pieces_slashless isName.slashless, kept]
  simp [isName.isIdle_eq_false]

/-- A name after the text of a path and a slash is read as a child. -/
theorem parse_text_append_slash {path : Path} (names : path.HasNames) {name : String}
    (isName : IsName name) : parse (path.text ++ "/" ++ name) = path.child name := by
  rw [parse_append_slash, parse_text names, segments_parse_name isName]
  rfl

end Path

theorem slash_mem_append (front rest : String) :
    (front ++ "/" ++ rest).toList.contains '/' = true := by
  simp

namespace Node

theorem property_of_slashless (node : Node) (view : View) {name : String}
    (slashless : '/' ∉ name.toList) :
    node.property view name = orNotFound (below node.path name) (node.property? name) := by
  have noSlash : name.toList.contains '/' = false := by simpa using slashless
  simp only [property, noSlash, Bool.false_eq_true, if_false]

/-- A path below the text of a path of names leads from any node to the child. -/
theorem resolve_text_append_slash (node : Node) {path : Path} (names : path.HasNames)
    {name : String} (isName : IsName name) :
    node.resolve (path.text ++ "/" ++ name) = (path.child name).text := by
  have absolute : isAbsolute (path.text ++ "/" ++ name) = true := by
    rw [String.append_assoc]
    exact isAbsolute_append_of_isAbsolute (MountConfig.isAbsolute_text path) _
  rw [resolve, if_pos absolute, parse_text_append_slash names isName]

/-- Two plain names lead from the node at a path two steps down. -/
theorem resolve_two_names {node : Node} {path : Path} (names : path.HasNames)
    (isText : node.path = path.text) {first second : String} (firstPlain : IsPlainName first)
    (secondPlain : IsPlainName second) :
    node.resolve (first ++ "/" ++ second) = ((path.child first).child second).text := by
  have relative : isAbsolute (first ++ "/" ++ second) = false := by
    rw [String.append_assoc, isAbsolute_append firstPlain.nonempty,
      isAbsolute_eq_false_of_slashless firstPlain.slashless]
  rw [resolve, relative, if_neg Bool.false_ne_true, isText, parse_text names, join_append_slash,
    join_slashless _ firstPlain.slashless, join_slashless _ secondPlain.slashless,
    firstPlain.step, secondPlain.step]

end Node

namespace View

/-- A property below a path is looked up on the node at the path. -/
theorem property?_text_child {view : View} {path : Path} (names : path.HasNames) {node : Node}
    (found : view.nodeAt? path = some node) {name : String} (isName : IsName name) :
    view.property? (path.child name).text = node.property? name := by
  simp [property?, parse_text (names.child isName), Path.name?, found]

theorem isSegment_of_mem_attributesAt {view : View} {path : Path} {entry : String × Attribute}
    (member : entry ∈ view.attributesAt path) : IsSegment entry.1 := by
  rw [attributesAt] at member
  split_ifs at member
  · rw [List.mem_singleton.mp member]
    exact ⟨by decide, by decide⟩
  · cases held : view.snapshot.get? path.text with
    | none => simp [held] at member
    | some descriptor =>
        rw [held] at member
        exact Descriptor.isSegment_of_mem_attributes member

/-- The first attribute at the path of a node is the type of the node. -/
theorem lookup_primaryType {view : View} {path : Path} {node : Node}
    (found : view.nodeAt? path = some node) :
    (view.attributesAt path).lookup Name.primaryType =
      some (.text node.primaryType) := by
  rw [nodeAt?] at found
  rw [attributesAt]
  split_ifs at found with above
  · obtain rfl := Option.some.inj found
    rw [if_pos above]
    rfl
  · obtain ⟨descriptor, held, rfl⟩ := Option.map_eq_some_iff.mp found
    rw [if_neg above, held]
    rfl

/-- A node has its content as primary item when it is the content of a file, and no other node has a
primary item. -/
theorem primary_cases {view : View} {path : Path} {node : Node}
    (found : view.nodeAt? path = some node) :
    (node.primaryType ≠ NodeKind.content.primaryType ∧ node.primary = none) ∨
      (node.primaryType = NodeKind.content.primaryType ∧ node.primary = some Name.data ∧
        ((view.attributesAt path).lookup Name.data).isSome) := by
  rw [nodeAt?] at found
  split_ifs at found with above
  · obtain rfl := Option.some.inj found
    exact .inl ⟨by simp [Node.virtualFolder, virtualFolderType, NodeKind.primaryType], rfl⟩
  · obtain ⟨descriptor, held, rfl⟩ := Option.map_eq_some_iff.mp found
    cases descriptor with
    | folder name => exact .inl ⟨by simp [Node.ofDescriptor, Descriptor.primaryType,
        Descriptor.kind, NodeKind.primaryType], rfl⟩
    | file name => exact .inl ⟨by simp [Node.ofDescriptor, Descriptor.primaryType,
        Descriptor.kind, NodeKind.primaryType], rfl⟩
    | content source =>
        refine .inr ⟨rfl, rfl, ?_⟩
        rw [attributesAt, if_neg above, held]
        rfl

end View

namespace Snapshot.HoldsAt

variable {snapshot : Snapshot} {mount : Path} {tree : Tree}
  (holds : snapshot.HoldsAt mount tree)
include holds

/-- The properties of a node are made from the attributes at its path. -/
theorem properties_eq {path : Path} (names : path.HasNames) {node : Node}
    (found : View.nodeAt? ⟨snapshot, mount⟩ path = some node) :
    node.properties = (View.attributesAt ⟨snapshot, mount⟩ path).map fun entry =>
      Property.ofAttribute (Path.below path.text entry.1) entry.2 := by
  have isText := holds.path_of_nodeAt? names found
  rw [View.nodeAt?] at found
  rw [View.attributesAt]
  split_ifs at found with above
  · obtain rfl := Option.some.inj found
    rw [if_pos above]
    rfl
  · obtain ⟨descriptor, held, rfl⟩ := Option.map_eq_some_iff.mp found
    rw [if_neg above, held, ← isText]
    rfl

theorem property?_eq_made? {path : Path} (names : path.HasNames) {node : Node}
    (found : View.nodeAt? ⟨snapshot, mount⟩ path = some node) (name : String) :
    node.property? name = View.made? ⟨snapshot, mount⟩ path name := by
  rw [Node.property?, holds.properties_eq names found,
    Property.find?_ofAttribute _ fun _ => View.isSegment_of_mem_attributesAt]
  rfl

/-- A node with a plain name that is found is also found by this name from the node above it. -/
theorem offers_made? {path : Path} (names : path.HasNames)
    (plain : path ≠ root → IsPlainName (nameText path.text)) {node : Node}
    (found : View.nodeAt? ⟨snapshot, mount⟩ path = some node) {name : String}
    (isPlain : IsPlainName name) :
    node.Offers ⟨snapshot, mount⟩ name (View.made? ⟨snapshot, mount⟩ path name) := by
  have isName := isPlain.toIsName
  have isText := holds.path_of_nodeAt? names found
  have isBelow : Path.below node.path name = (path.child name).text := by
    rw [isText, below_text names.segments isName.toIsSegment]
  have made := holds.property?_eq_made? names found name
  have looked : View.property? ⟨snapshot, mount⟩ (Path.below node.path name) =
      View.made? ⟨snapshot, mount⟩ path name := by
    rw [isBelow, View.property?_text_child names found isName, made]
  have slashless : name.toList.contains '/' = false := by simpa using isName.slashless
  have byPath : node.resolve (node.path ++ "/" ++ name) = Path.below node.path name := by
    rw [isBelow, isText, node.resolve_text_append_slash names isName]
  refine ⟨?_, ?_, ?_, ?_, ?_, ?_, ?_, ?_⟩
  · rw [node.property_of_slashless _ isName.slashless, made]
  · simp only [Node.property, slash_mem_append, if_true, byPath, looked]
  · rw [View.property, looked]
  · intro notSlash
    have notRoot : path ≠ root := by
      rintro rfl
      exact notSlash isText
    obtain ⟨above, isAbove⟩ :=
      Option.isSome_iff_exists.mp (holds.nodeAt?_up names (found ▸ rfl))
    have aboveText := holds.path_of_nodeAt? names.up isAbove
    have fromAbove : above.resolve (node.name ++ "/" ++ name) = Path.below node.path name := by
      rw [isBelow, Node.name, isText, Node.resolve_two_names names.up aboveText (plain notRoot)
        isPlain, child_nameText notRoot names.segments]
    refine ⟨above, View.parent_eq _ names notRoot isText isAbove, ?_, ?_⟩
    · simp only [Node.property, slash_mem_append, if_true, fromAbove, looked]
    · simp only [Node.hasProperty, slash_mem_append, if_true, fromAbove, View.hasProperty, looked]
  · simp only [Node.hasProperty, slashless, Bool.false_eq_true, if_false, made]
  · simp only [Node.hasProperty, slash_mem_append, if_true, byPath, View.hasProperty, looked]
  · rw [View.hasProperty, looked]
  · intro property inside
    obtain ⟨attr, -, rfl⟩ := Option.map_eq_some_iff.mp inside
    have segment := isName.toIsSegment
    refine ⟨?_, Property.name_ofAttribute _ segment attr, ?_⟩
    · rw [Property.path_ofAttribute, isText]
    · rw [Property.parentPath, Property.path_ofAttribute, below_text names.segments segment,
        parentText_text (names.child isName), up_child, isText]

theorem primaryItem {path : Path} (names : path.HasNames) {node : Node}
    (found : View.nodeAt? ⟨snapshot, mount⟩ path = some node) :
    ((∃ property, node.primaryItem = .ok property) ↔
        node.primaryType = NodeKind.content.primaryType) ∧
      (node.primaryType = NodeKind.content.primaryType →
        node.primaryItem = node.property ⟨snapshot, mount⟩ Name.data) := by
  rcases View.primary_cases found with ⟨other, none⟩ | ⟨isContent, isData, present⟩
  · simp [Node.primaryItem, none, other]
  · obtain ⟨attr, isAttribute⟩ := Option.isSome_iff_exists.mp present
    have made := holds.property?_eq_made? names found Name.data
    rw [View.made?, isAttribute, Option.map_some] at made
    have item : node.primaryItem =
        .ok (Property.ofAttribute (Path.below path.text Name.data) attr) := by
      rw [Node.primaryItem, isData, Option.bind_some, made]
    refine ⟨⟨fun _ => isContent, fun _ => ⟨_, item⟩⟩, fun _ => ?_⟩
    rw [item, node.property_of_slashless _ (by decide), made]
    rfl

end Snapshot.HoldsAt

/-! ## Built views -/

namespace Snapshot.MirrorsAt

variable {snapshot : Snapshot} {mount : Path} {tree : Tree}
  (mirror : snapshot.MirrorsAt mount tree)
include mirror

/-- Paths to nodes have plain names only. -/
theorem plain_of_nodeAt? (plain : tree.Named IsPlainName) (mountPlain : mount.HasPlainNames)
    {path : Path} (names : path.HasNames) {node : Node}
    (found : View.nodeAt? ⟨snapshot, mount⟩ path = some node) : path.HasPlainNames := by
  rcases mirror.nodeAt?_cases names found with
    ⟨above, -⟩ | ⟨trail, name, descriptor, children, shown, -, rfl, -⟩
  · have start := List.isPrefixOf_iff_prefix.mp above
    exact fun segment member => mountPlain segment (start.subset member)
  · have trailPlain := shown.named Tree.isPlainName_content plain
    rw [← follow_append_singleton]
    intro segment member
    rcases List.mem_append.mp member with old | new
    · exact mountPlain segment old
    · exact trailPlain segment new

end Snapshot.MirrorsAt

namespace View

variable {σ : Type} {store : Store σ} {paging : Paging store} {config : MountConfig} {tree : Tree}
  {state : σ} {remotePath : String} {limit : Nat} {snapshot : Snapshot}

/-- What a build makes of a well-named tree mirrors the tree. -/
theorem mirrorsAt_of_build (accepted : config.validatePaths = .ok ()) (wellNamed : tree.WellNamed)
    (served : paging.ServesAt state remotePath tree)
    (built : (store.run (Snapshot.build limit config.mountPoint remotePath) state).1 =
      some (.ok snapshot)) : snapshot.MirrorsAt (parse config.mountPoint) tree := by
  obtain ⟨below, plain, isText⟩ := MountConfig.mountPoint_of_accepted accepted
  have planted := Snapshot.eq_of_build served built
  obtain rfl : snapshot = Snapshot.empty.plant config.mountPoint tree := Except.ok.inj planted
  have mirror := Snapshot.mirrorsAt_plant wellNamed below plain.names
  rwa [isText] at mirror

/-- In a view of a well-named tree all the ways to a property of a node lead to the property that
the attribute of this name makes, or all of them fail with its path. Every node has its type as a
property. The content of files has a primary item, which is its data, and no other node has one. -/
theorem offers_of_build (accepted : config.validatePaths = .ok ()) (wellNamed : tree.WellNamed)
    (served : paging.ServesAt state remotePath tree)
    (built : (store.run (Snapshot.build limit config.mountPoint remotePath) state).1 =
      some (.ok snapshot)) {text : String} {node : Node}
    (found : (View.ofSnapshot snapshot config.mountPoint).node? text = some node) :
    (∀ name, IsPlainName name → node.Offers (.ofSnapshot snapshot config.mountPoint) name
        ((View.ofSnapshot snapshot config.mountPoint).made? (parse text) name)) ∧
    (∃ property, node.property (.ofSnapshot snapshot config.mountPoint) Name.primaryType =
        .ok property ∧ property.values = [.text node.primaryType]) ∧
    ((∃ property, node.primaryItem = .ok property) ↔
        node.primaryType = NodeKind.content.primaryType) ∧
    (node.primaryType = NodeKind.content.primaryType →
        node.primaryItem =
          node.property (.ofSnapshot snapshot config.mountPoint) Name.data) := by
  have mirror := mirrorsAt_of_build accepted wellNamed served built
  have names := hasNames_parse text
  have mountPlain := (MountConfig.mountPoint_of_accepted accepted).2.1
  have pathPlain := mirror.plain_of_nodeAt? (Tree.wellNamed_iff.mp wellNamed).1 mountPlain names
    found
  refine ⟨fun name isPlain => ?_, ?_, mirror.primaryItem names found⟩
  · refine mirror.offers_made? names (fun below => ?_) found isPlain
    exact pathPlain _ (List.mem_of_getLast? (nameText_text below names.segments))
  · have made : node.property? Name.primaryType =
        (ofSnapshot snapshot config.mountPoint).made? (parse text) Name.primaryType :=
      mirror.property?_eq_made? names found Name.primaryType
    rw [made?, lookup_primaryType found, Option.map_some] at made
    refine ⟨.ofAttribute (below (parse text).text Name.primaryType) (.text node.primaryType), ?_,
      rfl⟩
    rw [node.property_of_slashless _ (by decide), made]
    rfl

/-- In the sample tree, the data of a file is the primary item of its content, and the file has it
at the path through its content. -/
theorem offers_sampleTree :
    ∃ content file : Node,
      (View.ofSnapshot (Snapshot.empty.plant "/content/dropbox" sampleTree)
        "/content/dropbox").node? "/content/dropbox/B.txt/jcr:content" = some content ∧
      content.parent (.ofSnapshot (Snapshot.empty.plant "/content/dropbox" sampleTree)
        "/content/dropbox") = .ok file ∧
      content.primaryItem = file.property (.ofSnapshot
        (Snapshot.empty.plant "/content/dropbox" sampleTree) "/content/dropbox")
          "jcr:content/jcr:data" ∧
      ∃ property, content.primaryItem = .ok property := by
  obtain ⟨enough, ends⟩ := Snapshot.build_plants sampleTree_servedAt "/content/dropbox"
  have built := ends enough (Nat.le_refl enough)
  have mirror := mirrorsAt_of_build validatePaths_default sampleTree_wellNamed sampleTree_servedAt
    built
  have shown : Tree.Shows (lastPiece (parse "/content/dropbox").text) sampleTree
      (["B.txt"] ++ [Name.content]) (.content "/b.txt") [] :=
    .down _ "" "/" (List.mem_cons_of_mem _ List.mem_cons_self) (.content "B.txt" "B.txt" "/b.txt")
  have isPath : parse "/content/dropbox/B.txt/jcr:content" =
      (parse "/content/dropbox").follow (["B.txt"] ++ [Name.content]) := by decide
  have isText : ((parse "/content/dropbox").follow ["B.txt"]).text = "/content/dropbox/B.txt" := by
    decide
  have found := mirror.nodeAt?_follow shown
  rw [← isPath, isText] at found
  obtain ⟨offers, -, hasItem, isData⟩ := offers_of_build validatePaths_default sampleTree_wellNamed
    sampleTree_servedAt built found
  have atPath : (Node.ofDescriptor "/content/dropbox/B.txt" (.content "/b.txt")).path =
      "/content/dropbox/B.txt/jcr:content" := by decide
  have isName : (Node.ofDescriptor "/content/dropbox/B.txt" (.content "/b.txt")).name =
      "jcr:content" := by decide
  have data := offers Name.data (by decide)
  obtain ⟨file, isAbove, fromAbove, -⟩ := data.fromAbove (by rw [atPath]; decide)
  refine ⟨_, file, found, isAbove, ?_, hasItem.mpr rfl⟩
  rw [isData rfl, data.byName, ← fromAbove, isName]
  rfl

end View

end ContentMount
