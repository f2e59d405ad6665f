/-
This file shows that a view of a mirrored tree is coherent: looking up a path, listing children
and going up all lead to the same nodes.
-/

import ContentMount.Content.View
import ContentMount.Proofs.Build.Outcome

namespace ContentMount

open Remote ContentMount.Path

/-- Goes up from a node to its parent a number of times. -/
def Node.climb (view : View) : Nat → Node → Except MountError Node
  | 0, node => .ok node
  | steps + 1, node => do (← node.parent view).climb view steps

/-- The text of a path that is written as reading it would write it. -/
def Path.IsCanonical (text : String) : Prop := (parse text).text = text

/-- A view is coherent when looking up a path, listing children and going up agree. -/
structure View.Coherent (view : View) : Prop where
  /-- The mount point and everything above it are virtual folders. -/
  virtual : ∀ text, (parse text).isAncestorOrSelf view.mountPoint = true →
    view.node? text = some (Node.virtualFolder (parse text).text)
  /-- Any other node is one that the snapshot knows. -/
  known : ∀ text, (parse text).isAncestorOrSelf view.mountPoint = false →
    ((view.node? text).isSome ↔ (view.snapshot.get? (parse text).text).isSome)
  /-- A node that is found has the path by which it was found. -/
  path : ∀ text node, view.node? text = some node → node.path = (parse text).text
  /-- A child is found at its own path. -/
  child : ∀ text, ∀ node ∈ view.children text, view.node? node.path = some node
  /-- The parent of a child is the node whose child it is. -/
  parent : ∀ text, ∀ node ∈ view.children text, ∃ above,
    view.node? (parse text).text = some above ∧ node.parent view = .ok above
  /-- Each key of the snapshot below the mount point is the path of one child of one parent. -/
  placed : ∀ key, (view.snapshot.get? key).isSome → key ≠ view.mountPoint.text →
    ∃ above, IsCanonical above ∧ ((view.children above).map Node.path).count key = 1 ∧
      ∀ other, IsCanonical other → key ∈ (view.children other).map Node.path → other = above
  /-- The ancestor at a depth is reached by going up step by step. -/
  ancestor : ∀ text node, view.node? text = some node → ∀ depth ≤ node.depth, ∃ above,
    node.ancestor view depth = .ok above ∧ node.climb view (node.depth - depth) = .ok above

namespace View

theorem node?_text (view : View) {path : Path} (names : path.HasNames) :
    view.node? path.text = view.nodeAt? path := by
  rw [node?, parse_text names]

/-- A mount point is found at its own path. -/
theorem node?_mountPoint {view : View} (names : view.mountPoint.HasNames) :
    view.node? view.mountPoint.text = some (Node.virtualFolder view.mountPoint.text) := by
  rw [node?_text view names, nodeAt?, isAncestorOrSelf_refl, if_pos rfl]

theorem children_text (view : View) {path : Path} (names : path.HasNames) :
    view.children path.text =
      (view.snapshot.children path.text).map (Node.ofDescriptor path.text) := by
  rw [children, parse_text names]

/-- Children are listed below the text that a path is read and written again to. -/
theorem children_parse (view : View) (text : String) :
    view.children (parse text).text = view.children text := by
  simp only [children, parse_text_parse]

/-- The node of a descriptor is the child with the name of the descriptor. -/
theorem path_ofDescriptor {path : Path} (proper : path.HasSegments) {descriptor : Descriptor}
    (segment : IsSegment descriptor.name) :
    (Node.ofDescriptor path.text descriptor).path = (path.child descriptor.name).text :=
  below_text proper segment

/-- The paths of children lead through their names. -/
theorem map_path_children (view : View) {path : Path} (names : path.HasNames)
    (segments : ∀ child ∈ view.snapshot.children path.text, IsSegment child.name) :
    (view.children path.text).map Node.path =
      ((view.snapshot.children path.text).map Descriptor.name).map
        fun name => (path.child name).text := by
  rw [children_text _ names, List.map_map, List.map_map]
  exact List.map_congr_left fun child member =>
    path_ofDescriptor names.segments (segments child member)

/-- Going up from the node at a path leads to the node at the path one segment up. -/
theorem parent_eq (view : View) {path : Path} (names : path.HasNames) (below : path ≠ root)
    {node above : Node} (isText : node.path = path.text)
    (found : view.nodeAt? path.up = some above) : node.parent view = .ok above := by
  have notRoot : path.isRoot = false := by
    rcases path with ⟨_ | ⟨first, rest⟩⟩
    · exact absurd rfl below
    · rfl
  rw [Node.parent, isText, parse_text names, notRoot, if_neg Bool.false_ne_true]
  dsimp only
  rw [parentText_text names, node?_text view names.up, found, orNotFound]

end View

/-- A snapshot holds a tree when it mirrors the tree below the text of a path of names. The names of
siblings are segments, which tell them apart. -/
structure Snapshot.HoldsAt (snapshot : Snapshot) (mount : Path) (tree : Tree) : Prop where
  mirrors : snapshot.Mirrors mount.text tree
  below : mount ≠ root
  names : mount.HasNames
  segments : tree.Named IsSegment
  distinct : tree.Distinct

/-- A mirrored tree is held, and reading keeps its names. -/
structure Snapshot.MirrorsAt (snapshot : Snapshot) (mount : Path) (tree : Tree) : Prop extends
    snapshot.HoldsAt mount tree where
  named : tree.Named IsName

theorem Snapshot.holdsAt_plant {mount : Path} {tree : Tree} (segments : tree.Named IsSegment)
    (distinct : tree.Distinct) (below : mount ≠ root) (names : mount.HasNames) :
    (empty.plant mount.text tree).HoldsAt mount tree :=
  ⟨mirrors_plant segments distinct below names.segments, below, names, segments, distinct⟩

theorem Snapshot.mirrorsAt_plant {mount : Path} {tree : Tree} (wellNamed : tree.WellNamed)
    (below : mount ≠ root) (names : mount.HasNames) :
    (empty.plant mount.text tree).MirrorsAt mount tree :=
  ⟨holdsAt_plant wellNamed.named.segments wellNamed.distinct below names, wellNamed.named⟩

/-- A trail leads to something above the mount point or to the mount point itself only when it has
no names. -/
theorem Path.isAncestorOrSelf_follow (path : Path) (trail : List String) :
    (path.follow trail).isAncestorOrSelf path = trail.isEmpty := by
  cases trail with
  | nil => rw [follow_nil, isAncestorOrSelf_refl]; rfl
  | cons name rest =>
      rw [List.isEmpty_cons, isAncestorOrSelf, ← Bool.not_eq_true, List.isPrefixOf_iff_prefix]
      intro start
      have counted := start.length_le
      simp only [segments_follow, List.length_append, List.length_cons] at counted
      omega

namespace Snapshot.HoldsAt

variable {snapshot : Snapshot} {mount : Path} {tree : Tree}
  (holds : snapshot.HoldsAt mount tree)
include holds

theorem segments_of_shows {trail : List String} {node : Descriptor} {children : List Descriptor}
    (shown : Tree.Shows (lastPiece mount.text) tree trail node children) :
    ∀ name ∈ trail, IsSegment name :=
  shown.named Tree.isSegment_content holds.segments

theorem proper_follow {trail : List String} {node : Descriptor} {children : List Descriptor}
    (shown : Tree.Shows (lastPiece mount.text) tree trail node children) :
    (mount.follow trail).HasSegments :=
  holds.names.segments.follow (holds.segments_of_shows shown)

theorem keyAt_eq (trail : List String) : keyAt mount.text trail = (mount.follow trail).text :=
  keyAt_text holds.below trail

/-- A node that the tree shows is held under the path at the end of its trail. -/
theorem get?_follow {trail : List String} {node : Descriptor} {children : List Descriptor}
    (shown : Tree.Shows (lastPiece mount.text) tree trail node children) :
    snapshot.get? (mount.follow trail).text = some node :=
  (holds.mirrors.nodes _ _).mpr ⟨trail, children, shown, (holds.keyAt_eq trail).symm⟩

/-- A node under the text of a path is shown by the tree. -/
theorem shows_of_get? {path : Path} (names : path.HasNames) {node : Descriptor}
    (found : snapshot.get? path.text = some node) :
    ∃ trail children, Tree.Shows (lastPiece mount.text) tree trail node children ∧
      path = mount.follow trail := by
  obtain ⟨trail, children, shown, same⟩ := (holds.mirrors.nodes _ _).mp found
  rw [holds.keyAt_eq] at same
  exact ⟨trail, children, shown,
    text_injective names.segments (holds.proper_follow shown) same⟩

/-- The children of a node that the tree shows are held under the path at the end of its trail. -/
theorem children_follow {trail : List String} {node : Descriptor} {children : List Descriptor}
    (shown : Tree.Shows (lastPiece mount.text) tree trail node children) :
    snapshot.children (mount.follow trail).text = children := by
  rw [Snapshot.children, Std.TreeMap.getD_eq_getD_getElem?]
  cases held : snapshot.families[(mount.follow trail).text]? with
  | none =>
      by_contra different
      have present := (holds.mirrors.families _ _).mpr
        ⟨trail, node, shown, fun empty => different empty.symm, (holds.keyAt_eq trail).symm⟩
      simp [held] at present
  | some family =>
      obtain ⟨other, otherNode, otherShown, -, same⟩ := (holds.mirrors.families _ _).mp held
      rw [holds.keyAt_eq] at same
      obtain rfl : trail = other := text_follow_injective holds.names.segments
        (holds.segments_of_shows shown) (holds.segments_of_shows otherShown) same
      exact (otherShown.unique holds.distinct shown).2

/-- Children are held under paths that the tree shows. -/
theorem shows_of_mem_children {path : Path} (names : path.HasNames) {child : Descriptor}
    (member : child ∈ snapshot.children path.text) :
    ∃ trail node children, Tree.Shows (lastPiece mount.text) tree trail node children ∧
      path = mount.follow trail ∧ child ∈ children := by
  rw [Snapshot.children, Std.TreeMap.getD_eq_getD_getElem?] at member
  cases held : snapshot.families[path.text]? with
  | none => simp [held] at member
  | some family =>
      obtain ⟨trail, node, shown, -, same⟩ := (holds.mirrors.families _ _).mp held
      rw [holds.keyAt_eq] at same
      exact ⟨trail, node, family, shown,
        text_injective names.segments (holds.proper_follow shown) same,
        by simpa [held] using member⟩

/-- A node below the mount point is looked up below the path one segment up. -/
theorem nodeAt?_follow {trail : List String} {name : String} {node : Descriptor}
    {children : List Descriptor}
    (shown : Tree.Shows (lastPiece mount.text) tree (trail ++ [name]) node children) :
    View.nodeAt? ⟨snapshot, mount⟩ (mount.follow (trail ++ [name])) =
      some (Node.ofDescriptor (mount.follow trail).text node) := by
  rw [View.nodeAt?, isAncestorOrSelf_follow, holds.get?_follow shown]
  simp [follow_append_singleton]

/-- A path that leads to a node leads to a virtual folder, or along a trail that the tree shows. -/
theorem nodeAt?_cases {path : Path} (names : path.HasNames) {node : Node}
    (found : View.nodeAt? ⟨snapshot, mount⟩ path = some node) :
    (path.isAncestorOrSelf mount = true ∧ node = Node.virtualFolder path.text) ∨
      ∃ trail name descriptor children,
        Tree.Shows (lastPiece mount.text) tree (trail ++ [name]) descriptor children ∧
          descriptor.name = name ∧ path = (mount.follow trail).child name ∧
            node = Node.ofDescriptor (mount.follow trail).text descriptor := by
  rw [View.nodeAt?] at found
  split_ifs at found with above
  · exact .inl ⟨above, (Option.some.inj found).symm⟩
  · obtain ⟨descriptor, held, rfl⟩ := Option.map_eq_some_iff.mp found
    obtain ⟨trail, children, shown, rfl⟩ := holds.shows_of_get? names held
    obtain ⟨front, name, rfl⟩ : ∃ front name, trail = front ++ [name] := by
      rcases List.eq_nil_or_concat trail with rfl | ⟨front, name, rfl⟩
      · exact absurd (isAncestorOrSelf_follow mount []) above
      · exact ⟨front, name, List.concat_eq_append⟩
    obtain ⟨-, -, -, -, named⟩ := shown.parent
    refine .inr ⟨front, name, descriptor, children, shown, named,
      follow_append_singleton mount front name, ?_⟩
    rw [follow_append_singleton, up_child]

/-- A node has the path by which it was found. -/
theorem path_of_nodeAt? {path : Path} (names : path.HasNames) {node : Node}
    (found : View.nodeAt? ⟨snapshot, mount⟩ path = some node) : node.path = path.text := by
  rcases holds.nodeAt?_cases names found with
    ⟨-, rfl⟩ | ⟨trail, name, descriptor, children, shown, rfl, rfl, rfl⟩
  · rfl
  · obtain ⟨parent, siblings, parentShown, -, -⟩ := shown.parent
    exact View.path_ofDescriptor (holds.proper_follow parentShown)
      (holds.segments_of_shows shown _ (by simp))

/-- With each path the one a segment up leads to a node, too. -/
theorem nodeAt?_up {path : Path} (names : path.HasNames)
    (found : (View.nodeAt? ⟨snapshot, mount⟩ path).isSome) :
    (View.nodeAt? ⟨snapshot, mount⟩ path.up).isSome := by
  obtain ⟨node, isNode⟩ := Option.isSome_iff_exists.mp found
  rcases holds.nodeAt?_cases names isNode with
    ⟨above, rfl⟩ | ⟨trail, name, descriptor, children, shown, rfl, rfl, rfl⟩
  · have upAbove : path.up.isAncestorOrSelf mount = true := by
      rw [isAncestorOrSelf, List.isPrefixOf_iff_prefix] at above ⊢
      exact (List.dropLast_prefix _).trans above
    simp [View.nodeAt?, upAbove]
  · rw [up_child]
    obtain ⟨parent, siblings, parentShown, -, -⟩ := shown.parent
    rw [View.nodeAt?, holds.get?_follow parentShown]
    split_ifs <;> simp

/-- Climbing from the node at a path leads to the nodes at the paths above it. -/
theorem climb_eq {path : Path} (names : path.HasNames) {node : Node}
    (found : View.nodeAt? ⟨snapshot, mount⟩ path = some node) {steps : Nat}
    (inside : steps ≤ path.depth) : ∃ above,
      View.nodeAt? ⟨snapshot, mount⟩ (path.take (path.depth - steps)) = some above ∧
        node.climb ⟨snapshot, mount⟩ steps = .ok above := by
  induction steps generalizing path node with
  | zero =>
      refine ⟨node, ?_, rfl⟩
      rwa [Nat.sub_zero, Path.take, Path.depth, List.take_length]
  | succ steps ih =>
      have below : path ≠ root := by
        rintro rfl
        simp [Path.depth, root] at inside
      obtain ⟨above, isAbove⟩ :=
        Option.isSome_iff_exists.mp (holds.nodeAt?_up names (found ▸ rfl))
      have upDepth : path.up.depth = path.depth - 1 := by simp [Path.up, Path.depth]
      obtain ⟨last, isLast, climbed⟩ := ih names.up isAbove (by omega)
      refine ⟨last, ?_, ?_⟩
      · rw [upDepth, Path.up, Path.take, List.dropLast_eq_take, List.take_take] at isLast
        rwa [Path.take, show path.depth - (steps + 1) =
          min (path.depth - 1 - steps) (path.segments.length - 1) by
            rw [Path.depth]; omega]
      · rw [Node.climb, View.parent_eq ⟨snapshot, mount⟩ names below
          (holds.path_of_nodeAt? names found) isAbove]
        exact climbed

/-- Children have names of a kind that all names in the tree have. -/
theorem named_of_mem_children {isName : String → Prop} (content : isName Name.content)
    (named : tree.Named isName) {path : Path} (names : path.HasNames) {child : Descriptor}
    (member : child ∈ snapshot.children path.text) : isName child.name := by
  obtain ⟨trail, node, children, shown, -, among⟩ := holds.shows_of_mem_children names member
  obtain ⟨grandchildren, childShown⟩ := shown.child among
  exact childShown.named content named child.name (by simp)

theorem isSegment_of_mem_children {path : Path} (names : path.HasNames) {child : Descriptor}
    (member : child ∈ snapshot.children path.text) : IsSegment child.name :=
  holds.named_of_mem_children Tree.isSegment_content holds.segments names member

/-- The paths of children tell them apart. -/
theorem nodup_paths {path : Path} (names : path.HasNames) :
    ((View.children ⟨snapshot, mount⟩ path.text).map Node.path).Nodup := by
  have isSegment (child) (member : child ∈ snapshot.children path.text) :=
    holds.isSegment_of_mem_children names member
  rw [View.map_path_children _ names isSegment]
  apply List.Nodup.map_on
  · intro name member other otherMember same
    obtain ⟨child, inside, rfl⟩ := List.mem_map.mp member
    obtain ⟨otherChild, otherInside, rfl⟩ := List.mem_map.mp otherMember
    have equal := text_injective (names.segments.child (isSegment child inside))
      (names.segments.child (isSegment otherChild otherInside)) same
    simpa [Path.child] using equal
  · rcases List.eq_nil_or_concat (snapshot.children path.text) with none | ⟨front, last, split⟩
    · simp [none]
    · have member : last ∈ snapshot.children path.text := by simp [split]
      obtain ⟨trail, node, children, shown, rfl, -⟩ := holds.shows_of_mem_children names member
      rw [holds.children_follow shown]
      exact shown.distinct holds.distinct

end Snapshot.HoldsAt

namespace Snapshot.MirrorsAt

variable {snapshot : Snapshot} {mount : Path} {tree : Tree}
  (mirror : snapshot.MirrorsAt mount tree)
include mirror

theorem names_follow {trail : List String} {node : Descriptor} {children : List Descriptor}
    (shown : Tree.Shows (lastPiece mount.text) tree trail node children) :
    (mount.follow trail).HasNames :=
  mirror.names.follow (shown.named Tree.isName_content mirror.named)

/-- Each of the children of a path is found at its own path, and its parent is the node at the
path. -/
theorem of_mem_children {path : Path} (names : path.HasNames) {node : Node}
    (member : node ∈ View.children ⟨snapshot, mount⟩ path.text) :
    ∃ name, IsName name ∧ node.path = (path.child name).text ∧
      View.nodeAt? ⟨snapshot, mount⟩ (path.child name) = some node ∧
        (View.nodeAt? ⟨snapshot, mount⟩ path).isSome := by
  rw [View.children_text _ names] at member
  obtain ⟨descriptor, inside, rfl⟩ := List.mem_map.mp member
  obtain ⟨trail, parent, children, shown, rfl, among⟩ := mirror.shows_of_mem_children names inside
  obtain ⟨grandchildren, childShown⟩ := shown.child among
  have isName := childShown.named Tree.isName_content mirror.named descriptor.name (by simp)
  have found := mirror.nodeAt?_follow childShown
  rw [follow_append_singleton] at found
  have isNames := names.child isName
  refine ⟨descriptor.name, isName, mirror.path_of_nodeAt? isNames found, found, ?_⟩
  have up := mirror.nodeAt?_up isNames (found ▸ rfl)
  rwa [up_child] at up

end Snapshot.MirrorsAt

namespace View

theorem child_ne_root (path : Path) (name : String) : path.child name ≠ root := by
  simp [Path.child, root]

/-- Two paths with a child at the same path are one. -/
theorem eq_of_text_child {path other : Path} (names : path.HasNames) (otherNames : other.HasNames)
    {name otherName : String} (isName : IsName name) (otherIsName : IsName otherName)
    (same : (path.child name).text = (other.child otherName).text) : path = other := by
  have equal := text_injective (names.child isName).segments
    (otherNames.child otherIsName).segments same
  rw [← up_child path name, equal, up_child]

/-- A view of a mirrored tree is coherent. -/
theorem coherent_of_mirrorsAt {snapshot : Snapshot} {mount : Path} {tree : Tree}
    (mirror : snapshot.MirrorsAt mount tree) : View.Coherent ⟨snapshot, mount⟩ where
  virtual text above := by rw [node?, nodeAt?, if_pos above]
  known text below := by simp [node?, nodeAt?, below]
  path text node found := mirror.path_of_nodeAt? (hasNames_parse text) found
  child text node member := by
    have names := hasNames_parse text
    rw [← children_parse] at member
    obtain ⟨name, isName, isText, found, -⟩ := mirror.of_mem_children names member
    rwa [isText, node?_text _ (names.child isName)]
  parent text node member := by
    have names := hasNames_parse text
    rw [← children_parse] at member
    obtain ⟨name, isName, isText, -, present⟩ := mirror.of_mem_children names member
    obtain ⟨above, isAbove⟩ := Option.isSome_iff_exists.mp present
    refine ⟨above, by rwa [node?_text _ names], ?_⟩
    exact parent_eq _ (names.child isName) (child_ne_root _ _) isText (by rwa [up_child])
  placed key present different := by
    obtain ⟨node, found⟩ := Option.isSome_iff_exists.mp present
    obtain ⟨trail, children, shown, rfl⟩ := (mirror.mirrors.nodes _ _).mp found
    rw [mirror.keyAt_eq] at different ⊢
    rcases List.eq_nil_or_concat trail with rfl | ⟨front, name, rfl⟩
    · exact absurd (congrArg Path.text (follow_nil mount)) different
    rw [List.concat_eq_append] at shown ⊢
    obtain ⟨parent, siblings, parentShown, among, named⟩ := shown.parent
    have names := mirror.names_follow parentShown
    have isName := shown.named Tree.isName_content mirror.named name (by simp)
    rw [follow_append_singleton]
    refine ⟨(mount.follow front).text, congrArg Path.text (parse_text names), ?_, ?_⟩
    · apply List.count_eq_one_of_mem (mirror.nodup_paths names)
      rw [map_path_children _ names fun child member =>
        mirror.isSegment_of_mem_children names member]
      refine List.mem_map_of_mem (List.mem_map.mpr ⟨node, ?_, named⟩)
      rwa [mirror.children_follow parentShown]
    · intro other canonical member
      obtain ⟨child, inside, same⟩ := List.mem_map.mp member
      have otherNames := hasNames_parse other
      rw [← children_parse] at inside
      obtain ⟨otherName, otherIsName, isText, -, -⟩ := mirror.of_mem_children otherNames inside
      have equal := eq_of_text_child otherNames names otherIsName isName
        (isText.symm.trans same)
      rw [← equal, canonical]
  ancestor text node found depth inside := by
    have names := hasNames_parse text
    have isText := mirror.path_of_nodeAt? names found
    have depthEq : node.depth = (parse text).depth := by
      rw [Node.depth, isText, parse_text names]
    rw [depthEq] at inside
    obtain ⟨above, isAbove, climbed⟩ :=
      mirror.climb_eq names found (Nat.sub_le (parse text).depth depth)
    rw [Nat.sub_sub_self inside] at isAbove
    refine ⟨above, ?_, depthEq ▸ climbed⟩
    rw [Node.ancestor, isText, parse_text names]
    dsimp only
    rw [if_neg (Nat.not_lt.mpr inside), node?_text _ (names.take depth), isAbove, orNotFound]

/-- The view of a tree that a build has read is coherent. -/
theorem coherent_of_build {σ : Type} {store : Store σ} {paging : Paging store}
    {config : MountConfig} (accepted : config.validatePaths = .ok ()) {tree : Tree}
    (wellNamed : tree.WellNamed) {state : σ} {remotePath : String}
    (served : paging.ServesAt state remotePath tree) {limit : Nat} {snapshot : Snapshot}
    (built : (store.run (Snapshot.build limit config.mountPoint remotePath) state).1 =
      some (.ok snapshot)) :
    (View.ofSnapshot snapshot config.mountPoint).Coherent := by
  obtain ⟨below, plain, isText⟩ := MountConfig.mountPoint_of_accepted accepted
  have planted := Snapshot.eq_of_build served built
  obtain rfl : snapshot = Snapshot.empty.plant config.mountPoint tree := Except.ok.inj planted
  have mirror := Snapshot.mirrorsAt_plant wellNamed below plain.names
  rw [isText] at mirror
  exact coherent_of_mirrorsAt mirror

/-- The view of the tree of the sample store is coherent. -/
theorem coherent_sampleTree :
    (View.ofSnapshot (Snapshot.empty.plant "/content/dropbox" sampleTree)
      "/content/dropbox").Coherent := by
  obtain ⟨enough, ends⟩ := Snapshot.build_plants sampleTree_servedAt "/content/dropbox"
  exact coherent_of_build validatePaths_default sampleTree_wellNamed sampleTree_servedAt
    (ends enough (Nat.le_refl enough))

end View

end ContentMount
