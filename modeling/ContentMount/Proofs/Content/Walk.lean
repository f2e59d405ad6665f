/-
This file walks over the children of a view. In the view of a tree a walk ends and finds every node
once exactly when reading keeps every name in the tree.
-/

import ContentMount.Proofs.Content.Reach
import Mathlib.Data.List.Perm.Basic

namespace ContentMount

open Remote ContentMount.Path

/-- A walk visits nodes one after the other, and after each node everything below it. It has come
to its end. -/
inductive View.Walk (view : View) : List Node → List String → Prop where
  | nothing : Walk view [] []
  | node {node : Node} {rest : List Node} {inner visited : List String}
      (inside : Walk view (node.children view) inner) (others : Walk view rest visited) :
      Walk view (node :: rest) (node.path :: (inner ++ visited))

/-- A view can be navigated when each key of its snapshot is found as a path, and when a walk from
the mount point visits each key once. -/
structure View.Navigable (view : View) : Prop where
  /-- Under each key below the mount point is a node with that path and the type of the
  descriptor. -/
  resolves : ∀ key descriptor, view.snapshot.get? key = some descriptor →
    key ≠ view.mountPoint.text → ∃ node, view.node? key = some node ∧ node.path = key ∧
      node.primaryType = descriptor.primaryType
  /-- The walk ends, and it visits exactly the keys below the mount point, each of them once. -/
  walk : ∃ visited, view.Walk (view.children view.mountPoint.text) visited ∧ visited.Nodup ∧
    ∀ key, key ∈ visited ↔ (view.snapshot.get? key).isSome ∧ key ≠ view.mountPoint.text

/-- Walks below the items of a folder make a walk through the items. -/
theorem View.exists_walk_items {view : View} {key : String} {items : List Tree}
    (each : ∀ item ∈ items, ∃ visited, view.Walk (view.children (below key item.name)) visited ∧
      (below key item.name :: visited).Perm
        ((item.placements (below key item.name)).map Placement.key)) :
    ∃ visited,
      view.Walk (items.map fun item => Node.ofDescriptor key (item.node item.name)) visited ∧
        visited.Perm ((Tree.itemPlacements key items).map Placement.key) := by
  induction items with
  | nil => exact ⟨[], .nothing, .refl _⟩
  | cons item rest ih =>
      obtain ⟨inner, walk, keys⟩ := each item List.mem_cons_self
      obtain ⟨visited, others, otherKeys⟩ :=
        ih fun other member => each other (List.mem_cons_of_mem _ member)
      have isPath : (Node.ofDescriptor key (item.node item.name)).path = below key item.name := by
        simp only [Node.ofDescriptor, Tree.name_node]
      have inside :
          view.Walk ((Node.ofDescriptor key (item.node item.name)).children view) inner := by
        rwa [Node.children, isPath]
      refine ⟨_, .node inside others, ?_⟩
      rw [isPath, Tree.itemPlacements, List.map_append, ← List.cons_append]
      exact keys.append otherKeys

/-- A tree whose trails have names of a kind only has such names. -/
theorem Remote.Tree.named_of_shows {isName : String → Prop} {tree : Tree} (label : String)
    (each : ∀ trail node children, Tree.Shows label tree trail node children →
      ∀ name ∈ trail, isName name) : tree.Named isName := by
  induction tree using Tree.induction generalizing label with
  | file name path => exact .file name path
  | folder name path items ih =>
      refine .folder name path ?_ ?_
      · intro item member
        exact each [item.name] _ _ (.down label name path member (.here item.name item)) _ (by simp)
      · intro item member
        apply ih item member item.name
        intro trail node children shown other inside
        exact each _ _ _ (.down label name path member shown) other (by simp [inside])

namespace Snapshot.HoldsAt

variable {snapshot : Snapshot} {mount : Path} {tree : Tree}
  (holds : snapshot.HoldsAt mount tree)
include holds

/-- When each key of a tree is found as a path, reading keeps the names in the tree. -/
theorem named_of_resolves
    (resolves : ∀ key descriptor, snapshot.get? key = some descriptor → key ≠ mount.text →
      ∃ node, View.node? ⟨snapshot, mount⟩ key = some node ∧ node.path = key) :
    tree.Named IsName := by
  apply Tree.named_of_shows (lastPiece mount.text)
  intro trail descriptor children shown name inside
  have proper := holds.proper_follow shown
  have different : (mount.follow trail).text ≠ mount.text := by
    intro same
    have equal := congrArg Path.segments (text_injective proper holds.names.segments same)
    have counted := congrArg List.length equal
    rw [segments_follow, List.length_append] at counted
    have nonempty := List.length_pos_of_mem inside
    omega
  obtain ⟨node, found, isPath⟩ := resolves _ _ (holds.get?_follow shown) different
  have names := hasNames_parse (mount.follow trail).text
  rw [holds.path_of_nodeAt? names found] at isPath
  have read := text_injective names.segments proper isPath
  exact names name (by rw [read]; exact List.mem_append_right _ inside)

/-- The keys at which a tree adds nodes are those of the snapshot that holds it. -/
theorem mem_keys (key : String) :
    key ∈ (tree.placements mount.text).map Placement.key ↔ (snapshot.get? key).isSome := by
  have added := mem_placements_mountPoint holds.segments holds.below holds.names.segments
  rw [List.mem_map, Option.isSome_iff_exists]
  constructor
  · rintro ⟨placement, placed, rfl⟩
    obtain ⟨trail, shown, leads⟩ := (added placement).mp placed
    exact ⟨_, (holds.mirrors.nodes _ _).mpr ⟨trail, _, shown, leads⟩⟩
  · rintro ⟨node, held⟩
    obtain ⟨trail, children, shown, leads⟩ := (holds.mirrors.nodes _ _).mp held
    exact ⟨⟨key, node, children⟩, (added _).mpr ⟨trail, shown, leads⟩, rfl⟩

end Snapshot.HoldsAt

namespace Snapshot.MirrorsAt

variable {snapshot : Snapshot} {mount : Path} {tree : Tree}
  (mirror : snapshot.MirrorsAt mount tree)
include mirror

/-- Each key of a mirrored tree is found as a path. -/
theorem resolves {key : String} {descriptor : Descriptor}
    (held : snapshot.get? key = some descriptor) (different : key ≠ mount.text) :
    ∃ node, View.node? ⟨snapshot, mount⟩ key = some node ∧ node.path = key ∧
      node.primaryType = descriptor.primaryType := by
  obtain ⟨trail, children, shown, rfl⟩ := (mirror.mirrors.nodes _ _).mp held
  rw [mirror.keyAt_eq] at different ⊢
  rcases List.eq_nil_or_concat trail with rfl | ⟨front, name, rfl⟩
  · exact absurd (congrArg Path.text (follow_nil mount)) different
  rw [List.concat_eq_append] at shown ⊢
  refine ⟨_, ?_, mirror.path_eq shown, rfl⟩
  rw [View.node?_text _ (mirror.names_follow shown)]
  exact mirror.nodeAt?_follow shown

/-- The children of a shown node are listed with its path. -/
theorem children_of_shows {trail : List String} {node : Descriptor} {children : List Descriptor}
    (shown : Tree.Shows (lastPiece mount.text) tree trail node children) :
    View.children ⟨snapshot, mount⟩ (mount.follow trail).text =
      children.map (Node.ofDescriptor (mount.follow trail).text) := by
  rw [View.children_text _ (mirror.names_follow shown), mirror.children_follow shown]

/-- A name below the path of a shown node goes on with its trail. -/
theorem below_of_shows {trail : List String} {node : Descriptor} {children : List Descriptor}
    (shown : Tree.Shows (lastPiece mount.text) tree trail node children) {name : String}
    (segment : IsSegment name) :
    Path.below (mount.follow trail).text name = (mount.follow (trail ++ [name])).text := by
  rw [below_text (mirror.proper_follow shown) segment, follow_append_singleton]

/-- A walk below a part of the tree visits the keys at which the part adds nodes. -/
theorem exists_walk (part : Tree) (label : String) (trail : List String)
    (inside : ∀ rest node children, Tree.Shows label part rest node children →
      Tree.Shows (lastPiece mount.text) tree (trail ++ rest) node children) :
    ∃ visited,
      View.Walk ⟨snapshot, mount⟩ (View.children ⟨snapshot, mount⟩ (mount.follow trail).text)
        visited ∧
      ((mount.follow trail).text :: visited).Perm
        ((part.placements (mount.follow trail).text).map Placement.key) := by
  induction part using Tree.induction generalizing label trail with
  | file name path =>
      have here := inside [] _ _ (.here label _)
      have content := inside [Name.content] _ _ (.content label name path)
      rw [List.append_nil] at here
      have isPath := mirror.path_eq content
      have leaf : View.Walk ⟨snapshot, mount⟩
          (Node.children (Node.ofDescriptor (mount.follow trail).text (.content path))
            ⟨snapshot, mount⟩) [] := by
        rw [Node.children, isPath, mirror.children_of_shows content]
        exact .nothing
      rw [mirror.children_of_shows here]
      refine ⟨_, .node leaf .nothing, ?_⟩
      rw [isPath, Tree.placements, mirror.below_of_shows here Tree.isSegment_content]
      exact .swap _ _ _
  | folder name path items ih =>
      have here := inside [] _ _ (.here label _)
      rw [List.append_nil] at here
      have each : ∀ item ∈ items, ∃ visited,
          View.Walk ⟨snapshot, mount⟩ (View.children ⟨snapshot, mount⟩
            (Path.below (mount.follow trail).text item.name)) visited ∧
          (Path.below (mount.follow trail).text item.name :: visited).Perm
            ((item.placements (Path.below (mount.follow trail).text item.name)).map
              Placement.key) := by
        intro item member
        have itemShown := inside [item.name] _ _ (.down label name path member (.here _ item))
        have segment := mirror.segments_of_shows itemShown item.name (by simp)
        rw [mirror.below_of_shows here segment]
        refine ih item member item.name (trail ++ [item.name]) fun rest node children shown => ?_
        rw [List.append_assoc]
        exact inside _ _ _ (.down label name path member shown)
      obtain ⟨visited, walk, keys⟩ := View.exists_walk_items each
      refine ⟨visited, ?_, ?_⟩
      · rw [mirror.children_of_shows here, Tree.family, List.map_map]
        exact walk
      · rw [Tree.placements, List.map_append]
        exact (List.perm_append_singleton _ _).symm.trans (keys.append_right _)

/-- The view of a mirrored tree can be navigated. -/
theorem navigable : View.Navigable ⟨snapshot, mount⟩ where
  resolves _ _ held different := mirror.resolves held different
  walk := by
    obtain ⟨visited, walk, keys⟩ :=
      mirror.exists_walk tree (lastPiece mount.text) [] fun _ _ _ shown => shown
    rw [follow_nil] at walk keys
    have once := keys.nodup_iff.mpr
      (Tree.nodup_placements mirror.segments mirror.distinct mirror.names.segments)
    obtain ⟨notRoot, distinct⟩ := List.nodup_cons.mp once
    refine ⟨visited, walk, distinct, fun key => ?_⟩
    rw [← mirror.mem_keys, ← keys.mem_iff, List.mem_cons]
    constructor
    · intro member
      refine ⟨.inr member, ?_⟩
      rintro rfl
      exact notRoot member
    · rintro ⟨root | member, different⟩
      · exact absurd root different
      · exact member

end Snapshot.MirrorsAt

/-- The view of a tree can be navigated exactly when reading keeps the names in the tree. -/
theorem Snapshot.HoldsAt.navigable_iff {snapshot : Snapshot} {mount : Path} {tree : Tree}
    (holds : snapshot.HoldsAt mount tree) :
    View.Navigable ⟨snapshot, mount⟩ ↔ tree.Named IsName := by
  constructor
  · intro navigable
    apply holds.named_of_resolves
    intro key descriptor held different
    obtain ⟨node, found, isPath, -⟩ := navigable.resolves key descriptor held different
    exact ⟨node, found, isPath⟩
  · intro named
    exact Snapshot.MirrorsAt.navigable ⟨holds, named⟩

end ContentMount
