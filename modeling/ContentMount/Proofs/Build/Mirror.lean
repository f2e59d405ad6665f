/-
This file says that a snapshot mirrors a remote tree, and shows that a planted tree is mirrored.
No two nodes of a tree with distinct siblings get the same key, so none takes the place of another.
-/

import ContentMount.Proofs.Build.Planting
import ContentMount.Proofs.Path.Below
import Mathlib.Data.List.Nodup
import Std.Data.TreeMap.Lemmas

namespace ContentMount

open Remote

/-- The key at the end of a trail of names below a mount point. -/
def Snapshot.keyAt (mountPoint : String) (trail : List String) : String :=
  trail.foldl (fun key name => key ++ "/" ++ name) mountPoint

/-- A snapshot mirrors a tree when it holds what the tree shows and nothing else. -/
structure Snapshot.Mirrors (snapshot : Snapshot) (mountPoint : String) (tree : Tree) :
    Prop where
  /-- A key leads to a node when the tree shows the node at the end of its trail. -/
  nodes : ∀ key node, snapshot.get? key = some node ↔ ∃ trail children,
    Tree.Shows (Path.lastPiece mountPoint) tree trail node children ∧
      key = Snapshot.keyAt mountPoint trail
  /-- The children of a node are held in their order, unless there are none. -/
  families : ∀ key family, snapshot.families[key]? = some family ↔ ∃ trail node,
    Tree.Shows (Path.lastPiece mountPoint) tree trail node family ∧ family ≠ [] ∧
      key = Snapshot.keyAt mountPoint trail
  /-- Each file counts twice, because it has a content node. -/
  size : snapshot.size = tree.folderCount + 2 * tree.fileCount

namespace Path

/-- The keys below a mount point are the texts of the paths below it. -/
theorem keyAt_text {path : Path} (below : path ≠ root) (trail : List String) :
    Snapshot.keyAt path.text trail = (path.follow trail).text := by
  induction trail generalizing path with
  | nil => rw [follow_nil]; rfl
  | cons name rest ih =>
      have childBelow : path.child name ≠ root := by simp [child, root]
      rw [follow_cons, ← ih childBelow, text_child below]
      rfl

/-- Trails are told apart by the texts of the paths at their ends. -/
theorem text_follow_injective {path : Path} (proper : path.HasSegments) {trail other : List String}
    (segments : ∀ name ∈ trail, IsSegment name) (otherSegments : ∀ name ∈ other, IsSegment name)
    (same : (path.follow trail).text = (path.follow other).text) : trail = other := by
  have equal := text_injective (proper.follow segments) (proper.follow otherSegments) same
  exact List.append_cancel_left (congrArg Path.segments equal)

end Path

namespace Remote.Tree

open ContentMount.Path (IsSegment)

theorem childrenAt_text {path : Path} (proper : path.HasSegments) {items : List Tree}
    (segments : ∀ item ∈ items, IsSegment item.name) :
    childrenAt path.text items = items.map fun item => item.node item.name := by
  apply List.map_congr_left
  intro item member
  have segment := segments item member
  rw [Path.below_text proper segment, Path.nameText_child proper segment]

/-- A tree adds a node at each trail that shows one, and nothing else. -/
theorem mem_placements {tree : Tree} (named : tree.Named IsSegment) {path : Path}
    (proper : path.HasSegments) {placement : Placement} :
    placement ∈ tree.placements path.text ↔ ∃ trail,
      Shows (Path.nameText path.text) tree trail placement.node placement.children ∧
        placement.key = (path.follow trail).text := by
  induction tree using Tree.induction generalizing path placement with
  | file name remotePath =>
      rw [placements, Path.below_text proper isSegment_content]
      constructor
      · intro member
        simp only [List.mem_cons, List.not_mem_nil, or_false] at member
        rcases member with rfl | rfl
        · exact ⟨[Name.content], .content _ name remotePath, rfl⟩
        · exact ⟨[], .here _ (.file name remotePath), by rw [Path.follow_nil]⟩
      · intro shows
        obtain ⟨trail, shown, same⟩ := shows
        rcases placement with ⟨key, node, children⟩
        subst same
        -- The case split must not evaluate the text of the label.
        generalize Path.nameText path.text = label at shown ⊢
        cases shown with
        | here => simp
        | content => exact List.mem_cons_self
  | folder name remotePath items ih =>
      obtain ⟨segments, below⟩ := named_folder_iff.mp named
      rw [placements, childrenAt_text proper segments, List.mem_append, mem_itemPlacements,
        List.mem_singleton]
      have inside : ∀ item ∈ items, ∀ placement : Placement,
          placement ∈ item.placements (Path.below path.text item.name) ↔ ∃ trail,
            Shows item.name item trail placement.node placement.children ∧
              placement.key = (path.follow (item.name :: trail)).text := by
        intro item member placement
        have segment := segments item member
        rw [Path.below_text proper segment,
          ih item member (below item member) (proper.child segment),
          Path.nameText_child proper segment]
        simp only [Path.follow_cons]
      constructor
      · rintro (⟨item, member, placed⟩ | rfl)
        · obtain ⟨trail, shown, same⟩ := (inside item member placement).mp placed
          exact ⟨item.name :: trail, .down _ name remotePath member shown, same⟩
        · exact ⟨[], .here _ (.folder name remotePath items), by rw [Path.follow_nil]⟩
      · intro shows
        obtain ⟨trail, shown, same⟩ := shows
        rcases placement with ⟨key, node, children⟩
        subst same
        generalize Path.nameText path.text = label at shown ⊢
        cases shown with
        | here => exact .inr (by rw [Path.follow_nil])
        | @down _ _ _ _ item member trail _ _ shown =>
            exact .inl ⟨item, member, (inside item member _).mpr ⟨trail, shown, rfl⟩⟩

/-- The keys that the items of a folder add lead through the items. -/
theorem key_of_mem_item {items : List Tree} {name remotePath : String}
    (named : (Tree.folder name remotePath items).Named IsSegment) {path : Path}
    (proper : path.HasSegments) {item : Tree} (member : item ∈ items) {placement : Placement}
    (placed : placement ∈ item.placements (Path.below path.text item.name)) :
    ∃ trail, (∀ other ∈ item.name :: trail, IsSegment other) ∧
      placement.key = (path.follow (item.name :: trail)).text := by
  obtain ⟨segments, below⟩ := named_folder_iff.mp named
  have segment := segments item member
  rw [Path.below_text proper segment] at placed
  obtain ⟨trail, shown, same⟩ :=
    (mem_placements (below item member) (proper.child segment)).mp placed
  refine ⟨trail, ?_, by rw [same, Path.follow_cons]⟩
  intro other inside
  rcases List.mem_cons.mp inside with rfl | later
  · exact segment
  · exact shown.named isSegment_content (below item member) other later

/-- The keys of the nodes of a tree with distinct siblings tell them apart. -/
theorem nodup_placements {tree : Tree} (named : tree.Named IsSegment) (distinct : tree.Distinct)
    {path : Path} (proper : path.HasSegments) :
    ((tree.placements path.text).map Placement.key).Nodup := by
  induction tree using Tree.induction generalizing path with
  | file name remotePath =>
      have different : (path.child Name.content).text ≠ path.text := by
        intro same
        have equal := Path.text_injective (proper.child isSegment_content) proper same
        have counted := congrArg (fun path => path.segments.length) equal
        simp at counted
      rw [placements, Path.below_text proper isSegment_content]
      simpa using different
  | folder name remotePath items ih =>
      obtain ⟨segments, namedBelow⟩ := named_folder_iff.mp named
      obtain ⟨here, below⟩ := distinct_folder_iff.mp distinct
      rw [placements, List.map_append, itemPlacements_eq_flatMap, List.map_flatMap,
        List.nodup_append]
      refine ⟨List.nodup_flatMap.mpr ⟨?_, ?_⟩, by simp, ?_⟩
      · intro item member
        have segment := segments item member
        rw [Path.below_text proper segment]
        exact ih item member (namedBelow item member) (below item member) (proper.child segment)
      · apply (List.pairwise_map.mp here).imp_of_mem
        intro item other member otherMember different key inItem inOther
        obtain ⟨placement, placed, rfl⟩ := List.mem_map.mp inItem
        obtain ⟨otherPlacement, otherPlaced, same⟩ := List.mem_map.mp inOther
        obtain ⟨trail, isTrail, leads⟩ := key_of_mem_item named proper member placed
        obtain ⟨otherTrail, isOther, otherLeads⟩ :=
          key_of_mem_item named proper otherMember otherPlaced
        have equal := Path.text_follow_injective proper isTrail isOther
          (leads.symm.trans (same.symm.trans otherLeads))
        exact different (List.cons.inj equal).1
      · intro key inItems last lastKey same
        rw [← List.map_flatMap, ← itemPlacements_eq_flatMap] at inItems
        obtain ⟨placement, placed, rfl⟩ := List.mem_map.mp inItems
        obtain ⟨item, member, inItem⟩ := mem_itemPlacements.mp placed
        obtain ⟨trail, isTrail, leads⟩ := key_of_mem_item named proper member inItem
        obtain rfl : last = path.text := by simpa using lastKey
        have equal := Path.text_follow_injective proper isTrail (by simp)
          (leads.symm.trans (same.trans (congrArg Path.text (Path.follow_nil path).symm)))
        simp at equal

theorem length_itemPlacements {items : List Tree}
    (each : ∀ item ∈ items, ∀ key,
      (item.placements key).length = item.folderCount + 2 * item.fileCount) (key : String) :
    (itemPlacements key items).length = folderCounts items + 2 * fileCounts items := by
  induction items with
  | nil => rfl
  | cons item rest ih =>
      rw [itemPlacements, List.length_append, each item (by simp),
        ih (fun other member => each other (by simp [member])), folderCounts, fileCounts]
      omega

/-- A folder adds one node and a file two. -/
theorem length_placements (tree : Tree) (key : String) :
    (tree.placements key).length = tree.folderCount + 2 * tree.fileCount := by
  induction tree using Tree.induction generalizing key with
  | file name path => rfl
  | folder name path items ih =>
      rw [placements, List.length_append, length_itemPlacements ih, folderCount, fileCount,
        List.length_singleton]
      omega

end Remote.Tree

namespace Snapshot

/-- The node and the children of a placement are added under its key. -/
theorem placeAll_eq (snapshot : Snapshot) (placements : List Placement) :
    snapshot.placeAll placements =
      ⟨snapshot.nodes.insertMany (placements.map fun placement =>
          (placement.key, placement.node)),
        snapshot.families.insertMany ((placements.filter fun placement =>
          !placement.children.isEmpty).map fun placement =>
            (placement.key, placement.children))⟩ := by
  induction placements generalizing snapshot with
  | nil => simp [placeAll]
  | cons placement rest ih =>
      rw [placeAll, List.foldl_cons, ← placeAll, ih, place, addFamily]
      cases empty : placement.children.isEmpty <;>
        simp [empty, addNode, Std.TreeMap.insertMany_cons]

end Snapshot

section

variable {α : Type} {pairs : List (String × α)}

theorem pairwise_compare (distinct : (pairs.map Prod.fst).Nodup) :
    pairs.Pairwise fun first second => ¬compare first.1 second.1 = .eq :=
  (List.pairwise_map.mp distinct).imp fun different =>
    mt Std.LawfulEqCmp.eq_of_compare different

/-- In a map that is made from pairs with different keys, each key leads to its value. -/
theorem getElem?_insertMany_empty (distinct : (pairs.map Prod.fst).Nodup) (key : String)
    (value : α) :
    ((∅ : Std.TreeMap String α).insertMany pairs)[key]? = some value ↔ (key, value) ∈ pairs := by
  have found {other : α} (member : (key, other) ∈ pairs) :
      ((∅ : Std.TreeMap String α).insertMany pairs)[key]? = some other :=
    Std.TreeMap.getElem?_insertMany_list_of_mem Std.ReflCmp.compare_self
      (pairwise_compare distinct) member
  constructor
  · intro present
    by_cases inside : key ∈ pairs.map Prod.fst
    · obtain ⟨⟨_, other⟩, member, rfl⟩ := List.mem_map.mp inside
      obtain rfl : other = value := Option.some.inj ((found member).symm.trans present)
      exact member
    · rw [Std.TreeMap.getElem?_insertMany_list_of_contains_eq_false (by simpa using inside)]
        at present
      simp at present
  · exact found

end

namespace Snapshot

/-- What a tree adds at a mount point, with the keys written out. -/
theorem mem_placements_mountPoint {tree : Tree} (named : tree.Named Path.IsSegment) {path : Path}
    (below : path ≠ Path.root) (proper : path.HasSegments) (placement : Placement) :
    placement ∈ tree.placements path.text ↔ ∃ trail,
      Tree.Shows (Path.lastPiece path.text) tree trail placement.node placement.children ∧
        placement.key = keyAt path.text trail := by
  have label : Path.nameText path.text = Path.lastPiece path.text := by
    rw [Path.nameText, Path.withoutTrailingSlashes_text below proper]
  rw [Tree.mem_placements named proper, label]
  refine exists_congr fun trail => ?_
  rw [Path.keyAt_text below]

/-- A tree with distinct siblings that is planted at a mount point is mirrored there. -/
theorem mirrors_plant {tree : Tree} (named : tree.Named Path.IsSegment) (siblings : tree.Distinct)
    {path : Path} (below : path ≠ Path.root) (proper : path.HasSegments) :
    (empty.plant path.text tree).Mirrors path.text tree := by
  have distinct := Tree.nodup_placements named siblings proper
  have added {placement : Placement} :=
    mem_placements_mountPoint named below proper placement
  have nodePairs : (((tree.placements path.text).map fun placement =>
      (placement.key, placement.node)).map Prod.fst).Nodup := by
    simpa [Function.comp_def] using distinct
  have familyPairs : ((((tree.placements path.text).filter fun placement =>
      !placement.children.isEmpty).map fun placement =>
        (placement.key, placement.children)).map Prod.fst).Nodup := by
    simpa [Function.comp_def] using distinct.sublist (List.filter_sublist.map Placement.key)
  constructor
  · intro key node
    rw [plant, placeAll_eq, get?]
    dsimp only [empty]
    rw [getElem?_insertMany_empty nodePairs, List.mem_map]
    constructor
    · intro held
      obtain ⟨placement, placed, same⟩ := held
      obtain ⟨rfl, rfl⟩ := Prod.mk.inj same
      obtain ⟨trail, shown, leads⟩ := added.mp placed
      exact ⟨trail, placement.children, shown, leads⟩
    · intro shows
      obtain ⟨trail, children, shown, leads⟩ := shows
      exact ⟨⟨key, node, children⟩, added.mpr ⟨trail, shown, leads⟩, rfl⟩
  · intro key family
    rw [plant, placeAll_eq]
    dsimp only [empty]
    rw [getElem?_insertMany_empty familyPairs, List.mem_map]
    constructor
    · intro held
      obtain ⟨placement, placed, same⟩ := held
      obtain ⟨rfl, rfl⟩ := Prod.mk.inj same
      obtain ⟨inside, present⟩ := List.mem_filter.mp placed
      obtain ⟨trail, shown, leads⟩ := added.mp inside
      exact ⟨trail, placement.node, shown, by simpa using present, leads⟩
    · intro shows
      obtain ⟨trail, node, shown, present, leads⟩ := shows
      exact ⟨⟨key, node, family⟩,
        List.mem_filter.mpr ⟨added.mpr ⟨trail, shown, leads⟩, by simpa using present⟩, rfl⟩
  · rw [plant, placeAll_eq, size]
    dsimp only [empty]
    rw [Std.TreeMap.size_insertMany_list (pairwise_compare nodePairs) (by simp),
      List.length_map, Tree.length_placements]
    simp

/-! ## Children of a tree with siblings of one name -/

theorem children_place (snapshot : Snapshot) (placement : Placement) (key : String) :
    (snapshot.place placement).children key =
      if placement.key = key ∧ placement.children ≠ [] then placement.children
      else snapshot.children key := by
  rw [place, addNode]
  by_cases empty : placement.children = []
  · simp [empty, addFamily, children]
  · have added := children_addFamily snapshot placement.key key placement.children empty
    simpa [empty, children] using added

/-- When all nodes that are added under a key have the same children, the key leads to those. -/
theorem children_placeAll {key : String} {family : List Descriptor} {placements : List Placement}
    (same : ∀ placement ∈ placements, placement.key = key → placement.children = family)
    {snapshot : Snapshot}
    (start : snapshot.children key = [] ∨ snapshot.children key = family)
    (present : snapshot.children key = family ∨ ∃ placement ∈ placements, placement.key = key) :
    (snapshot.placeAll placements).children key = family := by
  induction placements generalizing snapshot with
  | nil => simpa [placeAll] using present
  | cons placement rest ih =>
      have step := children_place snapshot placement key
      have sameLater : ∀ other ∈ rest, other.key = key → other.children = family :=
        fun other member => same other (List.mem_cons_of_mem _ member)
      by_cases here : placement.key = key
      · have isFamily := same placement List.mem_cons_self here
        have reached : (snapshot.place placement).children key = family := by
          rw [step, isFamily]
          split_ifs with added
          · rfl
          · have empty : family = [] := by simpa [here, isFamily] using added
            rcases start with none | same
            · rw [none, empty]
            · exact same
        exact ih sameLater (.inr reached) (.inl reached)
      · rw [if_neg fun both => here both.1] at step
        apply ih sameLater (step ▸ start)
        rcases present with already | ⟨other, member, isKey⟩
        · exact .inl (step.trans already)
        · rcases List.mem_cons.mp member with rfl | later
          · exact absurd isKey here
          · exact .inr ⟨other, later, isKey⟩

/-- The children at the end of a trail are held even when other siblings have one name, as long as
the trail leads to no other children. -/
theorem children_plant {tree : Tree} (named : tree.Named Path.IsSegment) {path : Path}
    (below : path ≠ Path.root) (proper : path.HasSegments) {trail : List String}
    {node : Descriptor} {family : List Descriptor}
    (shown : Tree.Shows (Path.lastPiece path.text) tree trail node family)
    (only : ∀ other others,
      Tree.Shows (Path.lastPiece path.text) tree trail other others → others = family) :
    (empty.plant path.text tree).children (path.follow trail).text = family := by
  refine children_placeAll ?_ (.inl (children_empty _)) (.inr ?_)
  · intro placement member isKey
    obtain ⟨other, otherShown, leads⟩ :=
      (mem_placements_mountPoint named below proper placement).mp member
    rw [leads, Path.keyAt_text below] at isKey
    obtain rfl : other = trail := Path.text_follow_injective proper
      (otherShown.named Tree.isSegment_content named) (shown.named Tree.isSegment_content named)
      isKey
    exact only placement.node placement.children otherShown
  · exact ⟨⟨keyAt path.text trail, node, family⟩,
      (mem_placements_mountPoint named below proper _).mpr ⟨trail, shown, rfl⟩,
      Path.keyAt_text below trail⟩

end Snapshot

end ContentMount
