/-
This file adds whole trees to snapshots.
The nodes of a tree are listed with their children in the order in which a build adds them.
-/

import ContentMount.Path.Text
import ContentMount.Proofs.Remote.Tree
import ContentMount.Tree.Snapshot

namespace ContentMount

/-- A node with its children, and the key at which a snapshot holds them. -/
structure Placement where
  key : String
  node : Descriptor
  children : List Descriptor

namespace Remote.Tree

/-- The nodes of the items of a folder, labelled as their keys are. -/
def childrenAt (key : String) (items : List Tree) : List Descriptor :=
  items.map fun item => item.node (Path.nameText (Path.below key item.name))

mutual

/-- The nodes that a tree adds at a key and below it. -/
def placements (key : String) : Tree → List Placement
  | .file _ path =>
    [⟨Path.below key Name.content, .content path, []⟩,
      ⟨key, .file (Path.nameText key), [.content path]⟩]
  | .folder _ _ items =>
    itemPlacements key items ++ [⟨key, .folder (Path.nameText key), childrenAt key items⟩]

/-- The nodes that the items of a folder add below the key of the folder. -/
def itemPlacements (key : String) : List Tree → List Placement
  | [] => []
  | item :: rest => item.placements (Path.below key item.name) ++ itemPlacements key rest

end

/-- The name of a tree does not matter at its key. -/
theorem placements_rename (label key : String) (tree : Tree) :
    (tree.rename label).placements key = tree.placements key := by
  cases tree with
  | file name path => rfl
  | folder name path items => rw [rename, placements, placements]

theorem itemPlacements_eq_flatMap (key : String) (items : List Tree) :
    itemPlacements key items =
      items.flatMap fun item => item.placements (Path.below key item.name) := by
  induction items with
  | nil => rfl
  | cons item rest ih => rw [itemPlacements, ih, List.flatMap_cons]

theorem itemPlacements_append (key : String) (items others : List Tree) :
    itemPlacements key (items ++ others) =
      itemPlacements key items ++ itemPlacements key others := by
  simp only [itemPlacements_eq_flatMap, List.flatMap_append]

theorem mem_itemPlacements {key : String} {items : List Tree} {placement : Placement} :
    placement ∈ itemPlacements key items ↔
      ∃ item ∈ items, placement ∈ item.placements (Path.below key item.name) := by
  rw [itemPlacements_eq_flatMap, List.mem_flatMap]

end Remote.Tree

open Remote

namespace Snapshot

/-- Adds a node above its children. -/
def place (snapshot : Snapshot) (placement : Placement) : Snapshot :=
  (snapshot.addFamily placement.key placement.children).addNode placement.key placement.node

/-- Adds nodes one after the other. -/
def placeAll (snapshot : Snapshot) (placements : List Placement) : Snapshot :=
  placements.foldl place snapshot

/-- Adds a tree at a key. -/
def plant (snapshot : Snapshot) (key : String) (tree : Tree) : Snapshot :=
  snapshot.placeAll (tree.placements key)

/-- Adds the items of a folder below the key of the folder. -/
def plantItems (snapshot : Snapshot) (key : String) (items : List Tree) : Snapshot :=
  snapshot.placeAll (Tree.itemPlacements key items)

theorem placeAll_append (snapshot : Snapshot) (placements others : List Placement) :
    snapshot.placeAll (placements ++ others) = (snapshot.placeAll placements).placeAll others :=
  List.foldl_append

theorem plantItems_append (snapshot : Snapshot) (key : String) (items others : List Tree) :
    snapshot.plantItems key (items ++ others) =
      (snapshot.plantItems key items).plantItems key others := by
  rw [plantItems, Tree.itemPlacements_append, placeAll_append]
  rfl

theorem plantItems_cons (snapshot : Snapshot) (key : String) (item : Tree) (rest : List Tree) :
    snapshot.plantItems key (item :: rest) =
      (snapshot.plant (Path.below key item.name) item).plantItems key rest := by
  rw [plantItems, Tree.itemPlacements, placeAll_append]
  rfl

/-- A file is added with its content and the family that holds it. -/
theorem plant_file (snapshot : Snapshot) (key name path : String) :
    snapshot.plant key (.file name path) =
      ((snapshot.addNode (Path.below key Name.content) (.content path)).addFamily key
        [.content path]).addNode key (.file (Path.nameText key)) := by
  rw [plant, Tree.placements]
  rfl

/-- A folder is added after its items. -/
theorem plant_folder (snapshot : Snapshot) (key name path : String) (items : List Tree) :
    snapshot.plant key (.folder name path items) =
      ((snapshot.plantItems key items).addFamily key (Tree.childrenAt key items)).addNode key
        (.folder (Path.nameText key)) := by
  rw [plant, Tree.placements, placeAll_append]
  rfl

end Snapshot

end ContentMount
