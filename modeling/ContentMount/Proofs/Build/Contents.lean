/-
This file shows that every file of a planted tree keeps its own content below it, even when other
siblings have the same name: whatever takes the place of the content takes the place of the file
afterwards.
-/

import ContentMount.Proofs.Build.Mirror

namespace ContentMount

open Remote ContentMount.Path

/-- The node that is placed last under a key. -/
def lastAt? (placements : List Placement) (key : String) : Option Placement :=
  placements.reverse.find? fun placement => placement.key == key

theorem lastAt?_eq_some_iff {placements : List Placement} {key : String} {placement : Placement} :
    lastAt? placements key = some placement ↔ placement.key = key ∧ ∃ front rest,
      placements = front ++ placement :: rest ∧ ∀ later ∈ rest, later.key ≠ key := by
  rw [lastAt?, List.find?_eq_some_iff_append, beq_iff_eq]
  refine and_congr_right fun leads => ?_
  constructor
  · intro found
    obtain ⟨later, earlier, split, others⟩ := found
    refine ⟨earlier.reverse, later.reverse, ?_, ?_⟩
    · simpa using congrArg List.reverse split
    · intro other member
      simpa using others other (List.mem_reverse.mp member)
  · intro found
    obtain ⟨front, rest, split, others⟩ := found
    refine ⟨rest.reverse, front.reverse, ?_, ?_⟩
    · simp [split]
    · intro other member
      simpa using others other (List.mem_reverse.mp member)

namespace Snapshot

theorem get?_place (snapshot : Snapshot) (placement : Placement) (key : String) :
    (snapshot.place placement).get? key =
      if placement.key = key then some placement.node else snapshot.get? key := by
  rw [place, get?_addNode, addFamily]
  split_ifs <;> rfl

/-- What was empty before has under each key the node that was placed there last. -/
theorem get?_placeAll (placements : List Placement) (key : String) :
    (empty.placeAll placements).get? key = (lastAt? placements key).map Placement.node := by
  induction placements using List.reverseRecOn with
  | nil => simp [placeAll, lastAt?]
  | append_singleton front last ih =>
      rw [placeAll_append, show (empty.placeAll front).placeAll [last] =
        (empty.placeAll front).place last from rfl, get?_place, ih, lastAt?, lastAt?,
        List.reverse_append, List.reverse_singleton, List.singleton_append, List.find?_cons]
      by_cases here : last.key = key
      · rw [if_pos here, show (last.key == key) = true from beq_iff_eq.mpr here]
        rfl
      · rw [if_neg here, show (last.key == key) = false from beq_eq_false_iff_ne.mpr here]

end Snapshot

namespace Remote.Tree

/-- What is placed for the items of a folder is placed for one of them. -/
theorem exists_of_itemPlacements_eq {key : String} {items : List Tree} {placement : Placement}
    {front rest : List Placement} (split : itemPlacements key items = front ++ placement :: rest) :
    ∃ item ∈ items, ∃ others before between later,
      item.placements (Path.below key item.name) = before ++ placement :: between ∧
        front = others ++ before ∧ rest = between ++ later := by
  induction items generalizing front with
  | nil => simp [itemPlacements] at split
  | cons item items ih =>
      rw [itemPlacements] at split
      rcases List.append_eq_append_iff.mp split with ⟨more, rfl, tail⟩ | ⟨more, here, tail⟩
      · obtain ⟨other, member, others, before, between, later, placed, rfl, same⟩ := ih tail
        exact ⟨other, List.mem_cons_of_mem _ member, item.placements _ ++ others, before, between,
          later, placed, (List.append_assoc _ _ _).symm, same⟩
      · rcases more with _ | ⟨first, more⟩
        · obtain ⟨other, member, others, before, between, later, placed, empty, same⟩ :=
            ih (show itemPlacements key items = [] ++ placement :: rest from tail.symm)
          obtain ⟨rfl, rfl⟩ := List.append_eq_nil_iff.mp empty.symm
          exact ⟨other, List.mem_cons_of_mem _ member, front, [], between, later, placed,
            (List.append_nil _).symm, same⟩
        · obtain ⟨rfl, rfl⟩ := List.cons.inj tail
          exact ⟨item, List.mem_cons_self, [], front, more, _, here, rfl, rfl⟩

/-- The folder comes after everything that is placed for its items. -/
theorem folder_placements_cases {name remotePath key : String} {items : List Tree}
    {placement : Placement} {front rest : List Placement}
    (split : (Tree.folder name remotePath items).placements key = front ++ placement :: rest) :
    (placement = ⟨key, .folder (Path.nameText key), childrenAt key items⟩ ∧ rest = []) ∨
      ∃ item ∈ items, ∃ others before between later,
        item.placements (Path.below key item.name) = before ++ placement :: between ∧
          front = others ++ before ∧
          rest = between ++ later ++ [⟨key, .folder (Path.nameText key), childrenAt key items⟩] := by
  rw [placements] at split
  rcases List.eq_nil_or_concat rest with rfl | ⟨earlier, last, rfl⟩
  · obtain ⟨-, same⟩ := List.append_inj' split rfl
    exact .inl ⟨(List.cons.inj same).1.symm, rfl⟩
  · rw [List.concat_eq_append, ← List.cons_append, ← List.append_assoc] at split
    obtain ⟨inside, same⟩ := List.append_inj' split rfl
    obtain ⟨item, member, others, before, between, later, placed, first, second⟩ :=
      exists_of_itemPlacements_eq inside
    refine .inr ⟨item, member, others, before, between, later, placed, first, ?_⟩
    rw [List.concat_eq_append, second, (List.cons.inj same).1]

/-- A file is placed right after its content. -/
theorem content_before_file {tree : Tree} {key place name : String} {children : List Descriptor}
    {front rest : List Placement}
    (split : tree.placements key = front ++ ⟨place, .file name, children⟩ :: rest) :
    ∃ before source, front = before ++ [⟨Path.below place Name.content, .content source, []⟩] ∧
      children = [.content source] := by
  induction tree using Tree.induction generalizing key front rest with
  | file fileName remotePath =>
      rw [placements] at split
      rcases front with _ | ⟨first, _ | ⟨second, more⟩⟩
      · exact absurd (congrArg Placement.node (List.cons.inj split).1) (by simp)
      · obtain ⟨rfl, last⟩ := List.cons.inj split
        obtain ⟨rfl, -, rfl⟩ : key = place ∧ _ ∧ [Descriptor.content remotePath] = children := by
          simpa using (List.cons.inj last).1
        exact ⟨[], remotePath, rfl, rfl⟩
      · have counted := congrArg List.length split
        simp at counted
  | folder folderName remotePath items ih =>
      rcases folder_placements_cases split with
        ⟨same, -⟩ | ⟨item, member, others, before, between, later, placed, rfl, -⟩
      · exact absurd (congrArg Placement.node same) (by simp)
      · obtain ⟨earlier, source, rfl, isContent⟩ := ih item member placed
        exact ⟨others ++ earlier, source, (List.append_assoc _ _ _).symm, isContent⟩

/-- Whatever is placed below a node of the tree is placed before that node. -/
theorem placed_before_parent {tree : Tree} (named : tree.Named IsSegment) {path : Path}
    (proper : path.HasSegments) {placement : Placement} {front rest : List Placement}
    (split : tree.placements path.text = front ++ placement :: rest) {trail : List String}
    {name : String} (segments : ∀ segment ∈ trail ++ [name], IsSegment segment)
    (leads : placement.key = (path.follow (trail ++ [name])).text) :
    ∃ later ∈ rest, later.key = (path.follow trail).text := by
  induction tree using Tree.induction generalizing path front rest trail with
  | file fileName remotePath =>
      rw [placements, below_text proper isSegment_content] at split
      rcases front with _ | ⟨first, _ | ⟨second, more⟩⟩
      · obtain ⟨rfl, rfl⟩ := List.cons.inj split
        have contentSegments : ∀ segment ∈ [Name.content], IsSegment segment := by
          simpa using isSegment_content
        have same := text_follow_injective proper contentSegments segments leads
        obtain ⟨rfl, -⟩ : trail = [] ∧ name = Name.content := by
          simpa [List.singleton_eq_append_iff] using same
        exact ⟨_, List.mem_singleton_self _, congrArg Path.text (follow_nil path).symm⟩
      · obtain ⟨-, last⟩ := List.cons.inj split
        obtain ⟨rfl, -⟩ := List.cons.inj last
        have same := text_follow_injective proper (by simp) segments
          ((congrArg Path.text (follow_nil path)).trans leads)
        simp at same
      · have counted := congrArg List.length split
        simp at counted
  | folder folderName remotePath items ih =>
      obtain ⟨segmentsHere, below⟩ := named_folder_iff.mp named
      rcases folder_placements_cases split with
        ⟨rfl, -⟩ | ⟨item, member, others, before, between, later, placed, -, rfl⟩
      · have same := text_follow_injective proper (by simp) segments
          ((congrArg Path.text (follow_nil path)).trans leads)
        simp at same
      · cases trail with
        | nil =>
            rw [follow_nil]
            exact ⟨_, List.mem_append_right _ (List.mem_singleton_self _), rfl⟩
        | cons head rest =>
            have inside : placement ∈ item.placements (Path.below path.text item.name) := by
              rw [placed]
              simp
            obtain ⟨inner, innerSegments, reached⟩ := key_of_mem_item named proper member inside
            obtain ⟨rfl, -⟩ := List.cons.inj
              (text_follow_injective proper segments innerSegments (leads.symm.trans reached))
            have segment := segmentsHere item member
            rw [below_text proper segment] at placed
            rw [List.cons_append, follow_cons] at leads
            obtain ⟨parent, among, isParent⟩ := ih item member (below item member)
              (proper.child segment) placed
              (fun other inside => segments other (List.mem_cons_of_mem _ inside)) leads
            refine ⟨parent, ?_, ?_⟩
            · simp [among]
            · rw [isParent, follow_cons]

/-- The content of a file that is the last node under its key is the last node under its own
key. -/
theorem lastAt?_content {tree : Tree} (named : tree.Named IsSegment) {mount : Path}
    (proper : mount.HasSegments) {trail : List String}
    (segments : ∀ segment ∈ trail, IsSegment segment) {name : String} {placement : Placement}
    (last : lastAt? (tree.placements mount.text) (mount.follow trail).text = some placement)
    (isFile : placement.node = .file name) : ∃ source,
      placement = ⟨(mount.follow trail).text, .file name, [.content source]⟩ ∧
        lastAt? (tree.placements mount.text) (mount.follow (trail ++ [Name.content])).text =
          some ⟨(mount.follow (trail ++ [Name.content])).text, .content source, []⟩ := by
  rcases placement with ⟨key, node, children⟩
  obtain ⟨rfl, front, rest, split, others⟩ := lastAt?_eq_some_iff.mp last
  obtain rfl : node = .file name := isFile
  obtain ⟨before, source, rfl, rfl⟩ := content_before_file split
  have childSegments : ∀ segment ∈ trail ++ [Name.content], IsSegment segment := by
    intro segment member
    rcases List.mem_append.mp member with old | new
    · exact segments segment old
    · rw [List.mem_singleton.mp new]
      exact isSegment_content
  have isChild : Path.below (mount.follow trail).text Name.content =
      (mount.follow (trail ++ [Name.content])).text := by
    rw [below_text (proper.follow segments) isSegment_content, follow_append_singleton]
  refine ⟨source, rfl, lastAt?_eq_some_iff.mpr ⟨rfl, before,
    ⟨(mount.follow trail).text, .file name, [.content source]⟩ :: rest, ?_, ?_⟩⟩
  · rw [split, List.append_assoc, isChild]
    rfl
  · intro later member leads
    rcases List.mem_cons.mp member with rfl | after
    · have same := text_follow_injective proper segments childSegments leads
      simp at same
    · -- A node placed there later would be followed by another one in place of the file.
      obtain ⟨one, two, rfl⟩ := List.append_of_mem after
      have whole : tree.placements mount.text = (before ++
          [⟨Path.below (mount.follow trail).text Name.content, .content source, []⟩] ++
          ⟨(mount.follow trail).text, .file name, [.content source]⟩ :: one) ++ later :: two := by
        rw [split]
        simp
      obtain ⟨parent, among, isParent⟩ :=
        placed_before_parent named proper whole childSegments leads
      exact others parent (by simp [among]) isParent

end Remote.Tree

end ContentMount
