/-
This file says when the folders of a mounted bucket stand before the files: exactly when each
listing fits into its pages. Mounts with pages of different sizes are equal when both fit.
-/

import ContentMount.Proofs.Bucket.CutService
import ContentMount.Proofs.Bucket.Root

namespace ContentMount

open Remote ContentMount.Path

/-- Folders come first in a family when only folders stand before a folder. -/
def Descriptor.FoldersLead (family : List Descriptor) : Prop :=
  family.Pairwise fun first second => second.kind = .folder → first.kind = .folder

/-- Folders come first in a snapshot when they do among the children under each key. -/
def Snapshot.FoldersFirst (snapshot : Snapshot) : Prop :=
  ∀ key, Descriptor.FoldersLead (snapshot.children key)

theorem Snapshot.foldersFirst_empty : Snapshot.empty.FoldersFirst := by
  intro key
  rw [children_empty]
  exact .nil

/-- Folders come first in a snapshot exactly when they do in each family of the tree. -/
theorem Snapshot.HoldsAt.foldersFirst_iff {snapshot : Snapshot} {mount : Path} {tree : Tree}
    (holds : snapshot.HoldsAt mount tree) : snapshot.FoldersFirst ↔
      ∀ trail node family, Tree.Shows (lastPiece mount.text) tree trail node family →
        Descriptor.FoldersLead family := by
  constructor
  · intro lead trail node family shown
    rw [← holds.children_follow shown]
    exact lead _
  · intro lead key
    rw [Snapshot.children, Std.TreeMap.getD_eq_getD_getElem?]
    cases held : snapshot.families[key]? with
    | none => exact .nil
    | some family =>
        obtain ⟨trail, node, shown, -, -⟩ := (holds.mirrors.families _ _).mp held
        exact lead trail node family shown

namespace Remote.Tree

/-- The node of a tree is a folder when its entry is one. -/
theorem kind_node_eq_folder_iff (label : String) (tree : Tree) :
    (tree.node label).kind = .folder ↔ tree.entry.kind = .folder := by
  cases tree <;> simp [node, entry, Descriptor.kind]

/-- Folders come first among the nodes of items when they do among their entries. -/
theorem foldersLead_nodes_iff (items : List Tree) :
    Descriptor.FoldersLead (items.map fun item => item.node item.name) ↔
      Bucket.FoldersLead (items.map Tree.entry) := by
  rw [Descriptor.FoldersLead, Bucket.FoldersLead, List.pairwise_map, List.pairwise_map]
  exact List.Pairwise.iff fun first second => by simp only [kind_node_eq_folder_iff]

/-- A file has no folder in its families. -/
theorem foldersLead_of_shows_file {label name path : String} {trail : List String}
    {node : Descriptor} {family : List Descriptor}
    (shown : Shows label (.file name path) trail node family) :
    Descriptor.FoldersLead family := by
  cases shown <;> simp [Tree.family, Descriptor.FoldersLead]

end Remote.Tree

namespace Remote.Bucket

section

variable {σ : Type} {transport : Transport σ} {client : Client} {keys : List String}
  {hosting : Hosting (transport.bucket client) keys} {start : String} {tree : Tree}

/-- Without keys below it a start has no entries. -/
theorem Hosting.order_eq_nil (outside : ¬∃ rest, start ++ rest ∈ keys) :
    hosting.order start = [] := by
  rw [Hosting.order, liveEntries_pages, ← List.isEmpty_iff, ← Bool.not_eq_false,
    List.isEmpty_eq_false_iff_exists_mem]
  rintro ⟨entry, member⟩
  have reports := hosting.reports start
  rcases List.mem_append.mp ((flatMap_entriesOf_perm start _).mem_iff.mp member) with
    folder | file
  · obtain ⟨common, reported, -⟩ := List.mem_map.mp folder
    obtain ⟨name, rest, -, rfl, inside⟩ := (reports.starts common).mp reported
    exact outside ⟨_, by simpa only [String.append_assoc] using inside⟩
  · obtain ⟨key, member, -⟩ := List.mem_map.mp file
    obtain ⟨inside, name, -, rfl⟩ := (reports.objects key).mp (List.mem_filter.mp member).1
    exact outside ⟨name, inside⟩

/-- Folders come first in each family of an arranged tree exactly when they do in each listing
below its start. -/
theorem Arranged.foldersLead_iff (arranged : Arranged hosting.order start tree)
    (proper : IsStart start) (unbroken : Unbroken keys start) (label : String) :
    (∀ trail node family, Tree.Shows label tree trail node family →
        Descriptor.FoldersLead family) ↔
      ∀ front, lastPiece front = "" → FoldersLead (hosting.order (start ++ front)) := by
  induction arranged generalizing label with
  | @folder start name path items entries below ih =>
      have listed : ∀ entry, entry ∈ items.map Tree.entry ↔ IsEntry keys start entry :=
        fun entry => by rw [entries, hosting.mem_order proper unbroken]
      constructor
      · intro lead front ends
        rcases slashless_or_exists_name front with slashless | ⟨first, rest, slashless, rfl⟩
        · rw [lastPiece_slashless slashless] at ends
          rw [ends, String.append_empty, ← entries, ← Tree.foldersLead_nodes_iff]
          exact lead [] _ _ (.here label _)
        · rw [lastPiece_append_slash] at ends
          by_cases inside : ∃ more, start ++ (first ++ "/" ++ rest) ++ more ∈ keys
          · obtain ⟨more, present⟩ := inside
            have isPresent : start ++ first ++ "/" ++ (rest ++ more) ∈ keys := by
              simpa only [String.append_assoc] using present
            have segment : IsSegment first := ⟨unbroken.nonempty slashless isPresent, slashless⟩
            obtain ⟨inner, member⟩ := exists_folder_mem_items listed segment isPresent
            have leads := (ih _ _ _ member (proper.append segment) (unbroken.below slashless)
              first).mp (fun trail node family shown =>
                lead _ node family (.down label name path member shown)) rest ends
            simpa only [String.append_assoc] using leads
          · rw [hosting.order_eq_nil inside]
            exact .nil
      · intro lead trail node family shown
        cases shown with
        | here =>
            rw [Tree.family, Tree.foldersLead_nodes_iff, entries]
            simpa using lead "" (by decide)
        | @down _ _ _ _ item member trail _ _ shown =>
            cases item with
            | file itemName itemPath => exact Tree.foldersLead_of_shows_file shown
            | folder itemName itemPath inner =>
                cases (listed _).mp (List.mem_map_of_mem member) with
                | folder segment inside =>
                    refine (ih _ _ _ member (proper.append segment)
                      (unbroken.below segment.slashless) _).mpr ?_ trail node family shown
                    intro front ends
                    have leads := lead (itemName ++ "/" ++ front)
                      (by rw [lastPiece_append_slash, ends])
                    simpa only [String.append_assoc] using leads

/-- Items with the same entries are the same when their folders have the same items. -/
theorem eq_of_map_entry {items others : List Tree}
    (entries : items.map Tree.entry = others.map Tree.entry)
    (folders : ∀ name path inner otherInner, Tree.folder name path inner ∈ items →
      Tree.folder name path otherInner ∈ others → inner = otherInner) : items = others := by
  induction items generalizing others with
  | nil => exact (List.map_eq_nil_iff.mp entries.symm).symm
  | cons item rest ih =>
      obtain ⟨other, otherRest, rfl, sameEntry, sameRest⟩ := List.map_eq_cons_iff.mp entries.symm
      have later := ih sameRest.symm fun name path inner otherInner member otherMember =>
        folders name path inner otherInner (List.mem_cons_of_mem _ member)
          (List.mem_cons_of_mem _ otherMember)
      rw [later]
      cases item with
      | file name path => rw [Tree.eq_file_of_entry sameEntry]
      | folder name path inner =>
          obtain ⟨otherInner, rfl⟩ := Tree.eq_folder_of_entry sameEntry
          rw [folders name path inner otherInner List.mem_cons_self List.mem_cons_self]

theorem Arranged.exists_eq_folder {order : String → List Entry}
    (arranged : Arranged order start tree) : ∃ name path items, tree = .folder name path items := by
  cases arranged
  exact ⟨_, _, _, rfl⟩

/-- Two arranged folders have the same items when the orders agree below their start. -/
theorem Arranged.items_eq {order other : String → List Entry} {tree : Tree} {start : String}
    (arranged : Arranged order start tree) {name path otherName otherPath : String}
    {items others : List Tree} (isFolder : tree = .folder name path items)
    (otherArranged : Arranged other start (.folder otherName otherPath others))
    (same : ∀ front, lastPiece front = "" → order (start ++ front) = other (start ++ front)) :
    items = others := by
  induction arranged generalizing name path otherName otherPath items others with
  | @folder start _ _ _ entries below ih =>
      obtain ⟨rfl, rfl, rfl⟩ := Tree.folder.inj isFolder
      cases otherArranged with
      | folder otherEntries otherBelow =>
          have here : order start = other start := by simpa using same "" (by decide)
          refine eq_of_map_entry (entries.trans (here.trans otherEntries.symm)) ?_
          intro name path inner otherInner member otherMember
          refine ih name path inner member rfl (otherBelow name path otherInner otherMember) ?_
          intro front ends
          have below := same (name ++ "/" ++ front) (by rw [lastPiece_append_slash, ends])
          simpa only [String.append_assoc] using below

end

section

variable {σ : Type} {transport : Transport σ} {client : Client} {keys : List String}
  {hosting : Hosting (transport.bucket client) keys} {config : MountConfig}

/-- Folders come first in a mounted bucket exactly when they do in each listing below its path. -/
theorem RootAt.foldersFirst_iff {found : Option Tree}
    (root : RootAt keys hosting.order config.remotePath found) (unbroken : Unbroken keys "")
    (clear : ¬Shadowed keys "") (accepted : config.validatePaths = .ok ()) :
    (Snapshot.ofTree? config.mountPoint found).FoldersFirst ↔
      ∀ front, lastPiece front = "" →
        FoldersLead (hosting.order (startOf config.remotePath ++ front)) := by
  have proper := isStart_startOf config.remotePath
  have without (outside : ¬∃ rest, startOf config.remotePath ++ rest ∈ keys) (front : String) :
      FoldersLead (hosting.order (startOf config.remotePath ++ front)) := by
    rw [hosting.order_eq_nil fun ⟨rest, inside⟩ => outside ⟨front ++ rest, by
      simpa only [String.append_assoc] using inside⟩]
    exact .nil
  cases root with
  | nothing below missing outside =>
      exact iff_of_true Snapshot.foldersFirst_empty fun front _ => without outside front
  | object below member =>
      have holds := hosting.holdsAt unbroken clear accepted (.object below member)
      have outside := not_inside_of_object clear below member
      exact iff_of_true (holds.foldersFirst_iff.mpr fun _ _ _ => Tree.foldersLead_of_shows_file)
        fun front _ => without outside front
  | folder isFolder arranged =>
      have holds := hosting.holdsAt unbroken clear accepted (.folder isFolder arranged)
      exact holds.foldersFirst_iff.trans
        (arranged.foldersLead_iff proper (unbroken.start proper) _)

/-- A path below the root leads to no folder when an object or nothing is there. -/
theorem not_isFolder {remotePath : String} (below : keyOf remotePath ≠ "")
    (outside : keyOf remotePath ∉ keys → ¬∃ rest, startOf remotePath ++ rest ∈ keys) :
    ¬IsFolder keys remotePath := by
  rintro (top | ⟨missing, inside⟩)
  · exact below top
  · exact outside missing inside

/-- Trees with the same items are added alike. -/
theorem ofTree?_folder_congr (mountPoint name path otherName otherPath : String)
    (items : List Tree) : Snapshot.ofTree? mountPoint (some (.folder name path items)) =
      Snapshot.ofTree? mountPoint (some (.folder otherName otherPath items)) := by
  simp only [Snapshot.ofTree?, Snapshot.plant, Tree.placements]

/-- What a bucket has at a path looks the same in two orders that agree below the path. -/
theorem RootAt.ofTree?_eq {order other : String → List Entry} {remotePath : String}
    {found otherFound : Option Tree} (root : RootAt keys order remotePath found)
    (otherRoot : RootAt keys other remotePath otherFound)
    (same : ∀ front, lastPiece front = "" →
      order (startOf remotePath ++ front) = other (startOf remotePath ++ front))
    (mountPoint : String) :
    Snapshot.ofTree? mountPoint found = Snapshot.ofTree? mountPoint otherFound := by
  cases root with
  | nothing below missing outside =>
      cases otherRoot with
      | nothing => rfl
      | object _ member => exact absurd member missing
      | folder isFolder => exact absurd isFolder (not_isFolder below fun _ => outside)
  | object below member =>
      cases otherRoot with
      | nothing _ missing => exact absurd member missing
      | object => rfl
      | folder isFolder => exact absurd isFolder (not_isFolder below (absurd member))
  | folder isFolder arranged =>
      cases otherRoot with
      | nothing below _ outside => exact absurd isFolder (not_isFolder below fun _ => outside)
      | object below member => exact absurd isFolder (not_isFolder below (absurd member))
      | folder _ otherArranged =>
          obtain ⟨name, path, items, rfl⟩ := arranged.exists_eq_folder
          obtain ⟨otherName, otherPath, others, rfl⟩ := otherArranged.exists_eq_folder
          rw [arranged.items_eq rfl otherArranged same]
          exact ofTree?_folder_congr ..

end

/-! ## Pages of different sizes -/

/-- Each listing below a start fits into pages of a size. -/
def FitsPages (keys : List String) (size : Nat) (start : String) : Prop :=
  ∀ front, lastPiece front = "" → FitsPage keys size (start ++ front)

/-- Listings fit into pages that have room for all keys. -/
theorem fitsPages_of_length_le {keys : List String} {size : Nat} (room : keys.length ≤ size)
    (start : String) : FitsPages keys size start := by
  intro front _ place later key common _ _ found
  have inside := (List.getElem?_eq_some_iff.mp found).1
  have few := length_rows_le keys (start ++ front)
  rw [Nat.div_eq_of_lt (inside.trans_le (few.trans room))]
  exact Nat.zero_le _

section

variable {σ τ : Type} {transport : Transport σ} {otherTransport : Transport τ}
  {client otherClient : Client} {keys : List String} {config : MountConfig}

/-- Two mounts of a bucket whose listings are cut into pages end when no key has an empty name in it
and none is another key up to a slash. In each the folders come first exactly when the listings fit
into its pages, and a mount has the snapshot of one that fits exactly when it fits. -/
theorem exists_mounts_foldersFirst_iff (hosting : Hosting (transport.bucket client) keys)
    (otherHosting : Hosting (otherTransport.bucket otherClient) keys) {size otherSize : Nat}
    (isCut : hosting.CutInto size) (otherIsCut : otherHosting.CutInto otherSize)
    (unbroken : Unbroken keys "") (clear : ¬Shadowed keys "")
    (accepted : config.validatePaths = .ok ()) (state : σ) (otherState : τ) :
    ∃ mount otherMount : Mount,
      (∃ enough, ∀ limit ≥ enough,
        ((storeOf transport client).run (Mount.activate limit config) state).1 =
            some (.ok mount) ∧
          ((storeOf otherTransport otherClient).run (Mount.activate limit config) otherState).1 =
            some (.ok otherMount)) ∧
        (mount.view.snapshot.FoldersFirst ↔ FitsPages keys size (startOf config.remotePath)) ∧
        (FitsPages keys otherSize (startOf config.remotePath) →
          (mount.view.snapshot = otherMount.view.snapshot ↔
            FitsPages keys size (startOf config.remotePath))) := by
  have proper := isStart_startOf config.remotePath
  obtain ⟨found, root, mount, ⟨enough, ends⟩, isView⟩ :=
    hosting.exists_mounted (unbroken.start proper) accepted state
  obtain ⟨otherFound, otherRoot, otherMount, ⟨otherEnough, otherEnds⟩, otherIsView⟩ :=
    otherHosting.exists_mounted (unbroken.start proper) accepted otherState
  have lead : mount.view.snapshot.FoldersFirst ↔
      FitsPages keys size (startOf config.remotePath) := by
    rw [isView]
    exact (root.foldersFirst_iff unbroken clear accepted).trans
      (forall₂_congr fun front _ => isCut.foldersLead_iff _)
  have otherLead : otherMount.view.snapshot.FoldersFirst ↔
      FitsPages keys otherSize (startOf config.remotePath) := by
    rw [otherIsView]
    exact (otherRoot.foldersFirst_iff unbroken clear accepted).trans
      (forall₂_congr fun front _ => otherIsCut.foldersLead_iff _)
  refine ⟨mount, otherMount, ⟨max enough otherEnough, fun limit large => ?_⟩, lead, ?_⟩
  · exact ⟨ends limit ((le_max_left _ _).trans large),
      otherEnds limit ((le_max_right _ _).trans large)⟩
  · intro otherFits
    constructor
    · intro same
      exact lead.mp (same ▸ otherLead.mpr otherFits)
    · intro fits
      rw [isView, otherIsView]
      refine root.ofTree?_eq otherRoot (fun front ends => ?_) _
      rw [isCut.order_of_fits (fits front ends), otherIsCut.order_of_fits (otherFits front ends)]

end

/-- On pages with one row an object stands before a folder. -/
theorem not_fitsPages_one : ¬FitsPages ["a", "b/c"] 1 "" := by
  intro fits
  have late := fits "" (by decide) 0 1 "a" "b/" (by decide +kernel) (by decide) (by decide +kernel)
  exact absurd late (by decide)

/-- A folder comes after a file when each page has one row, and the snapshot is not the one that
larger pages give. -/
theorem exists_mounts_cutService : ∃ mount otherMount : Mount,
    (∃ enough, ∀ limit ≥ enough,
      ((storeOf (cutService ["a", "b/c"] 1) sampleClient).run
          (Mount.activate limit sampleConfig) ()).1 = some (.ok mount) ∧
        ((storeOf (cutService ["a", "b/c"] 2) sampleClient).run
          (Mount.activate limit sampleConfig) ()).1 = some (.ok otherMount)) ∧
      ¬mount.view.snapshot.FoldersFirst ∧
        mount.view.snapshot ≠ otherMount.view.snapshot := by
  have unbroken : Unbroken ["a", "b/c"] "" := by
    intro rest inside
    rw [String.empty_append] at inside
    revert rest
    decide
  have clear : ¬Shadowed ["a", "b/c"] "" := by
    rintro ⟨rest, more, present, inside⟩
    rw [String.empty_append] at present inside
    rcases List.mem_pair.mp present with rfl | rfl <;>
      rcases List.mem_pair.mp inside with same | same <;>
        simpa using congrArg String.toList same
  have accepted : sampleConfig.validatePaths = .ok () := by decide
  have start : startOf sampleConfig.remotePath = "" := by decide
  obtain ⟨mount, otherMount, ends, lead, same⟩ := exists_mounts_foldersFirst_iff
    (cutHosting ["a", "b/c"] Nat.one_pos) (cutHosting ["a", "b/c"] Nat.two_pos)
    (cutHosting_cutInto _ _) (cutHosting_cutInto _ _) unbroken clear accepted () ()
  rw [start] at lead same
  refine ⟨mount, otherMount, ends, mt lead.mp not_fitsPages_one, ?_⟩
  exact mt (same (fitsPages_of_length_le (by decide) "")).mp not_fitsPages_one

end Remote.Bucket

end ContentMount
