/-
This file finds the trees that a bucket serves. A folder of such a tree has what lies directly
below the start of its keys.
-/

import ContentMount.Proofs.Bucket.Hosting
import Mathlib.Data.List.Perm.Basic

namespace ContentMount.Remote.Bucket

open ContentMount.Path

/-- What lies directly below a start: folders with keys below them and files with keys of their
own. -/
inductive IsEntry (keys : List String) (start : String) : Entry → Prop where
  | folder {name rest : String} (segment : IsSegment name)
      (inside : start ++ name ++ "/" ++ rest ∈ keys) :
      IsEntry keys start ⟨.folder, name, "/" ++ (start ++ name)⟩
  | file {name : String} (segment : IsSegment name) (present : start ++ name ∈ keys) :
      IsEntry keys start ⟨.file, name, "/" ++ (start ++ name)⟩

/-- A tree depicts the keys with a start when each of its folders has, once each, the entries below
its start. -/
inductive Depicts (keys : List String) : String → Tree → Prop where
  | folder {start name path : String} {items : List Tree}
      (listed : ∀ entry, entry ∈ items.map Tree.entry ↔ IsEntry keys start entry)
      (once : (items.map Tree.entry).Nodup)
      (below : ∀ name path inner, Tree.folder name path inner ∈ items →
        Depicts keys (start ++ name ++ "/") (.folder name path inner)) :
      Depicts keys start (.folder name path items)

/-- A tree is arranged when each of its folders has its items in the order of the entries at its
start. -/
inductive Arranged (order : String → List Entry) : String → Tree → Prop where
  | folder {start name path : String} {items : List Tree}
      (entries : items.map Tree.entry = order start)
      (below : ∀ name path inner, Tree.folder name path inner ∈ items →
        Arranged order (start ++ name ++ "/") (.folder name path inner)) :
      Arranged order start (.folder name path items)

/-- No key goes on after a start with an empty name and something below it. -/
def Unbroken (keys : List String) (start : String) : Prop :=
  ∀ rest, start ++ rest ∈ keys → "" ∉ (pieces rest).dropLast

theorem unbroken_singleton {key : String} (named : "" ∉ (pieces key).dropLast) :
    Unbroken [key] "" := by
  intro rest inside
  rw [String.empty_append, List.mem_singleton] at inside
  rwa [inside]

/-- A text has no slash, or it starts with a name and a slash. -/
theorem slashless_or_exists_name (rest : String) : '/' ∉ rest.toList ∨
    ∃ name others, '/' ∉ name.toList ∧ rest = name ++ "/" ++ others := by
  apply or_iff_not_imp_left.mpr
  intro slash
  obtain ⟨name, others, split, slashless⟩ := List.eq_append_cons_of_mem (not_not.mp slash)
  refine ⟨String.ofList name, String.ofList others, by simpa using slashless, ?_⟩
  rw [← String.toList_inj]
  simp [split]

theorem pieces_append_name {name : String} (slashless : '/' ∉ name.toList) (rest : String) :
    (pieces (name ++ "/" ++ rest)).dropLast = name :: (pieces rest).dropLast := by
  rw [pieces_append_slash, pieces_slashless slashless, List.singleton_append,
    List.dropLast_cons_of_ne_nil (pieces_ne_nil rest)]

theorem Unbroken.nonempty {keys : List String} {start name rest : String}
    (unbroken : Unbroken keys start) (slashless : '/' ∉ name.toList)
    (inside : start ++ name ++ "/" ++ rest ∈ keys) : name ≠ "" := by
  rintro rfl
  have kept := unbroken ("" ++ "/" ++ rest) (by simpa [String.append_assoc] using inside)
  rw [pieces_append_name slashless] at kept
  exact kept List.mem_cons_self

theorem Unbroken.below {keys : List String} {start name : String} (unbroken : Unbroken keys start)
    (slashless : '/' ∉ name.toList) : Unbroken keys (start ++ name ++ "/") := by
  intro rest inside empty
  have kept := unbroken (name ++ "/" ++ rest) (by simpa [String.append_assoc] using inside)
  rw [pieces_append_name slashless] at kept
  exact kept (List.mem_cons_of_mem _ empty)

/-! ## What the pages of a listing report -/

theorem isLive_of_mem_entriesOf {start : String} {found : Found} {entry : Entry}
    (member : entry ∈ entriesOf start found) : entry.isLive = true := by
  rcases List.mem_append.mp member with folder | file
  · obtain ⟨common, -, rfl⟩ := List.mem_map.mp folder
    rfl
  · obtain ⟨key, -, rfl⟩ := List.mem_map.mp file
    rfl

theorem liveEntries_pages (start : String) (pages : List Found) :
    liveEntries (pages.map (entriesOf start)) = pages.flatMap (entriesOf start) := by
  rw [liveEntries, ← List.flatMap_def, List.filter_eq_self]
  intro entry member
  obtain ⟨found, -, inside⟩ := List.mem_flatMap.mp member
  exact isLive_of_mem_entriesOf inside

/-- The entries of all pages are the folders of all common starts and the files of all keys. -/
theorem flatMap_entriesOf_perm (start : String) (pages : List Found) :
    (pages.flatMap (entriesOf start)).Perm
      ((pages.flatMap Found.starts).map folderOf ++
        ((pages.flatMap Found.objects).filter (· != start)).map fileOf) := by
  induction pages with
  | nil => exact .refl _
  | cons found rest ih =>
      have entries : entriesOf start found =
          found.starts.map folderOf ++ (found.objects.filter (· != start)).map fileOf := rfl
      simp only [List.flatMap_cons, List.map_append, List.filter_append, entries,
        List.append_assoc]
      apply List.Perm.append_left _
      apply (List.Perm.append_left _ ih).trans
      rw [← List.append_assoc, ← List.append_assoc]
      exact List.Perm.append_right _ List.perm_append_comm

/-- Each common start that is reported has a folder on the pages. -/
theorem folderOf_mem_entries {start common : String} {pages : List Found}
    (member : common ∈ pages.flatMap Found.starts) :
    folderOf common ∈ liveEntries (pages.map (entriesOf start)) := by
  rw [liveEntries_pages, (flatMap_entriesOf_perm start pages).mem_iff]
  exact List.mem_append_left _ (List.mem_map_of_mem member)

section

variable {keys : List String} {start : String} {pages : List Found}

/-- The entries of all pages are what lies directly below the start. -/
theorem Reports.mem_entries (reports : Reports keys start pages) (proper : IsStart start)
    (unbroken : Unbroken keys start) (entry : Entry) :
    entry ∈ liveEntries (pages.map (entriesOf start)) ↔ IsEntry keys start entry := by
  rw [liveEntries_pages, (flatMap_entriesOf_perm start pages).mem_iff, List.mem_append]
  constructor
  · rintro (folder | file)
    · obtain ⟨common, member, rfl⟩ := List.mem_map.mp folder
      obtain ⟨name, rest, slashless, rfl, inside⟩ := (reports.starts common).mp member
      have segment : IsSegment name := ⟨unbroken.nonempty slashless inside, slashless⟩
      rw [folderOf_append proper segment]
      exact .folder segment inside
    · obtain ⟨key, member, rfl⟩ := List.mem_map.mp file
      obtain ⟨reported, other⟩ := List.mem_filter.mp member
      obtain ⟨present, name, slashless, rfl⟩ := (reports.objects key).mp reported
      have nonempty : name ≠ "" := by
        rintro rfl
        simp at other
      have segment : IsSegment name := ⟨nonempty, slashless⟩
      rw [fileOf_append proper segment]
      exact .file segment present
  · rintro (⟨segment, inside⟩ | ⟨segment, present⟩)
    · refine .inl (List.mem_map.mpr ⟨_, ?_, folderOf_append proper segment⟩)
      exact (reports.starts _).mpr ⟨_, _, segment.slashless, rfl, inside⟩
    · refine .inr (List.mem_map.mpr ⟨_, List.mem_filter.mpr ⟨?_, ?_⟩,
        fileOf_append proper segment⟩)
      · exact (reports.objects _).mpr ⟨present, _, segment.slashless, rfl⟩
      · rw [bne_iff_ne]
        intro same
        have longer := congrArg String.toList same
        exact segment.nonempty (String.toList_eq_nil_iff.mp (by simpa using longer))

/-- No entry is on the pages twice. -/
theorem Reports.nodup_entries (reports : Reports keys start pages) (proper : IsStart start)
    (unbroken : Unbroken keys start) : (liveEntries (pages.map (entriesOf start))).Nodup := by
  rw [liveEntries_pages, (flatMap_entriesOf_perm start pages).nodup_iff, List.nodup_append]
  refine ⟨?_, ?_, ?_⟩
  · apply reports.startsOnce.map_on
    intro first member second otherMember same
    obtain ⟨name, rest, slashless, rfl, inside⟩ := (reports.starts first).mp member
    obtain ⟨other, others, otherSlashless, rfl, otherInside⟩ :=
      (reports.starts second).mp otherMember
    rw [folderOf_append proper ⟨unbroken.nonempty slashless inside, slashless⟩,
      folderOf_append proper ⟨unbroken.nonempty otherSlashless otherInside, otherSlashless⟩] at same
    rw [(Entry.mk.inj same).2.1]
  · apply (reports.objectsOnce.filter _).map_on
    intro first member second otherMember same
    exact String.append_right_inj _ |>.mp (Entry.mk.inj same).2.2
  · intro folder isFolder file isFile same
    obtain ⟨common, -, rfl⟩ := List.mem_map.mp isFolder
    obtain ⟨key, -, rfl⟩ := List.mem_map.mp isFile
    exact EntryKind.noConfusion (Entry.mk.inj same).1

end

/-! ## Trees that are served -/

/-- Entries with a tree each make a list of trees. -/
theorem exists_items (property : Tree → Prop) (entries : List Entry)
    (each : ∀ entry ∈ entries, ∃ tree : Tree, tree.entry = entry ∧ property tree) :
    ∃ items : List Tree, items.map Tree.entry = entries ∧ ∀ item ∈ items, property item := by
  induction entries with
  | nil => exact ⟨[], rfl, by simp⟩
  | cons entry rest ih =>
      obtain ⟨tree, isEntry, holds⟩ := each entry (by simp)
      obtain ⟨items, same, all⟩ := ih fun other member => each other (by simp [member])
      refine ⟨tree :: items, by rw [List.map_cons, isEntry, same], ?_⟩
      intro item member
      rcases List.mem_cons.mp member with rfl | later
      · exact holds
      · exact all item later

theorem exists_bound (keys : List String) : ∃ bound, ∀ key ∈ keys, key.length ≤ bound := by
  induction keys with
  | nil => exact ⟨0, by simp⟩
  | cons key rest ih =>
      obtain ⟨bound, bounded⟩ := ih
      refine ⟨max key.length bound, ?_⟩
      intro other member
      rcases List.mem_cons.mp member with rfl | later
      · exact Nat.le_max_left _ _
      · exact (bounded other later).trans (Nat.le_max_right _ _)

section

variable {σ : Type} {transport : Transport σ} {client : Client} {keys : List String}
  (hosting : Hosting (transport.bucket client) keys)

/-- The entries below a start, in the order of the pages that bring them. -/
def Hosting.order (start : String) : List Entry :=
  liveEntries ((hosting.pages start).map (entriesOf start))

theorem Hosting.mem_order {start : String} (proper : IsStart start)
    (unbroken : Unbroken keys start) (entry : Entry) :
    entry ∈ hosting.order start ↔ IsEntry keys start entry :=
  (hosting.reports start).mem_entries proper unbroken entry

/-- A tree that is arranged as the pages are depicts the keys. -/
theorem Hosting.depicts_of_arranged {start : String} {tree : Tree}
    (arranged : Arranged hosting.order start tree) (proper : IsStart start)
    (unbroken : Unbroken keys start) : Depicts keys start tree := by
  induction arranged with
  | @folder start name path items entries below ih =>
      refine .folder (fun entry => by rw [entries, hosting.mem_order proper unbroken]) ?_ ?_
      · rw [entries]
        exact (hosting.reports start).nodup_entries proper unbroken
      · intro name path inner member
        have reported : (Tree.folder name path inner).entry ∈ hosting.order start :=
          entries ▸ List.mem_map_of_mem member
        cases (hosting.mem_order proper unbroken _).mp reported with
        | folder segment inside =>
            exact ih _ _ _ member (proper.append segment) (unbroken.below segment.slashless)

/-- An unbroken start has a folder that is served. Folders within folders have longer starts, and
no start is longer than all keys. -/
theorem Hosting.exists_folder {start path : String} (isStart : startOf path = start)
    (unbroken : Unbroken keys start) (name : String) : ∃ items,
      (∀ state, hosting.paging.Serves state (.folder name path items)) ∧
        Arranged hosting.order start (.folder name path items) := by
  obtain ⟨bound, bounded⟩ := exists_bound keys
  induction counted : bound - start.length using Nat.strongRecOn generalizing start path name with
  | ind size smaller =>
      have proper : IsStart start := isStart ▸ isStart_startOf path
      have found : ∀ entry ∈ hosting.order start,
          ∃ tree : Tree, tree.entry = entry ∧ (∀ state, hosting.paging.Serves state tree) ∧
            ∀ name path inner, tree = .folder name path inner →
              Arranged hosting.order (start ++ name ++ "/") tree := by
        intro entry member
        cases (hosting.mem_order proper unbroken entry).mp member with
        | @file name segment present =>
            exact ⟨.file name _, rfl, fun state => .file _ _, by simp⟩
        | @folder name rest segment inside =>
            have fits := bounded _ inside
            have shorter : bound - (start ++ name ++ "/").length < size := by
              simp only [String.length_append] at fits ⊢
              have slash : "/".length = 1 := by decide
              rw [← counted]
              omega
            obtain ⟨inner, served, arranged⟩ := smaller _ shorter
              (proper.startOf_append segment) (unbroken.below segment.slashless) name rfl
            refine ⟨.folder name _ inner, rfl, served, ?_⟩
            intro other path others same
            obtain ⟨rfl, rfl, rfl⟩ := Tree.folder.inj same
            exact arranged
      obtain ⟨items, entries, each⟩ := exists_items _ _ found
      refine ⟨items, fun state => ?_, ?_⟩
      · refine .folder name path (hosting.holds_first state path) ?_ fun item member =>
          (each item member).1 state
        rw [isStart, entries, Hosting.order]
      · exact .folder entries fun name path inner member => (each _ member).2 name path inner rfl

theorem isStoreRoot_eq_true_iff (remotePath : String) :
    Build.isStoreRoot remotePath = true ↔ keyOf remotePath = "" :=
  beq_iff_eq

/-- An object is served as a file at its path. -/
theorem Hosting.servesAt_object {remotePath : String} (below : keyOf remotePath ≠ "")
    (member : keyOf remotePath ∈ keys) (state : σ) :
    hosting.paging.ServesAt state remotePath
      (.file (lastPiece (keyOf remotePath)) ("/" ++ keyOf remotePath)) := by
  refine ⟨.file _ _, ?_⟩
  rw [if_neg (mt (isStoreRoot_eq_true_iff remotePath).mp below)]
  exact hosting.answer_metadata_object below member state

/-- A path leads to a folder when it is the root of the store, or when keys lie below it and none
is its own. -/
def IsFolder (keys : List String) (remotePath : String) : Prop :=
  keyOf remotePath = "" ∨
    keyOf remotePath ∉ keys ∧ ∃ rest, startOf remotePath ++ rest ∈ keys

include hosting in
/-- A build of a path where nothing is found ends with an empty snapshot. -/
theorem Hosting.build_of_outside {remotePath : String} (below : keyOf remotePath ≠ "")
    (missing : keyOf remotePath ∉ keys) (outside : ¬∃ rest, startOf remotePath ++ rest ∈ keys)
    (mountPoint : String) (state : σ) : ∃ enough, ∀ limit ≥ enough,
      ((storeOf transport client).run (Snapshot.build limit mountPoint remotePath) state).1 =
        some (.ok Snapshot.empty) := by
  have notRoot := Bool.eq_false_iff.mpr (mt (isStoreRoot_eq_true_iff remotePath).mp below)
  have found := Gathering.run_rootEntry mountPoint notRoot
    ((hosting.answer_metadata_probe below missing state).2 outside)
  refine ⟨0, fun limit _ => ?_⟩
  rw [Snapshot.run_build, Gathering.root, Gathering.run_bind_of_ok found]
  rfl

/-- A folder is served with what lies below it, in the order of the pages. -/
theorem Hosting.exists_arranged {remotePath : String} (isFolder : IsFolder keys remotePath)
    (unbroken : Unbroken keys (startOf remotePath)) : ∃ tree,
      Arranged hosting.order (startOf remotePath) tree ∧
        ∀ state, hosting.paging.ServesAt state remotePath tree := by
  by_cases top : keyOf remotePath = ""
  · have start : startOf "/" = startOf remotePath := startOf_congr (top ▸ by decide)
    obtain ⟨items, served, arranged⟩ := hosting.exists_folder start unbroken ""
    refine ⟨_, arranged, fun state => ⟨served state, ?_⟩⟩
    rw [if_pos ((isStoreRoot_eq_true_iff remotePath).mpr top)]
    exact ⟨rfl, rfl⟩
  · obtain ⟨missing, inside⟩ := isFolder.resolve_left top
    have start : startOf ("/" ++ keyOf remotePath) = startOf remotePath :=
      startOf_congr (by rw [keyOf_slash_append, keyOf_keyOf])
    obtain ⟨items, served, arranged⟩ :=
      hosting.exists_folder start unbroken (lastPiece (keyOf remotePath))
    refine ⟨_, arranged, fun state => ⟨served state, ?_⟩⟩
    rw [if_neg (mt (isStoreRoot_eq_true_iff remotePath).mp top)]
    exact (hosting.answer_metadata_probe top missing state).1 inside

/-- A folder is served with what lies below it. -/
theorem Hosting.exists_servesAt {remotePath : String} (isFolder : IsFolder keys remotePath)
    (unbroken : Unbroken keys (startOf remotePath)) : ∃ tree,
      Depicts keys (startOf remotePath) tree ∧
        ∀ state, hosting.paging.ServesAt state remotePath tree := by
  obtain ⟨tree, arranged, served⟩ := hosting.exists_arranged isFolder unbroken
  exact ⟨tree, hosting.depicts_of_arranged arranged (isStart_startOf remotePath) unbroken, served⟩

end

end ContentMount.Remote.Bucket
