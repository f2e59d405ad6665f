/-
This file defines finite remote trees and says which nodes a mounted tree shows for them.
-/

import ContentMount.Proofs.Path.Segments
import ContentMount.Remote.Entry
import ContentMount.Tree.Descriptor
import Mathlib.Data.List.Nodup

namespace ContentMount.Remote

open ContentMount.Path (IsName IsPlainName IsSegment)

/-- A remote tree is a file, or a folder with its live items in the order of its listing. -/
inductive Tree where
  | file (name path : String)
  | folder (name path : String) (items : List Tree)

namespace Tree

/-- A statement about all trees follows from folders inheriting it from their items. -/
@[elab_as_elim]
theorem induction {motive : Tree → Prop} (file : ∀ name path, motive (.file name path))
    (folder : ∀ name path items, (∀ item ∈ items, motive item) →
      motive (.folder name path items)) : ∀ tree, motive tree
  | .file name path => file name path
  | .folder name path items =>
    folder name path items fun item _ => induction file folder item

def name : Tree → String
  | .file name _ => name
  | .folder name _ _ => name

/-- The entry by which a listing reports the tree. -/
def entry : Tree → Entry
  | .file name path => ⟨.file, name, path⟩
  | .folder name path _ => ⟨.folder, name, path⟩

@[simp] theorem isLive_entry (tree : Tree) : tree.entry.isLive = true := by
  cases tree <;> rfl

@[simp] theorem name_entry (tree : Tree) : tree.entry.name = tree.name := by
  cases tree <;> rfl

/-- Everything below the tree has a name of the given kind. -/
inductive Named (isName : String → Prop) : Tree → Prop where
  | file (name path : String) : Named isName (.file name path)
  | folder (name path : String) {items : List Tree}
      (named : ∀ item ∈ items, isName item.name)
      (below : ∀ item ∈ items, Named isName item) : Named isName (.folder name path items)

theorem named_folder_iff {isName : String → Prop} {name path : String} {items : List Tree} :
    Named isName (.folder name path items) ↔
      (∀ item ∈ items, isName item.name) ∧ ∀ item ∈ items, item.Named isName := by
  constructor
  · rintro ⟨⟩
    exact ⟨‹_›, ‹_›⟩
  · intro named
    obtain ⟨here, below⟩ := named
    exact .folder name path here below

theorem Named.imp {isName isOther : String → Prop} (weaker : ∀ name, isName name → isOther name)
    {tree : Tree} (named : tree.Named isName) : tree.Named isOther := by
  induction named with
  | file name path => exact .file name path
  | folder name path here _ ih =>
      exact .folder name path (fun item member => weaker _ (here item member)) ih

theorem Named.segments {tree : Tree} (named : tree.Named IsName) : tree.Named IsSegment :=
  named.imp fun _ isName => isName.toIsSegment

/-- Siblings in the tree are told apart by their names. -/
inductive Distinct : Tree → Prop where
  | file (name path : String) : Distinct (.file name path)
  | folder (name path : String) {items : List Tree} (distinct : (items.map Tree.name).Nodup)
      (below : ∀ item ∈ items, Distinct item) : Distinct (.folder name path items)

theorem distinct_folder_iff {name path : String} {items : List Tree} :
    Distinct (.folder name path items) ↔
      (items.map Tree.name).Nodup ∧ ∀ item ∈ items, item.Distinct := by
  constructor
  · rintro ⟨⟩
    exact ⟨‹_›, ‹_›⟩
  · intro tree
    obtain ⟨distinct, below⟩ := tree
    exact .folder name path distinct below

/-- Siblings in a well-named tree have plain names, which tell them apart. -/
inductive WellNamed : Tree → Prop where
  | file (name path : String) : WellNamed (.file name path)
  | folder (name path : String) {items : List Tree}
      (plain : ∀ item ∈ items, IsPlainName item.name)
      (distinct : (items.map Tree.name).Nodup)
      (below : ∀ item ∈ items, WellNamed item) : WellNamed (.folder name path items)

theorem wellNamed_iff {tree : Tree} :
    tree.WellNamed ↔ tree.Named IsPlainName ∧ tree.Distinct := by
  constructor
  · intro wellNamed
    induction wellNamed with
    | file name path => exact ⟨.file name path, .file name path⟩
    | folder name path plain distinct _ ih =>
        exact ⟨.folder name path plain fun item member => (ih item member).1,
          .folder name path distinct fun item member => (ih item member).2⟩
  · intro both
    obtain ⟨named, distinct⟩ := both
    induction named with
    | file name path => exact .file name path
    | folder name path plain _ ih =>
        obtain ⟨here, below⟩ := distinct_folder_iff.mp distinct
        exact .folder name path plain here fun item member => ih item member (below item member)

theorem WellNamed.distinct {tree : Tree} (wellNamed : tree.WellNamed) : tree.Distinct :=
  (wellNamed_iff.mp wellNamed).2

theorem WellNamed.named {tree : Tree} (wellNamed : tree.WellNamed) : tree.Named IsName :=
  (wellNamed_iff.mp wellNamed).1.imp fun _ plain => plain.toIsName

/-- A tree has a folder when it is the folder itself, or when one of its items has it. -/
inductive HasFolder : Tree → String → List Tree → Prop where
  | here (name path : String) (items : List Tree) : HasFolder (.folder name path items) path items
  | down (name path : String) {items : List Tree} {item : Tree} (member : item ∈ items)
      {inner : String} {others : List Tree} (inside : HasFolder item inner others) :
      HasFolder (.folder name path items) inner others

mutual

/-- The number of files in the tree. -/
def fileCount : Tree → Nat
  | .file .. => 1
  | .folder _ _ items => fileCounts items

def fileCounts : List Tree → Nat
  | [] => 0
  | item :: rest => item.fileCount + fileCounts rest

end

mutual

/-- The number of folders in the tree, itself included. -/
def folderCount : Tree → Nat
  | .file .. => 0
  | .folder _ _ items => 1 + folderCounts items

def folderCounts : List Tree → Nat
  | [] => 0
  | item :: rest => item.folderCount + folderCounts rest

end

mutual

/-- The paths of the folders of the tree, each folder before those inside it. -/
def folderPaths : Tree → List String
  | .file .. => []
  | .folder _ path items => path :: folderPathsOf items

def folderPathsOf : List Tree → List String
  | [] => []
  | item :: rest => item.folderPaths ++ folderPathsOf rest

end

theorem folderPathsOf_append (items others : List Tree) :
    folderPathsOf (items ++ others) = folderPathsOf items ++ folderPathsOf others := by
  induction items with
  | nil => rfl
  | cons item rest ih =>
      rw [List.cons_append, folderPathsOf, ih, folderPathsOf, List.append_assoc]

theorem mem_folderPathsOf {items : List Tree} {path : String} :
    path ∈ folderPathsOf items ↔ ∃ item ∈ items, path ∈ item.folderPaths := by
  induction items with
  | nil => simp [folderPathsOf]
  | cons item rest ih => simp [folderPathsOf, ih]

theorem exists_hasFolder {tree : Tree} {path : String} (member : path ∈ tree.folderPaths) :
    ∃ items, tree.HasFolder path items := by
  induction tree using Tree.induction with
  | file name source => simp [folderPaths] at member
  | folder name top items ih =>
      rw [folderPaths, List.mem_cons, mem_folderPathsOf] at member
      rcases member with rfl | ⟨item, among, inside⟩
      · exact ⟨items, .here name path items⟩
      · obtain ⟨others, has⟩ := ih item among inside
        exact ⟨others, .down name top among has⟩

/-- The same tree under another name. -/
def rename (label : String) : Tree → Tree
  | .file _ path => .file label path
  | .folder _ path items => .folder label path items

theorem rename_name (tree : Tree) : tree.rename tree.name = tree := by
  cases tree <;> rfl

/-- The node that stands for the tree under a label. -/
def node (label : String) : Tree → Descriptor
  | .file .. => .file label
  | .folder .. => .folder label

/-- The nodes directly below. A file has one that stands for its content. -/
def family : Tree → List Descriptor
  | .file _ path => [.content path]
  | .folder _ _ items => items.map fun item => item.node item.name

@[simp] theorem name_node (label : String) (tree : Tree) : (tree.node label).name = label := by
  cases tree <;> rfl

/-- A labelled tree shows a node with its children at the end of a trail of names. -/
inductive Shows : String → Tree → List String → Descriptor → List Descriptor → Prop where
  /-- The trail without a name ends at the tree itself. -/
  | here (label : String) (tree : Tree) : Shows label tree [] (tree.node label) tree.family
  /-- Below a file is its content. -/
  | content (label name path : String) :
      Shows label (.file name path) [Name.content] (.content path) []
  /-- Below a folder are its items, each labelled with its name. -/
  | down (label name path : String) {items : List Tree} {item : Tree} (member : item ∈ items)
      {trail : List String} {node : Descriptor} {children : List Descriptor}
      (shown : Shows item.name item trail node children) :
      Shows label (.folder name path items) (item.name :: trail) node children

theorem isPlainName_content : IsPlainName Name.content := by
  decide

theorem isName_content : IsName Name.content :=
  isPlainName_content.toIsName

theorem isSegment_content : IsSegment Name.content :=
  isName_content.toIsSegment

/-- A tree with distinct siblings shows one node at most at the end of a trail. -/
theorem Shows.unique {tree : Tree} (distinct : tree.Distinct) {label : String}
    {trail : List String} {first second : Descriptor} {children others : List Descriptor}
    (one : Shows label tree trail first children) (two : Shows label tree trail second others) :
    first = second ∧ children = others := by
  induction one with
  | here label tree => cases two; exact ⟨rfl, rfl⟩
  | content label name path => cases two; exact ⟨rfl, rfl⟩
  | @down label name path items item member trail node children _ ih =>
      obtain ⟨here, below⟩ := distinct_folder_iff.mp distinct
      generalize start : item.name = head at two
      cases two with
      | @down _ _ _ _ other otherMember _ _ _ shown =>
          have same : item = other := List.inj_on_of_nodup_map here member otherMember start
          subst same
          exact ih (below item member) shown

/-- A child of a shown node is shown at the end of the trail that goes on with its name. -/
theorem Shows.child {label : String} {tree : Tree} {trail : List String} {node : Descriptor}
    {children : List Descriptor} (shown : Shows label tree trail node children)
    {child : Descriptor} (member : child ∈ children) :
    ∃ grandchildren, Shows label tree (trail ++ [child.name]) child grandchildren := by
  induction shown with
  | here label tree =>
      cases tree with
      | file name path =>
          rw [family, List.mem_singleton] at member
          subst member
          exact ⟨[], .content label name path⟩
      | folder name path items =>
          obtain ⟨item, inside, rfl⟩ := List.mem_map.mp member
          rw [name_node]
          exact ⟨item.family, .down label name path inside (.here item.name item)⟩
  | content label name path => simp at member
  | down label name path inside _ ih =>
      obtain ⟨grandchildren, shown⟩ := ih member
      exact ⟨grandchildren, .down label name path inside shown⟩

/-- A node at the end of a trail with a last name is a child of a shown node. -/
theorem Shows.parent {label : String} {tree : Tree} {trail : List String} {name : String}
    {node : Descriptor} {children : List Descriptor}
    (shown : Shows label tree (trail ++ [name]) node children) :
    ∃ parent siblings, Shows label tree trail parent siblings ∧ node ∈ siblings ∧
      node.name = name := by
  generalize whole : trail ++ [name] = long at shown
  induction shown generalizing trail with
  | here label tree => simp at whole
  | content label fileName path =>
      obtain ⟨rfl, rfl⟩ : trail = [] ∧ name = Name.content := by
        simpa [List.append_eq_singleton_iff] using whole
      exact ⟨_, _, .here label (.file fileName path), List.mem_singleton.mpr rfl, rfl⟩
  | @down label folderName path items item member rest node children shown ih =>
      cases trail with
      | nil =>
          obtain ⟨rfl, rfl⟩ : name = item.name ∧ rest = [] := by simpa using whole
          cases shown
          exact ⟨_, _, .here label (.folder folderName path items),
            List.mem_map.mpr ⟨item, member, rfl⟩, name_node _ _⟩
      | cons head trail =>
          obtain ⟨rfl, rfl⟩ : head = item.name ∧ trail ++ [name] = rest := by simpa using whole
          obtain ⟨parent, siblings, parentShown, among, named⟩ := ih rfl
          exact ⟨parent, siblings, .down label folderName path member parentShown, among, named⟩

/-- The names on a trail to a shown node are those of the tree, or that of a content node. -/
theorem Shows.named {isName : String → Prop} (content : isName Name.content) {tree : Tree}
    (named : tree.Named isName) {label : String} {trail : List String} {node : Descriptor}
    {children : List Descriptor} (shown : Shows label tree trail node children) :
    ∀ name ∈ trail, isName name := by
  induction shown with
  | here label tree => simp
  | content label name path => simpa using content
  | @down label name path items item member trail node children _ ih =>
      obtain ⟨here, below⟩ := named_folder_iff.mp named
      intro other inside
      rcases List.mem_cons.mp inside with rfl | later
      · exact here item member
      · exact ih (below item member) other later

/-- The names of the children of a shown node tell them apart. -/
theorem Shows.distinct {tree : Tree} (distinct : tree.Distinct) {label : String}
    {trail : List String} {node : Descriptor} {children : List Descriptor}
    (shown : Shows label tree trail node children) : (children.map Descriptor.name).Nodup := by
  induction shown with
  | here label tree =>
      cases distinct with
      | file name path => simp [family]
      | folder name path distinct below =>
          simpa [family, Function.comp_def] using distinct
  | content label name path => simp
  | @down label name path items item member trail node children _ ih =>
      exact ih ((distinct_folder_iff.mp distinct).2 item member)

end Tree

end ContentMount.Remote
