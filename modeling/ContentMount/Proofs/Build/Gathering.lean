/-
This file separates the two works of a build. It gathers a remote tree by asking the store, and
it adds the tree to a snapshot.
-/

import ContentMount.Proofs.Build.Planting
import ContentMount.Tree.Build

namespace ContentMount

open Remote

/-- A gathering asks the store for a remote tree. It fails and gives up as a build does. -/
abbrev Gathering : Type → Type := ExceptT MountError (OptionT Asking)

namespace Gathering

/-- Gives up without a result. -/
def giveUp {α : Type} : Gathering α :=
  (OptionT.fail : OptionT Asking _)

/-- Asks the store. A refusal names the remote path that is being read. -/
def consult {α : Type} (path : String) (question : Asking (Except RemoteError α)) : Gathering α :=
  (do
    match ← (question : Asking _) with
    | .ok result => return some (.ok result)
    | .error source => return some (.error (.build path source)) : Asking _)

/-- Gathers an entry with everything below it. The given function gathers listings. -/
def entry (list : String → Listing → Gathering (List Tree)) (path : String) (entry : Entry) :
    Gathering Tree :=
  match entry.kind with
  | .file => return .file entry.name entry.path
  | .folder | .deleted => do
    let items ← list path (.first entry.path)
    return .folder entry.name entry.path items

/-- Gathers the entries of a page one after the other. The path is that of their folder. -/
def entries (list : String → Listing → Gathering (List Tree)) (path : String)
    (entries : List Entry) : Gathering (List Tree) :=
  entries.mapM fun entry => Gathering.entry list (Path.below path entry.name) entry

theorem entries_cons (list : String → Listing → Gathering (List Tree)) (path : String)
    (entry : Entry) (rest : List Entry) :
    entries list path (entry :: rest) = do
      let tree ← Gathering.entry list (Path.below path entry.name) entry
      let trees ← entries list path rest
      return tree :: trees :=
  List.mapM_cons

/-- Gathers the items of a folder from one of its pages on. -/
def items : Nat → String → Listing → Gathering (List Tree)
  | 0, _, _ => giveUp
  | limit + 1, path, listing => do
    let page ← consult path (askPage listing)
    let front ← entries (items limit) path page.live
    if page.hasMore then
      let others ← items limit path (.after page.cursor)
      return front ++ others
    else
      return front

/-- Gathers the entry to start from. There is none when the store reports that nothing is
there. -/
def rootEntry (mountPoint remotePath : String) : Gathering (Option Entry) :=
  if Build.isStoreRoot remotePath then
    return some ⟨.folder, Path.nameText mountPoint, "/"⟩
  else
    consult remotePath (do
      match ← askMetadata remotePath with
      | .ok entry => return .ok (entry.filter Entry.isLive)
      | .error (.notFound _) => return .ok none
      | .error source => return .error source)

/-- Gathers the whole tree at a remote path. -/
def root (limit : Nat) (mountPoint remotePath : String) : Gathering (Option Tree) := do
  match ← rootEntry mountPoint remotePath with
  | none => return none
  | some entry => return some (← Gathering.entry (items limit) remotePath entry)

/-- A gathering goes on with the result of another unless that fails or gives up. -/
theorem bind_eq {α β : Type} (first : Gathering α) (second : α → Gathering β) :
    first >>= second = Dialogue.bind first fun outcome => match outcome with
      | some (.ok result) => second result
      | some (.error error) => .done (some (.error error))
      | none => .done none := by
  refine congrArg (Dialogue.bind first) (funext fun outcome => ?_)
  rcases outcome with _ | _ | _ <;> rfl

theorem map_eq {α β : Type} (f : α → β) (first : Gathering α) :
    f <$> first = Dialogue.bind first fun outcome => .done (outcome.map (Except.map f)) := by
  refine congrArg (Dialogue.bind first) (funext fun outcome => ?_)
  rcases outcome with _ | _ | _ <;> rfl

/-- Programs that follow an entry need to agree on trees with the name of the entry only. -/
theorem entry_bind_congr {α : Type} (list : String → Listing → Gathering (List Tree))
    (path : String) (entry : Entry) {first second : Tree → Gathering α}
    (agree : ∀ tree : Tree, tree.name = entry.name → first tree = second tree) :
    Gathering.entry list path entry >>= first = Gathering.entry list path entry >>= second := by
  unfold Gathering.entry
  cases entry.kind with
  | file =>
      simp only [pure_bind]
      exact agree _ rfl
  | folder =>
      simp only [bind_assoc, pure_bind]
      exact bind_congr fun items => agree _ rfl
  | deleted =>
      simp only [bind_assoc, pure_bind]
      exact bind_congr fun items => agree _ rfl

end Gathering

namespace Build

/-- What a build knows after it has added a tree. -/
def planted (snapshot : Snapshot) (key : String) (tree : Tree) : Descriptor × Snapshot :=
  (tree.node (Path.nameText key), snapshot.plant key tree)

/-- What a build knows after it has added the items of a folder. -/
def plantedItems (snapshot : Snapshot) (key : String) (items : List Tree) :
    List Descriptor × Snapshot :=
  (Tree.childrenAt key items, snapshot.plantItems key items)

theorem plantedItems_cons (snapshot : Snapshot) (key : String) (item : Tree)
    (rest : List Tree) :
    plantedItems snapshot key (item :: rest) =
      let first := planted snapshot (Path.below key item.name) item
      let others := plantedItems first.2 key rest
      (first.1 :: others.1, others.2) := by
  rw [plantedItems, Snapshot.plantItems_cons]
  rfl

theorem plantedItems_append (snapshot : Snapshot) (key : String) (items others : List Tree) :
    plantedItems snapshot key (items ++ others) =
      let first := plantedItems snapshot key items
      let second := plantedItems first.2 key others
      (first.1 ++ second.1, second.2) := by
  rw [plantedItems, Snapshot.plantItems_append, Tree.childrenAt, List.map_append]
  rfl

theorem bind_run {α β : Type} (first : Build α) (second : α → Build β) (snapshot : Snapshot) :
    (first >>= second) snapshot =
      (first snapshot >>= fun result => second result.1 result.2 : Gathering (β × Snapshot)) :=
  rfl

/-- Asking leaves the snapshot alone. -/
theorem consult_eq {α : Type} (path : String) (question : Asking (Except RemoteError α))
    (snapshot : Snapshot) :
    consult path question snapshot =
      (fun result => (result, snapshot)) <$> Gathering.consult path question := by
  unfold consult Gathering.consult
  induction question with
  | done result => cases result <;> rfl
  | ask request next ih => exact congrArg (Dialogue.ask request) (funext ih)

theorem addFile_eq (key name path : String) (snapshot : Snapshot) :
    addFile key path snapshot =
      (pure (planted snapshot key (.file name path)) : Gathering _) := by
  rw [planted, Snapshot.plant_file]
  rfl

theorem addFolder_eq (key name path : String) (items : List Tree) (snapshot : Snapshot) :
    addFolder key (plantedItems snapshot key items).1 (plantedItems snapshot key items).2 =
      (pure (planted snapshot key (.folder name path items)) : Gathering _) := by
  rw [planted, Snapshot.plant_folder]
  rfl

section

variable {list : String → String → Listing → Build (List Descriptor)}
  {gather : String → Listing → Gathering (List Tree)}

/-- Adding an entry is gathering its tree and adding the tree. -/
theorem addEntry_eq
    (agree : ∀ key path listing snapshot,
      list key path listing snapshot = plantedItems snapshot key <$> gather path listing)
    (key path : String) (entry : Entry) (snapshot : Snapshot) :
    addEntry list key path entry snapshot =
      planted snapshot key <$> Gathering.entry gather path entry := by
  have folder : (list key path (.first entry.path) >>= addFolder key) snapshot =
      planted snapshot key <$> (do
        let items ← gather path (.first entry.path)
        return .folder entry.name entry.path items : Gathering Tree) := by
    rw [bind_run, agree, map_bind, bind_map_left]
    apply bind_congr
    intro items
    rw [addFolder_eq key entry.name entry.path, map_pure]
  unfold addEntry Gathering.entry
  cases entry.kind with
  | file => exact addFile_eq key entry.name entry.path snapshot
  | folder => exact folder
  | deleted => exact folder

/-- Adding the entries of a page is gathering their trees and adding the trees. -/
theorem addEntries_eq
    (agree : ∀ key path listing snapshot,
      list key path listing snapshot = plantedItems snapshot key <$> gather path listing)
    (key path : String) (entries : List Entry) (snapshot : Snapshot) :
    (entries.mapM fun entry =>
        addEntry list (Path.below key entry.name) (Path.below path entry.name) entry) snapshot =
      plantedItems snapshot key <$> Gathering.entries gather path entries := by
  induction entries generalizing snapshot with
  | nil => rfl
  | cons entry rest ih =>
      rw [List.mapM_cons, Gathering.entries_cons, bind_run, addEntry_eq agree, bind_map_left,
        map_bind]
      apply Gathering.entry_bind_congr
      intro tree named
      rw [bind_run, ih, bind_map_left, map_bind]
      apply bind_congr
      intro trees
      rw [map_pure, plantedItems_cons, named]
      rfl

end

/-- Reading a folder is gathering its items and adding them. -/
theorem readFolder_eq (limit : Nat) (key path : String) (listing : Listing)
    (snapshot : Snapshot) :
    readFolder limit key path listing snapshot =
      plantedItems snapshot key <$> Gathering.items limit path listing := by
  induction limit generalizing key path listing snapshot with
  | zero => rfl
  | succ limit ih =>
      rw [readFolder, Gathering.items, bind_run, consult_eq, bind_map_left, map_bind]
      apply bind_congr
      intro page
      rw [bind_run, addEntries_eq ih, bind_map_left, map_bind]
      apply bind_congr
      intro items
      cases page.hasMore with
      | false => rfl
      | true =>
          simp only [if_true]
          rw [bind_run, ih, bind_map_left, map_bind]
          apply bind_congr
          intro others
          rw [map_pure, plantedItems_append]
          rfl

/-- The entry to start from is found without a snapshot. -/
theorem rootEntry_eq (mountPoint remotePath : String) (snapshot : Snapshot) :
    rootEntry mountPoint remotePath snapshot =
      (fun entry => (entry, snapshot)) <$> Gathering.rootEntry mountPoint remotePath := by
  unfold rootEntry Gathering.rootEntry
  split
  · rfl
  · exact consult_eq remotePath _ snapshot

end Build

/-- A snapshot of nothing is empty, and the snapshot of a tree holds it below the mount point. -/
def Snapshot.ofTree? (mountPoint : String) : Option Tree → Snapshot
  | none => Snapshot.empty
  | some tree => Snapshot.empty.plant mountPoint tree

/-- The steps of a build gather a tree and add it to the empty snapshot. -/
theorem Build.steps_eq (limit : Nat) (mountPoint remotePath : String) :
    Build.steps limit mountPoint remotePath Snapshot.empty =
      (fun tree => ((), Snapshot.ofTree? mountPoint tree)) <$>
        Gathering.root limit mountPoint remotePath := by
  rw [Build.steps, Gathering.root, bind_run, rootEntry_eq, bind_map_left, map_bind]
  apply bind_congr
  intro entry
  cases entry with
  | none => rfl
  | some entry =>
      have forgotten : (discard (addEntry (readFolder limit) mountPoint remotePath entry) :
          Build Unit) Snapshot.empty = (fun result => ((), result.2)) <$>
            (addEntry (readFolder limit) mountPoint remotePath entry Snapshot.empty :
              Gathering _) := rfl
      simp only [forgotten]
      rw [addEntry_eq (readFolder_eq limit), map_bind]
      simp only [Functor.map_map, map_pure, bind_pure_comp]
      rfl

/-- A build gathers a tree and makes a snapshot of it. -/
theorem Snapshot.build_eq (limit : Nat) (mountPoint remotePath : String) :
    Snapshot.build limit mountPoint remotePath =
      (Snapshot.ofTree? mountPoint <$> Gathering.root limit mountPoint remotePath :
        Gathering Snapshot) := by
  have last : Snapshot.build limit mountPoint remotePath =
      (Prod.snd <$> Build.steps limit mountPoint remotePath Snapshot.empty :
        Gathering Snapshot) := by
    rw [Gathering.map_eq]
    rfl
  rw [last, Build.steps_eq, Functor.map_map]

end ContentMount
