/-
This file states what a build makes of a remote tree: a snapshot that mirrors the tree.
-/

import ContentMount.Proofs.Build.Completion
import ContentMount.Proofs.Build.Mirror
import ContentMount.Proofs.Mount.Accepted

namespace ContentMount

open Remote

section

variable {σ : Type} {store : Store σ}

/-- A state serves a tree at a remote path. At the store root there is a folder, and at any other
path the store reports the entry of the tree. -/
def Remote.Paging.ServesAt (paging : Paging store) (state : σ) (remotePath : String)
    (tree : Tree) : Prop :=
  paging.Serves state tree ∧
    if Build.isStoreRoot remotePath then tree.entry.kind = .folder ∧ tree.entry.path = "/"
    else (store.answer (.metadata remotePath) state).1 = .ok (some tree.entry)

namespace Gathering

/-- What the answer to a lookup says about the root. A deleted entry counts as missing. -/
def lookedUp (remotePath : String) :
    Except RemoteError (Option Entry) → Except MountError (Option Entry)
  | .ok found => .ok (found.filter Entry.isLive)
  | .error (.notFound _) => .ok none
  | .error source => .error (.build remotePath source)

/-- A lookup finds the live entry of its answer. -/
theorem lookedUp_eq_some_iff {remotePath : String} {answer : Except RemoteError (Option Entry)}
    {entry : Entry} :
    lookedUp remotePath answer = .ok (some entry) ↔
      answer = .ok (some entry) ∧ entry.isLive = true := by
  rcases answer with error | found
  · cases error <;> simp [lookedUp]
  · simp [lookedUp, Option.filter_eq_some_iff]

/-- Below the store root the entry is looked up. -/
theorem run_lookup (mountPoint : String) {remotePath : String}
    (inside : Build.isStoreRoot remotePath = false) (state : σ) :
    (rootEntry mountPoint remotePath).run store state =
      (some (lookedUp remotePath (store.answer (.metadata remotePath) state).1),
        (store.answer (.metadata remotePath) state).2) := by
  rw [rootEntry, inside, if_neg Bool.false_ne_true, run_consult]
  simp only [askMetadata, Store.run, bind, Dialogue.bind, Dialogue.run]
  rcases store.answer (.metadata remotePath) state with ⟨error | found, next⟩
  · cases error <;> rfl
  · rfl

theorem run_rootEntry (mountPoint : String) {remotePath : String} {state : σ}
    {found : Option Entry} (inside : Build.isStoreRoot remotePath = false)
    (answered : (store.answer (.metadata remotePath) state).1 = .ok found) :
    (rootEntry mountPoint remotePath).run store state =
      (some (.ok (found.filter Entry.isLive)),
        (store.answer (.metadata remotePath) state).2) := by
  rw [run_lookup mountPoint inside, answered]
  rfl

theorem gathers_root_of_entry {mountPoint remotePath : String} {state next : σ} {found : Entry}
    {tree : Tree}
    (start : (rootEntry mountPoint remotePath).run store state = (some (.ok (some found)), next))
    (gathers : Gathers store (fun limit => entry (items limit) remotePath found) next tree) :
    Gathers store (fun limit => root limit mountPoint remotePath) state (some tree) := by
  obtain ⟨limit, final, done⟩ := gathers
  refine ⟨limit, final, ?_⟩
  beta_reduce at done ⊢
  rw [root, run_bind_of_ok start]
  dsimp only
  rw [run_bind_of_ok done, run_pure]

/-- A tree that is served is gathered from its root. The root of the store is named after the
mount point. -/
theorem gathers_root {paging : Paging store} {state : σ} {remotePath : String} {tree : Tree}
    (served : paging.ServesAt state remotePath tree) (mountPoint : String) :
    ∃ label, Gathers store (fun limit => root limit mountPoint remotePath) state
      (some (tree.rename label)) := by
  obtain ⟨serves, start⟩ := served
  cases top : Build.isStoreRoot remotePath with
  | true =>
      rw [top, if_pos rfl] at start
      cases serves with
      | file name path => exact absurd start.1 EntryKind.noConfusion
      | @folder name path items pages listed live below =>
          obtain rfl : path = "/" := start.2
          have found : (rootEntry mountPoint remotePath).run store state =
              (some (.ok (some ⟨.folder, Path.nameText mountPoint, "/"⟩)), state) := by
            rw [rootEntry, top]
            rfl
          have renamed := complete paging (.folder (Path.nameText mountPoint) "/" items) state
            remotePath (.folder _ _ listed live below)
          exact ⟨Path.nameText mountPoint, gathers_root_of_entry found renamed⟩
  | false =>
      rw [top, if_neg Bool.false_ne_true] at start
      have found := run_rootEntry mountPoint top start
      rw [Option.filter_some, if_pos tree.isLive_entry] at found
      have servedNext := serves.run (congrArg Prod.snd found)
      refine ⟨tree.name, ?_⟩
      rw [Tree.rename_name]
      exact gathers_root_of_entry found (complete paging tree _ remotePath servedNext)

end Gathering

namespace Snapshot

theorem run_build (limit : Nat) (mountPoint remotePath : String) (state : σ) :
    store.run (Snapshot.build limit mountPoint remotePath) state =
      let outcome := (Gathering.root limit mountPoint remotePath).run store state
      (outcome.1.map (Except.map (ofTree? mountPoint)), outcome.2) := by
  rw [build_eq, ← Gathering.run, Gathering.run_map]

theorem ofTree?_rename (mountPoint label : String) (tree : Tree) :
    ofTree? mountPoint (some (tree.rename label)) = empty.plant mountPoint tree := by
  rw [ofTree?, plant, Tree.placements_rename, plant]

/-- No build sends a request for content. -/
theorem requests_build (limit : Nat) (mountPoint remotePath : String) (state : σ) :
    ∀ request ∈ store.requests (Snapshot.build limit mountPoint remotePath) state,
      request.kind ≠ .download := by
  intro request member
  have asks : Dialogue.Asks Gathering.IsQuiet (Snapshot.build limit mountPoint remotePath) := by
    rw [build_eq, Gathering.map_eq]
    exact (Gathering.asks_root limit mountPoint remotePath).bind fun _ => .done _
  exact asks.of_mem_questions store.answer state member

/-- A build of a tree that is served ends with the tree at its mount point. The limit only has to
be great enough. -/
theorem build_plants {paging : Paging store} {state : σ} {remotePath : String} {tree : Tree}
    (served : paging.ServesAt state remotePath tree) (mountPoint : String) :
    ∃ enough, ∀ limit ≥ enough,
      (store.run (Snapshot.build limit mountPoint remotePath) state).1 =
        some (.ok (empty.plant mountPoint tree)) := by
  obtain ⟨label, limit, next, done⟩ := Gathering.gathers_root served mountPoint
  refine ⟨limit, fun greater more => ?_⟩
  have doneLater := Gathering.root_within more mountPoint remotePath state _ _ done
  rw [run_build, doneLater]
  exact congrArg (fun snapshot => some (Except.ok snapshot)) (ofTree?_rename _ label tree)

/-- A build with a greater limit ends as one that has ended, in the same state. -/
theorem build_within {limit greater : Nat} (more : limit ≤ greater) {mountPoint remotePath : String}
    {state next : σ} {outcome : Except MountError Snapshot}
    (done : store.run (Snapshot.build limit mountPoint remotePath) state = (some outcome, next)) :
    store.run (Snapshot.build greater mountPoint remotePath) state = (some outcome, next) := by
  rw [run_build] at done ⊢
  rcases ended : (Gathering.root limit mountPoint remotePath).run store state with
    ⟨_ | result, last⟩
  · rw [ended] at done
    exact absurd (Prod.mk.inj done).1 (by simp)
  · rw [ended] at done
    rw [Gathering.root_within more mountPoint remotePath state _ _ ended]
    exact done

/-- A greater limit does not change what a build has ended with. -/
theorem build_stable {limit greater : Nat} (more : limit ≤ greater) {mountPoint remotePath : String}
    {state : σ} {outcome : Except MountError Snapshot}
    (done : (store.run (Snapshot.build limit mountPoint remotePath) state).1 = some outcome) :
    (store.run (Snapshot.build greater mountPoint remotePath) state).1 = some outcome := by
  rcases ran : store.run (Snapshot.build limit mountPoint remotePath) state with ⟨ended, next⟩
  rw [ran] at done
  obtain rfl : ended = some outcome := done
  rw [build_within more ran]

/-- A build of a tree that is served ends with nothing but the tree at its mount point. -/
theorem eq_of_build {paging : Paging store} {state : σ} {mountPoint remotePath : String}
    {tree : Tree} (served : paging.ServesAt state remotePath tree) {limit : Nat}
    {outcome : Except MountError Snapshot}
    (done : (store.run (Snapshot.build limit mountPoint remotePath) state).1 = some outcome) :
    outcome = .ok (empty.plant mountPoint tree) := by
  obtain ⟨enough, ends⟩ := build_plants served mountPoint
  have first := build_stable (Nat.le_max_left limit enough) done
  have second := ends (max limit enough) (Nat.le_max_right limit enough)
  exact Option.some.inj (first.symm.trans second)

/-- A well-named tree is mirrored at every accepted mount point. -/
theorem mirrors_accepted {config : MountConfig} (accepted : config.validatePaths = .ok ())
    {tree : Tree} (wellNamed : tree.WellNamed) :
    (empty.plant config.mountPoint tree).Mirrors config.mountPoint tree := by
  obtain ⟨below, plain, isText⟩ := MountConfig.mountPoint_of_accepted accepted
  have mirrors := mirrors_plant wellNamed.named.segments wellNamed.distinct below
    plain.names.segments
  rwa [isText] at mirrors

/-- A build of a tree that is served ends, and its snapshot mirrors the tree. No content is
fetched. -/
theorem build_mirrors {paging : Paging store} {config : MountConfig}
    (accepted : config.validatePaths = .ok ()) {tree : Tree} (wellNamed : tree.WellNamed)
    {state : σ} {remotePath : String} (served : paging.ServesAt state remotePath tree) :
    ∃ snapshot : Snapshot, snapshot.Mirrors config.mountPoint tree ∧
      ∃ enough, ∀ limit ≥ enough,
        (store.run (Snapshot.build limit config.mountPoint remotePath) state).1 =
            some (.ok snapshot) ∧
          ∀ request ∈ store.requests (Snapshot.build limit config.mountPoint remotePath) state,
            request.kind ≠ .download := by
  obtain ⟨enough, ends⟩ := build_plants served config.mountPoint
  exact ⟨_, mirrors_accepted accepted wellNamed, enough,
    fun limit more => ⟨ends limit more, requests_build _ _ _ state⟩⟩

end Snapshot

end

/-! ## A store with two pages -/

/-- The pages that a listing of the sample store stands before. -/
def samplePages : Listing → List (List Entry)
  | .first path =>
    if path == "/" then
      [[⟨.deleted, "old", "/old"⟩, ⟨.folder, "notes", "/notes"⟩], [⟨.file, "B.txt", "/b.txt"⟩]]
    else [[⟨.file, "a.txt", "/notes/a.txt"⟩]]
  | .after _ => [[⟨.file, "B.txt", "/b.txt"⟩]]

/-- The first of some pages, with a cursor to the others. -/
def firstPage (pages : List (List Entry)) : Page :=
  ⟨pages.headD [], "more", !pages.tail.isEmpty⟩

/-- A store with a folder and two files. Its root is listed on two pages. -/
def sampleStore : Store Unit where
  name := "sample"
  answer request state := match request with
    | .list path => (.ok (firstPage (samplePages (.first path))), state)
    | .listNext cursor => (.ok (firstPage (samplePages (.after cursor))), state)
    | .metadata path => (.error (.notFound path), state)
    | .download path => (.error (.notFound path), state)

/-- The sample store always brings the same pages. -/
def samplePaging : Paging sampleStore where
  holds _ listing pages := pages = samplePages listing
  page := by
    rintro state listing _ rfl
    have split : samplePages listing =
        (samplePages listing).headD [] :: (samplePages listing).tail := by
      cases listing with
      | first path => by_cases top : path = "/" <;> simp [samplePages, top]
      | after cursor => rfl
    refine ⟨_, _, "more", (), split, by cases listing <;> rfl, fun more => ?_⟩
    cases listing with
    | first path =>
        by_cases top : path = "/"
        · rw [top]
          rfl
        · simp [samplePages, top] at more
    | after cursor => exact absurd rfl more
  spends _ _ := False
  keeps held _ _ := ⟨_, rfl, held⟩
  fresh _ _ _ _ _ _ := not_false

/-- The tree that the sample store serves. -/
def sampleTree : Tree :=
  .folder "" "/" [.folder "notes" "/notes" [.file "a.txt" "/notes/a.txt"], .file "B.txt" "/b.txt"]

theorem sampleTree_wellNamed : sampleTree.WellNamed := by
  have notes : (Tree.folder "notes" "/notes" [.file "a.txt" "/notes/a.txt"]).WellNamed :=
    .folder _ _ (by decide) (by decide) (by simpa using .file _ _)
  exact .folder _ _ (by decide) (by decide) (by simpa using ⟨notes, .file _ _⟩)

theorem sampleTree_servedAt : samplePaging.ServesAt () "/" sampleTree := by
  have notes : samplePaging.Serves () (.folder "notes" "/notes" [.file "a.txt" "/notes/a.txt"]) :=
    .folder _ _ rfl rfl (by simpa using .file _ _)
  exact ⟨.folder _ _ rfl rfl (by simpa using ⟨notes, .file _ _⟩), rfl, rfl⟩

theorem validatePaths_default : ({} : MountConfig).validatePaths = .ok () := by
  decide

/-- The tree of the sample store is mirrored at the default mount point. -/
theorem build_mirrors_sampleTree :
    ∃ snapshot : Snapshot, snapshot.Mirrors "/content/dropbox" sampleTree ∧
      ∃ enough, ∀ limit ≥ enough,
        (sampleStore.run (Snapshot.build limit "/content/dropbox" "/") ()).1 =
            some (.ok snapshot) ∧
          ∀ request ∈ sampleStore.requests (Snapshot.build limit "/content/dropbox" "/") (),
            request.kind ≠ .download :=
  Snapshot.build_mirrors validatePaths_default sampleTree_wellNamed sampleTree_servedAt

end ContentMount
