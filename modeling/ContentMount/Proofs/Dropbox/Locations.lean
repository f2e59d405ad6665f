/-
This file says when a mount of the files service asks for the real paths. It does so exactly when no
path is left out of the reports about what lies below the root folder.
-/

import ContentMount.Proofs.Build.Soundness
import ContentMount.Proofs.Content.Properties
import ContentMount.Proofs.Content.Reach
import ContentMount.Proofs.Dropbox.Arguments
import ContentMount.Proofs.Dropbox.Hosting
import ContentMount.Proofs.Mount.Activation

namespace ContentMount

open Remote ContentMount.Path

/-! ## The data of files -/

/-- A view fetches the files of a tree when each of them has its data below the mount point, and to
read the data is one download from the path of the file. -/
def View.Fetches {σ : Type} (view : View) (store : Store σ) (tree : Tree) : Prop :=
  ∀ trail name path,
    Tree.Shows (lastPiece view.mountPoint.text) tree trail (.file name) [.content path] →
      ∃ property,
        view.property (view.mountPoint.follow (trail ++ [Name.content, Name.data])).text =
          .ok property ∧
        ∀ cells state, store.requests (property.first.read.start cells) state = [.download path]

theorem View.fetches_of_mirrorsAt {σ : Type} {store : Store σ} {snapshot : Snapshot}
    {mount : Path} {tree : Tree} (mirror : snapshot.MirrorsAt mount tree) :
    View.Fetches ⟨snapshot, mount⟩ store tree := by
  intro trail name path shown
  obtain ⟨children, contentShown⟩ := shown.child List.mem_cons_self
  change Tree.Shows _ tree (trail ++ [Name.content]) (.content path) children at contentShown
  have dataPlain : IsPlainName Name.data := by decide
  have names := mirror.names_follow contentShown
  have leads : mount.follow (trail ++ [Name.content, Name.data]) =
      (mount.follow (trail ++ [Name.content])).child Name.data := by
    rw [← follow_append_singleton, List.append_assoc]
    rfl
  obtain ⟨property, held, first⟩ := Node.property?_data (mount.follow trail).text path
  refine ⟨property, ?_, fun cells state => ?_⟩
  · have found := View.property?_text_child names (mirror.nodeAt?_follow contentShown)
      dataPlain.toIsName
    rw [held] at found
    rw [View.property, leads, found]
    rfl
  · rw [first, Value.start_read_deferred]
    rfl

/-- A file that is mounted itself is fetched from its own path only. -/
theorem View.path_eq_of_fetches {σ : Type} {store : Store σ} {mount : Path} (below : mount ≠ root)
    (names : mount.HasNames) {name path other source : String}
    (fetches : View.Fetches ⟨Snapshot.empty.plant mount.text (.file other source), mount⟩ store
      (.file name path)) (state : σ) : source = path := by
  have mirror := Snapshot.mirrorsAt_plant (.file other source) below names
  have own : View.Fetches ⟨Snapshot.empty.plant mount.text (.file other source), mount⟩ store
      (.file other source) := fetches_of_mirrorsAt mirror
  obtain ⟨property, held, asks⟩ := fetches [] _ path (.here _ _)
  obtain ⟨ownProperty, ownHeld, ownAsks⟩ := own [] _ source (.here _ _)
  obtain rfl := Except.ok.inj (held.symm.trans ownHeld)
  have same := (ownAsks Cells.empty state).symm.trans (asks Cells.empty state)
  exact Request.download.inj (List.singleton_inj.mp same)

/-- A mount follows a tree when it ends, lists each folder of the tree by its path and nothing else,
and fetches each file from its path. -/
def Mount.FollowsTree {σ : Type} (store : Store σ) (config : MountConfig) (tree : Tree)
    (state : σ) : Prop :=
  ∃ mount : Mount,
    (∃ enough, ∀ limit ≥ enough,
      (store.run (Mount.activate limit config) state).1 = some (.ok mount) ∧
        InOrder config.remotePath (some tree)
          (store.transcript (Mount.activate limit config) state)) ∧
      mount.view.Fetches store tree

namespace Remote.Dropbox

namespace Hosting

variable {σ : Type} {transport : Transport σ} {client : Client} {tree : Tree}

/-! ## Roots -/

/-- A build finds an entry of the kind of the tree at its root. Below the store root it is the one
that is taken from the report. -/
theorem exists_start {remotePath : String}
    (hosting : Hosting transport.web client remotePath tree) (mountPoint : String) (state : σ) :
    ∃ found next,
      (Gathering.rootEntry mountPoint remotePath).run (storeOf transport client) state =
        (some (.ok (some found)), next) ∧
      found.kind = tree.entry.kind ∧
      (Build.isStoreRoot remotePath = false → found = hosting.root.entry) := by
  cases inside : Build.isStoreRoot remotePath with
  | true =>
      obtain ⟨name, items, rfl⟩ := hosting.top inside
      refine ⟨⟨.folder, Path.nameText mountPoint, "/"⟩, state, ?_, rfl, by simp⟩
      rw [Gathering.rootEntry, if_pos inside]
      rfl
  | false =>
      obtain ⟨about, -, -⟩ := hosting.below inside
      have live : hosting.root.entry.isLive = true := by
        rw [← tree.isLive_entry, Entry.isLive, Entry.isLive, ← about.kind]
        rfl
      have started := Gathering.run_rootEntry mountPoint inside
        (hosting.answer_metadata inside state)
      rw [Option.filter_some, if_pos live] at started
      exact ⟨_, _, started, about.kind, fun _ => rfl⟩

section

variable {config : MountConfig} (hosting : Hosting transport.web client config.remotePath tree)

/-- What a mount shows was gathered as a tree that is as the service lists it. Below the store root
it has the entry that is taken from the report. -/
theorem exists_confirmed (accepted : config.validatePaths = .ok ()) {limit : Nat} {state : σ}
    {mount : Mount}
    (activated : ((storeOf transport client).run (Mount.activate limit config) state).1 =
      some (.ok mount)) : ∃ gathered : Tree,
      ((Gathering.root limit config.mountPoint config.remotePath).run (storeOf transport client)
        state).1 = some (.ok (some gathered)) ∧
      mount.view =
        .ofSnapshot (Snapshot.empty.plant config.mountPoint gathered) config.mountPoint ∧
      hosting.paging.Confirms gathered ∧ gathered.entry.kind = tree.entry.kind ∧
      (Build.isStoreRoot config.remotePath = false → gathered.entry = hosting.root.entry) := by
  obtain ⟨found?, done, isView⟩ := Mount.exists_root accepted activated
  obtain ⟨found, next, start, isKind, isRoot⟩ := hosting.exists_start config.mountPoint state
  have read : ∃ tree, found? = some tree ∧ tree.entry = found ∧ hosting.paging.Confirms tree :=
    (Gathering.brings_root start limit).of_run done
  obtain ⟨gathered, rfl, rfl, confirms⟩ := read
  exact ⟨gathered, done, isView, confirms, isKind, isRoot⟩

/-- The tree that is gathered is the hosted one, up to the name at the root, when its requests are
in order for that tree and its files are fetched. -/
theorem exists_gathered (accepted : config.validatePaths = .ok ()) {limit : Nat} {state : σ}
    {mount : Mount}
    (activated : ((storeOf transport client).run (Mount.activate limit config) state).1 =
      some (.ok mount))
    (inOrder : InOrder config.remotePath (some tree)
      ((storeOf transport client).transcript (Mount.activate limit config) state))
    (fetches : mount.view.Fetches (storeOf transport client) tree) :
    ∃ gathered : Tree, hosting.paging.Confirms gathered ∧
      gathered.entry.path = tree.entry.path ∧
      (∀ path items, tree.HasFolder path items → gathered.HasFolder path items) ∧
      (Build.isStoreRoot config.remotePath = false →
        gathered.entry = hosting.root.entry) := by
  obtain ⟨gathered, done, isView, confirms, isKind, isRoot⟩ :=
    hosting.exists_confirmed accepted activated
  rw [Mount.transcript_activate accepted, Snapshot.transcript_build] at inOrder
  obtain ⟨exchanges, gatheredVisits, visits⟩ := Gathering.exists_visits done inOrder
  refine ⟨gathered, confirms, ?_⟩
  cases tree with
  | file name path =>
      cases gathered with
      | folder => exact absurd isKind EntryKind.noConfusion
      | file other source =>
          obtain ⟨below, plain, isText⟩ := MountConfig.mountPoint_of_accepted accepted
          rw [isView, View.ofSnapshot, ← isText, parse_text plain.names] at fetches
          refine ⟨View.path_eq_of_fetches below plain.names fetches state, ?_, isRoot⟩
          rintro inner others ⟨⟩
  | folder name path items =>
      cases gathered with
      | file => exact absurd isKind EntryKind.noConfusion
      | folder other source others =>
          obtain ⟨rfl, rfl⟩ := gatheredVisits.folder_unique visits
          refine ⟨rfl, fun inner inside has => ?_, isRoot⟩
          cases has with
          | here => exact .here other source others
          | down _ _ member within => exact .down other source member within

/-- When the requests of a mount are in order for the hosted tree and its files are fetched, no path
was left out below the root folder. -/
theorem explicit_of_mount (accepted : config.validatePaths = .ok ()) {limit : Nat} {state : σ}
    {mount : Mount}
    (activated : ((storeOf transport client).run (Mount.activate limit config) state).1 =
      some (.ok mount))
    (inOrder : InOrder config.remotePath (some tree)
      ((storeOf transport client).transcript (Mount.activate limit config) state))
    (fetches : mount.view.Fetches (storeOf transport client) tree) : hosting.Explicit := by
  obtain ⟨gathered, confirms, samePath, folders, isRoot⟩ :=
    hosting.exists_gathered accepted activated inOrder fetches
  constructor
  · intro path items has
    exact (hosting.liveEntries_eq_iff has).mp
      (confirms path items (folders path items has) _ (hosting.holds_first has))
  · intro inside
    obtain ⟨about, real, -⟩ := hosting.below inside
    rw [isRoot inside] at samePath
    exact (about.path_eq_iff real).mp samePath

/-- When no path is left out below the root folder, a mount ends. Its requests are in order for the
hosted tree and its files are fetched. -/
theorem followsTree_of_explicit (accepted : config.validatePaths = .ok ())
    (wellNamed : tree.WellNamed) (explicit : hosting.Explicit) (state : σ) :
    Mount.FollowsTree (storeOf transport client) config tree state := by
  obtain ⟨below, plain, isText⟩ := MountConfig.mountPoint_of_accepted accepted
  obtain ⟨enough, ends⟩ :=
    Snapshot.build_in_order (hosting.servesAt explicit state) config.mountPoint
  refine ⟨⟨config, .ofSnapshot (Snapshot.empty.plant config.mountPoint tree) config.mountPoint⟩,
    ⟨enough, fun limit more => ?_⟩, ?_⟩
  · obtain ⟨built, inOrder⟩ := ends limit more
    rw [Mount.run_activate accepted, built, Mount.transcript_activate accepted]
    exact ⟨rfl, inOrder⟩
  · have mirror := Snapshot.mirrorsAt_plant wellNamed below plain.names
    rw [isText] at mirror
    exact View.fetches_of_mirrorsAt mirror

/-- The path that is taken for an entry in a folder is the real one exactly when it was reported or
the folder is the root. So a mount lists each folder by its real path and fetches each file from its
own exactly when no path is left out below the root folder. -/
theorem followsTree_iff_explicit (accepted : config.validatePaths = .ok ())
    (wellNamed : tree.WellNamed) (state : σ) :
    (∀ path items, tree.HasFolder path items →
      List.Forall₂
        (fun report item => report.entry.path = item.entry.path ↔
          apiPath path = "" ∨ report.location.isSome)
        (liveReports (hosting.pages path)) items) ∧
    (Mount.FollowsTree (storeOf transport client) config tree state ↔ hosting.Explicit) := by
  refine ⟨fun path items has =>
    paths_eq_iff (hosting.reports path items has) (hosting.located path items has), ?_, ?_⟩
  · rintro ⟨mount, ⟨enough, ends⟩, fetches⟩
    obtain ⟨activated, inOrder⟩ := ends enough (Nat.le_refl enough)
    exact hosting.explicit_of_mount accepted activated inOrder fetches
  · intro explicit
    exact hosting.followsTree_of_explicit accepted wellNamed explicit state

/-- A mount that ends has not listed a folder whose own path is taken for a folder in it. So it
never ends when a folder directly below the root has a folder of the same name whose path is left out. -/
theorem not_mem_listedFolders (accepted : config.validatePaths = .ok ()) {limit : Nat} {state : σ}
    {mount : Mount}
    (activated : ((storeOf transport client).run (Mount.activate limit config) state).1 =
      some (.ok mount))
    {path : String} {items : List Tree} (has : tree.HasFolder path items) {report : Report}
    (member : report ∈ liveReports (hosting.pages path))
    (isFolder : report.entry.kind = .folder) (again : report.entry.path = path) :
    path ∉ listedFolders
      ((storeOf transport client).transcript (Mount.activate limit config) state) := by
  intro listed
  obtain ⟨gathered, done, -, confirms, -⟩ := hosting.exists_confirmed accepted activated
  rw [Mount.transcript_activate accepted, Snapshot.transcript_build] at listed
  rw [(Gathering.inOrder_of_run done).folders, Tree.mem_folderPathsOf] at listed
  obtain ⟨other, isOther, inside⟩ := listed
  obtain rfl := List.mem_singleton.mp isOther
  obtain ⟨others, gatheredHas⟩ := Tree.exists_hasFolder inside
  refine confirms.path_ne gatheredHas (hosting.holds_first has) ?_ isFolder again
  rw [liveEntries_map_entry]
  exact List.mem_map_of_mem member

end

end Hosting

/-! ## A service with one note -/

/-- The document that holds a report. -/
def Report.document (report : Report) : Json :=
  .object ([(".tag", .string report.tag), ("name", .string report.name)] ++
    report.location.toList.map fun path => ("path_lower", .string path))

/-- The only page of a folder with one entry. -/
def Report.page (report : Report) : Json :=
  .object [("entries", .array [report.document]), ("cursor", .string ""), ("has_more", .bool false)]

theorem Report.settled_page (report : Report) : report.page.Settled := by
  have document : report.document.Settled := by
    refine .object fun field member => ?_
    rcases List.mem_append.mp member with named | located
    · rcases List.mem_pair.mp named with rfl | rfl <;> exact .string _
    · obtain ⟨path, -, rfl⟩ := List.mem_map.mp located
      exact .string path
  exact .object (by simpa using ⟨.array (by simpa using document), .string "", .bool false⟩)

theorem Report.isIn_document (report : Report) : report.IsIn report.document := by
  rcases report with ⟨tag, name, _ | path⟩ <;> exact ⟨_, rfl, rfl⟩

/-- The page is read from its bytes when they are read as its text. -/
theorem Report.holdsPage_page {report : Report}
    (readable : Text.readLossy report.page.text.toUTF8 = report.page.text) :
    HoldsPage report.page.text.toUTF8 [report] "" false := by
  refine ⟨report.page, [report.document], ?_, rfl, .cons report.isIn_document .nil⟩
  rw [readable]
  exact Json.read_text report.settled_page

/-- A tree with one file in one folder. -/
def noteTree : Tree :=
  .folder "" "/" [.folder "Notes" "/notes" [.file "A.txt" "/notes/a.txt"]]

def notesReport : Report := ⟨"folder", "Notes", none⟩

def noteReport (location : Option String) : Report := ⟨"file", "A.txt", location⟩

/-- A service that hosts the tree. It leaves out the path of the folder, and it reports for the file
what it is told. -/
def noteService (location : Option String) : Transport Unit where
  web request :=
    let report := if request = sampleClient.listingCall (.first "/") then notesReport
      else noteReport location
    return .answer 200 (some report.page.text.toUTF8)
  bucket _ _ := return .error ⟨none, "there is no bucket"⟩

theorem noteTree_folders {path : String} {items : List Tree}
    (has : noteTree.HasFolder path items) :
    path = "/" ∧ items = [.folder "Notes" "/notes" [.file "A.txt" "/notes/a.txt"]] ∨
      path = "/notes" ∧ items = [.file "A.txt" "/notes/a.txt"] := by
  cases has with
  | here => exact .inl ⟨rfl, rfl⟩
  | down _ _ member inside =>
      obtain rfl := List.mem_singleton.mp member
      cases inside with
      | here => exact .inr ⟨rfl, rfl⟩
      | down _ _ member inside =>
          obtain rfl := List.mem_singleton.mp member
          cases inside

/-- The tree is hosted when the file is reported with its path or with none. -/
def noteHosting (location : Option String)
    (real : ∀ path, location = some path → path = "/notes/a.txt")
    (readable : Text.readLossy (noteReport location).page.text.toUTF8 =
      (noteReport location).page.text) :
    Hosting (noteService location).web sampleClient "" noteTree where
  pages path := if path = "/" then [[notesReport]] else [[noteReport location]]
  reports path items has := by
    rcases noteTree_folders has with ⟨rfl, rfl⟩ | ⟨rfl, rfl⟩
    · have about : notesReport.About (.folder "Notes" "/notes" [.file "A.txt" "/notes/a.txt"]) :=
        ⟨rfl, rfl, by simp [notesReport]⟩
      exact .cons about .nil
    · have about : (noteReport location).About (.file "A.txt" "/notes/a.txt") :=
        ⟨rfl, rfl, real⟩
      exact .cons about .nil
  located path items has item member := by
    rcases noteTree_folders has with ⟨rfl, rfl⟩ | ⟨rfl, rfl⟩ <;>
      obtain rfl := List.mem_singleton.mp member <;> decide +kernel
  awaits _ listing pages := listing = .first "/" ∧ pages = [[notesReport]] ∨
    listing = .first "/notes" ∧ pages = [[noteReport location]]
  begins state path items has := by
    rcases noteTree_folders has with ⟨rfl, -⟩ | ⟨rfl, -⟩
    · exact .inl ⟨rfl, rfl⟩
    · exact .inr ⟨rfl, rfl⟩
  brings := by
    rintro state listing pages (⟨rfl, rfl⟩ | ⟨rfl, rfl⟩)
    · have readableRoot : Text.readLossy notesReport.page.text.toUTF8 = notesReport.page.text := by
        decide +kernel
      exact ⟨_, [], "", 200, _, (), rfl, by simp [noteService]; rfl, by decide,
        Report.holdsPage_page readableRoot, fun more => absurd rfl more⟩
    · have other : sampleClient.listingCall (.first "/notes") ≠
          sampleClient.listingCall (.first "/") := by decide +kernel
      exact ⟨_, [], "", 200, _, (), rfl, by simp [noteService, other]; rfl, by decide,
        Report.holdsPage_page readable, fun more => absurd rfl more⟩
  spends _ _ := False
  keeps held _ _ := held
  fresh := by
    intros
    exact not_false
  root := notesReport
  home := ""
  top _ := ⟨_, _, rfl⟩
  below inside := absurd inside (by decide)

theorem wellNamed_noteTree : noteTree.WellNamed := by
  have notes : (Tree.folder "Notes" "/notes" [.file "A.txt" "/notes/a.txt"]).WellNamed :=
    .folder _ _ (by decide) (by decide) (by simpa using .file _ _)
  exact .folder _ _ (by decide) (by decide) (by simpa using notes)

/-- The note is the only live report in its folder. -/
theorem mem_liveReports_note {location : Option String} {report : Report} :
    report ∈ liveReports [[noteReport location]] ↔ report = noteReport location := by
  have live : (noteReport location).entry.isLive = true := rfl
  simp [liveReports, live]

/-- The mount asks for the real paths when the path of the file is reported, and it does not when
the path is left out. The path of the folder is left out both times. -/
theorem followsTree_noteTree :
    Mount.FollowsTree (storeOf (noteService (some "/notes/a.txt")) sampleClient)
        { remotePath := "" } noteTree () ∧
      ¬Mount.FollowsTree (storeOf (noteService none) sampleClient) { remotePath := "" }
        noteTree () := by
  have accepted : ({ remotePath := "" } : MountConfig).validatePaths = .ok () := by decide
  constructor
  · let hosting := noteHosting (some "/notes/a.txt") (by simp) (by decide +kernel)
    refine ((hosting.followsTree_iff_explicit accepted wellNamed_noteTree ()).2).mpr
      ⟨fun path items has report member => ?_, fun inside => absurd inside (by decide)⟩
    rcases noteTree_folders has with ⟨rfl, -⟩ | ⟨rfl, -⟩
    · exact .inl (by decide)
    · obtain rfl := mem_liveReports_note.mp member
      exact .inr rfl
  · let hosting := noteHosting none (by simp) (by decide +kernel)
    intro follows
    have explicit :=
      ((hosting.followsTree_iff_explicit accepted wellNamed_noteTree ()).2).mp follows
    have has : noteTree.HasFolder "/notes" [.file "A.txt" "/notes/a.txt"] :=
      .down _ _ List.mem_cons_self (.here _ _ _)
    have given := explicit.items _ _ has (noteReport none) (mem_liveReports_note.mpr rfl)
    exact absurd given (by decide)

end Remote.Dropbox

end ContentMount
