/-
This file says how an activation goes on after the lookup of its remote path. It publishes an empty
snapshot exactly when the service reports an absence, and it fails when the service reports neither
an absence nor an entry.
-/

import ContentMount.Proofs.Build.Agreement
import ContentMount.Proofs.Build.Soundness
import ContentMount.Proofs.Mount.Published
import ContentMount.Proofs.Remote.Lookup

namespace ContentMount

open Remote

namespace Gathering

section

variable {σ : Type} {store : Store σ}

/-- A folder whose first page is its last one and has no live entries is gathered as it is. -/
theorem run_entry_bare {path : String} {entry : Entry} {state : σ} {page : Page}
    (isFolder : entry.kind = .folder)
    (listed : (store.answer (.list entry.path) state).1 = .ok page) (bare : page.live = [])
    (last : page.hasMore = false) {limit : Nat} (enough : 0 < limit) :
    ((Gathering.entry (items limit) path entry).run store state).1 =
      some (.ok (.folder entry.name entry.path [])) := by
  obtain ⟨less, rfl⟩ := Nat.exists_eq_add_one.mpr enough
  have asked : store.run (askPage (.first entry.path)) state =
      (.ok page, (store.answer (.list entry.path) state).2) := Prod.ext listed rfl
  rw [Gathering.entry, isFolder]
  dsimp only
  rw [items, run_bind, run_bind, run_consult_of_ok asked]
  simp [bare, last, entries]

/-- After a lookup that finds an entry the entry is gathered. -/
theorem run_root_of_entry (limit : Nat) (mountPoint : String) {remotePath : String} {state : σ}
    (inside : Build.isStoreRoot remotePath = false) {entry : Entry}
    (found : lookedUp remotePath (store.answer (.metadata remotePath) state).1 =
      .ok (some entry)) :
    ((root limit mountPoint remotePath).run store state).1 =
      ((Gathering.entry (items limit) remotePath entry).run store
        (store.answer (.metadata remotePath) state).2).1.map (Except.map some) := by
  rw [root, run_bind, run_lookup mountPoint inside, found]
  dsimp only
  rw [bind_pure_comp, run_map]

end

end Gathering

namespace Snapshot

/-- A tree that is planted at a key has its node there. -/
theorem get?_plant (snapshot : Snapshot) (key : String) (tree : Tree) :
    (snapshot.plant key tree).get? key = some (tree.node (Path.nameText key)) := by
  cases tree with
  | file name path => rw [plant_file, get?_addNode, if_pos rfl]; rfl
  | folder name path items => rw [plant_folder, get?_addNode, if_pos rfl]; rfl

/-- A folder without items is planted as a single node. -/
theorem size_plant_bare (key name path : String) :
    (empty.plant key (.folder name path [])).size = 1 := by
  rw [plant_folder]
  simp [plantItems, Tree.itemPlacements, placeAll, Tree.childrenAt, addFamily, addNode, size,
    empty, Std.TreeMap.size_insert]

/-- A snapshot without nodes has nothing under any key. -/
theorem get?_eq_none_of_size {snapshot : Snapshot} (empty : snapshot.size = 0) (key : String) :
    snapshot.get? key = none := by
  apply Std.TreeMap.getElem?_of_isEmpty
  rw [Std.TreeMap.isEmpty_eq_size_eq_zero]
  simpa [size] using empty

end Snapshot

namespace Mount

section

variable {σ : Type} (transport : Transport σ) (connection : Connection) (config : MountConfig)
  (limit : Nat) (state : σ)

/-- What becomes of an activation over a connection. -/
def overConnection : Option (Except MountError Mount) :=
  ((connection.store transport).run (activate limit config) state).1

/-- An activation goes on as the service answers the lookup of the remote path. -/
structure FollowsLookup : Prop where
  /-- An empty snapshot is published exactly when an absence is reported. -/
  empty : (∃ mount, overConnection transport connection config limit state = some (.ok mount) ∧
      mount.view.snapshot.size = 0) ↔ connection.Absent transport config.remotePath state
  /-- Without an absence and without an entry the activation fails at the remote path. -/
  failed : ¬connection.Absent transport config.remotePath state →
    (∀ kind, ¬connection.Present transport config.remotePath state kind) →
      ∃ source, overConnection transport connection config limit state =
        some (.error (.build config.remotePath source))
  /-- What is mounted of a file has the node of a file at the mount point. -/
  file : connection.Present transport config.remotePath state .file → ∀ mount,
    overConnection transport connection config limit state = some (.ok mount) →
      mount.view.snapshot.get? config.mountPoint =
        some (.file (Path.nameText config.mountPoint))
  /-- What is mounted of a folder has the node of a folder at the mount point. -/
  folder : connection.Present transport config.remotePath state .folder → ∀ mount,
    overConnection transport connection config limit state = some (.ok mount) →
      mount.view.snapshot.get? config.mountPoint =
        some (.folder (Path.nameText config.mountPoint))

  /-- A folder whose first page is its last one and has no live entries is mounted, and its node is
  the only one. -/
  bare : ∀ entry page,
    ((connection.store transport).answer (.metadata config.remotePath) state).1 =
      .ok (some entry) → entry.kind = .folder →
    ((connection.store transport).answer (.list entry.path)
      ((connection.store transport).answer (.metadata config.remotePath) state).2).1 = .ok page →
    page.live = [] → page.hasMore = false → 0 < limit →
      ∃ mount, overConnection transport connection config limit state = some (.ok mount) ∧
        mount.view.snapshot.size = 1 ∧ mount.view.snapshot.get? config.mountPoint =
          some (.folder (Path.nameText config.mountPoint))

end

section

variable {σ : Type} {store : Store σ} {config : MountConfig} {state : σ}

/-- Without an entry the lookup says how the activation ends. -/
theorem run_activate_of_missing (accepted : config.validatePaths = .ok ())
    (inside : Build.isStoreRoot config.remotePath = false) (limit : Nat)
    (missing : ∀ entry, Gathering.lookedUp config.remotePath
      (store.answer (.metadata config.remotePath) state).1 ≠ .ok (some entry)) :
    (store.run (activate limit config) state).1 =
      some ((Gathering.lookedUp config.remotePath
        (store.answer (.metadata config.remotePath) state).1).map fun _ =>
          ⟨config, .ofSnapshot .empty config.mountPoint⟩) := by
  rw [run_activate accepted, Snapshot.run_build]
  dsimp only
  rw [(Gathering.root_of_missing limit config.mountPoint inside missing).1]
  cases Gathering.lookedUp config.remotePath
    (store.answer (.metadata config.remotePath) state).1 <;> rfl

/-- With an entry the activation brings what is gathered of it. -/
theorem run_activate_of_entry (accepted : config.validatePaths = .ok ())
    (inside : Build.isStoreRoot config.remotePath = false) (limit : Nat) {entry : Entry}
    (found : Gathering.lookedUp config.remotePath
      (store.answer (.metadata config.remotePath) state).1 = .ok (some entry)) :
    (store.run (activate limit config) state).1 =
      ((Gathering.entry (Gathering.items limit) config.remotePath entry).run store
        (store.answer (.metadata config.remotePath) state).2).1.map (Except.map fun tree =>
          ⟨config, .ofSnapshot (Snapshot.empty.plant config.mountPoint tree)
            config.mountPoint⟩) := by
  rw [run_activate accepted, Snapshot.run_build]
  dsimp only
  rw [Gathering.run_root_of_entry limit config.mountPoint inside found]
  rcases ((Gathering.entry (Gathering.items limit) config.remotePath entry).run store
    (store.answer (.metadata config.remotePath) state).2).1 with _ | _ | tree <;> rfl

/-- A mount of an entry has the node of the entry at the mount point. -/
theorem get?_mountPoint_of_entry (accepted : config.validatePaths = .ok ())
    (inside : Build.isStoreRoot config.remotePath = false) {limit : Nat} {entry : Entry}
    (found : Gathering.lookedUp config.remotePath
      (store.answer (.metadata config.remotePath) state).1 = .ok (some entry)) {mount : Mount}
    (activated : (store.run (activate limit config) state).1 = some (.ok mount)) :
    ∃ tree : Tree, tree.entry = entry ∧ mount.view.snapshot.get? config.mountPoint =
      some (tree.node (Path.nameText config.mountPoint)) := by
  rw [run_activate_of_entry accepted inside limit found] at activated
  rcases gathered : ((Gathering.entry (Gathering.items limit) config.remotePath entry).run store
    (store.answer (.metadata config.remotePath) state).2).1 with _ | _ | tree
  · simp [gathered] at activated
  · simp [gathered, Except.map] at activated
  · rw [gathered] at activated
    obtain rfl := Except.ok.inj (Option.some.inj activated)
    have live := (Gathering.lookedUp_eq_some_iff.mp found).2
    exact ⟨tree, Gathering.entry_of_run live gathered, Snapshot.get?_plant _ _ _⟩

end

section

variable {σ : Type} {transport : Transport σ} {connection : Connection} {config : MountConfig}
  {limit : Nat} {state : σ}

/-- Without an entry the lookup says how an activation over a connection ends. -/
theorem overConnection_of_missing (accepted : config.validatePaths = .ok ())
    (inside : Build.isStoreRoot config.remotePath = false)
    {outcome : Except MountError (Option Entry)}
    (looked : Gathering.lookedUp config.remotePath
      ((connection.store transport).answer (.metadata config.remotePath) state).1 = outcome)
    (missing : ∀ entry, outcome ≠ .ok (some entry)) :
    overConnection transport connection config limit state =
      some (outcome.map fun _ => ⟨config, .ofSnapshot .empty config.mountPoint⟩) := by
  subst looked
  exact run_activate_of_missing accepted inside limit missing

/-- An activation over a connection goes on as the service answers the lookup. -/
theorem follows_lookup (accepted : config.validatePaths = .ok ())
    (inside : Build.isStoreRoot config.remotePath = false) (transport : Transport σ)
    (connection : Connection) (limit : Nat) (state : σ) :
    FollowsLookup transport connection config limit state := by
  have verdict := connection.verdict transport config.remotePath state inside
  generalize looked : Gathering.lookedUp config.remotePath
    ((connection.store transport).answer (.metadata config.remotePath) state).1 = outcome
    at verdict
  -- An entry in the answer that is a folder is the one that the lookup finds.
  have answered (entry : Entry) (isFolder : entry.kind = .folder)
      (isAnswer : ((connection.store transport).answer (.metadata config.remotePath) state).1 =
        .ok (some entry)) : outcome = .ok (some entry) := by
    have live : entry.isLive = true := by simp [Entry.isLive, isFolder]
    exact looked.symm.trans (Gathering.lookedUp_eq_some_iff.mpr ⟨isAnswer, live⟩)
  cases verdict with
  | absent missing nothing =>
      have ended : overConnection transport connection config limit state =
          some (.ok ⟨config, .ofSnapshot .empty config.mountPoint⟩) :=
        overConnection_of_missing accepted inside looked (by simp)
      refine ⟨iff_of_true ⟨_, ended, rfl⟩ missing, fun there => absurd missing there,
        fun present => absurd present (nothing _), fun present => absurd present (nothing _), ?_⟩
      intro entry page isAnswer isFolder
      exact absurd (answered entry isFolder isAnswer) (by simp)
  | @present entry there only =>
      have rooted {mount : Mount}
          (activated : overConnection transport connection config limit state =
            some (.ok mount)) := get?_mountPoint_of_entry accepted inside looked activated
      refine ⟨iff_of_false ?_ there, fun _ nothing => absurd ((only _).mpr rfl) (nothing _),
        ?_, ?_, ?_⟩
      · intro published
        obtain ⟨mount, activated, empty⟩ := published
        obtain ⟨tree, -, held⟩ := rooted activated
        rw [Snapshot.get?_eq_none_of_size empty] at held
        exact Option.some_ne_none _ held.symm
      · intro isFile mount activated
        obtain ⟨tree, rfl, held⟩ := rooted activated
        cases tree with
        | file name path => exact held
        | folder name path items => exact absurd ((only _).mp isFile) (by simp [Tree.entry])
      · intro isFolder mount activated
        obtain ⟨tree, rfl, held⟩ := rooted activated
        cases tree with
        | file name path => exact absurd ((only _).mp isFolder) (by simp [Tree.entry])
        | folder name path items => exact held
      · intro other page isAnswer isFolder listed bare last enough
        obtain rfl : entry = other :=
          Option.some.inj (Except.ok.inj (answered other isFolder isAnswer))
        have ended := run_activate_of_entry accepted inside limit looked
        rw [Gathering.run_entry_bare isFolder listed bare last enough] at ended
        exact ⟨_, ended, Snapshot.size_plant_bare config.mountPoint entry.name entry.path,
          Snapshot.get?_plant _ _ _⟩
  | @failed source unsure nothing =>
      have ended : overConnection transport connection config limit state =
          some (.error (.build config.remotePath source)) :=
        overConnection_of_missing accepted inside looked (by simp)
      refine ⟨iff_of_false ?_ unsure, fun _ _ => ⟨source, ended⟩,
        fun present => absurd present (nothing _), fun present => absurd present (nothing _), ?_⟩
      · rintro ⟨mount, activated, -⟩
        rw [ended] at activated
        exact absurd activated (by simp)
      · intro entry page isAnswer isFolder
        exact absurd (answered entry isFolder isAnswer) (by simp)

end

/-! ## Services without an entry -/

/-- The body of the answer to a lookup of nothing. -/
def missingText : String := "\x7b\"error_summary\":\"path/not_found/.\"\x7d"

/-- Both services report that nothing is there. -/
def missingTransport : Transport Unit where
  web _ := return .answer 409 (some missingText.toUTF8)
  bucket _ call := return match call with
    | .head _ => .error ⟨some "NotFound", "there is no such object"⟩
    | .list _ => .ok ⟨[], [], none, none, none⟩
    | .get _ => .error ⟨some "NoSuchKey", "there is no such object"⟩

theorem absent_missingTransport (connection : Connection) :
    connection.Absent missingTransport "/adaptto" () := by
  cases connection with
  | dropbox client =>
      have text : Text.readLossy missingText.toUTF8 = missingText := by decide +kernel
      have stated : (Json.read missingText).bind Dropbox.readSummary? =
          some "path/not_found/." := by decide +kernel
      have summarizes : Dropbox.Summarizes (Text.readLossy missingText.toUTF8)
          "path/not_found/." := by
        rw [text]
        exact .object stated
      exact .refused summarizes (by decide)
  | bucket client =>
      exact ⟨⟨[], [], none, none, none⟩, ⟨⟨some "NotFound", _⟩, rfl, rfl, rfl⟩, by simp⟩

/-- A client for the files service. -/
def filesClient : Dropbox.Client :=
  ⟨"Bearer token", Dropbox.publicApiUrl, Dropbox.publicContentUrl⟩

/-- With both services the default configuration is mounted as nothing when nothing is there. When
no host is reached it is not mounted at all. -/
theorem follows_lookup_default :
    (∃ mount, overConnection missingTransport (.dropbox filesClient) {} 1 () = some (.ok mount) ∧
      mount.view.snapshot.size = 0) ∧
    (∃ mount, overConnection missingTransport (.bucket ⟨"photos", "us-east-1", none⟩) {} 1 () =
      some (.ok mount) ∧ mount.view.snapshot.size = 0) ∧
    ∃ source, overConnection Transport.unreachable (.dropbox filesClient) {} 1 () =
      some (.error (.build "/adaptto" source)) := by
  have inside : Build.isStoreRoot ({} : MountConfig).remotePath = false := by decide
  refine ⟨?_, ?_, ?_⟩
  · exact (follows_lookup validatePaths_default inside missingTransport (.dropbox filesClient) 1
      ()).empty.mpr (absent_missingTransport _)
  · exact (follows_lookup validatePaths_default inside missingTransport
      (.bucket ⟨"photos", "us-east-1", none⟩) 1 ()).empty.mpr (absent_missingTransport _)
  · apply (follows_lookup validatePaths_default inside Transport.unreachable
      (.dropbox filesClient) 1 ()).failed
    · intro absent
      cases absent
    · intro kind present
      cases present

end Mount

end ContentMount
