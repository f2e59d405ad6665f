/-
This file says when a mount of a bucket shows its objects: exactly when no key below the mounted
path goes on from another key with a slash.
-/

import ContentMount.Content.Reading
import ContentMount.Proofs.Bucket.Service
import ContentMount.Proofs.Bucket.Shadowing
import ContentMount.Proofs.Content.Attributes
import ContentMount.Proofs.Content.Reach
import ContentMount.Proofs.Mount.Activation

namespace ContentMount.Remote.Bucket

open ContentMount.Path

section

variable {σ : Type} (transport : Transport σ) (client : Client)

/-- A value downloads an object when reading it gets that object and asks for nothing else. -/
structure Downloads (value : Value) (key : String) : Prop where
  calls : ∀ cells state, ∃ source,
    (storeOf transport client).requests (value.read.start cells) state = [.download source] ∧
      (client.answer (.download source)).questions (transport.bucket client) state = [.get key]
  brings : ∀ cells state payload next,
    transport.bucket client (.get key) state = (.ok (some payload), next) →
      (storeOf transport client).run (value.read.start cells) state = ((.ok payload, cells), next)

/-- A view shows an object when a file is reached from the mount point whose content downloads the
object. -/
def ShowsObject (view : View) (key : String) : Prop :=
  ∃ file content property, view.Reached view.mountPoint.text file ∧
    file.primaryType = NodeKind.file.primaryType ∧ content ∈ file.children view ∧
      content.property? Name.data = some property ∧
        Downloads transport client property.first key

/-- A view is faithful to the keys below a path when its nodes are told apart and each object is
shown. Keys that end with a slash mark folders. -/
structure Faithful (keys : List String) (remotePath : String) (view : View) : Prop where
  distinct : ∀ text node, view.node? text = some node →
    ((node.children view).map Node.path).Nodup
  found : ∀ text, ∀ node ∈ view.children text, view.node? node.path = some node
  shown : ∀ rest, startOf remotePath ++ rest ∈ keys → lastPiece rest ≠ "" →
    ShowsObject transport client view (startOf remotePath ++ rest)

variable {transport client}

theorem downloads_deferred {source key : String} (isKey : keyOf source = key) :
    Downloads transport client (.binary (.deferred source none)) key := by
  subst isKey
  constructor
  · intro cells state
    refine ⟨source, ?_, rfl⟩
    rw [Value.start_read_deferred]
    rfl
  · intro cells state payload next answered
    have downloaded : (storeOf transport client).answer (.download source) state =
        (.ok payload, next) := by
      have forwarded : (storeOf transport client).answer (.download source) state =
          Dialogue.run (transport.bucket client) (fetch source) state := rfl
      rw [forwarded, fetch, Dialogue.run, answered]
      rfl
    rw [Value.start_read_deferred, Store.run, Dialogue.run, downloaded]
    rfl

/-! ## Views of depicted trees -/

variable {keys : List String} {remotePath : String} {mount : Path}

/-- The file of a key is reached in a view of a mirrored tree. -/
theorem showsObject_of_shows {snapshot : Snapshot} {tree : Tree}
    (mirror : snapshot.MirrorsAt mount tree) {trail : List String} {name key : String}
    (isKey : keyOf key = key)
    (shown : Tree.Shows (lastPiece mount.text) tree (trail ++ [name]) (.file name)
      [.content ("/" ++ key)]) :
    ShowsObject transport client ⟨snapshot, mount⟩ key := by
  obtain ⟨property, isData, deferred⟩ :=
    Node.property?_data (mount.follow (trail ++ [name])).text ("/" ++ key)
  refine ⟨_, _, property, mirror.reached_of_shows shown, rfl, ?_, isData, ?_⟩
  · rw [Node.children, mirror.path_eq shown]
    exact mirror.mem_children shown List.mem_cons_self
  · rw [deferred]
    exact downloads_deferred (by rw [keyOf_slash_append, isKey])

/-- A view of a mirrored tree is faithful when it shows each object. -/
theorem faithful_of_mirrorsAt {snapshot : Snapshot} {tree : Tree}
    (mirror : snapshot.MirrorsAt mount tree)
    (shown : ∀ rest, startOf remotePath ++ rest ∈ keys → lastPiece rest ≠ "" →
      ShowsObject transport client ⟨snapshot, mount⟩ (startOf remotePath ++ rest)) :
    Faithful transport client keys remotePath ⟨snapshot, mount⟩ where
  distinct text node _ := by
    rw [Node.children, ← View.children_parse]
    exact mirror.nodup_paths (hasNames_parse node.path)
  found := (View.coherent_of_mirrorsAt mirror).child
  shown := shown

/-- No view is faithful to a tree with a file and a folder of one name. -/
theorem not_faithful_of_twins {tree : Tree} (named : tree.Named IsName) (below : mount ≠ root)
    (names : mount.HasNames) {trail : List String} {node : Descriptor} {family : List Descriptor}
    {name : String} (shown : Tree.Shows (lastPiece mount.text) tree trail node family)
    (only : ∀ other others, Tree.Shows (lastPiece mount.text) tree trail other others →
      others = family)
    (isFile : .file name ∈ family) (isFolder : .folder name ∈ family) :
    ¬Faithful transport client keys remotePath
      ⟨Snapshot.empty.plant mount.text tree, mount⟩ := by
  intro faithful
  have here := names.follow (shown.named Tree.isName_content named)
  have held := Snapshot.children_plant named.segments below names.segments shown only
  have found (descriptor : Descriptor) (member : descriptor ∈ family) :=
    faithful.found (mount.follow trail).text
      (Node.ofDescriptor (mount.follow trail).text descriptor)
      (by rw [View.children_text _ here, held]; exact List.mem_map_of_mem member)
  have same : Node.ofDescriptor (mount.follow trail).text (.file name) =
      Node.ofDescriptor (mount.follow trail).text (.folder name) :=
    Option.some.inj ((found _ isFile).symm.trans (found _ isFolder))
  have types : NodeKind.file.primaryType = NodeKind.folder.primaryType :=
    congrArg Node.primaryType same
  exact absurd types (by decide)

/-- A file that is mounted itself shows no other file. -/
theorem not_showsObject_of_file {snapshot : Snapshot} {name path key : String}
    (mirror : snapshot.MirrorsAt mount (.file name path)) :
    ¬ShowsObject transport client ⟨snapshot, mount⟩ key := by
  intro shows
  obtain ⟨file, content, property, reached, isFile, -⟩ := shows
  obtain ⟨text, member⟩ := reached.exists_parent
  have names := hasNames_parse text
  rw [← View.children_parse, View.children_text _ names] at member
  obtain ⟨descriptor, inside, rfl⟩ := List.mem_map.mp member
  obtain ⟨trail, node, children, shown, -, among⟩ := mirror.shows_of_mem_children names inside
  cases shown with
  | here =>
      obtain rfl := List.mem_singleton.mp among
      have types : NodeKind.content.primaryType = NodeKind.file.primaryType := isFile
      exact absurd types (by decide)
  | content => simp at among

/-- A mounted object hides the objects below it. -/
theorem faithful_object_iff (below : mount ≠ root) (names : mount.HasNames) (name path : String) :
    Faithful transport client keys remotePath
        ⟨Snapshot.empty.plant mount.text (.file name path), mount⟩ ↔
      ¬∃ rest, startOf remotePath ++ rest ∈ keys ∧ lastPiece rest ≠ "" := by
  have mirror := Snapshot.mirrorsAt_plant (.file name path) below names
  constructor
  · rintro faithful ⟨rest, present, named⟩
    exact not_showsObject_of_file mirror (faithful.shown rest present named)
  · intro none
    exact faithful_of_mirrorsAt mirror fun rest present named =>
      (none ⟨rest, present, named⟩).elim

/-- A mounted folder of clean keys is faithful when no key in it shadows another. -/
theorem faithful_folder_iff (below : mount ≠ root) (names : mount.HasNames)
    (clean : ∀ key ∈ keys, IsClean key) {tree : Tree}
    (depicts : Depicts keys (startOf remotePath) tree) :
    Faithful transport client keys remotePath ⟨Snapshot.empty.plant mount.text tree, mount⟩ ↔
      ¬Shadowed keys (startOf remotePath) := by
  have proper := isStart_startOf remotePath
  have unbroken := unbroken_of_clean clean proper
  have plain := depicts.named proper fun _ isStart _ isEntry =>
    isPlainName_of_isEntry clean isStart isEntry
  constructor
  · intro faithful shadowed
    obtain ⟨trail, node, family, name, shown, only, isFile, isFolder⟩ :=
      depicts.exists_twins unbroken shadowed (lastPiece mount.text)
    exact not_faithful_of_twins (plain.imp fun _ isPlain => isPlain.toIsName) below names shown only
      isFile isFolder faithful
  · intro clear
    have wellNamed := Tree.wellNamed_iff.mpr ⟨plain, depicts.distinct clear⟩
    have mirror := Snapshot.mirrorsAt_plant wellNamed below names
    apply faithful_of_mirrorsAt mirror
    intro rest present named
    obtain ⟨isKey, trail, shown⟩ :=
      depicts.shows_key proper unbroken present named (lastPiece mount.text)
    exact showsObject_of_shows mirror isKey shown

end

/-! ## Mounts of buckets -/

/-- Objects below a path are shadowed by an object among them, or by the object at the path. -/
def ShadowedAt (keys : List String) (remotePath : String) : Prop :=
  Shadowed keys (startOf remotePath) ∨
    (keyOf remotePath ≠ "" ∧ keyOf remotePath ∈ keys) ∧
      ∃ rest, startOf remotePath ++ rest ∈ keys ∧ lastPiece rest ≠ ""

section

variable {σ : Type} {transport : Transport σ} {client : Client} {keys : List String}
  {config : MountConfig}

/-- A tree that is served is mounted. -/
theorem exists_mount {paging : Paging (storeOf transport client)}
    (accepted : config.validatePaths = .ok ()) {tree : Tree} {state : σ}
    (served : paging.ServesAt state config.remotePath tree) : ∃ mount : Mount,
      (∃ enough, ∀ limit ≥ enough,
        ((storeOf transport client).run (Mount.activate limit config) state).1 =
          some (.ok mount)) ∧
        mount.view = ⟨Snapshot.empty.plant (parse config.mountPoint).text tree,
          parse config.mountPoint⟩ := by
  obtain ⟨-, -, isText⟩ := MountConfig.mountPoint_of_accepted accepted
  obtain ⟨mount, ends, isView⟩ :=
    Mount.exists_of_build accepted (Snapshot.build_plants served config.mountPoint)
  refine ⟨mount, ends, ?_⟩
  rw [isView, isText]
  rfl

/-- A mount of a folder of clean keys ends. It is faithful exactly when no object there is
shadowed. -/
theorem Hosting.exists_mount_faithful_iff (hosting : Hosting (transport.bucket client) keys)
    (clean : ∀ key ∈ keys, IsClean key) (accepted : config.validatePaths = .ok ())
    (isFolder : keyOf config.remotePath = "" ∨ ∃ rest, startOf config.remotePath ++ rest ∈ keys)
    (state : σ) : ∃ mount : Mount,
      (∃ enough, ∀ limit ≥ enough,
        ((storeOf transport client).run (Mount.activate limit config) state).1 =
          some (.ok mount)) ∧
        (Faithful transport client keys config.remotePath mount.view ↔
          ¬ShadowedAt keys config.remotePath) := by
  obtain ⟨below, plain, -⟩ := MountConfig.mountPoint_of_accepted accepted
  have proper := isStart_startOf config.remotePath
  by_cases object : keyOf config.remotePath ≠ "" ∧ keyOf config.remotePath ∈ keys
  · obtain ⟨mount, ends, isView⟩ :=
      exists_mount accepted (hosting.servesAt_object object.1 object.2 state)
    refine ⟨mount, ends, ?_⟩
    rw [isView, faithful_object_iff below plain.names, ShadowedAt]
    refine not_congr ⟨fun inside => .inr ⟨object, inside⟩, ?_⟩
    rintro (shadowed | ⟨-, inside⟩)
    · exact Shadowed.exists_inside clean proper shadowed
    · exact inside
  · have folder : IsFolder keys config.remotePath := by
      by_cases top : keyOf config.remotePath = ""
      · exact .inl top
      · exact .inr ⟨fun member => object ⟨top, member⟩, isFolder.resolve_left top⟩
    obtain ⟨tree, depicts, served⟩ :=
      hosting.exists_servesAt folder (unbroken_of_clean clean proper)
    obtain ⟨mount, ends, isView⟩ := exists_mount accepted (served state)
    refine ⟨mount, ends, ?_⟩
    rw [isView, faithful_folder_iff below plain.names clean depicts, ShadowedAt]
    refine not_congr ⟨.inl, ?_⟩
    rintro (shadowed | ⟨isObject, -⟩)
    · exact shadowed
    · exact absurd isObject object

end

/-- The object `a` shadows the object `a/b`. Without it the mount is faithful. -/
theorem exists_mount_sampleConfig :
    (∃ mount : Mount,
      (∃ enough, ∀ limit ≥ enough,
        ((storeOf (sampleService ["a", "a/b"]) sampleClient).run
          (Mount.activate limit sampleConfig) ()).1 = some (.ok mount)) ∧
        ¬Faithful (sampleService ["a", "a/b"]) sampleClient ["a", "a/b"] "" mount.view) ∧
    ∃ mount : Mount,
      (∃ enough, ∀ limit ≥ enough,
        ((storeOf (sampleService ["a/b"]) sampleClient).run
          (Mount.activate limit sampleConfig) ()).1 = some (.ok mount)) ∧
        Faithful (sampleService ["a/b"]) sampleClient ["a/b"] "" mount.view := by
  have one : IsClean "a" := ⟨by decide, by decide⟩
  have two : IsClean "a/b" := ⟨by decide, by decide⟩
  constructor
  · have clean : ∀ key ∈ ["a", "a/b"], IsClean key := by simp [one, two]
    have shadowed : ShadowedAt ["a", "a/b"] "" :=
      .inl ⟨"a", "b", by decide, by decide⟩
    obtain ⟨mount, ends, faithful⟩ :=
      (sampleHosting ["a", "a/b"]).exists_mount_faithful_iff clean
        (show sampleConfig.validatePaths = .ok () by decide) (.inl (by decide)) ()
    exact ⟨mount, ends, fun shows => faithful.mp shows shadowed⟩
  · have clean : ∀ key ∈ ["a/b"], IsClean key := by simp [two]
    have clear : ¬ShadowedAt ["a/b"] "" := by
      rintro (⟨rest, more, present, inside⟩ | ⟨⟨below, -⟩, -⟩)
      · rw [List.mem_singleton] at present inside
        have counted := congrArg String.length (present.trans inside.symm)
        have slash : "/".length = 1 := by decide
        simp only [String.length_append] at counted
        omega
      · exact below (by decide)
    obtain ⟨mount, ends, faithful⟩ :=
      (sampleHosting ["a/b"]).exists_mount_faithful_iff clean
        (show sampleConfig.validatePaths = .ok () by decide) (.inl (by decide)) ()
    exact ⟨mount, ends, faithful.mpr clear⟩

end ContentMount.Remote.Bucket
