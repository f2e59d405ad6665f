/-
This file follows the printing of files. A file and its content lead to the same remote path, from
which the payload is downloaded each time.
-/

import ContentMount.Proofs.Build.Contents
import ContentMount.Proofs.Content.Properties
import ContentMount.Proofs.Mount.Activation
import ContentMount.Proofs.Shell.Dump
import ContentMount.Proofs.Shell.Turns

namespace ContentMount

open Remote ContentMount.Path

/-- A view holds a file whose payload has a remote path. -/
structure View.HoldsFile (view : View) (path : Path) (source : String) : Prop where
  names : path.HasNames
  file : ∃ node, view.nodeAt? path = some node ∧ node.path = path.text ∧
    node.primaryType = NodeKind.file.primaryType
  content : view.nodeAt? (path.child Name.content) =
    some (Node.ofDescriptor path.text (.content source))

namespace Shell

/-- A word leads to a file when it is resolved to its path or to the path of its content. -/
def LeadsTo (shell : Shell) (word : String) (path : Path) : Prop :=
  shell.resolve word = path ∨ shell.resolve word = path.child Name.content

/-- What comes of printing a file when its download has ended. The shell stays where it is. -/
def printed (shell : Shell) (source word : String) : Except RemoteError ByteArray → Outcome
  | .ok payload => (.ok (printPayload payload), shell)
  | .error error => (.error (.unreadable word (.contentFetch source error)), shell)

/-! ## One file -/

theorem node_of_resolve {shell : Shell} {word : String} {path : Path} (names : path.HasNames)
    (leads : shell.resolve word = path) {node : Node}
    (found : shell.view.nodeAt? path = some node) : shell.node word = .ok node := by
  rw [Shell.node_eq (leads ▸ names), leads, found]
  rfl

/-- The data of a content node has the remote path of the file, however it is looked up. -/
theorem content_of_leadsTo {shell : Shell} {path : Path} {source : String}
    (holds : shell.view.HoldsFile path source) {word : String} (leads : shell.LeadsTo word path) :
    ∃ property, (shell.node word >>= shell.contentOf word) = .ok property ∧
      property.first = .binary (.deferred source none) := by
  obtain ⟨property, isData, first⟩ := Node.property?_data path.text source
  have contentNames := holds.names.child Tree.isName_content
  have goesOn (node : Node) : (Except.ok node >>= shell.contentOf word) =
      shell.contentOf word node := rfl
  refine ⟨property, ?_, first⟩
  rcases leads with toFile | toContent
  · obtain ⟨node, found, isText, isFile⟩ := holds.file
    have dataPlain : IsPlainName Name.data := by decide
    have resolved := Node.resolve_two_names holds.names isText Tree.isPlainName_content dataPlain
    have looked := View.property?_text_child contentNames holds.content dataPlain.toIsName
    have inside := slash_mem_append Name.content Name.data
    rw [node_of_resolve holds.names toFile found, goesOn, contentOf, isFile, if_pos (by simp),
      Node.property, if_pos inside, resolved]
    dsimp only
    rw [looked, isData]
    rfl
  · have other : (NodeKind.content.primaryType == NodeKind.file.primaryType) = false := by decide
    have isType : (Node.ofDescriptor path.text (.content source)).primaryType =
        NodeKind.content.primaryType := rfl
    have isPrimary : (Node.ofDescriptor path.text (.content source)).primary = some Name.data :=
      rfl
    rw [node_of_resolve contentNames toContent holds.content, goesOn, contentOf, isType, other,
      if_neg Bool.false_ne_true, Node.primaryItem, isPrimary, Option.bind_some, isData]
    rfl

/-- Printing a file is one download, and what follows depends on its outcome only. -/
theorem perform_cat {shell : Shell} {path : Path} {source : String}
    (holds : shell.view.HoldsFile path source) {word : String} (leads : shell.LeadsTo word path)
    (styled : Bool) (metrics : Option Metrics) (more : List String) :
    shell.perform styled metrics (word :: more) .cat =
      .ask (.download source) fun (outcome : Except RemoteError ByteArray) =>
        .done (shell.printed source word outcome) := by
  obtain ⟨property, found, first⟩ := content_of_leadsTo holds leads
  have asked : shell.print (word :: more) =
      .ask (.download source) fun (outcome : Except RemoteError ByteArray) =>
        .done (shell.printed source word outcome).1 := by
    simp only [print, List.head?_cons, found, first]
    refine congrArg (Dialogue.ask (Request.download source)) (funext fun outcome => ?_)
    cases outcome <;> rfl
  rw [perform, asked]
  refine congrArg (Dialogue.ask (Request.download source)) (funext fun outcome => ?_)
  cases outcome <;> rfl

/-- The requests of printings that follow one another. Each one goes on with the shell and the
store that the one before it left. -/
def catRequests {σ : Type} (store : Store σ) (meter : σ → Option Metrics) (styled : Bool) :
    Shell → σ → List (List String) → List Request
  | _, _, [] => []
  | shell, state, words :: rest =>
    let command := shell.perform styled (meter state) words .cat
    let step := store.run command state
    store.requests command state ++ catRequests store meter styled step.1.2 step.2 rest

/-- What the printing of a file does, whatever the store answers. -/
structure PrintsFile (shell : Shell) (path : Path) (source : String) : Prop where
  /-- One download is requested and nothing else. -/
  asks {σ : Type} (store : Store σ) (state : σ) (styled : Bool) (metrics : Option Metrics)
    {word : String} (leads : shell.LeadsTo word path) (more : List String) :
    store.requests (shell.perform styled metrics (word :: more) .cat) state = [.download source]
  /-- The payload is printed, whatever the word was. -/
  prints {σ : Type} (store : Store σ) (state : σ) (styled : Bool) (metrics : Option Metrics)
    {word : String} (leads : shell.LeadsTo word path) (more : List String) {payload : ByteArray}
    {next : σ} (answered : store.answer (.download source) state = (.ok payload, next)) :
    store.run (shell.perform styled metrics (word :: more) .cat) state =
      ((.ok (printPayload payload), shell), next)
  /-- Nothing is printed after a failure, and the error has the failure as its cause. -/
  fails {σ : Type} (store : Store σ) (state : σ) (styled : Bool) (metrics : Option Metrics)
    {word : String} (leads : shell.LeadsTo word path) (more : List String) {error : RemoteError}
    {next : σ} (answered : store.answer (.download source) state = (.error error, next)) :
    store.run (shell.perform styled metrics (word :: more) .cat) state =
      ((.error (.unreadable word (.contentFetch source error)), shell), next)
  /-- Every printing downloads again, whatever came of those before it. -/
  again {σ : Type} (store : Store σ) (state : σ) (meter : σ → Option Metrics) (styled : Bool)
    {lines : List (List String)}
    (leads : ∀ words ∈ lines, ∃ word ∈ words.head?, shell.LeadsTo word path) :
    catRequests store meter styled shell state lines = lines.map fun _ => .download source

theorem printsFile {shell : Shell} {path : Path} {source : String}
    (holds : shell.view.HoldsFile path source) : shell.PrintsFile path source where
  asks store state styled metrics word leads more := by
    rw [perform_cat holds leads]
    rfl
  prints store state styled metrics word leads more payload next answered := by
    rw [perform_cat holds leads]
    change ((shell.printed source word (store.answer (.download source) state).1),
      (store.answer (.download source) state).2) = _
    rw [answered]
    rfl
  fails store state styled metrics word leads more error next answered := by
    rw [perform_cat holds leads]
    change ((shell.printed source word (store.answer (.download source) state).1),
      (store.answer (.download source) state).2) = _
    rw [answered]
    rfl
  again {σ} store state meter styled lines leads := by
    induction lines generalizing state with
    | nil => rfl
    | cons words rest ih =>
        obtain ⟨word, isFirst, toFile⟩ := leads words List.mem_cons_self
        obtain ⟨more, rfl⟩ := List.head?_eq_some_iff.mp isFirst
        have later := fun next => ih next fun other member =>
          leads other (List.mem_cons_of_mem _ member)
        have command := perform_cat holds toFile styled (meter state) more
        -- The next printing starts with the same shell, so its words lead to the file as well.
        have stays : (store.run (shell.perform styled (meter state) (word :: more) .cat)
            state).1.2 = shell := by
          rw [command]
          change (shell.printed source word (store.answer (.download source) state).1).2 = shell
          rcases store.answer (.download source) state with ⟨_ | _, _⟩ <;> rfl
        rw [catRequests, stays, later, command]
        rfl

end Shell

namespace Mount

variable {σ : Type} {store : Store σ} {limit : Nat} {config : MountConfig} {state : σ}
  {mount : Mount} {tree : Tree}

/-- A mount shows the tree that was gathered for it. -/
theorem eq_of_gathered
    (activated : (store.run (activate limit config) state).1 = some (.ok mount))
    (gathered : ((Gathering.root limit config.mountPoint config.remotePath).run store state).1 =
      some (.ok (some tree))) :
    config.validatePaths = .ok () ∧ mount.view =
      .ofSnapshot (Snapshot.empty.plant config.mountPoint tree) config.mountPoint := by
  cases checked : config.validatePaths with
  | error error =>
      rw [(activate_rejected checked).2] at activated
      exact absurd activated (by simp)
  | ok =>
      rw [run_activate checked, Snapshot.run_build] at activated
      dsimp only at activated
      rw [gathered] at activated
      obtain rfl := Except.ok.inj (Option.some.inj activated)
      exact ⟨rfl, rfl⟩

/-- A file that is found in the view of a planted tree is one that the tree shows. Of several
files in one place it is the last. Its content is found below it. -/
theorem exists_file {mountPoint : Path} (below : mountPoint ≠ root) (names : mountPoint.HasNames)
    (named : tree.Named IsSegment) {path : Path} (pathNames : path.HasNames) {file : Node}
    (found : View.nodeAt? ⟨Snapshot.empty.plant mountPoint.text tree, mountPoint⟩ path = some file)
    (isFile : file.primaryType = NodeKind.file.primaryType) : ∃ trail name source,
      path = mountPoint.follow trail ∧
        Tree.Shows (lastPiece mountPoint.text) tree trail (.file name) [.content source] ∧
        lastAt? (tree.placements mountPoint.text) path.text =
          some ⟨path.text, .file name, [.content source]⟩ ∧
        View.HoldsFile ⟨Snapshot.empty.plant mountPoint.text tree, mountPoint⟩ path source := by
  have isNode := found
  have notVirtual : virtualFolderType ≠ NodeKind.file.primaryType := by decide
  have notFolder : NodeKind.folder.primaryType ≠ NodeKind.file.primaryType := by decide
  have notContent : NodeKind.content.primaryType ≠ NodeKind.file.primaryType := by decide
  rw [View.nodeAt?] at found
  split_ifs at found with above
  · obtain rfl := Option.some.inj found
    exact absurd isFile notVirtual
  obtain ⟨descriptor, held, rfl⟩ := Option.map_eq_some_iff.mp found
  dsimp only at held above
  rw [Snapshot.plant, Snapshot.get?_placeAll] at held
  obtain ⟨placement, last, isDescriptor⟩ := Option.map_eq_some_iff.mp held
  obtain ⟨name, rfl⟩ : ∃ name, descriptor = .file name := by
    cases descriptor with
    | folder name => exact absurd isFile notFolder
    | file name => exact ⟨name, rfl⟩
    | content source => exact absurd isFile notContent
  obtain ⟨leads, front, rest, split, -⟩ := lastAt?_eq_some_iff.mp last
  have member : placement ∈ tree.placements mountPoint.text := by simp [split]
  obtain ⟨trail, shown, reached⟩ :=
    (Snapshot.mem_placements_mountPoint named below names.segments placement).mp member
  rw [keyAt_text below, leads] at reached
  have segments := shown.named Tree.isSegment_content named
  obtain rfl := text_injective pathNames.segments (names.segments.follow segments) reached
  obtain ⟨source, rfl, lastContent⟩ :=
    Tree.lastAt?_content named names.segments segments last isDescriptor
  refine ⟨trail, name, source, rfl, shown, last, pathNames, ⟨_, isNode, ?_, isFile⟩, ?_⟩
  · rcases List.eq_nil_or_concat trail with rfl | ⟨trail, final, rfl⟩
    · exact absurd (isAncestorOrSelf_follow mountPoint []) above
    · rw [List.concat_eq_append] at shown segments ⊢
      obtain ⟨-, -, -, -, isFinal⟩ := shown.parent
      obtain rfl : name = final := isFinal
      have parentSegments : ∀ segment ∈ trail, IsSegment segment :=
        fun segment inside => segments segment (List.mem_append_left _ inside)
      rw [follow_append_singleton, up_child]
      exact View.path_ofDescriptor (names.segments.follow parentSegments)
        (segments _ (List.mem_append_right _ List.mem_cons_self))
  · rw [← follow_append_singleton, View.nodeAt?, isAncestorOrSelf_follow, if_neg (by simp),
      Snapshot.plant, Snapshot.get?_placeAll, lastContent, follow_append_singleton, up_child]
    rfl

/-- Printing a file of a mounted snapshot, or its content, downloads the payload of the remote entry
that the file stands for, once for each printing. A success prints the payload, and a failure prints
nothing and keeps nothing. The names in the tree are segments because a store promises it: an entry
has the last segment of its path as its name, in the case in which it was written. -/
theorem prints_files
    (activated : (store.run (activate limit config) state).1 = some (.ok mount))
    (gathered : ((Gathering.root limit config.mountPoint config.remotePath).run store state).1 =
      some (.ok (some tree)))
    (named : tree.Named IsSegment) {text : String} {file : Node}
    (found : mount.view.node? text = some file)
    (isFile : file.primaryType = NodeKind.file.primaryType) : ∃ trail name source,
      parse text = mount.view.mountPoint.follow trail ∧
      Tree.Shows (lastPiece config.mountPoint) tree trail (.file name) [.content source] ∧
      lastAt? (tree.placements config.mountPoint) (parse text).text =
        some ⟨(parse text).text, .file name, [.content source]⟩ ∧
      (∀ shell : Shell, shell.view = mount.view → shell.PrintsFile (parse text) source) ∧
      ∀ payload, Shell.Prints payload (Shell.printPayload payload) := by
  obtain ⟨accepted, isView⟩ := eq_of_gathered activated gathered
  obtain ⟨below, plain, isText⟩ := MountConfig.mountPoint_of_accepted accepted
  have sees : mount.view = ⟨Snapshot.empty.plant (parse config.mountPoint).text tree,
      parse config.mountPoint⟩ := by
    rw [isView, isText]
    rfl
  rw [sees] at found
  obtain ⟨trail, name, source, leads, shown, last, holds⟩ :=
    exists_file below plain.names named (hasNames_parse text) found isFile
  rw [isText] at shown last
  refine ⟨trail, name, source, ?_, shown, last, ?_, Shell.prints_printPayload⟩
  · rw [sees]
    exact leads
  · intro shell sameView
    apply Shell.printsFile
    rw [sameView, sees]
    exact holds

/-- A gathered tree makes a mount. -/
theorem exists_of_gathered (accepted : config.validatePaths = .ok ())
    (gathered : ((Gathering.root limit config.mountPoint config.remotePath).run store state).1 =
      some (.ok (some tree))) :
    ∃ mount : Mount, (store.run (activate limit config) state).1 = some (.ok mount) := by
  rw [run_activate accepted, Snapshot.run_build]
  dsimp only
  rw [gathered]
  exact ⟨_, rfl⟩

/-! ## A store with one file -/

/-- A store whose only file has a name that is not in its path. -/
def singleFileStore : Store Unit where
  name := "single"
  answer request state := match request with
    | .list _ => (.ok ⟨[⟨.file, "a.txt", "/1"⟩], "", false⟩, state)
    | .listNext _ => (.error (.undecodable "cursor"), state)
    | .metadata path => (.error (.notFound path), state)
    | .download _ => (.ok ⟨#[104, 105]⟩, state)

/-- The only file is printed from the path that the store gave for it. -/
theorem prints_files_singleFileStore : ∃ mount : Mount,
    (singleFileStore.run (activate 2 { remotePath := "/" }) ()).1 = some (.ok mount) ∧
      (Shell.start mount.view).PrintsFile (parse "/content/dropbox/a.txt") "/1" := by
  have gathered : ((Gathering.root 2 "/content/dropbox" "/").run singleFileStore ()).1 =
      some (.ok (some (.folder "dropbox" "/" [.file "a.txt" "/1"]))) := rfl
  have named : (Tree.folder "dropbox" "/" [.file "a.txt" "/1"]).Named IsSegment :=
    .folder _ _ (by simpa using ⟨by decide, by decide⟩) (by simpa using .file _ _)
  have accepted : ({ remotePath := "/" } : MountConfig).validatePaths = .ok () := by decide
  obtain ⟨mount, activated⟩ := exists_of_gathered accepted gathered
  obtain ⟨-, isView⟩ := eq_of_gathered activated gathered
  have placed : lastAt? ((Tree.folder "dropbox" "/" [.file "a.txt" "/1"]).placements
      "/content/dropbox") (parse "/content/dropbox/a.txt").text =
        some ⟨"/content/dropbox/a.txt", .file "a.txt", [.content "/1"]⟩ := by
    rfl
  have found : mount.view.node? "/content/dropbox/a.txt" =
      some (Node.ofDescriptor "/content/dropbox" (.file "a.txt")) := by
    have outside : (parse "/content/dropbox/a.txt").isAncestorOrSelf
        (parse "/content/dropbox") = false := by decide
    have isParent : (parse "/content/dropbox/a.txt").up.text = "/content/dropbox" := by decide
    rw [isView, View.ofSnapshot, View.node?, View.nodeAt?, outside, if_neg Bool.false_ne_true,
      Snapshot.plant, Snapshot.get?_placeAll, placed, isParent]
    rfl
  obtain ⟨trail, name, source, -, -, last, prints, -⟩ :=
    prints_files activated gathered named found rfl
  rw [placed] at last
  obtain ⟨-, -, rfl⟩ : _ ∧ "a.txt" = name ∧ "/1" = source := by simpa using last
  exact ⟨mount, activated, prints _ rfl⟩

end Mount

end ContentMount
