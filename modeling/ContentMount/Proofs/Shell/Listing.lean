/-
This file compares what a listing shows with what its path asks for. A wildcard before the last
slash makes a pattern of the last piece, which may then be taken for the name of a child.
-/

import ContentMount.Proofs.Query.Coverage
import ContentMount.Proofs.Shell.Candidates
import ContentMount.Shell.Listing

namespace ContentMount

open Remote ContentMount.Path

namespace Shell

/-- The text after the last slash of a path. -/
def lastText (path : String) : String :=
  String.ofList (Completion.splitFolder path.toList).2

/-- A text has a wildcard when it has a star or a question mark. -/
def hasWildcard (text : String) : Bool :=
  text.toList.any isWildcard

/-- The children of the node that a text leads to, if it leads to one. -/
def childrenAt? (shell : Shell) (text : String) : Option (List Node) :=
  (shell.view.nodeAt? (shell.resolve text)).map (Node.children · shell.view)

/-- The nodes that are selected with a folder and a last piece. As a pattern the last piece filters
the children of the folder. Otherwise it leads on to the node whose children are selected. -/
def select? (shell : Shell) (folder last : String) (isPattern : Bool) : Option (List Node) :=
  if isPattern then
    (shell.childrenAt? folder).map (List.filter fun child => Glob.matchesName child.name last)
  else shell.childrenAt? (folder ++ last)

/-- Only a wildcard in the last piece asks for a filter. -/
def asked? (shell : Shell) (folder last : String) : Option (List Node) :=
  shell.select? folder last (hasWildcard last)

/-- A listing filters when there is a wildcard anywhere in the path. -/
def shown? (shell : Shell) (folder last : String) : Option (List Node) :=
  shell.select? folder last (hasWildcard (folder ++ last))

/-- A folder before a last piece is the location, the root, or what the text before the last slash
leads to. -/
def FolderLeads (shell : Shell) (folder : String) : Prop :=
  (folder = "" ∧ shell.resolve folder = shell.location) ∨
    (folder = "/" ∧ shell.resolve folder = root) ∨
    ∃ front, front ≠ "" ∧ folder = front ++ "/" ∧ shell.resolve folder = shell.resolve front

/-- What a listing does with a path that is made of a folder and a last piece. -/
structure Lists (shell : Shell) (folder last : String) : Prop where
  leads : shell.FolderLeads folder
  /-- Each of the nodes that are shown has a line of its own, in their order. -/
  prints (styled : Bool) {nodes : List Node} (shown : shell.shown? folder last = some nodes) :
    shell.list styled [folder ++ last] = .ok (.ofCharLines (nodes.map (shortLine styled)))
  /-- The listing fails only when the node is missing whose children are to be shown. -/
  fails (styled : Bool) (missing : shell.shown? folder last = none) :
    ∃ text, shell.list styled [folder ++ last] = .error (.mount (.notFound text))
  /-- A plain line is the name, with a slash after a folder. -/
  line (child : Node) :
    shortLine false child = child.name.toList ++ if child.isFolder then ['/'] else []
  /-- Wildcards before the last piece alone have the children shown that it is the name of. -/
  named (before : hasWildcard folder = true) (notLast : hasWildcard last = false) :
    shell.shown? folder last =
      (shell.childrenAt? folder).map (List.filter fun child => child.name == last)
  /-- These are asked for only when there is nothing to show in either way. -/
  agrees : shell.shown? folder last = shell.asked? folder last ↔
    hasWildcard folder = false ∨ hasWildcard last = true ∨
      (shell.shown? folder last = none ∧ shell.asked? folder last = none) ∨
      (shell.shown? folder last = some [] ∧ shell.asked? folder last = some [])

/-! ## Wildcards -/

theorem hasWildcard_append (first second : String) :
    hasWildcard (first ++ second) = (hasWildcard first || hasWildcard second) := by
  simp [hasWildcard]

theorem hasWildcard_eq_false_iff (text : String) :
    hasWildcard text = false ↔ Glob.IsLiteral text := by
  simp only [hasWildcard, isWildcard, Glob.IsLiteral, List.any_eq_false, Bool.not_eq_true,
    Bool.or_eq_false_iff, beq_eq_false_iff_ne]
  constructor
  · exact fun plain => ⟨fun star => (plain _ star).1 rfl, fun mark => (plain _ mark).2 rfl⟩
  · intro literal c member
    exact ⟨fun star => literal.1 (star ▸ member), fun mark => literal.2 (mark ▸ member)⟩

theorem shown?_of_before {shell : Shell} {folder last : String}
    (before : hasWildcard folder = true) :
    shell.shown? folder last = shell.select? folder last true := by
  rw [shown?, hasWildcard_append, before, Bool.true_or]

/-- Without wildcards a pattern filters by the name. -/
theorem select?_named (shell : Shell) {folder last : String} (plain : hasWildcard last = false) :
    shell.select? folder last true =
      (shell.childrenAt? folder).map (List.filter fun child => child.name == last) := by
  have literal := (hasWildcard_eq_false_iff last).mp plain
  have same (child : Node) : Glob.matchesName child.name last = (child.name == last) := by
    rw [Bool.eq_iff_iff, literal.matchesName_iff_eq, beq_iff_eq]
  simp only [select?, if_true, same]

/-! ## The folder to list -/

theorem splitAtLastSlash_slashless {path : String} (slashless : '/' ∉ path.toList) :
    splitAtLastSlash path = none := by
  rw [splitAtLastSlash, pieces_slashless slashless]
  rfl

theorem splitAtLastSlash_append (front : String) {last : String} (slashless : '/' ∉ last.toList) :
    splitAtLastSlash (front ++ "/" ++ last) = some (front, last) := by
  have joined : "/".intercalate (pieces front) = front := by
    apply String.toList_inj.mp
    have chars : (pieces front).map String.toList = front.toList.splitOn '/' := by
      simp [pieces, Function.comp_def]
    rw [String.toList_intercalate, chars]
    exact List.intercalate_splitOn '/'
  obtain ⟨before, rest, split⟩ : ∃ before rest, (pieces front).reverse = before :: rest :=
    List.exists_cons_of_ne_nil (by simpa using pieces_ne_nil front)
  rw [splitAtLastSlash, pieces_append_slash, pieces_slashless slashless, List.reverse_append,
    split]
  change some ("/".intercalate (before :: rest).reverse, last) = _
  rw [← split, List.reverse_reverse, joined]

theorem folderLeads (shell : Shell) {folder : String} (isOpen : IsOpen folder) :
    shell.FolderLeads folder := by
  rcases isOpen with rfl | ⟨front, rfl⟩
  · exact .inl ⟨rfl, resolve_empty shell.location⟩
  · by_cases empty : front = ""
    · subst empty
      exact .inr (.inl ⟨rfl, resolve_slash shell.location⟩)
    · exact .inr (.inr ⟨front, empty, rfl, resolve_append_slash shell.location empty⟩)

/-- The folder that is listed with a pattern is the one before the last piece. -/
theorem listingTarget_pattern (shell : Shell) {folder last path : String}
    (parts : Completion.Parts folder last path) (wild : hasWildcard path = true) : ∃ text,
    listingTarget (some path) = (text, some last) ∧
      shell.resolve text = shell.resolve folder := by
  obtain ⟨rfl, isOpen, slashless⟩ := parts
  have isPattern : (folder ++ last).toList.any isWildcard = true := wild
  rw [listingTarget, if_pos isPattern]
  rcases shell.folderLeads isOpen with ⟨rfl, -⟩ | ⟨rfl, -⟩ | ⟨front, nonempty, rfl, leads⟩
  · refine ⟨".", ?_, ?_⟩
    · rw [String.empty_append, splitAtLastSlash_slashless slashless]
    · have pointed := resolve_append shell.location (.inl rfl) (show '/' ∉ ".".toList by decide)
      rwa [step_of_isIdle _ (by decide)] at pointed
  · have split := splitAtLastSlash_append "" slashless
    rw [String.empty_append] at split
    rw [split]
    exact ⟨"/", rfl, rfl⟩
  · rw [splitAtLastSlash_append front slashless]
    refine ⟨front, ?_, leads.symm⟩
    dsimp only
    rw [if_neg (by simpa using nonempty)]

/-- The children of the node that a text leads to are listed, or there is an error that names the
path of the text. -/
theorem listed_of_target {shell : Shell} (names : shell.location.HasNames) {path : Option String}
    {text : String} {pattern : Option String} (target : listingTarget path = (text, pattern)) :
    shell.listed path = (orNotFound (shell.resolve text).text ((shell.childrenAt? text).map
      (List.filter fun child => match pattern with
        | none => true
        | some pattern => Glob.matchesName child.name pattern))).mapError .mount := by
  unfold listed
  rw [target]
  dsimp only
  rw [node_eq (names.resolve text), childrenAt?]
  cases shell.view.nodeAt? (shell.resolve text) <;> rfl

/-- The nodes that are shown are listed. -/
theorem listed_eq {shell : Shell} (names : shell.location.HasNames) {folder last path : String}
    (parts : Completion.Parts folder last path) : ∃ text,
    shell.listed (some path) = (orNotFound text (shell.shown? folder last)).mapError .mount := by
  have whole := parts.whole
  cases wild : hasWildcard path with
  | false =>
      have plain : ¬ path.toList.any isWildcard = true := by simpa [hasWildcard] using wild
      have target : listingTarget (some path) = (path, none) := if_neg plain
      refine ⟨(shell.resolve path).text, ?_⟩
      have all : (List.filter fun _ : Node => true) = id := funext List.filter_true
      rw [listed_of_target names target, shown?, whole, wild, select?, if_neg Bool.false_ne_true,
        whole, all, Option.map_id, id]
  | true =>
      obtain ⟨text, target, leads⟩ := shell.listingTarget_pattern parts wild
      have same : shell.childrenAt? text = shell.childrenAt? folder := by
        rw [childrenAt?, childrenAt?, leads]
      refine ⟨(shell.resolve text).text, ?_⟩
      rw [listed_of_target names target, shown?, whole, wild, select?, if_pos rfl, same]

/-- A single word that is no option is the path to list. -/
theorem list_path (shell : Shell) (styled : Bool) {path : String}
    (notOption : path.toList.head? ≠ some '-') :
    shell.list styled [path] = (shell.listed (some path)).map fun nodes =>
      .ofCharLines (nodes.map (shortLine styled)) := by
  have notLong : (path == "-l") = false := by
    rw [beq_eq_false_iff_ne]
    rintro rfl
    exact notOption rfl
  have request : readListingRequest ⟨false, none⟩ [path] = .ok ⟨false, some path⟩ := by
    simp [readListingRequest, notLong, notOption]
  unfold list
  rw [request]
  dsimp only [bind, Except.bind]
  cases shell.listed (some path) <;> rfl

theorem shortLine_plain (child : Node) :
    shortLine false child = child.name.toList ++ if child.isFolder then ['/'] else [] := by
  rw [shortLine]
  cases child.isFolder <;> simp [Text.Style.apply, Text.padTo]

end Shell

namespace Snapshot.MirrorsAt

variable {snapshot : Snapshot} {mount : Path} {tree : Tree}
  (mirror : snapshot.MirrorsAt mount tree)
include mirror

/-- No node is a child of a path and of its own path. -/
theorem not_mem_children_child {path : Path} (names : path.HasNames) {name : String}
    (isName : IsName name) {child : Node}
    (found : View.nodeAt? ⟨snapshot, mount⟩ (path.child name) = some child) :
    child ∉ View.children ⟨snapshot, mount⟩ (path.child name).text := by
  intro member
  have childNames := names.child isName
  obtain ⟨other, isOther, isText, -⟩ := mirror.of_mem_children childNames member
  have same : (path.child name).text = ((path.child name).child other).text :=
    (mirror.path_of_nodeAt? childNames found).symm.trans isText
  have equal := View.eq_of_text_child names childNames isName isOther same
  have counted := congrArg depth equal
  simp [depth] at counted

end Snapshot.MirrorsAt

namespace Mount

variable {σ : Type} {store : Store σ} {paging : Paging store} {limit : Nat} {config : MountConfig}
  {state : σ} {mount : Mount} {tree : Tree}

section

variable (mirror : mount.view.snapshot.MirrorsAt mount.view.mountPoint tree)
  (plainNames : tree.Named IsPlainName) {shell : Shell} (settled : shell.Settled mount.view)
  {folder last path : String} (parts : Completion.Parts folder last path)
  (plain : Shell.hasWildcard last = false)
include mirror plainNames settled parts plain

/-- A child that has the last piece as its name is the node that the whole path leads to. -/
theorem resolve_of_mem_select? {nodes : List Node}
    (filtered : shell.select? folder last true = some nodes) {child : Node}
    (member : child ∈ nodes) : ∃ above : Path, above.HasNames ∧ IsName child.name ∧
      shell.resolve path = above.child child.name ∧
        mount.view.nodeAt? (above.child child.name) = some child := by
  have names := settled.names.resolve folder
  rw [Shell.select?_named shell plain] at filtered
  obtain ⟨children, inFolder, rfl⟩ := Option.map_eq_some_iff.mp filtered
  obtain ⟨node, isNode, rfl⟩ := Option.map_eq_some_iff.mp inFolder
  rw [settled.sees] at isNode member
  obtain ⟨among, named⟩ := List.mem_filter.mp member
  rw [Node.children, mirror.path_of_nodeAt? names isNode] at among
  obtain ⟨isPlain, found⟩ := mirror.plain_of_mem_children plainNames names among
  refine ⟨_, names, isPlain.toIsName, ?_, found⟩
  rw [← parts.whole, Shell.resolve, resolve_append _ parts.isOpen parts.slashless,
    ← beq_iff_eq.mp named, isPlain.step]

/-- The children that have the last piece as their name are never the ones that the whole path leads
to, unless there are none. -/
theorem select?_eq_iff :
    shell.select? folder last true = shell.select? folder last false ↔
      (shell.select? folder last true = none ∧ shell.select? folder last false = none) ∨
      (shell.select? folder last true = some [] ∧
        shell.select? folder last false = some []) := by
  constructor
  · intro same
    cases led : shell.select? folder last false with
    | none => exact .inl ⟨same.trans led, rfl⟩
    | some nodes =>
        have filtered := same.trans led
        obtain rfl : nodes = [] := by
          -- A node that is selected in both ways would be one of its own children.
          rw [List.eq_nil_iff_forall_not_mem]
          intro child member
          obtain ⟨above, names, isName, leads, found⟩ :=
            resolve_of_mem_select? mirror plainNames settled parts plain filtered member
          have whole : shell.childrenAt? path = some nodes := parts.whole ▸ led
          rw [Shell.childrenAt?, leads, settled.sees, found] at whole
          have own : child.children mount.view = nodes := Option.some.inj whole
          rw [← own, Node.children,
            mirror.path_of_nodeAt? (names.child isName) found] at member
          exact mirror.not_mem_children_child names isName found member
        exact .inr ⟨filtered, rfl⟩
  · rintro (⟨one, other⟩ | ⟨one, other⟩)
    · exact one.trans other.symm
    · exact one.trans other.symm

end

/-- With a path that is no option, a listing shows the children of one node. They are what the path
asks for, unless there are wildcards before the last piece alone. -/
theorem lists_path
    (activated : (store.run (activate limit config) state).1 = some (.ok mount))
    (wellNamed : tree.WellNamed) (served : paging.ServesAt state config.remotePath tree)
    {shell : Shell} (settled : shell.Settled mount.view) {path : String}
    (notOption : path.toList.head? ≠ some '-') :
    Completion.Parts (Completion.folderText path) (Shell.lastText path) path ∧
      shell.Lists (Completion.folderText path) (Shell.lastText path) := by
  have mirror := mirrorsAt_of_activate activated wellNamed served
  have plainNames := (Tree.wellNamed_iff.mp wellNamed).1
  have parts : Completion.Parts (Completion.folderText path) (Shell.lastText path) path :=
    Completion.parts_folderText path
  obtain ⟨text, listed⟩ := Shell.listed_eq settled.names parts
  refine ⟨parts, ?_⟩
  constructor
  case leads => exact shell.folderLeads parts.isOpen
  case prints =>
    intro styled nodes shown
    rw [parts.whole, Shell.list_path shell styled notOption, listed, shown]
    rfl
  case fails =>
    intro styled missing
    rw [parts.whole, Shell.list_path shell styled notOption, listed, missing]
    exact ⟨text, rfl⟩
  case line => exact Shell.shortLine_plain
  case named =>
    intro before notLast
    rw [Shell.shown?_of_before before, Shell.select?_named shell notLast]
  case agrees =>
    cases before : Shell.hasWildcard (Completion.folderText path) with
    | false => simp [Shell.shown?, Shell.asked?, Shell.hasWildcard_append, before]
    | true =>
        rw [Shell.shown?_of_before before, Shell.asked?]
        cases notLast : Shell.hasWildcard (Shell.lastText path) with
        | true => simp
        | false => simpa using select?_eq_iff mirror plainNames settled parts notLast

/-! ## A folder with a question mark in its name -/

/-- The single page of each listing of the store. -/
def markedPage : Listing → List Entry
  | .first path =>
    if path == "/" then [⟨.folder, "why?", "/why?"⟩] else [⟨.file, "a.txt", "/why?/a.txt"⟩]
  | .after _ => []

/-- A store with a file in a folder that has a question mark in its name. -/
def markedStore : Store Unit where
  name := "marked"
  answer request state := match request with
    | .list path => (.ok ⟨markedPage (.first path), "", false⟩, state)
    | .listNext cursor => (.ok ⟨markedPage (.after cursor), "", false⟩, state)
    | .metadata path => (.error (.notFound path), state)
    | .download path => (.error (.notFound path), state)

def markedPaging : Paging markedStore where
  holds _ listing pages := pages = [markedPage listing]
  page := by
    rintro state listing _ rfl
    exact ⟨_, _, "", (), rfl, by cases listing <;> rfl, fun more => absurd rfl more⟩
  spends _ _ := False
  keeps held _ _ := ⟨_, rfl, held⟩
  fresh _ _ _ _ _ _ := not_false

def markedTree : Tree := .folder "" "/" [.folder "why?" "/why?" [.file "a.txt" "/why?/a.txt"]]

theorem markedTree_wellNamed : markedTree.WellNamed := by
  have inside : (Tree.folder "why?" "/why?" [.file "a.txt" "/why?/a.txt"]).WellNamed :=
    .folder _ _ (by decide) (by decide) (by simpa using .file _ _)
  exact .folder _ _ (by decide) (by decide) (by simpa using inside)

theorem markedTree_servedAt : markedPaging.ServesAt () "/" markedTree := by
  have inside : markedPaging.Serves ()
      (.folder "why?" "/why?" [.file "a.txt" "/why?/a.txt"]) :=
    .folder _ _ rfl rfl (by simpa using .file _ _)
  exact ⟨.folder _ _ rfl rfl (by simpa using inside), rfl, rfl⟩

/-- In the mounted store a slash after the name of the folder asks for its file, but nothing is
shown. -/
theorem lists_path_markedStore :
    ∃ mount : Mount,
      (∃ limit, (markedStore.run (activate limit { remotePath := "/" }) ()).1 =
        some (.ok mount)) ∧
      (Shell.start mount.view).asked? "why?/" "" =
        some [.ofDescriptor "/content/dropbox/why?" (.file "a.txt")] ∧
      (Shell.start mount.view).shown? "why?/" "" = some [] ∧
      (Shell.start mount.view).list false ["why?/"] = .ok ⟨"", ""⟩ := by
  have accepted : ({ remotePath := "/" } : MountConfig).validatePaths = .ok () := by decide
  obtain ⟨mount, ⟨enough, ends⟩, isView⟩ := exists_of_build accepted
    (Snapshot.build_plants markedTree_servedAt "/content/dropbox")
  have activated := ends enough (Nat.le_refl enough)
  have names : mount.view.mountPoint.HasNames := isView ▸ hasNames_parse "/content/dropbox"
  have mirror := mirrorsAt_of_activate activated markedTree_wellNamed markedTree_servedAt
  have inFolder : Tree.Shows (lastPiece mount.view.mountPoint.text) markedTree ["why?"]
      (.folder "why?") [.file "a.txt"] := .down _ _ _ List.mem_cons_self (.here _ _)
  have found := mirror.nodeAt?_follow
    (show Tree.Shows _ markedTree ([] ++ ["why?"]) _ _ from inFolder)
  have held := mirror.children_follow inFolder
  have isText : (mount.view.mountPoint.follow ["why?"]).text = "/content/dropbox/why?" := by
    rw [isView]
    decide
  have leads : (Shell.start mount.view).resolve "why?/" =
      mount.view.mountPoint.follow ["why?"] := by
    change mount.view.mountPoint.resolve "why?/" = _
    rw [isView]
    decide
  have led : (Shell.start mount.view).childrenAt? "why?/" =
      some [.ofDescriptor "/content/dropbox/why?" (.file "a.txt")] := by
    have isPath := mirror.path_of_nodeAt? (mirror.names_follow inFolder) found
    rw [Shell.childrenAt?, leads]
    change Option.map (Node.children · mount.view) (mount.view.nodeAt? _) = _
    rw [List.nil_append] at found
    rw [found, Option.map_some, Node.children, isPath,
      View.children_text _ (mirror.names_follow inFolder), held, isText]
    rfl
  have notOption : "why?/".toList.head? ≠ some '-' := by decide
  obtain ⟨-, lists⟩ := lists_path activated markedTree_wellNamed markedTree_servedAt
    (Shell.settled_start names) notOption
  have split : Completion.folderText "why?/" = "why?/" ∧ Shell.lastText "why?/" = "" := by decide
  rw [split.1, split.2] at lists
  have shown : (Shell.start mount.view).shown? "why?/" "" = some [] := by
    rw [lists.named (by decide) (by decide), led]
    decide
  exact ⟨mount, ⟨enough, activated⟩, led, shown, lists.prints false shown⟩

end Mount

end ContentMount
