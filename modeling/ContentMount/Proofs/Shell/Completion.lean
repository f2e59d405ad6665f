/-
This file takes up what completion offers. The completed line is read as its command and one word
that leads to the offered child exactly when the name of the child reads back.
-/

import ContentMount.Proofs.Mount.Published
import ContentMount.Proofs.Path.Following
import ContentMount.Proofs.Shell.Turns
import ContentMount.Proofs.Shell.Words
import ContentMount.Shell.Completion

namespace ContentMount

open Remote ContentMount.Path

/-- The name of a node reads back when each of its characters is plain and no blank at its end is
lost. A folder is written with a slash after its name, which keeps such a blank. -/
structure Node.ReadsBack (node : Node) : Prop where
  plain : ∀ c ∈ node.name.toList, Words.isPlain c = true
  ended : node.isFolder = true ∨ ∀ c, node.name.toList.getLast? = some c → Text.isBlank c = false

namespace Completion

/-- The line that a candidate makes of a line from a position on. -/
def accept? (line : String) (start : Nat) (candidate : Candidate) : Option String :=
  (before? start line.toList).map fun front => String.ofList front ++ candidate.written

/-- The text of the folder in which a partial path is to be completed. -/
def folderText (typed : String) : String :=
  String.ofList (splitFolder typed.toList).1

/-- The children that a partial path is the start of. A change of directory is offered folders
only. -/
def fitting (shell : Shell) (command typed : String) : List Node :=
  let folder := shell.completion.resolve (folderText typed)
  (shell.completion.view.children folder.text).filter fun child =>
    (splitFolder typed.toList).2.isPrefixOf child.name.toList &&
      (command.toList != "cd".toList || child.isFolder)

/-- The candidate that stands for a child. -/
def candidateFor (typed : String) (child : Node) : Candidate :=
  candidate (splitFolder typed.toList).1 ⟨child.name, child.isFolder⟩

/-- A line asks for the completion of a partial path after a command. The partial path may be empty,
and it has no blanks, quotes and backslashes. -/
structure Asks (command gap typed : String) : Prop where
  command : command ∈ ["cd", "cat", "props"]
  gapNonempty : gap ≠ ""
  separate : ∀ c ∈ gap.toList, Words.isSeparator c = true
  unblank : ∀ c ∈ typed.toList, Text.isBlank c = false
  unquoted : ∀ c ∈ typed.toList, Words.mark? c = none ∧ c ≠ '\\'

namespace Asks

variable {command gap typed : String} (asks : Asks command gap typed)
include asks

theorem nonempty : command.toList ≠ [] := by
  have each : ∀ command ∈ ["cd", "cat", "props"], command.toList ≠ [] := by decide
  exact each command asks.command

theorem commandUnblank : ∀ c ∈ command.toList, Text.isBlank c = false := by
  have each : ∀ command ∈ ["cd", "cat", "props"],
      command.toList.Forall fun c => Text.isBlank c = false := by decide
  exact List.forall_iff_forall_mem.mp (each command asks.command)

theorem commandPlain : ∀ c ∈ command.toList, Words.isPlain c = true := by
  have each : ∀ command ∈ ["cd", "cat", "props"],
      command.toList.Forall fun c => Words.isPlain c = true := by decide
  exact List.forall_iff_forall_mem.mp (each command asks.command)

theorem gapChars : gap.toList ≠ [] :=
  mt String.toList_eq_nil_iff.mp asks.gapNonempty

theorem blank : ∀ c ∈ gap.toList, Text.isBlank c = true :=
  fun c member => Words.isBlank_of_isSeparator (asks.separate c member)

theorem typedPlain : ∀ c ∈ typed.toList, Words.isPlain c = true := by
  intro c member
  obtain ⟨noMark, noEscape⟩ := asks.unquoted c member
  refine Words.isPlain_eq_true_iff.mpr ⟨?_, noMark, noEscape⟩
  cases separates : Words.isSeparator c with
  | false => rfl
  | true =>
      have blank := Words.isBlank_of_isSeparator separates
      rw [asks.unblank c member] at blank
      cases blank

end Asks

/-! ## Positions -/

theorem byteLength_append (front rest : List Char) :
    byteLength (front ++ rest) = byteLength front + byteLength rest := by
  induction front with
  | nil => simp [byteLength]
  | cons c front ih => rw [List.cons_append, byteLength, byteLength, ih, Nat.add_assoc]

/-- The length of the front is the position after it. -/
theorem before?_byteLength (front rest : List Char) :
    before? (byteLength front) (front ++ rest) = some front := by
  induction front with
  | nil => rw [byteLength, before?]
  | cons c front ih =>
      have positive := c.utf8Size_pos
      obtain ⟨position, isNext⟩ : ∃ position, byteLength (c :: front) = position + 1 :=
        ⟨byteLength (c :: front) - 1, by rw [byteLength]; omega⟩
      have inside : ¬ position + 1 < c.utf8Size := by
        rw [← isNext, byteLength]
        omega
      have remaining : position + 1 - c.utf8Size = byteLength front := by
        rw [← isNext, byteLength]
        omega
      rw [isNext, List.cons_append, before?, if_neg inside, remaining, ih]
      rfl

/-! ## Parts of a line -/

theorem words_append_blank {c : Char} (blank : Text.isBlank c = true) (front rest : List Char) :
    Text.words (front ++ c :: rest) = Text.words front ++ Text.words rest := by
  rw [Text.words, List.splitOnP_append_cons _ _ blank, List.filter_append]
  rfl

theorem words_gap {gap : List Char} (blank : ∀ c ∈ gap, Text.isBlank c = true) (rest : List Char) :
    Text.words (gap ++ rest) = Text.words rest := by
  induction gap with
  | nil => rfl
  | cons c gap ih =>
      have first := words_append_blank (blank c List.mem_cons_self) [] (gap ++ rest)
      rw [List.nil_append] at first
      rw [List.cons_append, first, ih fun d member => blank d (List.mem_cons_of_mem c member)]
      rfl

theorem words_unblank {text : List Char} (nonempty : text ≠ [])
    (unblank : ∀ c ∈ text, Text.isBlank c = false) : Text.words text = [text] := by
  rw [Text.words, List.splitOnP_eq_singleton unblank]
  simp [nonempty]

theorem splitFolder_eq (path : List Char) :
    splitFolder path = (path.rdropWhile (· != '/'), path.rtakeWhile (· != '/')) := by
  have whole : path.rdropWhile (· != '/') ++ path.rtakeWhile (· != '/') = path :=
    List.rdropWhile_append_rtakeWhile
  have isName : (path.reverse.takeWhile (· != '/')).reverse = path.rtakeWhile (· != '/') := rfl
  have counted := congrArg List.length whole
  rw [List.length_append] at counted
  have front : path.length - (path.rtakeWhile (· != '/')).length =
      (path.rdropWhile (· != '/')).length := by omega
  rw [splitFolder, isName, front]
  exact congrArg (·, _) (List.prefix_iff_eq_take.mp (List.rdropWhile_prefix _ path)).symm

/-- A line has its command and the words of its partial path. -/
theorem Asks.words_line {command gap typed : String} (asks : Asks command gap typed) :
    Text.words (command.toList ++ (gap.toList ++ typed.toList)) =
      command.toList :: Text.words typed.toList := by
  obtain ⟨c, rest, split⟩ := List.exists_cons_of_ne_nil asks.gapChars
  have blank := asks.blank
  rw [split] at blank ⊢
  rw [List.cons_append, words_append_blank (blank c List.mem_cons_self),
    words_unblank asks.nonempty asks.commandUnblank,
    words_gap fun d member => blank d (List.mem_cons_of_mem c member)]
  rfl

/-- The folder and the start of the name make the partial path. -/
theorem append_splitFolder (path : List Char) :
    (splitFolder path).1 ++ (splitFolder path).2 = path := by
  rw [splitFolder_eq]
  exact List.rdropWhile_append_rtakeWhile

theorem mem_of_mem_folderText {typed : String} {c : Char} (member : c ∈ (folderText typed).toList) :
    c ∈ typed.toList := by
  rw [folderText, String.toList_ofList] at member
  rw [← append_splitFolder typed.toList]
  exact List.mem_append_left _ member

/-- The folder ends where a piece may start. -/
theorem isOpen_folderText (typed : String) : IsOpen (folderText typed) := by
  rw [folderText, splitFolder_eq]
  rcases List.eq_nil_or_concat (typed.toList.rdropWhile (· != '/')) with none | ⟨front, c, split⟩
  · exact .inl (by rw [none])
  · have nonempty : typed.toList.rdropWhile (· != '/') ≠ [] := by simp [split]
    have isSlash : c = '/' := by
      have last := List.rdropWhile_last_not (· != '/') typed.toList nonempty
      simpa [split] using last
    refine .inr ⟨String.ofList front, ?_⟩
    apply String.toList_inj.mp
    simp [split, isSlash]

/-- The partial path is the last word of the line, also when it is empty. -/
theorem Asks.lastWord_line {command gap typed : String} (asks : Asks command gap typed) :
    lastWord (command.toList ++ (gap.toList ++ typed.toList)) = typed.toList := by
  by_cases empty : typed.toList = []
  · obtain ⟨front, c, split⟩ := (List.eq_nil_or_concat' gap.toList).resolve_left asks.gapChars
    have last : Text.isBlank c = true := asks.blank c (by simp [split])
    simp [lastWord, empty, split, last]
  · rw [lastWord, asks.words_line, words_unblank empty asks.unblank]
    obtain ⟨front, c, split⟩ := (List.eq_nil_or_concat' typed.toList).resolve_left empty
    have last : Text.isBlank c = false := asks.unblank c (by simp [split])
    simp [split, last]

theorem ofPath_eq (shell : Shell) (command typed : String) :
    ofPath shell command.toList typed.toList =
      (fitting shell command typed).map (candidateFor typed) := by
  have opened : ofPath shell command.toList typed.toList =
      ((entries shell (folderText typed)).filter fun entry =>
        (splitFolder typed.toList).2.isPrefixOf entry.name.toList &&
          (command.toList != "cd".toList || entry.isFolder)).map
        (candidate (splitFolder typed.toList).1) := rfl
  simp only [opened, entries, fitting, List.filter_map, List.map_map, Function.comp_def]
  rfl

/-- The line asks for the children that fit, and their candidates start after the gap. -/
theorem complete?_eq {shell : Shell} {command gap typed : String} (asks : Asks command gap typed) :
    complete? shell (command ++ gap ++ typed) (byteLength (command ++ gap ++ typed).toList) =
      some (byteLength (command ++ gap).toList,
        (fitting shell command typed).map (candidateFor typed)) := by
  have whole := before?_byteLength (command ++ gap ++ typed).toList []
  rw [List.append_nil] at whole
  have parts : (command ++ gap ++ typed).toList =
      command.toList ++ (gap.toList ++ typed.toList) := by simp
  have start : byteLength (command ++ gap ++ typed).toList - byteLength typed.toList =
      byteLength (command ++ gap).toList := by
    rw [String.toList_append, byteLength_append, Nat.add_sub_cancel]
  have notCommand : ((Text.words typed.toList).isEmpty && !typed.toList.isEmpty) = false := by
    by_cases empty : typed.toList = []
    · simp [empty]
    · simp [words_unblank empty asks.unblank]
  rw [complete?, whole, Option.map_some, ofLine, parts, asks.words_line]
  simp only [asks.lastWord_line, notCommand]
  rw [← parts, start, if_neg Bool.false_ne_true, ofPath_eq]

/-! ## What is read -/

/-- The name and perhaps a slash, as completion writes them. -/
def writtenEnd (child : Node) : List Char :=
  child.name.toList ++ if child.isFolder then ['/'] else []

theorem writtenEnd_of_file {child : Node} (isFile : child.isFolder = false) :
    writtenEnd child = child.name.toList := by
  simp [writtenEnd, isFile]

theorem writtenEnd_of_folder {child : Node} (isFolder : child.isFolder = true) :
    writtenEnd child = child.name.toList ++ ['/'] := by
  simp [writtenEnd, isFolder]

/-- The completed line keeps the command and the gap. After them it has the folder and the name. -/
theorem accept?_eq (command gap typed : String) (child : Node) :
    accept? (command ++ gap ++ typed) (byteLength (command ++ gap).toList)
        (candidateFor typed child) =
      some (String.ofList (command.toList ++
        (gap.toList ++ ((folderText typed).toList ++ writtenEnd child)))) := by
  have split : (command ++ gap ++ typed).toList = (command ++ gap).toList ++ typed.toList :=
    String.toList_append
  rw [accept?, split, before?_byteLength, Option.map_some, candidateFor, candidate, writtenEnd,
    folderText]
  refine congrArg some (String.toList_inj.mp ?_)
  cases child.isFolder <;> simp

/-- What is left of the line after its blanks at the end are cut is read from the folder on. -/
theorem read_accepted_iff {command gap typed : String} (asks : Asks command gap typed)
    (child : Node) (word : String) :
    Words.read (Text.trim (command.toList ++
        (gap.toList ++ ((folderText typed).toList ++ writtenEnd child)))) = .ok [command, word] ↔
      Words.readFrom none (folderText typed).toList
        (Text.dropEndWhile Text.isBlank (writtenEnd child)) = .ok [word.toList] := by
  have stays : Text.dropEndWhile Text.isBlank (folderText typed).toList =
      (folderText typed).toList :=
    Text.dropEndWhile_eq_self_iff.mpr fun c last =>
      asks.unblank c (mem_of_mem_folderText (List.mem_of_getLast? last))
  have plain : ∀ c ∈ (folderText typed).toList, Words.isPlain c = true := fun c member =>
    asks.typedPlain c (mem_of_mem_folderText member)
  rw [Words.read, Words.readFrom_trim asks.nonempty asks.commandPlain asks.gapChars
    asks.separate asks.commandUnblank, Text.dropEndWhile_append_of_stays stays,
    Words.readFrom_append plain, List.nil_append]
  constructor
  · intro read
    obtain ⟨words, inner, same⟩ := Words.exists_of_map_eq_ok read
    obtain ⟨others, rest, rfl⟩ := Words.exists_of_map_eq_ok inner
    obtain ⟨single, rfl, isWord⟩ := List.map_eq_singleton_iff.mp (List.cons.inj same).2
    rw [rest, ← isWord, String.toList_ofList]
  · intro rest
    rw [rest]
    simp [Except.map]

/-! ## Where the word leads -/

/-- A single piece after the folder leads to the child only when it is the name. -/
theorem eq_name_of_resolve {location : Path} {folder name : String} (isOpen : IsOpen folder)
    {piece : List Char} (slashless : '/' ∉ piece)
    (leads : location.resolve (folder ++ String.ofList piece) =
      (location.resolve folder).child name) : piece = name.toList := by
  rw [resolve_append location isOpen (by rwa [String.toList_ofList])] at leads
  rw [← eq_of_step_eq_child leads, String.toList_ofList]

theorem slashless_of_sublist {child : Node} (plain : IsPlainName child.name) {kept : List Char}
    (sublist : kept.Sublist child.name.toList) : '/' ∉ kept :=
  fun member => plain.slashless (sublist.subset member)

/-- What is kept of the name of a file leads to the file only when it is the whole name. -/
theorem eq_name_of_keeps {location : Path} {folder : String} (isOpen : IsOpen folder)
    {child : Node} (plain : IsPlainName child.name) {kept : List Char}
    (sublist : kept.Sublist child.name.toList)
    (leads : location.resolve (String.ofList (folder.toList ++ kept)) =
      (location.resolve folder).child child.name) : kept = child.name.toList := by
  rw [String.ofList_append, String.ofList_toList] at leads
  exact eq_name_of_resolve isOpen (slashless_of_sublist plain sublist) leads

/-- What is kept of the name of a folder leads to the folder only when it is the whole name. The
slash after it is always kept. -/
theorem eq_name_slash_of_keeps {location : Path} {folder : String} (isOpen : IsOpen folder)
    {child : Node} (plain : IsPlainName child.name) {kept : List Char}
    (keeps : Words.Keeps none kept (child.name.toList ++ ['/']))
    (leads : location.resolve (String.ofList (folder.toList ++ kept)) =
      (location.resolve folder).child child.name) : kept = child.name.toList ++ ['/'] := by
  obtain ⟨front, slash, rfl, inName, inSlash⟩ := List.sublist_append_iff.mp keeps.sublist
  have slashless := slashless_of_sublist plain inName
  have isSlash : slash = ['/'] := by
    rcases List.sublist_singleton.mp inSlash with rfl | rfl
    · have present : '/' ∈ ((front ++ []).filter Words.isPlain) := by
        rw [keeps.plain]
        exact List.mem_filter.mpr ⟨by simp, by decide⟩
      rw [List.append_nil] at present
      exact absurd (List.mem_of_mem_filter present) slashless
    · rfl
  subst isSlash
  rw [← List.append_assoc, String.ofList_append, String.ofList_append,
    String.ofList_toList] at leads
  have nonempty : folder ++ String.ofList front ≠ "" := by
    -- A single slash would lead to the root, which is no child.
    intro empty
    rw [empty, String.empty_append, resolve_slash] at leads
    exact View.child_ne_root _ _ leads.symm
  have leadsFront := (resolve_append_slash location nonempty).symm.trans leads
  rw [eq_name_of_resolve isOpen slashless leadsFront]

/-- The characters that are kept lead to the child only when nothing is cut or left out. -/
theorem eq_writtenEnd_of_keeps {location : Path} {folder : String} (isOpen : IsOpen folder)
    {child : Node} (plain : IsPlainName child.name) {kept : List Char}
    (keeps : Words.Keeps none kept (Text.dropEndWhile Text.isBlank (writtenEnd child)))
    (leads : location.resolve (String.ofList (folder.toList ++ kept)) =
      (location.resolve folder).child child.name) : kept = writtenEnd child := by
  cases isFolder : child.isFolder with
  | false =>
      rw [writtenEnd_of_file isFolder] at keeps ⊢
      exact eq_name_of_keeps isOpen plain
        (keeps.sublist.trans (List.rdropWhile_prefix _ _).sublist) leads
  | true =>
      rw [writtenEnd_of_folder isFolder, dropEndWhile_append_kept _ (by decide)] at keeps
      rw [writtenEnd_of_folder isFolder]
      exact eq_name_slash_of_keeps isOpen plain keeps leads

/-- The whole end of the line leads to the child. -/
theorem resolve_writtenEnd (location : Path) {folder : String} (isOpen : IsOpen folder)
    {child : Node} (plain : IsPlainName child.name) :
    location.resolve (String.ofList (folder.toList ++ writtenEnd child)) =
      (location.resolve folder).child child.name := by
  have named : location.resolve (folder ++ child.name) =
      (location.resolve folder).child child.name := by
    rw [resolve_append location isOpen plain.slashless, plain.step]
  cases isFolder : child.isFolder with
  | false =>
      rw [writtenEnd_of_file isFolder, String.ofList_append, String.ofList_toList,
        String.ofList_toList, named]
  | true =>
      have written : String.ofList (folder.toList ++ writtenEnd child) =
          folder ++ child.name ++ "/" :=
        String.toList_inj.mp (by simp [writtenEnd, isFolder])
      have nonempty : folder ++ child.name ≠ "" := by
        intro empty
        have chars := congrArg String.toList empty
        simp [plain.nonempty] at chars
      rw [written, resolve_append_slash location nonempty, named]

theorem readsBack_iff (child : Node) :
    child.ReadsBack ↔ (∀ c ∈ writtenEnd child, Words.isPlain c = true) ∧
      Text.dropEndWhile Text.isBlank (writtenEnd child) = writtenEnd child := by
  cases isFolder : child.isFolder with
  | false =>
      rw [writtenEnd_of_file isFolder, Text.dropEndWhile_eq_self_iff]
      exact ⟨fun reads => ⟨reads.plain, reads.ended.resolve_left (by simp [isFolder])⟩,
        fun reads => ⟨reads.1, .inr reads.2⟩⟩
  | true =>
      have stays : Text.dropEndWhile Text.isBlank (child.name.toList ++ ['/']) =
          child.name.toList ++ ['/'] := dropEndWhile_append_kept _ (by decide)
      have slash : Words.isPlain '/' = true := by decide
      rw [writtenEnd_of_folder isFolder, stays]
      refine ⟨fun reads => ⟨?_, rfl⟩, fun reads => ⟨fun c member => ?_, .inl isFolder⟩⟩
      · intro c member
        rcases List.mem_append.mp member with inName | last
        · exact reads.plain c inName
        · rwa [List.mem_singleton.mp last]
      · exact reads.1 c (List.mem_append_left _ member)

/-- The end of the line is read as one word that leads to the child exactly when the name of the
child reads back. -/
theorem exists_word_iff (location : Path) {folder : String} (isOpen : IsOpen folder)
    {child : Node} (plain : IsPlainName child.name) :
    (∃ word : String, Words.readFrom none folder.toList
        (Text.dropEndWhile Text.isBlank (writtenEnd child)) = .ok [word.toList] ∧
      location.resolve word = (location.resolve folder).child child.name) ↔
      child.ReadsBack := by
  rw [readsBack_iff]
  constructor
  · rintro ⟨word, read, leads⟩
    obtain ⟨kept, flat, keeps⟩ := Words.exists_keeps read
    obtain rfl : word = String.ofList (folder.toList ++ kept) :=
      String.toList_inj.mp (by simpa using flat)
    have whole := eq_writtenEnd_of_keeps isOpen plain keeps leads
    have stays : Text.dropEndWhile Text.isBlank (writtenEnd child) = writtenEnd child := by
      have cut := List.rdropWhile_prefix Text.isBlank (writtenEnd child)
      have longer := keeps.sublist.length_le
      rw [whole] at longer
      exact cut.eq_of_length (Nat.le_antisymm cut.length_le longer)
    refine ⟨fun c member => ?_, stays⟩
    by_contra special
    rw [stays, whole] at keeps
    exact Nat.lt_irrefl _ (keeps.shorter (.inr ⟨c, member, by simpa using special⟩))
  · rintro ⟨allPlain, stays⟩
    refine ⟨String.ofList (folder.toList ++ writtenEnd child), ?_,
      resolve_writtenEnd location isOpen plain⟩
    have read := Words.readFrom_append allPlain folder.toList []
    rw [List.append_nil] at read
    have nonempty : folder.toList ++ writtenEnd child ≠ [] := by
      have named : child.name.toList ≠ [] := mt String.toList_eq_nil_iff.mp plain.nonempty
      simp [writtenEnd, named]
    rw [stays, read, Words.readFrom, Words.endLine, Words.endWord,
      if_neg (by simpa using nonempty), String.toList_ofList]

end Completion

/-! ## Children of mounted folders -/

namespace Snapshot.MirrorsAt

variable {snapshot : Snapshot} {mount : Path} {tree : Tree}
  (mirror : snapshot.MirrorsAt mount tree)
include mirror

/-- A child of a path has a plain name and is found one step along it. -/
theorem plain_of_mem_children (plain : tree.Named IsPlainName) {path : Path}
    (names : path.HasNames) {child : Node}
    (member : child ∈ View.children ⟨snapshot, mount⟩ path.text) :
    IsPlainName child.name ∧
      View.nodeAt? ⟨snapshot, mount⟩ (path.child child.name) = some child := by
  obtain ⟨name, isName, isText, found, -⟩ := mirror.of_mem_children names member
  obtain rfl : child.name = name := by
    rw [Node.name, isText, nameText_child names.segments isName.toIsSegment]
  rw [View.children_text _ names] at member
  obtain ⟨descriptor, inside, rfl⟩ := List.mem_map.mp member
  have plainName := mirror.named_of_mem_children Tree.isPlainName_content plain names inside
  have named : (Node.ofDescriptor path.text descriptor).name = descriptor.name := by
    rw [Node.name, View.path_ofDescriptor names.segments plainName.toIsSegment,
      nameText_child names.segments plainName.toIsSegment]
  exact ⟨named ▸ plainName, found⟩

/-- Only the path to a node leads to it. -/
theorem node_eq_ok_iff {path target : Path} (names : path.HasNames) (targetNames : target.HasNames)
    {node : Node} (found : View.nodeAt? ⟨snapshot, mount⟩ path = some node) :
    View.node ⟨snapshot, mount⟩ target.text = .ok node ↔ target = path := by
  rw [View.node, View.node?_text _ targetNames]
  constructor
  · intro looked
    have there : View.nodeAt? ⟨snapshot, mount⟩ target = some node := by
      cases held : View.nodeAt? ⟨snapshot, mount⟩ target with
      | none => simp [held, orNotFound] at looked
      | some other =>
          rw [held] at looked
          exact congrArg some (Except.ok.inj looked)
    have sameText := (mirror.path_of_nodeAt? targetNames there).symm.trans
      (mirror.path_of_nodeAt? names found)
    exact text_injective targetNames.segments names.segments sameText
  · rintro rfl
    rw [found]
    rfl

end Snapshot.MirrorsAt

theorem Shell.node_eq_ok_iff (shell : Shell) (text : String) (node : Node) :
    shell.node text = .ok node ↔ shell.view.node (shell.resolve text).text = .ok node := by
  rw [Shell.node]
  cases shell.view.node (shell.resolve text).text <;> simp [Except.mapError]

namespace Mount

variable {σ : Type} {store : Store σ} {paging : Paging store} {limit : Nat} {config : MountConfig}
  {state : σ} {mount : Mount} {tree : Tree}

/-- A mount of a well-named tree mirrors it. -/
theorem mirrorsAt_of_activate
    (activated : (store.run (activate limit config) state).1 = some (.ok mount))
    (wellNamed : tree.WellNamed) (served : paging.ServesAt state config.remotePath tree) :
    mount.view.snapshot.MirrorsAt mount.view.mountPoint tree := by
  obtain ⟨accepted, -⟩ := eq_of_activate activated
  obtain ⟨below, plain, isText⟩ := MountConfig.mountPoint_of_accepted accepted
  rw [run_activate accepted] at activated
  obtain ⟨outcome, built, mapped⟩ := Option.map_eq_some_iff.mp activated
  rw [Snapshot.eq_of_build served built] at mapped
  obtain rfl := Except.ok.inj mapped
  have mirror := Snapshot.mirrorsAt_plant wellNamed below plain.names
  rwa [isText] at mirror

/-- A partial path is completed to the children that fit. Once a candidate is taken over, the line
is read as the command and one word that leads to the child exactly when the name of the child reads
back. -/
theorem completed_reads_iff
    (activated : (store.run (activate limit config) state).1 = some (.ok mount))
    (wellNamed : tree.WellNamed) (served : paging.ServesAt state config.remotePath tree)
    {shell : Shell} (settled : shell.Settled mount.view) {command gap typed : String}
    (asks : Completion.Asks command gap typed) :
    Completion.complete? shell (command ++ gap ++ typed)
        (Completion.byteLength (command ++ gap ++ typed).toList) =
      some (Completion.byteLength (command ++ gap).toList,
        (Completion.fitting shell command typed).map (Completion.candidateFor typed)) ∧
    ∀ child ∈ Completion.fitting shell command typed, ∃ line,
      Completion.accept? (command ++ gap ++ typed) (Completion.byteLength (command ++ gap).toList)
        (Completion.candidateFor typed child) = some line ∧
      ((∃ word, Words.read (Text.trim line.toList) = .ok [command, word] ∧
        shell.node word = .ok child) ↔ child.ReadsBack) := by
  have mirror := mirrorsAt_of_activate activated wellNamed served
  refine ⟨Completion.complete?_eq asks, fun child fits => ?_⟩
  refine ⟨_, Completion.accept?_eq command gap typed child, ?_⟩
  have member := (List.mem_filter.mp fits).1
  rw [settled.told] at member
  have names := settled.names.resolve (Completion.folderText typed)
  obtain ⟨plain, found⟩ := mirror.plain_of_mem_children
    (Tree.wellNamed_iff.mp wellNamed).1 names member
  rw [← Completion.exists_word_iff shell.location (Completion.isOpen_folderText typed) plain]
  refine exists_congr fun word => and_congr ?_ ?_
  · rw [String.toList_ofList]
    exact Completion.read_accepted_iff asks child word
  · rw [Shell.node_eq_ok_iff, settled.sees]
    exact mirror.node_eq_ok_iff (names.child plain.toIsName) (settled.names.resolve word) found

/-! ## A folder with a blank in its name -/

/-- The single page of each listing of the store. -/
def spacedPage : Listing → List Entry
  | .first path => if path == "/" then [⟨.folder, "my dir", "/my dir"⟩] else []
  | .after _ => []

/-- A store with a folder that has a blank in its name. -/
def spacedStore : Store Unit where
  name := "spaced"
  answer request state := match request with
    | .list path => (.ok ⟨spacedPage (.first path), "", false⟩, state)
    | .listNext cursor => (.ok ⟨spacedPage (.after cursor), "", false⟩, state)
    | .metadata path => (.error (.notFound path), state)
    | .download path => (.error (.notFound path), state)

def spacedPaging : Paging spacedStore where
  holds _ listing pages := pages = [spacedPage listing]
  page := by
    rintro state listing _ rfl
    exact ⟨_, _, "", (), rfl, by cases listing <;> rfl, fun more => absurd rfl more⟩
  spends _ _ := False
  keeps held _ _ := ⟨_, rfl, held⟩
  fresh _ _ _ _ _ _ := not_false

def spacedTree : Tree := .folder "" "/" [.folder "my dir" "/my dir" []]

theorem spacedTree_wellNamed : spacedTree.WellNamed :=
  .folder _ _ (by decide) (by decide) (by simpa using .folder _ _ (by simp) (by simp) (by simp))

theorem spacedTree_servedAt : spacedPaging.ServesAt () "/" spacedTree :=
  ⟨.folder _ _ rfl rfl (by simpa using .folder _ _ rfl rfl (by simp)), rfl, rfl⟩

/-- In the mounted store the folder is offered, but no single word of the completed line leads to
it. -/
theorem completed_reads_iff_spacedStore :
    ∃ mount : Mount,
      (∃ limit, (spacedStore.run (activate limit { remotePath := "/" }) ()).1 =
        some (.ok mount)) ∧
      ∃ child ∈ Completion.fitting (Shell.start mount.view) "cd" "my",
        Completion.accept? "cd my" 3 (Completion.candidateFor "my" child) = some "cd my dir/" ∧
        ¬ ∃ word, Words.read (Text.trim "cd my dir/".toList) = .ok ["cd", word] ∧
          (Shell.start mount.view).node word = .ok child := by
  have accepted : ({ remotePath := "/" } : MountConfig).validatePaths = .ok () := by decide
  obtain ⟨mount, ⟨enough, ends⟩, isView⟩ := exists_of_build accepted
    (Snapshot.build_plants spacedTree_servedAt "/content/dropbox")
  have activated := ends enough (Nat.le_refl enough)
  have names : mount.view.mountPoint.HasNames := isView ▸ hasNames_parse "/content/dropbox"
  have asks : Completion.Asks "cd" " " "my" := by
    constructor
    · decide
    · decide
    all_goals
      rw [← List.forall_iff_forall_mem]
      decide
  obtain ⟨-, reads⟩ := completed_reads_iff activated spacedTree_wellNamed spacedTree_servedAt
    (Shell.settled_start names) asks
  have mirror := mirrorsAt_of_activate activated spacedTree_wellNamed spacedTree_servedAt
  have shown := mirror.children_follow (.here _ _)
  rw [follow_nil] at shown
  have isText : mount.view.mountPoint.text = "/content/dropbox" := by rw [isView]; decide
  have listed : mount.view.children mount.view.mountPoint.text =
      [.ofDescriptor "/content/dropbox" (.folder "my dir")] := by
    rw [View.children_text _ names, shown, isText]
    rfl
  have folder : (Shell.start mount.view).completion.resolve (Completion.folderText "my") =
      mount.view.mountPoint := by
    have noFolder : Completion.folderText "my" = "" := by decide
    rw [noFolder]
    exact join_empty mount.view.mountPoint
  have fits : .ofDescriptor "/content/dropbox" (.folder "my dir") ∈
      Completion.fitting (Shell.start mount.view) "cd" "my" := by
    refine List.mem_filter.mpr ⟨?_, by decide⟩
    rw [folder]
    exact List.mem_of_mem_head? (congrArg List.head? listed)
  have written : Completion.accept? "cd my" 3 (Completion.candidateFor "my"
      (.ofDescriptor "/content/dropbox" (.folder "my dir"))) = some "cd my dir/" := by decide
  obtain ⟨line, accepts, readsIff⟩ := reads _ fits
  obtain rfl : "cd my dir/" = line := Option.some.inj (written.symm.trans accepts)
  refine ⟨mount, ⟨enough, activated⟩, _, fits, written, fun taken => ?_⟩
  exact absurd ((readsIff.mp taken).plain ' ' (by decide)) (by decide)

end Mount

end ContentMount
