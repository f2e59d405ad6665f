/-
This file takes up which candidates completion offers. A line is completed at the last word before
the cursor. The first word of a line is completed to a command, and every later word to a child of
the folder that the word names.
-/

import ContentMount.Proofs.Shell.Completion

namespace ContentMount

open Remote ContentMount.Path

namespace Completion

theorem byteLength_toList (text : String) : byteLength text.toList = text.utf8ByteSize := by
  have each (chars : List Char) : byteLength chars = (String.ofList chars).utf8ByteSize := by
    induction chars with
    | nil => rfl
    | cons c rest ih =>
        have split : String.ofList (c :: rest) = String.singleton c ++ String.ofList rest :=
          String.toList_inj.mp (by simp)
        rw [byteLength, ih, split, String.utf8ByteSize_append, String.utf8ByteSize_singleton]
  rw [each, String.ofList_toList]

/-- Only what stands before the position is completed. -/
theorem complete?_front (shell : Shell) (front rest : String) :
    complete? shell (front ++ rest) front.utf8ByteSize = some (ofLine shell front.toList) := by
  rw [complete?, String.toList_append, ← byteLength_toList, before?_byteLength, Option.map_some]

/-! ## The last word -/

/-- A word without blanks is the last one after what is kept when nothing is kept or a blank comes
before it. -/
structure IsLastWord (kept word : List Char) : Prop where
  unblank : ∀ c ∈ word, Text.isBlank c = false
  parted : ∀ c, kept.getLast? = some c → Text.isBlank c = true

theorem exists_lastWord (front : String) :
    ∃ kept word : String, kept ++ word = front ∧ IsLastWord kept.toList word.toList := by
  have whole : front.toList.rdropWhile (!Text.isBlank ·) ++
      front.toList.rtakeWhile (!Text.isBlank ·) = front.toList := List.rdropWhile_append_rtakeWhile
  refine ⟨.ofList (front.toList.rdropWhile (!Text.isBlank ·)),
    .ofList (front.toList.rtakeWhile (!Text.isBlank ·)), ?_, ?_⟩
  · rw [← String.ofList_append, whole, String.ofList_toList]
  rw [String.toList_ofList, String.toList_ofList]
  refine ⟨fun c member => ?_, fun c last => ?_⟩
  · simpa using List.mem_rtakeWhile_imp member
  · obtain ⟨rest, split⟩ := List.getLast?_eq_some_iff.mp last
    have nonempty : front.toList.rdropWhile (!Text.isBlank ·) ≠ [] := by simp [split]
    have blank := List.rdropWhile_last_not (!Text.isBlank ·) front.toList nonempty
    simpa [split] using blank

namespace IsLastWord

variable {kept word : List Char} (last : IsLastWord kept word)
include last

theorem words_append : Text.words (kept ++ word) = Text.words kept ++ Text.words word := by
  rcases List.eq_nil_or_concat' kept with none | ⟨front, c, split⟩
  · rw [none]
    rfl
  · have blank := last.parted c (by simp [split])
    have cut := words_append_blank blank front []
    rw [split, List.append_assoc, List.singleton_append, words_append_blank blank, cut]
    simp [Text.words]

theorem lastWord_append : lastWord (kept ++ word) = word := by
  by_cases empty : word = []
  · rw [empty, List.append_nil, lastWord, if_pos]
    cases ended : kept.getLast? with
    | none => rfl
    | some c => simpa using last.parted c ended
  · obtain ⟨front, c, split⟩ := (List.eq_nil_or_concat' word).resolve_left empty
    have unblank : Text.isBlank c = false := last.unblank c (by simp [split])
    rw [lastWord, last.words_append, words_unblank empty last.unblank]
    simp [split, unblank]

/-- The last word begins where what is kept ends. -/
theorem start_append :
    byteLength (kept ++ word) - byteLength (lastWord (kept ++ word)) = byteLength kept := by
  rw [last.lastWord_append, byteLength_append, Nat.add_sub_cancel]

end IsLastWord

/-! ## The first word -/

/-- A text begins with a word when at most blanks come before it and a blank comes after it. -/
structure BeginsWith (text word : List Char) : Prop where
  nonempty : word ≠ []
  unblank : ∀ c ∈ word, Text.isBlank c = false
  split : ∃ gap c tail, text = gap ++ (word ++ c :: tail) ∧
    (∀ d ∈ gap, Text.isBlank d = true) ∧ Text.isBlank c = true

theorem BeginsWith.exists_words {text word : List Char} (begins : BeginsWith text word) :
    ∃ rest, Text.words text = word :: rest := by
  obtain ⟨gap, c, tail, rfl, gapBlank, blank⟩ := begins.split
  refine ⟨Text.words tail, ?_⟩
  rw [words_gap gapBlank, words_append_blank blank,
    words_unblank begins.nonempty begins.unblank]
  rfl

/-- A text that has more than blanks and ends in a blank begins with a word. -/
theorem exists_beginsWith {text : List Char}
    (parted : ∀ c, text.getLast? = some c → Text.isBlank c = true)
    (shown : ¬ ∀ c ∈ text, Text.isBlank c = true) :
    ∃ word : String, BeginsWith text word.toList := by
  have present : (text.find? (!Text.isBlank ·)).isSome = true := by
    simpa [List.find?_isSome] using shown
  obtain ⟨first, found⟩ := Option.isSome_iff_exists.mp present
  obtain ⟨isFirst, gap, rest, rfl, gapBlank⟩ := List.find?_eq_some_iff_append.mp found
  have firstUnblank : Text.isBlank first = false := by simpa using isFirst
  cases ended : rest.find? Text.isBlank with
  | none =>
      -- Without a blank after the first word, the text would end in that word.
      have nonempty := List.cons_ne_nil first rest
      have isLast : (gap ++ first :: rest).getLast? = some ((first :: rest).getLast nonempty) := by
        rw [List.getLast?_append_of_ne_nil _ nonempty, List.getLast?_eq_some_getLast nonempty]
      have unblank : ∀ c ∈ first :: rest, Text.isBlank c = false := by
        simpa [firstUnblank] using ended
      have blank := parted _ isLast
      rw [unblank _ (List.getLast_mem nonempty)] at blank
      cases blank
  | some c =>
      obtain ⟨blank, more, tail, rfl, moreUnblank⟩ := List.find?_eq_some_iff_append.mp ended
      refine ⟨.ofList (first :: more), ?_⟩
      rw [String.toList_ofList]
      refine ⟨List.cons_ne_nil _ _, ?_, gap, c, tail, rfl, ?_, blank⟩
      · simpa [firstUnblank] using moreUnblank
      · simpa using gapBlank

/-! ## The three kinds of lines -/

theorem ofLine_of_blank (shell : Shell) {front : List Char}
    (blank : ∀ c ∈ front, Text.isBlank c = true) : ofLine shell front = (0, []) := by
  have noWords := words_gap blank []
  rw [List.append_nil] at noWords
  rw [ofLine, noWords]
  rfl

theorem IsLastWord.ofLine_first {kept word : List Char} (last : IsLastWord kept word)
    (shell : Shell) (blank : ∀ c ∈ kept, Text.isBlank c = true) (nonempty : word ≠ []) :
    ofLine shell (kept ++ word) = (byteLength kept, ofCommand word) := by
  have single := (words_gap blank word).trans (words_unblank nonempty last.unblank)
  rw [ofLine, single]
  dsimp only
  rw [last.start_append, last.lastWord_append, if_pos (by simpa using nonempty)]

theorem IsLastWord.ofLine_later {kept word command : List Char} (last : IsLastWord kept word)
    (shell : Shell) (begins : BeginsWith kept command) :
    ofLine shell (kept ++ word) = (byteLength kept, ofPath shell command word) := by
  obtain ⟨rest, first⟩ := begins.exists_words
  have notFirst : ((rest ++ Text.words word).isEmpty && !word.isEmpty) = false := by
    by_cases empty : word = []
    · simp [empty]
    · simp [words_unblank empty last.unblank]
  rw [ofLine, last.words_append, first, List.cons_append]
  dsimp only
  rw [last.start_append, last.lastWord_append, notFirst, if_neg Bool.false_ne_true]

/-! ## What is offered -/

/-- A folder is the part of a word up to its last slash, with it, and the start of a name is the
part after it. -/
structure Parts (folder start word : String) : Prop where
  whole : folder ++ start = word
  isOpen : IsOpen folder
  slashless : '/' ∉ start.toList

theorem parts_folderText (word : String) :
    Parts (folderText word) (String.ofList (splitFolder word.toList).2) word := by
  refine ⟨String.toList_inj.mp ?_, isOpen_folderText word, ?_⟩
  · simpa [folderText] using append_splitFolder word.toList
  · rw [String.toList_ofList, splitFolder_eq]
    intro inside
    simpa using List.mem_rtakeWhile_imp inside

/-- The children of a folder that a word is the start of once the folder is written before their
names. A change of directory can only go to a folder. -/
def extending (shell : Shell) (command folder word : String) : List Node :=
  (shell.view.children (shell.resolve folder).text).filter fun child =>
    word.toList <+: (folder ++ child.name).toList ∧ (command = "cd" → child.isFolder = true)

/-- The candidate for a child is written after its folder. If it is a folder itself, it gets a
slash. -/
def offer (folder : String) (child : Node) : Candidate :=
  ⟨child.name, folder ++ child.name ++ if child.isFolder then "/" else ""⟩

/-- A text extends a word and leads to a child. -/
structure Reaches (shell : Shell) (word text : String) (child : Node) : Prop where
  extended : word.toList <+: text.toList
  leads : (shell.resolve text).text = child.path
  found : shell.node text = .ok child

/-- What is offered for a word after what is kept of a line. -/
inductive Offers (shell : Shell) : String → String → List Candidate → Prop where
  /-- Nothing is offered for blanks, and none of them is kept. -/
  | nothing {word : String} (blank : ∀ c ∈ word.toList, Text.isBlank c = true) :
      Offers shell "" word []
  /-- The first word is completed to the commands that it is the start of. -/
  | command {kept word : String} (last : IsLastWord kept.toList word.toList)
      (blank : ∀ c ∈ kept.toList, Text.isBlank c = true) (nonempty : word ≠ "") :
      Offers shell kept word
        ((commands.filter fun command => word.toList <+: command.toList).map fun command =>
          ⟨command, command⟩)
  /-- A later word is completed to the children of its folder, each of which is led to. -/
  | child {kept word command folder start : String} (last : IsLastWord kept.toList word.toList)
      (begins : BeginsWith kept.toList command.toList) (parts : Parts folder start word)
      (reaches : ∀ child ∈ extending shell command folder word,
        Reaches shell word (offer folder child).written child) :
      Offers shell kept word ((extending shell command folder word).map (offer folder))

theorem ofCommand_eq (word : String) :
    ofCommand word.toList =
      (commands.filter fun command => word.toList <+: command.toList).map fun command =>
        ⟨command, command⟩ := by
  rw [ofCommand]
  congr 1
  refine List.filter_congr fun command _ => ?_
  rw [Bool.eq_iff_iff, List.isPrefixOf_iff_prefix, decide_eq_true_iff]

/-- The rest of a word is the start of a name exactly when the whole word is the start of the name
after its folder. -/
theorem fitting_eq {shell : Shell} {view : View} (settled : shell.Settled view)
    (command word : String) :
    fitting shell command word = extending shell command (folderText word) word := by
  have same : shell.completion.resolve = shell.resolve := by
    rw [settled.told]
    rfl
  have sees : shell.completion.view = shell.view := by rw [settled.told, settled.sees]
  rw [fitting, extending, same, sees]
  refine List.filter_congr fun child _ => ?_
  have split := append_splitFolder word.toList
  have extends_iff : word.toList <+: (folderText word ++ child.name).toList ↔
      (splitFolder word.toList).2 <+: child.name.toList := by
    conv_lhs => rw [← split]
    rw [String.toList_append, folderText, String.toList_ofList, List.prefix_append_right_inj]
  rw [Bool.eq_iff_iff, decide_eq_true_iff, extends_iff, Bool.and_eq_true,
    List.isPrefixOf_iff_prefix, Bool.or_eq_true, bne_iff_ne, ne_eq, String.toList_inj,
    ← Decidable.imp_iff_not_or]

theorem candidateFor_eq (word : String) : candidateFor word = offer (folderText word) := by
  funext child
  rw [candidateFor, candidate, offer, folderText]

theorem written_offer (folder : String) (child : Node) :
    (offer folder child).written = String.ofList (folder.toList ++ writtenEnd child) := by
  rw [offer, writtenEnd]
  apply String.toList_inj.mp
  cases child.isFolder <;> simp

end Completion

/-! ## Mounted folders -/

namespace Mount

variable {σ : Type} {store : Store σ} {paging : Paging store} {limit : Nat} {config : MountConfig}
  {state : σ} {mount : Mount} {tree : Tree}

/-- The candidate for a child leads to the child. -/
theorem reaches_offer (mirror : mount.view.snapshot.MirrorsAt mount.view.mountPoint tree)
    (plainNames : tree.Named IsPlainName) {shell : Shell} (settled : shell.Settled mount.view)
    {command folder word : String} (isOpen : IsOpen folder) {child : Node}
    (member : child ∈ Completion.extending shell command folder word) :
    Completion.Reaches shell word (Completion.offer folder child).written child := by
  obtain ⟨listed, fits⟩ := List.mem_filter.mp member
  rw [settled.sees] at listed
  have names := settled.names.resolve folder
  obtain ⟨plain, found⟩ := mirror.plain_of_mem_children plainNames names listed
  have childNames := names.child plain.toIsName
  have leads : shell.resolve (Completion.offer folder child).written =
      (shell.location.resolve folder).child child.name := by
    rw [Completion.written_offer]
    exact Completion.resolve_writtenEnd shell.location isOpen plain
  refine ⟨?_, ?_, ?_⟩
  · have extended := (of_decide_eq_true fits).1
    rw [Completion.offer, String.toList_append]
    exact extended.trans (List.prefix_append _ _)
  · rw [leads]
    exact (mirror.path_of_nodeAt? childNames found).symm
  · rw [Shell.node_eq_ok_iff, settled.sees, leads]
    exact (mirror.node_eq_ok_iff childNames childNames found).mpr rfl

/-- A line is completed at each position that does not lie within a character. The start that is
returned is the end of what is kept of the line, and the word from there to the position is the one
for which the candidates are offered. -/
theorem offers_complete
    (activated : (store.run (activate limit config) state).1 = some (.ok mount))
    (wellNamed : tree.WellNamed) (served : paging.ServesAt state config.remotePath tree)
    {shell : Shell} (settled : shell.Settled mount.view) (front rest : String) :
    ∃ kept word candidates, kept ++ word = front ∧
      Completion.complete? shell (front ++ rest) front.utf8ByteSize =
        some (kept.utf8ByteSize, candidates) ∧
      Completion.Offers shell kept word candidates := by
  have mirror := mirrorsAt_of_activate activated wellNamed served
  rw [Completion.complete?_front]
  by_cases allBlank : ∀ c ∈ front.toList, Text.isBlank c = true
  · refine ⟨"", front, [], String.empty_append, ?_, .nothing allBlank⟩
    rw [Completion.ofLine_of_blank shell allBlank]
    rfl
  obtain ⟨kept, word, rfl, last⟩ := Completion.exists_lastWord front
  rw [String.toList_append] at allBlank ⊢
  by_cases blank : ∀ c ∈ kept.toList, Text.isBlank c = true
  · have nonempty : word ≠ "" := by
      rintro rfl
      exact allBlank (by simpa using blank)
    refine ⟨kept, word, _, rfl, ?_, .command last blank nonempty⟩
    rw [last.ofLine_first shell blank (mt String.toList_eq_nil_iff.mp nonempty),
      Completion.ofCommand_eq, Completion.byteLength_toList]
  · obtain ⟨command, begins⟩ := Completion.exists_beginsWith last.parted blank
    have parts := Completion.parts_folderText word
    refine ⟨kept, word, _, rfl, ?_, .child last begins parts fun child member =>
      reaches_offer mirror (Tree.wellNamed_iff.mp wellNamed).1 settled parts.isOpen member⟩
    rw [last.ofLine_later shell begins, Completion.ofPath_eq, Completion.fitting_eq settled,
      Completion.candidateFor_eq, Completion.byteLength_toList]

/-- In the mounted store the start of a name is completed to the folder that has a blank in its
name. -/
theorem offers_complete_spacedStore :
    ∃ mount : Mount,
      (∃ limit, (spacedStore.run (activate limit { remotePath := "/" }) ()).1 =
        some (.ok mount)) ∧
      ∃ kept word, kept ++ word = "cd my" ∧
        Completion.complete? (Shell.start mount.view) "cd my here" 5 =
          some (kept.utf8ByteSize, [⟨"my dir", "my dir/"⟩]) ∧
        Completion.Offers (Shell.start mount.view) kept word [⟨"my dir", "my dir/"⟩] := by
  have accepted : ({ remotePath := "/" } : MountConfig).validatePaths = .ok () := by decide
  obtain ⟨mount, ⟨enough, ends⟩, isView⟩ := exists_of_build accepted
    (Snapshot.build_plants spacedTree_servedAt "/content/dropbox")
  have activated := ends enough (Nat.le_refl enough)
  have names : mount.view.mountPoint.HasNames := isView ▸ hasNames_parse "/content/dropbox"
  have mirror := mirrorsAt_of_activate activated spacedTree_wellNamed spacedTree_servedAt
  have shown := mirror.children_follow (.here _ _)
  rw [follow_nil] at shown
  have isText : mount.view.mountPoint.text = "/content/dropbox" := by rw [isView]; decide
  have listed : mount.view.children mount.view.mountPoint.text =
      [.ofDescriptor "/content/dropbox" (.folder "my dir")] := by
    rw [View.children_text _ names, shown, isText]
    rfl
  have offered : Completion.complete? (Shell.start mount.view) "cd my here" 5 =
      some (3, [⟨"my dir", "my dir/"⟩]) := by
    have cut : Completion.before? 5 "cd my here".toList = some "cd my".toList := by decide
    have line : Completion.ofLine (Shell.start mount.view) "cd my".toList =
        (3, Completion.ofPath (Shell.start mount.view) "cd".toList "my".toList) := rfl
    have folder : (Shell.start mount.view).completion.resolve (Completion.folderText "my") =
        mount.view.mountPoint := by
      have noFolder : Completion.folderText "my" = "" := by decide
      rw [noFolder]
      exact join_empty mount.view.mountPoint
    have sees : (Shell.start mount.view).completion.view = mount.view := rfl
    rw [Completion.complete?, cut, Option.map_some, line, Completion.ofPath_eq, Completion.fitting,
      folder, sees, listed]
    decide
  obtain ⟨kept, word, candidates, whole, completes, offers⟩ :=
    offers_complete activated spacedTree_wellNamed spacedTree_servedAt
      (Shell.settled_start names) "cd my" " here"
  have same := Option.some.inj (completes.symm.trans offered)
  obtain ⟨-, rfl⟩ := Prod.mk.inj same
  exact ⟨mount, ⟨enough, activated⟩, kept, word, whole, completes, offers⟩

end Mount

end ContentMount
