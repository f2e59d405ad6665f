/-
This file follows keys through the trees that depict them. A key shadows the keys that go on after
it with a slash: the folder where both lie lists a file and a folder of one name.
-/

import ContentMount.Proofs.Bucket.Depiction

namespace ContentMount.Remote

open ContentMount.Path

namespace Tree

theorem eq_file_of_entry {tree : Tree} {name path : String}
    (same : tree.entry = ⟨.file, name, path⟩) : tree = .file name path := by
  cases tree with
  | file => simp_all [entry]
  | folder => simp [entry] at same

theorem eq_folder_of_entry {tree : Tree} {name path : String}
    (same : tree.entry = ⟨.folder, name, path⟩) : ∃ items, tree = .folder name path items := by
  cases tree with
  | file => simp [entry] at same
  | folder _ _ items => exact ⟨items, by simp_all [entry]⟩

end Tree

namespace Bucket

/-- A clean key is made of plain names. It may end with a slash. -/
structure IsClean (key : String) : Prop where
  front : ∀ name ∈ (pieces key).dropLast, IsPlainName name
  last : lastPiece key ≠ "" → IsPlainName (lastPiece key)

/-- Below a start some key is another key up to a slash. -/
def Shadowed (keys : List String) (start : String) : Prop :=
  ∃ rest more, start ++ rest ∈ keys ∧ start ++ rest ++ "/" ++ more ∈ keys

/-- A single key shadows nothing. -/
theorem not_shadowed_singleton (key start : String) : ¬Shadowed [key] start := by
  rintro ⟨rest, more, present, inside⟩
  rw [List.mem_singleton] at present inside
  have counted := congrArg String.length (present.trans inside.symm)
  have slash : "/".length = 1 := by decide
  simp only [String.length_append] at counted
  omega

/-! ## Clean keys -/

/-- The pieces of a text are those before its last piece and that one. -/
theorem pieces_eq_append_lastPiece (text : String) :
    pieces text = (pieces text).dropLast ++ [lastPiece text] := by
  have last := List.getLast?_eq_some_getLast (pieces_ne_nil text)
  rw [lastPiece, last, Option.getD_some, List.dropLast_concat_getLast]

theorem lastPiece_slashless {text : String} (slashless : '/' ∉ text.toList) :
    lastPiece text = text := by
  rw [lastPiece, pieces_slashless slashless]
  rfl

theorem lastPiece_append_slash (front rest : String) :
    lastPiece (front ++ "/" ++ rest) = lastPiece rest := by
  rw [lastPiece, pieces_append_slash,
    List.getLast?_append_of_ne_nil _ (pieces_ne_nil rest), lastPiece]

/-- What follows a start in a clean key is clean. -/
theorem IsClean.after {start rest : String} (proper : IsStart start)
    (clean : IsClean (start ++ rest)) : IsClean rest := by
  have front : (pieces (start ++ rest)).dropLast =
      (pieces start).dropLast ++ (pieces rest).dropLast := by
    rw [proper.pieces_append, List.dropLast_append_of_ne_nil (pieces_ne_nil rest)]
  have last : lastPiece (start ++ rest) = lastPiece rest := by
    rw [lastPiece, proper.pieces_append,
      List.getLast?_append_of_ne_nil _ (pieces_ne_nil rest), lastPiece]
  exact ⟨fun name member => clean.front name (by rw [front]; exact List.mem_append_right _ member),
    last ▸ clean.last⟩

section

variable {keys : List String} (clean : ∀ key ∈ keys, IsClean key) {start : String}
  (proper : IsStart start)
include clean proper

theorem unbroken_of_clean : Unbroken keys start :=
  fun _ inside empty => (((clean _ inside).after proper).front "" empty).nonempty rfl

/-- What lies directly below a start has a plain name when all keys are clean. -/
theorem isPlainName_of_isEntry {entry : Entry} (isEntry : IsEntry keys start entry) :
    IsPlainName entry.name := by
  cases isEntry with
  | @folder name rest segment inside =>
      have joined : start ++ (name ++ "/" ++ rest) ∈ keys := by
        simpa only [String.append_assoc] using inside
      apply ((clean _ joined).after proper).front name
      rw [pieces_append_name segment.slashless]
      exact List.mem_cons_self
  | @file name segment present =>
      have plain := ((clean _ present).after proper).last
      rw [lastPiece_slashless segment.slashless] at plain
      exact plain segment.nonempty

/-- A shadow falls from a key that marks no folder. -/
theorem Shadowed.exists_inside (shadowed : Shadowed keys start) :
    ∃ rest, start ++ rest ∈ keys ∧ lastPiece rest ≠ "" := by
  obtain ⟨rest, more, present, inside⟩ := shadowed
  refine ⟨rest, present, fun blank => ?_⟩
  have joined : start ++ (rest ++ "/" ++ more) ∈ keys := by
    simpa only [String.append_assoc] using inside
  apply unbroken_of_clean clean proper _ joined
  rw [pieces_append_slash, List.dropLast_append_of_ne_nil (pieces_ne_nil more)]
  rw [pieces_eq_append_lastPiece rest, blank]
  simp

end

/-! ## Names in depicted trees -/

section

variable {keys : List String} {start : String} {items : List Tree}

theorem IsEntry.isSegment {entry : Entry} (isEntry : IsEntry keys start entry) :
    IsSegment entry.name := by
  cases isEntry with
  | folder segment inside => exact segment
  | file segment present => exact segment

/-- Entries below a start are told apart by their names unless a file and a folder share one. -/
theorem IsEntry.eq_of_name (clear : ¬Shadowed keys start) {first second : Entry}
    (one : IsEntry keys start first) (two : IsEntry keys start second)
    (same : first.name = second.name) : first = second := by
  cases one with
  | folder segment inside =>
      cases two with
      | folder => obtain rfl := same; rfl
      | file _ present =>
          obtain rfl := same
          exact absurd ⟨_, _, present, inside⟩ clear
  | file segment present =>
      cases two with
      | folder _ inside =>
          obtain rfl := same
          exact absurd ⟨_, _, present, inside⟩ clear
      | file => obtain rfl := same; rfl

/-- Nothing is shadowed below a folder when nothing is shadowed around it. -/
theorem Shadowed.of_below {name : String} (shadowed : Shadowed keys (start ++ name ++ "/")) :
    Shadowed keys start := by
  obtain ⟨rest, more, present, inside⟩ := shadowed
  refine ⟨name ++ "/" ++ rest, more, ?_, ?_⟩
  · simpa only [String.append_assoc] using present
  · simpa only [String.append_assoc] using inside

/-- A tree has names of a kind when all entries below its start have such names. -/
theorem Depicts.named {tree : Tree} (depicts : Depicts keys start tree) (proper : IsStart start)
    {isName : String → Prop}
    (each : ∀ front, IsStart (start ++ front) → ∀ entry, IsEntry keys (start ++ front) entry →
      isName entry.name) : tree.Named isName := by
  induction depicts with
  | @folder start name path items listed once below ih =>
      have here : ∀ entry, IsEntry keys start entry → isName entry.name := by
        simpa [proper] using each ""
      refine .folder name path ?_ ?_
      · intro item member
        rw [← Tree.name_entry]
        exact here _ ((listed _).mp (List.mem_map_of_mem member))
      · intro item member
        cases item with
        | file name path => exact .file name path
        | folder name path inner =>
            have isEntry := (listed _).mp (List.mem_map_of_mem member)
            cases isEntry with
            | folder segment inside =>
                refine ih _ _ _ member (proper.append segment) fun front isStart => ?_
                have joined : start ++ name ++ "/" ++ front = start ++ (name ++ "/" ++ front) := by
                  simp only [String.append_assoc]
                rw [joined] at isStart ⊢
                exact each _ isStart

/-- The siblings in a tree are distinct when no key shadows another. -/
theorem Depicts.distinct {tree : Tree} (depicts : Depicts keys start tree)
    (clear : ¬Shadowed keys start) : tree.Distinct := by
  induction depicts with
  | @folder start name path items listed once below ih =>
      refine .folder name path ?_ ?_
      · have names : items.map Tree.name = (items.map Tree.entry).map Entry.name := by simp
        rw [names]
        apply once.map_on
        intro first member second otherMember same
        exact IsEntry.eq_of_name clear ((listed _).mp member) ((listed _).mp otherMember) same
      · intro item member
        cases item with
        | file name path => exact .file name path
        | folder name path inner =>
            exact ih _ _ _ member (mt Shadowed.of_below clear)

/-! ## Keys in depicted trees -/

/-- An object directly below a start is a file. -/
theorem file_mem_items
    (listed : ∀ entry, entry ∈ items.map Tree.entry ↔ IsEntry keys start entry) {name : String}
    (segment : IsSegment name) (present : start ++ name ∈ keys) :
    .file name ("/" ++ (start ++ name)) ∈ items := by
  obtain ⟨item, member, isFile⟩ := List.mem_map.mp ((listed _).mpr (.file segment present))
  rwa [← Tree.eq_file_of_entry isFile]

/-- A name that leads on below a start is that of a folder. -/
theorem exists_folder_mem_items
    (listed : ∀ entry, entry ∈ items.map Tree.entry ↔ IsEntry keys start entry)
    {name rest : String} (segment : IsSegment name) (inside : start ++ name ++ "/" ++ rest ∈ keys) :
    ∃ inner, .folder name ("/" ++ (start ++ name)) inner ∈ items := by
  obtain ⟨item, member, isFolder⟩ := List.mem_map.mp ((listed _).mpr (.folder segment inside))
  obtain ⟨inner, rfl⟩ := Tree.eq_folder_of_entry isFolder
  exact ⟨inner, member⟩

/-- Each key that marks no folder is depicted as a file, which leads back to the key. -/
theorem Depicts.shows_key {tree : Tree} (depicts : Depicts keys start tree)
    (proper : IsStart start) (unbroken : Unbroken keys start) {rest : String}
    (present : start ++ rest ∈ keys) (named : lastPiece rest ≠ "") (label : String) :
    keyOf (start ++ rest) = start ++ rest ∧ ∃ trail,
      Tree.Shows label tree (trail ++ [lastPiece rest]) (.file (lastPiece rest))
        [.content ("/" ++ (start ++ rest))] := by
  induction depicts generalizing rest label with
  | @folder start name path items listed once below ih =>
      rcases slashless_or_exists_name rest with slashless | ⟨first, others, slashless, rfl⟩
      · rw [lastPiece_slashless slashless] at named ⊢
        have segment : IsSegment rest := ⟨named, slashless⟩
        refine ⟨proper.keyOf_append segment, [], ?_⟩
        exact .down label name path (file_mem_items listed segment present) (.here rest _)
      · rw [lastPiece_append_slash] at named ⊢
        have inside : start ++ first ++ "/" ++ others ∈ keys := by
          simpa only [String.append_assoc] using present
        have segment : IsSegment first := ⟨unbroken.nonempty slashless inside, slashless⟩
        obtain ⟨inner, member⟩ := exists_folder_mem_items listed segment inside
        obtain ⟨isKey, trail, shown⟩ := ih _ _ _ member (proper.append segment)
          (unbroken.below slashless) inside named first
        have joined : start ++ first ++ "/" ++ others = start ++ (first ++ "/" ++ others) := by
          simp only [String.append_assoc]
        rw [joined] at isKey shown
        exact ⟨isKey, first :: trail, .down label name path member shown⟩

/-- A name without an object of its own belongs to one item at most. -/
theorem eq_of_name_of_not_mem
    (listed : ∀ entry, entry ∈ items.map Tree.entry ↔ IsEntry keys start entry)
    (once : (items.map Tree.entry).Nodup) {item other : Tree} (member : item ∈ items)
    (otherMember : other ∈ items) (same : other.name = item.name)
    (missing : start ++ item.name ∉ keys) : other = item := by
  apply List.inj_on_of_nodup_map once otherMember member
  have folder {tree : Tree} (among : tree ∈ items) (named : tree.name = item.name) :
      tree.entry = ⟨.folder, item.name, "/" ++ (start ++ item.name)⟩ := by
    have isEntry := (listed _).mp (List.mem_map_of_mem among)
    rw [← named] at missing ⊢
    cases tree with
    | file name path =>
        cases isEntry with
        | file segment present => exact absurd present missing
    | folder name path inner =>
        cases isEntry with
        | folder segment inside => rfl
  rw [folder otherMember same, folder member rfl]

/-- Where a key shadows others, a folder that no other folder hides has a file and a folder of one
name. -/
theorem Depicts.exists_twins {tree : Tree} (depicts : Depicts keys start tree)
    (unbroken : Unbroken keys start) (shadowed : Shadowed keys start) (label : String) :
    ∃ trail node family name, Tree.Shows label tree trail node family ∧
      (∀ other others, Tree.Shows label tree trail other others → others = family) ∧
        .file name ∈ family ∧ .folder name ∈ family := by
  obtain ⟨rest, more, present, inside⟩ := shadowed
  induction depicts generalizing rest label with
  | @folder start name path items listed once below ih =>
      -- The first name with an object of its own has the twins. Until then each folder is alone.
      have twins {first after : String} (slashless : '/' ∉ first.toList)
          (isKey : start ++ first ∈ keys) (onwards : start ++ first ++ "/" ++ after ∈ keys) :
          ∃ trail node family twin,
            Tree.Shows label (.folder name path items) trail node family ∧
              (∀ other others, Tree.Shows label (.folder name path items) trail other others →
                others = family) ∧ .file twin ∈ family ∧ .folder twin ∈ family := by
        have segment : IsSegment first := ⟨unbroken.nonempty slashless onwards, slashless⟩
        obtain ⟨inner, member⟩ := exists_folder_mem_items listed segment onwards
        refine ⟨[], _, _, first, .here label _, ?_, ?_, ?_⟩
        · rintro other others ⟨⟩
          rfl
        · exact List.mem_map.mpr ⟨_, file_mem_items listed segment isKey, rfl⟩
        · exact List.mem_map.mpr ⟨_, member, rfl⟩
      rcases slashless_or_exists_name rest with slashless | ⟨first, others, slashless, rfl⟩
      · exact twins slashless present inside
      · have isPresent : start ++ first ++ "/" ++ others ∈ keys := by
          simpa only [String.append_assoc] using present
        by_cases isKey : start ++ first ∈ keys
        · exact twins slashless isKey isPresent
        · have segment : IsSegment first := ⟨unbroken.nonempty slashless isPresent, slashless⟩
          obtain ⟨inner, member⟩ := exists_folder_mem_items listed segment isPresent
          obtain ⟨trail, node, family, twin, shown, only, isFile, isFolder⟩ :=
            ih _ _ _ member (unbroken.below slashless) first others isPresent
              (by simpa only [String.append_assoc] using inside)
          refine ⟨first :: trail, node, family, twin, .down label name path member shown, ?_,
            isFile, isFolder⟩
          intro other children otherShown
          generalize same : first = head at otherShown
          cases otherShown with
          | @down _ _ _ _ item otherMember _ _ _ below =>
              obtain rfl := eq_of_name_of_not_mem listed once member otherMember same.symm isKey
              exact only other children below

end

end Bucket

end ContentMount.Remote
