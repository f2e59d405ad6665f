/-
This file relates paths to their texts.
The text of a path of proper segments is read back as the same path.
-/

import ContentMount.Path.Text
import Mathlib.Data.List.Basic
import Mathlib.Data.List.Induction

namespace ContentMount.Path

/-- A segment may stand between two slashes of a text. -/
structure IsSegment (segment : String) : Prop where
  nonempty : segment ≠ ""
  slashless : '/' ∉ segment.toList

/-- A name is a segment that reading keeps. -/
structure IsName (name : String) : Prop extends IsSegment name where
  notPoint : name ≠ "."

/-- A plain name is a name that never leads up. -/
structure IsPlainName (name : String) : Prop extends IsName name where
  notPoints : name ≠ ".."

instance (name : String) : Decidable (IsPlainName name) :=
  decidable_of_iff (name ≠ "" ∧ '/' ∉ name.toList ∧ name ≠ "." ∧ name ≠ "..")
    ⟨fun ⟨nonempty, slashless, notPoint, notPoints⟩ =>
        ⟨⟨⟨nonempty, slashless⟩, notPoint⟩, notPoints⟩,
      fun plain => ⟨plain.nonempty, plain.slashless, plain.notPoint, plain.notPoints⟩⟩

/-- Every segment of the path may stand between slashes. -/
def HasSegments (path : Path) : Prop := ∀ segment ∈ path.segments, IsSegment segment

/-- Every segment of the path is kept by reading. -/
def HasNames (path : Path) : Prop := ∀ name ∈ path.segments, IsName name

/-- Every segment of the path is a plain name. -/
def HasPlainNames (path : Path) : Prop := ∀ name ∈ path.segments, IsPlainName name

theorem HasNames.segments {path : Path} (names : path.HasNames) : path.HasSegments :=
  fun segment member => (names segment member).toIsSegment

theorem HasPlainNames.names {path : Path} (plain : path.HasPlainNames) : path.HasNames :=
  fun name member => (plain name member).toIsName

/-- The path one name further down. -/
def child (path : Path) (name : String) : Path := ⟨path.segments ++ [name]⟩

/-- The path at the end of a trail of names. -/
def follow (path : Path) (trail : List String) : Path := ⟨path.segments ++ trail⟩

@[simp] theorem segments_child (path : Path) (name : String) :
    (path.child name).segments = path.segments ++ [name] := rfl

@[simp] theorem segments_follow (path : Path) (trail : List String) :
    (path.follow trail).segments = path.segments ++ trail := rfl

@[simp] theorem follow_nil (path : Path) : path.follow [] = path := by
  simp [follow]

theorem follow_cons (path : Path) (name : String) (trail : List String) :
    path.follow (name :: trail) = (path.child name).follow trail := by
  simp [follow, child]

theorem follow_append_singleton (path : Path) (trail : List String) (name : String) :
    path.follow (trail ++ [name]) = (path.follow trail).child name := by
  simp [follow, child]

@[simp] theorem up_child (path : Path) (name : String) : (path.child name).up = path := by
  simp [up, child]

theorem HasSegments.child {path : Path} (proper : path.HasSegments) {name : String}
    (segment : IsSegment name) : (path.child name).HasSegments := by
  intro other member
  rcases List.mem_append.mp member with old | new
  · exact proper other old
  · rwa [List.mem_singleton.mp new]

theorem HasNames.child {path : Path} (names : path.HasNames) {name : String}
    (isName : IsName name) : (path.child name).HasNames := by
  intro other member
  rcases List.mem_append.mp member with old | new
  · exact names other old
  · rwa [List.mem_singleton.mp new]

theorem HasNames.up {path : Path} (names : path.HasNames) : path.up.HasNames :=
  fun name member => names name ((List.dropLast_sublist _).subset member)

theorem HasNames.take {path : Path} (names : path.HasNames) (depth : Nat) :
    (path.take depth).HasNames :=
  fun name member => names name (List.mem_of_mem_take member)

theorem HasSegments.follow {path : Path} (proper : path.HasSegments) {trail : List String}
    (segments : ∀ name ∈ trail, IsSegment name) : (path.follow trail).HasSegments := by
  intro name member
  rcases List.mem_append.mp member with old | new
  · exact proper name old
  · exact segments name new

theorem HasNames.follow {path : Path} (names : path.HasNames) {trail : List String}
    (plain : ∀ name ∈ trail, IsName name) : (path.follow trail).HasNames := by
  intro name member
  rcases List.mem_append.mp member with old | new
  · exact names name old
  · exact plain name new

/-! ## Pieces of texts -/

theorem pieces_ne_nil (text : String) : pieces text ≠ [] := by
  simp [pieces]

/-- A text without a slash is its only piece. -/
theorem pieces_slashless {text : String} (slashless : '/' ∉ text.toList) :
    pieces text = [text] := by
  simp [pieces, List.splitOn_eq_singleton slashless]

/-- A slash separates the pieces before it from those after it. -/
theorem pieces_append_slash (first second : String) :
    pieces (first ++ "/" ++ second) = pieces first ++ pieces second := by
  simp [pieces, List.splitOn_append_cons_self]

/-- Texts are told apart by their pieces. -/
theorem pieces_injective {first second : String} (equal : pieces first = pieces second) :
    first = second := by
  have split : first.toList.splitOn '/' = second.toList.splitOn '/' :=
    List.map_injective_iff.mpr (fun _ _ same => String.ofList_injective same) equal
  have joined (text : String) : ['/'].intercalate (text.toList.splitOn '/') = text.toList :=
    List.intercalate_splitOn '/'
  apply String.toList_inj.mp
  rw [← joined first, split, joined second]

theorem slashless_of_mem_splitOn {text piece : List Char} (member : piece ∈ text.splitOn '/') :
    '/' ∉ piece := by
  induction text generalizing piece with
  | nil =>
      rw [List.splitOn_nil, List.mem_singleton] at member
      simp [member]
  | cons c rest ih =>
      rw [List.splitOn_cons_eq_if_modifyHead] at member
      split at member
      · rcases List.mem_cons.mp member with rfl | later
        · simp
        · exact ih later
      · rename_i different
        obtain ⟨first, others, split⟩ :=
          List.exists_cons_of_ne_nil (List.splitOn_ne_nil '/' rest)
        rw [split, List.modifyHead_cons] at member
        rcases List.mem_cons.mp member with rfl | later
        · have firstSlashless : '/' ∉ first := ih (by simp [split])
          intro inside
          rcases List.mem_cons.mp inside with same | later
          · exact different (beq_iff_eq.mpr same.symm)
          · exact firstSlashless later
        · exact ih (by simp [split, later])

theorem slashless_of_mem_pieces {text piece : String} (member : piece ∈ pieces text) :
    '/' ∉ piece.toList := by
  obtain ⟨chars, inside, rfl⟩ := List.mem_map.mp member
  simpa using slashless_of_mem_splitOn inside

/-- Reading keeps names only. -/
theorem hasNames_parse (text : String) : (parse text).HasNames := by
  intro name member
  obtain ⟨inside, kept⟩ := List.mem_filter.mp member
  simp only [isIdle, Bool.not_eq_true', Bool.or_eq_false_iff, beq_eq_false_iff_ne] at kept
  exact ⟨⟨kept.1, slashless_of_mem_pieces inside⟩, kept.2⟩

/-! ## Texts of paths -/

theorem toList_text {path : Path} (below : path ≠ root) :
    path.text.toList = path.segments.flatMap fun segment => '/' :: segment.toList := by
  have nonempty : path.segments.isEmpty = false := by
    rcases path with ⟨_ | ⟨first, rest⟩⟩
    · exact absurd rfl below
    · rfl
  simp [text, nonempty]

/-- The text of a child ends with a slash and the name. -/
theorem text_child {path : Path} (below : path ≠ root) (name : String) :
    (path.child name).text = path.text ++ "/" ++ name := by
  have childBelow : path.child name ≠ root := by simp [child, root]
  apply String.toList_inj.mp
  rw [toList_text childBelow]
  simp [toList_text below]

theorem text_child_root (name : String) : (root.child name).text = "/" ++ name := by
  apply String.toList_inj.mp
  rw [toList_text (by simp [child, root])]
  simp [root]

/-- The pieces of the text of a path are an empty one and then its segments. -/
theorem pieces_text {path : Path} (below : path ≠ root) (proper : path.HasSegments) :
    pieces path.text = "" :: path.segments := by
  rcases path with ⟨segments⟩
  induction segments using List.reverseRecOn with
  | nil => exact absurd rfl below
  | append_singleton front last ih =>
      have lastPieces : pieces last = [last] :=
        pieces_slashless (proper last (by simp)).slashless
      change pieces ((Path.mk front).child last).text = _
      by_cases top : Path.mk front = root
      · have frontEmpty : front = [] := congrArg segments top
        have split := pieces_append_slash "" last
        rw [lastPieces] at split
        rw [top, text_child_root, frontEmpty]
        simpa [pieces] using split
      · rw [text_child top, pieces_append_slash, lastPieces,
          ih top (fun segment member => proper segment (by simp [member]))]
        simp

/-- The text of a path of names is read back as that path. -/
theorem parse_text {path : Path} (names : path.HasNames) : parse path.text = path := by
  by_cases top : path = root
  · subst top
    decide
  · rcases path with ⟨segments⟩
    rw [parse, pieces_text top names.segments]
    congr 1
    have kept : ∀ name ∈ segments, (!isIdle name) = true := by
      intro name member
      have isName := names name member
      simp [isIdle, isName.nonempty, isName.notPoint]
    simpa [isIdle] using kept

/-- Reading a text and writing it again gives a text that reading leaves alone. -/
theorem parse_text_parse (text : String) : parse (parse text).text = parse text :=
  parse_text (hasNames_parse text)

theorem text_ne_slash {path : Path} (below : path ≠ root) (proper : path.HasSegments) :
    path.text ≠ "/" := by
  intro equal
  have counted := congrArg pieces equal
  rw [pieces_text below proper, show pieces "/" = ["", ""] by decide] at counted
  have only : path.segments = [""] := (List.cons.inj counted).2
  exact (proper "" (by simp [only])).nonempty rfl

/-- Paths of segments are told apart by their texts. -/
theorem text_injective {path other : Path} (proper : path.HasSegments)
    (otherProper : other.HasSegments) (equal : path.text = other.text) : path = other := by
  by_cases top : path = root
  · by_cases otherTop : other = root
    · rw [top, otherTop]
    · exact absurd (by rw [← equal, top]; rfl) (text_ne_slash otherTop otherProper)
  · by_cases otherTop : other = root
    · exact absurd (by rw [equal, otherTop]; rfl) (text_ne_slash top proper)
    · have counted := congrArg pieces equal
      rw [pieces_text top proper, pieces_text otherTop otherProper] at counted
      rcases path with ⟨segments⟩
      rcases other with ⟨otherSegments⟩
      exact congrArg Path.mk (List.cons.inj counted).2

end ContentMount.Path
