/-
This file relates the operations on texts to the operations on paths.
A key that is made by writing names below one another is the text of a path.
-/

import ContentMount.Proofs.Path.Segments

namespace ContentMount.Path

/-! ## Slashes at the ends of texts -/

theorem dropEndWhile_append_kept {test : Char → Bool} (front : List Char) {c : Char}
    (kept : test c = false) : Text.dropEndWhile test (front ++ [c]) = front ++ [c] := by
  simp [Text.dropEndWhile, kept]

theorem dropEndWhile_append_dropped {test : Char → Bool} (front : List Char) {c : Char}
    (dropped : test c = true) :
    Text.dropEndWhile test (front ++ [c]) = Text.dropEndWhile test front := by
  simp [Text.dropEndWhile, dropped]

theorem IsSegment.isSlash_eq_false {segment : String} (proper : IsSegment segment) {c : Char}
    (member : c ∈ segment.toList) : isSlash c = false := by
  rw [isSlash, beq_eq_false_iff_ne]
  rintro rfl
  exact proper.slashless member

/-- A segment has a last character, which is not a slash. -/
theorem IsSegment.exists_last {segment : String} (proper : IsSegment segment) :
    ∃ front last, segment.toList = front ++ [last] ∧ isSlash last = false := by
  have nonempty : segment.toList ≠ [] :=
    fun empty => proper.nonempty (String.toList_eq_nil_iff.mp empty)
  refine ⟨segment.toList.dropLast, segment.toList.getLast nonempty, ?_, ?_⟩
  · exact (List.dropLast_concat_getLast nonempty).symm
  · exact proper.isSlash_eq_false (List.getLast_mem nonempty)

/-- A segment has a first character, which is not a slash. -/
theorem IsSegment.exists_first {segment : String} (proper : IsSegment segment) :
    ∃ first rest, segment.toList = first :: rest ∧ isSlash first = false := by
  have nonempty : segment.toList ≠ [] :=
    fun empty => proper.nonempty (String.toList_eq_nil_iff.mp empty)
  obtain ⟨first, rest, split⟩ := List.exists_cons_of_ne_nil nonempty
  exact ⟨first, rest, split, proper.isSlash_eq_false (by simp [split])⟩

/-- A text that ends with a segment has no slash at its end. -/
theorem withoutTrailingSlashes_append (front : String) {segment : String}
    (proper : IsSegment segment) :
    withoutTrailingSlashes (front ++ segment) = front ++ segment := by
  obtain ⟨rest, last, split, kept⟩ := proper.exists_last
  apply String.toList_inj.mp
  have joined : (front ++ segment).toList = (front.toList ++ rest) ++ [last] := by
    simp [split]
  rw [withoutTrailingSlashes, String.toList_ofList, joined, dropEndWhile_append_kept _ kept]

/-- A slash at the end does not count. -/
theorem withoutTrailingSlashes_append_slash (text : String) :
    withoutTrailingSlashes (text ++ "/") = withoutTrailingSlashes text := by
  have joined : (text ++ "/").toList = text.toList ++ ['/'] := by simp
  rw [withoutTrailingSlashes, joined, dropEndWhile_append_dropped _ rfl, withoutTrailingSlashes]

/-- A text that starts with a segment has no slash at its start. -/
theorem withoutLeadingSlashes_append {segment : String} (proper : IsSegment segment)
    (rest : String) : withoutLeadingSlashes (segment ++ rest) = segment ++ rest := by
  obtain ⟨first, others, split, kept⟩ := proper.exists_first
  apply String.toList_inj.mp
  simp [withoutLeadingSlashes, split, kept]

theorem withoutLeadingSlashes_segment {segment : String} (proper : IsSegment segment) :
    withoutLeadingSlashes segment = segment := by
  simpa using withoutLeadingSlashes_append proper ""

/-! ## Writing names below paths -/

/-- The text of a path below the root ends with a segment. -/
theorem exists_text_eq_append {path : Path} (below : path ≠ root) (proper : path.HasSegments) :
    ∃ front segment, path.segments.getLast? = some segment ∧ IsSegment segment ∧
      path.text = front ++ "/" ++ segment := by
  rcases path with ⟨segments⟩
  induction segments using List.reverseRecOn with
  | nil => exact absurd rfl below
  | append_singleton front last _ =>
      have segment := proper last (by simp)
      by_cases top : Path.mk front = root
      · refine ⟨"", last, by simp, segment, ?_⟩
        have single : Path.mk (front ++ [last]) = root.child last := by rw [← top]; rfl
        rw [single, text_child_root]
        simp
      · exact ⟨(Path.mk front).text, last, by simp, segment, text_child top last⟩

theorem withoutTrailingSlashes_text {path : Path} (below : path ≠ root)
    (proper : path.HasSegments) : withoutTrailingSlashes path.text = path.text := by
  obtain ⟨front, segment, -, isSegment, split⟩ := exists_text_eq_append below proper
  rw [split, withoutTrailingSlashes_append _ isSegment]

/-- Writing a name below the text of a path gives the text of the child. -/
theorem below_text {path : Path} (proper : path.HasSegments) {name : String}
    (segment : IsSegment name) : below path.text name = (path.child name).text := by
  rw [below, withoutLeadingSlashes_segment segment]
  by_cases top : path = root
  · subst top
    simp [text_child_root]
  · have notSlash := text_ne_slash top proper
    have notEmpty : path.text ≠ "" := by
      obtain ⟨front, last, -, -, split⟩ := exists_text_eq_append top proper
      intro empty
      have counted := congrArg String.length (split.symm.trans empty)
      simp [String.length_append] at counted
    simp only [notEmpty, notSlash, segment.nonempty, beq_iff_eq, Bool.or_eq_true, or_self,
      if_false]
    rw [withoutTrailingSlashes_text top proper, text_child top]

/-- The last name in the text of a child is its name. -/
theorem nameText_text {path : Path} (below : path ≠ root) (proper : path.HasSegments) :
    path.segments.getLast? = some (nameText path.text) := by
  obtain ⟨front, segment, last, isSegment, split⟩ := exists_text_eq_append below proper
  rw [nameText, withoutTrailingSlashes_text below proper, split, lastPiece, pieces_append_slash,
    pieces_slashless isSegment.slashless, last]
  simp

theorem nameText_child {path : Path} (proper : path.HasSegments) {name : String}
    (segment : IsSegment name) : nameText (path.child name).text = name := by
  have below : path.child name ≠ root := by simp [child, root]
  have last := nameText_text below (proper.child segment)
  simpa using last.symm

/-- The last name in a text below which a segment was written is the segment. -/
theorem nameText_below (parent : String) {name : String} (segment : IsSegment name) :
    nameText (below parent name) = name := by
  obtain ⟨front, split⟩ : ∃ front, below parent name = front ++ "/" ++ name := by
    rw [below, withoutLeadingSlashes_segment segment]
    simp only [segment.nonempty, beq_iff_eq, if_false]
    split_ifs
    · exact ⟨"", by simp⟩
    · exact ⟨_, rfl⟩
  rw [split, nameText, withoutTrailingSlashes_append _ segment, lastPiece, pieces_append_slash,
    pieces_slashless segment.slashless, List.getLast?_concat]
  rfl

/-- The text one segment up is the text of the path one segment up. -/
theorem parentText_text {path : Path} (names : path.HasNames) :
    parentText path.text = path.up.text := by
  rw [parentText, parse_text names]

/-- A path below the root is a child by the last name in its text. -/
theorem child_nameText {path : Path} (below : path ≠ root) (proper : path.HasSegments) :
    path.up.child (nameText path.text) = path := by
  have last := nameText_text below proper
  have nonempty : path.segments ≠ [] := fun empty => below (congrArg Path.mk empty)
  rw [List.getLast?_eq_getLast_of_ne_nil nonempty] at last
  rw [← Option.some.inj last]
  exact congrArg Path.mk (List.dropLast_concat_getLast nonempty)

/-- The last name of a path below the root, written below its parent, gives the path again. -/
theorem below_parentText_nameText {path : Path} (below : path ≠ root) (names : path.HasNames) :
    Path.below (parentText path.text) (nameText path.text) = path.text := by
  have last := nameText_text below names.segments
  have segment : IsSegment (nameText path.text) :=
    names.segments _ (List.mem_of_getLast? last)
  rw [parentText_text names, below_text names.up.segments segment,
    child_nameText below names.segments]

/-! ## Texts with more than slashes -/

/-- A text speaks when not all of its characters are slashes. -/
def Speaks (text : String) : Prop := ∃ c ∈ text.toList, isSlash c = false

theorem IsSegment.speaks {segment : String} (proper : IsSegment segment) : Speaks segment := by
  obtain ⟨front, last, split, kept⟩ := proper.exists_last
  exact ⟨last, by simp [split], kept⟩

/-- The text of a path below the root speaks. -/
theorem speaks_text {path : Path} (below : path ≠ root) (proper : path.HasSegments) :
    Speaks path.text := by
  obtain ⟨front, segment, -, isSegment, split⟩ := exists_text_eq_append below proper
  obtain ⟨c, member, kept⟩ := isSegment.speaks
  exact ⟨c, by simp [split, member], kept⟩

/-- What remains without the end that passes a test ends with a character that fails the test. -/
theorem exists_dropEndWhile_eq {test : Char → Bool} {text : List Char}
    (present : ∃ c ∈ text, test c = false) :
    ∃ front last, Text.dropEndWhile test text = front ++ [last] ∧ test last = false := by
  induction text using List.reverseRecOn with
  | nil => simp at present
  | append_singleton front last ih =>
      cases tested : test last with
      | false => exact ⟨front, last, dropEndWhile_append_kept front tested, tested⟩
      | true =>
          rw [dropEndWhile_append_dropped front tested]
          apply ih
          obtain ⟨c, member, kept⟩ := present
          rcases List.mem_append.mp member with old | new
          · exact ⟨c, old, kept⟩
          · rw [List.mem_singleton.mp new, tested] at kept
            exact absurd kept (by decide)

/-- Without the slashes at its end, a text that speaks ends with another character. -/
theorem Speaks.exists_last {text : String} (speaks : Speaks text) : ∃ front last,
    (withoutTrailingSlashes text).toList = front ++ [last] ∧ isSlash last = false := by
  rw [withoutTrailingSlashes, String.toList_ofList]
  exact exists_dropEndWhile_eq speaks

/-- Writing a name below a text that speaks gives a text that speaks. -/
theorem Speaks.below {text : String} (speaks : Speaks text) (name : String) :
    Speaks (below text name) := by
  have notTop : (text == "" || text == "/") = false := by
    rw [Bool.or_eq_false_iff, beq_eq_false_iff_ne, beq_eq_false_iff_ne]
    constructor
    · rintro rfl
      simp [Speaks] at speaks
    · rintro rfl
      simp [Speaks, isSlash] at speaks
  simp only [Path.below, notTop, Bool.false_eq_true, if_false]
  split_ifs with unnamed
  · exact speaks
  · obtain ⟨front, last, split, kept⟩ := speaks.exists_last
    exact ⟨last, by simp [split], kept⟩

/-- A text whose last character is not a slash has a segment as its last piece. -/
theorem isSegment_lastPiece {text : String} {front : List Char} {last : Char}
    (split : text.toList = front ++ [last]) (kept : isSlash last = false) :
    IsSegment (lastPiece text) := by
  by_cases slash : '/' ∈ text.toList
  · obtain ⟨after, before, cut, slashless⟩ :=
      List.eq_append_cons_of_mem (List.mem_reverse.mpr slash)
    have joined : text = String.ofList before.reverse ++ "/" ++ String.ofList after.reverse := by
      apply String.toList_inj.mp
      simpa using congrArg List.reverse cut
    have slashlessEnd : '/' ∉ (String.ofList after.reverse).toList := by simpa using slashless
    have nonempty : after ≠ [] := by
      rintro rfl
      rw [split, List.reverse_append] at cut
      obtain rfl : last = '/' := (List.cons.inj cut).1
      exact absurd kept (by decide)
    rw [lastPiece, joined, pieces_append_slash, pieces_slashless slashlessEnd,
      List.getLast?_concat]
    exact ⟨by simpa using nonempty, slashlessEnd⟩
  · rw [lastPiece, pieces_slashless slash]
    refine ⟨?_, slash⟩
    rintro rfl
    simp at split

/-- The last name in a text that speaks is a segment. -/
theorem Speaks.isSegment_nameText {text : String} (speaks : Speaks text) :
    IsSegment (nameText text) := by
  obtain ⟨front, last, split, kept⟩ := speaks.exists_last
  exact isSegment_lastPiece split kept

end ContentMount.Path
