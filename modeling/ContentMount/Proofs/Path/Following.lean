/-
This file follows texts from paths. Following a text keeps the names that reading it keeps, as long
as no piece of it leads up. Pieces that lead up only take segments away.
-/

import ContentMount.Proofs.Path.Segments

namespace ContentMount.Path

/-! ## Single steps -/

theorem step_of_isIdle (path : Path) {piece : String} (idle : isIdle piece = true) :
    path.step piece = path := by
  rw [step, if_pos idle]

theorem step_points (path : Path) : path.step ".." = path.up := rfl

/-- A piece that neither stays nor leads up leads down. -/
theorem step_of_not_isIdle (path : Path) {piece : String} (kept : isIdle piece = false)
    (notPoints : piece ≠ "..") : path.step piece = path.child piece := by
  simp [step, kept, notPoints, child]

theorem IsName.isIdle_eq_false {name : String} (isName : IsName name) : isIdle name = false := by
  simp [isIdle, isName.nonempty, isName.notPoint]

theorem IsPlainName.step {name : String} (plain : IsPlainName name) (path : Path) :
    path.step name = path.child name :=
  step_of_not_isIdle path plain.isIdle_eq_false plain.notPoints

/-- Only the name itself leads one step down to it. -/
theorem eq_of_step_eq_child {path : Path} {piece name : String}
    (same : path.step piece = path.child name) : piece = name := by
  have counted := congrArg depth same
  rw [step] at same counted
  split_ifs at same counted with idle points
  · simp [depth] at counted
  · simp only [depth, up, segments_child, List.length_dropLast, List.length_append,
      List.length_singleton] at counted
    omega
  · simpa [child] using same

theorem HasNames.step {path : Path} (names : path.HasNames) {piece : String}
    (slashless : '/' ∉ piece.toList) : (path.step piece).HasNames := by
  rw [Path.step]
  split_ifs with idle points
  · exact names
  · exact names.up
  · rw [isIdle, Bool.or_eq_true, beq_iff_eq, beq_iff_eq, not_or] at idle
    exact names.child ⟨⟨idle.1, slashless⟩, idle.2⟩

/-! ## Whole texts -/

theorem HasNames.join {path : Path} (names : path.HasNames) (text : String) :
    (path.join text).HasNames := by
  have along : ∀ (walked : List String) (origin : Path), origin.HasNames →
      (∀ piece ∈ walked, '/' ∉ piece.toList) → (walked.foldl Path.step origin).HasNames := by
    intro walked
    induction walked with
    | nil => exact fun _ names _ => names
    | cons piece rest ih =>
        intro origin names slashless
        exact ih _ (names.step (slashless piece List.mem_cons_self))
          fun other member => slashless other (List.mem_cons_of_mem piece member)
  exact along _ _ names fun _ member => slashless_of_mem_pieces member

theorem hasNames_root : root.HasNames := by
  simp [HasNames, root]

/-- What a text leads to is a path of names again. -/
theorem HasNames.resolve {path : Path} (names : path.HasNames) (text : String) :
    (path.resolve text).HasNames := by
  rw [Path.resolve]
  split_ifs
  · exact hasNames_root.join text
  · exact names.join text

theorem join_append_slash (path : Path) (first second : String) :
    path.join (first ++ "/" ++ second) = (path.join first).join second := by
  rw [join, pieces_append_slash, List.foldl_append]
  rfl

/-- A text without a slash is followed in a single step. -/
theorem join_slashless (path : Path) {text : String} (slashless : '/' ∉ text.toList) :
    path.join text = path.step text := by
  rw [join, pieces_slashless slashless]
  rfl

theorem join_empty (path : Path) : path.join "" = path := by
  rw [join_slashless path (by simp), step_of_isIdle path (by decide)]

theorem isAbsolute_append {first : String} (nonempty : first ≠ "") (second : String) :
    isAbsolute (first ++ second) = isAbsolute first := by
  obtain ⟨c, rest, split⟩ :=
    List.exists_cons_of_ne_nil fun empty => nonempty (String.toList_eq_nil_iff.mp empty)
  simp [isAbsolute, split]

/-- Whatever follows an absolute text, the whole is absolute. -/
theorem isAbsolute_append_of_isAbsolute {first : String} (absolute : isAbsolute first = true)
    (second : String) : isAbsolute (first ++ second) = true := by
  have nonempty : first ≠ "" := by
    rintro rfl
    exact absurd absolute (by decide)
  rwa [isAbsolute_append nonempty]

theorem isAbsolute_eq_false_of_slashless {text : String} (slashless : '/' ∉ text.toList) :
    isAbsolute text = false := by
  cases shape : text.toList with
  | nil => simp [isAbsolute, shape]
  | cons c rest =>
      have notSlash : c ≠ '/' := fun same => slashless (by simp [shape, same])
      simp [isAbsolute, shape, notSlash]

theorem resolve_empty (path : Path) : path.resolve "" = path := by
  rw [resolve, isAbsolute_eq_false_of_slashless (by simp), if_neg Bool.false_ne_true, join_empty]

theorem resolve_slash (path : Path) : path.resolve "/" = root := by
  have absolute : isAbsolute "/" = true := by decide
  rw [resolve, if_pos absolute]
  decide

/-- A slash at the end of a text makes no difference. -/
theorem resolve_append_slash (path : Path) {text : String} (nonempty : text ≠ "") :
    path.resolve (text ++ "/") = path.resolve text := by
  have atEnd (origin : Path) : origin.join (text ++ "/") = origin.join text := by
    have split := join_append_slash origin text ""
    rwa [join_empty, String.append_empty] at split
  simp only [resolve, isAbsolute_append nonempty, atEnd]

/-- A text ends where a new piece may start when it is empty or ends with a slash. -/
def IsOpen (text : String) : Prop := text = "" ∨ ∃ front, text = front ++ "/"

/-- One more piece is followed in one more step. -/
theorem resolve_append (path : Path) {folder : String} (isOpen : IsOpen folder) {piece : String}
    (slashless : '/' ∉ piece.toList) :
    path.resolve (folder ++ piece) = (path.resolve folder).step piece := by
  rcases isOpen with rfl | ⟨front, rfl⟩
  · rw [String.empty_append, resolve_empty, resolve, isAbsolute_eq_false_of_slashless slashless,
      if_neg Bool.false_ne_true, join_slashless path slashless]
  · have nonempty : front ++ "/" ≠ "" := by
      intro empty
      simpa using congrArg String.toList empty
    have split (origin : Path) :
        origin.join (front ++ "/" ++ piece) = (origin.join (front ++ "/")).step piece := by
      have atEnd := join_append_slash origin front ""
      rw [join_empty, String.append_empty] at atEnd
      rw [join_append_slash, join_slashless _ slashless, atEnd]
    simp only [resolve, isAbsolute_append nonempty, split]
    split_ifs <;> rfl

/-- A relative text is followed from where the text before it leads. -/
theorem resolve_resolve (path : Path) {first second : String} (nonempty : first ≠ "")
    (relative : isAbsolute second = false) :
    (path.resolve first).resolve second = path.resolve (first ++ "/" ++ second) := by
  have start : isAbsolute (first ++ "/" ++ second) = isAbsolute first := by
    rw [String.append_assoc, isAbsolute_append nonempty]
  rw [resolve, relative, if_neg Bool.false_ne_true]
  simp only [resolve, start, join_append_slash]
  split_ifs <;> rfl

/-! ## Following and reading -/

/-- The names that reading keeps of some pieces. -/
def kept (pieces : List String) : List String :=
  pieces.filter fun piece => !isIdle piece

theorem segments_parse (text : String) : (parse text).segments = kept (pieces text) := rfl

theorem parse_append_slash (first second : String) :
    parse (first ++ "/" ++ second) = (parse first).follow (parse second).segments := by
  simp [parse, follow, pieces_append_slash]

/-- A piece leads down when it neither stays nor leads up. -/
def leadsDown (piece : String) : Bool := !isIdle piece && piece != ".."

/-- The pieces of a text that lead down. -/
def descents (text : String) : List String := (pieces text).filter leadsDown

theorem segments_foldl_step_sublist (path : Path) (walked : List String) :
    (walked.foldl step path).segments.Sublist (path.segments ++ walked.filter leadsDown) := by
  induction walked generalizing path with
  | nil => simp
  | cons piece rest ih =>
      have later := ih (path.step piece)
      rw [List.foldl_cons]
      by_cases idle : isIdle piece = true
      · rw [step_of_isIdle path idle] at later ⊢
        simpa [leadsDown, idle] using later
      · rw [Bool.not_eq_true] at idle
        by_cases points : piece = ".."
        · subst points
          rw [step_points] at later ⊢
          -- What leads up leaves fewer of the segments that were there before.
          exact later.trans ((List.dropLast_sublist path.segments).append_right _)
        · rw [step_of_not_isIdle path idle points] at later ⊢
          simpa [leadsDown, idle, points] using later

/-- Every segment of the path that a text leads to was there before or is a piece that leads down,
and they stand in that order. -/
theorem segments_join_sublist (path : Path) (text : String) :
    (path.join text).segments.Sublist (path.segments ++ descents text) :=
  segments_foldl_step_sublist path (pieces text)

theorem points_not_mem_descents (text : String) : ".." ∉ descents text := by
  simp [descents, leadsDown]

/-- Reading keeps the pieces that lead up. -/
theorem points_mem_parse_iff (text : String) :
    ".." ∈ (parse text).segments ↔ ".." ∈ pieces text := by
  simp [parse, isIdle]

theorem foldl_step_of_not_mem (path : Path) {walked : List String} (down : ".." ∉ walked) :
    walked.foldl step path = path.follow (kept walked) := by
  induction walked generalizing path with
  | nil => exact (follow_nil path).symm
  | cons piece rest ih =>
      rw [List.foldl_cons, ih _ fun member => down (List.mem_cons_of_mem piece member)]
      have notPoints : piece ≠ ".." := fun same => down (same ▸ List.mem_cons_self)
      by_cases idle : isIdle piece = true
      · rw [step_of_isIdle path idle]
        simp [kept, idle]
      · rw [Bool.not_eq_true] at idle
        rw [step_of_not_isIdle path idle notPoints, ← follow_cons]
        simp [kept, idle]

/-- Following a text leads along the names that reading it keeps exactly when no piece of it leads
up. -/
theorem join_eq_follow_iff (path : Path) (text : String) :
    path.join text = path.follow (parse text).segments ↔ ".." ∉ pieces text := by
  constructor
  · intro same member
    have reached := segments_join_sublist path text
    rw [same, segments_follow] at reached
    have down := (List.append_sublist_append_left path.segments).mp reached
    exact points_not_mem_descents text (down.subset ((points_mem_parse_iff text).mpr member))
  · exact fun down => foldl_step_of_not_mem path down

/-- From the root, following a text and reading it come to the same path exactly when no piece leads
up. -/
theorem root_join_eq_parse_iff (text : String) :
    root.join text = parse text ↔ ".." ∉ pieces text :=
  join_eq_follow_iff root text

/-- Two points are a segment of the path that a text leads to only if they were one before. -/
theorem points_mem_of_mem_join {path : Path} {text : String}
    (member : ".." ∈ (path.join text).segments) : ".." ∈ path.segments := by
  rcases List.mem_append.mp ((segments_join_sublist path text).subset member) with old | new
  · exact old
  · exact absurd new (points_not_mem_descents text)

/-- Each piece that leads down makes the path longer by one segment at most. -/
theorem depth_join_le (path : Path) (text : String) :
    (path.join text).depth ≤ path.depth + (descents text).length := by
  have counted := (segments_join_sublist path text).length_le
  rwa [List.length_append] at counted

/-- From the root, the text of a path leads to that path exactly when two points are not one of its
segments. -/
theorem root_join_text_iff {path : Path} (names : path.HasNames) :
    root.join path.text = path ↔ ".." ∉ path.segments := by
  have followed := root_join_eq_parse_iff path.text
  rwa [← points_mem_parse_iff, parse_text names] at followed

end ContentMount.Path
