/-
This file compares what it means that one path lies above another. Going up step by step leads to
it, its segments come first, and its text comes first and ends at a slash.
-/

import ContentMount.Proofs.Path.Below
import ContentMount.Proofs.Path.Following
import Mathlib.Logic.Relation
import Mathlib.Order.Defs.Unbundled
import Mathlib.Order.Preorder.Chain

namespace ContentMount.Path

/-- One step up leads from the first path to the second. -/
def RisesTo (path above : Path) : Prop := path.parent? = some above

/-- The first path is an ancestor of the second. -/
def Above (path other : Path) : Prop := path.isAncestor other = true

/-- The first path is the second or an ancestor of it. -/
def AtOrAbove (path other : Path) : Prop := path.isAncestorOrSelf other = true

/-- A text that starts another one ends inside a segment when no slash stands before or after its
end. -/
def EndsInside (start text : String) : Prop :=
  ∃ front before after rest, start.toList = front ++ [before] ∧
    text.toList = start.toList ++ after :: rest ∧ isSlash before = false ∧ isSlash after = false

/-! ## The order of segments -/

theorem atOrAbove_iff_segments (path other : Path) :
    path.AtOrAbove other ↔ path.segments <+: other.segments :=
  List.isPrefixOf_iff_prefix

theorem atOrAbove_iff_exists_follow (path other : Path) :
    path.AtOrAbove other ↔ ∃ trail, path.follow trail = other := by
  rw [atOrAbove_iff_segments]
  constructor
  · intro front
    obtain ⟨trail, same⟩ := front
    exact ⟨trail, congrArg mk same⟩
  · intro reached
    obtain ⟨trail, rfl⟩ := reached
    exact List.prefix_append _ _

/-- Of the paths at or above a path, only the path itself is as deep. -/
theorem AtOrAbove.eq_of_depth_le {path other : Path} (above : path.AtOrAbove other)
    (deep : other.depth ≤ path.depth) : path = other := by
  have front := (atOrAbove_iff_segments path other).mp above
  rcases path with ⟨segments⟩
  rcases other with ⟨otherSegments⟩
  exact congrArg mk (front.eq_of_length (Nat.le_antisymm front.length_le deep))

theorem above_iff_ne (path other : Path) :
    path.Above other ↔ path ≠ other ∧ path.AtOrAbove other := by
  rw [Above, isAncestor, Bool.and_eq_true, decide_eq_true_iff]
  constructor
  · intro above
    have different : path ≠ other := by
      intro same
      rw [same] at above
      exact Nat.lt_irrefl _ above.1
    exact ⟨different, above.2⟩
  · intro above
    have shorter : path.depth < other.depth := by
      apply Nat.lt_of_not_le
      intro deep
      exact above.1 (AtOrAbove.eq_of_depth_le above.2 deep)
    exact ⟨shorter, above.2⟩

theorem atOrAbove_refl (path : Path) : path.AtOrAbove path := isAncestorOrSelf_refl path

theorem atOrAbove_iff_eq_or (path other : Path) :
    path.AtOrAbove other ↔ path = other ∨ path.Above other := by
  rw [above_iff_ne]
  by_cases same : path = other
  · simp [same, atOrAbove_refl]
  · simp [same]

theorem atOrAbove_eq_reflGen : AtOrAbove = Relation.ReflGen Above := by
  funext path other
  rw [eq_iff_iff, atOrAbove_iff_eq_or, Relation.reflGen_iff, eq_comm]

theorem isPartialOrder_atOrAbove : IsPartialOrder Path AtOrAbove where
  refl := atOrAbove_refl
  trans path middle other upper lower := by
    rw [atOrAbove_iff_segments] at upper lower ⊢
    exact upper.trans lower
  antisymm path other upper lower := by
    have deep := ((atOrAbove_iff_segments other path).mp lower).length_le
    exact upper.eq_of_depth_le deep

/-- Any two paths at or above the same path lie one above the other or are equal. -/
theorem isChain_atOrAbove (path : Path) : IsChain AtOrAbove {above | AtOrAbove above path} := by
  intro first firstAbove second secondAbove _
  have front := (atOrAbove_iff_segments first path).mp firstAbove
  have secondFront := (atOrAbove_iff_segments second path).mp secondAbove
  rw [atOrAbove_iff_segments, atOrAbove_iff_segments]
  exact List.prefix_or_prefix_of_prefix front secondFront

/-! ## Steps up -/

theorem risesTo_child_iff (path above : Path) (name : String) :
    (path.child name).RisesTo above ↔ path = above := by
  rw [RisesTo, parent?_eq_some_iff, up_child]
  simp [child, root]

/-- What lies above a child is its parent or lies above its parent. -/
theorem above_child_iff (path other : Path) (name : String) :
    path.Above (other.child name) ↔ path.AtOrAbove other := by
  rw [above_iff_ne, atOrAbove_iff_segments, atOrAbove_iff_segments, segments_child,
    List.prefix_concat_iff]
  constructor
  · intro above
    obtain ⟨different, whole | front⟩ := above
    · exact absurd (congrArg mk whole) different
    · exact front
  · intro front
    have different : path ≠ other.child name := by
      intro same
      have counted := front.length_le
      rw [same, segments_child, List.length_append, List.length_singleton] at counted
      omega
    exact ⟨different, .inr front⟩

/-- The first of the steps up from a child leads to its parent. -/
theorem transGen_child_iff (path above : Path) (name : String) :
    Relation.TransGen RisesTo (path.child name) above ↔
      above = path ∨ Relation.TransGen RisesTo path above := by
  rw [Relation.TransGen.head'_iff, ← Relation.reflTransGen_iff_eq_or_transGen]
  simp [risesTo_child_iff]

theorem not_risesTo_root (above : Path) : ¬ root.RisesTo above := by
  simp [RisesTo, parent?]

theorem not_above_root (path : Path) : ¬ path.Above root := by
  simp [Above, isAncestor, root]

/-- The ancestors of a path are the paths that one or more steps up lead to. -/
theorem above_iff_transGen (path other : Path) :
    path.Above other ↔ Relation.TransGen RisesTo other path := by
  rcases other with ⟨segments⟩
  induction segments using List.reverseRecOn with
  | nil =>
      refine ⟨fun above => absurd above (not_above_root path), fun steps => ?_⟩
      obtain ⟨above, step, -⟩ := Relation.TransGen.head'_iff.mp steps
      exact absurd step (not_risesTo_root above)
  | append_singleton front last ih =>
      change path.Above ((mk front).child last) ↔
        Relation.TransGen RisesTo ((mk front).child last) path
      rw [above_child_iff, transGen_child_iff, atOrAbove_iff_eq_or, ih]

/-! ## Texts -/

/-- Below a path other than the root, texts go on with a slash. -/
theorem text_starts_of_above {path other : Path} (below : path ≠ root)
    (above : path.Above other) : (path.text ++ "/").toList <+: other.text.toList := by
  obtain ⟨different, start⟩ := (above_iff_ne path other).mp above
  obtain ⟨trail, rfl⟩ := (atOrAbove_iff_exists_follow path other).mp start
  cases trail with
  | nil => exact absurd path.follow_nil.symm different
  | cons name rest =>
      have followBelow : path.follow (name :: rest) ≠ root := by simp [follow, root]
      rw [toList_text followBelow]
      simp [toList_text below]

/-- What a text has after the text of a path and a slash is a way down from the path. -/
theorem atOrAbove_of_text_starts {path other : Path} (names : path.HasNames)
    (otherNames : other.HasNames) (start : (path.text ++ "/").toList <+: other.text.toList) :
    path.AtOrAbove other := by
  obtain ⟨rest, split⟩ := start
  have joined : path.text ++ "/" ++ String.ofList rest = other.text := by
    apply String.toList_inj.mp
    simpa using split
  have read := parse_append_slash path.text (String.ofList rest)
  rw [joined, parse_text names, parse_text otherNames] at read
  exact (atOrAbove_iff_exists_follow path other).mpr ⟨_, read.symm⟩

/-- The root is above everything else. Any other path is above the paths whose texts go on after its
own text and a slash. -/
theorem above_iff_text {path other : Path} (names : path.HasNames) (otherNames : other.HasNames) :
    path.Above other ↔
      path ≠ other ∧ (path = root ∨ (path.text ++ "/").toList <+: other.text.toList) := by
  constructor
  · intro above
    refine ⟨((above_iff_ne path other).mp above).1, ?_⟩
    by_cases top : path = root
    · exact .inl top
    · exact .inr (text_starts_of_above top above)
  · intro texts
    obtain ⟨different, rfl | start⟩ := texts
    · exact (above_iff_ne root other).mpr ⟨different, rfl⟩
    · have reached := atOrAbove_of_text_starts names otherNames start
      exact (above_iff_ne path other).mpr ⟨different, reached⟩

/-- A path whose text ends inside a segment is no ancestor. -/
theorem not_atOrAbove_of_endsInside {path other : Path} (names : path.HasNames)
    (otherNames : other.HasNames) (inside : EndsInside path.text other.text) :
    ¬ path.AtOrAbove other := by
  obtain ⟨front, before, after, rest, ends, goesOn, noSlash, noSlashAfter⟩ := inside
  rw [atOrAbove_iff_eq_or, above_iff_text names otherNames]
  intro above
  obtain rfl | ⟨-, rfl | start⟩ := above
  · simpa using congrArg List.length goesOn
  -- Only the text of the root ends with a slash.
  · have last : root.text.toList.getLast? = some before := by rw [ends, List.getLast?_concat]
    obtain rfl : '/' = before := by simpa using last
    exact absurd noSlash (by decide)
  · rw [goesOn, String.toList_append, List.prefix_append_right_inj] at start
    obtain rfl : '/' = after := (List.cons_prefix_cons.mp start).1
    exact absurd noSlashAfter (by decide)

/-- One path that is read from a text is above another exactly when steps up lead to it, and exactly
when their texts say so. Being at or above a path is the reflexive closure of this. It is a partial
order in which the paths at or above one path form a chain. A path whose text ends inside a segment
of another one is never above it. -/
theorem ancestry_parse (first second : String) :
    ((parse first).isAncestor (parse second) = true ↔
      Relation.TransGen RisesTo (parse second) (parse first)) ∧
    ((parse first).isAncestor (parse second) = true ↔
      parse first ≠ parse second ∧ (parse first = root ∨
        ((parse first).text ++ "/").toList <+: (parse second).text.toList)) ∧
    AtOrAbove = Relation.ReflGen Above ∧
    IsPartialOrder Path AtOrAbove ∧
    (∀ path, IsChain AtOrAbove {above | AtOrAbove above path}) ∧
    (EndsInside (parse first).text (parse second).text →
      (parse first).isAncestorOrSelf (parse second) = false) := by
  have names := hasNames_parse first
  have otherNames := hasNames_parse second
  refine ⟨above_iff_transGen _ _, above_iff_text names otherNames, atOrAbove_eq_reflGen,
    isPartialOrder_atOrAbove, isChain_atOrAbove, fun inside => ?_⟩
  rw [← Bool.not_eq_true]
  exact not_atOrAbove_of_endsInside names otherNames inside

/-- A text that is a prefix of the text of the mount point need not be the text of an ancestor. -/
theorem ancestry_parse_drop :
    EndsInside (parse "/content/drop").text (parse "/content/dropbox").text ∧
      (parse "/content/drop").isAncestorOrSelf (parse "/content/dropbox") = false ∧
      Relation.TransGen RisesTo (parse "/content/dropbox/a.txt") (parse "//content/.") := by
  have inside : EndsInside (parse "/content/drop").text (parse "/content/dropbox").text :=
    ⟨"/content/dro".toList, 'p', 'b', "ox".toList, by decide, by decide, rfl, rfl⟩
  have noAncestor := (ancestry_parse "/content/drop" "/content/dropbox").2.2.2.2.2 inside
  have steps := (ancestry_parse "//content/." "/content/dropbox/a.txt").1
  exact ⟨inside, noAncestor, steps.mp (by decide)⟩

end ContentMount.Path
