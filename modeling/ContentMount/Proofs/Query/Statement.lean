/-
This file shows which path is read from the statement that lists a path. A segment that starts with
a star ends the path that is read.
-/

import ContentMount.Proofs.Path.Segments
import ContentMount.Query.Statement
import Mathlib.Data.List.TakeWhile

namespace ContentMount

open ContentMount.Path

/-- A starred segment starts with a star. -/
def Path.isStarred (segment : String) : Bool :=
  segment.toList.head? == some '*'

/-- The path down to its first starred segment, without it. -/
def Path.beforeStar (path : Path) : Path :=
  ⟨path.segments.takeWhile fun segment => !isStarred segment⟩

theorem Path.HasNames.beforeStar {path : Path} (names : path.HasNames) :
    path.beforeStar.HasNames :=
  fun name member => names name ((List.takeWhile_prefix _).subset member)

/-- Without a starred segment the whole path remains. -/
theorem Path.beforeStar_eq_self_iff (path : Path) :
    path.beforeStar = path ↔ ∀ segment ∈ path.segments, isStarred segment = false := by
  rcases path with ⟨segments⟩
  simp [Path.beforeStar, List.takeWhile_eq_self_iff]

namespace Statement

/-- Every segment after a slash, as in the text of a path. -/
def written (segments : List String) : List Char :=
  segments.flatMap fun segment => '/' :: segment.toList

/-- Text without slashes is passed over. -/
theorem beforeStar_append_of_slashless {front : List Char} (slashless : '/' ∉ front)
    (rest : List Char) : beforeStar (front ++ rest) = (beforeStar rest).map (front ++ ·) := by
  induction front with
  | nil => simp
  | cons c front ih =>
      have notSlash : c ≠ '/' := fun same => slashless (by simp [same])
      have later : '/' ∉ front := fun member => slashless (List.mem_cons_of_mem c member)
      rw [List.cons_append, beforeStar, ih later]
      cases beforeStar rest <;> simp [notSlash]

/-- The reader of a statement stops at the first starred segment or else at the ending. -/
theorem beforeStar_written {segments : List String}
    (proper : ∀ segment ∈ segments, IsSegment segment) :
    beforeStar (written segments ++ ending) =
      some (written (segments.takeWhile fun segment => !isStarred segment)) := by
  induction segments with
  | nil => decide
  | cons segment rest ih =>
      have isSegment := proper segment List.mem_cons_self
      have later := ih fun other member => proper other (List.mem_cons_of_mem segment member)
      have split : written (segment :: rest) ++ ending =
          '/' :: (segment.toList ++ (written rest ++ ending)) := by
        simp [written]
      rw [split, beforeStar, beforeStar_append_of_slashless isSegment.slashless, later]
      cases shape : segment.toList with
      | nil => exact absurd (String.toList_eq_nil_iff.mp shape) isSegment.nonempty
      | cons c others =>
          by_cases star : c = '*'
          · simp [isStarred, shape, star, written]
          · simp [isStarred, shape, star, written]

/-- The written segments are read as the path that they make. -/
theorem parse_written {segments : List String} (names : (Path.mk segments).HasNames) :
    parse (String.ofList (written segments)) = ⟨segments⟩ := by
  by_cases top : Path.mk segments = root
  · obtain rfl : segments = [] := congrArg Path.segments top
    decide
  · have isText : String.ofList (written segments) = (Path.mk segments).text :=
      String.toList_inj.mp (by rw [String.toList_ofList, toList_text top]; rfl)
    rw [isText, parse_text names]

/-- A listing is the anchor, the segments of its path and the ending. -/
theorem toList_listing (path : Path) :
    (listing path).toList = anchor ++ (written path.segments ++ ending) := by
  rw [listing, String.toList_ofList, List.append_assoc]
  by_cases top : path = root
  · subst top
    rfl
  · have notRoot : path.isRoot = false := by
      rcases path with ⟨_ | ⟨first, rest⟩⟩
      · exact absurd rfl top
      · rfl
    rw [notRoot, if_neg Bool.false_ne_true, toList_text top, written]

/-- From the statement that lists a path, the path before its first starred segment is read. -/
theorem listedPath?_listing {path : Path} (names : path.HasNames) :
    listedPath? (listing path) = some path.beforeStar := by
  have starts : (written path.segments ++ ending).head? = some '/' := by
    rcases path with ⟨_ | ⟨first, rest⟩⟩
    · decide
    · rfl
  have prefixed : anchor.isPrefixOf (anchor ++ (written path.segments ++ ending)) = true :=
    List.isPrefixOf_iff_prefix.mpr (List.prefix_append _ _)
  have suffixed : ending.isSuffixOf (anchor ++ (written path.segments ++ ending)) = true :=
    List.isSuffixOf_iff_suffix.mpr ⟨anchor ++ written path.segments, by rw [List.append_assoc]⟩
  rw [listedPath?, toList_listing]
  simp only [List.drop_left', starts, prefixed, suffixed]
  rw [beforeStar_written names.segments]
  exact congrArg some (parse_written names.beforeStar)

end Statement

end ContentMount
