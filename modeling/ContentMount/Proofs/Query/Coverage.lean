/-
This file says which paths a root covers. A pattern covers the paths of which some front is cut into
consecutive blocks, one for each segment of the pattern.
-/

import ContentMount.Proofs.Mount.Accepted
import ContentMount.Proofs.Query.Wildcards
import ContentMount.Query.Root

namespace ContentMount

namespace Glob

/-! ## Segments -/

/-- What a segment of a pattern takes of a path. Two stars take any number of names, and any other
segment takes a single name that matches it. -/
def TakesNames (p : String) (block : List String) : Prop :=
  if p = "**" then True else ∃ name, block = [name] ∧ matchesName name p = true

theorem takesNames_stars (block : List String) : TakesNames "**" block := trivial

theorem takesNames_iff {p : String} (noStars : p ≠ "**") (block : List String) :
    TakesNames p block ↔ ∃ name, block = [name] ∧ matchesName name p = true := by
  rw [TakesNames, if_neg noStars]

theorem matchesSegments_eq_true_iff (pattern segments : List String) :
    matchesSegments pattern segments = true ↔ Cut TakesNames pattern segments := by
  fun_induction matchesSegments pattern segments with
  | case1 segments => simp [cut_nil_left]
  | case2 p pattern ih =>
      by_cases stars : p = "**"
      · subst stars
        simpa [cut_run_nil takesNames_stars] using ih
      · simpa [stars] using not_cut_one_nil (takesNames_iff stars)
  | case3 p pattern segment segments stars here later =>
      obtain rfl : p = "**" := by simpa using stars
      rw [Bool.or_eq_true, here, later, cut_run_cons takesNames_stars]
  | case4 p pattern segment segments noStars ih =>
      have other : p ≠ "**" := by simpa using noStars
      rw [cut_one_cons (takesNames_iff other), Bool.and_eq_true, ih]

theorem covers_eq_true_iff (pattern : String) (path : Path) : covers pattern path = true ↔
    ∃ front, front <+: path.segments ∧ Cut TakesNames (patternSegments pattern) front := by
  simp only [covers, List.any_eq_true, List.mem_range, matchesSegments_eq_true_iff, Path.take]
  constructor
  · rintro ⟨depth, -, cut⟩
    exact ⟨_, List.take_prefix depth path.segments, cut⟩
  · rintro ⟨front, isFront, cut⟩
    rw [List.prefix_iff_eq_take.mp isFront] at cut
    exact ⟨front.length, Nat.lt_succ_of_le isFront.length_le, cut⟩

/-! ## Patterns without wildcards -/

/-- A text without stars and question marks stands for itself in a pattern. -/
def IsLiteral (text : String) : Prop := '*' ∉ text.toList ∧ '?' ∉ text.toList

instance (text : String) : Decidable (IsLiteral text) := inferInstanceAs (Decidable (_ ∧ _))

theorem takesPiece_literal {p : Char} (noStar : p ≠ '*') (noMark : p ≠ '?') (piece : List Char) :
    TakesPiece p piece ↔ piece = [p] := by
  rw [TakesPiece, if_neg noStar, if_neg noMark]

/-- A literal pattern matches itself and no other name. -/
theorem IsLiteral.matchesName_iff_eq {pattern : String} (literal : IsLiteral pattern)
    (name : String) : matchesName name pattern = true ↔ name = pattern := by
  have each : ∀ p ∈ pattern.toList, ∀ piece, TakesPiece p piece ↔ piece = [p] :=
    fun p member => takesPiece_literal (fun star => literal.1 (star ▸ member))
      (fun mark => literal.2 (mark ▸ member))
  rw [matchesName, matchesChars_eq_true_iff, cut_literal each, String.toList_inj]

theorem takesNames_literal {p : String} (literal : IsLiteral p) (block : List String) :
    TakesNames p block ↔ block = [p] := by
  have noStars : p ≠ "**" := by
    rintro rfl
    exact literal.1 (by decide)
  rw [takesNames_iff noStars]
  simp [literal.matchesName_iff_eq]

/-- The segments of the text of a path, read as a pattern, are those of the path. -/
theorem patternSegments_text {path : Path} (proper : path.HasSegments) :
    patternSegments path.text = path.segments := by
  by_cases top : path = .root
  · subst top
    decide
  · have kept : ∀ segment ∈ path.segments, (segment != "") = true := fun segment member => by
      simpa using (proper segment member).nonempty
    rw [patternSegments, Path.pieces_text top proper, List.filter_cons_of_neg (by decide),
      List.filter_eq_self.mpr kept]

/-- The text of a path without wildcards covers what the path covers. -/
theorem covers_text {path : Path} (proper : path.HasSegments)
    (literal : ∀ segment ∈ path.segments, IsLiteral segment) (other : Path) :
    covers path.text other = path.isAncestorOrSelf other := by
  have each : ∀ segment ∈ path.segments, ∀ block, TakesNames segment block ↔ block = [segment] :=
    fun segment member => takesNames_literal (literal segment member)
  rw [Bool.eq_iff_iff, covers_eq_true_iff, patternSegments_text proper, Path.isAncestorOrSelf,
    List.isPrefixOf_iff_prefix]
  simp only [cut_literal each, exists_eq_right]

end Glob

namespace QueryRoot

/-! ## Roots -/

theorem parse_globMark (pattern : String) : parse ("glob:" ++ pattern) = .glob pattern := by
  have split : ("glob:" ++ pattern).toList = globMark ++ pattern.toList := String.toList_append
  have marked : globMark.isPrefixOf (globMark ++ pattern.toList) = true :=
    List.isPrefixOf_iff_prefix.mpr (List.prefix_append _ _)
  rw [parse, split, if_pos marked, List.drop_left, String.ofList_toList]

theorem parse_of_isAbsolute {text : String} (absolute : Path.isAbsolute text = true) :
    parse text = .path (Path.parse text) := by
  have unmarked : ¬ globMark.isPrefixOf text.toList = true := by
    intro marked
    obtain ⟨rest, split⟩ := List.isPrefixOf_iff_prefix.mp marked
    have first : (globMark ++ rest).head? = some 'g' := rfl
    rw [Path.isAbsolute, ← split, first] at absolute
    exact absurd absolute (by decide)
  rw [parse, if_neg unmarked]

/-- A root that covers a path covers everything below it. -/
theorem covers_of_isAncestorOrSelf {root : QueryRoot} {path other : Path}
    (covered : root.covers path = true) (below : path.isAncestorOrSelf other = true) :
    root.covers other = true := by
  have front := List.isPrefixOf_iff_prefix.mp below
  cases root with
  | path root =>
      exact List.isPrefixOf_iff_prefix.mpr ((List.isPrefixOf_iff_prefix.mp covered).trans front)
  | glob pattern =>
      obtain ⟨cutFront, isFront, cut⟩ := (Glob.covers_eq_true_iff pattern path).mp covered
      exact (Glob.covers_eq_true_iff pattern other).mpr ⟨cutFront, isFront.trans front, cut⟩

/-- A pattern covers a path exactly when some front of the path is made of one block for each
segment of the pattern. So a root covers everything below what it covers, and the text of a path
without wildcards covers the same as a pattern and as a plain root. -/
theorem covers_glob_iff :
    (∀ pattern path, (QueryRoot.glob pattern).covers path = true ↔
      ∃ front, front <+: path.segments ∧ ∃ blocks,
        List.Forall₂ Glob.TakesNames (Glob.patternSegments pattern) blocks ∧
          blocks.flatten = front) ∧
    (∀ (root : QueryRoot) (path other : Path), root.covers path = true →
      path.isAncestorOrSelf other = true → root.covers other = true) ∧
    ∀ text, (Path.parse text).text = text →
      (∀ segment ∈ (Path.parse text).segments, Glob.IsLiteral segment) → ∀ path,
        (parse ("glob:" ++ text)).covers path = (parse text).covers path := by
  refine ⟨Glob.covers_eq_true_iff, fun root path other => covers_of_isAncestorOrSelf, ?_⟩
  intro text canonical literal path
  have absolute : Path.isAbsolute text = true := canonical ▸ MountConfig.isAbsolute_text _
  have same := Glob.covers_text (Path.hasNames_parse text).segments literal path
  rw [canonical] at same
  rw [parse_globMark, parse_of_isAbsolute absolute]
  exact same

/-- Two stars take two names on the way to a folder, and what lies in the folder is covered too. The
path of a mount point without wildcards is the same root in both spellings. -/
theorem covers_glob_iff_media :
    (QueryRoot.glob "/content/**/media").covers ⟨["content", "a", "b", "media", "2024"]⟩ = true ∧
    (parse "glob:/content/media").covers ⟨["content", "media", "2024"]⟩ = true := by
  obtain ⟨cuts, below, spelled⟩ := covers_glob_iff
  have segments : Glob.patternSegments "/content/**/media" = ["content", "**", "media"] := by decide
  have folder : (QueryRoot.glob "/content/**/media").covers ⟨["content", "a", "b", "media"]⟩ =
      true := by
    refine (cuts _ _).mpr ⟨_, List.prefix_rfl, [["content"], ["a", "b"], ["media"]], ?_, rfl⟩
    rw [segments]
    exact .cons ((Glob.takesNames_literal (by decide) _).mpr rfl)
      (.cons (Glob.takesNames_stars _)
        (.cons ((Glob.takesNames_literal (by decide) _).mpr rfl) .nil))
  exact ⟨below _ _ _ folder (by decide),
    (spelled "/content/media" (by decide) (by decide) _).trans (by decide)⟩

end QueryRoot

end ContentMount
