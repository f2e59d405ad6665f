/-
This file shows that writing texts below one another is associative and agrees with reading them,
whatever slashes stand at their ends. Texts of paths are taken apart and put together again.
-/

import ContentMount.Proofs.Path.Below
import ContentMount.Proofs.Path.Following
import ContentMount.Proofs.Text.Stripping

namespace ContentMount.Path

/-! ## Slashes at the ends -/

theorem withoutLeadingSlashes_idem (text : String) :
    withoutLeadingSlashes (withoutLeadingSlashes text) = withoutLeadingSlashes text := by
  simp [withoutLeadingSlashes, List.dropWhile_idempotent]

theorem withoutLeadingSlashes_slash_append (text : String) :
    withoutLeadingSlashes ("/" ++ text) = withoutLeadingSlashes text := by
  simp [withoutLeadingSlashes, isSlash]

/-- A front with more than slashes hides what follows it. -/
theorem withoutLeadingSlashes_append_of_ne {front : String}
    (speaks : withoutLeadingSlashes front ≠ "") (rest : String) :
    withoutLeadingSlashes (front ++ rest) = withoutLeadingSlashes front ++ rest := by
  have kept : front.toList.dropWhile isSlash ≠ [] := by
    simpa [withoutLeadingSlashes] using speaks
  simp [withoutLeadingSlashes, List.dropWhile_append, kept, String.ofList_append]

/-- An end with more than slashes hides what stands before it. -/
theorem withoutTrailingSlashes_append_of_ne (front : String) {rest : String}
    (speaks : withoutTrailingSlashes rest ≠ "") :
    withoutTrailingSlashes (front ++ rest) = front ++ withoutTrailingSlashes rest := by
  have kept : Text.dropEndWhile isSlash rest.toList ≠ [] := by
    simpa [withoutTrailingSlashes] using speaks
  simp [withoutTrailingSlashes, Text.dropEndWhile_append, kept, String.ofList_append]

theorem withoutTrailingSlashes_eq_empty_iff {text : String} :
    withoutTrailingSlashes text = "" ↔ withoutLeadingSlashes text = "" := by
  simp [withoutTrailingSlashes, withoutLeadingSlashes, Text.dropEndWhile_eq_nil_iff]

/-- It does not matter at which end the slashes go first. -/
theorem withoutTrailingSlashes_withoutLeadingSlashes (text : String) :
    withoutTrailingSlashes (withoutLeadingSlashes text) =
      withoutLeadingSlashes (withoutTrailingSlashes text) := by
  simp [withoutTrailingSlashes, withoutLeadingSlashes, Text.dropEndWhile_dropWhile]

/-! ## Writing below one another -/

/-- A name of slashes only leaves the parent as it is, and the empty parent is the root. -/
theorem below_of_blank (parent : String) {name : String}
    (blank : withoutLeadingSlashes name = "") :
    below parent name = if parent = "" then "/" else parent := by
  rw [below, blank]
  by_cases empty : parent = ""
  · simp [empty]
  · by_cases top : parent = "/" <;> simp [empty, top]

/-- Any other name stands after a single slash. -/
theorem below_of_ne (parent : String) {name : String} (speaks : withoutLeadingSlashes name ≠ "") :
    below parent name = withoutTrailingSlashes parent ++ "/" ++ withoutLeadingSlashes name := by
  rw [below]
  by_cases top : parent = "" ∨ parent = "/"
  · have nothing : withoutTrailingSlashes parent = "" := by
      rcases top with rfl | rfl <;> decide
    simp [top, nothing]
  · simp [top, speaks]

theorem below_withoutLeadingSlashes (parent name : String) :
    below parent (withoutLeadingSlashes name) = below parent name := by
  simp only [below, withoutLeadingSlashes_idem]

/-- Without the slashes at its start, a name below a parent is the name when nothing else is left
of the parent, and otherwise it stands below what is left. -/
theorem withoutLeadingSlashes_below (parent name : String) :
    withoutLeadingSlashes (below parent name) =
      if withoutLeadingSlashes parent = "" then withoutLeadingSlashes name
      else if withoutLeadingSlashes name = "" then withoutLeadingSlashes parent
      else withoutTrailingSlashes (withoutLeadingSlashes parent) ++ "/" ++
        withoutLeadingSlashes name := by
  by_cases blank : withoutLeadingSlashes name = ""
  · rw [below_of_blank parent blank]
    by_cases empty : parent = ""
    · subst empty
      rw [blank]
      decide
    · by_cases mute : withoutLeadingSlashes parent = "" <;> simp [empty, mute, blank]
  · rw [below_of_ne parent blank, String.append_assoc, if_neg blank]
    by_cases mute : withoutLeadingSlashes parent = ""
    · rw [if_pos mute, withoutTrailingSlashes_eq_empty_iff.mpr mute, String.empty_append,
        withoutLeadingSlashes_slash_append, withoutLeadingSlashes_idem]
    · have speaks : withoutLeadingSlashes (withoutTrailingSlashes parent) ≠ "" := by
        rw [← withoutTrailingSlashes_withoutLeadingSlashes, Ne, withoutTrailingSlashes_eq_empty_iff,
          withoutLeadingSlashes_idem]
        exact mute
      rw [if_neg mute, withoutLeadingSlashes_append_of_ne speaks,
        withoutTrailingSlashes_withoutLeadingSlashes, String.append_assoc]

/-- Without the slashes at its end, a parent with a name below it ends as the name does. -/
theorem withoutTrailingSlashes_below_of_ne (parent : String) {name : String}
    (speaks : withoutLeadingSlashes name ≠ "") :
    withoutTrailingSlashes (below parent name) =
      withoutTrailingSlashes parent ++ "/" ++
        withoutTrailingSlashes (withoutLeadingSlashes name) := by
  rw [below_of_ne parent speaks, withoutTrailingSlashes_append_of_ne]
  rwa [Ne, withoutTrailingSlashes_eq_empty_iff, withoutLeadingSlashes_idem]

/-- Texts may be written below one another in either order. -/
theorem below_assoc (first second third : String) :
    below (below first second) third = below first (below second third) := by
  have inner := withoutLeadingSlashes_below second third
  by_cases mute : withoutLeadingSlashes second = ""
  · rw [if_pos mute] at inner
    have same : below first (below second third) = below first third := by
      rw [← below_withoutLeadingSlashes, inner, below_withoutLeadingSlashes]
    rw [same, below_of_blank first mute]
    -- The empty text and a slash are the same parent.
    split_ifs with empty
    · rw [empty]
      rfl
    · rfl
  · rw [if_neg mute] at inner
    have present : below first second ≠ "" := by
      rw [below_of_ne first mute]
      simp
    by_cases blank : withoutLeadingSlashes third = ""
    · rw [if_pos blank] at inner
      rw [below_of_blank _ blank, if_neg present, below_of_ne first mute,
        below_of_ne first (inner ▸ mute), inner]
    · rw [if_neg blank] at inner
      have speaks : withoutLeadingSlashes (below second third) ≠ "" := by
        rw [inner]
        simp
      rw [below_of_ne _ blank, withoutTrailingSlashes_below_of_ne first mute,
        below_of_ne first speaks, inner]
      simp only [String.append_assoc]

/-! ## Reading what is written -/

theorem parse_slash_append (text : String) : parse ("/" ++ text) = parse text := by
  have split := parse_append_slash "" text
  rw [String.empty_append] at split
  rw [split]
  exact congrArg Path.mk (List.nil_append _)

theorem parse_append_slash_end (text : String) : parse (text ++ "/") = parse text := by
  have split := parse_append_slash text ""
  rw [String.append_empty] at split
  rw [split]
  exact congrArg Path.mk (List.append_nil _)

theorem parse_withoutLeadingSlashes (text : String) :
    parse (withoutLeadingSlashes text) = parse text := by
  have along (chars : List Char) :
      parse (String.ofList (chars.dropWhile isSlash)) = parse (String.ofList chars) := by
    induction chars with
    | nil => rfl
    | cons c rest ih =>
        by_cases slash : c = '/'
        · have joined : String.ofList (c :: rest) = "/" ++ String.ofList rest := by
            rw [slash, ← String.toList_inj]
            simp
          rw [List.dropWhile_cons_of_pos (by simp [isSlash, slash]), ih, joined,
            parse_slash_append]
        · rw [List.dropWhile_cons_of_neg (by simp [isSlash, slash])]
  rw [withoutLeadingSlashes, along, String.ofList_toList]

theorem parse_withoutTrailingSlashes (text : String) :
    parse (withoutTrailingSlashes text) = parse text := by
  have along (chars : List Char) :
      parse (String.ofList (Text.dropEndWhile isSlash chars)) = parse (String.ofList chars) := by
    induction chars using List.reverseRecOn with
    | nil => rfl
    | append_singleton front c ih =>
        by_cases slash : c = '/'
        · have joined : String.ofList (front ++ [c]) = String.ofList front ++ "/" := by
            rw [slash, ← String.toList_inj]
            simp
          rw [dropEndWhile_append_dropped front (by simp [isSlash, slash]), ih, joined,
            parse_append_slash_end]
        · rw [dropEndWhile_append_kept front (by simp [isSlash, slash])]
  rw [withoutTrailingSlashes, along, String.ofList_toList]

/-- A text written below another is read as the segments of both. -/
theorem parse_below (parent name : String) :
    parse (below parent name) = (parse parent).follow (parse name).segments := by
  by_cases blank : withoutLeadingSlashes name = ""
  · have nameless : parse name = root := by
      rw [← parse_withoutLeadingSlashes, blank]
      decide
    rw [below_of_blank parent blank, nameless, root, follow_nil]
    split_ifs with empty
    · rw [empty]
      decide
    · rfl
  · rw [below_of_ne parent blank, parse_append_slash, parse_withoutTrailingSlashes,
      parse_withoutLeadingSlashes]

/-! ## Paths that can be reached -/

/-- The paths that are read from texts, and those reached from them along texts and upwards. -/
inductive Reachable : Path → Prop where
  | parse (text : String) : Reachable (parse text)
  | join {path : Path} (reachable : Reachable path) (text : String) : Reachable (path.join text)
  | parent {path parent : Path} (reachable : Reachable path)
      (isParent : path.parent? = some parent) : Reachable parent

theorem Reachable.names {path : Path} (reachable : Reachable path) : path.HasNames := by
  induction reachable with
  | parse text => exact hasNames_parse text
  | join _ text names => exact names.join text
  | parent _ isParent names =>
      rw [← ((parent?_eq_some_iff _ _).mp isParent).2]
      exact names.up

/-- What a text of a path below the root tells: the path one segment up, the last segment, and both
together the text itself. -/
structure TakenApart (text : String) : Prop where
  parent : ∃ parent, (parse text).parent? = some parent ∧ parentText text = parent.text
  name : (parse text).name? = some (nameText text)
  together : below (parentText text) (nameText text) = text

theorem takenApart_text {path : Path} (below : path ≠ root) (names : path.HasNames) :
    TakenApart path.text where
  parent := by
    refine ⟨path.up, ?_, parentText_text names⟩
    rw [parse_text names, parent?_eq_some_iff]
    exact ⟨below, rfl⟩
  name := by
    rw [parse_text names]
    exact nameText_text below names.segments
  together := below_parentText_nameText below names

/-- Reading turns writing below into following, so writing below is associative. Reachable paths
consist of names and are read back from their texts, so writing what was read is idempotent. A text
that this leaves alone, other than the root, is taken apart by its parent and its name. -/
theorem composes (first second third : String) :
    (parse (below first second)).segments = (parse first).segments ++ (parse second).segments ∧
      below (below first second) third = below first (below second third) ∧
      (∀ path, Reachable path → path.HasNames ∧ parse path.text = path) ∧
      (parse (parse first).text).text = (parse first).text ∧
      ((parse first).text = first → first ≠ "/" → TakenApart first) := by
  refine ⟨?_, below_assoc first second third, ?_, ?_, ?_⟩
  · rw [parse_below, segments_follow]
  · exact fun path reachable => ⟨reachable.names, parse_text reachable.names⟩
  · rw [parse_text_parse]
  · intro canonical notTop
    have below : parse first ≠ root := by
      intro top
      rw [top, text_root] at canonical
      exact notTop canonical.symm
    have apart := takenApart_text below (hasNames_parse first)
    rwa [canonical] at apart

/-- Two points are a name like any other when they are read, and slashes alone change nothing. -/
theorem composes_points :
    TakenApart "/notes/.." ∧
      below (below "/notes/.." "//") "/a/" = below "/notes/.." (below "//" "/a/") ∧
      parse ((parse "/notes/..").join "../b").text = (parse "/notes/..").join "../b" := by
  have laws := composes "/notes/.." "//" "/a/"
  exact ⟨laws.2.2.2.2 (by decide) (by decide), laws.2.1,
    (laws.2.2.1 _ (.join (.parse "/notes/..") "../b")).2⟩

end ContentMount.Path
