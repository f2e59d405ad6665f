/-
This file compares the path that a text leads to from a node with the path that it leads to from a
shell at the node. They differ for an absolute text with a piece that leads up: the node reads it as
a name.
-/

import ContentMount.Proofs.Mount.Accepted
import ContentMount.Proofs.Path.Following
import ContentMount.Shell.Location

namespace ContentMount

open ContentMount.Path

/-- What a node says about a text is what the view says about one path. A property is looked up by
its path when the text has a slash. -/
structure Node.LooksUp (origin : Node) (view : View) (text path : String) : Prop where
  node : origin.node view text = view.node path
  hasNode : origin.hasNode view text = view.hasNode path
  property : '/' ∈ text.toList → origin.property view text = view.property path
  hasProperty : '/' ∈ text.toList → origin.hasProperty view text = view.hasProperty path

theorem Node.looksUp_resolve (origin : Node) (view : View) (text : String) :
    origin.LooksUp view text (origin.resolve text) where
  node := rfl
  hasNode := rfl
  property slash := by simp [Node.property, slash, View.property]
  hasProperty slash := by simp [Node.hasProperty, slash]

/-- A shell that stands at the path of a node. -/
def Shell.atNode (view : View) (node : Node) : Shell :=
  (Shell.start view).moveTo (parse node.path)

/-! ## Absolute paths of nodes -/

/-- A text without the slashes at its end starts as before, or nothing is left of it. -/
theorem Path.isAbsolute_withoutTrailingSlashes_append {parent : String}
    (absolute : isAbsolute parent = true) (name : String) :
    isAbsolute (withoutTrailingSlashes parent ++ "/" ++ name) = true := by
  obtain ⟨dropped, split⟩ : ∃ dropped,
      parent.toList = (withoutTrailingSlashes parent).toList ++ dropped := by
    refine ⟨(parent.toList.reverse.takeWhile isSlash).reverse, ?_⟩
    rw [withoutTrailingSlashes, String.toList_ofList, Text.dropEndWhile, ← List.reverse_append,
      List.takeWhile_append_dropWhile, List.reverse_reverse]
  cases shape : (withoutTrailingSlashes parent).toList with
  | nil => simp [isAbsolute, shape]
  | cons c rest =>
      rw [isAbsolute, split, shape] at absolute
      simpa [isAbsolute, shape] using absolute

/-- A name below an absolute path has an absolute path. -/
theorem Path.isAbsolute_below {parent : String} (absolute : isAbsolute parent = true)
    (name : String) : isAbsolute (below parent name) = true := by
  rw [below]
  split_ifs
  · simp [isAbsolute]
  · exact absolute
  · exact isAbsolute_withoutTrailingSlashes_append absolute _

/-- Every node that is found has an absolute path. -/
theorem View.isAbsolute_path {view : View} {place : String} {node : Node}
    (found : view.node place = .ok node) : isAbsolute node.path = true := by
  rw [View.node, View.node?, nodeAt?] at found
  split_ifs at found with above
  · obtain rfl : Node.virtualFolder (parse place).text = node := Except.ok.inj found
    exact MountConfig.isAbsolute_text _
  · cases held : view.snapshot.get? (parse place).text with
    | none => simp [held, orNotFound] at found
    | some descriptor =>
        rw [held] at found
        obtain rfl : Node.ofDescriptor (parse place).up.text descriptor = node :=
          Except.ok.inj found
        exact isAbsolute_below (MountConfig.isAbsolute_text _) _

/-! ## Texts from a node -/

namespace Node

/-- An absolute text leads along the names that reading it keeps. -/
theorem resolve_of_isAbsolute (node : Node) {text : String} (absolute : isAbsolute text = true) :
    node.resolve text = (root.follow (parse text).segments).text := by
  rw [resolve, if_pos absolute]
  rfl

theorem resolve_of_not_isAbsolute (node : Node) {text : String}
    (relative : isAbsolute text = false) :
    node.resolve text = ((parse node.path).join text).text := by
  rw [resolve, relative, if_neg Bool.false_ne_true]

/-- Paths of names are told apart by their texts, also when one of them is followed and the other
one is read. -/
theorem text_join_eq_iff {path : Path} (names : path.HasNames) (text : String) :
    (path.join text).text = (path.follow (parse text).segments).text ↔ ".." ∉ pieces text := by
  rw [← join_eq_follow_iff path text]
  constructor
  · exact text_injective (names.join text).segments
      (names.follow (hasNames_parse text)).segments
  · exact congrArg Path.text

/-- From the node and from the shell a text leads to the same path, unless it is absolute and one of
its pieces leads up. -/
theorem resolve_eq_iff (view : View) (node : Node) (text : String) :
    node.resolve text = ((Shell.atNode view node).resolve text).text ↔
      (isAbsolute text = true → ".." ∉ pieces text) := by
  cases absolute : isAbsolute text with
  | false =>
      have followed : (Shell.atNode view node).resolve text = (parse node.path).join text := by
        rw [Shell.resolve, Path.resolve, absolute, if_neg Bool.false_ne_true]
        rfl
      rw [resolve_of_not_isAbsolute node absolute, followed]
      simp
  | true =>
      have followed : (Shell.atNode view node).resolve text = root.join text := by
        rw [Shell.resolve, Path.resolve, if_pos absolute]
      rw [resolve_of_isAbsolute node absolute, followed, eq_comm,
        text_join_eq_iff hasNames_root text]
      simp

/-- A relative text and the same text below the path of the node lead to the same path, unless a
piece of the text leads up. -/
theorem resolve_eq_resolve_below_iff {node : Node} (absolute : isAbsolute node.path = true)
    {text : String} (relative : isAbsolute text = false) :
    node.resolve text = node.resolve (node.path ++ "/" ++ text) ↔ ".." ∉ pieces text := by
  have whole : isAbsolute (node.path ++ "/" ++ text) = true := by
    rw [String.append_assoc]
    exact isAbsolute_append_of_isAbsolute absolute _
  have read : root.follow (parse (node.path ++ "/" ++ text)).segments =
      (parse node.path).follow (parse text).segments := parse_append_slash node.path text
  rw [resolve_of_not_isAbsolute node relative, resolve_of_isAbsolute node whole, read,
    text_join_eq_iff (hasNames_parse node.path) text]

/-- A node answers every text by looking up one path. That is the path at which a shell at the node
arrives exactly when the text is relative or no piece of it leads up. A relative text and the same
text below the path of the node are looked up at one path exactly when no piece leads up, and then
they lead to the same node. -/
theorem lookups_agree_iff (snapshot : Snapshot) (mountPoint : String) {place : String} {node : Node}
    (found : (View.ofSnapshot snapshot mountPoint).node place = .ok node) :
    (∀ text, node.LooksUp (.ofSnapshot snapshot mountPoint) text (node.resolve text)) ∧
    (∀ text, node.resolve text =
        ((Shell.atNode (.ofSnapshot snapshot mountPoint) node).resolve text).text ↔
      (isAbsolute text = true → ".." ∉ pieces text)) ∧
    ∀ text, isAbsolute text = false →
      (node.resolve text = node.resolve (node.path ++ "/" ++ text) ↔ ".." ∉ pieces text) ∧
      (".." ∉ pieces text → node.node (.ofSnapshot snapshot mountPoint) text =
        node.node (.ofSnapshot snapshot mountPoint) (node.path ++ "/" ++ text)) := by
  have absolute := View.isAbsolute_path found
  refine ⟨node.looksUp_resolve _, resolve_eq_iff _ node, fun text relative => ?_⟩
  have same := resolve_eq_resolve_below_iff absolute relative
  refine ⟨same, fun down => ?_⟩
  rw [(node.looksUp_resolve _ text).node, same.mpr down, (node.looksUp_resolve _ _).node]

/-- The mount point finds itself by the way up and down again, but not by the same way in an
absolute text. -/
theorem lookups_agree_iff_emptyMount :
    ∃ node, (View.ofSnapshot .empty "/content/dropbox").node "/content/dropbox" = .ok node ∧
      node.node (.ofSnapshot .empty "/content/dropbox") "../dropbox" = .ok node ∧
      node.node (.ofSnapshot .empty "/content/dropbox") "/content/dropbox/../dropbox" =
        .error (.notFound "/content/dropbox/../dropbox") ∧
      (View.ofSnapshot .empty "/content/dropbox").node
        ((Shell.atNode (.ofSnapshot .empty "/content/dropbox") node).resolve
          "/content/dropbox/../dropbox").text = .ok node := by
  have found : (View.ofSnapshot .empty "/content/dropbox").node "/content/dropbox" =
      .ok (.virtualFolder "/content/dropbox") := by decide
  obtain ⟨looksUp, agree, -⟩ := lookups_agree_iff .empty "/content/dropbox" found
  refine ⟨_, found, ?_, ?_, ?_⟩
  · rw [(looksUp _).node, (agree "../dropbox").mpr (by decide)]
    decide
  · rw [(looksUp _).node]
    decide
  · decide

end Node

end ContentMount
