/-
This file composes changes of directory. Texts are followed piece by piece, so two changes of
directory that succeed end where a single one along both texts ends.
-/

import ContentMount.Proofs.Mount.Accepted
import ContentMount.Proofs.Mount.Activation
import ContentMount.Proofs.Path.Composing
import ContentMount.Proofs.Shell.Turns
import ContentMount.Proofs.Shell.Words

namespace ContentMount

open Remote ContentMount.Path

namespace Turn

variable {σ : Type}

/-- The shell carries out a change of directory along a word. Only the first word counts. -/
structure GoesAlong (turn : Turn) (store : Store σ) (shell : Shell) (word : String) : Prop where
  starts : turn.before = shell
  changes : ∃ rest, turn.Changes (word :: rest)
  taken : ∃ styled metrics state,
    (store.run (turn.before.execute styled metrics turn.line) state).1 = (turn.result, turn.after)

def Succeeds (turn : Turn) : Prop := ∃ output, turn.result = .ok output

/-- The outcome of such a turn is that of moving to where the word leads. -/
theorem GoesAlong.outcome {turn : Turn} {store : Store σ} {shell : Shell} {word : String}
    (goes : turn.GoesAlong store shell word) :
    shell.move (shell.enter (some word)) = (turn.result, turn.after) := by
  obtain ⟨rfl, ⟨rest, changes⟩, styled, metrics, state, taken⟩ := goes
  have goesOn : turn.before.execute styled metrics turn.line =
      turn.before.executeWords styled metrics ("cd" :: word :: rest) := by
    rw [Shell.execute, changes]
  have silent (outcome : Shell.Outcome) : (store.run (.done outcome) state).1 = outcome := rfl
  rwa [goesOn, Shell.executeWords_cd, List.head?_cons, silent] at taken

/-- When there is a folder to enter, such a turn succeeds and ends there. -/
theorem GoesAlong.ends {turn : Turn} {store : Store σ} {shell moved : Shell} {word : String}
    (goes : turn.GoesAlong store shell word) (entered : shell.enter (some word) = .ok moved) :
    turn.Succeeds ∧ turn.after = moved := by
  have outcome := goes.outcome
  rw [entered, Shell.move, Prod.mk.injEq] at outcome
  exact ⟨⟨_, outcome.1.symm⟩, outcome.2.symm⟩

/-- A turn that succeeds ends where the shell enters a folder. -/
theorem GoesAlong.entered {turn : Turn} {store : Store σ} {shell : Shell} {word : String}
    (goes : turn.GoesAlong store shell word) (succeeds : turn.Succeeds) :
    shell.enter (some word) = .ok turn.after := by
  obtain ⟨output, ended⟩ := succeeds
  cases entered : shell.enter (some word) with
  | error error =>
      have outcome := goes.outcome
      rw [entered, ended, Shell.move, Prod.mk.injEq] at outcome
      exact absurd outcome.1 (by simp)
  | ok moved => rw [(goes.ends entered).2]

end Turn

namespace Shell

/-! ## Entering folders one after another -/

/-- Entering a folder and then another one below it is entering the second one at once. -/
theorem enter_append {shell mid last : Shell} {first second : String} (nonempty : first ≠ "")
    (relative : isAbsolute second = false) (entered : shell.enter (some first) = .ok mid)
    (again : mid.enter (some second) = .ok last) :
    shell.enter (some (first ++ "/" ++ second)) = .ok last := by
  obtain ⟨-, rfl⟩ := (enter_eq_ok_iff shell mid first).mp entered
  obtain ⟨folder, rfl⟩ := (enter_eq_ok_iff _ last second).mp again
  have led : (shell.moveTo (shell.resolve first)).resolve second =
      shell.resolve (first ++ "/" ++ second) :=
    resolve_resolve shell.location nonempty relative
  rw [led] at folder ⊢
  exact (enter_eq_ok_iff shell _ _).mpr ⟨folder, rfl⟩

/-! ## Relative and absolute texts -/

/-- A text after the text of a path is absolute. -/
theorem resolve_text_append (shell : Shell) (path : Path) (text : String) :
    shell.resolve (path.text ++ "/" ++ text) = (root.join path.text).join text := by
  have absolute : isAbsolute (path.text ++ "/" ++ text) = true := by
    rw [String.append_assoc]
    exact isAbsolute_append_of_isAbsolute (MountConfig.isAbsolute_text path) _
  rw [resolve, Path.resolve, if_pos absolute, join_append_slash]

theorem resolve_of_not_isAbsolute (shell : Shell) {text : String}
    (relative : isAbsolute text = false) : shell.resolve text = shell.location.join text := by
  rw [resolve, Path.resolve, relative, if_neg Bool.false_ne_true]

/-- Relative texts may be written out after the location exactly when two points are not one of its
segments. -/
theorem resolve_location_append_iff {shell : Shell} (names : shell.location.HasNames) :
    (∀ text, isAbsolute text = false →
        shell.resolve text = shell.resolve (shell.location.text ++ "/" ++ text)) ↔
      ".." ∉ shell.location.segments := by
  rw [← root_join_text_iff names]
  constructor
  · intro same
    have here := same "" (by decide)
    rw [resolve_text_append, resolve_of_not_isAbsolute shell (by decide), join_empty,
      join_empty] at here
    exact here.symm
  · intro absolute text relative
    rw [resolve_text_append, absolute, resolve_of_not_isAbsolute shell relative]

/-- Following two texts one after another is following them with a slash between them. From the root
this is reading exactly when no piece leads up. Following never adds a segment of two points, and it
makes a path longer by the pieces that lead down at most. So a shell may write out its location
before a relative text exactly when two points are not one of its segments, and two changes of
directory that succeed end where one along both words ends. -/
theorem follows_in_parts {σ : Type} (store : Store σ) {shell : Shell}
    (reachable : Reachable shell.location) (path : Path) (first second : String) :
    (path.join first).join second = path.join (first ++ "/" ++ second) ∧
    (root.join first = parse first ↔ ".." ∉ pieces first) ∧
    (".." ∈ (path.join first).segments → ".." ∈ path.segments) ∧
    (path.join first).depth ≤ path.depth + (descents first).length ∧
    ((∀ text, isAbsolute text = false →
        shell.resolve text = shell.resolve (shell.location.text ++ "/" ++ text)) ↔
      ".." ∉ shell.location.segments) ∧
    (first ≠ "" → isAbsolute second = false → ∀ one two both : Turn,
      one.GoesAlong store shell first → two.GoesAlong store one.after second →
      both.GoesAlong store shell (first ++ "/" ++ second) →
      one.Succeeds → two.Succeeds → both.Succeeds ∧ both.after = two.after) := by
  refine ⟨(join_append_slash path first second).symm, root_join_eq_parse_iff first,
    points_mem_of_mem_join, depth_join_le path first,
    resolve_location_append_iff reachable.names, ?_⟩
  intro nonempty relative one two both goesFirst goesSecond goesBoth entered again
  exact goesBoth.ends (enter_append nonempty relative (goesFirst.entered entered)
    (goesSecond.entered again))

/-! ## A shell over an empty snapshot -/

/-- A new shell stands at the mount point, also when nothing is mounted there. -/
def emptyMountShell : Shell := start (.ofSnapshot .empty "/content/dropbox")

/-- The turn of a change of directory along a word that is written without quotes. -/
def turnAlong (shell : Shell) (word : String) : Turn :=
  let outcome := (Mount.refusingStore.run (shell.execute false none ("cd " ++ word)) ()).1
  ⟨shell, "cd " ++ word, outcome.1, outcome.2⟩

theorem goesAlong_turnAlong (shell : Shell) (word : String) (nonempty : word ≠ "")
    (plain : word.toList.all Words.isPlain = true)
    (unblank : word.toList.any Text.isBlank = false) :
    (shell.turnAlong word).GoesAlong Mount.refusingStore shell word where
  starts := rfl
  changes := by
    have split : ("cd " ++ word).toList = "cd".toList ++ (" ".toList ++ word.toList) := by simp
    have stays : Text.dropEndWhile Text.isBlank word.toList = word.toList := by
      rw [Text.dropEndWhile_eq_self_iff]
      intro c last
      simpa using List.any_eq_false.mp unblank c (List.mem_of_getLast? last)
    have chars : word.toList ≠ [] := fun empty => nonempty (String.toList_eq_nil_iff.mp empty)
    have command : ∀ c ∈ "cd".toList, Words.isPlain c = true := List.all_eq_true.mp (by decide)
    have gap : ∀ c ∈ " ".toList, Words.isSeparator c = true := List.all_eq_true.mp (by decide)
    have noBlank : "cd".toList.any Text.isBlank = false := by decide
    have commandUnblank : ∀ c ∈ "cd".toList, Text.isBlank c = false := by
      simpa using List.any_eq_false.mp noBlank
    refine ⟨[], ?_⟩
    rw [Turn.Changes, turnAlong, Words.read, split,
      Words.readFrom_trim (by decide) command (by decide) gap commandUnblank, stays,
      Words.readFrom_plain_word chars (List.all_eq_true.mp plain)]
    simp [Except.map]
  taken := ⟨false, none, (), by simp only [turnAlong]⟩

/-- Up beyond the root and down again in two turns is the same as in one. -/
theorem follows_in_parts_dropbox :
    let one := emptyMountShell.turnAlong "../../.."
    let two := one.after.turnAlong "content/./dropbox"
    let both := emptyMountShell.turnAlong "../../../content/./dropbox"
    Reachable emptyMountShell.location ∧ one.Succeeds ∧ two.Succeeds ∧ both.Succeeds ∧
      both.after = two.after ∧ both.after = emptyMountShell := by
  have up : emptyMountShell.enter (some "../../..") = .ok (emptyMountShell.moveTo .root) := by
    have above : emptyMountShell.resolve "../../.." = .root := by decide
    rw [enter_eq_ok_iff, above]
    exact ⟨⟨.virtualFolder "/", by decide, rfl⟩, rfl⟩
  have down : (emptyMountShell.moveTo .root).enter (some "content/./dropbox") =
      .ok emptyMountShell := by
    have back : (emptyMountShell.moveTo .root).resolve "content/./dropbox" =
        emptyMountShell.location := by decide
    rw [enter_eq_ok_iff, back]
    exact ⟨⟨.virtualFolder "/content/dropbox", by decide, rfl⟩, rfl⟩
  have goesUp := goesAlong_turnAlong emptyMountShell "../../.."
    (by decide) (by decide) (by decide)
  obtain ⟨one, upEnd⟩ := goesUp.ends up
  have goesDown := goesAlong_turnAlong (emptyMountShell.moveTo .root) "content/./dropbox"
    (by decide) (by decide) (by decide)
  obtain ⟨two, downEnd⟩ := goesDown.ends down
  rw [← upEnd] at goesDown two downEnd
  have goesBoth := goesAlong_turnAlong emptyMountShell "../../../content/./dropbox"
    (by decide) (by decide) (by decide)
  have reachable : Reachable emptyMountShell.location := .parse "/content/dropbox"
  obtain ⟨-, -, -, -, -, turns⟩ := follows_in_parts Mount.refusingStore reachable .root
    "../../.." "content/./dropbox"
  obtain ⟨both, same⟩ := turns (by decide) (by decide) _ _ _ goesUp goesDown goesBoth one two
  exact ⟨reachable, one, two, both, same, same.trans downEnd⟩

end Shell

end ContentMount
