/-
This file follows a shell through the lines that it carries out. It always stands at a folder, and
only a change of directory that succeeds moves it.
-/

import ContentMount.Proofs.Content.Navigation
import ContentMount.Proofs.Path.Following
import ContentMount.Shell.Command

namespace ContentMount

open Remote ContentMount.Path

/-- What carrying out a line did. -/
structure Turn where
  before : Shell
  line : String
  result : Except ShellError Output
  after : Shell

namespace Shell

variable {σ : Type}

/-- Carries out lines one after another. The metrics are what the store has recorded so far. -/
def turns (store : Store σ) (meter : σ → Option Metrics) (styled : Bool) :
    Shell → σ → List String → List Turn
  | _, _, [] => []
  | shell, state, line :: rest =>
    let step := store.run (shell.execute styled (meter state) line) state
    ⟨shell, line, step.1.1, step.1.2⟩ :: turns store meter styled step.1.2 step.2 rest

/-- A shell is settled in a view when it stands at a folder and everybody is told so. -/
structure Settled (shell : Shell) (view : View) : Prop where
  sees : shell.view = view
  names : shell.location.HasNames
  folder : ∃ node, view.node shell.location.text = .ok node ∧ node.isFolder = true
  told : shell.completion = ⟨view, shell.location⟩
  /-- The prompt shows the location and no other path. -/
  shown : ∀ path : Path, path.HasNames →
    (shell.prompt = "cloudmount:" ++ path.text ++ " $ " ↔ path = shell.location)

/-- Where a change of directory is to lead. -/
def destination (shell : Shell) (word : Option String) : Path :=
  (word.map shell.resolve).getD shell.view.mountPoint

end Shell

namespace Turn

/-- The line is a change of directory with the given words. -/
def Changes (turn : Turn) (words : List String) : Prop :=
  Words.read (Text.trim turn.line.toList) = .ok ("cd" :: words)

/-- Only a change of directory that succeeds moves the shell, and it moves it to where its first
word leads. -/
structure Moves (turn : Turn) : Prop where
  led : ∀ words output, turn.Changes words → turn.result = .ok output →
    turn.after.location = turn.before.destination words.head?
  stayed : (∀ words output, turn.Changes words → turn.result ≠ .ok output) →
    turn.after = turn.before

/-- A shell that stays has moved as it should unless the line was a change of directory that
succeeded. -/
theorem moves_of_stayed {turn : Turn} (stayed : turn.after = turn.before)
    (other : ∀ words output, turn.Changes words → turn.result ≠ .ok output) : turn.Moves where
  led words output changes ended := absurd ended (other words output changes)
  stayed _ := stayed

end Turn

/-- The node that a text leads to is found, or there is an error that names its path. -/
theorem Shell.node_eq {shell : Shell} {text : String} (names : (shell.resolve text).HasNames) :
    shell.node text = (orNotFound (shell.resolve text).text
      (shell.view.nodeAt? (shell.resolve text))).mapError .mount := by
  rw [node, View.node, View.node?_text shell.view names]

/-! ## One command -/

theorem Command.ofName?_eq_some_iff (name : String) (command : Command) :
    ofName? name = some command ↔ command.name = name := by
  constructor
  · intro found
    simpa using List.find?_some found
  · rintro rfl
    cases command <;> rfl

namespace Shell

variable {σ : Type}

/-- A folder is entered exactly when the text leads to one. -/
theorem enter_eq_ok_iff (shell moved : Shell) (text : String) :
    shell.enter (some text) = .ok moved ↔
      (∃ node, shell.view.node? (shell.resolve text).text = some node ∧ node.isFolder = true) ∧
        shell.moveTo (shell.resolve text) = moved := by
  unfold enter
  cases found : shell.view.node? (shell.resolve text).text with
  | none => simp [found]
  | some node => by_cases isFolder : node.isFolder = true <;> simp [found, isFolder]

/-- A change of directory that succeeds moves the shell to its destination, where there is a
folder. -/
theorem eq_moveTo_of_enter {shell moved : Shell} {word : Option String}
    (names : shell.view.mountPoint.HasNames) (entered : shell.enter word = .ok moved) :
    moved = shell.moveTo (shell.destination word) ∧
      ∃ node, shell.view.node (shell.destination word).text = .ok node ∧
        node.isFolder = true := by
  cases word with
  | none =>
      refine ⟨(Except.ok.inj entered).symm, .virtualFolder shell.view.mountPoint.text, ?_, rfl⟩
      exact congrArg (orNotFound _) (View.node?_mountPoint names)
  | some text =>
      obtain ⟨⟨node, found, isFolder⟩, arrived⟩ := (enter_eq_ok_iff shell moved text).mp entered
      exact ⟨arrived.symm, node, congrArg (orNotFound _) found, isFolder⟩

/-- Any other command leaves the shell where it is. -/
theorem run_perform (store : Store σ) (shell : Shell) (styled : Bool) (metrics : Option Metrics)
    (words : List String) {command : Command} (other : command ≠ .cd) (state : σ) :
    (store.run (shell.perform styled metrics words command) state).1.2 = shell := by
  cases command with
  | cat =>
      exact congrArg (fun outcome => outcome.1.2) (Dialogue.run_bind store.answer
        (shell.print words) (fun result => .done (shell.stay result)) state)
  | cd => exact absurd rfl other
  | ls => rfl
  | props => rfl
  | query => rfl
  | stats => rfl

/-- A line whose words do not ask for a change of directory leaves the shell where it is. -/
theorem run_executeWords (store : Store σ) (shell : Shell) (styled : Bool)
    (metrics : Option Metrics) {words : List String}
    (other : ∀ rest, words ≠ "cd" :: rest) (state : σ) :
    (store.run (shell.executeWords styled metrics words) state).1.2 = shell := by
  cases words with
  | nil => rfl
  | cons name rest =>
      rw [executeWords]
      split_ifs
      · rfl
      · rfl
      · rfl
      · cases known : Command.ofName? name with
        | none => rfl
        | some command =>
            have named := (Command.ofName?_eq_some_iff name command).mp known
            refine run_perform store shell styled metrics rest ?_ state
            rintro rfl
            exact other rest (by rw [← named]; rfl)

theorem executeWords_cd (shell : Shell) (styled : Bool) (metrics : Option Metrics)
    (words : List String) :
    shell.executeWords styled metrics ("cd" :: words) =
      .done (shell.move (shell.enter words.head?)) := rfl

/-! ## One line -/

/-- A shell that moves to a folder is settled there. -/
theorem settled_moveTo {shell : Shell} {view : View} {path : Path} (sees : shell.view = view)
    (told : shell.completion.view = view) (names : path.HasNames)
    (folder : ∃ node, view.node path.text = .ok node ∧ node.isFolder = true) :
    (shell.moveTo path).Settled view where
  sees := sees
  names := names
  folder := folder
  told := by rw [← told]; rfl
  shown other otherNames := by
    constructor
    · intro same
      have equal : path.text = other.text := by
        simpa [prompt, moveTo, String.append_assoc] using same
      exact (text_injective names.segments otherNames.segments equal).symm
    · rintro rfl
      rfl

theorem Settled.names_destination {shell : Shell} {view : View} (settled : shell.Settled view)
    (mountNames : view.mountPoint.HasNames) (word : Option String) :
    (shell.destination word).HasNames := by
  cases word with
  | none =>
      rw [← settled.sees] at mountNames
      exact mountNames
  | some text => exact settled.names.resolve text

/-- Whatever a line is, the shell moves as it should and is settled afterwards. -/
theorem moves_execute (store : Store σ) {shell : Shell} {view : View}
    (settled : shell.Settled view) (mountNames : view.mountPoint.HasNames) (styled : Bool)
    (metrics : Option Metrics) (line : String) (state : σ) :
    let outcome := (store.run (shell.execute styled metrics line) state).1
    (Turn.mk shell line outcome.1 outcome.2).Moves ∧ outcome.2.Settled view := by
  dsimp only
  cases read : Words.read (Text.trim line.toList) with
  | error mark =>
      have done : shell.execute styled metrics line =
          .done (shell.stay (.error (.unclosedQuote mark))) := by
        rw [execute, read]
        rfl
      rw [done]
      refine ⟨Turn.moves_of_stayed rfl fun words output changes => ?_, settled⟩
      exact absurd (read.symm.trans changes) (by simp)
  | ok words =>
      have goesOn : shell.execute styled metrics line =
          shell.executeWords styled metrics words := by
        rw [execute, read]
      rw [goesOn]
      by_cases change : ∃ rest, words = "cd" :: rest
      · obtain ⟨rest, rfl⟩ := change
        rw [executeWords_cd]
        cases entered : shell.enter rest.head? with
        | error error =>
            refine ⟨Turn.moves_of_stayed rfl fun words output _ ended => ?_, settled⟩
            exact absurd ended (by simp [Store.run, Dialogue.run, move])
        | ok moved =>
            have names := settled.names_destination mountNames rest.head?
            rw [← settled.sees] at mountNames
            obtain ⟨rfl, folder⟩ := eq_moveTo_of_enter mountNames entered
            rw [settled.sees] at folder
            refine ⟨⟨fun words output changes _ => ?_, fun other => ?_⟩,
              settled_moveTo settled.sees (settled.told ▸ rfl) names folder⟩
            · obtain rfl : rest = words :=
                (List.cons.inj (Except.ok.inj (read.symm.trans changes))).2
              rfl
            · exact absurd rfl (other rest .empty read)
      · have stays := run_executeWords store shell styled metrics
          (fun rest same => change ⟨rest, same⟩) state
        refine ⟨Turn.moves_of_stayed stays fun rest output changes _ => ?_, ?_⟩
        · exact change ⟨rest, Except.ok.inj (read.symm.trans changes)⟩
        · rw [stays]
          exact settled

/-! ## Whole runs -/

theorem settled_start {view : View} (names : view.mountPoint.HasNames) :
    (start view).Settled view :=
  settled_moveTo rfl rfl names
    ⟨_, congrArg (orNotFound _) (View.node?_mountPoint names), rfl⟩

@[simp] theorem map_line_turns (store : Store σ) (meter : σ → Option Metrics) (styled : Bool)
    (shell : Shell) (state : σ) (lines : List String) :
    (turns store meter styled shell state lines).map Turn.line = lines := by
  induction lines generalizing shell state with
  | nil => rfl
  | cons line rest ih => exact congrArg (line :: ·) (ih _ _)

/-- From a settled shell on, the shell moves as it should in every turn and is settled after it. -/
theorem Settled.turns {store : Store σ} {meter : σ → Option Metrics} {styled : Bool}
    {shell : Shell} {view : View} (settled : shell.Settled view)
    (mountNames : view.mountPoint.HasNames) {state : σ} {lines : List String} {turn : Turn}
    (member : turn ∈ turns store meter styled shell state lines) :
    turn.Moves ∧ turn.after.Settled view := by
  induction lines generalizing shell state with
  | nil => simp [Shell.turns] at member
  | cons line rest ih =>
      have first := moves_execute store settled mountNames styled (meter state) line state
      rcases List.mem_cons.mp member with rfl | later
      · exact first
      · exact ih first.2 later

/-- A new shell is settled at the mount point. Whatever lines it carries out after that, there is a
turn for each line, and after each of them the shell is settled in the same view and has moved only
by a change of directory that succeeded. -/
theorem settled_turns (snapshot : Snapshot) (mountPoint : String) (store : Store σ)
    (meter : σ → Option Metrics) (styled : Bool) (state : σ) (lines : List String) :
    (start (.ofSnapshot snapshot mountPoint)).Settled (.ofSnapshot snapshot mountPoint) ∧
    (turns store meter styled (start (.ofSnapshot snapshot mountPoint)) state lines).map
      Turn.line = lines ∧
    ∀ turn ∈ turns store meter styled (start (.ofSnapshot snapshot mountPoint)) state lines,
      turn.Moves ∧ turn.after.Settled (.ofSnapshot snapshot mountPoint) := by
  have mountNames := hasNames_parse mountPoint
  have settled : (start (.ofSnapshot snapshot mountPoint)).Settled _ := settled_start mountNames
  exact ⟨settled, map_line_turns store meter styled _ state lines,
    fun turn member => settled.turns mountNames member⟩

end Shell

end ContentMount
