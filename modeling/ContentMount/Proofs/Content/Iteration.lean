/-
This file compares walks over children with taking nodes from a list one by one. A walk gives the
same nodes, knows how many are still to come, and never leaves the range of its positions.
-/

import ContentMount.Content.Children

namespace ContentMount

/-- A move asks for the next node, or for the one after some nodes that are skipped. -/
inductive Move where
  | next
  | nth (skipped : Nat)
  deriving DecidableEq

/-- What is told before a move, and the node that the move brings. -/
structure Move.Report where
  size : Nat
  length? : Option Nat
  bounds : Nat × Option Nat
  node? : Option Node
  deriving DecidableEq

/-! ## Taking nodes from a list -/

namespace Plain

/-- The first node of a list and the nodes after it. -/
def next : List Node → Option Node × List Node
  | [] => (none, [])
  | node :: rest => (some node, rest)

/-- Takes the skipped nodes one by one and then one more. The first time that there is none, nothing
more is taken. -/
def nth : Nat → List Node → Option Node × List Node
  | 0, nodes => next nodes
  | skipped + 1, nodes =>
    match next nodes with
    | (some _, rest) => nth skipped rest
    | (none, rest) => (none, rest)

def move (nodes : List Node) : Move → Option Node × List Node
  | .next => next nodes
  | .nth skipped => nth skipped nodes

/-- The reports of moves over a list when it had the given size at first. -/
def reports (size : Nat) : List Node → List Move → List Move.Report
  | _, [] => []
  | nodes, first :: others =>
    ⟨size, some nodes.length, (nodes.length, some nodes.length), (move nodes first).1⟩ ::
      reports size (move nodes first).2 others

theorem nth_eq (skipped : Nat) (nodes : List Node) :
    nth skipped nodes = next (nodes.drop skipped) := by
  induction skipped generalizing nodes with
  | zero => rfl
  | succ skipped ih =>
      cases nodes with
      | nil => rfl
      | cons node rest => exact ih rest

theorem next_eq_nil {nodes : List Node} (ended : (next nodes).1 = none) : (next nodes).2 = [] := by
  cases nodes with
  | nil => rfl
  | cons node rest => cases ended

/-- Only from an empty list nothing is taken, and nothing is left of it. -/
theorem move_eq_nil {nodes : List Node} {first : Move} (ended : (move nodes first).1 = none) :
    (move nodes first).2 = [] := by
  cases first with
  | next => exact next_eq_nil ended
  | nth skipped =>
      rw [move, nth_eq] at ended ⊢
      exact next_eq_nil ended

theorem move_nil (first : Move) : move [] first = (none, []) := by
  cases first with
  | next => rfl
  | nth skipped => rw [move, nth_eq, List.drop_nil, next]

theorem node?_of_mem_reports_nil {size : Nat} {moves : List Move} {report : Move.Report}
    (member : report ∈ reports size [] moves) : report.node? = none := by
  induction moves with
  | nil => simp [reports] at member
  | cons first others ih =>
      rw [reports, move_nil] at member
      rcases List.mem_cons.mp member with rfl | later
      · rfl
      · exact ih later

/-- After a move that brings nothing no other move brings anything. -/
theorem pairwise_reports (size : Nat) (nodes : List Node) (moves : List Move) :
    (reports size nodes moves).Pairwise fun earlier later =>
      earlier.node? = none → later.node? = none := by
  induction moves generalizing nodes with
  | nil => exact .nil
  | cons first others ih =>
      refine .cons (fun later member ended => ?_) (ih _)
      rw [move_eq_nil ended] at member
      exact node?_of_mem_reports_nil member

end Plain

/-! ## Walks -/

namespace Children

def move (walk : Children) : Move → Option Node × Children
  | .next => walk.next
  | .nth skipped => walk.nth skipped

/-- What a walk tells before each of some moves, and the nodes that they bring. -/
def reports : Children → List Move → List Move.Report
  | _, [] => []
  | walk, first :: others =>
    ⟨walk.size, walk.length?, walk.bounds, (walk.move first).1⟩ ::
      reports (walk.move first).2 others

/-- The walk after some moves. -/
def after (walk : Children) (moves : List Move) : Children :=
  moves.foldl (fun walk move => (walk.move move).2) walk

theorem rest_eq (walk : Children) :
    walk.rest.1 =
      (walk.descriptors.drop walk.position).map (Node.ofDescriptor walk.parent) := rfl

/-- A walk whose positions are in range stands before some nodes. -/
structure StandsBefore (walk : Children) (nodes : List Node) : Prop where
  ahead : walk.rest.1 = nodes
  fits : walk.size ≤ lastPosition
  inRange : walk.position ≤ lastPosition

namespace StandsBefore

variable {walk : Children} {nodes : List Node} (stands : walk.StandsBefore nodes)
include stands

/-- The nodes that are still to come are counted. -/
theorem remaining : walk.remaining = nodes.length := by
  rw [← stands.ahead, rest_eq, List.length_map, List.length_drop, Children.remaining,
    Children.size]

theorem length? : walk.length? = some nodes.length := by
  simp [Children.length?, bounds, stands.remaining]

theorem bounds : walk.bounds = (nodes.length, some nodes.length) := by
  rw [Children.bounds, stands.remaining]

/-- When a node is still to come, the position after it is in range. -/
theorem position_lt {node : Node} {others : List Node} (isNext : nodes = node :: others) :
    walk.position < lastPosition := by
  have counted := stands.remaining
  rw [isNext, List.length_cons, Children.remaining] at counted
  have fits := stands.fits
  omega

theorem next :
    walk.next.1 = (Plain.next nodes).1 ∧ walk.next.2.StandsBefore (Plain.next nodes).2 ∧
      walk.next.2.size = walk.size := by
  have ahead := stands.ahead
  rw [rest_eq] at ahead
  cases here : walk.descriptors[walk.position]? with
  | none =>
      have passed : walk.descriptors.drop walk.position = [] :=
        List.drop_eq_nil_of_le (List.getElem?_eq_none_iff.mp here)
      obtain rfl : nodes = [] := by rw [← ahead, passed, List.map_nil]
      rw [Children.next, here]
      exact ⟨rfl, stands, rfl⟩
  | some descriptor =>
      obtain ⟨inside, isHere⟩ := List.getElem?_eq_some_iff.mp here
      have isNext : nodes = Node.ofDescriptor walk.parent descriptor ::
          (walk.descriptors.drop (walk.position + 1)).map (Node.ofDescriptor walk.parent) := by
        rw [← ahead, List.drop_eq_getElem_cons inside, isHere, List.map_cons]
      rw [Children.next, here, isNext]
      exact ⟨rfl, ⟨rfl, stands.fits, stands.position_lt isNext⟩, rfl⟩

/-- A position beyond the range would be beyond the last child, too. -/
theorem skip (skipped : Nat) :
    { walk with position := min (walk.position + skipped) lastPosition }.StandsBefore
      (nodes.drop skipped) where
  ahead := by
    have fits := stands.fits
    have same : walk.descriptors.drop (min (walk.position + skipped) lastPosition) =
        walk.descriptors.drop (walk.position + skipped) := by
      rcases Nat.le_total (walk.position + skipped) lastPosition with inside | beyond
      · rw [Nat.min_eq_left inside]
      · rw [Nat.min_eq_right beyond, List.drop_eq_nil_of_le fits,
          List.drop_eq_nil_of_le (Nat.le_trans fits beyond)]
    rw [← stands.ahead, rest_eq, rest_eq, ← List.map_drop, List.drop_drop]
    exact congrArg (List.map (Node.ofDescriptor walk.parent)) same
  fits := stands.fits
  inRange := Nat.min_le_right _ _

/-- One move of a walk is one move over the nodes before which it stands. -/
theorem move (first : Move) :
    (walk.move first).1 = (Plain.move nodes first).1 ∧
      (walk.move first).2.StandsBefore (Plain.move nodes first).2 ∧
        (walk.move first).2.size = walk.size := by
  cases first with
  | next => exact stands.next
  | nth skipped =>
      rw [Plain.move, Plain.nth_eq]
      exact (stands.skip skipped).next

/-- The reports of a walk are those of the nodes before which it stands. -/
theorem reports (moves : List Move) :
    walk.reports moves = Plain.reports walk.size nodes moves := by
  induction moves generalizing walk nodes with
  | nil => rfl
  | cons first others ih =>
      obtain ⟨sameNode, later, sameSize⟩ := stands.move first
      rw [Children.reports, Plain.reports, stands.length?, stands.bounds, sameNode, ih later,
        sameSize]

theorem after (moves : List Move) : ∃ others, (walk.after moves).StandsBefore others := by
  induction moves generalizing walk nodes with
  | nil => exact ⟨nodes, stands⟩
  | cons first others ih => exact ih (stands.move first).2.1

end StandsBefore

theorem standsBefore_start {view : View} {path : String}
    (fits : (view.children path).length ≤ lastPosition) :
    (start view path).StandsBefore (view.children path) where
  ahead := rfl
  fits := by rwa [View.children, List.length_map] at fits
  inRange := Nat.zero_le _

theorem size_start (view : View) (path : String) :
    (start view path).size = (view.children path).length := by
  rw [View.children, List.length_map]
  rfl

/-- Whatever moves a walk makes over children that can be counted, it reports what taking the nodes
from the list of the children reports. Once a move brings nothing, no later move brings anything.
Its positions stay in range, also when it goes on past a child. -/
theorem reports_start {view : View} {path : String}
    (fits : (view.children path).length ≤ lastPosition) (moves : List Move) :
    (start view path).reports moves =
        Plain.reports (view.children path).length (view.children path) moves ∧
    ((start view path).reports moves).Pairwise
        (fun earlier later => earlier.node? = none → later.node? = none) ∧
    ((start view path).after moves).position ≤ lastPosition ∧
    (((start view path).after moves).next.1.isSome →
        ((start view path).after moves).position + 1 ≤ lastPosition) := by
  have stands := standsBefore_start fits
  have same := stands.reports moves
  rw [size_start] at same
  obtain ⟨others, later⟩ := stands.after moves
  refine ⟨same, same ▸ Plain.pairwise_reports _ _ _, later.inRange, fun present => ?_⟩
  rw [later.next.1] at present
  cases others with
  | nil => cases present
  | cons node rest => exact later.position_lt rfl

/-- A folder with two children. -/
def pairView : View :=
  ⟨Snapshot.empty.addFamily "/a" [.folder "b", .file "c"], .root⟩

/-- Skipping as many nodes as can be counted ends the walk over two children, and it stays at its
end. -/
theorem reports_start_pairView :
    (pairView.children "/a").length ≤ lastPosition ∧
    (start pairView "/a").reports [.next, .nth lastPosition, .next] =
      [⟨2, some 2, (2, some 2), some (.ofDescriptor "/a" (.folder "b"))⟩,
        ⟨2, some 1, (1, some 1), none⟩, ⟨2, some 0, (0, some 0), none⟩] := by
  have children : pairView.children "/a" =
      [.ofDescriptor "/a" (.folder "b"), .ofDescriptor "/a" (.file "c")] := by
    have isText : (Path.parse "/a").text = "/a" := by decide
    rw [View.children, isText, pairView, Snapshot.children_addFamily _ _ _ _ (by simp), if_pos rfl]
    rfl
  have fits : (pairView.children "/a").length ≤ lastPosition := by
    rw [children]
    decide
  refine ⟨fits, ?_⟩
  rw [(reports_start fits _).1, children]
  rfl

end Children

end ContentMount
