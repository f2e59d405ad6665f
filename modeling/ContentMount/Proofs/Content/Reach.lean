/-
This file follows children downwards: every node of a mirrored tree is reached from the mount
point, and the content of a file is reached with it.
-/

import ContentMount.Content.Reading
import ContentMount.Proofs.Content.Navigation

namespace ContentMount

open Remote ContentMount.Path

/-- A node is reached from a path by listing children again and again. -/
inductive View.Reached (view : View) (start : String) : Node → Prop where
  | child {node : Node} (member : node ∈ view.children start) : Reached view start node
  | deeper {node child : Node} (reached : Reached view start node)
      (member : child ∈ node.children view) : Reached view start child

/-- A node that is reached is a child of some path. -/
theorem View.Reached.exists_parent {view : View} {start : String} {node : Node}
    (reached : view.Reached start node) : ∃ text, node ∈ view.children text := by
  cases reached with
  | child member => exact ⟨start, member⟩
  | deeper _ member => exact ⟨_, member⟩

namespace Snapshot.MirrorsAt

variable {snapshot : Snapshot} {mount : Path} {tree : Tree}
  (mirror : snapshot.MirrorsAt mount tree)
include mirror

/-- The node at the end of a trail has the path at the end of the trail. -/
theorem path_eq {trail : List String} {name : String} {node : Descriptor}
    {children : List Descriptor}
    (shown : Tree.Shows (lastPiece mount.text) tree (trail ++ [name]) node children) :
    (Node.ofDescriptor (mount.follow trail).text node).path =
      (mount.follow (trail ++ [name])).text := by
  exact mirror.path_of_nodeAt? (mirror.names_follow shown) (mirror.nodeAt?_follow shown)

/-- The children of a shown node are listed at its path. -/
theorem mem_children {trail : List String} {node child : Descriptor}
    {children : List Descriptor}
    (shown : Tree.Shows (lastPiece mount.text) tree trail node children)
    (member : child ∈ children) :
    Node.ofDescriptor (mount.follow trail).text child ∈
      View.children ⟨snapshot, mount⟩ (mount.follow trail).text := by
  rw [View.children_text _ (mirror.names_follow shown), mirror.children_follow shown]
  exact List.mem_map_of_mem member

/-- Every node below the mount point is reached from there. -/
theorem reached_of_shows {trail : List String} {name : String} {node : Descriptor}
    {children : List Descriptor}
    (shown : Tree.Shows (lastPiece mount.text) tree (trail ++ [name]) node children) :
    View.Reached ⟨snapshot, mount⟩ mount.text
      (Node.ofDescriptor (mount.follow trail).text node) := by
  induction trail using List.reverseRecOn generalizing name node children with
  | nil =>
      obtain ⟨parent, siblings, parentShown, among, -⟩ := shown.parent
      have member := mirror.mem_children parentShown among
      rw [follow_nil] at member ⊢
      exact .child member
  | append_singleton front last ih =>
      obtain ⟨parent, siblings, parentShown, among, -⟩ := shown.parent
      refine .deeper (ih parentShown) ?_
      rw [Node.children, mirror.path_eq parentShown]
      exact mirror.mem_children parentShown among

end Snapshot.MirrorsAt

/-- Reading a binary that is not at hand is one download. -/
theorem Value.start_read_deferred (source : String) (cells : Cells) :
    (Value.binary (.deferred source none)).read.start cells =
      .ask (.download source) fun answer =>
        .done (answer.mapError (fetchFailure source), cells) := by
  refine congrArg (Dialogue.ask (Request.download source)) (funext fun answer => ?_)
  cases answer <;> rfl

end ContentMount
