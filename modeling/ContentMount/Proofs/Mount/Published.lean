/-
This file shows what an activation publishes. Whatever the store answers, the children in the
mounted view have segments for names.
-/

import ContentMount.Proofs.Build.Outcome
import ContentMount.Proofs.Mount.Activation

namespace ContentMount

open Remote ContentMount.Path

/-! ## Children of planted trees -/

namespace Remote.Tree

/-- At a key that speaks, every node is placed above children with segments for names. -/
theorem isSegment_of_mem_placements {tree : Tree} {key : String} (speaks : Speaks key)
    {placement : Placement} (placed : placement ∈ tree.placements key) :
    ∀ child ∈ placement.children, IsSegment child.name := by
  induction tree using Tree.induction generalizing key placement with
  | file name path =>
      rw [placements, List.mem_pair] at placed
      rcases placed with rfl | rfl
      · simp
      · intro child member
        rw [List.mem_singleton.mp member]
        exact isSegment_content
  | folder name path items ih =>
      rw [placements, List.mem_append, List.mem_singleton] at placed
      rcases placed with inside | rfl
      · obtain ⟨item, member, placed⟩ := mem_itemPlacements.mp inside
        exact ih item member (speaks.below item.name) placed
      · intro child member
        obtain ⟨item, -, rfl⟩ := List.mem_map.mp member
        rw [name_node]
        exact (speaks.below item.name).isSegment_nameText

end Remote.Tree

namespace Snapshot

/-- A child was there before, or one of the placements brings it. -/
theorem mem_children_placeAll {snapshot : Snapshot} {placements : List Placement} {key : String}
    {child : Descriptor} (member : child ∈ (snapshot.placeAll placements).children key) :
    child ∈ snapshot.children key ∨ ∃ placement ∈ placements, child ∈ placement.children := by
  induction placements generalizing snapshot with
  | nil => exact .inl member
  | cons placement rest ih =>
      have later : child ∈ ((snapshot.place placement).placeAll rest).children key := member
      rcases ih later with before | brought
      · rw [children_place] at before
        split_ifs at before
        · exact .inr ⟨placement, List.mem_cons_self, before⟩
        · exact .inl before
      · obtain ⟨other, among, inside⟩ := brought
        exact .inr ⟨other, List.mem_cons_of_mem placement among, inside⟩

/-- The children of what a build makes have segments for names. -/
theorem isSegment_of_mem_children {mountPoint : String} (speaks : Speaks mountPoint)
    {found : Option Tree} {key : String} {child : Descriptor}
    (member : child ∈ (ofTree? mountPoint found).children key) : IsSegment child.name := by
  cases found with
  | none => simp [ofTree?] at member
  | some tree =>
      rcases mem_children_placeAll member with before | brought
      · simp at before
      · obtain ⟨placement, placed, inside⟩ := brought
        exact Tree.isSegment_of_mem_placements speaks placed child inside

end Snapshot

/-! ## Mounts -/

/-- In a published view the mount point is a path of plain names below the root, and children have
segments for names. -/
structure View.Published (view : View) : Prop where
  below : view.mountPoint ≠ root
  plain : view.mountPoint.HasPlainNames
  segments : ∀ key, ∀ child ∈ view.snapshot.children key, IsSegment child.name

namespace Mount

variable {σ : Type} {store : Store σ} {limit : Nat} {config : MountConfig} {state : σ}
  {mount : Mount}

/-- A mount shows what was built for an accepted configuration. -/
theorem eq_of_activate
    (activated : (store.run (activate limit config) state).1 = some (.ok mount)) :
    config.validatePaths = .ok () ∧ ∃ found,
      mount = ⟨config, .ofSnapshot (.ofTree? config.mountPoint found) config.mountPoint⟩ := by
  cases checked : config.validatePaths with
  | error error =>
      rw [(activate_rejected checked).2] at activated
      exact absurd activated (by simp)
  | ok =>
      refine ⟨rfl, ?_⟩
      rw [run_activate checked, Snapshot.run_build] at activated
      dsimp only at activated
      rcases ended : ((Gathering.root limit config.mountPoint config.remotePath).run store
        state).1 with _ | error | found
      · simp [ended] at activated
      · simp [ended, Except.map] at activated
      · rw [ended] at activated
        exact ⟨found, (Except.ok.inj (Option.some.inj activated)).symm⟩

/-- What an activation publishes is a published view. -/
theorem published_of_activate
    (activated : (store.run (activate limit config) state).1 = some (.ok mount)) :
    mount.view.Published := by
  obtain ⟨accepted, found, rfl⟩ := eq_of_activate activated
  obtain ⟨below, plain, isText⟩ := MountConfig.mountPoint_of_accepted accepted
  refine ⟨below, plain, fun key child member => ?_⟩
  have speaks : Speaks config.mountPoint := isText ▸ speaks_text below plain.names.segments
  exact Snapshot.isSegment_of_mem_children speaks member

end Mount

end ContentMount
