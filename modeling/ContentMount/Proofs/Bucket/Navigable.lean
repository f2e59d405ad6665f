/-
This file says when the mount of a bucket can be navigated: exactly when no key below the mounted
path has a single point between its slashes.
-/

import ContentMount.Proofs.Bucket.Root
import ContentMount.Proofs.Bucket.Service
import ContentMount.Proofs.Content.Walk

namespace ContentMount.Remote.Bucket

open ContentMount.Path

section

variable {keys : List String} {start : String}

/-- The pieces after a start are those of the rest of a longer start, without its last one, and
those after it. -/
theorem IsStart.pieces_append_rest {front : String} (proper : IsStart start)
    (isStart : IsStart (start ++ front)) (rest : String) :
    pieces (front ++ rest) = (pieces front).dropLast ++ pieces rest := by
  have whole := isStart.pieces_append rest
  rw [String.append_assoc, proper.pieces_append, proper.pieces_append,
    List.dropLast_append_of_ne_nil (pieces_ne_nil front), List.append_assoc] at whole
  exact List.append_cancel_left whole

/-- Reading keeps the names of a tree exactly when no key that it depicts has a single point
between its slashes. -/
theorem Depicts.named_iff {tree : Tree} (depicts : Depicts keys start tree)
    (proper : IsStart start) (unbroken : Unbroken keys start) :
    tree.Named IsName ↔ ∀ rest, start ++ rest ∈ keys → "." ∉ pieces rest := by
  constructor
  · intro named
    induction depicts with
    | @folder start name path items listed once below ih =>
        obtain ⟨here, inside⟩ := Tree.named_folder_iff.mp named
        intro rest present point
        rcases slashless_or_exists_name rest with slashless | ⟨first, others, slashless, rfl⟩
        · obtain rfl : "." = rest := by simpa [pieces_slashless slashless] using point
          have member := file_mem_items listed ⟨by decide, slashless⟩ present
          exact (here _ member).notPoint rfl
        · have isPresent : start ++ first ++ "/" ++ others ∈ keys := by
            simpa only [String.append_assoc] using present
          have segment : IsSegment first := ⟨unbroken.nonempty slashless isPresent, slashless⟩
          obtain ⟨inner, member⟩ := exists_folder_mem_items listed segment isPresent
          rw [pieces_append_slash, pieces_slashless slashless] at point
          rcases List.mem_cons.mp point with same | later
          · exact (here _ member).notPoint same.symm
          · exact ih _ _ _ member (proper.append segment) (unbroken.below slashless)
              (inside _ member) others isPresent later
  · intro pointless
    refine depicts.named proper fun front isStart entry isEntry => ⟨isEntry.isSegment, ?_⟩
    intro same
    cases isEntry with
    | @folder name rest segment inside =>
        obtain rfl : name = "." := same
        refine pointless (front ++ ("." ++ "/" ++ rest))
          (by simpa [String.append_assoc] using inside) ?_
        rw [proper.pieces_append_rest isStart, pieces_append_slash,
          pieces_slashless segment.slashless]
        simp
    | @file name segment present =>
        obtain rfl : name = "." := same
        refine pointless (front ++ ".") (by simpa [String.append_assoc] using present) ?_
        rw [proper.pieces_append_rest isStart, pieces_slashless segment.slashless]
        simp

/-- An empty snapshot can be navigated. -/
theorem navigable_empty (mountPoint : Path) : View.Navigable ⟨Snapshot.empty, mountPoint⟩ where
  resolves key descriptor held := by simp at held
  walk := by
    refine ⟨[], ?_, List.nodup_nil, by simp⟩
    simp only [View.children, Snapshot.children_empty, List.map_nil]
    exact .nothing

end

section

variable {σ : Type} {transport : Transport σ} {client : Client} {keys : List String}
  {config : MountConfig}

/-- A mount of a bucket ends when no key has an empty name in it and none is another key up to a
slash. It can be navigated exactly when no key below the mounted path has a single point between
its slashes. -/
theorem Hosting.exists_mount_navigable_iff (hosting : Hosting (transport.bucket client) keys)
    (unbroken : Unbroken keys "") (clear : ¬Shadowed keys "")
    (accepted : config.validatePaths = .ok ()) (state : σ) : ∃ mount : Mount,
      (∃ enough, ∀ limit ≥ enough,
        ((storeOf transport client).run (Mount.activate limit config) state).1 =
          some (.ok mount)) ∧
        (mount.view.Navigable ↔
          ∀ rest, startOf config.remotePath ++ rest ∈ keys → "." ∉ pieces rest) := by
  have proper := isStart_startOf config.remotePath
  obtain ⟨found, root, mount, ends, isView⟩ :=
    hosting.exists_mounted (unbroken.start proper) accepted state
  refine ⟨mount, ends, ?_⟩
  rw [isView]
  cases root with
  | nothing below missing outside =>
      exact iff_of_true (navigable_empty _) fun rest inside => (outside ⟨rest, inside⟩).elim
  | object below member =>
      have holds := hosting.holdsAt unbroken clear accepted (.object below member)
      have outside := not_inside_of_object clear below member
      exact iff_of_true (holds.navigable_iff.mpr (.file _ _))
        fun rest inside => (outside ⟨rest, inside⟩).elim
  | folder isFolder arranged =>
      have holds := hosting.holdsAt unbroken clear accepted (.folder isFolder arranged)
      have depicts := hosting.depicts_of_arranged arranged proper (unbroken.start proper)
      exact holds.navigable_iff.trans (depicts.named_iff proper (unbroken.start proper))

end

/-- A folder whose name is a single point keeps a mount from being navigated, and one with two
points does not. -/
theorem exists_mount_navigable_sampleService :
    (∃ mount : Mount,
      (∃ enough, ∀ limit ≥ enough,
        ((storeOf (sampleService ["./b"]) sampleClient).run
          (Mount.activate limit sampleConfig) ()).1 = some (.ok mount)) ∧
        ¬mount.view.Navigable) ∧
    ∃ mount : Mount,
      (∃ enough, ∀ limit ≥ enough,
        ((storeOf (sampleService ["../b"]) sampleClient).run
          (Mount.activate limit sampleConfig) ()).1 = some (.ok mount)) ∧
        mount.view.Navigable := by
  have accepted : sampleConfig.validatePaths = .ok () := by decide
  have start : startOf sampleConfig.remotePath = "" := by decide
  constructor
  · obtain ⟨mount, ends, navigable⟩ := (sampleHosting ["./b"]).exists_mount_navigable_iff
      (unbroken_singleton (by decide)) (not_shadowed_singleton _ _) accepted ()
    refine ⟨mount, ends, fun can => ?_⟩
    exact navigable.mp can "./b" (by rw [start]; decide) (by decide)
  · obtain ⟨mount, ends, navigable⟩ := (sampleHosting ["../b"]).exists_mount_navigable_iff
      (unbroken_singleton (by decide)) (not_shadowed_singleton _ _) accepted ()
    refine ⟨mount, ends, navigable.mpr fun rest member => ?_⟩
    rw [start, String.empty_append, List.mem_singleton] at member
    rw [member]
    decide

end ContentMount.Remote.Bucket
