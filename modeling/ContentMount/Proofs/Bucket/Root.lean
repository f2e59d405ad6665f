/-
This file says what a mount of a bucket shows: nothing, a single object, or a folder in the order
of the pages.
-/

import ContentMount.Proofs.Bucket.Shadowing
import ContentMount.Proofs.Content.Navigation
import ContentMount.Proofs.Mount.Activation

namespace ContentMount.Remote.Bucket

open ContentMount.Path

/-- A bucket has nothing at a remote path, or an object, or a folder with everything below it. -/
inductive RootAt (keys : List String) (order : String → List Entry) (remotePath : String) :
    Option Tree → Prop where
  | nothing (below : keyOf remotePath ≠ "") (missing : keyOf remotePath ∉ keys)
      (outside : ¬∃ rest, startOf remotePath ++ rest ∈ keys) : RootAt keys order remotePath none
  | object (below : keyOf remotePath ≠ "") (member : keyOf remotePath ∈ keys) :
      RootAt keys order remotePath
        (some (.file (lastPiece (keyOf remotePath)) ("/" ++ keyOf remotePath)))
  | folder {tree : Tree} (isFolder : IsFolder keys remotePath)
      (arranged : Arranged order (startOf remotePath) tree) :
      RootAt keys order remotePath (some tree)

theorem Unbroken.start {keys : List String} (unbroken : Unbroken keys "") {start : String}
    (proper : IsStart start) : Unbroken keys start := by
  intro rest inside empty
  refine unbroken (start ++ rest) (by rwa [String.empty_append]) ?_
  rw [proper.pieces_append, List.dropLast_append_of_ne_nil (pieces_ne_nil rest)]
  exact List.mem_append_right _ empty

/-- Nothing is shadowed below a start when nothing is shadowed in the bucket. -/
theorem Shadowed.of_start {keys : List String} {start : String} (shadowed : Shadowed keys start) :
    Shadowed keys "" := by
  obtain ⟨rest, more, present, inside⟩ := shadowed
  exact ⟨start ++ rest, more, by rwa [String.empty_append], by rwa [String.empty_append]⟩

/-- With no shadow in the bucket there is nothing below an object. -/
theorem not_inside_of_object {keys : List String} (clear : ¬Shadowed keys "") {remotePath : String}
    (below : keyOf remotePath ≠ "") (member : keyOf remotePath ∈ keys) :
    ¬∃ rest, startOf remotePath ++ rest ∈ keys := by
  rintro ⟨rest, inside⟩
  rw [startOf_of_ne below] at inside
  refine clear ⟨keyOf remotePath, rest, ?_, ?_⟩ <;> rw [String.empty_append]
  · exact member
  · exact inside

section

variable {σ : Type} {transport : Transport σ} {client : Client} {keys : List String}
  (hosting : Hosting (transport.bucket client) keys) {config : MountConfig}

/-- A tree that a mount shows is held in its snapshot when no key has an empty name in it and none
shadows another. -/
theorem Hosting.holdsAt (unbroken : Unbroken keys "") (clear : ¬Shadowed keys "")
    (accepted : config.validatePaths = .ok ()) {remotePath : String} {tree : Tree}
    (root : RootAt keys hosting.order remotePath (some tree)) :
    (Snapshot.empty.plant config.mountPoint tree).HoldsAt (parse config.mountPoint) tree := by
  obtain ⟨below, plain, isText⟩ := MountConfig.mountPoint_of_accepted accepted
  have named : tree.Named IsSegment ∧ tree.Distinct := by
    cases root with
    | object => exact ⟨.file _ _, .file _ _⟩
    | folder isFolder arranged =>
        have proper := isStart_startOf remotePath
        have depicts := hosting.depicts_of_arranged arranged proper (unbroken.start proper)
        exact ⟨depicts.named proper fun _ _ _ isEntry => isEntry.isSegment,
          depicts.distinct (mt Shadowed.of_start clear)⟩
  have holds := Snapshot.holdsAt_plant named.1 named.2 below plain.names
  rwa [isText] at holds

/-- A mount ends when no key below its path goes on with an empty name. -/
theorem Hosting.exists_mounted (unbroken : Unbroken keys (startOf config.remotePath))
    (accepted : config.validatePaths = .ok ()) (state : σ) : ∃ found,
      RootAt keys hosting.order config.remotePath found ∧ ∃ mount : Mount,
        (∃ enough, ∀ limit ≥ enough,
          ((storeOf transport client).run (Mount.activate limit config) state).1 =
            some (.ok mount)) ∧
          mount.view = .ofSnapshot (Snapshot.ofTree? config.mountPoint found)
            config.mountPoint := by
  by_cases object : keyOf config.remotePath ≠ "" ∧ keyOf config.remotePath ∈ keys
  · exact ⟨_, .object object.1 object.2, Mount.exists_of_build accepted
      (Snapshot.build_plants (hosting.servesAt_object object.1 object.2 state) _)⟩
  · by_cases isFolder : IsFolder keys config.remotePath
    · obtain ⟨tree, arranged, served⟩ := hosting.exists_arranged isFolder unbroken
      exact ⟨_, .folder isFolder arranged, Mount.exists_of_build accepted
        (Snapshot.build_plants (served state) _)⟩
    · have below : keyOf config.remotePath ≠ "" := fun top => isFolder (.inl top)
      have missing : keyOf config.remotePath ∉ keys := fun member => object ⟨below, member⟩
      have outside := fun inside => isFolder (.inr ⟨missing, inside⟩)
      exact ⟨_, .nothing below missing outside, Mount.exists_of_build accepted
        (hosting.build_of_outside below missing outside _ state)⟩

end

end ContentMount.Remote.Bucket
