/-
This file says which configurations are accepted and shows that all keys below an accepted mount
point are canonical. Keys are made by writing names below one another, and they are found by texts
that were read first, so both have to agree.
-/

import ContentMount.Proofs.Build.Contents
import ContentMount.Proofs.Content.Properties

namespace ContentMount

open Remote ContentMount.Path

namespace Path

theorem isAbsolute_eq_true_iff {text : String} :
    isAbsolute text = true ↔ ∃ rest, text = "/" ++ rest := by
  constructor
  · intro absolute
    rw [isAbsolute, beq_iff_eq] at absolute
    obtain ⟨rest, split⟩ := List.head?_eq_some_iff.mp absolute
    refine ⟨String.ofList rest, String.toList_inj.mp ?_⟩
    simp [split]
  · intro starts
    obtain ⟨rest, rfl⟩ := starts
    simp [isAbsolute]

theorem isCanonical_text {path : Path} (names : path.HasNames) : IsCanonical path.text := by
  rw [IsCanonical, parse_text names]

/-- Names that are written below one another follow the path. -/
theorem foldl_below_text {path : Path} (names : path.HasNames) {trail : List String}
    (named : ∀ name ∈ trail, IsName name) :
    trail.foldl Path.below path.text = (path.follow trail).text := by
  induction trail generalizing path with
  | nil => rw [follow_nil, List.foldl_nil]
  | cons name rest ih =>
      have isName := named name List.mem_cons_self
      rw [List.foldl_cons, below_text names.segments isName.toIsSegment, follow_cons]
      exact ih (names.child isName) fun other later => named other (List.mem_cons_of_mem _ later)

end Path

namespace Snapshot

/-- A tree whose names are kept by reading has canonical keys only, whether or not siblings are
told apart by their names. -/
theorem isCanonical_of_get?_plant {path : Path} (names : path.HasNames) {tree : Tree}
    (named : tree.Named IsName) {key : String}
    (found : ((empty.plant path.text tree).get? key).isSome) : IsCanonical key := by
  rw [plant, get?_placeAll, Option.isSome_map] at found
  obtain ⟨placement, last⟩ := Option.isSome_iff_exists.mp found
  obtain ⟨rfl, front, rest, split, -⟩ := lastAt?_eq_some_iff.mp last
  have member : placement ∈ tree.placements path.text := by simp [split]
  obtain ⟨trail, shown, leads⟩ :=
    (Tree.mem_placements named.segments names.segments).mp member
  rw [leads]
  exact isCanonical_text (names.follow (shown.named Tree.isName_content named))

end Snapshot

namespace MountConfig

/-- The accepted mount points are the texts that reading a text and writing it again gives, as long
as the path that was read is below the root and does not lead up. -/
theorem mountProblem?_eq_none_iff_read (mountPoint : String) :
    mountProblem? mountPoint = none ↔ ∃ text, parse text ≠ root ∧
      ".." ∉ (parse text).segments ∧ mountPoint = (parse text).text := by
  constructor
  · intro accepted
    obtain ⟨below, plain, isText⟩ := mountPoint_eq_text accepted
    exact ⟨mountPoint, below, fun member => (plain ".." member).notPoints rfl, isText.symm⟩
  · intro read
    obtain ⟨text, below, down, rfl⟩ := read
    have plain : (parse text).HasPlainNames := fun name member =>
      ⟨hasNames_parse text name member, fun points => down (points ▸ member)⟩
    exact (mountProblem?_eq_none_iff _).mpr ⟨parse text, below, plain, rfl⟩

theorem remoteProblem?_eq_none_iff (remotePath : String) :
    remoteProblem? remotePath = none ↔ remotePath = "" ∨ ∃ rest, remotePath = "/" ++ rest := by
  rw [remoteProblem?, ← isAbsolute_eq_true_iff]
  split_ifs with kept
  · simpa using kept
  · simpa using kept

/-- The keys that a mount can have are canonical: the mount point, which its parent and its name
make up again, every key that names are written into, and every key of a built snapshot. -/
structure KeysCanonical (config : MountConfig) : Prop where
  mountPoint : IsCanonical config.mountPoint
  rejoined :
    below (parentText config.mountPoint) (nameText config.mountPoint) = config.mountPoint
  written : ∀ names : List String, (∀ name ∈ names, IsName name) →
    IsCanonical (names.foldl below config.mountPoint)
  /-- Every snapshot of a remote tree with names that reading keeps has canonical keys. -/
  built : ∀ {σ : Type} (store : Store σ) (limit : Nat) (state : σ) (tree : Tree)
    (snapshot : Snapshot), tree.Named IsName →
    ((Gathering.root limit config.mountPoint config.remotePath).run store state).1 =
      some (.ok (some tree)) →
    (store.run (Snapshot.build limit config.mountPoint config.remotePath) state).1 =
      some (.ok snapshot) →
    ∀ key, (snapshot.get? key).isSome → IsCanonical key

theorem keysCanonical {config : MountConfig} (accepted : config.validatePaths = .ok ()) :
    config.KeysCanonical := by
  obtain ⟨below, plain, isText⟩ := mountPoint_of_accepted accepted
  have names := plain.names
  refine ⟨isText, ?_, ?_, ?_⟩
  · have rejoined := below_parentText_nameText below names
    rwa [isText] at rejoined
  · intro written named
    have followed := foldl_below_text names named
    rw [isText] at followed
    rw [followed]
    exact isCanonical_text (names.follow named)
  · intro σ store limit state tree snapshot named gathered done key found
    rw [Snapshot.run_build] at done
    dsimp only at done
    rw [gathered] at done
    obtain rfl : Snapshot.empty.plant config.mountPoint tree = snapshot := by
      simpa [Snapshot.ofTree?, Except.map] using done
    rw [← isText] at found
    exact Snapshot.isCanonical_of_get?_plant names named found

/-- A configuration is accepted when its mount point is canonical, below the root and does not lead
up, and its remote path is empty or absolute. All keys are canonical then. -/
theorem validatePaths_canonical (config : MountConfig) :
    (config.validatePaths = .ok () ↔
      (∃ text, parse text ≠ root ∧ ".." ∉ (parse text).segments ∧
        config.mountPoint = (parse text).text) ∧
      (config.remotePath = "" ∨ ∃ rest, config.remotePath = "/" ++ rest)) ∧
    (config.validatePaths = .ok () → config.KeysCanonical) := by
  refine ⟨?_, keysCanonical⟩
  rw [validatePaths_eq_ok_iff, mountProblem?_eq_none_iff_read, remoteProblem?_eq_none_iff]

/-- Below the default mount point two points are a name like any other, and the sample store is
built with canonical keys. -/
theorem validatePaths_canonical_default :
    IsCanonical (["notes", ".."].foldl below "/content/dropbox") ∧
      ∃ limit snapshot,
        (sampleStore.run (Snapshot.build limit "/content/dropbox" "/") ()).1 =
            some (.ok snapshot) ∧
          ∀ key, (snapshot.get? key).isSome → IsCanonical key := by
  have canonical := (validatePaths_canonical { remotePath := "/" }).2 (by decide)
  refine ⟨canonical.written ["notes", ".."] ?_, ?_⟩
  · intro name member
    rcases List.mem_cons.mp member with rfl | later
    · exact ⟨⟨by decide, by decide⟩, by decide⟩
    · obtain rfl := List.mem_singleton.mp later
      exact ⟨⟨by decide, by decide⟩, by decide⟩
  · obtain ⟨label, limit, next, gathered⟩ :=
      Gathering.gathers_root sampleTree_servedAt "/content/dropbox"
    have named : (sampleTree.rename label).Named IsName :=
      Tree.named_folder_iff.mpr (Tree.named_folder_iff.mp sampleTree_wellNamed.named)
    have done : (sampleStore.run (Snapshot.build limit "/content/dropbox" "/") ()).1 =
        some (.ok (Snapshot.empty.plant "/content/dropbox" (sampleTree.rename label))) := by
      rw [Snapshot.run_build, gathered]
      rfl
    exact ⟨limit, _, done, canonical.built sampleStore limit () _ _ named
      (congrArg Prod.fst gathered) done⟩

end MountConfig

end ContentMount
