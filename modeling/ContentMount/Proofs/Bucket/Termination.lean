/-
This file says when the build of a bucket ends. A key in which an empty name leads on keeps a build
in the same folder for ever.
-/

import ContentMount.Proofs.Bucket.Depiction
import ContentMount.Proofs.Bucket.Service
import ContentMount.Proofs.Build.Endless

namespace ContentMount.Remote.Bucket

open ContentMount.Path

/-- A remote path can be read when it is the path of an object, or when no key below it goes on
with an empty name. -/
def Readable (keys : List String) (remotePath : String) : Prop :=
  keyOf remotePath ≠ "" ∧ keyOf remotePath ∈ keys ∨ Unbroken keys (startOf remotePath)

section

variable {σ : Type} {transport : Transport σ} {client : Client} {keys : List String}
  (hosting : Hosting (transport.bucket client) keys)

/-- A folder is doomed when below its start some key goes on with an empty name. -/
def IsDoomed (keys : List String) (entry : Entry) : Prop :=
  entry.kind = .folder ∧ ¬Unbroken keys (startOf entry.path)

/-- The name after the start of a doomed folder leads to a doomed folder: to one with the same
start when the name is empty, and otherwise to one with a longer start. -/
theorem Hosting.dooms : hosting.paging.Dooms (IsDoomed keys) where
  lists state path := ⟨_, hosting.holds_first state path⟩
  folder entry bad := bad.1
  again entry bad state := by
    refine ⟨_, hosting.holds_first state entry.path, ?_⟩
    obtain ⟨rest, inside, empty⟩ : ∃ rest, startOf entry.path ++ rest ∈ keys ∧
        "" ∈ (pieces rest).dropLast := by
      by_contra all
      exact bad.2 fun rest inside empty => all ⟨rest, inside, empty⟩
    rcases slashless_or_exists_name rest with slashless | ⟨name, others, slashless, rfl⟩
    · simp [pieces_slashless slashless] at empty
    have reported : startOf entry.path ++ name ++ "/" ∈
        (hosting.pages (startOf entry.path)).flatMap Found.starts :=
      ((hosting.reports _).starts _).mpr
        ⟨name, others, slashless, rfl, by simpa [String.append_assoc] using inside⟩
    refine ⟨_, folderOf_mem_entries reported, rfl, ?_⟩
    rw [startOf_folderOf (isStart_startOf entry.path) slashless]
    split_ifs with blank
    · exact bad.2
    · intro unbroken
      rw [pieces_append_name slashless] at empty
      have later := (List.mem_cons.mp empty).resolve_left (Ne.symm blank)
      exact unbroken others (by simpa [String.append_assoc] using inside) later

include hosting

/-- A build of a path that can be read ends with a snapshot. -/
theorem Hosting.build_of_readable {remotePath : String} (readable : Readable keys remotePath)
    (mountPoint : String) (state : σ) : ∃ snapshot : Snapshot, ∃ enough, ∀ limit ≥ enough,
      ((storeOf transport client).run (Snapshot.build limit mountPoint remotePath) state).1 =
        some (.ok snapshot) := by
  by_cases object : keyOf remotePath ≠ "" ∧ keyOf remotePath ∈ keys
  · exact ⟨_, Snapshot.build_plants (hosting.servesAt_object object.1 object.2 state) mountPoint⟩
  · have unbroken := readable.resolve_left object
    by_cases isFolder : IsFolder keys remotePath
    · obtain ⟨tree, -, served⟩ := hosting.exists_servesAt isFolder unbroken
      exact ⟨_, Snapshot.build_plants (served state) mountPoint⟩
    · have below : keyOf remotePath ≠ "" := fun top => isFolder (.inl top)
      have missing : keyOf remotePath ∉ keys := fun member => object ⟨below, member⟩
      have outside := fun inside => isFolder (.inr ⟨missing, inside⟩)
      exact ⟨_, hosting.build_of_outside below missing outside mountPoint state⟩

/-- A build of a path that cannot be read never ends. -/
theorem Hosting.build_of_not_readable {remotePath : String}
    (unreadable : ¬Readable keys remotePath) (mountPoint : String) (state : σ) (limit : Nat) :
    ((storeOf transport client).run (Snapshot.build limit mountPoint remotePath) state).1 =
      none := by
  obtain ⟨object, broken⟩ := not_or.mp unreadable
  by_cases top : keyOf remotePath = ""
  · have found : (Gathering.rootEntry mountPoint remotePath).run (storeOf transport client) state =
        (some (.ok (some ⟨.folder, nameText mountPoint, "/"⟩)), state) := by
      rw [Gathering.rootEntry, (isStoreRoot_eq_true_iff remotePath).mpr top]
      rfl
    have start : startOf "/" = startOf remotePath := startOf_congr (top ▸ by decide)
    have still : ¬Unbroken keys (startOf "/") := by rwa [start]
    exact Snapshot.build_eq_none hosting.dooms found ⟨rfl, still⟩ limit
  · have missing : keyOf remotePath ∉ keys := fun member => object ⟨top, member⟩
    have inside : ∃ rest, startOf remotePath ++ rest ∈ keys := by
      by_contra outside
      exact broken fun rest member => (outside ⟨rest, member⟩).elim
    have notRoot := Bool.eq_false_iff.mpr (mt (isStoreRoot_eq_true_iff remotePath).mp top)
    have found := Gathering.run_rootEntry mountPoint notRoot
      ((hosting.answer_metadata_probe top missing state).1 inside)
    have start : startOf ("/" ++ keyOf remotePath) = startOf remotePath :=
      startOf_congr (by rw [keyOf_slash_append, keyOf_keyOf])
    have still : ¬Unbroken keys (startOf ("/" ++ keyOf remotePath)) := by rwa [start]
    exact Snapshot.build_eq_none hosting.dooms found ⟨rfl, still⟩ limit

/-- A build of a bucket ends with a snapshot when its path can be read, and otherwise it uses up
every limit. The folder of a common start is listed with that start unless the last name in it is
empty, and then it is listed with the start that it was found below. -/
theorem Hosting.build_ends_iff_readable (mountPoint remotePath : String) (state : σ) :
    (Readable keys remotePath → ∃ snapshot : Snapshot, ∃ enough, ∀ limit ≥ enough,
      ((storeOf transport client).run (Snapshot.build limit mountPoint remotePath) state).1 =
        some (.ok snapshot)) ∧
    (¬Readable keys remotePath → ∀ limit,
      ((storeOf transport client).run (Snapshot.build limit mountPoint remotePath) state).1 =
        none) ∧
    ∀ path name, '/' ∉ name.toList →
      startOf (folderOf (startOf path ++ name ++ "/")).path =
        if name = "" then startOf path else startOf path ++ name ++ "/" :=
  ⟨fun readable => hosting.build_of_readable readable mountPoint state,
    fun unreadable => hosting.build_of_not_readable unreadable mountPoint state,
    fun path _ slashless => startOf_folderOf (isStart_startOf path) slashless⟩

end

/-- A doubled slash in a key keeps the build of the whole bucket from ending, and a single one does
not. -/
theorem build_ends_sampleService :
    (∀ limit, ((storeOf (sampleService ["a//b"]) sampleClient).run
      (Snapshot.build limit "/content/s3" "") ()).1 = none) ∧
    ∃ snapshot : Snapshot, ∃ enough, ∀ limit ≥ enough,
      ((storeOf (sampleService ["a/b"]) sampleClient).run
        (Snapshot.build limit "/content/s3" "") ()).1 = some (.ok snapshot) := by
  have unreadable : ¬Readable ["a//b"] "" := by
    rintro (⟨below, -⟩ | unbroken)
    · exact below (by decide)
    · exact unbroken "a//b" (by decide) (by decide)
  have readable : Readable ["a/b"] "" := by
    refine .inr fun rest member => ?_
    have start : startOf "" = "" := by decide
    rw [start, String.empty_append, List.mem_singleton] at member
    rw [member]
    decide
  exact ⟨((sampleHosting ["a//b"]).build_ends_iff_readable "/content/s3" "" ()).2.1 unreadable,
    ((sampleHosting ["a/b"]).build_ends_iff_readable "/content/s3" "" ()).1 readable⟩

end ContentMount.Remote.Bucket
