/-
This file defines a plain service for a bucket, which brings each listing on one page, and shows
that it hosts its objects.
-/

import ContentMount.Proofs.Bucket.Hosting
import Mathlib.Data.List.Dedup

namespace ContentMount.Remote.Bucket

/-- What follows a start in a key. -/
def after? (start key : String) : Option String :=
  if start.toList.isPrefixOf key.toList then
    some (String.ofList (key.toList.drop start.toList.length))
  else none

theorem after?_eq_some_iff {start key rest : String} :
    after? start key = some rest ↔ key = start ++ rest := by
  rw [after?]
  constructor
  · intro found
    split_ifs at found with isPrefix
    obtain ⟨others, split⟩ := List.isPrefixOf_iff_prefix.mp isPrefix
    rw [← Option.some.inj found, ← String.toList_inj, String.toList_append, String.toList_ofList,
      ← split, List.drop_left]
  · rintro rfl
    simp

/-- The name before the first slash of a text, if there is a slash. -/
def firstName? (text : String) : Option String :=
  if text.toList.contains '/' then some (String.ofList (text.toList.takeWhile (· != '/'))) else none

theorem firstName?_eq_some_iff {text name : String} :
    firstName? text = some name ↔
      '/' ∉ name.toList ∧ ∃ rest, text = name ++ "/" ++ rest := by
  rw [firstName?]
  constructor
  · intro found
    split_ifs at found with inside
    have isName : name.toList = text.toList.takeWhile (· != '/') := by
      rw [← Option.some.inj found, String.toList_ofList]
    refine ⟨fun slash => ?_, ?_⟩
    · rw [isName] at slash
      simpa using List.mem_takeWhile_imp slash
    · have nonempty : text.toList.dropWhile (· != '/') ≠ [] := by
        intro empty
        have kept := List.dropWhile_eq_nil_iff.mp empty '/' (by simpa using inside)
        simp at kept
      obtain ⟨first, rest, split⟩ := List.exists_cons_of_ne_nil nonempty
      have head := List.head?_dropWhile_not (· != '/') text.toList
      rw [split] at head
      obtain rfl : first = '/' := by simpa using head
      refine ⟨String.ofList rest, ?_⟩
      rw [← String.toList_inj]
      simp [isName, ← split]
  · intro named
    obtain ⟨slashless, rest, rfl⟩ := named
    have kept : ∀ c ∈ name.toList, (c != '/') = true := by
      intro c member
      rw [bne_iff_ne]
      rintro rfl
      exact slashless member
    simp [List.takeWhile_append_of_pos kept]

/-- The keys directly below a start. -/
def plainObjects (keys : List String) (start : String) : List String :=
  keys.dedup.filter fun key => (after? start key).any fun rest => !rest.toList.contains '/'

/-- The common starts directly below a start. -/
def plainStarts (keys : List String) (start : String) : List String :=
  ((keys.filterMap fun key => (after? start key).bind firstName?).map
    fun name => start ++ name ++ "/").dedup

/-- The only page of the listing below a start. -/
def plainPage (keys : List String) (start : String) : Found where
  commonStarts := (plainStarts keys start).map some
  keys := (plainObjects keys start).map some
  truncated := some false
  nextToken := none
  count := some ((plainStarts keys start).length + (plainObjects keys start).length)

/-- The first page of all keys with a start, at whatever depth. -/
def plainProbe (keys : List String) (start : String) (limit : Nat) : Found :=
  let found := keys.filter fun key => (after? start key).isSome
  { commonStarts := []
    keys := (found.take limit).map some
    truncated := some (limit < found.length)
    nextToken := if limit < found.length then some "more" else none
    count := some (found.take limit).length }

/-- A service that keeps its objects and remembers nothing else. -/
def plainService (keys : List String) (payload : String → ByteArray) : Transport Unit where
  web _ state := (.noAnswer "", state)
  bucket _ call state := match call with
    | .head key => (if key ∈ keys then .ok () else .error ⟨some "NotFound", ""⟩, state)
    | .list selection =>
      let start := selection.start.getD ""
      (.ok (if selection.delimiter.isSome then plainPage keys start
        else plainProbe keys start (selection.maxKeys.getD 1000)), state)
    | .get key =>
      (if key ∈ keys then .ok (some (payload key)) else .error ⟨some "NoSuchKey", ""⟩, state)

theorem mem_plainObjects {keys : List String} {start key : String} :
    key ∈ plainObjects keys start ↔
      key ∈ keys ∧ ∃ name, '/' ∉ name.toList ∧ key = start ++ name := by
  rw [plainObjects, List.mem_filter, List.mem_dedup, Option.any_eq_true]
  refine and_congr_right fun _ => exists_congr fun name => ?_
  rw [after?_eq_some_iff, and_comm]
  simp

theorem mem_plainStarts {keys : List String} {start common : String} :
    common ∈ plainStarts keys start ↔
      ∃ name rest, '/' ∉ name.toList ∧ common = start ++ name ++ "/" ∧ common ++ rest ∈ keys := by
  simp only [plainStarts, List.mem_dedup, List.mem_map, List.mem_filterMap,
    Option.bind_eq_some_iff, after?_eq_some_iff, firstName?_eq_some_iff]
  constructor
  · rintro ⟨name, ⟨key, member, _, rfl, slashless, rest, rfl⟩, rfl⟩
    exact ⟨name, rest, slashless, rfl, by simpa [String.append_assoc] using member⟩
  · intro common
    obtain ⟨name, rest, slashless, rfl, member⟩ := common
    exact ⟨name, ⟨_, member, name ++ "/" ++ rest, by simp [String.append_assoc], slashless, rest,
      rfl⟩, rfl⟩

theorem reports_plainPage (keys : List String) (start : String) :
    Reports keys start [plainPage keys start] where
  objects key := by
    simpa [plainPage, Found.objects] using mem_plainObjects
  objectsOnce := by
    simpa [plainPage, Found.objects, plainObjects] using (List.nodup_dedup keys).filter _
  starts common := by
    simpa [plainPage, Found.starts] using mem_plainStarts
  startsOnce := by
    simpa [plainPage, Found.starts, plainStarts] using List.nodup_dedup _

/-- The plain service hosts its objects. -/
def plainHosting (keys : List String) (payload : String → ByteArray) (client : Client) :
    Hosting ((plainService keys payload).bucket client) keys where
  pages start := [plainPage keys start]
  reports := reports_plainPage keys
  awaits _ start _ pages := pages = [plainPage keys start]
  begins _ _ := rfl
  brings := by
    rintro state start token _ rfl
    refine ⟨plainPage keys start, [], (), rfl, ?_, rfl, rfl, by simp [plainPage]⟩
    have asked : (folderSelection start token).start.getD "" = start := by
      by_cases top : start = "" <;> simp [folderSelection, top]
    simp only [plainService, asked]
    rfl
  spends _ _ := False
  keeps awaited _ _ := awaited
  fresh _ _ _ _ _ _ _ _ := not_false
  present state key member := by simp [plainService, member]
  absent state key missing := ⟨"", by simp [plainService, missing]⟩
  probes state start := by
    refine ⟨plainProbe keys start 1, rfl, ?_⟩
    have counted : (plainProbe keys start 1).count.getD 0 =
        (((keys.filter fun key => (after? start key).isSome).take 1).length : Int) := rfl
    rw [counted, Int.natCast_pos, List.length_take, Nat.lt_min, List.length_pos_iff_exists_mem]
    simp only [List.mem_filter, Option.isSome_iff_exists, after?_eq_some_iff]
    constructor
    · rintro ⟨-, key, member, rest, rfl⟩
      exact ⟨rest, member⟩
    · intro inside
      obtain ⟨rest, member⟩ := inside
      exact ⟨Nat.one_pos, _, member, rest, rfl⟩

/-- A plain service with empty objects. -/
def sampleService (keys : List String) : Transport Unit :=
  plainService keys fun _ => ByteArray.empty

def sampleClient : Client := ⟨"sample", "us-east-1", none⟩

def sampleHosting (keys : List String) :
    Hosting ((sampleService keys).bucket sampleClient) keys :=
  plainHosting keys _ sampleClient

/-- A mount of a whole bucket. -/
def sampleConfig : MountConfig :=
  { provider := "s3", mountPoint := "/content/s3", remotePath := "", bucket := some "sample" }

end ContentMount.Remote.Bucket
