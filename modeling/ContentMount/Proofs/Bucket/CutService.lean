/-
This file defines a service that cuts its listings into pages of a size, and shows that it hosts
its objects. Its token is as long as the number of the next page.
-/

import ContentMount.Proofs.Bucket.Cutting

namespace ContentMount.Remote.Bucket

/-- The token that leads to the page with a number. -/
def tokenOf (number : Nat) : String := String.ofList (List.replicate number '+')

/-- The number of the page that a token leads to. The first page needs no token. -/
def numberOf (token : Option String) : Nat := (token.map String.length).getD 0

theorem numberOf_tokenOf (number : Nat) : numberOf (some (tokenOf number)) = number := by
  simp [numberOf, tokenOf]

/-- A page of the listing below a start. -/
def cutPage (keys : List String) (size : Nat) (start : String) (number : Nat) : Found :=
  let page := pageAt size (rows keys start) number
  let goesOn := number + 1 < pageCount size (rows keys start)
  { commonStarts := (page.filterMap Row.start?).map some
    keys := (page.filterMap Row.key?).map some
    truncated := some goesOn
    nextToken := if goesOn then some (tokenOf (number + 1)) else none
    count := some page.length }

/-- The pages of the listing below a start. -/
def cutPages (keys : List String) (size : Nat) (start : String) : List Found :=
  (List.range (pageCount size (rows keys start))).map (cutPage keys size start)

/-- A sample service that lists its folders in pages of a size. -/
def cutService (keys : List String) (size : Nat) : Transport Unit where
  web _ state := (.noAnswer "", state)
  bucket client call state := match call with
    | .list ⟨start, some _, _, token⟩ =>
      (.ok (cutPage keys size (start.getD "") (numberOf token)), state)
    | call => (sampleService keys).bucket client call state

section

variable (keys : List String) (size : Nat) (start : String)

theorem objects_cutPage (number : Nat) : (cutPage keys size start number).objects =
    (pageAt size (rows keys start) number).filterMap Row.key? := by
  simp [cutPage, Found.objects]

theorem starts_cutPage (number : Nat) : (cutPage keys size start number).starts =
    (pageAt size (rows keys start) number).filterMap Row.start? := by
  simp [cutPage, Found.starts]

theorem flatMap_objects_cutPages (positive : 0 < size) :
    (cutPages keys size start).flatMap Found.objects =
      (rows keys start).filterMap Row.key? := by
  have joined := congrArg (List.filterMap Row.key?) (flatten_cut positive (rows keys start))
  rw [← joined, List.filterMap_flatten, ← List.flatMap_def]
  simp only [cutPages, cut, List.flatMap_map, objects_cutPage]

theorem flatMap_starts_cutPages (positive : 0 < size) :
    (cutPages keys size start).flatMap Found.starts =
      (rows keys start).filterMap Row.start? := by
  have joined := congrArg (List.filterMap Row.start?) (flatten_cut positive (rows keys start))
  rw [← joined, List.filterMap_flatten, ← List.flatMap_def]
  simp only [cutPages, cut, List.flatMap_map, starts_cutPage]

theorem filterMap_key?_rows_perm :
    ((rows keys start).filterMap Row.key?).Perm (plainObjects keys start) := by
  have listed := (rows_perm keys start).filterMap Row.key?
  simpa [List.filterMap_append, List.filterMap_map, Function.comp_def, Row.key?] using listed

theorem filterMap_start?_rows_perm :
    ((rows keys start).filterMap Row.start?).Perm (plainStarts keys start) := by
  have listed := (rows_perm keys start).filterMap Row.start?
  simpa [List.filterMap_append, List.filterMap_map, Function.comp_def, Row.start?] using listed

end

theorem reports_cutPages (keys : List String) {size : Nat} (positive : 0 < size) (start : String) :
    Reports keys start (cutPages keys size start) where
  objects key := by
    rw [flatMap_objects_cutPages keys size start positive,
      (filterMap_key?_rows_perm keys start).mem_iff, mem_plainObjects]
  objectsOnce := by
    rw [flatMap_objects_cutPages keys size start positive,
      (filterMap_key?_rows_perm keys start).nodup_iff]
    exact (List.nodup_dedup keys).filter _
  starts common := by
    rw [flatMap_starts_cutPages keys size start positive,
      (filterMap_start?_rows_perm keys start).mem_iff, mem_plainStarts]
  startsOnce := by
    rw [flatMap_starts_cutPages keys size start positive,
      (filterMap_start?_rows_perm keys start).nodup_iff]
    exact List.nodup_dedup _

/-- The cutting service hosts its objects. -/
def cutHosting (keys : List String) {size : Nat} (positive : 0 < size) :
    Hosting ((cutService keys size).bucket sampleClient) keys where
  pages := cutPages keys size
  reports := reports_cutPages keys positive
  awaits _ start token pages := numberOf token < pageCount size (rows keys start) ∧
    pages = (cutPages keys size start).drop (numberOf token)
  begins _ start := ⟨Nat.lt_of_lt_of_le Nat.one_pos (Nat.le_max_left 1 _), rfl⟩
  brings := by
    rintro state start token _ ⟨inside, rfl⟩
    have pages : numberOf token < (cutPages keys size start).length := by
      simpa [cutPages] using inside
    have asked : (folderSelection start token).start.getD "" = start := by
      by_cases top : start = "" <;> simp [folderSelection, top]
    have ends : ((cutPages keys size start).drop (numberOf token + 1)).isEmpty =
        !decide (numberOf token + 1 < pageCount size (rows keys start)) := by
      rw [Bool.eq_iff_iff, List.isEmpty_iff, List.drop_eq_nil_iff]
      simp [cutPages]
    refine ⟨cutPage keys size start (numberOf token),
      (cutPages keys size start).drop (numberOf token + 1), (), ?_, ?_, ?_, ?_, ?_⟩
    · rw [List.drop_eq_getElem_cons pages]
      simp [cutPages]
    · simp only [cutService, folderSelection] at asked ⊢
      rw [asked]
    · simp [ends, cutPage]
    · by_cases more : numberOf token + 1 < pageCount size (rows keys start) <;>
        simp [ends, cutPage, more]
    · intro further isToken
      by_cases more : numberOf token + 1 < pageCount size (rows keys start)
      · obtain rfl : tokenOf (numberOf token + 1) = further := by
          simpa [cutPage, more] using isToken
        rw [numberOf_tokenOf]
        exact ⟨more, rfl⟩
      · simp [cutPage, more] at isToken
  spends _ _ := False
  keeps awaited _ _ := awaited
  fresh _ _ _ _ _ _ _ _ := not_false
  present state := (sampleHosting keys).present state
  absent state := (sampleHosting keys).absent state
  probes state := (sampleHosting keys).probes state

theorem cutHosting_cutInto (keys : List String) {size : Nat} (positive : 0 < size) :
    (cutHosting keys positive).CutInto size where
  positive := positive
  pages start := by
    simp only [cutHosting, cutPages, cut, List.map_map, Function.comp_def, objects_cutPage,
      starts_cutPage]

end ContentMount.Remote.Bucket
