/-
This file computes with the starts of keys. A folder of a bucket is known by what its keys start
with.
-/

import ContentMount.Proofs.Path.Below
import ContentMount.Proofs.Text.Stripping
import ContentMount.Remote.Bucket.Client

namespace ContentMount

open ContentMount.Path

namespace Remote.Bucket

/-! ## Keys of paths -/

theorem toList_keyOf (path : String) :
    (keyOf path).toList = Text.stripWhile isSlash path.toList := by
  rw [keyOf, withoutSlashes, String.toList_ofList]

/-- A key that starts and ends without a slash is its own key. -/
theorem keyOf_eq_self {key : String} (first : ∀ c, key.toList.head? = some c → isSlash c = false)
    (last : ∀ c, key.toList.getLast? = some c → isSlash c = false) : keyOf key = key := by
  rw [← String.toList_inj, toList_keyOf, Text.stripWhile_eq_self first last]

/-- Slashes before a path make no difference. -/
theorem keyOf_slash_append (path : String) : keyOf ("/" ++ path) = keyOf path := by
  rw [← String.toList_inj, toList_keyOf, toList_keyOf, String.toList_append,
    Text.stripWhile_eq_rdropWhile, Text.stripWhile_eq_rdropWhile]
  rfl

/-- A slash after a path makes no difference. -/
theorem keyOf_append_slash {path : String}
    (first : ∀ c, path.toList.head? = some c → isSlash c = false) :
    keyOf (path ++ "/") = keyOf path := by
  rw [← String.toList_inj, toList_keyOf, toList_keyOf, String.toList_append,
    Text.stripWhile_eq_rdropWhile, Text.stripWhile_eq_rdropWhile]
  cases chars : path.toList with
  | nil => rfl
  | cons c rest =>
      have kept : isSlash c = false := first c (by rw [chars]; rfl)
      have ends : "/".toList = ['/'] := rfl
      rw [List.cons_append, List.dropWhile_cons_of_neg (by simp [kept]),
        List.dropWhile_cons_of_neg (by simp [kept]), ← List.cons_append, ends,
        List.rdropWhile_concat_pos isSlash _ _ rfl]

theorem head?_keyOf {path : String} {c : Char} (first : (keyOf path).toList.head? = some c) :
    isSlash c = false := by
  rw [toList_keyOf] at first
  exact Text.head?_stripWhile first

theorem getLast?_keyOf {path : String} {c : Char}
    (last : (keyOf path).toList.getLast? = some c) : isSlash c = false := by
  rw [toList_keyOf] at last
  exact Text.getLast?_stripWhile last

theorem keyOf_keyOf (path : String) : keyOf (keyOf path) = keyOf path :=
  keyOf_eq_self (fun _ => head?_keyOf) (fun _ => getLast?_keyOf)

/-! ## Starts -/

/-- A start is what the keys below some path start with. -/
def IsStart (start : String) : Prop := startOf start = start

theorem startOf_congr {path other : String} (same : keyOf path = keyOf other) :
    startOf path = startOf other := by
  rw [startOf, same, startOf]

theorem startOf_of_ne {path : String} (below : keyOf path ≠ "") :
    startOf path = keyOf path ++ "/" := by
  simp [startOf, below]

theorem startOf_of_eq {path : String} (top : keyOf path = "") : startOf path = "" := by
  simp [startOf, top]

/-- The start of a path has the key of the path. -/
theorem keyOf_startOf (path : String) : keyOf (startOf path) = keyOf path := by
  by_cases top : keyOf path = ""
  · rw [startOf_of_eq top, top]
    decide
  · rw [startOf_of_ne top, keyOf_append_slash fun _ => head?_keyOf, keyOf_keyOf]

theorem isStart_startOf (path : String) : IsStart (startOf path) :=
  startOf_congr (keyOf_startOf path)

/-- A start is empty or ends with the only slash at its ends. -/
theorem IsStart.eq_or {start : String} (proper : IsStart start) :
    start = "" ∨ keyOf start ≠ "" ∧ start = keyOf start ++ "/" := by
  by_cases top : keyOf start = ""
  · exact .inl (proper.symm.trans (startOf_of_eq top))
  · exact .inr ⟨top, proper.symm.trans (startOf_of_ne top)⟩

theorem IsStart.head? {start : String} (proper : IsStart start) {c : Char}
    (first : start.toList.head? = some c) : isSlash c = false := by
  rcases proper.eq_or with rfl | ⟨below, split⟩
  · simp at first
  · obtain ⟨d, rest, chars⟩ : ∃ d rest, (keyOf start).toList = d :: rest :=
      List.exists_cons_of_ne_nil fun empty => below (String.toList_eq_nil_iff.mp empty)
    rw [split, String.toList_append, chars] at first
    obtain rfl : d = c := by simpa using first
    exact head?_keyOf (show (keyOf start).toList.head? = some d by rw [chars]; rfl)

/-- A start with a segment after it is its own key. -/
theorem IsStart.keyOf_append {start : String} (proper : IsStart start) {segment : String}
    (isSegment : IsSegment segment) : keyOf (start ++ segment) = start ++ segment := by
  obtain ⟨first, rest, chars, kept⟩ := isSegment.exists_first
  obtain ⟨front, last, ends, lastKept⟩ := isSegment.exists_last
  apply keyOf_eq_self
  · intro c isFirst
    rw [String.toList_append, List.head?_append] at isFirst
    cases startFirst : start.toList.head? with
    | none =>
        rw [startFirst, chars] at isFirst
        obtain rfl : first = c := by simpa using isFirst
        exact kept
    | some d =>
        rw [startFirst] at isFirst
        obtain rfl : d = c := by simpa using isFirst
        exact proper.head? startFirst
  · intro c isLast
    rw [String.toList_append, ends, ← List.append_assoc, List.getLast?_concat] at isLast
    rwa [← Option.some.inj isLast]

theorem IsStart.append_ne_empty {start segment : String} (isSegment : IsSegment segment) :
    start ++ segment ≠ "" := by
  intro empty
  have chars := congrArg String.toList empty
  rw [String.toList_append] at chars
  exact isSegment.nonempty (String.toList_eq_nil_iff.mp (List.append_eq_nil_iff.mp chars).2)

/-- The start of a path below a start. -/
theorem IsStart.startOf_append {start : String} (proper : IsStart start) {segment : String}
    (isSegment : IsSegment segment) :
    startOf ("/" ++ (start ++ segment)) = start ++ segment ++ "/" := by
  have same : keyOf ("/" ++ (start ++ segment)) = start ++ segment := by
    rw [keyOf_slash_append, proper.keyOf_append isSegment]
  rw [startOf_of_ne (by rw [same]; exact IsStart.append_ne_empty isSegment), same]

theorem IsStart.append {start : String} (proper : IsStart start) {segment : String}
    (isSegment : IsSegment segment) : IsStart (start ++ segment ++ "/") := by
  rw [← proper.startOf_append isSegment]
  exact isStart_startOf _

/-- The pieces of a key are those of its start, without the last one, and those after it. -/
theorem IsStart.pieces_append {start : String} (proper : IsStart start) (rest : String) :
    pieces (start ++ rest) = (pieces start).dropLast ++ pieces rest := by
  rcases proper.eq_or with rfl | ⟨-, split⟩
  · simp [show pieces "" = [""] by decide]
  · have startPieces : pieces start = pieces (keyOf start) ++ [""] := by
      have blank : start = keyOf start ++ "/" ++ "" := split.trans String.append_empty.symm
      rw [congrArg pieces blank, pieces_append_slash, show pieces "" = [""] by decide]
    rw [startPieces, List.dropLast_concat]
    conv_lhs => rw [split]
    rw [pieces_append_slash]

theorem IsStart.lastPiece_append {start : String} (proper : IsStart start) {name : String}
    (slashless : '/' ∉ name.toList) : lastPiece (start ++ name) = name := by
  rw [lastPiece, proper.pieces_append, pieces_slashless slashless]
  simp

/-! ## Entries -/

/-- The folder of a common start is listed with that start when a segment leads to it. -/
theorem folderOf_append {start : String} (proper : IsStart start) {segment : String}
    (isSegment : IsSegment segment) :
    folderOf (start ++ segment ++ "/") = ⟨.folder, segment, "/" ++ (start ++ segment)⟩ := by
  rw [folderOf, withoutTrailingSlashes_append_slash, withoutTrailingSlashes_append start isSegment,
    proper.lastPiece_append isSegment.slashless]

theorem fileOf_append {start : String} (proper : IsStart start) {segment : String}
    (isSegment : IsSegment segment) :
    fileOf (start ++ segment) = ⟨.file, segment, "/" ++ (start ++ segment)⟩ := by
  rw [fileOf, proper.lastPiece_append isSegment.slashless]

/-- The folder of a common start that goes on with an empty name is listed with the old start. -/
theorem startOf_folderOf_slash {start : String} (proper : IsStart start) :
    startOf (folderOf (start ++ "/")).path = start := by
  have sameKey : keyOf (withoutTrailingSlashes start) = keyOf start := by
    have same : withoutTrailingSlashes start = keyOf start := by
      rw [← String.toList_inj, toList_keyOf, withoutTrailingSlashes, String.toList_ofList,
        Text.stripWhile]
      cases chars : start.toList with
      | nil => rfl
      | cons c rest =>
          have kept := proper.head? (show start.toList.head? = some c by rw [chars]; rfl)
          rw [List.dropWhile_cons_of_neg (by simp [kept])]
    rw [same, keyOf_keyOf]
  rw [folderOf, withoutTrailingSlashes_append_slash]
  refine (startOf_congr ?_).trans proper
  rw [keyOf_slash_append, sameKey]

/-- A common start goes on with one name. Its folder is listed with that start unless the name is
empty. -/
theorem startOf_folderOf {start : String} (proper : IsStart start) {name : String}
    (slashless : '/' ∉ name.toList) :
    startOf (folderOf (start ++ name ++ "/")).path =
      if name = "" then start else start ++ name ++ "/" := by
  split_ifs with empty
  · subst empty
    rw [String.append_empty]
    exact startOf_folderOf_slash proper
  · rw [folderOf_append proper ⟨empty, slashless⟩]
    exact proper.startOf_append ⟨empty, slashless⟩

end Remote.Bucket

end ContentMount
