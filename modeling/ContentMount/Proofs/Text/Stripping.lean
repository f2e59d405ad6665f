/-
This file says what is left of a text when the characters that pass a test are removed at its ends.
-/

import ContentMount.Text.Blank
import Mathlib.Data.List.Basic
import Mathlib.Data.List.DropRight

namespace ContentMount.Text

variable {test : Char → Bool}

/-! ## At the end -/

/-- The front is cut only when nothing is left of the rest. -/
theorem dropEndWhile_append (test : Char → Bool) (front rest : List Char) :
    dropEndWhile test (front ++ rest) =
      if dropEndWhile test rest = [] then dropEndWhile test front
      else front ++ dropEndWhile test rest := by
  simp only [dropEndWhile, List.reverse_append, List.dropWhile_append, List.reverse_eq_nil_iff,
    List.isEmpty_iff]
  split <;> simp

/-- A front that is not cut stays as it is whatever follows it. -/
theorem dropEndWhile_append_of_stays {front : List Char}
    (stays : dropEndWhile test front = front) (rest : List Char) :
    dropEndWhile test (front ++ rest) = front ++ dropEndWhile test rest := by
  rw [dropEndWhile_append]
  split
  · next none => rw [none, stays, List.append_nil]
  · rfl

theorem dropEndWhile_eq_nil {text : List Char} (dropped : ∀ c ∈ text, test c = true) :
    dropEndWhile test text = [] :=
  List.rdropWhile_eq_nil_iff.mpr dropped

/-- A text stays as it is exactly when it does not end with a character that is cut. -/
theorem dropEndWhile_eq_self_iff {text : List Char} :
    dropEndWhile test text = text ↔ ∀ c, text.getLast? = some c → test c = false := by
  rw [dropEndWhile, ← List.rdropWhile, List.rdropWhile_eq_self_iff]
  constructor
  · intro kept c last
    obtain ⟨front, rfl⟩ := List.getLast?_eq_some_iff.mp last
    simpa using kept (by simp)
  · intro kept nonempty
    simpa using kept _ (List.getLast?_eq_some_getLast nonempty)

/-! ## At both ends -/

/-- Nothing is left at one end exactly when nothing is left at the other. -/
theorem dropEndWhile_eq_nil_iff {text : List Char} :
    dropEndWhile test text = [] ↔ text.dropWhile test = [] :=
  List.rdropWhile_eq_nil_iff.trans List.dropWhile_eq_nil_iff.symm

/-- It does not matter at which end a text is cut first. -/
theorem dropEndWhile_dropWhile (test : Char → Bool) (text : List Char) :
    dropEndWhile test (text.dropWhile test) = (dropEndWhile test text).dropWhile test := by
  induction text with
  | nil => rfl
  | cons c rest ih =>
      have cut := dropEndWhile_append test [c] rest
      rw [List.singleton_append] at cut
      cases passes : test c with
      | true =>
          have none : dropEndWhile test [c] = [] := dropEndWhile_eq_nil (by simpa using passes)
          rw [List.dropWhile_cons_of_pos passes, ih, cut, none]
          split
          · next empty => rw [empty]
          · rw [List.singleton_append, List.dropWhile_cons_of_pos passes]
      | false =>
          have kept : dropEndWhile test [c] = [c] :=
            dropEndWhile_eq_self_iff.mpr (by simpa using passes)
          rw [List.dropWhile_cons_of_neg (by simp [passes]), cut, kept]
          split <;> simp [passes]

theorem stripWhile_eq_rdropWhile (text : List Char) :
    stripWhile test text = (text.dropWhile test).rdropWhile test := rfl

/-- What is left between the characters that are removed starts with one that is kept. -/
theorem head?_stripWhile {text : List Char} {c : Char}
    (first : (stripWhile test text).head? = some c) : test c = false := by
  obtain ⟨rest, split⟩ := List.rdropWhile_prefix test (text.dropWhile test)
  have kept := List.head?_dropWhile_not test text
  rw [← split, List.head?_append, ← stripWhile_eq_rdropWhile, first] at kept
  simpa using kept

/-- What is left between the characters that are removed ends with one that is kept. -/
theorem getLast?_stripWhile {text : List Char} {c : Char}
    (last : (stripWhile test text).getLast? = some c) : test c = false := by
  rw [stripWhile_eq_rdropWhile] at last
  have nonempty : (text.dropWhile test).rdropWhile test ≠ [] := by
    intro empty
    simp [empty] at last
  have kept := List.rdropWhile_last_not test _ nonempty
  rw [List.getLast?_eq_some_getLast nonempty] at last
  rw [Option.some.inj last] at kept
  simpa using kept

/-- A text is what is left of it between the characters that are removed. -/
theorem exists_stripWhile (test : Char → Bool) (text : List Char) : ∃ front rest,
    (∀ c ∈ front, test c = true) ∧ (∀ c ∈ rest, test c = true) ∧
      front ++ (stripWhile test text ++ rest) = text := by
  refine ⟨text.takeWhile test, (text.dropWhile test).rtakeWhile test,
    fun c => List.mem_takeWhile_imp, fun c => List.mem_rtakeWhile_imp, ?_⟩
  rw [stripWhile_eq_rdropWhile, List.rdropWhile_append_rtakeWhile, List.takeWhile_append_dropWhile]

/-- Around a text with nothing to remove at its ends, everything that passes the test is removed. -/
theorem stripWhile_append {front text rest : List Char} (inFront : ∀ c ∈ front, test c = true)
    (first : ∀ c, text.head? = some c → test c = false)
    (last : ∀ c, text.getLast? = some c → test c = false) (after : ∀ c ∈ rest, test c = true) :
    stripWhile test (front ++ (text ++ rest)) = text := by
  rw [stripWhile, List.dropWhile_append_of_pos inFront]
  cases text with
  | nil =>
      rw [List.nil_append, List.dropWhile_eq_nil_iff.mpr after]
      rfl
  | cons c text =>
      rw [List.cons_append, List.dropWhile_cons_of_neg (by simp [first c rfl]), ← List.cons_append,
        dropEndWhile_append_of_stays (dropEndWhile_eq_self_iff.mpr last),
        dropEndWhile_eq_nil after, List.append_nil]

/-- A text with nothing to remove at its ends is left alone. -/
theorem stripWhile_eq_self {text : List Char}
    (first : ∀ c, text.head? = some c → test c = false)
    (last : ∀ c, text.getLast? = some c → test c = false) : stripWhile test text = text := by
  have alone := @stripWhile_append test [] text [] (by simp) first last (by simp)
  rwa [List.nil_append, List.append_nil] at alone

end ContentMount.Text
