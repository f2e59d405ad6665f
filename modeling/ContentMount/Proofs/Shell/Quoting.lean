/-
This file says how words are written in a line with quotes and backslashes. However they are
written, the line is read back as the words.
-/

import ContentMount.Proofs.Shell.Progress

namespace ContentMount.Words

/-! ## Written words -/

/-- Text between double quotes as it is written. A double quote and a backslash stand after a
backslash, and any other character may. -/
inductive InDouble : List Char → List Char → Prop
  | nil : InDouble [] []
  | plain {c : Char} {written text : List Char} (noMark : c ≠ '"') (noEscape : c ≠ '\\')
      (rest : InDouble written text) : InDouble (c :: written) (c :: text)
  | escaped (c : Char) {written text : List Char} (rest : InDouble written text) :
      InDouble ('\\' :: c :: written) (c :: text)

/-- A piece of a word as it is written, and the text that it stands for. -/
inductive IsPiece : List Char → List Char → Prop
  | bare {c : Char} (plain : isPlain c = true) : IsPiece [c] [c]
  | escaped (c : Char) : IsPiece ['\\', c] [c]
  | single {text : List Char} (unmarked : QuoteMark.single.char ∉ text) :
      IsPiece (QuoteMark.single.char :: (text ++ [QuoteMark.single.char])) text
  | double {written text : List Char} (inside : InDouble written text) :
      IsPiece ('"' :: (written ++ ['"'])) text

/-- A word is written piece by piece. -/
inductive Writes : List Char → List Char → Prop
  | nil : Writes [] []
  | cons {front piece written text : List Char} (isPiece : IsPiece front piece)
      (others : Writes written text) : Writes (front ++ written) (piece ++ text)

/-- Words are written one after another with a gap after each of them. Only the last gap may be
empty. -/
inductive WritesWords : List Char → List String → Prop
  | nil : WritesWords [] []
  | cons {written gap rest : List Char} {word : String} {words : List String}
      (writes : Writes written word.toList) (nonempty : word ≠ "")
      (separate : ∀ c ∈ gap, isSeparator c = true) (apart : words ≠ [] → gap ≠ [])
      (others : WritesWords rest words) : WritesWords (written ++ (gap ++ rest)) (word :: words)

/-- In a line there may be a gap before the first word. -/
def WritesLine (line : List Char) (words : List String) : Prop :=
  ∃ gap rest, (∀ c ∈ gap, isSeparator c = true) ∧ WritesWords rest words ∧ gap ++ rest = line

/-! ## Reading them back -/

namespace Progress

theorem foldl_inDouble {written text : List Char} (inside : InDouble written text)
    (word : List Char) (words : List (List Char)) :
    written.foldl step ⟨some .double, false, word, words⟩ =
      ⟨some .double, false, word ++ text, words⟩ := by
  induction inside generalizing word with
  | nil => simp
  | plain noMark noEscape _ ih =>
      rw [List.foldl_cons, step_quoted word words (by simp [isEscape, noEscape]) noMark, ih]
      simp
  | escaped c _ ih =>
      rw [List.foldl_cons, step_escape word words rfl, List.foldl_cons, step_escaped, ih]
      simp

/-- A piece adds its text to the word. -/
theorem foldl_piece {written text : List Char} (isPiece : IsPiece written text)
    (word : List Char) (words : List (List Char)) :
    written.foldl step ⟨none, false, word, words⟩ = ⟨none, false, word ++ text, words⟩ := by
  cases isPiece with
  | bare plain => exact step_plain word words plain
  | escaped c => rfl
  | single unmarked =>
      have stands : ∀ c ∈ text, isEscape (some .single) c = false ∧ c ≠ QuoteMark.single.char :=
        fun c member => ⟨by simp [isEscape], fun same => unmarked (same ▸ member)⟩
      rw [List.foldl_cons, step_open, List.foldl_append, foldl_quoted stands]
      exact step_close _ words .single
  | double inside =>
      have opened : step ⟨none, false, word, words⟩ '"' = ⟨some .double, false, word, words⟩ :=
        step_open word words .double
      rw [List.foldl_cons, opened, List.foldl_append, foldl_inDouble inside]
      exact step_close _ words .double

theorem foldl_writes {written text : List Char} (writes : Writes written text)
    (word : List Char) (words : List (List Char)) :
    written.foldl step ⟨none, false, word, words⟩ = ⟨none, false, word ++ text, words⟩ := by
  induction writes generalizing word with
  | nil => simp
  | cons isPiece _ ih =>
      rw [List.foldl_append, foldl_piece isPiece, ih]
      simp

/-- Reading rests when no quote is open and nothing is escaped. These are the words so far. -/
structure Rests (progress : Progress) (words : List (List Char)) : Prop where
  closed : progress.quote = none
  unescaped : progress.escaped = false
  taken : progress.taken = words

theorem Rests.quote_step_char {progress : Progress} {words : List (List Char)}
    (rests : Rests progress words) (mark : QuoteMark) :
    (progress.step mark.char).quote = some mark := by
  rcases progress with ⟨quote, escaped, word, before⟩
  obtain rfl : quote = none := rests.closed
  obtain rfl : escaped = false := rests.unescaped
  rw [step_open]

/-- Each written word is taken in its turn. -/
theorem rests_words {rest : List Char} {words : List String} (writes : WritesWords rest words)
    (before : List (List Char)) :
    Rests (rest.foldl step ⟨none, false, [], before⟩) (before ++ words.map String.toList) := by
  induction writes generalizing before with
  | nil => exact ⟨rfl, rfl, rfl⟩
  | @cons written gap rest word words writes nonempty separate apart others ih =>
      have isWord : endWord word.toList [] = [word.toList] :=
        endWord_of_ne_nil (mt String.toList_eq_nil_iff.mp nonempty) []
      rw [List.foldl_append, foldl_writes writes, List.nil_append]
      by_cases closing : gap = []
      · -- Without a gap this was the last word, and it is still open to grow.
        obtain rfl : words = [] := by_contra fun more => apart more closing
        cases others
        subst closing
        exact ⟨rfl, rfl, congrArg (before ++ ·) isWord⟩
      · rw [List.foldl_append, foldl_gap closing separate, isWord]
        simpa using ih (before ++ [word.toList])

theorem rests_line {line : List Char} {words : List String} (writes : WritesLine line words) :
    Rests (after line) (words.map String.toList) := by
  obtain ⟨gap, rest, separate, others, rfl⟩ := writes
  rw [after, List.foldl_append, foldl_gap_start separate]
  exact rests_words others []

end Progress

open Progress

/-- A line is read back as the words that are written in it, and a quote mark after them is left
open. -/
theorem read_of_writesLine {line : List Char} {words : List String}
    (writes : WritesLine line words) :
    read line = .ok words ∧ ∀ mark : QuoteMark, read (line ++ [mark.char]) = .error mark := by
  have rests := rests_line writes
  constructor
  · rw [read_of_quote rests.closed, rests.taken]
    simp
  · intro mark
    rw [read_eq_error_iff, after, List.foldl_append]
    exact rests.quote_step_char mark

/-- A word may be glued from quoted and escaped pieces, and quotes may hold a mark of the other
kind. -/
theorem read_of_writesLine_glued :
    WritesLine "\tcat 'say \"'\\ \"a\\\"b\" ".toList ["cat", "say \" a\"b"] ∧
    read "\tcat 'say \"'\\ \"a\\\"b\" ".toList = .ok ["cat", "say \" a\"b"] ∧
    read ("\tcat 'say \"'\\ \"a\\\"b\" ".toList ++ [QuoteMark.single.char]) = .error .single := by
  have cat : Writes "cat".toList "cat".toList :=
    .cons (.bare (by decide)) (.cons (.bare (by decide)) (.cons (.bare (by decide)) .nil))
  have inside : InDouble "a\\\"b".toList "a\"b".toList :=
    .plain (by decide) (by decide) (.escaped '"' (.plain (by decide) (by decide) .nil))
  have unmarked : QuoteMark.single.char ∉ "say \"".toList := by decide
  have glued : Writes "'say \"'\\ \"a\\\"b\"".toList "say \" a\"b".toList :=
    .cons (.single unmarked) (.cons (.escaped ' ') (.cons (.double inside) .nil))
  have writes : WritesLine "\tcat 'say \"'\\ \"a\\\"b\" ".toList ["cat", "say \" a\"b"] :=
    ⟨['\t'], _, List.forall_mem_singleton.mpr rfl,
      .cons cat (by decide) (List.forall_mem_singleton.mpr (rfl : isSeparator ' ' = true)) (by simp)
        (.cons glued (by decide) (List.forall_mem_singleton.mpr (rfl : isSeparator ' ' = true))
          (by simp) .nil), by decide⟩
  obtain ⟨reads, opened⟩ := read_of_writesLine writes
  exact ⟨writes, reads, opened .single⟩

end ContentMount.Words
