/-
This file follows the reading of a line character by character. How far reading has come is a state
with a step for each character, and a line is read by taking its steps one after another.
-/

import ContentMount.Proofs.Shell.Words

namespace ContentMount

/-- The character that writes a quote mark. -/
def QuoteMark.char : QuoteMark → Char
  | .single => Char.ofNat 39
  | .double => '"'

namespace Words

theorem mark?_eq_some_iff {c : Char} {mark : QuoteMark} : mark? c = some mark ↔ c = mark.char := by
  constructor
  · intro marks
    unfold mark? at marks
    split_ifs at marks with single double
    · rw [← Option.some.inj marks]
      exact eq_of_beq single
    · rw [← Option.some.inj marks]
      exact eq_of_beq double
  · rintro rfl
    cases mark <;> rfl

/-- How far reading has come: the quote that is open, whether the next character is escaped, the
word so far, and the words before it. -/
structure Progress where
  quote : Option QuoteMark
  escaped : Bool
  word : List Char
  words : List (List Char)

namespace Progress

/-- Before a line is read. -/
def start : Progress := ⟨none, false, [], []⟩

/-- The words so far. The last one may still grow. -/
def taken (progress : Progress) : List (List Char) :=
  progress.words ++ endWord progress.word []

/-- Adds a character to the word. -/
def add (progress : Progress) (c : Char) : Progress :=
  { progress with word := progress.word ++ [c], escaped := false }

/-- Reads a character. -/
def step (progress : Progress) (c : Char) : Progress :=
  if progress.escaped then progress.add c
  else if isEscape progress.quote c then { progress with escaped := true }
  else match progress.quote, mark? c with
    | none, some opened => { progress with quote := some opened }
    | some opened, some mark =>
      if opened == mark then { progress with quote := none } else progress.add c
    | none, none =>
      if isSeparator c then { progress with word := [], words := progress.taken }
      else progress.add c
    | some _, none => progress.add c

/-- The words at the end of a line, where no quote must be open. -/
def finish (progress : Progress) : Except QuoteMark (List (List Char)) :=
  match progress.quote with
  | some opened => .error opened
  | none => .ok progress.taken

/-- How far reading has come after a line. -/
def after (line : List Char) : Progress :=
  line.foldl step start

/-! ## Single steps -/

section

variable {quote : Option QuoteMark} {c : Char} (word : List Char) (words : List (List Char))

theorem step_escaped : step ⟨quote, true, word, words⟩ c = ⟨quote, false, word ++ [c], words⟩ := rfl

theorem step_escape (escapes : isEscape quote c = true) :
    step ⟨quote, false, word, words⟩ c = ⟨quote, true, word, words⟩ := by
  simp [step, escapes]

theorem step_plain (plain : isPlain c = true) :
    step ⟨none, false, word, words⟩ c = ⟨none, false, word ++ [c], words⟩ := by
  obtain ⟨noSeparator, noMark, noEscape⟩ := isPlain_eq_true_iff.mp plain
  simp [step, isEscape, add, noSeparator, noMark, noEscape]

theorem step_separator (separates : isSeparator c = true) :
    step ⟨none, false, word, words⟩ c = ⟨none, false, [], words ++ endWord word []⟩ := by
  rcases isSeparator_iff.mp separates with rfl | rfl <;> rfl

theorem step_open (mark : QuoteMark) :
    step ⟨none, false, word, words⟩ mark.char = ⟨some mark, false, word, words⟩ := by
  cases mark <;> rfl

theorem step_close (mark : QuoteMark) :
    step ⟨some mark, false, word, words⟩ mark.char = ⟨none, false, word, words⟩ := by
  cases mark <;> rfl

/-- In quotes every character stands for itself that neither ends the quotes nor escapes. -/
theorem step_quoted {mark : QuoteMark} (noEscape : isEscape (some mark) c = false)
    (noMark : c ≠ mark.char) :
    step ⟨some mark, false, word, words⟩ c = ⟨some mark, false, word ++ [c], words⟩ := by
  cases marks : mark? c with
  | none => simp [step, add, noEscape, marks]
  | some other =>
      have different : mark ≠ other := by
        rintro rfl
        exact noMark (mark?_eq_some_iff.mp marks)
      simp [step, add, noEscape, marks, different]

end

/-- The quote that is open after a character that is not escaped. -/
def turn (quote : Option QuoteMark) (c : Char) : Option QuoteMark :=
  match quote with
  | none => mark? c
  | some opened => if mark? c = some opened then none else some opened

theorem turn_of_mark? {c : Char} (noMark : mark? c = none) (quote : Option QuoteMark) :
    turn quote c = quote := by
  cases quote <;> simp [turn, noMark]

theorem mark?_of_isEscape {quote : Option QuoteMark} {c : Char}
    (escapes : isEscape quote c = true) : mark? c = none := by
  rw [isEscape, Bool.and_eq_true, beq_iff_eq] at escapes
  rw [escapes.1]
  decide

/-- A character that is not escaped may open or close quotes, or escape the next one. The words have
no part in this. -/
theorem step_unescaped (quote : Option QuoteMark) (word : List Char) (words : List (List Char))
    (c : Char) : (step ⟨quote, false, word, words⟩ c).quote = turn quote c ∧
      (step ⟨quote, false, word, words⟩ c).escaped = isEscape quote c := by
  by_cases escapes : isEscape quote c = true
  · rw [step_escape word words escapes, turn_of_mark? (mark?_of_isEscape escapes), escapes]
    exact ⟨rfl, rfl⟩
  · rw [Bool.not_eq_true] at escapes
    rw [escapes]
    cases quote with
    | none =>
        cases marks : mark? c with
        | some mark =>
            rw [mark?_eq_some_iff.mp marks, step_open]
            exact ⟨(mark?_eq_some_iff.mpr rfl).symm, rfl⟩
        | none =>
            rw [turn_of_mark? marks]
            by_cases separates : isSeparator c = true
            · rw [step_separator word words separates]
              exact ⟨rfl, rfl⟩
            · have plain : isPlain c = true := isPlain_eq_true_iff.mpr
                ⟨by simpa using separates, marks, by simpa [isEscape] using escapes⟩
              rw [step_plain word words plain]
              exact ⟨rfl, rfl⟩
    | some opened =>
        by_cases same : c = opened.char
        · rw [same, step_close, turn, if_pos (mark?_eq_some_iff.mpr rfl)]
          exact ⟨rfl, rfl⟩
        · rw [step_quoted word words escapes same, turn, if_neg (mt mark?_eq_some_iff.mp same)]
          exact ⟨rfl, rfl⟩

/-! ## Whole lines -/

/-- Taking the steps of a line one after another reads the line. -/
theorem finish_foldl (quote : Option QuoteMark) (word line : List Char)
    (words : List (List Char)) : (line.foldl step ⟨quote, false, word, words⟩).finish =
      (readFrom quote word line).map (words ++ ·) := by
  fun_induction readFrom quote word line generalizing words with
  | case1 quote word => cases quote <;> rfl
  | case2 quote word c escapes =>
      rw [List.foldl_cons, step_escape word words escapes]
      cases quote <;> rfl
  | case3 quote word c escapes next rest ih =>
      rw [List.foldl_cons, step_escape word words escapes, List.foldl_cons, step_escaped, ih]
  | case4 word c rest opened marks _ ih =>
      rw [List.foldl_cons, mark?_eq_some_iff.mp marks, step_open, ih]
  | case5 word c rest opened mark marks same _ ih =>
      obtain rfl : opened = mark := eq_of_beq same
      rw [List.foldl_cons, mark?_eq_some_iff.mp marks, step_close, ih]
  | case6 word c rest opened mark marks different noEscape ih =>
      have other : c ≠ opened.char := by
        intro same
        obtain rfl : opened = mark :=
          Option.some.inj ((mark?_eq_some_iff.mpr same).symm.trans marks)
        exact different BEq.rfl
      rw [List.foldl_cons, step_quoted word words (by simpa using noEscape) other, ih]
  | case7 word c rest _ separates _ ih =>
      rw [List.foldl_cons, step_separator word words separates, ih]
      cases readFrom none [] rest with
      | error error => rfl
      | ok others =>
          cases word <;> simp [Except.map, endWord]
  | case8 word c rest noMark noSeparator noEscape ih =>
      have plain : isPlain c = true :=
        isPlain_eq_true_iff.mpr ⟨by simpa using noSeparator, noMark,
          by simpa [isEscape] using noEscape⟩
      rw [List.foldl_cons, step_plain word words plain, ih]
  | case9 word c rest opened noMark noEscape ih =>
      have other : c ≠ opened.char := by
        intro same
        cases (mark?_eq_some_iff.mpr same).symm.trans noMark
      rw [List.foldl_cons, step_quoted word words (by simpa using noEscape) other, ih]

theorem after_append (line rest : List Char) :
    after (line ++ rest) = rest.foldl step (after line) := List.foldl_append

theorem read_eq (line : List Char) :
    read line = (after line).finish.map fun words => words.map String.ofList := by
  have whole : (after line).finish = readFrom none [] line := by
    rw [after, start, finish_foldl]
    cases readFrom none [] line <;> rfl
  rw [whole, read]

/-- A line is not read when a quote is still open after it. -/
theorem read_eq_error_iff {line : List Char} {mark : QuoteMark} :
    read line = .error mark ↔ (after line).quote = some mark := by
  rw [read_eq, finish]
  cases (after line).quote with
  | none => simp [Except.map]
  | some opened => simp [Except.map]

theorem read_of_quote {line : List Char} (closed : (after line).quote = none) :
    read line = .ok ((after line).taken.map String.ofList) := by
  rw [read_eq, finish, closed]
  rfl

/-- A gap ends the word before it. -/
theorem foldl_gap {gap : List Char} (nonempty : gap ≠ [])
    (separate : ∀ c ∈ gap, isSeparator c = true) (word : List Char) (words : List (List Char)) :
    gap.foldl step ⟨none, false, word, words⟩ = ⟨none, false, [], words ++ endWord word []⟩ := by
  induction gap generalizing word words with
  | nil => exact absurd rfl nonempty
  | cons c gap ih =>
      have first : isSeparator c = true := separate c List.mem_cons_self
      rw [List.foldl_cons, step_separator word words first]
      by_cases last : gap = []
      · rw [last]
        rfl
      · rw [ih last fun d member => separate d (List.mem_cons_of_mem c member)]
        simp [endWord]

/-- A gap before the first word is skipped. -/
theorem foldl_gap_start {gap : List Char} (separate : ∀ c ∈ gap, isSeparator c = true) :
    gap.foldl step start = start := by
  by_cases none : gap = []
  · rw [none]
    rfl
  · exact foldl_gap none separate [] []

/-- Text in quotes in which every character stands for itself is added to the word. -/
theorem foldl_quoted {mark : QuoteMark} {text : List Char}
    (stands : ∀ c ∈ text, isEscape (some mark) c = false ∧ c ≠ mark.char)
    (word : List Char) (words : List (List Char)) :
    text.foldl step ⟨some mark, false, word, words⟩ = ⟨some mark, false, word ++ text, words⟩ := by
  induction text generalizing word with
  | nil => simp
  | cons c text ih =>
      obtain ⟨noEscape, noMark⟩ := stands c List.mem_cons_self
      rw [List.foldl_cons, step_quoted word words noEscape noMark,
        ih fun d member => stands d (List.mem_cons_of_mem c member)]
      simp

end Progress

end Words

end ContentMount
