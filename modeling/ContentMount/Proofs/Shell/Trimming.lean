/-
This file compares a line with what is left of it without the blanks at its ends. The words stay
the same when the blanks separate words, and any other blank would be a part of a word.
-/

import ContentMount.Proofs.Shell.Progress
import ContentMount.Shell.Command
import Mathlib.Algebra.Ring.Parity
import Mathlib.Data.List.Induction

namespace ContentMount

namespace Words

/-- A blank is neither a quote mark nor a backslash. -/
theorem ne_of_isBlank {c : Char} (blank : Text.isBlank c = true) :
    (∀ mark : QuoteMark, c ≠ mark.char) ∧ c ≠ '\\' := by
  constructor
  · rintro mark rfl
    cases mark <;> exact absurd blank (by decide)
  · rintro rfl
    exact absurd blank (by decide)

theorem mark?_of_isBlank {c : Char} (blank : Text.isBlank c = true) : mark? c = none :=
  Option.eq_none_iff_forall_ne_some.mpr fun mark marks =>
    (ne_of_isBlank blank).1 mark (mark?_eq_some_iff.mp marks)

/-- A blank that is not plain separates words. -/
theorem isSeparator_of_isBlank {c : Char} (blank : Text.isBlank c = true)
    (special : isPlain c = false) : isSeparator c = true := by
  by_contra other
  have plain : isPlain c = true := isPlain_eq_true_iff.mpr
    ⟨by simpa using other, mark?_of_isBlank blank, (ne_of_isBlank blank).2⟩
  rw [plain] at special
  cases special

theorem separate_of_filter {gap : List Char} (blank : ∀ c ∈ gap, Text.isBlank c = true)
    (special : gap.filter isPlain = []) : ∀ c ∈ gap, isSeparator c = true := by
  intro c member
  have unplain := List.filter_eq_nil_iff.mp special c member
  exact isSeparator_of_isBlank (blank c member) (by simpa using unplain)

theorem isSeparator_eq_false {c : Char} (unblank : Text.isBlank c = false) :
    isSeparator c = false := by
  by_contra separates
  rw [isBlank_of_isSeparator (by simpa using separates)] at unblank
  cases unblank

/-- How many backslashes stand at the end of a line. -/
def backslashesAtEnd (line : List Char) : Nat :=
  (line.reverse.takeWhile (· == '\\')).length

theorem backslashesAtEnd_append (line : List Char) (c : Char) :
    backslashesAtEnd (line ++ [c]) = if c = '\\' then backslashesAtEnd line + 1 else 0 := by
  rw [backslashesAtEnd, List.reverse_append, List.reverse_singleton, List.singleton_append,
    List.takeWhile_cons]
  by_cases backslash : c = '\\' <;> simp [backslash, backslashesAtEnd]

/-! ## Quotes and escapes -/

namespace Progress

/-- Only a backslash leaves the next character escaped. -/
theorem escaped_step {c : Char} (noEscape : c ≠ '\\') (progress : Progress) :
    (progress.step c).escaped = false := by
  rcases progress with ⟨quote, _ | _, word, words⟩
  · rw [(step_unescaped quote word words c).2]
    simp [isEscape, noEscape]
  · rfl

/-- A blank leaves quotes as they are. -/
theorem quote_step {c : Char} (blank : Text.isBlank c = true) (progress : Progress) :
    (progress.step c).quote = progress.quote := by
  rcases progress with ⟨quote, _ | _, word, words⟩
  · rw [(step_unescaped quote word words c).1, turn_of_mark? (mark?_of_isBlank blank)]
  · rfl

theorem quote_foldl {gap : List Char} (blank : ∀ c ∈ gap, Text.isBlank c = true)
    (progress : Progress) : (gap.foldl step progress).quote = progress.quote := by
  induction gap generalizing progress with
  | nil => rfl
  | cons c gap ih =>
      rw [List.foldl_cons, ih fun d member => blank d (List.mem_cons_of_mem c member),
        quote_step (blank c List.mem_cons_self)]

theorem escaped_foldl {gap : List Char} (blank : ∀ c ∈ gap, Text.isBlank c = true)
    {progress : Progress} (unescaped : progress.escaped = false) :
    (gap.foldl step progress).escaped = false := by
  induction gap generalizing progress with
  | nil => exact unescaped
  | cons c gap ih =>
      exact ih (fun d member => blank d (List.mem_cons_of_mem c member))
        (escaped_step (ne_of_isBlank (blank c List.mem_cons_self)).2 progress)

/-- What a line does to quotes does not depend on the words before it. -/
theorem quote_foldl_congr (line : List Char) {first second : Progress}
    (sameQuote : first.quote = second.quote) (sameEscape : first.escaped = second.escaped) :
    (line.foldl step first).quote = (line.foldl step second).quote := by
  induction line generalizing first second with
  | nil => exact sameQuote
  | cons c line ih =>
      rcases first with ⟨quote, escaped, word, words⟩
      rcases second with ⟨_, _, otherWord, otherWords⟩
      obtain rfl := sameQuote
      obtain rfl := sameEscape
      rw [List.foldl_cons, List.foldl_cons]
      -- Both readings make the same turn here, so they still agree after it.
      cases escaped with
      | true => exact ih rfl rfl
      | false =>
          have this := step_unescaped quote word words c
          have that := step_unescaped quote otherWord otherWords c
          exact ih (this.1.trans that.1.symm) (this.2.trans that.2.symm)

/-- Blanks around a line do not open or close quotes. -/
theorem quote_after {front rest : List Char} (before : ∀ c ∈ front, Text.isBlank c = true)
    (behind : ∀ c ∈ rest, Text.isBlank c = true) (line : List Char) :
    (after (front ++ (line ++ rest))).quote = (after line).quote := by
  rw [after_append, List.foldl_append, quote_foldl behind]
  exact quote_foldl_congr line (quote_foldl before start) (escaped_foldl before rfl)

/-- After a line the next character is escaped when an odd number of backslashes stands at its end,
except in single quotes. -/
theorem escaped_after_iff (line : List Char) : (after line).escaped = true ↔
    Odd (backslashesAtEnd line) ∧ (after line).quote ≠ some .single := by
  -- On the line from its end, since the backslashes are counted there.
  induction line using List.reverseRecOn with
  | nil => simp [after, start, backslashesAtEnd]
  | append_singleton line c ih =>
      rw [after_append, List.foldl_cons, List.foldl_nil, backslashesAtEnd_append]
      by_cases backslash : c = '\\'
      · subst backslash
        rw [if_pos rfl, Nat.odd_add_one]
        rcases read : after line with ⟨quote, _ | _, word, words⟩
        · rw [read] at ih
          have unmarked : mark? '\\' = none := by decide
          rw [(step_unescaped quote word words '\\').1, (step_unescaped quote word words '\\').2,
            turn_of_mark? unmarked]
          simp only [Bool.false_eq_true, false_iff, not_and] at ih
          simp only [isEscape, BEq.rfl, Bool.true_and, bne_iff_ne]
          exact ⟨fun other => ⟨fun odd => ih odd other, other⟩, fun even => even.2⟩
        · rw [read] at ih
          rw [step_escaped]
          simp [(ih.mp rfl).1]
      · simp [escaped_step backslash, backslash]

end Progress

open Progress

/-! ## Words of trimmed lines -/

/-- Trimming leaves the same quote open. -/
theorem read_trim_eq_error_iff (line : List Char) (mark : QuoteMark) :
    read (Text.trim line) = .error mark ↔ read line = .error mark := by
  obtain ⟨front, rest, before, behind, split⟩ := Text.exists_stripWhile Text.isBlank line
  have same := quote_after before behind (Text.stripWhile Text.isBlank line)
  rw [split] at same
  rw [read_eq_error_iff, read_eq_error_iff, same, Text.trim]

/-- Gaps around a line do not change its words, unless the gap after it starts with an escaped
character. -/
theorem read_gaps {front rest : List Char} (before : ∀ c ∈ front, isSeparator c = true)
    (behind : ∀ c ∈ rest, isSeparator c = true) {line : List Char}
    (unescaped : rest ≠ [] → (after line).escaped = false) :
    read (front ++ (line ++ rest)) = read line := by
  have same := quote_after (fun c member => isBlank_of_isSeparator (before c member))
    (fun c member => isBlank_of_isSeparator (behind c member)) line
  have started : front.foldl step start = start := foldl_gap_start before
  cases opened : (after line).quote with
  | some mark =>
      rw [read_eq_error_iff.mpr opened, read_eq_error_iff.mpr (same.trans opened)]
  | none =>
      rw [read_of_quote opened, read_of_quote (same.trans opened)]
      rw [after, List.foldl_append, started, List.foldl_append, ← after]
      by_cases closing : rest = []
      · rw [closing]
        rfl
      · rcases reached : after line with ⟨quote, escaped, word, words⟩
        rw [reached] at opened unescaped
        obtain rfl : quote = none := opened
        obtain rfl : escaped = false := unescaped closing
        rw [foldl_gap closing behind]
        simp [taken, endWord]

/-- Trimming that keeps all plain characters cuts separators only. -/
theorem trim_eq_stripWhile {line : List Char}
    (plain : (Text.trim line).filter isPlain = line.filter isPlain) :
    Text.trim line = Text.stripWhile isSeparator line := by
  obtain ⟨front, rest, before, behind, split⟩ := Text.exists_stripWhile Text.isBlank line
  rw [← Text.trim] at split
  -- The same number of plain characters is left, so none of them was cut.
  have nothing : front.filter isPlain = [] ∧ rest.filter isPlain = [] := by
    have counted := congrArg List.length (plain.trans (congrArg (List.filter isPlain) split.symm))
    rw [List.filter_append, List.filter_append, List.length_append, List.length_append] at counted
    constructor <;> apply List.eq_nil_of_length_eq_zero <;> omega
  have stripped : Text.stripWhile isSeparator (front ++ (Text.trim line ++ rest)) =
      Text.trim line :=
    Text.stripWhile_append (separate_of_filter before nothing.1)
      (fun c first => isSeparator_eq_false (Text.head?_stripWhile first))
      (fun c last => isSeparator_eq_false (Text.getLast?_stripWhile last))
      (separate_of_filter behind nothing.2)
  rw [split] at stripped
  exact stripped.symm

/-- A line ends with an escaped blank when an odd number of backslashes stands before the blanks at
its end. -/
def EndsEscaped (line : List Char) : Prop :=
  (∃ c, line.getLast? = some c ∧ Text.isBlank c = true) ∧ Odd (backslashesAtEnd (Text.trim line))

/-- Only separators are cut, and none of them is escaped. -/
theorem read_trim_of_eq_stripWhile {line : List Char} (unescaped : ¬ EndsEscaped line)
    (cut : Text.trim line = Text.stripWhile isSeparator line) :
    read (Text.trim line) = read line := by
  obtain ⟨front, rest, before, behind, split⟩ := Text.exists_stripWhile isSeparator line
  rw [← cut] at split
  have unfinished : rest ≠ [] → (after (Text.trim line)).escaped = false := by
    intro more
    by_contra escaped
    obtain ⟨odd, -⟩ := (escaped_after_iff _).mp (by simpa using escaped)
    refine unescaped ⟨⟨rest.getLast more, ?_, ?_⟩, odd⟩
    · rw [← split, ← List.append_assoc, List.getLast?_append_of_ne_nil _ more,
        List.getLast?_eq_some_getLast more]
    · exact isBlank_of_isSeparator (behind _ (List.getLast_mem more))
  rw [← read_gaps before behind unfinished, split]

end Words

namespace Shell

open Words Remote

/-- Carries out a line that has been read. -/
def executeRead (shell : Shell) (styled : Bool) (metrics : Option Metrics) :
    Except QuoteMark (List String) → Asking Outcome
  | .ok words => shell.executeWords styled metrics words
  | .error mark => return shell.stay (.error (.unclosedQuote mark))

/-- A line is carried out as it is read without the blanks at its ends. Without them the same quote
is left open. Unless a blank at the end is escaped, the words are those of the line itself exactly
when no blanks are cut but spaces and tabs, or a quote is left open. An escaped blank at the end is
a part of the last word, and trimming loses it, so no such line is compared. -/
theorem execute_trimmed (line : String) :
    (∀ (shell : Shell) (styled : Bool) (metrics : Option Metrics),
      shell.execute styled metrics line =
        shell.executeRead styled metrics (read (Text.trim line.toList))) ∧
    (∀ mark, read (Text.trim line.toList) = .error mark ↔ read line.toList = .error mark) ∧
    (¬ EndsEscaped line.toList →
      (read (Text.trim line.toList) = read line.toList ↔
        (∃ mark, read line.toList = .error mark) ∨
          Text.trim line.toList = Text.stripWhile isSeparator line.toList)) := by
  refine ⟨fun shell styled metrics => ?_, read_trim_eq_error_iff line.toList, fun unescaped => ?_⟩
  · rw [execute]
    cases read (Text.trim line.toList) <;> rfl
  · constructor
    · intro same
      cases reads : read line.toList with
      | error mark => exact .inl ⟨mark, rfl⟩
      | ok words =>
          have plain := filter_isPlain_of_read (same.trans reads)
          exact .inr (trim_eq_stripWhile (plain.symm.trans (filter_isPlain_of_read reads)))
    · rintro (⟨mark, opened⟩ | cut)
      · rw [opened, read_trim_eq_error_iff, opened]
      · exact read_trim_of_eq_stripWhile unescaped cut

/-- Tabs and spaces around a line do not count, also after a word with an escaped space. -/
theorem execute_trimmed_tabs :
    ¬ EndsEscaped "\t cd my\\ dir \t".toList ∧
    read (Text.trim "\t cd my\\ dir \t".toList) = read "\t cd my\\ dir \t".toList := by
  have unescaped : ¬ EndsEscaped "\t cd my\\ dir \t".toList := by
    rintro ⟨-, odd⟩
    exact absurd odd (by decide)
  obtain ⟨-, -, words⟩ := execute_trimmed "\t cd my\\ dir \t"
  exact ⟨unescaped, (words unescaped).mpr (.inr (by decide))⟩

/-- A no-break space at the end is cut, but it would be a part of the word. -/
theorem read_trim_noBreakSpace :
    read (Text.trim "pwd\u00a0".toList) = .ok ["pwd"] ∧
    read "pwd\u00a0".toList = .ok ["pwd\u00a0"] ∧
    ¬ ∀ line : String, read (Text.trim line.toList) = read line.toList := by
  have trimmed : read (Text.trim "pwd\u00a0".toList) = .ok ["pwd"] := by decide
  have whole : read "pwd\u00a0".toList = .ok ["pwd\u00a0"] := by decide
  refine ⟨trimmed, whole, fun same => ?_⟩
  have equal := (same "pwd\u00a0").symm.trans trimmed
  rw [whole] at equal
  exact absurd (Except.ok.inj equal) (by decide)

end Shell

end ContentMount
