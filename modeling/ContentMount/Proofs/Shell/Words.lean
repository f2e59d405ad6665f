/-
This file says what of a line reaches its words. Plain characters always do, in their order. A line
loses something to its words as soon as it has any other character.
-/

import ContentMount.Proofs.Text.Stripping
import ContentMount.Shell.Words

namespace ContentMount

namespace Words

/-- A plain character stands for itself wherever it stands. -/
def isPlain (c : Char) : Bool :=
  !isSeparator c && (mark? c).isNone && c != '\\'

theorem isPlain_eq_true_iff {c : Char} :
    isPlain c = true ↔ isSeparator c = false ∧ mark? c = none ∧ c ≠ '\\' := by
  simp [isPlain, and_assoc]

theorem isSeparator_iff {c : Char} : isSeparator c = true ↔ c = ' ' ∨ c = '\t' := by
  simp [isSeparator]

theorem isBlank_of_isSeparator {c : Char} (separates : isSeparator c = true) :
    Text.isBlank c = true := by
  rcases isSeparator_iff.mp separates with rfl | rfl <;> decide

/-! ## Lines that start plainly -/

theorem readFrom_plain {c : Char} (plain : isPlain c = true) (word rest : List Char) :
    readFrom none word (c :: rest) = readFrom none (word ++ [c]) rest := by
  obtain ⟨noSeparator, noMark, noEscape⟩ := isPlain_eq_true_iff.mp plain
  rw [readFrom.eq_def]
  simp [isEscape, noSeparator, noMark, noEscape]

/-- Plain text is added to the word. -/
theorem readFrom_append {front : List Char} (plain : ∀ c ∈ front, isPlain c = true)
    (word rest : List Char) :
    readFrom none word (front ++ rest) = readFrom none (word ++ front) rest := by
  induction front generalizing word with
  | nil => simp
  | cons c front ih =>
      rw [List.cons_append, readFrom_plain (plain c List.mem_cons_self),
        ih fun d member => plain d (List.mem_cons_of_mem c member)]
      simp

theorem readFrom_separator {c : Char} (separates : isSeparator c = true) (word rest : List Char) :
    readFrom none word (c :: rest) = (readFrom none [] rest).map (endWord word) := by
  have noMark : mark? c = none := by
    rcases isSeparator_iff.mp separates with rfl | rfl <;> decide
  have noEscape : isEscape none c = false := by
    rcases isSeparator_iff.mp separates with rfl | rfl <;> decide
  rw [readFrom.eq_def]
  simp [noEscape, noMark, separates]

/-- Separators before a word are skipped. -/
theorem readFrom_gap {gap : List Char} (separate : ∀ c ∈ gap, isSeparator c = true)
    (rest : List Char) : readFrom none [] (gap ++ rest) = readFrom none [] rest := by
  have noWord : endWord [] = id := rfl
  induction gap with
  | nil => rfl
  | cons c gap ih =>
      rw [List.cons_append, readFrom_separator (separate c List.mem_cons_self), noWord,
        ih fun d member => separate d (List.mem_cons_of_mem c member)]
      cases readFrom none [] rest <;> rfl

/-! ## What the words keep -/

/-- The words keep some characters of a line, in their order. All plain characters are among them.
Something is left out if the line has any other character or a quote is still open. -/
structure Keeps (quote : Option QuoteMark) (kept line : List Char) : Prop where
  sublist : kept.Sublist line
  plain : kept.filter isPlain = line.filter isPlain
  shorter : quote ≠ none ∨ (∃ c ∈ line, isPlain c = false) → kept.length < line.length

theorem keeps_nil : Keeps none [] [] where
  sublist := .slnil
  plain := rfl
  shorter := by simp

/-- A character that is not plain may be left out. -/
theorem keeps_of_dropped {c : Char} (special : isPlain c = false) {kept rest : List Char}
    (sublist : kept.Sublist rest) (plain : kept.filter isPlain = rest.filter isPlain)
    (quote : Option QuoteMark) : Keeps quote kept (c :: rest) where
  sublist := sublist.cons c
  plain := by simpa [special] using plain
  shorter _ := Nat.lt_succ_of_le sublist.length_le

/-- A character is kept when it is plain or stands in quotes. -/
theorem Keeps.cons {quote : Option QuoteMark} {kept rest : List Char}
    (keeps : Keeps quote kept rest) {c : Char} (stands : quote = none → isPlain c = true) :
    Keeps quote (c :: kept) (c :: rest) where
  sublist := keeps.sublist.cons_cons c
  plain := by simp [List.filter_cons, keeps.plain]
  shorter reason := by
    refine Nat.succ_lt_succ (keeps.shorter ?_)
    by_cases quoted : quote = none
    · obtain stillOpen | ⟨d, member, special⟩ := reason
      · exact .inl stillOpen
      · rcases List.mem_cons.mp member with rfl | later
        · rw [stands quoted] at special
          cases special
        · exact .inr ⟨d, later, special⟩
    · exact .inl quoted

theorem isPlain_of_isEscape {quote : Option QuoteMark} {c : Char}
    (escapes : isEscape quote c = true) : isPlain c = false := by
  rw [isEscape, Bool.and_eq_true, beq_iff_eq] at escapes
  rw [escapes.1]
  decide

theorem isPlain_of_mark? {c : Char} {mark : QuoteMark} (marks : mark? c = some mark) :
    isPlain c = false := by
  simp [isPlain, marks]

theorem isPlain_of_isSeparator {c : Char} (separates : isSeparator c = true) :
    isPlain c = false := by
  simp [isPlain, separates]

theorem flatten_endWord (word : List Char) (rest : List (List Char)) :
    (endWord word rest).flatten = word ++ rest.flatten := by
  cases word <;> rfl

theorem exists_of_map_eq_ok {ε α β : Type} {change : α → β} {result : Except ε α} {value : β}
    (mapped : result.map change = .ok value) :
    ∃ origin, result = .ok origin ∧ change origin = value := by
  cases result with
  | error error => cases mapped
  | ok origin => exact ⟨origin, rfl, Except.ok.inj mapped⟩

/-- At the end of a line no quote is open. -/
theorem endLine_eq_ok {quote : Option QuoteMark} {word : List Char} {words : List (List Char)}
    (ended : endLine quote word = .ok words) : quote = none ∧ words.flatten = word := by
  cases quote with
  | none =>
      refine ⟨rfl, ?_⟩
      rw [← Except.ok.inj ended, flatten_endWord]
      simp
  | some opened => cases ended

/-- The words of a line are made of what they keep of it. -/
theorem exists_keeps {quote : Option QuoteMark} {word line : List Char} {words : List (List Char)}
    (read : readFrom quote word line = .ok words) :
    ∃ kept, words.flatten = word ++ kept ∧ Keeps quote kept line := by
  fun_induction readFrom quote word line generalizing words with
  | case1 quote word =>
      obtain ⟨rfl, flat⟩ := endLine_eq_ok read
      exact ⟨[], by rw [flat, List.append_nil], keeps_nil⟩
  | case2 quote word c escapes =>
      obtain ⟨-, flat⟩ := endLine_eq_ok read
      exact ⟨[], by rw [flat, List.append_nil],
        keeps_of_dropped (isPlain_of_isEscape escapes) .slnil rfl quote⟩
  | case3 quote word c escapes next rest ih =>
      obtain ⟨kept, flat, keeps⟩ := ih read
      refine ⟨next :: kept, by rw [flat]; simp, keeps_of_dropped (isPlain_of_isEscape escapes)
        (keeps.sublist.cons_cons next) ?_ quote⟩
      simp [List.filter_cons, keeps.plain]
  | case4 word c rest opened marks _ ih =>
      obtain ⟨kept, flat, keeps⟩ := ih read
      exact ⟨kept, flat, keeps_of_dropped (isPlain_of_mark? marks) keeps.sublist keeps.plain _⟩
  | case5 word c rest opened mark marks _ _ ih =>
      obtain ⟨kept, flat, keeps⟩ := ih read
      exact ⟨kept, flat, keeps_of_dropped (isPlain_of_mark? marks) keeps.sublist keeps.plain _⟩
  | case6 word c rest opened mark _ _ _ ih =>
      obtain ⟨kept, flat, keeps⟩ := ih read
      exact ⟨c :: kept, by rw [flat]; simp, keeps.cons (by simp)⟩
  | case7 word c rest _ separates _ ih =>
      obtain ⟨others, readOthers, rfl⟩ := exists_of_map_eq_ok read
      obtain ⟨kept, flat, keeps⟩ := ih readOthers
      refine ⟨kept, ?_, keeps_of_dropped (isPlain_of_isSeparator separates) keeps.sublist
        keeps.plain _⟩
      rw [flatten_endWord, flat, List.nil_append]
  | case8 word c rest noMark noSeparator noEscape ih =>
      obtain ⟨kept, flat, keeps⟩ := ih read
      refine ⟨c :: kept, by rw [flat]; simp, keeps.cons fun _ => ?_⟩
      exact isPlain_eq_true_iff.mpr ⟨by simpa using noSeparator, noMark,
        by simpa [isEscape] using noEscape⟩
  | case9 word c rest opened _ _ ih =>
      obtain ⟨kept, flat, keeps⟩ := ih read
      exact ⟨c :: kept, by rw [flat]; simp, keeps.cons (by simp)⟩

/-- The plain characters of a line are those of its words. -/
theorem filter_isPlain_of_read {line : List Char} {words : List String}
    (reads : read line = .ok words) :
    (words.flatMap String.toList).filter isPlain = line.filter isPlain := by
  obtain ⟨texts, readTexts, rfl⟩ := exists_of_map_eq_ok reads
  obtain ⟨kept, flat, keeps⟩ := exists_keeps readTexts
  rw [← keeps.plain, List.flatMap_map]
  simp [List.flatMap_id', flat]

/-! ## A first word -/

theorem endWord_of_ne_nil {word : List Char} (nonempty : word ≠ []) (rest : List (List Char)) :
    endWord word rest = word :: rest := by
  rw [endWord, if_neg (by simpa using nonempty)]

/-- Plain text alone is a single word. -/
theorem readFrom_plain_word {word : List Char} (nonempty : word ≠ [])
    (plain : ∀ c ∈ word, isPlain c = true) : readFrom none [] word = .ok [word] := by
  have read := readFrom_append plain [] []
  rw [List.append_nil, List.nil_append] at read
  rw [read, readFrom, endLine, endWord_of_ne_nil nonempty]

section

variable {command gap : List Char} (nonempty : command ≠ [])
  (plain : ∀ c ∈ command, isPlain c = true) (gapNonempty : gap ≠ [])
  (separate : ∀ c ∈ gap, isSeparator c = true)
include nonempty plain gapNonempty separate

/-- Plain text in front of a gap is the first word. -/
theorem readFrom_word_gap (rest : List Char) :
    readFrom none [] (command ++ (gap ++ rest)) = (readFrom none [] rest).map (command :: ·) := by
  obtain ⟨c, others, rfl⟩ := List.exists_cons_of_ne_nil gapNonempty
  have isWord : endWord command = (command :: ·) := by
    funext words
    exact endWord_of_ne_nil nonempty words
  rw [readFrom_append plain, List.nil_append, List.cons_append,
    readFrom_separator (separate c List.mem_cons_self), isWord,
    readFrom_gap fun d member => separate d (List.mem_cons_of_mem c member)]

/-- The first word stays when the blanks at the end of a line are cut. -/
theorem readFrom_trim (unblank : ∀ c ∈ command, Text.isBlank c = false) (rest : List Char) :
    readFrom none [] (Text.trim (command ++ (gap ++ rest))) =
      (readFrom none [] (Text.dropEndWhile Text.isBlank rest)).map (command :: ·) := by
  have commandStays : Text.dropEndWhile Text.isBlank command = command :=
    Text.dropEndWhile_eq_self_iff.mpr fun c last => unblank c (List.mem_of_getLast? last)
  have starts : (command ++ (gap ++ rest)).dropWhile Text.isBlank = command ++ (gap ++ rest) := by
    obtain ⟨c, others, rfl⟩ := List.exists_cons_of_ne_nil nonempty
    simp [unblank c List.mem_cons_self]
  have blank : ∀ c ∈ gap, Text.isBlank c = true := fun c member =>
    isBlank_of_isSeparator (separate c member)
  rw [Text.trim, Text.stripWhile, starts, Text.dropEndWhile_append_of_stays commandStays,
    Text.dropEndWhile_append]
  split
  -- Nothing is left of the rest, so the gap is cut as well.
  · next nothing =>
    rw [nothing, Text.dropEndWhile_eq_nil blank, List.append_nil,
      readFrom_plain_word nonempty plain]
    rfl
  · exact readFrom_word_gap nonempty plain gapNonempty separate _

end

end Words

end ContentMount
