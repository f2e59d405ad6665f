/-
This file says which names a pattern with wildcards matches: those that are cut into consecutive
pieces, one for each character of the pattern.
-/

import ContentMount.Query.Glob
import Mathlib.Data.List.Forall2

namespace ContentMount.Glob

/-! ## Cutting a list along a pattern -/

/-- A list is cut along a pattern into consecutive blocks, one for each element of the pattern, and
every element takes its block. -/
def Cut {α β : Type} (takes : α → List β → Prop) (pattern : List α) (items : List β) : Prop :=
  ∃ blocks, List.Forall₂ takes pattern blocks ∧ blocks.flatten = items

section

variable {α β : Type} {takes : α → List β → Prop} {p : α} {pattern : List α}

theorem cut_nil_left {items : List β} : Cut takes [] items ↔ items = [] := by
  simp only [Cut, List.forall₂_nil_left_iff, exists_eq_left, List.flatten_nil]
  exact eq_comm

/-- The first element takes a front, and the rest is cut along the others. -/
theorem cut_cons_left {items : List β} : Cut takes (p :: pattern) items ↔
    ∃ block rest, takes p block ∧ Cut takes pattern rest ∧ block ++ rest = items := by
  constructor
  · rintro ⟨blocks, fits, rfl⟩
    obtain ⟨block, others, first, later, rfl⟩ := List.forall₂_cons_left_iff.mp fits
    exact ⟨block, others.flatten, first, ⟨others, later, rfl⟩, List.flatten_cons.symm⟩
  · rintro ⟨block, rest, first, ⟨others, later, rfl⟩, rfl⟩
    exact ⟨block :: others, .cons first later, List.flatten_cons⟩

section

variable (run : ∀ block, takes p block)
include run

/-- Of nothing, an element that takes any block takes nothing. -/
theorem cut_run_nil : Cut takes (p :: pattern) [] ↔ Cut takes pattern [] := by
  rw [cut_cons_left]
  constructor
  · rintro ⟨block, rest, -, later, whole⟩
    rwa [(List.append_eq_nil_iff.mp whole).2] at later
  · exact fun later => ⟨[], [], run [], later, rfl⟩

/-- An element that takes any block takes nothing, or else the first item and whatever it takes of
the others. -/
theorem cut_run_cons {item : β} {items : List β} : Cut takes (p :: pattern) (item :: items) ↔
    Cut takes pattern (item :: items) ∨ Cut takes (p :: pattern) items := by
  constructor
  · intro cut
    obtain ⟨block, rest, -, later, whole⟩ := cut_cons_left.mp cut
    cases block with
    | nil =>
        rw [List.nil_append] at whole
        exact .inl (whole ▸ later)
    | cons first block =>
        have others : block ++ rest = items := (List.cons.inj whole).2
        exact .inr (cut_cons_left.mpr ⟨block, rest, run block, later, others⟩)
  · rintro (none | more)
    · exact cut_cons_left.mpr ⟨[], item :: items, run [], none, rfl⟩
    · obtain ⟨block, rest, -, later, rfl⟩ := cut_cons_left.mp more
      exact cut_cons_left.mpr ⟨item :: block, rest, run _, later, rfl⟩

end

section

variable {fits : β → Prop} (one : ∀ block, takes p block ↔ ∃ item, block = [item] ∧ fits item)
include one

theorem not_cut_one_nil : ¬ Cut takes (p :: pattern) [] := by
  intro cut
  obtain ⟨block, rest, taken, -, whole⟩ := cut_cons_left.mp cut
  obtain ⟨item, rfl, -⟩ := (one block).mp taken
  cases whole

/-- An element that takes one item takes the first. -/
theorem cut_one_cons {item : β} {items : List β} :
    Cut takes (p :: pattern) (item :: items) ↔ fits item ∧ Cut takes pattern items := by
  constructor
  · intro cut
    obtain ⟨block, rest, taken, later, whole⟩ := cut_cons_left.mp cut
    obtain ⟨first, rfl, fitting⟩ := (one block).mp taken
    obtain ⟨rfl, rfl⟩ := List.cons.inj whole
    exact ⟨fitting, later⟩
  · rintro ⟨fitting, later⟩
    exact cut_cons_left.mpr ⟨[item], items, (one _).mpr ⟨item, rfl, fitting⟩, later, rfl⟩

end

end

/-- A pattern whose elements all stand for themselves cuts the list that it writes and no other. -/
theorem cut_literal {α : Type} {takes : α → List α → Prop} {pattern : List α}
    (literal : ∀ p ∈ pattern, ∀ block, takes p block ↔ block = [p]) {items : List α} :
    Cut takes pattern items ↔ items = pattern := by
  induction pattern generalizing items with
  | nil => exact cut_nil_left
  | cons p pattern ih =>
      have one : ∀ block, takes p block ↔ ∃ item, block = [item] ∧ item = p := fun block => by
        simpa using literal p List.mem_cons_self block
      cases items with
      | nil => simpa using not_cut_one_nil one
      | cons item items =>
          rw [cut_one_cons one, ih fun q member => literal q (List.mem_cons_of_mem p member),
            List.cons.injEq]

/-! ## Names -/

/-- What a character of a pattern takes of a name. A star takes any piece, a question mark takes a
single character, and any other character takes itself. -/
def TakesPiece (p : Char) (piece : List Char) : Prop :=
  if p = '*' then True
  else if p = '?' then ∃ c, piece = [c]
  else piece = [p]

theorem takesPiece_star (piece : List Char) : TakesPiece '*' piece := trivial

theorem takesPiece_iff {p : Char} (noStar : p ≠ '*') (piece : List Char) :
    TakesPiece p piece ↔ ∃ c, piece = [c] ∧ (p = '?' ∨ p = c) := by
  rw [TakesPiece, if_neg noStar]
  by_cases any : p = '?'
  · simp [any]
  · simp [any]

theorem matchesChars_eq_true_iff (name pattern : List Char) :
    matchesChars name pattern = true ↔ Cut TakesPiece pattern name := by
  -- The cases are those of the search. Only a star leaves it a choice, which `cut_run_cons` mirrors.
  fun_induction matchesChars name pattern with
  | case1 => simp [cut_nil_left]
  | case2 c name => simp [cut_nil_left]
  | case3 p pattern ih =>
      by_cases star : p = '*'
      · subst star
        simpa [cut_run_nil takesPiece_star] using ih
      · simpa [star] using not_cut_one_nil (takesPiece_iff star)
  | case4 c name p pattern star here later =>
      obtain rfl : p = '*' := by simpa using star
      rw [Bool.or_eq_true, here, later, cut_run_cons takesPiece_star]
  | case5 c name p pattern noStar ih =>
      have other : p ≠ '*' := by simpa using noStar
      rw [cut_one_cons (takesPiece_iff other), Bool.and_eq_true, ih]
      simp

/-- A name matches a pattern exactly when it is made of one piece for each character of the
pattern. -/
theorem matchesName_eq_true_iff (name pattern : String) :
    matchesName name pattern = true ↔
      ∃ pieces, List.Forall₂ TakesPiece pattern.toList pieces ∧ pieces.flatten = name.toList :=
  matchesChars_eq_true_iff name.toList pattern.toList

/-- A star takes the characters before the point, and none when there are none. -/
example : matchesName ".txt" "*.t?t" = true := by cbv

end ContentMount.Glob
