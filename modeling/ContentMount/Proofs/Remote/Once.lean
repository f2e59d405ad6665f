/-
This file defines a store whose cursors work once, and shows that it pages its listings.
-/

import ContentMount.Proofs.Remote.Serving
import Mathlib.Logic.Function.Basic

namespace ContentMount.Remote

/-- What is left of listings under their cursors, and the last cursor that was given. -/
structure Ledger where
  last : String
  left : String → List Entry

namespace Ledger

/-- Nothing is left at first. -/
def empty : Ledger := ⟨"", fun _ => []⟩

/-- Brings the first of some entries. The others are left under a new cursor. -/
def deal (ledger : Ledger) : List Entry → Page × Ledger
  | [] => (⟨[], "", false⟩, ledger)
  | [entry] => (⟨[entry], "", false⟩, ledger)
  | entry :: rest =>
    (⟨[entry], ledger.last ++ "+", true⟩,
      ⟨ledger.last ++ "+", Function.update ledger.left (ledger.last ++ "+") rest⟩)

/-- Nothing is left under a cursor that is struck out. -/
def strike (ledger : Ledger) (cursor : String) : Ledger :=
  { ledger with left := Function.update ledger.left cursor [] }

/-- Entries are left under a cursor that was given. -/
structure Leaves (ledger : Ledger) (cursor : String) (entries : List Entry) : Prop where
  given : cursor.length ≤ ledger.last.length
  same : ledger.left cursor = entries

end Ledger

/-- One page for each entry, and an empty one when there is none. -/
def singles : List Entry → List (List Entry)
  | [] => [[]]
  | entry :: rest => (entry :: rest).map ([·])

/-- A store that brings the entries of its folders one by one. A cursor is struck out when it is
used. -/
def onceStore (entriesOf : String → List Entry) : Store Ledger where
  name := "once"
  answer request ledger := match request with
    | .list path =>
      let (page, next) := ledger.deal (entriesOf path)
      (.ok page, next)
    | .listNext cursor =>
      let (page, next) := (ledger.strike cursor).deal (ledger.left cursor)
      (.ok page, next)
    | .metadata path => (.error (.notFound path), ledger)
    | .download path => (.error (.notFound path), ledger)

namespace Ledger

variable {ledger : Ledger} {cursor : String} {entries : List Entry}

/-- The first of the pages comes, and the cursor leads to the others. -/
theorem exists_deal (ledger : Ledger) (entries : List Entry) : ∃ first rest cursor next,
    singles entries = first :: rest ∧
      ledger.deal entries = (⟨first, cursor, !rest.isEmpty⟩, next) ∧
      (rest ≠ [] → ∃ others, next.Leaves cursor others ∧ rest = singles others) := by
  cases entries with
  | nil => exact ⟨[], [], "", ledger, rfl, rfl, fun more => absurd rfl more⟩
  | cons entry others =>
      cases others with
      | nil => exact ⟨[entry], [], "", ledger, rfl, rfl, fun more => absurd rfl more⟩
      | cons second later =>
          refine ⟨[entry], singles (second :: later), _, _, rfl, rfl, fun _ => ?_⟩
          exact ⟨second :: later, ⟨Nat.le_refl _, Function.update_self _ _ _⟩, rfl⟩

theorem Leaves.strike (leaves : ledger.Leaves cursor entries) {used : String}
    (other : used ≠ cursor) : (ledger.strike used).Leaves cursor entries where
  given := leaves.given
  same := (Function.update_of_ne other.symm _ _).trans leaves.same

/-- A new cursor is longer than all that were given. -/
theorem Leaves.ne_new (leaves : ledger.Leaves cursor entries) : cursor ≠ ledger.last ++ "+" := by
  rintro rfl
  have given := leaves.given
  have plus : "+".length = 1 := by decide
  rw [String.length_append] at given
  omega

/-- What is left under a cursor stays there when other entries are dealt. -/
theorem Leaves.deal (leaves : ledger.Leaves cursor entries) (others : List Entry) :
    (ledger.deal others).2.Leaves cursor entries := by
  cases others with
  | nil => exact leaves
  | cons entry rest =>
      cases rest with
      | nil => exact leaves
      | cons second later =>
          have longer : ledger.last.length ≤ (ledger.last ++ "+").length := by
            rw [String.length_append]
            omega
          exact ⟨Nat.le_trans leaves.given longer,
            (Function.update_of_ne leaves.ne_new _ _).trans leaves.same⟩

/-- No cursor that is given anew is one under which entries are left. -/
theorem Leaves.fresh (leaves : ledger.Leaves cursor entries) {others : List Entry}
    (more : (ledger.deal others).1.hasMore = true) : (ledger.deal others).1.cursor ≠ cursor := by
  cases others with
  | nil => simp [Ledger.deal] at more
  | cons entry rest =>
      cases rest with
      | nil => simp [Ledger.deal] at more
      | cons => exact leaves.ne_new.symm

end Ledger

/-- The store pages its listings. A cursor uses up itself. -/
def oncePaging (entriesOf : String → List Entry) : Paging (onceStore entriesOf) where
  holds ledger listing pages := match listing with
    | .first path => pages = singles (entriesOf path)
    | .after cursor => ∃ entries, ledger.Leaves cursor entries ∧ pages = singles entries
  spends used cursor := used = cursor
  page := by
    intro ledger listing pages held
    cases listing with
    | first path =>
        obtain rfl := held
        obtain ⟨first, rest, cursor, next, isRow, dealt, continued⟩ :=
          ledger.exists_deal (entriesOf path)
        refine ⟨first, rest, cursor, next, isRow, ?_, continued⟩
        change (Except.ok (ledger.deal (entriesOf path)).1, (ledger.deal (entriesOf path)).2) = _
        rw [dealt]
    | after used =>
        obtain ⟨entries, leaves, rfl⟩ := held
        obtain ⟨first, rest, cursor, next, isRow, dealt, continued⟩ :=
          (ledger.strike used).exists_deal entries
        refine ⟨first, rest, cursor, next, isRow, ?_, continued⟩
        change (Except.ok ((ledger.strike used).deal (ledger.left used)).1,
          ((ledger.strike used).deal (ledger.left used)).2) = _
        rw [leaves.same, dealt]
  keeps := by
    intro ledger listing pages held request spares
    refine ⟨pages, rfl, ?_⟩
    cases listing with
    | first path => exact held
    | after cursor =>
        obtain ⟨entries, leaves, rfl⟩ := held
        refine ⟨entries, ?_, rfl⟩
        cases request with
        | metadata path => exact leaves
        | list path => exact leaves.deal _
        | listNext used => exact (leaves.strike (spares used cursor rfl rfl)).deal _
        | download path => exact leaves
  fresh := by
    rintro ledger cursor _ ⟨entries, leaves, rfl⟩ other spares page answered more
    cases other with
    | first path =>
        obtain rfl := Except.ok.inj answered
        exact leaves.fresh more
    | after used =>
        obtain rfl := Except.ok.inj answered
        exact (leaves.strike (spares used cursor rfl rfl)).fresh more

end ContentMount.Remote
