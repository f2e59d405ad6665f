/-
This file shows that a string in a document is read back as it was written.
-/

import ContentMount.Json.Reader
import Mathlib.Tactic.SplitIfs

namespace ContentMount.Json

/-- A number below the one of the space is read back from its two digits. -/
theorem unitOf?_control : ∀ code < 0x20,
    unitOf? '0' '0' (hexDigit (code / 16)) (hexDigit (code % 16)) = some code := by
  decide

theorem eq_of_toNat_eq {c : Char} {code : Nat} (same : (c.toNat == code) = true) :
    c = Char.ofNat code := by
  rw [← beq_iff_eq.mp same, Char.ofNat_toNat]

/-- Each character is read back from its escape. -/
theorem readPieces_escape (c : Char) (rest : List Char) :
    readPieces (escape c ++ rest) = withPiece (.char c) (readPieces rest) := by
  unfold escape
  split_ifs with quote backslash line back tab eight twelve control
  · obtain rfl := beq_iff_eq.mp quote
    rfl
  · obtain rfl := beq_iff_eq.mp backslash
    rfl
  · obtain rfl := beq_iff_eq.mp line
    rfl
  · obtain rfl := beq_iff_eq.mp back
    rfl
  · obtain rfl := beq_iff_eq.mp tab
    rfl
  · rw [eq_of_toNat_eq eight]
    rfl
  · rw [eq_of_toNat_eq twelve]
    rfl
  · have small : ¬(0xD800 ≤ c.toNat ∧ c.toNat < 0xE000) := by omega
    simp only [List.cons_append, List.nil_append, readPieces, unitOf?_control c.toNat control,
      Piece.ofUnit]
    simp [small]
  · rw [List.singleton_append, readPieces]
    · have other : ¬(c.toNat < 0x20 || c == '\\') = true := by
        rw [Bool.or_eq_true, decide_eq_true_iff]
        exact not_or.mpr ⟨control, backslash⟩
      rw [if_neg other]
    · simpa using quote
    · exact fun _ _ _ _ _ same => absurd (beq_iff_eq.mpr same) backslash
    · exact fun _ _ same => absurd (beq_iff_eq.mpr same) backslash

/-- The pieces of a written string are its characters. -/
theorem readPieces_flatMap_escape (text rest : List Char) :
    readPieces (text.flatMap escape ++ '"' :: rest) = some (text.map Piece.char, rest) := by
  induction text with
  | nil => rfl
  | cons c others ih =>
      rw [List.flatMap_cons, List.append_assoc, readPieces_escape, ih]
      rfl

theorem textOf?_map_char (text : List Char) : textOf? (text.map Piece.char) = some text := by
  induction text with
  | nil => rfl
  | cons c others ih => simp [textOf?, ih]

/-- A string is read back up to its closing quote. -/
theorem readString_flatMap_escape (text rest : List Char) :
    readString (text.flatMap escape ++ '"' :: rest) = some (some text, rest) := by
  rw [readString, readPieces_flatMap_escape, Option.map_some]
  dsimp only
  rw [textOf?_map_char]

/-- A string that starts a text is read as a document. -/
theorem readValue_writeString (depth : Nat) (text : String) (rest : List Char) :
    readValue (depth + 1) (writeString text.toList ++ rest) = some (.string text, rest) := by
  have split : writeString text.toList ++ rest =
      '"' :: (text.toList.flatMap escape ++ '"' :: rest) := by
    simp [writeString]
  rw [split, readValue, readString_flatMap_escape, Option.map_some]
  dsimp only [ofString]
  rw [String.ofList_toList]

end ContentMount.Json
