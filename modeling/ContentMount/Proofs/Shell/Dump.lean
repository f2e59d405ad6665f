/-
This file says what is printed for a payload: a text with an end of line, or the first bytes in
rows of hexadecimal digits.
-/

import ContentMount.Proofs.Text.Bytes
import ContentMount.Shell.Print
import Mathlib.Algebra.Group.Nat.Defs

namespace ContentMount.Shell

/-! ## Hexadecimal digits -/

/-- The last hexadecimal digits of a number, in lower case and the greatest place first. -/
def hexDigits : Nat → Nat → List Char
  | 0, _ => []
  | width + 1, n => hexDigits width (n / 16) ++ [(n % 16).digitChar]

theorem hexDigits_zero (width : Nat) : hexDigits width 0 = List.replicate width '0' := by
  induction width with
  | zero => rfl
  | succ width ih =>
      rw [hexDigits, Nat.zero_div, ih, List.replicate_succ']
      rfl

/-- A number that fits into a width is written with all its digits. -/
theorem paddedHex_eq_hexDigits {width n : Nat} (positive : 0 < width) (fits : n < 16 ^ width) :
    paddedHex width n = hexDigits width n := by
  induction width generalizing n with
  | zero => exact absurd positive (Nat.lt_irrefl 0)
  | succ width ih =>
      rw [hexDigits]
      by_cases small : n < 16
      · rw [paddedHex, Nat.toDigits_of_lt_base small, Nat.div_eq_of_lt small, hexDigits_zero,
          Nat.mod_eq_of_lt small]
        rfl
      · have great : 16 ≤ n := Nat.le_of_not_lt small
        have rest : n / 16 < 16 ^ width := by
          rw [Nat.pow_succ] at fits
          omega
        have wide : 0 < width := by
          rcases Nat.eq_zero_or_pos width with rfl | wide
          · omega
          · exact wide
        rw [← ih wide rest, paddedHex, paddedHex, Nat.toDigits_of_base_le (by decide) great]
        simp only [List.length_append, List.length_singleton, Nat.add_sub_add_right,
          List.append_assoc]

/-! ## Rows -/

/-- Bytes are cut into rows of sixteen. Only the last row may be shorter, and it is not empty. -/
structure Rows (bytes : List UInt8) (rows : List (List UInt8)) : Prop where
  joined : rows.flatten = bytes
  full : ∀ row ∈ rows.dropLast, row.length = 16
  last : ∀ row ∈ rows.getLast?, 0 < row.length ∧ row.length ≤ 16

namespace Rows

theorem nil : Rows [] [] :=
  ⟨rfl, by simp, by simp⟩

theorem single {row : List UInt8} (present : 0 < row.length) (short : row.length ≤ 16) :
    Rows row [row] := by
  refine ⟨by simp, by simp, ?_⟩
  intro other member
  obtain rfl : row = other := by simpa using member
  exact ⟨present, short⟩

/-- A full row may stand before other rows. -/
theorem cons {row bytes : List UInt8} {rows : List (List UInt8)} (full : row.length = 16)
    (present : 0 < bytes.length) (cut : Rows bytes rows) : Rows (row ++ bytes) (row :: rows) := by
  cases rows with
  | nil =>
      rw [← cut.joined] at present
      simp at present
  | cons first others =>
      refine ⟨?_, ?_, ?_⟩
      · rw [List.flatten_cons, cut.joined]
      · intro other member
        rw [List.dropLast_cons_cons] at member
        rcases List.mem_cons.mp member with rfl | later
        · exact full
        · exact cut.full other later
      · intro other member
        rw [List.getLast?_cons_cons] at member
        exact cut.last other member

end Rows

/-- One byte as it is shown, and one row after the offset of its first byte. -/
def shownByte (byte : UInt8) : List Char :=
  hexDigits 2 byte.toNat ++ [' ']

def shownRow (index : Nat) (row : List UInt8) : List Char :=
  '\n' :: hexDigits 8 (16 * index) ++ [':', ' '] ++ row.flatMap shownByte

/-- Rows from an index on. -/
def shownRows : Nat → List (List UInt8) → List Char
  | _, [] => []
  | index, row :: rest => shownRow index row ++ shownRows (index + 1) rest

theorem paddedHex_byte (byte : UInt8) : paddedHex 2 byte.toNat = hexDigits 2 byte.toNat :=
  paddedHex_eq_hexDigits (by decide) (by simpa using byte.toNat_lt)

/-- A byte inside a row is shown without an offset. -/
theorem dumpByte_inside {offset : Nat} (inside : offset % 16 ≠ 0) (byte : UInt8) :
    dumpByte offset byte = shownByte byte := by
  simp [dumpByte, rowLength, inside, shownByte, paddedHex_byte]

/-- The first byte of a row is shown after the offset. -/
theorem dumpByte_first {index : Nat} (fits : 16 * index < 16 ^ 8) (byte : UInt8) :
    dumpByte (16 * index) byte =
      '\n' :: hexDigits 8 (16 * index) ++ [':', ' '] ++ shownByte byte := by
  simp [dumpByte, rowLength, shownByte, paddedHex_byte, paddedHex_eq_hexDigits _ fits]

theorem dumpFrom_append (offset : Nat) (bytes more : List UInt8) :
    dumpFrom offset (bytes ++ more) =
      dumpFrom offset bytes ++ dumpFrom (offset + bytes.length) more := by
  induction bytes generalizing offset with
  | nil => rfl
  | cons byte rest ih =>
      rw [List.cons_append, dumpFrom, ih, dumpFrom, List.append_assoc, List.length_cons,
        Nat.add_right_comm, Nat.add_assoc]

/-- The bytes after the first one of a row are shown one after the other. -/
theorem dumpFrom_inside {index place : Nat} (started : 0 < place) {bytes : List UInt8}
    (inside : place + bytes.length ≤ 16) :
    dumpFrom (16 * index + place) bytes = bytes.flatMap shownByte := by
  induction bytes generalizing place with
  | nil => rfl
  | cons byte rest ih =>
      rw [List.length_cons] at inside
      have notFirst : (16 * index + place) % 16 ≠ 0 := by omega
      rw [dumpFrom, dumpByte_inside notFirst, Nat.add_assoc, ih (by omega) (by omega),
        List.flatMap_cons]

theorem dumpFrom_row {index : Nat} (fits : 16 * index < 16 ^ 8) {row : List UInt8}
    (present : 0 < row.length) (short : row.length ≤ 16) :
    dumpFrom (16 * index) row = shownRow index row := by
  cases row with
  | nil => simp at present
  | cons byte rest =>
      rw [List.length_cons] at short
      rw [dumpFrom, dumpByte_first fits, dumpFrom_inside (by decide) (by omega), shownRow,
        List.flatMap_cons, List.append_assoc]

/-- Bytes from the start of a row on are shown in rows. -/
theorem exists_rows (index : Nat) (bytes : List UInt8)
    (fits : 16 * index + bytes.length ≤ 16 ^ 8) :
    ∃ rows, Rows bytes rows ∧ dumpFrom (16 * index) bytes = shownRows index rows := by
  -- A whole row is taken off at once, so the induction is on the number of bytes.
  induction counted : bytes.length using Nat.strongRecOn generalizing index bytes with
  | ind count ih =>
      subst counted
      by_cases short : bytes.length ≤ 16
      · rcases Nat.eq_zero_or_pos bytes.length with none | present
        · obtain rfl := List.length_eq_zero_iff.mp none
          exact ⟨[], .nil, rfl⟩
        · refine ⟨[bytes], .single present short, ?_⟩
          rw [dumpFrom_row (by omega) present short, shownRows, shownRows, List.append_nil]
      · have front : (bytes.take 16).length = 16 := by
          rw [List.length_take]
          omega
        have others : (bytes.drop 16).length = bytes.length - 16 := List.length_drop
        obtain ⟨rows, cut, shown⟩ :=
          ih (bytes.drop 16).length (by omega) (index + 1) (bytes.drop 16) (by omega) rfl
        have whole := cut.cons front (by omega)
        have split := dumpFrom_append (16 * index) (bytes.take 16) (bytes.drop 16)
        rw [List.take_append_drop] at whole split
        refine ⟨bytes.take 16 :: rows, whole, ?_⟩
        rw [split, front, ← Nat.mul_add_one, shown, shownRows,
          dumpFrom_row (by omega) (by omega) (by omega)]

/-! ## Texts -/

theorem fromUTF8?_eq_some_iff {payload : ByteArray} {text : String} :
    String.fromUTF8? payload = some text ↔ text.toUTF8 = payload := by
  constructor
  · intro read
    rw [String.fromUTF8?] at read
    split at read
    · obtain rfl := Option.some.inj read
      rfl
    · cases read
  · intro written
    subst written
    rw [String.toUTF8_eq_toByteArray, String.fromUTF8?, dif_pos text.isValidUTF8]
    rfl

/-- Only an end of line has a byte 10 at its end, since a longer character ends with a byte that
begins no character. -/
theorem getLast?_utf8EncodeChar (c : Char) :
    (String.utf8EncodeChar c).getLast? = some 10 ↔ c = '\n' := by
  constructor
  · intro last
    rw [List.getLast?_eq_getElem?] at last
    obtain ⟨inside, isLast⟩ := List.getElem?_eq_some_iff.mp last
    have begins :
        (String.utf8EncodeChar c)[(String.utf8EncodeChar c).length - 1].IsUTF8FirstByte := by
      rw [isLast]
      decide
    have single : c.utf8Size = 1 := by
      have first := UInt8.isUTF8FirstByte_getElem_utf8EncodeChar.mp begins
      have positive := c.utf8Size_pos
      rw [String.length_utf8EncodeChar] at first
      omega
    simp only [String.utf8EncodeChar_eq_singleton single, List.length_singleton, Nat.sub_self,
      List.getElem_cons_zero] at isLast
    have small : c.val.toNat ≤ 127 := UInt32.le_iff_toNat_le.mp (Char.utf8Size_eq_one_iff.mp single)
    have value := congrArg UInt8.toNat isLast
    rw [UInt32.toNat_toUInt8] at value
    apply Char.toNat_inj.mp
    change c.val.toNat = 10
    change c.val.toNat % 256 = 10 at value
    omega
  · rintro rfl
    decide

/-- A text ends with an end of line when its last byte is that of one. -/
theorem getLast?_toUTF8 (text : String) :
    text.toUTF8.data.toList.getLast? = some 10 ↔ text.toList.getLast? = some '\n' := by
  obtain ⟨chars, rfl⟩ := text.exists_eq_ofList
  rw [String.toUTF8_eq_toByteArray, String.toByteArray_ofList, String.toList_ofList]
  rcases List.eq_nil_or_concat chars with rfl | ⟨front, last, rfl⟩
  · simp
  · have present := List.getLast?_eq_some_getLast (String.utf8EncodeChar_ne_nil (c := last))
    rw [List.concat_eq_append, List.utf8Encode_append, ByteArray.toList_data_append,
      List.utf8Encode_singleton, List.data_toByteArray, List.getLast?_append, present,
      Option.some_or, ← present, getLast?_utf8EncodeChar, List.getLast?_concat, Option.some_inj]

/-! ## Payloads -/

/-- What is printed for a payload. A text is printed as it is, and it gets an end of line unless it
has one. Any other payload is shown in rows, as far as its first bytes, and the number of the other
bytes is reported. -/
inductive Prints (payload : ByteArray) : Output → Prop where
  | text {out : String} (valid : ∃ text : String, text.toUTF8 = payload)
      (same : out.toUTF8 = payload ++
        if payload.data.toList.getLast? = some 10 then .empty else ⟨#[10]⟩) :
      Prints payload ⟨out, ""⟩
  | bytes {rows : List (List UInt8)} (invalid : ∀ text : String, text.toUTF8 ≠ payload)
      (cut : Rows (payload.data.toList.take 1024) rows) :
      Prints payload ⟨String.ofList (shownRows 0 rows ++ ['\n']),
        "Warning: File contains binary data\n" ++
          if 1024 < payload.size then "... (" ++ toString (payload.size - 1024) ++ " more bytes)\n"
          else ""⟩

theorem prints_printPayload (payload : ByteArray) : Prints payload (printPayload payload) := by
  rw [printPayload]
  cases read : String.fromUTF8? payload with
  | some text =>
      have written := fromUTF8?_eq_some_iff.mp read
      refine .text ⟨text, written⟩ ?_
      subst written
      by_cases ended : text.toList.getLast? = some '\n'
      · rw [if_pos (by simpa using ended), if_pos ((getLast?_toUTF8 text).mpr ended)]
        simp
      · rw [if_neg (by simpa using ended), if_neg (ended ∘ (getLast?_toUTF8 text).mp)]
        simp only [String.toUTF8_eq_toByteArray, String.toByteArray_append]
        rfl
  | none =>
      have invalid : ∀ text : String, text.toUTF8 ≠ payload := by
        intro text written
        rw [fromUTF8?_eq_some_iff.mpr written] at read
        cases read
      have size : payload.data.toList.length = payload.size := rfl
      obtain ⟨rows, cut, shown⟩ := exists_rows 0 (payload.data.toList.take 1024) (by
        rw [List.length_take]
        omega)
      have out : (printBytes payload).out = String.ofList (shownRows 0 rows ++ ['\n']) := by
        rw [printBytes, Text.toList_bytes, shownLength, ← shown]
      have err : (printBytes payload).err = "Warning: File contains binary data\n" ++
          if 1024 < payload.size then "... (" ++ toString (payload.size - 1024) ++ " more bytes)\n"
          else "" := by
        simp only [printBytes, Text.toList_bytes, shownLength, size, beq_iff_eq, Nat.sub_eq_zero_iff_le]
        split
        · rw [if_neg (by omega)]
        · rw [if_pos (by omega)]
      have printed := Prints.bytes invalid cut
      rwa [← out, ← err] at printed

end ContentMount.Shell
