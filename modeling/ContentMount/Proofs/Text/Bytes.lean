/-
This file lists the bytes of payloads and of texts.
-/

import Mathlib.Data.List.Basic

namespace ContentMount.Text

theorem toList_loop (payload : ByteArray) (place : Nat) (read : List UInt8) :
    ByteArray.toList.loop payload place read =
      read.reverse ++ payload.data.toList.drop place := by
  fun_induction ByteArray.toList.loop payload place read with
  | case1 place read inside ih =>
      have here : place < payload.data.toList.length := inside
      rw [ih, List.drop_eq_getElem_cons here, List.reverse_cons, List.append_assoc]
      simp [ByteArray.get!, inside]
  | case2 place read outside =>
      have past : payload.data.toList.length ≤ place := Nat.le_of_not_lt outside
      rw [List.drop_eq_nil_of_le past, List.append_nil]

theorem toList_bytes (payload : ByteArray) : payload.toList = payload.data.toList := by
  rw [ByteArray.toList, toList_loop]
  rfl

/-- The bytes of a text are those of its characters. -/
theorem toList_toUTF8 (text : String) :
    text.toUTF8.toList = text.toList.flatMap String.utf8EncodeChar := by
  obtain ⟨chars, rfl⟩ := text.exists_eq_ofList
  rw [toList_bytes, String.toUTF8_eq_toByteArray, String.toByteArray_ofList, List.utf8Encode,
    List.data_toByteArray, String.toList_ofList]

theorem utf8EncodeChar_of_lt {c : Char} (ascii : c.toNat < 0x80) :
    String.utf8EncodeChar c = [UInt8.ofNat c.toNat] := by
  have small : c.val.toNat ≤ 127 := Nat.le_of_lt_succ ascii
  simp only [String.utf8EncodeChar, small, if_true]
  rfl

/-- The bytes of a character beyond ASCII are beyond ASCII. -/
theorem le_of_mem_utf8EncodeChar {c : Char} (beyond : 0x80 ≤ c.toNat) {byte : UInt8}
    (member : byte ∈ String.utf8EncodeChar c) : 0x80 ≤ byte.toNat := by
  have large : ¬c.val.toNat ≤ 127 := Nat.not_le.mpr beyond
  have lead (n bound mark : Nat) (fits : bound + mark ≤ 256) (positive : 0 < bound)
      (marked : 128 ≤ mark) : 0x80 ≤ (UInt8.ofNat (n % bound + mark)).toNat := by
    have below := Nat.mod_lt n positive
    rw [UInt8.toNat_ofNat', Nat.mod_eq_of_lt (by omega)]
    omega
  simp only [String.utf8EncodeChar, large, if_false] at member
  split at member
  · simp only [List.mem_cons, List.not_mem_nil, or_false] at member
    rcases member with rfl | rfl <;> exact lead _ _ _ (by decide) (by decide) (by decide)
  · split at member
    · simp only [List.mem_cons, List.not_mem_nil, or_false] at member
      rcases member with rfl | rfl | rfl <;> exact lead _ _ _ (by decide) (by decide) (by decide)
    · simp only [List.mem_cons, List.not_mem_nil, or_false] at member
      rcases member with rfl | rfl | rfl | rfl <;>
        exact lead _ _ _ (by decide) (by decide) (by decide)

end ContentMount.Text
