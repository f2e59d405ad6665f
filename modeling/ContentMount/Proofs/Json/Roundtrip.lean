/-
This file shows that a document is read back as it was written, except for documents with numbers
and torn ones.
-/

import ContentMount.Proofs.Json.Strings

namespace ContentMount.Json

/-- A settled document has no number and no torn part, at whatever depth. -/
inductive Settled : Json → Prop where
  | null : Settled .null
  | bool (value : Bool) : Settled (.bool value)
  | string (text : String) : Settled (.string text)
  | array {items : List Json} (each : ∀ item ∈ items, Settled item) : Settled (.array items)
  | object {fields : List (String × Json)} (each : ∀ field ∈ fields, Settled field.2) :
      Settled (.object fields)

theorem skipGap_cons {c : Char} (kept : isGap c = false) (rest : List Char) :
    skipGap (c :: rest) = c :: rest := by
  simp [skipGap, kept]

/-- No document starts with a blank or a closing bracket. -/
theorem Settled.starts {json : Json} (settled : json.Settled) :
    ∃ c rest, json.write = c :: rest ∧ isGap c = false ∧ c ≠ ']' := by
  cases settled with
  | null => exact ⟨'n', ['u', 'l', 'l'], by simp [write], rfl, by decide⟩
  | bool value =>
      cases value with
      | true => exact ⟨'t', ['r', 'u', 'e'], by simp [write], rfl, by decide⟩
      | false => exact ⟨'f', ['a', 'l', 's', 'e'], by simp [write], rfl, by decide⟩
  | string text =>
      exact ⟨'"', text.toList.flatMap escape ++ ['"'], by simp [write, writeString], rfl,
        by decide⟩
  | @array items each => exact ⟨'[', writeItems items, by simp [write], rfl, by decide⟩
  | @object fields each =>
      exact ⟨'\x7b', writeFields fields, by simp [write], rfl, by decide⟩

theorem Settled.skipGap_write {json : Json} (settled : json.Settled) (rest : List Char) :
    skipGap (json.write ++ rest) = json.write ++ rest := by
  obtain ⟨c, others, start, kept, -⟩ := settled.starts
  rw [start, List.cons_append, skipGap_cons kept]

/-- Every document has a character, so depth enough for all characters is not zero. -/
theorem Settled.exists_depth {json : Json} (settled : json.Settled) {depth : Nat}
    (enough : json.write.length ≤ depth) : ∃ less, depth = less + 1 := by
  obtain ⟨c, rest, start, -⟩ := settled.starts
  rw [start, List.length_cons] at enough
  exact Nat.exists_eq_add_one.mpr (Nat.lt_of_lt_of_le (Nat.succ_pos _) enough)

/-- A document is read back wherever it stands, with at least as much depth as it has
characters. -/
def ReadsBack (json : Json) : Prop :=
  ∀ depth rest, json.write.length ≤ depth →
    readValue depth (json.write ++ rest) = some (json, rest)

theorem writeItems_more (item : Json) {items : List Json} (others : items ≠ []) :
    writeItems (item :: items) = item.write ++ ',' :: writeItems items := by
  cases items with
  | nil => exact absurd rfl others
  | cons => rw [writeItems]; simp

theorem writeFields_more (name : String) (value : Json) {fields : List (String × Json)}
    (others : fields ≠ []) :
    writeFields ((name, value) :: fields) =
      writeString name.toList ++ ':' :: value.write ++ ',' :: writeFields fields := by
  cases fields with
  | nil => exact absurd rfl others
  | cons => rw [writeFields]; simp

/-- The items of an array are read one after the other, up to the closing bracket. -/
theorem readItems_writeItems {items : List Json} (present : items ≠ [])
    (settled : ∀ item ∈ items, Settled item) (each : ∀ item ∈ items, item.ReadsBack)
    {depth : Nat} (enough : (writeItems items).length ≤ depth) (rest : List Char) :
    readItems depth (writeItems items ++ rest) = some (items, rest) := by
  induction items generalizing depth with
  | nil => exact absurd rfl present
  | cons item others ih =>
      have itemSettled := settled item List.mem_cons_self
      have readsBack := each item List.mem_cons_self
      have deep : item.write.length ≤ depth := by
        cases others <;> simp [writeItems] at enough <;> omega
      obtain ⟨depth, rfl⟩ := itemSettled.exists_depth deep
      by_cases last : others = []
      · subst last
        rw [writeItems, List.length_append, List.length_singleton] at enough
        rw [writeItems, List.append_assoc, readItems, itemSettled.skipGap_write,
          readsBack depth _ (by omega)]
        rfl
      · rw [writeItems_more item last] at enough ⊢
        rw [List.length_append, List.length_cons] at enough
        rw [List.append_assoc, readItems, itemSettled.skipGap_write,
          readsBack depth _ (by omega)]
        simp only [List.cons_append, skipGap_cons (show isGap ',' = false from rfl)]
        rw [ih last (fun other later => settled other (List.mem_cons_of_mem _ later))
          (fun other later => each other (List.mem_cons_of_mem _ later)) (by omega)]
        rfl

section

variable {depth : Nat} {value : Json} (settled : value.Settled) (name : String) (rest : List Char)
include settled

/-- The fields after a field are read next. -/
theorem readFields_more
    (readBack : readValue depth (value.write ++ ',' :: rest) = some (value, ',' :: rest)) :
    readFields (depth + 1) (writeString name.toList ++ ':' :: value.write ++ ',' :: rest) =
      (readFields depth rest).map fun (fields, rest) =>
        (withField (some name.toList) value fields, rest) := by
  have split : writeString name.toList ++ ':' :: value.write ++ ',' :: rest =
      '"' :: (name.toList.flatMap escape ++ '"' :: ':' :: (value.write ++ ',' :: rest)) := by
    simp [writeString]
  rw [split, readFields, skipGap_cons rfl]
  simp only [readString_flatMap_escape, skipGap_cons (show isGap ':' = false from rfl),
    settled.skipGap_write, readBack, skipGap_cons (show isGap ',' = false from rfl)]

/-- The last field ends an object. -/
theorem readFields_last
    (readBack : readValue depth (value.write ++ '\x7d' :: rest) = some (value, '\x7d' :: rest)) :
    readFields (depth + 1) (writeString name.toList ++ ':' :: value.write ++ '\x7d' :: rest) =
      some (withField (some name.toList) value (some []), rest) := by
  have split : writeString name.toList ++ ':' :: value.write ++ '\x7d' :: rest =
      '"' :: (name.toList.flatMap escape ++ '"' :: ':' :: (value.write ++ '\x7d' :: rest)) := by
    simp [writeString]
  rw [split, readFields, skipGap_cons rfl]
  simp only [readString_flatMap_escape, skipGap_cons (show isGap ':' = false from rfl),
    settled.skipGap_write, readBack, skipGap_cons (show isGap '\x7d' = false from rfl)]

end

/-- The fields of an object are read one after the other, up to the closing brace. -/
theorem readFields_writeFields {fields : List (String × Json)} (present : fields ≠ [])
    (settled : ∀ field ∈ fields, Settled field.2) (each : ∀ field ∈ fields, field.2.ReadsBack)
    {depth : Nat} (enough : (writeFields fields).length ≤ depth) (rest : List Char) :
    readFields depth (writeFields fields ++ rest) = some (some fields, rest) := by
  induction fields generalizing depth with
  | nil => exact absurd rfl present
  | cons field others ih =>
      rcases field with ⟨name, value⟩
      have valueSettled : value.Settled := settled (name, value) List.mem_cons_self
      have readsBack : value.ReadsBack := each (name, value) List.mem_cons_self
      obtain ⟨depth, rfl⟩ : ∃ less, depth = less + 1 := by
        refine Nat.exists_eq_add_one.mpr (Nat.lt_of_lt_of_le ?_ enough)
        cases others <;> simp [writeFields, writeString]
      by_cases last : others = []
      · subst last
        rw [writeFields] at enough ⊢
        simp only [List.length_append, List.length_cons, List.length_nil] at enough
        rw [List.append_assoc, List.singleton_append,
          readFields_last valueSettled name rest (readsBack depth _ (by omega))]
        simp [withField]
      · rw [writeFields_more name value last] at enough ⊢
        simp only [List.length_append, List.length_cons] at enough
        rw [List.append_assoc, List.cons_append,
          readFields_more valueSettled name _ (readsBack depth _ (by omega)),
          ih last (fun other later => settled other (List.mem_cons_of_mem _ later))
            (fun other later => each other (List.mem_cons_of_mem _ later)) (by omega)]
        simp [withField]

/-- An array is read back when its items are. -/
theorem readsBack_array {items : List Json} (settled : ∀ item ∈ items, Settled item)
    (each : ∀ item ∈ items, item.ReadsBack) : (Json.array items).ReadsBack := by
  intro depth rest enough
  obtain ⟨depth, rfl⟩ := (Settled.array settled).exists_depth enough
  rw [write, List.length_cons] at enough
  rw [write, List.cons_append, readValue]
  by_cases empty : items = []
  · subst empty
    rfl
  · have found := readItems_writeItems empty settled each (Nat.le_of_succ_le_succ enough) rest
    obtain ⟨first, others, rfl⟩ := List.exists_cons_of_ne_nil empty
    obtain ⟨c, more, start, kept, notEnd⟩ := (settled first List.mem_cons_self).starts
    have startsItems : ∃ more, writeItems (first :: others) ++ rest = c :: more := by
      cases others <;> simp [writeItems, start]
    obtain ⟨more, startsWith⟩ := startsItems
    rw [startsWith] at found ⊢
    rw [skipGap_cons kept]
    split
    · next same => exact absurd (List.cons.inj same).1 notEnd
    · rw [found, Option.map_some]

/-- An object is read back when the values of its fields are. -/
theorem readsBack_object {fields : List (String × Json)}
    (settled : ∀ field ∈ fields, Settled field.2) (each : ∀ field ∈ fields, field.2.ReadsBack) :
    (Json.object fields).ReadsBack := by
  intro depth rest enough
  obtain ⟨depth, rfl⟩ := (Settled.object settled).exists_depth enough
  rw [write, List.length_cons] at enough
  rw [write, List.cons_append, readValue]
  by_cases empty : fields = []
  · subst empty
    rfl
  · have found := readFields_writeFields empty settled each (Nat.le_of_succ_le_succ enough) rest
    obtain ⟨⟨name, value⟩, others, rfl⟩ := List.exists_cons_of_ne_nil empty
    have startsFields : ∃ more, writeFields ((name, value) :: others) ++ rest = '"' :: more := by
      cases others <;> simp [writeFields, writeString]
    obtain ⟨more, startsWith⟩ := startsFields
    rw [startsWith] at found ⊢
    rw [skipGap_cons rfl]
    split
    · next same => exact absurd (List.cons.inj same).1 (by decide)
    · rw [found]
      rfl

/-- Every settled document is read back. -/
theorem Settled.readsBack {json : Json} (settled : json.Settled) : json.ReadsBack := by
  induction settled with
  | null =>
      intro depth rest enough
      obtain ⟨depth, rfl⟩ := Settled.null.exists_depth enough
      simp [write, readValue, readWord]
  | bool value =>
      intro depth rest enough
      obtain ⟨depth, rfl⟩ := (Settled.bool value).exists_depth enough
      cases value <;> simp [write, readValue, readWord]
  | string text =>
      intro depth rest enough
      obtain ⟨depth, rfl⟩ := (Settled.string text).exists_depth enough
      rw [write]
      exact readValue_writeString depth text rest
  | array settled each => exact readsBack_array settled each
  | object settled each => exact readsBack_object settled each

/-- A settled document is read back from its text. -/
theorem read_text {json : Json} (settled : json.Settled) : read json.text = some json := by
  have readBack := settled.readsBack (2 * json.write.length + 1) [] (by omega)
  rw [List.append_nil] at readBack
  have kept := settled.skipGap_write []
  rw [List.append_nil] at kept
  rw [read, text, String.toList_ofList]
  simp only [kept, readBack]
  rfl

end ContentMount.Json
