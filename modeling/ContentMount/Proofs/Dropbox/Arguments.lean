/-
This file shows that each request to a store over the files service is one request to the service,
whose argument says what was asked. A file whose path has the character DEL is the exception: its
argument cannot stand in a header.
-/

import ContentMount.Proofs.Json.Roundtrip
import ContentMount.Proofs.Remote.Transcript
import ContentMount.Proofs.Text.Bytes
import ContentMount.Remote.Connection

namespace ContentMount.Remote

/-! ## Values of headers -/

/-- The character after the last printable one of ASCII. -/
def del : Char := Char.ofNat 0x7F

theorem isHeaderByte_iff {byte : UInt8} :
    isHeaderByte byte = true ↔ byte.toNat = 9 ∨ 0x20 ≤ byte.toNat ∧ byte.toNat ≠ 0x7F := by
  simp [isHeaderByte, ← UInt8.toNat_inj, UInt8.le_iff_toNat_le]

/-- A character that may stand in a header is a tab, or not below the space and not DEL. -/
def IsHeaderCharacter (c : Char) : Prop := c = '\t' ∨ 0x20 ≤ c.toNat ∧ c ≠ del

instance (c : Char) : Decidable (IsHeaderCharacter c) :=
  inferInstanceAs (Decidable (_ ∨ _))

theorem all_isHeaderByte_iff {c : Char} :
    (String.utf8EncodeChar c).all isHeaderByte = true ↔ IsHeaderCharacter c := by
  have isTab : c = '\t' ↔ c.toNat = 9 := Char.toNat_inj.symm
  have isDel : c = del ↔ c.toNat = 0x7F := Char.toNat_inj.symm
  rw [IsHeaderCharacter, isTab, Ne, isDel]
  by_cases ascii : c.toNat < 0x80
  · have value : (UInt8.ofNat c.toNat).toNat = c.toNat := by
      rw [UInt8.toNat_ofNat', Nat.mod_eq_of_lt (by omega)]
    rw [Text.utf8EncodeChar_of_lt ascii, List.all_cons, List.all_nil, Bool.and_true,
      isHeaderByte_iff, value]
  · have beyond : 0x80 ≤ c.toNat := Nat.le_of_not_lt ascii
    have allowed : (String.utf8EncodeChar c).all isHeaderByte = true := by
      rw [List.all_eq_true]
      intro byte member
      have high := Text.le_of_mem_utf8EncodeChar beyond member
      exact isHeaderByte_iff.mpr (.inr ⟨by omega, by omega⟩)
    exact iff_of_true allowed (.inr ⟨by omega, by omega⟩)

theorem isHeaderValue_iff {value : String} :
    isHeaderValue value = true ↔ ∀ c ∈ value.toList, IsHeaderCharacter c := by
  rw [isHeaderValue, Text.toList_toUTF8, List.all_flatMap, List.all_eq_true]
  exact forall₂_congr fun c _ => all_isHeaderByte_iff

/-- Everything in ASCII that a header may not hold is escaped in a string, DEL excepted. -/
theorem isHeaderCharacter_escape_ascii : ∀ code < 0x80,
    (Json.escape (Char.ofNat code)).all (fun e => decide (IsHeaderCharacter e)) = true ↔
      Char.ofNat code ≠ del := by
  decide

theorem escape_of_le {c : Char} (beyond : 0x80 ≤ c.toNat) : Json.escape c = [c] := by
  have different (d : Char) (ascii : d.toNat < 0x80) : (c == d) = false := by
    rw [beq_eq_false_iff_ne]
    rintro rfl
    omega
  have kept (code : Nat) (ascii : code < 0x80) : (c.toNat == code) = false := by
    rw [beq_eq_false_iff_ne]
    omega
  have noControl : ¬c.toNat < 0x20 := by omega
  simp only [Json.escape, different '"' (by decide), different '\\' (by decide),
    different '\n' (by decide), different '\r' (by decide), different '\t' (by decide),
    kept 8 (by decide), kept 12 (by decide), noControl, Bool.false_eq_true, if_false]

theorem isHeaderCharacter_escape_iff (c : Char) :
    (∀ e ∈ Json.escape c, IsHeaderCharacter e) ↔ c ≠ del := by
  by_cases ascii : c.toNat < 0x80
  · have decided := isHeaderCharacter_escape_ascii c.toNat ascii
    simpa only [Char.ofNat_toNat, List.all_eq_true, decide_eq_true_eq] using decided
  · have beyond : 0x80 ≤ c.toNat := Nat.le_of_not_lt ascii
    have space : 0x20 ≤ c.toNat := Nat.le_trans (by decide) beyond
    have noTab : c ≠ '\t' := by
      rintro rfl
      exact absurd beyond (by decide)
    simp [escape_of_le beyond, IsHeaderCharacter, noTab, space]

/-! ## Arguments -/

namespace Dropbox

/-- The argument that names a path may stand in a header unless the path has the character DEL. -/
theorem isHeaderValue_pathArgument_iff {path : String} :
    isHeaderValue (pathArgument path).text = true ↔ del ∉ path.toList := by
  have written : (pathArgument path).text.toList =
      '\x7b' :: (Json.writeString "path".toList ++ ':' :: '"' :: (path.toList.flatMap Json.escape ++
        ['"', '\x7d'])) := by
    simp [pathArgument, Json.text, Json.write, Json.writeFields, Json.writeString]
  have around : (Json.writeString "path".toList).all (fun c => decide (IsHeaderCharacter c)) =
      true := by decide
  have pathLegal : (∀ e ∈ path.toList.flatMap Json.escape, IsHeaderCharacter e) ↔
      del ∉ path.toList := by
    simp only [List.forall_mem_flatMap, isHeaderCharacter_escape_iff]
    exact ⟨fun all member => all del member rfl, fun none c member same => none (same ▸ member)⟩
  rw [isHeaderValue_iff, written, ← pathLegal]
  constructor
  · intro legal e member
    exact legal e (by simp [member])
  · intro legal c member
    rcases List.mem_cons.mp member with rfl | member
    · decide
    rcases List.mem_append.mp member with named | member
    · exact of_decide_eq_true (List.all_eq_true.mp around c named)
    rcases List.mem_cons.mp member with rfl | member
    · decide
    rcases List.mem_cons.mp member with rfl | member
    · decide
    rcases List.mem_append.mp member with inside | ending
    · exact legal c inside
    · rcases List.mem_pair.mp ending with rfl | rfl <;> decide

theorem settled_pathArgument (path : String) : (pathArgument path).Settled :=
  .object (by simpa using .string _)

theorem settled_folderArgument (path : String) : (folderArgument path).Settled :=
  .object (by simpa using ⟨.string _, .bool _⟩)

theorem settled_cursorArgument (cursor : String) : (cursorArgument cursor).Settled :=
  .object (by simpa using .string _)

/-- The path by which the service knows a path. Only the root has another one. -/
theorem apiPath_eq (path : String) : apiPath path = if path = "/" then "" else path := by
  simp [apiPath]

/-- A program makes this one request and no other, whatever comes back for it. -/
def Sends {α : Type} (program : Web α) (request : WebRequest) : Prop :=
  ∀ (σ : Type) (respond : WebRequest → StateM σ Exchange) (state : σ),
    program.questions respond state = [request]

theorem sends_post {α : Type} (client : Client) (endpoint : String) (argument : Json)
    (read? : Json → Option α) :
    Sends (client.post endpoint argument read?) (client.call endpoint argument) :=
  fun _ _ _ => rfl

/-- What is done with an answer sends nothing more. -/
theorem Sends.bind_done {α β : Type} {program : Web α} {request : WebRequest}
    (sends : Sends program request) {f : α → Web β}
    (done : ∀ answer, ∃ result, f answer = .done result) : Sends (program.bind f) request := by
  intro σ respond state
  have asked := sends σ respond state
  obtain ⟨result, isDone⟩ := done (program.run respond state).1
  rw [← Dialogue.map_fst_transcript] at asked ⊢
  rw [Dialogue.transcript_bind, isDone, List.map_append, asked]
  rfl

theorem sends_lookUp (client : Client) (path : String) :
    Sends (client.lookUp path) (client.call "files/get_metadata" (pathArgument (apiPath path))) := by
  apply (sends_post client "files/get_metadata" _ readEntry?).bind_done
  intro answer
  rcases answer with error | entry
  · cases error <;> exact ⟨_, rfl⟩
  · exact ⟨_, rfl⟩

/-- A file whose path has the character DEL is not asked for, because its argument cannot stand in
a header. -/
theorem fetch_of_mem {path : String} (member : del ∈ path.toList) (client : Client) :
    client.fetch path = .done (.error (.exchange "the path cannot be sent in a header")) := by
  have illegal : ¬isHeaderValue (pathArgument path).text = true :=
    fun legal => isHeaderValue_pathArgument_iff.mp legal member
  rw [Client.fetch]
  exact if_neg illegal

theorem fetch_of_not_mem {path : String} (legal : del ∉ path.toList) (client : Client) :
    client.fetch path = .ask (client.fileCall (pathArgument path)) fun exchange =>
      .done (bodyOf "files/download" exchange) := by
  rw [Client.fetch]
  exact if_pos (isHeaderValue_pathArgument_iff.mpr legal)

/-- A file is asked for in one request exactly when DEL is not in its path. -/
theorem exists_sends_fetch_iff (client : Client) (path : String) :
    (∃ request value, Sends (client.fetch path) request ∧
      request.url = client.contentUrl ++ "/files/download" ∧
      request.header? "Dropbox-API-Arg" = some value ∧ isHeaderValue value = true ∧
      Json.read value = some (.object [("path", .string path)])) ↔ del ∉ path.toList := by
  constructor
  · intro sent member
    obtain ⟨request, value, sends, -⟩ := sent
    have nothing := sends Unit (fun _ state => (.noAnswer "", state)) ()
    rw [fetch_of_mem member] at nothing
    exact absurd nothing (by simp [Dialogue.questions])
  · intro legal
    refine ⟨client.fileCall (pathArgument path), (pathArgument path).text, ?_, rfl, rfl,
      isHeaderValue_pathArgument_iff.mpr legal, Json.read_text (settled_pathArgument path)⟩
    rw [fetch_of_not_mem legal]
    exact fun _ _ _ => rfl

/-- Each request to the store is one request to the service, and its argument is read as the path
or the cursor that was asked for. A file is asked for exactly when DEL is not in its path. Otherwise
nothing is sent and the request fails. -/
theorem Client.sends_argument (client : Client) (path cursor : String) :
    (∃ request, Sends (client.answer (.metadata path)) request ∧
      request.url = client.apiUrl ++ "/" ++ "files/get_metadata" ∧
      Json.read request.body =
        some (.object [("path", .string (if path = "/" then "" else path))])) ∧
    (∃ request, Sends (client.answer (.list path)) request ∧
      request.url = client.apiUrl ++ "/" ++ "files/list_folder" ∧
      Json.read request.body =
        some (.object [("path", .string (if path = "/" then "" else path)),
          ("recursive", .bool false)])) ∧
    (∃ request, Sends (client.answer (.listNext cursor)) request ∧
      request.url = client.apiUrl ++ "/" ++ "files/list_folder/continue" ∧
      Json.read request.body = some (.object [("cursor", .string cursor)])) ∧
    ((∃ request value, Sends (client.answer (.download path)) request ∧
      request.url = client.contentUrl ++ "/files/download" ∧
      request.header? "Dropbox-API-Arg" = some value ∧ isHeaderValue value = true ∧
      Json.read value = some (.object [("path", .string path)])) ↔ del ∉ path.toList) ∧
    (del ∈ path.toList → ∃ detail,
      client.answer (.download path) = .done (.error (.exchange detail))) := by
  rw [← apiPath_eq]
  exact ⟨⟨_, sends_lookUp client path, rfl, Json.read_text (settled_pathArgument _)⟩,
    ⟨_, sends_post client "files/list_folder" _ readPage?, rfl,
      Json.read_text (settled_folderArgument _)⟩,
    ⟨_, sends_post client "files/list_folder/continue" _ readPage?, rfl,
      Json.read_text (settled_cursorArgument cursor)⟩,
    exists_sends_fetch_iff client path, fun member => ⟨_, fetch_of_mem member client⟩⟩

def sampleClient : Client := ⟨"Bearer sample", publicApiUrl, publicContentUrl⟩

/-- A folder with DEL in its name is listed, and a file of the same name is not fetched. -/
theorem sends_argument_del :
    (∃ request, Sends (sampleClient.answer (.list "/a\x7f")) request) ∧
      ∃ detail, sampleClient.answer (.download "/a\x7f") = .done (.error (.exchange detail)) := by
  obtain ⟨-, ⟨request, sends, -⟩, -, -, unsent⟩ := sampleClient.sends_argument "/a\x7f" ""
  exact ⟨⟨request, sends⟩, unsent (by decide)⟩

end Dropbox

end ContentMount.Remote
