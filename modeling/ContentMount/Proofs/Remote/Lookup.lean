/-
This file says which answers to a lookup report an absence and which report a file or a folder.
Every other answer is a failure.
-/

import ContentMount.Proofs.Build.Outcome
import ContentMount.Remote.Connection

namespace ContentMount

/-- A word is found where it stands in one piece. -/
theorem Text.occursIn_iff (word text : List Char) : occursIn word text = true ↔ word <:+: text := by
  induction text with
  | nil => simp [occursIn]
  | cons c rest ih =>
      rw [occursIn, Bool.or_eq_true, List.isPrefixOf_iff_prefix, ih, List.infix_cons_iff]

namespace Remote

namespace Dropbox

/-! ## Answers of the files service -/

/-- The text of a failure tells a summary: the one in its error object, or the text itself when it
is no error object. -/
inductive Summarizes (text : String) : String → Prop where
  | object {summary : String} (stated : (Json.read text).bind readSummary? = some summary) :
      Summarizes text summary
  | text (unread : (Json.read text).bind readSummary? = none) : Summarizes text text

/-- A body is a document that describes an entry with a tag. -/
def Describes (body : ByteArray) (tag : String) : Prop :=
  ∃ json name path location, Json.read (Text.readLossy body) = some json ∧
    json.record? [".tag", "name", "path_lower"] =
      some [some (.string tag), some (.string name), path] ∧
      Json.optionalText? path = some location

/-- The exchange of a lookup reports that nothing is there. -/
inductive Absent : Exchange → Prop where
  /-- The request was in conflict, and the summary names the absence. -/
  | refused {body : ByteArray} {summary : String}
      (summarizes : Summarizes (Text.readLossy body) summary)
      (named : "not_found".toList <:+: summary.toList) : Absent (.answer 409 (some body))
  /-- There is an entry that is neither a file nor a folder. -/
  | other {status : Nat} {body : ByteArray} {tag : String} (success : 200 ≤ status ∧ status < 300)
      (describes : Describes body tag) (notFile : tag ≠ "file") (notFolder : tag ≠ "folder") :
      Absent (.answer status (some body))

/-- The exchange of a lookup reports a file or a folder. -/
inductive Present : Exchange → EntryKind → Prop where
  | file {status : Nat} {body : ByteArray} (success : 200 ≤ status ∧ status < 300)
      (describes : Describes body "file") : Present (.answer status (some body)) .file
  | folder {status : Nat} {body : ByteArray} (success : 200 ≤ status ∧ status < 300)
      (describes : Describes body "folder") : Present (.answer status (some body)) .folder

theorem summarizes_iff (text summary : String) :
    Summarizes text summary ↔ summaryOf text = summary := by
  constructor
  · intro summarizes
    cases summarizes with
    | object stated => simp [summaryOf, stated]
    | text unread => simp [summaryOf, unread]
  · rintro rfl
    cases stated : (Json.read text).bind readSummary? with
    | none => simpa [summaryOf, stated] using Summarizes.text stated
    | some summary => simpa [summaryOf, stated] using Summarizes.object stated

theorem kindOf_eq (tag : String) : kindOf tag =
    if tag = "file" then .file else if tag = "folder" then .folder else .deleted := by
  by_cases isFile : tag = "file"
  · subst isFile
    decide
  · by_cases isFolder : tag = "folder"
    · subst isFolder
      decide
    · have notFileName : (EntryKind.name .file == tag) = false := by
        simpa [EntryKind.name] using fun same => isFile same.symm
      have notFolderName : (EntryKind.name .folder == tag) = false := by
        simpa [EntryKind.name] using fun same => isFolder same.symm
      rw [if_neg isFile, if_neg isFolder, kindOf, EntryKind.ofName?, EntryKind.all,
        List.find?_cons_of_neg (by simp [notFileName]),
        List.find?_cons_of_neg (by simp [notFolderName])]
      by_cases isDeleted : EntryKind.name .deleted == tag <;> simp [List.find?, isDeleted]

theorem textField?_eq_some_iff {field : Option Json} {text : String} :
    Json.textField? field = some text ↔ field = some (.string text) := by
  rcases field with _ | json
  · simp [Json.textField?]
  · cases json <;> simp [Json.textField?]

/-- An entry is read from a document exactly when it is described there. -/
theorem readEntry?_eq_some_iff {json : Json} {entry : Entry} :
    readEntry? json = some entry ↔ ∃ tag name path location,
      json.record? [".tag", "name", "path_lower"] =
        some [some (.string tag), some (.string name), path] ∧
      Json.optionalText? path = some location ∧
      entry = ⟨kindOf tag, name, location.getD (fallbackPath name)⟩ := by
  constructor
  · intro read
    simp only [Option.bind_eq_bind, Option.bind_eq_some_iff, readEntry?] at read
    obtain ⟨fields, record, rest⟩ := read
    split at rest
    · simp only [Option.bind_eq_some_iff, textField?_eq_some_iff, Option.pure_def,
        Option.some.injEq] at rest
      obtain ⟨tag, rfl, name, rfl, location, isText, rfl⟩ := rest
      exact ⟨tag, name, _, location, record, isText, rfl⟩
    · simp at rest
  · intro described
    obtain ⟨tag, name, path, location, record, isText, rfl⟩ := described
    simp [Json.textField?, record, isText, readEntry?]

/-- A body is decoded to an entry whose kind is that of the tag. -/
theorem exists_decode_iff {body : ByteArray} {kind : EntryKind} :
    (∃ entry, decode readEntry? body = .ok entry ∧ entry.kind = kind) ↔
      ∃ tag, Describes body tag ∧ kindOf tag = kind := by
  have decoded (entry : Entry) : decode readEntry? body = .ok entry ↔
      ∃ json, Json.read (Text.readLossy body) = some json ∧ readEntry? json = some entry := by
    rw [← Option.bind_eq_some_iff, decode]
    cases (Json.read (Text.readLossy body)).bind readEntry? <;> simp
  constructor
  · intro found
    obtain ⟨entry, isEntry, rfl⟩ := found
    obtain ⟨json, read, document⟩ := (decoded entry).mp isEntry
    obtain ⟨tag, name, path, location, record, isText, rfl⟩ := readEntry?_eq_some_iff.mp document
    exact ⟨tag, ⟨json, name, path, location, read, record, isText⟩, rfl⟩
  · intro described
    obtain ⟨tag, ⟨json, name, path, location, read, record, isText⟩, rfl⟩ := described
    refine ⟨⟨kindOf tag, name, location.getD (fallbackPath name)⟩, ?_, rfl⟩
    exact (decoded _).mpr ⟨json, read, readEntry?_eq_some_iff.mpr
      ⟨tag, name, path, location, record, isText, rfl⟩⟩

/-- A body is at hand exactly when the answer is a success and whole. -/
theorem bodyOf_eq_ok_iff {endpoint : String} {exchange : Exchange} {body : ByteArray} :
    bodyOf endpoint exchange = .ok body ↔
      ∃ status, (200 ≤ status ∧ status < 300) ∧ exchange = .answer status (some body) := by
  have isSuccess_iff (status : Nat) :
      isSuccess status = true ↔ 200 ≤ status ∧ status < 300 := by simp [isSuccess]
  constructor
  · intro atHand
    rcases exchange with detail | ⟨status, bytes⟩
    · simp [bodyOf] at atHand
    · by_cases success : isSuccess status = true
      · cases bytes with
        | none => simp [bodyOf, success] at atHand
        | some bytes =>
            obtain rfl : bytes = body := by simpa [bodyOf, success] using atHand
            exact ⟨status, (isSuccess_iff status).mp success, rfl⟩
      · simp [bodyOf, success] at atHand
  · intro whole
    obtain ⟨status, range, rfl⟩ := whole
    simp [bodyOf, (isSuccess_iff status).mpr range]

/-- A failure reports an absence exactly when it is a conflict whose summary names the absence. -/
theorem failureOf_eq_notFound_iff {endpoint : String} {status : Nat} {summary reported : String} :
    failureOf endpoint status summary = .notFound reported ↔
      status = 409 ∧ "not_found".toList <:+: summary.toList ∧ summary = reported := by
  rw [← Text.occursIn_iff, failureOf, reportsAbsence]
  generalize Text.occursIn "not_found".toList summary.toList = named
  by_cases conflict : status = 409 <;> cases named <;> simp [conflict]

/-- An absence is reported by a whole conflict whose summary names it. -/
theorem bodyOf_eq_notFound_iff {endpoint : String} {exchange : Exchange} {summary : String} :
    bodyOf endpoint exchange = .error (.notFound summary) ↔
      ∃ body, exchange = .answer 409 (some body) ∧
        Summarizes (Text.readLossy body) summary ∧
          "not_found".toList <:+: summary.toList := by
  constructor
  · intro reported
    rcases exchange with detail | ⟨status, bytes⟩
    · simp [bodyOf] at reported
    · by_cases success : isSuccess status = true
      · cases bytes <;> simp [bodyOf, success] at reported
      · simp only [bodyOf, success, Bool.false_eq_true, if_false, Except.error.injEq,
          failureOf_eq_notFound_iff] at reported
        obtain ⟨rfl, named, isSummary⟩ := reported
        cases bytes with
        | none =>
            -- Nothing is named by the empty text.
            have unnamed : ¬"not_found".toList <:+: (summaryOf "").toList := by decide
            exact absurd named unnamed
        | some body =>
            exact ⟨body, rfl, (summarizes_iff _ _).mpr isSummary, isSummary ▸ named⟩
  · intro named
    obtain ⟨body, rfl, summarizes, named⟩ := named
    have isSummary := (summarizes_iff _ _).mp summarizes
    have noSuccess : isSuccess 409 = false := by decide
    simp only [bodyOf, noSuccess, Bool.false_eq_true, if_false, Except.error.injEq,
      failureOf_eq_notFound_iff]
    exact ⟨trivial, isSummary.symm ▸ named, isSummary⟩

/-- The request of a lookup. -/
def Client.lookupCall (client : Client) (path : String) : WebRequest :=
  client.call "files/get_metadata" (pathArgument (apiPath path))

/-- What the exchange of a lookup brings. -/
def found (exchange : Exchange) : Except RemoteError Entry :=
  bodyOf "files/get_metadata" exchange >>= decode readEntry?

theorem found_eq_notFound_iff {exchange : Exchange} {summary : String} :
    found exchange = .error (.notFound summary) ↔
      ∃ body, exchange = .answer 409 (some body) ∧
        Summarizes (Text.readLossy body) summary ∧
          "not_found".toList <:+: summary.toList := by
  rw [← bodyOf_eq_notFound_iff, found]
  cases bodyOf "files/get_metadata" exchange with
  | error error => simp [bind, Except.bind]
  | ok body =>
      -- A body that cannot be decoded is an error of another kind.
      simp only [bind, Except.bind, decode]
      cases (Json.read (Text.readLossy body)).bind readEntry? <;> simp

theorem exists_found_iff {exchange : Exchange} {kind : EntryKind} :
    (∃ entry, found exchange = .ok entry ∧ entry.kind = kind) ↔
      ∃ status body tag, (200 ≤ status ∧ status < 300) ∧ exchange = .answer status (some body) ∧
        Describes body tag ∧ kindOf tag = kind := by
  constructor
  · intro brought
    obtain ⟨entry, isEntry, isKind⟩ := brought
    rw [found] at isEntry
    cases atHand : bodyOf "files/get_metadata" exchange with
    | error error => simp [atHand, bind, Except.bind] at isEntry
    | ok body =>
        rw [atHand] at isEntry
        obtain ⟨status, success, rfl⟩ := bodyOf_eq_ok_iff.mp atHand
        obtain ⟨tag, describes, sameKind⟩ := exists_decode_iff.mp ⟨entry, isEntry, isKind⟩
        exact ⟨status, body, tag, success, rfl, describes, sameKind⟩
  · intro described
    obtain ⟨status, body, tag, success, rfl, describes⟩ := described
    rw [found, bodyOf_eq_ok_iff.mpr ⟨status, success, rfl⟩]
    exact exists_decode_iff.mpr ⟨tag, describes⟩

theorem absent_iff {exchange : Exchange} : Absent exchange ↔
    (∃ summary, found exchange = .error (.notFound summary)) ∨
      ∃ entry, found exchange = .ok entry ∧ entry.kind = .deleted := by
  rw [exists_found_iff]
  simp only [found_eq_notFound_iff]
  constructor
  · intro absent
    cases absent with
    | refused summarizes named => exact .inl ⟨_, _, rfl, summarizes, named⟩
    | other success describes notFile notFolder =>
        refine .inr ⟨_, _, _, success, rfl, describes, ?_⟩
        rw [kindOf_eq, if_neg notFile, if_neg notFolder]
  · intro either
    rcases either with ⟨summary, body, rfl, summarizes, named⟩ |
      ⟨status, body, tag, success, rfl, describes, isDeleted⟩
    · exact .refused summarizes named
    · rw [kindOf_eq] at isDeleted
      split_ifs at isDeleted with isFile isFolder
      exact .other success describes isFile isFolder

theorem present_iff {exchange : Exchange} {kind : EntryKind} : Present exchange kind ↔
    kind ≠ .deleted ∧ ∃ entry, found exchange = .ok entry ∧ entry.kind = kind := by
  rw [exists_found_iff]
  constructor
  · intro present
    cases present with
    | file success describes => exact ⟨by decide, _, _, _, success, rfl, describes, rfl⟩
    | folder success describes => exact ⟨by decide, _, _, _, success, rfl, describes, rfl⟩
  · intro both
    obtain ⟨live, status, body, tag, success, rfl, describes, rfl⟩ := both
    rw [kindOf_eq] at live ⊢
    split_ifs at live ⊢ with isFile isFolder
    · exact .file success (isFile ▸ describes)
    · exact .folder success (isFolder ▸ describes)
    · exact absurd rfl live

/-- A lookup gives what its exchange brings. An absence is no failure. -/
theorem run_lookUp {σ : Type} (transport : Transport σ) (client : Client) (path : String)
    (state : σ) :
    (Dialogue.run transport.web (client.lookUp path) state).1 =
      match found (transport.web (client.lookupCall path) state).1 with
        | .ok entry => .ok (some entry)
        | .error (.notFound _) => .ok none
        | .error error => .error error := by
  have ran : Dialogue.run transport.web (client.lookUp path) state =
      Dialogue.run transport.web (Dialogue.bind
        (.done (found (transport.web (client.lookupCall path) state).1))
          fun answer => match answer with
            | .ok entry => .done (.ok (some entry))
            | .error (.notFound _) => .done (.ok none)
            | .error error => .done (.error error))
        (transport.web (client.lookupCall path) state).2 := rfl
  rw [ran]
  rcases found (transport.web (client.lookupCall path) state).1 with error | entry
  · cases error <;> rfl
  · rfl

end Dropbox

namespace Bucket

/-! ## Answers of an object store -/

/-- What a probe for keys below a path asks for. -/
def probed (path : String) : Selection :=
  ⟨some (startOf path), none, some 1, none⟩

section

variable {σ : Type} (answer : (call : Call) → StateM σ call.Answer) (path : String) (state : σ)

/-- No object is found under the key of the path, and the probe that follows succeeds. -/
def Probes (found : Found) : Prop :=
  ∃ fault, (answer (.head (keyOf path)) state).1 = .error fault ∧ fault.code = some "NotFound" ∧
    (answer (.list (probed path)) (answer (.head (keyOf path)) state).2).1 = .ok found

/-- There is no object, and the probe counts no key. -/
def Absent : Prop :=
  ∃ found, Probes answer path state found ∧ ¬∃ count, found.count = some count ∧ 0 < count

/-- There is an object, or the probe counts a key. -/
def Present : EntryKind → Prop
  | .file => ∃ object, (answer (.head (keyOf path)) state).1 = .ok object
  | .folder =>
    ∃ found, Probes answer path state found ∧ ∃ count, found.count = some count ∧ 0 < count
  | .deleted => False

end

section

variable {σ : Type} {answer : (call : Call) → StateM σ call.Answer} {path : String} {state : σ}

/-- Without an object the probe decides. -/
theorem run_lookUp (bucket : String) (below : keyOf path ≠ "") :
    (Dialogue.run answer (lookUp bucket path) state).1 =
      match (answer (.head (keyOf path)) state).1 with
      | .ok _ => .ok (some (fileOf (keyOf path)))
      | .error fault =>
        if fault.code = some "NotFound" then
          match (answer (.list (probed path)) (answer (.head (keyOf path)) state).2).1 with
          | .ok found =>
            if 0 < found.count.getD 0 then
              .ok (some ⟨.folder, Path.lastPiece (keyOf path), "/" ++ keyOf path⟩)
            else .ok none
          | .error fault => .error (errorOf "ListObjectsV2" fault)
        else .error (errorOf "HeadObject" fault) := by
  rw [lookUp]
  simp only [beq_iff_eq, below, if_false, Dialogue.run]
  cases (answer (.head (keyOf path)) state).1 with
  | ok _ => rfl
  | error fault =>
      by_cases missing : fault.code = some "NotFound"
      · simp only [missing, if_true, probe, bind, Dialogue.bind, Dialogue.run]
        rw [← probed]
        cases (answer (.list (probed path)) (answer (.head (keyOf path)) state).2).1 with
        | error fault => rfl
        | ok found => by_cases positive : 0 < found.count.getD 0 <;> simp only [positive] <;> rfl
      · simp only [missing, if_false]
        rfl

theorem counts_iff (found : Found) :
    (∃ count, found.count = some count ∧ 0 < count) ↔ 0 < found.count.getD 0 := by
  cases found.count <;> simp

end

end Bucket

/-! ## Verdicts -/

/-- The outcome of a lookup goes with what its answers report: an absence, an entry of the one kind
that is present, or neither of them. -/
inductive Verdict (path : String) (absent : Prop) (present : EntryKind → Prop) :
    Except MountError (Option Entry) → Prop where
  | absent (missing : absent) (nothing : ∀ kind, ¬present kind) :
      Verdict path absent present (.ok none)
  | present {entry : Entry} (there : ¬absent) (only : ∀ kind, present kind ↔ kind = entry.kind) :
      Verdict path absent present (.ok (some entry))
  | failed {source : RemoteError} (unsure : ¬absent) (nothing : ∀ kind, ¬present kind) :
      Verdict path absent present (.error (.build path source))

/-- The verdict of a lookup in the files service. -/
theorem Dropbox.verdict {σ : Type} (transport : Transport σ) (client : Client) (path : String)
    (state : σ) :
    Verdict path (Absent (transport.web (client.lookupCall path) state).1)
      (Present (transport.web (client.lookupCall path) state).1)
      (Gathering.lookedUp path (Dialogue.run transport.web (client.lookUp path) state).1) := by
  rw [run_lookUp]
  generalize (transport.web (client.lookupCall path) state).1 = exchange
  cases brought : found exchange with
  | error error =>
      have nothing (kind : EntryKind) : ¬Present exchange kind := by simp [present_iff, brought]
      cases error with
      | notFound summary => exact .absent (absent_iff.mpr (.inl ⟨summary, brought⟩)) nothing
      | _ => exact .failed (by simp [absent_iff, brought]) nothing
  | ok entry =>
      by_cases deleted : entry.kind = .deleted
      · have dead : entry.isLive = false := by simp [Entry.isLive, deleted]
        simp only [Gathering.lookedUp, Option.filter_some, dead]
        refine .absent (absent_iff.mpr (.inr ⟨entry, brought, deleted⟩)) fun kind present => ?_
        rw [present_iff, brought] at present
        obtain ⟨live, other, same, rfl⟩ := present
        exact live (Except.ok.inj same ▸ deleted)
      · have live : entry.isLive = true := by simp [Entry.isLive, deleted]
        simp only [Gathering.lookedUp, Option.filter_some, live]
        refine .present (by simp [absent_iff, brought, deleted]) fun kind => ?_
        simp only [present_iff, brought, Except.ok.injEq, exists_eq_left']
        grind

/-- The verdict of a lookup in an object store. -/
theorem Bucket.verdict {σ : Type} (answer : (call : Call) → StateM σ call.Answer)
    (bucket : String) {path : String} (below : keyOf path ≠ "") (state : σ) :
    Verdict path (Absent answer path state) (Present answer path state)
      (Gathering.lookedUp path (Dialogue.run answer (lookUp bucket path) state).1) := by
  rw [run_lookUp bucket below]
  cases head : (answer (.head (keyOf path)) state).1 with
  | ok _ =>
      refine .present (by simp [Absent, Probes, head]) fun kind => ?_
      cases kind <;> simp [Present, Probes, head, fileOf]
  | error fault =>
      by_cases missing : fault.code = some "NotFound"
      · cases answered : (answer (.list (probed path)) (answer (.head (keyOf path)) state).2).1 with
        | error probeFault =>
            simp only [missing, if_true]
            refine .failed (by simp [Absent, Probes, answered]) fun kind => ?_
            cases kind <;> simp [Present, Probes, head, answered]
        | ok result =>
            obtain ⟨found, rfl⟩ : ∃ found : Found, found = result := ⟨result, rfl⟩
            have probes (other : Found) : Probes answer path state other ↔ found = other := by
              simp only [Probes, head, answered, Except.error.injEq, exists_eq_left', missing,
                true_and]
              exact ⟨Except.ok.inj, congrArg Except.ok⟩
            by_cases positive : 0 < found.count.getD 0
            · simp only [missing, if_true, positive]
              refine .present (by simp [Absent, probes, counts_iff, positive]) fun kind => ?_
              cases kind <;> simp [Present, probes, counts_iff, positive, head]
            · simp only [missing, if_true, positive, if_false]
              have uncounted := Int.not_lt.mp positive
              refine .absent (by simp [Absent, probes, counts_iff, uncounted]) fun kind => ?_
              cases kind <;> simp [Present, probes, counts_iff, positive, head]
      · simp only [missing, if_false]
        have unprobed (found : Found) : ¬Probes answer path state found := by
          simp [Probes, head, missing]
        refine .failed (by simp [Absent, unprobed]) fun kind => ?_
        cases kind <;> simp [Present, unprobed, head]

namespace Connection

section

variable {σ : Type} (transport : Transport σ) (path : String) (state : σ)

/-- The service behind a connection reports that nothing is at a path. -/
def Absent : Connection → Prop
  | .dropbox client => Dropbox.Absent (transport.web (client.lookupCall path) state).1
  | .bucket client => Bucket.Absent (transport.bucket client) path state

/-- The service behind a connection reports a file or a folder at a path. -/
def Present : Connection → EntryKind → Prop
  | .dropbox client => Dropbox.Present (transport.web (client.lookupCall path) state).1
  | .bucket client => Bucket.Present (transport.bucket client) path state

/-- The verdict of a lookup over a connection. -/
theorem verdict (connection : Connection) (inside : Build.isStoreRoot path = false) :
    Verdict path (connection.Absent transport path state) (connection.Present transport path state)
      (Gathering.lookedUp path
        ((connection.store transport).answer (.metadata path) state).1) := by
  cases connection with
  | dropbox client => exact Dropbox.verdict transport client path state
  | bucket client =>
      have below : Bucket.keyOf path ≠ "" := by
        simpa [Build.isStoreRoot, Bucket.keyOf] using inside
      exact Bucket.verdict (transport.bucket client) client.bucket below state

end

end Connection

end Remote

end ContentMount
