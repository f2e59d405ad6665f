/-
This file says what the files service reports about an entry and which path is taken for it. The
path is the real one unless the report leaves it out and the entry lies below the root folder.
-/

import ContentMount.Proofs.Remote.Lookup
import ContentMount.Proofs.Remote.Serving

namespace ContentMount.Remote.Dropbox

/-! ## Answers that hold reports -/

/-- What the service says about an entry: its tag, its name and perhaps its path. -/
structure Report where
  tag : String
  name : String
  location : Option String

/-- The entry that is read from a report. -/
def Report.entry (report : Report) : Entry :=
  ⟨kindOf report.tag, report.name, report.location.getD (fallbackPath report.name)⟩

/-- A document holds a report. The path may be missing, and it may be null. -/
def Report.IsIn (report : Report) (json : Json) : Prop :=
  ∃ path, json.record? [".tag", "name", "path_lower"] =
      some [some (.string report.tag), some (.string report.name), path] ∧
    Json.optionalText? path = some report.location

/-- A body is a document that holds a report. -/
def HoldsReport (body : ByteArray) (report : Report) : Prop :=
  ∃ json, Json.read (Text.readLossy body) = some json ∧ report.IsIn json

/-- A body is a document that holds a page of reports, its cursor and the note whether more
follows. -/
def HoldsPage (body : ByteArray) (reports : List Report) (cursor : String) (more : Bool) : Prop :=
  ∃ json documents, Json.read (Text.readLossy body) = some json ∧
    json.record? ["entries", "cursor", "has_more"] =
      some [some (.array documents), some (.string cursor), some (.bool more)] ∧
    List.Forall₂ Report.IsIn reports documents

theorem Report.IsIn.readEntry? {report : Report} {json : Json} (isIn : report.IsIn json) :
    Dropbox.readEntry? json = some report.entry := by
  obtain ⟨path, record, isText⟩ := isIn
  exact readEntry?_eq_some_iff.mpr ⟨_, _, path, _, record, isText, rfl⟩

theorem mapM_readEntry? {reports : List Report} {documents : List Json}
    (holds : List.Forall₂ Report.IsIn reports documents) :
    documents.mapM readEntry? = some (reports.map Report.entry) := by
  induction holds with
  | nil => rfl
  | cons first _ ih =>
      rw [List.mapM_cons, first.readEntry?, ih]
      rfl

theorem HoldsReport.decode {body : ByteArray} {report : Report} (holds : HoldsReport body report) :
    Dropbox.decode readEntry? body = .ok report.entry := by
  obtain ⟨json, read, isIn⟩ := holds
  rw [Dropbox.decode, read, Option.bind_some, isIn.readEntry?]

theorem HoldsPage.decode {body : ByteArray} {reports : List Report} {cursor : String} {more : Bool}
    (holds : HoldsPage body reports cursor more) :
    Dropbox.decode readPage? body = .ok ⟨reports.map Report.entry, cursor, more⟩ := by
  obtain ⟨json, documents, read, record, isIn⟩ := holds
  have isPage : readPage? json = some ⟨reports.map Report.entry, cursor, more⟩ := by
    simp [readPage?, record, Json.listField?, Json.textField?, Json.boolField?,
      mapM_readEntry? isIn]
  rw [Dropbox.decode, read, Option.bind_some, isPage]

/-- The reports on some pages that are not about something deleted. -/
def liveReports (pages : List (List Report)) : List Report :=
  pages.flatten.filter fun report => report.entry.isLive

theorem liveEntries_map_entry (pages : List (List Report)) :
    liveEntries (pages.map (List.map Report.entry)) = (liveReports pages).map Report.entry := by
  rw [liveEntries, liveReports, ← List.map_flatten, List.filter_map]
  rfl

/-! ## Real paths -/

/-- The path of an entry: the path by which the service calls its folder, a slash, and the name of
the entry in lower case. -/
def childPath (folder name : String) : String :=
  folder ++ "/" ++ Text.lowercase name

/-- The items of each folder of a tree have their real paths. -/
def Located (tree : Tree) : Prop :=
  ∀ path items, tree.HasFolder path items → ∀ item ∈ items,
    item.entry.path = childPath (apiPath path) item.name

/-- A report is about a file or a folder when it has the kind and the name. The path in it is the
real one, or it is left out. -/
structure Report.About (report : Report) (tree : Tree) : Prop where
  kind : kindOf report.tag = tree.entry.kind
  name : report.name = tree.name
  location : ∀ path, report.location = some path → path = tree.entry.path

/-- The path that is taken without a report of it is the real one in the root folder only. -/
theorem fallbackPath_eq_childPath_iff {folder name : String} :
    fallbackPath name = childPath folder name ↔ folder = "" := by
  constructor
  · intro same
    have counted := congrArg String.length same
    simp only [fallbackPath, childPath, String.length_append] at counted
    exact String.length_eq_zero_iff.mp (by omega)
  · rintro rfl
    simp [fallbackPath, childPath]

namespace Report.About

variable {report : Report} {tree : Tree} (about : report.About tree)
include about

/-- The path that is taken for an entry is the real one exactly when it was reported or the entry
lies in the root folder. -/
theorem path_eq_iff {folder : String} (real : tree.entry.path = childPath folder tree.name) :
    report.entry.path = tree.entry.path ↔ folder = "" ∨ report.location.isSome := by
  cases given : report.location with
  | none =>
      have fallback : report.entry.path = fallbackPath tree.name := by
        rw [Report.entry, given, about.name]
        rfl
      rw [fallback, real, fallbackPath_eq_childPath_iff]
      simp
  | some path =>
      have reported : report.entry.path = path := by
        rw [Report.entry, given]
        rfl
      rw [reported]
      exact iff_of_true (about.location path given) (.inr rfl)

theorem entry_eq_of_path (same : report.entry.path = tree.entry.path) :
    report.entry = tree.entry := by
  have isKind : report.entry.kind = tree.entry.kind := about.kind
  have isName : report.entry.name = tree.entry.name := about.name.trans tree.name_entry.symm
  calc report.entry = ⟨report.entry.kind, report.entry.name, report.entry.path⟩ := rfl
    _ = ⟨tree.entry.kind, tree.entry.name, tree.entry.path⟩ := by rw [isKind, isName, same]
    _ = tree.entry := rfl

end Report.About

section

variable {folder : String} {reports : List Report} {items : List Tree}
  (about : List.Forall₂ Report.About reports items)
  (real : ∀ item ∈ items, item.entry.path = childPath folder item.name)
include about real

theorem paths_eq_iff :
    List.Forall₂
      (fun report item => report.entry.path = item.entry.path ↔
        folder = "" ∨ report.location.isSome) reports items := by
  induction about with
  | nil => exact .nil
  | cons first _ ih =>
      obtain ⟨here, others⟩ := List.forall_mem_cons.mp real
      exact .cons (first.path_eq_iff here) (ih others)

/-- All entries of a folder are taken as they are exactly when no path is left out, or the folder is
the root. -/
theorem map_entry_eq_iff :
    reports.map Report.entry = items.map Tree.entry ↔
      ∀ report ∈ reports, folder = "" ∨ report.location.isSome := by
  induction about with
  | nil => simp
  | @cons report item _ _ first _ ih =>
      obtain ⟨here, others⟩ := List.forall_mem_cons.mp real
      have entry : report.entry = item.entry ↔ folder = "" ∨ report.location.isSome := by
        rw [← first.path_eq_iff here]
        exact ⟨congrArg Entry.path, first.entry_eq_of_path⟩
      rw [List.map_cons, List.map_cons, List.cons.injEq, entry, ih others, List.forall_mem_cons]

end

end ContentMount.Remote.Dropbox
