/-
This file reads the listing of a folder of a bucket page by page. Every page is asked for with the
start of the folder and with the token of the page before, and every entry leads back to what the
service reported.
-/

import ContentMount.Proofs.Bucket.Service

namespace ContentMount.Remote

/-- Reads a listing page by page as long as there is more, up to a number of pages. -/
def readPages : Nat → Listing → Asking (Except RemoteError (List Page))
  | 0, _ => return .ok []
  | limit + 1, listing => do
    match ← askPage listing with
    | .error error => return .error error
    | .ok page =>
      if page.hasMore then
        return (← readPages limit (.after page.cursor)).map (page :: ·)
      else return .ok [page]

theorem Store.run_readPages_zero {σ : Type} (store : Store σ) (listing : Listing) (state : σ) :
    store.run (readPages 0 listing) state = (.ok [], state) := rfl

/-- After a page that comes, the cursor of the page is followed if there is more. -/
theorem Store.run_readPages {σ : Type} {store : Store σ} {listing : Listing} {state next : σ}
    {page : Page} (answered : store.run (askPage listing) state = (.ok page, next))
    (limit : Nat) :
    store.run (readPages (limit + 1) listing) state =
      if page.hasMore then
        ((store.run (readPages limit (.after page.cursor)) next).1.map (page :: ·),
          (store.run (readPages limit (.after page.cursor)) next).2)
      else (.ok [page], next) := by
  have opened := Dialogue.run_bind store.answer (askPage listing) (fun answer =>
    (match answer with
    | .error error => return .error error
    | .ok page =>
      if page.hasMore then
        return (← readPages limit (.after page.cursor)).map (page :: ·)
      else return .ok [page] : Asking (Except RemoteError (List Page)))) state
  rw [Store.run] at answered
  rw [answered] at opened
  refine opened.trans ?_
  dsimp only
  split_ifs
  · exact Dialogue.run_bind store.answer (readPages limit (.after page.cursor)) _ next
  · rfl

namespace Bucket

/-! ## Answers in a row -/

/-- A page is one of a listing below a start when all that it reports lies directly below the start,
and when it has a token exactly if it is cut off. -/
structure Found.IsPageOf (found : Found) (start : String) : Prop where
  objects : ∀ key ∈ found.objects, ∃ name, '/' ∉ name.toList ∧ key = start ++ name
  starts : ∀ common ∈ found.starts, ∃ name, '/' ∉ name.toList ∧ common = start ++ name ++ "/"
  token : found.nextToken.isSome = found.truncated.getD false

/-- The answers to a listing below a start: pages that are cut off, and then one that is not. -/
inductive Found.InRow (start : String) : List Found → Prop where
  | last {found : Found} (isPage : found.IsPageOf start)
      (whole : found.truncated.getD false = false) : InRow start [found]
  | more {found : Found} {rest : List Found} (isPage : found.IsPageOf start)
      (cut : found.truncated.getD false = true) (later : InRow start rest) :
      InRow start (found :: rest)

/-- The answers that a service still has, and the calls that it got. -/
structure Script where
  answers : List Found
  calls : List Call
  deriving DecidableEq

/-- A service that gives prepared answers to listings and nothing to other calls. -/
def scripted : Transport Script where
  web _ script := (.noAnswer "", script)
  bucket _ call script := match call with
    | .list selection => match script.answers with
      | found :: rest => (.ok found, ⟨rest, script.calls ++ [.list selection]⟩)
      | [] => (.error ⟨none, ""⟩, ⟨[], script.calls ++ [.list selection]⟩)
    | .head key => (.error ⟨none, ""⟩, ⟨script.answers, script.calls ++ [.head key]⟩)
    | .get key => (.error ⟨none, ""⟩, ⟨script.answers, script.calls ++ [.get key]⟩)

/-- The call for a page below a start. An empty start is not sent. -/
def pageCall (start : String) (token : Option String) : Call :=
  .list ⟨if start = "" then none else some start, some "/", none, token⟩

/-- The calls for a row of pages. Each page is asked for with the token of the page before. -/
def pageCalls (start : String) : Option String → List Found → List Call
  | _, [] => []
  | token, found :: rest => pageCall start token :: pageCalls start found.nextToken rest

theorem run_askPage_scripted (client : Client) {listing : Listing} {start : String}
    {token : Option String} (asked : Listing.question? listing = some (start, token))
    (found : Found) (rest : List Found) (calls : List Call) :
    (storeOf scripted client).run (askPage listing) ⟨found :: rest, calls⟩ =
      (.ok (pageOf start found), ⟨rest, calls ++ [pageCall start token]⟩) := by
  have sent : pageCall start token = .list (folderSelection start token) := by
    simp [pageCall, folderSelection]
  rw [sent]
  exact run_askPage asked rfl

theorem hasMore_pageOf {start : String} {found : Found} (isPage : found.IsPageOf start) :
    (pageOf start found).hasMore = found.truncated.getD false := by
  rw [pageOf, isPage.token, Bool.and_self]

/-- Answers in a row are read one by one, up to the limit. -/
theorem Found.InRow.run_readPages (client : Client) {start : String} {answers : List Found}
    (row : Found.InRow start answers) {listing : Listing} {token : Option String}
    (asked : Listing.question? listing = some (start, token)) (limit : Nat) (calls : List Call) :
    (storeOf scripted client).run (readPages limit listing) ⟨answers, calls⟩ =
      (.ok ((answers.take limit).map (pageOf start)),
        ⟨answers.drop limit, calls ++ pageCalls start token (answers.take limit)⟩) := by
  induction row generalizing listing token limit calls with
  | @last found isPage whole =>
      cases limit with
      | zero => simp [Store.run_readPages_zero, pageCalls]
      | succ limit =>
          rw [Store.run_readPages (run_askPage_scripted client asked found [] calls),
            hasMore_pageOf isPage, whole, if_neg Bool.false_ne_true]
          simp [pageCalls]
  | @more found rest isPage cut _ ih =>
      cases limit with
      | zero => simp [Store.run_readPages_zero, pageCalls]
      | succ limit =>
          have next := question?_cursor start (isPage.token.trans cut)
          rw [Store.run_readPages (run_askPage_scripted client asked found rest calls),
            hasMore_pageOf isPage, cut, if_pos rfl, ih next]
          simp [pageCalls, Except.map]

/-! ## Entries and what they stand for -/

/-- A page reports common starts and keys. -/
inductive Reported where
  | start (common : String)
  | object (key : String)
  deriving DecidableEq

/-- What a page reports, the common starts first. The object that marks the folder is left out. -/
def Found.reported (start : String) (found : Found) : List Reported :=
  found.starts.map .start ++ (found.objects.filter (· != start)).map .object

/-- An entry stands for what a page reports below a start when it leads back to it. The folder of a
common start does so when the common start does not end with an empty name. -/
def Reported.StandsFor (start : String) (entry : Entry) : Reported → Prop
  | .start common => entry.kind = .folder ∧ ∀ name, Path.IsSegment name →
      common = start ++ name ++ "/" → entry.name = name ∧ startOf entry.path = common
  | .object key => entry.kind = .file ∧ start ++ entry.name = key ∧ keyOf entry.path = key

theorem standsFor_folderOf {start : String} (proper : IsStart start) (common : String) :
    Reported.StandsFor start (folderOf common) (.start common) := by
  refine ⟨rfl, fun name segment isCommon => ?_⟩
  rw [isCommon, folderOf_append proper segment]
  exact ⟨rfl, proper.startOf_append segment⟩

theorem standsFor_fileOf {start : String} (proper : IsStart start) {found : Found}
    (isPage : found.IsPageOf start) {key : String} (member : key ∈ found.objects)
    (notStart : key ≠ start) : Reported.StandsFor start (fileOf key) (.object key) := by
  obtain ⟨name, slashless, rfl⟩ := isPage.objects key member
  have nonempty : name ≠ "" := by
    rintro rfl
    exact notStart String.append_empty
  have segment : Path.IsSegment name := ⟨nonempty, slashless⟩
  rw [fileOf_append proper segment]
  exact ⟨rfl, rfl, by rw [keyOf_slash_append, proper.keyOf_append segment]⟩

/-- The entries of a page stand for what the page reports, one for one and in this order. -/
theorem standFor_entriesOf {start : String} (proper : IsStart start) {found : Found}
    (isPage : found.IsPageOf start) :
    List.Forall₂ (Reported.StandsFor start) (entriesOf start found) (found.reported start) := by
  have folders : List.Forall₂ (Reported.StandsFor start) (found.starts.map folderOf)
      (found.starts.map .start) := by
    rw [List.forall₂_map_left_iff, List.forall₂_map_right_iff, List.forall₂_same]
    exact fun common _ => standsFor_folderOf proper common
  have files : List.Forall₂ (Reported.StandsFor start)
      ((found.objects.filter (· != start)).map fileOf)
      ((found.objects.filter (· != start)).map .object) := by
    rw [List.forall₂_map_left_iff, List.forall₂_map_right_iff, List.forall₂_same]
    intro key member
    obtain ⟨inside, notStart⟩ := List.mem_filter.mp member
    exact standsFor_fileOf proper isPage inside (by simpa using notStart)
  exact List.rel_append folders files

theorem standFor_entries {start : String} (proper : IsStart start) {answers : List Found}
    (isPage : ∀ found ∈ answers, found.IsPageOf start) :
    List.Forall₂ (Reported.StandsFor start) ((answers.map (pageOf start)).flatMap Page.entries)
      (answers.flatMap (Found.reported start)) := by
  induction answers with
  | nil => exact .nil
  | cons found rest ih =>
      rw [List.map_cons, List.flatMap_cons, List.flatMap_cons]
      have first := standFor_entriesOf proper (isPage found List.mem_cons_self)
      exact List.rel_append first
        (ih fun other member => isPage other (List.mem_cons_of_mem _ member))

theorem Found.InRow.isPage {start : String} {answers : List Found}
    (row : Found.InRow start answers) : ∀ found ∈ answers, found.IsPageOf start := by
  induction row with
  | last isPage _ => simpa using isPage
  | more isPage _ _ ih => simpa using ⟨isPage, ih⟩

/-- A folder is listed by one call for each page, with the slash as delimiter, with the start of the
folder unless it is empty, and with the token of the page before. All the entries together stand for
what the pages report. -/
theorem readPages_inRow (client : Client) (path : String) {answers : List Found}
    (row : Found.InRow (startOf path) answers) (limit : Nat) :
    ∃ pages,
      (storeOf scripted client).run (readPages limit (.first path)) ⟨answers, []⟩ =
        (.ok pages,
          ⟨answers.drop limit, pageCalls (startOf path) none (answers.take limit)⟩) ∧
      List.Forall₂ (Reported.StandsFor (startOf path)) (pages.flatMap Page.entries)
        ((answers.take limit).flatMap (Found.reported (startOf path))) := by
  have asked : Listing.question? (.first path) = some (startOf path, none) := rfl
  refine ⟨(answers.take limit).map (pageOf (startOf path)), ?_, ?_⟩
  · have ran := row.run_readPages client asked limit []
    rwa [List.nil_append] at ran
  · exact standFor_entries (isStart_startOf path) fun found member =>
      row.isPage found (List.mem_of_mem_take member)

/-- Two pages of a folder with a marker and a subfolder. The token has a quote, a backslash, a
control character and a letter beyond ASCII. -/
def photoPages : List Found :=
  [⟨[some "photos/2024/"], [some "photos/", some "photos/a.jpg"], some true, some "\"\\\x01é", none⟩,
    ⟨[], [some "photos/b.jpg"], some false, none, none⟩]

theorem photoPages_inRow : Found.InRow "photos/" photoPages := by
  refine .more ⟨?_, ?_, rfl⟩ rfl (.last ⟨?_, ?_, rfl⟩ rfl)
  · simp only [Found.objects, List.filterMap_cons, List.filterMap_nil, id, List.forall_mem_cons]
    exact ⟨⟨"", by decide, by decide⟩, ⟨"a.jpg", by decide, by decide⟩, by simp⟩
  · simp only [Found.starts, List.filterMap_cons, List.filterMap_nil, id, List.forall_mem_cons]
    exact ⟨⟨"2024", by decide, by decide⟩, by simp⟩
  · simp only [Found.objects, List.filterMap_cons, List.filterMap_nil, id, List.forall_mem_cons]
    exact ⟨⟨"b.jpg", by decide, by decide⟩, by simp⟩
  · simp [Found.starts]

/-- The second page is asked for with the token of the first one, and the marker is no entry. -/
theorem readPages_inRow_photoPages :
    ∃ pages,
      (storeOf scripted sampleClient).run (readPages 2 (.first "/photos")) ⟨photoPages, []⟩ =
        (.ok pages, ⟨[], [pageCall "photos/" none, pageCall "photos/" (some "\"\\\x01é")]⟩) ∧
      List.Forall₂ (Reported.StandsFor "photos/") (pages.flatMap Page.entries)
        [.start "photos/2024/", .object "photos/a.jpg", .object "photos/b.jpg"] := by
  have isStart : startOf "/photos" = "photos/" := by decide
  have row := photoPages_inRow
  rw [← isStart] at row
  obtain ⟨pages, ran, stand⟩ := readPages_inRow sampleClient "/photos" row 2
  rw [isStart] at ran stand
  exact ⟨pages, ran, stand⟩

end Bucket

end ContentMount.Remote
