/-
This file says what it means that the files service hosts a tree whose entries are reported with
their real paths or with none, and shows that the store over the service serves the tree when no
path is left out below the root folder.
-/

import ContentMount.Proofs.Build.Outcome
import ContentMount.Proofs.Dropbox.Reports
import ContentMount.Proofs.Json.Roundtrip

namespace ContentMount.Remote.Dropbox

/-- The store of the files service over a transport. -/
abbrev storeOf {σ : Type} (transport : Transport σ) (client : Client) : Store σ :=
  (Connection.dropbox client).store transport

/-- The request for the page that a listing stands before. -/
def Client.listingCall (client : Client) : Listing → WebRequest
  | .first path => client.call "files/list_folder" (folderArgument (apiPath path))
  | .after cursor => client.call "files/list_folder/continue" (cursorArgument cursor)

/-- A request spares a listing unless it goes on with a cursor that uses up the cursor of the
listing. -/
def Client.Spares (client : Client) (spends : String → String → Prop) (request : WebRequest)
    (listing : Listing) : Prop :=
  ∀ used, request = client.listingCall (.after used) →
    ∀ cursor, listing = .after cursor → ¬spends used cursor

/-- A service hosts a tree at a remote path. It cuts each listing into pages as it likes, and it may
leave out the path of any entry. A cursor has to work only once. -/
structure Hosting {σ : Type} (respond : WebRequest → StateM σ Exchange) (client : Client)
    (remotePath : String) (tree : Tree) where
  /-- The pages of the listing of a folder. -/
  pages : String → List (List Report)
  /-- The live reports are about the items of the folder, in their order. -/
  reports : ∀ path items, tree.HasFolder path items →
    List.Forall₂ Report.About (liveReports (pages path)) items
  located : Located tree
  /-- In a state, the listing is about to bring these pages. -/
  awaits : σ → Listing → List (List Report) → Prop
  /-- The listing of a folder may be begun at any time. -/
  begins : ∀ state path items, tree.HasFolder path items → awaits state (.first path) (pages path)
  /-- The first of the pages comes, and its cursor leads to the others if there are any. -/
  brings {state : σ} {listing : Listing} {pages : List (List Report)} :
    awaits state listing pages → ∃ reports rest cursor status body next,
      pages = reports :: rest ∧
        respond (client.listingCall listing) state = (.answer status (some body), next) ∧
        (200 ≤ status ∧ status < 300) ∧ HoldsPage body reports cursor (!rest.isEmpty) ∧
        (rest ≠ [] → awaits next (.after cursor) rest)
  /-- Going on with the first cursor may use up the second. -/
  spends : String → String → Prop
  /-- Whatever is requested in between, the listing goes on as long as its cursor is not used up. -/
  keeps {state : σ} {listing : Listing} {pages : List (List Report)} :
    awaits state listing pages → ∀ request, client.Spares spends request listing →
      awaits (respond request state).2 listing pages
  /-- While a cursor waits, no other listing brings one that would use it up. -/
  fresh {state : σ} {cursor : String} {pages : List (List Report)} :
    awaits state (.after cursor) pages → ∀ other,
      client.Spares spends (client.listingCall other) (.after cursor) → ∀ status body page,
        (respond (client.listingCall other) state).1 = .answer status (some body) →
        200 ≤ status ∧ status < 300 → decode readPage? body = .ok page → page.hasMore = true →
          ¬spends page.cursor cursor
  /-- The report about the tree itself, and the path by which the service calls its folder. -/
  root : Report
  home : String
  /-- The tree at the store root is a folder with the path of the root. -/
  top : Build.isStoreRoot remotePath = true → ∃ name items, tree = .folder name "/" items
  /-- Any other tree is looked up. -/
  below : Build.isStoreRoot remotePath = false → root.About tree ∧
    tree.entry.path = childPath home tree.name ∧
    ∀ state, ∃ status body next,
      respond (client.lookupCall remotePath) state = (.answer status (some body), next) ∧
        (200 ≤ status ∧ status < 300) ∧ HoldsReport body root

section

variable {σ : Type} {transport : Transport σ} {client : Client}

theorem exists_endpoint (listing : Listing) (state : σ) : ∃ endpoint,
    (storeOf transport client).run (askPage listing) state =
      (bodyOf endpoint (transport.web (client.listingCall listing) state).1 >>= decode readPage?,
        (transport.web (client.listingCall listing) state).2) := by
  cases listing with
  | first path => exact ⟨"files/list_folder", rfl⟩
  | after cursor => exact ⟨"files/list_folder/continue", rfl⟩

/-- A listing is one request to the service. -/
theorem run_askPage {listing : Listing} {state next : σ} {status : Nat} {body : ByteArray}
    {reports : List Report} {cursor : String} {more : Bool}
    (answered : transport.web (client.listingCall listing) state =
      (.answer status (some body), next))
    (success : 200 ≤ status ∧ status < 300) (holds : HoldsPage body reports cursor more) :
    (storeOf transport client).run (askPage listing) state =
      (.ok ⟨reports.map Report.entry, cursor, more⟩, next) := by
  obtain ⟨endpoint, ran⟩ := exists_endpoint listing state
  have atHand : bodyOf endpoint (.answer status (some body)) = .ok body :=
    bodyOf_eq_ok_iff.mpr ⟨status, success, rfl⟩
  rw [ran, answered, atHand]
  exact congrArg (·, next) holds.decode

/-- The page that a listing brings is read from one answer of the service. -/
theorem exists_body_of_askPage {listing : Listing} {state : σ} {page : Page}
    (came : ((storeOf transport client).run (askPage listing) state).1 = .ok page) :
    ∃ status body,
      (transport.web (client.listingCall listing) state).1 = .answer status (some body) ∧
        (200 ≤ status ∧ status < 300) ∧ decode readPage? body = .ok page := by
  obtain ⟨endpoint, ran⟩ := exists_endpoint listing state
  rw [ran] at came
  cases atHand : bodyOf endpoint (transport.web (client.listingCall listing) state).1 with
  | error error => simp [atHand, bind, Except.bind] at came
  | ok body =>
      rw [atHand] at came
      obtain ⟨status, success, answered⟩ := bodyOf_eq_ok_iff.mp atHand
      exact ⟨status, body, answered, success, came⟩

/-- A request goes on with one cursor only. -/
theorem Client.call_eq_after {endpoint : String} {argument : Json} {used : String}
    (settled : argument.Settled)
    (same : client.call endpoint argument = client.listingCall (.after used)) :
    endpoint = "files/list_folder/continue" ∧ argument = cursorArgument used := by
  obtain ⟨url, -, body⟩ := WebRequest.mk.inj same
  refine ⟨(String.append_right_inj _).mp url, ?_⟩
  have usedSettled : (cursorArgument used).Settled := .object (by simpa using .string used)
  have read := Json.read_text settled
  rw [body, Json.read_text usedSettled] at read
  exact (Option.some.inj read).symm

section

variable {spends : String → String → Prop} {listing : Listing}

/-- The web request of a listing spares the listings that its request spares. -/
theorem Client.spares_listingCall {other : Listing}
    (spares : other.request.Spares spends listing) :
    client.Spares spends (client.listingCall other) listing := by
  rintro used same cursor isCursor
  cases other with
  | first path =>
      have settled : (folderArgument (apiPath path)).Settled :=
        .object (by simpa using ⟨.string _, .bool _⟩)
      exact absurd (Client.call_eq_after settled same).1 (by decide)
  | after text =>
      have settled : (cursorArgument text).Settled := .object (by simpa using .string text)
      have argument := (Client.call_eq_after settled same).2
      obtain rfl : text = used := by simpa [cursorArgument] using argument
      exact spares text cursor rfl isCursor

/-- A request that spares a listing is answered by web requests that spare it. -/
theorem Client.asks_answer {request : Request} (spares : request.Spares spends listing) :
    (client.answer request).Asks fun call => client.Spares spends call listing := by
  cases request with
  | metadata path =>
      have settled : (pathArgument (apiPath path)).Settled := .object (by simpa using .string _)
      have asked : client.Spares spends (client.lookupCall path) listing :=
        fun used same => absurd (Client.call_eq_after settled same).1 (by decide)
      have posted : (client.post "files/get_metadata" (pathArgument (apiPath path))
          readEntry?).Asks fun call => client.Spares spends call listing :=
        .ask asked fun _ => .done _
      refine posted.bind fun found => ?_
      rcases found with error | entry
      · cases error <;> exact .done _
      · exact .done _
  | list path =>
      have first : (Listing.first path).request.Spares spends listing := spares
      exact .ask (Client.spares_listingCall first) fun _ => .done _
  | listNext text =>
      have after : (Listing.after text).request.Spares spends listing := spares
      exact .ask (Client.spares_listingCall after) fun _ => .done _
  | download path =>
      change (client.fetch path).Asks _
      unfold Client.fetch
      dsimp only
      split_ifs with sendable
      · refine .ask (fun used same => ?_) fun _ => .done _
        have headers := congrArg WebRequest.headers same
        simp [Client.fileCall, Client.listingCall, Client.call] at headers
      · exact .done _

end

namespace Hosting

variable {remotePath : String} {tree : Tree}
  (hosting : Hosting transport.web client remotePath tree)

/-- The store over a service that hosts a tree pages its listings. -/
def paging : Paging (storeOf transport client) where
  holds state listing pages :=
    ∃ reports, hosting.awaits state listing reports ∧ pages = reports.map (List.map Report.entry)
  page := by
    rintro state listing _ ⟨pages, awaited, rfl⟩
    obtain ⟨reports, rest, cursor, status, body, next, rfl, answered, success, holds, continued⟩ :=
      hosting.brings awaited
    refine ⟨_, rest.map (List.map Report.entry), cursor, next, rfl, ?_, ?_⟩
    · rw [run_askPage answered success holds, List.isEmpty_map]
    · intro more
      exact ⟨rest, continued (by simpa using more), rfl⟩
  spends := hosting.spends
  keeps := by
    rintro state listing _ ⟨pages, awaited, rfl⟩ request spares
    have asks : (client.answer request).Asks fun call =>
        client.Spares hosting.spends call listing := Client.asks_answer spares
    have kept := asks.keeps (fun state => hosting.awaits state listing pages)
      (fun _ call awaited spared => hosting.keeps awaited call spared) awaited
    exact ⟨_, rfl, pages, kept, rfl⟩
  fresh := by
    rintro state cursor _ ⟨pages, awaited, rfl⟩ other spares page came more
    obtain ⟨status, body, answered, success, isPage⟩ := exists_body_of_askPage came
    exact hosting.fresh awaited other (Client.spares_listingCall spares) status body page answered
      success isPage more

/-- The pages of a folder in the tree are always the same. -/
theorem holds_first {path : String} {items : List Tree} (has : tree.HasFolder path items)
    (state : σ) : hosting.paging.holds state (.first path)
      ((hosting.pages path).map (List.map Report.entry)) :=
  ⟨_, hosting.begins state path items has, rfl⟩

/-- No path is left out, except for entries that lie directly in the root folder. -/
structure Explicit : Prop where
  items : ∀ path items, tree.HasFolder path items → ∀ report ∈ liveReports (hosting.pages path),
    apiPath path = "" ∨ report.location.isSome
  root : Build.isStoreRoot remotePath = false →
    hosting.home = "" ∨ hosting.root.location.isSome

/-- A folder lists its items as they are exactly when no path is left out in the listing, or the
folder is the root. -/
theorem liveEntries_eq_iff {path : String} {items : List Tree} (has : tree.HasFolder path items) :
    liveEntries ((hosting.pages path).map (List.map Report.entry)) = items.map Tree.entry ↔
      ∀ report ∈ liveReports (hosting.pages path), apiPath path = "" ∨ report.location.isSome := by
  rw [liveEntries_map_entry]
  exact map_entry_eq_iff (hosting.reports path items has) (hosting.located path items has)

/-- Below the store root the lookup brings what is reported about the tree. -/
theorem answer_metadata (inside : Build.isStoreRoot remotePath = false) (state : σ) :
    ((storeOf transport client).answer (.metadata remotePath) state).1 =
      .ok (some hosting.root.entry) := by
  obtain ⟨-, -, answers⟩ := hosting.below inside
  obtain ⟨status, body, next, answered, success, holds⟩ := answers state
  have looked : ((storeOf transport client).answer (.metadata remotePath) state).1 =
      (Dialogue.run transport.web (client.lookUp remotePath) state).1 := rfl
  have isFound : found (transport.web (client.lookupCall remotePath) state).1 =
      .ok hosting.root.entry := by
    rw [answered, found, bodyOf_eq_ok_iff.mpr ⟨status, success, rfl⟩]
    exact holds.decode
  rw [looked, run_lookUp, isFound]
  rfl

/-- The tree is served when no path is left out below the root folder. -/
theorem servesAt (explicit : hosting.Explicit) (state : σ) :
    hosting.paging.ServesAt state remotePath tree := by
  constructor
  · apply Paging.Serves.of_folders
    intro path items has
    exact ⟨_, hosting.holds_first has state,
      (hosting.liveEntries_eq_iff has).mpr (explicit.items path items has)⟩
  · cases inside : Build.isStoreRoot remotePath with
    | true =>
        obtain ⟨name, items, rfl⟩ := hosting.top inside
        exact ⟨rfl, rfl⟩
    | false =>
        obtain ⟨about, real, -⟩ := hosting.below inside
        have same := about.entry_eq_of_path ((about.path_eq_iff real).mpr (explicit.root inside))
        rw [if_neg Bool.false_ne_true, hosting.answer_metadata inside, same]

end Hosting

end

end ContentMount.Remote.Dropbox
