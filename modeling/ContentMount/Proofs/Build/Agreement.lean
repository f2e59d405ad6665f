/-
This file shows that a build depends on the live entries of a store only. How they are cut into
pages does not matter, and the requests follow the pages of each store.
-/

import ContentMount.Proofs.Build.Account
import ContentMount.Proofs.Remote.Once
import Mathlib.Data.List.Perm.Basic

namespace ContentMount

open Remote

/-! ## Requests and cursors -/

namespace Remote

/-- The cursor of a page that other pages follow. -/
def Page.next? (page : Page) : Option String :=
  if page.hasMore then some page.cursor else none

/-- The folder that a request starts to list. -/
def Request.listed? : Request → Option String
  | .list path => some path
  | _ => none

/-- The cursor with which a request goes on. -/
def Request.resumed? : Request → Option String
  | .listNext cursor => some cursor
  | _ => none

/-- The cursor that an answer brings. -/
def Answered.next? : Answered → Option String
  | ⟨.list _, .ok page⟩ => Page.next? page
  | ⟨.listNext _, .ok page⟩ => Page.next? page
  | _ => none

@[simp] theorem Listing.fst_exchange (listing : Listing) (answer : Except RemoteError Page) :
    (listing.exchange answer).1 = listing.request := by
  cases listing <;> rfl

@[simp] theorem Listing.next?_exchange (listing : Listing) (page : Page) :
    (listing.exchange (.ok page)).next? = page.next? := by
  cases listing <;> rfl

theorem Listing.isQuiet_request (listing : Listing) : Gathering.IsQuiet listing.request := by
  cases listing <;> simp [Gathering.IsQuiet, request, Request.kind]

end Remote

/-- The folders that are listed, in the order of the requests. -/
def listedFolders (exchanges : List Answered) : List String :=
  exchanges.filterMap fun exchange => exchange.1.listed?

/-- The cursors that are sent, in the order of the requests. -/
def resumedCursors (exchanges : List Answered) : List String :=
  exchanges.filterMap fun exchange => exchange.1.resumed?

/-- The cursors that come with pages which other pages follow. -/
def openCursors (exchanges : List Answered) : List String :=
  exchanges.filterMap Answered.next?

/-- The folder that a visit starts to list, unless it starts from a page that is there or later in
a listing. -/
def Origin.listed : Origin → List String
  | .page => []
  | .pages listing => listing.request.listed?.toList

/-- The cursor that a visit starts with, if it starts later in a listing. -/
def Origin.resumed : Origin → List String
  | .page => []
  | .pages listing => listing.request.resumed?.toList

theorem listedFolders_append (exchanges later : List Answered) :
    listedFolders (exchanges ++ later) = listedFolders exchanges ++ listedFolders later :=
  List.filterMap_append

theorem resumedCursors_append (exchanges later : List Answered) :
    resumedCursors (exchanges ++ later) = resumedCursors exchanges ++ resumedCursors later :=
  List.filterMap_append

theorem openCursors_append (exchanges later : List Answered) :
    openCursors (exchanges ++ later) = openCursors exchanges ++ openCursors later :=
  List.filterMap_append

theorem listedFolders_exchange (listing : Listing) (page : Page) (later : List Answered) :
    listedFolders (listing.exchange (.ok page) :: later) =
      (Origin.pages listing).listed ++ listedFolders later := by
  cases listing <;> rfl

theorem resumedCursors_exchange (listing : Listing) (page : Page) (later : List Answered) :
    resumedCursors (listing.exchange (.ok page) :: later) =
      (Origin.pages listing).resumed ++ resumedCursors later := by
  cases listing <;> rfl

theorem openCursors_exchange (listing : Listing) (page : Page) (later : List Answered) :
    openCursors (listing.exchange (.ok page) :: later) =
      page.next?.toList ++ openCursors later := by
  rw [openCursors, List.filterMap_cons, Listing.next?_exchange]
  cases page.next? <;> rfl

namespace Visits

variable {origin : Origin} {trees : List Tree} {exchanges : List Answered}

/-- A visit lists each folder of its trees once, in the order of the trees. -/
theorem listedFolders_eq (visits : Visits origin trees exchanges) :
    listedFolders exchanges = origin.listed ++ Tree.folderPathsOf trees := by
  induction visits with
  | nothing => rfl
  | file name path _ ih => exact ih
  | folder name path _ _ inside others =>
      rw [listedFolders_append, inside, others, Tree.folderPathsOf, Tree.folderPaths]
      rfl
  | last _ _ _ ih =>
      rw [listedFolders_exchange, ih]
      rfl
  | more _ _ _ _ here rest =>
      rw [listedFolders_exchange, listedFolders_append, here, rest, Tree.folderPathsOf_append]
      rfl

/-- A visit sends the cursor of each page that other pages follow, and each of them once. -/
theorem resumedCursors_perm (visits : Visits origin trees exchanges) :
    (resumedCursors exchanges).Perm (origin.resumed ++ openCursors exchanges) := by
  induction visits with
  | nothing => exact .refl _
  | file name path _ ih => exact ih
  | folder name path _ _ inside others =>
      rw [resumedCursors_append, openCursors_append]
      exact inside.append others
  | last _ ends _ ih =>
      rw [resumedCursors_exchange, openCursors_exchange, Page.next?, ends]
      exact ih.append_left _
  | @more listing page front back exchanges later _ goesOn _ _ here rest =>
      rw [resumedCursors_exchange, openCursors_exchange, resumedCursors_append,
        openCursors_append, Page.next?, goesOn]
      apply List.Perm.append_left
      exact (here.append rest).trans List.perm_middle

/-- A visit fetches no content. -/
theorem isQuiet (visits : Visits origin trees exchanges) :
    ∀ exchange ∈ exchanges, Gathering.IsQuiet exchange.1 := by
  induction visits with
  | nothing => simp
  | file _ _ _ ih => exact ih
  | folder _ _ _ _ inside others => exact List.forall_mem_append.mpr ⟨inside, others⟩
  | last _ _ _ ih => exact List.forall_mem_cons.mpr ⟨by simp [Listing.isQuiet_request], ih⟩
  | more _ _ _ _ here rest =>
      exact List.forall_mem_cons.mpr
        ⟨by simp [Listing.isQuiet_request], List.forall_mem_append.mpr ⟨here, rest⟩⟩

/-- The name of a tree does not matter to a visit. -/
theorem of_rename {label : String} {tree : Tree}
    (visits : Visits .page [tree.rename label] exchanges) : Visits .page [tree] exchanges := by
  cases tree with
  | file name path =>
      cases visits with
      | file _ _ others => exact .file name path others
  | folder name path items =>
      cases visits with
      | folder _ _ inside others => exact .folder name path inside others

end Visits

/-! ## Builds of the same tree -/

/-- Exchanges are in order when the root is looked up, unless it is the store root, and then what
was found there is visited. -/
structure InOrder (remotePath : String) (found : Option Tree) (exchanges : List Answered) :
    Prop where
  /-- The whole subtree of a page is visited before the next page of its folder. -/
  visits : ∃ first later, exchanges = first ++ later ∧
    first.map Sigma.fst =
      (if Build.isStoreRoot remotePath then [] else [.metadata remotePath]) ∧
    Visits .page found.toList later
  /-- Each folder of the tree is listed once. -/
  folders : listedFolders exchanges = Tree.folderPathsOf found.toList
  /-- Each page that other pages follow has its cursor sent once, and no other cursor is sent. -/
  cursors : (resumedCursors exchanges).Perm (openCursors exchanges)
  /-- No content is fetched. -/
  quiet : ∀ exchange ∈ exchanges, exchange.1.kind ≠ .download

theorem InOrder.of_visits {remotePath : String} {found : Option Tree}
    {first later : List Answered}
    (start : first.map Sigma.fst =
      if Build.isStoreRoot remotePath then [] else [.metadata remotePath])
    (visits : Visits .page found.toList later) : InOrder remotePath found (first ++ later) := by
  have lookup : first = [] ∨ ∃ answer, first = [⟨.metadata remotePath, answer⟩] := by
    split at start
    · exact .inl (List.map_eq_nil_iff.mp start)
    · obtain ⟨⟨request, answer⟩, rfl, same⟩ := List.map_eq_singleton_iff.mp start
      obtain rfl : request = .metadata remotePath := same
      exact .inr ⟨answer, rfl⟩
  have folders := visits.listedFolders_eq
  have cursors := visits.resumedCursors_perm
  have quiet := visits.isQuiet
  refine ⟨⟨first, later, rfl, start, visits⟩, ?_, ?_, ?_⟩ <;>
    rcases lookup with rfl | ⟨answer, rfl⟩
  · exact folders
  · exact folders
  · exact cursors
  · cases answer <;> exact cursors
  · exact quiet
  · exact List.forall_mem_cons.mpr ⟨by simp [Request.kind], quiet⟩

theorem Begins.requests {mountPoint remotePath : String} {found : Option Entry}
    {exchanges : List Answered} (begins : Begins mountPoint remotePath found exchanges) :
    exchanges.map Sigma.fst =
      if Build.isStoreRoot remotePath then [] else [.metadata remotePath] := by
  cases begins with
  | top isRoot => rw [if_pos isRoot, List.map_nil]
  | answered inside | notFound inside => simp [inside]

/-- Two stores agree about a remote path when both serve the same tree there, or when the lookup
of the path has the same answer in both and finds nothing. -/
inductive Agree {σ τ : Type} {store : Store σ} {other : Store τ} (paging : Paging store)
    (otherPaging : Paging other) (state : σ) (otherState : τ) (remotePath : String) :
    Option Tree → Prop where
  | tree {tree : Tree} (served : paging.ServesAt state remotePath tree)
      (otherServed : otherPaging.ServesAt otherState remotePath tree) :
      Agree paging otherPaging state otherState remotePath (some tree)
  | nothing (inside : Build.isStoreRoot remotePath = false)
      (same : (store.answer (.metadata remotePath) state).1 =
        (other.answer (.metadata remotePath) otherState).1)
      (missing : ∀ entry, (store.answer (.metadata remotePath) state).1 = .ok (some entry) →
        entry.isLive = false) :
      Agree paging otherPaging state otherState remotePath none

section

variable {σ : Type} {store : Store σ}

namespace Gathering

/-- Only a live entry is a root. -/
theorem lookedUp_ne_some {remotePath : String} {answer : Except RemoteError (Option Entry)}
    (missing : ∀ entry, answer = .ok (some entry) → entry.isLive = false) :
    ∀ entry, lookedUp remotePath answer ≠ .ok (some entry) := by
  intro entry found
  rcases answer with error | answered
  · cases error <;> simp [lookedUp] at found
  · obtain ⟨rfl, live⟩ := Option.filter_eq_some_iff.mp (Except.ok.inj found)
    rw [missing entry rfl] at live
    exact Bool.false_ne_true live

/-- Without a root nothing is gathered, and there is a single request. -/
theorem root_of_missing (limit : Nat) (mountPoint : String) {remotePath : String} {state : σ}
    (inside : Build.isStoreRoot remotePath = false)
    (missing : ∀ entry, lookedUp remotePath (store.answer (.metadata remotePath) state).1 ≠
      .ok (some entry)) :
    ((root limit mountPoint remotePath).run store state).1 =
        some ((lookedUp remotePath (store.answer (.metadata remotePath) state).1).map
          fun _ => none) ∧
      (root limit mountPoint remotePath).transcript store state =
        [⟨.metadata remotePath, (store.answer (.metadata remotePath) state).1⟩] := by
  rw [root, run_bind, transcript_bind, run_lookup mountPoint inside,
    transcript_lookup mountPoint inside]
  rcases answered : lookedUp remotePath (store.answer (.metadata remotePath) state).1 with
    error | found
  · exact ⟨rfl, rfl⟩
  · cases found with
    | none => exact ⟨rfl, rfl⟩
    | some entry => exact absurd answered (missing entry)

end Gathering

namespace Snapshot

/-- A tree that is served is planted and visited in order. -/
theorem build_in_order {paging : Paging store} {state : σ} {remotePath : String} {tree : Tree}
    (served : paging.ServesAt state remotePath tree) (mountPoint : String) :
    ∃ enough, ∀ limit ≥ enough,
      (store.run (Snapshot.build limit mountPoint remotePath) state).1 =
          some (.ok (empty.plant mountPoint tree)) ∧
        InOrder remotePath (some tree)
          (store.transcript (Snapshot.build limit mountPoint remotePath) state) := by
  obtain ⟨label, limit, next, done⟩ := Gathering.gathers_root served mountPoint
  refine ⟨limit, fun greater more => ?_⟩
  have ended := Gathering.root_within more mountPoint remotePath state _ _ done
  have account := Gathering.tells_root store greater mountPoint remotePath state
  rw [Gathering.Tells, ended, ← transcript_build] at account
  refine ⟨?_, ?_⟩
  · rw [run_build, ended]
    exact congrArg (fun snapshot => some (Except.ok snapshot)) (ofTree?_rename _ label tree)
  · generalize store.transcript (Snapshot.build greater mountPoint remotePath) state = exchanges
      at account
    cases account with
    | visited begins visits => exact .of_visits begins.requests visits.of_rename

/-- Without a root there is a single request, and its answer says how the build ends. -/
theorem build_of_missing (limit : Nat) (mountPoint : String) {remotePath : String} {state : σ}
    (inside : Build.isStoreRoot remotePath = false)
    (missing : ∀ entry, (store.answer (.metadata remotePath) state).1 = .ok (some entry) →
      entry.isLive = false) :
    (store.run (Snapshot.build limit mountPoint remotePath) state).1 =
        some ((Gathering.lookedUp remotePath (store.answer (.metadata remotePath) state).1).map
          fun _ => empty) ∧
      InOrder remotePath none
        (store.transcript (Snapshot.build limit mountPoint remotePath) state) := by
  obtain ⟨ended, exchanged⟩ := Gathering.root_of_missing limit mountPoint inside
    (Gathering.lookedUp_ne_some missing)
  have inOrder : InOrder remotePath none
      ([⟨.metadata remotePath, (store.answer (.metadata remotePath) state).1⟩] ++ []) :=
    .of_visits (by simp [inside]) .nothing
  rw [run_build, transcript_build, exchanged]
  dsimp only
  rw [ended]
  refine ⟨?_, inOrder⟩
  cases Gathering.lookedUp remotePath (store.answer (.metadata remotePath) state).1 <;> rfl

end Snapshot

end

/-- Builds from two stores that agree about the remote path end alike, with the tree that both
serve if there is one. Each sends its requests in order. -/
theorem Snapshot.build_agrees {σ τ : Type} {store : Store σ} {other : Store τ}
    {paging : Paging store} {otherPaging : Paging other} {state : σ} {otherState : τ}
    {remotePath : String} {found : Option Tree}
    (agree : Agree paging otherPaging state otherState remotePath found) (mountPoint : String) :
    ∃ outcome, (∀ tree, found = some tree → outcome = .ok (empty.plant mountPoint tree)) ∧
      ∃ enough, ∀ limit ≥ enough,
        ((store.run (Snapshot.build limit mountPoint remotePath) state).1 = some outcome ∧
          InOrder remotePath found
            (store.transcript (Snapshot.build limit mountPoint remotePath) state)) ∧
        ((other.run (Snapshot.build limit mountPoint remotePath) otherState).1 = some outcome ∧
          InOrder remotePath found
            (other.transcript (Snapshot.build limit mountPoint remotePath) otherState)) := by
  cases agree with
  | @tree tree served otherServed =>
      obtain ⟨enough, ends⟩ := build_in_order served mountPoint
      obtain ⟨otherEnough, otherEnds⟩ := build_in_order otherServed mountPoint
      refine ⟨.ok (empty.plant mountPoint tree), ?_, max enough otherEnough, fun limit more => ?_⟩
      · rintro _ ⟨⟩
        rfl
      · exact ⟨ends limit ((Nat.le_max_left _ _).trans more),
          otherEnds limit ((Nat.le_max_right _ _).trans more)⟩
  | nothing inside same missing =>
      refine ⟨_, by simp, 0, fun limit _ => ⟨build_of_missing limit mountPoint inside missing, ?_⟩⟩
      rw [same] at missing ⊢
      exact build_of_missing limit mountPoint inside missing

/-! ## The same tree with cursors that work once -/

/-- The store that brings the entries of the sample store one by one. -/
abbrev singleStore : Store Ledger :=
  onceStore fun path => (samplePages (.first path)).flatten

theorem sampleTree_servedOnce (ledger : Ledger) :
    (oncePaging _ : Paging singleStore).ServesAt ledger "/" sampleTree := by
  have notes : (oncePaging _ : Paging singleStore).Serves ledger
      (.folder "notes" "/notes" [.file "a.txt" "/notes/a.txt"]) :=
    .folder _ _ rfl rfl (by simpa using .file _ _)
  exact ⟨.folder _ _ rfl rfl (by simpa using ⟨notes, .file _ _⟩), rfl, rfl⟩

/-- A store with two pages and one with a page for each entry give the same snapshot, and both are
asked in order. -/
theorem build_agrees_sampleTree :
    ∃ enough, ∀ limit ≥ enough,
      ((sampleStore.run (Snapshot.build limit "/content/dropbox" "/") ()).1 =
          some (.ok (Snapshot.empty.plant "/content/dropbox" sampleTree)) ∧
        InOrder "/" (some sampleTree)
          (sampleStore.transcript (Snapshot.build limit "/content/dropbox" "/") ())) ∧
      ((singleStore.run (Snapshot.build limit "/content/dropbox" "/") .empty).1 =
          some (.ok (Snapshot.empty.plant "/content/dropbox" sampleTree)) ∧
        InOrder "/" (some sampleTree)
          (singleStore.transcript (Snapshot.build limit "/content/dropbox" "/") .empty)) := by
  obtain ⟨outcome, planted, ends⟩ := Snapshot.build_agrees
    (.tree sampleTree_servedAt (sampleTree_servedOnce .empty)) "/content/dropbox"
  rwa [planted sampleTree rfl] at ends

end ContentMount
