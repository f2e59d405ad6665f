/-
This file says what it means that a store serves a remote tree page by page.
-/

import ContentMount.Proofs.Remote.Tree
import ContentMount.Remote.Request

namespace ContentMount.Remote

/-- The live entries of a row of pages. -/
def liveEntries (pages : List (List Entry)) : List Entry :=
  pages.flatten.filter Entry.isLive

theorem liveEntries_cons (entries : List Entry) (rest : List (List Entry)) :
    liveEntries (entries :: rest) = entries.filter Entry.isLive ++ liveEntries rest := by
  simp [liveEntries]

/-- The request that a listing sends. -/
def Listing.request : Listing → Request
  | .first path => .list path
  | .after cursor => .listNext cursor

theorem run_askPage_snd {σ : Type} (store : Store σ) (listing : Listing) (state : σ) :
    (store.run (askPage listing) state).2 = (store.answer listing.request state).2 := by
  cases listing <;> rfl

/-- A request spares a listing unless it goes on with a cursor that uses up the cursor of the
listing. -/
def Request.Spares (spends : String → String → Prop) (request : Request) (listing : Listing) :
    Prop :=
  ∀ used cursor, request = .listNext used → listing = .after cursor → ¬spends used cursor

/-- A store pages its listings when it knows in each state which pages a listing still has to
bring. Entries of any kind may stand on a page, and a page may be empty. The listing of a folder may
be begun at any time, and a cursor has to work only once. -/
structure Paging {σ : Type} (store : Store σ) where
  /-- In a state, the listing is about to bring these pages. -/
  holds : σ → Listing → List (List Entry) → Prop
  /-- Going on with the first cursor may use up the second. Where cursors work again and again this
  is never so, and where they work once it is so for a cursor and itself. -/
  spends : String → String → Prop
  /-- The first of the pages comes, and its cursor leads to the others if there are any. -/
  page {state : σ} {listing : Listing} {pages : List (List Entry)} :
    holds state listing pages → ∃ entries rest cursor next, pages = entries :: rest ∧
      store.run (askPage listing) state = (.ok ⟨entries, cursor, !rest.isEmpty⟩, next) ∧
      (rest ≠ [] → holds next (.after cursor) rest)
  /-- Whatever is asked in between, the listing goes on with the same live entries, perhaps cut
  into other pages, as long as its cursor is not used up. -/
  keeps {state : σ} {listing : Listing} {pages : List (List Entry)} :
    holds state listing pages → ∀ request : Request, request.Spares spends listing → ∃ others,
      liveEntries others = liveEntries pages ∧
        holds (store.answer request state).2 listing others
  /-- While a cursor waits, no other listing brings one that would use it up. -/
  fresh {state : σ} {cursor : String} {pages : List (List Entry)} :
    holds state (.after cursor) pages → ∀ other : Listing,
      other.request.Spares spends (.after cursor) → ∀ page,
        (store.run (askPage other) state).1 = .ok page → page.hasMore = true →
          ¬spends page.cursor cursor

namespace Paging

variable {σ : Type} {store : Store σ} (paging : Paging store)

/-- The page that a listing brings is the first of its pages. -/
theorem page_of_run {state next : σ} {listing : Listing} {pages : List (List Entry)} {page : Page}
    (held : paging.holds state listing pages)
    (answered : store.run (askPage listing) state = (.ok page, next)) : ∃ entries rest,
      pages = entries :: rest ∧ page.live = entries.filter Entry.isLive ∧
        page.hasMore = !rest.isEmpty ∧
          (rest ≠ [] → paging.holds next (.after page.cursor) rest) := by
  obtain ⟨entries, rest, cursor, other, isRow, ran, continued⟩ := paging.page held
  obtain ⟨samePage, rfl⟩ := Prod.mk.inj (answered.symm.trans ran)
  obtain rfl := Except.ok.inj samePage
  exact ⟨entries, rest, isRow, rfl, rfl, continued⟩

/-- A state serves a tree when each folder of the tree lists its items as live entries. -/
inductive Serves (state : σ) : Tree → Prop where
  | file (name path : String) : Serves state (.file name path)
  | folder (name path : String) {items : List Tree} {pages : List (List Entry)}
      (listed : paging.holds state (.first path) pages)
      (live : liveEntries pages = items.map Tree.entry)
      (below : ∀ item ∈ items, Serves state item) : Serves state (.folder name path items)

/-- A tree is served when each of its folders lists its items. -/
theorem Serves.of_folders {state : σ} {tree : Tree}
    (listed : ∀ path items, tree.HasFolder path items → ∃ pages,
      paging.holds state (.first path) pages ∧ liveEntries pages = items.map Tree.entry) :
    paging.Serves state tree := by
  induction tree using Tree.induction with
  | file name path => exact .file name path
  | folder name path items ih =>
      obtain ⟨pages, held, live⟩ := listed path items (.here name path items)
      refine .folder name path held live fun item member => ih item member ?_
      exact fun inner others inside => listed inner others (.down name path member inside)

/-- In a state, the listing is about to bring these live entries. -/
def Awaits (state : σ) (listing : Listing) (live : List Entry) : Prop :=
  ∃ pages, liveEntries pages = live ∧ paging.holds state listing pages

variable {paging}

/-- A listing is awaited as before after a request that spares it. -/
theorem Awaits.answer {state : σ} {listing : Listing} {live : List Entry}
    (awaits : paging.Awaits state listing live) {request : Request}
    (spares : request.Spares paging.spends listing) :
    paging.Awaits (store.answer request state).2 listing live := by
  obtain ⟨pages, rfl, held⟩ := awaits
  exact paging.keeps held request spares

/-- The listing of a folder may be begun after whole programs, too. -/
theorem Awaits.run {state : σ} {path : String} {live : List Entry}
    (awaits : paging.Awaits state (.first path) live) {α : Type} (program : Asking α) :
    paging.Awaits (store.run program state).2 (.first path) live := by
  induction program generalizing state with
  | done result => exact awaits
  | ask request next ih =>
      have spares : request.Spares paging.spends (.first path) := by
        rintro used cursor - ⟨⟩
      exact ih _ (awaits.answer spares)

/-- A tree that is served stays served. -/
theorem Serves.run {state next : σ} {tree : Tree} (served : paging.Serves state tree) {α : Type}
    {program : Asking α} (ran : (store.run program state).2 = next) :
    paging.Serves next tree := by
  subst ran
  induction served with
  | file name path => exact .file name path
  | folder name path listed live below ih =>
      have awaits : paging.Awaits state (.first path) _ := ⟨_, live, listed⟩
      obtain ⟨pages, same, held⟩ := awaits.run program
      exact .folder name path held same ih

end Paging

end ContentMount.Remote
