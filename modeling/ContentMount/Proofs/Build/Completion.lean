/-
This file shows that a tree is gathered as a whole when the store serves it. The limit only has to
be great enough.
-/

import ContentMount.Proofs.Build.Waiting

namespace ContentMount.Gathering

open Remote

variable {σ α : Type} {store : Store σ}

/-- With some limit the gathering ends with the result. -/
def Gathers (store : Store σ) (gather : Nat → Gathering α) (state : σ) (result : α) : Prop :=
  ∃ limit next, (gather limit).run store state = (some (.ok result), next)

theorem gathers_entry_file (name path : String) (place : String) (state : σ) :
    Gathers store (fun limit => entry (items limit) place (Tree.file name path).entry) state
      (.file name path) :=
  ⟨0, state, rfl⟩

theorem gathers_entry_folder {name path place : String} {contents : List Tree} {state : σ}
    (gathered : Gathers store (fun limit => items limit place (.first path)) state contents) :
    Gathers store (fun limit => entry (items limit) place (Tree.folder name path contents).entry)
      state (.folder name path contents) := by
  obtain ⟨limit, next, done⟩ := gathered
  refine ⟨limit, next, ?_⟩
  simp only [entry, Tree.entry]
  rw [run_bind_of_ok done, run_pure]

section

variable (paging : Paging store)

/-- Each state that serves the tree gathers it from its entry. -/
def Complete (tree : Tree) : Prop :=
  ∀ state place, paging.Serves state tree →
    Gathers store (fun limit => entry (items limit) place tree.entry) state tree

variable {paging}

/-- The trees of a page are gathered one after the other. -/
theorem gathers_entries {trees : List Tree} (complete : ∀ tree ∈ trees, Complete paging tree)
    {state : σ} (served : ∀ tree ∈ trees, paging.Serves state tree) (place : String) :
    Gathers store (fun limit => entries (items limit) place (trees.map Tree.entry)) state
      trees := by
  induction trees generalizing state with
  | nil => exact ⟨0, state, rfl⟩
  | cons tree rest ih =>
      obtain ⟨firstLimit, middle, first⟩ := complete tree (by simp) state
        (Path.below place tree.entry.name) (served tree (by simp))
      obtain ⟨restLimit, next, later⟩ :=
        ih (fun other member => complete other (by simp [member]))
          (fun other member => (served other (by simp [member])).run (congrArg Prod.snd first))
      have firstDone := Within.entry (items_within (Nat.le_max_left firstLimit restLimit))
        (Path.below place tree.entry.name) tree.entry state _ _ first
      have laterDone := entries_within (Nat.le_max_right firstLimit restLimit) place
        (rest.map Tree.entry) middle _ _ later
      refine ⟨max firstLimit restLimit, next, ?_⟩
      beta_reduce
      rw [List.map_cons, entries_cons, run_bind_of_ok firstDone, run_bind_of_ok laterDone,
        run_pure]

/-- A page is gathered with the pages after it. -/
theorem gathers_page {place : String} {state next middle : σ} {listing : Listing} {page : Page}
    {front back : List Tree} {frontLimit : Nat}
    (answered : store.run (askPage listing) state = (.ok page, next))
    (gathered : (entries (items frontLimit) place page.live).run store next =
      (some (.ok front), middle))
    (last : page.hasMore = false → back = [])
    (later : page.hasMore = true →
      Gathers store (fun limit => items limit place (.after page.cursor)) middle back) :
    Gathers store (fun limit => items limit place listing) state (front ++ back) := by
  have consulted : (consult place (askPage listing)).run store state =
      (some (.ok page), next) := run_consult_of_ok answered
  cases more : page.hasMore with
  | false =>
      refine ⟨frontLimit + 1, middle, ?_⟩
      beta_reduce
      rw [items, run_bind_of_ok consulted, run_bind_of_ok gathered, last more]
      simp [more]
  | true =>
      obtain ⟨backLimit, final, rest⟩ := later more
      have frontDone := entries_within (Nat.le_max_left frontLimit backLimit) place _ next _ _
        gathered
      have backDone := items_within (Nat.le_max_right frontLimit backLimit) place _ middle _ _
        rest
      refine ⟨max frontLimit backLimit + 1, final, ?_⟩
      beta_reduce
      rw [items, run_bind_of_ok consulted, run_bind_of_ok frontDone, more, if_pos rfl,
        run_bind_of_ok backDone, run_pure]

/-- A listing is gathered page by page. A page with live entries leaves fewer of them, and a page
without any leaves fewer pages. -/
theorem gathers_items {trees : List Tree} (complete : ∀ tree ∈ trees, Complete paging tree)
    {state : σ} {listing : Listing} {pages : List (List Entry)}
    (held : paging.holds state listing pages)
    (live : liveEntries pages = trees.map Tree.entry)
    (served : ∀ tree ∈ trees, paging.Serves state tree) (place : String) :
    Gathers store (fun limit => items limit place listing) state trees := by
  induction count : trees.length using Nat.strongRecOn
    generalizing trees state listing pages with
  | ind size fewer =>
  induction pages generalizing state listing with
  | nil =>
      obtain ⟨_, _, _, _, none, _⟩ := paging.page held
      simp at none
  | cons found rest shorter =>
      obtain ⟨_, _, cursor, next, same, answered, continued⟩ := paging.page held
      obtain ⟨rfl, rfl⟩ := List.cons.inj same
      rw [liveEntries_cons] at live
      obtain ⟨front, back, rfl, frontLive, backLive⟩ := List.map_eq_append_iff.mp live.symm
      have servedNext : ∀ tree ∈ front ++ back, paging.Serves next tree :=
        fun tree member => (served tree member).run (congrArg Prod.snd answered)
      obtain ⟨frontLimit, middle, gathered⟩ := gathers_entries
        (fun tree member => complete tree (List.mem_append_left back member))
        (fun tree member => servedNext tree (List.mem_append_left back member)) place
      have servedLater : ∀ tree ∈ back, paging.Serves middle tree := fun tree member =>
        (servedNext tree (List.mem_append_right front member)).run (congrArg Prod.snd gathered)
      have completeLater : ∀ tree ∈ back, Complete paging tree :=
        fun tree member => complete tree (List.mem_append_right front member)
      apply gathers_page answered (frontLive ▸ gathered)
      · intro last
        obtain rfl : rest = [] := by simpa using last
        simpa [liveEntries] using backLive
      · intro more
        have continues : rest ≠ [] := by simpa using more
        cases front with
        | nil =>
            obtain rfl : next = middle := congrArg Prod.snd gathered
            exact shorter (continued continues) backLive.symm servedLater
        | cons first others =>
            obtain ⟨pages, same, heldLater⟩ := awaits_of_entries (continued continues) gathered
            have smaller : back.length < size := by
              rw [← count, List.length_append, List.length_cons]
              omega
            exact fewer back.length smaller completeLater heldLater (same.trans backLive.symm)
              servedLater rfl

/-- A tree that is served is gathered. -/
theorem complete (paging : Paging store) (tree : Tree) : Complete paging tree := by
  induction tree using Tree.induction with
  | file name path => exact fun state place _ => gathers_entry_file name path place state
  | folder name path contents ih =>
      intro state place served
      cases served with
      | folder _ _ listed live below =>
          exact gathers_entry_folder (gathers_items ih listed live below place)

end

end ContentMount.Gathering
