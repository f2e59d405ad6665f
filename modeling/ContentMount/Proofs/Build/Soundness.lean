/-
This file shows that a gathering that ends has read what the store lists. The folders of its tree
have the items that are listed for them, and its exchanges are in order for this tree only.
-/

import ContentMount.Proofs.Build.Agreement

namespace ContentMount

open Remote

variable {σ α β : Type} {store : Store σ}

/-- The items of each folder of a tree are what the store lists for the folder, if that is the same
at any time. -/
def Remote.Paging.Confirms (paging : Paging store) (tree : Tree) : Prop :=
  ∀ path items, tree.HasFolder path items → ∀ pages,
    (∀ state, paging.holds state (.first path) pages) → liveEntries pages = items.map Tree.entry

/-- In a finite tree, no folder lists a folder that has its own path. -/
theorem Remote.Paging.Confirms.path_ne {paging : Paging store} {tree : Tree}
    (confirms : paging.Confirms tree) {path : String} {items : List Tree}
    (has : tree.HasFolder path items) {pages : List (List Entry)}
    (held : ∀ state, paging.holds state (.first path) pages) {entry : Entry}
    (member : entry ∈ liveEntries pages) (isFolder : entry.kind = .folder) :
    entry.path ≠ path := by
  rintro rfl
  induction tree using Tree.induction generalizing items with
  | file name path => cases has
  | folder name path contents ih =>
      have inside (item : Tree) (among : item ∈ contents) : paging.Confirms item :=
        fun inner others itemHas => confirms inner others (.down name path among itemHas)
      cases has with
      | down _ _ among has => exact ih _ among (inside _ among) has
      | here =>
          rw [confirms entry.path contents (.here name entry.path contents) pages held] at member
          obtain ⟨item, among, rfl⟩ := List.mem_map.mp member
          cases item with
          | file => exact absurd isFolder EntryKind.noConfusion
          | folder other source others =>
              exact ih _ among (inside _ among) (.here other source others)

namespace Gathering

/-- What is gathered of a live entry is a tree that the entry reports. -/
theorem entry_of_run {list : String → Listing → Gathering (List Tree)} {path : String}
    {entry : Entry} {state : σ} {tree : Tree} (live : entry.isLive = true)
    (done : ((Gathering.entry list path entry).run store state).1 = some (.ok tree)) :
    tree.entry = entry := by
  rcases entry with ⟨kind, name, location⟩
  cases kind with
  | file =>
      obtain rfl : Tree.file name location = tree := by simpa [Gathering.entry] using done
      rfl
  | folder =>
      simp only [Gathering.entry, run_bind] at done
      rcases listed : (list path (.first location)).run store state with ⟨_ | _ | items, next⟩
      · simp [listed] at done
      · simp [listed] at done
      · obtain rfl : Tree.folder name location items = tree := by simpa [listed] using done
        rfl
  | deleted => simp [Entry.isLive] at live

section

variable (paging : Paging store)

/-- Trees are read from a listing when their entries are what the listing brings, and the folders of
each tree are as the store lists them. -/
structure ReadFrom (state : σ) (listing : Listing) (trees : List Tree) : Prop where
  entries : ∀ pages, paging.holds state listing pages → liveEntries pages = trees.map Tree.entry
  inside : ∀ tree ∈ trees, paging.Confirms tree

variable {paging}

section

variable {limit : Nat} (listed : ∀ place listing (state : σ),
  Brings store (items limit place listing) state fun trees _ =>
    ReadFrom paging state listing trees)
include listed

theorem brings_entry {found : Entry} (live : found.isLive = true) (place : String) (state : σ) :
    Brings store (entry (items limit) place found) state
      fun tree _ => tree.entry = found ∧ paging.Confirms tree := by
  intro tree next done
  refine ⟨entry_of_run live (congrArg Prod.fst done), ?_⟩
  rcases found with ⟨kind, name, path⟩
  cases kind with
  | file =>
      obtain rfl : Tree.file name path = tree := by simpa [entry] using congrArg Prod.fst done
      rintro inner others ⟨⟩
  | folder =>
      have folder : Brings store (entry (items limit) place ⟨.folder, name, path⟩) state
          fun tree _ => paging.Confirms tree := by
        refine (listed place (.first path) state).bind fun contents middle _ read => .pure ?_
        intro inner others inside pages held
        cases inside with
        | here => exact read.entries pages (held state)
        | down _ _ member inside => exact read.inside _ member inner others inside pages held
      exact folder tree next done
  | deleted => simp [Entry.isLive] at live

theorem brings_entries {found : List Entry} (live : ∀ entry ∈ found, entry.isLive = true)
    (place : String) (state : σ) :
    Brings store (entries (items limit) place found) state
      fun trees _ => trees.map Tree.entry = found ∧ ∀ tree ∈ trees, paging.Confirms tree := by
  induction found generalizing state with
  | nil => exact .pure ⟨rfl, by simp⟩
  | cons first rest ih =>
      obtain ⟨firstLive, restLive⟩ := List.forall_mem_cons.mp live
      rw [entries_cons]
      refine (brings_entry listed firstLive _ state).bind ?_
      rintro tree middle - ⟨entry, inside⟩
      refine (ih restLive middle).bind ?_
      rintro trees next - ⟨entries, others⟩
      exact .pure ⟨by rw [List.map_cons, entry, entries],
        List.forall_mem_cons.mpr ⟨inside, others⟩⟩

end

/-- The items that a listing ends with are read from it. -/
theorem brings_items (limit : Nat) (place : String) (listing : Listing) (state : σ) :
    Brings store (items limit place listing) state fun trees _ =>
      ReadFrom paging state listing trees := by
  induction limit generalizing place listing state with
  | zero => intro result next ended; simp [items] at ended
  | succ limit ih =>
      rw [items]
      refine (brings_consult place (askPage listing) state).bind fun page next _ answered => ?_
      have live : ∀ entry ∈ page.live, entry.isLive = true :=
        fun entry member => (List.mem_filter.mp member).2
      refine (brings_entries ih live place next).bind ?_
      rintro front middle gathered ⟨frontEntries, frontInside⟩
      cases more : page.hasMore with
      | false =>
          refine .pure ⟨fun pages held => ?_, frontInside⟩
          obtain ⟨entries, rest, rfl, isLive, goesOn, -⟩ := paging.page_of_run held answered
          obtain rfl : rest = [] := by simpa [more] using goesOn
          rw [frontEntries, isLive, liveEntries_cons]
          exact List.append_nil _
      | true =>
          rw [if_pos rfl]
          refine (ih place (.after page.cursor) middle).bind fun back last _ read =>
            .pure ⟨fun pages held => ?_, List.forall_mem_append.mpr ⟨frontInside, read.inside⟩⟩
          obtain ⟨entries, rest, rfl, isLive, goesOn, continued⟩ :=
            paging.page_of_run held answered
          have notLast : rest ≠ [] := by simpa [more] using goesOn
          obtain ⟨others, same, heldLater⟩ := awaits_of_entries (continued notLast) gathered
          rw [liveEntries_cons, List.map_append, frontEntries, isLive, ← same,
            read.entries others heldLater]

end

/-- What is gathered of a whole tree is reported by the entry that is found at its root. -/
theorem brings_root {paging : Paging store} {mountPoint remotePath : String} {state next : σ}
    {found : Entry}
    (start : (rootEntry mountPoint remotePath).run store state = (some (.ok (some found)), next))
    (limit : Nat) :
    Brings store (root limit mountPoint remotePath) state
      fun tree? _ => ∃ tree, tree? = some tree ∧ tree.entry = found ∧ paging.Confirms tree := by
  have live : found.isLive = true := by
    have account : Tells store (rootEntry mountPoint remotePath) state
        (StartAccount mountPoint remotePath) := tells_rootEntry mountPoint remotePath state
    rw [Tells, start] at account
    generalize (rootEntry mountPoint remotePath).transcript store state = exchanges at account
    cases account with
    | begun begins =>
        cases begins with
        | top => rfl
        | answered inside kept => exact (Option.filter_eq_some_iff.mp kept).2
  have read : Brings store (entry (items limit) remotePath found) next
      fun tree _ => tree.entry = found ∧ paging.Confirms tree :=
    brings_entry (brings_items limit) live remotePath next
  have gathered : Brings store
      (entry (items limit) remotePath found >>= fun tree => pure (some tree)) next
        fun tree? _ => ∃ tree, tree? = some tree ∧ tree.entry = found ∧ paging.Confirms tree :=
    read.bind fun tree middle _ facts => .pure ⟨tree, rfl, facts⟩
  intro tree? last ended
  rw [root, run_bind_of_ok start] at ended
  exact gathered tree? last ended

/-- The exchanges of a gathering are in order for the tree that is gathered. -/
theorem inOrder_of_run {limit : Nat} {mountPoint remotePath : String} {state : σ}
    {gathered : Tree}
    (done : ((root limit mountPoint remotePath).run store state).1 = some (.ok (some gathered))) :
    InOrder remotePath (some gathered)
      ((root limit mountPoint remotePath).transcript store state) := by
  have account := tells_root store limit mountPoint remotePath state
  rw [Tells, done] at account
  generalize (root limit mountPoint remotePath).transcript store state = whole at account
  cases account with
  | visited begins visits => exact .of_visits begins.requests visits

/-- Exchanges that are in order for a tree visit it as they visit the tree that is gathered. -/
theorem exists_visits {limit : Nat} {mountPoint remotePath : String} {state : σ}
    {gathered tree : Tree}
    (done : ((root limit mountPoint remotePath).run store state).1 = some (.ok (some gathered)))
    (inOrder : InOrder remotePath (some tree)
      ((root limit mountPoint remotePath).transcript store state)) :
    ∃ exchanges, Visits .page [gathered] exchanges ∧ Visits .page [tree] exchanges := by
  obtain ⟨first, exchanges, split, start, gatheredVisits⟩ := (inOrder_of_run done).visits
  obtain ⟨other, later, otherSplit, otherStart, visits⟩ := inOrder.visits
  have lengths := congrArg List.length (start.trans otherStart.symm)
  rw [List.length_map, List.length_map] at lengths
  obtain ⟨-, rfl⟩ := List.append_inj (split.symm.trans otherSplit) lengths
  exact ⟨exchanges, gatheredVisits, visits⟩

end Gathering

namespace Visits

theorem of_folder {name path : String} {items : List Tree} {exchanges : List Answered}
    (visits : Visits .page [.folder name path items] exchanges) :
    Visits (.pages (.first path)) items exchanges := by
  cases visits with
  | folder _ _ inside others =>
      cases others
      rwa [List.append_nil]

theorem exists_page {listing : Listing} {items : List Tree} {exchanges : List Answered}
    (visits : Visits (.pages listing) items exchanges) :
    ∃ page later, exchanges = listing.exchange (.ok page) :: later := by
  cases visits with
  | last => exact ⟨_, _, rfl⟩
  | more => exact ⟨_, _, rfl⟩

/-- Folders that are visited alike have the same path and the same items. -/
theorem folder_unique {name path other otherPath : String} {items others : List Tree}
    {exchanges : List Answered} (first : Visits .page [.folder name path items] exchanges)
    (second : Visits .page [.folder other otherPath others] exchanges) :
    path = otherPath ∧ items = others := by
  obtain ⟨page, later, split⟩ := first.of_folder.exists_page
  obtain ⟨otherPage, otherLater, otherSplit⟩ := second.of_folder.exists_page
  have exchanged := (List.cons.inj (split.symm.trans otherSplit)).1
  obtain rfl : path = otherPath := Request.list.inj (congrArg Sigma.fst exchanged)
  have whole : exchanges ++ [] = exchanges ++ [] := rfl
  exact ⟨rfl, (first.of_folder.unique second.of_folder (by simp) whole).1⟩

end Visits

end ContentMount
