/-
This file shows that a gathering never ends when a folder leads to a folder like itself again and
again. However great the limit is, it is used up.
-/

import ContentMount.Proofs.Build.Outcome

namespace ContentMount

open Remote

variable {σ α β : Type} {store : Store σ}

namespace Gathering

/-- A gathering that does not give up has a result with the property. It never fails. -/
def Yields (store : Store σ) (gathering : Gathering α) (state : σ) (property : α → Prop) : Prop :=
  ∀ outcome next, gathering.run store state = (some outcome, next) →
    ∃ result, outcome = .ok result ∧ property result

theorem Yields.pure {result : α} {property : α → Prop} (holds : property result) (state : σ) :
    Yields store (pure result) state property := by
  intro outcome next ended
  rw [run_pure] at ended
  obtain ⟨same, -⟩ := Prod.mk.inj ended
  exact ⟨result, (Option.some.inj same).symm, holds⟩

/-- A gathering goes on from what the one before it yields. -/
theorem Yields.bind {first : Gathering α} {second : α → Gathering β} {state : σ}
    {between : α → Prop} {property : β → Prop} (start : Yields store first state between)
    (rest : ∀ result next, first.run store state = (some (.ok result), next) → between result →
      Yields store (second result) next property) :
    Yields store (first >>= second) state property := by
  intro outcome next ended
  rw [run_bind] at ended
  rcases began : first.run store state with ⟨_ | reached, middle⟩
  · simp [began] at ended
  · obtain ⟨result, rfl, holds⟩ := start _ _ began
    rw [began] at ended
    exact rest result middle began holds outcome next ended

/-- A gathering without a possible result gives up. -/
theorem Yields.eq_none {gathering : Gathering α} {state : σ}
    (impossible : Yields store gathering state fun _ => False) :
    (gathering.run store state).1 = none := by
  rcases ended : gathering.run store state with ⟨_ | outcome, next⟩
  · rfl
  · obtain ⟨-, -, contradiction⟩ := impossible _ _ ended
    exact contradiction.elim

end Gathering

/-- Doomed entries are folders that list another doomed entry. The store lists every folder. -/
structure Remote.Paging.Dooms (paging : Paging store) (doomed : Entry → Prop) : Prop where
  lists : ∀ state path, ∃ pages, paging.holds state (.first path) pages
  folder : ∀ entry, doomed entry → entry.kind = .folder
  again : ∀ entry, doomed entry → ∀ state, ∃ pages,
    paging.holds state (.first entry.path) pages ∧ ∃ inner ∈ liveEntries pages, doomed inner

namespace Gathering

variable {paging : Paging store} {doomed : Entry → Prop}

section

variable {limit : Nat}
  (listed : ∀ (state : σ) place listing pages, paging.holds state listing pages →
    Yields store (items limit place listing) state fun _ =>
      ∀ entry ∈ liveEntries pages, ¬doomed entry)
include listed

/-- An entry whose gathering ends is not doomed. -/
theorem yields_entry (dooms : paging.Dooms doomed) (place : String) (found : Entry) (state : σ) :
    Yields store (entry (items limit) place found) state fun _ => ¬doomed found := by
  have folder : Yields store (items limit place (.first found.path)) state
      fun _ => ¬doomed found := by
    by_cases bad : doomed found
    · obtain ⟨pages, held, inner, member, innerBad⟩ := dooms.again found bad state
      intro outcome next ended
      obtain ⟨result, -, good⟩ := listed state place _ pages held outcome next ended
      exact absurd innerBad (good inner member)
    · obtain ⟨pages, held⟩ := dooms.lists state found.path
      intro outcome next ended
      obtain ⟨result, same, -⟩ := listed state place _ pages held outcome next ended
      exact ⟨result, same, bad⟩
  unfold entry
  cases kind : found.kind with
  | file =>
      refine .pure (fun bad => ?_) state
      rw [dooms.folder found bad] at kind
      exact EntryKind.noConfusion kind
  | folder => exact folder.bind fun _ next _ good => .pure (by exact good) next
  | deleted => exact folder.bind fun _ next _ good => .pure (by exact good) next

/-- No entry on a page whose gathering ends is doomed. -/
theorem yields_entries (dooms : paging.Dooms doomed) (place : String) (found : List Entry)
    (state : σ) :
    Yields store (entries (items limit) place found) state fun _ =>
      ∀ entry ∈ found, ¬doomed entry := by
  induction found generalizing state with
  | nil => exact .pure (by simp) state
  | cons first rest ih =>
      rw [entries_cons]
      apply (yields_entry listed dooms _ first state).bind
      intro _ middle _ good
      refine (ih middle).bind fun _ next _ others => .pure ?_ next
      intro entry member
      rcases List.mem_cons.mp member with rfl | later
      · exact good
      · exact others entry later

end

/-- A listing whose gathering ends has no doomed entry. -/
theorem yields_items (dooms : paging.Dooms doomed) (limit : Nat) (state : σ) (place : String)
    (listing : Listing) (pages : List (List Entry)) (held : paging.holds state listing pages) :
    Yields store (items limit place listing) state
      fun _ => ∀ entry ∈ liveEntries pages, ¬doomed entry := by
  induction limit generalizing state place listing pages with
  | zero => intro outcome next ended; simp [items] at ended
  | succ limit ih =>
      obtain ⟨found, rest, cursor, next, rfl, answered, continued⟩ := paging.page held
      intro outcome final ended
      rw [items, run_bind_of_ok (run_consult_of_ok answered)] at ended
      refine ((yields_entries ih dooms place _ next).bind ?_) outcome final ended
      intro front middle gathered good
      by_cases last : rest = []
      · subst last
        exact .pure (by simpa [liveEntries, Page.live] using good) middle
      · have more : (!rest.isEmpty) = true := by simpa using last
        obtain ⟨others, same, heldLater⟩ := awaits_of_entries (continued last) gathered
        simp only [more, if_true]
        refine (ih middle place _ others heldLater).bind fun back state _ goodLater =>
          .pure ?_ state
        intro entry member
        rw [liveEntries_cons, List.mem_append] at member
        rcases member with here | later
        · exact good entry here
        · exact goodLater entry (same ▸ later)

end Gathering

/-- A build that starts from a doomed entry never ends. -/
theorem Snapshot.build_eq_none {paging : Paging store} {doomed : Entry → Prop}
    (dooms : paging.Dooms doomed) {mountPoint remotePath : String} {state next : σ} {entry : Entry}
    (start : (Gathering.rootEntry mountPoint remotePath).run store state =
      (some (.ok (some entry)), next)) (bad : doomed entry) (limit : Nat) :
    (store.run (Snapshot.build limit mountPoint remotePath) state).1 = none := by
  have gathered : Gathering.Yields store (Gathering.root limit mountPoint remotePath) state
      fun _ => False := by
    intro outcome final ended
    rw [Gathering.root, Gathering.run_bind_of_ok start] at ended
    refine ((Gathering.yields_entry (Gathering.yields_items dooms limit) dooms remotePath entry
      next).bind fun _ later _ good => absurd bad good) outcome final ended
  rw [run_build]
  simp [gathered.eq_none]

end ContentMount
