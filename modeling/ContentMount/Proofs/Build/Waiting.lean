/-
This file shows that a cursor waits through everything that is gathered before its turn. That it
works only once does no harm.
-/

import ContentMount.Proofs.Build.Run
import ContentMount.Proofs.Remote.Serving

namespace ContentMount.Gathering

open Remote

variable {σ α β : Type} {store : Store σ}

/-- What the gathering ends with, and the state after it, have the property, unless the gathering
fails or gives up. -/
def Brings (store : Store σ) (gathering : Gathering α) (state : σ) (property : α → σ → Prop) :
    Prop :=
  ∀ result next, gathering.run store state = (some (.ok result), next) → property result next

theorem Brings.pure {result : α} {state : σ} {property : α → σ → Prop}
    (holds : property result state) : Brings store (pure result) state property := by
  intro other next ended
  rw [run_pure] at ended
  obtain ⟨same, rfl⟩ := Prod.mk.inj ended
  exact Except.ok.inj (Option.some.inj same) ▸ holds

/-- A gathering goes on from what the one before it brings. -/
theorem Brings.bind {first : Gathering α} {second : α → Gathering β} {state : σ}
    {between : α → σ → Prop} {property : β → σ → Prop} (start : Brings store first state between)
    (rest : ∀ result next, first.run store state = (some (.ok result), next) →
      between result next → Brings store (second result) next property) :
    Brings store (first >>= second) state property := by
  intro outcome final ended
  rw [run_bind] at ended
  rcases began : first.run store state with ⟨_ | error | result, next⟩
  · simp [began] at ended
  · simp [began] at ended
  · rw [began] at ended
    exact rest result next began (start result next began) outcome final ended

theorem Brings.of_run {gathering : Gathering α} {state : σ} {property : α → Prop}
    (brings : Brings store gathering state fun result _ => property result) {result : α}
    (done : (gathering.run store state).1 = some (.ok result)) : property result :=
  brings result (gathering.run store state).2 (Prod.ext done rfl)

/-- What a gathering gets for a question is what the store answers. -/
theorem brings_consult (path : String) (question : Asking (Except RemoteError α)) (state : σ) :
    Brings store (consult path question) state fun answer next =>
      store.run question state = (.ok answer, next) :=
  fun _ _ consulted => run_of_consult consulted

section

variable (paging : Paging store) (cursor : String) (live : List Entry)

/-- When live entries are awaited under the cursor, they still are after the gathering. -/
def Spares (gathering : Gathering α) : Prop :=
  ∀ state, paging.Awaits state (.after cursor) live →
    Brings store gathering state fun _ next => paging.Awaits next (.after cursor) live

variable {paging cursor live}

theorem Spares.pure (result : α) : Spares paging cursor live (pure result : Gathering α) :=
  fun _ awaits => .pure awaits

theorem Spares.bind {first : Gathering α} {second : α → Gathering β}
    (start : Spares paging cursor live first)
    (rest : ∀ result, Spares paging cursor live (second result)) :
    Spares paging cursor live (first >>= second) :=
  fun state awaits => (start state awaits).bind fun result next _ waiting =>
    rest result next waiting

variable {limit : Nat}
  (listed : ∀ place path, Spares paging cursor live (items limit place (.first path)))
include listed

theorem spares_entry (place : String) (found : Entry) :
    Spares paging cursor live (entry (items limit) place found) := by
  unfold entry
  cases found.kind with
  | file => exact .pure _
  | folder => exact (listed place _).bind fun _ => .pure _
  | deleted => exact (listed place _).bind fun _ => .pure _

theorem spares_entries (place : String) (found : List Entry) :
    Spares paging cursor live (entries (items limit) place found) := by
  induction found with
  | nil => exact .pure _
  | cons first rest ih =>
      rw [entries_cons]
      exact (spares_entry listed _ first).bind fun _ => ih.bind fun _ => .pure _

end

/-- A cursor waits through the gathering of a listing whose own cursor does not use it up. The
cursors that this gathering gets in turn are fresh. -/
theorem spares_items {paging : Paging store} {cursor : String} {live : List Entry} (limit : Nat)
    (place : String) {listing : Listing}
    (spares : listing.request.Spares paging.spends (.after cursor)) :
    Spares paging cursor live (items limit place listing) := by
  induction limit generalizing place listing with
  | zero =>
      intro state _ result next ended
      simp [items] at ended
  | succ limit ih =>
      intro state awaits
      rw [items]
      refine (brings_consult place (askPage listing) state).bind fun page next _ answered => ?_
      have fresh (more : page.hasMore = true) : ¬paging.spends page.cursor cursor := by
        obtain ⟨pages, -, held⟩ := awaits
        exact paging.fresh held listing spares page (congrArg Prod.fst answered) more
      have waits : paging.Awaits next (.after cursor) live := by
        have asked : (store.answer listing.request state).2 = next :=
          (run_askPage_snd store listing state).symm.trans (congrArg Prod.snd answered)
        exact asked ▸ awaits.answer spares
      have listed (place path : String) :
          Spares paging cursor live (items limit place (.first path)) :=
        ih place (by rintro used cursor ⟨⟩)
      refine (spares_entries listed place page.live next waits).bind
        fun front middle _ waiting => ?_
      cases more : page.hasMore with
      | false => exact .pure waiting
      | true =>
          have later : (Listing.after page.cursor).request.Spares paging.spends
              (.after cursor) := by
            rintro used other ⟨⟩ ⟨⟩
            exact fresh more
          rw [if_pos rfl]
          exact (ih place later middle waiting).bind fun back last _ awaited => .pure awaited

/-- A cursor waits while the entries of its page are gathered. -/
theorem awaits_of_entries {paging : Paging store} {cursor place : String} {found : List Entry}
    {limit : Nat} {state next : σ} {pages : List (List Entry)} {trees : List Tree}
    (held : paging.holds state (.after cursor) pages)
    (gathered : (entries (items limit) place found).run store state = (some (.ok trees), next)) :
    ∃ others, liveEntries others = liveEntries pages ∧
      paging.holds next (.after cursor) others := by
  have listed (place path : String) :
      Spares paging cursor (liveEntries pages) (items limit place (.first path)) :=
    spares_items limit place (by rintro used cursor ⟨⟩)
  exact spares_entries listed place found state ⟨pages, rfl, held⟩ trees next gathered

end ContentMount.Gathering
