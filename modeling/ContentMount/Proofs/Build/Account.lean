/-
This file gives an account of every build, whatever the store answers: it visits the whole tree, or
it breaks off with an error that names the folder, or it uses up its limit.
-/

import ContentMount.Proofs.Build.Outcome
import ContentMount.Proofs.Build.Visit

namespace ContentMount

open Remote

namespace Gathering

variable {σ α β : Type} {store : Store σ}

/-- What a gathering and the store exchange from a state on. -/
def transcript (store : Store σ) (gathering : Gathering α) (state : σ) : List Answered :=
  store.transcript gathering state

@[simp] theorem transcript_pure (result : α) (state : σ) :
    (pure result : Gathering α).transcript store state = [] := rfl

@[simp] theorem transcript_giveUp (state : σ) :
    (giveUp : Gathering α).transcript store state = [] := rfl

theorem transcript_bind (first : Gathering α) (second : α → Gathering β) (state : σ) :
    (first >>= second).transcript store state = first.transcript store state ++
      match first.run store state with
      | (some (.ok result), next) => (second result).transcript store next
      | _ => [] := by
  rw [bind_eq, transcript, Store.transcript, Dialogue.transcript_bind, run, Store.run]
  rcases Dialogue.run store.answer first state with ⟨_ | _ | _, next⟩ <;> rfl

theorem transcript_consult (path : String) (question : Asking (Except RemoteError α))
    (state : σ) :
    (consult path question).transcript store state = store.transcript question state := by
  have split : (consult path question).transcript store state =
      store.transcript (Dialogue.bind question fun answer =>
        .done (some (answer.mapError (MountError.build path)))) state := by
    refine congrArg (fun rest => store.transcript (Dialogue.bind question rest) state)
      (funext fun answer => ?_)
    cases answer <;> rfl
  rw [split, Store.transcript, Dialogue.transcript_bind]
  exact List.append_nil _

theorem transcript_askPage (listing : Listing) (state : σ) :
    store.transcript (askPage listing) state =
      [listing.exchange (store.run (askPage listing) state).1] := by
  cases listing <;> rfl

/-- What comes of a gathering goes with what it exchanges. -/
def Tells (store : Store σ) (gathering : Gathering α) (state : σ)
    (account : Option (Except MountError α) → List Answered → Prop) : Prop :=
  account (gathering.run store state).1 (gathering.transcript store state)

/-- A gathering goes on from a result, and any other outcome is the last. -/
theorem Tells.bind {first : Gathering α} {second : α → Gathering β} {state : σ}
    {start : Option (Except MountError α) → List Answered → Prop}
    {account : Option (Except MountError β) → List Answered → Prop}
    (tells : Tells store first state start)
    (good : ∀ result next exchanges, start (some (.ok result)) exchanges →
      Tells store (second result) next fun outcome later => account outcome (exchanges ++ later))
    (bad : ∀ error exchanges, start (some (.error error)) exchanges →
      account (some (.error error)) exchanges)
    (open_ : ∀ exchanges, start none exchanges → account none exchanges) :
    Tells store (first >>= second) state account := by
  unfold Tells at tells ⊢
  rw [run_bind, transcript_bind]
  rcases ended : first.run store state with ⟨_ | error | result, next⟩
  · rw [ended] at tells
    simpa using open_ _ tells
  · rw [ended] at tells
    simpa using bad error _ tells
  · rw [ended] at tells
    exact good result next _ tells

/-- What comes of gathering the items of a folder from a listing on: all of them, an error that
names the folder where the visit breaks off, or nothing when as many requests as the limit allows
were sent. -/
inductive ItemsAccount (limit : Nat) (place : String) (listing : Listing) :
    Option (Except MountError (List Tree)) → List Answered → Prop where
  | visited {items : List Tree} {exchanges : List Answered}
      (visits : Visits (.pages listing) items exchanges) :
      ItemsAccount limit place listing (some (.ok items)) exchanges
  | broken {names : List String} {source : RemoteError} {exchanges : List Answered}
      (breaks : Breaks listing names exchanges source) :
      ItemsAccount limit place listing
        (some (.error (.build (names.foldl Path.below place) source))) exchanges
  | stopped {exchanges : List Answered} (usedUp : UsedUp limit exchanges) :
      ItemsAccount limit place listing none exchanges

/-- What comes of gathering the entries of a page. -/
inductive PageAccount (limit : Nat) (place : String) (found : List Entry) :
    Option (Except MountError (List Tree)) → List Answered → Prop where
  | visited {items : List Tree} {exchanges : List Answered}
      (entries : items.map Tree.entry = found) (visits : Visits .page items exchanges) :
      PageAccount limit place found (some (.ok items)) exchanges
  | broken {front : List Tree} {name path : String} {others : List Entry} {names : List String}
      {source : RemoteError} {here inner : List Answered}
      (entries : found = front.map Tree.entry ++ ⟨.folder, name, path⟩ :: others)
      (visits : Visits .page front here) (breaks : Breaks (.first path) names inner source) :
      PageAccount limit place found
        (some (.error (.build (names.foldl Path.below (Path.below place name)) source)))
        (here ++ inner)
  | stopped {exchanges : List Answered} (usedUp : UsedUp limit exchanges) :
      PageAccount limit place found none exchanges

/-- After a first tree the other entries of a page are visited. -/
theorem tells_others {limit : Nat} {place : String} {rest : List Entry} {state : σ}
    (tree : Tree) (first : List Answered)
    (visited : ∀ others exchanges, Visits .page others exchanges →
      Visits .page (tree :: others) (first ++ exchanges))
    (tells : Tells store (entries (items limit) place rest) state (PageAccount limit place rest)) :
    Tells store (entries (items limit) place rest >>= fun others => pure (tree :: others)) state
      fun outcome later =>
        PageAccount limit place (tree.entry :: rest) outcome (first ++ later) := by
  refine tells.bind ?_ ?_ ?_
  · rintro others next exchanges ⟨entries, visits⟩
    have all := visited others exchanges visits
    simpa [Tells] using PageAccount.visited (by rw [List.map_cons, entries]) all
  · intro error exchanges account
    cases account with
    | @broken front name path later names source here inner split visits breaks =>
        have all := visited front here visits
        rw [← List.append_assoc]
        exact .broken (by rw [split, List.map_cons, List.cons_append]) all breaks
  · intro exchanges account
    cases account with
    | stopped usedUp =>
        have fine := (visited [] [] .nothing).failure?_eq_none
        rw [List.append_nil] at fine
        exact .stopped (usedUp.append fine)

/-- The entries of a page are visited one after the other. -/
theorem tells_entries {limit : Nat}
    (listed : ∀ place listing (state : σ), Tells store (items limit place listing) state
      (ItemsAccount limit place listing))
    (place : String) {found : List Entry} (live : ∀ entry ∈ found, entry.isLive = true)
    (state : σ) :
    Tells store (entries (items limit) place found) state (PageAccount limit place found) := by
  induction found generalizing state with
  | nil => exact .visited rfl .nothing
  | cons first rest ih =>
      obtain ⟨firstLive, restLive⟩ := List.forall_mem_cons.mp live
      obtain ⟨kind, name, path⟩ := first
      rw [entries_cons]
      cases kind with
      | file =>
          exact tells_others (.file name path) [] (fun _ _ => .file name path) (ih restLive state)
      | deleted => simp [Entry.isLive] at firstLive
      | folder =>
          simp only [entry, bind_assoc, pure_bind]
          refine (listed (Path.below place name) (.first path) state).bind ?_ ?_ ?_
          · rintro inner next exchanges ⟨visits⟩
            exact tells_others (.folder name path inner) exchanges
              (fun _ _ => .folder name path visits) (ih restLive next)
          · intro error exchanges account
            cases account with
            | broken breaks =>
                have first : ⟨.folder, name, path⟩ :: rest =
                    ([] : List Tree).map Tree.entry ++ ⟨.folder, name, path⟩ :: rest := rfl
                exact .broken first .nothing breaks
          · intro exchanges account
            cases account with
            | stopped usedUp => exact .stopped usedUp

/-- Every gathering of a folder gives an account of what it exchanges. -/
theorem tells_items (limit : Nat) (place : String) (listing : Listing) (state : σ) :
    Tells store (items limit place listing) state (ItemsAccount limit place listing) := by
  induction limit generalizing place listing state with
  | zero => exact .stopped ⟨Nat.zero_le _, by simp [items]⟩
  | succ limit ih =>
      rw [items, Tells, run_bind, transcript_bind, run_consult, transcript_consult,
        transcript_askPage]
      rcases answered : store.run (askPage listing) state with ⟨error | page, next⟩
      · exact .broken (.refused listing error)
      · have live : ∀ entry ∈ page.live, entry.isLive = true :=
          fun entry member => (List.mem_filter.mp member).2
        change Tells store _ next fun outcome later => ItemsAccount (limit + 1) place listing
          outcome (listing.exchange (.ok page) :: later)
        refine (tells_entries ih place live next).bind ?_ ?_ ?_
        · rintro front middle exchanges ⟨entries, visits⟩
          cases more : page.hasMore with
          | false =>
              simpa [Tells] using ItemsAccount.visited (.last entries.symm more visits)
          | true =>
              rw [if_pos rfl]
              refine (ih place (.after page.cursor) middle).bind ?_ ?_ ?_
              · rintro back last later ⟨others⟩
                simpa [Tells] using ItemsAccount.visited (.more entries.symm more visits others)
              · intro error later account
                cases account with
                | broken breaks => exact .broken (.later entries.symm more visits breaks)
              · intro later account
                cases account with
                | stopped usedUp =>
                    have below := usedUp.append visits.failure?_eq_none
                    exact .stopped (below.cons (by simp))
        · intro error exchanges account
          cases account with
          | broken split visits breaks => exact .broken (.inside split visits breaks)
        · intro exchanges account
          cases account with
          | stopped usedUp => exact .stopped (usedUp.cons (by simp))

/-- What comes of gathering a whole tree. -/
inductive RootAccount (limit : Nat) (mountPoint remotePath : String) :
    Option (Except MountError (Option Tree)) → List Answered → Prop where
  | missing {exchanges : List Answered} (begins : Begins mountPoint remotePath none exchanges) :
      RootAccount limit mountPoint remotePath (some (.ok none)) exchanges
  | visited {tree : Tree} {first exchanges : List Answered}
      (begins : Begins mountPoint remotePath (some tree.entry) first)
      (visits : Visits .page [tree] exchanges) :
      RootAccount limit mountPoint remotePath (some (.ok (some tree))) (first ++ exchanges)
  | broken {names : List String} {source : RemoteError} {exchanges : List Answered}
      (breaks : BreaksOff mountPoint remotePath names exchanges source) :
      RootAccount limit mountPoint remotePath
        (some (.error (.build (names.foldl Path.below remotePath) source))) exchanges
  | stopped {exchanges : List Answered} (usedUp : UsedUp limit exchanges) :
      RootAccount limit mountPoint remotePath none exchanges

/-- A gathering in which an exchange fails breaks off there. -/
theorem RootAccount.of_failure? {limit : Nat} {mountPoint remotePath : String}
    {outcome : Option (Except MountError (Option Tree))} {exchanges before after : List Answered}
    (account : RootAccount limit mountPoint remotePath outcome exchanges) {refused : Answered}
    (split : exchanges = before ++ refused :: after) {source : RemoteError}
    (failure : refused.failure? = some source) :
    after = [] ∧ ∃ names, BreaksOff mountPoint remotePath names exchanges source ∧
      outcome = some (.error (.build (names.foldl Path.below remotePath) source)) := by
  have not_fine (fine : ∀ exchange ∈ exchanges, exchange.failure? = none) : False := by
    have none := fine refused (by simp [split])
    simp [none] at failure
  cases account with
  | missing begins => exact (not_fine begins.failure?_eq_none).elim
  | visited begins visits =>
      exact (not_fine (List.forall_mem_append.mpr
        ⟨begins.failure?_eq_none, visits.failure?_eq_none⟩)).elim
  | stopped usedUp => exact (not_fine usedUp.fine).elim
  | broken breaks =>
      obtain ⟨last, rfl⟩ := breaks.failsLast.eq_of_failure? split failure
      exact ⟨last, _, breaks, rfl⟩

/-- What comes of looking for the root of a tree. -/
inductive StartAccount (mountPoint remotePath : String) :
    Option (Except MountError (Option Entry)) → List Answered → Prop where
  | begun {found : Option Entry} {exchanges : List Answered}
      (begins : Begins mountPoint remotePath found exchanges) :
      StartAccount mountPoint remotePath (some (.ok found)) exchanges
  | broken {source : RemoteError} {exchanges : List Answered}
      (breaks : BreaksOff mountPoint remotePath [] exchanges source) :
      StartAccount mountPoint remotePath (some (.error (.build remotePath source))) exchanges

/-- Below the store root the lookup of the root is all that is exchanged for it. -/
theorem transcript_lookup (mountPoint : String) {remotePath : String}
    (inside : Build.isStoreRoot remotePath = false) (state : σ) :
    (rootEntry mountPoint remotePath).transcript store state =
      [⟨.metadata remotePath, (store.answer (.metadata remotePath) state).1⟩] := by
  rw [rootEntry, inside, if_neg Bool.false_ne_true, transcript_consult]
  simp only [askMetadata, Store.transcript, bind, Dialogue.bind, Dialogue.transcript]
  rcases store.answer (.metadata remotePath) state with ⟨error | found, next⟩
  · cases error <;> rfl
  · rfl

theorem tells_rootEntry (mountPoint remotePath : String) (state : σ) :
    Tells store (rootEntry mountPoint remotePath) state
      (StartAccount mountPoint remotePath) := by
  cases top : Build.isStoreRoot remotePath with
  | true =>
      rw [rootEntry, if_pos top]
      exact .begun (.top top)
  | false =>
      rw [Tells, run_lookup mountPoint top, transcript_lookup mountPoint top]
      rcases (store.answer (.metadata remotePath) state).1 with error | found
      · cases error with
        | notFound path => exact .begun (.notFound top path)
        | refused | exchange | objectStore | undecodable => exact .broken (.root top rfl)
      · exact .begun (.answered top rfl)

/-- Every gathering of a whole tree gives an account of what it exchanges. -/
theorem tells_root (store : Store σ) (limit : Nat) (mountPoint remotePath : String) (state : σ) :
    Tells store (root limit mountPoint remotePath) state
      (RootAccount limit mountPoint remotePath) := by
  refine (tells_rootEntry mountPoint remotePath state).bind ?_ ?_ ?_
  · rintro (_ | ⟨kind, name, path⟩) next first ⟨begins⟩
    · simpa [Tells] using RootAccount.missing begins
    · cases kind with
      | file =>
          have begun : Begins mountPoint remotePath (some (Tree.file name path).entry) first :=
            begins
          exact .visited begun (.file name path .nothing)
      | deleted =>
          cases begins with
          | answered inside kept =>
              have live := (Option.filter_eq_some_iff.mp kept).2
              simp [Entry.isLive] at live
      | folder =>
          simp only [entry, bind_assoc, pure_bind]
          refine (tells_items limit remotePath (.first path) next).bind ?_ ?_ ?_
          · rintro inner last later ⟨visits⟩
            have begun : Begins mountPoint remotePath
                (some (Tree.folder name path inner).entry) first := begins
            simpa [Tells] using RootAccount.visited begun (.folder name path visits .nothing)
          · intro error later account
            cases account with
            | broken breaks => exact .broken (.below begins breaks)
          · intro later account
            cases account with
            | stopped usedUp => exact .stopped (usedUp.append begins.failure?_eq_none)
  · intro error first account
    cases account with
    | broken breaks => exact .broken breaks
  · rintro first ⟨⟩

end Gathering

/-! ## What builds exchange -/

namespace Snapshot

variable {σ : Type} {store : Store σ}

/-- Adding a tree to a snapshot asks for nothing. -/
theorem transcript_build (limit : Nat) (mountPoint remotePath : String) (state : σ) :
    store.transcript (Snapshot.build limit mountPoint remotePath) state =
      (Gathering.root limit mountPoint remotePath).transcript store state := by
  rw [build_eq, Gathering.map_eq, Store.transcript, Dialogue.transcript_bind]
  exact List.append_nil _

/-- What comes of a build goes with what it exchanges. -/
theorem tells_build (store : Store σ) (limit : Nat) (mountPoint remotePath : String) (state : σ) :
    ∃ outcome, Gathering.RootAccount limit mountPoint remotePath outcome
        (store.transcript (Snapshot.build limit mountPoint remotePath) state) ∧
      (store.run (Snapshot.build limit mountPoint remotePath) state).1 =
        outcome.map (Except.map (ofTree? mountPoint)) := by
  refine ⟨_, ?_, by rw [run_build]⟩
  rw [transcript_build]
  exact Gathering.tells_root store limit mountPoint remotePath state

/-- A greater limit does not change what a build has exchanged when it has ended. -/
theorem transcript_stable {limit greater : Nat} (more : limit ≤ greater)
    {mountPoint remotePath : String} {state : σ} {outcome : Except MountError Snapshot}
    (done : (store.run (Snapshot.build limit mountPoint remotePath) state).1 = some outcome) :
    store.transcript (Snapshot.build greater mountPoint remotePath) state =
      store.transcript (Snapshot.build limit mountPoint remotePath) state := by
  -- A run of the recorded store carries the transcript in its last state.
  have first := run_recorded store (Snapshot.build limit mountPoint remotePath) state []
  have second := run_recorded store (Snapshot.build greater mountPoint remotePath) state []
  rw [done] at first
  have same := second.symm.trans (build_within more first)
  simpa using (Prod.mk.inj (Prod.mk.inj same).2).2

end Snapshot

end ContentMount
