/-
This file runs gatherings against a store. A gathering with a greater limit ends as one with a
smaller limit does when that one ends.
-/

import ContentMount.Proofs.Build.Gathering
import ContentMount.Proofs.Remote.Transcript

namespace ContentMount.Gathering

open Remote

section

variable {σ α β : Type} {store : Store σ}

/-- What comes of a gathering in a state of the store, and the state after it. -/
def run (store : Store σ) (gathering : Gathering α) (state : σ) :
    Option (Except MountError α) × σ :=
  store.run gathering state

@[simp] theorem run_pure (result : α) (state : σ) :
    (pure result : Gathering α).run store state = (some (.ok result), state) := rfl

@[simp] theorem run_giveUp (state : σ) :
    (giveUp : Gathering α).run store state = (none, state) := rfl

theorem run_bind (first : Gathering α) (second : α → Gathering β) (state : σ) :
    (first >>= second).run store state = match first.run store state with
      | (some (.ok result), next) => (second result).run store next
      | (some (.error error), next) => (some (.error error), next)
      | (none, next) => (none, next) := by
  rw [bind_eq, run, Store.run, Dialogue.run_bind, run, Store.run]
  rcases Dialogue.run store.answer first state with ⟨_ | _ | _, next⟩ <;> rfl

theorem run_map (f : α → β) (gathering : Gathering α) (state : σ) :
    (f <$> gathering).run store state =
      ((gathering.run store state).1.map (Except.map f), (gathering.run store state).2) := by
  rw [map_eq, run, Store.run, Dialogue.run_bind]
  rfl

/-- The answer of the store to a question, with the path that a refusal names. -/
theorem run_consult (path : String) (question : Asking (Except RemoteError α)) (state : σ) :
    (consult path question).run store state =
      (some ((store.run question state).1.mapError (.build path)),
        (store.run question state).2) := by
  have split : (consult path question).run store state =
      Dialogue.run store.answer (Dialogue.bind question fun answer =>
        .done (some (answer.mapError (MountError.build path)))) state := by
    refine congrArg (fun rest => Dialogue.run store.answer (Dialogue.bind question rest) state)
      (funext fun answer => ?_)
    cases answer <;> rfl
  rw [split, Dialogue.run_bind]
  rfl

/-- What the store answers is what a gathering gets. -/
theorem run_consult_of_ok {path : String} {question : Asking (Except RemoteError α)}
    {state next : σ} {answer : α} (answered : store.run question state = (.ok answer, next)) :
    (consult path question).run store state = (some (.ok answer), next) := by
  rw [run_consult, answered]
  rfl

/-- What a gathering gets is what the store answers. -/
theorem run_of_consult {path : String} {question : Asking (Except RemoteError α)}
    {state next : σ} {answer : α}
    (consulted : (consult path question).run store state = (some (.ok answer), next)) :
    store.run question state = (.ok answer, next) := by
  rw [run_consult] at consulted
  rcases ran : store.run question state with ⟨error | other, last⟩
  · simp [ran, Except.mapError] at consulted
  · obtain ⟨rfl, rfl⟩ : other = answer ∧ last = next := by
      simpa [ran, Except.mapError] using consulted
    rfl

/-- A result of a gathering is handed to the one that goes on with it. -/
theorem run_bind_of_ok {first : Gathering α} {second : α → Gathering β} {state next : σ}
    {result : α} (done : first.run store state = (some (.ok result), next)) :
    (first >>= second).run store state = (second result).run store next := by
  rw [run_bind, done]

end

section

variable {σ α β : Type} (store : Store σ)

/-- The second gathering ends as the first one does whenever that one ends. -/
def Within (first second : Gathering α) : Prop :=
  ∀ state outcome next, first.run store state = (some outcome, next) →
    second.run store state = (some outcome, next)

variable {store}

theorem Within.refl (gathering : Gathering α) : Within store gathering gathering :=
  fun _ _ _ done => done

theorem Within.trans {first second third : Gathering α} (one : Within store first second)
    (two : Within store second third) : Within store first third :=
  fun state outcome next done => two state outcome next (one state outcome next done)

theorem Within.bind {first second : Gathering α} {after afterwards : α → Gathering β}
    (start : Within store first second)
    (rest : ∀ result, Within store (after result) (afterwards result)) :
    Within store (first >>= after) (second >>= afterwards) := by
  intro state outcome next done
  rw [run_bind] at done ⊢
  rcases began : first.run store state with ⟨_ | error | result, middle⟩
  · simp [began] at done
  · rw [start state _ middle began]
    rwa [began] at done
  · rw [start state _ middle began]
    rw [began] at done
    exact rest result middle outcome next done

theorem Within.mapM {first second : α → Gathering β}
    (each : ∀ value, Within store (first value) (second value)) (values : List α) :
    Within store (values.mapM first) (values.mapM second) := by
  induction values with
  | nil => exact .refl _
  | cons value rest ih =>
      rw [List.mapM_cons, List.mapM_cons]
      exact (each value).bind fun _ => ih.bind fun _ => .refl _

theorem Within.entry {list longer : String → Listing → Gathering (List Tree)}
    (within : ∀ path listing, Within store (list path listing) (longer path listing))
    (path : String) (entry : Entry) :
    Within store (Gathering.entry list path entry) (Gathering.entry longer path entry) := by
  unfold Gathering.entry
  cases entry.kind with
  | file => exact .refl _
  | folder => exact (within path _).bind fun _ => .refl _
  | deleted => exact (within path _).bind fun _ => .refl _

theorem items_within_succ (limit : Nat) (path : String) (listing : Listing) :
    Within store (items limit path listing) (items (limit + 1) path listing) := by
  induction limit generalizing path listing with
  | zero => intro state outcome next done; simp [items] at done
  | succ limit ih =>
      rw [items, items]
      refine .bind (.refl _) fun page => ?_
      refine .bind (.mapM (fun entry => .entry ih _ entry) _) fun front => ?_
      cases page.hasMore with
      | false => exact .refl _
      | true => exact (ih path _).bind fun _ => .refl _

/-- A greater limit only matters to gatherings that the smaller one stops. -/
theorem items_within {limit greater : Nat} (more : limit ≤ greater) (path : String)
    (listing : Listing) :
    Within store (items limit path listing) (items greater path listing) := by
  induction more with
  | refl => exact .refl _
  | step _ ih => exact ih.trans (items_within_succ _ path listing)

theorem entries_within {limit greater : Nat} (more : limit ≤ greater) (path : String)
    (page : List Entry) :
    Within store (entries (items limit) path page) (entries (items greater) path page) :=
  .mapM (fun entry => .entry (items_within more) _ entry) page

theorem root_within {limit greater : Nat} (more : limit ≤ greater)
    (mountPoint remotePath : String) :
    Within store (root limit mountPoint remotePath) (root greater mountPoint remotePath) := by
  refine .bind (.refl _) fun found => ?_
  cases found with
  | none => exact .refl _
  | some entry => exact (Within.entry (items_within more) remotePath entry).bind fun _ => .refl _

end

/-! ## What a gathering asks -/

theorem asks_bind {α β : Type} {allowed : Request → Prop} {first : Gathering α}
    {second : α → Gathering β} (start : Dialogue.Asks allowed first)
    (rest : ∀ result, Dialogue.Asks allowed (second result)) :
    Dialogue.Asks allowed (first >>= second : Gathering β) := by
  rw [bind_eq]
  apply start.bind
  intro outcome
  rcases outcome with _ | _ | result
  · exact .done _
  · exact .done _
  · exact rest result

theorem asks_consult {α : Type} {allowed : Request → Prop} (path : String)
    {question : Asking (Except RemoteError α)} (asks : question.Asks allowed) :
    Dialogue.Asks allowed (consult path question) := by
  apply asks.bind
  intro answer
  cases answer <;> exact .done _

theorem asks_mapM {α β : Type} {allowed : Request → Prop} {each : α → Gathering β}
    (asks : ∀ value, Dialogue.Asks allowed (each value)) (values : List α) :
    Dialogue.Asks allowed (values.mapM each : Gathering (List β)) := by
  induction values with
  | nil => exact .done _
  | cons value rest ih =>
      rw [List.mapM_cons]
      exact asks_bind (asks value) fun _ => asks_bind ih fun _ => .done _

/-- Lookups and listings fetch no content. -/
def IsQuiet (request : Request) : Prop := request.kind ≠ .download

theorem asks_askPage (listing : Listing) : (askPage listing).Asks IsQuiet := by
  cases listing <;> exact .ask (by simp [IsQuiet, Request.kind]) fun _ => .done _

theorem asks_entry {list : String → Listing → Gathering (List Tree)}
    (asks : ∀ path listing, Dialogue.Asks IsQuiet (list path listing)) (path : String)
    (entry : Entry) : Dialogue.Asks IsQuiet (Gathering.entry list path entry) := by
  unfold Gathering.entry
  cases entry.kind with
  | file => exact .done _
  | folder => exact asks_bind (asks path _) fun _ => .done _
  | deleted => exact asks_bind (asks path _) fun _ => .done _

theorem asks_items (limit : Nat) (path : String) (listing : Listing) :
    Dialogue.Asks IsQuiet (items limit path listing) := by
  induction limit generalizing path listing with
  | zero => exact .done _
  | succ limit ih =>
      rw [items]
      apply asks_bind (asks_consult path (asks_askPage listing))
      intro page
      apply asks_bind (asks_mapM (fun entry => asks_entry ih _ entry) _)
      intro front
      cases page.hasMore with
      | false => exact .done _
      | true => exact asks_bind (ih path _) fun _ => .done _

theorem asks_rootEntry (mountPoint remotePath : String) :
    Dialogue.Asks IsQuiet (rootEntry mountPoint remotePath) := by
  unfold rootEntry
  split
  · exact .done _
  · refine asks_consult remotePath (.ask (by simp [IsQuiet, Request.kind]) fun answer => ?_)
    rcases answer with error | found
    · cases error <;> exact .done _
    · exact .done _

theorem asks_root (limit : Nat) (mountPoint remotePath : String) :
    Dialogue.Asks IsQuiet (root limit mountPoint remotePath) := by
  apply asks_bind (asks_rootEntry mountPoint remotePath)
  intro found
  cases found with
  | none => exact .done _
  | some entry => exact asks_bind (asks_entry (asks_items limit) _ entry) fun _ => .done _

end ContentMount.Gathering
