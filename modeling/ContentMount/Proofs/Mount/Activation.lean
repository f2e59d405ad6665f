/-
This file says how activations end. One that fails sends nothing after the request that fails, and
its error names the folder that was being listed.
-/

import ContentMount.Mount.Activation
import ContentMount.Proofs.Build.Account

namespace ContentMount.Mount

open Remote

section

variable {σ : Type} {store : Store σ} {config : MountConfig}

/-- With accepted paths a mount shows what the build brings. -/
theorem run_activate (accepted : config.validatePaths = .ok ()) (limit : Nat) (state : σ) :
    (store.run (activate limit config) state).1 =
      (store.run (Snapshot.build limit config.mountPoint config.remotePath) state).1.map
        (Except.map fun snapshot => ⟨config, .ofSnapshot snapshot config.mountPoint⟩) := by
  rw [activate, accepted]
  simp only [Store.run, bind, Dialogue.run_bind, pure, Dialogue.run]

/-- A build that ends with a snapshot makes a mount that shows it. -/
theorem exists_of_build (accepted : config.validatePaths = .ok ()) {state : σ}
    {snapshot : Snapshot}
    (ends : ∃ enough, ∀ limit ≥ enough,
      (store.run (Snapshot.build limit config.mountPoint config.remotePath) state).1 =
        some (.ok snapshot)) : ∃ mount : Mount,
      (∃ enough, ∀ limit ≥ enough,
        (store.run (activate limit config) state).1 = some (.ok mount)) ∧
        mount.view = .ofSnapshot snapshot config.mountPoint := by
  obtain ⟨enough, ended⟩ := ends
  refine ⟨⟨config, .ofSnapshot snapshot config.mountPoint⟩, ⟨enough, fun limit more => ?_⟩, rfl⟩
  rw [run_activate accepted, ended limit more]
  rfl

/-- A mount shows what was gathered from the root. -/
theorem exists_root (accepted : config.validatePaths = .ok ()) {limit : Nat} {state : σ}
    {mount : Mount}
    (activated : (store.run (activate limit config) state).1 = some (.ok mount)) : ∃ found,
      ((Gathering.root limit config.mountPoint config.remotePath).run store state).1 =
        some (.ok found) ∧
      mount.view =
        .ofSnapshot (Snapshot.ofTree? config.mountPoint found) config.mountPoint := by
  rw [run_activate accepted, Snapshot.run_build] at activated
  rcases ended : (Gathering.root limit config.mountPoint config.remotePath).run store state with
    ⟨_ | error | found, next⟩
  · simp [ended] at activated
  · simp [ended, Except.map] at activated
  · rw [ended] at activated
    obtain rfl := Except.ok.inj (Option.some.inj activated)
    exact ⟨found, rfl, rfl⟩

/-- With accepted paths a mount asks what the build asks. -/
theorem transcript_activate (accepted : config.validatePaths = .ok ()) (limit : Nat) (state : σ) :
    store.transcript (activate limit config) state =
      store.transcript (Snapshot.build limit config.mountPoint config.remotePath) state := by
  rw [activate, accepted]
  simp only [Store.transcript, bind, Dialogue.transcript_bind, pure, Dialogue.transcript,
    List.append_nil]

end

/-- An activation is broken off by an exchange that comes after some others. -/
structure BrokenOff {σ : Type} (store : Store σ) (limit : Nat) (config : MountConfig) (state : σ)
    (before : List Answered) (refused : Answered) (source : RemoteError) : Prop where
  /-- Nothing is sent after that exchange. -/
  last : store.transcript (activate limit config) state = before ++ [refused]
  /-- The error carries the one that broke the visit off, and it names the folder by the names that
  lead there from the root. There is no mount. A greater limit changes nothing. -/
  error : ∃ names,
    BreaksOff config.mountPoint config.remotePath names (before ++ [refused]) source ∧
      ∀ greater ≥ limit, store.transcript (activate greater config) state = before ++ [refused] ∧
        (store.run (activate greater config) state).1 =
          some (.error (.build (names.foldl Path.below config.remotePath) source))
  /-- A store that answers the requests before it alike is sent the same requests and perhaps
  more. -/
  onwards : ∀ {τ : Type} (other : Store τ) (otherState : τ),
    before <+: other.transcript (activate limit config) otherState →
      store.requests (activate limit config) state <+:
        other.requests (activate limit config) otherState

section

variable {σ : Type} {store : Store σ} {config : MountConfig} {limit : Nat} {state : σ}

/-- Without accepted paths nothing is sent. -/
theorem activate_rejected {error : MountError} (rejected : config.validatePaths = .error error) :
    store.transcript (activate limit config) state = [] ∧
      (store.run (activate limit config) state).1 = some (.error error) := by
  rw [activate, rejected]
  exact ⟨rfl, rfl⟩

/-- An activation without a result has used up its limit. -/
theorem activate_unfinished (accepted : config.validatePaths = .ok ())
    (unfinished : (store.run (activate limit config) state).1 = none) :
    limit ≤ (store.transcript (activate limit config) state).length ∧
      ∀ exchange ∈ store.transcript (activate limit config) state,
        exchange.failure? = none := by
  obtain ⟨outcome, account, ended⟩ :=
    Snapshot.tells_build store limit config.mountPoint config.remotePath state
  rw [← transcript_activate accepted] at account
  rw [run_activate accepted, ended, Option.map_map, Option.map_eq_none_iff] at unfinished
  subst unfinished
  cases account with
  | stopped usedUp => exact ⟨usedUp.many, usedUp.fine⟩

/-- A request that fails breaks an activation off. -/
theorem brokenOff_of_failure? (accepted : config.validatePaths = .ok ())
    {before after : List Answered} {refused : Answered} {source : RemoteError}
    (split : store.transcript (activate limit config) state = before ++ refused :: after)
    (failure : refused.failure? = some source) :
    after = [] ∧ BrokenOff store limit config state before refused source := by
  obtain ⟨outcome, account, ended⟩ :=
    Snapshot.tells_build store limit config.mountPoint config.remotePath state
  rw [← transcript_activate accepted] at account
  obtain ⟨rfl, names, breaks, rfl⟩ := account.of_failure? split failure
  refine ⟨rfl, split, ⟨names, split ▸ breaks, fun greater more => ?_⟩, ?_⟩
  · rw [transcript_activate accepted, run_activate accepted, Snapshot.build_stable more ended,
      Snapshot.transcript_stable more ended, ← transcript_activate accepted, split]
    exact ⟨rfl, rfl⟩
  · intro τ other otherState same
    exact Dialogue.questions_prefix _ split same

/-- Without accepted paths nothing is sent. With them, the first request that fails breaks the
activation off. An activation without a result has sent as many requests as its limit, and none of
them has failed. -/
theorem activate_breaks_off (store : Store σ) (limit : Nat) (config : MountConfig) (state : σ) :
    (∀ error, config.validatePaths = .error error →
      store.transcript (activate limit config) state = [] ∧
        (store.run (activate limit config) state).1 = some (.error error)) ∧
    (config.validatePaths = .ok () → ∀ before refused after source,
      store.transcript (activate limit config) state = before ++ refused :: after →
        (∀ exchange ∈ before, exchange.failure? = none) → refused.failure? = some source →
          after = [] ∧ BrokenOff store limit config state before refused source) ∧
    ((store.run (activate limit config) state).1 = none →
      limit ≤ (store.transcript (activate limit config) state).length ∧
        ∀ exchange ∈ store.transcript (activate limit config) state,
          exchange.failure? = none) := by
  refine ⟨fun error rejected => activate_rejected rejected, ?_, ?_⟩
  · intro accepted before refused after source split _ failure
    exact brokenOff_of_failure? accepted split failure
  · intro unfinished
    cases checked : config.validatePaths with
    | error error =>
        rw [(activate_rejected checked).2] at unfinished
        exact absurd unfinished (by simp)
    | ok => exact activate_unfinished checked unfinished

end

/-! ## A store that refuses to list a folder -/

/-- A store with a folder whose name is not in its path. The folder cannot be listed. -/
def refusingStore : Store Unit where
  name := "refusing"
  answer request state := match request with
    | .list path =>
      (if path == "/" then .ok ⟨[⟨.file, "a.txt", "/1"⟩, ⟨.folder, "Notes", "/2"⟩], "", false⟩
        else .error (.notFound path), state)
    | .listNext _ => (.error (.undecodable "cursor"), state)
    | .metadata path => (.error (.notFound path), state)
    | .download path => (.error (.notFound path), state)

/-- What is exchanged before the folder is refused. -/
def rootExchange : Answered :=
  ⟨.list "/", .ok ⟨[⟨.file, "a.txt", "/1"⟩, ⟨.folder, "Notes", "/2"⟩], "", false⟩⟩

/-- The activation is broken off at the second request, and the error names the folder. -/
theorem activate_breaks_off_refusingStore :
    BrokenOff refusingStore 2 { remotePath := "/" } () [rootExchange]
        ⟨.list "/2", .error (.notFound "/2")⟩ (.notFound "/2") ∧
      (refusingStore.run (activate 2 { remotePath := "/" }) ()).1 =
        some (.error (.build "/Notes" (.notFound "/2"))) ∧
      refusingStore.transcript (activate 2 { mountPoint := "/" }) () = [] := by
  have accepted : ({ remotePath := "/" } : MountConfig).validatePaths = .ok () := by decide
  have rejected : ({ mountPoint := "/" } : MountConfig).validatePaths =
      .error (.invalidConfig .mountIsRoot) := by decide
  have fine : ∀ exchange ∈ [rootExchange], exchange.failure? = none := by
    simp [rootExchange, Answered.failure?]
  have broken := (activate_breaks_off refusingStore 2 { remotePath := "/" } ()).2.1 accepted
    [rootExchange] ⟨.list "/2", .error (.notFound "/2")⟩ [] (.notFound "/2") rfl fine rfl
  exact ⟨broken.2, rfl, ((activate_breaks_off refusingStore 2 { mountPoint := "/" } ()).1 _
    rejected).1⟩

end ContentMount.Mount
