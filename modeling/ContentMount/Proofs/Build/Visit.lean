/-
This file says in which order a build and a store exchange requests and answers. A build visits the
folders of a tree depth first: the whole subtree of a page comes before the next page of its folder.
A visit breaks off at the first request that fails.
-/

import ContentMount.Proofs.Remote.Transcript
import ContentMount.Proofs.Remote.Tree
import ContentMount.Tree.Build

namespace ContentMount

open Remote

/-- The exchange of a listing. -/
def Remote.Listing.exchange (answer : Except RemoteError Page) : Listing → Answered
  | .first path => ⟨.list path, answer⟩
  | .after cursor => ⟨.listNext cursor, answer⟩

/-- The error that ends a build. A missing root does not. -/
def Remote.Answered.failure? : Answered → Option RemoteError
  | ⟨.metadata _, .error (.notFound _)⟩ => none
  | ⟨_, .error source⟩ => some source
  | ⟨_, .ok _⟩ => none

@[simp] theorem Remote.Listing.failure?_exchange (answer : Except RemoteError Page)
    (listing : Listing) :
    (listing.exchange answer).failure? = match answer with
      | .ok _ => none
      | .error source => some source := by
  cases listing <;> cases answer <;> rfl

/-- Trees come from a page that is there, or from the pages from a listing on. -/
inductive Origin where
  | page
  | pages (listing : Listing)

/-- The exchanges visit trees when each folder is listed where it stands, each page that goes on is
continued with its own cursor, and all that a page holds is visited before that. -/
inductive Visits : Origin → List Tree → List Answered → Prop where
  | nothing : Visits .page [] []
  | file (name path : String) {rest : List Tree} {exchanges : List Answered}
      (others : Visits .page rest exchanges) : Visits .page (.file name path :: rest) exchanges
  | folder (name path : String) {items rest : List Tree} {inner exchanges : List Answered}
      (inside : Visits (.pages (.first path)) items inner)
      (others : Visits .page rest exchanges) :
      Visits .page (.folder name path items :: rest) (inner ++ exchanges)
  | last {listing : Listing} {page : Page} {items : List Tree} {exchanges : List Answered}
      (live : page.live = items.map Tree.entry) (ends : page.hasMore = false)
      (here : Visits .page items exchanges) :
      Visits (.pages listing) items (listing.exchange (.ok page) :: exchanges)
  | more {listing : Listing} {page : Page} {front back : List Tree}
      {exchanges later : List Answered} (live : page.live = front.map Tree.entry)
      (goesOn : page.hasMore = true) (here : Visits .page front exchanges)
      (rest : Visits (.pages (.after page.cursor)) back later) :
      Visits (.pages listing) (front ++ back)
        (listing.exchange (.ok page) :: (exchanges ++ later))

/-- A visit breaks off when a listing is refused. The names lead from the folder of the first
listing to the folder whose listing that is. -/
inductive Breaks : Listing → List String → List Answered → RemoteError → Prop where
  | refused (listing : Listing) (source : RemoteError) :
      Breaks listing [] [listing.exchange (.error source)] source
  | inside {listing : Listing} {page : Page} {front : List Tree} {name path : String}
      {others : List Entry} {names : List String} {exchanges inner : List Answered}
      {source : RemoteError}
      (live : page.live = front.map Tree.entry ++ ⟨.folder, name, path⟩ :: others)
      (here : Visits .page front exchanges) (broken : Breaks (.first path) names inner source) :
      Breaks listing (name :: names) (listing.exchange (.ok page) :: (exchanges ++ inner)) source
  | later {listing : Listing} {page : Page} {front : List Tree} {names : List String}
      {exchanges rest : List Answered} {source : RemoteError}
      (live : page.live = front.map Tree.entry) (goesOn : page.hasMore = true)
      (here : Visits .page front exchanges)
      (broken : Breaks (.after page.cursor) names rest source) :
      Breaks listing names (listing.exchange (.ok page) :: (exchanges ++ rest)) source

/-- Nothing fails in a visit. -/
theorem Visits.failure?_eq_none {origin : Origin} {trees : List Tree}
    {exchanges : List Answered} (visits : Visits origin trees exchanges) :
    ∀ exchange ∈ exchanges, exchange.failure? = none := by
  induction visits with
  | nothing => simp
  | file _ _ _ ih => exact ih
  | folder _ _ _ _ inside others => exact List.forall_mem_append.mpr ⟨inside, others⟩
  | last _ _ _ ih => exact List.forall_mem_cons.mpr ⟨by simp, ih⟩
  | more _ _ _ _ here rest =>
      exact List.forall_mem_cons.mpr ⟨by simp, List.forall_mem_append.mpr ⟨here, rest⟩⟩

theorem Remote.Listing.page_eq_of_exchange {listing : Listing} {page other : Page}
    (same : listing.exchange (.ok page) = listing.exchange (.ok other)) : page = other := by
  cases listing <;> exact Except.ok.inj (eq_of_heq (Sigma.mk.inj same).2)

/-- What is exchanged determines the trees that are visited, whatever follows. The entries of trees
from a page that is there are not exchanged, so they have to be known. -/
theorem Visits.unique {origin : Origin} {trees others : List Tree}
    {exchanges more rest after : List Answered} (first : Visits origin trees exchanges)
    (second : Visits origin others more)
    (same : origin = .page → trees.map Tree.entry = others.map Tree.entry)
    (split : exchanges ++ rest = more ++ after) : trees = others ∧ exchanges = more := by
  induction first generalizing others more rest after with
  | nothing =>
      cases second with
      | nothing => exact ⟨rfl, rfl⟩
      | file | folder => exact absurd (same rfl) (by simp)
  | file name path _ ih =>
      cases second with
      | nothing => exact absurd (same rfl) (by simp)
      | file otherName otherPath visits =>
          obtain ⟨entry, entries⟩ := List.cons.inj (same rfl)
          obtain ⟨-, rfl, rfl⟩ := Entry.mk.inj entry
          obtain ⟨rfl, rfl⟩ := ih visits (fun _ => entries) split
          exact ⟨rfl, rfl⟩
      | folder => exact absurd (same rfl) (by simp [Tree.entry])
  | folder name path _ _ insideIh othersIh =>
      cases second with
      | nothing => exact absurd (same rfl) (by simp)
      | file => exact absurd (same rfl) (by simp [Tree.entry])
      | folder otherName otherPath inside visits =>
          obtain ⟨entry, entries⟩ := List.cons.inj (same rfl)
          obtain ⟨-, rfl, rfl⟩ := Entry.mk.inj entry
          rw [List.append_assoc, List.append_assoc] at split
          obtain ⟨rfl, rfl⟩ := insideIh inside (by simp) split
          obtain ⟨rfl, rfl⟩ := othersIh visits (fun _ => entries) (List.append_cancel_left split)
          exact ⟨rfl, rfl⟩
  | last live ends _ ih =>
      cases second with
      | last otherLive _ here =>
          obtain ⟨exchanged, later⟩ := List.cons.inj split
          obtain rfl := Listing.page_eq_of_exchange exchanged
          obtain ⟨rfl, rfl⟩ := ih here (fun _ => live.symm.trans otherLive) later
          exact ⟨rfl, rfl⟩
      | more _ goesOn =>
          obtain rfl := Listing.page_eq_of_exchange (List.cons.inj split).1
          exact absurd (ends.symm.trans goesOn) Bool.false_ne_true
  | more live goesOn _ _ hereIh restIh =>
      cases second with
      | last _ ends =>
          obtain rfl := Listing.page_eq_of_exchange (List.cons.inj split).1
          exact absurd (ends.symm.trans goesOn) Bool.false_ne_true
      | more otherLive _ here visits =>
          rw [List.cons_append, List.cons_append, List.append_assoc, List.append_assoc] at split
          obtain ⟨exchanged, later⟩ := List.cons.inj split
          obtain rfl := Listing.page_eq_of_exchange exchanged
          obtain ⟨rfl, rfl⟩ := hereIh here (fun _ => live.symm.trans otherLive) later
          obtain ⟨rfl, rfl⟩ := restIh visits (by simp) (List.append_cancel_left later)
          exact ⟨rfl, rfl⟩

/-- A limit is used up when as many requests were sent and none of them has failed. -/
structure UsedUp (limit : Nat) (exchanges : List Answered) : Prop where
  many : limit ≤ exchanges.length
  fine : ∀ exchange ∈ exchanges, exchange.failure? = none

theorem UsedUp.append {limit : Nat} {first later : List Answered} (usedUp : UsedUp limit later)
    (fine : ∀ exchange ∈ first, exchange.failure? = none) : UsedUp limit (first ++ later) where
  many := usedUp.many.trans (List.sublist_append_right first later).length_le
  fine := List.forall_mem_append.mpr ⟨fine, usedUp.fine⟩

theorem UsedUp.cons {limit : Nat} {exchange : Answered} {exchanges : List Answered}
    (usedUp : UsedUp limit exchanges) (fine : exchange.failure? = none) :
    UsedUp (limit + 1) (exchange :: exchanges) where
  many := Nat.succ_le_succ usedUp.many
  fine := List.forall_mem_cons.mpr ⟨fine, usedUp.fine⟩

/-- Of these exchanges the last one fails, and no other does. -/
def FailsLast (source : RemoteError) (exchanges : List Answered) : Prop :=
  ∃ before last, exchanges = before ++ [last] ∧ last.failure? = some source ∧
    ∀ exchange ∈ before, exchange.failure? = none

theorem FailsLast.append {source : RemoteError} {first later : List Answered}
    (fine : ∀ exchange ∈ first, exchange.failure? = none) (fails : FailsLast source later) :
    FailsLast source (first ++ later) := by
  obtain ⟨before, last, rfl, failure, others⟩ := fails
  exact ⟨first ++ before, last, by rw [List.append_assoc], failure,
    List.forall_mem_append.mpr ⟨fine, others⟩⟩

/-- An exchange that fails is the last one. -/
theorem FailsLast.eq_of_failure? {source : RemoteError} {exchanges before after : List Answered}
    {refused : Answered} (fails : FailsLast source exchanges)
    (split : exchanges = before ++ refused :: after) {error : RemoteError}
    (failure : refused.failure? = some error) : after = [] ∧ error = source := by
  obtain ⟨front, last, rfl, lastFailure, fine⟩ := fails
  rcases List.eq_nil_or_concat after with rfl | ⟨rest, final, rfl⟩
  · obtain ⟨-, same⟩ := List.append_inj' split rfl
    obtain rfl : last = refused := List.singleton_inj.mp same
    exact ⟨rfl, Option.some.inj (failure.symm.trans lastFailure)⟩
  · rw [List.concat_eq_append, ← List.cons_append, ← List.append_assoc] at split
    obtain ⟨rfl, -⟩ := List.append_inj' split rfl
    have none := fine refused (by simp)
    simp [none] at failure

/-- A visit that breaks off ends with the only exchange that fails. -/
theorem Breaks.failsLast {listing : Listing} {names : List String} {exchanges : List Answered}
    {source : RemoteError} (breaks : Breaks listing names exchanges source) :
    FailsLast source exchanges := by
  induction breaks with
  | refused listing source => exact ⟨[], _, rfl, by simp, by simp⟩
  | inside _ here _ ih =>
      exact .append (List.forall_mem_cons.mpr ⟨by simp, here.failure?_eq_none⟩) ih
  | later _ _ here _ ih =>
      exact .append (List.forall_mem_cons.mpr ⟨by simp, here.failure?_eq_none⟩) ih

/-- A build begins with the entry at its root. At the store root nothing is asked. At any other
path the entry is looked up, and a deleted one counts as missing. -/
inductive Begins (mountPoint remotePath : String) : Option Entry → List Answered → Prop where
  | top (isRoot : Build.isStoreRoot remotePath = true) :
      Begins mountPoint remotePath (some ⟨.folder, Path.nameText mountPoint, "/"⟩) []
  | answered (inside : Build.isStoreRoot remotePath = false) {found entry : Option Entry}
      (kept : found.filter Entry.isLive = entry) :
      Begins mountPoint remotePath entry [⟨.metadata remotePath, .ok found⟩]
  | notFound (inside : Build.isStoreRoot remotePath = false) (path : String) :
      Begins mountPoint remotePath none [⟨.metadata remotePath, .error (.notFound path)⟩]

/-- A build breaks off when the lookup of its root is refused, or later in the visit of the root
folder. The names lead from the root to the folder whose listing is refused. -/
inductive BreaksOff (mountPoint remotePath : String) :
    List String → List Answered → RemoteError → Prop where
  | root (inside : Build.isStoreRoot remotePath = false) {source : RemoteError}
      (other : source.isNotFound = false) :
      BreaksOff mountPoint remotePath [] [⟨.metadata remotePath, .error source⟩] source
  | below {name path : String} {names : List String} {first later : List Answered}
      {source : RemoteError}
      (begins : Begins mountPoint remotePath (some ⟨.folder, name, path⟩) first)
      (breaks : Breaks (.first path) names later source) :
      BreaksOff mountPoint remotePath names (first ++ later) source

theorem Begins.failure?_eq_none {mountPoint remotePath : String} {found : Option Entry}
    {exchanges : List Answered} (begins : Begins mountPoint remotePath found exchanges) :
    ∀ exchange ∈ exchanges, exchange.failure? = none := by
  cases begins <;> simp [Answered.failure?]

theorem BreaksOff.failsLast {mountPoint remotePath : String} {names : List String}
    {exchanges : List Answered} {source : RemoteError}
    (breaks : BreaksOff mountPoint remotePath names exchanges source) :
    FailsLast source exchanges := by
  cases breaks with
  | root inside other =>
      refine ⟨[], _, rfl, ?_, by simp⟩
      cases source with
      | notFound path => simp [RemoteError.isNotFound] at other
      | refused | exchange | objectStore | undecodable => rfl
  | below begins breaks => exact .append begins.failure?_eq_none breaks.failsLast

end ContentMount
