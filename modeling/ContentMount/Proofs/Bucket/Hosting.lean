/-
This file says what it means that a service hosts the objects of a bucket, and shows that the store
over such a service pages its listings.
-/

import ContentMount.Proofs.Bucket.Cursor
import ContentMount.Proofs.Bucket.Starts
import ContentMount.Proofs.Build.Outcome
import ContentMount.Remote.Connection

namespace ContentMount.Remote.Bucket

/-- The keys that a page reports. -/
def Found.objects (found : Found) : List String := found.keys.filterMap id

/-- The common starts that a page reports. -/
def Found.starts (found : Found) : List String := found.commonStarts.filterMap id

/-- Pages report what lies directly below a start: the keys without a further slash, and once each
the starts of the other keys up to their next slash. -/
structure Reports (keys : List String) (start : String) (pages : List Found) : Prop where
  objects : ∀ key, key ∈ pages.flatMap Found.objects ↔
    key ∈ keys ∧ ∃ name, '/' ∉ name.toList ∧ key = start ++ name
  objectsOnce : (pages.flatMap Found.objects).Nodup
  starts : ∀ common, common ∈ pages.flatMap Found.starts ↔
    ∃ name rest, '/' ∉ name.toList ∧ common = start ++ name ++ "/" ∧ common ++ rest ∈ keys
  startsOnce : (pages.flatMap Found.starts).Nodup

/-- A call spares the listing below a start unless it goes on with a cursor that uses up the cursor
of the listing. -/
def Call.Spares (spends : Cursor → Cursor → Prop) (call : Call) (start : String)
    (token : Option String) : Prop :=
  ∀ used : Cursor, call = .list (folderSelection used.start (some used.token)) →
    ∀ own, token = some own → ¬spends used ⟨start, own⟩

/-- A service hosts objects under their keys. It cuts each listing into pages as it likes, and it
tells which keys there are. A token has to work only once. -/
structure Hosting {σ : Type} (respond : (call : Call) → StateM σ call.Answer)
    (keys : List String) where
  /-- The pages of the listing below a start. -/
  pages : String → List Found
  reports : ∀ start, Reports keys start (pages start)
  /-- In a state, the listing below a start is about to bring these pages. -/
  awaits : σ → String → Option String → List Found → Prop
  /-- A listing may be begun at any time. -/
  begins : ∀ state start, awaits state start none (pages start)
  /-- The first of the pages comes. It has a token exactly when it is cut off, and the token leads
  to the other pages. -/
  brings {state : σ} {start : String} {token : Option String} {pages : List Found} :
    awaits state start token pages → ∃ found rest next, pages = found :: rest ∧
      respond (.list (folderSelection start token)) state = (.ok found, next) ∧
      found.truncated.getD false = !rest.isEmpty ∧ found.nextToken.isSome = !rest.isEmpty ∧
      ∀ further, found.nextToken = some further → awaits next start (some further) rest
  /-- Going on with the first cursor may use up the second. -/
  spends : Cursor → Cursor → Prop
  /-- Whatever is called in between, the listing goes on as long as its token is not used up. -/
  keeps {state : σ} {start : String} {token : Option String} {pages : List Found} :
    awaits state start token pages → ∀ call : Call, call.Spares spends start token →
      awaits (respond call state).2 start token pages
  /-- While a token waits, no other listing brings one that would use it up. -/
  fresh {state : σ} {start token : String} {pages : List Found} :
    awaits state start (some token) pages → ∀ otherStart otherToken,
      Call.Spares spends (.list (folderSelection otherStart otherToken)) start (some token) →
        ∀ found, (respond (.list (folderSelection otherStart otherToken)) state).1 = .ok found →
          ∀ further, found.nextToken = some further → ¬spends ⟨otherStart, further⟩ ⟨start, token⟩
  /-- The head of an object is there when its key is. -/
  present : ∀ state, ∀ key ∈ keys, (respond (.head key) state).1 = .ok ()
  absent : ∀ state, ∀ key ∉ keys, ∃ detail,
    (respond (.head key) state).1 = .error ⟨some "NotFound", detail⟩
  /-- A listing of one key at most counts a key when there is any with the start. -/
  probes : ∀ state start, ∃ found,
    (respond (.list ⟨some start, none, some 1, none⟩) state).1 = .ok found ∧
      (0 < found.count.getD 0 ↔ ∃ rest, start ++ rest ∈ keys)

section

variable {σ : Type} {transport : Transport σ} {client : Client} {keys : List String}

/-- The store of a bucket over a transport. -/
abbrev storeOf (transport : Transport σ) (client : Client) : Store σ :=
  (Connection.bucket client).store transport

/-- The start and the token that a listing asks with. -/
def Listing.question? : Listing → Option (String × Option String)
  | .first path => some (startOf path, none)
  | .after text => (Cursor.read? text).map fun cursor => (cursor.start, some cursor.token)

theorem Listing.question?_after_eq_some_iff {text start : String} {token : Option String} :
    Listing.question? (.after text) = some (start, token) ↔
      ∃ own, token = some own ∧ Cursor.read? text = some ⟨start, own⟩ := by
  constructor
  · intro asked
    obtain ⟨cursor, isCursor, same⟩ := Option.map_eq_some_iff.mp asked
    obtain ⟨rfl, rfl⟩ := Prod.mk.inj same
    exact ⟨cursor.token, rfl, isCursor⟩
  · rintro ⟨own, rfl, isCursor⟩
    rw [Listing.question?, isCursor]
    rfl

/-- The cursor of a page asks for the next page with the same start and with the token. -/
theorem question?_cursor (start : String) {found : Found} (token : found.nextToken.isSome) :
    Listing.question? (.after (pageOf start found).cursor) = some (start, found.nextToken) := by
  obtain ⟨further, isFurther⟩ := Option.isSome_iff_exists.mp token
  simp only [Listing.question?, pageOf, isFurther, Option.map_some, Option.getD_some,
    Cursor.read?_write]

theorem run_askPage_of_asked {listing : Listing} {start : String} {token : Option String}
    (asked : Listing.question? listing = some (start, token)) (state : σ) :
    (storeOf transport client).run (askPage listing) state =
      Dialogue.run (transport.bucket client) (listPage start token) state := by
  cases listing with
  | first path =>
      obtain ⟨rfl, rfl⟩ := Prod.mk.inj (Option.some.inj asked)
      rfl
  | after text =>
      obtain ⟨own, rfl, isCursor⟩ := Listing.question?_after_eq_some_iff.mp asked
      change Dialogue.run (transport.bucket client) (listNext text) state = _
      rw [listNext, isCursor]

/-- A listing is one call to the service. -/
theorem run_askPage {listing : Listing} {start : String} {token : Option String}
    (asked : Listing.question? listing = some (start, token)) {state next : σ} {found : Found}
    (answered : transport.bucket client (.list (folderSelection start token)) state =
      (.ok found, next)) :
    (storeOf transport client).run (askPage listing) state = (.ok (pageOf start found), next) := by
  rw [run_askPage_of_asked asked, listPage, Dialogue.run, answered]
  rfl

/-- The page that a listing brings comes from one answer of the service. -/
theorem exists_found_of_askPage {listing : Listing} {state : σ} {page : Page}
    (came : ((storeOf transport client).run (askPage listing) state).1 = .ok page) :
    ∃ start token found, Listing.question? listing = some (start, token) ∧
      (transport.bucket client (.list (folderSelection start token)) state).1 = .ok found ∧
      page = pageOf start found := by
  cases asked : Listing.question? listing with
  | none =>
      cases listing with
      | first path => cases asked
      | after text =>
          have unreadable : Cursor.read? text = none := Option.map_eq_none_iff.mp asked
          change (Dialogue.run (transport.bucket client) (listNext text) state).1 = _ at came
          simp [listNext, unreadable, Dialogue.run] at came
  | some question =>
      obtain ⟨start, token⟩ := question
      rw [run_askPage_of_asked asked, listPage, Dialogue.run] at came
      cases answered : (transport.bucket client (.list (folderSelection start token)) state).1 with
      | error fault => simp [answered, Dialogue.run] at came
      | ok found =>
          rw [answered] at came
          exact ⟨start, token, found, rfl, answered, (Except.ok.inj came).symm⟩

theorem folderSelection_inj {start other : String} {token otherToken : Option String}
    (same : folderSelection start token = folderSelection other otherToken) :
    start = other ∧ token = otherToken := by
  obtain ⟨starts, -, -, rfl⟩ := Selection.mk.inj same
  refine ⟨?_, rfl⟩
  by_cases top : start = "" <;> by_cases otherTop : other = "" <;> simp_all

namespace Hosting

variable (hosting : Hosting (transport.bucket client) keys)

/-- A text uses up another when the cursors that they hold do. -/
def SpendsText (used text : String) : Prop :=
  ∃ one two, Cursor.read? used = some one ∧ Cursor.read? text = some two ∧ hosting.spends one two

section

variable {hosting} {listing : Listing} {start : String} {token : Option String}
  (asked : Listing.question? listing = some (start, token))
include asked

/-- The call of a listing spares the listings that its request spares. -/
theorem spares_call {other : Listing} {otherStart : String} {otherToken : Option String}
    (otherAsked : Listing.question? other = some (otherStart, otherToken))
    (spares : other.request.Spares hosting.SpendsText listing) :
    Call.Spares hosting.spends (.list (folderSelection otherStart otherToken)) start token := by
  rintro used called own rfl
  obtain ⟨rfl, rfl⟩ := folderSelection_inj (Call.list.inj called)
  cases listing with
  | first path => simp [Listing.question?] at asked
  | after text =>
      cases other with
      | first path => simp [Listing.question?] at otherAsked
      | after usedText =>
          obtain ⟨_, ⟨⟩, isCursor⟩ := Listing.question?_after_eq_some_iff.mp asked
          obtain ⟨_, ⟨⟩, isUsed⟩ := Listing.question?_after_eq_some_iff.mp otherAsked
          exact fun spent => spares usedText text rfl rfl ⟨_, _, isUsed, isCursor, spent⟩

/-- A request that spares a listing is answered by calls that spare it. -/
theorem asks_answer {request : Request} (spares : request.Spares hosting.SpendsText listing) :
    (client.answer request).Asks fun call => call.Spares hosting.spends start token := by
  cases request with
  | metadata path =>
      have probed : (probe path).Asks fun call => call.Spares hosting.spends start token := by
        refine .ask (fun used called => ?_) fun _ => .done _
        simp [folderSelection] at called
      change (lookUp client.bucket path).Asks _
      unfold lookUp
      dsimp only
      split_ifs with top
      · exact .done _
      · refine .ask (by rintro used ⟨⟩) fun answer => ?_
        rcases answer with fault | found
        · dsimp only
          split_ifs with absent
          · refine probed.bind fun present => ?_
            rcases present with error | _ | _ <;> exact .done _
          · exact .done _
        · exact .done _
  | list path =>
      have otherAsked : Listing.question? (.first path) = some (startOf path, none) := rfl
      exact .ask (spares_call asked otherAsked spares) fun _ => .done _
  | listNext text =>
      change (listNext text).Asks _
      unfold listNext
      cases isCursor : Cursor.read? text with
      | none => exact .done _
      | some cursor =>
          have otherAsked :=
            Listing.question?_after_eq_some_iff.mpr ⟨cursor.token, rfl, isCursor⟩
          exact .ask (spares_call asked otherAsked spares) fun _ => .done _
  | download path => exact .ask (by rintro used ⟨⟩) fun _ => .done _

end

/-- The store over a service that hosts objects pages its listings. -/
def paging : Paging (storeOf transport client) where
  holds state listing pages := ∃ start token founds,
    Listing.question? listing = some (start, token) ∧ hosting.awaits state start token founds ∧
      pages = founds.map (entriesOf start)
  page := by
    rintro state listing _ ⟨start, token, founds, asked, awaited, rfl⟩
    obtain ⟨found, rest, next, rfl, answered, cut, marked, continued⟩ := hosting.brings awaited
    refine ⟨_, rest.map (entriesOf start), (pageOf start found).cursor, next, rfl, ?_, ?_⟩
    · rw [run_askPage asked answered]
      have more : (pageOf start found).hasMore = !(rest.map (entriesOf start)).isEmpty := by
        simp only [pageOf, cut, marked, Bool.and_self, List.isEmpty_map]
      rw [← more]
      rfl
    · intro more
      have goesOn : found.nextToken.isSome = true := by
        rw [marked]
        simpa using more
      obtain ⟨further, isFurther⟩ := Option.isSome_iff_exists.mp goesOn
      have next := question?_cursor start goesOn
      rw [isFurther] at next
      exact ⟨start, some further, rest, next, continued further isFurther, rfl⟩
  spends := hosting.SpendsText
  keeps := by
    rintro state listing _ ⟨start, token, founds, asked, awaited, rfl⟩ request spares
    have asks : (client.answer request).Asks fun call =>
        call.Spares hosting.spends start token := asks_answer asked spares
    have kept := asks.keeps (fun state => hosting.awaits state start token founds)
      (fun _ call awaited spared => hosting.keeps awaited call spared) awaited
    exact ⟨_, rfl, start, token, founds, asked, kept, rfl⟩
  fresh := by
    rintro state text _ ⟨start, token, founds, asked, awaited, rfl⟩ other spares page answered more
    obtain ⟨own, rfl, isCursor⟩ := Listing.question?_after_eq_some_iff.mp asked
    obtain ⟨otherStart, otherToken, found, otherAsked, came, rfl⟩ :=
      exists_found_of_askPage answered
    have goesOn : found.nextToken.isSome = true := (Bool.and_eq_true_iff.mp more).2
    obtain ⟨further, isFurther, written⟩ :=
      Listing.question?_after_eq_some_iff.mp (question?_cursor otherStart goesOn)
    rintro ⟨one, two, isOne, isTwo, spent⟩
    obtain rfl := Option.some.inj (isCursor.symm.trans isTwo)
    obtain rfl := Option.some.inj (written.symm.trans isOne)
    exact hosting.fresh awaited otherStart otherToken (spares_call asked otherAsked spares) found
      came further isFurther spent

/-- Each folder may be listed at any time. -/
theorem holds_first (state : σ) (path : String) :
    hosting.paging.holds state (.first path)
      ((hosting.pages (startOf path)).map (entriesOf (startOf path))) :=
  ⟨startOf path, none, _, rfl, hosting.begins state _, rfl⟩

include hosting

/-- Under the key of an object the store reports a file. -/
theorem answer_metadata_object {path : String} (below : keyOf path ≠ "")
    (member : keyOf path ∈ keys) (state : σ) :
    ((storeOf transport client).answer (.metadata path) state).1 =
      .ok (some (fileOf (keyOf path))) := by
  have looked : ((storeOf transport client).answer (.metadata path) state).1 =
      (Dialogue.run (transport.bucket client) (lookUp client.bucket path) state).1 := rfl
  rw [looked, lookUp]
  simp only [beq_iff_eq, below, if_false, Dialogue.run, hosting.present state _ member]
  rfl

/-- Without an object the store reports what a probe finds. -/
theorem answer_metadata_probe {path : String} (below : keyOf path ≠ "")
    (missing : keyOf path ∉ keys) (state : σ) :
    ((∃ rest, startOf path ++ rest ∈ keys) →
      ((storeOf transport client).answer (.metadata path) state).1 =
        .ok (some ⟨.folder, Path.lastPiece (keyOf path), "/" ++ keyOf path⟩)) ∧
    ((¬∃ rest, startOf path ++ rest ∈ keys) →
      ((storeOf transport client).answer (.metadata path) state).1 = .ok none) := by
  obtain ⟨detail, answered⟩ := hosting.absent state (keyOf path) missing
  obtain ⟨found, probed, counted⟩ :=
    hosting.probes (transport.bucket client (.head (keyOf path)) state).2 (startOf path)
  have looked : ((storeOf transport client).answer (.metadata path) state).1 =
      (Dialogue.run (transport.bucket client) (lookUp client.bucket path) state).1 := rfl
  rw [looked, lookUp]
  simp only [beq_iff_eq, below, if_false, Dialogue.run, answered, if_true, probe, bind,
    Dialogue.bind, probed]
  constructor
  · intro inside
    simp only [counted.mpr inside, decide_true]
    rfl
  · intro outside
    simp only [mt counted.mp outside, decide_false]
    rfl

end Hosting

end

end ContentMount.Remote.Bucket
