/-
This file shows how readers share one payload. At most one of them downloads, a success ends all
downloading, and a failure is for one reader alone. This holds for every order of events.
-/

import ContentMount.Content.Readers
import Mathlib.Data.List.Basic

namespace ContentMount

open Remote

namespace ReaderPhase

/-- A failed reader got an error. -/
def isFailed : ReaderPhase → Bool
  | .served (.error _) => true
  | _ => false

/-- Bytes that a reader got are those of the payload, and an error that it got names the remote
path. -/
def Grounded (source : String) (payload : Option ByteArray) : ReaderPhase → Prop
  | .served (.ok bytes) => payload = some bytes
  | .served (.error error) => ∃ reason, error = fetchFailure source reason
  | _ => True

/-- As long as there is no payload, the phases stay grounded whatever the payload will be. -/
theorem Grounded.load {phase : ReaderPhase} {source : String}
    (grounded : phase.Grounded source none) (payload : Option ByteArray) :
    phase.Grounded source payload := by
  cases phase with
  | served result =>
    cases result with
    | ok bytes => cases grounded
    | error error => exact grounded
  | _ => trivial

end ReaderPhase

namespace Readers

/-- What can happen to the readers of a payload: one more arrives, one is let go on, or the
download of one ends. -/
inductive Act where
  | arrive
  | proceed (reader : Nat)
  | finish (reader : Nat) (outcome : Except RemoteError ByteArray)

def act (readers : Readers) : Act → Readers
  | .arrive => readers.arrive
  | .proceed reader => readers.proceed reader
  | .finish reader outcome => readers.finish reader outcome

/-- A run is any sequence of events. -/
def run (readers : Readers) (acts : List Act) : Readers :=
  acts.foldl act readers

/-- The downloads under way. -/
def downloads (readers : Readers) : Nat :=
  readers.phases.countP ReaderPhase.isDownloading

/-- The readers that have failed. -/
def failures (readers : Readers) : Nat :=
  readers.phases.countP ReaderPhase.isFailed

/-- The successful downloads that the payload at hand accounts for. -/
def successes (readers : Readers) : Nat :=
  readers.payload.toList.length

theorem run_append (readers : Readers) (acts more : List Act) :
    readers.run (acts ++ more) = (readers.run acts).run more :=
  List.foldl_append

@[simp] theorem run_nil (readers : Readers) : readers.run [] = readers := rfl

@[simp] theorem run_cons (readers : Readers) (action : Act) (acts : List Act) :
    readers.run (action :: acts) = (readers.act action).run acts := rfl

@[simp] theorem payload_enter (readers : Readers) (reader : Nat) (phase : ReaderPhase) :
    (readers.enter reader phase).payload = readers.payload := rfl

@[simp] theorem source_enter (readers : Readers) (reader : Nat) (phase : ReaderPhase) :
    (readers.enter reader phase).source = readers.source := rfl

@[simp] theorem begun_enter (readers : Readers) (reader : Nat) (phase : ReaderPhase) :
    (readers.enter reader phase).begun = readers.begun := rfl

@[simp] theorem phases_enter (readers : Readers) (reader : Nat) (phase : ReaderPhase) :
    (readers.enter reader phase).phases = readers.phases.set reader phase := rfl

/-- No download is under way exactly when none is counted. -/
theorem downloader?_eq_none_iff (readers : Readers) :
    readers.downloader? = none ↔ readers.downloads = 0 := by
  rw [downloader?, List.findIdx?_eq_none_iff, downloads, List.countP_eq_zero]
  simp

theorem downloads_pos {readers : Readers} {reader : Nat}
    (downloading : readers.phases[reader]? = some .downloading) : 0 < readers.downloads :=
  List.countP_pos_iff.mpr ⟨.downloading, List.mem_of_getElem? downloading, rfl⟩

/-- When one reader leaves a phase for another, the counts change by these two phases alone. -/
theorem countP_set_add {phases : List ReaderPhase} {reader : Nat} {before : ReaderPhase}
    (here : phases[reader]? = some before) (after : ReaderPhase) (test : ReaderPhase → Bool) :
    (phases.set reader after).countP test + (test before).toNat =
      phases.countP test + (test after).toNat := by
  obtain ⟨inside, isBefore⟩ := List.getElem?_eq_some_iff.mp here
  rw [List.countP_set inside, isBefore]
  cases passed : test before with
  | false => cases test after <;> simp
  | true =>
    have positive : 0 < phases.countP test :=
      List.countP_pos_iff.mpr ⟨before, List.mem_of_getElem? here, passed⟩
    cases test after <;> simp <;> omega

theorem downloads_enter {readers : Readers} {reader : Nat} {before : ReaderPhase}
    (here : readers.phases[reader]? = some before) (after : ReaderPhase) :
    (readers.enter reader after).downloads + before.isDownloading.toNat =
      readers.downloads + after.isDownloading.toNat :=
  countP_set_add here after ReaderPhase.isDownloading

theorem failures_enter {readers : Readers} {reader : Nat} {before : ReaderPhase}
    (here : readers.phases[reader]? = some before) (after : ReaderPhase) :
    (readers.enter reader after).failures + before.isFailed.toNat =
      readers.failures + after.isFailed.toNat :=
  countP_set_add here after ReaderPhase.isFailed

/-! ## Single events -/

/-- What an event can change. -/
inductive Changes (readers : Readers) : Act → Readers → Prop where
  | nothing (action : Act) : Changes readers action readers
  | arrived : Changes readers .arrive readers.arrive
  | given {reader : Nat} {payload : ByteArray}
      (waiting : readers.phases[reader]? = some .waiting)
      (loaded : readers.payload = some payload) :
      Changes readers (.proceed reader) (readers.enter reader (.served (.ok payload)))
  | began {reader : Nat} (waiting : readers.phases[reader]? = some .waiting)
      (unloaded : readers.payload = none) (free : readers.downloads = 0) :
      Changes readers (.proceed reader)
        { readers.enter reader .downloading with begun := readers.begun + 1 }
  | succeeded {reader : Nat} (payload : ByteArray)
      (downloading : readers.phases[reader]? = some .downloading) :
      Changes readers (.finish reader (.ok payload))
        { readers.enter reader (.served (.ok payload)) with payload := some payload }
  | failed {reader : Nat} (error : RemoteError)
      (downloading : readers.phases[reader]? = some .downloading) :
      Changes readers (.finish reader (.error error))
        (readers.enter reader (.served (.error (fetchFailure readers.source error))))

/-- A waiting reader is served from a payload at hand. -/
theorem proceed_of_loaded {readers : Readers} {reader : Nat} {payload : ByteArray}
    (waiting : readers.phases[reader]? = some .waiting) (loaded : readers.payload = some payload) :
    readers.proceed reader = readers.enter reader (.served (.ok payload)) := by
  simp [proceed, waiting, loaded]

/-- Without a payload and a download a waiting reader begins one. -/
theorem proceed_of_free {readers : Readers} {reader : Nat}
    (waiting : readers.phases[reader]? = some .waiting) (unloaded : readers.payload = none)
    (free : readers.downloads = 0) :
    readers.proceed reader =
      { readers.enter reader .downloading with begun := readers.begun + 1 } := by
  simp [proceed, waiting, unloaded, (downloader?_eq_none_iff readers).mpr free]

theorem changes_proceed (readers : Readers) (reader : Nat) :
    Changes readers (.proceed reader) (readers.proceed reader) := by
  rw [proceed]
  split
  · rename_i waiting
    split
    · rename_i loaded
      exact .given waiting loaded
    · exact .nothing _
    · rename_i unloaded free
      exact .began waiting unloaded ((downloader?_eq_none_iff readers).mp free)
  · exact .nothing _

theorem changes_finish (readers : Readers) (reader : Nat)
    (outcome : Except RemoteError ByteArray) :
    Changes readers (.finish reader outcome) (readers.finish reader outcome) := by
  unfold finish
  split
  · rename_i downloading
    cases outcome with
    | ok payload => exact .succeeded payload downloading
    | error error => exact .failed error downloading
  · exact .nothing _

/-- Nothing else can happen. -/
theorem changes (readers : Readers) (action : Act) : Changes readers action (readers.act action) := by
  cases action with
  | arrive => exact .arrived
  | proceed reader => exact changes_proceed readers reader
  | finish reader outcome => exact changes_finish readers reader outcome

theorem source_run (readers : Readers) (acts : List Act) :
    (readers.run acts).source = readers.source := by
  induction acts generalizing readers with
  | nil => rfl
  | cons action rest ih =>
    rw [run_cons, ih]
    have change := changes readers action
    generalize readers.act action = after at change
    cases change <;> rfl

/-! ## What every event preserves -/

/-- The readers of a payload are in order when nobody downloads in vain. -/
structure InOrder (readers : Readers) : Prop where
  /-- At most one download is under way, and none once there is a payload. -/
  single : readers.downloads + readers.successes ≤ 1
  grounded : ∀ phase ∈ readers.phases, phase.Grounded readers.source readers.payload

theorem inOrder_start (source : String) (payload : Option ByteArray) :
    (start source payload).InOrder := by
  constructor
  · cases payload <;> simp [start, downloads, successes]
  · simp [start]

theorem successes_eq_zero {readers : Readers} :
    readers.successes = 0 ↔ readers.payload = none := by
  simp [successes]

theorem successes_eq_one {readers : Readers} {bytes : ByteArray}
    (loaded : readers.payload = some bytes) : readers.successes = 1 := by
  simp [successes, loaded]

/-- While somebody downloads there is no payload and no second download. -/
theorem InOrder.of_downloading {readers : Readers} {reader : Nat} (ordered : readers.InOrder)
    (downloading : readers.phases[reader]? = some .downloading) :
    readers.payload = none ∧ readers.downloads = 1 := by
  have positive := downloads_pos downloading
  have single := ordered.single
  exact ⟨successes_eq_zero.mp (by omega), by omega⟩

/-- A payload at hand ends all downloading. -/
theorem InOrder.downloads_of_loaded {readers : Readers} {bytes : ByteArray}
    (ordered : readers.InOrder) (loaded : readers.payload = some bytes) :
    readers.downloads = 0 := by
  have single := ordered.single
  have one := successes_eq_one loaded
  omega

/-- A reader may enter every grounded phase. -/
theorem grounded_enter {readers : Readers} {source : String} {payload : Option ByteArray}
    (grounded : ∀ phase ∈ readers.phases, phase.Grounded source payload) (reader : Nat)
    (phase : ReaderPhase) (new : phase.Grounded source payload) :
    ∀ other ∈ (readers.enter reader phase).phases, other.Grounded source payload := by
  intro other member
  rcases List.mem_or_eq_of_mem_set member with old | isNew
  · exact grounded other old
  · rw [isNew]
    exact new

/-- No event brings the readers out of order. -/
theorem InOrder.of_changes {readers after : Readers} {action : Act} (ordered : readers.InOrder)
    (change : Changes readers action after) : after.InOrder := by
  have single := ordered.single
  have grounded := ordered.grounded
  cases change with
  | nothing => exact ordered
  | arrived =>
    constructor
    · simpa [arrive, downloads, successes, ReaderPhase.isDownloading] using single
    · simpa [arrive, or_imp, forall_and, ReaderPhase.Grounded] using grounded
  | @given reader bytes waiting loaded =>
    have running := downloads_enter waiting (.served (.ok bytes))
    simp only [ReaderPhase.isDownloading, Bool.toNat_false] at running
    constructor
    · change _ + readers.successes ≤ 1
      omega
    · exact grounded_enter grounded reader (.served (.ok bytes)) loaded
  | @began reader waiting unloaded free =>
    have running := downloads_enter waiting .downloading
    simp only [ReaderPhase.isDownloading, Bool.toNat_false, Bool.toNat_true] at running
    have empty := successes_eq_zero.mpr unloaded
    constructor
    · change (readers.enter reader .downloading).downloads + readers.successes ≤ 1
      omega
    · exact grounded_enter grounded reader .downloading trivial
  | @succeeded reader bytes downloading =>
    have running := downloads_enter downloading (.served (.ok bytes))
    simp only [ReaderPhase.isDownloading, Bool.toNat_false, Bool.toNat_true] at running
    obtain ⟨unloaded, one⟩ := ordered.of_downloading downloading
    constructor
    · change (readers.enter reader (.served (.ok bytes))).downloads + 1 ≤ 1
      omega
    · rw [unloaded] at grounded
      exact grounded_enter (fun phase member => (grounded phase member).load (some bytes)) reader
        (.served (.ok bytes)) rfl
  | @failed reader error downloading =>
    have running := downloads_enter downloading (.served (.error (fetchFailure readers.source error)))
    simp only [ReaderPhase.isDownloading, Bool.toNat_false, Bool.toNat_true] at running
    constructor
    · change _ + readers.successes ≤ 1
      omega
    · exact grounded_enter grounded reader (.served (.error (fetchFailure readers.source error)))
        ⟨error, rfl⟩

theorem InOrder.act {readers : Readers} (ordered : readers.InOrder) (action : Act) :
    (readers.act action).InOrder :=
  ordered.of_changes (changes readers action)

/-- Readers in order stay so whatever happens. -/
theorem InOrder.run {readers : Readers} (ordered : readers.InOrder) (acts : List Act) :
    (readers.run acts).InOrder := by
  induction acts generalizing readers with
  | nil => exact ordered
  | cons action rest ih => exact ih (ordered.act action)

/-! ## Counting the downloads -/

/-- Every download that was begun has failed for one reader, has succeeded or is under way. -/
def Counted (readers : Readers) : Prop :=
  readers.begun = readers.failures + readers.successes + readers.downloads

theorem counted_start (source : String) : (start source none).Counted := by
  simp [Counted, start, downloads, failures, successes]

theorem Counted.of_changes {readers after : Readers} {action : Act} (counted : readers.Counted)
    (ordered : readers.InOrder) (change : Changes readers action after) : after.Counted := by
  unfold Counted at *
  cases change with
  | nothing => exact counted
  | arrived =>
    simpa [arrive, downloads, failures, successes, ReaderPhase.isDownloading,
      ReaderPhase.isFailed] using counted
  | @given reader bytes waiting loaded =>
    have running := downloads_enter waiting (.served (.ok bytes))
    have failing := failures_enter waiting (.served (.ok bytes))
    simp only [ReaderPhase.isDownloading, ReaderPhase.isFailed, Bool.toNat_false] at running failing
    change readers.begun = _ + readers.successes + _
    omega
  | @began reader waiting unloaded free =>
    have running := downloads_enter waiting .downloading
    have failing := failures_enter waiting .downloading
    simp only [ReaderPhase.isDownloading, ReaderPhase.isFailed, Bool.toNat_false,
      Bool.toNat_true] at running failing
    change readers.begun + 1 = (readers.enter reader .downloading).failures +
      readers.successes + (readers.enter reader .downloading).downloads
    omega
  | @succeeded reader bytes downloading =>
    have running := downloads_enter downloading (.served (.ok bytes))
    have failing := failures_enter downloading (.served (.ok bytes))
    have empty := successes_eq_zero.mpr (ordered.of_downloading downloading).1
    simp only [ReaderPhase.isDownloading, ReaderPhase.isFailed, Bool.toNat_false,
      Bool.toNat_true] at running failing
    change readers.begun = (readers.enter reader (.served (.ok bytes))).failures + 1 +
      (readers.enter reader (.served (.ok bytes))).downloads
    omega
  | @failed reader error downloading =>
    have running := downloads_enter downloading (.served (.error (fetchFailure readers.source error)))
    have failing := failures_enter downloading (.served (.error (fetchFailure readers.source error)))
    simp only [ReaderPhase.isDownloading, ReaderPhase.isFailed, Bool.toNat_false,
      Bool.toNat_true] at running failing
    change readers.begun = _ + readers.successes + _
    omega

theorem Counted.run {readers : Readers} (counted : readers.Counted) (ordered : readers.InOrder)
    (acts : List Act) : (readers.run acts).Counted := by
  induction acts generalizing readers with
  | nil => exact counted
  | cons action rest ih =>
    exact ih (counted.of_changes ordered (changes readers action)) (ordered.act action)

/-! ## After a success -/

/-- What can still change once there is a payload. -/
structure Since (bytes : ByteArray) (readers after : Readers) : Prop where
  source : after.source = readers.source
  payload : after.payload = some bytes
  begun : after.begun = readers.begun
  /-- Whoever is served in the meantime gets the payload. -/
  served : ∀ (reader : Nat) (result : ReaderResult), after.phases[reader]? = some (.served result) →
    readers.phases[reader]? = some (.served result) ∨ result = .ok bytes

theorem Since.refl {readers : Readers} {bytes : ByteArray}
    (loaded : readers.payload = some bytes) : Since bytes readers readers :=
  ⟨rfl, loaded, rfl, fun _ _ served => .inl served⟩

theorem Since.trans {bytes : ByteArray} {readers between after : Readers}
    (first : Since bytes readers between) (second : Since bytes between after) :
    Since bytes readers after := by
  refine ⟨second.source.trans first.source, second.payload, second.begun.trans first.begun, ?_⟩
  intro reader result served
  rcases second.served reader result served with earlier | new
  · exact first.served reader result earlier
  · exact .inr new

/-- A payload at hand only lets readers come and be served. -/
theorem since_changes {readers after : Readers} {action : Act} {bytes : ByteArray}
    (ordered : readers.InOrder) (loaded : readers.payload = some bytes)
    (change : Changes readers action after) : Since bytes readers after := by
  have idle := ordered.downloads_of_loaded loaded
  cases change with
  | nothing => exact .refl loaded
  | arrived =>
    refine ⟨rfl, loaded, rfl, ?_⟩
    intro reader result served
    simp only [arrive, List.getElem?_append] at served
    split at served
    · exact .inl served
    · simp [List.getElem?_singleton] at served
  | @given reader payload waiting present =>
    refine ⟨rfl, loaded, rfl, ?_⟩
    intro other result served
    rw [phases_enter, List.getElem?_set] at served
    split at served
    · rw [loaded] at present
      cases present
      split at served
      · cases served
        exact .inr rfl
      · cases served
    · exact .inl served
  | began _ unloaded => simp [loaded] at unloaded
  | succeeded payload downloading =>
    have := downloads_pos downloading
    omega
  | failed error downloading =>
    have := downloads_pos downloading
    omega

/-- After a success no download begins, and only the payload is handed out. -/
theorem since_run {readers : Readers} {bytes : ByteArray} (ordered : readers.InOrder)
    (loaded : readers.payload = some bytes) (acts : List Act) :
    Since bytes readers (readers.run acts) := by
  induction acts generalizing readers with
  | nil => exact .refl loaded
  | cons action rest ih =>
    have first := since_changes ordered loaded (changes readers action)
    exact first.trans (ih (ordered.act action) first.payload)

/-! ## After a failure -/

/-- There is no payload, and nobody is getting one. -/
def Idle (readers : Readers) : Prop :=
  readers.payload = none ∧ readers.downloads = 0

/-- In an idle state every waiting reader may begin a download. -/
theorem Idle.proceed {readers : Readers} {reader : Nat} (idle : readers.Idle)
    (waiting : readers.phases[reader]? = some .waiting) :
    (readers.proceed reader).phases[reader]? = some .downloading := by
  obtain ⟨inside, _⟩ := List.getElem?_eq_some_iff.mp waiting
  rw [proceed_of_free waiting idle.1 idle.2]
  simp [inside]

theorem Idle.arrive {readers : Readers} (idle : readers.Idle) : readers.arrive.Idle := by
  simpa [Idle, Readers.arrive, downloads, ReaderPhase.isDownloading] using idle

/-- A new reader is the last one. -/
theorem phases_arrive (readers : Readers) :
    readers.arrive.phases[readers.phases.length]? = some .waiting := by
  simp [arrive]

/-- A failure is for the reader that ran the download. -/
theorem finish_error {readers : Readers} {reader : Nat}
    (downloading : readers.phases[reader]? = some .downloading) (error : RemoteError) :
    readers.finish reader (.error error) =
      readers.enter reader (.served (.error (fetchFailure readers.source error))) := by
  simp [finish, downloading]

/-- A success is kept for everybody. -/
theorem finish_ok {readers : Readers} {reader : Nat}
    (downloading : readers.phases[reader]? = some .downloading) (payload : ByteArray) :
    readers.finish reader (.ok payload) =
      { readers.enter reader (.served (.ok payload)) with payload := some payload } := by
  simp [finish, downloading]

/-- After a failure another download may begin. -/
theorem InOrder.idle_of_failed {readers : Readers} {reader : Nat} (ordered : readers.InOrder)
    (downloading : readers.phases[reader]? = some .downloading) (error : RemoteError) :
    (readers.finish reader (.error error)).Idle := by
  obtain ⟨unloaded, one⟩ := ordered.of_downloading downloading
  have running := downloads_enter downloading (.served (.error (fetchFailure readers.source error)))
  rw [finish_error downloading]
  refine ⟨unloaded, ?_⟩
  simp only [ReaderPhase.isDownloading, Bool.toNat_false, Bool.toNat_true] at running
  omega

/-- A payload at hand got there before, or a download has just brought it. -/
theorem payload_act {readers : Readers} {action : Act} {bytes : ByteArray}
    (loaded : (readers.act action).payload = some bytes) :
    readers.payload = some bytes ∨ ∃ reader, action = .finish reader (.ok bytes) ∧
      readers.phases[reader]? = some .downloading := by
  have change := changes readers action
  generalize readers.act action = after at change loaded
  cases change with
  | succeeded payload downloading =>
    cases loaded
    exact .inr ⟨_, rfl, downloading⟩
  | _ => exact .inl loaded

/-- A reader that moves on does not touch what others got. -/
theorem served_enter {readers : Readers} {reader mover : Nat} {result : ReaderResult}
    {phase : ReaderPhase} (served : readers.phases[reader]? = some (.served result))
    (here : readers.phases[mover]? = some phase) (unserved : phase ≠ .served result)
    (next : ReaderPhase) :
    (readers.enter mover next).phases[reader]? = some (.served result) := by
  have different : mover ≠ reader := by
    intro same
    rw [same, served] at here
    exact unserved (Option.some.inj here).symm
  rw [phases_enter, List.getElem?_set_ne different, served]

/-- A reader keeps what it got. -/
theorem served_act {readers : Readers} {reader : Nat} {result : ReaderResult}
    (served : readers.phases[reader]? = some (.served result)) (action : Act) :
    (readers.act action).phases[reader]? = some (.served result) := by
  have change := changes readers action
  have inside : reader < readers.phases.length := (List.getElem?_eq_some_iff.mp served).1
  generalize readers.act action = after at change
  cases change with
  | nothing => exact served
  | arrived => rw [arrive, List.getElem?_append_left inside, served]
  | given waiting _ => exact served_enter served waiting (by simp) _
  | began waiting _ _ => exact served_enter served waiting (by simp) .downloading
  | succeeded payload downloading =>
    exact served_enter served downloading (by simp) (.served (.ok payload))
  | failed _ downloading => exact served_enter served downloading (by simp) _

theorem served_run {readers : Readers} {reader : Nat} {result : ReaderResult}
    (served : readers.phases[reader]? = some (.served result)) (acts : List Act) :
    (readers.run acts).phases[reader]? = some (.served result) := by
  induction acts generalizing readers with
  | nil => exact served
  | cons action rest ih => exact ih (served_act served action)

/-- In a run the reader that brought the payload got it too. -/
theorem payload_run {readers : Readers} {acts : List Act} {bytes : ByteArray}
    (loaded : (readers.run acts).payload = some bytes) :
    readers.payload = some bytes ∨ .served (.ok bytes) ∈ (readers.run acts).phases := by
  induction acts generalizing readers with
  | nil => exact .inl loaded
  | cons action rest ih =>
    rcases ih loaded with earlier | member
    · rcases payload_act earlier with old | ⟨reader, rfl, downloading⟩
      · exact .inl old
      · have inside := (List.getElem?_eq_some_iff.mp downloading).1
        have served : (readers.act (.finish reader (.ok bytes))).phases[reader]? =
            some (.served (.ok bytes)) := by
          simp [act, finish_ok downloading, inside]
        exact .inr (List.mem_of_getElem? (served_run served rest))
    · exact .inr member

/-! ## A read by itself -/

/-- The events of a read that nobody else interferes with. -/
def lone (reader : Nat) (outcome : Except RemoteError ByteArray) : List Act :=
  [.arrive, .proceed reader, .finish reader outcome]

/-- A payload at hand is all that a read needs. -/
theorem run_lone_of_loaded {readers : Readers} {payload : ByteArray}
    (loaded : readers.payload = some payload) (outcome : Except RemoteError ByteArray) :
    readers.run (lone readers.phases.length outcome) =
      readers.arrive.enter readers.phases.length (.served (.ok payload)) := by
  have served := proceed_of_loaded (phases_arrive readers) loaded
  simp only [lone, run_cons, run_nil, act, served]
  simp [finish, arrive]

/-- Otherwise the read runs a download, and its outcome decides. -/
theorem run_lone_of_idle {readers : Readers} (idle : readers.Idle)
    (outcome : Except RemoteError ByteArray) :
    readers.run (lone readers.phases.length outcome) =
      { readers.arrive.enter readers.phases.length
          (.served (outcome.mapError (fetchFailure readers.source))) with
        payload := outcome.toOption
        begun := readers.begun + 1 } := by
  have began := proceed_of_free (phases_arrive readers) idle.arrive.1 idle.arrive.2
  simp only [lone, run_cons, run_nil, act, began]
  have unloaded := idle.1
  cases outcome <;>
    simp [finish, arrive, enter, Except.mapError, Except.toOption, unloaded]

end Readers

end ContentMount
