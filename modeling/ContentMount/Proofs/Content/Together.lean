/-
This file follows readers that come at the same time until the last one is served.
-/

import ContentMount.Proofs.Content.Sharing

namespace ContentMount

open Remote

namespace ReaderPhase

/-- A reader is pending until it is served. -/
def isPending (phase : ReaderPhase) : Bool :=
  phase.result?.isNone

end ReaderPhase

namespace Readers

/-- The readers that still have to be served. -/
def pending (readers : Readers) : Nat :=
  readers.phases.countP ReaderPhase.isPending

theorem pending_enter {readers : Readers} {reader : Nat} {before : ReaderPhase}
    (here : readers.phases[reader]? = some before) (after : ReaderPhase) :
    (readers.enter reader after).pending + before.isPending.toNat =
      readers.pending + after.isPending.toNat :=
  countP_set_add here after ReaderPhase.isPending

/-! ## Letting all readers go on -/

/-- The first readers wait only for a download that is under way. -/
def Awake (readers : Readers) (count : Nat) : Prop :=
  ∀ reader < count, readers.phases[reader]? = some .waiting →
    readers.payload = none ∧ 0 < readers.downloads

/-- While somebody downloads, all others go on waiting. -/
theorem proceed_of_busy {readers : Readers} (unloaded : readers.payload = none)
    (busy : 0 < readers.downloads) (reader : Nat) : readers.proceed reader = readers := by
  unfold proceed
  split
  · cases free : readers.downloader? with
    | none =>
      have none := (downloader?_eq_none_iff readers).mp free
      omega
    | some other => rw [unloaded]
  · rfl

theorem proceed_of_not_waiting {readers : Readers} {reader : Nat}
    (moved : readers.phases[reader]? ≠ some .waiting) : readers.proceed reader = readers := by
  unfold proceed
  split
  · contradiction
  · rfl

/-- After the next reader has gone on, it waits only for a download too. -/
theorem Awake.proceed {readers : Readers} {count : Nat} (awake : readers.Awake count) :
    (readers.proceed count).Awake (count + 1) := by
  intro reader before waiting
  by_cases busy : readers.payload = none ∧ 0 < readers.downloads
  · rw [proceed_of_busy busy.1 busy.2]
    exact busy
  by_cases next : readers.phases[count]? = some .waiting
  · cases loaded : readers.payload with
    | some bytes =>
      rw [proceed_of_loaded next loaded, phases_enter, List.getElem?_set] at waiting
      split at waiting
      · simp at waiting
      · exact absurd (awake reader (by omega) waiting) busy
    | none =>
      rw [proceed_of_free next loaded (Nat.eq_zero_of_not_pos fun positive => busy ⟨loaded, positive⟩)]
      exact ⟨loaded, downloads_pos (List.getElem?_set_self (List.getElem?_eq_some_iff.mp next).1)⟩
  · rw [proceed_of_not_waiting next] at waiting
    have other : reader ≠ count := by
      rintro rfl
      exact next waiting
    exact absurd (awake reader (by omega) waiting) busy

theorem length_proceed (readers : Readers) (reader : Nat) :
    (readers.proceed reader).phases.length = readers.phases.length := by
  have change := changes_proceed readers reader
  generalize readers.proceed reader = after at change
  cases change <;> simp

theorem pending_proceed_le (readers : Readers) (reader : Nat) :
    (readers.proceed reader).pending ≤ readers.pending := by
  have change := changes_proceed readers reader
  generalize readers.proceed reader = after at change
  cases change with
  | nothing => exact Nat.le_refl _
  | @given _ payload waiting _ =>
    have fewer := pending_enter waiting (.served (.ok payload))
    simp only [ReaderPhase.isPending, ReaderPhase.result?, Option.isNone_none, Option.isNone_some,
      Bool.toNat_true, Bool.toNat_false] at fewer
    omega
  | began waiting _ _ =>
    have same := pending_enter waiting .downloading
    exact Nat.le_of_add_le_add_right (Nat.le_of_eq same)

/-- Letting readers go on in order makes the first ones awake. -/
theorem awake_foldl (readers : Readers) (count : Nat) :
    ((List.range count).foldl proceed readers).Awake count := by
  induction count with
  | zero => intro reader before; omega
  | succ count ih =>
    rw [List.range_succ, List.foldl_append]
    exact ih.proceed

theorem wake_eq_run (readers : Readers) :
    readers.wake = readers.run ((List.range readers.phases.length).map .proceed) := by
  rw [wake, run, List.foldl_map]
  rfl

theorem length_wake (readers : Readers) : readers.wake.phases.length = readers.phases.length := by
  rw [wake]
  induction List.range readers.phases.length generalizing readers with
  | nil => rfl
  | cons reader rest ih => rw [List.foldl_cons, ih, length_proceed]

theorem pending_wake_le (readers : Readers) : readers.wake.pending ≤ readers.pending := by
  rw [wake]
  induction List.range readers.phases.length generalizing readers with
  | nil => exact Nat.le_refl _
  | cons reader rest ih => exact Nat.le_trans (ih _) (pending_proceed_le readers reader)

/-- After all have gone on, everybody who waits does so for a download. -/
theorem awake_wake (readers : Readers) : readers.wake.Awake readers.wake.phases.length := by
  rw [length_wake]
  exact awake_foldl readers readers.phases.length

/-- Without a download, readers that are awake have all been served. -/
theorem pending_eq_zero {readers : Readers} (awake : readers.Awake readers.phases.length)
    (free : readers.downloads = 0) : readers.pending = 0 := by
  rw [pending, List.countP_eq_zero]
  intro phase member
  obtain ⟨reader, inside, rfl⟩ := List.getElem_of_mem member
  have here := List.getElem?_eq_getElem inside
  cases phase : readers.phases[reader] with
  | waiting =>
    rw [phase] at here
    have busy := (awake reader inside here).2
    omega
  | downloading =>
    rw [phase] at here
    have busy := downloads_pos here
    omega
  | served result => simp [ReaderPhase.isPending, ReaderPhase.result?]

/-! ## Until everybody is served -/

/-- The reader that is found downloading does so. -/
theorem downloading_of_downloader? {readers : Readers} {reader : Nat}
    (found : readers.downloader? = some reader) :
    readers.phases[reader]? = some .downloading := by
  obtain ⟨inside, downloading, _⟩ := List.findIdx?_eq_some_iff_getElem.mp found
  rw [List.getElem?_eq_getElem inside]
  cases phase : readers.phases[reader] <;> simp_all [ReaderPhase.isDownloading]

/-- When a download has ended, its reader is served. -/
theorem pending_finish {readers : Readers} {reader : Nat}
    (downloading : readers.phases[reader]? = some .downloading)
    (outcome : Except RemoteError ByteArray) :
    (readers.finish reader outcome).pending + 1 = readers.pending := by
  cases outcome with
  | ok payload =>
    rw [finish_ok downloading]
    exact pending_enter downloading (.served (.ok payload))
  | error error =>
    rw [finish_error downloading]
    exact pending_enter downloading (.served (.error (fetchFailure readers.source error)))

theorem length_finish (readers : Readers) (reader : Nat) (outcome : Except RemoteError ByteArray) :
    (readers.finish reader outcome).phases.length = readers.phases.length := by
  have change := changes_finish readers reader outcome
  generalize readers.finish reader outcome = after at change
  cases change <;> simp

/-- Downloads follow each other until every reader is served. -/
theorem settle_served {σ : Type} (store : Store σ) (limit : Nat) (readers : Readers) (state : σ)
    (awake : readers.Awake readers.phases.length) (enough : readers.pending ≤ limit) :
    ∃ events, (store.run (settle limit readers) state).1 = readers.run events ∧
      (readers.run events).pending = 0 ∧
      (readers.run events).phases.length = readers.phases.length := by
  induction limit generalizing readers state with
  | zero => exact ⟨[], rfl, Nat.le_zero.mp enough, rfl⟩
  | succ limit ih =>
    unfold settle
    cases found : readers.downloader? with
    | none =>
      exact ⟨[], rfl, pending_eq_zero awake ((downloader?_eq_none_iff readers).mp found), rfl⟩
    | some reader =>
      have downloading := downloading_of_downloader? found
      let outcome : Except RemoteError ByteArray :=
        (store.answer (.download readers.source) state).1
      have fewer := pending_finish downloading outcome
      have woken := pending_wake_le (readers.finish reader outcome)
      obtain ⟨events, same, served, length⟩ := ih (readers.finish reader outcome).wake
        (store.answer (.download readers.source) state).2 (awake_wake _) (by omega)
      have total := length.trans ((length_wake _).trans (length_finish readers reader outcome))
      have path : (readers.finish reader outcome).wake.run events =
          readers.run (.finish reader outcome ::
            ((List.range (readers.finish reader outcome).phases.length).map .proceed ++ events)) := by
        rw [wake_eq_run, ← run_append]
        rfl
      rw [path] at same served total
      exact ⟨_, same, served, total⟩

end Readers

/-- More readers arrive. -/
def Readers.arrivals (readers : Readers) (count : Nat) : Readers :=
  readers.run (List.replicate count .arrive)

theorem Readers.length_arrivals (readers : Readers) (count : Nat) :
    (readers.arrivals count).phases.length = readers.phases.length + count := by
  induction count generalizing readers with
  | zero => rfl
  | succ count ih =>
    change (readers.arrive.arrivals count).phases.length = _
    rw [ih, arrive, List.length_append, List.length_singleton]
    omega

theorem Readers.arrivals_eq_foldl (readers : Readers) (count : Nat) :
    readers.arrivals count = (List.range count).foldl (fun readers _ => readers.arrive) readers := by
  have same : (List.range count).map (fun _ => Act.arrive) = List.replicate count .arrive := by
    simp
  rw [arrivals, ← same, run, List.foldl_map]
  rfl

/-- Arriving and going on are events of one run. -/
theorem Readers.exists_run_of_arrivals (readers : Readers) (count : Nat) (events : List Act) :
    ∃ whole, (readers.arrivals count).wake.run events = readers.run whole := by
  rw [wake_eq_run, arrivals, ← run_append, ← run_append]
  exact ⟨_, rfl⟩

/-- Reading together lets all readers arrive first and then settles. -/
theorem Binary.readTogether_start (source : String) (cell : Option Cell) (cells : Cells)
    (count : Nat) :
    ((Binary.deferred source cell).readTogether count).start cells =
      (Readers.settle count ((Readers.start source
          ((Binary.deferred source cell).payload? cells)).arrivals count).wake).bind
        fun readers => .done (.ok (readers.phases.filterMap ReaderPhase.result?),
          (cell.bind fun cell => readers.payload.map (cells.fill cell)).getD cells) := by
  unfold readTogether Reading.start
  change Dialogue.bind (Dialogue.bind (Dialogue.bind (Readers.settle count _) fun readers =>
    .done (readers, cells)) fun step => .done (Except.ok step.1, step.2)) _ = _
  rw [Dialogue.bind_assoc, Dialogue.bind_assoc, Readers.arrivals_eq_foldl]
  apply congrArg
  funext ⟨_, payload, _, _⟩
  cases payload <;> cases cell <;> rfl

/-- When nobody is pending there is one result for each reader. -/
theorem Readers.length_results {readers : Readers} (served : readers.pending = 0) :
    (readers.phases.filterMap ReaderPhase.result?).length = readers.phases.length := by
  rw [pending, List.countP_eq_zero] at served
  rw [List.length_filterMap_eq_countP, List.countP_eq_length]
  intro phase member
  have done := served phase member
  simpa [ReaderPhase.isPending, Option.isSome_iff_ne_none] using done

/-- Readers that come at the same time are all served. Whoever gets bytes gets those of the one
download that succeeded, which are kept, and whoever gets an error ran a download of its own. -/
theorem Binary.readTogether_served {σ : Type} (store : Store σ) (state : σ) (source : String)
    (cell : Option Cell) (cells : Cells) (count : Nat) :
    ∃ results payload, (store.run (((Binary.deferred source cell).readTogether count).start cells)
        state).1 = (.ok results,
          (cell.bind fun cell => payload.map (cells.fill cell)).getD cells) ∧
      results.length = count ∧
      (∀ result ∈ results, (ReaderPhase.served result).Grounded source payload) ∧
      ∀ bytes, payload = some bytes →
        (Binary.deferred source cell).payload? cells = some bytes ∨ .ok bytes ∈ results := by
  let fresh := Readers.start source ((Binary.deferred source cell).payload? cells)
  let arrived := fresh.arrivals count
  have length : arrived.phases.length = count :=
    (Readers.length_arrivals fresh count).trans (Nat.zero_add count)
  have enough : arrived.wake.pending ≤ count := by
    have all : arrived.pending ≤ arrived.phases.length := List.countP_le_length
    have fewer := Readers.pending_wake_le arrived
    omega
  obtain ⟨events, same, served, total⟩ :=
    Readers.settle_served store count arrived.wake state (Readers.awake_wake arrived) enough
  obtain ⟨whole, path⟩ := Readers.exists_run_of_arrivals fresh count events
  rw [path] at same served total
  have ordered := (Readers.inOrder_start source
    ((Binary.deferred source cell).payload? cells)).run whole
  have origin : (fresh.run whole).source = source := Readers.source_run fresh whole
  refine ⟨(fresh.run whole).phases.filterMap ReaderPhase.result?, (fresh.run whole).payload,
    ?_, ?_, ?_, ?_⟩
  · rw [readTogether_start, Store.run, Dialogue.run_bind, ← same]
    rfl
  · rw [Readers.length_results served, total, Readers.length_wake, length]
  · intro result member
    obtain ⟨phase, inside, given⟩ := List.mem_filterMap.mp member
    have grounded : phase.Grounded (fresh.run whole).source (fresh.run whole).payload :=
      ordered.grounded phase inside
    rw [origin] at grounded
    cases phase <;> cases given
    exact grounded
  · intro bytes loaded
    rcases Readers.payload_run loaded with earlier | member
    · exact .inl earlier
    · exact .inr (List.mem_filterMap.mpr ⟨_, member, rfl⟩)

end ContentMount
