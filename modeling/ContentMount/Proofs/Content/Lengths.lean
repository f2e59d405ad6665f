/-
This file follows the calls that read the lengths of many values, one call after the other. Each
call fetches what is still missing in the order of the values, and a failed call keeps what it has
fetched so far.
-/

import ContentMount.Proofs.Content.Shelf
import ContentMount.Proofs.Remote.Transcript

namespace ContentMount

open Remote

/-! ## Cells -/

theorem Cells.get?_fill {cells : Cells} {cell : Cell} (inside : cell < cells.contents.size)
    (payload : ByteArray) (other : Cell) :
    (cells.fill cell payload).get? other = if cell = other then some payload
      else cells.get? other := by
  rw [get?, fill, Array.getElem?_setIfInBounds]
  by_cases same : cell = other
  · subst same
    simp [inside]
  · simp [same, get?]

@[simp] theorem Cells.size_fill (cells : Cells) (cell : Cell) (payload : ByteArray) :
    (cells.fill cell payload).contents.size = cells.contents.size := by
  simp [fill]

/-- The cell of a value is in use when it is one of those that were given out. -/
def Value.InUse (size : Nat) : Value → Prop
  | .text _ => True
  | .binary (.loaded _) => True
  | .binary (.deferred _ cell) => ∃ given ∈ cell, given < size

/-! ## What is known and what is missing -/

/-- The length of a value as far as it is known without a request: the characters of a text or the
bytes of a payload at hand. -/
def Value.length? (cells : Cells) : Value → Option Nat
  | .text s => some s.length
  | .binary b => b.length? cells

/-- The cell of a deferred binary with the remote path of its payload. -/
structure Slot where
  cell : Cell
  source : String
  deriving DecidableEq

/-- The slot of a value whose payload is not at hand. -/
def Value.missing? (cells : Cells) : Value → Option Slot
  | .binary (.deferred source (some cell)) =>
    if (cells.get? cell).isSome then none else some ⟨cell, source⟩
  | _ => none

/-- The slots whose payloads are not at hand, in the order of the values. Copies of one value count
once. -/
def missing (cells : Cells) : List Value → List Slot
  | [] => []
  | value :: rest =>
    match value.missing? cells with
    | none => missing cells rest
    | some slot => slot :: (missing cells rest).filter fun later => later.cell ≠ slot.cell

/-- A slot that was asked for and the outcome of its download. -/
structure Fetch where
  slot : Slot
  outcome : Except RemoteError ByteArray

namespace Fetch

def Succeeds (fetch : Fetch) : Prop := ∃ payload, fetch.outcome = .ok payload

/-- The request of a download with the answer of the store. -/
def exchange (fetch : Fetch) : Answered :=
  ⟨.download fetch.slot.source, fetch.outcome⟩

/-- A success fills the cell of the slot. -/
def fill (cells : Cells) (fetch : Fetch) : Cells :=
  fetch.outcome.toOption.elim cells (cells.fill fetch.slot.cell)

end Fetch

/-! ## One value -/

theorem Reading.start_map {α β : Type} (f : α → β) (reading : Reading α) (cells : Cells) :
    Reading.start (f <$> reading) cells =
      (reading.start cells).bind fun ended => .done (ended.1.map f, ended.2) := by
  refine congrArg (Dialogue.bind (reading.start cells)) (funext fun ended => ?_)
  rcases ended with ⟨_ | _, _⟩ <;> rfl

namespace Value

variable {value : Value} {cells : Cells}

theorem missing?_eq_some_iff {slot : Slot} : value.missing? cells = some slot ↔
    value = .binary (.deferred slot.source (some slot.cell)) ∧ cells.get? slot.cell = none := by
  rcases slot with ⟨cell, source⟩
  rcases value with s | payload | ⟨other, _ | taken⟩
  · simp [missing?]
  · simp [missing?]
  · simp [missing?]
  · rw [missing?]
    split_ifs with kept
    · constructor
      · intro impossible
        cases impossible
      · intro both
        obtain ⟨same, empty⟩ := both
        obtain ⟨rfl, rfl⟩ : other = source ∧ taken = cell := by simpa using same
        simp [empty] at kept
    · have empty : cells.get? taken = none := by simpa using kept
      constructor
      · intro same
        obtain ⟨rfl, rfl⟩ : taken = cell ∧ other = source := by simpa using same
        exact ⟨rfl, empty⟩
      · intro both
        obtain ⟨rfl, rfl⟩ : other = source ∧ taken = cell := by simpa using both.1
        rfl

/-- A value in use has a known length, or its payload is missing. -/
theorem known_or_missing (inUse : value.InUse cells.contents.size) :
    (∃ length, value.length? cells = some length) ∨
      ∃ slot, value.missing? cells = some slot ∧ slot.cell < cells.contents.size := by
  rcases value with text | payload | ⟨source, cell⟩
  · exact .inl ⟨_, rfl⟩
  · exact .inl ⟨_, rfl⟩
  · obtain ⟨given, isCell, inside⟩ := inUse
    obtain rfl : cell = some given := isCell
    cases kept : cells.get? given with
    | some payload =>
        exact .inl ⟨payload.size, by simp [length?, Binary.length?, Binary.payload?, kept]⟩
    | none => exact .inr ⟨⟨given, source⟩, by simp [missing?, kept], inside⟩

/-- A known length is read without any request. -/
theorem readLength_of_known {length : Nat} (known : value.length? cells = some length) :
    value.readLength.start cells = .done (.ok length, cells) := by
  rcases value with s | payload | ⟨source, cell⟩
  · obtain rfl : s.length = length := Option.some.inj known
    rfl
  · obtain rfl : payload.size = length := Option.some.inj known
    rfl
  · rw [length?, Binary.length?, Binary.payload?] at known
    obtain ⟨payload, kept, rfl⟩ := Option.map_eq_some_iff.mp known
    obtain ⟨given, rfl, here⟩ := Option.bind_eq_some_iff.mp kept
    rw [readLength, Binary.readSize_eq, Reading.start_map, Binary.read_of_kept here]
    rfl

/-- A missing payload is downloaded for its length. -/
theorem readLength_of_missing {slot : Slot} (missing : value.missing? cells = some slot) :
    value.readLength.start cells =
      .ask (.download slot.source) fun (outcome : Except RemoteError ByteArray) =>
        .done ((outcome.map ByteArray.size).mapError (fetchFailure slot.source),
          Fetch.fill cells ⟨slot, outcome⟩) := by
  obtain ⟨rfl, empty⟩ := missing?_eq_some_iff.mp missing
  rw [readLength, Binary.readSize_eq, Reading.start_map, Binary.read_of_empty empty]
  refine congrArg (Dialogue.ask (Request.download slot.source)) (funext fun outcome => ?_)
  rcases outcome with _ | _ <;> rfl

theorem missing?_of_known {length : Nat} (known : value.length? cells = some length) :
    value.missing? cells = none := by
  cases found : value.missing? cells with
  | none => rfl
  | some slot =>
      obtain ⟨rfl, empty⟩ := missing?_eq_some_iff.mp found
      simp [length?, Binary.length?, Binary.payload?, empty] at known

/-- A filled cell is missing no more, and nothing else changes. -/
theorem missing?_fill {cell : Cell} (inside : cell < cells.contents.size) (payload : ByteArray) :
    value.missing? (cells.fill cell payload) =
      (value.missing? cells).filter fun slot => slot.cell ≠ cell := by
  apply Option.ext
  intro slot
  rw [missing?_eq_some_iff, Cells.get?_fill inside, Option.filter_eq_some_iff,
    missing?_eq_some_iff]
  by_cases same : cell = slot.cell
  · simp [same]
  · simp [same, Ne.symm same]

end Value

/-! ## Missing slots -/

theorem missing_cons_of_none {cells : Cells} {value : Value} {rest : List Value}
    (known : value.missing? cells = none) : missing cells (value :: rest) = missing cells rest := by
  rw [missing, known]

theorem missing_cons_of_some {cells : Cells} {value : Value} {rest : List Value} {slot : Slot}
    (found : value.missing? cells = some slot) : missing cells (value :: rest) =
      slot :: (missing cells rest).filter fun later => later.cell ≠ slot.cell := by
  rw [missing, found]

theorem missing_fill {cells : Cells} {cell : Cell} (inside : cell < cells.contents.size)
    (payload : ByteArray) (values : List Value) :
    missing (cells.fill cell payload) values =
      (missing cells values).filter fun slot => slot.cell ≠ cell := by
  induction values with
  | nil => rfl
  | cons value rest ih =>
      have filled := value.missing?_fill inside payload
      cases found : value.missing? cells with
      | none =>
          rw [found, Option.filter_none] at filled
          rw [missing_cons_of_none filled, missing_cons_of_none found, ih]
      | some slot =>
          rw [missing_cons_of_some found]
          by_cases same : slot.cell = cell
          · rw [found, Option.filter_some, if_neg (by simp [same])] at filled
            rw [missing_cons_of_none filled, ih, List.filter_cons_of_neg (by simp [same]),
              List.filter_filter]
            simp [same]
          · rw [found, Option.filter_some, if_pos (by simp [same])] at filled
            rw [missing_cons_of_some filled, ih, List.filter_cons_of_pos (by simp [same]),
              List.filter_filter, List.filter_filter]
            simp only [Bool.and_comm]

/-- No cell is missing twice. -/
theorem pairwise_missing (cells : Cells) (values : List Value) :
    (missing cells values).Pairwise fun earlier later => later.cell ≠ earlier.cell := by
  induction values with
  | nil => exact .nil
  | cons value rest ih =>
      cases found : value.missing? cells with
      | none => rwa [missing_cons_of_none found]
      | some slot =>
          rw [missing_cons_of_some found, List.pairwise_cons]
          refine ⟨?_, ih.filter _⟩
          intro later member
          simpa using (List.mem_filter.mp member).2

theorem get?_of_mem_missing {cells : Cells} {values : List Value} {slot : Slot}
    (member : slot ∈ missing cells values) : cells.get? slot.cell = none := by
  induction values with
  | nil => simp [missing] at member
  | cons value rest ih =>
      cases found : value.missing? cells with
      | none => exact ih (missing_cons_of_none found ▸ member)
      | some first =>
          rw [missing_cons_of_some found] at member
          rcases List.mem_cons.mp member with rfl | later
          · exact (Value.missing?_eq_some_iff.mp found).2
          · exact ih (List.mem_filter.mp later).1

/-! ## One call -/

/-- What a reading of lengths fetches and what comes of it. A known length needs nothing, a missing
payload is fetched, and the first failure ends the reading. -/
inductive Fetching :
    List Value → Cells → List Fetch → Except MountError (List Nat) → Cells → Prop where
  | nil (cells : Cells) : Fetching [] cells [] (.ok []) cells
  | known {value : Value} {rest : List Value} {before after : Cells} {length : Nat}
      {fetches : List Fetch} {result : Except MountError (List Nat)}
      (known : value.length? before = some length)
      (later : Fetching rest before fetches result after) :
      Fetching (value :: rest) before fetches (result.map (length :: ·)) after
  | fetched {value : Value} {rest : List Value} {before after : Cells} {slot : Slot}
      {payload : ByteArray} {fetches : List Fetch} {result : Except MountError (List Nat)}
      (missing : value.missing? before = some slot) (inside : slot.cell < before.contents.size)
      (later : Fetching rest (before.fill slot.cell payload) fetches result after) :
      Fetching (value :: rest) before (⟨slot, .ok payload⟩ :: fetches)
        (result.map (payload.size :: ·)) after
  | failed {value : Value} {rest : List Value} {cells : Cells} {slot : Slot}
      {error : RemoteError} (missing : value.missing? cells = some slot) :
      Fetching (value :: rest) cells [⟨slot, .error error⟩]
        (.error (.contentFetch slot.source error)) cells

section

variable {σ : Type} (store : Store σ)

/-- A reading goes on with the result of another one unless that fails. -/
theorem run_start_bind {α β : Type} (first : Reading α) (next : α → Reading β) (cells : Cells)
    (state : σ) : store.run (Reading.start (first >>= next) cells) state =
      match store.run (first.start cells) state with
      | ((.ok result, after), last) => store.run ((next result).start after) last
      | ((.error error, after), last) => ((.error error, after), last) := by
  refine (Dialogue.run_bind store.answer (first.start cells) _ state).trans ?_
  unfold Store.run
  rcases Dialogue.run store.answer (first.start cells) state with ⟨⟨_ | _, _⟩, _⟩ <;> rfl

theorem transcript_start_bind {α β : Type} (first : Reading α) (next : α → Reading β)
    (cells : Cells) (state : σ) : store.transcript (Reading.start (first >>= next) cells) state =
      store.transcript (first.start cells) state ++
        match store.run (first.start cells) state with
        | ((.ok result, after), last) => store.transcript ((next result).start after) last
        | ((.error _, _), _) => [] := by
  refine (Dialogue.transcript_bind store.answer (first.start cells) _ state).trans ?_
  unfold Store.run Store.transcript
  rcases Dialogue.run store.answer (first.start cells) state with ⟨⟨_ | _, _⟩, _⟩ <;> rfl

theorem run_start_map {α β : Type} (f : α → β) (reading : Reading α) (cells : Cells) (state : σ) :
    store.run (Reading.start (f <$> reading) cells) state =
      let ended := store.run (reading.start cells) state
      ((ended.1.1.map f, ended.1.2), ended.2) := by
  rw [Reading.start_map, Store.run, Dialogue.run_bind]
  rfl

theorem transcript_start_map {α β : Type} (f : α → β) (reading : Reading α) (cells : Cells)
    (state : σ) : store.transcript (Reading.start (f <$> reading) cells) state =
      store.transcript (reading.start cells) state := by
  rw [Reading.start_map, Store.transcript, Dialogue.transcript_bind]
  exact List.append_nil _

/-- The length of a missing payload is told after its download. -/
theorem run_readLength_of_missing {value : Value} {cells : Cells} {slot : Slot}
    (missing : value.missing? cells = some slot) (state : σ) :
    ∃ outcome : Except RemoteError ByteArray, ∃ last,
      store.run (value.readLength.start cells) state =
          (((outcome.map ByteArray.size).mapError (fetchFailure slot.source),
            Fetch.fill cells ⟨slot, outcome⟩), last) ∧
        store.transcript (value.readLength.start cells) state =
          [Fetch.exchange ⟨slot, outcome⟩] := by
  rw [Value.readLength_of_missing missing]
  exact ⟨_, _, rfl, rfl⟩

/-- Every reading of lengths goes that way, whatever the store answers. -/
theorem exists_fetching {values : List Value} {cells : Cells}
    (inUse : ∀ value ∈ values, value.InUse cells.contents.size) (state : σ) : ∃ fetches,
      store.transcript (Reading.start (values.mapM Value.readLength) cells) state =
          fetches.map Fetch.exchange ∧
        let ended := store.run (Reading.start (values.mapM Value.readLength) cells) state
        Fetching values cells fetches ended.1.1 ended.1.2 := by
  induction values generalizing cells state with
  | nil => exact ⟨[], rfl, .nil cells⟩
  | cons value rest ih =>
      have restInUse := fun other member => inUse other (List.mem_cons_of_mem value member)
      rw [List.mapM_cons]
      simp only [bind_pure_comp]
      rw [run_start_bind, transcript_start_bind]
      rcases Value.known_or_missing (inUse value List.mem_cons_self) with
        ⟨length, known⟩ | ⟨slot, missing, inside⟩
      · have read : store.run (value.readLength.start cells) state = ((.ok length, cells), state) :=
          congrArg (store.run · state) (Value.readLength_of_known known)
        have silent : store.transcript (value.readLength.start cells) state = [] :=
          congrArg (store.transcript · state) (Value.readLength_of_known known)
        rw [read, silent]
        dsimp only
        rw [run_start_map, transcript_start_map]
        obtain ⟨fetches, sent, fetching⟩ := ih restInUse state
        exact ⟨fetches, sent, .known known fetching⟩
      · obtain ⟨outcome, last, read, asked⟩ := run_readLength_of_missing store missing state
        rw [read, asked]
        cases outcome with
        | error error => exact ⟨[⟨slot, .error error⟩], rfl, .failed missing⟩
        | ok payload =>
            have filled : (Fetch.fill cells ⟨slot, .ok payload⟩).contents.size =
                cells.contents.size := Cells.size_fill cells slot.cell payload
            obtain ⟨fetches, sent, fetching⟩ := ih (filled.symm ▸ restInUse) last
            refine ⟨⟨slot, .ok payload⟩ :: fetches, ?_, ?_⟩
            · exact congrArg (_ :: ·) ((transcript_start_map store _ _ _ _).trans sent)
            · dsimp only [Except.map, Except.mapError]
              rw [run_start_map]
              exact .fetched missing inside fetching

end

/-- How a reading of lengths ends: with all lengths after everything missing was downloaded, or with
the error of its last download after nothing but successes. -/
inductive Ends (values : List Value) (before after : Cells) (fetches : List Fetch) :
    Except MountError (List Nat) → Prop where
  | complete {lengths : List Nat} (all : fetches.map Fetch.slot = missing before values)
      (good : ∀ fetch ∈ fetches, fetch.Succeeds)
      (told : values.map (Value.length? after) = lengths.map some) :
      Ends values before after fetches (.ok lengths)
  | broken {front : List Fetch} {slot : Slot} {error : RemoteError}
      (split : fetches = front ++ [⟨slot, .error error⟩])
      (good : ∀ fetch ∈ front, fetch.Succeeds) :
      Ends values before after fetches (.error (.contentFetch slot.source error))

namespace Fetching

variable {values : List Value} {before after : Cells} {fetches : List Fetch}
  {result : Except MountError (List Nat)}

/-- The cells change by the downloads that succeed. -/
theorem after_eq (fetching : Fetching values before fetches result after) :
    after = fetches.foldl Fetch.fill before := by
  induction fetching with
  | nil cells => rfl
  | known _ _ ih => exact ih
  | fetched _ _ _ ih => exact ih
  | failed _ => rfl

theorem size_eq (fetching : Fetching values before fetches result after) :
    after.contents.size = before.contents.size := by
  induction fetching with
  | nil cells => rfl
  | known _ _ ih => exact ih
  | fetched _ _ _ ih => rw [ih, Cells.size_fill]
  | failed _ => rfl

/-- Slots are asked for in the order in which they are missing. -/
theorem slots_prefix (fetching : Fetching values before fetches result after) :
    fetches.map Fetch.slot <+: missing before values := by
  induction fetching with
  | nil cells => exact List.prefix_rfl
  | known known _ ih => rwa [missing_cons_of_none (Value.missing?_of_known known)]
  | @fetched _ rest _ _ slot payload _ _ missing inside _ ih =>
      rw [missing_fill inside payload rest] at ih
      rw [missing_cons_of_some missing, List.map_cons, List.cons_prefix_cons]
      exact ⟨rfl, ih⟩
  | failed missing =>
      rw [missing_cons_of_some missing]
      exact ⟨_, rfl⟩

/-- Cells that hold a payload keep it. -/
theorem kept (fetching : Fetching values before fetches result after) {cell : Cell}
    {payload : ByteArray} (held : before.get? cell = some payload) :
    after.get? cell = some payload := by
  induction fetching with
  | nil cells => exact held
  | known _ _ ih => exact ih held
  | @fetched _ _ _ _ slot _ _ _ missing inside _ ih =>
      have empty := (Value.missing?_eq_some_iff.mp missing).2
      have different : slot.cell ≠ cell := by
        rintro rfl
        rw [empty] at held
        cases held
      exact ih (by rw [Cells.get?_fill inside, if_neg different, held])
  | failed _ => exact held

/-- A payload that was downloaded is at hand from then on. -/
theorem loaded (fetching : Fetching values before fetches result after) {fetch : Fetch}
    (member : fetch ∈ fetches) {payload : ByteArray} (success : fetch.outcome = .ok payload) :
    after.get? fetch.slot.cell = some payload := by
  induction fetching with
  | nil cells => simp at member
  | known _ _ ih => exact ih member
  | fetched missing inside later ih =>
      rcases List.mem_cons.mp member with rfl | others
      · obtain rfl := Except.ok.inj success
        exact later.kept (by rw [Cells.get?_fill inside, if_pos rfl])
      · exact ih others
  | failed _ =>
      obtain rfl := List.mem_singleton.mp member
      cases success

theorem known_of_kept {value : Value} {length : Nat}
    (fetching : Fetching values before fetches result after)
    (known : value.length? before = some length) : value.length? after = some length := by
  rcases value with s | payload | ⟨source, cell⟩
  · exact known
  · exact known
  · obtain ⟨payload, kept, rfl⟩ := Option.map_eq_some_iff.mp known
    obtain ⟨given, rfl, here⟩ := Option.bind_eq_some_iff.mp kept
    simp [Value.length?, Binary.length?, Binary.payload?, fetching.kept here]

theorem ends (fetching : Fetching values before fetches result after) :
    Ends values before after fetches result := by
  induction fetching with
  | nil cells => exact .complete rfl (by simp) rfl
  | known known later ih =>
      cases ih with
      | complete all good told =>
          refine .complete ?_ good ?_
          · rw [all, missing_cons_of_none (Value.missing?_of_known known)]
          · rw [List.map_cons, List.map_cons, later.known_of_kept known, told]
      | broken split good => exact .broken split good
  | @fetched value rest _ _ slot payload _ _ missing inside later ih =>
      cases ih with
      | complete all good told =>
          refine .complete ?_ ?_ ?_
          · rw [List.map_cons, all, missing_fill inside, missing_cons_of_some missing]
          · intro fetch member
            rcases List.mem_cons.mp member with rfl | others
            · exact ⟨payload, rfl⟩
            · exact good fetch others
          · obtain ⟨rfl, -⟩ := Value.missing?_eq_some_iff.mp missing
            have filled := later.kept (by rw [Cells.get?_fill inside, if_pos rfl])
            rw [List.map_cons, List.map_cons, told]
            simp [Value.length?, Binary.length?, Binary.payload?, filled]
      | @broken front last error split good =>
          refine @Ends.broken _ _ _ _ (⟨slot, .ok payload⟩ :: front) last error ?_ ?_
          · rw [split, List.cons_append]
          · intro fetch member
            rcases List.mem_cons.mp member with rfl | others
            · exact ⟨payload, rfl⟩
            · exact good fetch others
  | failed missing => exact .broken (List.nil_append _).symm (by simp)

end Fetching

/-! ## Calls one after the other -/

namespace Property

section

variable {σ : Type} (store : Store σ) (property : Property)

/-- The starts of calls that follow one another. Each call starts with the cells and in the state
of the store that the call before it left. -/
def lengthsStarts : Nat → Cells → σ → List (Cells × σ)
  | 0, _, _ => []
  | count + 1, cells, state =>
    let ended := store.run (property.readLengths.start cells) state
    (cells, state) :: lengthsStarts count ended.1.2 ended.2

/-- What one call does from its start on, with the downloads that it asks for. -/
structure LengthsCall (start : Cells × σ) (fetches : List Fetch) : Prop where
  /-- Nothing but these downloads is requested. -/
  sent : store.transcript (property.readLengths.start start.1) start.2 =
    fetches.map Fetch.exchange
  /-- They are among the missing ones, in the order of the values and without a gap. -/
  ordered : fetches.map Fetch.slot <+: missing start.1 property.values
  /-- The call ends with lengths or with its first failure. -/
  ends : Ends property.values start.1
    (store.run (property.readLengths.start start.1) start.2).1.2 fetches
    (store.run (property.readLengths.start start.1) start.2).1.1
  /-- What was downloaded is kept, also by a call that fails. -/
  kept : (store.run (property.readLengths.start start.1) start.2).1.2 =
    fetches.foldl Fetch.fill start.1
  /-- The first length is the one that the property tells alone, in place of the call or after
  it. -/
  first : ∀ lengths,
    (store.run (property.readLengths.start start.1) start.2).1.1 = .ok lengths →
      ∃ length ∈ lengths.head?,
        (store.run (property.readLength.start start.1) start.2).1.1 = .ok length ∧
          property.readLength.start
              (store.run (property.readLengths.start start.1) start.2).1.2 =
            .done (.ok length, (store.run (property.readLengths.start start.1) start.2).1.2)

end

variable {σ : Type} {store : Store σ} {property : Property}

/-- The first of all lengths is the length of the first value. -/
theorem readLength_of_readLengths {cells : Cells} {state : σ} {lengths : List Nat}
    (done : (store.run (property.readLengths.start cells) state).1.1 = .ok lengths) :
    ∃ length ∈ lengths.head?,
      (store.run (property.readLength.start cells) state).1.1 = .ok length := by
  rw [readLengths, values, List.mapM_cons, run_start_bind] at done
  rw [readLength]
  rcases read : store.run (property.first.readLength.start cells) state with
    ⟨⟨error | length, after⟩, last⟩
  · rw [read] at done
    cases done
  · rw [read] at done
    simp only [bind_pure_comp, run_start_map] at done
    rcases others : (store.run
      (Reading.start (property.rest.mapM Value.readLength) after) last).1.1 with error | rest
    · rw [others] at done
      cases done
    · rw [others] at done
      obtain rfl : length :: rest = lengths := Except.ok.inj done
      exact ⟨length, rfl, rfl⟩

theorem lengthsCall (store : Store σ) {cells : Cells}
    (inUse : ∀ value ∈ property.values, value.InUse cells.contents.size) (state : σ) :
    ∃ fetches, property.LengthsCall store (cells, state) fetches ∧
      Fetching property.values cells fetches
        (store.run (property.readLengths.start cells) state).1.1
        (store.run (property.readLengths.start cells) state).1.2 := by
  obtain ⟨fetches, sent, fetching⟩ := exists_fetching store inUse state
  refine ⟨fetches, ⟨sent, fetching.slots_prefix, fetching.ends, fetching.after_eq, ?_⟩, fetching⟩
  intro lengths done
  obtain ⟨length, head, alone⟩ := readLength_of_readLengths done
  refine ⟨length, head, alone, Value.readLength_of_known ?_⟩
  have ends := fetching.ends
  rw [readLengths] at done
  rw [done] at ends
  cases ends with
  | complete _ _ told =>
      obtain ⟨rest, rfl⟩ := List.head?_eq_some_iff.mp head
      exact (List.cons.inj told).1

/-- Whatever downloads fail in however many calls, each call fetches what is missing in order up to
its first failure, and a payload that was downloaded is never asked for again. -/
theorem lengths_calls (store : Store σ) (property : Property) {cells : Cells}
    (inUse : ∀ value ∈ property.values, value.InUse cells.contents.size) (state : σ)
    (count : Nat) : ∃ rounds : List (List Fetch),
      List.Forall₂ (property.LengthsCall store) (property.lengthsStarts store count cells state)
        rounds ∧
      rounds.flatten.Pairwise (fun earlier later =>
        earlier.Succeeds → later.slot.cell ≠ earlier.slot.cell) ∧
      ∀ fetch ∈ rounds.flatten, cells.get? fetch.slot.cell = none := by
  induction count generalizing cells state with
  | zero => exact ⟨[], .nil, .nil, by simp⟩
  | succ count ih =>
      obtain ⟨fetches, call, fetching⟩ := lengthsCall store inUse state
      obtain ⟨rounds, calls, apart, empty⟩ := ih (fetching.size_eq.symm ▸ inUse)
        (store.run (property.readLengths.start cells) state).2
      have slots := fetching.slots_prefix
      refine ⟨fetches :: rounds, .cons call calls, ?_, ?_⟩
      · rw [List.flatten_cons, List.pairwise_append]
        refine ⟨?_, apart, ?_⟩
        · have each := List.pairwise_map.mp
            ((pairwise_missing cells property.values).sublist slots.sublist)
          apply each.imp
          intro earlier later different _
          exact different
        · -- What an earlier call has loaded is not empty at the start of a later one.
          intro earlier member later among success same
          obtain ⟨payload, good⟩ := success
          have held := fetching.loaded member good
          rw [← same, empty later among] at held
          cases held
      · intro fetch member
        rcases List.mem_append.mp member with here | later
        · exact get?_of_mem_missing (slots.subset (List.mem_map_of_mem here))
        · have gone := empty fetch later
          cases held : cells.get? fetch.slot.cell with
          | none => rfl
          | some payload =>
              rw [fetching.kept held] at gone
              cases gone

/-- A store that fails once, at its second download. -/
def onceFailingStore : Store Nat where
  name := "once"
  answer request served := match request with
    | .download path =>
      (if served = 1 then .error (.notFound path) else .ok ⟨#[1, 2, 3]⟩, served + 1)
    | .metadata path => (.error (.notFound path), served)
    | .list path => (.error (.notFound path), served)
    | .listNext cursor => (.error (.notFound cursor), served)

/-- A text, a deferred binary with a copy, another deferred one and a loaded one. -/
def mixedProperty : Property :=
  ⟨"/content/s3/mixed", .text "été",
    [.binary (.deferred "/a" (some 0)), .binary (.deferred "/a" (some 0)),
      .binary (.deferred "/b" (some 1)), .binary (.loaded ⟨#[7]⟩)], true⟩

/-- The calls for the lengths of mixed values go in order although the store fails once. -/
theorem lengths_calls_mixed : ∃ rounds : List (List Fetch),
    List.Forall₂ (mixedProperty.LengthsCall onceFailingStore)
      (mixedProperty.lengthsStarts onceFailingStore 2 ⟨#[none, none]⟩ 0) rounds ∧
    rounds.flatten.Pairwise (fun earlier later =>
      earlier.Succeeds → later.slot.cell ≠ earlier.slot.cell) ∧
    ∀ fetch ∈ rounds.flatten, Cells.get? ⟨#[none, none]⟩ fetch.slot.cell = none :=
  lengths_calls onceFailingStore mixedProperty (by simp [mixedProperty, values, Value.InUse]) 0 2

/-- The first call keeps the payload that it got, so the second one has to fetch the other only. -/
example :
    let first := onceFailingStore.run (mixedProperty.readLengths.start ⟨#[none, none]⟩) 0
    let second := onceFailingStore.run (mixedProperty.readLengths.start first.1.2) first.2
    (first.1.1, first.2) = (.error (.contentFetch "/b" (.notFound "/b")), 2) ∧
      (second.1.1, second.2) = (.ok [3, 3, 3, 3, 1], 3) :=
  ⟨rfl, rfl⟩

end Property

end ContentMount
