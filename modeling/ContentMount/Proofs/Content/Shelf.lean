/-
This file puts the payloads of many values side by side. Each value that is looked up has a slot of
its own, and its copies share it. Whatever is read in whatever order, the slots are in order.
-/

import ContentMount.Proofs.Content.Handles
import ContentMount.Proofs.Content.Sharing
import Mathlib.Data.List.Induction

namespace ContentMount

open Remote

/-! ## Readings of one value -/

/-- A reading that looks at the cells first goes on with those it was given. -/
theorem Reading.start_get {α : Type} (next : Cells → Reading α) (cells : Cells) :
    Reading.start (get >>= next) cells = (next cells).start cells := rfl

/-- A payload at hand is read without any request. -/
theorem Binary.read_of_kept {source : String} {cell : Cell} {cells : Cells} {payload : ByteArray}
    (kept : cells.get? cell = some payload) :
    (Binary.deferred source (some cell)).read.start cells = .done (.ok payload, cells) := by
  rw [read, Reading.start_get, payload?, Option.bind_some, kept]
  rfl

/-- Otherwise it is downloaded. Only a success is kept. -/
theorem Binary.read_of_empty {source : String} {cell : Cell} {cells : Cells}
    (empty : cells.get? cell = none) :
    (Binary.deferred source (some cell)).read.start cells =
      .ask (.download source) fun (outcome : Except RemoteError ByteArray) =>
        .done (outcome.mapError (fetchFailure source),
          outcome.toOption.elim cells (cells.fill cell)) := by
  rw [read, Reading.start_get, payload?, Option.bind_some, empty]
  apply congrArg (Dialogue.ask (Request.download source))
  funext outcome
  cases outcome <;> rfl

theorem Binary.readSize_eq (binary : Binary) :
    binary.readSize = ByteArray.size <$> binary.read := by
  rw [readSize, bind_pure_comp]

/-! ## Many slots -/

/-- A shelf has one slot for every value that was looked up. Slots are numbered like cells. -/
structure Shelf where
  slots : List Readers

namespace Shelf

/-- A value with a remote path is looked up, or something happens to a slot. -/
inductive Act where
  | look (source : String)
  | on (cell : Cell) (action : Readers.Act)

def empty : Shelf := ⟨[]⟩

def act (shelf : Shelf) : Act → Shelf
  | .look source => ⟨shelf.slots ++ [Readers.start source none]⟩
  | .on cell action => ⟨shelf.slots.modify cell (·.act action)⟩

def run (shelf : Shelf) (acts : List Act) : Shelf :=
  acts.foldl act shelf

/-- The payloads that are at hand. -/
def cells (shelf : Shelf) : Cells :=
  ⟨(shelf.slots.map Readers.payload).toArray⟩

/-- The events of one slot. -/
def own (cell : Cell) (acts : List Act) : List Readers.Act :=
  acts.filterMap fun
    | .look _ => none
    | .on other action => if other = cell then some action else none

theorem run_append (shelf : Shelf) (acts more : List Act) :
    shelf.run (acts ++ more) = (shelf.run acts).run more :=
  List.foldl_append

theorem get?_cells (shelf : Shelf) (cell : Cell) :
    shelf.cells.get? cell = shelf.slots[cell]?.bind Readers.payload := by
  simp only [cells, Cells.get?, List.getElem?_toArray, List.getElem?_map]
  cases shelf.slots[cell]? <;> rfl

/-- A slot changes with its own events only. -/
theorem slots_act {shelf : Shelf} {cell : Cell} {slot : Readers}
    (here : shelf.slots[cell]? = some slot) (action : Act) :
    (shelf.act action).slots[cell]? = some (slot.run (own cell [action])) := by
  obtain ⟨inside, _⟩ := List.getElem?_eq_some_iff.mp here
  cases action with
  | look source => simpa [act, own, List.getElem?_append, inside] using here
  | on other action =>
    by_cases same : other = cell
    · simp [act, own, same, here]
    · simpa [act, own, List.getElem?_modify, same] using here

theorem slots_run {shelf : Shelf} {cell : Cell} {slot : Readers}
    (here : shelf.slots[cell]? = some slot) (acts : List Act) :
    (shelf.run acts).slots[cell]? = some (slot.run (own cell acts)) := by
  induction acts generalizing shelf slot with
  | nil => exact here
  | cons action rest ih =>
    have next := ih (slots_act here action)
    rw [← Readers.run_append] at next
    simpa [run, own, ← List.filterMap_append] using next

/-- A slot was there before, or it is the new one of a lookup. -/
theorem of_slots_act {shelf : Shelf} {cell : Cell} {action : Act} {after : Readers}
    (here : (shelf.act action).slots[cell]? = some after) :
    (∃ slot, shelf.slots[cell]? = some slot ∧ after = slot.run (own cell [action])) ∨
      ∃ source, action = .look source ∧ cell = shelf.slots.length ∧
        after = Readers.start source none := by
  cases earlier : shelf.slots[cell]? with
  | some slot =>
    rw [slots_act earlier] at here
    exact .inl ⟨slot, rfl, (Option.some.inj here).symm⟩
  | none =>
    right
    have outside := List.getElem?_eq_none_iff.mp earlier
    cases action with
    | look source =>
      refine ⟨source, rfl, ?_⟩
      simp only [act, List.getElem?_append_right outside, List.getElem?_singleton] at here
      split at here
      · rename_i last
        exact ⟨Nat.le_antisymm (Nat.le_of_sub_eq_zero last) outside, (Option.some.inj here).symm⟩
      · cases here
    | on other action => simp [act, List.getElem?_modify, earlier] at here

/-- The slot of a cell after some events. -/
def slot? (acts : List Act) (cell : Cell) : Option Readers :=
  (empty.run acts).slots[cell]?

variable {acts : List Act} {cell : Cell} {slot : Readers}

theorem slot?_append (here : slot? acts cell = some slot) (more : List Act) :
    slot? (acts ++ more) cell = some (slot.run (own cell more)) := by
  rw [slot?, run_append]
  exact slots_run here more

/-- Every slot is new at first and has run through its own events since. -/
theorem exists_run (here : slot? acts cell = some slot) :
    ∃ source events, slot = (Readers.start source none).run events := by
  induction acts using List.reverseRecOn generalizing slot with
  | nil => simp [slot?, run, empty] at here
  | append_singleton acts action ih =>
    rw [slot?, run_append] at here
    rcases of_slots_act here with ⟨earlier, there, rfl⟩ | ⟨source, _, _, rfl⟩
    · obtain ⟨source, events, rfl⟩ := ih there
      exact ⟨source, events ++ own cell [action], (Readers.run_append _ _ _).symm⟩
    · exact ⟨source, [], rfl⟩

theorem inOrder_of_slot? (here : slot? acts cell = some slot) : slot.InOrder := by
  obtain ⟨source, events, rfl⟩ := exists_run here
  exact (Readers.inOrder_start source none).run events

theorem counted_of_slot? (here : slot? acts cell = some slot) : slot.Counted := by
  obtain ⟨source, events, rfl⟩ := exists_run here
  exact (Readers.counted_start source).run (Readers.inOrder_start source none) events

/-! ## Successful downloads -/

/-- A download of a slot has succeeded in the course of the events. -/
def Downloaded (acts : List Act) (cell : Cell) (bytes : ByteArray) : Prop :=
  ∃ before reader after slot, acts = before ++ .on cell (.finish reader (.ok bytes)) :: after ∧
    slot? before cell = some slot ∧ slot.phases[reader]? = some .downloading

theorem Downloaded.append {bytes : ByteArray} (downloaded : Downloaded acts cell bytes)
    (more : List Act) : Downloaded (acts ++ more) cell bytes := by
  obtain ⟨before, reader, after, slot, rfl, here, downloading⟩ := downloaded
  exact ⟨before, reader, after ++ more, slot, by simp, here, downloading⟩

/-- A payload comes from a successful download. -/
theorem downloaded_of_payload {bytes : ByteArray} (here : slot? acts cell = some slot)
    (loaded : slot.payload = some bytes) : Downloaded acts cell bytes := by
  induction acts using List.reverseRecOn generalizing slot with
  | nil => simp [slot?, run, empty] at here
  | append_singleton acts action ih =>
    rw [slot?, run_append] at here
    rcases of_slots_act here with ⟨earlier, there, rfl⟩ | ⟨source, _, _, rfl⟩
    · cases action with
      | look source => exact (ih there loaded).append _
      | on other action =>
        by_cases same : other = cell
        · subst same
          simp only [own, List.filterMap_cons, ite_true, List.filterMap_nil, Readers.run_cons,
            Readers.run_nil] at loaded
          rcases Readers.payload_act loaded with old | ⟨reader, rfl, downloading⟩
          · exact (ih there old).append _
          · exact ⟨acts, reader, [], earlier, rfl, there, downloading⟩
        · simp only [own, List.filterMap_cons, same, ite_false, List.filterMap_nil,
            Readers.run_nil] at loaded
          exact (ih there loaded).append _
    · simp [Readers.start] at loaded

/-- A successful download leaves its payload for ever. -/
theorem payload_of_downloaded {bytes : ByteArray} (here : slot? acts cell = some slot)
    (downloaded : Downloaded acts cell bytes) : slot.payload = some bytes := by
  obtain ⟨before, reader, after, earlier, rfl, there, downloading⟩ := downloaded
  have next := slot?_append there (.on cell (.finish reader (.ok bytes)) :: after)
  have finished : slot = (earlier.act (.finish reader (.ok bytes))).run (own cell after) := by
    rw [here] at next
    simpa [own] using next
  have ordered := (inOrder_of_slot? there).act (.finish reader (.ok bytes))
  have loaded : (earlier.act (.finish reader (.ok bytes))).payload = some bytes := by
    simp [Readers.act, Readers.finish_ok downloading]
  rw [finished]
  exact (Readers.since_run ordered loaded _).payload

/-- As a long integer a deferred value gives the length of its payload, or else -1. -/
theorem long_eq {shelf : Shelf} {cell : Cell} {slot : Readers}
    (here : shelf.slots[cell]? = some slot) :
    (Value.binary (.deferred slot.source (some cell))).long shelf.cells =
      .ok (slot.payload.elim (-1) fun bytes => Int.ofNat bytes.size) := by
  simp only [Value.long, Binary.length?, Binary.payload?, Option.bind_some, get?_cells, here]
  cases slot.payload <;> rfl

/-! ## A read by itself -/

theorem run_on (shelf : Shelf) (cell : Cell) (acts : List Readers.Act) :
    shelf.run (acts.map (.on cell)) = ⟨shelf.slots.modify cell (·.run acts)⟩ := by
  induction acts generalizing shelf with
  | nil =>
    change shelf = ⟨shelf.slots.modify cell id⟩
    rw [List.modify_id]
  | cons action rest ih =>
    have next := ih (shelf.act (.on cell action))
    simp only [act, List.modify_modify_eq] at next
    exact next

theorem slots_run_on {shelf : Shelf} {cell : Cell} {slot : Readers}
    (here : shelf.slots[cell]? = some slot) (acts : List Readers.Act) :
    (shelf.run (acts.map (.on cell))).slots[cell]? = some (slot.run acts) := by
  simp [run_on, here]

/-- What happens to one slot leaves the payloads of the others. -/
theorem cells_modify {shelf : Shelf} {cell : Cell} {slot : Readers}
    (here : shelf.slots[cell]? = some slot) (change : Readers → Readers) :
    (Shelf.mk (shelf.slots.modify cell change)).cells =
      ⟨((shelf.slots.map Readers.payload).set cell (change slot).payload).toArray⟩ := by
  obtain ⟨inside, rfl⟩ := List.getElem?_eq_some_iff.mp here
  have payloads : (shelf.slots.modify cell change).map Readers.payload =
      (shelf.slots.map Readers.payload).set cell (change shelf.slots[cell]).payload := by
    apply List.ext_getElem?
    intro other
    simp only [List.getElem?_map, List.getElem?_modify, List.getElem?_set]
    by_cases same : cell = other
    · subst same
      simp [inside]
    · simp [same]
  rw [cells, payloads]

theorem cells_of_same {shelf : Shelf} {cell : Cell} {slot : Readers} {change : Readers → Readers}
    (here : shelf.slots[cell]? = some slot) (same : (change slot).payload = slot.payload) :
    (Shelf.mk (shelf.slots.modify cell change)).cells = shelf.cells := by
  obtain ⟨inside, rfl⟩ := List.getElem?_eq_some_iff.mp here
  rw [cells_modify here, same, cells, ← List.map_set, List.set_getElem_self]

/-- A new payload fills the cell of its slot. -/
theorem cells_of_loaded {shelf : Shelf} {cell : Cell} {slot : Readers} {bytes : ByteArray}
    {change : Readers → Readers} (here : shelf.slots[cell]? = some slot)
    (loaded : (change slot).payload = some bytes) :
    (Shelf.mk (shelf.slots.modify cell change)).cells = shelf.cells.fill cell bytes := by
  rw [cells_modify here, loaded, Cells.fill, cells, List.setIfInBounds_toArray]

/-- A read that nobody else interferes with does what the reading of the value does. The store is
asked only when there is no payload. -/
theorem read_alone {σ : Type} (store : Store σ) (state : σ) {shelf : Shelf} {cell : Cell}
    {slot : Readers} (here : shelf.slots[cell]? = some slot) (free : slot.downloads = 0) :
    let read := store.run ((Binary.deferred slot.source (some cell)).read.start shelf.cells) state
    let outcome : Except RemoteError ByteArray := (store.answer (.download slot.source) state).1
    let events := Readers.lone slot.phases.length outcome
    (slot.run events).phases[slot.phases.length]? = some (.served read.1.1) ∧
      (shelf.run (events.map (.on cell))).cells = read.1.2 ∧
      read.2 = if slot.payload.isSome then state
        else (store.answer (.download slot.source) state).2 := by
  intro read outcome events
  rw [run_on]
  have kept : shelf.cells.get? cell = slot.payload := by rw [get?_cells, here, Option.bind_some]
  cases loaded : slot.payload with
  | some bytes =>
    have lone : slot.run events = _ := Readers.run_lone_of_loaded loaded outcome
    have result : read = ((.ok bytes, shelf.cells), state) := by
      simp only [read, Binary.read_of_kept (kept.trans loaded)]
      rfl
    rw [result]
    refine ⟨?_, ?_, rfl⟩
    · simp [lone, Readers.arrive]
    · apply cells_of_same here
      rw [lone]
      rfl
  | none =>
    have lone : slot.run events = _ := Readers.run_lone_of_idle ⟨loaded, free⟩ outcome
    have result : read = ((outcome.mapError (fetchFailure slot.source),
        outcome.toOption.elim shelf.cells (shelf.cells.fill cell)),
        (store.answer (.download slot.source) state).2) := by
      simp only [read, Binary.read_of_empty (kept.trans loaded)]
      rfl
    rw [result]
    refine ⟨?_, ?_, rfl⟩
    · simp [lone, Readers.arrive]
    · cases kind : outcome.toOption with
      | some bytes =>
        apply cells_of_loaded here
        rw [lone]
        exact kind
      | none =>
        apply cells_of_same here
        rw [lone, loaded]
        exact kind

/-! ## What holds after any events -/

/-- After some events a lookup takes a cell that no slot has. The slot of the cell is new, and no
other payload is touched. -/
structure Takes (acts : List Act) (source : String) (cell : Cell) (after : Cells) : Prop where
  free : slot? acts cell = none
  taken : slot? (acts ++ [.look source]) cell = some (Readers.start source none)
  cells : after = (empty.run (acts ++ [.look source])).cells

/-- The downloads of slots after some events, and whatever happens next. -/
structure Shares (acts : List Act) : Prop where
  /-- At most one download of a slot is under way. -/
  single {cell : Cell} {slot : Readers} (here : slot? acts cell = some slot) : slot.downloads ≤ 1
  /-- Each download has failed for one reader, or it has succeeded, or it is under way. -/
  counted {cell : Cell} {slot : Readers} (here : slot? acts cell = some slot) :
    slot.begun = slot.failures + (if slot.payload.isSome then 1 else 0) + slot.downloads
  /-- Whoever got bytes got those of a successful download. -/
  bytes {cell : Cell} {slot : Readers} {reader : Nat} {bytes : ByteArray}
    (here : slot? acts cell = some slot)
    (served : slot.phases[reader]? = some (.served (.ok bytes))) : Downloaded acts cell bytes
  /-- Once a download has succeeded, no other one begins or is under way. Every reader that waits
  or comes later may go on with the same bytes and gets nothing else. -/
  settled {cell : Cell} {slot : Readers} {bytes : ByteArray} (here : slot? acts cell = some slot)
    (downloaded : Downloaded acts cell bytes) (more : List Act) :
    ∃ after, slot? (acts ++ more) cell = some after ∧ Readers.Since bytes slot after ∧
      after.downloads = 0 ∧ ∀ {reader : Nat}, after.phases[reader]? = some .waiting →
        (after.proceed reader).phases[reader]? = some (.served (.ok bytes))
  /-- A failed download fails the reader that ran it and changes nothing else. -/
  failed {cell : Cell} {slot : Readers} {reader : Nat} (here : slot? acts cell = some slot)
    (downloading : slot.phases[reader]? = some .downloading) (error : RemoteError) :
    ∃ after, slot? (acts ++ [.on cell (.finish reader (.error error))]) cell = some after ∧
      after = slot.enter reader (.served (.error (.contentFetch slot.source error))) ∧ after.Idle
  /-- In an idle slot every reader that waits or comes next may begin a download. -/
  retried {cell : Cell} {slot : Readers} (here : slot? acts cell = some slot) (idle : slot.Idle) :
    (∀ {reader : Nat}, slot.phases[reader]? = some .waiting →
      (slot.proceed reader).phases[reader]? = some .downloading) ∧
    (slot.arrive.proceed slot.phases.length).phases[slot.phases.length]? = some .downloading
  /-- As a long integer a value is -1 as long as no download has succeeded. -/
  absent {cell : Cell} {slot : Readers} (here : slot? acts cell = some slot)
    (never : ∀ bytes, ¬Downloaded acts cell bytes) :
    (Value.binary (.deferred slot.source (some cell))).long (empty.run acts).cells = .ok (-1)
  /-- Afterwards it is the length of the payload. -/
  present {cell : Cell} {slot : Readers} {bytes : ByteArray} (here : slot? acts cell = some slot)
    (downloaded : Downloaded acts cell bytes) :
    (Value.binary (.deferred slot.source (some cell))).long (empty.run acts).cells =
      .ok bytes.size
  /-- A slot keeps its remote path, and its readers keep what they got. -/
  final {cell : Cell} {slot : Readers} (here : slot? acts cell = some slot) (more : List Act) :
    ∃ after, slot? (acts ++ more) cell = some after ∧ after.source = slot.source ∧
      ∀ {reader : Nat} {result : ReaderResult},
        slot.phases[reader]? = some (.served result) →
          after.phases[reader]? = some (.served result)
  /-- A node is handed out with a cell of its own, whatever was looked up before. -/
  fresh (node : Node) (source : String) : ∃ cell after,
    node.handOut (empty.run acts).cells = (node.hold cell, after) ∧ Takes acts source cell after
  /-- What happens to other slots makes no difference. -/
  apart {cell : Cell} {slot : Readers} (here : slot? acts cell = some slot) (more : List Act)
    (others : ∀ action, .on cell action ∉ more) : slot? (acts ++ more) cell = some slot
  /-- Comparing the payloads at hand makes nodes and properties equal exactly when they are the
  same apart from their cells. -/
  equality : Node.equal (empty.run acts).cells = Node.same ∧
    Property.equal (empty.run acts).cells = Property.same
  /-- A reading of the value alone is what the events of a lone read amount to, and it asks the
  store only when there is no payload. -/
  alone {σ : Type} (store : Store σ) (state : σ) {cell : Cell} {slot : Readers}
    (here : slot? acts cell = some slot) (free : slot.downloads = 0) :
    let read := store.run ((Binary.deferred slot.source (some cell)).read.start
      (empty.run acts).cells) state
    let outcome : Except RemoteError ByteArray := (store.answer (.download slot.source) state).1
    let events := (Readers.lone slot.phases.length outcome).map (Act.on cell)
    (∃ after, slot? (acts ++ events) cell = some after ∧
      after.phases[slot.phases.length]? = some (.served read.1.1)) ∧
    (empty.run (acts ++ events)).cells = read.1.2 ∧
    read.2 = if slot.payload.isSome then state
      else (store.answer (.download slot.source) state).2
  /-- The other forms of reading are made of this one. -/
  forms (binary : Binary) :
    (Value.binary binary).read = binary.read ∧
      binary.readSize = ByteArray.size <$> binary.read ∧
      (Value.binary binary).readLength = ByteArray.size <$> binary.read
  /-- All that is to be downloaded for a node that is handed out is one value, and it has the new
  cell. A copy of the property with this value has the same cell. -/
  handles {view : View} {path : String} {node : Node} {property : Property} {binary : Binary}
    (shown : view.node? path = some node ∨ node ∈ view.children path)
    (member : property ∈ (node.handOut (empty.run acts).cells).1.properties)
    (inside : .binary binary ∈ property.values) :
    ∃ source cell, property = node.content source cell ∧
      Takes acts source cell (node.handOut (empty.run acts).cells).2 ∧
      ∀ cells, property.handOut cells = (property, cells)
  /-- A property that was looked up by itself is handed out with a new cell, too. -/
  properties {view : View} {path : String} {property : Property} {binary : Binary}
    (found : view.property? path = some property)
    (inside : .binary binary ∈ (property.handOut (empty.run acts).cells).1.values) :
    ∃ node source cell,
      (property.handOut (empty.run acts).cells).1 = Node.content node source cell ∧
        Takes acts source cell (property.handOut (empty.run acts).cells).2

/-- The fresh cell is the one that the next lookup takes. -/
theorem takes_fresh (acts : List Act) (source : String) :
    Takes acts source (empty.run acts).cells.fresh.1 (empty.run acts).cells.fresh.2 := by
  have next : (empty.run acts).cells.fresh.1 = (empty.run acts).slots.length := by
    simp [cells, Cells.fresh]
  rw [next]
  refine ⟨?_, ?_, ?_⟩
  · simp [slot?]
  · rw [slot?, run_append]
    simp [run, act]
  · rw [run_append]
    simp [cells, Cells.fresh, run, act, Readers.start]

/-- Events of other slots are no events of this one. -/
theorem own_of_others {more : List Act} (others : ∀ action, .on cell action ∉ more) :
    own cell more = [] := by
  rw [own, List.filterMap_eq_nil_iff]
  intro action member
  cases action with
  | look source => rfl
  | on other action =>
    have different : other ≠ cell := by
      rintro rfl
      exact others action member
    simp [different]

/-- Downloads are shared by all readers of a value and by nobody else. -/
theorem shares (acts : List Act) : Shares acts where
  single here := by
    have single := (inOrder_of_slot? here).single
    omega
  counted {cell slot} here := by
    rw [counted_of_slot? here, Readers.successes]
    cases slot.payload <;> rfl
  bytes here served :=
    downloaded_of_payload here ((inOrder_of_slot? here).grounded _ (List.mem_of_getElem? served))
  settled {cell _ _} here downloaded more := by
    have since := Readers.since_run (inOrder_of_slot? here) (payload_of_downloaded here downloaded)
      (own cell more)
    have after := slot?_append here more
    refine ⟨_, after, since, (inOrder_of_slot? after).downloads_of_loaded since.payload, ?_⟩
    intro reader waiting
    rw [Readers.proceed_of_loaded waiting since.payload]
    simp [(List.getElem?_eq_some_iff.mp waiting).1]
  failed here downloading error := by
    have idle := (inOrder_of_slot? here).idle_of_failed downloading error
    refine ⟨_, slot?_append here _, ?_, ?_⟩
    · simp [own, Readers.act, Readers.finish_error downloading, fetchFailure]
    · simpa [own, Readers.act] using idle
  retried here idle :=
    ⟨idle.proceed, idle.arrive.proceed (Readers.phases_arrive _)⟩
  absent {cell slot} here never := by
    have unloaded : slot.payload = none := by
      rw [Option.eq_none_iff_forall_ne_some]
      intro bytes loaded
      exact never bytes (downloaded_of_payload here loaded)
    rw [long_eq here, unloaded]
    rfl
  present here downloaded := by
    rw [long_eq here, payload_of_downloaded here downloaded]
    rfl
  final here more :=
    ⟨_, slot?_append here more, Readers.source_run _ _, fun served => Readers.served_run served _⟩
  fresh node source := ⟨_, _, node.handOut_eq _, takes_fresh acts source⟩
  apart here more others := by
    rw [slot?_append here more, own_of_others others, Readers.run_nil]
  equality := by
    constructor
    · funext first second
      exact Node.equal_eq_same _ first second
    · funext first second
      exact Property.equal_eq_same _ first second
  alone {_} store state {_ _} here free := by
    obtain ⟨served, kept, asked⟩ := read_alone store state here free
    intro read outcome events
    rw [slot?, run_append]
    exact ⟨⟨_, slots_run_on here _, served⟩, kept, asked⟩
  forms binary := ⟨rfl, binary.readSize_eq, binary.readSize_eq⟩
  handles shown member inside := by
    rw [Node.handOut_eq] at member
    obtain ⟨source, rfl⟩ := View.content_of_shown shown member inside
    exact ⟨source, _, rfl, takes_fresh acts source, Property.handOut_content _ source _⟩
  properties found inside := by
    rw [Property.handOut_of_new (View.isHeld_of_property? found)] at inside ⊢
    obtain ⟨node, source, held⟩ := View.content_of_property? found inside
    exact ⟨node, source, _, held, takes_fresh acts source⟩

/-- The first of two readers fails and the second succeeds, each with a download of its own. -/
example (error : RemoteError) (bytes : ByteArray) :
    let slot := (Readers.start "/a" none).run [.arrive, .arrive, .proceed 0, .proceed 1,
      .finish 0 (.error error), .proceed 1, .finish 1 (.ok bytes)]
    slot.begun = 2 ∧ slot.payload = some bytes ∧
      slot.phases = [.served (.error (.contentFetch "/a" error)), .served (.ok bytes)] :=
  ⟨rfl, rfl, rfl⟩

end Shelf

end ContentMount
