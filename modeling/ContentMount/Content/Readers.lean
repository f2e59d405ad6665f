/-
This file lets many readers share the download of one payload.
One reader at a time downloads, and the others wait until that download has ended.
-/

import ContentMount.Content.Reading

namespace ContentMount

open Remote

/-- What a reader gets in the end. -/
abbrev ReaderResult : Type := Except MountError ByteArray

/-- A reader waits until it can go on, runs a download, or has got its result. -/
inductive ReaderPhase where
  | waiting
  | downloading
  | served (result : ReaderResult)

namespace ReaderPhase

def isDownloading : ReaderPhase → Bool
  | .downloading => true
  | _ => false

def result? : ReaderPhase → Option ReaderResult
  | .served result => some result
  | _ => none

end ReaderPhase

/-- The readers of one deferred payload. A reader is known by its place in the order of arrival. -/
structure Readers where
  /-- The remote path of the payload. -/
  source : String
  /-- The payload, once a download has succeeded. -/
  payload : Option ByteArray
  /-- How far each reader has come. -/
  phases : List ReaderPhase
  /-- The number of downloads that were begun. -/
  begun : Nat

namespace Readers

/-- No reader has come yet. -/
def start (source : String) (payload : Option ByteArray) : Readers :=
  ⟨source, payload, [], 0⟩

/-- The reader whose download is under way. -/
def downloader? (readers : Readers) : Option Nat :=
  readers.phases.findIdx? ReaderPhase.isDownloading

/-- Puts a reader into a phase. -/
def enter (readers : Readers) (reader : Nat) (phase : ReaderPhase) : Readers :=
  { readers with phases := readers.phases.set reader phase }

/-- A new reader waits at first. -/
def arrive (readers : Readers) : Readers :=
  { readers with phases := readers.phases ++ [.waiting] }

/-- Lets a waiting reader go on. It is served from the payload at hand. Without one it begins a
download, or it goes on waiting for the one that is under way. -/
def proceed (readers : Readers) (reader : Nat) : Readers :=
  match readers.phases[reader]? with
  | some .waiting =>
    match readers.payload, readers.downloader? with
    | some payload, _ => readers.enter reader (.served (.ok payload))
    | none, some _ => readers
    | none, none => { readers.enter reader .downloading with begun := readers.begun + 1 }
  | _ => readers

/-- Ends the download of a reader. A success is kept for everybody. A failure is for the reader
that ran the download. -/
def finish (readers : Readers) (reader : Nat) (outcome : Except RemoteError ByteArray) :
    Readers :=
  match readers.phases[reader]? with
  | some .downloading =>
    match outcome with
    | .ok payload =>
      { readers.enter reader (.served (.ok payload)) with payload := some payload }
    | .error error => readers.enter reader (.served (.error (fetchFailure readers.source error)))
  | _ => readers

/-- Lets all readers go on in the order of their arrival. -/
def wake (readers : Readers) : Readers :=
  (List.range readers.phases.length).foldl proceed readers

/-- Downloads one after the other while somebody wants to. Each one serves a reader at least, so
the count of readers bounds the downloads. -/
def settle : Nat → Readers → Asking Readers
  | 0, readers => return readers
  | limit + 1, readers =>
    match readers.downloader? with
    | none => return readers
    | some reader => do
      let outcome ← askContent readers.source
      settle limit (readers.finish reader outcome).wake

end Readers

/-- Several readers read one binary at the same time. The results are in the order of their
arrival. -/
def Binary.readTogether (binary : Binary) (count : Nat) : Reading (List ReaderResult) := do
  match binary with
  | .loaded payload => return List.replicate count (.ok payload)
  | .deferred source cell =>
    let start := Readers.start source (binary.payload? (← get))
    let arrived := (List.range count).foldl (fun readers _ => readers.arrive) start
    let readers ← (Readers.settle count arrived.wake : Asking _)
    match readers.payload with
    | some payload => keep cell payload
    | none => pure ()
    return readers.phases.filterMap ReaderPhase.result?

end ContentMount
