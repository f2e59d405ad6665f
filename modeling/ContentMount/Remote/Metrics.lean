/-
This file counts the requests to a remote store, the bytes that they brought and the time that
they took. A metered store records every request that passes through it.
-/

import ContentMount.Remote.Request

namespace ContentMount.Remote

/-- The record of one request. -/
structure Metric where
  kind : RequestKind
  target : String
  bytes : UInt64
  nanoseconds : Nat
  succeeded : Bool

/-- The totals over all records since the last reset, and the records themselves. The totals of
bytes and of time are kept in 64 bits. -/
structure Metrics where
  bytes : UInt64
  count : Nat
  nanoseconds : UInt64
  records : Array Metric

namespace Metrics

def empty : Metrics := ⟨0, 0, 0, #[]⟩

/-- A record adds to all totals. Its time is cut to 64 bits first. -/
def record (metrics : Metrics) (metric : Metric) : Metrics :=
  { bytes := metrics.bytes + metric.bytes
    count := metrics.count + 1
    nanoseconds := metrics.nanoseconds + UInt64.ofNat metric.nanoseconds
    records := metrics.records.push metric }

/-- A reset forgets everything. -/
def reset (_ : Metrics) : Metrics := empty

/-- The number of records of one kind. -/
def countOf (metrics : Metrics) (kind : RequestKind) : Nat :=
  metrics.records.countP fun metric => metric.kind == kind

end Metrics

/-- The bytes that an answer brings. Only a download that succeeds brings any. -/
def Request.payloadSize : (request : Request) → request.Answer → Nat
  | .download _, .ok payload => ByteArray.size payload
  | _, _ => 0

/-- The answer is a result. -/
def Request.succeeded (request : Request) : request.Answer → Bool
  | .ok _ => true
  | .error _ => false

/-- The record of a request with its answer. -/
def Metric.ofAnswer (request : Request) (answer : request.Answer) (nanoseconds : Nat) : Metric :=
  { kind := request.kind
    target := request.target
    bytes := UInt64.ofNat (request.payloadSize answer)
    nanoseconds
    succeeded := request.succeeded answer }

/-- The same store with a record of every request. The time between two states of the store is
measured from outside. -/
def Store.metered {σ : Type} (elapsed : σ → σ → Nat) (store : Store σ) : Store (σ × Metrics) where
  name := store.name
  answer request := fun (before, metrics) =>
    let (answer, after) := store.answer request before
    (answer, after, metrics.record (.ofAnswer request answer (elapsed before after)))

end ContentMount.Remote
