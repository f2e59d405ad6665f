/-
This file says what the metrics tell after any history of records and resets. The totals are kept
apart from the list of records, and they always agree with it.
-/

import ContentMount.Remote.Metrics
import Mathlib.Data.List.DropRight

namespace ContentMount.Remote

/-- What can be done to the metrics: a request is recorded, or everything is forgotten. -/
inductive Metrics.Operation where
  | record (metric : Metric)
  | reset

namespace Metrics

def apply (metrics : Metrics) : Operation → Metrics
  | .record metric => metrics.record metric
  | .reset => metrics.reset

/-- The metrics after a history that begins without records. -/
def after (history : List Operation) : Metrics :=
  history.foldl apply empty

def Operation.metric? : Operation → Option Metric
  | .record metric => some metric
  | .reset => none

/-- The records since the last reset are those in the longest end of a history without a reset. -/
def sinceReset (history : List Operation) : List Metric :=
  (history.rtakeWhile fun operation => operation.metric?.isSome).filterMap Operation.metric?

theorem sinceReset_record (history : List Operation) (metric : Metric) :
    sinceReset (history ++ [.record metric]) = sinceReset history ++ [metric] := by
  simp [sinceReset, Operation.metric?]

theorem sinceReset_reset (history : List Operation) :
    sinceReset (history ++ [.reset]) = [] := by
  simp [sinceReset, Operation.metric?]

/-- A quantity of all records taken together, without a bound. -/
def sumOf (quantity : Metric → Nat) (records : List Metric) : Nat :=
  records.foldl (fun sum metric => sum + quantity metric) 0

theorem sumOf_append (quantity : Metric → Nat) (records : List Metric) (metric : Metric) :
    sumOf quantity (records ++ [metric]) = sumOf quantity records + quantity metric := by
  simp [sumOf]

/-- Every record has one of the four kinds. -/
theorem countP_kind_add (records : List Metric) :
    records.countP (·.kind == .metadata) + records.countP (·.kind == .list) +
        records.countP (·.kind == .listNext) + records.countP (·.kind == .download) =
      records.length := by
  induction records with
  | nil => rfl
  | cons metric rest ih =>
      simp only [List.countP_cons, List.length_cons]
      cases metric.kind <;> simp <;> omega

/-- The metrics tell of these records, of all of them and in their order. -/
structure TellOf (metrics : Metrics) (records : List Metric) : Prop where
  inOrder : metrics.records.toList = records
  count : metrics.count = records.length
  ofKind : ∀ kind, metrics.countOf kind = records.countP (·.kind == kind)
  ofKinds : metrics.countOf .metadata + metrics.countOf .list + metrics.countOf .listNext +
    metrics.countOf .download = metrics.count
  /-- The bytes and the time of the records are summed up exactly, and the sums cut to 64 bits. -/
  bytes : metrics.bytes.toNat = sumOf (fun metric => metric.bytes.toNat) records % UInt64.size
  nanoseconds : metrics.nanoseconds.toNat = sumOf Metric.nanoseconds records % UInt64.size

/-- The counts follow from the records and their number. -/
theorem TellOf.of_records {metrics : Metrics} {records : List Metric}
    (inOrder : metrics.records.toList = records) (count : metrics.count = records.length)
    (bytes : metrics.bytes.toNat = sumOf (fun metric => metric.bytes.toNat) records % UInt64.size)
    (nanoseconds : metrics.nanoseconds.toNat = sumOf Metric.nanoseconds records % UInt64.size) :
    metrics.TellOf records := by
  have ofKind (kind : RequestKind) :
      metrics.countOf kind = records.countP (·.kind == kind) := by
    rw [countOf, ← inOrder, Array.countP_toList]
  refine ⟨inOrder, count, ofKind, ?_, bytes, nanoseconds⟩
  rw [ofKind, ofKind, ofKind, ofKind, countP_kind_add, count]

theorem tellOf_empty : empty.TellOf [] :=
  .of_records rfl rfl rfl rfl

/-- What is added may be cut before, because the sum is cut anyway. -/
theorem toNat_add_ofNat_of_mod {total : UInt64} {sum : Nat}
    (cut : total.toNat = sum % UInt64.size) (more : Nat) :
    (total + UInt64.ofNat more).toNat = (sum + more) % UInt64.size := by
  rw [UInt64.toNat_add, cut, UInt64.toNat_ofNat']
  exact (Nat.add_mod sum more UInt64.size).symm

/-- One more record adds to everything. -/
theorem TellOf.record {metrics : Metrics} {records : List Metric} (told : metrics.TellOf records)
    (metric : Metric) : (metrics.record metric).TellOf (records ++ [metric]) := by
  apply TellOf.of_records
  · simp [Metrics.record, told.inOrder]
  · simp [Metrics.record, told.count]
  · have added := toNat_add_ofNat_of_mod told.bytes metric.bytes.toNat
    rwa [UInt64.ofNat_toNat, ← sumOf_append] at added
  · have added := toNat_add_ofNat_of_mod told.nanoseconds metric.nanoseconds
    rwa [← sumOf_append] at added

/-- After every history the metrics tell of the records since the last reset. -/
theorem after_tellOf_sinceReset (history : List Operation) :
    (after history).TellOf (sinceReset history) := by
  induction history using List.reverseRecOn with
  | nil => exact tellOf_empty
  | append_singleton history operation told =>
      rw [after, List.foldl_append, ← after]
      cases operation with
      | record metric =>
          rw [sinceReset_record]
          exact told.record metric
      | reset =>
          rw [sinceReset_reset]
          exact tellOf_empty

end Metrics

end ContentMount.Remote
