/-
This file writes durations and sizes in the largest unit that leaves at least one of it.
-/

import ContentMount.Number.Rounding

namespace ContentMount.Number

/-- A unit has a size in the smallest unit and a symbol. -/
structure Scale where
  size : Nat
  symbol : String

/-- Units with the given symbols, each larger than the one before by a factor. -/
def scales (factor size : Nat) : List String → List Scale
  | [] => []
  | symbol :: rest => ⟨size, symbol⟩ :: scales factor (factor * size) rest

/-- The largest unit that leaves at least one. The smallest unit serves for everything else. -/
def unitOf (units : List Scale) (amount : Nat) : Scale :=
  units.foldl (fun found unit => if unit.size ≤ amount then unit else found)
    (units.headD ⟨1, ""⟩)

/-- The units of time, the shortest first. -/
def timeUnits : List Scale :=
  scales 1000 1 ["ns", "µs", "ms", "s"]

/-- A duration in nanoseconds with two decimal places. Rounding does not change the unit. -/
def duration (nanoseconds : Nat) : String :=
  let unit := unitOf timeUnits nanoseconds
  hundredths (roundDiv (100 * nanoseconds) unit.size) ++ unit.symbol

/-- The units of size, the smallest first. -/
def sizeUnits : List Scale :=
  scales 1024 1 ["B", "KiB", "MiB", "GiB", "TiB", "PiB", "EiB"]

/-- The nearest number with at most 53 significant bits. -/
def toPrecision (n : Nat) : Nat :=
  let spare := n.log2 - 52
  roundDiv n (1 <<< spare) <<< spare

/-- A size in bytes, taken with 53 significant bits. It has two decimal places, unless it is a
whole number of units up to one part in 2 to the 52. -/
def byteSize (bytes : Nat) : String :=
  let bytes := toPrecision bytes
  let unit := unitOf sizeUnits bytes
  let amount :=
    if (bytes % unit.size) <<< 52 ≤ unit.size then toString (bytes / unit.size)
    else hundredths (roundDiv (100 * bytes) unit.size)
  amount ++ " " ++ unit.symbol

end ContentMount.Number
