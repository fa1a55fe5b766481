import GatewayFeed.Kind

/-!
Measurements. What happens is recorded as a list of recordings; the text lines of a measurement
are read off that list.
-/

namespace GatewayFeed

inductive CycleOutcome where
  | complete
  | incomplete
  | unauthorized
  | cancelled
  deriving DecidableEq, Repr

def CycleOutcome.label : CycleOutcome → String
  | complete => "complete"
  | incomplete => "partial"
  | unauthorized => "unauthorized"
  | cancelled => "cancelled"

inductive Recording where
  | fetchOutcome (endpoint outcome : String)
  | fetchDuration (endpoint : String)
  | decodeError (endpoint : String)
  | collectionItems (kind : Kind) (size : Nat)
  | populatedSlots (count : Nat)
  | cycle (outcome : CycleOutcome)
  deriving DecidableEq, Repr

namespace Recording

/-- The name of a measurement with its labels. -/
def series : Recording → String
  | fetchOutcome e o => "adapter_fetch_total\x7bendpoint=" ++ e ++ ",outcome=" ++ o ++ "\x7d"
  | fetchDuration e => "adapter_fetch_duration_seconds\x7bendpoint=" ++ e ++ "\x7d"
  | decodeError e => "adapter_decode_errors_total\x7bendpoint=" ++ e ++ "\x7d"
  | collectionItems k _ => "adapter_collection_items\x7bcollection=" ++ k.name ++ "\x7d"
  | populatedSlots _ => "adapter_snapshot_populated_slots\x7b\x7d"
  | cycle o => "adapter_load_cycles_total\x7boutcome=" ++ o.label ++ "\x7d"

/-- A gauge shows what was set last, everything else how often it was recorded. -/
def gauge? : Recording → Option Nat
  | collectionItems _ n => some n
  | populatedSlots n => some n
  | _ => none

def isHistogram : Recording → Bool
  | fetchDuration _ => true
  | _ => false

end Recording

namespace Metrics

def count (rs : List Recording) (series : String) : Nat := rs.countP fun r => r.series = series

/-- Value of a series of which `r` is a recording. -/
def value (rs : List Recording) (r : Recording) : String :=
  match r.gauge? with
  | some _ => toString (((rs.filter fun q => q.series = r.series).getLast?.bind (·.gauge?)).getD 0)
  | none => (if r.isHistogram then "count " else "") ++ toString (count rs r.series)

/-- One line for each series, sorted. -/
def lines (rs : List Recording) : List String :=
  let firsts := rs.foldl
    (fun seen r => if seen.any (·.series = r.series) then seen else seen ++ [r]) []
  (firsts.map fun r => r.series ++ " " ++ value rs r).mergeSort (fun a b => a ≤ b)

end Metrics

end GatewayFeed
