import QueryTemplate.Number
import QueryTemplate.Telemetry.Signal

/-!
# Metrics

Measurements add up to metrics. A measurement gives each of the `Series` that it touches one sample;
what a series shows is a function of its samples alone.

* a counter shows their sum, in 64 bits,
* a gauge shows the last one,
* a distribution shows all of them,
* a timer shows how many there are, since the times themselves differ from run to run.

Samples of gauges and distributions are held in double precision: a number beyond 53 bits is rounded.
-/

namespace QueryTemplate

/-! ## Series -/

inductive Series where
  | parses (status : String)
  | renders
  | renderGroups
  | renderGroupsEmitted
  | groupsDropped
  | clausesDropped
  | lookups (hit : Bool)
  | evictions
  | entries
  | renderSeconds
  deriving DecidableEq, Repr

/-- How the samples of a series are shown. -/
inductive Series.Kind where
  | counter
  | gauge
  | distribution
  | timer
  deriving DecidableEq, Repr

namespace Series

/-- A metric name with a label. -/
def labelled (name label value : String) : String :=
  name ++ "\x7b" ++ label ++ "=" ++ value ++ "\x7d"

def key : Series → String
  | parses status => labelled "search_profile_parse_total" "status" status
  | renders => "search_profile_render_total"
  | renderGroups => "search_profile_render_groups"
  | renderGroupsEmitted => "search_profile_render_groups_emitted"
  | groupsDropped => "search_profile_groups_dropped_total"
  | clausesDropped => "search_profile_clauses_dropped_total"
  | lookups hit =>
    labelled "search_profile_cache_lookups_total" "result" (if hit then "hit" else "miss")
  | evictions => "search_profile_cache_evictions_total"
  | entries => "search_profile_cache_entries"
  | renderSeconds => "search_profile_render_seconds"

def kind : Series → Kind
  | entries => .gauge
  | renderGroups | renderGroupsEmitted => .distribution
  | renderSeconds => .timer
  | _ => .counter

end Series

/-- The samples of a measurement. A time is not looked at, so any number stands for it. -/
def Measurement.samples : Measurement → List (Series × Nat)
  | parse status => [(.parses status, 1)]
  | render groups emitted =>
    [(.renders, 1), (.renderGroups, groups), (.renderGroupsEmitted, emitted)]
  | groupDropped => [(.groupsDropped, 1)]
  | clauseDropped => [(.clausesDropped, 1)]
  | lookup hit => [(.lookups hit, 1)]
  | eviction count => [(.evictions, count)]
  | entries count => [(.entries, count)]
  | renderTime => [(.renderSeconds, 0)]

/-! ## Meters -/

/-- What a series shows. -/
inductive Meter where
  | total (n : UInt64)
  | last (n : Nat)
  | samples (ns : List Nat)
  | count (n : Nat)
  deriving DecidableEq, Repr

/-- A number as a gauge or a distribution holds it: in double precision, and shown in 64 bits. -/
def heldValue (n : Nat) : Nat := min (Number.inDouble n) (UInt64.size - 1)

def Series.Kind.meter : Series.Kind → List Nat → Meter
  | .counter, ns => .total (ns.foldr (fun n total => UInt64.ofNat n + total) 0)
  | .gauge, ns => .last (heldValue (ns.getLastD 0))
  | .distribution, ns => .samples (ns.map heldValue)
  | .timer, ns => .count ns.length

namespace Meter

def toDocument : Meter → Document
  | total n => .ofNat n.toNat
  | last n => .ofNat n
  | samples ns => .list (ns.map .ofNat)
  | count n => .record [("samples", .ofNat n)]

end Meter

/-! ## Snapshots -/

/-- Every series that the measurements touch, with what it shows. -/
def snapshot (measurements : List Measurement) : List (Series × Meter) :=
  let samples := measurements.flatMap Measurement.samples
  let touched := (samples.map Prod.fst).eraseDups
  touched.map fun series =>
    (series, series.kind.meter ((samples.filter (·.1 = series)).map Prod.snd))

def snapshotDocument (measurements : List Measurement) : Document :=
  .record ((snapshot measurements).map fun (series, meter) => (series.key, meter.toDocument))

end QueryTemplate
