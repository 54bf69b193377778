import PoolPlanner.Binary64.Shortest
import PoolPlanner.Hook.Sync

/-!
# Call metrics

How often each hook was called and with which outcome, and how long the calls took.  The page that
shows them lists families of samples by name and the samples of a family by their labels; a family
without samples is left out.
-/

namespace PoolPlanner

open Binary64 (Magnitude)

/-- How many observations fell below each of some bounds, and their sum. -/
structure Histogram where
  /-- How many observations are at most each bound. -/
  below : List Nat
  /-- The sum of all observations, rounded after each. -/
  sum : Magnitude
  count : Nat
deriving DecidableEq, Repr

namespace Histogram

def bounds : List Nat :=
  [5, 10, 25, 50, 100, 250, 500, 1000, 2500, 5000, 10000]

def boundSize (thousandths : Nat) : Magnitude :=
  .ofRatio thousandths 1000

def empty : Histogram :=
  ⟨bounds.map fun _ => 0, .zero, 0⟩

def observe (histogram : Histogram) (value : Magnitude) : Histogram where
  below :=
    (bounds.zip histogram.below).map fun entry =>
      if value.isAtMost (boundSize entry.1) then entry.2 + 1 else entry.2
  sum := histogram.sum.add value
  count := histogram.count + 1

end Histogram

/-- A time span in seconds: the whole seconds and the rest are rounded on their own. -/
def secondsOfMilliseconds (milliseconds : Nat) : Magnitude :=
  (Magnitude.ofNat (milliseconds / 1000)).add (.ofRatio (milliseconds % 1000) 1000)

/-- What is known of the calls answered so far. -/
structure Metrics where
  /-- The number of calls by hook and outcome. -/
  calls : Table (Table Nat) := .empty
  /-- The time spent by hook. -/
  durations : Table Histogram := .empty

namespace Metrics

def count (metrics : Metrics) (hook : String) (outcome : Outcome) : Nat :=
  ((metrics.calls.find? hook).bind fun counts => counts.find? outcome.name).getD 0

/-- Count a call that took some time. -/
def observe (metrics : Metrics) (hook : String) (outcome : Outcome) (milliseconds : Nat) :
    Metrics where
  calls :=
    let counts := (metrics.calls.find? hook).getD .empty
    metrics.calls.insert hook
      (counts.insert outcome.name (metrics.count hook outcome + 1))
  durations :=
    let histogram := (metrics.durations.find? hook).getD .empty
    metrics.durations.insert hook (histogram.observe (secondsOfMilliseconds milliseconds))

def contentType : String :=
  "text/plain; version=0.0.4"

def escapeLabelChar (character : Char) : List Char :=
  match character with
  | '\\' => ['\\', '\\']
  | '"' => ['\\', '"']
  | '\n' => ['\\', 'n']
  | other => [other]

def label (name value : String) : String :=
  name ++ "=\"" ++ String.ofList (value.toList.flatMap escapeLabelChar) ++ "\""

def sample (name : String) (labels : List String) (value : String) : String :=
  name ++ "\x7b" ++ ",".intercalate labels ++ "\x7d " ++ value

def sampleText (value : Magnitude) : String :=
  String.ofList (value.text Binary64.sampleLayout)

/-- The lines of a family: what it tells, its type and its samples. -/
def family (name help type : String) (samples : List String) : List String :=
  if samples.isEmpty then []
  else s!"# HELP {name} {help}" :: s!"# TYPE {name} {type}" :: samples

def durationName : String :=
  "cstor_pool_auto_reconcile_duration_seconds"

def callsName : String :=
  "cstor_pool_auto_reconcile_total"

def histogramSamples (hook : String) (histogram : Histogram) : List String :=
  let hookLabel := label "hook" hook
  let bucket := fun (bound : String) (count : Nat) =>
    sample (durationName ++ "_bucket") [hookLabel, label "le" bound] (toString count)
  let bounded := (Histogram.bounds.zip histogram.below).map fun entry =>
    bucket (sampleText (Histogram.boundSize entry.1)) entry.2
  bounded ++
    [bucket "+Inf" histogram.count,
      sample (durationName ++ "_sum") [hookLabel] (sampleText histogram.sum),
      sample (durationName ++ "_count") [hookLabel] (toString histogram.count)]

def callSamples (hook : String) (counts : Table Nat) : List String :=
  counts.entries.map fun entry =>
    sample callsName [label "hook" hook, label "outcome" entry.1] (toString entry.2)

def lines (metrics : Metrics) : List String :=
  family durationName "Time spent answering a hook call" "histogram"
      (metrics.durations.entries.flatMap fun entry => histogramSamples entry.1 entry.2) ++
    family callsName "Hook calls by outcome" "counter"
      (metrics.calls.entries.flatMap fun entry => callSamples entry.1 entry.2)

/-- The calls of every hook by outcome, without the outcomes that did not occur. -/
def nonzeroCounts (metrics : Metrics) : List (Hook × Outcome × Nat) :=
  Hook.all.flatMap fun hook =>
    Outcome.all.filterMap fun outcome =>
      let count := metrics.count hook.name outcome
      if count = 0 then none else some (hook, outcome, count)

end Metrics
end PoolPlanner
