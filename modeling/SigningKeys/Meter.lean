import SigningKeys.KeyError

/-!
# Meters

A meter counts what happens in pipelines. Keys and key ids are never part of a count's name.

* `Metric`: the events that are counted; `Metric.name` is the name of its count;
* `Meter.record`, `Meter.count`: the ledger of the events and what it says about one of them;
* `Meter.readings`: the counts of all events that happened, and the gauge of cached keys.
-/

namespace SigningKeys

/-- What a look into a cache can be counted as. -/
inductive LookupResult where
  | hit
  | miss
  | expired
deriving DecidableEq

/-- The label of a result. -/
def LookupResult.label : LookupResult → String
  | .hit => "hit"
  | .miss => "miss"
  | .expired => "expired"

/-- An event that is counted. -/
inductive Metric where
  /-- A cache was asked for a key. -/
  | lookup (result : LookupResult)
  /-- A call joined a fetch that was already running. -/
  | coalesced
  /-- A bucket let a call pass, or did not. -/
  | decision (allowed : Bool)
  /-- A key set was fetched, with the kind of the error if that failed. -/
  | fetch (error : Option ErrorKind)
  /-- The time of a fetch was measured. -/
  | timing (success : Bool)
deriving DecidableEq

namespace Metric

/-- Every event once. -/
def all : List Metric :=
  [.lookup .hit, .lookup .miss, .lookup .expired, .coalesced, .decision true, .decision false,
    .fetch none] ++ ErrorKind.all.map (fun k => .fetch (some k)) ++ [.timing true, .timing false]

/-- The word for a fetch that succeeded or failed. -/
def status (success : Bool) : String := if success then "success" else "error"

/-- The name of an event's count: the family, then the labels in braces. -/
def name : Metric → String
  | .lookup r => "jwks_cache_lookups_total\x7bresult=" ++ r.label ++ "\x7d"
  | .coalesced => "jwks_fetch_coalesced_total\x7b\x7d"
  | .decision allowed =>
    "jwks_rate_limit_decisions_total\x7bdecision=" ++
      (if allowed then "allowed" else "rejected") ++ "\x7d"
  | .fetch error =>
    "jwks_fetches_total\x7berror_type=" ++ (error.map ErrorKind.label).getD "none" ++
      ",status=" ++ status error.isNone ++ "\x7d"
  | .timing success => "jwks_fetch_duration_seconds\x7bstatus=" ++ status success ++ "\x7d"

end Metric

/-- The ledger of a run: its events, the latest first, and the size that a cache last told. -/
structure Meter where
  events : List Metric := []
  entries : Option Nat := none

namespace Meter

/-- Enter an event. -/
def record (m : Meter) (e : Metric) : Meter := { m with events := e :: m.events }

/-- Set the gauge of cached keys. -/
def setEntries (m : Meter) (n : Nat) : Meter := { m with entries := some n }

/-- Enter a fetch of a key set, once with its result and once with its time. -/
def recordFetch (m : Meter) (error : Option ErrorKind) : Meter :=
  (m.record (.timing error.isNone)).record (.fetch error)

/-- How often an event happened. -/
def count (m : Meter) (e : Metric) : Nat := m.events.count e

@[simp] theorem count_record (m : Meter) (e e' : Metric) :
    (m.record e).count e' = m.count e' + if e = e' then 1 else 0 := by
  simp [count, record, List.count_cons]

@[simp] theorem count_setEntries (m : Meter) (n : Nat) (e : Metric) :
    (m.setEntries n).count e = m.count e := rfl

@[simp] theorem entries_record (m : Meter) (e : Metric) : (m.record e).entries = m.entries := rfl

@[simp] theorem entries_setEntries (m : Meter) (n : Nat) :
    (m.setEntries n).entries = some n := rfl

/-- The name of the gauge of cached keys. -/
def entriesName : String := "jwks_cache_entries\x7b\x7d"

/-- **The counts of what happened**, each with its name, and the gauge if it was set. -/
def readings (m : Meter) : List (String × Nat) :=
  (Metric.all.filter fun e => 0 < m.count e).map (fun e => (e.name, m.count e)) ++
    m.entries.toList.map fun n => (entriesName, n)

end Meter

end SigningKeys
