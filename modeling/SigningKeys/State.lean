import SigningKeys.Cache
import SigningKeys.Meter
import SigningKeys.Provider
import SigningKeys.Source
import SigningKeys.TokenBucket

/-!
# The state of a run

A run has a clock that stands still until it is moved, and tasks that take turns. A task is one call
of a provider: on behalf of a caller, or the fetch of a cache. It is ready for its next turn, or it
is parked until something happens: until the gate of a source opens, or until a fetch ends. A fetch
over the network begins in one turn and ends in a later one; in between, time may pass, others may
take their turns, and the call may be given up.

* `Exchange`: a fetch over the network that is under way;
* `Task`, `Stage`, `Spot`: a call, what it does at its next turn, and where it is parked;
* `State`: clock, sources, buckets, caches, providers, tasks, and what came of them;
* `State.holds`: whether anything can still reach a cache.

Nothing interrupts a turn: what a call does between two waits is one step, so that runs have every
order of turns, and no two turns at the same time. Log output, the time that a fetch took, and what
a key is good for once its material was found are left out.
-/

namespace SigningKeys

/-- Who a call is made for. -/
inductive Role where
  /-- A caller, by the number of the call. -/
  | caller (id : Nat)
  /-- A cache that misses the key. -/
  | fetch (cache : Nat)
deriving DecidableEq

/-- A call of a provider for the key of an id. -/
structure Task where
  role : Role
  kid : String
  provider : Provider
deriving DecidableEq

/-- A fetch of a key set over the network that is under way. -/
structure Exchange where
  remote : Remote
  /-- When it began. -/
  since : Instant
deriving DecidableEq

/-- What a task does when its turn comes. -/
inductive Stage where
  /-- Make the call. -/
  | calling
  /-- Go on with call number `n` of a source, whose gate has opened. -/
  | admitted (source n : Nat)
  /-- Go on after a fetch over the network, which ends in this turn. -/
  | fetching (x : Exchange)
  /-- Take note of the result of the fetch that was waited for. -/
  | told (result : Except KeyError Jwk)

/-- Where a task is parked. -/
inductive Spot where
  /-- At the gate of a source, with call number `n`. -/
  | gate (source n : Nat)
  /-- At a place of the fetch of its key by a cache. -/
  | flight (cache place : Nat)
deriving DecidableEq

/-- The state of a run. -/
structure State where
  now : Instant := 0
  sources : List Source := []
  buckets : List TokenBucket := []
  caches : List Cache := []
  /-- The providers that the user of the run holds; dropped ones are `none`. -/
  held : List (Option Provider) := []
  /-- The tasks that are ready, in the order of their turns. -/
  ready : List (Task × Stage) := []
  /-- The tasks that are parked, in the order in which they were. -/
  parked : List (Task × Spot) := []
  /-- How many calls were started. -/
  started : Nat := 0
  /-- The calls that ended, in that order. -/
  ended : List (Nat × Outcome) := []
  meter : Meter := {}
  network : Network := .unreachable
  /-- The requests that reached a server. -/
  requests : List Web.Url := []
  /-- The time that will pass while an answer of the network is held. -/
  delay : Duration := Duration.zero
  /-- The fetches of whole key sets that the user of the run has begun and that have not ended. -/
  reads : List Exchange := []

namespace State

/-- The provider that the user of the run holds under a number. -/
def provider? (s : State) (p : Nat) : Option Provider := (s.held[p]?).join

/-- The tasks that have not ended. -/
def tasks (s : State) : List Task := s.ready.map (·.1) ++ s.parked.map (·.1)

/-- **Whether a cache can still be reached**: through a provider that is held, or by a task. -/
def holds (s : State) (cache : Nat) : Bool :=
  s.held.any (·.any (·.uses cache)) || s.tasks.any (·.provider.uses cache)

/-- Enter an event. -/
def record (s : State) (e : Metric) : State := { s with meter := s.meter.record e }

/-- Tell the gauge how many keys a cache stores. -/
def gauge (s : State) (n : Nat) : State := { s with meter := s.meter.setEntries n }

/-- Replace a source. -/
def setSource (s : State) (i : Nat) (x : Source) : State :=
  { s with sources := s.sources.set i x }

/-- Replace a bucket. -/
def setBucket (s : State) (i : Nat) (x : TokenBucket) : State :=
  { s with buckets := s.buckets.set i x }

/-- Replace a cache. -/
def setCache (s : State) (i : Nat) (x : Cache) : State := { s with caches := s.caches.set i x }

/-- Make a task ready, behind all that already are. -/
def enqueue (s : State) (t : Task) (stage : Stage) : State :=
  { s with ready := s.ready ++ [(t, stage)] }

/-- Park a task. -/
def park (s : State) (t : Task) (spot : Spot) : State :=
  { s with parked := s.parked ++ [(t, spot)] }

/-- A provider as a term. -/
def debug (s : State) : Provider → String
  | .source i => (s.sources[i]?.map Source.debug).getD ""
  | .remote r => r.debug
  | .limited inner b =>
    "RateLimitedKeyProvider \x7b inner: " ++ s.debug inner ++ ", bucket: " ++
      (s.buckets[b]?.map TokenBucket.debug).getD "" ++ " \x7d"
  | .cached inner c =>
    match s.caches[c]? with
    | none => ""
    | some cache =>
      "CachedKeyProvider \x7b capacity: " ++ toString cache.limits.capacity ++ ", ttl: " ++
        cache.limits.ttl.text ++ ", inner: " ++ s.debug inner ++ " \x7d"

end State

end SigningKeys
