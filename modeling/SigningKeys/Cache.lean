import SigningKeys.Cache.Store
import SigningKeys.KeyError

/-!
# Caches

A cache stores keys for a time, and knows which keys it is fetching right now, so that many callers
who miss the same key share one fetch.

* `CacheLimits.check`: how many keys are stored and for how long;
* `Flight`: a fetch under way, and the places that it gave to its waiting callers;
* `Cache.flight?`, `Cache.depart`, `Cache.land`: the fetch of a key, its start and its end.
-/

namespace SigningKeys

/-- How many keys a cache stores, and for how long. -/
structure CacheLimits where
  capacity : Nat
  ttl : Duration
  capacity_pos : 0 < capacity
  ttl_pos : 0 < ttl.nanos

namespace CacheLimits

/-- The limits with the given numbers, or which of them is empty. -/
def check (capacity : Nat) (ttl : Duration) : Except KeyError CacheLimits :=
  if hc : 0 < capacity then
    if ht : 0 < ttl.nanos then .ok ⟨capacity, ttl, hc, ht⟩
    else .error (.invalidConfiguration "Invalid cache expiration.")
  else .error (.invalidConfiguration "Invalid cache size.")

/-- How many keys are stored when nothing is said about it. -/
def defaultCapacity : Nat := 5

/-- Ten hours, for which keys are stored when nothing is said about it. -/
def defaultTtl : Duration := Duration.ofSeconds 36000

end CacheLimits

/-- A fetch under way. Each waiting caller has a place, the one that caused the fetch the first. A
caller that goes away leaves its place to the next one that comes, and all are told in the order of
their places. -/
structure Flight where
  kid : String
  /-- The places that were left, the latest first. -/
  vacant : List Nat := []
  /-- How many places there are. -/
  places : Nat := 1
deriving DecidableEq

namespace Flight

/-- Take a place. -/
def board (f : Flight) : Nat × Flight :=
  match f.vacant with
  | place :: rest => (place, { f with vacant := rest })
  | [] => (f.places, { f with places := f.places + 1 })

/-- Leave a place. -/
def leave (f : Flight) (place : Nat) : Flight := { f with vacant := place :: f.vacant }

end Flight

/-- A cache. -/
structure Cache where
  limits : CacheLimits
  store : KeyStore := {}
  flights : List Flight := []

namespace Cache

/-- The fetch of a key that is under way. -/
def flight? (c : Cache) (kid : String) : Option Flight := c.flights.find? (·.kid == kid)

/-- How many keys are stored, those that are too old included. -/
def size (c : Cache) : Nat := c.store.size

/-- Look for a key. -/
def lookup (c : Cache) (now : Instant) (kid : String) : Lookup × Cache :=
  let (found, store) := c.store.lookup c.limits.ttl now kid
  (found, { c with store })

/-- Put a key in. -/
def insert (c : Cache) (now : Instant) (kid : String) (j : Jwk) : Cache :=
  { c with store := c.store.insert c.limits.capacity now kid j }

/-- Enter a new fetch. -/
def depart (c : Cache) (kid : String) : Cache := { c with flights := { kid } :: c.flights }

/-- Strike the fetch of a key. -/
def land (c : Cache) (kid : String) : Cache :=
  { c with flights := c.flights.filter (·.kid != kid) }

/-- Replace the fetch of a key. -/
def withFlight (c : Cache) (f : Flight) : Cache :=
  { c with flights := c.flights.map fun g => if g.kid = f.kid then f else g }

/-- Take a place in the fetch of a key, if it is under way. -/
def board? (c : Cache) (kid : String) : Option (Nat × Cache) :=
  (c.flight? kid).map fun f =>
    let (place, f) := f.board
    (place, c.withFlight f)

/-- Leave a place in the fetch of a key. -/
def leave (c : Cache) (kid : String) (place : Nat) : Cache :=
  match c.flight? kid with
  | some f => c.withFlight (f.leave place)
  | none => c

end Cache

end SigningKeys
