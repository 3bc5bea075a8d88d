import SigningKeys.Duration
import SigningKeys.Jwk

/-!
# Stored keys

A store holds keys by their id, and the ids in the order in which they were put in.

* `KeyStore.lookup`: the key of an id, if it is young enough; one that is too old is dropped;
* `KeyStore.insert`: put a key in; a full store drops the oldest one first.
-/

namespace SigningKeys

/-- A key and the instant at which it was put in. -/
structure Stored where
  key : Jwk
  since : Instant
deriving DecidableEq

/-- Keys by id, and the ids with the oldest first. -/
structure KeyStore where
  byKid : List (String × Stored) := []
  order : List String := []

/-- What a look for a key finds. -/
inductive Lookup where
  | hit (j : Jwk)
  | expired
  | absent
deriving DecidableEq

namespace KeyStore

/-- How many keys are stored. -/
def size (s : KeyStore) : Nat := s.byKid.length

/-- What is stored for an id. -/
def get? (s : KeyStore) (kid : String) : Option Stored := s.byKid.lookup kid

/-- The entries of all other ids. -/
def without (entries : List (String × Stored)) (kid : String) : List (String × Stored) :=
  entries.filter (·.1 != kid)

/-- The store without the key of an id. -/
def erase (s : KeyStore) (kid : String) : KeyStore :=
  if (s.get? kid).isSome then
    { byKid := without s.byKid kid, order := s.order.filter (· != kid) }
  else s

/-- **Look for a key** that is younger than `ttl`. One that is older is dropped. -/
def lookup (s : KeyStore) (ttl : Duration) (now : Instant) (kid : String) : Lookup × KeyStore :=
  match s.get? kid with
  | none => (.absent, s)
  | some e =>
    if elapsed now e.since < ttl.nanos then (.hit e.key, s) else (.expired, s.erase kid)

/-- Drop the oldest ids as long as there is no room for one more. -/
def makeRoom (capacity : Nat) (entries : List (String × Stored)) : List String → KeyStore
  | [] => ⟨entries, []⟩
  | oldest :: order =>
    if entries.length < capacity then ⟨entries, oldest :: order⟩
    else makeRoom capacity (without entries oldest) order

/-- **Put a key in** as the newest one: what was stored for its id goes, and so does the oldest key
of a full store. -/
def insert (s : KeyStore) (capacity : Nat) (now : Instant) (kid : String) (j : Jwk) : KeyStore :=
  let s := s.erase kid
  let s := makeRoom capacity s.byKid s.order
  { byKid := (kid, ⟨j, now⟩) :: s.byKid, order := s.order ++ [kid] }

end KeyStore

end SigningKeys
