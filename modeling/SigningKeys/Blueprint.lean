import SigningKeys.State

/-!
# Blueprints of pipelines

A pipeline is a key set on the network, or another provider in its place, behind a bucket and a
cache. Both layers are optional, and the cache is always the outer one, so that what it answers
costs no token.

* `Blueprint`, `Change`: what a user asks for, and how the user changes it;
* `Blueprint.layers`: the layers that are asked for, if their parameters allow it;
* `State.install`, `State.build`: the pipeline, with a bucket and a cache of its own.
-/

namespace SigningKeys

open Web

/-- Which bucket limits a pipeline. -/
inductive BucketChoice where
  /-- A bucket of its own. -/
  | own (capacity : Nat) (interval : Duration)
  /-- A bucket that there already is. -/
  | shared (bucket : Nat)
deriving DecidableEq

/-- What a user asks for. -/
structure Blueprint where
  address : Address
  timeouts : Timeouts := {}
  cached : Bool := true
  capacity : Nat := CacheLimits.defaultCapacity
  ttl : Duration := CacheLimits.defaultTtl
  limited : Bool := true
  bucket : BucketChoice := .own Rate.defaultCapacity Rate.defaultInterval
deriving DecidableEq

/-- A change of a blueprint. To give the parameters of a layer is to ask for the layer. -/
inductive Change where
  | cached (enabled : Bool)
  | cache (capacity : Nat) (ttl : Duration)
  | limited (enabled : Bool)
  | limit (capacity : Nat) (interval : Duration)
  | share (bucket : Nat)
  | timeouts (t : Timeouts)
deriving DecidableEq

/-- The bucket of a pipeline: one of its own with a valid rate, or one that there already is. -/
inductive BucketLayer where
  | own (r : Rate)
  | shared (bucket : Nat)

/-- The layers of a pipeline. -/
structure Layers where
  bucket : Option BucketLayer
  cache : Option CacheLimits

namespace Blueprint

/-- The blueprint after a change. -/
def change (b : Blueprint) : Change → Blueprint
  | .cached enabled => { b with cached := enabled }
  | .cache capacity ttl => { b with cached := true, capacity, ttl }
  | .limited enabled => { b with limited := enabled }
  | .limit capacity interval => { b with limited := true, bucket := .own capacity interval }
  | .share bucket => { b with limited := true, bucket := .shared bucket }
  | .timeouts t => { b with timeouts := t }

/-- The blueprint after changes. -/
def changes (b : Blueprint) (cs : List Change) : Blueprint := cs.foldl change b

/-- The key set on the network that is asked for. -/
def remote (b : Blueprint) : Except KeyError Remote := Remote.check b.address b.timeouts

/-- The bucket that is asked for. -/
def bucketLayer (b : Blueprint) : Except KeyError BucketLayer :=
  match b.bucket with
  | .own capacity interval => (Rate.check capacity interval).map .own
  | .shared bucket => .ok (.shared bucket)

/-- **The layers that are asked for.** What is wrong with the bucket comes before what is wrong with
the cache, and the parameters of a layer that is not asked for do not matter. -/
def layers (b : Blueprint) : Except KeyError Layers := do
  let bucket ← if b.limited then b.bucketLayer.map some else .ok none
  let cache ← if b.cached then (CacheLimits.check b.capacity b.ttl).map some else .ok none
  return { bucket, cache }

end Blueprint

namespace State

/-- Add a bucket. -/
def addBucket (s : State) (b : TokenBucket) : Nat × State :=
  (s.buckets.length, { s with buckets := s.buckets ++ [b] })

/-- Put a cache in front of a provider. -/
def addCache (s : State) (inner : Provider) (l : CacheLimits) : Provider × State :=
  (.cached inner s.caches.length, { s with caches := s.caches ++ [{ limits := l }] })

/-- Put the layer of a bucket in front of a provider. -/
def installBucket (s : State) (inner : Provider) : Option BucketLayer → Provider × State
  | none => (inner, s)
  | some (.shared bucket) => (.limited inner bucket, s)
  | some (.own r) =>
    let (bucket, s) := s.addBucket (.full r s.now)
    (.limited inner bucket, s)

/-- Put layers in front of a provider. -/
def install (s : State) (base : Provider) (l : Layers) : Provider × State :=
  let (p, s) := s.installBucket base l.bucket
  match l.cache with
  | none => (p, s)
  | some limits => s.addCache p limits

/-- **The pipeline of a blueprint**, on top of `source` if one is given. -/
def build (s : State) (b : Blueprint) (source : Option Provider) :
    Except KeyError (Provider × State) := do
  let base ← match source with
    | some p => .ok p
    | none => b.remote.map .remote
  let layers ← b.layers
  return s.install base layers

end State

end SigningKeys
