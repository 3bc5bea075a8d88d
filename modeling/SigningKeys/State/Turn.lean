import SigningKeys.State.Call

/-!
# Turns

The ready tasks take turns, the one that has waited longest first, until all that are left are
parked.

* `State.finish`: a task ends. The fetch of a cache that is still in reach stores its key, is struck
  from the cache, and all that wait for it are told, in the order of their places. All of this is
  one turn: no other task finds the key stored and the fetch not yet struck;
* `State.turn`: one turn of one task;
* `State.settle`: turns until no task is ready.
-/

namespace SigningKeys

namespace Spot

/-- The place of a task that waits for a fetch of a cache. -/
def placeIn? (cache : Nat) : Spot → Option Nat
  | .flight c place => if c = cache then some place else none
  | .gate _ _ => none

/-- The number of a call that waits at the gate of a source. -/
def callAt? (source : Nat) : Spot → Option Nat
  | .gate i n => if i = source then some n else none
  | .flight _ _ => none

end Spot

namespace State

/-- The place of a parked task, if it waits for the fetch of a key by a cache. -/
def placeFor? (cache : Nat) (kid : String) (e : Task × Spot) : Option Nat :=
  if e.1.kid = kid then e.2.placeIn? cache else none

/-- Put a task among others in the order of their places. -/
def seat (e : Nat × Task) : List (Nat × Task) → List (Nat × Task)
  | [] => [e]
  | f :: rest => if e.1 < f.1 then e :: f :: rest else f :: seat e rest

/-- The tasks that wait for the fetch of a key by a cache, in the order of their places. -/
def waiting (s : State) (cache : Nat) (kid : String) : List Task :=
  let seated := s.parked.filterMap fun e => (placeFor? cache kid e).map (·, e.1)
  (seated.foldr seat []).map (·.2)

/-- Tell the result of a fetch to all that wait for it. -/
def tell (s : State) (cache : Nat) (kid : String) (result : Except KeyError Jwk) : State :=
  { s with
    ready := s.ready ++ (s.waiting cache kid).map (·, .told result)
    parked := s.parked.filter fun e => (placeFor? cache kid e).isNone }

/-- Store the key that a fetch brought, and tell the gauge. A failure stores nothing. -/
def store (s : State) (c : Nat) (kid : String) (o : Outcome) : State :=
  match s.caches[c]?, o.key? with
  | some cache, some j =>
    let cache := cache.insert s.now kid j
    (s.setCache c cache).gauge cache.size
  | _, _ => s

/-- Strike the fetch of a key from its cache. -/
def land (s : State) (c : Nat) (kid : String) : State :=
  match s.caches[c]? with
  | some cache => s.setCache c (cache.land kid)
  | none => s

/-- **A task ends.** -/
def finish (s : State) (t : Task) (o : Outcome) : State :=
  match t.role with
  | .caller id => { s with ended := s.ended ++ [(id, o)] }
  | .fetch c =>
    if s.holds c then ((s.store c t.kid o).land c t.kid).tell c t.kid o.share else s

/-- One turn of a task that is not among the ready ones. -/
def advanceTask (s : State) (t : Task) : Stage → State
  | .calling =>
    match call t.kid t.provider s with
    | (.ended o, s) => s.finish t o
    | (.waits spot, s) => s.park t spot
    | (.fetches x, s) => s.enqueue t (.fetching x)
  | .admitted i n =>
    match s.sources[i]? with
    | some source => s.finish t (source.outcome t.kid n)
    | none => s
  | .fetching x =>
    let (o, s) := s.receiveKey t.kid x
    s.finish t o
  | .told result => s.finish t (.ofExcept result)

/-- **One turn** of the task that has been ready for the longest time. -/
def turn (s : State) : State :=
  match s.ready with
  | [] => s
  | (t, stage) :: rest => { s with ready := rest }.advanceTask t stage

/-- How many turns a ready task can cause at most. -/
def weight : Task × Stage → Nat
  | (t, .calling) => 2 * t.provider.height + 2
  | _ => 1

/-- How many turns all tasks can take at most before they are parked. -/
def work (s : State) : Nat := s.ready.foldr (weight · + ·) s.parked.length

/-- At most `n` turns. -/
def turns : Nat → State → State
  | 0, s => s
  | n + 1, s => if s.ready.isEmpty then s else turns n s.turn

/-- **Turns until no task is ready.** -/
def settle (s : State) : State := turns s.work s

end State

end SigningKeys
