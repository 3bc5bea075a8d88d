import SigningKeys.State.Turn

/-!
# Moves

What the user of a run can do. A call that begins and a gate that opens make tasks ready; `start`,
`release` and `abort?` also let the ready tasks take their turns.

* `State.spawn`, `State.start`: a call begins;
* `State.advance`: time passes;
* `State.openGate`, `State.release`: the gate of a source lets calls pass;
* `State.cancel?`, `State.abort?`: a call that waits is given up. The fetch that it waited for goes
  on;
* `State.drop`: a provider is let go. Calls and other providers that use it keep it.
-/

namespace SigningKeys

namespace State

/-- A call of a provider begins. -/
def spawn (s : State) (p : Provider) (kid : String) : State :=
  { s with started := s.started + 1 }.enqueue ⟨.caller s.started, kid, p⟩ .calling

/-- A call of a provider begins, and all tasks take their turns. -/
def start (s : State) (p : Provider) (kid : String) : State := (s.spawn p kid).settle

/-- Time passes. -/
def advance (s : State) (d : Duration) : State := { s with now := s.now + d.nanos }

/-- The time that was to pass during a call passes now, if it has not yet. -/
def catchUp (s : State) : State := { s.advance s.delay with delay := Duration.zero }

/-- A call begins, and time passes: while an answer of the network is held, or after the call. -/
def startWith (s : State) (p : Provider) (kid : String) (delay : Duration) : State :=
  ({ s with delay }.start p kid).catchUp

/-- The gate of a source opens once: for the call that has waited longest, or for the next one. -/
def openGate (s : State) (i : Nat) : State :=
  match s.parked.find? fun e => (e.2.callAt? i).isSome with
  | some (t, .gate _ n) =>
    { s with parked := s.parked.erase (t, .gate i n) }.enqueue t (.admitted i n)
  | _ =>
    match s.sources[i]? with
    | some source => s.setSource i source.putPermit
    | none => s

/-- The gate of a source opens `n` times, and all tasks take their turns. -/
def release (s : State) (i n : Nat) : State := (n.repeat (·.openGate i) s).settle

/-- The parked task of a call. -/
def parkedCall? (s : State) (id : Nat) : Option (Task × Spot) :=
  s.parked.find? fun e => e.1.role == .caller id

/-- Leave a spot: a place in a fetch is free again. -/
def leave (s : State) (kid : String) : Spot → State
  | .gate _ _ => s
  | .flight c place =>
    match s.caches[c]? with
    | some cache => s.setCache c (cache.leave kid place)
    | none => s

/-- A call that waits is given up; `none` if no such call waits. -/
def cancel? (s : State) (id : Nat) : Option State :=
  (s.parkedCall? id).map fun (t, spot) =>
    { s with parked := s.parked.erase (t, spot) }.leave t.kid spot

/-- A call that waits is given up, and all tasks take their turns. -/
def abort? (s : State) (id : Nat) : Option State := (s.cancel? id).map settle

/-- A provider is let go. -/
def drop (s : State) (p : Nat) : State := { s with held := s.held.set p none }

/-- How a call ended, if it did. -/
def outcome? (s : State) (id : Nat) : Option Outcome := s.ended.lookup id

end State

end SigningKeys
