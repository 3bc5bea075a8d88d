import SigningKeys.Scenario

/-!
# Setting a scenario up

* `Scene`: a state, together with the names that the scenario gives to the things in it;
* `Scene.addBucket`, `Scene.addProvider`: one more bucket or provider, unless there is something
  wrong with it;
* `Scenario.scene`: the state before anything is set up.
-/

namespace SigningKeys

open Web

/-- A state and the names of a scenario: where in the state each bucket is, if it could be built,
and how each provider was put together. -/
structure Scene where
  state : State := {}
  buckets : List (Option Nat) := []
  setups : List Setup := []
  /-- How many of the ended calls were shown. -/
  shown : Nat := 0

namespace Scene

/-- Where in the state a bucket is. -/
def bucket? (s : Scene) (b : Nat) : Except Refusal Nat :=
  match (s.buckets[b]?).join with
  | some i => .ok i
  | none => .error (.unavailable "bucket")

/-- What a provider calls, if it is there. -/
def inner? (s : Scene) : Inner → Except Refusal Provider
  | .source i =>
    if i < s.state.sources.length then .ok (.source i) else .error (.unavailable "source")
  | .provider p =>
    match s.state.provider? p with
    | some p => .ok p
    | none => .error (.unavailable "provider")

/-- A fault of a configuration as a reason to refuse. -/
def refuse {α : Type} : Except KeyError α → Except Refusal α
  | .ok a => .ok a
  | .error e => .error (.error e)

/-- The address that a site names. -/
def address : Site → Except Refusal Address
  | .given location => refuse (location.endpoint.map .web)
  | .raw text =>
    match Address.parse text with
    | .ok a => .ok a
    | .error f => .error (.error (.invalidConfiguration f.message))

/-- A change, with the bucket that it names found in the state. -/
def change (s : Scene) : Change → Except Refusal Change
  | .share b => (s.bucket? b).map .share
  | c => .ok c

/-- Put a provider together. What it refers to is looked for from left to right. -/
def assemble (s : Scene) : Setup → Except Refusal (Provider × State)
  | .cached inner limits => do
    let inner ← s.inner? inner
    let (capacity, ttl) := limits.getD (CacheLimits.defaultCapacity, CacheLimits.defaultTtl)
    let limits ← refuse (CacheLimits.check capacity ttl)
    return s.state.addCache inner limits
  | .limited inner bucket => do
    let inner ← s.inner? inner
    let bucket ← s.bucket? bucket
    return (.limited inner bucket, s.state)
  | .remote site timeouts => do
    let address ← address site
    let r ← refuse (Remote.check address timeouts)
    return (.remote r, s.state)
  | .pipeline site changes inner => do
    let address ← address site
    let changes ← changes.mapM s.change
    let inner ← match inner with
      | some i => (s.inner? i).map some
      | none => .ok none
    refuse (s.state.build (Blueprint.changes { address } changes) inner)

/-- Hold one more provider, or none in its place. -/
def hold (s : Scene) (setup : Setup) (state : State) (p : Option Provider) : Scene :=
  { s with state := { state with held := state.held ++ [p] }, setups := s.setups ++ [setup] }

/-- One more provider, or why it could not be put together. -/
def addProvider (s : Scene) (setup : Setup) : Option Refusal × Scene :=
  match s.assemble setup with
  | .ok (p, state) => (none, s.hold setup state (some p))
  | .error r => (some r, s.hold setup s.state none)

/-- One more bucket, or what is wrong with it. -/
def addBucket (s : Scene) (b : Nat × Duration) : Option KeyError × Scene :=
  match TokenBucket.new b.1 b.2 s.state.now with
  | .ok bucket =>
    let (i, state) := s.state.addBucket bucket
    (none, { s with state, buckets := s.buckets ++ [some i] })
  | .error e => (some e, { s with buckets := s.buckets ++ [none] })

/-- One thing after the other, with what each of them answers. -/
def each {α β : Type} (f : Scene → α → β × Scene) : Scene → List α → List β × Scene
  | s, [] => ([], s)
  | s, a :: rest =>
    let (b, s) := f s a
    let (bs, s) := each f s rest
    (b :: bs, s)

end Scene

/-- The sources and the network of a scenario, before anything else. -/
def Scenario.scene (s : Scenario) : Scene :=
  { state := { sources := s.sources, network := s.network } }

end SigningKeys
