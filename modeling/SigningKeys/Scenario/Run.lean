import SigningKeys.Scenario.Scene
import SigningKeys.State.Moves

/-!
# Running a scenario

* `Scene.perform`: one step, and what it answers;
* `Scene.step`: the same, with everything else that the step shows;
* `Scenario.run`: **the whole run**.
-/

namespace SigningKeys

namespace Scene

/-- How a held provider was put together. -/
def setup? (s : Scene) (p : Nat) : Option (Setup × Provider) :=
  (s.setups[p]?).bind fun setup => (s.state.provider? p).map (setup, ·)

/-- A step of which only the state changes. -/
def move (s : Scene) (state : State) (r : Reply) : Reply × Scene := (r, { s with state })

/-- Something that the step refers to is not there. -/
def unavailable (s : Scene) (what : String) : Reply × Scene := (.unavailable what, s)

/-- A call begins: its outcome if it ends at once, or its number. -/
def get (s : Scene) (p : Provider) (kid : String) (delay : Duration) : Reply × Scene :=
  let id := s.state.started
  let state := s.state.startWith p kid delay
  match state.outcome? id with
  | some o => s.move state (.outcome o)
  | none => s.move state (.pending id)

/-- What a provider tells about itself; one that was put together as a pipeline tells nothing. -/
def info? (s : State) : Setup → Provider → Option Info
  | .cached _ _, .cached inner c =>
    (s.caches[c]?).map fun cache =>
      .cached cache.limits.capacity cache.limits.ttl cache.size (s.debug inner)
  | .limited _ _, .limited inner b =>
    (s.buckets[b]?).map fun bucket => .limited bucket.debug (s.debug inner)
  | .remote _ _, .remote r => some (.remote r.url.text)
  | _, _ => none

/-- Fetch the whole key set of a provider that is one. -/
def fetchAll (s : Scene) (p : Nat) : Reply × Scene :=
  match s.setup? p with
  | some (.remote _ _, .remote r) =>
    let (keys, state) := s.state.fetchAll r
    s.move state (.keys keys)
  | _ => s.unavailable "provider"

/-- Call a bucket. -/
def callBucket (s : Scene) (b : Nat) (call : BucketCall) : Reply × Scene :=
  match s.bucket? b with
  | .error _ => s.unavailable "bucket"
  | .ok i =>
    match s.state.buckets[i]? with
    | none => s.unavailable "bucket"
    | some bucket =>
      let (r, bucket) := bucket.perform s.state.now call
      s.move (s.state.setBucket i bucket) (.bucket r)

/-- A source that counts its calls by id. -/
def sample? (s : Scene) (i : Nat) : Option Source :=
  (s.state.sources[i]?).filter fun source =>
    match source.behaviour with
    | .sample _ _ => true
    | .scripted _ => false

/-- **One step.** -/
def perform (s : Scene) : Step → Reply × Scene
  | .get p kid delay =>
    match s.state.provider? p with
    | some p => s.get p kid delay
    | none => s.unavailable "provider"
  | .advance d => s.move (s.state.advance d) .nothing
  | .release i n => s.move (s.state.release i n) .nothing
  | .abort id =>
    match s.state.abort? id with
    | some state => s.move state (.cancelled true)
    | none => (.cancelled false, s)
  | .drop p =>
    match s.state.provider? p with
    | some _ => s.move (s.state.drop p) (.dropped true)
    | none => (.dropped false, s)
  | .fetchAll p => s.fetchAll p
  | .info p =>
    match (s.setup? p).bind fun e => info? s.state e.1 e.2 with
    | some i => (.info i, s)
    | none => s.unavailable "provider"
  | .debug p =>
    match s.state.provider? p with
    | some p => (.text (s.state.debug p), s)
    | none => s.unavailable "provider"
  | .bucket b call => s.callBucket b call
  | .callsFor i kid =>
    match s.sample? i with
    | some source => (.calls (source.callsFor kid), s)
    | none => s.unavailable "source"
  | .hasCalls i n =>
    match s.sample? i with
    | some source => (.reached (n ≤ source.calls), s)
    | none => s.unavailable "source"
  | .metrics => (.readings s.state.meter.readings, s)

/-- How many keys each cache stores that was put together as such and is still held. -/
def entries (s : Scene) : List Nat :=
  (List.range s.setups.length).filterMap fun p =>
    match s.setup? p with
    | some (.cached _ _, .cached _ c) => (s.state.caches[c]?).map Cache.size
    | _ => none

/-- The calls that ended since they were last shown, except the one that this step began, by
number. -/
def newlyEnded (s : Scene) (state : State) : List (Nat × Outcome) :=
  ((state.ended.drop s.shown).filter (·.1 < s.state.started)).mergeSort fun a b => a.1 ≤ b.1

/-- **One step, and everything that it shows.** -/
def step (s : Scene) (step : Step) : StepReport × Scene :=
  let (reply, t) := s.perform step
  ({ reply, calls := t.state.sources.map (·.calls), entries := t.entries,
     ended := s.newlyEnded t.state },
    { t with shown := t.state.ended.length })

end Scene

/-- **The run of a scenario**: buckets, providers, and then the steps. -/
def Scenario.run (s : Scenario) : Report :=
  let (buckets, scene) := s.scene.each Scene.addBucket s.buckets
  let (setups, scene) := scene.each Scene.addProvider s.setups
  let (steps, scene) := scene.each Scene.step s.steps
  { buckets, setups, steps
    readings := scene.state.meter.readings
    requests := scene.state.requests.map Web.Url.requestText }

end SigningKeys
