import SigningKeys.State

/-!
# Calling a provider

A call goes through the layers of its provider from the outside in, until it ends or has to wait. A
cache that misses a key makes a task of its own for the fetch; the call waits for that task like any
other call for the same key.

A call that comes to a key set on the network only begins to fetch it. The fetch ends in a later
turn, and is counted then; one that is given up before is not counted.

* `State.call`: one turn of a call;
* `State.receive`, `State.receiveKey`: a fetch over the network ends.
-/

namespace SigningKeys

/-- How far a call comes in one turn. -/
inductive Reach where
  | ended (o : Outcome)
  | waits (spot : Spot)
  /-- A fetch over the network begins. -/
  | fetches (x : Exchange)

/-- The outcome of a call to something that is not there. -/
def Reach.absent (what : String) : Reach :=
  .ended (.error (.invalidConfiguration ("There is no such " ++ what)))

namespace State

/-- A call reaches a source. -/
def callSource (s : State) (kid : String) (i : Nat) : Reach × State :=
  match s.sources[i]? with
  | none => (.absent "source", s)
  | some source =>
    let (n, passes, source') := source.arrive kid
    let s := s.setSource i source'
    if passes then (.ended (source.outcome kid n), s) else (.waits (.gate i n), s)

/-! ## Fetches over the network -/

/-- What a fetch over the network leaves behind: its requests, its count, and the time that passed
while an answer was held. -/
def noteFetch (s : State) (f : Fetch) : State :=
  let error := match f.result with
    | .ok _ => none
    | .error e => some e.kind
  let s := { s with requests := s.requests ++ f.requests, meter := s.meter.recordFetch error }
  if f.waited then { s with now := s.now + s.delay.nanos, delay := Duration.zero } else s

/-- How long a fetch that ends now has waited for an answer: the time that has passed since it began,
and the time that passes now if the answer is held. -/
def wait (s : State) (x : Exchange) (answer : Response) : Duration :=
  .ofNanosCapped (elapsed s.now x.since + if answer.held then s.delay.nanos else 0)

/-- **A fetch of a key set ends**, and is counted. Its requests are numbered now: the network
answers fetches in the order in which they end. -/
def receive (s : State) (x : Exchange) : Except KeyError (List Jwk) × State :=
  let f := x.remote.fetch s.network (s.wait x) s.requests.length
  (f.result, s.noteFetch f)

/-- **A fetch ends that was begun for the key of an id.** -/
def receiveKey (s : State) (kid : String) (x : Exchange) : Outcome × State :=
  let (keys, s) := s.receive x
  (.ofExcept (keys.bind (x.remote.select kid)), s)

/-- A fetch of the key set of an address, from its beginning to its end. -/
def fetchAll (s : State) (r : Remote) : Except KeyError (List Jwk) × State :=
  s.receive ⟨r, s.now⟩

/-! ## Calls -/

/-- A call misses a key. It waits for the fetch that is under way, or for a new one.

The look into the cache and the look for a fetch that is under way are parts of one turn. Nothing
comes between them, so a key that was missed is not stored before the second look, and the cache has
no need to look once more while it holds the lock of the fetches. -/
def await (s : State) (kid : String) (inner : Provider) (c : Nat) (cache : Cache) :
    Reach × State :=
  match cache.board? kid with
  | some (place, cache) => (.waits (.flight c place), (s.setCache c cache).record .coalesced)
  | none =>
    let s := (s.setCache c (cache.depart kid)).record (.lookup .miss)
    (.waits (.flight c 0), s.enqueue ⟨.fetch c, kid, inner⟩ .calling)

/-- **One turn of a call** for the key of an id. -/
def call (kid : String) : Provider → State → Reach × State
  | .source i, s => s.callSource kid i
  | .remote r, s => (.fetches ⟨r, s.now⟩, s)
  | .limited inner b, s =>
    match s.buckets[b]? with
    | none => (.absent "bucket", s)
    | some bucket =>
      let (answer, bucket) := bucket.acquire s.now 1
      let s := s.setBucket b bucket
      match answer with
      | .ok none => call kid inner (s.record (.decision true))
      | .ok (some wait) => (.ended (.error (.rateLimited wait)), s.record (.decision false))
      | .error .overflow => (.ended (.panic overflowText), s)
      | .error (.badCount n c) =>
        (.ended (.error (.invalidConfiguration (badCountText n c))), s)
  | .cached inner c, s =>
    match s.caches[c]? with
    | none => (.absent "cache", s)
    | some cache =>
      match cache.lookup s.now kid with
      | (.hit j, _) => (.ended (.key j), s.record (.lookup .hit))
      | (.absent, _) => s.await kid inner c cache
      | (.expired, cache) =>
        ((s.record (.lookup .expired)).gauge cache.size).await kid inner c cache

end State

end SigningKeys
