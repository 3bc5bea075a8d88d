import SigningKeys.KeyError

/-!
# Token buckets

A bucket starts full and regains one token every `interval`, up to `capacity`. Tokens are credited
when the bucket is looked at: `Level.refill` turns the time since the last credit into whole tokens
and carries the rest over to the next look.

* `Rate`, `Level`, `TokenBucket`: the fixed and the changing part of a bucket;
* `Level.refill`, `Level.wait`: the two computations; either is `none` when a sum of durations is
  too long to be one;
* `consume`, `timeUntil`, `acquire`, `availableNow`: the calls, each with its answer and the bucket
  afterwards.

A call with a count outside `[1, capacity]` leaves the bucket as it was, not even refilled. A call
stopped by an overflow keeps the refill made before it and marks the bucket as interrupted.
-/

namespace SigningKeys

/-- How many tokens a bucket holds, and the time in which it regains one. -/
structure Rate where
  capacity : Nat
  interval : Duration
  capacity_pos : 0 < capacity
  interval_pos : 0 < interval.nanos

namespace Rate

/-- The rate with the given numbers, or which of them is empty. -/
def check (capacity : Nat) (interval : Duration) : Except KeyError Rate :=
  if hc : 0 < capacity then
    if hi : 0 < interval.nanos then .ok ⟨capacity, interval, hc, hi⟩
    else .error (.invalidConfiguration "Invalid bucket refill rate.")
  else .error (.invalidConfiguration "Invalid bucket size.")

/-- How many tokens a bucket holds when nothing is said about it. -/
def defaultCapacity : Nat := 10

/-- One minute, in which a token is regained when nothing is said about it. -/
def defaultInterval : Duration := Duration.ofSeconds 60

end Rate

/-- The tokens at hand, the instant of the last credit, and the time that was carried over it. -/
structure Level where
  available : Nat
  lastRefill : Instant
  carry : Duration
deriving DecidableEq

/-- Why a call on a bucket gives no answer. -/
inductive BucketFault where
  /-- The count is zero or more than the bucket can hold. -/
  | badCount (count capacity : Nat)
  /-- A sum of durations is longer than any duration. -/
  | overflow
deriving DecidableEq

/-- The text of an overflow. -/
def overflowText : String := "overflow when adding durations"

/-- The complaint about a count that no bucket of this capacity can serve. -/
def badCountText (count capacity : Nat) : String :=
  "Cannot consume " ++ toString count ++ " tokens when the bucket size is " ++
    toString capacity ++ "!"

/-- The longest time that is carried over, in nanoseconds. -/
def maxCarry : Nat := 18446744073709551615

/-- The largest number of further intervals that a wait counts. -/
def maxIntervals : Nat := 4294967295

namespace Level

/-- The time that counts towards the next token. -/
def progress (l : Level) (now : Instant) : Option Duration :=
  Duration.ofNanos? (elapsed now l.lastRefill + l.carry.nanos)

/-- **Credit** the whole tokens that `progress` is worth, as far as there is room, and carry the
rest. Less than one interval changes nothing. -/
def refill (r : Rate) (l : Level) (now : Instant) : Option Level :=
  (l.progress now).map fun p =>
    if p.nanos < r.interval.nanos then l
    else
      { available := l.available + min (p.nanos / r.interval.nanos) (r.capacity - l.available)
        lastRefill := now
        carry := Duration.ofNanosCapped (min (p.nanos % r.interval.nanos) maxCarry) }

/-- **The wait for `count` tokens** at a refilled level: none when they are there; otherwise what is
missing to the next token, and one interval for every token beyond that one. -/
def wait (r : Rate) (l : Level) (now : Instant) (count : Nat) : Option Duration :=
  if count ≤ l.available then some Duration.zero
  else
    (l.progress now).bind fun p =>
      let first := r.interval.sub p
      let further := count - l.available - 1
      if further = 0 then some first
      else first.add? (r.interval.scale (min further maxIntervals))

/-- The level with `count` tokens less. -/
def take (l : Level) (count : Nat) : Level := { l with available := l.available - count }

end Level

/-- A bucket. `interrupted` records that a call was stopped by an overflow. -/
structure TokenBucket where
  rate : Rate
  level : Level
  interrupted : Bool := false

namespace TokenBucket

/-- A full bucket. -/
def full (r : Rate) (now : Instant) : TokenBucket :=
  { rate := r, level := ⟨r.capacity, now, Duration.zero⟩ }

/-- A full bucket, or what is wrong with its capacity or interval. -/
def new (capacity : Nat) (interval : Duration) (now : Instant) : Except KeyError TokenBucket :=
  (Rate.check capacity interval).map (full · now)

/-- Whether the bucket could ever serve `count` tokens at once. -/
def serves (b : TokenBucket) (count : Nat) : Bool := 1 ≤ count && count ≤ b.rate.capacity

/-- The bucket at another level. -/
def withLevel (b : TokenBucket) (l : Level) : TokenBucket := { b with level := l }

/-- The bucket after a call that an overflow stopped. -/
def interrupt (b : TokenBucket) : TokenBucket := { b with interrupted := true }

/-- Refill the bucket and go on with `k`; an overflow of the refill ends the call. -/
def refilled {α : Type} (b : TokenBucket) (now : Instant)
    (k : TokenBucket → Except BucketFault α × TokenBucket) : Except BucketFault α × TokenBucket :=
  match b.level.refill b.rate now with
  | none => (.error .overflow, b.interrupt)
  | some l => k (b.withLevel l)

/-- Refuse a count that no state of the bucket could serve; otherwise refill and go on. -/
def checked {α : Type} (b : TokenBucket) (now : Instant) (count : Nat)
    (k : TokenBucket → Except BucketFault α × TokenBucket) : Except BucketFault α × TokenBucket :=
  if b.serves count then b.refilled now k
  else (.error (.badCount count b.rate.capacity), b)

/-- Take `count` tokens if they are all there. -/
def consume (b : TokenBucket) (now : Instant) (count : Nat) :
    Except BucketFault Bool × TokenBucket :=
  b.checked now count fun b =>
    if count ≤ b.level.available then (.ok true, b.withLevel (b.level.take count))
    else (.ok false, b)

/-- The time until `count` tokens can be taken. -/
def timeUntil (b : TokenBucket) (now : Instant) (count : Nat) :
    Except BucketFault Duration × TokenBucket :=
  b.checked now count fun b =>
    match b.level.wait b.rate now count with
    | some w => (.ok w, b)
    | none => (.error .overflow, b.interrupt)

/-- Take `count` tokens, or tell how long they are away: `none` when they were taken. -/
def acquire (b : TokenBucket) (now : Instant) (count : Nat) :
    Except BucketFault (Option Duration) × TokenBucket :=
  b.checked now count fun b =>
    if count ≤ b.level.available then (.ok none, b.withLevel (b.level.take count))
    else match b.level.wait b.rate now count with
      | some w => (.ok (some w), b)
      | none => (.error .overflow, b.interrupt)

/-- The tokens at hand after the refill. -/
def availableNow (b : TokenBucket) (now : Instant) : Except BucketFault Nat × TokenBucket :=
  b.refilled now fun b => (.ok b.level.available, b)

/-- The bucket as a term; the instant of the last credit is left out. -/
def debug (b : TokenBucket) : String :=
  "TokenBucket \x7b capacity: " ++ toString b.rate.capacity ++
    ", refill_interval: " ++ b.rate.interval.text ++
    ", state: Mutex \x7b data: BucketState \x7b available: " ++ toString b.level.available ++
    ", last_refill: _, carry: " ++ b.level.carry.text ++ " \x7d, poisoned: " ++
    toString b.interrupted ++ ", .. \x7d \x7d"

end TokenBucket

end SigningKeys
