import SigningKeys.TokenBucket

/-!
# Runs of a bucket

* `BucketCall`, `BucketReply`: the calls of a bucket and what they answer;
* `TokenBucket.perform`: one call;
* `TokenBucket.run`: calls and the passing of time, one after the other.
-/

namespace SigningKeys

/-- A call of a bucket. -/
inductive BucketCall where
  | consume (count : Nat)
  | wait (count : Nat)
  | acquire (count : Nat)
  | available
  | debug
deriving DecidableEq

/-- What a call of a bucket answers. -/
inductive BucketReply where
  | granted (yes : Bool)
  | wait (d : Duration)
  /-- The tokens were taken, or are as far away as it says. -/
  | acquired (wait : Option Duration)
  | available (count : Nat)
  | text (t : String)
  | fault (f : BucketFault)
deriving DecidableEq

/-- A step of a run: time passes, or the bucket is called. -/
inductive BucketStep where
  | advance (d : Duration)
  | call (c : BucketCall)
deriving DecidableEq

namespace TokenBucket

/-- The reply that stands for an answer. -/
def reply {α : Type} (f : α → BucketReply) (r : Except BucketFault α × TokenBucket) :
    BucketReply × TokenBucket :=
  match r with
  | (.ok a, b) => (f a, b)
  | (.error e, b) => (.fault e, b)

/-- **One call of a bucket.** -/
def perform (b : TokenBucket) (now : Instant) : BucketCall → BucketReply × TokenBucket
  | .consume n => reply .granted (b.consume now n)
  | .wait n => reply .wait (b.timeUntil now n)
  | .acquire n => reply .acquired (b.acquire now n)
  | .available => reply .available (b.availableNow now)
  | .debug => (.text b.debug, b)

/-- **A run of a bucket** from an instant on: the reply of each step, none when time passes, and the
bucket afterwards. -/
def run (b : TokenBucket) (now : Instant) :
    List BucketStep → List (Option BucketReply) × TokenBucket
  | [] => ([], b)
  | .advance d :: steps =>
    let (replies, b) := b.run (now + d.nanos) steps
    (none :: replies, b)
  | .call c :: steps =>
    let (reply, b) := b.perform now c
    let (replies, b) := b.run now steps
    (some reply :: replies, b)

end TokenBucket

end SigningKeys
