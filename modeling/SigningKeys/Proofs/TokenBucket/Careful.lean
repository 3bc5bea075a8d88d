import SigningKeys.Proofs.Except
import SigningKeys.TokenBucket.Run

/-!
# Calls that check every operation

A careful bucket computes what a bucket computes, but stops where more is subtracted than there is
and where zero divides. A bucket that holds no more than its capacity never comes to such a place,
so its plain operations are those of whole numbers.

* `Slip`, `minus`, `quotient`, `remainder`: the operations that can go wrong, and how;
* `Level.refillCarefully`, `Level.waitCarefully`, `Level.takeCarefully`, and the calls of a bucket
  made of them, up to `TokenBucket.performCarefully`;
* **`performCarefully_eq`**: a careful call is a call.
-/

namespace SigningKeys

/-- How an operation on whole numbers goes wrong. -/
inductive Slip where
  | underflow
  | divisionByZero
deriving DecidableEq

/-- A difference, if there is one. -/
def minus (a b : Nat) : Except Slip Nat := if b ≤ a then .ok (a - b) else .error .underflow

/-- A quotient, if there is one. -/
def quotient (a b : Nat) : Except Slip Nat := if b = 0 then .error .divisionByZero else .ok (a / b)

/-- A remainder, if there is one. -/
def remainder (a b : Nat) : Except Slip Nat := if b = 0 then .error .divisionByZero else .ok (a % b)

theorem minus_of_le {a b : Nat} (h : b ≤ a) : minus a b = .ok (a - b) := if_pos h

theorem quotient_of_pos {a b : Nat} (h : 0 < b) : quotient a b = .ok (a / b) :=
  if_neg (Nat.ne_of_gt h)

theorem remainder_of_pos {a b : Nat} (h : 0 < b) : remainder a b = .ok (a % b) :=
  if_neg (Nat.ne_of_gt h)

/-! ## Levels -/

namespace Level

/-- Credit the whole tokens that `progress` is worth, as far as there is room. -/
def refillCarefully (r : Rate) (l : Level) (now : Instant) : Except Slip (Option Level) :=
  match l.progress now with
  | none => .ok none
  | some p =>
    if p.nanos < r.interval.nanos then .ok (some l)
    else do
      let tokens ← quotient p.nanos r.interval.nanos
      let rest ← remainder p.nanos r.interval.nanos
      let room ← minus r.capacity l.available
      .ok (some
        { available := l.available + min tokens room
          lastRefill := now
          carry := Duration.ofNanosCapped (min rest maxCarry) })

/-- The wait for `count` tokens at a refilled level. -/
def waitCarefully (r : Rate) (l : Level) (now : Instant) (count : Nat) :
    Except Slip (Option Duration) :=
  if count ≤ l.available then .ok (some Duration.zero)
  else
    match l.progress now with
    | none => .ok none
    | some p => do
      let first := r.interval.sub p
      let missing ← minus count l.available
      let further ← minus missing 1
      .ok (if further = 0 then some first
        else first.add? (r.interval.scale (min further maxIntervals)))

/-- The level with `count` tokens less. -/
def takeCarefully (l : Level) (count : Nat) : Except Slip Level :=
  (minus l.available count).map fun available => { l with available }

variable {r : Rate} {l : Level} {now : Instant} {count : Nat}

/-- There is room for what is missing to the capacity. -/
theorem refillCarefully_eq (h : l.available ≤ r.capacity) :
    l.refillCarefully r now = .ok (l.refill r now) := by
  rw [refillCarefully, refill]
  cases l.progress now with
  | none => rfl
  | some p =>
    dsimp only [Option.map_some]
    split
    · rfl
    · rw [quotient_of_pos r.interval_pos, remainder_of_pos r.interval_pos, minus_of_le h]
      rfl

/-- What is asked for beyond the tokens that there are is at least one token. -/
theorem waitCarefully_eq : l.waitCarefully r now count = .ok (l.wait r now count) := by
  rw [waitCarefully, wait]
  split
  · rfl
  · rename_i hlack
    have hmissing : 1 ≤ count - l.available := Nat.sub_pos_of_lt (Nat.lt_of_not_le hlack)
    cases l.progress now with
    | none => rfl
    | some p =>
      dsimp only [Option.bind_some]
      rw [minus_of_le (Nat.le_of_lt (Nat.lt_of_not_le hlack))]
      change (minus (count - l.available) 1 >>= _) = _
      rw [minus_of_le hmissing]
      rfl

/-- What is taken is there. -/
theorem takeCarefully_eq (h : count ≤ l.available) :
    l.takeCarefully count = .ok (l.take count) := by
  rw [takeCarefully, minus_of_le h]
  rfl

end Level

/-! ## Calls -/

namespace TokenBucket

/-- An answer, and the bucket afterwards. -/
abbrev Answered (α : Type) : Type := Except BucketFault α × TokenBucket

section

variable {α : Type}

/-- Refill the bucket and go on with `k`; an overflow of the refill ends the call. -/
def refilledCarefully (b : TokenBucket) (now : Instant)
    (k : TokenBucket → Except Slip (Answered α)) : Except Slip (Answered α) := do
  match ← b.level.refillCarefully b.rate now with
  | none => .ok (.error .overflow, b.interrupt)
  | some l => k (b.withLevel l)

/-- Refuse a count that no state of the bucket could serve; otherwise refill and go on. -/
def checkedCarefully (b : TokenBucket) (now : Instant) (count : Nat)
    (k : TokenBucket → Except Slip (Answered α)) : Except Slip (Answered α) :=
  if b.serves count then b.refilledCarefully now k
  else .ok (.error (.badCount count b.rate.capacity), b)

/-- Take `count` tokens if they are all there, and go on otherwise. -/
def takenCarefully (b : TokenBucket) (count : Nat) (granted : α)
    (k : Except Slip (Answered α)) : Except Slip (Answered α) :=
  if count ≤ b.level.available then
    (b.level.takeCarefully count).map fun l => (.ok granted, b.withLevel l)
  else k

/-- Tell the wait for `count` tokens. -/
def toldCarefully (b : TokenBucket) (now : Instant) (count : Nat) (answer : Duration → α) :
    Except Slip (Answered α) := do
  match ← b.level.waitCarefully b.rate now count with
  | some w => .ok (.ok (answer w), b)
  | none => .ok (.error .overflow, b.interrupt)

end

/-- Take `count` tokens if they are all there. -/
def consumeCarefully (b : TokenBucket) (now : Instant) (count : Nat) :
    Except Slip (Answered Bool) :=
  b.checkedCarefully now count fun b => b.takenCarefully count true (.ok (.ok false, b))

/-- The time until `count` tokens can be taken. -/
def timeUntilCarefully (b : TokenBucket) (now : Instant) (count : Nat) :
    Except Slip (Answered Duration) :=
  b.checkedCarefully now count fun b => b.toldCarefully now count id

/-- Take `count` tokens, or tell how long they are away. -/
def acquireCarefully (b : TokenBucket) (now : Instant) (count : Nat) :
    Except Slip (Answered (Option Duration)) :=
  b.checkedCarefully now count fun b =>
    b.takenCarefully count none (b.toldCarefully now count some)

/-- The tokens at hand after the refill. -/
def availableCarefully (b : TokenBucket) (now : Instant) : Except Slip (Answered Nat) :=
  b.refilledCarefully now fun b => .ok (.ok b.level.available, b)

/-- **One careful call of a bucket.** -/
def performCarefully (b : TokenBucket) (now : Instant) :
    BucketCall → Except Slip (BucketReply × TokenBucket)
  | .consume n => (b.consumeCarefully now n).map (reply .granted)
  | .wait n => (b.timeUntilCarefully now n).map (reply .wait)
  | .acquire n => (b.acquireCarefully now n).map (reply .acquired)
  | .available => (b.availableCarefully now).map (reply .available)
  | .debug => .ok (.text b.debug, b)

section

variable {α : Type} {b : TokenBucket} {now : Instant} {count : Nat}

theorem refilledCarefully_eq {k : TokenBucket → Answered α}
    {k' : TokenBucket → Except Slip (Answered α)} (h : b.level.available ≤ b.rate.capacity)
    (hk : ∀ b, k' b = .ok (k b)) : b.refilledCarefully now k' = .ok (b.refilled now k) := by
  rw [refilledCarefully, refilled, Level.refillCarefully_eq h]
  cases b.level.refill b.rate now with
  | none => rfl
  | some l => exact hk (b.withLevel l)

theorem checkedCarefully_eq {k : TokenBucket → Answered α}
    {k' : TokenBucket → Except Slip (Answered α)} (h : b.level.available ≤ b.rate.capacity)
    (hk : ∀ b, k' b = .ok (k b)) :
    b.checkedCarefully now count k' = .ok (b.checked now count k) := by
  rw [checkedCarefully, checked]
  split
  · exact refilledCarefully_eq h hk
  · rfl

theorem takenCarefully_eq {granted : α} {r : Answered α} {k : Except Slip (Answered α)}
    (hk : k = .ok r) : b.takenCarefully count granted k =
      .ok (if count ≤ b.level.available then (.ok granted, b.withLevel (b.level.take count))
        else r) := by
  rw [takenCarefully]
  split
  · rename_i hle
    rw [Level.takeCarefully_eq hle]
    rfl
  · exact hk

theorem toldCarefully_eq {answer : Duration → α} : b.toldCarefully now count answer =
    .ok (match b.level.wait b.rate now count with
      | some w => (.ok (answer w), b)
      | none => (.error .overflow, b.interrupt)) := by
  rw [toldCarefully, Level.waitCarefully_eq]
  cases b.level.wait b.rate now count <;> rfl

/-- **A careful call is a call**: nothing goes wrong in a bucket that is not overfull. -/
theorem performCarefully_eq (h : b.level.available ≤ b.rate.capacity) (c : BucketCall) :
    b.performCarefully now c = .ok (b.perform now c) := by
  cases c with
  | consume n =>
    have hcall : b.consumeCarefully now n = .ok (b.consume now n) :=
      checkedCarefully_eq h fun b => takenCarefully_eq rfl
    rw [performCarefully, hcall]
    rfl
  | wait n =>
    have hcall : b.timeUntilCarefully now n = .ok (b.timeUntil now n) :=
      checkedCarefully_eq h fun b => toldCarefully_eq
    rw [performCarefully, hcall]
    rfl
  | acquire n =>
    have hcall : b.acquireCarefully now n = .ok (b.acquire now n) :=
      checkedCarefully_eq h fun b => takenCarefully_eq toldCarefully_eq
    rw [performCarefully, hcall]
    rfl
  | available =>
    have hcall : b.availableCarefully now = .ok (b.availableNow now) :=
      refilledCarefully_eq h fun b => rfl
    rw [performCarefully, hcall]
    rfl
  | debug => rfl

/-- An overfull bucket would slip: it has no room for what it is credited. -/
example : let r : Rate := ⟨1, ⟨5, by decide⟩, by decide, by decide⟩
    (TokenBucket.full r 0 |>.withLevel ⟨2, 0, Duration.zero⟩).performCarefully 5 .available =
      .error .underflow := rfl

end

end TokenBucket

end SigningKeys
