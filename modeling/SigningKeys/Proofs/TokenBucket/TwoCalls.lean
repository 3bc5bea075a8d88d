import SigningKeys.Proofs.TokenBucket.Refill

/-!
# One call or two

A bucket can be asked for tokens, and then, if it refuses, how far away they are. To acquire the
tokens is to do both under one lock. A refill leaves nothing to refill at the same instant, so
nobody can tell the one call from the two, whatever the state of the bucket is.

* `Level.refilled_refilled`, `TokenBucket.caughtUp_caughtUp`: a second refill changes nothing;
* `TokenBucket.consumeOrWait`: the two calls;
* `acquire_eq_consumeOrWait`: they are the one call;
* **`acquires_as_two_calls`**: how each answer of the one call comes about in the two.
-/

namespace SigningKeys

/-! ## Refilled twice -/

theorem Level.refilled_refilled (r : Rate) (l : Level) (now : Instant) :
    (l.refilled r now).refilled r now = l.refilled r now :=
  refilled_of_lt (gained_refilled_lt r l now)

/-- A refilled level can be refilled once more. -/
theorem Level.gained_refilled_le (r : Rate) (l : Level) (now : Instant) :
    (l.refilled r now).gained now ≤ maxNanos :=
  Nat.le_trans (Nat.le_of_lt (gained_refilled_lt r l now)) r.interval.nanos_le

/-- What a refilled level lacks is not there at once. -/
theorem Level.wait_pos {r : Rate} {l : Level} {now : Instant} {count : Nat} {w : Duration}
    (hg : l.gained now < r.interval.nanos) (hc : l.available < count)
    (hw : l.wait r now count = some w) : 0 < w.nanos := by
  have hle : l.gained now ≤ maxNanos := Nat.le_trans (Nat.le_of_lt hg) r.interval.nanos_le
  have hfirst : 0 < (r.interval.sub ⟨l.gained now, hle⟩).nanos := Nat.sub_pos_of_lt hg
  rw [wait, if_neg (Nat.not_le.2 hc), progress_eq hle, Option.bind_some] at hw
  dsimp only at hw
  split at hw
  · rw [← Option.some.inj hw]
    exact hfirst
  · rw [Duration.add?_eq_some.1 hw]
    exact Nat.lt_of_lt_of_le hfirst (Nat.le_add_right _ _)

namespace TokenBucket

variable {b : TokenBucket} {now : Instant} {count : Nat}

theorem caughtUp_caughtUp (b : TokenBucket) (now : Instant) :
    (b.caughtUp now).caughtUp now = b.caughtUp now := by
  rw [caughtUp, caughtUp, withLevel, withLevel]
  dsimp only
  rw [Level.refilled_refilled]

/-- A second call at the same instant finds the bucket as the first refill left it. -/
theorem checked_caughtUp {α : Type} (hc : b.serves count = true)
    (k : TokenBucket → Except BucketFault α × TokenBucket) :
    (b.caughtUp now).checked now count k = k (b.caughtUp now) := by
  have hserves : (b.caughtUp now).serves count = true := hc
  have hrefilled : (b.caughtUp now).refilled now k = k ((b.caughtUp now).caughtUp now) :=
    refilled_of_le (Level.gained_refilled_le b.rate b.level now) k
  rw [checked, if_pos hserves, hrefilled, caughtUp_caughtUp]

/-! ## The two calls -/

/-- **Ask for tokens, and if they are refused, how far away they are.** -/
def consumeOrWait (b : TokenBucket) (now : Instant) (count : Nat) :
    Except BucketFault (Option Duration) × TokenBucket :=
  match b.consume now count with
  | (.ok true, b) => (.ok none, b)
  | (.ok false, b) =>
    match b.timeUntil now count with
    | (.ok w, b) => (.ok (some w), b)
    | (.error f, b) => (.error f, b)
  | (.error f, b) => (.error f, b)

/-- **The two calls are the one call**: their answer and the bucket that they leave. -/
theorem acquire_eq_consumeOrWait (b : TokenBucket) (now : Instant) (count : Nat) :
    b.acquire now count = b.consumeOrWait now count := by
  rw [acquire, consumeOrWait, consume]
  by_cases hc : b.serves count = true
  · by_cases hle : b.level.gained now ≤ maxNanos
    · rw [checked, if_pos hc, refilled_of_le hle, checked, if_pos hc, refilled_of_le hle]
      by_cases hav : count ≤ (b.caughtUp now).level.available
      · rw [if_pos hav, if_pos hav]
      · rw [if_neg hav, if_neg hav]
        dsimp only
        rw [timeUntil, checked_caughtUp hc]
        cases (b.caughtUp now).level.wait (b.caughtUp now).rate now count <;> rfl
    · rw [checked, if_pos hc, refilled_of_lt (Nat.lt_of_not_le hle), checked, if_pos hc,
        refilled_of_lt (Nat.lt_of_not_le hle)]
  · rw [checked, if_neg hc, checked, if_neg hc]

/-! ## Answer by answer -/

/-- **How a call to acquire tokens goes**, told by the two calls in its place. -/
structure AsTwoCalls (b : TokenBucket) (now : Instant) (count : Nat) : Prop where
  /-- The answer is theirs, and so is the bucket that is left. -/
  same : b.acquire now count = b.consumeOrWait now count
  /-- The tokens are taken if they are granted. -/
  taken : (b.acquire now count).1 = .ok none ↔ (b.consume now count).1 = .ok true
  /-- A wait is told if they are refused, and it is the wait that is told then. -/
  told : ∀ w, (b.acquire now count).1 = .ok (some w) ↔
    (b.consume now count).1 = .ok false ∧ ((b.consume now count).2.timeUntil now count).1 = .ok w
  /-- Nobody who is refused could have been served at once. -/
  later : ∀ w, (b.acquire now count).1 = .ok (some w) → 0 < w.nanos
  /-- An overflow that stops the one call stops one of the two. -/
  stopped : (b.acquire now count).1 = .error .overflow ↔
    (b.consume now count).1 = .error .overflow ∨ (b.consume now count).1 = .ok false ∧
      ((b.consume now count).2.timeUntil now count).1 = .error .overflow
  /-- A count out of range is complained about in the same way, and the bucket is not touched. -/
  outOfRange : ¬(1 ≤ count ∧ count ≤ b.rate.capacity) →
    b.acquire now count = (.error (.badCount count b.rate.capacity), b) ∧
      b.consume now count = (.error (.badCount count b.rate.capacity), b)
  /-- No other count is complained about. -/
  inRange : 1 ≤ count ∧ count ≤ b.rate.capacity →
    ∀ n c, (b.acquire now count).1 ≠ .error (.badCount n c)

/-- Tokens are refused by a refilled bucket that lacks them. -/
theorem consume_eq_false (h : (b.consume now count).1 = .ok false) :
    b.serves count = true ∧ (b.caughtUp now).level.available < count ∧
      (b.consume now count).2 = b.caughtUp now := by
  unfold consume checked at h ⊢
  split at h
  · rename_i hc
    rw [if_pos hc]
    by_cases hle : b.level.gained now ≤ maxNanos
    · rw [refilled_of_le hle] at h ⊢
      split at h
      · cases h
      · rename_i hav
        rw [if_neg hav]
        exact ⟨hc, Nat.lt_of_not_le hav, rfl⟩
    · rw [refilled_of_lt (Nat.lt_of_not_le hle)] at h
      cases h
  · cases h

/-- The wait that is told after a refusal is not over. -/
theorem pos_of_refused {w : Duration} (h : (b.consume now count).1 = .ok false)
    (hw : ((b.consume now count).2.timeUntil now count).1 = .ok w) : 0 < w.nanos := by
  obtain ⟨hc, hav, hleft⟩ := consume_eq_false h
  rw [hleft, timeUntil, checked_caughtUp hc] at hw
  split at hw
  · rename_i hwait
    cases hw
    exact Level.wait_pos (Level.gained_refilled_lt b.rate b.level now) hav hwait
  · cases hw

theorem acquire_ne_badCount (hc : 1 ≤ count ∧ count ≤ b.rate.capacity) (n c : Nat) :
    (b.acquire now count).1 ≠ .error (.badCount n c) := by
  intro hfault
  rw [acquire, checked, if_pos ((b.serves_iff count).2 hc)] at hfault
  by_cases hle : b.level.gained now ≤ maxNanos
  · rw [refilled_of_le hle] at hfault
    split at hfault
    · cases hfault
    · split at hfault <;> cases hfault
  · rw [refilled_of_lt (Nat.lt_of_not_le hle)] at hfault
    cases hfault

/-- Each answer of the one call, by the answers of the two. -/
theorem acquire_answers (b : TokenBucket) (now : Instant) (count : Nat) :
    ((b.acquire now count).1 = .ok none ↔ (b.consume now count).1 = .ok true) ∧
      (∀ w, (b.acquire now count).1 = .ok (some w) ↔ (b.consume now count).1 = .ok false ∧
        ((b.consume now count).2.timeUntil now count).1 = .ok w) ∧
      ∀ f, (b.acquire now count).1 = .error f ↔
        (b.consume now count).1 = .error f ∨ (b.consume now count).1 = .ok false ∧
          ((b.consume now count).2.timeUntil now count).1 = .error f := by
  rw [acquire_eq_consumeOrWait, consumeOrWait]
  rcases b.consume now count with ⟨f | granted, b'⟩
  · simp
  · cases granted with
    | true => simp
    | false =>
      dsimp only
      rcases b'.timeUntil now count with ⟨f | w, b''⟩
      · simp
      · simp

/-- **To acquire tokens is to ask for them and, if they are refused, for the wait**, in every state
of a bucket, at every instant and for every count. -/
theorem acquires_as_two_calls (b : TokenBucket) (now : Instant) (count : Nat) :
    b.AsTwoCalls now count := by
  obtain ⟨htaken, htold, hfailed⟩ := acquire_answers b now count
  constructor
  case same => exact acquire_eq_consumeOrWait b now count
  case taken => exact htaken
  case told => exact htold
  case later =>
    intro w hw
    obtain ⟨hrefused, hwait⟩ := (htold w).1 hw
    exact pos_of_refused hrefused hwait
  case stopped => exact hfailed .overflow
  case outOfRange => exact fun hc => ⟨checked_of_not_serves hc _, checked_of_not_serves hc _⟩
  case inRange => exact acquire_ne_badCount

end TokenBucket

end SigningKeys
