import Mathlib.Algebra.GroupWithZero.Nat
import SigningKeys.TokenBucket.Run

/-!
# What a refill does

Within the longest duration after the start of a bucket no refill overflows. A refill then is a
total function of the level, `Level.refilled`, and it leaves less than one interval of progress.

* `Level.gained`: the progress towards the next token as a plain number;
* `Level.Sound`: the bounds that every level of a bucket keeps that was full at `start`;
* **`Level.Sound.refilled`**: a refill keeps a level sound;
* `TokenBucket.refilled_eq`: a bucket with a sound level is refilled, without an overflow;
* `Level.wait_one`: the wait for one token of an empty level.
-/

namespace SigningKeys

namespace Level

/-- The time that counts towards the next token, in nanoseconds. -/
def gained (l : Level) (now : Instant) : Nat := elapsed now l.lastRefill + l.carry.nanos

/-- The level after a refill that does not overflow. -/
def refilled (r : Rate) (l : Level) (now : Instant) : Level :=
  if l.gained now < r.interval.nanos then l
  else
    { available := l.available + min (l.gained now / r.interval.nanos) (r.capacity - l.available)
      lastRefill := now
      carry := Duration.ofNanosCapped (min (l.gained now % r.interval.nanos) maxCarry) }

/-- **The bounds of a level** at `now`, in a bucket that was full at `start`. -/
structure Sound (r : Rate) (start now : Instant) (l : Level) : Prop where
  available_le : l.available ≤ r.capacity
  carry_lt : l.carry.nanos < r.interval.nanos
  carry_le : start + l.carry.nanos ≤ l.lastRefill
  lastRefill_le : l.lastRefill ≤ now

theorem progress_eq {l : Level} {now : Instant} (h : l.gained now ≤ maxNanos) :
    l.progress now = some ⟨l.gained now, h⟩ := dif_pos h

theorem refill_eq_some {r : Rate} {l : Level} {now : Instant} (h : l.gained now ≤ maxNanos) :
    l.refill r now = some (l.refilled r now) := by
  rw [refill, progress_eq h]
  rfl

theorem refill_eq_none {r : Rate} {l : Level} {now : Instant} (h : maxNanos < l.gained now) :
    l.refill r now = none := by
  have hprogress : l.progress now = none := dif_neg (Nat.not_le.2 h)
  rw [refill, hprogress]
  rfl

theorem refilled_of_lt {r : Rate} {l : Level} {now : Instant}
    (h : l.gained now < r.interval.nanos) : l.refilled r now = l := if_pos h

/-- A refill leaves less than one interval of progress. -/
theorem gained_refilled_lt (r : Rate) (l : Level) (now : Instant) :
    (l.refilled r now).gained now < r.interval.nanos := by
  by_cases h : l.gained now < r.interval.nanos
  · rwa [refilled_of_lt h]
  · have hm : l.gained now % r.interval.nanos < r.interval.nanos := Nat.mod_lt _ r.interval_pos
    rw [refilled, if_neg h]
    simp only [gained, elapsed, Nat.sub_self, Nat.zero_add, Duration.nanos_ofNanosCapped] at hm ⊢
    omega

/-- Up to an interval of `2 ^ 64` nanoseconds, the whole remainder is carried over. -/
theorem carry_refilled {r : Rate} {l : Level} {now : Instant} (hi : r.interval.nanos ≤ 2 ^ 64)
    (h : r.interval.nanos ≤ l.gained now) :
    (l.refilled r now).carry.nanos = l.gained now % r.interval.nanos := by
  have hm : l.gained now % r.interval.nanos < r.interval.nanos := Nat.mod_lt _ r.interval_pos
  have hmax := r.interval.nanos_le
  rw [refilled, if_neg (Nat.not_lt.2 h)]
  dsimp only [Duration.nanos_ofNanosCapped]
  unfold maxCarry
  omega

/-- Then a refill keeps the progress up to whole intervals. -/
theorem gained_refilled {r : Rate} {l : Level} {now : Instant} (hi : r.interval.nanos ≤ 2 ^ 64) :
    (l.refilled r now).gained now = l.gained now % r.interval.nanos := by
  by_cases h : l.gained now < r.interval.nanos
  · rw [refilled_of_lt h, Nat.mod_eq_of_lt h]
  · have hlast : (l.refilled r now).lastRefill = now := by rw [refilled, if_neg h]
    rw [gained, hlast, elapsed, Nat.sub_self, Nat.zero_add, carry_refilled hi (Nat.le_of_not_lt h)]

theorem available_refilled (r : Rate) (l : Level) (now : Instant) :
    (l.refilled r now).available =
      l.available + min (l.gained now / r.interval.nanos) (r.capacity - l.available) := by
  by_cases h : l.gained now < r.interval.nanos
  · rw [refilled_of_lt h, Nat.div_eq_of_lt h, Nat.zero_min, Nat.add_zero]
  · rw [refilled, if_neg h]

theorem le_available_refilled (r : Rate) (l : Level) (now : Instant) :
    l.available ≤ (l.refilled r now).available := by
  rw [available_refilled]
  exact Nat.le_add_right _ _

namespace Sound

variable {r : Rate} {start now : Instant} {l : Level}

/-- A sound level has gained no more time than passed since the start. -/
theorem gained_le (h : l.Sound r start now) : l.gained now ≤ now - start := by
  have h₁ := h.carry_le
  have h₂ := h.lastRefill_le
  unfold gained elapsed Instant at *
  omega

theorem later (h : l.Sound r start now) {later : Instant} (hl : now ≤ later) :
    l.Sound r start later := { h with lastRefill_le := Nat.le_trans h.lastRefill_le hl }

/-- **A refill keeps a level sound.** -/
theorem refilled (h : l.Sound r start now) : (l.refilled r now).Sound r start now := by
  by_cases hg : l.gained now < r.interval.nanos
  · rwa [refilled_of_lt hg]
  · have hm : l.gained now % r.interval.nanos < r.interval.nanos := Nat.mod_lt _ r.interval_pos
    have hle : l.gained now % r.interval.nanos ≤ l.gained now := Nat.mod_le _ _
    have hgained := h.gained_le
    have hstart := h.carry_le
    have hnow := h.lastRefill_le
    have hav := h.available_le
    rw [Level.refilled, if_neg hg]
    constructor
    case available_le => dsimp only; omega
    case carry_lt => rw [Duration.nanos_ofNanosCapped]; omega
    case carry_le =>
      dsimp only [Duration.nanos_ofNanosCapped]
      unfold Instant at *
      omega
    case lastRefill_le => exact Nat.le_refl now

theorem take (h : l.Sound r start now) (count : Nat) : (l.take count).Sound r start now :=
  { h with available_le := Nat.le_trans (Nat.sub_le _ _) h.available_le }

end Sound

theorem sound_full (r : Rate) (start : Instant) :
    Sound r start start ⟨r.capacity, start, Duration.zero⟩ where
  available_le := Nat.le_refl _
  carry_lt := r.interval_pos
  carry_le := Nat.le_refl _
  lastRefill_le := Nat.le_refl _

/-- The wait for one token of an empty level is what is missing to the next token. -/
theorem wait_one {r : Rate} {l : Level} {now : Instant} (h : l.gained now ≤ maxNanos)
    (he : l.available = 0) :
    l.wait r now 1 = some (r.interval.sub ⟨l.gained now, h⟩) := by
  rw [wait, he, if_neg (Nat.not_succ_le_zero 0), progress_eq h]
  rfl

end Level

namespace TokenBucket

/-! ## Calls of a bucket with a sound level -/

/-- A bucket is sound if its level is. -/
abbrev Sound (start now : Instant) (b : TokenBucket) : Prop := b.level.Sound b.rate start now

/-- The bucket after a refill that does not overflow. -/
def caughtUp (b : TokenBucket) (now : Instant) : TokenBucket :=
  b.withLevel (b.level.refilled b.rate now)

variable {b : TokenBucket} {start now : Instant}

theorem refilled_of_le {α : Type} (h : b.level.gained now ≤ maxNanos)
    (k : TokenBucket → Except BucketFault α × TokenBucket) :
    b.refilled now k = k (b.caughtUp now) := by
  rw [refilled, Level.refill_eq_some h]
  rfl

theorem refilled_of_lt {α : Type} (h : maxNanos < b.level.gained now)
    (k : TokenBucket → Except BucketFault α × TokenBucket) :
    b.refilled now k = (.error .overflow, b.interrupt) := by
  rw [refilled, Level.refill_eq_none h]

theorem refilled_eq {α : Type} (h : b.Sound start now) (hn : now - start ≤ maxNanos)
    (k : TokenBucket → Except BucketFault α × TokenBucket) :
    b.refilled now k = k (b.caughtUp now) :=
  refilled_of_le (Nat.le_trans (Level.Sound.gained_le h) hn) k

theorem serves_iff (b : TokenBucket) (count : Nat) :
    b.serves count = true ↔ 1 ≤ count ∧ count ≤ b.rate.capacity := by
  rw [serves, Bool.and_eq_true, decide_eq_true_iff, decide_eq_true_iff]

theorem checked_of_serves {α : Type} {count : Nat} (h : b.Sound start now)
    (hn : now - start ≤ maxNanos) (hc : 1 ≤ count ∧ count ≤ b.rate.capacity)
    (k : TokenBucket → Except BucketFault α × TokenBucket) :
    b.checked now count k = k (b.caughtUp now) := by
  rw [checked, if_pos ((b.serves_iff count).2 hc), refilled_eq h hn]

theorem checked_of_not_serves {α : Type} {count : Nat}
    (hc : ¬(1 ≤ count ∧ count ≤ b.rate.capacity))
    (k : TokenBucket → Except BucketFault α × TokenBucket) :
    b.checked now count k = (.error (.badCount count b.rate.capacity), b) := by
  rw [checked, if_neg (mt (b.serves_iff count).1 hc)]

end TokenBucket

end SigningKeys
