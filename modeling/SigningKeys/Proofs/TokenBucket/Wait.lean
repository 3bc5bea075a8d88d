import SigningKeys.Proofs.TokenBucket.Window

/-!
# The least sufficient wait

A bucket that lacks tokens tells how long they are away. As long as it counts all the intervals that
it takes, the clock has to move by just that wait until the tokens are granted, and when it moves by
less, what is left of the wait is told. More than `2 ^ 32` missing tokens are not all counted; the
wait is too short then, but never too long.

* `Level.lack`: the least time after which there are enough tokens;
* `Level.wait_eq`: the wait in numbers, and when it is too long to be told;
* `consume_later_iff`: when a bucket grants tokens that it lacks now;
* `Level.lack_later`: the lack shrinks as time passes;
* `TokenBucket.Least`, **`wait_least`**: what a told wait promises, in every state of a bucket.
-/

namespace SigningKeys

namespace Level

variable {r : Rate} {start now : Instant} {l : Level} {count d : Nat} {w : Duration}

/-- **The least time after which there are `count` tokens**: an interval for every one that is
missing, without the progress that was made. -/
def lack (r : Rate) (l : Level) (now : Instant) (count : Nat) : Nat :=
  r.interval.nanos * (count - l.available) - l.gained now

theorem gained_later (h : l.lastRefill ≤ now) (d : Nat) :
    l.gained (now + d) = l.gained now + d := by
  unfold gained elapsed Instant at *
  omega

/-! ## The wait in numbers -/

theorem wait_of_le (h : count ≤ l.available) : l.wait r now count = some Duration.zero := if_pos h

/-- **The wait for tokens that are missing.** It is not told if it is longer than any duration: then
either the further intervals alone are too long already, or the sum is. -/
theorem wait_eq (h : l.available < count) (hg : l.gained now < r.interval.nanos) :
    l.wait r now count = Duration.ofNanos? (r.interval.nanos - l.gained now +
      r.interval.nanos * min (count - l.available - 1) maxIntervals) := by
  have hle : l.gained now ≤ maxNanos := Nat.le_trans (Nat.le_of_lt hg) r.interval.nanos_le
  rw [wait, if_neg (Nat.not_le.2 h), progress_eq hle, Option.bind_some]
  dsimp only
  split
  · rename_i hzero
    rw [hzero, Nat.zero_min, Nat.mul_zero, Nat.add_zero]
    exact (Duration.ofNanos?_eq_some.2 rfl).symm
  · rw [Duration.add?, Duration.nanos_sub, Duration.nanos_scale]
    dsimp only
    generalize r.interval.nanos * min (count - l.available - 1) maxIntervals = further
    by_cases hfits : further ≤ maxNanos
    · rw [Nat.min_eq_left hfits]
    · rw [Duration.ofNanos?, Duration.ofNanos?, dif_neg (by omega), dif_neg (by omega)]

theorem mul_missing (h : l.available < count) : r.interval.nanos * (count - l.available) =
    r.interval.nanos + r.interval.nanos * (count - l.available - 1) := by
  have hone : count - l.available = count - l.available - 1 + 1 := by omega
  rw [hone, Nat.mul_succ, Nat.add_comm, Nat.add_sub_cancel]

/-- Up to `2 ^ 32` missing tokens are counted. -/
theorem wait_eq_lack (h : l.available < count) (hfew : count - l.available ≤ 2 ^ 32)
    (hg : l.gained now < r.interval.nanos) :
    l.wait r now count = Duration.ofNanos? (l.lack r now count) := by
  have hall : min (count - l.available - 1) maxIntervals = count - l.available - 1 := by
    unfold maxIntervals
    omega
  rw [wait_eq h hg, hall, lack, mul_missing h, Nat.sub_add_comm (Nat.le_of_lt hg)]

/-- Of more than that, not all are. -/
theorem wait_lt_lack (hmany : 2 ^ 32 < count - l.available) (hg : l.gained now < r.interval.nanos)
    (hw : l.wait r now count = some w) : w.nanos < l.lack r now count := by
  have h : l.available < count := by omega
  rw [wait_eq h hg, Duration.ofNanos?_eq_some] at hw
  have hfewer : r.interval.nanos * min (count - l.available - 1) maxIntervals <
      r.interval.nanos * (count - l.available - 1) := by
    refine Nat.mul_lt_mul_of_pos_left ?_ r.interval_pos
    unfold maxIntervals
    omega
  rw [hw, lack, mul_missing h]
  omega

/-! ## The lack -/

theorem lack_of_le (h : count ≤ l.available) : l.lack r now count = 0 := by
  rw [lack, Nat.sub_eq_zero_of_le h, Nat.mul_zero, Nat.zero_sub]

theorem lack_pos (h : l.available < count) (hg : l.gained now < r.interval.nanos) :
    0 < l.lack r now count := by
  rw [lack, mul_missing h]
  omega

/-- **There are enough tokens once the time covers the lack**, and not before. -/
theorem le_available_later_iff (h : l.Sound r start now) (hc : count ≤ r.capacity) (d : Nat) :
    count ≤ (l.refilled r (now + d)).available ↔ l.lack r now count ≤ d := by
  have hav := h.available_le
  have hdiv : count - l.available ≤ l.gained (now + d) / r.interval.nanos ↔
      r.interval.nanos * (count - l.available) ≤ l.gained (now + d) := by
    rw [Nat.le_div_iff_mul_le r.interval_pos, Nat.mul_comm]
  rw [available_refilled, lack]
  rw [gained_later h.lastRefill_le] at hdiv ⊢
  generalize (l.gained now + d) / r.interval.nanos = credit at hdiv ⊢
  omega

/-- **The lack shrinks as time passes**, also when some tokens are credited in between, as long as
no remainder is cut off. -/
theorem lack_later (h : l.Sound r start now) (hi : r.interval.nanos ≤ 2 ^ 64)
    (hc : count ≤ r.capacity) (d : Nat) :
    (l.refilled r (now + d)).lack r (now + d) count = l.lack r now count - d := by
  have hav := h.available_le
  have hlater := gained_later h.lastRefill_le d
  have hdiv := Nat.div_add_mod (l.gained (now + d)) r.interval.nanos
  rw [lack, lack, available_refilled, gained_refilled hi]
  generalize l.gained (now + d) / r.interval.nanos = credit at hdiv ⊢
  by_cases hroom : credit ≤ count - l.available
  · rw [Nat.min_eq_left (by omega), ← Nat.sub_sub, Nat.mul_sub]
    omega
  · -- more is credited than was missing
    have hmul : r.interval.nanos * (count - l.available) ≤ r.interval.nanos * credit :=
      Nat.mul_le_mul_left _ (Nat.le_of_not_le hroom)
    rw [Nat.sub_eq_zero_of_le (n := count) (by omega), Nat.mul_zero]
    omega

end Level

namespace TokenBucket

variable {b b' : TokenBucket} {start now : Instant} {count d : Nat} {w : Duration}

/-! ## What a told wait promises -/

/-- **Tokens are granted once the time covers the lack**, and not before. -/
theorem consume_later_iff (h : b.Sound start now) (hc : 1 ≤ count ∧ count ≤ b.rate.capacity)
    (hd : now + d - start ≤ maxNanos) :
    (b.consume (now + d) count).1 = .ok true ↔ b.level.lack b.rate now count ≤ d := by
  have hlater : b.Sound start (now + d) := Level.Sound.later h (Nat.le_add_right now d)
  have henough : count ≤ (b.caughtUp (now + d)).level.available ↔ _ :=
    Level.le_available_later_iff h hc.2 d
  rw [consume, checked_of_serves hlater hd hc, ← henough]
  split
  · rename_i hthere
    exact iff_of_true rfl hthere
  · rename_i hmissing
    exact iff_of_false (fun h => Bool.noConfusion (Except.ok.inj h)) hmissing

/-- What is left of the lack is told. -/
theorem timeUntil_later (h : b.Sound start now) (hi : b.rate.interval.nanos ≤ 2 ^ 64)
    (hc : 1 ≤ count ∧ count ≤ b.rate.capacity) (hfew : count - b.level.available ≤ 2 ^ 32)
    (hw : b.level.lack b.rate now count = w.nanos) (hd : now + d - start ≤ maxNanos)
    (hle : d ≤ w.nanos) :
    ∃ rest, (b.timeUntil (now + d) count).1 = .ok rest ∧ rest.nanos = w.nanos - d := by
  have hlater : b.Sound start (now + d) := Level.Sound.later h (Nat.le_add_right now d)
  have hlack : (b.caughtUp (now + d)).level.lack b.rate (now + d) count = w.nanos - d := by
    rw [← hw]
    exact Level.lack_later h hi hc.2 d
  rw [timeUntil, checked_of_serves hlater hd hc]
  by_cases hthere : count ≤ (b.caughtUp (now + d)).level.available
  · rw [Level.lack_of_le hthere] at hlack
    rw [Level.wait_of_le hthere]
    exact ⟨Duration.zero, rfl, hlack⟩
  · have hmissing : count - (b.caughtUp (now + d)).level.available ≤ 2 ^ 32 :=
      Nat.le_trans (Nat.sub_le_sub_left (Level.le_available_refilled _ _ _) count) hfew
    have hwait := Level.wait_eq_lack (Nat.lt_of_not_le hthere) hmissing
      (Level.gained_refilled_lt b.rate b.level (now + d))
    have hrest : Duration.ofNanos? (w.nanos - d) = some (w.sub ⟨d, Nat.le_trans hle w.nanos_le⟩) :=
      Duration.ofNanos?_eq_some.2 rfl
    have htold : (b.caughtUp (now + d)).level.wait (b.caughtUp (now + d)).rate (now + d) count =
        some _ := hwait.trans ((congrArg Duration.ofNanos? hlack).trans hrest)
    rw [htold]
    exact ⟨_, rfl, rfl⟩

/-- **The promise of a wait** for `count` tokens that a bucket told at `now`, when it held `held`. The
clock has not moved by more than the longest duration when the promise is tried. -/
structure Least (b : TokenBucket) (start now : Instant) (held count : Nat) (w : Duration) : Prop where
  /-- Nobody waits for what is there. -/
  atOnce : count ≤ held → w = Duration.zero
  /-- The tokens are granted after the wait, and not before. -/
  exact : held < count → count - held ≤ 2 ^ 32 → 0 < w.nanos ∧
    ∀ d : Nat, now + d - start ≤ maxNanos →
      ((b.consume (now + d) count).1 = .ok true ↔ w.nanos ≤ d)
  /-- What is left of the wait is told. -/
  countdown : held < count → count - held ≤ 2 ^ 32 → b.rate.interval.nanos ≤ 2 ^ 64 →
    ∀ d : Nat, now + d - start ≤ maxNanos → d ≤ w.nanos →
      ∃ rest, (b.timeUntil (now + d) count).1 = .ok rest ∧ rest.nanos = w.nanos - d
  /-- The lack is the least sufficient time. -/
  sufficient : ∀ d : Nat, now + d - start ≤ maxNanos →
    ((b.consume (now + d) count).1 = .ok true ↔ b.level.lack b.rate now count ≤ d)
  /-- The wait is never too long. -/
  le : w.nanos ≤ b.level.lack b.rate now count
  /-- With too many tokens missing it is too short. -/
  lt : 2 ^ 32 < count - held → w.nanos < b.level.lack b.rate now count

/-- What is told of a refilled level. -/
theorem least_of_wait (h : b.Sound start now) (hg : b.level.gained now < b.rate.interval.nanos)
    (hc : 1 ≤ count ∧ count ≤ b.rate.capacity) (hw : b.level.wait b.rate now count = some w) :
    b.Least start now b.level.available count w := by
  have hexact : b.level.available < count → count - b.level.available ≤ 2 ^ 32 →
      w.nanos = b.level.lack b.rate now count := by
    intro hlt hfew
    rw [Level.wait_eq_lack hlt hfew hg, Duration.ofNanos?_eq_some] at hw
    exact hw
  have hlt : 2 ^ 32 < count - b.level.available → w.nanos < b.level.lack b.rate now count :=
    fun hmany => Level.wait_lt_lack hmany hg hw
  constructor
  case atOnce =>
    intro hle
    rw [Level.wait_of_le hle] at hw
    exact (Option.some.inj hw).symm
  case exact =>
    intro hmissing hfew
    have hlack := hexact hmissing hfew
    rw [hlack]
    exact ⟨Level.lack_pos hmissing hg, fun d hd => consume_later_iff h hc hd⟩
  case countdown =>
    exact fun hmissing hfew hi d hd hle =>
      timeUntil_later h hi hc hfew (hexact hmissing hfew).symm hd hle
  case sufficient => exact fun d hd => consume_later_iff h hc hd
  case le =>
    by_cases hle : count ≤ b.level.available
    · rw [Level.wait_of_le hle] at hw
      rw [← Option.some.inj hw]
      exact Nat.zero_le _
    · by_cases hfew : count - b.level.available ≤ 2 ^ 32
      · exact Nat.le_of_eq (hexact (Nat.lt_of_not_le hle) hfew)
      · exact Nat.le_of_lt (hlt (Nat.lt_of_not_le hfew))
  case lt => exact hlt

theorem eq_full_of_new {capacity : Nat} {interval : Duration}
    (h : new capacity interval start = .ok b) :
    ∃ r : Rate, r.capacity = capacity ∧ r.interval = interval ∧ b = full r start := by
  unfold new Rate.check at h
  split at h
  · split at h
    · cases h
      exact ⟨_, rfl, rfl, rfl⟩
    · cases h
  · cases h

/-- **A told wait is the least sufficient one.** Let a bucket be new at `start`, whatever its
capacity and its interval, and `steps` be what came after. If it then tells a wait for some tokens,
it also tells how many it holds, and the wait keeps its promise. -/
theorem wait_least {capacity : Nat} {interval : Duration}
    (hnew : new capacity interval start = .ok b) (steps : List BucketStep)
    (hc : 1 ≤ count ∧ count ≤ capacity)
    (hw : (b.run start steps).2.timeUntil (start + BucketStep.duration steps) count = (.ok w, b')) :
    ∃ held, ((b.run start steps).2.availableNow (start + BucketStep.duration steps)).1 = .ok held ∧
      b'.Least start (start + BucketStep.duration steps) held count w := by
  obtain ⟨r, rfl, rfl, rfl⟩ := eq_full_of_new hnew
  have hfull : (full r start).Sound start start := Level.sound_full r start
  obtain ⟨hrate, hsound⟩ := sound_run_steps steps hfull
  generalize ((full r start).run start steps).2 = c at hw hrate hsound ⊢
  generalize start + BucketStep.duration steps = now at hw hsound ⊢
  have hserves : 1 ≤ count ∧ count ≤ c.rate.capacity := hrate ▸ hc
  rw [timeUntil, checked, if_pos ((c.serves_iff count).2 hserves)] at hw
  by_cases hfits : c.level.gained now ≤ maxNanos
  · rw [refilled_of_le hfits] at hw
    split at hw
    · rename_i hwait
      cases hw
      refine ⟨_, congrArg Prod.fst (refilled_of_le hfits _), ?_⟩
      exact least_of_wait hsound.caughtUp (Level.gained_refilled_lt _ _ _) hserves hwait
    · cases hw
  · rw [refilled_of_lt (Nat.lt_of_not_le hfits)] at hw
    cases hw

/-- An empty bucket of five tokens, 300 of 500 nanoseconds before the next one: three tokens are 1300
nanoseconds away. -/
theorem wait_least_threeTokens :
    let r : Rate := ⟨5, ⟨500, by decide⟩, by decide, by decide⟩
    let steps : List BucketStep := [.call (.consume 5), .advance ⟨200, by decide⟩]
    ∃ b b', new r.capacity r.interval 0 = .ok b ∧ (1 ≤ 3 ∧ 3 ≤ r.capacity) ∧
      (b.run 0 steps).2.timeUntil (0 + BucketStep.duration steps) 3 =
        (.ok ⟨1300, by decide⟩, b') ∧
      ∃ held, ((b.run 0 steps).2.availableNow (0 + BucketStep.duration steps)).1 = .ok held ∧
        b'.Least 0 (0 + BucketStep.duration steps) held 3 ⟨1300, by decide⟩ := by
  intro r steps
  have hc : 1 ≤ 3 ∧ 3 ≤ r.capacity := by decide
  have htold : (((full r 0).run 0 steps).2.timeUntil (0 + BucketStep.duration steps) 3).1 =
      .ok ⟨1300, by decide⟩ := by decide +kernel
  cases hw : ((full r 0).run 0 steps).2.timeUntil (0 + BucketStep.duration steps) 3 with
  | mk answer b' =>
    rw [hw] at htold
    subst htold
    exact ⟨_, b', new_rate r 0, hc, hw, wait_least (new_rate r 0) steps hc hw⟩

end TokenBucket

end SigningKeys
