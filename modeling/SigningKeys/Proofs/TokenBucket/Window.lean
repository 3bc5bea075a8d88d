import SigningKeys.Proofs.TokenBucket.Acquire
import SigningKeys.Proofs.TokenBucket.Eager

/-!
# How much a bucket grants in a window

However a bucket is called, and whatever its interval, it grants in any window of time no more than
it can hold, and one token for every interval of the window, and one more. The time that a level is
worth pays for that: an interval for each of its tokens, and its progress. It grows with the clock
and no faster, and every token that is granted costs an interval.

* `TokenBucket.grants`, `grantedWithin`: the tokens that a run grants, each with its instant;
* `Level.worth`: what a level is worth;
* `TokenBucket.perform_cases`: what a call can do to the level;
* **`grants_within_le`**: the bound, and the bounds of every level that a run leads to.
-/

namespace SigningKeys

/-- The tokens that a reply grants. -/
def BucketReply.tokens : BucketCall → BucketReply → Nat
  | .consume count, .granted true => count
  | .acquire count, .acquired none => count
  | _, _ => 0

/-- The tokens that are granted from one instant to another one, both included. -/
def grantedWithin (s t : Instant) (grants : List (Instant × Nat)) : Nat :=
  ((grants.filter fun g => s ≤ g.1 ∧ g.1 ≤ t).map (·.2)).sum

theorem grantedWithin_cons (s t : Instant) (g : Instant × Nat) (gs : List (Instant × Nat)) :
    grantedWithin s t (g :: gs) =
      (if s ≤ g.1 ∧ g.1 ≤ t then g.2 else 0) + grantedWithin s t gs := by
  unfold grantedWithin
  by_cases h : s ≤ g.1 ∧ g.1 ≤ t <;> simp [h]

theorem grantedWithin_of_lt {s t : Instant} {gs : List (Instant × Nat)}
    (h : ∀ g ∈ gs, t < g.1) : grantedWithin s t gs = 0 := by
  have hnone : gs.filter (fun g => s ≤ g.1 ∧ g.1 ≤ t) = [] := by
    refine List.filter_eq_nil_iff.2 fun g hg => ?_
    have := h g hg
    simp only [decide_eq_true_eq, not_and]
    exact fun _ => Nat.not_le.2 this
  rw [grantedWithin, hnone]
  rfl

namespace Level

/-- **What a level is worth** at `now`, in nanoseconds. -/
def worth (r : Rate) (l : Level) (now : Instant) : Nat :=
  r.interval.nanos * l.available + l.gained now

variable {r : Rate} {l : Level} {now : Instant}

theorem gained_add_le (l : Level) (now : Instant) (n : Nat) :
    l.gained (now + n) ≤ l.gained now + n := by
  unfold gained elapsed Instant at *
  omega

/-- A refill brings nothing in: what it credits, it takes from the progress. -/
theorem worth_refilled_le (r : Rate) (l : Level) (now : Instant) :
    (l.refilled r now).worth r now ≤ l.worth r now := by
  by_cases h : l.gained now < r.interval.nanos
  · rw [refilled_of_lt h]
  · have hdiv := Nat.div_add_mod (l.gained now) r.interval.nanos
    have hcredit : r.interval.nanos * min (l.gained now / r.interval.nanos)
          (r.capacity - l.available) ≤ r.interval.nanos * (l.gained now / r.interval.nanos) :=
      Nat.mul_le_mul_left _ (Nat.min_le_left _ _)
    have hcarry : (l.refilled r now).gained now ≤ l.gained now % r.interval.nanos := by
      rw [refilled, if_neg h]
      simp only [gained, elapsed, Nat.sub_self, Nat.zero_add, Duration.nanos_ofNanosCapped]
      omega
    rw [worth, worth, available_refilled, Nat.mul_add]
    omega

/-- A refill leaves less than one token that is not yet there. -/
theorem worth_refilled_lt (h : l.available ≤ r.capacity) :
    (l.refilled r now).worth r now < r.interval.nanos * (r.capacity + 1) := by
  have hgained := gained_refilled_lt r l now
  have hav : (l.refilled r now).available ≤ r.capacity := by
    rw [available_refilled]
    omega
  have hmul := Nat.mul_le_mul_left r.interval.nanos hav
  rw [worth, Nat.mul_add]
  omega

theorem worth_take {count : Nat} (h : count ≤ l.available) :
    (l.take count).worth r now + r.interval.nanos * count = l.worth r now := by
  have hsum : l.available - count + count = l.available := Nat.sub_add_cancel h
  have hmul : r.interval.nanos * (l.available - count) + r.interval.nanos * count =
      r.interval.nanos * l.available := by
    rw [← Nat.mul_add, hsum]
  have hgained : (l.take count).gained now = l.gained now := rfl
  rw [worth, worth, hgained, take]
  dsimp only
  omega

end Level

namespace TokenBucket

variable {b : TokenBucket} {start now s t : Instant}

/-- **What a run grants**: for each of its calls the instant, and the tokens that it took. -/
def grants (b : TokenBucket) (now : Instant) : List BucketStep → List (Instant × Nat)
  | [] => []
  | .advance d :: steps => b.grants (now + d.nanos) steps
  | .call c :: steps =>
    (now, (b.perform now c).1.tokens c) :: (b.perform now c).2.grants now steps

/-! ## What a call can do -/

theorem refilled_cases {α : Type} (b : TokenBucket) (now : Instant)
    (k : TokenBucket → Except BucketFault α × TokenBucket) :
    b.refilled now k = (.error .overflow, b.interrupt) ∨ b.refilled now k = k (b.caughtUp now) := by
  by_cases h : b.level.gained now ≤ maxNanos
  · exact .inr (refilled_of_le h k)
  · exact .inl (refilled_of_lt (Nat.lt_of_not_le h) k)

theorem checked_cases {α : Type} (b : TokenBucket) (now : Instant) (count : Nat)
    (k : TokenBucket → Except BucketFault α × TokenBucket) :
    b.checked now count k = (.error (.badCount count b.rate.capacity), b) ∨
      b.checked now count k = (.error .overflow, b.interrupt) ∨
      b.checked now count k = k (b.caughtUp now) := by
  by_cases h : 1 ≤ count ∧ count ≤ b.rate.capacity
  · rw [checked, if_pos ((b.serves_iff count).2 h)]
    exact .inr (b.refilled_cases now k)
  · exact .inl (checked_of_not_serves h k)

/-- **What a call can do**: it leaves the level as it is and grants nothing, or it refills the level
and takes what it grants. -/
theorem perform_cases (b : TokenBucket) (now : Instant) (c : BucketCall) :
    (b.perform now c).2.rate = b.rate ∧
      ((b.perform now c).1.tokens c = 0 ∧ (b.perform now c).2.level = b.level ∨
        (b.perform now c).1.tokens c ≤ (b.level.refilled b.rate now).available ∧
          (b.perform now c).2.level =
            (b.level.refilled b.rate now).take ((b.perform now c).1.tokens c)) := by
  cases c with
  | consume count =>
    rw [perform, consume]
    rcases b.checked_cases now count _ with h | h | h <;> rw [h]
    · exact ⟨rfl, .inl ⟨rfl, rfl⟩⟩
    · exact ⟨rfl, .inl ⟨rfl, rfl⟩⟩
    · split
      · rename_i hle
        exact ⟨rfl, .inr ⟨hle, rfl⟩⟩
      · exact ⟨rfl, .inr ⟨Nat.zero_le _, rfl⟩⟩
  | wait count =>
    rw [perform, timeUntil]
    rcases b.checked_cases now count _ with h | h | h <;> rw [h]
    · exact ⟨rfl, .inl ⟨rfl, rfl⟩⟩
    · exact ⟨rfl, .inl ⟨rfl, rfl⟩⟩
    · split
      · exact ⟨rfl, .inr ⟨Nat.zero_le _, rfl⟩⟩
      · exact ⟨rfl, .inr ⟨Nat.zero_le _, rfl⟩⟩
  | acquire count =>
    rw [perform, acquire]
    rcases b.checked_cases now count _ with h | h | h <;> rw [h]
    · exact ⟨rfl, .inl ⟨rfl, rfl⟩⟩
    · exact ⟨rfl, .inl ⟨rfl, rfl⟩⟩
    · split
      · rename_i hle
        exact ⟨rfl, .inr ⟨hle, rfl⟩⟩
      · split
        · exact ⟨rfl, .inr ⟨Nat.zero_le _, rfl⟩⟩
        · exact ⟨rfl, .inr ⟨Nat.zero_le _, rfl⟩⟩
  | available =>
    rw [perform, availableNow]
    rcases b.refilled_cases now _ with h | h <;> rw [h]
    · exact ⟨rfl, .inl ⟨rfl, rfl⟩⟩
    · exact ⟨rfl, .inr ⟨Nat.zero_le _, rfl⟩⟩
  | debug => exact ⟨rfl, .inl ⟨rfl, rfl⟩⟩

/-- What a call grants is paid for. -/
theorem worth_perform_le (b : TokenBucket) (now : Instant) (c : BucketCall) :
    (b.perform now c).2.level.worth b.rate now +
      b.rate.interval.nanos * (b.perform now c).1.tokens c ≤ b.level.worth b.rate now := by
  obtain ⟨-, ⟨hnone, hlevel⟩ | ⟨hle, hlevel⟩⟩ := b.perform_cases now c
  · rw [hlevel, hnone, Nat.mul_zero, Nat.add_zero]
  · rw [hlevel, Level.worth_take hle]
    exact Level.worth_refilled_le _ _ _

/-- A call that grants something does so on a level that was just refilled. -/
theorem worth_perform_lt (h : b.Sound start now) {c : BucketCall}
    (hc : 0 < (b.perform now c).1.tokens c) :
    (b.perform now c).2.level.worth b.rate now +
      b.rate.interval.nanos * (b.perform now c).1.tokens c <
        b.rate.interval.nanos * (b.rate.capacity + 1) := by
  obtain ⟨-, ⟨hnone, -⟩ | ⟨hle, hlevel⟩⟩ := b.perform_cases now c
  · omega
  · rw [hlevel, Level.worth_take hle]
    exact Level.worth_refilled_lt h.available_le

/-! ## Runs -/

theorem le_of_mem_grants {steps : List BucketStep} :
    ∀ g ∈ b.grants now steps, now ≤ g.1 := by
  induction steps generalizing b now with
  | nil => simp [grants]
  | cons step steps ih =>
    cases step with
    | advance d =>
      intro g hg
      exact Nat.le_trans (Nat.le_add_right _ _) (ih g hg)
    | call c =>
      intro g hg
      rcases List.mem_cons.1 hg with rfl | hg
      · exact Nat.le_refl _
      · exact ih g hg

/-- From an instant on, a bucket grants what it is worth then and what the time brings. -/
theorem grants_le_worth (steps : List BucketStep) (ht : now ≤ t) :
    b.rate.interval.nanos * grantedWithin s t (b.grants now steps) ≤
      b.level.worth b.rate now + (t - now) := by
  induction steps generalizing b now with
  | nil => simp [grants, grantedWithin]
  | cons step steps ih =>
    cases step with
    | advance d =>
      rw [grants]
      by_cases hd : now + d.nanos ≤ t
      · have hrest := ih (b := b) hd
        have hgained := b.level.gained_add_le now d.nanos
        unfold Level.worth Instant at *
        omega
      · have hafter : grantedWithin s t (b.grants (now + d.nanos) steps) = 0 :=
          grantedWithin_of_lt fun g hg => Nat.lt_of_lt_of_le (Nat.lt_of_not_le hd)
            (le_of_mem_grants g hg)
        rw [hafter, Nat.mul_zero]
        exact Nat.zero_le _
    | call c =>
      have hrest := ih (b := (b.perform now c).2) ht
      have hpaid := b.worth_perform_le now c
      rw [(b.perform_cases now c).1] at hrest
      rw [grants, grantedWithin_cons, Nat.mul_add]
      dsimp only
      split
      · omega
      · omega

/-- **What a sound bucket grants in a window costs less than a full bucket and one more token, and
the time of the window.** -/
theorem grants_lt (steps : List BucketStep) (h : b.Sound start now) :
    b.rate.interval.nanos * grantedWithin s t (b.grants now steps) <
      b.rate.interval.nanos * (b.rate.capacity + 1) + (t - s) := by
  have hpos : 0 < b.rate.interval.nanos * (b.rate.capacity + 1) :=
    Nat.mul_pos b.rate.interval_pos (Nat.succ_pos _)
  induction steps generalizing b now with
  | nil =>
    simp only [grants, grantedWithin, List.filter_nil, List.map_nil, List.sum_nil]
    omega
  | cons step steps ih =>
    cases step with
    | advance d => exact ih (Level.Sound.later h (Nat.le_add_right _ _)) hpos
    | call c =>
      have hrate := (b.perform_cases now c).1
      have hrest := ih (h.perform c) (by rw [hrate]; exact hpos)
      rw [hrate] at hrest
      rw [grants, grantedWithin_cons]
      dsimp only
      by_cases hw : (s ≤ now ∧ now ≤ t) ∧ 0 < (b.perform now c).1.tokens c
      · -- the first grant of the window meets a level that was just refilled
        have hlater := grants_le_worth (b := (b.perform now c).2) (s := s) steps hw.1.2
        have hfirst := worth_perform_lt h hw.2
        rw [hrate] at hlater
        rw [if_pos hw.1, Nat.mul_add]
        unfold Instant at *
        omega
      · have hzero : (if s ≤ now ∧ now ≤ t then (b.perform now c).1.tokens c else 0) = 0 := by
          split
          · rename_i hin
            exact Nat.eq_zero_of_not_pos fun hpos => hw ⟨hin, hpos⟩
          · rfl
        rw [hzero, Nat.zero_add]
        exact hrest

theorem sound_run_steps (steps : List BucketStep) (h : b.Sound start now) :
    (b.run now steps).2.rate = b.rate ∧
      (b.run now steps).2.Sound start (now + BucketStep.duration steps) := by
  induction steps generalizing b now with
  | nil => exact ⟨rfl, h⟩
  | cons step steps ih =>
    cases step with
    | advance d =>
      have hrest := ih (h.later (Nat.le_add_right now d.nanos))
      rw [Nat.add_assoc] at hrest
      exact hrest
    | call c =>
      obtain ⟨hrate, hsound⟩ := ih (h.perform c)
      exact ⟨hrate.trans (b.perform_cases now c).1, hsound⟩

/-- **The rate bound.** In every run of a bucket that is new at `start`, whatever it is asked and
however long its interval is, what it grants from `s` to `t` is at most its capacity, one token for
every interval in between, and one more. It never holds more than its capacity, and never carries
over a whole interval. -/
theorem grants_within_le (r : Rate) (start : Instant) (steps : List BucketStep) :
    ∃ b, new r.capacity r.interval start = .ok b ∧
      (∀ s t, grantedWithin s t (b.grants start steps) ≤
        r.capacity + (t - s) / r.interval.nanos + 1) ∧
      (b.run start steps).2.level.available ≤ r.capacity ∧
      (b.run start steps).2.level.carry.nanos < r.interval.nanos := by
  have hfull : (full r start).Sound start start := Level.sound_full r start
  obtain ⟨hrate, hsound⟩ := sound_run_steps steps hfull
  have hrate' : ((full r start).run start steps).2.rate = r := hrate
  have hav := hsound.available_le
  have hcarry := hsound.carry_lt
  rw [hrate'] at hav hcarry
  refine ⟨full r start, new_rate r start, fun s t => ?_, hav, hcarry⟩
  have hlt : r.interval.nanos * grantedWithin s t ((full r start).grants start steps) <
      r.interval.nanos * (r.capacity + 1) + (t - s) := grants_lt steps hfull
  have hwhole : t - s < r.interval.nanos * ((t - s) / r.interval.nanos + 1) :=
    Nat.lt_mul_div_succ (t - s) r.interval_pos
  have hmul : r.interval.nanos * grantedWithin s t ((full r start).grants start steps) <
      r.interval.nanos * (r.capacity + 1 + ((t - s) / r.interval.nanos + 1)) := by
    rw [Nat.mul_add]
    exact Nat.lt_trans hlt (Nat.add_lt_add_left hwhole _)
  have hbound := Nat.lt_of_mul_lt_mul_left hmul
  omega

/-- The bound is reached. A bucket of two tokens that was looked at one nanosecond before a token is
due grants three tokens in two adjacent nanoseconds. -/
example :
    let r : Rate := ⟨2, ⟨4, by decide⟩, by decide, by decide⟩
    grantedWithin 7 8 ((full r 0).grants 0 [.advance ⟨7, by decide⟩, .call .available,
      .call (.consume 2), .advance ⟨1, by decide⟩, .call (.acquire 1)]) =
        r.capacity + (8 - 7) / r.interval.nanos + 1 := by
  decide

end TokenBucket

end SigningKeys
