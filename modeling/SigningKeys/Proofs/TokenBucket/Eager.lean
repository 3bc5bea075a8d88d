import Mathlib.Data.Nat.ModEq
import Mathlib.Logic.Function.Iterate
import SigningKeys.Proofs.TokenBucket.Refill

/-!
# Tokens on a fixed grid

An eager bucket regains its tokens one at a time: at every whole number of intervals after its
start one token is added, unless the bucket is full. A `TokenBucket` credits tokens only when it is
looked at, many at once. Nobody can tell the two apart by what they grant.

* `EagerBucket`, `EagerBucket.tick`: the eager bucket, and one nanosecond of its life;
* `Verdict`, `TokenBucket.verdicts`: what a run shows of the tokens;
* `Level.OnGrid`: the progress of a level is the time since the last point of the grid;
* `Level.Mirrors`: the invariant that ties a level to an eager bucket;
* **`run_eq_eager`**: a run of a bucket shows what the run of the eager bucket shows, and its
  progress stays on the grid.
-/

namespace SigningKeys

/-- What a call tells about the tokens of a bucket. -/
inductive Verdict where
  | granted
  | refused
  | holds (count : Nat)
deriving DecidableEq

/-! ## The eager bucket -/

/-- A bucket that adds its tokens when they are due. -/
structure EagerBucket where
  rate : Rate
  start : Instant
  now : Instant
  tokens : Nat

namespace EagerBucket

/-- A full bucket, the grid of which begins at `start`. -/
def full (r : Rate) (start : Instant) : EagerBucket :=
  { rate := r, start, now := start, tokens := r.capacity }

/-- Add a token, unless the bucket is full. -/
def gain (b : EagerBucket) : EagerBucket :=
  if b.tokens < b.rate.capacity then { b with tokens := b.tokens + 1 } else b

/-- **One nanosecond passes.** A token is added when a whole number of intervals has passed since
the start. -/
def tick (b : EagerBucket) : EagerBucket :=
  let b := { b with now := b.now + 1 }
  if b.rate.interval.nanos ∣ b.now - b.start then b.gain else b

/-- Time passes. -/
def advance (b : EagerBucket) (d : Duration) : EagerBucket := tick^[d.nanos] b

/-- The bucket with `count` tokens less. -/
def take (b : EagerBucket) (count : Nat) : EagerBucket := { b with tokens := b.tokens - count }

/-- Take `count` tokens if they are all there. A count that no bucket of this capacity can serve is
neither granted nor refused. -/
def request (b : EagerBucket) (count : Nat) : Option Verdict × EagerBucket :=
  if 1 ≤ count ∧ count ≤ b.rate.capacity then
    if count ≤ b.tokens then (some .granted, b.take count)
    else (some .refused, b)
  else (none, b)

/-- A call of the bucket. -/
def answer (b : EagerBucket) : BucketCall → Option Verdict × EagerBucket
  | .consume count | .acquire count => b.request count
  | .available => (some (.holds b.tokens), b)
  | .wait _ | .debug => (none, b)

/-- The verdicts of a run, one for each step. -/
def verdicts (b : EagerBucket) : List BucketStep → List (Option Verdict)
  | [] => []
  | .advance d :: steps => none :: (b.advance d).verdicts steps
  | .call c :: steps => (b.answer c).1 :: (b.answer c).2.verdicts steps

/-- The bucket after a run. -/
def after (b : EagerBucket) : List BucketStep → EagerBucket
  | [] => b
  | .advance d :: steps => (b.advance d).after steps
  | .call c :: steps => (b.answer c).2.after steps

theorem now_tick (b : EagerBucket) : b.tick.now = b.now + 1 := by
  unfold tick gain
  dsimp only
  split
  · split <;> rfl
  · rfl

theorem now_advance (b : EagerBucket) (d : Duration) : (b.advance d).now = b.now + d.nanos := by
  rw [advance]
  induction d.nanos with
  | zero => rfl
  | succ n ih => rw [Function.iterate_succ_apply', now_tick, ih, Nat.add_assoc]

theorem now_request (b : EagerBucket) (count : Nat) : (b.request count).2.now = b.now := by
  unfold request
  split
  · split <;> rfl
  · rfl

theorem now_answer (b : EagerBucket) (c : BucketCall) : (b.answer c).2.now = b.now := by
  cases c with
  | consume count | acquire count => exact now_request b count
  | available | wait count | debug => rfl

theorem rate_request (b : EagerBucket) (count : Nat) : (b.request count).2.rate = b.rate := by
  unfold request
  split
  · split <;> rfl
  · rfl

theorem rate_answer (b : EagerBucket) (c : BucketCall) : (b.answer c).2.rate = b.rate := by
  cases c with
  | consume count | acquire count => exact rate_request b count
  | available | wait count | debug => rfl

end EagerBucket

/-! ## What a run of a bucket shows -/

/-- What the reply to a call tells about the tokens. A call to acquire tokens that an overflow stops
takes nothing, like one that is refused; no other call may be stopped if it is to tell anything. -/
def BucketReply.verdict : BucketCall → BucketReply → Option Verdict
  | _, .granted true => some .granted
  | _, .granted false => some .refused
  | _, .acquired none => some .granted
  | _, .acquired (some _) => some .refused
  | .acquire _, .fault .overflow => some .refused
  | _, .available count => some (.holds count)
  | _, .wait _ | _, .text _ | _, .fault _ => none

namespace TokenBucket

/-- The verdict of a step, none when time passes. -/
def verdict : BucketStep → Option BucketReply → Option Verdict
  | .call c, some reply => reply.verdict c
  | _, _ => none

/-- The verdicts of a run, one for each step. -/
def verdicts (b : TokenBucket) (now : Instant) (steps : List BucketStep) : List (Option Verdict) :=
  List.zipWith verdict steps (b.run now steps).1

end TokenBucket

/-- How far the clock moves in a run, in nanoseconds. -/
def BucketStep.duration : List BucketStep → Nat
  | [] => 0
  | .advance d :: steps => d.nanos + duration steps
  | .call _ :: steps => duration steps

/-! ## The grid -/

namespace Level

/-- **The grid of a bucket**: what is carried over is the time since its last point. -/
def OnGrid (r : Rate) (start : Instant) (l : Level) : Prop :=
  l.carry.nanos = (l.lastRefill - start) % r.interval.nanos

/-- The invariant that ties a level to an eager bucket: the tokens that are not yet credited are the
whole intervals of progress. -/
structure Mirrors (r : Rate) (start : Instant) (l : Level) (e : EagerBucket) : Prop where
  rate_eq : e.rate = r
  start_eq : e.start = start
  sound : l.Sound r start e.now
  onGrid : l.OnGrid r start
  tokens_eq : e.tokens = min r.capacity (l.available + l.gained e.now / r.interval.nanos)

variable {r : Rate} {start now : Instant} {l : Level}

/-- Progress and the last credit are a whole number of intervals apart on the clock. -/
theorem OnGrid.gained_add (hg : l.OnGrid r start) (hs : l.Sound r start now) :
    l.gained now + r.interval.nanos * ((l.lastRefill - start) / r.interval.nanos) =
      now - start := by
  have hdiv := Nat.mod_add_div (l.lastRefill - start) r.interval.nanos
  have hcarry := hs.carry_le
  have hlast := hs.lastRefill_le
  rw [OnGrid] at hg
  unfold gained elapsed Instant at *
  omega

/-- **Nothing is lost**: up to whole intervals, the progress is the time since the start. -/
theorem OnGrid.gained_modEq (hg : l.OnGrid r start) (hs : l.Sound r start now) :
    l.gained now ≡ now - start [MOD r.interval.nanos] := by
  rw [← hg.gained_add hs]
  exact (Nat.add_mul_mod_self_left _ _ _).symm

namespace Mirrors

variable {e : EagerBucket}

/-- The next nanosecond is a point of the grid exactly if it completes an interval of progress. -/
theorem dvd_iff (h : l.Mirrors r start e) :
    e.rate.interval.nanos ∣ e.now + 1 - e.start ↔ r.interval.nanos ∣ l.gained e.now + 1 := by
  have hgained := h.onGrid.gained_add h.sound
  have hstart := h.sound.carry_le
  have hlast := h.sound.lastRefill_le
  have heq : e.now + 1 - start = l.gained e.now + 1 +
      r.interval.nanos * ((l.lastRefill - start) / r.interval.nanos) := by
    unfold Instant at *
    omega
  rw [h.rate_eq, h.start_eq, heq]
  exact (Nat.dvd_add_iff_left (Nat.dvd_mul_right _ _)).symm

/-- A nanosecond changes nothing of what is mirrored. -/
theorem tick (h : l.Mirrors r start e) : l.Mirrors r start e.tick := by
  have hlast := h.sound.lastRefill_le
  have hgained : l.gained (e.now + 1) = l.gained e.now + 1 := by
    unfold gained elapsed Instant at *
    omega
  have hsound : l.Sound r start (e.now + 1) := h.sound.later (Nat.le_succ _)
  have htokens := h.tokens_eq
  have hdiv : (l.gained e.now + 1) / r.interval.nanos = l.gained e.now / r.interval.nanos +
      if r.interval.nanos ∣ l.gained e.now + 1 then 1 else 0 := Nat.succ_div
  rw [EagerBucket.tick]
  by_cases hd : r.interval.nanos ∣ l.gained e.now + 1
  · rw [if_pos hd] at hdiv
    rw [if_pos (h.dvd_iff.2 hd), EagerBucket.gain]
    split
    · rename_i hlt
      refine ⟨h.rate_eq, h.start_eq, hsound, h.onGrid, ?_⟩
      dsimp only at hlt ⊢
      rw [h.rate_eq] at hlt
      rw [hgained, hdiv]
      omega
    · rename_i hge
      refine ⟨h.rate_eq, h.start_eq, hsound, h.onGrid, ?_⟩
      dsimp only at hge ⊢
      rw [h.rate_eq] at hge
      rw [hgained, hdiv]
      omega
  · rw [if_neg hd] at hdiv
    rw [if_neg (mt h.dvd_iff.1 hd)]
    refine ⟨h.rate_eq, h.start_eq, hsound, h.onGrid, ?_⟩
    dsimp only
    rw [hgained, hdiv, htokens, Nat.add_zero]

theorem iterate_tick (h : l.Mirrors r start e) (n : Nat) :
    l.Mirrors r start (EagerBucket.tick^[n] e) := by
  induction n with
  | zero => exact h
  | succ n ih =>
    rw [Function.iterate_succ_apply']
    exact ih.tick

/-- With less than one interval of progress all tokens are credited. -/
theorem available_eq (h : l.Mirrors r start e) (hl : l.gained e.now < r.interval.nanos) :
    l.available = e.tokens := by
  have hav := h.sound.available_le
  rw [h.tokens_eq, Nat.div_eq_of_lt hl, Nat.add_zero]
  omega

/-- **A refill changes nothing of what is mirrored**, as long as no remainder is cut off. -/
theorem refilled (h : l.Mirrors r start e) (hi : r.interval.nanos ≤ 2 ^ 64) :
    (l.refilled r e.now).Mirrors r start e := by
  by_cases hl : l.gained e.now < r.interval.nanos
  · rwa [refilled_of_lt hl]
  · have hlast : (l.refilled r e.now).lastRefill = e.now := by rw [Level.refilled, if_neg hl]
    refine ⟨h.rate_eq, h.start_eq, h.sound.refilled, ?_, ?_⟩
    · rw [OnGrid, carry_refilled hi (Nat.le_of_not_lt hl), hlast]
      exact h.onGrid.gained_modEq h.sound
    · have hav := h.sound.available_le
      rw [h.tokens_eq, available_refilled, Nat.div_eq_of_lt (gained_refilled_lt r l e.now)]
      omega

theorem take (h : l.Mirrors r start e) (hl : l.gained e.now < r.interval.nanos) {count : Nat}
    (hc : count ≤ e.tokens) :
    (l.take count).Mirrors r start (e.take count) := by
  have hav := h.available_eq hl
  have hle := h.sound.available_le
  have hdiv : (l.take count).gained e.now / r.interval.nanos = 0 := Nat.div_eq_of_lt hl
  refine ⟨h.rate_eq, h.start_eq, h.sound.take count, h.onGrid, ?_⟩
  rw [EagerBucket.take, hdiv]
  dsimp only [Level.take]
  omega

end Mirrors

end Level

/-! ## Calls and runs -/

namespace TokenBucket

/-- A bucket mirrors an eager one if its level does. -/
abbrev Mirrors (start : Instant) (b : TokenBucket) (e : EagerBucket) : Prop :=
  b.level.Mirrors b.rate start e

variable {b : TokenBucket} {start : Instant} {e : EagerBucket} {count : Nat}

section Call

variable (h : b.Mirrors start e) (hi : b.rate.interval.nanos ≤ 2 ^ 64)
  (hn : e.now - start ≤ maxNanos)

include h hi

theorem Mirrors.caughtUp : (b.caughtUp e.now).Mirrors start e := Level.Mirrors.refilled h hi

theorem available_caughtUp : (b.caughtUp e.now).level.available = e.tokens :=
  Level.Mirrors.available_eq (h.caughtUp hi) (Level.gained_refilled_lt _ _ _)

include hn

/-- One call: both buckets say the same, and go on mirroring each other. -/
def Agree (start : Instant) (e : EagerBucket) (c : BucketCall) (r : BucketReply × TokenBucket) :
    Prop :=
  r.1.verdict c = (e.answer c).1 ∧ r.2.Mirrors start (e.answer c).2

theorem agree_consume (count : Nat) :
    Agree start e (.consume count) (b.perform e.now (.consume count)) := by
  rw [perform, consume, Agree, EagerBucket.answer, EagerBucket.request, h.rate_eq]
  by_cases hc : 1 ≤ count ∧ count ≤ b.rate.capacity
  · rw [checked_of_serves h.sound hn hc, if_pos hc, available_caughtUp h hi]
    split
    · rename_i hle
      exact ⟨rfl, Level.Mirrors.take (h.caughtUp hi) (Level.gained_refilled_lt _ _ _) hle⟩
    · exact ⟨rfl, h.caughtUp hi⟩
  · rw [checked_of_not_serves hc, if_neg hc]
    exact ⟨rfl, h⟩

theorem agree_acquire (count : Nat) :
    Agree start e (.acquire count) (b.perform e.now (.acquire count)) := by
  rw [perform, acquire, Agree, EagerBucket.answer, EagerBucket.request, h.rate_eq]
  by_cases hc : 1 ≤ count ∧ count ≤ b.rate.capacity
  · rw [checked_of_serves h.sound hn hc, if_pos hc, available_caughtUp h hi]
    split
    · rename_i hle
      exact ⟨rfl, Level.Mirrors.take (h.caughtUp hi) (Level.gained_refilled_lt _ _ _) hle⟩
    · -- a wait that overflows takes as little as one that is told
      split
      · exact ⟨rfl, h.caughtUp hi⟩
      · exact ⟨rfl, h.caughtUp hi⟩
  · rw [checked_of_not_serves hc, if_neg hc]
    exact ⟨rfl, h⟩

theorem agree_wait (count : Nat) :
    Agree start e (.wait count) (b.perform e.now (.wait count)) := by
  rw [perform, timeUntil, Agree, EagerBucket.answer]
  by_cases hc : 1 ≤ count ∧ count ≤ b.rate.capacity
  · rw [checked_of_serves h.sound hn hc]
    split
    · exact ⟨rfl, h.caughtUp hi⟩
    · exact ⟨rfl, h.caughtUp hi⟩
  · rw [checked_of_not_serves hc]
    exact ⟨rfl, h⟩

theorem agree_available : Agree start e .available (b.perform e.now .available) := by
  rw [perform, availableNow, refilled_eq h.sound hn, available_caughtUp h hi]
  exact ⟨rfl, h.caughtUp hi⟩

theorem agree_perform (c : BucketCall) : Agree start e c (b.perform e.now c) := by
  cases c with
  | consume count => exact agree_consume h hi hn count
  | wait count => exact agree_wait h hi hn count
  | acquire count => exact agree_acquire h hi hn count
  | available => exact agree_available h hi hn
  | debug => exact ⟨rfl, h⟩

end Call

section Run

theorem Agree.rate_eq {c : BucketCall} {r : BucketReply × TokenBucket} (h : b.Mirrors start e)
    (ha : Agree start e c r) : r.2.rate = b.rate := by
  rw [← ha.2.rate_eq, EagerBucket.rate_answer, h.rate_eq]

/-- **Two buckets that mirror each other** give the same verdicts in every run, and mirror each other
afterwards. -/
theorem run_mirrors (steps : List BucketStep) (h : b.Mirrors start e)
    (hi : b.rate.interval.nanos ≤ 2 ^ 64)
    (hn : e.now + BucketStep.duration steps - start ≤ maxNanos) :
    b.verdicts e.now steps = e.verdicts steps ∧
      (b.run e.now steps).2.Mirrors start (e.after steps) ∧
      (b.run e.now steps).2.rate = b.rate ∧
      (e.after steps).now = e.now + BucketStep.duration steps := by
  induction steps generalizing b e with
  | nil => exact ⟨rfl, h, rfl, rfl⟩
  | cons step steps ih =>
    cases step with
    | advance d =>
      have hnow : (e.advance d).now = e.now + d.nanos := e.now_advance d
      have hsum : (e.advance d).now + BucketStep.duration steps =
          e.now + BucketStep.duration (.advance d :: steps) := by
        rw [hnow, BucketStep.duration, Nat.add_assoc]
      have hmirrors : b.Mirrors start (e.advance d) := Level.Mirrors.iterate_tick h d.nanos
      obtain ⟨hv, hm, hr, ha⟩ := ih hmirrors hi (by rw [hsum]; exact hn)
      rw [hnow] at hv hm hr
      exact ⟨congrArg (none :: ·) hv, hm, hr, ha.trans hsum⟩
    | call c =>
      have hnow : (e.answer c).2.now = e.now := e.now_answer c
      have hle : e.now - start ≤ maxNanos := by
        unfold Instant at *
        omega
      have hagree : Agree start e c (b.perform e.now c) := agree_perform h hi hle c
      have hrate : (b.perform e.now c).2.rate = b.rate := hagree.rate_eq h
      obtain ⟨hv, hm, hr, ha⟩ := ih hagree.2 (by rw [hrate]; exact hi) (by rw [hnow]; exact hn)
      rw [hnow] at hv hm hr ha
      exact ⟨congrArg₂ (· :: ·) hagree.1 hv, hm, hr.trans hrate, ha⟩

theorem full_mirrors (r : Rate) (start : Instant) :
    (full r start).Mirrors start (EagerBucket.full r start) := by
  have hgained : (full r start).level.gained start = 0 := Nat.sub_self start
  have hgrid : (0 : Nat) = (start - start) % r.interval.nanos := by
    rw [Nat.sub_self, Nat.zero_mod]
  have htokens : r.capacity = min r.capacity (r.capacity + 0 / r.interval.nanos) := by
    rw [Nat.zero_div, Nat.add_zero, Nat.min_self]
  refine ⟨rfl, rfl, Level.sound_full r start, hgrid, ?_⟩
  rw [← hgained] at htokens
  exact htokens

theorem new_rate (r : Rate) (start : Instant) :
    new r.capacity r.interval start = .ok (full r start) := by
  rw [new, Rate.check, dif_pos r.capacity_pos, dif_pos r.interval_pos]
  rfl

/-- **Crediting lazily is crediting on the grid.** In every run of at most the longest duration, a
bucket that is new at `start` grants, refuses and holds what the eager bucket does, and up to whole
intervals its progress is the time since `start`. -/
theorem run_eq_eager (r : Rate) (start : Instant) (steps : List BucketStep)
    (hi : r.interval.nanos ≤ 2 ^ 64) (hn : BucketStep.duration steps ≤ maxNanos) :
    ∃ b, new r.capacity r.interval start = .ok b ∧
      b.verdicts start steps = (EagerBucket.full r start).verdicts steps ∧
      (b.run start steps).2.level.lastRefill ≤ start + BucketStep.duration steps ∧
      elapsed (start + BucketStep.duration steps) (b.run start steps).2.level.lastRefill +
          (b.run start steps).2.level.carry.nanos ≡
        BucketStep.duration steps [MOD r.interval.nanos] := by
  have hend : start + BucketStep.duration steps - start = BucketStep.duration steps :=
    Nat.add_sub_cancel_left _ _
  obtain ⟨hv, hm, hr, ha⟩ := run_mirrors steps (full_mirrors r start) hi (by
    change start + BucketStep.duration steps - start ≤ maxNanos
    rw [hend]
    exact hn)
  have hsound := hm.sound
  have hmod := hm.onGrid.gained_modEq hsound
  rw [ha] at hsound hmod
  rw [hr] at hmod
  refine ⟨full r start, new_rate r start, hv, hsound.lastRefill_le, hmod.trans ?_⟩
  change start + BucketStep.duration steps - start ≡ _ [MOD _]
  rw [hend]

/-- A bucket of two tokens on a grid of four nanoseconds: of a long pause only two tokens come, and
the two nanoseconds past the last point of the grid count on. -/
theorem run_eq_eager_saturated :
    let r : Rate := ⟨2, ⟨4, by decide⟩, by decide, by decide⟩
    let steps : List BucketStep :=
      [.call (.consume 1), .advance ⟨14, by decide⟩, .call .available, .call (.acquire 2),
        .call (.acquire 3), .advance ⟨2, by decide⟩, .call (.acquire 2), .call .available]
    r.interval.nanos ≤ 2 ^ 64 ∧ BucketStep.duration steps ≤ maxNanos ∧
      ∃ b, new r.capacity r.interval 7 = .ok b ∧
        b.verdicts 7 steps = (EagerBucket.full r 7).verdicts steps ∧
        (b.run 7 steps).2.level.lastRefill ≤ 7 + BucketStep.duration steps ∧
        elapsed (7 + BucketStep.duration steps) (b.run 7 steps).2.level.lastRefill +
            (b.run 7 steps).2.level.carry.nanos ≡
          BucketStep.duration steps [MOD r.interval.nanos] :=
  ⟨by decide, by decide, run_eq_eager _ 7 _ (by decide) (by decide)⟩

example :
    (EagerBucket.full ⟨2, ⟨4, by decide⟩, by decide, by decide⟩ 7).verdicts
        [.call (.consume 1), .advance ⟨14, by decide⟩, .call .available, .call (.acquire 2),
          .call (.acquire 3), .advance ⟨2, by decide⟩, .call (.acquire 2), .call .available] =
      [some .granted, none, some (.holds 2), some .granted, none, none, some .refused,
        some (.holds 1)] := by
  decide

end Run

end TokenBucket

end SigningKeys
