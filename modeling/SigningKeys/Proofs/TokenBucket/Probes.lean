import SigningKeys.Proofs.TokenBucket.Window

/-!
# Looks that nobody notices

Calls that grant nothing still refill a bucket: they credit what is due, move the instant of the last
credit and carry the rest over. Up to an interval of `2 ^ 64` nanoseconds no progress is lost by that,
and all other calls are answered as if those had not been made. Beyond it the rest may be cut off.

* `Probed`: runs with probes, and the same runs without;
* `Probed.heard`, `BucketReply.spoken`: the replies to all other calls, and what counts in them;
* `spoken_perform_eq`: buckets that mirror the same eager bucket answer alike;
* **`probes_unnoticed`**: probes change no other reply;
* `probe_costs_token`: with a longer interval a probe can cost a token.
-/

namespace SigningKeys

/-- A step of a run, or a probe that is left out in a shorter one. -/
inductive Probed where
  | step (s : BucketStep)
  | probe (c : BucketCall)

namespace Probed

/-- The run with its probes. -/
def full (es : List Probed) : List BucketStep :=
  es.map fun
    | step s => s
    | probe c => .call c

/-- The run without its probes. -/
def bare (es : List Probed) : List BucketStep :=
  es.filterMap fun
    | step s => some s
    | probe _ => none

/-- Whether a probe grants nothing. -/
def idle : Probed × Option BucketReply → Bool
  | (probe c, some reply) => reply.tokens c == 0
  | _ => true

/-- What is heard of the replies of a run with probes: those to its other steps. -/
def heard (es : List Probed) (replies : List (Option BucketReply)) : List (Option BucketReply) :=
  (es.zip replies).filterMap fun
    | (step _, reply) => some reply
    | (probe _, _) => none

end Probed

/-- What a reply says of tokens and waits: everything but the text of a bucket. -/
def BucketReply.spoken : BucketReply → Option BucketReply
  | .text _ => none
  | reply => some reply

theorem Level.wait_congr {r : Rate} {now : Instant} {l' l : Level} (ha : l'.available = l.available)
    (hg : l'.gained now = l.gained now) (count : Nat) : l'.wait r now count = l.wait r now count := by
  have hprogress : l'.progress now = l.progress now := congrArg Duration.ofNanos? hg
  rw [wait, wait, ha, hprogress]

namespace TokenBucket

variable {b b' : TokenBucket} {start now : Instant} {e : EagerBucket} {es : List Probed}

/-- Every probe of a run grants nothing. -/
def Fruitless (b : TokenBucket) (now : Instant) (es : List Probed) : Prop :=
  ∀ x ∈ es.zip (b.run now (Probed.full es)).1, Probed.idle x = true

instance (b : TokenBucket) (now : Instant) (es : List Probed) : Decidable (b.Fruitless now es) :=
  inferInstanceAs (Decidable (∀ x ∈ es.zip (b.run now (Probed.full es)).1, Probed.idle x = true))

/-! ## One call -/

theorem gained_caughtUp_eq (h : b.Mirrors start e) (hi : b.rate.interval.nanos ≤ 2 ^ 64) :
    (b.caughtUp e.now).level.gained e.now = (e.now - start) % b.rate.interval.nanos := by
  have hafter := h.caughtUp hi
  have hlt : (b.caughtUp e.now).level.gained e.now < b.rate.interval.nanos :=
    Level.gained_refilled_lt b.rate b.level e.now
  rw [← Nat.mod_eq_of_lt hlt]
  exact hafter.onGrid.gained_modEq hafter.sound

/-- **Buckets that mirror the same eager bucket answer alike.** -/
theorem spoken_perform_eq (h' : b'.Mirrors start e) (h : b.Mirrors start e)
    (hi : e.rate.interval.nanos ≤ 2 ^ 64) (hn : e.now - start ≤ maxNanos) (c : BucketCall) :
    (b'.perform e.now c).1.spoken = (b.perform e.now c).1.spoken := by
  have hi' : b'.rate.interval.nanos ≤ 2 ^ 64 := h'.rate_eq ▸ hi
  rw [h.rate_eq] at hi
  have hrate : b'.rate = b.rate := h'.rate_eq.symm.trans h.rate_eq
  have havailable : (b'.caughtUp e.now).level.available = (b.caughtUp e.now).level.available :=
    (available_caughtUp h' hi').trans (available_caughtUp h hi).symm
  have hgained : (b'.caughtUp e.now).level.gained e.now = (b.caughtUp e.now).level.gained e.now := by
    rw [gained_caughtUp_eq h' hi', gained_caughtUp_eq h hi, hrate]
  have hwait : ∀ count, (b'.caughtUp e.now).level.wait (b'.caughtUp e.now).rate e.now count =
      (b.caughtUp e.now).level.wait (b.caughtUp e.now).rate e.now count := by
    intro count
    rw [show (b'.caughtUp e.now).rate = (b.caughtUp e.now).rate from hrate]
    exact Level.wait_congr havailable hgained count
  have hchecked : ∀ {α : Type} (f : α → BucketReply) (count : Nat)
      (k : TokenBucket → Except BucketFault α × TokenBucket),
      (reply f (k (b'.caughtUp e.now))).1 = (reply f (k (b.caughtUp e.now))).1 →
      (reply f (b'.checked e.now count k)).1 = (reply f (b.checked e.now count k)).1 := by
    intro α f count k hk
    by_cases hc : 1 ≤ count ∧ count ≤ b.rate.capacity
    · rw [checked_of_serves h'.sound hn (hrate ▸ hc), checked_of_serves h.sound hn hc]
      exact hk
    · rw [checked_of_not_serves (hrate ▸ hc), checked_of_not_serves hc, hrate]
      rfl
  cases c with
  | consume count =>
    refine congrArg BucketReply.spoken (hchecked .granted count _ ?_)
    rw [havailable]
    split <;> rfl
  | wait count =>
    refine congrArg BucketReply.spoken (hchecked .wait count _ ?_)
    rw [hwait]
    split <;> rfl
  | acquire count =>
    refine congrArg BucketReply.spoken (hchecked .acquired count _ ?_)
    rw [havailable, hwait]
    split
    · rfl
    · split <;> rfl
  | available =>
    rw [perform, perform, availableNow, availableNow, refilled_eq h'.sound hn,
      refilled_eq h.sound hn, havailable]
    rfl
  | debug =>
    have hsilent : ∀ B : TokenBucket, (B.perform e.now .debug).1.spoken = none := fun B => by
      rw [perform, BucketReply.spoken]
    rw [hsilent, hsilent]

/-- A call that grants nothing changes nothing of what is mirrored. -/
theorem Mirrors.probe (h : b.Mirrors start e) (hi : e.rate.interval.nanos ≤ 2 ^ 64)
    {c : BucketCall} (hc : (b.perform e.now c).1.tokens c = 0) :
    (b.perform e.now c).2.Mirrors start e := by
  obtain ⟨hrate, ⟨-, hlevel⟩ | ⟨-, hlevel⟩⟩ := b.perform_cases e.now c
  · rw [Mirrors, hrate, hlevel]
    exact h
  · rw [Mirrors, hrate, hlevel, hc]
    exact Level.Mirrors.refilled h (h.rate_eq ▸ hi)

/-! ## Runs -/

/-- Two buckets that mirror the same eager one are heard to answer alike, with probes and without. -/
theorem heard_eq (h' : b'.Mirrors start e) (h : b.Mirrors start e)
    (hi : e.rate.interval.nanos ≤ 2 ^ 64)
    (hn : e.now + BucketStep.duration (Probed.bare es) - start ≤ maxNanos)
    (hf : b.Fruitless e.now es) :
    (Probed.heard es (b.run e.now (Probed.full es)).1).map (·.bind BucketReply.spoken) =
      (b'.run e.now (Probed.bare es)).1.map (·.bind BucketReply.spoken) := by
  induction es generalizing b' b e with
  | nil => rfl
  | cons x es ih =>
    have hle : e.now - start ≤ maxNanos := by
      unfold Instant at *
      omega
    cases x with
    | probe c =>
      have hnone : (b.perform e.now c).1.tokens c = 0 := eq_of_beq (hf _ List.mem_cons_self)
      exact ih h' (h.probe hi hnone) hi hn fun x hx => hf x (List.mem_cons_of_mem _ hx)
    | step s =>
      cases s with
      | advance d =>
        have hnow : (e.advance d).now = e.now + d.nanos := e.now_advance d
        have hadvance' : b'.Mirrors start (e.advance d) := Level.Mirrors.iterate_tick h' d.nanos
        have hadvance : b.Mirrors start (e.advance d) := Level.Mirrors.iterate_tick h d.nanos
        have hrest := ih hadvance' hadvance (by rw [hadvance.rate_eq, ← h.rate_eq]; exact hi)
          (by rw [hnow, Nat.add_assoc]; exact hn)
          (by rw [hnow]; exact fun x hx => hf x (List.mem_cons_of_mem _ hx))
        rw [hnow] at hrest
        exact congrArg (none :: ·) hrest
      | call c =>
        have hnow : (e.answer c).2.now = e.now := e.now_answer c
        have hagree' : Agree start e c (b'.perform e.now c) :=
          agree_perform h' (h'.rate_eq ▸ hi) hle c
        have hagree : Agree start e c (b.perform e.now c) := agree_perform h (h.rate_eq ▸ hi) hle c
        have hrest := ih hagree'.2 hagree.2 (by rw [e.rate_answer]; exact hi)
          (by rw [hnow]; exact hn)
          (by rw [hnow]; exact fun x hx => hf x (List.mem_cons_of_mem _ hx))
        rw [hnow] at hrest
        have hfirst := spoken_perform_eq h' h hi hle c
        exact congrArg₂ (· :: ·) hfirst.symm hrest

/-- **Probes are not noticed.** In a run of a bucket that is new at `start`, with an interval of at
most `2 ^ 64` nanoseconds and of at most the longest duration, probes that grant nothing change no
grant, no refusal, no wait and no count that other calls are answered. -/
theorem probes_unnoticed (r : Rate) (start : Instant) (es : List Probed)
    (hi : r.interval.nanos ≤ 2 ^ 64) (hn : BucketStep.duration (Probed.bare es) ≤ maxNanos)
    (hf : (TokenBucket.full r start).Fruitless start es) :
    ∃ b, new r.capacity r.interval start = .ok b ∧
      (Probed.heard es (b.run start (Probed.full es)).1).map (·.bind BucketReply.spoken) =
        (b.run start (Probed.bare es)).1.map (·.bind BucketReply.spoken) := by
  refine ⟨_, new_rate r start, ?_⟩
  refine heard_eq (full_mirrors r start) (full_mirrors r start) hi ?_ hf
  change start + BucketStep.duration (Probed.bare es) - start ≤ maxNanos
  rw [Nat.add_sub_cancel_left]
  exact hn

/-- Probes at the edges of a grid of five nanoseconds, one of them refused and one with a count that
no bucket of this capacity serves, between calls that are granted, refused and told a wait. -/
theorem probes_unnoticed_grid :
    let r : Rate := ⟨2, ⟨5, by decide⟩, by decide, by decide⟩
    let es : List Probed :=
      [.step (.call (.consume 2)), .step (.advance ⟨4, by decide⟩), .probe .available,
        .step (.advance ⟨3, by decide⟩), .probe (.acquire 2), .step (.advance ⟨2, by decide⟩),
        .step (.call (.wait 2)), .step (.advance ⟨1, by decide⟩), .probe (.consume 3),
        .step (.call (.acquire 2)), .step (.call (.consume 1))]
    r.interval.nanos ≤ 2 ^ 64 ∧ BucketStep.duration (Probed.bare es) ≤ maxNanos ∧
      (TokenBucket.full r 3).Fruitless 3 es ∧
      ∃ b, new r.capacity r.interval 3 = .ok b ∧
        (Probed.heard es (b.run 3 (Probed.full es)).1).map (·.bind BucketReply.spoken) =
          (b.run 3 (Probed.bare es)).1.map (·.bind BucketReply.spoken) :=
  have hf := by decide
  ⟨by decide, by decide, hf, probes_unnoticed _ 3 _ (by decide) (by decide) hf⟩

/-- **With a longer interval a probe can cost a token.** Two tokens are due after two intervals of
`2 ^ 65` nanoseconds. A look after one interval and three quarters credits the first one, but only
`2 ^ 64 - 1` nanoseconds of the rest are carried over. -/
theorem probe_costs_token :
    let r : Rate := ⟨2, ⟨2 ^ 65, by decide⟩, by decide, by decide⟩
    let es : List Probed :=
      [.step (.call (.consume 2)), .step (.advance ⟨2 ^ 65 + 3 * 2 ^ 63, by decide⟩),
        .probe .available, .step (.advance ⟨2 ^ 63, by decide⟩), .step (.call .available)]
    BucketStep.duration (Probed.bare es) ≤ maxNanos ∧ (TokenBucket.full r 0).Fruitless 0 es ∧
      Probed.heard es ((TokenBucket.full r 0).run 0 (Probed.full es)).1 =
        [some (.granted true), none, none, some (.available 1)] ∧
      ((TokenBucket.full r 0).run 0 (Probed.bare es)).1 =
        [some (.granted true), none, none, some (.available 2)] := by
  decide +kernel

end TokenBucket

end SigningKeys
