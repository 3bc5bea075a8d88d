import SigningKeys.Proofs.TokenBucket.Careful
import SigningKeys.Proofs.TokenBucket.Probes
import SigningKeys.Proofs.TokenBucket.Wait

/-!
# When a call of a bucket is stopped

Within the longest duration after the start of a bucket one thing can stop a call: a wait that is
longer than any duration. That takes a count of which more than one token is missing. A call that is
stopped leaves the bucket refilled, as a look at its tokens would.

* `Level.Untold`, `Level.wait_eq_none_iff`: when a wait is too long to be told;
* `timeUntil_eq_overflow_iff`, `acquire_eq_overflow_iff`: the calls that it stops;
* `perform_of_overflow`: what such a call leaves;
* `spoken_run_interrupt`: the mark that it leaves changes no later reply;
* `StoppedExactly`, **`Sound.stoppedExactly`**: all of this, for a sound bucket.
-/

namespace SigningKeys

namespace Level

variable {r : Rate} {l : Level} {now : Instant} {count : Nat}

/-- **The wait for some tokens is too long to be told**: more than one of them is missing, and what
is missing to the next one and the further intervals are together longer than any duration. -/
def Untold (r : Rate) (l : Level) (now : Instant) (count : Nat) : Prop :=
  l.available + 1 < count ∧
    maxNanos < (r.interval.nanos - l.gained now) +
      r.interval.nanos * min (count - l.available - 1) maxIntervals

theorem wait_eq_none_iff (hg : l.gained now < r.interval.nanos) :
    l.wait r now count = none ↔ l.Untold r now count := by
  by_cases hlack : l.available < count
  · rw [wait_eq hlack hg, Duration.ofNanos?, Untold]
    by_cases hone : count = l.available + 1
    · -- the next token is less than an interval away
      have hfurther : count - l.available - 1 = 0 := by omega
      have hfirst : r.interval.nanos - l.gained now ≤ maxNanos :=
        Nat.le_trans (Nat.sub_le _ _) r.interval.nanos_le
      rw [hfurther, Nat.zero_min, Nat.mul_zero, Nat.add_zero, dif_pos hfirst]
      exact iff_of_false (Option.some_ne_none _) fun h =>
        absurd h.1 (Nat.not_lt.2 (Nat.le_of_eq hone))
    · split
      · rename_i hfits
        exact iff_of_false (Option.some_ne_none _) fun h => absurd h.2 (Nat.not_lt.2 hfits)
      · rename_i hlong
        exact iff_of_true rfl ⟨by omega, Nat.lt_of_not_le hlong⟩
  · rw [wait_of_le (Nat.le_of_not_lt hlack), Untold]
    exact iff_of_false (Option.some_ne_none _) fun h => hlack (Nat.lt_of_succ_lt h.1)

end Level

namespace TokenBucket

variable {b : TokenBucket} {start now : Instant} {count : Nat}

/-! ## Which calls are stopped -/

theorem wait_caughtUp_eq_none_iff : (b.caughtUp now).level.wait b.rate now count = none ↔
    (b.caughtUp now).level.Untold b.rate now count :=
  Level.wait_eq_none_iff (Level.gained_refilled_lt b.rate b.level now)

theorem fault_of_reply {α : Type} (f : α → BucketReply) {r : Answered α}
    (hf : ∀ a, f a ≠ .fault .overflow) (hr : (reply f r).1 = .fault .overflow) :
    r.1 = .error .overflow := by
  obtain ⟨answer, b⟩ := r
  cases answer with
  | ok a => exact absurd hr (hf a)
  | error e =>
    cases hr
    rfl

section

variable (h : b.Sound start now) (hn : now - start ≤ maxNanos)

include h hn

theorem availableNow_eq :
    b.availableNow now = (.ok (b.caughtUp now).level.available, b.caughtUp now) :=
  refilled_eq h hn _

theorem consume_ne_overflow (count : Nat) : (b.consume now count).1 ≠ .error .overflow := by
  intro hf
  by_cases hc : 1 ≤ count ∧ count ≤ b.rate.capacity
  · rw [consume, checked_of_serves h hn hc] at hf
    split at hf <;> cases hf
  · rw [consume, checked_of_not_serves hc] at hf
    cases hf

theorem timeUntil_eq_overflow_iff (count : Nat) :
    (b.timeUntil now count).1 = .error .overflow ↔
      (1 ≤ count ∧ count ≤ b.rate.capacity) ∧ (b.caughtUp now).level.Untold b.rate now count := by
  by_cases hc : 1 ≤ count ∧ count ≤ b.rate.capacity
  · rw [timeUntil, checked_of_serves h hn hc, ← wait_caughtUp_eq_none_iff]
    split
    · rename_i w hwait
      exact iff_of_false (fun hf => by cases hf) fun hnone =>
        Option.some_ne_none _ (hwait.symm.trans hnone.2)
    · rename_i hwait
      exact iff_of_true rfl ⟨hc, hwait⟩
  · rw [timeUntil, checked_of_not_serves hc]
    exact iff_of_false (fun hf => by cases hf) fun hno => hc hno.1

/-- Tokens that are there are not too far away, so nothing stops a call that takes them. -/
theorem acquire_eq_overflow_iff (count : Nat) :
    (b.acquire now count).1 = .error .overflow ↔
      (1 ≤ count ∧ count ≤ b.rate.capacity) ∧ (b.caughtUp now).level.Untold b.rate now count := by
  by_cases hc : 1 ≤ count ∧ count ≤ b.rate.capacity
  · rw [acquire, checked_of_serves h hn hc, ← wait_caughtUp_eq_none_iff]
    split
    · rename_i hthere
      have hwait : (b.caughtUp now).level.wait b.rate now count = some Duration.zero :=
        Level.wait_of_le hthere
      exact iff_of_false (fun hf => by cases hf) fun hnone =>
        Option.some_ne_none _ (hwait.symm.trans hnone.2)
    · split
      · rename_i w hwait
        exact iff_of_false (fun hf => by cases hf) fun hnone =>
          Option.some_ne_none _ (hwait.symm.trans hnone.2)
      · rename_i hwait
        exact iff_of_true rfl ⟨hc, hwait⟩
  · rw [acquire, checked_of_not_serves hc]
    exact iff_of_false (fun hf => by cases hf) fun hno => hc hno.1

/-! ## What a stopped call leaves -/

/-- **A call that is stopped leaves the bucket as a look at its tokens would**, but for the mark. -/
theorem perform_of_overflow {c : BucketCall} (hc : (b.perform now c).1 = .fault .overflow) :
    (b.perform now c).2 = (b.availableNow now).2.interrupt := by
  rw [availableNow_eq h hn]
  cases c with
  | consume count =>
    rw [perform] at hc
    have hstopped := fault_of_reply .granted (fun _ hf => BucketReply.noConfusion hf) hc
    exact absurd hstopped (consume_ne_overflow h hn count)
  | wait count =>
    rw [perform] at hc ⊢
    have hstopped := fault_of_reply .wait (fun _ hf => BucketReply.noConfusion hf) hc
    have hserves := ((timeUntil_eq_overflow_iff h hn count).1 hstopped).1
    rw [reply_snd]
    rw [timeUntil, checked_of_serves h hn hserves] at hstopped ⊢
    split at hstopped
    · cases hstopped
    · rfl
  | acquire count =>
    rw [perform] at hc ⊢
    have hstopped := fault_of_reply .acquired (fun _ hf => BucketReply.noConfusion hf) hc
    have hserves := ((acquire_eq_overflow_iff h hn count).1 hstopped).1
    rw [reply_snd]
    rw [acquire, checked_of_serves h hn hserves] at hstopped ⊢
    split at hstopped
    · cases hstopped
    · rename_i hlack
      rw [if_neg hlack]
      split at hstopped
      · cases hstopped
      · rfl
  | available =>
    rw [perform, availableNow_eq h hn] at hc
    cases hc
  | debug => cases hc

end

/-! ## Nobody notices the mark -/

section

variable {α : Type} {k : TokenBucket → Answered α}

theorem refilled_interrupt (hk : ∀ b : TokenBucket, k b.interrupt = ((k b).1, (k b).2.interrupt)) :
    b.interrupt.refilled now k = ((b.refilled now k).1, (b.refilled now k).2.interrupt) := by
  have hlevel : b.interrupt.level.refill b.interrupt.rate now = b.level.refill b.rate now := rfl
  rw [refilled, refilled, hlevel]
  cases b.level.refill b.rate now with
  | none => rfl
  | some l => exact hk (b.withLevel l)

theorem checked_interrupt (hk : ∀ b : TokenBucket, k b.interrupt = ((k b).1, (k b).2.interrupt)) :
    b.interrupt.checked now count k =
      ((b.checked now count k).1, (b.checked now count k).2.interrupt) := by
  have hserves : b.interrupt.serves count = b.serves count := rfl
  rw [checked, checked, hserves]
  split
  · exact refilled_interrupt hk
  · rfl

end

theorem reply_interrupt {α : Type} (f : α → BucketReply) (r : Answered α) :
    reply f (r.1, r.2.interrupt) = ((reply f r).1, (reply f r).2.interrupt) := by
  obtain ⟨answer, b⟩ := r
  cases answer <;> rfl

/-- **The mark changes no answer** but the text of the bucket, and stays. -/
theorem spoken_perform_interrupt (b : TokenBucket) (now : Instant) (c : BucketCall) :
    (b.interrupt.perform now c).1.spoken = (b.perform now c).1.spoken ∧
      (b.interrupt.perform now c).2 = (b.perform now c).2.interrupt := by
  cases c with
  | consume count =>
    have hcall : b.interrupt.consume now count =
        ((b.consume now count).1, (b.consume now count).2.interrupt) := by
      refine checked_interrupt fun b => ?_
      by_cases hle : count ≤ b.level.available
      · rw [if_pos hle, if_pos (show count ≤ b.interrupt.level.available from hle)]
        rfl
      · rw [if_neg hle, if_neg (show ¬count ≤ b.interrupt.level.available from hle)]
    rw [perform, perform, hcall, reply_interrupt]
    exact ⟨rfl, rfl⟩
  | wait count =>
    have hcall : b.interrupt.timeUntil now count =
        ((b.timeUntil now count).1, (b.timeUntil now count).2.interrupt) := by
      refine checked_interrupt fun b => ?_
      rw [show b.interrupt.level = b.level from rfl, show b.interrupt.rate = b.rate from rfl]
      cases b.level.wait b.rate now count <;> rfl
    rw [perform, perform, hcall, reply_interrupt]
    exact ⟨rfl, rfl⟩
  | acquire count =>
    have hcall : b.interrupt.acquire now count =
        ((b.acquire now count).1, (b.acquire now count).2.interrupt) := by
      refine checked_interrupt fun b => ?_
      rw [show b.interrupt.level = b.level from rfl, show b.interrupt.rate = b.rate from rfl]
      split
      · rfl
      · cases b.level.wait b.rate now count <;> rfl
    rw [perform, perform, hcall, reply_interrupt]
    exact ⟨rfl, rfl⟩
  | available =>
    have hcall : b.interrupt.availableNow now =
        ((b.availableNow now).1, (b.availableNow now).2.interrupt) :=
      refilled_interrupt fun b => rfl
    rw [perform, perform, hcall, reply_interrupt]
    exact ⟨rfl, rfl⟩
  | debug =>
    rw [perform, perform, BucketReply.spoken, BucketReply.spoken]
    exact ⟨rfl, rfl⟩

theorem spoken_run_interrupt (b : TokenBucket) (now : Instant) (steps : List BucketStep) :
    (b.interrupt.run now steps).1.map (·.bind BucketReply.spoken) =
      (b.run now steps).1.map (·.bind BucketReply.spoken) := by
  induction steps generalizing b now with
  | nil => rfl
  | cons step steps ih =>
    cases step with
    | advance d => exact congrArg (none :: ·) (ih b (now + d.nanos))
    | call c =>
      obtain ⟨hspoken, hleft⟩ := b.spoken_perform_interrupt now c
      rw [run, run]
      dsimp only
      rw [hleft, List.map_cons, List.map_cons, ih]
      exact congrArg (· :: _) hspoken

/-! ## All of it -/

/-- **What stops the calls of a bucket** at `now`, and what it means for later ones. -/
structure StoppedExactly (b : TokenBucket) (now : Instant) : Prop where
  /-- Nothing is subtracted from less, and nothing is divided by zero. -/
  careful : ∀ c, b.performCarefully now c = .ok (b.perform now c)
  /-- Nothing stops a call that takes tokens if they are there. -/
  consume : ∀ count, (b.consume now count).1 ≠ .error .overflow
  /-- Nothing stops a look. -/
  available : (b.availableNow now).1 = .ok (b.availableNow now).2.level.available
  /-- To tell how far away some tokens are is stopped if that is too far to be told, counted from
  what a look would find. -/
  wait : ∀ count, (b.timeUntil now count).1 = .error .overflow ↔
    (1 ≤ count ∧ count ≤ b.rate.capacity) ∧
      (b.availableNow now).2.level.Untold b.rate now count
  /-- So is a call that acquires them. -/
  acquire : ∀ count, (b.acquire now count).1 = .error .overflow ↔
    (1 ≤ count ∧ count ≤ b.rate.capacity) ∧
      (b.availableNow now).2.level.Untold b.rate now count
  /-- What is stopped takes no token: it leaves what a look would leave, and a mark. -/
  leaves : ∀ c, (b.perform now c).1 = .fault .overflow →
    (b.perform now c).2 = (b.availableNow now).2.interrupt
  /-- Whatever the bucket is asked later, it replies as after a look. -/
  usable : ∀ c, (b.perform now c).1 = .fault .overflow → ∀ steps,
    ((b.perform now c).2.run now steps).1.map (·.bind BucketReply.spoken) =
      ((b.availableNow now).2.run now steps).1.map (·.bind BucketReply.spoken)

theorem Sound.stoppedExactly (h : b.Sound start now) (hn : now - start ≤ maxNanos) :
    b.StoppedExactly now := by
  constructor
  case careful => exact performCarefully_eq h.available_le
  case consume => exact consume_ne_overflow h hn
  case available => rw [availableNow_eq h hn]
  case wait =>
    rw [availableNow_eq h hn]
    exact timeUntil_eq_overflow_iff h hn
  case acquire =>
    rw [availableNow_eq h hn]
    exact acquire_eq_overflow_iff h hn
  case leaves => exact fun c hc => perform_of_overflow h hn hc
  case usable =>
    intro c hc steps
    rw [perform_of_overflow h hn hc]
    exact spoken_run_interrupt _ now steps

end TokenBucket

end SigningKeys
