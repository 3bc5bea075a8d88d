import SigningKeys.Proofs.TokenBucket.Refill

/-!
# One token at a time

A bucket keeps its bounds whatever is asked of it. Within the longest duration a sound bucket either
grants one token or says how far away it is, and nothing else can happen.

* `Sound.perform`: every call keeps a bucket sound;
* **`acquire_one`**: what a sound bucket answers to a request for one token.
-/

namespace SigningKeys.TokenBucket

variable {b : TokenBucket} {start now : Instant}

/-! ## Calls keep the bounds -/

theorem Sound.caughtUp (h : b.Sound start now) : (b.caughtUp now).Sound start now :=
  Level.Sound.refilled h

/-- A call that goes on with the refilled bucket keeps the bounds if its rest does. -/
theorem Sound.afterRefill {α : Type} {k : TokenBucket → Except BucketFault α × TokenBucket}
    (h : b.Sound start now) (hk : ∀ b' : TokenBucket, b'.Sound start now → (k b').2.Sound start now) :
    (b.refilled now k).2.Sound start now := by
  by_cases hle : b.level.gained now ≤ maxNanos
  · rw [refilled_of_le hle]
    exact hk _ h.caughtUp
  · rw [refilled_of_lt (Nat.lt_of_not_le hle)]
    exact h

theorem Sound.afterCheck {α : Type} {k : TokenBucket → Except BucketFault α × TokenBucket}
    {count : Nat} (h : b.Sound start now)
    (hk : ∀ b' : TokenBucket, b'.Sound start now → (k b').2.Sound start now) :
    (b.checked now count k).2.Sound start now := by
  unfold TokenBucket.checked
  split
  · exact h.afterRefill hk
  · exact h

theorem reply_snd {α : Type} (f : α → BucketReply) (r : Except BucketFault α × TokenBucket) :
    (reply f r).2 = r.2 := by
  obtain ⟨answer, b⟩ := r
  cases answer <;> rfl

theorem Sound.acquire (h : b.Sound start now) (count : Nat) :
    (b.acquire now count).2.Sound start now := by
  refine h.afterCheck fun b' h' => ?_
  split
  · exact Level.Sound.take h' count
  · split
    · exact h'
    · exact h'

/-- **Every call keeps a bucket sound.** -/
theorem Sound.perform (h : b.Sound start now) (c : BucketCall) :
    (b.perform now c).2.Sound start now := by
  cases c with
  | consume count =>
    rw [TokenBucket.perform, reply_snd]
    refine h.afterCheck fun b' h' => ?_
    split
    · exact Level.Sound.take h' count
    · exact h'
  | wait count =>
    rw [TokenBucket.perform, reply_snd]
    refine h.afterCheck fun b' h' => ?_
    split
    · exact h'
    · exact h'
  | acquire count =>
    rw [TokenBucket.perform, reply_snd]
    exact h.acquire count
  | available =>
    rw [TokenBucket.perform, reply_snd]
    exact h.afterRefill fun b' h' => h'
  | debug => exact h

/-! ## One token -/

/-- **What a bucket answers to a request for one token**: it is granted if there is one after the
refill, and otherwise it is as far away as the next one is. -/
theorem acquire_one (h : b.Sound start now) (hn : now - start ≤ maxNanos) :
    0 < (b.caughtUp now).level.available ∧
        b.acquire now 1 = (.ok none, (b.caughtUp now).withLevel ((b.caughtUp now).level.take 1)) ∨
      (b.caughtUp now).level.available = 0 ∧
        ∃ w, w.nanos + (b.caughtUp now).level.gained now = b.rate.interval.nanos ∧ 0 < w.nanos ∧
          b.acquire now 1 = (.ok (some w), b.caughtUp now) := by
  rw [acquire, checked_of_serves h hn ⟨Nat.le_refl 1, b.rate.capacity_pos⟩]
  by_cases hav : 1 ≤ (b.caughtUp now).level.available
  · rw [if_pos hav]
    exact .inl ⟨hav, rfl⟩
  · rw [if_neg hav]
    have hzero : (b.caughtUp now).level.available = 0 := by omega
    have hlt : (b.caughtUp now).level.gained now < b.rate.interval.nanos :=
      Level.gained_refilled_lt _ _ _
    have hle : (b.caughtUp now).level.gained now ≤ maxNanos :=
      Nat.le_trans (Nat.le_of_lt hlt) b.rate.interval.nanos_le
    rw [Level.wait_one hle hzero]
    exact .inr ⟨hzero, _, Nat.sub_add_cancel (Nat.le_of_lt hlt), Nat.sub_pos_of_lt hlt, rfl⟩

end SigningKeys.TokenBucket
