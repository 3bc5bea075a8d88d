import SigningKeys.Proofs.Pipeline.Retry
import SigningKeys.Proofs.TokenBucket.Overflow

/-!
# What stops a call

A bucket can be stopped by a wait that is too long to be told, and by nothing else. A limiter asks
for one token at a time, and the wait for one token is less than an interval. So within the longest
duration after a bucket is made, every limiter that draws on it gets its answer.

* `mem_dealings`: what a limiter asks in a turn is a dealing with the bucket in the run;
* `State.answered`, `State.answered_since`: limiters get their answers;
* **`stopped_exactly`**: what stops the calls of a bucket, and that no limiter is stopped.
-/

namespace SigningKeys

theorem Turn.mem_dealings {T : Turn} {S : Provider} {b : Nat}
    {answer : Except BucketFault (Option Duration)} (h : .asked S b answer ∈ T.events) :
    ⟨T.before.now, .acquire 1, .ofAnswer answer⟩ ∈ T.dealings b :=
  List.mem_filterMap.2 ⟨_, h, if_pos rfl⟩

namespace State

variable {s : State} {ms : List Move} {b : Nat} {start : Instant}

theorem mem_dealings {T : Turn} (hT : T ∈ s.history ms) {E : Dealing} (hE : E ∈ T.dealings b) :
    E ∈ s.dealings b ms := by
  induction ms generalizing s with
  | nil => exact absurd hT List.not_mem_nil
  | cons m ms ih =>
    rw [history] at hT
    rw [dealings]
    rcases List.mem_append.1 hT with hT | hT
    · rw [dealingsIn_of_turn? (Option.mem_toList.1 hT)]
      exact List.mem_append_left _ hE
    · exact List.mem_append_right _ (ih hT)

/-- **Limiters get their answers** from a bucket that is sound. -/
theorem answered {B : TokenBucket} (hB : s.buckets[b]? = some B) (h : B.Sound start s.now)
    (hn : (s.run ms).now - start ≤ maxNanos) :
    ∀ T ∈ s.history ms, ∀ S answer, .asked S b answer ∈ T.events → ∃ w, answer = .ok w := by
  intro T hT S answer hasked
  have hdealing : (⟨T.before.now, .acquire 1, .ofAnswer answer⟩ : Dealing) ∈
      B.dealings (s.draws b ms) := by
    rw [← dealings_eq hB]
    exact mem_dealings hT (Turn.mem_dealings hasked)
  have hserved := TokenBucket.replied_of_timely h (s.timely_draws b ms (Nat.le_refl _)) hn _
    hdealing rfl
  cases answer with
  | ok w => exact ⟨w, rfl⟩
  | error f => exact absurd rfl (hserved f)

/-- **Limiters get their answers** from a bucket that is made in the run. -/
theorem answered_since (hb : s.buckets[b]? = none) (hn : (s.run ms).now - s.now ≤ maxNanos) :
    ∀ T ∈ s.history ms, ∀ S answer, .asked S b answer ∈ T.events → ∃ w, answer = .ok w := by
  induction ms generalizing s with
  | nil => exact fun T hT => absurd hT List.not_mem_nil
  | cons m ms ih =>
    have hnow := s.now_apply m
    have hrest : ((s.apply m).run ms).now - s.now ≤ maxNanos := hn
    intro T hT S answer hasked
    rw [history] at hT
    rcases List.mem_append.1 hT with hT | hT
    · -- nobody asks a bucket that is not there yet
      have hdealing := Turn.mem_dealings hasked
      rw [← dealingsIn_of_turn? (Option.mem_toList.1 hT), dealingsIn_absent hb] at hdealing
      exact absurd hdealing List.not_mem_nil
    · cases hB : (s.apply m).buckets[b]? with
      | none => exact ih hB (Nat.le_trans (Nat.sub_le_sub_left hnow _) hrest) T hT S answer hasked
      | some B =>
        obtain ⟨r, rfl⟩ := (s.draws_apply m).fresh b B hb hB
        have hfull : (TokenBucket.full r s.now).Sound s.now s.now := Level.sound_full r s.now
        exact answered hB (hfull.later hnow) hrest T hT S answer hasked

end State

/-- **What stops the calls of a bucket.** A bucket that was accepted at `start` is stopped in every
run, of at most the longest duration, by waits that are too long to be told, and by nothing else. No
limiter is ever stopped by a bucket that was made no longer ago than that. -/
theorem stopped_exactly :
    (∀ (capacity : Nat) (interval : Duration) (start : Instant) (b : TokenBucket)
      (steps : List BucketStep), TokenBucket.new capacity interval start = .ok b →
        BucketStep.duration steps ≤ maxNanos →
          (b.run start steps).2.StoppedExactly (start + BucketStep.duration steps)) ∧
      ∀ (s : State) (ms : List Move) (b : Nat), s.buckets[b]? = none →
        (s.run ms).now - s.now ≤ maxNanos → ∀ T ∈ s.history ms, ∀ S answer,
          .asked S b answer ∈ T.events → ∃ w, answer = .ok w := by
  constructor
  · intro capacity interval start b steps hnew hn
    obtain ⟨r, -, -, rfl⟩ := TokenBucket.eq_full_of_new hnew
    have hfull : (TokenBucket.full r start).Sound start start := Level.sound_full r start
    have hlast : start + BucketStep.duration steps - start ≤ maxNanos := by
      rw [Nat.add_sub_cancel_left]
      exact hn
    exact (TokenBucket.sound_run_steps steps hfull).2.stoppedExactly hlast
  · exact fun s ms b hb hn => State.answered_since hb hn

/-- Three tokens that take the longest duration each. With none of them left, two are too far away
to be told, so whoever asks for two of them is stopped; limiters, who ask for one, are granted it or
are told when it is there. -/
theorem stopped_exactly_longInterval :
    let r : Rate := ⟨3, ⟨maxNanos, Nat.le_refl _⟩, by decide, by decide⟩
    let steps : List BucketStep := [.call (.consume 3), .advance ⟨5, by decide⟩]
    let b : TokenBucket := ((TokenBucket.full r 0).run 0 steps).2
    let s : State := .blank [{ behaviour := .sample none true }] .unreachable
    let ms : List Move :=
      [.bucket r, .build (.source 0) ⟨some (.shared 0), none⟩, .callBucket 0 (.consume 2),
        .get 0 "a", .get 0 "b", .turn 0, .turn 0]
    (b.acquire 5 2).1 = .error .overflow ∧ BucketStep.duration steps ≤ maxNanos ∧
      b.StoppedExactly (0 + BucketStep.duration steps) ∧
      s.buckets[0]? = none ∧ (s.run ms).now - s.now ≤ maxNanos ∧
      (s.ledger ms).filter (·.asks 0) =
        [.asked (.source 0) 0 (.ok none), .asked (.source 0) 0 (.ok (some ⟨maxNanos, by decide⟩))] ∧
      ∀ T ∈ s.history ms, ∀ S answer, .asked S 0 answer ∈ T.events → ∃ w, answer = .ok w := by
  intro r steps b s ms
  have hn : BucketStep.duration steps ≤ maxNanos := by decide
  have hnow : (s.run ms).now - s.now ≤ maxNanos := by decide +kernel
  have hstopped : (b.acquire 5 2).1 = .error .overflow := by decide +kernel
  refine ⟨hstopped, hn, ?_, rfl, hnow, by decide +kernel, ?_⟩
  · exact stopped_exactly.1 r.capacity r.interval 0 (.full r 0) steps (TokenBucket.new_rate r 0) hn
  · exact stopped_exactly.2 s ms 0 rfl hnow

end SigningKeys
