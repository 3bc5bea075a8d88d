import SigningKeys.Proofs.Pipeline.Ledger
import SigningKeys.Proofs.TokenBucket.Refusal

/-!
# When to try again

A limiter that refuses a call tells how far away the next token of its bucket is. The bucket may
serve any number of limiters, and its user may call it too. Their dealings with it are dealings of
one bucket with one level, so what one limiter advises holds whatever the others do.

* `State.dealings`: all dealings with a bucket in a run, by limiters and by its user;
* `refusal_of_asked`: a call that is refused ends with the wait that it was told;
* `dealings_eq`: these are the dealings of the bucket with what the ledger says it was asked;
* `State.Advises`, **`retry_sound`**: the advice of limiters, and that it is sound in every run that
  takes no more than the longest duration.
-/

namespace SigningKeys

/-- The reply that stands for the answer to a limiter. -/
def BucketReply.ofAnswer : Except BucketFault (Option Duration) → BucketReply
  | .ok w => .acquired w
  | .error f => .fault f

/-- The dealing with a bucket that an event is. -/
def Event.dealing? (b : Nat) (now : Instant) : Event → Option Dealing
  | .called _ _ => none
  | .asked _ b' answer => if b' = b then some ⟨now, .acquire 1, .ofAnswer answer⟩ else none

@[simp] theorem Event.dealing?_called (b : Nat) (now : Instant) (p : Provider) (kid : String) :
    (called p kid).dealing? b now = none := rfl

@[simp] theorem Event.dealing?_asked (b : Nat) (now : Instant) (inner : Provider) (b' : Nat)
    (answer : Except BucketFault (Option Duration)) :
    (asked inner b' answer).dealing? b now =
      if b' = b then some ⟨now, .acquire 1, .ofAnswer answer⟩ else none := rfl

@[simp] theorem Event.asks_called (b : Nat) (p : Provider) (kid : String) :
    (called p kid).asks b = false := rfl

@[simp] theorem Event.asks_asked (b : Nat) (inner : Provider) (b' : Nat)
    (answer : Except BucketFault (Option Duration)) :
    (asked inner b' answer).asks b = (b' == b) := rfl

/-- What the limiters in a turn have to do with a bucket. -/
def Turn.dealings (b : Nat) (T : Turn) : List Dealing :=
  T.events.filterMap (Event.dealing? b T.before.now)

namespace State

/-- What a move has to do with a bucket. -/
def dealingsIn (s : State) (b : Nat) : Move → List Dealing
  | .callBucket b' c =>
    if b' = b then (s.buckets[b]?).toList.map fun B => ⟨s.now, c, (B.perform s.now c).1⟩ else []
  | .turn i => ((s.turn? (.turn i)).map (Turn.dealings b)).getD []
  | _ => []

/-- **The dealings with a bucket in a run**, by limiters and by its user. -/
def dealings (s : State) (b : Nat) : List Move → List Dealing
  | [] => []
  | m :: ms => s.dealingsIn b m ++ (s.apply m).dealings b ms

/-- **The advice of the limiters on a bucket** in a run. -/
structure Advises (s₀ : State) (ms : List Move) (b : Nat) : Prop where
  /-- A call that is refused ends with the wait that it was told. -/
  told : ∀ T ∈ s₀.history ms, ∀ S w, .asked S b (.ok (some w)) ∈ T.events →
    T.result? = some (.error (.rateLimited w))
  /-- No call about one token fails, by whomever it is made. -/
  served : ∀ E ∈ s₀.dealings b ms, E.call.single = true → ∀ f, E.reply ≠ .fault f
  /-- What the bucket is asked after a refusal, by limiters and by its user, keeps its promise. -/
  kept : ∀ ms₁ m ms₂ T S w, ms = ms₁ ++ m :: ms₂ → (s₀.run ms₁).turn? m = some T →
    .asked S b (.ok (some w)) ∈ T.events →
      ∃ B, (s₀.run ms).buckets[b]? = some B ∧
        Kept B.rate.interval T.before.now w (T.after.dealings b ms₂)

variable {s : State} {b : Nat} {B : TokenBucket} {last : Instant}

theorem dealings_append (s : State) (b : Nat) (ms ns : List Move) :
    s.dealings b (ms ++ ns) = s.dealings b ms ++ (s.run ms).dealings b ns := by
  induction ms generalizing s with
  | nil => rfl
  | cons m ms ih => rw [List.cons_append, dealings, dealings, ih, run_cons, List.append_assoc]

theorem dealingsIn_of_turn? {m : Move} {T : Turn} (hT : s.turn? m = some T) :
    s.dealingsIn b m = T.dealings b := by
  cases m with
  | turn i => rw [dealingsIn, hT]; rfl
  | _ => cases hT

/-! ## Refusals -/

/-- **A refusal ends the call**, and it is the last event of it. -/
theorem refusal_of_asked {kid : String} {p S : Provider} {w : Duration}
    (h : .asked S b (.ok (some w)) ∈ events kid p s) :
    (call kid p s).1 = .ended (.error (.rateLimited w)) ∧
      ∃ before, events kid p s = before ++ [.asked S b (.ok (some w))] := by
  induction p generalizing s with
  | source i | remote r | cached inner c => cases List.mem_singleton.1 h
  | limited inner b' ih =>
    cases hB : s.buckets[b']? with
    | none =>
      rw [events, hB] at h
      cases List.mem_singleton.1 h
    | some B =>
      cases ha : B.acquire s.now 1 with
      | mk answer B' =>
        cases answer with
        | error f =>
          rw [events, hB] at h
          dsimp only at h
          rw [ha] at h
          rcases List.mem_cons.1 h with h | h
          · cases h
          · cases List.mem_singleton.1 h
        | ok granted =>
          cases granted with
          | none =>
            obtain ⟨hcall, hevents⟩ := call_granted kid inner hB ha
            rw [hevents] at h ⊢
            rcases List.mem_cons.1 h with h | h
            · cases h
            · rcases List.mem_cons.1 h with h | h
              · cases h
              · obtain ⟨hended, before, hbefore⟩ := ih h
                refine ⟨hcall ▸ hended, .called (.limited inner b') kid ::
                  .asked inner b' (.ok none) :: before, ?_⟩
                rw [hbefore]
                rfl
          | some wait =>
            obtain ⟨hcall, hevents⟩ := call_refused kid inner hB ha
            rw [hevents] at h ⊢
            rcases List.mem_cons.1 h with h | h
            · cases h
            · cases List.mem_singleton.1 h
              exact ⟨congrArg Prod.fst hcall, [_], rfl⟩

theorem refusal_of_turn {T : Turn} {S : Provider} {w : Duration}
    (h : .asked S b (.ok (some w)) ∈ T.events) :
    T.result? = some (.error (.rateLimited w)) ∧
      ∃ earlier, T.dealings b = earlier ++ [⟨T.before.now, .acquire 1, .acquired (some w)⟩] := by
  unfold Turn.events at h
  cases hstage : T.stage with
  | admitted i n | fetching e | told result =>
    rw [hstage] at h
    exact absurd h List.not_mem_nil
  | calling =>
    rw [hstage] at h
    obtain ⟨hended, before, hbefore⟩ := refusal_of_asked h
    constructor
    · rw [Turn.result?, hstage, verdict, hended]
    · refine ⟨before.filterMap (Event.dealing? b T.before.now), ?_⟩
      rw [Turn.dealings, Turn.events, hstage]
      dsimp only
      rw [hbefore, List.filterMap_append]
      simp [BucketReply.ofAnswer]

/-! ## All dealings are with one bucket -/

theorem ofAnswer_acquire {now : Instant} {B B' : TokenBucket}
    {answer : Except BucketFault (Option Duration)} (h : B.acquire now 1 = (answer, B')) :
    BucketReply.ofAnswer answer = (B.perform now (.acquire 1)).1 := by
  rw [TokenBucket.perform, h]
  cases answer <;> rfl

theorem dealings_absent {kid : String} {p : Provider} (hb : s.buckets[b]? = none) :
    (events kid p s).filterMap (Event.dealing? b s.now) = [] := by
  induction p generalizing s with
  | source i | remote r | cached inner c => rfl
  | limited inner b' ih =>
    have hlimiter := atLimiter kid inner b' s
    generalize call kid (.limited inner b') s = r, events kid (.limited inner b') s = es
      at hlimiter ⊢
    cases hlimiter with
    | absent => rfl
    | @stopped B B' answer o m found =>
      have hne : b' ≠ b := by
        rintro rfl
        exact Option.some_ne_none B (found.symm.trans hb)
      simp [List.filterMap_cons, hne]
    | @granted B B' found =>
      have hne : b' ≠ b := by
        rintro rfl
        exact Option.some_ne_none B (found.symm.trans hb)
      have hpaid : (s.paid b' B').buckets[b]? = none := (List.getElem?_set_ne hne).trans hb
      have hrest := ih hpaid
      change (events kid inner (s.paid b' B')).filterMap (Event.dealing? b s.now) = [] at hrest
      simp [List.filterMap_cons, hne, hrest]

/-- What a call has to do with a bucket is what the bucket replies to its limiters. -/
theorem dealings_events {kid : String} {p : Provider} (hB : s.buckets[b]? = some B) :
    (events kid p s).filterMap (Event.dealing? b s.now) =
      B.dealings (List.replicate ((events kid p s).countP (·.asks b)) (s.now, .acquire 1)) := by
  induction p generalizing s B with
  | source i | remote r | cached inner c => rfl
  | limited inner b' ih =>
    have hlimiter := atLimiter kid inner b' s
    generalize call kid (.limited inner b') s = r, events kid (.limited inner b') s = es
      at hlimiter ⊢
    cases hlimiter with
    | absent => rfl
    | @stopped X X' answer o m found answered =>
      by_cases hb : b' = b
      · subst hb
        cases found.symm.trans hB
        simp [List.filterMap_cons, TokenBucket.dealings, ofAnswer_acquire answered]
      · simp [List.filterMap_cons, TokenBucket.dealings, hb]
    | @granted X X' found answer =>
      have hpaid : (s.paid b' X').buckets[b]? = _ := getElem?_set_acquire found answer b
      rw [hB, Option.map_some] at hpaid
      have hrest := ih hpaid
      change (events kid inner (s.paid b' X')).filterMap (Event.dealing? b s.now) =
        TokenBucket.dealings _ (List.replicate _ (s.now, _)) at hrest
      by_cases hb : b' = b
      · subst hb
        cases found.symm.trans hB
        rw [if_pos rfl] at hrest
        simpa [List.filterMap_cons, TokenBucket.dealings, TokenBucket.replay, ofAnswer_acquire answer,
          List.replicate_succ] using hrest
      · rw [if_neg hb] at hrest
        simpa [List.filterMap_cons, TokenBucket.replay, hb] using hrest

theorem dealingsIn_absent (hb : s.buckets[b]? = none) (m : Move) : s.dealingsIn b m = [] := by
  cases m with
  | callBucket b' c =>
    rw [dealingsIn, hb]
    exact ite_self _
  | turn i =>
    rw [dealingsIn]
    cases hT : s.turn? (.turn i) with
    | none => rfl
    | some T =>
      obtain ⟨j, -, heq⟩ := turn?_eq_some hT
      have hbefore : T.before.buckets[b]? = none := by rw [heq]; exact hb
      change T.dealings b = []
      rw [Turn.dealings, Turn.events]
      cases T.stage with
      | calling => exact dealings_absent hbefore
      | admitted | fetching | told => rfl
  | _ => rfl

theorem dealingsIn_eq (hB : s.buckets[b]? = some B) (m : Move) :
    s.dealingsIn b m = B.dealings (s.drawsIn b m) := by
  cases m with
  | callBucket b' c =>
    rw [dealingsIn, drawsIn, hB]
    split <;> rfl
  | turn i =>
    rw [dealingsIn, drawsIn]
    cases hT : s.turn? (.turn i) with
    | none => rfl
    | some T =>
      obtain ⟨j, -, heq⟩ := turn?_eq_some hT
      have hbefore : T.before.buckets[b]? = some B := by rw [heq]; exact hB
      change T.dealings b = B.dealings (T.draws b)
      rw [Turn.dealings, Turn.draws, Turn.events]
      cases T.stage with
      | calling => exact dealings_events hbefore
      | admitted | fetching | told => rfl
  | _ => rfl

end State

namespace TokenBucket

theorem dealings_append (B : TokenBucket) (calls more : List (Instant × BucketCall)) :
    B.dealings (calls ++ more) = B.dealings calls ++ (B.replay calls).dealings more := by
  induction calls generalizing B with
  | nil => rfl
  | cons e calls ih => rw [List.cons_append, dealings, dealings, ih, List.cons_append]; rfl

theorem rate_replay (B : TokenBucket) (calls : List (Instant × BucketCall)) :
    (B.replay calls).rate = B.rate := by
  induction calls generalizing B with
  | nil => rfl
  | cons e calls ih => exact (ih _).trans (B.perform_cases e.1 e.2).1

end TokenBucket

/-- Calls at one instant come before calls after it. -/
theorem Timely.append {last now later : Instant} {calls more : List (Instant × BucketCall)}
    (hcalls : ∀ e ∈ calls, e.1 = now) (hle : now ≤ later) (hlast : now ≤ last)
    (hmore : Timely last later more) : Timely last now (calls ++ more) := by
  induction calls with
  | nil =>
    cases more with
    | nil => trivial
    | cons e more => exact ⟨Nat.le_trans hle hmore.1, hmore.2⟩
  | cons e calls ih =>
    have he : e.1 = now := hcalls e List.mem_cons_self
    refine ⟨Nat.le_of_eq he.symm, he ▸ hlast, ?_⟩
    rw [he]
    exact ih fun e' he' => hcalls e' (List.mem_cons_of_mem _ he')

namespace State

variable {s : State} {b : Nat} {B : TokenBucket} {last : Instant}

/-- **The dealings with a bucket are its own**, with what the ledger says it was asked. -/
theorem dealings_eq (hB : s.buckets[b]? = some B) (ms : List Move) :
    s.dealings b ms = B.dealings (s.draws b ms) := by
  induction ms generalizing s B with
  | nil => rfl
  | cons m ms ih =>
    rw [dealings, draws, TokenBucket.dealings_append, dealingsIn_eq hB,
      ih ((s.draws_apply m).asked b B hB)]

theorem now_run (s : State) (ms : List Move) : s.now ≤ (s.run ms).now := by
  induction ms generalizing s with
  | nil => exact Nat.le_refl _
  | cons m ms ih => exact Nat.le_trans (s.now_apply m) (ih _)

theorem timely_draws (s : State) (b : Nat) (ms : List Move) (hlast : (s.run ms).now ≤ last) :
    Timely last s.now (s.draws b ms) := by
  induction ms generalizing s with
  | nil => trivial
  | cons m ms ih =>
    have hnow : s.now ≤ (s.run (m :: ms)).now := s.now_run (m :: ms)
    exact Timely.append (fun e he => drawsIn_now he) (s.now_apply m) (Nat.le_trans hnow hlast)
      (ih _ hlast)

/-- All dealings with a bucket are made after it was, in the order of time. -/
theorem dealings_cases (h : s.BucketsSound) (ms : List Move) (hlast : (s.run ms).now ≤ last) :
    s.dealings b ms = [] ∨ ∃ (B : TokenBucket) (now : Instant) (calls : _), B.Sound 0 now ∧ Timely last now calls ∧
      s.dealings b ms = B.dealings calls ∧
        (s.run ms).buckets[b]? = some (B.replay calls) := by
  induction ms generalizing s with
  | nil => exact .inl rfl
  | cons m ms ih =>
    cases hb : s.buckets[b]? with
    | none =>
      rw [dealings, dealingsIn_absent hb]
      exact ih (h.apply m) hlast
    | some B =>
      exact .inr ⟨B, s.now, s.draws b (m :: ms), h B (List.mem_of_getElem? hb),
        s.timely_draws b (m :: ms) hlast, dealings_eq hb (m :: ms), buckets_run s (m :: ms) hb⟩

/-- **The advice of limiters is sound.** In every run that takes no more than the longest duration,
whatever buckets, limiters and callers there are, the wait that a refused call ends with is at most
an interval. Until it is over, the bucket grants nothing to anybody, and whoever asks for one token
is told the rest of the same wait. After that, the first one to ask for one token is granted it. -/
theorem retry_sound (sources : List Source) (network : Network) (ms : List Move)
    (hn : ((blank sources network).run ms).now ≤ maxNanos) (b : Nat) :
    (blank sources network).Advises ms b := by
  have hsound : (blank sources network).BucketsSound := bucketsSound_run sources network []
  have hcases := dealings_cases (b := b) hsound ms hn
  constructor
  case told =>
    intro T _ S w hw
    exact (refusal_of_turn hw).1
  case served =>
    intro E hE hc
    rcases hcases with hnone | ⟨B, now, calls, hB, hcalls, heq, -⟩
    · rw [hnone] at hE
      exact absurd hE List.not_mem_nil
    · exact TokenBucket.replied_of_timely hB hcalls (Nat.le_refl _) E (heq ▸ hE) hc
  case kept =>
    intro ms₁ m ms₂ T S w hms hT hw
    obtain ⟨-, earlier, hearlier⟩ := refusal_of_turn hw
    have hsplit : (blank sources network).dealings b ms =
        ((blank sources network).dealings b ms₁ ++ earlier) ++
          ⟨T.before.now, .acquire 1, .acquired (some w)⟩ :: T.after.dealings b ms₂ := by
      rw [hms, dealings_append, dealings, dealingsIn_of_turn? hT, hearlier, apply_of_turn? hT]
      simp
    rcases hcases with hnone | ⟨B, now, calls, hB, hcalls, heq, hbucket⟩
    · rw [hnone] at hsplit
      exact absurd hsplit (by simp)
    · refine ⟨_, hbucket, ?_⟩
      rw [TokenBucket.rate_replay]
      exact TokenBucket.kept_of_refusal hB hcalls (Nat.le_refl _) (heq ▸ hsplit) rfl rfl

/-- One source that always fails. -/
def refusing : State := blank [{ behaviour := .sample none true }] .unreachable

/-- Two limiters share a bucket of one token, which takes `2 ^ 65` nanoseconds. The first one is
called, then after a quarter of an interval the second one. -/
def rivals : List Move :=
  [.bucket ⟨1, ⟨2 ^ 65, by decide⟩, Nat.one_pos, by decide⟩,
    .build (.source 0) ⟨some (.shared 0), none⟩, .build (.source 0) ⟨some (.shared 0), none⟩,
    .get 0 "a", .turn 0, .advance ⟨2 ^ 63, by decide⟩, .get 1 "b"]

/-- The bucket is looked at, and after another half of an interval the first limiter is called
again. When the interval is over, the user of the bucket asks for a token. -/
def rivalsLater : List Move :=
  [.callBucket 0 .available, .advance ⟨2 ^ 64, by decide⟩, .get 0 "c", .turn 0,
    .advance ⟨2 ^ 63, by decide⟩, .callBucket 0 (.consume 1)]

/-- The second limiter advises to wait for three quarters of an interval. After two more quarters
the first one advises to wait for the last quarter. Then the token is there. -/
theorem retry_sound_rivals :
    (refusing.run (rivals ++ .turn 0 :: rivalsLater)).now ≤ maxNanos ∧
      ∃ T, (refusing.run rivals).turn? (.turn 0) = some T ∧
        T.result? = some (.error (.rateLimited ⟨2 ^ 65 - 2 ^ 63, by decide⟩)) ∧
        T.after.dealings 0 rivalsLater =
          [⟨2 ^ 63, .available, .available 0⟩,
            ⟨2 ^ 63 + 2 ^ 64, .acquire 1, .acquired (some ⟨2 ^ 63, by decide⟩)⟩,
            ⟨2 ^ 65, .consume 1, .granted true⟩] ∧
        ∃ B, (refusing.run (rivals ++ .turn 0 :: rivalsLater)).buckets[0]? = some B ∧
          Kept B.rate.interval (2 ^ 63) ⟨2 ^ 65 - 2 ^ 63, by decide⟩
            (T.after.dealings 0 rivalsLater) := by
  have hnow : (refusing.run (rivals ++ .turn 0 :: rivalsLater)).now ≤ maxNanos := by decide +kernel
  have hadvises := retry_sound _ _ (rivals ++ .turn 0 :: rivalsLater) hnow 0
  have hturn : ((refusing.run rivals).turn? (.turn 0)).map
      (fun T => (T.events, T.before.now, T.after.dealings 0 rivalsLater)) =
        some ([.called (.limited (.source 0) 0) "b",
            .asked (.source 0) 0 (.ok (some ⟨2 ^ 65 - 2 ^ 63, by decide⟩))], 2 ^ 63,
          [⟨2 ^ 63, .available, .available 0⟩,
            ⟨2 ^ 63 + 2 ^ 64, .acquire 1, .acquired (some ⟨2 ^ 63, by decide⟩)⟩,
            ⟨2 ^ 65, .consume 1, .granted true⟩]) := by decide +kernel
  obtain ⟨T, hT, heq⟩ := Option.map_eq_some_iff.1 hturn
  obtain ⟨hevents, heq⟩ := Prod.mk.inj heq
  obtain ⟨hbefore, hdealings⟩ := Prod.mk.inj heq
  have hasked : .asked (.source 0) 0 (.ok (some ⟨2 ^ 65 - 2 ^ 63, by decide⟩)) ∈ T.events := by
    rw [hevents]
    exact List.mem_cons_of_mem _ List.mem_cons_self
  have hmem : T ∈ refusing.history (rivals ++ .turn 0 :: rivalsLater) := by
    rw [history_append, history, hT]
    exact List.mem_append_right _ List.mem_cons_self
  obtain ⟨B, hB, hkept⟩ := hadvises.kept rivals (.turn 0) rivalsLater T _ _ rfl hT hasked
  rw [hbefore] at hkept
  exact ⟨hnow, T, hT, hadvises.told T hmem _ _ hasked, hdealings, B, hB, hkept⟩

end State

end SigningKeys
