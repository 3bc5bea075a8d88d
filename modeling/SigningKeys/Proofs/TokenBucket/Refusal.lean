import SigningKeys.Proofs.TokenBucket.Window

/-!
# What a refusal promises

A bucket that is asked for one token and refuses is empty, and tells how far away the next token is.
Until then nothing that happens to the bucket changes its level, so it keeps refusing, and counts
down. From then on there is a token for the next one who asks for it.

* `Dealing`, `TokenBucket.dealings`: calls of a bucket with their instants and replies;
* `Level.Dry`, `Level.Ripe`: an empty level with the next token due at some instant, and what
  becomes of it as long as nothing is granted;
* `replied_of_single`: calls about one token do not fail;
* `Kept`, **`kept_of_refusal`**: the promise of a refusal, and that all later dealings keep it.
-/

namespace SigningKeys

/-- A call of a bucket, with its instant and its reply. -/
structure Dealing where
  time : Instant
  call : BucketCall
  reply : BucketReply
deriving DecidableEq

/-- The tokens that are granted. -/
def Dealing.tokens (D : Dealing) : Nat := D.reply.tokens D.call

namespace BucketCall

/-- Whether a call asks for one token. -/
def takesOne (c : BucketCall) : Bool := c == .consume 1 || c == .acquire 1

/-- Whether a call is about one token. -/
def single (c : BucketCall) : Bool := c == .wait 1 || c.takesOne

end BucketCall

/-- Calls in the order of time, from `now` to `last`. -/
def Timely (last : Instant) : Instant → List (Instant × BucketCall) → Prop
  | _, [] => True
  | now, (t, _) :: calls => now ≤ t ∧ t ≤ last ∧ Timely last t calls

/-- **What a refusal promises**: `w` after the instant `t`, the next token is there, and what
follows keeps to it. -/
structure Kept (interval : Duration) (t : Instant) (w : Duration) (later : List Dealing) :
    Prop where
  pos : 0 < w.nanos
  le : w.nanos ≤ interval.nanos
  /-- Before that, no call of any kind is granted a token. -/
  barren : ∀ E ∈ later, E.time < t + w.nanos → E.tokens = 0
  /-- Whoever asks for one token is told just what is left of the wait. -/
  countdown : ∀ E ∈ later, E.time < t + w.nanos → E.call = .acquire 1 →
    ∃ rest : Duration, E.reply = .acquired (some rest) ∧ E.time + rest.nanos = t + w.nanos
  /-- After that, the first one to ask for one token is granted it, unless others are before. -/
  admits : ∀ between E after, later = between ++ E :: after → t + w.nanos ≤ E.time →
    E.call.takesOne = true → (∀ F ∈ between, t + w.nanos ≤ F.time → F.tokens = 0) → E.tokens = 1

namespace Level

variable {r : Rate} {l : Level} {now due : Instant}

/-- An empty level, whose next token is due at some instant. -/
structure Dry (r : Rate) (due : Instant) (l : Level) : Prop where
  empty : l.available = 0
  due_eq : due + l.carry.nanos = l.lastRefill + r.interval.nanos

/-- A level that holds a token, or will from some instant on. -/
def Ripe (r : Rate) (due : Instant) (l : Level) : Prop := l.Dry r due ∨ 1 ≤ l.available

/-- The time that is missing until then is missing to a whole interval. -/
theorem Dry.gained_add (h : l.Dry r due) (hl : l.lastRefill ≤ now) :
    l.gained now + due = now + r.interval.nanos := by
  have hdue := h.due_eq
  unfold gained elapsed Instant at *
  omega

/-- Until then nothing is refilled. -/
theorem Dry.refilled (h : l.Dry r due) (hl : l.lastRefill ≤ now) (hd : now < due) :
    l.refilled r now = l := by
  have hgained := h.gained_add hl
  refine refilled_of_lt ?_
  unfold Instant at *
  omega

/-- From then on there is a token. -/
theorem Ripe.available_pos (h : l.Ripe r due) (hl : l.lastRefill ≤ now) (hd : due ≤ now) :
    1 ≤ (l.refilled r now).available := by
  rcases h with h | h
  · have hgained := h.gained_add hl
    have hle : r.interval.nanos ≤ l.gained now := by
      unfold Instant at *
      omega
    have hcredit : 1 ≤ l.gained now / r.interval.nanos := Nat.div_pos hle r.interval_pos
    have hroom := r.capacity_pos
    rw [available_refilled, h.empty]
    generalize l.gained now / r.interval.nanos = credit at hcredit
    omega
  · exact Nat.le_trans h (le_available_refilled r l now)

/-- A refill takes no token away. -/
theorem Ripe.refilled (h : l.Ripe r due) (hl : l.lastRefill ≤ now) :
    (l.refilled r now).Ripe r due := by
  by_cases hd : now < due
  · rcases h with h | h
    · rw [h.refilled hl hd]
      exact .inl h
    · exact .inr (Nat.le_trans h (le_available_refilled r l now))
  · exact .inr (h.available_pos hl (Nat.le_of_not_lt hd))

end Level

namespace TokenBucket

variable {b : TokenBucket} {start now last due : Instant} {c : BucketCall} {w : Duration}
  {calls : List (Instant × BucketCall)}

/-- **The dealings of a bucket**: what it replies to calls at some instants. -/
def dealings (b : TokenBucket) : List (Instant × BucketCall) → List Dealing
  | [] => []
  | (t, c) :: calls => ⟨t, c, (b.perform t c).1⟩ :: (b.perform t c).2.dealings calls

/-! ## One call -/

/-- **Calls about one token do not fail.** -/
theorem replied_of_single (h : b.Sound start now) (hn : now - start ≤ maxNanos)
    (hc : c.single = true) (f : BucketFault) : (b.perform now c).1 ≠ .fault f := by
  have hserves : 1 ≤ 1 ∧ 1 ≤ b.rate.capacity := ⟨Nat.le_refl 1, b.rate.capacity_pos⟩
  have hone : c = .wait 1 ∨ c = .consume 1 ∨ c = .acquire 1 := by
    simpa [BucketCall.single, BucketCall.takesOne] using hc
  rcases hone with rfl | rfl | rfl
  · have hle : (b.caughtUp now).level.gained now ≤ maxNanos :=
      Nat.le_trans (Nat.le_of_lt (Level.gained_refilled_lt _ _ _)) b.rate.interval.nanos_le
    obtain ⟨wait, hwait⟩ : ∃ wait,
        (b.caughtUp now).level.wait (b.caughtUp now).rate now 1 = some wait := by
      by_cases hav : 1 ≤ (b.caughtUp now).level.available
      · exact ⟨_, if_pos hav⟩
      · exact ⟨_, Level.wait_one hle (by omega)⟩
    rw [perform, timeUntil, checked_of_serves h hn hserves, hwait]
    exact fun hf => BucketReply.noConfusion hf
  · rw [perform, consume, checked_of_serves h hn hserves]
    split <;> exact fun hf => BucketReply.noConfusion hf
  · rw [perform]
    rcases acquire_one h hn with ⟨-, hanswer⟩ | ⟨-, wait, -, -, hanswer⟩
    all_goals
      rw [hanswer]
      exact fun hf => BucketReply.noConfusion hf

/-- Until the next token is due, a call grants nothing and changes nothing. -/
theorem perform_of_dry (h : b.level.Dry b.rate due) (hl : b.level.lastRefill ≤ now)
    (hd : now < due) (c : BucketCall) :
    (b.perform now c).1.tokens c = 0 ∧ (b.perform now c).2.level = b.level := by
  obtain ⟨-, hcase | ⟨hle, hlevel⟩⟩ := b.perform_cases now c
  · exact hcase
  · rw [h.refilled hl hd] at hle hlevel
    have hzero : (b.perform now c).1.tokens c = 0 := Nat.le_zero.1 (h.empty ▸ hle)
    exact ⟨hzero, by rw [hlevel, hzero]; rfl⟩

/-- Who asks for a token until then is told when it is due. -/
theorem acquire_of_dry (h : b.level.Dry b.rate due) (hs : b.Sound start now)
    (hn : now - start ≤ maxNanos) (hd : now < due) :
    ∃ rest : Duration, (b.acquire now 1).1 = .ok (some rest) ∧ now + rest.nanos = due := by
  have hgained := h.gained_add hs.lastRefill_le
  have hlevel : (b.caughtUp now).level = b.level := h.refilled hs.lastRefill_le hd
  rcases acquire_one hs hn with ⟨hpos, -⟩ | ⟨-, rest, hrest, -, hanswer⟩
  · rw [hlevel, h.empty] at hpos
    exact absurd hpos (Nat.lt_irrefl 0)
  · rw [hlevel] at hrest
    exact ⟨rest, congrArg Prod.fst hanswer, by unfold Instant at *; omega⟩

/-- A call that grants nothing does not put the next token off. -/
theorem ripe_perform (h : b.level.Ripe b.rate due) (hl : b.level.lastRefill ≤ now)
    (hc : (b.perform now c).1.tokens c = 0) : (b.perform now c).2.level.Ripe b.rate due := by
  obtain ⟨-, ⟨-, hlevel⟩ | ⟨-, hlevel⟩⟩ := b.perform_cases now c
  · rw [hlevel]
    exact h
  · rw [hlevel, hc]
    exact h.refilled hl

/-- Who asks for one token when it is due is granted it. -/
theorem perform_of_ripe (h : b.level.Ripe b.rate due) (hs : b.Sound start now)
    (hn : now - start ≤ maxNanos) (hd : due ≤ now) (hc : c.takesOne = true) :
    (b.perform now c).1.tokens c = 1 := by
  have hpos : 1 ≤ (b.caughtUp now).level.available := h.available_pos hs.lastRefill_le hd
  have hone : c = .consume 1 ∨ c = .acquire 1 := by simpa [BucketCall.takesOne] using hc
  rcases hone with rfl | rfl
  · rw [perform, consume, checked_of_serves hs hn ⟨Nat.le_refl 1, b.rate.capacity_pos⟩, if_pos hpos]
    rfl
  · rcases acquire_one hs hn with ⟨-, hanswer⟩ | ⟨hzero, -⟩
    · rw [perform, hanswer]
      rfl
    · exact absurd hzero (Nat.ne_of_gt hpos)

/-- **A refusal leaves an empty level**, and tells when the next token is due. -/
theorem dry_of_refusal (h : b.Sound start now) (hn : now - start ≤ maxNanos)
    (hw : (b.perform now (.acquire 1)).1 = .acquired (some w)) :
    0 < w.nanos ∧ w.nanos ≤ b.rate.interval.nanos ∧
      (b.perform now (.acquire 1)).2.level.Dry b.rate (now + w.nanos) := by
  have hlast : (b.caughtUp now).level.lastRefill ≤ now := h.caughtUp.lastRefill_le
  rcases acquire_one h hn with ⟨-, hanswer⟩ | ⟨hzero, wait, hwait, hpos, hanswer⟩
  · rw [perform, hanswer] at hw
    cases hw
  · rw [perform, hanswer] at hw ⊢
    cases hw
    refine ⟨hpos, by omega, hzero, ?_⟩
    change now + w.nanos + (b.caughtUp now).level.carry.nanos =
      (b.caughtUp now).level.lastRefill + b.rate.interval.nanos
    unfold Level.gained elapsed Instant at *
    omega

/-! ## All that follows -/

theorem le_time_of_timely (h : Timely last now calls) : ∀ E ∈ b.dealings calls, now ≤ E.time := by
  induction calls generalizing b now with
  | nil => exact fun E hE => absurd hE List.not_mem_nil
  | cons e calls ih =>
    obtain ⟨hnow, -, hcalls⟩ := h
    intro E hE
    rcases List.mem_cons.1 hE with rfl | hE
    · exact hnow
    · exact Nat.le_trans hnow (ih hcalls E hE)

/-- Calls about one token do not fail, whatever came before. -/
theorem replied_of_timely (h : b.Sound start now) (hcalls : Timely last now calls)
    (hn : last - start ≤ maxNanos) :
    ∀ E ∈ b.dealings calls, E.call.single = true → ∀ f, E.reply ≠ .fault f := by
  induction calls generalizing b now with
  | nil => exact fun E hE => absurd hE List.not_mem_nil
  | cons e calls ih =>
    obtain ⟨t, c⟩ := e
    obtain ⟨hnow, hlast, hcalls⟩ := hcalls
    have hsound : b.Sound start t := h.later hnow
    intro E hE hc
    rcases List.mem_cons.1 hE with rfl | hE
    · exact replied_of_single hsound (Nat.le_trans (Nat.sub_le_sub_right hlast start) hn) hc
    · exact ih (hsound.perform c) hcalls E hE hc

theorem refused_until (h : b.level.Dry b.rate due) (hs : b.Sound start now)
    (hcalls : Timely last now calls) (hn : last - start ≤ maxNanos) :
    ∀ E ∈ b.dealings calls, E.time < due → E.tokens = 0 ∧ (E.call = .acquire 1 →
      ∃ rest : Duration, E.reply = .acquired (some rest) ∧ E.time + rest.nanos = due) := by
  induction calls generalizing b now with
  | nil => exact fun E hE => absurd hE List.not_mem_nil
  | cons e calls ih =>
    obtain ⟨t, c⟩ := e
    obtain ⟨hnow, hlast, hcalls⟩ := hcalls
    have hsound : b.Sound start t := hs.later hnow
    have hle : t - start ≤ maxNanos := Nat.le_trans (Nat.sub_le_sub_right hlast start) hn
    intro E hE hlt
    by_cases hd : t < due
    · obtain ⟨hzero, hlevel⟩ := perform_of_dry h hsound.lastRefill_le hd c
      rcases List.mem_cons.1 hE with rfl | hE
      · refine ⟨hzero, ?_⟩
        rintro rfl
        obtain ⟨rest, hanswer, hrest⟩ := acquire_of_dry h hsound hle hd
        refine ⟨rest, ?_, hrest⟩
        dsimp only
        rw [perform]
        cases ha : b.acquire t 1 with
        | mk answer b' =>
          rw [ha] at hanswer
          cases hanswer
          rfl
      · refine ih ?_ (hsound.perform c) hcalls E hE hlt
        rw [hlevel, (b.perform_cases t c).1]
        exact h
    · -- all that follows is too late
      have htime : t ≤ E.time := by
        rcases List.mem_cons.1 hE with rfl | hE
        · exact Nat.le_refl _
        · exact le_time_of_timely hcalls E hE
      exact absurd (Nat.lt_of_le_of_lt htime hlt) hd

theorem granted_from (h : b.level.Ripe b.rate due) (hs : b.Sound start now)
    (hcalls : Timely last now calls) (hn : last - start ≤ maxNanos) {between after : List Dealing}
    {E : Dealing} (hsplit : b.dealings calls = between ++ E :: after) (hd : due ≤ E.time)
    (hc : E.call.takesOne = true) (hbetween : ∀ F ∈ between, F.tokens = 0) : E.tokens = 1 := by
  induction calls generalizing b now between with
  | nil => exact absurd hsplit (by simp [dealings])
  | cons e calls ih =>
    obtain ⟨t, c⟩ := e
    obtain ⟨hnow, hlast, hcalls⟩ := hcalls
    have hsound : b.Sound start t := hs.later hnow
    cases between with
    | nil =>
      obtain ⟨rfl, -⟩ := List.cons.inj hsplit
      exact perform_of_ripe h hsound (Nat.le_trans (Nat.sub_le_sub_right hlast start) hn) hd hc
    | cons F between =>
      obtain ⟨rfl, hrest⟩ := List.cons.inj hsplit
      have hrate := (b.perform_cases t c).1
      have hzero : (b.perform t c).1.tokens c = 0 := hbetween _ List.mem_cons_self
      refine ih ?_ (hsound.perform c) hcalls hrest fun F hF => hbetween F (List.mem_cons_of_mem _ hF)
      rw [hrate]
      exact ripe_perform h hsound.lastRefill_le hzero

/-- What follows a refusal keeps its promise. -/
theorem kept_of_dry (h : b.level.Dry b.rate (now + w.nanos)) (hpos : 0 < w.nanos)
    (hw : w.nanos ≤ b.rate.interval.nanos) (hs : b.Sound start now)
    (hcalls : Timely last now calls) (hn : last - start ≤ maxNanos) :
    Kept b.rate.interval now w (b.dealings calls) := by
  have hrefused := refused_until h hs hcalls hn
  constructor
  case pos => exact hpos
  case le => exact hw
  case barren => exact fun E hE hlt => (hrefused E hE hlt).1
  case countdown => exact fun E hE hlt => (hrefused E hE hlt).2
  case admits =>
    intro between E after hsplit hd hc hbetween
    refine granted_from (.inl h) hs hcalls hn hsplit hd hc fun F hF => ?_
    by_cases hF' : now + w.nanos ≤ F.time
    · exact hbetween F hF hF'
    · have hmem : F ∈ b.dealings calls := hsplit ▸ List.mem_append_left _ hF
      exact (hrefused F hmem (Nat.lt_of_not_le hF')).1

/-- **The promise of a refusal is kept** in all dealings that follow. -/
theorem kept_of_refusal (h : b.Sound start now) (hcalls : Timely last now calls)
    (hn : last - start ≤ maxNanos) {earlier later : List Dealing} {D : Dealing}
    (hsplit : b.dealings calls = earlier ++ D :: later) (hD : D.call = .acquire 1)
    (hw : D.reply = .acquired (some w)) : Kept b.rate.interval D.time w later := by
  induction calls generalizing b now earlier with
  | nil => exact absurd hsplit (by simp [dealings])
  | cons e calls ih =>
    obtain ⟨t, c⟩ := e
    obtain ⟨hnow, hlast, hcalls⟩ := hcalls
    have hsound : b.Sound start t := h.later hnow
    have hrate := (b.perform_cases t c).1
    have hsound' : (b.perform t c).2.Sound start t := hsound.perform c
    cases earlier with
    | nil =>
      obtain ⟨rfl, rfl⟩ := List.cons.inj hsplit
      change c = .acquire 1 at hD
      subst hD
      obtain ⟨hpos, hle, hdry⟩ :=
        dry_of_refusal hsound (Nat.le_trans (Nat.sub_le_sub_right hlast start) hn) hw
      rw [← hrate] at hdry hle ⊢
      exact kept_of_dry hdry hpos hle hsound' hcalls hn
    | cons F earlier =>
      rw [← hrate]
      exact ih hsound' hcalls (List.cons.inj hsplit).2

end TokenBucket

end SigningKeys
