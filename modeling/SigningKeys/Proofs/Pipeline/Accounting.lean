import SigningKeys.Proofs.Cache.Provenance
import SigningKeys.Proofs.Cache.SingleFlight
import SigningKeys.Proofs.Pipeline.Build
import SigningKeys.Proofs.Pipeline.Ledger
import SigningKeys.Proofs.Run.Gates

/-!
# What keys cost

A pipeline is a cache in front of a limiter in front of a source. Calls that the cache answers, or
lets join a fetch, cost nothing. A fetch asks the bucket of the limiter for one token. If it gets
one, the source is called once, and whatever comes of that is passed on, at once or after a gate has
opened or a key set has come over the network; if not, nothing is called or stored, and all that wait
for the fetch are told how far away the token is.

* `Turn.Free`: a turn of a call of a pipeline;
* `Turn.Pays`, `Turn.Resumes`, `Turn.Receives`: the turns of a fetch, in which it asks for a token,
  in which a gate has opened, and in which a key set comes over the network;
* `Turn.tokens`, `Turn.sourceCalls`: what the pipelines on a bucket take and call in a turn;
* `State.Accounted`: the account of a run;
* **`token_accounting`**: it is right for every run that takes no more than the longest duration.
-/

namespace SigningKeys

namespace Turn

/-- **A turn of a call of a pipeline.** It touches no bucket, and begins nothing but the fetch of its
key. -/
structure Free (A : Turn) (S : Provider) (b c : Nat) : Prop where
  buckets : A.after.buckets = A.before.buckets
  made : A.made = [] ∨ A.made = [⟨.fetch c, A.task.kid, .limited S b⟩]

/-- **A limiter asks its bucket for a token**, in a call for the provider behind it. -/
inductive Pays (A : Turn) (S : Provider) (b : Nat) (B : TokenBucket) : Prop where
  /-- There is a token. It is taken, and the call goes on as one call of the provider, with the
  same end. -/
  | granted {B' : TokenBucket} (answer : B.acquire A.before.now 1 = (.ok none, B'))
      (taken : B'.level.available + 1 = (B.caughtUp A.before.now).level.available)
      (goesOn : State.call A.task.kid A.task.provider A.before =
        State.call A.task.kid S (A.before.paid b B'))
      (passedOn : ∀ o, A.result? = some o ↔
        (State.call A.task.kid S (A.before.paid b B')).1 = .ended o)
      (events : A.events = .called A.task.provider A.task.kid :: .asked S b (.ok none) ::
        State.events A.task.kid S (A.before.paid b B'))
      (asked : ∀ answer, A.events.count (.asked S b answer) = if answer = .ok none then 1 else 0)
      (called : A.events.count (.called S A.task.kid) = 1)
  /-- There is none. The bucket is only refilled, nothing is called, nothing is stored, and the call
  ends with the wait. -/
  | refused {wait : Duration}
      (answer : B.acquire A.before.now 1 = (.ok (some wait), B.caughtUp A.before.now))
      (empty : (B.caughtUp A.before.now).level.available = 0) (later : 0 < wait.nanos)
      (events : A.events = [.called A.task.provider A.task.kid, .asked S b (.ok (some wait))])
      (result : A.result? = some (.error (.rateLimited wait)))
      (sources : A.after.sources = A.before.sources)
      (requests : A.after.requests = A.before.requests)
      (stored : ∀ d : Nat,
        (A.after.caches[d]?).map Cache.store = (A.before.caches[d]?).map Cache.store)

/-- **A fetch goes on** when the gate of its source has opened. In an earlier turn it had paid for
its call, which the source had given a number. It asks for nothing more, and ends as this call of
the source does. -/
structure Resumes (A : Turn) (earlier : List Turn) (S : Provider) (b i n : Nat) : Prop where
  paid : Since (fun X => X.task = A.task ∧ X.stage = .calling ∧ ∃ B B',
      X.before.buckets[b]? = some B ∧ B.acquire X.before.now 1 = (.ok none, B') ∧
        (State.call A.task.kid S (X.before.paid b B')).1 = .waits (.gate i n))
    (fun Y => Y.task ≠ A.task) earlier
  events : A.events = []
  passedOn : ∃ source, A.before.sources[i]? = some source ∧
    A.result? = some (source.outcome A.task.kid n)

/-- **A fetch goes on** when the key set comes that it had begun to fetch over the network. It had
paid for its call in that earlier turn. It asks for nothing more, and ends as this one fetch over the
network does. -/
structure Receives (A : Turn) (earlier : List Turn) (S : Provider) (b : Nat) (e : Exchange) :
    Prop where
  paid : Since (fun X => X.task = A.task ∧ X.stage = .calling ∧ ∃ B B',
      X.before.buckets[b]? = some B ∧ B.acquire X.before.now 1 = (.ok none, B') ∧
        (State.call A.task.kid S (X.before.paid b B')).1 = .fetches e)
    (fun Y => Y.task ≠ A.task) earlier
  events : A.events = []
  passedOn : A.result? = some (A.before.receiveKey A.task.kid e).1

/-- The provider behind the limiter, in a turn of a fetch of a pipeline on a bucket. -/
def sourceOn? (b : Nat) (T : Turn) : Option Provider :=
  match T.task.role, T.task.provider with
  | .fetch _, .limited S b' => if b' = b then some S else none
  | _, _ => none

/-- The tokens that a pipeline on a bucket takes in a turn. -/
def tokens (b : Nat) (T : Turn) : Nat :=
  match T.sourceOn? b with
  | some S => T.events.count (.asked S b (.ok none))
  | none => 0

/-- The calls of a pipeline on a bucket to its source in a turn. -/
def sourceCalls (b : Nat) (T : Turn) : Nat :=
  match T.sourceOn? b with
  | some S => T.events.count (.called S T.task.kid)
  | none => 0

theorem provider_of_sourceOn? {b : Nat} {T : Turn} {S : Provider} (h : T.sourceOn? b = some S) :
    T.task.provider = .limited S b := by
  unfold sourceOn? at h
  split at h
  · rename_i hp
    split at h
    · rename_i hb
      rw [hp, Option.some.inj h, hb]
    · cases h
  · cases h

end Turn

namespace State

/-- **The account of a run.** -/
structure Accounted (s₀ : State) (ms : List Move) : Prop where
  /-- A blueprint with both layers makes a pipeline: a new cache in front of a limiter, which draws
  on a new full bucket or on the one that is shared. -/
  built : ∀ blueprint source p t, (s₀.run ms).build blueprint source = .ok (p, t) →
    blueprint.cached = true → blueprint.limited = true →
    ∃ S b, p = .cached (.limited S b) (s₀.run ms).caches.length ∧
      (source = some S ∨ source = none ∧ ∃ r, S = .remote r) ∧
      (blueprint.bucket = .shared b ∧ t.buckets = (s₀.run ms).buckets ∨
        b = (s₀.run ms).buckets.length ∧
          ∃ r : Rate, blueprint.bucket = .own r.capacity r.interval ∧
            t.buckets = (s₀.run ms).buckets ++ [.full r (s₀.run ms).now])
  /-- The calls of a pipeline cost nothing themselves. -/
  free : ∀ A ∈ s₀.history ms, ∀ S b c, A.task.provider = .cached (.limited S b) c → A.Free S b c
  /-- A fetch asks for one token when it makes its call. -/
  pays : ∀ A ∈ s₀.history ms, ∀ S b, A.task.provider = .limited S b → A.stage = .calling →
    ∃ B, A.before.buckets[b]? = some B ∧ A.Pays S b B
  /-- A fetch that was held at a gate goes on. -/
  resumes : ∀ earlier A later S b i n, s₀.history ms = earlier ++ A :: later →
    A.task.provider = .limited S b → A.stage = .admitted i n → A.Resumes earlier S b i n
  /-- A fetch that had begun to fetch a key set over the network goes on. -/
  receives : ∀ earlier A later S b e, s₀.history ms = earlier ++ A :: later →
    A.task.provider = .limited S b → A.stage = .fetching e → A.Receives earlier S b e
  /-- All that wait for a fetch come to end as it does. -/
  tells : ∀ m A c kid o, (s₀.run ms).turn? m = some A → A.lands c kid = some o →
    ∀ w place, (w, .flight c place) ∈ (s₀.run ms).parked → w.kid = kid →
      ∀ ms', w.goesOn ms' → (s₀.run ms).Comes (m :: ms') w c place (some o)
  /-- A fetch that begins makes its call once, unless it is still about to. -/
  once : ∀ x c, x.role = .fetch c → ((s₀.history ms).flatMap Turn.made).count x =
    (s₀.history ms).countP (fun T => T.stage.isCalling && T.task == x) + (s₀.run ms).pending x
  /-- A bucket changes by what it is asked, and in no other way. -/
  drawn : ∀ (b : Nat) (B : TokenBucket) (ms₁ ms₂ : List Move), ms = ms₁ ++ ms₂ →
    (s₀.run ms₁).buckets[b]? = some B →
      (s₀.run ms).buckets[b]? = some (B.replay ((s₀.run ms₁).draws b ms₂))
  /-- A source counts the calls that the ledger lists. -/
  counted : ∀ i kid, (s₀.run ms).callsTo i kid =
    (s₀.callsTo i kid).map (· + (s₀.ledger ms).count (.called (.source i) kid))
  /-- The pipelines on a bucket call their sources as often as they take tokens from it. -/
  balance : ∀ b, ((s₀.history ms).map (Turn.sourceCalls b)).sum =
    ((s₀.history ms).map (Turn.tokens b)).sum

variable {s : State} {behind : List Provider} {h : List Turn} {m : Move} {A : Turn} {b c i n : Nat}
  {S : Provider}

/-! ## Turns of a pipeline -/

theorem free_of_turn (hp : A.task.provider = .cached (.limited S b) c) : A.Free S b c := by
  have hafter := A.after_eq
  have hcore : A.task.provider.core = .cached (.limited S b) c := by rw [hp]; rfl
  constructor
  case buckets =>
    cases hstage : A.stage with
    | calling =>
      rw [hstage] at hafter
      rw [hafter.2, hp, (cached_eq _ _ _ _).2]
    | admitted | fetching | told =>
      rw [hstage] at hafter
      exact hafter.2
  case made => exact (made_cases hcore).imp_right And.left

theorem stored_of_error (s : State) (x : Task) (e : KeyError) (d : Nat) :
    ((s.finish x (.error e)).caches[d]?).map Cache.store = (s.caches[d]?).map Cache.store := by
  rw [caches_finish]
  split
  · rw [Option.map_map]
    rfl
  · rfl

theorem limited_ne (S : Provider) (b : Nat) : Provider.limited S b ≠ S := by
  have hlt : S.height < (Provider.limited S b).height := Nat.lt_succ_self _
  exact fun he => Nat.ne_of_gt hlt (congrArg _ he)

/-- A limiter whose bucket holds a token. -/
theorem pays_of_token {B : TokenBucket} (hstage : A.stage = .calling)
    (hp : A.task.provider = .limited S b) (hB : A.before.buckets[b]? = some B)
    (hpos : 0 < (B.caughtUp A.before.now).level.available)
    (hanswer : B.acquire A.before.now 1 = (.ok none,
      (B.caughtUp A.before.now).withLevel ((B.caughtUp A.before.now).level.take 1))) :
    A.Pays S b B := by
  obtain ⟨hcall, hlist⟩ := call_granted A.task.kid S hB hanswer
  have hevents : A.events = State.events A.task.kid (.limited S b) A.before := by
    rw [Turn.events, hstage, hp]
  rw [hlist] at hevents
  have hpassed : ∀ o, A.result? = some o ↔ (call A.task.kid S (A.before.paid b
      ((B.caughtUp A.before.now).withLevel ((B.caughtUp A.before.now).level.take 1)))).1 =
        .ended o := by
    intro o
    rw [Turn.result?, hstage, verdict, hp, hcall]
    cases (call A.task.kid S (A.before.paid b _)).1 with
    | ended o' => simp
    | waits spot => simp
    | fetches e => simp
  refine .granted hanswer (Nat.sub_add_cancel hpos) (hp ▸ hcall) hpassed (hp ▸ hevents)
    (fun answer => ?_) ?_
  · rw [hevents, List.count_cons, List.count_cons, count_asked]
    by_cases ha : answer = .ok none
    · simp [ha]
    · simp [ha, Ne.symm ha]
  · rw [hevents, List.count_cons, List.count_cons, count_called]
    simp [limited_ne]

/-- A limiter whose bucket holds no token. -/
theorem pays_of_wait {B : TokenBucket} {wait : Duration} (hstage : A.stage = .calling)
    (hp : A.task.provider = .limited S b) (hB : A.before.buckets[b]? = some B)
    (hzero : (B.caughtUp A.before.now).level.available = 0) (hwait : 0 < wait.nanos)
    (hanswer : B.acquire A.before.now 1 = (.ok (some wait), B.caughtUp A.before.now)) :
    A.Pays S b B := by
  obtain ⟨hcall, hlist⟩ := call_refused A.task.kid S hB hanswer
  have hafter : A.after = ((A.before.setBucket b (B.caughtUp A.before.now)).record
      (.decision false)).finish A.task (.error (.rateLimited wait)) := by
    rw [Turn.after, hstage, advanceTask, hp, hcall]
  refine .refused hanswer hzero hwait ?_ ?_ ?_ ?_ fun d => ?_
  · rw [Turn.events, hstage, hp]
    exact hlist
  · rw [Turn.result?, hstage, verdict, hp, hcall]
  · rw [hafter, (finish_eq _ _ _).1]
    rfl
  · rw [hafter, (finish_eq _ _ _).2.2]
    rfl
  · rw [hafter, stored_of_error]
    rfl

theorem pays_of_turn (hs : s.Sound behind []) (hb : s.BucketsSound) (hn : s.now ≤ maxNanos)
    (hA : s.turn? m = some A) (hstage : A.stage = .calling) (hp : A.task.provider = .limited S b) :
    ∃ B, A.before.buckets[b]? = some B ∧ A.Pays S b B := by
  obtain ⟨j, hj, hbefore⟩ := turn?_eq_some hA
  have hmem : A.task ∈ s.tasks := (perm_eraseIdx_ready hj).mem_iff.2 List.mem_cons_self
  have hfits := hs.wired.provider _ (.inr ⟨A.task, hmem, rfl⟩)
  rw [hp] at hfits
  obtain ⟨B, hB⟩ : ∃ B, A.before.buckets[b]? = some B := by
    rw [hbefore]
    exact ⟨_, List.getElem?_eq_getElem hfits.1⟩
  have hnow : A.before.now = s.now := by rw [hbefore]
  have hsound : B.Sound 0 A.before.now := by
    rw [hnow]
    rw [hbefore] at hB
    exact hb B (List.mem_of_getElem? hB)
  refine ⟨B, hB, ?_⟩
  rcases TokenBucket.acquire_one hsound (Nat.le_trans (Nat.sub_le _ _) (hnow ▸ hn)) with
    ⟨hpos, hanswer⟩ | ⟨hzero, wait, -, hwait, hanswer⟩
  · exact pays_of_token hstage hp hB hpos hanswer
  · exact pays_of_wait hstage hp hB hzero hwait hanswer

/-- A task that goes on after its call had paid for it. -/
theorem paid_of_reached {x : Task} {r : Reach}
    (hpays : ∀ X ∈ h, X.stage = .calling → X.task.provider = .limited S b →
      ∃ B, X.before.buckets[b]? = some B ∧ X.Pays S b B)
    (hp : x.provider = .limited S b) (hr : ∀ o, r ≠ .ended o) (hreached : Reached r x h) :
    Since (fun X => X.task = x ∧ X.stage = .calling ∧ ∃ B B',
        X.before.buckets[b]? = some B ∧ B.acquire X.before.now 1 = (.ok none, B') ∧
          (call x.kid S (X.before.paid b B')).1 = r)
      (fun Y => Y.task ≠ x) h := by
  obtain ⟨older, X, later, rfl, ⟨htask, hcalling, hcall⟩, hother⟩ := hreached
  refine ⟨older, X, later, rfl, ⟨htask, hcalling, ?_⟩, hother⟩
  obtain ⟨B, hB, hX⟩ := hpays X (List.mem_append_right _ List.mem_cons_self) hcalling (htask ▸ hp)
  cases hX with
  | @granted B' answer taken goesOn passedOn events asked called =>
    rw [htask] at goesOn
    exact ⟨B, B', hB, answer, by rw [← goesOn, hcall]⟩
  | @refused wait answer empty later events result =>
    -- a call that is refused ends at once
    rw [Turn.result?, hcalling, verdict, htask] at result
    cases hreach : (call x.kid x.provider X.before).1 with
    | ended o => exact absurd (hcall.symm.trans hreach) (hr o)
    | waits spot | fetches e =>
      rw [hreach] at result
      cases result

theorem resumes_of_turn (hs : s.Sound behind []) (hg : s.Gated h)
    (hpays : ∀ X ∈ h, X.stage = .calling → X.task.provider = .limited S b →
      ∃ B, X.before.buckets[b]? = some B ∧ X.Pays S b B)
    (hA : s.turn? m = some A) (hstage : A.stage = .admitted i n)
    (hp : A.task.provider = .limited S b) : A.Resumes h S b i n := by
  obtain ⟨j, hj, hbefore⟩ := turn?_eq_some hA
  have hready : (A.task, .admitted i n) ∈ s.ready := hstage ▸ List.mem_of_getElem? hj
  constructor
  case paid => exact paid_of_reached hpays hp nofun (hg.ready _ i n hready)
  case events => rw [Turn.events, hstage]
  case passedOn =>
    have hsource : i < s.sources.length := by
      have hmem : A.task ∈ s.tasks := (perm_eraseIdx_ready hj).mem_iff.2 List.mem_cons_self
      have hfits := (hs.wired.provider _ (.inr ⟨A.task, hmem, rfl⟩)).core
      rw [show A.task.provider.core = .source i from hs.wired.ready _ hready] at hfits
      exact hfits
    have hfound : A.before.sources[i]? = some s.sources[i] := by
      rw [hbefore]
      exact List.getElem?_eq_getElem hsource
    exact ⟨_, hfound, by rw [Turn.result?, hstage, verdict, hfound]; rfl⟩

theorem receives_of_turn (hg : s.Gated h)
    (hpays : ∀ X ∈ h, X.stage = .calling → X.task.provider = .limited S b →
      ∃ B, X.before.buckets[b]? = some B ∧ X.Pays S b B)
    (hA : s.turn? m = some A) {e : Exchange} (hstage : A.stage = .fetching e)
    (hp : A.task.provider = .limited S b) : A.Receives h S b e := by
  obtain ⟨j, hj, -⟩ := turn?_eq_some hA
  have hready : (A.task, .fetching e) ∈ s.ready := hstage ▸ List.mem_of_getElem? hj
  constructor
  case paid => exact paid_of_reached hpays hp nofun (hg.fetching _ e hready)
  case events => rw [Turn.events, hstage]
  case passedOn => rw [Turn.result?, hstage, verdict]

/-- A pipeline takes as many tokens in a turn as it calls its source. -/
theorem tokens_eq {T : Turn} (hpays : ∀ S, T.stage = .calling → T.task.provider = .limited S b →
    ∃ B, T.before.buckets[b]? = some B ∧ T.Pays S b B) : T.tokens b = T.sourceCalls b := by
  unfold Turn.tokens Turn.sourceCalls
  cases hsource : T.sourceOn? b with
  | none => rfl
  | some S =>
    have hp := Turn.provider_of_sourceOn? hsource
    dsimp only
    cases hstage : T.stage with
    | admitted | fetching | told => rw [Turn.events, hstage, List.count_nil, List.count_nil]
    | calling =>
      obtain ⟨B, -, hT⟩ := hpays S hstage hp
      cases hT with
      | granted answer taken goesOn passedOn events asked called => rw [called, asked, if_pos rfl]
      | refused answer empty later events =>
        rw [events, hp]
        simp [limited_ne]

/-! ## Every run -/

theorem pays_run (sources : List Source) (network : Network) (ms : List Move)
    (hn : ((blank sources network).run ms).now ≤ maxNanos) :
    ∀ T ∈ (blank sources network).history ms, ∀ S b, T.stage = .calling →
      T.task.provider = .limited S b → ∃ B, T.before.buckets[b]? = some B ∧ T.Pays S b B := by
  induction ms using List.reverseRecOn with
  | nil => exact fun T hT => absurd hT List.not_mem_nil
  | append_singleton ms m ih =>
    rw [run_concat] at hn
    have hle := Nat.le_trans (((blank sources network).run ms).now_apply m) hn
    rw [history_concat]
    intro T hT S b hstage hp
    rcases List.mem_append.1 hT with hT | hT
    · exact ih hle T hT S b hstage hp
    · obtain ⟨behind, hs⟩ := sound_run sources network ms
      exact pays_of_turn hs (bucketsSound_run sources network ms) hle (Option.mem_toList.1 hT) hstage
        hp

/-- **What is told of a fetch**: all that wait for it come to end as it did, whatever happens then. -/
theorem tells_of_turn (hs : s.Sound behind []) (hA : s.turn? m = some A) {o : Outcome} {kid : String}
    (hlands : A.lands c kid = some o) {w : Task} {place : Nat}
    (hw : (w, .flight c place) ∈ s.parked) (hkid : w.kid = kid) {ms : List Move}
    (hms : w.goesOn ms) : s.Comes (m :: ms) w c place (some o) := by
  have hgoes : w.goesOn (m :: ms) := by
    intro id hid hmem
    rcases List.mem_cons.1 hmem with rfl | hmem
    · cases hA
    · exact hms id hid hmem
  have hcomes := hs.comes_run hw hgoes
  rw [history, hA, hkid] at hcomes
  have hfirst : (A :: (s.apply m).history ms).findSome? (·.lands c kid) = some o := by
    rw [List.findSome?_cons, hlands]
  change s.Comes _ w c place ((A :: (s.apply m).history ms).findSome? (·.lands c kid)) at hcomes
  rw [hfirst] at hcomes
  exact hcomes

/-- **Token accounting.** -/
theorem token_accounting (sources : List Source) (network : Network) (ms : List Move)
    (hn : ((blank sources network).run ms).now ≤ maxNanos) :
    (blank sources network).Accounted ms := by
  have hpays := pays_run sources network ms hn
  constructor
  case built => exact fun blueprint source p t hb hc hl => build_pipeline hb hc hl
  case free => exact fun A _ S b c hp => free_of_turn hp
  case pays => exact fun A hA S b hp hstage => hpays A hA S b hstage hp
  case resumes =>
    intro earlier A later S b i n hA hp hstage
    obtain ⟨ms₁, m, ms₂, -, rfl, hT, -⟩ := exists_of_history_eq hA
    obtain ⟨behind, hs⟩ := sound_run sources network ms₁
    refine resumes_of_turn hs (gated_run sources network ms₁) (fun X hX => ?_) hT hstage hp
    exact hpays X (hA ▸ List.mem_append_left _ hX) S b
  case receives =>
    intro earlier A later S b e hA hp hstage
    obtain ⟨ms₁, m, ms₂, -, rfl, hT, -⟩ := exists_of_history_eq hA
    refine receives_of_turn (gated_run sources network ms₁) (fun X hX => ?_) hT hstage hp
    exact hpays X (hA ▸ List.mem_append_left _ hX) S b
  case tells =>
    intro m A c kid o hA hlands w place hw hkid ms' hms'
    obtain ⟨behind, hs⟩ := sound_run sources network ms
    exact tells_of_turn hs hA hlands hw hkid hms'
  case once => exact fun x c hx => made_run (blank sources network) ms hx
  case drawn =>
    rintro b B ms₁ ms₂ rfl hB
    rw [run_append]
    exact buckets_run _ ms₂ hB
  case counted => exact fun i kid => callsTo_run _ ms i kid
  case balance =>
    intro b
    refine congrArg List.sum (List.map_congr_left fun T hT => ?_)
    exact (tokens_eq fun S => hpays T hT S b).symm

/-- A source that always fails. -/
def failing : State := blank [{ behaviour := .scripted [.fetch "down"] }] .unreachable

/-- Two pipelines share a bucket of one token, in front of one source. One of them is called twice
for a key, then the other once; then both fetch. -/
def sharedBucket : List Move :=
  [.bucket ⟨1, Duration.ofSeconds 60, Nat.one_pos, Duration.minute_pos⟩,
    .build (.source 0)
      ⟨some (.shared 0), some ⟨1, Duration.ofSeconds 1, Nat.one_pos, Duration.second_pos⟩⟩,
    .build (.source 0)
      ⟨some (.shared 0), some ⟨1, Duration.ofSeconds 1, Nat.one_pos, Duration.second_pos⟩⟩,
    .get 0 "a", .get 0 "a", .get 1 "b", .turn 0, .turn 0, .turn 0, .turn 0, .turn 0]

/-- The three calls cost one token, and the source is called once. The fetch that failed does not
give the token back to the other. -/
theorem token_accounting_sharedBucket :
    (failing.run sharedBucket).now ≤ maxNanos ∧
      ((failing.history sharedBucket).map (Turn.tokens 0)).sum = 1 ∧
      ((failing.history sharedBucket).map (Turn.sourceCalls 0)).sum = 1 ∧
      (failing.run sharedBucket).callsTo 0 "a" = some 1 ∧
      (failing.run sharedBucket).callsTo 0 "b" = some 0 := by
  have hnow : (failing.run sharedBucket).now ≤ maxNanos := by decide +kernel
  have haccount : failing.Accounted sharedBucket := token_accounting _ _ sharedBucket hnow
  have htokens : ((failing.history sharedBucket).map (Turn.tokens 0)).sum = 1 := by decide +kernel
  refine ⟨hnow, htokens, (haccount.balance 0).trans htokens, ?_, ?_⟩
  · rw [haccount.counted 0 "a"]
    decide +kernel
  · rw [haccount.counted 0 "b"]
    decide +kernel

end State

end SigningKeys
