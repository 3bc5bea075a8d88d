import Mathlib.Data.List.Induction
import SigningKeys.Proofs.Run.Caches
import SigningKeys.Proofs.TokenBucket.Acquire

/-!
# What calls do to sources and buckets

A call of a provider can call the provider behind it and ask buckets for tokens. The ledger of a run
lists these events. Sources count exactly the calls in it, and buckets change by what it says they
were asked, by what their users do to them, and by nothing else.

* `Event`, `State.events`: the events of a call, in their order;
* `call_granted`, `call_refused`: the two ways past a limiter, and the events of each;
* `AtLimiter`, `atLimiter`: everything that can happen at a limiter;
* `count_called`, `count_asked`: a call calls its provider once;
* **`callsTo_run`**, **`buckets_run`**: sources and buckets after a run, from its ledger;
* `bucketsSound_run`: all buckets keep their bounds.
-/

namespace SigningKeys

/-- What a call does on its way through the layers of its provider. -/
inductive Event where
  /-- A provider is called for the key of an id. -/
  | called (p : Provider) (kid : String)
  /-- The limiter in front of a provider asks its bucket for one token. -/
  | asked (inner : Provider) (bucket : Nat) (answer : Except BucketFault (Option Duration))
deriving DecidableEq

/-- Whether a bucket is asked. -/
def Event.asks (b : Nat) : Event → Bool
  | .called _ _ => false
  | .asked _ b' _ => b' == b

/-- The provider that an event is about. -/
def Event.target : Event → Provider
  | .called p _ => p
  | .asked inner _ _ => inner

/-- A bucket after calls at some instants. -/
def TokenBucket.replay (B : TokenBucket) (calls : List (Instant × BucketCall)) : TokenBucket :=
  calls.foldl (fun B e => (B.perform e.1 e.2).2) B

theorem TokenBucket.replay_append (B : TokenBucket) (calls more : List (Instant × BucketCall)) :
    B.replay (calls ++ more) = (B.replay calls).replay more := List.foldl_append

namespace State

/-- The state in which a call goes on that a limiter has let pass. -/
def paid (s : State) (b : Nat) (B : TokenBucket) : State :=
  (s.setBucket b B).record (.decision true)

/-- **The events of a call.** -/
def events (kid : String) : Provider → State → List Event
  | .source i, _ => [.called (.source i) kid]
  | .remote r, _ => [.called (.remote r) kid]
  | .cached inner c, _ => [.called (.cached inner c) kid]
  | .limited inner b, s =>
    .called (.limited inner b) kid ::
      match s.buckets[b]? with
      | none => []
      | some B =>
        .asked inner b (B.acquire s.now 1).1 ::
          match (B.acquire s.now 1).1 with
          | .ok none => events kid inner (s.paid b (B.acquire s.now 1).2)
          | .ok (some _) | .error _ => []

/-! ## Past a limiter -/

variable {k : String} {p q : Provider} {s : State} {b : Nat} {B B' : TokenBucket} (kid : String)
  (inner : Provider)

theorem call_granted (hB : s.buckets[b]? = some B) (ha : B.acquire s.now 1 = (.ok none, B')) :
    call kid (.limited inner b) s = call kid inner (s.paid b B') ∧
      events kid (.limited inner b) s =
        .called (.limited inner b) kid :: .asked inner b (.ok none) ::
          events kid inner (s.paid b B') := by
  rw [call, events, hB]
  dsimp only
  rw [ha]
  exact ⟨rfl, rfl⟩

theorem call_refused {wait : Duration} (hB : s.buckets[b]? = some B)
    (ha : B.acquire s.now 1 = (.ok (some wait), B')) :
    call kid (.limited inner b) s =
        (.ended (.error (.rateLimited wait)), (s.setBucket b B').record (.decision false)) ∧
      events kid (.limited inner b) s =
        [.called (.limited inner b) kid, .asked inner b (.ok (some wait))] := by
  rw [call, events, hB]
  dsimp only
  rw [ha]
  exact ⟨rfl, rfl⟩

/-- **What can happen at a limiter**: the call and its events. -/
inductive AtLimiter (kid : String) (inner : Provider) (b : Nat) (s : State) :
    Reach × State → List Event → Prop where
  /-- The bucket is not there. -/
  | absent (none : s.buckets[b]? = none) :
      AtLimiter kid inner b s (.absent "bucket", s) [.called (.limited inner b) kid]
  /-- The call goes on with a token. -/
  | granted {B B' : TokenBucket} (found : s.buckets[b]? = some B)
      (answer : B.acquire s.now 1 = (.ok none, B')) :
      AtLimiter kid inner b s (call kid inner (s.paid b B'))
        (.called (.limited inner b) kid :: .asked inner b (.ok none) ::
          events kid inner (s.paid b B'))
  /-- The call ends, because there is no token or the bucket gives no answer. -/
  | stopped {B B' : TokenBucket} {answer : Except BucketFault (Option Duration)} {o : Outcome}
      {m : Meter} (found : s.buckets[b]? = some B) (answered : B.acquire s.now 1 = (answer, B')) :
      AtLimiter kid inner b s (.ended o, { s.setBucket b B' with meter := m })
        [.called (.limited inner b) kid, .asked inner b answer]

/-- **Everything that can happen at a limiter.** -/
theorem atLimiter (kid : String) (inner : Provider) (b : Nat) (s : State) :
    AtLimiter kid inner b s (call kid (.limited inner b) s) (events kid (.limited inner b) s) := by
  rw [call, events]
  cases hB : s.buckets[b]? with
  | none => exact .absent hB
  | some B =>
    cases ha : B.acquire s.now 1 with
    | mk answer B' =>
      dsimp only
      rw [ha]
      cases answer with
      | ok granted =>
        cases granted with
        | none => exact .granted hB ha
        | some wait => exact .stopped hB ha
      | error f =>
        cases f with
        | overflow => exact .stopped hB ha
        | badCount n c => exact .stopped hB ha

/-! ## Once each -/

/-- The first event of a call is the call, and all others are about providers further in. -/
theorem events_eq (kid : String) (p : Provider) (s : State) :
    ∃ rest, events kid p s = .called p kid :: rest ∧ ∀ e ∈ rest, e.target.height < p.height := by
  induction p generalizing s with
  | source i | remote r | cached inner c => exact ⟨[], rfl, fun _ h => absurd h List.not_mem_nil⟩
  | limited inner b ih =>
    have hself : inner.height < (Provider.limited inner b).height := Nat.lt_succ_self _
    have hlimiter := atLimiter kid inner b s
    generalize call kid (.limited inner b) s = r, events kid (.limited inner b) s = es at hlimiter ⊢
    cases hlimiter with
    | absent => exact ⟨[], rfl, fun _ h => absurd h List.not_mem_nil⟩
    | stopped => exact ⟨_, rfl, fun e he => List.mem_singleton.1 he ▸ hself⟩
    | @granted B B' found answer =>
      obtain ⟨rest, hrest, hin⟩ := ih (s.paid b B')
      refine ⟨_, rfl, fun e he => ?_⟩
      rw [hrest] at he
      rcases List.mem_cons.1 he with rfl | he
      · exact hself
      · rcases List.mem_cons.1 he with rfl | he
        · exact hself
        · exact Nat.lt_trans (hin e he) hself

theorem count_called (kid : String) (p : Provider) (s : State) :
    (events kid p s).count (.called p kid) = 1 := by
  obtain ⟨rest, hrest, hin⟩ := events_eq kid p s
  have hzero : rest.count (.called p kid) = 0 :=
    List.count_eq_zero_of_not_mem fun h => Nat.lt_irrefl _ (hin _ h)
  rw [hrest, List.count_cons_self, hzero]

/-- No limiter further in asks for the same provider. -/
theorem count_asked (kid : String) (p : Provider) (s : State) (b : Nat)
    (answer : Except BucketFault (Option Duration)) :
    (events kid p s).count (.asked p b answer) = 0 := by
  obtain ⟨rest, hrest, hin⟩ := events_eq kid p s
  rw [List.count_eq_zero, hrest]
  intro h
  rcases List.mem_cons.1 h with h | h
  · cases h
  · exact Nat.lt_irrefl _ (hin _ h)

/-! ## Sources and buckets after a call -/

@[simp] theorem callsTo_paid (s : State) (b : Nat) (B : TokenBucket) (i : Nat) (kid : String) :
    (s.paid b B).callsTo i kid = s.callsTo i kid := rfl

theorem lookup_countFor (kid k : String) (l : List (String × Nat)) :
    (Source.countFor kid l).lookup k =
      if kid = k then some ((l.lookup k).getD 0 + 1) else l.lookup k := by
  induction l with
  | nil =>
    rw [Source.countFor, List.lookup_cons]
    by_cases hk : kid = k
    · rw [if_pos hk, hk, beq_self_eq_true]
      rfl
    · rw [if_neg hk, beq_false_of_ne (Ne.symm hk)]
  | cons e l ih =>
    obtain ⟨k', n⟩ := e
    rw [Source.countFor]
    by_cases hk' : k' = kid
    · rw [if_pos hk', List.lookup_cons, List.lookup_cons, hk']
      by_cases hk : kid = k
      · rw [if_pos hk, hk, beq_self_eq_true]
        rfl
      · rw [if_neg hk, beq_false_of_ne (Ne.symm hk)]
    · rw [if_neg hk', List.lookup_cons, List.lookup_cons, ih]
      by_cases hk : k = k'
      · subst hk
        rw [beq_self_eq_true, if_neg (Ne.symm hk'), if_neg (Ne.symm hk')]
      · rw [beq_false_of_ne hk]

theorem callsFor_arrive (source : Source) (kid k : String) :
    (source.arrive kid).2.2.callsFor k = source.callsFor k + if kid = k then 1 else 0 := by
  have hcount : (source.count kid).callsFor k = source.callsFor k + if kid = k then 1 else 0 := by
    rw [Source.callsFor, Source.count, lookup_countFor]
    by_cases hk : kid = k
    · rw [if_pos hk, if_pos hk]
      rfl
    · rw [if_neg hk, if_neg hk]
      rfl
  rw [← hcount, Source.arrive]
  split <;> rfl

theorem await_eq (s : State) (kid : String) (inner : Provider) (c : Nat) (cache : Cache) :
    (s.await kid inner c cache).2.sources = s.sources ∧
      (s.await kid inner c cache).2.buckets = s.buckets := by
  unfold await
  split <;> exact ⟨rfl, rfl⟩

theorem cached_eq (s : State) (kid : String) (inner : Provider) (c : Nat) :
    (call kid (.cached inner c) s).2.sources = s.sources ∧
      (call kid (.cached inner c) s).2.buckets = s.buckets := by
  rw [call]
  split
  · exact ⟨rfl, rfl⟩
  · split
    · exact ⟨rfl, rfl⟩
    · exact await_eq s kid inner c _
    · exact await_eq _ kid inner c _

theorem source_eq (s : State) (kid : String) (i : Nat) :
    (call kid (.source i) s).2.buckets = s.buckets ∧
      ∀ j k, (call kid (.source i) s).2.callsTo j k =
        (s.callsTo j k).map (· + if i = j ∧ kid = k then 1 else 0) := by
  rw [call, callSource]
  cases hs : s.sources[i]? with
  | none =>
    refine ⟨rfl, fun j k => ?_⟩
    by_cases hij : i = j
    · rw [callsTo, ← hij, hs]
      rfl
    · rw [if_neg fun h => hij h.1]
      exact Option.map_id'.symm
  | some source =>
    obtain ⟨hi, -⟩ := List.getElem?_eq_some_iff.1 hs
    have hcalls : ∀ j k, (s.setSource i (source.arrive kid).2.2).callsTo j k =
        (s.callsTo j k).map (· + if i = j ∧ kid = k then 1 else 0) := by
      intro j k
      rw [callsTo, callsTo, setSource]
      by_cases hij : i = j
      · rw [← hij, List.getElem?_set_self hi, hs, Option.map_some, Option.map_some, Option.map_some,
          callsFor_arrive]
        simp
      · rw [List.getElem?_set_ne hij, if_neg fun h => hij h.1]
        exact Option.map_id'.symm
    dsimp only
    split
    · exact ⟨rfl, hcalls⟩
    · exact ⟨rfl, hcalls⟩

/-- **Sources count the calls of the ledger.** -/
theorem callsTo_call (kid : String) (p : Provider) (s : State) (i : Nat) (k : String) :
    (call kid p s).2.callsTo i k =
      (s.callsTo i k).map (· + (events kid p s).count (.called (.source i) k)) := by
  induction p generalizing s with
  | source j =>
    rw [(source_eq s kid j).2, events, List.count_singleton]
    simp
  | remote r => exact Option.map_id'.symm
  | cached inner c =>
    rw [callsTo, (cached_eq s kid inner c).1, events]
    exact Option.map_id'.symm
  | limited inner b ih =>
    have hlimiter := atLimiter kid inner b s
    generalize call kid (.limited inner b) s = r, events kid (.limited inner b) s = es at hlimiter ⊢
    cases hlimiter with
    | absent | stopped => exact Option.map_id'.symm
    | granted found answer =>
      simp [ih]

theorem getElem?_set_acquire {bs : List TokenBucket} {now : Instant} {b : Nat} {B B' : TokenBucket}
    {answer : Except BucketFault (Option Duration)} (found : bs[b]? = some B)
    (answered : B.acquire now 1 = (answer, B')) (b' : Nat) :
    (bs.set b B')[b']? =
      (bs[b']?).map (·.replay (List.replicate (if b = b' then 1 else 0) (now, .acquire 1))) := by
  by_cases hb : b = b'
  · obtain ⟨hlt, -⟩ := List.getElem?_eq_some_iff.1 found
    rw [if_pos hb, ← hb, List.getElem?_set_self hlt, found, Option.map_some]
    refine congrArg some ?_
    change B' = (B.perform now (.acquire 1)).2
    rw [TokenBucket.perform, TokenBucket.reply_snd, answered]
  · rw [if_neg hb, List.getElem?_set_ne hb]
    exact Option.map_id'.symm

/-- **Buckets change as the ledger says.** -/
theorem buckets_call (kid : String) (p : Provider) (s : State) (b : Nat) :
    (call kid p s).2.buckets[b]? = (s.buckets[b]?).map
      (·.replay (List.replicate ((events kid p s).countP (·.asks b)) (s.now, .acquire 1))) := by
  induction p generalizing s with
  | source i =>
    rw [(source_eq s kid i).1, events]
    exact Option.map_id'.symm
  | remote r => exact Option.map_id'.symm
  | cached inner c =>
    rw [(cached_eq s kid inner c).2, events]
    exact Option.map_id'.symm
  | limited inner b' ih =>
    have hlimiter := atLimiter kid inner b' s
    generalize call kid (.limited inner b') s = r, events kid (.limited inner b') s = es
      at hlimiter ⊢
    cases hlimiter with
    | absent => exact Option.map_id'.symm
    | stopped found answered =>
      refine (getElem?_set_acquire found answered b).trans ?_
      simp [Event.asks, List.countP_cons]
    | @granted B B' found answer =>
      have hpaid : (s.paid b' B').buckets[b]? = _ := getElem?_set_acquire found answer b
      rw [ih, hpaid, Option.map_map]
      refine congrArg (fun f => Option.map f _) (funext fun X => ?_)
      rw [Function.comp_apply, ← TokenBucket.replay_append]
      change X.replay (_ ++ List.replicate _ (s.now, BucketCall.acquire 1)) = _
      rw [List.replicate_append_replicate]
      simp [Event.asks, List.countP_cons, Nat.add_comm]

/-! ## Turns, moves and runs -/

theorem receive_eq (s : State) (e : Exchange) :
    (s.receive e).2.sources = s.sources ∧ (s.receive e).2.buckets = s.buckets := by
  obtain ⟨now, delay, requests, m, -, heq⟩ := s.noteFetch_eq
    (e.remote.fetch s.network (s.wait e) s.requests.length)
  rw [receive]
  dsimp only
  rw [heq]
  exact ⟨rfl, rfl⟩

theorem finish_eq (s : State) (x : Task) (o : Outcome) :
    (s.finish x o).sources = s.sources ∧ (s.finish x o).buckets = s.buckets ∧
      (s.finish x o).requests = s.requests := by
  rcases s.finish_cases x o with ⟨id, -, heq⟩ | ⟨c, -, -, heq⟩ | ⟨c, cs, m, -, -, heq⟩
  all_goals
    rw [heq]
    exact ⟨rfl, rfl, rfl⟩

end State

namespace Turn

/-- The events of a turn. -/
def events (T : Turn) : List Event :=
  match T.stage with
  | .calling => State.events T.task.kid T.task.provider T.before
  | .admitted _ _ | .fetching _ | .told _ => []

theorem after_eq (T : Turn) :
    match T.stage with
    | .calling =>
      T.after.sources = (State.call T.task.kid T.task.provider T.before).2.sources ∧
        T.after.buckets = (State.call T.task.kid T.task.provider T.before).2.buckets
    | .admitted _ _ | .fetching _ | .told _ =>
      T.after.sources = T.before.sources ∧ T.after.buckets = T.before.buckets := by
  unfold after
  cases T.stage with
  | calling =>
    rw [State.advanceTask]
    cases hcall : State.call T.task.kid T.task.provider T.before with
    | mk r s =>
      cases r with
      | ended o => exact ⟨(State.finish_eq s T.task o).1, (State.finish_eq s T.task o).2.1⟩
      | waits spot | fetches e => exact ⟨rfl, rfl⟩
  | admitted i n =>
    rw [State.advanceTask]
    cases T.before.sources[i]? with
    | none => exact ⟨rfl, rfl⟩
    | some source => exact ⟨(State.finish_eq _ _ _).1, (State.finish_eq _ _ _).2.1⟩
  | fetching e =>
    obtain ⟨hsources, hbuckets⟩ := T.before.receive_eq e
    exact ⟨(State.finish_eq _ _ _).1.trans hsources, (State.finish_eq _ _ _).2.1.trans hbuckets⟩
  | told result => exact ⟨(State.finish_eq _ _ _).1, (State.finish_eq _ _ _).2.1⟩

theorem callsTo_after (T : Turn) (i : Nat) (kid : String) :
    T.after.callsTo i kid =
      (T.before.callsTo i kid).map (· + T.events.count (.called (.source i) kid)) := by
  have hafter := T.after_eq
  unfold events
  cases hstage : T.stage with
  | calling =>
    rw [hstage] at hafter
    rw [State.callsTo, hafter.1]
    exact State.callsTo_call _ _ _ _ _
  | admitted | fetching | told =>
    rw [hstage] at hafter
    rw [State.callsTo, hafter.1]
    exact Option.map_id'.symm

/-- What a turn asks a bucket. -/
def draws (b : Nat) (T : Turn) : List (Instant × BucketCall) :=
  List.replicate (T.events.countP (·.asks b)) (T.before.now, .acquire 1)

theorem buckets_after (T : Turn) (b : Nat) :
    T.after.buckets[b]? = (T.before.buckets[b]?).map (·.replay (T.draws b)) := by
  have hafter := T.after_eq
  unfold draws events
  cases hstage : T.stage with
  | calling =>
    rw [hstage] at hafter
    rw [hafter.2]
    exact State.buckets_call _ _ _ _
  | admitted | fetching | told =>
    rw [hstage] at hafter
    rw [hafter.2]
    exact Option.map_id'.symm

end Turn

namespace State

/-- **The ledger of a run.** -/
def ledger (s : State) (ms : List Move) : List Event := (s.history ms).flatMap Turn.events

/-- What a bucket is asked in a move. -/
def drawsIn (s : State) (b : Nat) : Move → List (Instant × BucketCall)
  | .callBucket b' c => if b' = b then [(s.now, c)] else []
  | .turn i => ((s.turn? (.turn i)).map (Turn.draws b)).getD []
  | _ => []

/-- What a bucket is asked in a run. -/
def draws (s : State) (b : Nat) : List Move → List (Instant × BucketCall)
  | [] => []
  | m :: ms => s.drawsIn b m ++ (s.apply m).draws b ms

/-- **Sources count the calls of the ledger.** -/
theorem callsTo_run (s : State) (ms : List Move) (i : Nat) (kid : String) :
    (s.run ms).callsTo i kid =
      (s.callsTo i kid).map (· + (s.ledger ms).count (.called (.source i) kid)) := by
  induction ms generalizing s with
  | nil => exact Option.map_id'.symm
  | cons m ms ih =>
    rw [run_cons, ih, ledger, ledger, history, List.flatMap_append, List.count_append]
    cases hm : s.turn? m with
    | none =>
      rw [(still_apply hm).counts, Option.toList_none, List.flatMap_nil, List.count_nil, Nat.zero_add]
    | some T =>
      have hbefore : T.before.callsTo i kid = s.callsTo i kid := by
        obtain ⟨j, -, heq⟩ := turn?_eq_some hm
        rw [heq]
        rfl
      rw [apply_of_turn? hm, T.callsTo_after, hbefore, Option.map_map, Option.toList_some,
        List.flatMap_singleton]
      refine congrArg (fun f => Option.map f _) (funext fun n => ?_)
      exact Nat.add_assoc _ _ _

/-- What a move does to buckets: those that there are, are asked what the ledger says, and new ones
are full. -/
structure Draws (m : Move) (s t : State) : Prop where
  asked : ∀ (b : Nat) (B : TokenBucket), s.buckets[b]? = some B →
    t.buckets[b]? = some (B.replay (s.drawsIn b m))
  fresh : ∀ (b : Nat) (B : TokenBucket), s.buckets[b]? = none → t.buckets[b]? = some B →
    ∃ r, B = .full r s.now

theorem Draws.of_append {m : Move} {s t : State} {bs : List TokenBucket}
    (hdraws : ∀ b, s.drawsIn b m = []) (ht : t.buckets = s.buckets ++ bs)
    (hbs : ∀ B ∈ bs, ∃ r, B = .full r s.now) : Draws m s t := by
  constructor
  case asked =>
    intro b B hB
    have hlt := (List.getElem?_eq_some_iff.1 hB).1
    rw [ht, List.getElem?_append_left hlt, hB, hdraws]
    rfl
  case fresh =>
    intro b B hnone hB
    rw [List.getElem?_eq_none_iff] at hnone
    rw [ht, List.getElem?_append_right hnone] at hB
    exact hbs B (List.mem_of_getElem? hB)

theorem Draws.of_eq {m : Move} {s t : State} (hdraws : ∀ b, s.drawsIn b m = [])
    (ht : t.buckets = s.buckets) : Draws m s t := by
  have hnil : t.buckets = s.buckets ++ [] := by rw [ht, List.append_nil]
  exact .of_append hdraws hnil fun _ h => absurd h List.not_mem_nil

theorem buckets_openGate (s : State) (i : Nat) : (s.openGate i).buckets = s.buckets := by
  obtain ⟨x, j, n, rest, -, -, heq⟩ | ⟨source, -, heq⟩ | heq := s.openGate_cases i
  · rw [heq]
    rfl
  · rw [heq]
    rfl
  · rw [heq]

/-- The user of a bucket asks that bucket, and no other. -/
theorem draws_callBucket (s : State) (b : Nat) (c : BucketCall) :
    Draws (.callBucket b c) s (s.apply (.callBucket b c)) := by
  rw [apply, callBucket]
  cases hb : s.buckets[b]? with
  | none =>
    constructor
    case asked =>
      intro b' B hB
      have hne : b ≠ b' := by
        rintro rfl
        exact Option.some_ne_none B (hB.symm.trans hb)
      rw [drawsIn, if_neg hne]
      exact hB
    case fresh => exact fun b B hnone hB => absurd (hB.symm.trans hnone) (Option.some_ne_none B)
  | some B' =>
    obtain ⟨hlt, -⟩ := List.getElem?_eq_some_iff.1 hb
    constructor
    case asked =>
      intro b' B hB
      rw [drawsIn]
      by_cases he : b = b'
      · subst he
        rw [hb] at hB
        cases hB
        rw [if_pos rfl]
        exact List.getElem?_set_self hlt
      · rw [if_neg he]
        exact (List.getElem?_set_ne he).trans hB
    case fresh =>
      intro b' B hnone hB
      have hne : b ≠ b' := by
        rintro rfl
        exact Option.some_ne_none B' (hb.symm.trans hnone)
      have hsame : (s.buckets.set b (B'.perform s.now c).2)[b']? = none :=
        (List.getElem?_set_ne hne).trans hnone
      exact absurd (hB.symm.trans hsame) (Option.some_ne_none B)

theorem draws_turn {s : State} {m : Move} {T : Turn} (hT : s.turn? m = some T) :
    Draws m s (s.apply m) := by
  have hbefore : T.before.buckets = s.buckets := by
    obtain ⟨j, -, heq⟩ := turn?_eq_some hT
    rw [heq]
  have hdraws : ∀ b, s.drawsIn b m = T.draws b := by
    intro b
    cases m with
    | turn i => rw [drawsIn, hT]; rfl
    | _ => cases hT
  rw [apply_of_turn? hT]
  constructor
  case asked =>
    intro b B hB
    rw [T.buckets_after, hbefore, hB, hdraws]
    rfl
  case fresh =>
    intro b B hnone hB
    rw [T.buckets_after, hbefore, hnone] at hB
    cases hB

/-- **What a move does to buckets.** -/
theorem draws_apply (s : State) (m : Move) : Draws m s (s.apply m) := by
  cases m with
  | skip | drop p | delay d | advance d | fetchAll r | forgo k =>
    exact .of_eq (fun _ => rfl) rfl
  | bucket r =>
    exact .of_append (fun _ => rfl) rfl fun B hB => ⟨r, List.mem_singleton.1 hB⟩
  | build base layers =>
    rw [apply]
    split
    · obtain ⟨bs, cs, heq, -, hfull, -⟩ := s.install_eq base layers
      exact .of_append (fun _ => rfl) (by rw [heq]; rfl) hfull
    · exact .of_eq (fun _ => rfl) rfl
  | get p kid =>
    rw [apply]
    split
    · exact .of_eq (fun _ => rfl) rfl
    · exact .of_eq (fun _ => rfl) rfl
  | openGate i => exact .of_eq (fun _ => rfl) (s.buckets_openGate i)
  | pass k =>
    refine .of_eq (fun _ => rfl) ?_
    obtain ⟨x, j, n, rest, -, -, heq⟩ | heq := s.pass_cases k
    · rw [apply, heq]
      rfl
    · rw [apply, heq]
  | abort id =>
    refine .of_eq (fun _ => rfl) ?_
    obtain ⟨x, spot, -, -, heq⟩ | heq := s.giveUp_cases id
    · obtain ⟨cs, -, hleave⟩ := leave_eq { s with parked := s.parked.erase (x, spot) } x.kid spot
      rw [apply, heq, hleave]
    · rw [apply, heq]
      rcases s.withdraw_cases id with hstrike | ⟨i, hstrike⟩
      · rw [hstrike, strike]
      · rw [hstrike, buckets_openGate, strike]
  | receive k =>
    refine .of_eq (fun _ => rfl) ?_
    rw [apply, receiveAt]
    split
    · exact ((s.forgo k).receive_eq _).2
    · rfl
  | callBucket b c => exact s.draws_callBucket b c
  | turn i =>
    cases hT : s.turn? (.turn i) with
    | none =>
      refine .of_eq (fun b => by rw [drawsIn, hT]; rfl) ?_
      rw [apply, turnAt, Option.map_eq_none_iff.1 hT]
    | some T => exact draws_turn hT

/-- **Buckets change as the ledger says**, and in no other way. -/
theorem buckets_run (s : State) (ms : List Move) {b : Nat} {B : TokenBucket}
    (hB : s.buckets[b]? = some B) : (s.run ms).buckets[b]? = some (B.replay (s.draws b ms)) := by
  induction ms generalizing s B with
  | nil => exact hB
  | cons m ms ih =>
    rw [run_cons, ih _ ((s.draws_apply m).asked b B hB), draws, TokenBucket.replay_append]

/-! ## Sound buckets -/

theorem now_apply (s : State) (m : Move) : s.now ≤ (s.apply m).now := by
  cases hm : s.turn? m with
  | none => exact (still_apply hm).later
  | some T =>
    have hbefore : T.before.now = s.now := by
      obtain ⟨j, -, heq⟩ := turn?_eq_some hm
      rw [heq]
    rw [apply_of_turn? hm, ← hbefore]
    exact T.now_after

/-- All buckets keep their bounds. -/
def BucketsSound (s : State) : Prop := ∀ B ∈ s.buckets, B.Sound 0 s.now

/-- A sound bucket stays so if it is only asked at the present. -/
theorem sound_replay {B : TokenBucket} {now : Instant} {calls : List (Instant × BucketCall)}
    (h : B.Sound 0 now) (hcalls : ∀ e ∈ calls, e.1 = now) : (B.replay calls).Sound 0 now := by
  induction calls generalizing B with
  | nil => exact h
  | cons e calls ih =>
    have he := hcalls e List.mem_cons_self
    refine ih ?_ fun e' he' => hcalls e' (List.mem_cons_of_mem _ he')
    have hperform := h.perform e.2
    rw [← he] at hperform ⊢
    exact hperform

theorem drawsIn_now {s : State} {b : Nat} {m : Move} {e : Instant × BucketCall}
    (he : e ∈ s.drawsIn b m) : e.1 = s.now := by
  cases m with
  | callBucket b' c =>
    rw [drawsIn] at he
    split at he
    · rw [List.mem_singleton.1 he]
    · exact absurd he List.not_mem_nil
  | turn i =>
    rw [drawsIn] at he
    cases hT : s.turn? (.turn i) with
    | none =>
      rw [hT] at he
      exact absurd he List.not_mem_nil
    | some T =>
      obtain ⟨j, -, heq⟩ := turn?_eq_some hT
      rw [hT] at he
      rw [(List.mem_replicate.1 he).2, heq]
  | _ => exact absurd he List.not_mem_nil

/-- **Every move keeps all buckets sound.** -/
theorem BucketsSound.apply {s : State} (h : s.BucketsSound) (m : Move) :
    (s.apply m).BucketsSound := by
  intro B' hB'
  obtain ⟨b, hb⟩ := List.mem_iff_getElem?.1 hB'
  have hdraws := s.draws_apply m
  have hnow := s.now_apply m
  cases hB : s.buckets[b]? with
  | none =>
    obtain ⟨r, rfl⟩ := hdraws.fresh b B' hB hb
    have hfull : (TokenBucket.full r s.now).Sound 0 s.now :=
      ⟨Nat.le_refl _, r.interval_pos, Nat.zero_le _, Nat.le_refl _⟩
    exact Level.Sound.later hfull hnow
  | some B =>
    have hreplay := hdraws.asked b B hB
    rw [hb] at hreplay
    rw [Option.some.inj hreplay]
    have hsound := h B (List.mem_of_getElem? hB)
    exact Level.Sound.later (sound_replay hsound fun e he => drawsIn_now he) hnow

/-- **All buckets are sound in every run.** -/
theorem bucketsSound_run (sources : List Source) (network : Network) (ms : List Move) :
    ((blank sources network).run ms).BucketsSound := by
  induction ms using List.reverseRecOn with
  | nil => exact fun B hB => absurd hB List.not_mem_nil
  | append_singleton ms m ih =>
    rw [run_concat]
    exact ih.apply m

end State

end SigningKeys
