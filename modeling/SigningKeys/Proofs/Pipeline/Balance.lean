import SigningKeys.Proofs.Pipeline.Gauge
import SigningKeys.Proofs.Pipeline.Retry

/-!
# The meter balances

What a meter shows after a run is what happened in the run, no less and no more: each count is the
number of the events that it stands for, and the gauge shows the size of a cache.

* `Event.Trail`, `Event.Forwards`: a limiter passes a call on if its bucket lets it, and only then;
* `State.Metered`, **`metered_run`**: what the meter shows after a run;
* `gauge_outlives_cache`: the gauge still shows the size of a cache that is gone.
-/

namespace SigningKeys

/-! ## Passing calls on -/

namespace Event

/-- A call that follows an event is the call that a limiter has just been allowed to pass on. -/
def Forwards (e e' : Event) : Prop :=
  ∀ p kid, e' = .called p kid → ∃ b, e = .asked p b (.ok none)

/-- **The trail of a call** for a key through the layers of a provider. -/
inductive Trail (kid : String) : Provider → List Event → Prop where
  /-- The call comes this far, and no further in. -/
  | reached {p : Provider} : Trail kid p [.called p kid]
  /-- A limiter does not let the call pass. -/
  | stopped {inner : Provider} {b : Nat} {answer : Except BucketFault (Option Duration)}
      (closed : answer ≠ .ok none) :
      Trail kid (.limited inner b) [.called (.limited inner b) kid, .asked inner b answer]
  /-- A limiter lets the call pass, and passes it on. -/
  | passed {inner : Provider} {b : Nat} {es : List Event} (rest : Trail kid inner es) :
      Trail kid (.limited inner b)
        (.called (.limited inner b) kid :: .asked inner b (.ok none) :: es)

variable {kid : String} {p : Provider} {es : List Event}

theorem Trail.head (h : Trail kid p es) : ∃ rest, es = .called p kid :: rest := by
  cases h with
  | reached | stopped | passed => exact ⟨_, rfl⟩

/-- **As many calls are passed on as are allowed to pass.** -/
theorem Trail.countP_decides (h : Trail kid p es) :
    es.countP (decides true) = (es.drop 1).countP isCall := by
  induction h with
  | reached => rfl
  | @stopped inner b answer closed =>
    cases answer with
    | error f => rfl
    | ok wait =>
      cases wait with
      | none => exact absurd rfl closed
      | some w => rfl
  | @passed inner b es rest ih =>
    obtain ⟨more, rfl⟩ := rest.head
    have hmore : ((Event.called inner kid :: more).drop 1).countP isCall = more.countP isCall := rfl
    have hcalls : (Event.called inner kid :: more).countP isCall = more.countP isCall + 1 :=
      List.countP_cons_of_pos rfl
    rw [hmore] at ih
    rw [List.countP_cons_of_neg Bool.false_ne_true, List.countP_cons_of_pos rfl, ih, List.drop_one,
      List.tail_cons, List.countP_cons_of_neg Bool.false_ne_true, hcalls]

/-- **Every call but the first is one that was allowed to pass.** -/
theorem Trail.isChain (h : Trail kid p es) : es.IsChain Forwards := by
  induction h with
  | reached => exact .singleton _
  | stopped => exact .cons_cons nofun (.singleton _)
  | @passed inner b es rest ih =>
    obtain ⟨more, rfl⟩ := rest.head
    refine .cons_cons nofun (.cons_cons ?_ ih)
    intro p kid heq
    cases heq
    exact ⟨b, rfl⟩

end Event

namespace Turn

/-- How many calls the limiters pass on in a turn: all but the first one. -/
def forwarded (T : Turn) : Nat := (T.events.drop 1).countP Event.isCall

end Turn

namespace State

theorem trail (kid : String) (p : Provider) (s : State) : Event.Trail kid p (events kid p s) := by
  induction p generalizing s with
  | source i | remote r | cached inner c => exact .reached
  | limited inner b ih =>
    rw [events]
    cases s.buckets[b]? with
    | none => exact .reached
    | some B =>
      dsimp only
      cases (B.acquire s.now 1).1 with
      | error fault => exact .stopped fun hf => by cases hf
      | ok wait =>
        cases wait with
        | none => exact .passed (ih _)
        | some w => exact .stopped fun hf => Option.some_ne_none w (Except.ok.inj hf)

end State

namespace Turn

variable {T : Turn}

theorem trail_or_nil (T : Turn) :
    T.events = [] ∨ Event.Trail T.task.kid T.task.provider T.events := by
  unfold events
  cases T.stage with
  | calling => exact .inr (State.trail _ _ _)
  | admitted i n | fetching x | told result => exact .inl rfl

theorem countP_decides (T : Turn) : T.events.countP (Event.decides true) = T.forwarded := by
  rcases T.trail_or_nil with hnil | htrail
  · rw [forwarded, hnil]
    rfl
  · exact htrail.countP_decides

theorem forwards (T : Turn) : T.events.IsChain Event.Forwards := by
  rcases T.trail_or_nil with hnil | htrail
  · rw [hnil]
    exact .nil
  · exact htrail.isChain

end Turn

/-! ## The meter of a run -/

namespace State

/-- **What the meter shows after a run** is what happened in it. -/
structure Metered (s₀ : State) (ms : List Move) : Prop where
  /-- Calls of caches find a key, miss it, or join the fetch of it. -/
  looks : (s₀.run ms).meter.count (.lookup .hit) + (s₀.run ms).meter.count (.lookup .miss) +
    (s₀.run ms).meter.count .coalesced = (s₀.ledger ms).countP Event.callsCache
  /-- Each call of a cache counts as exactly one of the three, in the turn in which it is made. -/
  once : ∀ T ∈ s₀.history ms, Meter.Looked T.events T.before.meter T.after.meter
  /-- There is a miss for every fetch that starts. -/
  misses : (s₀.run ms).meter.count (.lookup .miss) =
    ((s₀.history ms).flatMap Turn.made).length
  /-- The fetches are those of caches that are called. -/
  made : ∀ T ∈ s₀.history ms, ∀ x ∈ T.made, ∃ inner c,
    .called (.cached inner c) T.task.kid ∈ T.events ∧ x = ⟨.fetch c, T.task.kid, inner⟩
  expired : (s₀.run ms).meter.count (.lookup .expired) ≤ (s₀.run ms).meter.count (.lookup .miss)
  /-- Limiters allow as many calls as they pass on. -/
  allowed : (s₀.run ms).meter.count (.decision true) = ((s₀.history ms).map Turn.forwarded).sum
  /-- What they pass on is what they allow. -/
  forwards : ∀ T ∈ s₀.history ms, T.events.IsChain Event.Forwards
  /-- Limiters reject as many calls as they are told to wait with. -/
  rejected : (s₀.run ms).meter.count (.decision false) =
    (s₀.ledger ms).countP (Event.decides false)
  /-- Those calls end with the wait that the limiter was told. -/
  refused : ∀ T ∈ s₀.history ms, ∀ inner b w, .asked inner b (.ok (some w)) ∈ T.events →
    T.result? = some (.error (.rateLimited w))
  /-- The time of a fetch is measured whenever the fetch is counted, by the same status. -/
  timed : ∀ success, (s₀.run ms).meter.total (Meter.fetchMetrics success) =
    (s₀.run ms).meter.count (.timing success)
  /-- Fetches over the network are counted when they end, for keys and for whole key sets. -/
  fetched : (s₀.run ms).meter.total (Meter.fetchMetrics true) +
    (s₀.run ms).meter.total (Meter.fetchMetrics false) = (s₀.gather completes ms).length
  /-- Not counted are those that are given up, and those that are still under way. -/
  begun : (s₀.gather begins ms).Perm
    (s₀.gather completes ms ++ (s₀.gather renounces ms ++ (s₀.run ms).underWay))
  /-- The gauge shows the size of one of the caches. -/
  gauged : (s₀.run ms).Gauged
  /-- If there was never more than one cache, it shows the size of that one. -/
  only : ∀ cache, (s₀.run ms).caches = [cache] → ∀ n, (s₀.run ms).meter.entries = some n →
    n = cache.size

theorem exists_turn_of_mem_history {s : State} {ms : List Move} {T : Turn}
    (h : T ∈ s.history ms) : ∃ ms₁ m, (s.run ms₁).turn? m = some T := by
  obtain ⟨pre, post, hcut⟩ := List.append_of_mem h
  obtain ⟨ms₁, m, -, -, -, hT, -⟩ := exists_of_history_eq hcut
  exact ⟨ms₁, m, hT⟩

/-- **Every meter is an exact ledger of its run**: any sources, caches and limiters, any order of
moves, and any calls that are given up. -/
theorem metered_run (sources : List Source) (network : Network) (ms : List Move) :
    (blank sources network).Metered ms := by
  have henters := enters_run (sound_blank sources network) ms
  have hgauged := gauged_run sources network ms
  have hentries : ∀ T ∈ (blank sources network).history ms, T.Entries := by
    intro T hT
    obtain ⟨ms₁, m, hturn⟩ := exists_turn_of_mem_history hT
    obtain ⟨behind, hsound⟩ := sound_run sources network ms₁
    exact hsound.entries hturn
  have hmisses := henters.misses
  have htimed : ∀ success, _ := fun success => henters.timed success (by cases success <;> rfl)
  constructor
  case looks =>
    have hlooks := henters.looks.trans (Nat.zero_add _)
    simp only [Meter.total, Meter.lookMetrics, List.map_cons, List.map_nil, List.sum_cons,
      List.sum_nil] at hlooks
    omega
  case once => exact fun T hT => (hentries T hT).looked
  case misses => exact hmisses.trans (Nat.zero_add _)
  case made => exact fun T hT => (hentries T hT).made
  case expired => exact henters.expired.trans hmisses.ge
  case allowed =>
    rw [henters.decisions, ledger, List.countP_flatMap]
    refine (Nat.zero_add _).trans (congrArg List.sum (List.map_congr_left fun T _ => ?_))
    exact T.countP_decides
  case forwards => exact fun T _ => T.forwards
  case rejected => exact (henters.decisions false).trans (Nat.zero_add _)
  case refused => exact fun T _ inner b w h => (refusal_of_turn h).1
  case timed => exact htimed
  case fetched =>
    rw [htimed, htimed]
    exact henters.timings.trans (Nat.zero_add _)
  case begun => exact underWay_run (blank sources network) ms
  case gauged => exact hgauged
  case only =>
    intro cache hcaches n hn
    have hmem := hgauged.told n hn
    rw [sizes, hcaches] at hmem
    exact List.mem_singleton.1 hmem

/-- A fetch for a key is given up by its caller, one of a whole key set by the user; a third one
ends. -/
def forsaken (r : Remote) : List Move :=
  [.build (.remote r) ⟨none, none⟩, .get 0 "a", .turn 0, .abort 0, .fetchAll r, .forgo 0,
    .fetchAll r, .receive 0]

/-- Only the fetch that ended is counted. -/
example :
    let r : Remote := { url := { scheme := .https, host := .name "keys.example" } }
    let s := blank [] .unreachable
    (s.gather begins (forsaken r)).length = 3 ∧ (s.gather renounces (forsaken r)).length = 2 ∧
      (s.gather completes (forsaken r)).length = 1 ∧
      (s.run (forsaken r)).meter.total (Meter.fetchMetrics false) = 1 ∧
      (s.run (forsaken r)).meter.total (Meter.fetchMetrics true) = 0 := by
  decide +kernel

/-- Two caches, of which one stores a key and is then let go. -/
def outlived : List Move :=
  [.build (.source 0) ⟨none, some ⟨1, Duration.ofSeconds 1, Nat.one_pos, Duration.second_pos⟩⟩,
    .build (.source 0) ⟨none, some ⟨1, Duration.ofSeconds 1, Nat.one_pos, Duration.second_pos⟩⟩,
    .get 0 "a", .turn 0, .turn 0, .turn 0, .drop 0]

/-- **The gauge outlives a cache**: it still shows what that one stored, when another one is the
only cache left and stores nothing. -/
theorem gauge_outlives_cache :
    let s := (blank [{ behaviour := .scripted [.key []] }] .unreachable).run outlived
    (List.range s.caches.length).filter s.holds = [1] ∧ s.caches.map Cache.size = [1, 0] ∧
      s.meter.entries = some 1 := by
  decide +kernel

end State

end SigningKeys
