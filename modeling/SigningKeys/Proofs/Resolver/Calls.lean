import SigningKeys.Proofs.Jwk.RoundTrip
import SigningKeys.Proofs.Pipeline.Ledger
import SigningKeys.Proofs.Remote.Published
import SigningKeys.Proofs.Run.Cascades
import SigningKeys.Resolver

/-!
# One call at a time

A pipeline that is called only when nothing else goes on answers every call: with a record as it was
read, or with an error. Then nothing goes on again. That holds however long a server holds its
answers, and however much time passes between two calls.

* `Outcome.Told`: the outcomes that can be reported;
* `Provider.OnNetwork`: a key set on the network behind limiters, and a cache in front of them or
  none;
* `State.Rested`: a state in which nothing goes on;
* `State.Spent`: what a way over the network costs;
* `State.call_network`, **`State.settle_network`**: a call that no cache answers;
* `State.StartsWell`, **`State.Rested.start`**: a call of a pipeline at rest;
* `State.AttemptsWell`, **`State.Rested.attempt`**: such a call, and the time that passes around it.
-/

namespace SigningKeys

/-! ## What can be reported -/

/-- An outcome that can be reported: a record as it was read, or an error. -/
inductive Outcome.Told : Outcome → Prop
  | key {j : Jwk} (h : j.Readable) : Told (.key j)
  | error (e : KeyError) : Told (.error e)

/-- Waiting callers are told such an outcome unchanged. -/
theorem Outcome.Told.share {o : Outcome} (h : o.Told) : .ofExcept o.share = o := by
  cases h <;> rfl

/-- A key set on the network behind limiters. -/
def Provider.Fetches (p : Provider) : Prop := ∃ r, p.core = .remote r

/-- A key set on the network behind limiters, with a cache in front of them or with none. -/
def Provider.OnNetwork (p : Provider) : Prop :=
  p.Fetches ∨ ∃ inner c, p = .cached inner c ∧ inner.Fetches

/-- A cache in which no fetch is under way, with records as they were read. -/
structure Cache.Rested (cache : Cache) : Prop where
  kids : cache.kids = []
  stored : ∀ kid e, cache.store.get? kid = some e → e.key.Readable

/-- A cache after the fetch of a key that it did not hold: one that began at `now` and ended at
`later`. -/
def Cache.fetched (cache : Cache) (now later : Instant) (kid : String) (o : Outcome) : Cache :=
  (((cache.swept now kid).depart kid).keep later kid o).land kid

theorem Cache.Rested.fetched {cache : Cache} {now : Instant} {kid : String} {o : Outcome}
    (h : cache.Rested) (hstale : cache.fresh? now kid = none) (ho : o.Told) (later : Instant) :
    (cache.fetched now later kid o).Rested := by
  constructor
  case kids =>
    have hswept : (cache.swept now kid).kids = [] := h.kids
    rw [Cache.fetched, Cache.kids_land, Cache.kids_keep, Cache.kids_depart, hswept]
    simp
  case stored =>
    intro k e he
    rcases Cache.get?_keep he with ⟨-, rfl, -⟩ | ⟨hold, -⟩
    · cases ho with
      | key hj => exact hj
    · have hget := Cache.get?_swept (k := k) hstale
      rw [show (cache.swept now kid).store.get? k = some e from hold] at hget
      split at hget
      · cases hget
      · exact h.stored k e hget.symm

namespace State

/-- **A state in which nothing goes on.** -/
structure Rested (p : Provider) (s : State) : Prop where
  ready : s.ready = []
  parked : s.parked = []
  held : some p ∈ s.held
  numbers : ∀ e ∈ s.ended, e.1 < s.started
  buckets : s.BucketsSound
  caches : ∀ (c : Nat) (cache : Cache), s.caches[c]? = some cache → cache.Rested

variable {s t u : State} {p inner : Provider} {kid : String} {o : Outcome} {x : Task}

/-! ## What a way over the network costs -/

/-- **A call on its way over the network** changes nothing but the buckets, the requests and the
meter, and spends nothing but the time that is to pass. -/
structure Spent (s t : State) : Prop where
  rest : ∃ now delay requests bs m, t = { s with now, delay, requests, buckets := bs, meter := m }
  time : t.now + t.delay.nanos = s.now + s.delay.nanos
  buckets : s.BucketsSound → t.BucketsSound

theorem Spent.refl (s : State) : s.Spent s :=
  ⟨⟨_, _, _, _, _, rfl⟩, rfl, id⟩

theorem Spent.trans (h : s.Spent t) (h' : t.Spent u) : s.Spent u := by
  obtain ⟨⟨now, delay, requests, bs, m, rfl⟩, htime, hbuckets⟩ := h
  obtain ⟨⟨now', delay', requests', bs', m', rfl⟩, htime', hbuckets'⟩ := h'
  exact ⟨⟨_, _, _, _, _, rfl⟩, htime'.trans htime, fun h => hbuckets' (hbuckets h)⟩

theorem Spent.record (h : s.Spent t) (e : Metric) : s.Spent (t.record e) := by
  obtain ⟨⟨now, delay, requests, bs, m, rfl⟩, htime, hbuckets⟩ := h
  exact ⟨⟨_, _, _, _, _, rfl⟩, htime, hbuckets⟩

/-- Buckets stay sound while time passes. -/
theorem BucketsSound.later (h : s.BucketsSound) (hbuckets : t.buckets = s.buckets)
    (hlater : s.now ≤ t.now) : t.BucketsSound :=
  fun B hB => Level.Sound.later (h B (hbuckets ▸ hB)) hlater

/-- The end of a fetch. -/
theorem spent_receiveKey (s : State) (kid : String) (x : Exchange) :
    s.Spent (s.receiveKey kid x).2 := by
  rw [receiveKey_eq, receive, noteFetch]
  dsimp only
  split
  · exact ⟨⟨_, _, _, _, _, rfl⟩, rfl, fun h => h.later rfl (Nat.le_add_right _ _)⟩
  · exact ⟨⟨_, _, _, _, _, rfl⟩, rfl, id⟩

/-- What is found in a key set on the network is a record as it was read. -/
theorem told_receiveKey (s : State) (kid : String) (x : Exchange) :
    (s.receiveKey kid x).1.Told := by
  obtain ⟨set, j, hset, hj, h⟩ | ⟨_, t, -, -, h⟩ | ⟨-, t, h⟩ := receiveKey_cases kid x s
  · obtain ⟨-, answer, -, hpublishes⟩ := hset
    have hmem : j ∈ set.keys := List.mem_of_find?_eq_some hj
    obtain ⟨front, back, hread⟩ := Jwk.exists_of_mem_keys hpublishes.document j hmem
    rw [h]
    exact .key (Jwk.readable_of_jwk (by decide) hread)
  · rw [h]
    exact .error _
  · rw [h]
    exact .error _

/-- **A call that no cache answers** ends with an error at once, or begins to fetch. -/
theorem call_network (hp : p.Fetches) (hb : s.BucketsSound) (hn : s.now ≤ maxNanos)
    (kid : String) :
    ∃ t, s.Spent t ∧
      ((∃ e, call kid p s = (.ended (.error e), t)) ∨ ∃ x, call kid p s = (.fetches x, t)) := by
  induction p generalizing s with
  | source i => obtain ⟨r, hr⟩ := hp; cases hr
  | cached inner c => obtain ⟨r, hr⟩ := hp; cases hr
  | remote r => exact ⟨s, .refl s, .inr ⟨_, rfl⟩⟩
  | limited inner b ih =>
    rw [call]
    cases hbucket : s.buckets[b]? with
    | none => exact ⟨s, .refl s, .inl ⟨_, rfl⟩⟩
    | some B =>
      have hB := hb B (List.mem_of_getElem? hbucket)
      have hset : ∀ m, s.Spent { s.setBucket b (B.acquire s.now 1).2 with meter := m } := by
        refine fun m => ⟨⟨_, _, _, _, _, rfl⟩, rfl, fun _ B' hB' => ?_⟩
        rcases List.mem_or_eq_of_mem_set hB' with hold | rfl
        · exact hb B' hold
        · exact hB.acquire 1
      dsimp only
      obtain ⟨-, h⟩ | ⟨-, w, -, -, h⟩ := TokenBucket.acquire_one hB (by omega)
      · rw [h] at hset ⊢
        obtain ⟨t, ht, hcall⟩ := ih hp ((hset _).buckets hb) hn
        exact ⟨t, (hset _).trans ht, hcall⟩
      · rw [h] at hset ⊢
        exact ⟨_, hset _, .inl ⟨_, rfl⟩⟩

/-! ## Single turns -/

/-- The turn of a call. -/
theorem turn_of_calling {rest : List (Task × Stage)} (hready : s.ready = (x, .calling) :: rest) :
    s.turn = { s with ready := rest }.advanceTask x .calling := by
  rw [turn, hready]

/-- The turn of a call that was told a result. -/
theorem turn_of_told {rest : List (Task × Stage)} {result : Except KeyError Jwk}
    (hready : s.ready = (x, .told result) :: rest) :
    s.turn = { s with ready := rest }.finish x (.ofExcept result) := by
  rw [turn, hready]
  rfl

/-- **The turns of a call that no cache answers**, until it ends. -/
theorem settle_network (hp : x.provider.Fetches) (hb : s.BucketsSound) (hn : s.now ≤ maxNanos)
    (hready : s.ready = [(x, .calling)]) :
    ∃ o t, { s with ready := [] }.Spent t ∧ o.Told ∧ s.settle = (t.finish x o).settle := by
  have hcalling := turn_of_calling hready
  obtain ⟨t, ht, ⟨e, hcall⟩ | ⟨y, hcall⟩⟩ :=
    call_network (s := { s with ready := [] }) hp hb hn x.kid
  · rw [advanceTask, hcall] at hcalling
    exact ⟨_, t, ht, .error e, by rw [settle_of_ready (by simp [hready]), hcalling]⟩
  · rw [advanceTask, hcall] at hcalling
    have htready : t.ready = [] := by
      obtain ⟨now, delay, requests, bs, m, rfl⟩ := ht.rest
      rfl
    have hfetching : (t.enqueue x (.fetching y)).turn =
        (t.receiveKey x.kid y).2.finish x (t.receiveKey x.kid y).1 := by
      rw [turn, enqueue, htready]
      dsimp only [List.nil_append]
      rw [← htready]
      rfl
    refine ⟨_, _, ht.trans (t.spent_receiveKey x.kid y), t.told_receiveKey x.kid y, ?_⟩
    rw [settle_of_ready (by simp [hready]), hcalling, settle_of_ready (by simp [enqueue]),
      hfetching]

/-! ## A call of a pipeline at rest -/

/-- **A call starts well**: it ends with an outcome that can be reported, takes no time but what is
to pass, and leaves nothing that goes on. -/
structure StartsWell (p : Provider) (kid : String) (s : State) (o : Outcome) : Prop where
  told : o.Told
  started : (s.start p kid).started = s.started + 1
  ended : (s.start p kid).ended = s.ended ++ [(s.started, o)]
  time : (s.start p kid).now + (s.start p kid).delay.nanos = s.now + s.delay.nanos
  rested : (s.start p kid).Rested p

/-- The state in which a call has just begun. -/
theorem ready_spawn (h : s.Rested p) (kid : String) :
    (s.spawn p kid).ready = [(⟨.caller s.started, kid, p⟩, .calling)] := by
  rw [spawn, enqueue, h.ready]
  rfl

theorem Rested.spawn_eq (h : s.Rested p) (kid : String) :
    { s.spawn p kid with ready := [] } = { s with started := s.started + 1 } := by
  rw [spawn, enqueue, ← h.ready]

theorem Rested.numbers_concat (h : s.Rested p) (o : Outcome) :
    ∀ e ∈ s.ended ++ [(s.started, o)], e.1 < s.started + 1 := by
  intro e he
  rcases List.mem_append.1 he with he | he
  · exact Nat.lt_succ_of_lt (h.numbers e he)
  · rw [List.mem_singleton.1 he]
    exact Nat.lt_succ_self _

/-- **The end of a call** that has left nothing behind but caches at rest. -/
theorem Rested.starts_of_settle (h : s.Rested p) {caches : List Cache} (ho : o.Told)
    (hcaches : ∀ (c : Nat) (cache : Cache), caches[c]? = some cache → cache.Rested)
    (hspent : { s with started := s.started + 1, caches }.Spent t)
    (hsettle : (s.spawn p kid).settle = (t.finish ⟨.caller s.started, kid, p⟩ o).settle) :
    s.StartsWell p kid o := by
  obtain ⟨⟨now, delay, requests, bs, m, rfl⟩, htime, hbuckets⟩ := hspent
  have hstart := hsettle.trans (settle_of_rest (s := _) ?rest)
  case rest =>
    rw [finish_caller o rfl]
    exact h.ready
  rw [finish_caller o rfl] at hstart
  constructor
  case told => exact ho
  case started => exact congrArg State.started hstart
  case ended => exact congrArg State.ended hstart
  case time => rw [start, hstart]; exact htime
  case rested =>
    rw [start, hstart]
    exact {
      ready := h.ready
      parked := h.parked
      held := h.held
      numbers := h.numbers_concat o
      buckets := hbuckets h.buckets
      caches := hcaches }

/-- A call that ends in its first turn. -/
theorem Rested.starts_of_ended (h : s.Rested p) (ho : o.Told)
    (hspent : { s with started := s.started + 1 }.Spent t)
    (hcall : call kid p { s with started := s.started + 1 } = (.ended o, t)) :
    s.StartsWell p kid o := by
  have hready := ready_spawn h kid
  refine h.starts_of_settle ho h.caches hspent ?_
  rw [settle_of_ready (by rw [hready]; exact List.cons_ne_nil _ _), turn_of_calling hready,
    h.spawn_eq, advanceTask, hcall]

/-! ## A call that misses -/

variable {c : Nat} {cache : Cache}

/-- The state between the first turn of a call that misses and its fetch. -/
def missed (s : State) (kid : String) (inner : Provider) (c : Nat) (cache : Cache) (m : Meter) :
    State :=
  { s with
    started := s.started + 1
    caches := s.caches.set c ((cache.swept s.now kid).depart kid)
    ready := [(⟨.fetch c, kid, inner⟩, .calling)]
    parked := [(⟨.caller s.started, kid, .cached inner c⟩, .flight c 0)]
    meter := m }

/-- The call waits, and the fetch is ready. -/
theorem Rested.turn_miss (h : s.Rested (.cached inner c)) (hcache : s.caches[c]? = some cache)
    (hstale : cache.fresh? s.now kid = none) :
    ∃ m, (s.spawn (.cached inner c) kid).turn = s.missed kid inner c cache m := by
  have hnone : (cache.swept s.now kid).flight? kid = none := by
    have hkids : (cache.swept s.now kid).kids = [] := (h.caches c cache hcache).kids
    rw [Cache.flight?_eq_none, hkids]
    exact List.not_mem_nil
  obtain ⟨m, hcall⟩ := call_cached_of_stale (s := { s with started := s.started + 1 }) inner hcache
    hstale
  refine ⟨m.record (.lookup .miss), ?_⟩
  rw [turn_of_calling (ready_spawn h kid), h.spawn_eq, advanceTask, hcall, await_of_no_flight hnone]
  simp [park, enqueue, record, setCache, missed, h.ready, h.parked]

/-- The fetch ends, and the call is about to be told. -/
theorem Rested.settle_miss (h : s.Rested (.cached inner c)) (hinner : inner.Fetches)
    (hcache : s.caches[c]? = some cache) (hn : s.now ≤ maxNanos) (m : Meter) :
    ∃ (o : Outcome) (t : State), o.Told ∧
      { s with
        started := s.started + 1
        caches := s.caches.set c (cache.fetched s.now t.now kid o) }.Spent t ∧
      (s.missed kid inner c cache m).settle =
        (t.finish ⟨.caller s.started, kid, .cached inner c⟩ o).settle := by
  have hlt : c < s.caches.length := (List.getElem?_eq_some_iff.1 hcache).1
  obtain ⟨o, t, ht, ho, hsettle⟩ := settle_network (s := s.missed kid inner c cache m)
    (x := ⟨.fetch c, kid, inner⟩) hinner h.buckets hn rfl
  obtain ⟨⟨now, delay, requests, bs, m₁, rfl⟩, htime, hbuckets⟩ := ht
  have hholds : State.holds { s.missed kid inner c cache m with
      ready := [], now, delay, requests, buckets := bs, meter := m₁ } c = true :=
    (holds_iff _ _).2 ⟨.cached inner c, .inl h.held, Provider.uses_of_core_eq rfl⟩
  have hset : (s.caches.set c ((cache.swept s.now kid).depart kid))[c]? =
      some ((cache.swept s.now kid).depart kid) := List.getElem?_set_self hlt
  obtain ⟨m₂, hfinish⟩ := finish_fetch (t := ⟨.fetch c, kid, inner⟩) o rfl hholds hset
  refine ⟨o, { s with
    started := s.started + 1
    caches := s.caches.set c (cache.fetched s.now now kid o)
    now, delay, requests, buckets := bs, meter := m₂ }, ho,
    ⟨⟨_, _, _, _, _, rfl⟩, htime, hbuckets⟩, ?_⟩
  -- all that waits for the fetch is the call, which is told
  have htell : State.finish { s.missed kid inner c cache m with
      ready := [], now, delay, requests, buckets := bs, meter := m₁ } ⟨.fetch c, kid, inner⟩ o =
        { s with
          started := s.started + 1
          caches := s.caches.set c (cache.fetched s.now now kid o)
          ready := [(⟨.caller s.started, kid, .cached inner c⟩, .told o.share)]
          parked := [], now, delay, requests, buckets := bs, meter := m₂ } := by
    rw [hfinish]
    simp [tell, waiting, missed, setCache, placeFor?, Spot.placeIn?, seat, Cache.fetched]
  rw [hsettle, htell, settle_of_ready (List.cons_ne_nil _ _), turn_of_told rfl, ho.share]
  simp [h.ready, h.parked]

/-- **A call that misses** ends well. -/
theorem Rested.start_of_miss (h : s.Rested (.cached inner c)) (hinner : inner.Fetches)
    (hcache : s.caches[c]? = some cache) (hstale : cache.fresh? s.now kid = none)
    (hn : s.now ≤ maxNanos) : ∃ o, s.StartsWell (.cached inner c) kid o := by
  obtain ⟨m, hmiss⟩ := h.turn_miss hcache hstale
  obtain ⟨o, t, ho, hspent, hsettle⟩ := h.settle_miss hinner hcache hn m
  refine ⟨o, h.starts_of_settle ho ?_ hspent ?_⟩
  · intro d cache' hd
    by_cases hcd : c = d
    · subst hcd
      rw [List.getElem?_set_self (List.getElem?_eq_some_iff.1 hcache).1] at hd
      cases hd
      exact (h.caches c cache hcache).fetched hstale ho t.now
    · rw [List.getElem?_set_ne hcd] at hd
      exact h.caches d cache' hd
  · rw [settle_of_ready (by rw [ready_spawn h]; exact List.cons_ne_nil _ _), hmiss, hsettle]

/-- **Every call of a pipeline at rest** starts well. -/
theorem Rested.start (h : s.Rested p) (hp : p.OnNetwork) (hn : s.now ≤ maxNanos) (kid : String) :
    ∃ o, s.StartsWell p kid o := by
  rcases hp with hp | ⟨inner, c, rfl, hinner⟩
  · obtain ⟨o, t, hspent, ho, hsettle⟩ := settle_network (x := ⟨.caller s.started, kid, p⟩) hp
      (s := s.spawn p kid) h.buckets hn (ready_spawn h kid)
    exact ⟨o, h.starts_of_settle ho h.caches (h.spawn_eq kid ▸ hspent) hsettle⟩
  · cases hcache : s.caches[c]? with
    | none =>
      have hcall : call kid (.cached inner c) { s with started := s.started + 1 } =
          (.absent "cache", { s with started := s.started + 1 }) := by
        rw [call, hcache]
      exact ⟨_, h.starts_of_ended (.error _) (.refl _) hcall⟩
    | some cache =>
      cases hfresh : cache.fresh? s.now kid with
      | none => exact h.start_of_miss hinner hcache hfresh hn
      | some j =>
        obtain ⟨since, hstored, -⟩ := Cache.fresh?_eq_some.1 hfresh
        have hj := (h.caches c cache hcache).stored kid _ hstored
        have hcall : call kid (.cached inner c) { s with started := s.started + 1 } = _ :=
          call_cached_of_fresh hcache hfresh
        have hspent := Spent.refl { s with started := s.started + 1 } |>.record (.lookup .hit)
        exact ⟨_, h.starts_of_ended (.key hj) hspent hcall⟩

/-! ## Time that passes -/

/-- A pipeline stays at rest while time passes. -/
theorem Rested.advance (h : s.Rested p) (d : Duration) : (s.advance d).Rested p :=
  { h with buckets := h.buckets.later rfl (Nat.le_add_right _ _) }

theorem Rested.catchUp (h : s.Rested p) : s.catchUp.Rested p := { h.advance s.delay with }

/-- **An attempt at a key id ends well**: with an outcome that can be reported, and the time has
passed that was to pass. -/
structure AttemptsWell (p : Provider) (kid : String) (l : Lapse) (s : State) (o : Outcome) :
    Prop where
  told : o.Told
  started : (s.attempt p kid l).started = s.started + 1
  ended : (s.attempt p kid l).ended = s.ended ++ [(s.started, o)]
  now : (s.attempt p kid l).now = s.now + l.nanos
  rested : (s.attempt p kid l).Rested p

/-- **Every attempt of a pipeline at rest** ends well, however long a server holds its answers. -/
theorem Rested.attempt (h : s.Rested p) (hp : p.OnNetwork) (hn : s.now ≤ maxNanos) (kid : String)
    (l : Lapse) : ∃ o, s.AttemptsWell p kid l o := by
  have hdelay : { s with delay := l.during }.Rested p := { h with }
  obtain ⟨o, hwell⟩ := hdelay.start hp hn kid
  refine ⟨o, hwell.told, hwell.started, hwell.ended, ?_, hwell.rested.catchUp.advance l.after⟩
  calc (s.attempt p kid l).now = s.now + l.during.nanos + l.after.nanos :=
        congrArg (· + l.after.nanos) hwell.time
    _ = s.now + l.nanos := Nat.add_assoc _ _ _

end State

end SigningKeys
