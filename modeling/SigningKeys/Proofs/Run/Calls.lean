import SigningKeys.Proofs.Cache.Lookup
import SigningKeys.State.Call

/-!
# What a call can do in one turn

A call passes the limiters in front of its provider, one after the other, until one of them refuses
or a source, a key set on the network or a cache is reached: the core of the provider.

* `Provider.core`: the first layer that is no limiter;
* `call_core`: limiters change nothing but buckets and the meter;
* `Called`, **`called`**: everything that a call can do in one turn, one constructor a way.
-/

namespace SigningKeys

namespace Provider

/-- The first layer of a provider that is no limiter. -/
def core : Provider → Provider
  | .limited inner _ => inner.core
  | p => p

@[simp] theorem core_limited (inner : Provider) (b : Nat) :
    (limited inner b).core = inner.core := rfl

@[simp] theorem core_cached (inner : Provider) (c : Nat) :
    (cached inner c).core = cached inner c := rfl

theorem core_ne_limited (p inner : Provider) (b : Nat) : p.core ≠ .limited inner b := by
  induction p with
  | limited inner' b' ih => exact ih
  | source i | remote r | cached inner' c => nofun

@[simp] theorem core_core (p : Provider) : p.core.core = p.core := by
  induction p with
  | limited inner b ih => exact ih
  | source i | remote r | cached inner c => rfl

theorem uses_core (p : Provider) (c : Nat) : p.core.uses c = p.uses c := by
  induction p with
  | limited inner b ih => exact ih
  | source i | remote r | cached inner c' => rfl

theorem uses_of_core_eq {p inner : Provider} {c : Nat} (h : p.core = .cached inner c) :
    p.uses c = true := by
  rw [← uses_core, h, uses, beq_self_eq_true, Bool.true_or]

end Provider

namespace State

/-- **What a call can do in one turn**: the reach that it gets, and the state that it leaves. The
buckets and the meter that it leaves are not told here. -/
inductive Called (kid : String) (p : Provider) (s : State) : Reach → State → Prop where
  /-- A limiter refuses, or something is not there. -/
  | refused {o : Outcome} {bs : List TokenBucket} {m : Meter}
      (buckets : bs.length = s.buckets.length) (noKey : o.key? = none) :
      Called kid p s (.ended o) { s with buckets := bs, meter := m }
  /-- A source answers at once. -/
  | answered {i : Nat} {source : Source} {bs : List TokenBucket} {m : Meter}
      (buckets : bs.length = s.buckets.length) (core : p.core = .source i)
      (found : s.sources[i]? = some source) (passes : (source.arrive kid).2.1 = true) :
      Called kid p s (.ended (source.outcome kid (source.arrive kid).1))
        { s with sources := s.sources.set i (source.arrive kid).2.2, buckets := bs, meter := m }
  /-- A source holds the call at its gate. -/
  | gated {i : Nat} {source : Source} {bs : List TokenBucket} {m : Meter}
      (buckets : bs.length = s.buckets.length) (core : p.core = .source i)
      (found : s.sources[i]? = some source) (passes : (source.arrive kid).2.1 = false) :
      Called kid p s (.waits (.gate i (source.arrive kid).1))
        { s with sources := s.sources.set i (source.arrive kid).2.2, buckets := bs, meter := m }
  /-- A fetch over the network begins. -/
  | asked {r : Remote} {bs : List TokenBucket} {m : Meter}
      (buckets : bs.length = s.buckets.length) (core : p.core = .remote r) :
      Called kid p s (.fetches ⟨r, s.now⟩) { s with buckets := bs, meter := m }
  /-- A cache finds a fresh key. -/
  | hit {inner : Provider} {c : Nat} {cache : Cache} {j : Jwk} {bs : List TokenBucket} {m : Meter}
      (buckets : bs.length = s.buckets.length) (core : p.core = .cached inner c)
      (found : s.caches[c]? = some cache) (fresh : cache.fresh? s.now kid = some j) :
      Called kid p s (.ended (.key j)) { s with buckets := bs, meter := m }
  /-- A cache is fetching the key already. -/
  | joined {inner : Provider} {c : Nat} {cache : Cache} {f : Flight} {bs : List TokenBucket}
      {m : Meter} (buckets : bs.length = s.buckets.length) (core : p.core = .cached inner c)
      (found : s.caches[c]? = some cache) (stale : cache.fresh? s.now kid = none)
      (flight : cache.flight? kid = some f) :
      Called kid p s (.waits (.flight c f.board.1))
        { s with
          caches := s.caches.set c ((cache.swept s.now kid).withFlight f.board.2)
          buckets := bs, meter := m }
  /-- A cache starts to fetch the key. -/
  | started {inner : Provider} {c : Nat} {cache : Cache} {bs : List TokenBucket} {m : Meter}
      (buckets : bs.length = s.buckets.length) (core : p.core = .cached inner c)
      (found : s.caches[c]? = some cache) (stale : cache.fresh? s.now kid = none)
      (flight : cache.flight? kid = none) :
      Called kid p s (.waits (.flight c 0))
        { s with
          caches := s.caches.set c ((cache.swept s.now kid).depart kid)
          ready := s.ready ++ [(⟨.fetch c, kid, inner⟩, .calling)]
          buckets := bs, meter := m }

/-! ## Limiters -/

/-- **Limiters change nothing but buckets and the meter**: one of them refuses, or the core of the
provider is called. -/
theorem call_core (kid : String) (p : Provider) (s : State) :
    ∃ bs m, bs.length = s.buckets.length ∧
      ((∃ o : Outcome, o.key? = none ∧
          call kid p s = (.ended o, { s with buckets := bs, meter := m })) ∨
        call kid p s = call kid p.core { s with buckets := bs, meter := m }) := by
  induction p generalizing s with
  | source i | remote r | cached inner c => exact ⟨s.buckets, s.meter, rfl, .inr rfl⟩
  | limited inner b ih =>
    rw [call]
    split
    · exact ⟨s.buckets, s.meter, rfl, .inl ⟨_, rfl, rfl⟩⟩
    · rename_i bucket _
      -- whatever the bucket answers, only its own place in the list changes
      have hlen : (s.buckets.set b (bucket.acquire s.now 1).2).length = s.buckets.length :=
        List.length_set
      dsimp only
      split
      · obtain ⟨bs, m, hbs, hor⟩ := ih
          ((s.setBucket b (bucket.acquire s.now 1).2).record (.decision true))
        exact ⟨bs, m, hbs.trans hlen, hor⟩
      · exact ⟨_, _, hlen, .inl ⟨_, rfl, rfl⟩⟩
      · exact ⟨_, s.meter, hlen, .inl ⟨_, rfl, rfl⟩⟩
      · exact ⟨_, s.meter, hlen, .inl ⟨_, rfl, rfl⟩⟩

/-! ## Cores -/

/-- What a fetch over the network changes when it ends. -/
theorem noteFetch_eq (s : State) (f : Fetch) :
    ∃ now delay requests m, s.now ≤ now ∧
      s.noteFetch f = { s with now, delay, requests, meter := m } := by
  unfold noteFetch
  dsimp only
  split
  · exact ⟨_, _, _, _, Nat.le_add_right _ _, rfl⟩
  · exact ⟨_, _, _, _, Nat.le_refl _, rfl⟩

/-- What a call answers, from the result of the fetch. -/
theorem receiveKey_eq (kid : String) (x : Exchange) (s : State) :
    s.receiveKey kid x =
      (.ofExcept ((s.receive x).1.bind (x.remote.select kid)), (s.receive x).2) := rfl

variable {kid : String} {inner : Provider} {c : Nat} {cache : Cache} {s : State}

theorem call_cached_of_fresh {j : Jwk} (h : s.caches[c]? = some cache)
    (hf : cache.fresh? s.now kid = some j) :
    call kid (.cached inner c) s = (.ended (.key j), s.record (.lookup .hit)) := by
  rw [call, h]
  dsimp only
  rw [Cache.lookup_of_fresh hf]

theorem call_cached_of_stale (inner : Provider) (h : s.caches[c]? = some cache)
    (hf : cache.fresh? s.now kid = none) :
    ∃ m, call kid (.cached inner c) s =
      await { s with meter := m } kid inner c (cache.swept s.now kid) := by
  rw [call, h]
  dsimp only
  obtain ⟨hl, hs⟩ | hl := Cache.lookup_of_stale hf
  · rw [hl, hs]
    exact ⟨s.meter, rfl⟩
  · rw [hl]
    exact ⟨_, rfl⟩

theorem await_of_flight {f : Flight} (h : cache.flight? kid = some f) :
    s.await kid inner c cache =
      (.waits (.flight c f.board.1), (s.setCache c (cache.withFlight f.board.2)).record .coalesced) := by
  rw [await, Cache.board?, h]
  rfl

theorem await_of_no_flight (h : cache.flight? kid = none) :
    s.await kid inner c cache =
      (.waits (.flight c 0), ((s.setCache c (cache.depart kid)).record (.lookup .miss)).enqueue
        ⟨.fetch c, kid, inner⟩ .calling) := by
  rw [await, Cache.board?, h]
  rfl

/-- The calls that reach a source, a key set or a cache at once. -/
theorem called_core (kid : String) (p : Provider) (s : State) (hp : p.core = p) :
    Called kid p s (call kid p s).1 (call kid p s).2 := by
  cases p with
  | limited inner b => exact absurd hp (inner.core_ne_limited _ _)
  | source i =>
    rw [call]
    cases hs : s.sources[i]? with
    | none =>
      rw [callSource, hs]
      exact .refused rfl rfl
    | some source =>
      rw [callSource, hs]
      dsimp only
      cases hpass : (source.arrive kid).2.1 with
      | false =>
        rw [if_neg Bool.false_ne_true]
        exact .gated rfl rfl hs hpass
      | true =>
        rw [if_pos rfl]
        exact .answered rfl rfl hs hpass
  | remote r => exact .asked rfl rfl
  | cached inner c =>
    cases hc : s.caches[c]? with
    | none =>
      rw [call, hc]
      exact .refused rfl rfl
    | some cache =>
      cases hf : cache.fresh? s.now kid with
      | some j =>
        rw [call_cached_of_fresh hc hf]
        exact .hit rfl rfl hc hf
      | none =>
        obtain ⟨m, hm⟩ := call_cached_of_stale inner hc hf
        rw [hm]
        cases hl : cache.flight? kid with
        | some f =>
          have hl' : (cache.swept s.now kid).flight? kid = some f := hl
          rw [await_of_flight hl']
          exact .joined rfl rfl hc hf hl
        | none =>
          have hl' : (cache.swept s.now kid).flight? kid = none := hl
          rw [await_of_no_flight hl']
          exact .started rfl rfl hc hf hl

/-- What the core of a provider can do, the provider can do behind its limiters. -/
theorem Called.behind {p : Provider} {bs : List TokenBucket} {m : Meter} {r : Reach} {t : State}
    (hbs : bs.length = s.buckets.length)
    (h : Called kid p.core { s with buckets := bs, meter := m } r t) : Called kid p s r t := by
  cases h with
  | refused buckets noKey => exact .refused (buckets.trans hbs) noKey
  | answered buckets core found passes =>
    exact .answered (buckets.trans hbs) (p.core_core ▸ core) found passes
  | gated buckets core found passes =>
    exact .gated (buckets.trans hbs) (p.core_core ▸ core) found passes
  | asked buckets core => exact .asked (buckets.trans hbs) (p.core_core ▸ core)
  | hit buckets core found fresh =>
    exact .hit (buckets.trans hbs) (p.core_core ▸ core) found fresh
  | joined buckets core found stale flight =>
    exact .joined (buckets.trans hbs) (p.core_core ▸ core) found stale flight
  | started buckets core found stale flight =>
    exact .started (buckets.trans hbs) (p.core_core ▸ core) found stale flight

/-- **Everything that a call can do in one turn.** -/
theorem called (kid : String) (p : Provider) (s : State) :
    Called kid p s (call kid p s).1 (call kid p s).2 := by
  obtain ⟨bs, m, hbs, ⟨o, ho, heq⟩ | heq⟩ := call_core kid p s
  · rw [heq]
    exact .refused hbs ho
  · rw [heq]
    exact (called_core kid p.core _ p.core_core).behind hbs

end State

end SigningKeys
