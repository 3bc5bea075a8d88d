import SigningKeys.Proofs.Run.Tasks

/-!
# What the moves do

* `finish_caller`, `finish_fetch`, `finish_lost`: how a task ends: a call, the fetch of a cache that
  can still be reached, the fetch of one that cannot;
* `State.Quiet`: nothing changed that tasks rely on;
* `quiet_receive`, `quiet_receiveKey`, `quiet_receiveAt`: fetches over the network end;
* `Turn.Course`, `Turn.course`: everything that a turn can be;
* `State.LetsThrough`, `openGate_cases`, `pass_cases`: a parked task passes its gate;
* `giveUp_cases`, `withdraw_cases`, `leave_eq`: a call is given up;
* `install_eq`: layers are put in front of a provider.
-/

namespace SigningKeys

namespace Cache

/-- The cache after a fetch ended: a key is put in, a failure leaves nothing. -/
def keep (c : Cache) (now : Instant) (kid : String) (o : Outcome) : Cache :=
  match o.key? with
  | some j => c.insert now kid j
  | none => c

@[simp] theorem kids_keep (c : Cache) (now : Instant) (kid : String) (o : Outcome) :
    (c.keep now kid o).kids = c.kids := by
  unfold keep
  split <;> rfl

/-- **What is stored after a fetch ended**: the key that it brought, and nothing else that was not
stored before. -/
theorem get?_keep {c : Cache} {now : Instant} {kid k : String} {o : Outcome} {e : Stored}
    (h : (c.keep now kid o).store.get? k = some e) :
    k = kid ∧ o = .key e.key ∧ e.since = now ∨
      c.store.get? k = some e ∧ (k = kid → o.key? = none) := by
  unfold keep at h
  split at h
  · rename_i j hj
    obtain ⟨hk, rfl⟩ | ⟨hk, he⟩ := KeyStore.get?_insert h
    · cases o with
      | key j' =>
        cases hj
        exact .inl ⟨hk, rfl, rfl⟩
      | error e | panic text => cases hj
    · exact .inr ⟨he, fun h' => absurd h' hk⟩
  · rename_i hj
    exact .inr ⟨h, fun _ => hj⟩

/-- What the users of a cache rely on: its limits, its keys and the fetches under way, without the
places of their waiting callers. -/
def core (c : Cache) : CacheLimits × KeyStore × List String := (c.limits, c.store, c.kids)

theorem core_leave (c : Cache) (kid : String) (place : Nat) : (c.leave kid place).core = c.core := by
  rw [core, limits_leave, store_leave, kids_leave]
  rfl

end Cache

namespace State

theorem exists_core {cs ds : List Cache} (h : ds.map Cache.core = cs.map Cache.core) {c : Nat}
    {d : Cache} (hd : ds[c]? = some d) : ∃ cache, cs[c]? = some cache ∧ d.core = cache.core := by
  have hget : (cs[c]?).map Cache.core = some d.core := by
    rw [← List.getElem?_map, ← h, List.getElem?_map, hd]
    rfl
  obtain ⟨cache, hcache, hcore⟩ := Option.map_eq_some_iff.1 hget
  exact ⟨cache, hcache, hcore.symm⟩

/-! ## Ends of tasks -/

theorem finish_caller {s : State} {t : Task} {id : Nat} (o : Outcome) (h : t.role = .caller id) :
    s.finish t o = { s with ended := s.ended ++ [(id, o)] } := by
  rw [finish, h]

/-- The fetch of a cache out of reach ends without a trace. -/
theorem finish_lost {s : State} {t : Task} {c : Nat} (o : Outcome) (h : t.role = .fetch c)
    (hc : s.holds c = false) : s.finish t o = s := by
  rw [finish, h]
  dsimp only
  rw [hc]
  rfl

/-- **The fetch of a cache in reach ends**: a key is stored, the fetch is struck, and all that wait
for it are told. -/
theorem finish_fetch {s : State} {t : Task} {c : Nat} {cache : Cache} (o : Outcome)
    (h : t.role = .fetch c) (hc : s.holds c = true) (hs : s.caches[c]? = some cache) :
    ∃ m, s.finish t o =
      { s.setCache c ((cache.keep s.now t.kid o).land t.kid) with meter := m }.tell c t.kid
        o.share := by
  have hlt : c < s.caches.length := (List.getElem?_eq_some_iff.1 hs).1
  rw [finish, h]
  dsimp only
  rw [if_pos hc, store, hs, Cache.keep]
  cases o.key? with
  | none =>
    dsimp only
    rw [land, hs]
    exact ⟨s.meter, rfl⟩
  | some j =>
    dsimp only
    have hget : ((s.setCache c (cache.insert s.now t.kid j)).gauge
        (cache.insert s.now t.kid j).size).caches[c]? = some (cache.insert s.now t.kid j) :=
      List.getElem?_set_self hlt
    refine ⟨s.meter.setEntries (cache.insert s.now t.kid j).size, ?_⟩
    rw [land, hget]
    dsimp only [setCache, gauge]
    rw [List.set_set]

theorem finish_cases (s : State) (x : Task) (o : Outcome) :
    (∃ id, x.role = .caller id ∧ s.finish x o = { s with ended := s.ended ++ [(id, o)] }) ∨
      (∃ c, x.role = .fetch c ∧ s.holds c = false ∧ s.finish x o = s) ∨
      ∃ c cs m, x.role = .fetch c ∧ s.holds c = true ∧
        s.finish x o = { s with caches := cs, meter := m }.tell c x.kid o.share := by
  cases hrole : x.role with
  | caller id => exact .inl ⟨id, rfl, finish_caller o hrole⟩
  | fetch c =>
    by_cases hc : s.holds c = true
    · refine .inr (.inr ⟨c, ?_⟩)
      rw [finish, hrole]
      dsimp only
      rw [if_pos hc, store, land]
      split <;> split <;> exact ⟨_, _, rfl, hc, rfl⟩
    · rw [Bool.not_eq_true] at hc
      exact .inr (.inl ⟨c, rfl, hc, finish_lost o hrole hc⟩)

theorem caches_finish (s : State) (x : Task) (o : Outcome) (c : Nat) :
    (s.finish x o).caches[c]? =
      if x.role = .fetch c ∧ s.holds c = true then
        (s.caches[c]?).map fun cache => (cache.keep s.now x.kid o).land x.kid
      else s.caches[c]? := by
  cases hrole : x.role with
  | caller id =>
    rw [finish_caller o hrole, if_neg fun h => Role.noConfusion h.1]
  | fetch d =>
    cases hd : s.holds d with
    | false =>
      rw [finish_lost o hrole hd, if_neg]
      rintro ⟨⟨⟩, hc⟩
      rw [hd] at hc
      exact Bool.noConfusion hc
    | true =>
      cases hs : s.caches[d]? with
      | none =>
        have hsame : (s.finish x o).caches = s.caches := by
          rw [finish, hrole]
          dsimp only
          rw [if_pos hd, store, hs]
          dsimp only
          rw [land, hs]
          rfl
        rw [hsame]
        split
        · rename_i h
          rw [← Role.fetch.inj h.1, hs]
          rfl
        · rfl
      | some cache =>
        obtain ⟨m, heq⟩ := finish_fetch o hrole hd hs
        have hlt : d < s.caches.length := (List.getElem?_eq_some_iff.1 hs).1
        rw [heq]
        show (s.caches.set d _)[c]? = _
        by_cases hdc : d = c
        · rw [if_pos ⟨by rw [hdc], hdc ▸ hd⟩, ← hdc, hs, List.getElem?_set_self hlt]
          rfl
        · rw [if_neg fun h => hdc (Role.fetch.inj h.1), List.getElem?_set_ne hdc]

@[simp] theorem now_finish (s : State) (x : Task) (o : Outcome) : (s.finish x o).now = s.now := by
  rcases s.finish_cases x o with ⟨id, -, heq⟩ | ⟨c, -, -, heq⟩ | ⟨c, cs, m, -, -, heq⟩
  · rw [heq]
  · rw [heq]
  · rw [heq]
    rfl

/-! ## Turns -/

/-- Nothing changed but the clock, the buckets, what the sources counted, what was noted, and which
key sets the user of the run is fetching. -/
def Quiet (s t : State) : Prop :=
  ∃ now sources buckets meter requests delay reads, s.now ≤ now ∧
    sources.length = s.sources.length ∧ s.buckets.length ≤ buckets.length ∧
    t = { s with now, sources, buckets, meter, requests, delay, reads }

theorem Quiet.refl (s : State) : s.Quiet s :=
  ⟨_, _, _, _, _, _, _, Nat.le_refl _, rfl, Nat.le_refl _, rfl⟩

theorem Quiet.holds {s t : State} (h : s.Quiet t) (c : Nat) : t.holds c = s.holds c := by
  obtain ⟨now, sources, buckets, meter, requests, delay, reads, -, -, -, rfl⟩ := h
  rfl

theorem Quiet.caches {s t : State} (h : s.Quiet t) : t.caches = s.caches := by
  obtain ⟨now, sources, buckets, meter, requests, delay, reads, -, -, -, rfl⟩ := h
  rfl

theorem Quiet.ready {s t : State} (h : s.Quiet t) : t.ready = s.ready := by
  obtain ⟨now, sources, buckets, meter, requests, delay, reads, -, -, -, rfl⟩ := h
  rfl

theorem Quiet.parked {s t : State} (h : s.Quiet t) : t.parked = s.parked := by
  obtain ⟨now, sources, buckets, meter, requests, delay, reads, -, -, -, rfl⟩ := h
  rfl

theorem Called.quiet {kid : String} {p : Provider} {s t : State} {o : Outcome}
    (h : Called kid p s (.ended o) t) : s.Quiet t := by
  cases h with
  | refused buckets _ =>
    exact ⟨_, _, _, _, _, _, _, Nat.le_refl _, rfl, Nat.le_of_eq buckets.symm, rfl⟩
  | answered buckets _ _ _ =>
    exact ⟨_, _, _, _, _, _, _, Nat.le_refl _, List.length_set, Nat.le_of_eq buckets.symm, rfl⟩
  | hit buckets _ _ _ =>
    exact ⟨_, _, _, _, _, _, _, Nat.le_refl _, rfl, Nat.le_of_eq buckets.symm, rfl⟩

theorem Called.quiet_of_fetches {kid : String} {p : Provider} {s t : State} {e : Exchange}
    (h : Called kid p s (.fetches e) t) : s.Quiet t := by
  cases h with
  | asked buckets _ =>
    exact ⟨_, _, _, _, _, _, _, Nat.le_refl _, rfl, Nat.le_of_eq buckets.symm, rfl⟩

theorem quiet_receive (s : State) (e : Exchange) : s.Quiet (s.receive e).2 := by
  obtain ⟨now, delay, requests, m, hn, heq⟩ := s.noteFetch_eq
    (e.remote.fetch s.network (s.wait e) s.requests.length)
  exact ⟨_, _, _, _, _, _, _, hn, rfl, Nat.le_refl _, heq⟩

theorem quiet_receiveKey {s t : State} {kid : String} {e : Exchange} {o : Outcome}
    (h : s.receiveKey kid e = (o, t)) : s.Quiet t := by
  have ht : (s.receive e).2 = t := congrArg Prod.snd h
  exact ht ▸ s.quiet_receive e

/-- A fetch of a whole key set ends, or there is no such fetch. -/
theorem quiet_receiveAt (s : State) (k : Nat) : s.Quiet (s.receiveAt k) := by
  unfold receiveAt
  split
  · obtain ⟨now, sources, buckets, meter, requests, delay, reads, hn, hs, hb, heq⟩ :=
      (s.forgo k).quiet_receive _
    exact ⟨_, _, _, _, _, _, _, hn, hs, hb, heq⟩
  · exact .refl s

end State

/-- **What a turn can be**: how the task ended in it, if it did, and the state that it leads to. -/
inductive Turn.Course (s : State) (x : Task) : Stage → Option Outcome → State → Prop where
  /-- The call has to wait. -/
  | waits {spot : Spot} {t : State} (called : State.Called x.kid x.provider s (.waits spot) t) :
      Course s x .calling none (t.park x spot)
  /-- The call ends at once. -/
  | ends {o : Outcome} {t : State} (called : State.Called x.kid x.provider s (.ended o) t) :
      Course s x .calling (some o) (t.finish x o)
  /-- The call begins a fetch over the network. -/
  | fetches {e : Exchange} {t : State} (called : State.Called x.kid x.provider s (.fetches e) t) :
      Course s x .calling none (t.enqueue x (.fetching e))
  /-- A fetch over the network ends. -/
  | fetched {e : Exchange} {o : Outcome} {t : State} (received : s.receiveKey x.kid e = (o, t)) :
      Course s x (.fetching e) (some o) (t.finish x o)
  /-- A source answers, whose gate had opened. -/
  | admitted {i n : Nat} {source : Source} (found : s.sources[i]? = some source) :
      Course s x (.admitted i n) (some (source.outcome x.kid n))
        (s.finish x (source.outcome x.kid n))
  /-- The source is not there whose gate had opened. -/
  | lost {i n : Nat} (absent : s.sources[i]? = none) : Course s x (.admitted i n) none s
  /-- The fetch that was waited for had ended. -/
  | told {result : Except KeyError Jwk} :
      Course s x (.told result) (some (.ofExcept result)) (s.finish x (.ofExcept result))

/-- **Everything that a turn can be.** -/
theorem Turn.course (T : Turn) : Turn.Course T.before T.task T.stage T.result? T.after := by
  obtain ⟨x, stage, s⟩ := T
  unfold after result?
  dsimp only
  cases stage with
  | calling =>
    have hcalled := State.called x.kid x.provider s
    rw [State.verdict, State.advanceTask]
    cases hcall : State.call x.kid x.provider s with
    | mk reach t =>
      rw [hcall] at hcalled
      cases reach with
      | ended o => exact .ends hcalled
      | waits spot => exact .waits hcalled
      | fetches e => exact .fetches hcalled
  | fetching e => exact .fetched rfl
  | admitted i n =>
    rw [State.verdict, State.advanceTask]
    cases hs : s.sources[i]? with
    | none => exact .lost hs
    | some source => exact .admitted hs
  | told result => exact .told

theorem Turn.now_after (T : Turn) : T.before.now ≤ T.after.now := by
  have hcourse := T.course
  generalize T.after = t, T.result? = r, T.stage = stage at hcourse ⊢
  cases hcourse with
  | waits called =>
    cases called with
    | gated | joined | started => exact Nat.le_refl _
  | fetches called =>
    cases called with
    | asked => exact Nat.le_refl _
  | ends called =>
    rw [State.now_finish]
    obtain ⟨now, sources, buckets, meter, requests, delay, reads, hn, -, -, rfl⟩ := called.quiet
    exact hn
  | fetched received =>
    rw [State.now_finish]
    obtain ⟨now, sources, buckets, meter, requests, delay, reads, hn, -, -, rfl⟩ :=
      State.quiet_receiveKey received
    exact hn
  | admitted | told => exact Nat.le_of_eq (State.now_finish _ _ _).symm
  | lost => exact Nat.le_refl _

namespace State

/-! ## Gates -/

/-- One parked task was let through its gate. -/
def LetsThrough (s t : State) : Prop :=
  ∃ x i n rest, s.parked.Perm ((x, .gate i n) :: rest) ∧ rest.Sublist s.parked ∧
    t = { s with parked := rest }.enqueue x (.admitted i n)

theorem LetsThrough.perm {s t : State} (h : s.LetsThrough t) : t.tasks.Perm s.tasks := by
  obtain ⟨x, i, n, rest, hperm, -, rfl⟩ := h
  have hmap := (hperm.map (·.1)).append_left (s.ready.map (·.1))
  exact (perm_enqueue _ _ _).trans (hmap.trans List.perm_middle).symm

theorem pass_cases (s : State) (k : Nat) : s.LetsThrough (s.pass k) ∨ s.pass k = s := by
  unfold pass
  split
  · rename_i x i n h
    obtain ⟨hk, he⟩ := List.getElem?_eq_some_iff.1 h
    refine .inl ⟨x, i, n, s.parked.eraseIdx k, ?_, List.eraseIdx_sublist _ _, rfl⟩
    rw [← he]
    exact (List.getElem_cons_eraseIdx_perm hk).symm
  · exact .inr rfl

theorem openGate_cases (s : State) (i : Nat) :
    s.LetsThrough (s.openGate i) ∨
      (∃ source, s.sources[i]? = some source ∧ s.openGate i = s.setSource i source.putPermit) ∨
      s.openGate i = s := by
  unfold openGate
  split
  · rename_i x i' n h
    have hmem := List.mem_of_find?_eq_some h
    have hat := List.find?_some h
    have hi : i' = i := by
      by_contra hne
      simp [Spot.callAt?, hne] at hat
    subst hi
    exact .inl ⟨x, i', n, _, List.perm_cons_erase hmem, List.erase_sublist, rfl⟩
  · split
    · rename_i source hs
      exact .inr (.inl ⟨source, hs, rfl⟩)
    · exact .inr (.inr rfl)

/-! ## Calls that are given up -/

theorem leave_eq (s : State) (kid : String) (spot : Spot) :
    ∃ cs, cs.map Cache.core = s.caches.map Cache.core ∧ s.leave kid spot = { s with caches := cs } := by
  unfold leave
  split
  · exact ⟨s.caches, rfl, rfl⟩
  · rename_i c place
    split
    · rename_i cache hc
      refine ⟨s.caches.set c (cache.leave kid place), ?_, rfl⟩
      obtain ⟨hlt, he⟩ := List.getElem?_eq_some_iff.1 hc
      have hlen : c < (s.caches.map Cache.core).length :=
        Nat.lt_of_lt_of_eq hlt (List.length_map _).symm
      have hget : (s.caches.map Cache.core).get ⟨c, hlen⟩ = cache.core := by
        rw [List.get_eq_getElem, List.getElem_map, he]
      rw [List.map_set, Cache.core_leave, ← hget]
      exact List.set_getElem_self hlen
    · exact ⟨s.caches, rfl, rfl⟩

/-- A call that is given up was ready. If it was let through a gate, the gate opens again. -/
theorem withdraw_cases (s : State) (id : Nat) :
    s.withdraw id = s.strike id ∨ ∃ i, s.withdraw id = (s.strike id).openGate i := by
  unfold withdraw
  split
  · exact .inr ⟨_, rfl⟩
  · exact .inl rfl

/-- A call that is given up was parked, and leaves its spot, or was ready. -/
theorem giveUp_cases (s : State) (id : Nat) :
    (∃ x spot, (x, spot) ∈ s.parked ∧ x.role = .caller id ∧
        s.giveUp id = { s with parked := s.parked.erase (x, spot) }.leave x.kid spot) ∨
      s.giveUp id = s.withdraw id := by
  unfold giveUp cancel?
  cases h : s.parkedCall? id with
  | none => exact .inr rfl
  | some e =>
    have hrole := List.find?_some h
    exact .inl ⟨e.1, e.2, List.mem_of_find?_eq_some h, eq_of_beq hrole, rfl⟩

/-! ## Layers -/

/-- **What layers add**: at most one full bucket and one empty cache. The provider that comes of them
uses no other cache than the new one and those of its base. -/
theorem install_eq (s : State) (base : Provider) (l : Layers) :
    ∃ bs cs, (s.install base l).2 =
        { s with buckets := s.buckets ++ bs, caches := s.caches ++ cs } ∧
      (∀ cache ∈ cs, cache.store = {} ∧ cache.flights = []) ∧
      (∀ B ∈ bs, ∃ r, B = .full r s.now) ∧
      (∀ c, (s.install base l).1.uses c = true → base.uses c = true ∨ s.caches.length ≤ c) := by
  have hbucket : ∃ bs, (s.installBucket base l.bucket).2 = { s with buckets := s.buckets ++ bs } ∧
      (∀ B ∈ bs, ∃ r, B = .full r s.now) ∧
      ∀ c, (s.installBucket base l.bucket).1.uses c = base.uses c := by
    have hnone : ∀ B ∈ ([] : List TokenBucket), ∃ r, B = .full r s.now :=
      fun _ h => absurd h List.not_mem_nil
    cases l.bucket with
    | none => exact ⟨[], by rw [List.append_nil]; rfl, hnone, fun _ => rfl⟩
    | some layer =>
      cases layer with
      | own r => exact ⟨[.full r s.now], rfl, fun B hB => ⟨r, List.mem_singleton.1 hB⟩, fun _ => rfl⟩
      | shared b => exact ⟨[], by rw [List.append_nil]; rfl, hnone, fun _ => rfl⟩
  obtain ⟨bs, hbs, hfull, huses⟩ := hbucket
  rw [install]
  dsimp only
  cases l.cache with
  | none =>
    refine ⟨bs, [], ?_, fun _ h => absurd h List.not_mem_nil, hfull, fun c hc => .inl ?_⟩
    · rw [List.append_nil]
      exact hbs
    · rw [← huses c]
      exact hc
  | some limits =>
    refine ⟨bs, [{ limits }], ?_, ?_, hfull, ?_⟩
    · dsimp only [addCache]
      rw [hbs]
    · intro cache hmem
      rw [List.mem_singleton.1 hmem]
      exact ⟨rfl, rfl⟩
    · intro c hc
      dsimp only [addCache] at hc
      rw [hbs, Provider.uses, huses, Bool.or_eq_true] at hc
      obtain hc | hc := hc
      · exact .inr (Nat.le_of_eq (eq_of_beq hc))
      · exact .inl hc

end State

end SigningKeys
