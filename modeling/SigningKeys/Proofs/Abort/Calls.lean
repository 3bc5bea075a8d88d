import SigningKeys.Proofs.Abort.Alike
import SigningKeys.Proofs.Run.Sound

/-!
# Calls of states that are alike

A call goes through the layers of its provider in the same way in both of two states that are alike:
it asks the same buckets, and finds the same in caches. Only the place that it gets in a fetch may
be another one.

* `Reach.Alike`: what a call comes to in both states;
* **`Alike.call`**: one turn of a call, by induction on the layers of its provider;
* **`Alike.settle_calling`**: all turns that a call causes, the fetches that it starts included;
* `Alike.settle_ending`: all turns when the tasks that are ready only have to end.
-/

namespace SigningKeys

/-- What one call comes to in two states that are alike. -/
inductive Reach.Alike : Reach → Reach → Prop where
  | ended (o : Outcome) : Alike (.ended o) (.ended o)
  | waits {a b : Spot} (spots : a.Alike b) : Alike (.waits a) (.waits b)
  | fetches (e : Exchange) : Alike (.fetches e) (.fetches e)

namespace State

variable {s s' t t' : State} {behind behind' : List Provider} {hand : List Task} {X : List Nat}
  {c : Nat} {x : Task} {kid : String} {inner : Provider}

theorem Quiet.crew (h : s.Quiet t) : t.crew hand = s.crew hand := by
  obtain ⟨now, sources, buckets, meter, requests, delay, reads, -, -, -, rfl⟩ := h
  rfl

namespace Alike

/-! ## One turn -/

/-- A call that misses a key starts to fetch it in both states, or in none. -/
theorem await {d' d : Cache} (h : Alike X [x] s' s) (hsame : d'.Same d)
    (hinner : ∀ e, inner.uses e = true → s'.reaches [x] e) :
    (s'.await kid inner c d').1.Alike (s.await kid inner c d).1 ∧
      Alike X [x] (s'.await kid inner c d').2 (s.await kid inner c d).2 := by
  cases hf : d.flight? kid with
  | none =>
    have hf' : d'.flight? kid = none :=
      Cache.flight?_eq_none.2 fun hk => Cache.flight?_eq_none.1 hf ((hsame.kids kid).1 hk)
    rw [await_of_no_flight hf, await_of_no_flight hf']
    refine ⟨.waits (.flight c 0 0), ?_⟩
    exact ((h.setCache (hsame.depart kid)).record _).enqueue _ _ hinner
  | some f =>
    obtain ⟨f', hf'⟩ : ∃ f', d'.flight? kid = some f' := by
      rw [← Option.isSome_iff_exists, Cache.flight?_isSome, hsame.kids, ← Cache.flight?_isSome, hf]
      rfl
    rw [await_of_flight hf, await_of_flight hf']
    refine ⟨.waits (.flight c f'.board.1 f.board.1), ?_⟩
    exact (h.setCache (hsame.withFlight _ _)).record _

theorem noteFetch (h : Alike X hand s' s) (f : Fetch) :
    Alike X hand (s'.noteFetch f) (s.noteFetch f) := by
  have hnote : ∀ u : State, (u.noteFetch f).ground = (u.ground.noteFetch f).ground ∧
      (u.noteFetch f).company = u.company ∧ (u.noteFetch f).started = u.started := by
    intro u
    unfold State.noteFetch
    dsimp only
    split <;> exact ⟨rfl, rfl, rfl⟩
  refine h.of_company ?_ (hnote s').2.1 (hnote s).2.1 (Nat.le_of_eq (hnote s).2.2.symm)
  rw [(hnote s').1, (hnote s).1, h.ground]

theorem setBucket (h : Alike X hand s' s) (b : Nat) (B : TokenBucket) :
    Alike X hand (s'.setBucket b B) (s.setBucket b B) :=
  h.of_company (congrArg (fun g : State => g.setBucket b B) h.ground) rfl rfl (Nat.le_refl _)

theorem setSource (h : Alike X hand s' s) (i : Nat) (source : Source) :
    Alike X hand (s'.setSource i source) (s.setSource i source) :=
  h.of_company (congrArg (fun g : State => g.setSource i source) h.ground) rfl rfl (Nat.le_refl _)

/-- A fetch over the network ends in the same way in both states. -/
theorem receive (h : Alike X hand s' s) (e : Exchange) :
    (s'.receive e).1 = (s.receive e).1 ∧ Alike X hand (s'.receive e).2 (s.receive e).2 := by
  have hsame := congrArg
    (fun g : State => e.remote.fetch g.network (g.wait e) g.requests.length) h.ground
  have hfetch : e.remote.fetch s'.network (s'.wait e) s'.requests.length =
      e.remote.fetch s.network (s.wait e) s.requests.length := hsame
  rw [State.receive, State.receive, hfetch]
  exact ⟨rfl, h.noteFetch _⟩

/-- **One turn of a call**, in two states that are alike. -/
theorem call (h : Alike X [x] s' s) (kid : String) {p : Provider}
    (hp : ∀ e, p.uses e = true → x.provider.uses e = true) :
    (State.call kid p s').1.Alike (State.call kid p s).1 ∧
      Alike X [x] (State.call kid p s').2 (State.call kid p s).2 := by
  induction p generalizing s' s with
  | source i =>
    rw [State.call, State.call, callSource, callSource, h.sources]
    cases s.sources[i]? with
    | none => exact ⟨.ended _, h⟩
    | some source =>
      have hset := h.setSource i (source.arrive kid).2.2
      dsimp only
      cases (source.arrive kid).2.1 with
      | true => exact ⟨.ended _, hset⟩
      | false => exact ⟨.waits (.gate _ _), hset⟩
  | remote r =>
    rw [State.call, State.call, h.now]
    exact ⟨.fetches _, h⟩
  | limited inner b ih =>
    rw [State.call, State.call, h.buckets, h.now]
    cases s.buckets[b]? with
    | none => exact ⟨.ended _, h⟩
    | some bucket =>
      have hset := h.setBucket b (bucket.acquire s.now 1).2
      dsimp only
      split
      · exact ih (hset.record _) hp
      · exact ⟨.ended _, hset.record _⟩
      · exact ⟨.ended _, hset⟩
      · exact ⟨.ended _, hset⟩
  | cached inner c ih =>
    have hmem : x ∈ s'.crew [x] := List.mem_cons_self
    have hreach : ∀ e, (Provider.cached inner c).uses e = true → s'.reaches [x] e := fun e he =>
      ⟨x.provider, .inr ⟨x, hmem, rfl⟩, hp e he⟩
    have hinner : ∀ e, inner.uses e = true → s'.reaches [x] e := fun e he =>
      hreach e (by rw [Provider.uses, he, Bool.or_true])
    rw [State.call, State.call]
    cases hd' : s'.caches[c]? with
    | none =>
      have hd : s.caches[c]? = none := by
        rw [List.getElem?_eq_none_iff] at hd' ⊢
        exact h.length ▸ hd'
      rw [hd]
      exact ⟨.ended _, h⟩
    | some d' =>
      obtain ⟨d, hd, hsame⟩ := h.caches c (hreach c (by simp [Provider.uses])) d' hd'
      obtain ⟨hfound, hafter⟩ := hsame.lookup s.now kid
      rw [hd, h.now]
      dsimp only
      generalize d'.lookup s.now kid = l' at hfound hafter ⊢
      generalize d.lookup s.now kid = l at hfound hafter ⊢
      obtain ⟨found', e'⟩ := l'
      obtain ⟨found, e⟩ := l
      cases hfound
      have hsize : e'.size = e.size := congrArg KeyStore.size hafter.store
      cases found' with
      | hit j => exact ⟨.ended _, h.record _⟩
      | absent => exact h.await hsame hinner
      | expired =>
        dsimp only
        rw [hsize]
        exact ((h.record _).setGauge e.size).await hafter hinner

/-! ## All turns -/

/-- The task that has been ready for the longest time is taken in hand. -/
theorem pick {stage : Stage} {rest : List (Task × Stage)} (h : Alike X [] s' s)
    (hready : s.ready = (x, stage) :: rest) :
    Alike X [x] { s' with ready := rest } { s with ready := rest } where
  ground := h.ground
  ready := rfl
  limits := h.limits
  caches c hc := by
    refine h.caches c (hc.mono (fun _ hq => hq) fun y hy => ?_)
    show y ∈ s'.ready.map (·.1) ++ s'.parked.map (·.1)
    rw [h.ready, hready]
    exact hy
  gated := h.gated
  awaits := h.awaits
  ended := h.ended
  gauge := h.gauge
  past := h.past

/-- A task ends, and those that wait for it, and so on. -/
theorem settle_finish (h : Alike X [x] s' s) (hw' : s'.Wired behind' [x]) (hw : s.Wired behind [x])
    (hd' : (s'.crew [x]).Nodup) (hd : (s.crew [x]).Nodup) (hready : s.ready = []) (o : Outcome) :
    Alike X [] (s'.finish x o).settle (s.finish x o).settle := by
  have hready' : s'.ready = [] := h.ready.trans hready
  have hends : ∀ {u : State}, u.ready = [] → u.ends = [] := by
    intro u hu
    rw [ends, hu]
    rfl
  have hnone : ∀ {u : State}, u.ready = [] →
      ∀ e ∈ u.ready, (e.2.end? u.sources e.1).isSome = true := by
    intro u hu e he
    rw [hu] at he
    exact absurd he List.not_mem_nil
  have hfirst' := (Cascade.start s' [(x, o)] (hnone hready')).finish hw' hd'
  have hfirst := (Cascade.start s [(x, o)] (hnone hready)).finish hw hd
  obtain ⟨P', hP', htells'⟩ := hfirst'.settle hw' hd'
  obtain ⟨P, hP, htells⟩ := hfirst.settle hw hd
  rw [hends hready'] at hP' htells'
  rw [hends hready] at hP htells
  exact h.cascade hw hd hd' hP' hP htells' htells (ready_settle _) (ready_settle _)

/-- A task goes on after a fetch over the network, and ends. -/
theorem settle_fetching (h : Alike X [x] s' s) (hw' : s'.Wired behind' [x]) (hw : s.Wired behind [x])
    (hd' : (s'.crew [x]).Nodup) (hd : (s.crew [x]).Nodup) (hready : s.ready = []) (e : Exchange) :
    Alike X [] (s'.enqueue x (.fetching e)).settle (s.enqueue x (.fetching e)).settle := by
  have hturn : ∀ {u : State}, u.ready = [] → (u.enqueue x (.fetching e)).settle =
      ((u.receiveKey x.kid e).2.finish x (u.receiveKey x.kid e).1).settle := by
    intro u hu
    have hone : (u.enqueue x (.fetching e)).ready = [(x, .fetching e)] := by
      rw [State.enqueue, hu, List.nil_append]
    have hsame : { u.enqueue x (.fetching e) with ready := [] } = u := by
      rw [State.enqueue, ← hu]
    rw [settle_of_ready (by rw [hone]; exact List.cons_ne_nil _ _), State.turn, hone]
    dsimp only
    rw [hsame]
    rfl
  have hquiet : ∀ u : State, u.Quiet (u.receiveKey x.kid e).2 := fun u => u.quiet_receive e
  obtain ⟨hkeys, hreceived⟩ := h.receive e
  have houtcome : (s'.receiveKey x.kid e).1 = (s.receiveKey x.kid e).1 := by
    rw [receiveKey_eq, receiveKey_eq, hkeys]
  rw [hturn (h.ready.trans hready), hturn hready, houtcome]
  exact hreceived.settle_finish (hw'.quiet (hquiet s')) (hw.quiet (hquiet s))
    ((hquiet s').crew ▸ hd') ((hquiet s).crew ▸ hd) ((hquiet s).ready.trans hready) _

/-- **All turns, when the tasks that are ready only have to end.** -/
theorem settle_ending (h : Alike X [] s' s) (hs' : s'.Sound behind' []) (hs : s.Sound behind [])
    (hready : ∀ e ∈ s.ready, (e.2.end? s.sources e.1).isSome = true) :
    Alike X [] s'.settle s.settle := by
  have hready' : ∀ e ∈ s'.ready, (e.2.end? s'.sources e.1).isSome = true := by
    rw [h.ready, h.sources]
    exact hready
  have hends : s'.ends = s.ends := by rw [ends, ends, h.ready, h.sources]
  obtain ⟨P', hP', htells'⟩ := (Cascade.start s' [] hready').settle hs'.wired hs'.distinct
  obtain ⟨P, hP, htells⟩ := (Cascade.start s [] hready).settle hs.wired hs.distinct
  rw [hends] at hP' htells'
  exact h.cascade hs.wired hs.distinct hs'.distinct hP' hP htells' htells (ready_settle _)
    (ready_settle _)

end Alike

/-- A sound state stays sound when a task is taken in hand. -/
theorem Sound.pick {stage : Stage} {rest : List (Task × Stage)} (hs : s.Sound behind [])
    (hready : s.ready = (x, stage) :: rest) :
    ∃ behind', { s with ready := rest }.Wired behind' [x] ∧
      ({ s with ready := rest }.crew [x]).Nodup := by
  have hp : s.ready[0]? = some (x, stage) := by rw [hready]; rfl
  have herase : s.ready.eraseIdx 0 = rest := by rw [hready]; rfl
  obtain ⟨behind', -, hw⟩ := hs.wired.part (.pick hp)
  have hd := distinct_part hs.flying hs.numbered hs.distinct (.pick hp)
  rw [herase] at hw hd
  exact ⟨behind', hw, hd⟩

theorem Sound.turn (hs : s.Sound behind []) : ∃ behind', s.turn.Sound behind' [] := by
  obtain ⟨behind', -, h⟩ := hs.run [.turn 0]
  rw [run_cons, run_nil, apply, ← turn_eq_turnAt] at h
  exact ⟨behind', h⟩

/-- **All turns that a call causes.** The fetches that it starts have fewer and fewer layers, and at
last the call or a fetch ends or comes to a gate. -/
theorem Alike.settle_calling (h : Alike X [] s' s) (hs' : s'.Sound behind' [])
    (hs : s.Sound behind []) (hx : x.spared X) (hready : s.ready = [(x, .calling)]) :
    Alike X [] s'.settle s.settle := by
  induction hn : x.provider.height using Nat.strongRecOn generalizing x s' s behind' behind with
  | ind n ih =>
  have hready' : s'.ready = [(x, .calling)] := h.ready.trans hready
  have hturn : ∀ {u : State}, u.ready = [(x, .calling)] →
      u.settle = u.turn.settle ∧ u.turn = { u with ready := [] }.advanceTask x .calling := by
    intro u hu
    refine ⟨settle_of_ready (by rw [hu]; exact List.cons_ne_nil _ _), ?_⟩
    rw [State.turn, hu]
  obtain ⟨behind₁', hw', hd'⟩ := hs'.pick hready'
  obtain ⟨behind₁, hw, hd⟩ := hs.pick hready
  obtain ⟨behind₂', ht'⟩ := hs'.turn
  obtain ⟨behind₂, ht⟩ := hs.turn
  obtain ⟨hreach, hcall⟩ := (h.pick hready).call x.kid (p := x.provider) fun _ => id
  have hcalled' := called x.kid x.provider { s' with ready := [] }
  have hcalled := called x.kid x.provider { s with ready := [] }
  rw [(hturn hready').1, (hturn hready).1]
  rw [(hturn hready').2, advanceTask] at ht' ⊢
  rw [(hturn hready).2, advanceTask] at ht ⊢
  generalize State.call x.kid x.provider { s' with ready := [] } = l' at hreach hcall hcalled' ht' ⊢
  generalize State.call x.kid x.provider { s with ready := [] } = l at hreach hcall hcalled ht ⊢
  obtain ⟨r', u'⟩ := l'
  obtain ⟨r, u⟩ := l
  dsimp only at hreach hcall hcalled hcalled'
  cases hreach with
  | ended o =>
    have hquiet' := hcalled'.quiet
    have hquiet := hcalled.quiet
    exact hcall.settle_finish (hw'.quiet hquiet') (hw.quiet hquiet) (hquiet'.crew ▸ hd')
      (hquiet.crew ▸ hd) hquiet.ready o
  | fetches e =>
    have hquiet' := hcalled'.quiet_of_fetches
    have hquiet := hcalled.quiet_of_fetches
    exact hcall.settle_fetching (hw'.quiet hquiet') (hw.quiet hquiet) (hquiet'.crew ▸ hd')
      (hquiet.crew ▸ hd) hquiet.ready e
  | @waits a b spots =>
    have hpark := hcall.park hx spots
    have hrest : u.ready = [] → Alike X [] (u'.park x a).settle (u.park x b).settle := by
      intro hu
      have hu' : (u'.park x a).ready = [] := hpark.ready.trans hu
      rw [settle_of_rest hu', settle_of_rest (s := u.park x b) hu]
      exact hpark
    cases hcalled with
    | gated | joined => exact hrest rfl
    | @started inner c cache bs m buckets core found stale flight =>
      -- what lies behind the cache has fewer layers than the call that missed the key
      have hmem : x ∈ s.crew [] := by simp [State.crew, tasks, hready]
      have hfits := hs.wired.provider x.provider (.inr ⟨x, hmem, rfl⟩)
      have hlt := hfits.height_lt (Provider.uses_of_core_eq core) (hfits.cached core).1
      exact ih _ (hn ▸ hlt) hpark ht' ht (Task.spared_of_fetch rfl X) rfl rfl

end State

end SigningKeys
