import SigningKeys.Proofs.Cache.Shelf
import SigningKeys.Proofs.Pipeline.Ledger
import SigningKeys.Proofs.Run.Sound

/-!
# What caches store

The store of a cache changes when a call looks for a key and when a fetch in reach brings one, and in
no other way. So what a cache stores after a run is what a list holds after the looks and the keys of
that run, in their order and at their instants.

* `Turn.storeSteps`, `State.storeSteps`: the looks and the keys of a turn, and of a run;
* **`stored_run`**: what a cache stores after a run that begins with the cache;
* `Refines`: a store after some steps is a list after the same steps;
* `State.Shelved`: what a cache stores after a run comes of the steps of the run;
* **`stores_refine_lists`**: this holds of all steps, and what all caches store after all runs comes
  of such steps.
-/

namespace SigningKeys

namespace Cache

/-- The limits of a cache, and what it stores. -/
def stored (c : Cache) : CacheLimits × KeyStore := (c.limits, c.store)

/-- The same after some steps. -/
def storedAfter (c : Cache) (now : Instant) (steps : List StoreStep) : CacheLimits × KeyStore :=
  (c.limits, (c.store.run c.limits now steps).2)

theorem stored_of_core {c d : Cache} (h : d.core = c.core) : d.stored = c.stored := by
  simp only [core, Prod.mk.injEq] at h
  rw [stored, stored, h.1, h.2.1]

end Cache

/-- The look at a cache that an event is. -/
def Event.look? (c : Nat) : Event → Option StoreStep
  | .called (.cached _ d) kid => if d = c then some (.lookup kid) else none
  | _ => none

/-- The key that a look finds. -/
def Lookup.key? : Lookup → Option Jwk
  | .hit j => some j
  | .expired | .absent => none

/-! ## Turns -/

namespace State

variable {s : State} {c : Nat} {cache : Cache} (kid : String)

theorem await_stored (s : State) (inner : Provider) (c : Nat) (cache : Cache) :
    ∃ cache', (s.await kid inner c cache).2.caches = s.caches.set c cache' ∧
      cache'.stored = cache.stored := by
  cases hf : cache.flight? kid with
  | some f =>
    rw [await_of_flight hf]
    exact ⟨_, rfl, rfl⟩
  | none =>
    rw [await_of_no_flight hf]
    exact ⟨_, rfl, rfl⟩

/-- A call that reaches a cache looks for its key there. -/
theorem cached_stored (inner : Provider) (hc : s.caches[c]? = some cache) :
    ∃ cache', (call kid (.cached inner c) s).2.caches = s.caches.set c cache' ∧
      cache'.stored = cache.storedAfter s.now [.lookup kid] := by
  cases hf : cache.fresh? s.now kid with
  | some j =>
    refine ⟨cache, ?_, ?_⟩
    · rw [call_cached_of_fresh hc hf]
      obtain ⟨hlt, he⟩ := List.getElem?_eq_some_iff.1 hc
      exact (he ▸ List.set_getElem_self hlt).symm
    · have hsame : (cache.lookup s.now kid).2 = cache := by rw [Cache.lookup_of_fresh hf]
      exact congrArg Cache.stored hsame.symm
  | none =>
    obtain ⟨m, hm⟩ := call_cached_of_stale inner hc hf
    obtain ⟨cache', hcaches, hstored⟩ :=
      await_stored kid { s with meter := m } inner c (cache.swept s.now kid)
    exact ⟨cache', by rw [hm, hcaches], hstored⟩

/-- **What a call does to stores**: it looks for its key in the cache that it reaches. -/
theorem stored_call (p : Provider) (s : State) (c : Nat) :
    ((call kid p s).2.caches[c]?).map Cache.stored =
      (s.caches[c]?).map (·.storedAfter s.now ((events kid p s).filterMap (Event.look? c))) := by
  induction p generalizing s with
  | source i =>
    have hcaches : (call kid (.source i) s).2.caches = s.caches := by
      rw [call, callSource]
      split
      · rfl
      · dsimp only
        split <;> rfl
    rw [hcaches]
    rfl
  | remote r => rfl
  | limited inner b ih =>
    have hlimiter := atLimiter kid inner b s
    generalize call kid (.limited inner b) s = r, events kid (.limited inner b) s = es at hlimiter ⊢
    cases hlimiter with
    | absent | stopped => rfl
    | @granted B B' found answer => exact ih (s.paid b B')
  | cached inner d =>
    have hlooks : (events kid (.cached inner d) s).filterMap (Event.look? c) =
        if d = c then [.lookup kid] else [] := by
      by_cases hd : d = c
      · simp [events, Event.look?, hd]
      · simp [events, Event.look?, hd]
    rw [hlooks]
    by_cases hd : d = c
    · rw [if_pos hd, ← hd]
      cases hc : s.caches[d]? with
      | none =>
        rw [call, hc]
        dsimp only
        rw [hc]
        rfl
      | some cache =>
        obtain ⟨cache', hcaches, hstored⟩ := cached_stored kid inner hc
        rw [hcaches, List.getElem?_set_self (List.getElem?_eq_some_iff.1 hc).1]
        exact congrArg some hstored
    · rw [if_neg hd]
      cases hc : s.caches[d]? with
      | none =>
        rw [call, hc]
        rfl
      | some cache =>
        obtain ⟨cache', hcaches, -⟩ := cached_stored kid inner hc
        rw [hcaches, List.getElem?_set_ne hd]
        rfl

end State

namespace Turn

/-- The keys that a turn puts into the store of a cache: what a fetch brought, if the cache is in
reach. -/
def puts (c : Nat) (T : Turn) : List StoreStep :=
  if T.before.holds c then
    ((T.lands c T.task.kid).bind Outcome.key?).toList.map (.insert T.task.kid)
  else []

/-- **What a turn does to the store of a cache.** -/
def storeSteps (c : Nat) (T : Turn) : List StoreStep :=
  T.events.filterMap (Event.look? c) ++ .pass (T.after.now - T.before.now) :: T.puts c

theorem duration_looks (c : Nat) (es : List Event) :
    StoreStep.duration (es.filterMap (Event.look? c)) = 0 := by
  induction es with
  | nil => rfl
  | cons e es ih =>
    cases h : Event.look? c e with
    | none =>
      rw [List.filterMap_cons_none h]
      exact ih
    | some step =>
      rw [List.filterMap_cons_some h]
      -- an event that is a look takes no time
      cases e with
      | asked inner b answer => cases h
      | called p kid =>
        cases p with
        | source i | remote r | limited inner b => cases h
        | cached inner d =>
          rw [Event.look?] at h
          split at h
          · cases h
            exact ih
          · cases h

theorem insert_mem_puts {c : Nat} {T : Turn} {kid : String} {j : Jwk} :
    .insert kid j ∈ T.puts c ↔ T.before.holds c = true ∧ T.lands c kid = some (.key j) := by
  have hkey : ∀ o : Outcome, o.key? = some j ↔ o = .key j := by
    intro o
    cases o with
    | key j' => simp [Outcome.key?]
    | error e | panic text => simp [Outcome.key?]
  unfold puts
  split
  · rename_i hlive
    simp only [List.mem_map, Option.mem_toList, Option.bind_eq_some_iff, hlive, true_and]
    constructor
    · rintro ⟨j', ⟨o, ho, hj⟩, he⟩
      cases he
      rw [ho, (hkey o).1 hj]
    · intro hlands
      obtain ⟨-, rfl, -⟩ := lands_eq_some.1 hlands
      exact ⟨j, ⟨_, hlands, rfl⟩, rfl⟩
  · rename_i hdead
    exact ⟨fun h => absurd h List.not_mem_nil, fun h => absurd h.1 hdead⟩

/-- **A key that a turn puts in** is one that a fetch brought. -/
theorem insert_mem_storeSteps {c : Nat} {T : Turn} {kid : String} {j : Jwk} :
    .insert kid j ∈ T.storeSteps c ↔ T.before.holds c = true ∧ T.lands c kid = some (.key j) := by
  have hlooks : .insert kid j ∉ T.events.filterMap (Event.look? c) := by
    intro h
    obtain ⟨e, -, he⟩ := List.mem_filterMap.1 h
    cases e with
    | asked inner b answer => cases he
    | called p k =>
      cases p with
      | source i | remote r | limited inner b => cases he
      | cached inner d =>
        rw [Event.look?] at he
        split at he <;> cases he
  rw [← insert_mem_puts, storeSteps, List.mem_append, List.mem_cons]
  constructor
  · rintro (h | h | h)
    · exact absurd h hlooks
    · cases h
    · exact h
  · exact fun h => .inr (.inr h)

theorem duration_puts (c : Nat) (T : Turn) : StoreStep.duration (T.puts c) = 0 := by
  unfold puts
  split
  · cases (T.lands c T.task.kid).bind Outcome.key? <;> rfl
  · rfl

theorem duration_storeSteps (c : Nat) (T : Turn) :
    StoreStep.duration (T.storeSteps c) = T.after.now - T.before.now := by
  rw [storeSteps, StoreStep.duration_append, duration_looks, StoreStep.duration, duration_puts,
    Nat.zero_add, Nat.add_zero]

/-- A task that ends puts a key into the store of the cache that it fetches for. -/
theorem stored_finish {T : Turn} {s : State} {o : Outcome} {c : Nat} {looks : List StoreStep}
    (hs : T.before.Quiet s) (hresult : T.result? = some o) (hafter : T.after = s.finish T.task o)
    (hlooks : StoreStep.duration looks = 0)
    (hstored : (s.caches[c]?).map Cache.stored =
      (T.before.caches[c]?).map (·.storedAfter T.before.now looks)) :
    (T.after.caches[c]?).map Cache.stored = (T.before.caches[c]?).map
      (·.storedAfter T.before.now (looks ++ .pass (T.after.now - T.before.now) :: T.puts c)) := by
  have hnow : T.before.now + StoreStep.duration looks + (T.after.now - T.before.now) = s.now := by
    have hafterNow : T.after.now = s.now := by rw [hafter, State.now_finish]
    have hle := T.now_after
    unfold Instant at *
    omega
  have hlands : T.lands c T.task.kid = if T.task.role = .fetch c then some o else none := by
    rw [Turn.lands, hresult]
    simp
  have hcaches : T.after.caches[c]? = if T.task.role = .fetch c ∧ T.before.holds c = true then
      (s.caches[c]?).map fun cache => (cache.keep s.now T.task.kid o).land T.task.kid
      else s.caches[c]? := by
    rw [hafter, State.caches_finish, hs.holds]
  rw [hs.caches] at hcaches hstored
  cases hc : T.before.caches[c]? with
  | none =>
    rw [hc] at hcaches
    rw [hcaches]
    split <;> rfl
  | some cache =>
    rw [hc] at hcaches hstored
    have hlooked : cache.store = (cache.store.run cache.limits T.before.now looks).2 :=
      congrArg Prod.snd (Option.some.inj hstored)
    have hrun : cache.storedAfter T.before.now
        (looks ++ .pass (T.after.now - T.before.now) :: T.puts c) =
          (cache.limits, (cache.store.run cache.limits s.now (T.puts c)).2) := by
      rw [Cache.storedAfter, KeyStore.run_append, KeyStore.run, hnow, ← hlooked]
    rw [hcaches]
    refine Eq.trans ?_ (congrArg some hrun.symm)
    by_cases hlive : T.task.role = .fetch c ∧ T.before.holds c = true
    · rw [if_pos hlive, puts, if_pos hlive.2, hlands, if_pos hlive.1, Option.bind_some,
        Option.map_some, Option.map_some, Cache.keep]
      cases o.key? <;> rfl
    · have hnone : T.puts c = [] := by
        rw [puts, hlands]
        split
        · rename_i h
          rw [if_neg fun hr => hlive ⟨hr, h⟩]
          rfl
        · rfl
      rw [if_neg hlive, hnone]
      rfl

/-- A task that goes on puts nothing into a store. -/
theorem stored_goesOn {T : Turn} {c : Nat} {looks : List StoreStep} (hresult : T.result? = none)
    (hstored : (T.after.caches[c]?).map Cache.stored =
      (T.before.caches[c]?).map (·.storedAfter T.before.now looks)) :
    (T.after.caches[c]?).map Cache.stored = (T.before.caches[c]?).map
      (·.storedAfter T.before.now (looks ++ .pass (T.after.now - T.before.now) :: T.puts c)) := by
  have hputs : T.puts c = [] := by
    rw [puts, lands_eq_none hresult, Option.bind_none]
    exact ite_self _
  rw [hstored]
  refine congrArg (fun f => Option.map f _) (funext fun cache => ?_)
  rw [hputs, Cache.storedAfter, Cache.storedAfter, KeyStore.run_append]
  rfl

/-- **What a turn does to stores.** -/
theorem stored_after (T : Turn) (c : Nat) :
    (T.after.caches[c]?).map Cache.stored =
      (T.before.caches[c]?).map (·.storedAfter T.before.now (T.storeSteps c)) := by
  have hsame : (T.before.caches[c]?).map Cache.stored =
      (T.before.caches[c]?).map (·.storedAfter T.before.now []) := rfl
  rw [storeSteps, events]
  cases hstage : T.stage with
  | told result =>
    refine stored_finish (o := .ofExcept result) (.refl _) ?_ ?_ rfl hsame
    · rw [result?, hstage]
      rfl
    · rw [after, hstage]
      rfl
  | admitted i n =>
    cases hsource : T.before.sources[i]? with
    | some source =>
      refine stored_finish (o := source.outcome T.task.kid n) (.refl _) ?_ ?_ rfl hsame
      · rw [result?, hstage, State.verdict, hsource]
        rfl
      · rw [after, hstage, State.advanceTask, hsource]
    | none =>
      have hafter : T.after = T.before := by rw [after, hstage, State.advanceTask, hsource]
      have hnone : (T.after.caches[c]?).map Cache.stored =
          (T.before.caches[c]?).map (·.storedAfter T.before.now []) := by rw [hafter, hsame]
      refine stored_goesOn ?_ hnone
      rw [result?, hstage, State.verdict, hsource]
      rfl
  | fetching e =>
    have hquiet : T.before.Quiet (T.before.receiveKey T.task.kid e).2 := T.before.quiet_receive e
    refine stored_finish (o := (T.before.receiveKey T.task.kid e).1) hquiet ?_ ?_ rfl ?_
    · rw [result?, hstage]
      rfl
    · rw [after, hstage]
      rfl
    · rw [hquiet.caches]
      exact hsame
  | calling =>
    have hcalled := State.called T.task.kid T.task.provider T.before
    have hstored := State.stored_call T.task.kid T.task.provider T.before c
    cases hcall : State.call T.task.kid T.task.provider T.before with
    | mk r t =>
      rw [hcall] at hcalled hstored
      cases r with
      | ended o =>
        refine stored_finish (o := o) hcalled.quiet ?_ ?_ (duration_looks c _) hstored
        · rw [result?, hstage, State.verdict, hcall]
        · rw [after, hstage, State.advanceTask, hcall]
      | waits spot =>
        have hafter : T.after = t.park T.task spot := by
          rw [after, hstage, State.advanceTask, hcall]
        refine stored_goesOn ?_ (by rw [hafter]; exact hstored)
        rw [result?, hstage, State.verdict, hcall]
      | fetches e =>
        have hafter : T.after = t.enqueue T.task (.fetching e) := by
          rw [after, hstage, State.advanceTask, hcall]
        refine stored_goesOn ?_ (by rw [hafter]; exact hstored)
        rw [result?, hstage, State.verdict, hcall]

end Turn

/-! ## Runs -/

namespace State

/-- What a move does to the store of a cache. -/
def storeStepsIn (s : State) (c : Nat) (m : Move) : List StoreStep :=
  match s.turn? m with
  | some T => T.storeSteps c
  | none => [.pass ((s.apply m).now - s.now)]

/-- **What a run does to the store of a cache.** -/
def storeSteps (s : State) (c : Nat) : List Move → List StoreStep
  | [] => []
  | m :: ms => s.storeStepsIn c m ++ (s.apply m).storeSteps c ms

variable {s : State} {c : Nat} {cache : Cache}

theorem duration_storeStepsIn (s : State) (c : Nat) (m : Move) :
    s.now + StoreStep.duration (s.storeStepsIn c m) = (s.apply m).now := by
  have hle := s.now_apply m
  rw [storeStepsIn]
  cases hm : s.turn? m with
  | none => exact Nat.add_sub_cancel' hle
  | some T =>
    obtain ⟨i, -, hbefore⟩ := turn?_eq_some hm
    have hnow : T.before.now = s.now := by rw [hbefore]
    rw [apply_of_turn? hm] at hle ⊢
    rw [T.duration_storeSteps, hnow]
    exact Nat.add_sub_cancel' hle

/-- The steps of a run take as long as the run. -/
theorem duration_storeSteps (s : State) (c : Nat) (ms : List Move) :
    s.now + StoreStep.duration (s.storeSteps c ms) = (s.run ms).now := by
  induction ms generalizing s with
  | nil => rfl
  | cons m ms ih =>
    rw [storeSteps, StoreStep.duration_append, run_cons, ← ih, ← duration_storeStepsIn s c m,
      Nat.add_assoc]

theorem stored_apply (hc : s.caches[c]? = some cache) (m : Move) :
    ((s.apply m).caches[c]?).map Cache.stored =
      some (cache.storedAfter s.now (s.storeStepsIn c m)) := by
  rw [storeStepsIn]
  cases hm : s.turn? m with
  | some T =>
    obtain ⟨i, -, hbefore⟩ := turn?_eq_some hm
    have hstored := T.stored_after c
    rw [hbefore] at hstored
    rw [apply_of_turn? hm, hstored]
    exact congrArg _ hc
  | none =>
    obtain ⟨cs, hcs, -⟩ := (still_apply hm).caches
    have hlt := (List.getElem?_eq_some_iff.1 hc).1
    have hget : ((s.apply m).caches.map Cache.core)[c]? = some cache.core := by
      rw [hcs, List.getElem?_map, List.getElem?_append_left hlt, hc]
      rfl
    rw [List.getElem?_map] at hget
    obtain ⟨d, hd, hcore⟩ := Option.map_eq_some_iff.1 hget
    rw [hd]
    exact congrArg some (Cache.stored_of_core hcore)

/-- **What a cache stores after a run**: what the looks and the keys of the run made of its store. -/
theorem stored_run (hc : s.caches[c]? = some cache) (ms : List Move) :
    ((s.run ms).caches[c]?).map Cache.stored =
      some (cache.storedAfter s.now (s.storeSteps c ms)) := by
  induction ms generalizing s cache with
  | nil => exact congrArg _ hc
  | cons m ms ih =>
    obtain ⟨d, hd, hstored⟩ := Option.map_eq_some_iff.1 (stored_apply hc m)
    have hlimits : d.limits = cache.limits := congrArg Prod.fst hstored
    have hstore : d.store = (cache.store.run cache.limits s.now (s.storeStepsIn c m)).2 :=
      congrArg Prod.snd hstored
    rw [run_cons, ih hd, storeSteps, Cache.storedAfter, Cache.storedAfter, KeyStore.run_append,
      duration_storeStepsIn, hlimits, hstore]

/-! ## Runs from the beginning -/

theorem Wired.lt_of_holds {behind : List Provider} (h : s.Wired behind [])
    (hlive : s.holds c = true) : c < s.caches.length := by
  obtain ⟨p, hp, hu⟩ := (holds_iff s c).1 hlive
  rw [← h.caches]
  exact (h.provider p hp).lt_of_uses hu

/-- Nothing is stored in a cache before there is one. -/
theorem insert_not_mem {behind : List Provider} (hs : s.Wired behind [])
    (hc : s.caches[c]? = none) (m : Move) (kid : String) (j : Jwk) :
    .insert kid j ∉ s.storeStepsIn c m := by
  rw [storeStepsIn]
  cases hm : s.turn? m with
  | none => simp
  | some T =>
    intro hmem
    have hlive := (Turn.insert_mem_storeSteps.1 hmem).1
    obtain ⟨i, hi, hbefore⟩ := turn?_eq_some hm
    have hreach : s.reaches [] c := by
      rw [holds_iff, hbefore] at hlive
      exact hlive.mono (fun _ => id) fun y hy =>
        (perm_eraseIdx_ready hi).mem_iff.2 (List.mem_cons_of_mem _ hy)
    have hlt := hs.lt_of_holds ((holds_iff s c).2 hreach)
    rw [List.getElem?_eq_getElem hlt] at hc
    cases hc

/-- What a cache stores that was made in a run. -/
theorem store_run_of_none {behind : List Provider} (hs : s.Sound behind [])
    (hc : s.caches[c]? = none) {ms : List Move} (hcache : (s.run ms).caches[c]? = some cache) :
    cache.store = (({} : KeyStore).run cache.limits s.now (s.storeSteps c ms)).2 := by
  induction ms generalizing s behind with
  | nil => exact absurd (hcache.symm.trans hc) (Option.some_ne_none _)
  | cons m ms ih =>
    obtain ⟨behind', -, hs'⟩ := hs.run [m]
    have hempty : (({} : KeyStore).run cache.limits s.now (s.storeStepsIn c m)).2 = {} :=
      KeyStore.run_empty fun kid j => insert_not_mem hs.wired hc m kid j
    rw [run_cons] at hcache
    rw [storeSteps, KeyStore.run_append, hempty, duration_storeStepsIn]
    cases hd : (s.apply m).caches[c]? with
    | none => exact ih hs' hd hcache
    | some d =>
      have hnew : d.store = {} := by
        cases hm : s.turn? m with
        | some T =>
          obtain ⟨i, -, hbefore⟩ := turn?_eq_some hm
          have hnone : T.before.caches[c]? = none := by rw [hbefore]; exact hc
          rw [apply_of_turn? hm, Turn.caches_eq_none hnone] at hd
          cases hd
        | none =>
          rcases cache_still (still_apply hm) hd with ⟨e, he, -⟩ | ⟨hstore, -⟩
          · exact absurd (he.symm.trans hc) (Option.some_ne_none _)
          · exact hstore
      have hstored := stored_run hd ms
      rw [hcache] at hstored
      have hlimits : cache.limits = d.limits := congrArg Prod.fst (Option.some.inj hstored)
      rw [hlimits, ← hnew]
      exact congrArg Prod.snd (Option.some.inj hstored)

end State

/-- **A store after some steps is a list after the same steps**, and they find the same in both. -/
structure Refines (l : CacheLimits) (start : Instant) (steps : List StoreStep) : Prop where
  found : (({} : KeyStore).run l start steps).1 = (Shelf.run [] l start steps).1
  lists : (({} : KeyStore).run l start steps).2.Lists (Shelf.run [] l start steps).2
  tidy : (({} : KeyStore).run l start steps).2.Tidy l.capacity

theorem refines (l : CacheLimits) (start : Instant) (steps : List StoreStep) :
    Refines l start steps := by
  obtain ⟨hfound, hlists, haged⟩ :=
    KeyStore.lists_run l steps KeyStore.lists_empty (Shelf.aged_empty l.capacity start)
  exact ⟨hfound, hlists, hlists.tidy haged⟩

namespace State

/-- **A cache after a run**: what it stores is what the looks and the keys of the run make of an empty
store, from the beginning of the run to its end, and what a call finds is what the list holds. -/
structure Shelved (s₀ : State) (ms : List Move) (c : Nat) (cache : Cache) : Prop where
  store_eq : cache.store = (({} : KeyStore).run cache.limits s₀.now (s₀.storeSteps c ms)).2
  clock : s₀.now + StoreStep.duration (s₀.storeSteps c ms) = (s₀.run ms).now
  found : ∀ m T inner, (s₀.run ms).turn? m = some T → T.stage = .calling →
    T.task.provider = .cached inner c →
      T.result? = ((Shelf.run [] cache.limits s₀.now (s₀.storeSteps c ms)).2.lookup
        cache.limits.ttl (s₀.run ms).now T.task.kid).1.key?.map .key

/-- A call of a cache ends at once with the key that it finds, or has to wait. -/
theorem result_of_calling {s : State} {m : Move} {T : Turn} {c : Nat} {cache : Cache}
    {inner : Provider} (hT : s.turn? m = some T) (hc : s.caches[c]? = some cache)
    (hstage : T.stage = .calling) (hp : T.task.provider = .cached inner c) :
    T.result? = (cache.store.lookup cache.limits.ttl s.now T.task.kid).1.key?.map .key := by
  obtain ⟨i, -, hbefore⟩ := turn?_eq_some hT
  have hc' : T.before.caches[c]? = some cache := by rw [hbefore]; exact hc
  have hnow : s.now = T.before.now := by rw [hbefore]
  have hfresh : (cache.store.lookup cache.limits.ttl s.now T.task.kid).1.key? =
      cache.fresh? T.before.now T.task.kid := by
    rw [hnow]
    unfold Cache.fresh? Cache.lookup
    dsimp only
    cases (cache.store.lookup cache.limits.ttl T.before.now T.task.kid).1 <;> rfl
  rw [hfresh, Turn.result?, hstage, verdict, hp]
  cases hf : cache.fresh? T.before.now T.task.kid with
  | some j =>
    rw [call_cached_of_fresh hc' hf]
    rfl
  | none =>
    obtain ⟨mt, hcall⟩ := call_cached_of_stale inner hc' hf
    rw [hcall]
    cases hl : (cache.swept T.before.now T.task.kid).flight? T.task.kid with
    | some f =>
      rw [await_of_flight hl]
      rfl
    | none =>
      rw [await_of_no_flight hl]
      rfl

/-- **Stores are lists**: after all steps, whatever they are; and so is what a cache stores after a
run, in which tasks may take turns in any order. -/
theorem stores_refine_lists :
    (∀ l start steps, Refines l start steps) ∧
      ∀ (sources : List Source) (network : Network) (ms : List Move) (c : Nat) (cache : Cache),
        ((blank sources network).run ms).caches[c]? = some cache →
          (blank sources network).Shelved ms c cache := by
  refine ⟨refines, fun sources network ms c cache hcache => ?_⟩
  have hstore := store_run_of_none (sound_blank sources network) rfl hcache
  refine ⟨hstore, duration_storeSteps _ c ms, fun m T inner hT hstage hp => ?_⟩
  have hlists := (refines cache.limits 0 ((blank sources network).storeSteps c ms)).lists
  have hlookup := hlists.lookup cache.limits.ttl ((blank sources network).run ms).now T.task.kid
  rw [result_of_calling hT hcache hstage hp, hstore]
  exact congrArg (fun x : Lookup => x.key?.map Outcome.key) hlookup.1

/-- A cache of two keys is asked for three of them, one after the other, and for the first one once
more before the last one. -/
def thirdKey : List Move :=
  .build (.source 0) ⟨none, some ⟨2, Duration.ofSeconds 1, by decide, Duration.second_pos⟩⟩ ::
    ["a", "b", "a", "c"].flatMap fun kid => [.get 0 kid, .turn 0, .turn 0, .turn 0]

/-- The key that came first is dropped, although it was found in between. -/
theorem stores_refine_lists_thirdKey :
    ∃ cache, ((blank [{ behaviour := .sample none false }] .unreachable).run thirdKey).caches[0]? =
        some cache ∧
      (blank [{ behaviour := .sample none false }] .unreachable).Shelved thirdKey 0 cache ∧
      cache.store.order = ["b", "c"] := by
  have horder : (((blank [{ behaviour := .sample none false }] .unreachable).run
      thirdKey).caches[0]?).map (·.store.order) = some ["b", "c"] := by decide +kernel
  obtain ⟨cache, hcache, horder⟩ := Option.map_eq_some_iff.1 horder
  exact ⟨cache, hcache, stores_refine_lists.2 _ _ thirdKey 0 cache hcache, horder⟩

end State

end SigningKeys
