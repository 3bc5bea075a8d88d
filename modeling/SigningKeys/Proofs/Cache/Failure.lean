import SigningKeys.Proofs.Cache.Contents
import SigningKeys.Proofs.Cache.Provenance
import SigningKeys.Proofs.Cache.SingleFlight

/-!
# Fetches that fail

A fetch that fails leaves no trace. While it is under way the store changes only by what is done for
other ids, at its end all that wait for it are told the same error, and a call that comes later finds
the cache as if the fetch had never been: it starts a new one, which can bring a key.

* `StoreStep.passesBy`, `KeyStore.run_others`: what is done for an id that is not stored, and nothing
  put in, can be left out;
* `Turn.Starts.course`: the turn in which a fetch starts;
* `State.Fetched`: a fetch from its start to its end;
* `State.Traceless`: what is left of a fetch that failed;
* **`failure_traceless`**: nothing, in every run.
-/

namespace SigningKeys

/-! ## Steps for other ids -/

/-- Whether a step is not about an id. -/
def StoreStep.passesBy (kid : String) : StoreStep → Bool
  | .pass _ => true
  | .lookup k | .insert k _ => k != kid

namespace KeyStore

variable {s : KeyStore} {kid k : String}

theorem get?_lookup (h : s.get? kid = none) (ttl : Duration) (now : Instant) (k : String) :
    (s.lookup ttl now k).2.get? kid = none := by
  unfold lookup
  split
  · exact h
  · split
    · exact h
    · rw [get?_erase, h, ite_self]

theorem get?_insert_ne (h : s.get? kid = none) (hk : k ≠ kid) (capacity : Nat) (now : Instant)
    (j : Jwk) : (s.insert capacity now k j).get? kid = none := by
  refine Option.eq_none_iff_forall_ne_some.2 fun e he => ?_
  rcases get?_insert he with ⟨he, -⟩ | ⟨-, he⟩
  · exact hk he.symm
  · exact Option.some_ne_none e (he.symm.trans h)

/-- **What is done for an id that is not stored leaves nothing**, if no key is put in for it. -/
theorem run_others (l : CacheLimits) (now : Instant) {steps : List StoreStep}
    (h : s.get? kid = none) (hsteps : ∀ j, .insert kid j ∉ steps) :
    (s.run l now steps).2.get? kid = none ∧
      (s.run l now steps).2 = (s.run l now (steps.filter (·.passesBy kid))).2 := by
  induction steps generalizing s now with
  | nil => exact ⟨h, rfl⟩
  | cons step steps ih =>
    have hrest : ∀ j, .insert kid j ∉ steps := fun j hj => hsteps j (List.mem_cons_of_mem _ hj)
    cases step with
    | pass n => exact ih _ h hrest
    | lookup k =>
      by_cases hk : k = kid
      · subst hk
        have hsame : (s.lookup l.ttl now k).2 = s := by rw [lookup_of_get?_eq_none h]
        rw [List.filter_cons_of_neg (by simp [StoreStep.passesBy]), run, hsame]
        exact ih _ h hrest
      · rw [List.filter_cons_of_pos (by simp [StoreStep.passesBy, hk]), run, run]
        exact ih _ (get?_lookup h l.ttl now k) hrest
    | insert k j =>
      have hk : k ≠ kid := by
        rintro rfl
        exact hsteps j List.mem_cons_self
      rw [List.filter_cons_of_pos (by simp [StoreStep.passesBy, hk]), run, run]
      exact ih _ (get?_insert_ne h hk l.capacity now j) hrest

end KeyStore

theorem Cache.store_swept {cache : Cache} {now : Instant} {kid : String}
    (h : cache.fresh? now kid = none) : (cache.swept now kid).store = cache.store.erase kid := by
  unfold swept Cache.lookup
  cases he : cache.store.get? kid with
  | none =>
    rw [KeyStore.lookup_of_get?_eq_none he, KeyStore.erase, he]
    rfl
  | some e =>
    rw [KeyStore.lookup_of_get?_eq_some he, if_neg (Nat.not_lt.2 (fresh?_eq_none.1 h e he))]

/-! ## The turns in which a fetch starts and ends -/

namespace Turn

variable {T : Turn} {c : Nat} {kid : String} {inner : Provider}

/-- **The turn in which a fetch starts.** What was stored for the id was too old and goes; the fetch
is entered, and the call waits for it. -/
theorem Starts.course (h : T.Starts c kid inner) :
    ∃ cache bs m, T.before.caches[c]? = some cache ∧ cache.fresh? T.before.now kid = none ∧
      cache.flight? kid = none ∧
      T.after = State.park
        { T.before with
          caches := T.before.caches.set c ((cache.swept T.before.now kid).depart kid)
          ready := T.before.ready ++ [(⟨.fetch c, kid, inner⟩, .calling)]
          buckets := bs, meter := m } T.task (.flight c 0) := by
  have hmade : T.made = [⟨.fetch c, kid, inner⟩] := by
    rw [made_eq h.ready]
    rfl
  have hready := h.ready
  have hcore := h.core
  have hasks := h.asks
  have hcourse := T.course
  generalize ha : T.after = t, T.result? = r, hs : T.stage = stage at hcourse
  rw [ha] at hready
  cases hcourse with
  | ends called =>
    rw [made_of_finish called.quiet.ready ha] at hmade
    cases hmade
  | fetched | admitted | told | lost => exact absurd (hs.symm.trans h.stage) nofun
  | @fetches e t called =>
    -- a call that begins a fetch over the network has reached no cache
    cases called with
    | asked _ core => cases core.symm.trans hcore
  | waits called =>
    have hself : T.before.ready ≠ T.before.ready ++ [(⟨.fetch c, kid, inner⟩, .calling)] :=
      fun he => by simpa using congrArg List.length he
    cases called with
    | gated | joined => exact absurd hready hself
    | @started inner' d cache bs m buckets core found stale flight =>
      obtain ⟨rfl, rfl⟩ := Provider.cached.inj (core.symm.trans hcore)
      rw [hasks] at stale flight ⊢
      exact ⟨cache, bs, m, found, stale, flight, rfl⟩

/-- A call that misses starts a fetch. -/
theorem starts_of_misses (hstage : T.stage = .calling) (hp : T.task.provider = .cached inner c)
    (hmiss : T.before.misses c T.task.kid) : T.Starts c T.task.kid inner := by
  refine ⟨hstage, rfl, by rw [hp]; rfl, ?_⟩
  obtain ⟨cache, hc, hflight, hold⟩ := hmiss
  obtain ⟨m, hm⟩ := State.call_cached_of_stale inner hc (Cache.fresh?_eq_none.2 hold)
  have hnone : (cache.swept T.before.now T.task.kid).flight? T.task.kid = none := hflight
  rw [State.await_of_no_flight hnone] at hm
  rw [after, hstage, State.advanceTask, hp, hm]
  rfl

/-- **A fetch that ends** leaves its key in the store of a cache in reach, or nothing. -/
theorem store_of_lands {o : Outcome} {cache : Cache} (hlive : T.before.holds c = true)
    (hlands : T.lands c kid = some o) (hc : T.before.caches[c]? = some cache) :
    (T.after.caches[c]?).map Cache.store = some (cache.keep T.after.now kid o).store := by
  obtain ⟨hrole, hkid, hresult⟩ := lands_eq_some.1 hlands
  obtain ⟨cache', hc', hchanges⟩ := changes hc
  rw [hc', Option.map_some]
  cases hchanges with
  | kept dead =>
    rw [dead o hrole hresult] at hlive
    cases hlive
  | joined _ _ _ _ result | started _ _ _ _ result _ =>
    exact absurd (hresult.symm.trans result) (Option.some_ne_none o)
  | @landed o' role live result =>
    rw [Option.some.inj (hresult.symm.trans result), hkid]
    rfl

end Turn

namespace State

variable {s : State} {behind : List Provider} {m₁ m₂ : Move} {ms : List Move} {S L : Turn} {c : Nat}
  {kid : String} {inner : Provider} {o : Outcome}

theorem exists_of_insert_mem {s : State} {ms : List Move} {j : Jwk}
    (h : .insert kid j ∈ s.storeSteps c ms) : ∃ T ∈ s.history ms, T.lands c kid = some (.key j) := by
  induction ms generalizing s with
  | nil => exact absurd h List.not_mem_nil
  | cons m ms ih =>
    rw [history]
    rcases List.mem_append.1 h with h | h
    · rw [storeStepsIn] at h
      cases hm : s.turn? m with
      | none =>
        rw [hm] at h
        exact absurd h (by simp)
      | some T =>
        rw [hm] at h
        exact ⟨T, List.mem_append_left _ (List.mem_singleton_self T),
          (Turn.insert_mem_storeSteps.1 h).2⟩
    · obtain ⟨T, hT, hlands⟩ := ih h
      exact ⟨T, List.mem_append_right _ hT, hlands⟩

/-- **A fetch from its start to its end**: it starts in one turn and ends in another, no fetch of the
key by the cache has ended in between, and the cache is still in reach. -/
structure Fetched (s : State) (m₁ : Move) (ms : List Move) (m₂ : Move) (S L : Turn) (c : Nat)
    (kid : String) (inner : Provider) (o : Outcome) : Prop where
  begins : s.turn? m₁ = some S
  starts : S.Starts c kid inner
  underWay : ∀ X ∈ S.after.history ms, X.lands c kid = none
  ends : (S.after.run ms).turn? m₂ = some L
  lands : L.lands c kid = some o
  live : (S.after.run ms).holds c = true

namespace Fetched

/-- **What is stored while a fetch is under way**: what was stored for other ids, and what is done for
them in the meantime. -/
theorem store_run (h : s.Fetched m₁ ms m₂ S L c kid inner o) :
    ∃ cache, s.caches[c]? = some cache ∧
      (∀ e, cache.store.get? kid = some e → cache.limits.ttl.nanos ≤ elapsed s.now e.since) ∧
      ∀ ms' ms'', ms = ms' ++ ms'' → ∃ cache', (S.after.run ms').caches[c]? = some cache' ∧
        cache'.store.get? kid = none ∧
        cache'.store = ((cache.store.erase kid).run cache.limits S.after.now
          ((S.after.storeSteps c ms').filter (·.passesBy kid))).2 := by
  obtain ⟨i, -, hbefore⟩ := turn?_eq_some h.begins
  obtain ⟨cache, bs, m, hc, hstale, -, hafter⟩ := h.starts.course
  have hlt := (List.getElem?_eq_some_iff.1 hc).1
  have hc₁ : S.after.caches[c]? =
      some ((cache.swept S.before.now kid).depart kid) := by
    rw [hafter]
    exact List.getElem?_set_self hlt
  have hgone : (cache.store.erase kid).get? kid = none := by
    rw [KeyStore.get?_erase, if_pos rfl]
  have hold := Cache.fresh?_eq_none.1 hstale
  rw [hbefore] at hc hold
  refine ⟨cache, hc, hold, fun ms' ms'' hms => ?_⟩
  obtain ⟨cache', hc', hstored⟩ := Option.map_eq_some_iff.1 (stored_run hc₁ ms')
  have hstore : cache'.store = ((cache.swept S.before.now kid).store.run cache.limits S.after.now
    (S.after.storeSteps c ms')).2 := congrArg Prod.snd hstored
  rw [Cache.store_swept hstale] at hstore
  have hinserts : ∀ j, .insert kid j ∉ S.after.storeSteps c ms' := by
    intro j hj
    obtain ⟨X, hX, hlands⟩ := exists_of_insert_mem hj
    have hnone := h.underWay X (by rw [hms, history_append]; exact List.mem_append_left _ hX)
    rw [hnone] at hlands
    cases hlands
  have hothers := KeyStore.run_others cache.limits S.after.now hgone hinserts
  rw [← hstore] at hothers
  exact ⟨cache', hc', hothers⟩

/-- **All that wait for a fetch are told how it ends**, whatever happens in the meantime and then. -/
theorem told (hs : s.Sound behind []) (h : s.Fetched m₁ ms m₂ S L c kid inner o)
    {ms' ms'' ms₃ : List Move} (hms : ms = ms' ++ ms'') {w : Task} {place : Nat}
    (hw : (w, .flight c place) ∈ (S.after.run ms').parked) (hkid : w.kid = kid)
    (hgoes : w.goesOn (ms'' ++ m₂ :: ms₃)) :
    (S.after.run ms').Comes (ms'' ++ m₂ :: ms₃) w c place (some o) := by
  obtain ⟨behind', -, hs'⟩ := hs.run (m₁ :: ms')
  rw [run_cons, apply_of_turn? h.begins] at hs'
  have hfirst : ((S.after.run ms').history (ms'' ++ m₂ :: ms₃)).findSome? (·.lands c w.kid) =
      some o := by
    have hnone : ((S.after.run ms').history ms'').findSome? (·.lands c kid) = none := by
      rw [List.findSome?_eq_none_iff]
      intro X hX
      exact h.underWay X (by rw [hms, history_append]; exact List.mem_append_right _ hX)
    have hL : ((S.after.run ms').run ms'').turn? m₂ = some L := by
      rw [← run_append, ← hms]
      exact h.ends
    rw [history_append, history, hL, hkid, List.findSome?_append, hnone, Option.toList_some,
      List.singleton_append, List.findSome?_cons, h.lands]
    rfl
  have hcomes := hs'.comes_run hw hgoes
  rw [hfirst] at hcomes
  exact hcomes

/-- What is left in the cache by a fetch that ends. -/
theorem store_after (hs : s.Sound behind []) (h : s.Fetched m₁ ms m₂ S L c kid inner o)
    {cache : Cache} (hc : (S.after.run ms).caches[c]? = some cache) :
    (L.after.caches[c]?).map Cache.store = some (cache.keep L.after.now kid o).store := by
  obtain ⟨behind', -, hs'⟩ := hs.run (m₁ :: ms)
  rw [run_cons, apply_of_turn? h.begins] at hs'
  obtain ⟨i, -, hbefore⟩ := turn?_eq_some h.ends
  have hc' : L.before.caches[c]? = some cache := by rw [hbefore]; exact hc
  have hrole := (Turn.lands_eq_some.1 h.lands).1
  exact Turn.store_of_lands (hs'.holds_before h.ends hrole h.live) h.lands hc'

/-- The fetch is struck when it ends. -/
theorem not_inFlight (hs : s.Sound behind []) (h : s.Fetched m₁ ms m₂ S L c kid inner o) :
    ¬L.after.inFlight c kid := by
  obtain ⟨behind', -, hs'⟩ := hs.run (m₁ :: ms)
  rw [run_cons, apply_of_turn? h.begins] at hs'
  have hrole := (Turn.lands_eq_some.1 h.lands).1
  exact Turn.not_inFlight_after (hs'.holds_before h.ends hrole h.live) h.lands

/-- **A fetch that succeeds** leaves its key, as one that was put in at this instant. -/
theorem stored (hs : s.Sound behind []) {j : Jwk}
    (h : s.Fetched m₁ ms m₂ S L c kid inner (.key j)) :
    ∃ cache, L.after.caches[c]? = some cache ∧ cache.store.get? kid = some ⟨j, L.after.now⟩ := by
  obtain ⟨_, -, -, hrun⟩ := h.store_run
  obtain ⟨cache, hc, -⟩ := hrun ms [] (List.append_nil ms).symm
  obtain ⟨cache', hc', hstore⟩ := Option.map_eq_some_iff.1 (h.store_after hs hc)
  refine ⟨cache', hc', ?_⟩
  rw [hstore]
  exact List.lookup_cons_self

/-- **A fetch that fails** leaves the store as it is. -/
theorem store_of_failure (hs : s.Sound behind []) (h : s.Fetched m₁ ms m₂ S L c kid inner o)
    (ho : o.key? = none) :
    (L.after.caches[c]?).map Cache.store = ((S.after.run ms).caches[c]?).map Cache.store := by
  obtain ⟨_, -, -, hrun⟩ := h.store_run
  obtain ⟨cache, hc, -⟩ := hrun ms [] (List.append_nil ms).symm
  rw [h.store_after hs hc, hc, Cache.keep, ho]
  rfl

/-- After a fetch that failed the cache has to fetch the key. -/
theorem misses (hs : s.Sound behind []) (h : s.Fetched m₁ ms m₂ S L c kid inner o)
    (ho : o.key? = none) : L.after.misses c kid := by
  obtain ⟨_, -, -, hrun⟩ := h.store_run
  obtain ⟨cache, hc, hgone, -⟩ := hrun ms [] (List.append_nil ms).symm
  have hstore := h.store_of_failure hs ho
  rw [hc] at hstore
  obtain ⟨cache', hc', hsame⟩ := Option.map_eq_some_iff.1 hstore
  refine ⟨cache', hc', ?_, fun e he => ?_⟩
  · exact Cache.flight?_eq_none.2 fun hk => h.not_inFlight hs ⟨cache', hc', hk⟩
  · rw [hsame, hgone] at he
    cases he

end Fetched

/-- **What a fetch that fails leaves**: nothing but an error, for those who wait for it. -/
structure Traceless (s : State) (ms : List Move) (m₂ : Move) (S L : Turn) (c : Nat) (kid : String)
    (inner : Provider) (o : Outcome) : Prop where
  /-- The call that starts the fetch drops what was stored for the id, which was too old. From then on
  the store changes by what is done for other ids, and in no other way. -/
  between : ∃ cache, s.caches[c]? = some cache ∧
    (∀ e, cache.store.get? kid = some e → cache.limits.ttl.nanos ≤ elapsed s.now e.since) ∧
    ∀ ms' ms'', ms = ms' ++ ms'' → ∃ cache', (S.after.run ms').caches[c]? = some cache' ∧
      cache'.store.get? kid = none ∧
      cache'.store = ((cache.store.erase kid).run cache.limits S.after.now
        ((S.after.storeSteps c ms').filter (·.passesBy kid))).2
  /-- The end of the fetch leaves the store as it is. -/
  untouched : (L.after.caches[c]?).map Cache.store = ((S.after.run ms).caches[c]?).map Cache.store
  gone : ¬L.after.inFlight c kid
  /-- What is told is the error of the fetch; of one that broke down, that it did, with its text. -/
  error : ∃ e, o.share = .error e ∧
    (o = .error e ∨ ∃ text, o = .panic text ∧ e = .fetchFailed (Outcome.brokenFetchText text))
  starter : (S.task, .flight c 0) ∈ S.after.parked
  /-- All that wait for the fetch are told, unless they are given up. -/
  told : ∀ ms' ms'' w place, ms = ms' ++ ms'' → (w, .flight c place) ∈ (S.after.run ms').parked →
    w.kid = kid → ∀ ms₃, w.goesOn (ms'' ++ m₂ :: ms₃) →
      (S.after.run ms').Comes (ms'' ++ m₂ :: ms₃) w c place (some o)
  /-- A call of the cache that comes then starts a new fetch. If that brings a key, the key is stored,
  and the call ends with it. -/
  anew : ∀ p, L.after.provider? p = some (.cached inner c) → ∃ T,
    (L.after.apply (.get p kid)).turn? (.turn L.after.ready.length) = some T ∧
      T.task = ⟨.caller L.after.started, kid, .cached inner c⟩ ∧ T.Starts c kid inner ∧
      ∀ ms' m N j, Fetched (L.after.apply (.get p kid)) (.turn L.after.ready.length) ms' m T N c kid
          inner (.key j) →
        (∃ cache, N.after.caches[c]? = some cache ∧
          cache.store.get? kid = some ⟨j, N.after.now⟩) ∧
        ∀ ms₃, T.task.goesOn (ms' ++ m :: ms₃) →
          T.after.Comes (ms' ++ m :: ms₃) T.task c 0 (some (.key j))

theorem parked_of_starts {T : Turn} (h : T.Starts c kid inner) :
    (T.task, .flight c 0) ∈ T.after.parked := by
  obtain ⟨cache, bs, m, -, -, -, hafter⟩ := h.course
  rw [hafter]
  exact List.mem_append_right _ (List.mem_singleton_self _)

theorem error_of_failure (ho : o.key? = none) : ∃ e, o.share = .error e ∧
    (o = .error e ∨ ∃ text, o = .panic text ∧ e = .fetchFailed (Outcome.brokenFetchText text)) := by
  cases o with
  | key j => cases ho
  | error e => exact ⟨e, rfl, .inl rfl⟩
  | panic text => exact ⟨_, rfl, .inr ⟨text, rfl, rfl⟩⟩

/-- A call of a cache that has to fetch the key, and begins at once. -/
theorem exists_starts {p : Nat} (hp : s.provider? p = some (.cached inner c))
    (hmiss : s.misses c kid) :
    ∃ T, (s.apply (.get p kid)).turn? (.turn s.ready.length) = some T ∧
      T.task = ⟨.caller s.started, kid, .cached inner c⟩ ∧ T.Starts c kid inner := by
  have hspawn : s.apply (.get p kid) = s.spawn (.cached inner c) kid := by rw [apply, hp]
  have hready : (s.spawn (.cached inner c) kid).ready[s.ready.length]? =
      some (⟨.caller s.started, kid, .cached inner c⟩, .calling) := List.getElem?_concat_length
  rw [hspawn, turn?, hready]
  exact ⟨_, rfl, rfl, Turn.starts_of_misses rfl rfl hmiss⟩

/-- **A fetch that fails leaves no trace**, in every run: whether its provider answers with an error
or breaks down, and whatever else happens while it is under way. -/
theorem failure_traceless (sources : List Source) (network : Network) (ms₀ : List Move)
    (m₁ : Move) (ms : List Move) (m₂ : Move) (S L : Turn) (c : Nat) (kid : String) (inner : Provider)
    (o : Outcome)
    (h : ((blank sources network).run ms₀).Fetched m₁ ms m₂ S L c kid inner o)
    (ho : o.key? = none) :
    ((blank sources network).run ms₀).Traceless ms m₂ S L c kid inner o := by
  obtain ⟨behind, hs⟩ := sound_run sources network ms₀
  obtain ⟨behind', -, hL⟩ := hs.run (m₁ :: ms ++ [m₂])
  rw [run_append, run_cons, run_cons, apply_of_turn? h.begins, apply_of_turn? h.ends] at hL
  constructor
  case between => exact h.store_run
  case untouched => exact h.store_of_failure hs ho
  case gone => exact h.not_inFlight hs
  case error => exact error_of_failure ho
  case starter => exact parked_of_starts h.starts
  case told => exact fun ms' ms'' w place hms hw hkid ms₃ hgoes => h.told hs hms hw hkid hgoes
  case anew =>
    intro p hp
    obtain ⟨T, hT, htask, hstarts⟩ := exists_starts hp (h.misses hs ho)
    refine ⟨T, hT, htask, hstarts, fun ms' m N j hN => ?_⟩
    obtain ⟨behind'', -, hget⟩ := hL.run [.get p kid]
    exact ⟨hN.stored hget, fun ms₃ hgoes =>
      hN.told hget (List.nil_append ms').symm (parked_of_starts hstarts) hstarts.asks hgoes⟩

/-- A fetch that a call of the cache starts, and how it ends. -/
theorem exists_fetched {p : Nat} {m : Move} (hp : s.provider? p = some (.cached inner c))
    (hmiss : s.misses c kid)
    (hunderWay : ∀ X ∈ (s.run [.get p kid, .turn s.ready.length]).history ms, X.lands c kid = none)
    (hlands : ((s.run (.get p kid :: .turn s.ready.length :: ms)).turn? m).bind (·.lands c kid) =
      some o)
    (hlive : (s.run (.get p kid :: .turn s.ready.length :: ms)).holds c = true) :
    ∃ S L, (s.apply (.get p kid)).Fetched (.turn s.ready.length) ms m S L c kid inner o ∧
      L.after = s.run (.get p kid :: .turn s.ready.length :: ms ++ [m]) := by
  obtain ⟨S, hS, -, hstarts⟩ := exists_starts hp hmiss
  obtain ⟨L, hL, hlands⟩ := Option.bind_eq_some_iff.1 hlands
  have hafter := apply_of_turn? hS
  simp only [run_cons, run_nil, hafter] at hunderWay hL hlive
  refine ⟨S, L, ⟨hS, hstarts, hunderWay, hL, hlands, hlive⟩, ?_⟩
  rw [List.cons_append, List.cons_append, run_cons, run_cons, hafter, run_concat,
    apply_of_turn? hL]

/-- A source that breaks down once. -/
def breaksOnce : List Source := [{ behaviour := .scripted [.panic "down", .key []] }]

/-- A cache is put in front of it. -/
def shield : Move :=
  .build (.source 0) ⟨none, some ⟨1, Duration.ofSeconds 1, Nat.one_pos, Duration.second_pos⟩⟩

/-- Two calls share the fetch that breaks down; a third one, which begins before they have taken note
of that, starts a fetch that brings the key. -/
theorem failure_traceless_secondTry :
    ∃ S L, ((blank breaksOnce .unreachable).run [shield, .get 0 "a"]).Traceless
        [.get 0 "a", .turn 1] (.turn 0) S L 0 "a" (.source 0) (.panic "down 0") ∧
      ∃ j cache, (L.after.run [.get 0 "a", .turn 2, .turn 2]).caches[0]? = some cache ∧
        cache.store.get? "a" = some ⟨j, 0⟩ := by
  obtain ⟨S, L, hfetched, hL⟩ : ∃ S L,
      (((blank breaksOnce .unreachable).run [shield]).apply (.get 0 "a")).Fetched (.turn 0)
        [.get 0 "a", .turn 1] (.turn 0) S L 0 "a" (.source 0) (.panic "down 0") ∧
        L.after = ((blank breaksOnce .unreachable).run [shield]).run
          [.get 0 "a", .turn 0, .get 0 "a", .turn 1, .turn 0] := by
    refine exists_fetched (p := 0) (s := (blank breaksOnce .unreachable).run [shield]) rfl
      ⟨_, rfl, rfl, nofun⟩ ?_ ?_ ?_
    · decide +kernel
    · decide +kernel
    · decide +kernel
  have htraceless := failure_traceless breaksOnce .unreachable [shield, .get 0 "a"] (.turn 0)
    [.get 0 "a", .turn 1] (.turn 0) S L 0 "a" (.source 0) (.panic "down 0") hfetched rfl
  refine ⟨S, L, htraceless, ?_⟩
  have hp : L.after.provider? 0 = some (.cached (.source 0) 0) := by
    rw [hL]
    rfl
  have hlen : L.after.ready.length = 2 := by
    rw [hL]
    rfl
  obtain ⟨T, hT, -, hstarts, hsucceeds⟩ := htraceless.anew 0 hp
  rw [hlen] at hT hsucceeds
  have hT' := apply_of_turn? hT
  obtain ⟨N, hN⟩ : ∃ N, (L.after.run [.get 0 "a", .turn 2]).turn? (.turn 2) = some N := by
    rw [hL]
    exact ⟨_, rfl⟩
  have hkey : (((L.after.run [.get 0 "a", .turn 2]).turn? (.turn 2)).bind fun X =>
      (X.lands 0 "a").bind Outcome.key?).isSome = true := by
    rw [hL]
    decide +kernel
  have hend : (L.after.run [.get 0 "a", .turn 2]).holds 0 = true ∧
      (L.after.run [.get 0 "a", .turn 2, .turn 2]).now = 0 := by
    rw [hL]
    decide +kernel
  rw [hN, Option.bind_some] at hkey
  obtain ⟨j, hj⟩ := Option.isSome_iff_exists.1 hkey
  obtain ⟨o, hlands, ho⟩ := Option.bind_eq_some_iff.1 hj
  have hsuccess : o = .key j := by
    cases o with
    | key j' => rw [Option.some.inj ho]
    | error e | panic text => cases ho
  simp only [run_cons, run_nil, hT'] at hN hend ⊢
  obtain ⟨cache, hcache, hget⟩ := (hsucceeds [] (.turn 2) N j
    ⟨hT, hstarts, fun X hX => absurd hX List.not_mem_nil, hN, hsuccess ▸ hlands, hend.1⟩).1
  have hafter : T.after.apply (.turn 2) = N.after := apply_of_turn? hN
  rw [hafter] at hend ⊢
  exact ⟨j, cache, hcache, hend.2 ▸ hget⟩

end State

end SigningKeys
