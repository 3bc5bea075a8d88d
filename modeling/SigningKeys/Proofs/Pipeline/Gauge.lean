import SigningKeys.Proofs.Pipeline.Books
import SigningKeys.Proofs.Run.Cascades

/-!
# The gauge

All caches share one gauge. It is told whenever the number of keys in a cache changes, and a cache
that is not told of does not change.

* `State.Gauged`: the gauge shows what one of the caches stores;
* `Gauged.call`, `Gauged.finish`, `Gauged.apply`: calls, ends of tasks and moves keep it so;
* **`gauged_run`**: it is so in every run.
-/

namespace SigningKeys

namespace State

/-- How many keys each cache stores. -/
def sizes (s : State) : List Nat := s.caches.map Cache.size

/-- **The gauge shows how many keys one of the caches stores**, or was told nothing yet because no
cache ever stored a key. -/
structure Gauged (s : State) : Prop where
  told : ∀ n, s.meter.entries = some n → n ∈ s.sizes
  untold : s.meter.entries = none → ∀ n ∈ s.sizes, n = 0

variable {s t : State} {c : Nat} {cache d : Cache}

/-- There may be new caches, which store nothing. -/
theorem Gauged.of_append {l : List Nat} (h : s.Gauged) (hsizes : t.sizes = s.sizes ++ l)
    (hzero : ∀ n ∈ l, n = 0) (hentries : t.meter.entries = s.meter.entries) : t.Gauged := by
  constructor
  case told =>
    intro n hn
    rw [hsizes]
    exact List.mem_append_left _ (h.told n (hentries ▸ hn))
  case untold =>
    intro hnone n hn
    rw [hsizes] at hn
    rcases List.mem_append.1 hn with hn | hn
    · exact h.untold (hentries ▸ hnone) n hn
    · exact hzero n hn

theorem Gauged.of_eq (h : s.Gauged) (hsizes : t.sizes = s.sizes)
    (hentries : t.meter.entries = s.meter.entries) : t.Gauged :=
  h.of_append (by rw [hsizes, List.append_nil]) (fun _ hn => absurd hn List.not_mem_nil) hentries

/-- A cache has just told how many keys it stores. -/
theorem Gauged.of_told (hc : t.caches[c]? = some cache)
    (hentries : t.meter.entries = some cache.size) : t.Gauged := by
  constructor
  case told =>
    intro n hn
    rw [hentries] at hn
    rw [← Option.some.inj hn]
    exact List.mem_map_of_mem (List.mem_of_getElem? hc)
  case untold => exact fun hnone => absurd (hentries.symm.trans hnone) (Option.some_ne_none _)

theorem sizes_setCache (hc : s.caches[c]? = some cache) (hsize : d.size = cache.size) :
    (s.setCache c d).sizes = s.sizes := by
  obtain ⟨hlt, rfl⟩ := List.getElem?_eq_some_iff.1 hc
  have hc' : c < s.sizes.length := by rwa [sizes, List.length_map]
  have hget : s.sizes[c] = d.size := (List.getElem_map Cache.size).trans hsize.symm
  rw [sizes, setCache, List.map_set, ← hget]
  exact List.set_getElem_self hc'

/-! ## Calls -/

/-- A call that waits for a cache changes neither what is stored nor the gauge. -/
theorem await_caches (s : State) (kid : String) (inner : Provider) (c : Nat) (cache : Cache) :
    ∃ d : Cache, d.size = cache.size ∧
      (s.await kid inner c cache).2.caches = s.caches.set c d ∧
      (s.await kid inner c cache).2.meter.entries = s.meter.entries := by
  rw [await]
  cases hf : cache.flight? kid with
  | none =>
    rw [Cache.board?, hf]
    exact ⟨cache.depart kid, rfl, rfl, rfl⟩
  | some f =>
    rw [Cache.board?, hf]
    exact ⟨cache.withFlight f.board.2, rfl, rfl, rfl⟩

theorem Gauged.await (h : s.Gauged) (hc : s.caches[c]? = some cache) (kid : String)
    (inner : Provider) : (s.await kid inner c cache).2.Gauged := by
  obtain ⟨d, hsize, hcaches, hentries⟩ := await_caches s kid inner c cache
  refine h.of_eq ?_ hentries
  rw [sizes, hcaches]
  exact sizes_setCache hc hsize

/-- A cache that drops a key tells so. -/
theorem gauged_await_swept (hc : s.caches[c]? = some d) (kid : String) (inner : Provider) :
    (((s.record (.lookup .expired)).gauge cache.size).await kid inner c cache).2.Gauged := by
  obtain ⟨e, hsize, hcaches, hentries⟩ :=
    await_caches ((s.record (.lookup .expired)).gauge cache.size) kid inner c cache
  have hlt : c < s.caches.length := (List.getElem?_eq_some_iff.1 hc).1
  refine Gauged.of_told (c := c) ?_ (hentries.trans (congrArg some hsize.symm))
  rw [hcaches]
  exact List.getElem?_set_self hlt

/-- **A call keeps the gauge right.** -/
theorem Gauged.call (h : s.Gauged) (kid : String) (p : Provider) :
    (State.call kid p s).2.Gauged := by
  induction p generalizing s with
  | source i =>
    rw [State.call, callSource]
    split
    · exact h
    · dsimp only
      split <;> exact h.of_eq rfl rfl
  | remote r => exact h
  | limited inner b ih =>
    rw [State.call]
    split
    · exact h
    · dsimp only
      split
      · exact ih (h.of_eq rfl rfl)
      all_goals exact h.of_eq rfl rfl
  | cached inner c =>
    cases hc : s.caches[c]? with
    | none =>
      rw [State.call, hc]
      exact h
    | some cache =>
      cases hf : cache.fresh? s.now kid with
      | some j =>
        rw [call_cached_of_fresh hc hf]
        exact h.of_eq rfl rfl
      | none =>
        obtain ⟨hlookup, -⟩ | hlookup := Cache.lookup_of_stale hf
        · rw [call_cached_of_absent inner hc hlookup]
          exact h.await hc kid inner
        · rw [call_cached_of_expired inner hc hlookup]
          exact gauged_await_swept hc kid inner

/-! ## Moves and runs -/

/-- The end of a fetch over the network keeps the gauge right. -/
theorem Gauged.receive (h : s.Gauged) (x : Exchange) : (s.receive x).2.Gauged := by
  have hmeter : (s.receive x).2.meter = s.meter.recordFetch _ := s.meter_noteFetch _
  refine h.of_eq ?_ ?_
  · rw [sizes, sizes, (s.quiet_receive x).caches]
  · rw [hmeter]
    rfl

/-- **The end of a task keeps the gauge right.** -/
theorem Gauged.finish (h : s.Gauged) (x : Task) (o : Outcome) : (s.finish x o).Gauged := by
  cases hstores : storesIn? (x, o) with
  | none =>
    refine h.of_eq (List.ext_getElem? fun c => ?_) (size_finish hstores 0).2
    rw [sizes, sizes, List.getElem?_map, List.getElem?_map]
    exact (size_finish hstores c).1
  | some c =>
    obtain ⟨hrole, -⟩ := storesIn?_eq_some.1 hstores
    cases hlive : s.holds c with
    | false =>
      rw [finish_lost o hrole hlive]
      exact h
    | true =>
      have hcaches := caches_finish s x o c
      rw [if_pos ⟨hrole, hlive⟩] at hcaches
      cases hc : s.caches[c]? with
      | some cache =>
        have hentries := entries_finish hstores hlive hc
        rw [hc] at hcaches
        rw [hcaches] at hentries
        exact .of_told hcaches hentries
      | none =>
        have hrole' : x.role = .fetch c := hrole
        rw [State.finish, hrole']
        dsimp only
        rw [if_pos hlive, store, hc, land, hc]
        exact h.of_eq rfl rfl

theorem Gauged.turn {T : Turn} (h : T.before.Gauged) : T.after.Gauged := by
  rw [Turn.after]
  cases T.stage with
  | calling =>
    have hcall := h.call T.task.kid T.task.provider
    rw [advanceTask]
    generalize State.call T.task.kid T.task.provider T.before = called at hcall ⊢
    obtain ⟨reach, t⟩ := called
    cases reach with
    | ended o => exact hcall.finish T.task o
    | waits spot | fetches x => exact hcall.of_eq rfl rfl
  | admitted i n =>
    rw [advanceTask]
    split
    · exact h.finish T.task _
    · exact h
  | fetching x => exact (h.receive x).finish T.task _
  | told result =>
    rw [advanceTask]
    exact h.finish T.task _

/-- **A move keeps the gauge right.** -/
theorem Gauged.apply (h : s.Gauged) (m : Move) : (s.apply m).Gauged := by
  cases hT : s.turn? m with
  | some T =>
    obtain ⟨i, -, hbefore⟩ := turn?_eq_some hT
    have hgauged : T.before.Gauged := by
      rw [hbefore]
      exact h.of_eq rfl rfl
    rw [apply_of_turn? hT]
    exact hgauged.turn
  | none =>
    obtain ⟨cs, hcores, hnew⟩ := (still_apply hT).caches
    refine h.of_append (l := cs.map Cache.size) ?_ ?_ ?_
    · have hsizes := congrArg (List.map fun core => core.2.1.size) hcores
      simp only [List.map_map, List.map_append] at hsizes
      exact hsizes
    · intro n hn
      obtain ⟨cache, hcache, rfl⟩ := List.mem_map.1 hn
      rw [Cache.size, (hnew cache hcache).1]
      rfl
    · obtain ⟨-, hmeter⟩ | ⟨x, error, -, hmeter⟩ := meter_still hT
      · rw [hmeter]
      · rw [hmeter]
        rfl

theorem Gauged.run (h : s.Gauged) (ms : List Move) : (s.run ms).Gauged := by
  induction ms generalizing s with
  | nil => exact h
  | cons m ms ih => exact ih (h.apply m)

/-- **The gauge shows how many keys a cache stores**, in every run. -/
theorem gauged_run (sources : List Source) (network : Network) (ms : List Move) :
    ((blank sources network).run ms).Gauged := by
  have hblank : (blank sources network).Gauged := ⟨nofun, fun _ _ hn => absurd hn List.not_mem_nil⟩
  exact hblank.run ms

end State

end SigningKeys
