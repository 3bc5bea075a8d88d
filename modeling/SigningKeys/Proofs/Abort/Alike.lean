import SigningKeys.Proofs.Run.Views

/-!
# States that differ by calls that were given up

Two runs of which one gives up some calls go through states that are alike: they have the same
sources and buckets, and caches in reach that look the same to those who use them; and the same
tasks, but for the calls that were given up in one of them and wait in vain in the other.

* `Cache.Same`: caches that differ in the places of waiting calls only;
* `State.Unforked`: no two caches stand in front of the same one;
* `State.Alike`: the relation;
* `Alike.of_company`, `Alike.setCache`, `Alike.park` and others: what keeps it;
* **`Alike.cascade`**: cascades of states that are alike lead to states that are alike.
-/

namespace SigningKeys

/-- Caches that differ in the places of waiting calls only. -/
structure Cache.Same (d' d : Cache) : Prop where
  limits : d'.limits = d.limits
  store : d'.store = d.store
  kids : ∀ kid, kid ∈ d'.kids ↔ kid ∈ d.kids

namespace Cache.Same

variable {d' d : Cache}

theorem refl (d : Cache) : d.Same d := ⟨rfl, rfl, fun _ => Iff.rfl⟩

theorem of_core (h' : d'.core = d.core) : d'.Same d := by
  simp only [Cache.core, Prod.mk.injEq] at h'
  exact ⟨h'.1, h'.2.1, fun kid => by rw [h'.2.2]⟩

theorem trans {e : Cache} (h : d'.Same d) (h' : d.Same e) : d'.Same e :=
  ⟨h.limits.trans h'.limits, h.store.trans h'.store, fun kid => (h.kids kid).trans (h'.kids kid)⟩

theorem keep (h : d'.Same d) (now : Instant) (kid : String) (o : Outcome) :
    (d'.keep now kid o).Same (d.keep now kid o) := by
  unfold Cache.keep
  split
  · refine ⟨h.limits, ?_, h.kids⟩
    rw [Cache.insert, Cache.insert, h.limits, h.store]
  · exact h

theorem land (h : d'.Same d) (kid : String) : (d'.land kid).Same (d.land kid) := by
  refine ⟨h.limits, h.store, fun k => ?_⟩
  rw [Cache.kids_land, Cache.kids_land, List.mem_filter, List.mem_filter, h.kids]

theorem depart (h : d'.Same d) (kid : String) : (d'.depart kid).Same (d.depart kid) := by
  refine ⟨h.limits, h.store, fun k => ?_⟩
  rw [Cache.kids_depart, Cache.kids_depart, List.mem_cons, List.mem_cons, h.kids]

theorem withFlight (h : d'.Same d) (f' f : Flight) : (d'.withFlight f').Same (d.withFlight f) := by
  refine ⟨h.limits, h.store, fun k => ?_⟩
  rw [Cache.kids_withFlight, Cache.kids_withFlight, h.kids]

/-- Looks find the same in both. -/
theorem lookup (h : d'.Same d) (now : Instant) (kid : String) :
    (d'.lookup now kid).1 = (d.lookup now kid).1 ∧
      (d'.lookup now kid).2.Same (d.lookup now kid).2 := by
  unfold Cache.lookup
  dsimp only
  rw [h.limits, h.store]
  exact ⟨rfl, rfl, rfl, h.kids⟩

theorem upon (h : d'.Same d) (c : Nat) (now : Instant) (P : List (Task × Outcome)) :
    (P.foldl (Cache.upon c now) d').Same (P.foldl (Cache.upon c now) d) := by
  induction P generalizing d' d with
  | nil => exact h
  | cons e P ih =>
    refine ih ?_
    unfold Cache.upon
    split
    · exact (h.keep now e.1.kid e.2).land e.1.kid
    · exact h

end Cache.Same

namespace Provider

/-- Whether a provider reaches a cache first, behind its limiters. -/
def fronts (c : Nat) : Provider → Bool
  | .source _ | .remote _ => false
  | .limited inner _ => inner.fronts c
  | .cached _ d => d == c

/-- Whether a cache stands directly in front of another one: with nothing but limiters in between. -/
def feeds (c d : Nat) : Provider → Bool
  | .source _ | .remote _ => false
  | .limited inner _ => inner.feeds c d
  | .cached inner e => (e == d && inner.fronts c) || inner.feeds c d

theorem fronts_iff {p : Provider} {c : Nat} :
    p.fronts c = true ↔ ∃ inner, p.core = .cached inner c := by
  induction p with
  | source i | remote r => simp [fronts, core]
  | limited inner b ih => exact ih
  | cached inner d => simp [fronts]

variable {a b c d : Nat} {behind : List Provider} {p q inner : Provider}

theorem Fits.feeds_iff (h : p.Fits a b behind) : p.feeds c d = true ↔
    p.uses d = true ∧ ∃ q inner, behind[d]? = some q ∧ q.core = .cached inner c := by
  induction p with
  | source i | remote r => simp [feeds, uses]
  | limited p' b' ih => exact ih h.2
  | cached p' e ih =>
    rw [feeds, uses, Bool.or_eq_true, Bool.or_eq_true, Bool.and_eq_true, ih h.2, fronts_iff]
    constructor
    · rintro (⟨he, inner, hinner⟩ | ⟨hu, hq⟩)
      · exact ⟨.inl he, p', inner, eq_of_beq he ▸ h.1, hinner⟩
      · exact ⟨.inr hu, hq⟩
    · rintro ⟨he | hu, q, inner, hq, hinner⟩
      · rw [← eq_of_beq he, h.1] at hq
        exact .inl ⟨he, inner, Option.some.inj hq ▸ hinner⟩
      · exact .inr ⟨hu, q, inner, hq, hinner⟩

end Provider

namespace Spot

/-- Whether a spot is at the gate of a source. -/
def isGate : Spot → Bool
  | .gate _ _ => true
  | .flight _ _ => false

/-- Spots that differ in the place of a flight only. -/
inductive Alike : Spot → Spot → Prop where
  | gate (i n : Nat) : Alike (.gate i n) (.gate i n)
  | flight (c place' place : Nat) : Alike (.flight c place') (.flight c place)

end Spot

namespace State

/-- **No two caches stand directly in front of the same one.** -/
def Unforked (s : State) : Prop :=
  ∀ p q, some p ∈ s.held → some q ∈ s.held →
    ∀ c d e, p.feeds c d = true → q.feeds c e = true → d = e

variable {s s' t t' : State} {behind behind' : List Provider} {hand : List Task} {X : List Nat}
  {c : Nat} {x : Task}

/-- Then all caches are a view, if all of them are used by what is held. -/
theorem Wired.view (hw : s.Wired behind hand) (hall : s.AllHeld) (hu : s.Unforked) :
    Provider.View behind fun _ => true := by
  refine ⟨fun _ _ _ _ _ _ _ => rfl, fun d e c p q inner inner' _ _ hp hq hcp hcq => ?_⟩
  have hheld : ∀ {d : Nat} {p inner : Provider}, behind[d]? = some p → p.core = .cached inner c →
      ∃ r, some r ∈ s.held ∧ r.feeds c d = true := by
    intro d p inner hp hcp
    obtain ⟨r, hr, hrd⟩ := hall d (hw.caches ▸ (List.getElem?_eq_some_iff.1 hp).1)
    exact ⟨r, hr, (hw.provider r (.inl hr)).feeds_iff.2 ⟨hrd, p, inner, hp, hcp⟩⟩
  obtain ⟨r, hr, hrd⟩ := hheld hp hcp
  obtain ⟨r', hr', hrd'⟩ := hheld hq hcq
  exact hu r r' hr hr' c d e hrd hrd'

theorem Wired.unforked (hw : s.Wired behind hand) (hV : Provider.View behind fun _ => true) :
    s.Unforked := by
  intro p q hp hq c d e hpd hqe
  obtain ⟨-, p', inner, hd, hcp⟩ := (hw.provider p (.inl hp)).feeds_iff.1 hpd
  obtain ⟨-, q', inner', he, hcq⟩ := (hw.provider q (.inl hq)).feeds_iff.1 hqe
  exact hV.narrow d e c p' q' inner inner' rfl rfl hd he hcp hcq

/-- The tasks that are parked at gates. -/
def gated (s : State) : List (Task × Spot) := s.parked.filter fun e => e.2.isGate

/-- What a cascade changes, and what keeps caches in reach. -/
def company (s : State) : List Cache × List (Task × Stage) × List (Task × Spot) ×
    List (Nat × Outcome) × Option Nat × List (Option Provider) :=
  (s.caches, s.ready, s.parked, s.ended, s.meter.entries, s.held)

/-- **States that are alike**, but for the calls with some numbers, which were given up in the first
one. -/
structure Alike (X : List Nat) (hand : List Task) (s' s : State) : Prop where
  ground : s'.ground = s.ground
  ready : s'.ready = s.ready
  limits : s'.caches.map Cache.limits = s.caches.map Cache.limits
  /-- A cache may be out of reach only because calls were given up. -/
  caches : ∀ c, s'.reaches hand c → ∀ d', s'.caches[c]? = some d' →
    ∃ d, s.caches[c]? = some d ∧ d'.Same d
  gated : s'.gated = s.gated
  awaits : ∀ w c, s'.awaits w c ↔ s.awaits w c ∧ w.spared X
  ended : ∀ id ∉ X, ∀ o, (id, o) ∈ s'.ended ↔ (id, o) ∈ s.ended
  gauge : s.AllHeld → s'.meter.entries.isSome = s.meter.entries.isSome ∧
    (s.Unforked → s'.meter.entries = s.meter.entries)
  /-- The calls that were given up had begun. -/
  past : ∀ id ∈ X, id < s.started

theorem mem_gated {e : Task × Spot} : e ∈ s.gated ↔ e ∈ s.parked ∧ e.2.isGate = true :=
  List.mem_filter

theorem crew_subset (hready : s'.ready = s.ready) (hgated : s'.gated = s.gated)
    (hawaits : ∀ w c, s'.awaits w c → s.awaits w c) : ∀ y ∈ s'.crew hand, y ∈ s.crew hand := by
  refine fun y hy => List.mem_append.2 ((List.mem_append.1 hy).imp_right fun hy => ?_)
  rw [State.tasks, hready] at hy
  refine List.mem_append.2 ((List.mem_append.1 hy).imp_right fun hy => ?_)
  obtain ⟨⟨w, spot⟩, he, rfl⟩ := List.mem_map.1 hy
  cases spot with
  | gate i n =>
    have hmem := mem_gated.2 ⟨he, rfl⟩
    rw [hgated] at hmem
    exact List.mem_map_of_mem (mem_gated.1 hmem).1
  | flight c place =>
    obtain ⟨place', he'⟩ := hawaits w c ⟨place, he⟩
    exact List.mem_map.2 ⟨_, he', rfl⟩

namespace Alike

theorem refl (s : State) : Alike [] hand s s where
  ground := rfl
  ready := rfl
  limits := rfl
  caches _ _ d' hd := ⟨d', hd, .refl d'⟩
  gated := rfl
  awaits _ _ := (and_iff_left fun _ h => absurd h List.not_mem_nil).symm
  ended _ _ _ := Iff.rfl
  gauge _ := ⟨rfl, fun _ => rfl⟩
  past _ h := absurd h List.not_mem_nil

theorem sources (h : Alike X hand s' s) : s'.sources = s.sources := sources_of_ground h.ground

theorem now (h : Alike X hand s' s) : s'.now = s.now := now_of_ground h.ground

theorem held (h : Alike X hand s' s) : s'.held = s.held := held_of_ground h.ground

theorem buckets (h : Alike X hand s' s) : s'.buckets = s.buckets := by
  have hsame := congrArg State.buckets h.ground
  exact hsame

theorem started (h : Alike X hand s' s) : s'.started = s.started := started_of_ground h.ground

theorem events (h : Alike X hand s' s) : s'.meter.events = s.meter.events := by
  have hsame := congrArg (fun t : State => t.meter.events) h.ground
  exact hsame

theorem length (h : Alike X hand s' s) : s'.caches.length = s.caches.length := by
  simpa using congrArg List.length h.limits

/-- The calls that were given up are all that is missing. -/
theorem crew (h : Alike X hand s' s) : ∀ y ∈ s'.crew hand, y ∈ s.crew hand :=
  crew_subset h.ready h.gated fun w c hwc => ((h.awaits w c).1 hwc).1

theorem allHeld (h : Alike X hand s' s) (hall : s.AllHeld) : s'.AllHeld := by
  intro c hc
  rw [h.held]
  exact hall c (h.length ▸ hc)

theorem lacks (h : Alike X hand s' s) : Lacks X s' s := h.awaits

/-- What changes nothing but what cascades leave alone. -/
theorem of_company (h : Alike X hand s' s) (hg : t'.ground = t.ground)
    (hc' : t'.company = s'.company) (hc : t.company = s.company) (hs : s.started ≤ t.started) :
    Alike X hand t' t := by
  obtain ⟨now', sources', buckets', caches', held', ready', parked', started', ended',
    ⟨events', entries'⟩, network', requests', delay', reads'⟩ := t'
  obtain ⟨now, sources, buckets, caches, held, ready, parked, started, ended,
    ⟨events, entries⟩, network, requests, delay, reads⟩ := t
  simp only [company, Prod.mk.injEq] at hc hc'
  obtain ⟨rfl, rfl, rfl, rfl, rfl, rfl⟩ := hc'
  obtain ⟨rfl, rfl, rfl, rfl, rfl, rfl⟩ := hc
  exact ⟨hg, h.ready, h.limits, h.caches, h.gated, h.awaits, h.ended, h.gauge,
    fun id hid => Nat.lt_of_lt_of_le (h.past id hid) hs⟩

theorem setCache {d' d : Cache} (h : Alike X hand s' s) (hsame : d'.Same d) :
    Alike X hand (s'.setCache c d') (s.setCache c d) where
  ground := h.ground
  ready := h.ready
  limits := by
    show (s'.caches.set c d').map _ = (s.caches.set c d).map _
    rw [List.map_set, List.map_set, h.limits, hsame.limits]
  caches := by
    intro e he f' hf'
    have hlen := h.length
    have hf : (s'.caches.set c d')[e]? = some f' := hf'
    show ∃ f, (s.caches.set c d)[e]? = some f ∧ f'.Same f
    rw [List.getElem?_set] at hf ⊢
    rw [← hlen]
    split
    · rename_i hce
      rw [if_pos hce] at hf
      split at hf
      · rename_i hlt
        rw [if_pos hlt, ← Option.some.inj hf]
        exact ⟨d, rfl, hsame⟩
      · cases hf
    · rename_i hce
      rw [if_neg hce] at hf
      exact h.caches e he f' hf
  gated := h.gated
  awaits := h.awaits
  ended := h.ended
  gauge := by
    intro hall
    refine h.gauge fun e he => hall e ?_
    exact Nat.lt_of_lt_of_eq he List.length_set.symm
  past := h.past

theorem setGauge (h : Alike X hand s' s) (n : Nat) : Alike X hand (s'.gauge n) (s.gauge n) :=
  ⟨h.ground, h.ready, h.limits, h.caches, h.gated, h.awaits, h.ended,
    fun _ => ⟨rfl, fun _ => rfl⟩, h.past⟩

theorem record (h : Alike X hand s' s) (e : Metric) : Alike X hand (s'.record e) (s.record e) :=
  h.of_company (congrArg (fun g : State => g.record e) h.ground) rfl rfl (Nat.le_refl _)

/-- A task that becomes ready, if it brings no cache into reach. -/
theorem enqueue (h : Alike X hand s' s) (y : Task) (stage : Stage)
    (hy : ∀ c, y.provider.uses c = true → s'.reaches hand c) :
    Alike X hand (s'.enqueue y stage) (s.enqueue y stage) where
  ground := h.ground
  ready := congrArg (· ++ [(y, stage)]) h.ready
  limits := h.limits
  caches := by
    rintro c ⟨p, hp | ⟨z, hz, rfl⟩, hu⟩
    · exact h.caches c ⟨p, .inl hp, hu⟩
    · rcases List.mem_cons.1 ((crew_enqueue s' hand y stage).mem_iff.1 hz) with rfl | hz
      · exact h.caches c (hy c hu)
      · exact h.caches c ⟨_, .inr ⟨z, hz, rfl⟩, hu⟩
  gated := h.gated
  awaits := h.awaits
  ended := h.ended
  gauge := h.gauge
  past := h.past

/-- A task that is parked. -/
theorem park {a b : Spot} (h : Alike X [x] s' s) (hx : x.spared X) (hab : a.Alike b) :
    Alike X [] (s'.park x a) (s.park x b) where
  ground := h.ground
  ready := h.ready
  limits := h.limits
  caches c hc := h.caches c (hc.mono (fun _ => id) fun _ hy => (perm_park s' x a).mem_iff.1 hy)
  gated := by
    have hpark : ∀ (u : State) (spot : Spot),
        (u.park x spot).gated = u.gated ++ [(x, spot)].filter fun e => e.2.isGate :=
      fun u spot => List.filter_append _ _
    rw [hpark, hpark, h.gated]
    cases hab <;> rfl
  awaits := by
    have hpark : ∀ (u : State) (spot : Spot) (w : Task) (c : Nat),
        (u.park x spot).awaits w c ↔ u.awaits w c ∨ w = x ∧ ∃ place, spot = .flight c place := by
      intro u spot w c
      unfold State.awaits
      simp only [State.park, List.mem_append, List.mem_singleton, Prod.mk.injEq, exists_or]
      refine or_congr_right ⟨?_, ?_⟩
      · rintro ⟨place, rfl, rfl⟩
        exact ⟨rfl, place, rfl⟩
      · rintro ⟨rfl, place, rfl⟩
        exact ⟨place, rfl, rfl⟩
    have hspot : ∀ c, (∃ place, a = .flight c place) ↔ ∃ place, b = .flight c place := by
      intro c
      cases hab with
      | gate i n => rfl
      | flight d place' place =>
        constructor
        · rintro ⟨_, ⟨⟩⟩
          exact ⟨place, rfl⟩
        · rintro ⟨_, ⟨⟩⟩
          exact ⟨place', rfl⟩
    intro w c
    rw [hpark, hpark, h.awaits, hspot, or_and_right]
    refine or_congr_right (and_iff_left_of_imp ?_).symm
    rintro ⟨rfl, -⟩
    exact hx
  ended := h.ended
  gauge := h.gauge
  past := h.past

/-! ## Cascades -/

variable {Q P' P : List (Task × Outcome)}

theorem gated_of_cascade (h : Cascade hand s Q P [] t) : t.gated = s.gated := by
  unfold State.gated
  rw [h.parked, List.filter_filter]
  refine List.filter_congr fun e _ => ?_
  obtain ⟨w, spot⟩ := e
  cases spot with
  | flight c place => rfl
  | gate i n =>
    have hnone : (P.any fun p => p.1.frees (w, .gate i n)) = false := by
      rw [List.any_eq_false]
      intro p _ hp
      obtain ⟨c, place, -, -, hs⟩ := frees_iff.1 hp
      cases hs
    rw [hnone]
    rfl

/-- Who still waits after a cascade: those whose fetch has not ended in it. -/
theorem awaits_of_cascade (h : Cascade hand s Q P [] t) (w : Task) (c : Nat) :
    t.awaits w c ↔ s.awaits w c ∧ ∀ e ∈ P, e.1.role = .fetch c → e.1.kid ≠ w.kid := by
  have hfrees : ∀ place, (P.any fun p => p.1.frees (w, .flight c place)) = true ↔
      ∃ e ∈ P, e.1.role = .fetch c ∧ e.1.kid = w.kid := by
    intro place
    rw [List.any_eq_true]
    refine exists_congr fun e => and_congr_right fun _ => ?_
    rw [frees_iff]
    constructor
    · rintro ⟨d, place', hd, hk, hs⟩
      cases hs
      exact ⟨hd, hk.symm⟩
    · rintro ⟨hd, hk⟩
      exact ⟨c, place, hd, hk.symm, rfl⟩
  unfold State.awaits
  simp only [h.parked, List.mem_filter, Bool.not_eq_true', ← Bool.not_eq_true, hfrees]
  rw [exists_and_right]
  refine and_congr_right fun _ => ?_
  exact ⟨fun hnone e he hc hk => hnone ⟨e, he, hc, hk⟩,
    fun hnone ⟨e, he, hc, hk⟩ => hnone e he hc hk⟩

theorem mem_ended_of_cascade (h : Cascade hand s Q P [] t) (id : Nat) (o : Outcome) :
    (id, o) ∈ t.ended ↔ (id, o) ∈ s.ended ∨ ∃ e ∈ P, e.1.role = .caller id ∧ e.2 = o := by
  rw [h.ended, List.mem_append, List.mem_filterMap]
  refine or_congr_right (exists_congr fun e => and_congr_right fun _ => ?_)
  unfold callEnd?
  cases e.1.role with
  | fetch c => simp
  | caller id' => simp

theorem allHeld_of_cascade (h : Cascade hand s Q P [] t) : t.AllHeld ↔ s.AllHeld := by
  unfold State.AllHeld
  rw [h.length, held_of_ground h.ground]

theorem unforked_of_cascade (h : Cascade hand s Q P [] t) : t.Unforked ↔ s.Unforked := by
  unfold State.Unforked
  rw [held_of_ground h.ground]

/-- Of all that has ended in a cascade, only fetches store keys. -/
theorem filterMap_storesIn (P : List (Task × Outcome)) :
    P.filterMap storesIn? = (P.filter (·.1.fetchesIn fun _ => true)).filterMap storesIn? := by
  rw [List.filterMap_filter]
  refine List.filterMap_congr fun e _ => ?_
  unfold storesIn? Task.fetchesIn
  cases e.1.role <;> rfl

/-- What the gauge says after two cascades: in both of them something or nothing at all, and the
same if no two caches stand in front of the same one. -/
theorem gauge_of_cascades (h : Alike X hand s' s) (hboth : Cascades X hand behind s' s Q P' P)
    (ht' : Cascade hand s' Q P' [] t') (ht : Cascade hand s Q P [] t)
    (hcaches : ∀ c, t'.reaches [] c → ∀ d', t'.caches[c]? = some d' →
      ∃ d, t.caches[c]? = some d ∧ d'.Same d) (hall : t.AllHeld) :
    t'.meter.entries.isSome = t.meter.entries.isSome ∧
      (t.Unforked → t'.meter.entries = t.meter.entries) := by
  have hs : s.AllHeld := (allHeld_of_cascade ht).1 hall
  have hs' : s'.AllHeld := h.allHeld hs
  have hmem : ∀ c, c ∈ P'.filterMap storesIn? ↔ c ∈ P.filterMap storesIn? := by
    intro c
    rw [List.mem_filterMap, List.mem_filterMap]
    refine exists_congr fun e => and_congr_left fun he => ?_
    exact hboth.mem_fetch_iff (storesIn?_eq_some.1 he).1
  have hcache : ∀ c ∈ P'.filterMap storesIn?, ∃ d' d, t'.caches[c]? = some d' ∧
      t.caches[c]? = some d ∧ d'.size = d.size := by
    intro c hc
    obtain ⟨e, he, hstores⟩ := List.mem_filterMap.1 ((hmem c).1 hc)
    have hlt : c < t'.caches.length := by
      rw [ht'.length, h.length]
      exact hboth.wired.lt_of_fetch (hboth.crew e he) (storesIn?_eq_some.1 hstores).1
    obtain ⟨p, hp, hu⟩ := (allHeld_of_cascade ht').2 hs' c hlt
    obtain ⟨d, hd, hsame⟩ := hcaches c ⟨p, .inl hp, hu⟩ _ (List.getElem?_eq_getElem hlt)
    exact ⟨_, d, List.getElem?_eq_getElem hlt, hd, congrArg KeyStore.size hsame.store⟩
  rw [ht'.gauge hs', ht.gauge hs]
  cases hl' : (P'.filterMap storesIn?).getLast? with
  | none =>
    have hnil : P.filterMap storesIn? = [] := by
      refine List.eq_nil_iff_forall_not_mem.2 fun c hc => ?_
      have hc' := (hmem c).2 hc
      rw [List.getLast?_eq_none_iff.1 hl'] at hc'
      exact List.not_mem_nil hc'
    rw [hnil]
    exact ⟨(h.gauge hs).1, fun hu => (h.gauge hs).2 ((unforked_of_cascade ht).1 hu)⟩
  | some c' =>
    have hc' := List.mem_of_getLast? hl'
    obtain ⟨d', d, hd', hd, hsize⟩ := hcache c' hc'
    cases hl : (P.filterMap storesIn?).getLast? with
    | none =>
      have hc := (hmem c').1 hc'
      rw [List.getLast?_eq_none_iff.1 hl] at hc
      exact absurd hc List.not_mem_nil
    | some c =>
      obtain ⟨e', e, -, he, -⟩ := hcache c ((hmem c).2 (List.mem_of_getLast? hl))
      dsimp only
      refine ⟨by rw [hd', he]; rfl, fun hu => ?_⟩
      -- all caches are one view, so their fetches end in the same order, and so do those that store
      have hview := hboth.wired.view hs ((unforked_of_cascade ht).1 hu)
      rw [filterMap_storesIn, hboth.filter_view hview, ← filterMap_storesIn, hl] at hl'
      rw [Option.some.inj hl', hd', hd]
      exact congrArg some hsize

/-- **Cascades of states that are alike** which begin with the same tasks lead to states that are
alike. -/
theorem cascade (h : Alike X hand s' s) (hw : s.Wired behind hand) (hd : (s.crew hand).Nodup)
    (hd' : (s'.crew hand).Nodup) (ht' : Cascade hand s' Q P' [] t') (ht : Cascade hand s Q P [] t)
    (hP' : P' = Q ++ P'.flatMap s'.tells) (hP : P = Q ++ P.flatMap s.tells) (hr' : t'.ready = [])
    (hr : t.ready = []) : Alike X [] t' t := by
  have hcrew : ∀ {u v : State} {L : List (Task × Outcome)}, Cascade hand u Q L [] v →
      ∀ e ∈ L, e.1 ∈ u.crew hand := fun hv e he =>
    hv.tasks.mem_iff.1 (List.mem_append_left _ (List.mem_map_of_mem he))
  have hboth : Cascades X hand behind s' s Q P' P :=
    ⟨hw, hd, hd', h.lacks, hP, hP', hcrew ht, fun e he => h.crew _ (hcrew ht' e he)⟩
  have hground : t'.ground = t.ground := ht'.ground.trans (h.ground.trans ht.ground.symm)
  have hawaits : ∀ w c, t'.awaits w c ↔ t.awaits w c ∧ w.spared X := by
    intro w c
    rw [awaits_of_cascade ht', awaits_of_cascade ht, h.awaits, and_right_comm]
    refine and_congr_left fun _ => and_congr_right fun _ => forall_congr' fun e => ?_
    refine ⟨fun hall he hc => hall ((hboth.mem_fetch_iff hc).2 he) hc,
      fun hall he hc => hall ((hboth.mem_fetch_iff hc).1 he) hc⟩
  have hgated : t'.gated = t.gated := by rw [gated_of_cascade ht', gated_of_cascade ht, h.gated]
  have hheld : t'.held = t.held := held_of_ground hground
  have hlimits : t'.caches.map Cache.limits = t.caches.map Cache.limits := by
    rw [ht'.limits, ht.limits, h.limits]
  -- a cache in reach without the calls that were given up is in reach with them
  have hcaches : ∀ c, t'.reaches [] c → ∀ d', t'.caches[c]? = some d' →
      ∃ d, t.caches[c]? = some d ∧ d'.Same d := by
    intro c hc d' hd'
    have hc' : s'.reaches hand c := hc.mono (fun _ hq => held_of_ground ht'.ground ▸ hq) fun y hy =>
      ht'.tasks.mem_iff.1 (List.mem_append_right _ hy)
    have hlive : t.reaches [] c := hc.mono (fun _ hq => hheld ▸ hq)
      (crew_subset (hr'.trans hr.symm) hgated fun w c hwc => ((hawaits w c).1 hwc).1)
    rw [ht'.caches c hc] at hd'
    obtain ⟨e', he', rfl⟩ := Option.map_eq_some_iff.1 hd'
    obtain ⟨e, he, hsame⟩ := h.caches c hc' e' he'
    refine ⟨_, (ht.caches c hlive).trans (congrArg _ he), ?_⟩
    rw [hboth.foldl_upon, h.now]
    exact hsame.upon c s.now P
  constructor
  case ground => exact hground
  case ready => exact hr'.trans hr.symm
  case limits => exact hlimits
  case caches => exact hcaches
  case gated => exact hgated
  case awaits => exact hawaits
  case ended =>
    intro id hid o
    rw [mem_ended_of_cascade ht', mem_ended_of_cascade ht, h.ended id hid]
    refine or_congr_right (exists_congr fun e => and_congr_left fun ⟨he, _⟩ => ?_)
    refine hboth.mem_iff fun id' hid' hr => hid ?_
    rw [he] at hr
    exact Role.caller.inj hr ▸ hid'
  case gauge => exact fun hall => gauge_of_cascades h hboth ht' ht hcaches hall
  case past => exact fun id hid => started_of_ground ht.ground ▸ h.past id hid

end Alike

end State

end SigningKeys
