import SigningKeys.Proofs.Run.Caches
import SigningKeys.Proofs.Run.Sound

/-!
# One fetch a key

As long as a cache can be reached, it makes at most one fetch of a key at a time, and knows it. All
calls that wait are attached to a fetch under way, are told how it ends, and a call that comes after
its end is answered from the store or starts a new fetch.

* `State.SingleFlight`: what holds between two moves;
* `State.Comes`: what becomes of a call that waits;
* `State.Anew`: what becomes of a call that comes later;
* **`single_flight`**: all of this, in every run.
-/

namespace SigningKeys

namespace State

/-- **Between two moves**: the fetches that a cache notes are the tasks that make them, and every
call that the cache let wait is attached to one of them. -/
structure SingleFlight (s : State) (c : Nat) (cache : Cache) : Prop where
  /-- A key is being fetched by one task if the cache notes the fetch, and by none if not. -/
  fetching : ∀ kid, s.fetching c kid = if (cache.flight? kid).isSome then 1 else 0
  /-- All fetches call the provider behind the cache. -/
  behind : ∃ inner, ∀ x ∈ s.tasks, (x.role = .fetch c → x.provider = inner) ∧
    ∀ p, x.provider.core = .cached p c → p = inner
  /-- What is being fetched is not stored. -/
  unstored : ∀ kid, (cache.flight? kid).isSome = true → cache.store.get? kid = none
  /-- A call of the cache that has begun, and was not told a result, waits for the fetch of its
  key. -/
  attached : ∀ x ∈ s.tasks, ∀ p, x.provider.core = .cached p c →
    (x, .calling) ∈ s.ready ∨ (∃ result, (x, .told result) ∈ s.ready) ∨
      ∃ place, (x, .flight c place) ∈ s.parked ∧ s.fetching c x.kid = 1

/-- What becomes in a run of a task that waits for the fetch of its key by a cache, given how the
fetch ends in the run: it waits on; or it is told how the fetch ended, and ends with that. -/
def Comes (s : State) (ms : List Move) (w : Task) (c place : Nat) : Option Outcome → Prop
  | none => (w, .flight c place) ∈ (s.run ms).parked
  | some o =>
    (w, .told o.share) ∈ (s.run ms).ready ∨
      (∃ T ∈ s.history ms, T.task = w ∧ T.stage = .told o.share) ∧
        ∀ id, w.role = .caller id → (s.run ms).outcome? id = some (.ofExcept o.share)

/-- A call of a cache that would begin now is answered from the store, or starts a fetch. -/
def Anew (s : State) (c : Nat) (kid : String) : Prop :=
  ∀ inner, (∃ j, (call kid (.cached inner c) s).1 = .ended (.key j)) ∨
    (call kid (.cached inner c) s).1 = .waits (.flight c 0) ∧
      (call kid (.cached inner c) s).2.ready =
        s.ready ++ [(⟨.fetch c, kid, inner⟩, .calling)]

/-! ## Between two moves -/

/-- The invariants, in the words of the cache. -/
theorem Sound.singleFlight {s : State} {behind : List Provider} {c : Nat} {cache : Cache}
    (h : s.Sound behind []) (hlive : s.holds c = true) (hc : s.caches[c]? = some cache) :
    s.SingleFlight c cache := by
  obtain ⟨hw, hf, -, -⟩ := h
  have hfetching : ∀ kid, s.fetching c kid = if (cache.flight? kid).isSome then 1 else 0 := by
    intro kid
    have hcount := hf.fetches c cache ((holds_iff s c).1 hlive) hc kid
    have hone := List.nodup_iff_count_le_one.1 (hf.apart c cache hc).once kid
    refine Eq.trans hcount ?_
    split
    · rename_i h
      have hpos := List.count_pos_iff.2 (Cache.flight?_isSome.1 h)
      omega
    · rename_i h
      exact List.count_eq_zero_of_not_mem fun hk => h (Cache.flight?_isSome.2 hk)
  have hbehind : ∀ x ∈ s.tasks, ∀ p, x.provider.core = .cached p c → behind[c]? = some p :=
    fun x hx p hp => ((hw.provider _ (.inr ⟨x, hx, rfl⟩)).cached hp).1
  constructor
  case fetching => exact hfetching
  case behind =>
    have hlt : c < behind.length := by
      rw [hw.caches]
      exact (List.getElem?_eq_some_iff.1 hc).1
    obtain ⟨inner, hinner⟩ : ∃ inner, behind[c]? = some inner := ⟨_, List.getElem?_eq_getElem hlt⟩
    refine ⟨inner, fun x hx => ⟨fun hrole => ?_, fun p hp => ?_⟩⟩
    · exact Option.some.inj ((hw.role x hx c hrole).symm.trans hinner)
    · exact Option.some.inj ((hbehind x hx p hp).symm.trans hinner)
  case unstored =>
    exact fun kid hkid => (hf.apart c cache hc).unstored kid (Cache.flight?_isSome.1 hkid)
  case attached =>
    intro x hx p hp
    rcases List.mem_append.1 hx with hx | hx
    · obtain ⟨⟨y, stage⟩, hy, rfl⟩ := List.mem_map.1 hx
      cases stage with
      | calling => exact .inl hy
      | told result => exact .inr (.inl ⟨result, hy⟩)
      | admitted i n =>
        have hi : y.provider.core = .source i := hw.ready _ hy
        exact absurd (hp.symm.trans hi) nofun
      | fetching e =>
        have he : y.provider.core = .remote e.remote := hw.ready _ hy
        exact absurd (hp.symm.trans he) nofun
    · obtain ⟨⟨y, spot⟩, hy, rfl⟩ := List.mem_map.1 hx
      cases spot with
      | gate i n =>
        have hi : y.provider.core = .source i := hw.parked _ hy
        exact absurd (hp.symm.trans hi) nofun
      | flight d place =>
        obtain ⟨q, hq⟩ := hw.parked _ hy
        have hd : d = c := by
          rw [hp] at hq
          exact (Provider.cached.inj hq).2.symm
        subst hd
        obtain ⟨cache', hc', hk⟩ := hf.attended y d place hy
        rw [hc] at hc'
        cases hc'
        refine .inr (.inr ⟨place, hy, ?_⟩)
        rw [hfetching, if_pos (Cache.flight?_isSome.2 hk)]

/-! ## From then on -/

/-- What a run makes of a task that waits, with the outcome of its call. -/
theorem Sound.comes_run {s : State} {behind : List Provider} (h : s.Sound behind []) {w : Task}
    {c place : Nat} (hp : (w, .flight c place) ∈ s.parked) {ms : List Move} (hms : w.goesOn ms) :
    s.Comes ms w c place ((s.history ms).findSome? (·.lands c w.kid)) := by
  obtain ⟨inner, hinner⟩ := h.wired.parked _ hp
  have hrun := waiting_run hp (Provider.uses_of_core_eq hinner) hms
  cases hlands : (s.history ms).findSome? (·.lands c w.kid) with
  | none =>
    rw [hlands] at hrun
    exact hrun
  | some o =>
    rw [hlands] at hrun
    rcases hrun with hready | ⟨T, hT, htask, hstage⟩
    · exact .inl hready
    · refine .inr ⟨⟨T, hT, htask, hstage⟩, fun id hid => ?_⟩
      obtain ⟨_, -, hend⟩ := h.run ms
      have hresult : T.result? = some (.ofExcept o.share) := by
        rw [Turn.result?, hstage]
        rfl
      exact hend.numbered.outcome?_eq (ended_of_mem_history h.wired hT (htask ▸ hid) hresult)

theorem anew_of_not_inFlight {s : State} {c : Nat} {cache : Cache} {kid : String}
    (hc : s.caches[c]? = some cache) (h : ¬s.inFlight c kid) : s.Anew c kid := by
  intro inner
  cases hf : cache.fresh? s.now kid with
  | some j =>
    rw [call_cached_of_fresh hc hf]
    exact .inl ⟨j, rfl⟩
  | none =>
    obtain ⟨m, hm⟩ := call_cached_of_stale inner hc hf
    have hl : (cache.swept s.now kid).flight? kid = none :=
      Cache.flight?_eq_none.2 fun hk => h ⟨cache, hc, hk⟩
    rw [hm, await_of_no_flight hl]
    exact .inr ⟨rfl, rfl⟩

/-- **Single flight.** -/
theorem single_flight (sources : List Source) (network : Network) (ms : List Move) (c : Nat)
    (hlive : ((blank sources network).run ms).holds c = true) :
    ∃ cache, ((blank sources network).run ms).caches[c]? = some cache ∧
      ((blank sources network).run ms).SingleFlight c cache ∧
      (∀ w place, (w, .flight c place) ∈ ((blank sources network).run ms).parked →
        ∀ ms', w.goesOn ms' → ((blank sources network).run ms).Comes ms' w c place
          ((((blank sources network).run ms).history ms').findSome? (·.lands c w.kid))) ∧
      ∀ m T kid o, ((blank sources network).run ms).turn? m = some T → T.lands c kid = some o →
        ∀ ms', (∀ X ∈ T.after.history ms', ¬X.calls c kid) → (T.after.run ms').Anew c kid := by
  obtain ⟨behind, h⟩ := sound_run sources network ms
  generalize (blank sources network).run ms = s at hlive h ⊢
  obtain ⟨p, hp, hu⟩ := (holds_iff s c).1 hlive
  have hlt : c < s.caches.length := by
    rw [← h.wired.caches]
    exact (h.wired.provider p hp).lt_of_uses hu
  have hc := List.getElem?_eq_getElem hlt
  refine ⟨s.caches[c], hc, h.singleFlight hlive hc, ?_, ?_⟩
  · exact fun w place hw ms' hms' => h.comes_run hw hms'
  · intro m T kid o hT hlands ms' hms'
    have hrole := (Turn.lands_eq_some.1 hlands).1
    have hgone := Turn.not_inFlight_after (h.holds_before hT hrole hlive) hlands
    obtain ⟨behind', hpre, h'⟩ := h.run (m :: ms')
    rw [run_cons, apply_of_turn? hT] at h'
    have hlt' : c < (T.after.run ms').caches.length := by
      rw [← h'.wired.caches]
      rw [← h.wired.caches] at hlt
      exact Nat.lt_of_lt_of_le hlt hpre.length_le
    exact anew_of_not_inFlight (List.getElem?_eq_getElem hlt') (not_inFlight_run hgone hms')

/-- Two calls for a key miss a cache in front of a source that breaks down behind a gate. -/
def brokenFetch : State :=
  (blank [{ behaviour := .scripted [.panic "down"], gated := true }] .unreachable).run
    [.build (.source 0) ⟨none, some ⟨1, Duration.ofSeconds 1, by decide, by decide⟩⟩,
      .get 0 "a", .get 0 "a", .turn 0, .turn 0, .turn 0]

/-- Both share one fetch, and both are told that it broke down. -/
theorem single_flight_brokenFetch :
    brokenFetch.holds 0 = true ∧ brokenFetch.fetching 0 "a" = 1 ∧
      ∀ id ∈ [0, 1], (brokenFetch.run [.openGate 0, .turn 0, .turn 0, .turn 0]).outcome? id =
        some (.ofExcept (Outcome.panic "down 0").share) := by
  have hlive : brokenFetch.holds 0 = true := by decide +kernel
  obtain ⟨cache, hc, hone, hcomes, -⟩ := single_flight _ _ _ 0 hlive
  refine ⟨hlive, ?_, ?_⟩
  · have hflight : (brokenFetch.caches[0]?).map (fun c => (c.flight? "a").isSome) = some true := by
      decide +kernel
    have hc' : brokenFetch.caches[0]? = some cache := hc
    rw [hc'] at hflight
    have hfetching := hone.fetching "a"
    rw [if_pos (Option.some.inj hflight)] at hfetching
    exact hfetching
  · intro id hid
    have hw : ((⟨.caller id, "a", .cached (.source 0) 0⟩ : Task), Spot.flight 0 id) ∈
        brokenFetch.parked := by
      rcases List.mem_cons.1 hid with rfl | hid
      · decide +kernel
      · rw [List.mem_singleton.1 hid]
        decide +kernel
    have hlands : (brokenFetch.history [.openGate 0, .turn 0, .turn 0, .turn 0]).findSome?
        (·.lands 0 "a") = some (.panic "down 0") := by decide +kernel
    have hrest : (brokenFetch.run [.openGate 0, .turn 0, .turn 0, .turn 0]).ready = [] := by rfl
    have hend := hcomes _ _ hw [.openGate 0, .turn 0, .turn 0, .turn 0] (fun _ _ => by simp)
    change Comes brokenFetch _ _ _ _ ((brokenFetch.history _).findSome? _) at hend
    rw [hlands] at hend
    rcases hend with hready | ⟨-, hend⟩
    · rw [hrest] at hready
      exact absurd hready List.not_mem_nil
    · exact hend id rfl

end State

end SigningKeys
