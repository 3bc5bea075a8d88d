import SigningKeys.Proofs.Run.Waiting

/-!
# What happens to a cache

* `Turn.Changes`, **`Turn.changes`**: everything that a turn can do to a cache;
* `cache_still`: what a move does to it that is no turn;
* `State.inFlight`: whether a key is being fetched, and when that changes.
-/

namespace SigningKeys

/-- **What a turn can do to a cache.** -/
inductive Turn.Changes (T : Turn) (c : Nat) (cache : Cache) : Cache → Prop where
  /-- Nothing. If a fetch of the cache ended, the cache is out of reach. -/
  | kept (dead : ∀ o, T.task.role = .fetch c → T.result? = some o → T.before.holds c = false) :
      Changes T c cache cache
  /-- One more call waits for a fetch. -/
  | joined {inner : Provider} {f : Flight} (stage : T.stage = .calling)
      (core : T.task.provider.core = .cached inner c)
      (stale : cache.fresh? T.before.now T.task.kid = none)
      (flight : cache.flight? T.task.kid = some f) (result : T.result? = none) :
      Changes T c cache ((cache.swept T.before.now T.task.kid).withFlight f.board.2)
  /-- A fetch starts. -/
  | started {inner : Provider} (stage : T.stage = .calling)
      (core : T.task.provider.core = .cached inner c)
      (stale : cache.fresh? T.before.now T.task.kid = none)
      (flight : cache.flight? T.task.kid = none) (result : T.result? = none)
      (ready : T.after.ready =
        T.before.ready ++ [(⟨.fetch c, T.task.kid, inner⟩, .calling)]) :
      Changes T c cache ((cache.swept T.before.now T.task.kid).depart T.task.kid)
  /-- A fetch ends. -/
  | landed {o : Outcome} (role : T.task.role = .fetch c) (live : T.before.holds c = true)
      (result : T.result? = some o) :
      Changes T c cache ((cache.keep T.after.now T.task.kid o).land T.task.kid)

theorem Turn.changes_of_finish {T : Turn} {s : State} {o : Outcome} {c : Nat} {cache : Cache}
    (hs : T.before.Quiet s) (hresult : T.result? = some o) (hafter : T.after = s.finish T.task o)
    (hc : T.before.caches[c]? = some cache) :
    ∃ cache', T.after.caches[c]? = some cache' ∧ T.Changes c cache cache' := by
  have hnow : T.after.now = s.now := by rw [hafter, State.now_finish]
  rw [hafter, State.caches_finish, hs.caches, hc, hs.holds]
  split
  · rename_i h
    rw [← hnow]
    exact ⟨_, rfl, .landed h.1 h.2 hresult⟩
  · rename_i h
    refine ⟨cache, rfl, .kept fun _ hrole _ => ?_⟩
    rw [← Bool.not_eq_true]
    exact fun hlive => h ⟨hrole, hlive⟩

/-- **Everything that a turn can do to a cache.** -/
theorem Turn.changes {T : Turn} {c : Nat} {cache : Cache} (hc : T.before.caches[c]? = some cache) :
    ∃ cache', T.after.caches[c]? = some cache' ∧ T.Changes c cache cache' := by
  have hcourse := T.course
  generalize hr : T.result? = r, ha : T.after = t, hs : T.stage = stage at hcourse
  cases hcourse with
  | ends called =>
    rw [← ha]
    exact changes_of_finish called.quiet hr ha hc
  | fetched received =>
    rw [← ha]
    exact changes_of_finish (State.quiet_receiveKey received) hr ha hc
  | fetches called =>
    cases called with
    | asked => exact ⟨cache, hc, .kept fun o _ h => absurd (h.symm.trans hr) (Option.some_ne_none o)⟩
  | admitted | told =>
    rw [← ha]
    exact changes_of_finish (.refl _) hr ha hc
  | lost => exact ⟨cache, hc, .kept fun o _ h => absurd (h.symm.trans hr) (Option.some_ne_none o)⟩
  | waits called =>
    have hkept : T.Changes c cache cache := .kept fun o _ h => absurd (h.symm.trans hr) (Option.some_ne_none o)
    cases called with
    | gated => exact ⟨cache, hc, hkept⟩
    | @joined inner d cache' f bs m buckets core found stale flight =>
      by_cases hd : d = c
      · subst hd
        cases Option.some.inj (hc.symm.trans found)
        exact ⟨_, List.getElem?_set_self (List.getElem?_eq_some_iff.1 hc).1,
          .joined hs core stale flight hr⟩
      · exact ⟨cache, (List.getElem?_set_ne hd).trans hc, hkept⟩
    | @started inner d cache' bs m buckets core found stale flight =>
      by_cases hd : d = c
      · subst hd
        cases Option.some.inj (hc.symm.trans found)
        exact ⟨_, List.getElem?_set_self (List.getElem?_eq_some_iff.1 hc).1,
          .started hs core stale flight hr (ha ▸ rfl)⟩
      · exact ⟨cache, (List.getElem?_set_ne hd).trans hc, hkept⟩

theorem Turn.caches_eq_none {T : Turn} {c : Nat} (hc : T.before.caches[c]? = none) :
    T.after.caches[c]? = none := by
  have hcourse := T.course
  generalize T.result? = r, T.after = t, T.stage = stage at hcourse ⊢
  cases hcourse with
  | ends called =>
    rw [State.caches_finish, called.quiet.caches, hc, Option.map_none, ite_self]
  | fetched received =>
    rw [State.caches_finish, (State.quiet_receiveKey received).caches, hc, Option.map_none,
      ite_self]
  | fetches called =>
    cases called with
    | asked => exact hc
  | admitted | told => rw [State.caches_finish, hc, Option.map_none, ite_self]
  | lost => exact hc
  | waits called =>
    cases called with
    | gated => exact hc
    | joined | started =>
      rw [List.getElem?_eq_none_iff] at hc ⊢
      exact Nat.le_trans (Nat.le_of_eq List.length_set) hc

theorem Turn.exists_before {T : Turn} {c : Nat} {cache' : Cache}
    (hc : T.after.caches[c]? = some cache') :
    ∃ cache, T.before.caches[c]? = some cache ∧ T.Changes c cache cache' := by
  cases hb : T.before.caches[c]? with
  | none => exact absurd (hc.symm.trans (caches_eq_none hb)) (Option.some_ne_none _)
  | some cache =>
    obtain ⟨cache'', hc', hchanges⟩ := changes hb
    rw [hc] at hc'
    exact ⟨cache, rfl, Option.some.inj hc' ▸ hchanges⟩

namespace State

/-- What a move does to a cache that is no turn: nothing, or the cache is new. -/
theorem cache_still {m : Move} {s t : State} (h : Still m s t) {c : Nat} {cache' : Cache}
    (hc : t.caches[c]? = some cache') :
    (∃ cache, s.caches[c]? = some cache ∧ cache'.core = cache.core) ∨
      cache'.store = {} ∧ cache'.kids = [] := by
  obtain ⟨cs, hcs, hnew⟩ := h.caches
  obtain ⟨cache, hcache, hcore⟩ := exists_core hcs hc
  rcases Nat.lt_or_ge c s.caches.length with hlt | hge
  · rw [List.getElem?_append_left hlt] at hcache
    exact .inl ⟨cache, hcache, hcore⟩
  · rw [List.getElem?_append_right hge] at hcache
    obtain ⟨hstore, hflights⟩ := hnew cache (List.mem_of_getElem? hcache)
    simp only [Cache.core, Prod.mk.injEq] at hcore
    obtain ⟨-, hs, hk⟩ := hcore
    exact .inr ⟨hs.trans hstore, by rw [hk, Cache.kids, hflights]; rfl⟩

/-! ## Keys that are being fetched -/

/-- Whether a cache is fetching a key. -/
def inFlight (s : State) (c : Nat) (kid : String) : Prop :=
  ∃ cache, s.caches[c]? = some cache ∧ kid ∈ cache.kids

theorem inFlight_of_still {m : Move} {s t : State} (h : Still m s t) {c : Nat} {kid : String}
    (ht : t.inFlight c kid) : s.inFlight c kid := by
  obtain ⟨cache', hc', hk⟩ := ht
  rcases cache_still h hc' with ⟨cache, hc, hcore⟩ | ⟨-, hkids⟩
  · exact ⟨cache, hc, (congrArg (·.2.2) hcore : cache'.kids = cache.kids) ▸ hk⟩
  · rw [hkids] at hk
    exact absurd hk List.not_mem_nil

end State

namespace Turn

/-- A call for a key reaches a cache in this turn. -/
def calls (T : Turn) (c : Nat) (kid : String) : Prop :=
  T.stage = .calling ∧ T.task.kid = kid ∧ ∃ inner, T.task.provider.core = .cached inner c

/-- A call for a key makes a cache start to fetch it in this turn. -/
structure Starts (T : Turn) (c : Nat) (kid : String) (inner : Provider) : Prop where
  stage : T.stage = .calling
  asks : T.task.kid = kid
  core : T.task.provider.core = .cached inner c
  ready : T.after.ready = T.before.ready ++ [(⟨.fetch c, kid, inner⟩, .calling)]

/-- **Who waits after a turn**: those who did before, but for the fetch that has ended in it; and
the task itself, if the key is being fetched or its call has started that. -/
theorem parked_before {T : Turn} {w : Task} {c place : Nat}
    (hw : (w, .flight c place) ∈ T.after.parked)
    (hmay : ∀ e ∈ T.before.parked, e.1.mayWaitAt e.2) :
    (w, .flight c place) ∈ T.before.parked ∧ T.lands c w.kid = none ∨
      T.task = w ∧ T.calls c w.kid ∧ T.result? = none ∧
        (T.before.inFlight c w.kid ∨ ∃ inner, T.Starts c w.kid inner) := by
  have hcourse := T.course
  generalize hr : T.result? = r, ha : T.after = t, hs : T.stage = stage at hcourse
  rw [ha] at hw
  have hfinish : ∀ {s : State} {o : Outcome}, s.parked = T.before.parked →
      (w, .flight c place) ∈ (s.finish T.task o).parked →
      (w, .flight c place) ∈ T.before.parked ∧ T.lands c w.kid = none := by
    intro s o hparked hw
    obtain ⟨hbefore, hother⟩ := State.parked_finish hw
    rw [hparked] at hbefore
    obtain ⟨inner, hinner⟩ := hmay _ hbefore
    exact ⟨hbefore, if_neg (hother (Provider.uses_of_core_eq hinner))⟩
  cases hcourse with
  | fetches called => exact .inl ⟨called.parked ▸ hw, lands_eq_none hr _ _⟩
  | ends called => exact .inl (hfinish called.parked hw)
  | fetched received => exact .inl (hfinish (State.quiet_receiveKey received).parked hw)
  | admitted | told => exact .inl (hfinish rfl hw)
  | lost => exact .inl ⟨hw, lands_eq_none hr _ _⟩
  | waits called =>
    rcases List.mem_append.1 hw with hw | hw
    · exact .inl ⟨called.parked ▸ hw, lands_eq_none hr _ _⟩
    · have he := List.mem_singleton.1 hw
      have htask : w = T.task := congrArg (·.1) he
      cases congrArg (·.2) he
      cases called with
      | joined buckets core found stale flight =>
        refine .inr ⟨htask.symm, ⟨hs, by rw [htask], _, core⟩, rfl, .inl ⟨_, found, ?_⟩⟩
        rw [htask]
        exact Cache.flight?_isSome.1 (by rw [flight]; rfl)
      | @started inner _ cache bs m buckets core found stale flight =>
        refine .inr ⟨htask.symm, ⟨hs, by rw [htask], _, core⟩, rfl, .inr ⟨inner, hs, ?_, core, ?_⟩⟩
        · rw [htask]
        · rw [ha, htask]
          rfl

/-- **Only a call for a key starts to fetch it.** -/
theorem inFlight_before {T : Turn} {c : Nat} {kid : String} (h : T.after.inFlight c kid) :
    T.before.inFlight c kid ∨ T.calls c kid := by
  obtain ⟨cache', hc', hk⟩ := h
  obtain ⟨cache, hc, hchanges⟩ := exists_before hc'
  cases hchanges with
  | kept => exact .inl ⟨_, hc, hk⟩
  | joined =>
    rw [Cache.kids_withFlight] at hk
    exact .inl ⟨cache, hc, hk⟩
  | started stage core =>
    rcases List.mem_cons.1 hk with hk | hk
    · exact .inr ⟨stage, hk.symm, _, core⟩
    · exact .inl ⟨cache, hc, hk⟩
  | landed =>
    rw [Cache.kids_land, Cache.kids_keep] at hk
    exact .inl ⟨cache, hc, List.mem_of_mem_filter hk⟩

/-- **A key is not being fetched any more when its fetch has ended.** -/
theorem not_inFlight_after {T : Turn} {c : Nat} {kid : String} {o : Outcome}
    (hlive : T.before.holds c = true) (hlands : T.lands c kid = some o) :
    ¬T.after.inFlight c kid := by
  rintro ⟨cache', hc', hk⟩
  obtain ⟨hrole, hkid, hresult⟩ := lands_eq_some.1 hlands
  obtain ⟨cache, hc, hchanges⟩ := exists_before hc'
  cases hchanges with
  | kept dead =>
    rw [dead o hrole hresult] at hlive
    cases hlive
  | joined _ _ _ _ result | started _ _ _ _ result _ =>
    exact absurd (hresult.symm.trans result) (Option.some_ne_none o)
  | landed role live result =>
    rw [Cache.kids_land, Cache.kids_keep, List.mem_filter] at hk
    simp [hkid] at hk

end Turn

/-- A key that is not being fetched is not, until a call for it reaches the cache. -/
theorem State.not_inFlight_run {s : State} {c : Nat} {kid : String} (h : ¬s.inFlight c kid)
    {ms : List Move} (hms : ∀ T ∈ s.history ms, ¬T.calls c kid) : ¬(s.run ms).inFlight c kid := by
  induction ms generalizing s with
  | nil => exact h
  | cons m ms ih =>
    rw [history] at hms
    rw [run_cons]
    refine ih ?_ fun T hT => hms T (List.mem_append_right _ hT)
    cases hm : s.turn? m with
    | none => exact fun hk => h (inFlight_of_still (still_apply hm) hk)
    | some T =>
      rw [apply_of_turn? hm]
      intro hk
      rcases Turn.inFlight_before hk with hk | hcalls
      · have hcaches : T.before.caches = s.caches := by
          cases m with
          | turn i =>
            obtain ⟨e, -, rfl⟩ := Option.map_eq_some_iff.1 hm
            rfl
          | _ => cases hm
        exact h (by unfold inFlight at hk ⊢; rwa [hcaches] at hk)
      · exact hms T (List.mem_append_left _ (by rw [hm]; exact List.mem_singleton_self T)) hcalls

end SigningKeys
