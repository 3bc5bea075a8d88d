import SigningKeys.Proofs.Run.Wired

/-!
# Those who wait

A task that waits for a fetch is told how the fetch ended, and nothing else happens to it, unless
its call is given up.

* `State.Still`: what a move changes that is no turn;
* `Turn.parked_after`: what a turn does to a task that waits for a fetch;
* **`State.waiting_run`**: what a run does to such a task.
-/

namespace SigningKeys

/-- The call of a task is not given up in a run. The fetch of a cache cannot be. -/
def Task.goesOn (t : Task) (ms : List Move) : Prop := ∀ id, t.role = .caller id → .abort id ∉ ms

theorem Task.goesOn.of_cons {t : Task} {m : Move} {ms : List Move} (h : t.goesOn (m :: ms)) :
    (∀ id, t.role = .caller id → m ≠ .abort id) ∧ t.goesOn ms :=
  ⟨fun id hid hm => h id hid (hm ▸ List.mem_cons_self),
    fun id hid hm => h id hid (List.mem_cons_of_mem _ hm)⟩

namespace State

/-- How often a source was called for an id, if there is such a source. -/
def callsTo (s : State) (i : Nat) (kid : String) : Option Nat :=
  (s.sources[i]?).map fun source => source.callsFor kid

/-- **Between turns**: what a move that is no turn changes. The clock does not go back, new caches
are empty, sources are not called, and tasks that wait or were told something stay unless their call
is given up. -/
structure Still (m : Move) (s t : State) : Prop where
  later : s.now ≤ t.now
  caches : ∃ cs, t.caches.map Cache.core = (s.caches ++ cs).map Cache.core ∧
    ∀ cache ∈ cs, cache.store = {} ∧ cache.flights = []
  counts : ∀ i kid, t.callsTo i kid = s.callsTo i kid
  parked : ∀ e ∈ t.parked, e ∈ s.parked
  admitted : ∀ x i n, (x, .admitted i n) ∈ t.ready →
    (x, .admitted i n) ∈ s.ready ∨ (x, .gate i n) ∈ s.parked
  fetching : ∀ x e, (x, .fetching e) ∈ t.ready → (x, .fetching e) ∈ s.ready
  told : ∀ x result, (x, .told result) ∈ t.ready → (x, .told result) ∈ s.ready
  pending : ∀ x c, x.role = .fetch c → t.pending x = s.pending x
  staysParked : ∀ x c place, (x, .flight c place) ∈ s.parked →
    (∀ id, x.role = .caller id → m ≠ .abort id) → (x, .flight c place) ∈ t.parked
  staysReady : ∀ x stage, (x, stage) ∈ s.ready →
    (∀ id, x.role = .caller id → m ≠ .abort id) → (x, stage) ∈ t.ready
  staysFetching : ∀ x c, x ∈ s.tasks → x.role = .fetch c → x ∈ t.tasks

theorem Still.frame {m : Move} {s t : State} (later : s.now ≤ t.now)
    (caches : ∃ cs, t.caches = s.caches ++ cs ∧ ∀ cache ∈ cs, cache.store = {} ∧ cache.flights = [])
    (sources : t.sources = s.sources) (ready : t.ready = s.ready) (parked : t.parked = s.parked) :
    Still m s t := by
  obtain ⟨cs, hcs, hnew⟩ := caches
  constructor
  case later => exact later
  case caches => exact ⟨cs, by rw [hcs], hnew⟩
  case counts => exact fun _ _ => by rw [callsTo, sources, callsTo]
  case parked => exact fun _ h => parked ▸ h
  case admitted => exact fun _ _ _ h => .inl (ready ▸ h)
  case fetching | told => exact fun _ _ h => ready ▸ h
  case pending => exact fun _ _ _ => by rw [State.pending, ready, State.pending]
  case staysParked => exact fun _ _ _ h _ => parked ▸ h
  case staysReady => exact fun _ _ h _ => ready ▸ h
  case staysFetching =>
    intro x c hx _
    rw [tasks, ready, parked]
    exact hx

theorem Still.refl (m : Move) (s : State) : Still m s s :=
  .frame (Nat.le_refl _) ⟨[], (List.append_nil _).symm, fun _ h => absurd h List.not_mem_nil⟩ rfl rfl
    rfl

theorem exists_new_caches {s t : State} (h : t.caches.map Cache.core = s.caches.map Cache.core) :
    ∃ cs, t.caches.map Cache.core = (s.caches ++ cs).map Cache.core ∧
      ∀ cache ∈ cs, cache.store = {} ∧ cache.flights = [] :=
  ⟨[], by rw [List.append_nil]; exact h, fun _ h => absurd h List.not_mem_nil⟩

theorem Still.of_passed {m : Move} {s t : State} (h : s.LetsThrough t) : Still m s t := by
  have hperm := h.perm
  obtain ⟨x, i, n, rest, hparked, hsub, rfl⟩ := h
  constructor
  case later => exact Nat.le_refl _
  case caches => exact exists_new_caches rfl
  case counts => exact fun _ _ => rfl
  case parked => exact fun _ hy => hsub.subset hy
  case admitted =>
    intro y i' n' hy
    rcases List.mem_append.1 hy with hy | hy
    · exact .inl hy
    · cases List.mem_singleton.1 hy
      exact .inr (hparked.mem_iff.2 List.mem_cons_self)
  case fetching | told =>
    intro y z hy
    rcases List.mem_append.1 hy with hy | hy
    · exact hy
    · cases List.mem_singleton.1 hy
  case pending => exact fun _ _ _ => List.countP_append
  case staysParked =>
    intro y c place hy _
    rcases List.mem_cons.1 (hparked.mem_iff.1 hy) with he | hy
    · cases he
    · exact hy
  case staysReady => exact fun _ _ hy _ => List.mem_append_left _ hy
  case staysFetching => exact fun y _ hy _ => hperm.mem_iff.2 hy

/-- What two moves change that are no turns. -/
theorem Still.trans {m : Move} {s t u : State} (h : Still m s t) (h' : Still m t u) :
    Still m s u := by
  obtain ⟨cs, hcs, hnew⟩ := h.caches
  obtain ⟨ds, hds, hnew'⟩ := h'.caches
  constructor
  case later => exact Nat.le_trans h.later h'.later
  case caches =>
    refine ⟨cs ++ ds, ?_, fun cache hc => (List.mem_append.1 hc).elim (hnew cache) (hnew' cache)⟩
    rw [hds, List.map_append, hcs, ← List.map_append, List.append_assoc]
  case counts => exact fun i kid => (h'.counts i kid).trans (h.counts i kid)
  case parked => exact fun e he => h.parked e (h'.parked e he)
  case admitted =>
    exact fun x i n hx => (h'.admitted x i n hx).elim (h.admitted x i n) fun hp => .inr (h.parked _ hp)
  case fetching => exact fun x e hx => h.fetching x e (h'.fetching x e hx)
  case told => exact fun x result hx => h.told x result (h'.told x result hx)
  case pending => exact fun x c hx => (h'.pending x c hx).trans (h.pending x c hx)
  case staysParked =>
    exact fun x c place hx hm => h'.staysParked x c place (h.staysParked x c place hx hm) hm
  case staysReady => exact fun x stage hx hm => h'.staysReady x stage (h.staysReady x stage hx hm) hm
  case staysFetching => exact fun x c hx hc => h'.staysFetching x c (h.staysFetching x c hx hc) hc

theorem Still.of_permit {m : Move} {s : State} {i : Nat} {source : Source}
    (h : s.sources[i]? = some source) : Still m s (s.setSource i source.putPermit) := by
  refine { Still.refl m s with counts := fun j kid => ?_ }
  have hcount : source.putPermit.callsFor kid = source.callsFor kid := by
    unfold Source.putPermit
    split <;> rfl
  obtain ⟨hi, -⟩ := List.getElem?_eq_some_iff.1 h
  rw [callsTo, callsTo, setSource]
  by_cases hij : i = j
  · rw [← hij, List.getElem?_set_self hi, h]
    exact congrArg some hcount
  · rw [List.getElem?_set_ne hij]

theorem Still.of_openGate (m : Move) (s : State) (i : Nat) : Still m s (s.openGate i) := by
  obtain hp | ⟨source, hs, heq⟩ | heq := s.openGate_cases i
  · exact .of_passed hp
  · rw [heq]
    exact .of_permit hs
  · rw [heq]
    exact .refl _ _

/-- A call is given up that was parked. -/
theorem Still.of_left {s : State} {x : Task} {spot : Spot} {id : Nat} (hx : (x, spot) ∈ s.parked)
    (hrole : x.role = .caller id) :
    Still (.abort id) s ({ s with parked := s.parked.erase (x, spot) }.leave x.kid spot) := by
  obtain ⟨cs, hcs, hleave⟩ := leave_eq { s with parked := s.parked.erase (x, spot) } x.kid spot
  rw [hleave]
  constructor
  case later => exact Nat.le_refl _
  case caches => exact exists_new_caches hcs
  case counts => exact fun _ _ => rfl
  case parked => exact fun _ hy => List.mem_of_mem_erase hy
  case admitted => exact fun _ _ _ hy => .inl hy
  case fetching | told => exact fun _ _ hy => hy
  case pending => exact fun _ _ _ => rfl
  case staysParked =>
    intro y c place hy hm
    refine (List.mem_erase_of_ne ?_).2 hy
    rintro ⟨⟩
    exact hm id hrole rfl
  case staysReady => exact fun _ _ hy _ => hy
  case staysFetching =>
    intro y c hy hc
    rcases List.mem_cons.1 ((perm_of_mem_parked hx).mem_iff.1 hy) with rfl | hy
    · rw [hrole] at hc
      cases hc
    · exact hy

theorem Still.of_strike (s : State) (id : Nat) : Still (.abort id) s (s.strike id) := by
  have hkeep : ∀ x stage, (x, stage) ∈ s.ready → (∀ id', x.role = .caller id' → id' ≠ id) →
      (x, stage) ∈ (s.strike id).ready := by
    intro x stage hx hne
    refine List.mem_filter.2 ⟨hx, ?_⟩
    have hrole : (x.role == .caller id) = false := by
      rw [beq_eq_false_iff_ne]
      exact fun h => hne id h rfl
    rw [hrole]
    rfl
  constructor
  case later => exact Nat.le_refl _
  case caches => exact exists_new_caches rfl
  case counts => exact fun _ _ => rfl
  case parked => exact fun _ hy => hy
  case admitted => exact fun _ _ _ hy => .inl (List.mem_of_mem_filter hy)
  case fetching | told => exact fun _ _ hy => List.mem_of_mem_filter hy
  case pending =>
    intro x c hx
    rw [State.pending, State.strike, List.countP_filter]
    refine List.countP_congr fun e _ => ?_
    -- a fetch is no call of a caller
    by_cases he : e.1 = x
    · simp [he, hx]
    · simp [he]
  case staysParked => exact fun _ _ _ hy _ => hy
  case staysReady =>
    exact fun x stage hx hm => hkeep x stage hx fun id' hr he => hm id' hr (he ▸ rfl)
  case staysFetching =>
    intro x c hx hc
    rcases List.mem_append.1 hx with hx | hx
    · obtain ⟨e, he, rfl⟩ := List.mem_map.1 hx
      refine List.mem_append_left _ (List.mem_map.2 ⟨e, hkeep e.1 e.2 he ?_, rfl⟩)
      rintro id' hr rfl
      rw [hc] at hr
      cases hr
    · exact List.mem_append_right _ hx

/-- A call is given up that was ready. -/
theorem Still.of_withdraw (s : State) (id : Nat) : Still (.abort id) s (s.withdraw id) := by
  rcases s.withdraw_cases id with heq | ⟨i, heq⟩
  · exact heq ▸ .of_strike s id
  · exact heq ▸ (Still.of_strike s id).trans (.of_openGate _ _ i)

/-- A call begins. -/
theorem Still.of_spawn {m : Move} (s : State) (p : Provider) (kid : String) :
    Still m s (s.spawn p kid) := by
  constructor
  case later => exact Nat.le_refl _
  case caches => exact exists_new_caches rfl
  case counts => exact fun _ _ => rfl
  case parked => exact fun _ hy => hy
  case admitted =>
    intro x i n hx
    rcases List.mem_append.1 hx with hx | hx
    · exact .inl hx
    · cases List.mem_singleton.1 hx
  case fetching | told =>
    intro x y hx
    rcases List.mem_append.1 hx with hx | hx
    · exact hx
    · cases List.mem_singleton.1 hx
  case pending =>
    intro x c hx
    refine List.countP_append.trans ?_
    have hne : (⟨.caller s.started, kid, p⟩ : Task) ≠ x := by
      rintro rfl
      cases hx
    simp [State.pending, hne]
  case staysParked => exact fun _ _ _ hy _ => hy
  case staysReady => exact fun _ _ hx _ => List.mem_append_left _ hx
  case staysFetching =>
    exact fun x _ hx _ => (perm_enqueue _ _ _).mem_iff.2 (List.mem_cons_of_mem _ hx)

/-- **What a move changes that is no turn.** -/
theorem still_apply {s : State} {m : Move} (h : s.turn? m = none) : Still m s (s.apply m) := by
  have hnone : ∃ cs, s.caches = s.caches ++ cs ∧
      ∀ cache ∈ cs, cache.store = {} ∧ cache.flights = [] :=
    ⟨[], (List.append_nil _).symm, fun _ h => absurd h List.not_mem_nil⟩
  cases m with
  | bucket r | skip | drop p | delay d | fetchAll r | forgo k => exact .frame (Nat.le_refl _) hnone rfl rfl rfl
  | advance d => exact .frame (Nat.le_add_right _ _) hnone rfl rfl rfl
  | build base layers =>
    rw [apply]
    split
    · obtain ⟨bs, cs, heq, hcs, -⟩ := s.install_eq base layers
      rw [heq]
      exact .frame (Nat.le_refl _) ⟨cs, rfl, hcs⟩ rfl rfl rfl
    · exact .refl _ _
  | get p kid =>
    rw [apply]
    split
    · exact .of_spawn _ _ _
    · exact .refl _ _
  | turn i =>
    have hi : s.ready[i]? = none := Option.map_eq_none_iff.1 h
    rw [apply, turnAt, hi]
    exact .refl _ _
  | openGate i => exact .of_openGate _ s i
  | pass k =>
    obtain hp | heq := s.pass_cases k
    · exact .of_passed hp
    · rw [apply, heq]
      exact .refl _ _
  | abort id =>
    obtain ⟨x, spot, hx, hrole, heq⟩ | heq := s.giveUp_cases id
    · rw [apply, heq]
      exact .of_left hx hrole
    · rw [apply, heq]
      exact .of_withdraw s id
  | callBucket b c =>
    rw [apply, callBucket]
    split
    · exact .frame (Nat.le_refl _) hnone rfl rfl rfl
    · exact .refl _ _
  | receive k =>
    rw [apply, receiveAt]
    split
    · obtain ⟨now, delay, requests, m, hn, heq⟩ := (s.forgo k).noteFetch_eq _
      rw [receive]
      dsimp only
      rw [heq]
      exact .frame hn hnone rfl rfl rfl
    · exact .refl _ _

/-! ## What becomes of a task that waits -/

theorem Called.parked {kid : String} {p : Provider} {s t : State} {r : Reach}
    (h : Called kid p s r t) : t.parked = s.parked := by
  cases h <;> rfl

theorem Called.ready {kid : String} {p : Provider} {s t : State} {r : Reach}
    (h : Called kid p s r t) : s.ready <+: t.ready := by
  cases h with
  | started => exact List.prefix_append _ _
  | _ => exact List.prefix_refl _

theorem ready_finish (s : State) (x : Task) (o : Outcome) : s.ready <+: (s.finish x o).ready := by
  rcases s.finish_cases x o with ⟨id, -, heq⟩ | ⟨c, -, -, heq⟩ | ⟨c, cs, m, -, -, heq⟩
  · exact ⟨[], by rw [heq, List.append_nil]⟩
  · exact ⟨[], by rw [heq, List.append_nil]⟩
  · rw [heq]
    exact List.prefix_append _ _

theorem ready_after (T : Turn) : T.before.ready <+: T.after.ready := by
  have hcourse := T.course
  generalize T.after = t, T.result? = r, T.stage = stage at hcourse ⊢
  cases hcourse with
  | waits called => exact called.ready
  | fetches called => exact called.ready.trans (List.prefix_append _ _)
  | ends called => exact called.ready.trans (ready_finish _ _ _)
  | fetched received =>
    exact (quiet_receiveKey received).ready.symm ▸ ready_finish _ _ _
  | admitted | told => exact ready_finish _ _ _
  | lost => exact List.prefix_refl _

/-- A task that waited for the fetch of its key by a cache: still, or told how the fetch ended. -/
def Follows (s : State) (w : Task) (c place : Nat) : Option Outcome → Prop
  | none => (w, .flight c place) ∈ s.parked
  | some o => (w, .told o.share) ∈ s.ready

variable {w : Task} {c place : Nat}

theorem follows_finish {s : State} {x : Task} {o : Outcome}
    (hw : (w, .flight c place) ∈ s.parked) (hc : w.provider.uses c = true) :
    (s.finish x o).Follows w c place
      (if x.role = .fetch c ∧ x.kid = w.kid then some o else none) := by
  rcases s.finish_cases x o with ⟨id, hrole, heq⟩ | ⟨d, hrole, hd, heq⟩ | ⟨d, cs, m, hrole, -, heq⟩
  · rw [heq, if_neg (by simp [hrole])]
    exact hw
  · have hdc : d ≠ c := by
      rintro rfl
      -- the task that waits keeps its cache in reach
      have hmem : w ∈ s.tasks := List.mem_append_right _ (List.mem_map_of_mem hw)
      have hreach : s.reaches [] d := ⟨_, .inr ⟨w, hmem, rfl⟩, hc⟩
      rw [(holds_iff _ _).2 hreach] at hd
      exact Bool.noConfusion hd
    rw [heq, if_neg (by simp [hrole, hdc])]
    exact hw
  · rw [heq]
    by_cases hx : d = c ∧ x.kid = w.kid
    · rw [if_pos ⟨by rw [hrole, hx.1], hx.2⟩]
      refine List.mem_append_right _ (List.mem_map.2 ⟨w, mem_waiting.2 ⟨hx.2.symm, place, ?_⟩, rfl⟩)
      rw [hx.1]
      exact hw
    · rw [if_neg fun h => hx ⟨Role.fetch.inj (hrole.symm.trans h.1), h.2⟩]
      refine List.mem_filter.2 ⟨hw, ?_⟩
      rw [Option.isNone_iff_eq_none, Option.eq_none_iff_forall_ne_some]
      intro place' he
      obtain ⟨hk, hs⟩ := placeFor?_eq_some.1 he
      exact hx ⟨(Spot.flight.inj hs).1.symm, hk.symm⟩

/-- **What a turn does to a task that waits for a fetch.** -/
theorem follows_after {T : Turn} (hw : (w, .flight c place) ∈ T.before.parked)
    (hc : w.provider.uses c = true) : T.after.Follows w c place (T.lands c w.kid) := by
  have hcourse := T.course
  unfold Turn.lands
  generalize T.after = t, T.result? = r, T.stage = stage at hcourse ⊢
  cases hcourse with
  | waits called =>
    rw [ite_self]
    exact List.mem_append_left _ (called.parked ▸ hw)
  | @fetches e t called =>
    have hstill : (w, .flight c place) ∈ t.parked := called.parked ▸ hw
    rw [ite_self]
    exact hstill
  | ends called => exact follows_finish (called.parked ▸ hw) hc
  | fetched received => exact follows_finish ((quiet_receiveKey received).parked ▸ hw) hc
  | admitted | told => exact follows_finish hw hc
  | lost =>
    rw [ite_self]
    exact hw

theorem parked_finish {s : State} {x : Task} {o : Outcome}
    (hw : (w, .flight c place) ∈ (s.finish x o).parked) :
    (w, .flight c place) ∈ s.parked ∧
      (w.provider.uses c = true → ¬(x.role = .fetch c ∧ x.kid = w.kid)) := by
  have hbefore : (w, .flight c place) ∈ s.parked := by
    rcases s.finish_cases x o with ⟨id, -, heq⟩ | ⟨d, -, -, heq⟩ | ⟨d, cs, m, -, -, heq⟩
    · rwa [heq] at hw
    · rwa [heq] at hw
    · rw [heq] at hw
      exact List.mem_of_mem_filter hw
  refine ⟨hbefore, fun hc hx => ?_⟩
  have hmem : w ∈ s.tasks := List.mem_append_right _ (List.mem_map_of_mem hbefore)
  have hlive : s.holds c = true := (holds_iff _ _).2 ⟨_, .inr ⟨w, hmem, rfl⟩, hc⟩
  rcases s.finish_cases x o with ⟨id, hrole, -⟩ | ⟨d, hrole, hd, -⟩ | ⟨d, cs, m, hrole, -, heq⟩
  · exact Role.noConfusion (hx.1.symm.trans hrole)
  · rw [Role.fetch.inj (hx.1.symm.trans hrole), hd] at hlive
    cases hlive
  · rw [heq] at hw
    have hnone := (List.mem_filter.1 hw).2
    rw [← Role.fetch.inj (hx.1.symm.trans hrole), placeFor?_eq_some.2 ⟨hx.2.symm, rfl⟩] at hnone
    cases hnone

/-- What a task is told when another one has ended, it was told before, or it waited for that. -/
theorem told_finish {s : State} {x : Task} {o : Outcome} {result : Except KeyError Jwk}
    (hw : (w, .told result) ∈ (s.finish x o).ready) :
    (w, .told result) ∈ s.ready ∨
      ∃ c place, x.role = .fetch c ∧ x.kid = w.kid ∧ (w, .flight c place) ∈ s.parked ∧
        result = o.share := by
  rcases s.finish_cases x o with ⟨id, -, heq⟩ | ⟨d, -, -, heq⟩ | ⟨d, cs, m, hrole, -, heq⟩
  · rw [heq] at hw
    exact .inl hw
  · rw [heq] at hw
    exact .inl hw
  · rw [heq] at hw
    rcases List.mem_append.1 hw with hw | hw
    · exact .inl hw
    · obtain ⟨y, hy, he⟩ := List.mem_map.1 hw
      cases he
      obtain ⟨hk, place, hmem⟩ := mem_waiting.1 hy
      exact .inr ⟨d, place, hrole, hk.symm, hmem, rfl⟩

/-- **What a task is told in a turn.** -/
theorem told_after {T : Turn} {result : Except KeyError Jwk}
    (hw : (w, .told result) ∈ T.after.ready) :
    (w, .told result) ∈ T.before.ready ∨
      ∃ c place o, (w, .flight c place) ∈ T.before.parked ∧ T.lands c w.kid = some o ∧
        result = o.share := by
  have hcourse := T.course
  unfold Turn.lands
  generalize T.after = t, T.result? = r, T.stage = stage at hcourse hw ⊢
  have hfinish : ∀ {s : State} {o : Outcome}, s.ready = T.before.ready → s.parked = T.before.parked →
      (w, .told result) ∈ (s.finish T.task o).ready →
      (w, .told result) ∈ T.before.ready ∨
        ∃ c place o', (w, .flight c place) ∈ T.before.parked ∧
          (if T.task.role = .fetch c ∧ T.task.kid = w.kid then some o else none) = some o' ∧
            result = o'.share := by
    intro s o hready hparked hw
    rcases told_finish hw with hold | ⟨c, place, hrole, hk, hmem, hres⟩
    · exact .inl (hready ▸ hold)
    · exact .inr ⟨c, place, o, hparked ▸ hmem, if_pos ⟨hrole, hk⟩, hres⟩
  cases hcourse with
  | waits called =>
    cases called with
    | gated | joined => exact .inl hw
    | started =>
      rcases List.mem_append.1 hw with hw | hw
      · exact .inl hw
      · cases List.mem_singleton.1 hw
  | fetches called =>
    cases called with
    | asked =>
      rcases List.mem_append.1 hw with hw | hw
      · exact .inl hw
      · cases List.mem_singleton.1 hw
  | ends called => exact hfinish called.quiet.ready called.parked hw
  | fetched received =>
    have hquiet := quiet_receiveKey received
    exact hfinish hquiet.ready hquiet.parked hw
  | admitted | told => exact hfinish rfl rfl hw
  | lost => exact .inl hw

/-- What a task was told, it takes note of in its turn. -/
theorem told_run {s : State} {result : Except KeyError Jwk} (hw : (w, .told result) ∈ s.ready)
    {ms : List Move} (hms : w.goesOn ms) :
    (w, .told result) ∈ (s.run ms).ready ∨
      ∃ T ∈ s.history ms, T.task = w ∧ T.stage = .told result := by
  induction ms generalizing s with
  | nil => exact .inl hw
  | cons m ms ih =>
    obtain ⟨hhead, htail⟩ := hms.of_cons
    have hstep : (w, .told result) ∈ (s.apply m).ready ∨
        ∃ T, s.turn? m = some T ∧ T.task = w ∧ T.stage = .told result := by
      cases hm : s.turn? m with
      | none => exact .inl ((still_apply hm).staysReady w _ hw hhead)
      | some T =>
        rw [apply_of_turn? hm]
        obtain ⟨i, hi, hbefore⟩ := turn?_eq_some hm
        rcases List.mem_cons.1 ((perm_ready hi).mem_iff.1 hw) with he | hrest
        · exact .inr ⟨T, rfl, (congrArg (·.1) he).symm, (congrArg (·.2) he).symm⟩
        · refine .inl ((ready_after T).subset ?_)
          rw [hbefore]
          exact hrest
    rw [run_cons, history]
    rcases hstep with hready | ⟨T, hT, htask, hstage⟩
    · rcases ih hready htail with hend | ⟨T, hT, hrest⟩
      · exact .inl hend
      · exact .inr ⟨T, List.mem_append_right _ hT, hrest⟩
    · refine .inr ⟨T, List.mem_append_left _ ?_, htask, hstage⟩
      rw [hT]
      exact List.mem_singleton_self T

/-- **What a run does to a task that waits for a fetch**, as long as its call is not given up: it
waits until the fetch ends. Then it is told how, and takes note of that in its turn. -/
theorem waiting_run {s : State} (hw : (w, .flight c place) ∈ s.parked)
    (hc : w.provider.uses c = true) {ms : List Move} (hms : w.goesOn ms) :
    match (s.history ms).findSome? (·.lands c w.kid) with
    | none => (w, .flight c place) ∈ (s.run ms).parked
    | some o => (w, .told o.share) ∈ (s.run ms).ready ∨
        ∃ T ∈ s.history ms, T.task = w ∧ T.stage = .told o.share := by
  induction ms generalizing s with
  | nil => exact hw
  | cons m ms ih =>
    obtain ⟨hhead, htail⟩ := hms.of_cons
    rw [run_cons, history]
    cases hm : s.turn? m with
    | none => exact ih ((still_apply hm).staysParked w c place hw hhead) htail
    | some T =>
      have hbefore : (w, .flight c place) ∈ T.before.parked := by
        obtain ⟨i, -, hbefore⟩ := turn?_eq_some hm
        rw [hbefore]
        exact hw
      have hafter := follows_after hbefore hc
      rw [← apply_of_turn? hm] at hafter
      rw [Option.toList_some, List.singleton_append, List.findSome?_cons]
      cases hlands : T.lands c w.kid with
      | none =>
        rw [hlands] at hafter
        have hrest := ih hafter htail
        dsimp only
        cases hfirst : ((s.apply m).history ms).findSome? (·.lands c w.kid) with
        | none =>
          rw [hfirst] at hrest
          exact hrest
        | some o =>
          rw [hfirst] at hrest
          refine hrest.imp id ?_
          rintro ⟨T', hT', h⟩
          exact ⟨T', List.mem_cons_of_mem _ hT', h⟩
      | some o =>
        rw [hlands] at hafter
        refine (told_run hafter htail).imp id ?_
        rintro ⟨T', hT', h⟩
        exact ⟨T', List.mem_cons_of_mem _ hT', h⟩

end State

end SigningKeys
