import SigningKeys.Proofs.Cache.Contents
import SigningKeys.State.Settled

/-!
# Cascades

When calls end, those that wait for them are told and end in turn, and so on. The tasks end in the
order in which they became ready: what has ended is what was to end at first, followed by what each
of these tasks told. Everything that a cascade changes can be read off that list.

* `settle_of_ready`: turns are taken one by one until no task is ready;
* `State.ground`: what a cascade leaves alone;
* `State.tells`: the tasks that end because another one has ended, in the order of their places;
* `Cascade`: a state that a cascade has come to, told from the tasks that have ended;
* **`Cascade.finish`**, `Cascade.turn`, **`Cascade.settle`**: the end of a task, a turn, and all turns.
-/

namespace SigningKeys

/-- How a task ends that is ready, if it neither has to make its call first nor comes from the
network. -/
def Stage.end? (sources : List Source) (x : Task) : Stage → Option Outcome
  | .calling | .fetching _ => none
  | .admitted i n => (sources[i]?).map (·.outcome x.kid n)
  | .told result => some (.ofExcept result)

namespace State

/-! ## Turns, one by one -/

theorem turns_eq_settle {s : State} {n : Nat} (h : s.work ≤ n) : turns n s = s.settle := by
  have hall : ∀ n s m, s.work ≤ n → s.work ≤ m → turns n s = turns m s := by
    intro n
    induction n with
    | zero =>
      intro s m hn _
      have hready : s.ready = [] := by
        by_contra hne
        exact absurd (work_turn hne) (by omega)
      cases m with
      | zero => rfl
      | succ m => rw [turns, turns, if_pos (by rw [hready]; rfl)]
    | succ n ih =>
      intro s m hn hm
      by_cases hready : s.ready = []
      · have hempty : s.ready.isEmpty = true := by rw [hready]; rfl
        cases m with
        | zero => rw [turns, turns, if_pos hempty]
        | succ m => rw [turns, turns, if_pos hempty, if_pos hempty]
      · have hlt := work_turn hready
        have hempty : s.ready.isEmpty ≠ true := fun h => hready (List.isEmpty_iff.1 h)
        cases m with
        | zero => omega
        | succ m =>
          rw [turns, turns, if_neg hempty, if_neg hempty]
          exact ih _ _ (by omega) (by omega)
  exact hall n s s.work h (Nat.le_refl _)

theorem settle_of_ready {s : State} (h : s.ready ≠ []) : s.settle = s.turn.settle := by
  have hlt := work_turn h
  have hstep : turns (s.turn.work + 1) s = turns s.turn.work s.turn := by
    rw [turns, if_neg fun he => h (List.isEmpty_iff.1 he)]
  have hlarge : turns s.work s = turns (s.work - 1) s.turn := by
    obtain ⟨n, hn⟩ : ∃ n, s.work = n + 1 := ⟨s.work - 1, by omega⟩
    rw [hn, turns, if_neg fun he => h (List.isEmpty_iff.1 he), Nat.add_sub_cancel]
  rw [settle, hlarge]
  exact turns_eq_settle (by omega)

theorem settle_of_rest {s : State} (h : s.ready = []) : s.settle = s := by
  have hempty : s.ready.isEmpty = true := by rw [h]; rfl
  rw [settle]
  cases s.work with
  | zero => rfl
  | succ n => rw [turns, if_pos hempty]

/-! ## What a cascade changes -/

/-- What is the same before and after a cascade: everything but the caches, the tasks, the outcomes of
calls and the gauge. -/
def ground (s : State) : State :=
  { s with
    caches := [], ready := [], parked := [], ended := []
    meter := { s.meter with entries := none } }

/-- The tasks among the ready ones that end in their next turn, with their outcomes. -/
def ends (s : State) : List (Task × Outcome) :=
  s.ready.filterMap fun e => (e.2.end? s.sources e.1).map (e.1, ·)

/-- The tasks that end because another one has ended. -/
def tells (s : State) (e : Task × Outcome) : List (Task × Outcome) :=
  match e.1.role with
  | .fetch c => (s.waiting c e.1.kid).map (·, .ofExcept e.2.share)
  | .caller _ => []

end State

/-- Whether a parked task waits for another one. -/
def Task.frees (x : Task) (e : Task × Spot) : Bool :=
  match x.role with
  | .fetch c => (State.placeFor? c x.kid e).isSome
  | .caller _ => false

/-- A cache after the end of a task. -/
def Cache.upon (c : Nat) (now : Instant) (cache : Cache) (e : Task × Outcome) : Cache :=
  if e.1.role = .fetch c then (cache.keep now e.1.kid e.2).land e.1.kid else cache

/-- The cache that stores the key which a task brings, and tells its size. -/
def storesIn? (e : Task × Outcome) : Option Nat :=
  match e.1.role, e.2.key? with
  | .fetch c, some _ => some c
  | _, _ => none

/-- The number and the outcome of a call that ended. -/
def callEnd? (e : Task × Outcome) : Option (Nat × Outcome) :=
  match e.1.role with
  | .caller id => some (id, e.2)
  | .fetch _ => none

namespace State

/-- Every cache is used by a provider that is held. -/
def AllHeld (s : State) : Prop :=
  ∀ c < s.caches.length, ∃ p, some p ∈ s.held ∧ p.uses c = true

/-- **How far a cascade has come.** It began in the state `s`, with tasks in hand, and `Q` is what was
to end at first; the tasks in `P` have ended, in this order, and those in `H` are in hand. -/
structure Cascade (hand : List Task) (s : State) (Q P H : List (Task × Outcome)) (t : State) :
    Prop where
  ground : t.ground = s.ground
  tasks : (P.map Prod.fst ++ t.crew (H.map Prod.fst)).Perm (s.crew hand)
  settled : ∀ e ∈ t.ready, (e.2.end? s.sources e.1).isSome = true
  /-- The tasks end in the order in which they were told. -/
  queue : P ++ H ++ t.ends = Q ++ P.flatMap s.tells
  parked : t.parked = s.parked.filter fun e => !P.any (·.1.frees e)
  ended : t.ended = s.ended ++ P.filterMap callEnd?
  limits : t.caches.map Cache.limits = s.caches.map Cache.limits
  caches : ∀ c, t.reaches (H.map Prod.fst) c →
    t.caches[c]? = (s.caches[c]?).map fun cache => P.foldl (Cache.upon c s.now) cache
  gauge : s.AllHeld → t.meter.entries = match (P.filterMap storesIn?).getLast? with
    | some c => (t.caches[c]?).map Cache.size
    | none => s.meter.entries

theorem sources_of_ground {s t : State} (h : t.ground = s.ground) : t.sources = s.sources := by
  have hsame := congrArg State.sources h
  exact hsame

theorem now_of_ground {s t : State} (h : t.ground = s.ground) : t.now = s.now := by
  have hsame := congrArg State.now h
  exact hsame

theorem held_of_ground {s t : State} (h : t.ground = s.ground) : t.held = s.held := by
  have hsame := congrArg State.held h
  exact hsame

theorem started_of_ground {s t : State} (h : t.ground = s.ground) : t.started = s.started := by
  have hsame := congrArg State.started h
  exact hsame

theorem finish_of_end {s : State} {x : Task} {stage : Stage} {o : Outcome}
    (h : stage.end? s.sources x = some o) : s.advanceTask x stage = s.finish x o := by
  cases stage with
  | calling | fetching e => cases h
  | admitted i n =>
    obtain ⟨source, hsource, rfl⟩ := Option.map_eq_some_iff.1 h
    rw [advanceTask, hsource]
  | told result =>
    cases h
    rfl

theorem mem_tells {s : State} {e w : Task × Outcome} :
    w ∈ s.tells e ↔ ∃ c place, e.1.role = .fetch c ∧ w.1.kid = e.1.kid ∧
      (w.1, .flight c place) ∈ s.parked ∧ w.2 = .ofExcept e.2.share := by
  unfold tells
  cases hrole : e.1.role with
  | caller id => simp
  | fetch c =>
    simp only [List.mem_map, mem_waiting]
    constructor
    · rintro ⟨w', ⟨hkid, place, hmem⟩, rfl⟩
      exact ⟨c, place, rfl, hkid, hmem, rfl⟩
    · rintro ⟨d, place, hd, hkid, hmem, ho⟩
      cases hd
      exact ⟨w.1, ⟨hkid, place, hmem⟩, by rw [← ho]⟩

theorem frees_iff {x : Task} {e : Task × Spot} : x.frees e = true ↔
    ∃ c place, x.role = .fetch c ∧ e.1.kid = x.kid ∧ e.2 = .flight c place := by
  unfold Task.frees
  cases hrole : x.role with
  | caller id => simp
  | fetch c =>
    dsimp only
    rw [Option.isSome_iff_exists]
    constructor
    · rintro ⟨place, h⟩
      obtain ⟨hk, hs⟩ := placeFor?_eq_some.1 h
      exact ⟨c, place, rfl, hk, hs⟩
    · rintro ⟨d, place, hd, hk, hs⟩
      cases hd
      exact ⟨place, placeFor?_eq_some.2 ⟨hk, hs⟩⟩

/-! ## The end of a task -/

theorem ground_finish (s : State) (x : Task) (o : Outcome) : (s.finish x o).ground = s.ground := by
  unfold finish
  split
  · rfl
  · split
    · unfold land store
      split <;> split <;> rfl
    · rfl

theorem limits_finish (s : State) (x : Task) (o : Outcome) :
    (s.finish x o).caches.map Cache.limits = s.caches.map Cache.limits := by
  refine List.ext_getElem? fun c => ?_
  rw [List.getElem?_map, List.getElem?_map, caches_finish]
  split
  · rw [Option.map_map]
    refine congrArg (fun f => Option.map f _) (funext fun cache => ?_)
    rw [Function.comp_apply, Cache.land, Cache.keep]
    split <;> rfl
  · rfl

theorem perm_finish (s : State) (x : Task) (o : Outcome) : (s.finish x o).tasks.Perm s.tasks := by
  rcases s.finish_cases x o with ⟨id, -, heq⟩ | ⟨c, -, -, heq⟩ | ⟨c, cs, m, -, -, heq⟩
  · rw [heq]
    exact .refl _
  · rw [heq]
  · rw [heq]
    exact perm_tell _ _ _ _

theorem held_finish (s : State) (x : Task) (o : Outcome) : (s.finish x o).held = s.held :=
  held_of_ground (s.ground_finish x o)

theorem storesIn?_eq_some {e : Task × Outcome} {c : Nat} :
    storesIn? e = some c ↔ e.1.role = .fetch c ∧ ∃ j, e.2.key? = some j := by
  unfold storesIn?
  cases e.1.role with
  | caller id => simp
  | fetch d => cases e.2.key? <;> simp

/-- A task that brings no key leaves all sizes and the gauge as they are. -/
theorem size_finish {s : State} {x : Task} {o : Outcome} (h : storesIn? (x, o) = none) (c : Nat) :
    ((s.finish x o).caches[c]?).map Cache.size = (s.caches[c]?).map Cache.size ∧
      (s.finish x o).meter.entries = s.meter.entries := by
  cases hrole : x.role with
  | caller id =>
    rw [finish_caller o hrole]
    exact ⟨rfl, rfl⟩
  | fetch d =>
    have hkey : o.key? = none := by
      rw [Option.eq_none_iff_forall_ne_some]
      intro j hj
      rw [storesIn?_eq_some.2 ⟨hrole, j, hj⟩] at h
      cases h
    have hkeep : ∀ cache : Cache, cache.keep s.now x.kid o = cache := by
      intro cache
      rw [Cache.keep, hkey]
    have hstore : s.store d x.kid o = s := by
      rw [store, hkey]
      cases s.caches[d]? <;> rfl
    constructor
    · rw [caches_finish]
      split
      · rw [Option.map_map]
        refine congrArg (fun f => Option.map f _) (funext fun cache => ?_)
        rw [Function.comp_apply, hkeep]
        rfl
      · rfl
    · rw [finish, hrole]
      dsimp only
      rw [hstore, land]
      split
      · split <;> rfl
      · rfl

/-- A task that brings a key makes its cache tell its size. -/
theorem entries_finish {s : State} {x : Task} {o : Outcome} {c : Nat} {cache : Cache}
    (h : storesIn? (x, o) = some c) (hlive : s.holds c = true) (hc : s.caches[c]? = some cache) :
    (s.finish x o).meter.entries = ((s.finish x o).caches[c]?).map Cache.size := by
  obtain ⟨hrole, j, hj⟩ := storesIn?_eq_some.1 h
  have hj' : o.key? = some j := hj
  have hlt := (List.getElem?_eq_some_iff.1 hc).1
  rw [caches_finish, if_pos ⟨hrole, hlive⟩, hc, Option.map_some, Cache.keep, hj', finish, hrole]
  dsimp only
  rw [if_pos hlive, store, hc, hj', land]
  split <;> rfl

variable {s t : State} {behind : List Provider} {hand : List Task} {Q P : List (Task × Outcome)}
  {x : Task} {o : Outcome} {c : Nat}

/-- Two tasks that fetch a key for the same cache are the same. -/
theorem Wired.eq_of_fetch {y : Task} (h : s.Wired behind hand) (hx : x ∈ s.crew hand)
    (hy : y ∈ s.crew hand) (hxc : x.role = .fetch c) (hyc : y.role = .fetch c)
    (hkid : x.kid = y.kid) : x = y := by
  have hp := (h.role x hx c hxc).symm.trans (h.role y hy c hyc)
  obtain ⟨rx, kx, px⟩ := x
  obtain ⟨ry, ky, py⟩ := y
  cases hxc
  cases hyc
  cases hkid
  cases hp
  rfl

theorem Wired.lt_of_fetch (h : s.Wired behind hand) (hx : x ∈ s.crew hand)
    (hxc : x.role = .fetch c) : c < s.caches.length := by
  rw [← h.caches]
  exact (List.getElem?_eq_some_iff.1 (h.role x hx c hxc)).1

namespace Cascade

theorem length {H : List (Task × Outcome)} (h : Cascade hand s Q P H t) :
    t.caches.length = s.caches.length := by
  simpa using congrArg List.length h.limits

/-- Of the tasks that are told of the end of one of them, none was told before. -/
theorem not_frees (h : Cascade hand s Q P [(x, o)] t) (hw : s.Wired behind hand)
    (hd : (s.crew hand).Nodup) {e : Task × Spot} (he : x.frees e = true) :
    P.any (·.1.frees e) = false := by
  rw [← Bool.not_eq_true, List.any_eq_true]
  rintro ⟨p, hp, hpe⟩
  obtain ⟨c, place, hxc, hxk, hxs⟩ := frees_iff.1 he
  obtain ⟨d, place', hpd, hpk, hps⟩ := frees_iff.1 hpe
  cases hxs.symm.trans hps
  have hmem : p.1 ∈ P.map Prod.fst := List.mem_map_of_mem hp
  have hxcrew : x ∈ s.crew hand :=
    h.tasks.mem_iff.1 (List.mem_append_right _ (List.mem_append_left _ (List.mem_singleton_self x)))
  have hpcrew : p.1 ∈ s.crew hand := h.tasks.mem_iff.1 (List.mem_append_left _ hmem)
  have hsame := hw.eq_of_fetch hxcrew hpcrew hxc hpd (hxk.symm.trans hpk)
  have hnodup := h.tasks.nodup_iff.2 hd
  refine (List.nodup_append.1 hnodup).2.2 p.1 hmem x ?_ hsame.symm
  exact List.mem_append_left _ (List.mem_singleton_self x)

/-- Those that wait for a task in hand have done so from the beginning. -/
theorem waiting_eq (h : Cascade hand s Q P [(x, o)] t) (hw : s.Wired behind hand)
    (hd : (s.crew hand).Nodup) (hx : x.role = .fetch c) :
    t.waiting c x.kid = s.waiting c x.kid := by
  unfold waiting
  rw [h.parked, List.filterMap_filter]
  refine congrArg (fun l => (List.foldr seat [] l).map Prod.snd) (List.filterMap_congr fun e _ => ?_)
  by_cases he : x.frees e = true
  · rw [h.not_frees hw hd he]
    rfl
  · have hnone : placeFor? c x.kid e = none := by
      rw [Task.frees, hx] at he
      simpa using he
    rw [hnone]
    exact ite_self _

/-- Nobody waits for the fetch of a cache out of reach. -/
theorem waiting_eq_nil (h : Cascade hand s Q P [(x, o)] t) (hw : s.Wired behind hand)
    (hdead : t.holds c = false) (kid : String) : t.waiting c kid = [] := by
  refine List.eq_nil_iff_forall_not_mem.2 fun w hwait => ?_
  obtain ⟨-, place, hmem⟩ := mem_waiting.1 hwait
  have hparked : (w, Spot.flight c place) ∈ s.parked := by
    rw [h.parked] at hmem
    exact List.mem_of_mem_filter hmem
  obtain ⟨inner, hinner⟩ := hw.parked _ hparked
  have hreach : t.reaches [] c :=
    ⟨w.provider, .inr ⟨w, mem_crew_of_parked hmem [], rfl⟩, Provider.uses_of_core_eq hinner⟩
  rw [(holds_iff t c).2 hreach] at hdead
  cases hdead

/-- What the end of a task in hand does to the other tasks, and to the outcomes of calls. -/
theorem finish_tasks (h : Cascade hand s Q P [(x, o)] t) (hw : s.Wired behind hand)
    (hd : (s.crew hand).Nodup) :
    (t.finish x o).ready = t.ready ++ (s.tells (x, o)).map (fun e => (e.1, Stage.told o.share)) ∧
      (t.finish x o).parked = t.parked.filter (fun e => !x.frees e) ∧
      (t.finish x o).ended = t.ended ++ (callEnd? (x, o)).toList := by
  cases hrole : x.role with
  | caller id =>
    have hfrees : ∀ e, x.frees e = false := fun e => by rw [Task.frees, hrole]
    have htells : s.tells (x, o) = [] := by rw [tells, hrole]
    rw [finish_caller o hrole, htells, callEnd?, hrole]
    refine ⟨(List.append_nil _).symm, ?_, rfl⟩
    simp [hfrees]
  | fetch c =>
    have hwaiting := h.waiting_eq hw hd hrole
    have htells : s.tells (x, o) = (s.waiting c x.kid).map (·, .ofExcept o.share) := by
      rw [tells, hrole]
    have hmap : (s.tells (x, o)).map (fun e => (e.1, Stage.told o.share)) =
        (s.waiting c x.kid).map (·, .told o.share) := by
      rw [htells, List.map_map]
      rfl
    have hend : callEnd? (x, o) = none := by rw [callEnd?, hrole]
    have hfilter : (fun e => (placeFor? c x.kid e).isNone) = fun e => !x.frees e := by
      funext e
      rw [Task.frees, hrole]
      exact (Option.not_isSome _).symm
    rw [hend, hmap, Option.toList_none, List.append_nil]
    cases hlive : t.holds c with
    | true =>
      rcases t.finish_cases x o with ⟨id, hr, -⟩ | ⟨d, hr, hdead, -⟩ | ⟨d, cs, m, hr, -, heq⟩
      · rw [hrole] at hr
        cases hr
      · rw [hrole] at hr
        cases hr
        rw [hdead] at hlive
        cases hlive
      · rw [hrole] at hr
        cases hr
        rw [heq, ← hwaiting, ← hfilter]
        exact ⟨rfl, rfl, rfl⟩
    | false =>
      have hnil := h.waiting_eq_nil hw hlive x.kid
      have hparked : t.parked.filter (fun e => !x.frees e) = t.parked := by
        rw [List.filter_eq_self]
        intro e he
        rw [Bool.not_eq_true', ← Bool.not_eq_true]
        intro hfree
        obtain ⟨d, place, hxd, hk, hs⟩ := frees_iff.1 hfree
        cases hrole.symm.trans hxd
        have hmem : e.1 ∈ t.waiting c x.kid := mem_waiting.2 ⟨hk, place, by rw [← hs]; exact he⟩
        rw [hnil] at hmem
        exact List.not_mem_nil hmem
      rw [finish_lost o hrole hlive, hparked, ← hwaiting, hnil]
      exact ⟨(List.append_nil _).symm, rfl, rfl⟩

/-- **The end of a task in hand** carries the cascade on. -/
theorem finish (h : Cascade hand s Q P [(x, o)] t) (hw : s.Wired behind hand)
    (hd : (s.crew hand).Nodup) : Cascade hand s Q (P ++ [(x, o)]) [] (t.finish x o) := by
  obtain ⟨hready, hparked, hended⟩ := h.finish_tasks hw hd
  have hground : (t.finish x o).ground = s.ground := (ground_finish t x o).trans h.ground
  have hreach : ∀ c, (t.finish x o).reaches [] c → t.reaches [] c := fun c hc =>
    hc.mono (fun q hq => (held_finish t x o) ▸ hq) fun y hy => (perm_finish t x o).mem_iff.1 hy
  constructor
  case ground => exact hground
  case tasks =>
    rw [List.map_append, List.append_assoc]
    exact ((perm_finish t x o).cons x |>.append_left _).trans h.tasks
  case settled =>
    intro e he
    rw [hready] at he
    rcases List.mem_append.1 he with he | he
    · exact h.settled e he
    · obtain ⟨w, -, rfl⟩ := List.mem_map.1 he
      rfl
  case queue =>
    have hends : (t.finish x o).ends = t.ends ++ s.tells (x, o) := by
      rw [ends, ends, hready, sources_of_ground hground, sources_of_ground h.ground,
        List.filterMap_append, List.filterMap_map]
      have hself : ∀ w ∈ s.tells (x, o), ((fun e : Task × Stage =>
          (e.2.end? s.sources e.1).map (e.1, ·)) ∘ fun e => (e.1, Stage.told o.share)) w = some w := by
        intro w hw
        obtain ⟨c, place, -, -, -, ho⟩ := mem_tells.1 hw
        rw [Function.comp_apply, Stage.end?, Option.map_some, ← ho]
      rw [List.filterMap_congr hself, List.filterMap_some]
    rw [hends, List.append_nil, List.flatMap_append, List.flatMap_singleton, ← List.append_assoc,
      h.queue, List.append_assoc]
  case parked =>
    rw [hparked, h.parked, List.filter_filter]
    refine List.filter_congr fun e _ => ?_
    rw [List.any_append, List.any_cons, List.any_nil, Bool.or_false, Bool.not_or, Bool.and_comm]
  case ended =>
    rw [hended, h.ended, List.filterMap_append, List.append_assoc]
    refine congrArg (fun l => s.ended ++ (P.filterMap callEnd? ++ l)) ?_
    cases hend : callEnd? (x, o) <;> simp [hend]
  case limits => exact (limits_finish t x o).trans h.limits
  case caches =>
    intro c hc
    have hlive := hreach c hc
    have hnow := now_of_ground h.ground
    have hall : t.caches[c]? = (s.caches[c]?).map fun cache => P.foldl (Cache.upon c s.now) cache :=
      h.caches c (hlive.mono (fun _ => id) fun _ hy => List.mem_cons_of_mem _ hy)
    have hstep : ∀ cache, (P ++ [(x, o)]).foldl (Cache.upon c s.now) cache =
        (P.foldl (Cache.upon c s.now) cache).upon c s.now (x, o) := fun cache => List.foldl_append
    rw [caches_finish, hall]
    simp only [hstep]
    by_cases hrole : x.role = .fetch c
    · rw [if_pos ⟨hrole, (holds_iff t c).2 hlive⟩, Option.map_map, hnow]
      refine congrArg (fun f => Option.map f _) (funext fun cache => ?_)
      rw [Cache.upon, if_pos hrole]
      rfl
    · rw [if_neg fun hr => hrole hr.1]
      refine congrArg (fun f => Option.map f _) (funext fun cache => ?_)
      rw [Cache.upon, if_neg hrole]
  case gauge =>
    intro hall
    rw [List.filterMap_append]
    cases hstores : storesIn? (x, o) with
    | none =>
      have hsame := size_finish (s := t) hstores
      have hnil : [(x, o)].filterMap storesIn? = [] := by simp [hstores]
      rw [hnil, List.append_nil, (hsame 0).2, h.gauge hall]
      cases (P.filterMap storesIn?).getLast? with
      | none => rfl
      | some c => exact (hsame c).1.symm
    | some c =>
      have hlast : [(x, o)].filterMap storesIn? = [c] := by simp [hstores]
      obtain ⟨hrole, -⟩ := storesIn?_eq_some.1 hstores
      have hxcrew : x ∈ s.crew hand := h.tasks.mem_iff.1
        (List.mem_append_right _ (List.mem_append_left _ (List.mem_singleton_self x)))
      have hlt := hw.lt_of_fetch hxcrew hrole
      have hheld := held_of_ground h.ground
      obtain ⟨p, hp, hu⟩ := hall c hlt
      have hlive : t.holds c = true := (holds_iff t c).2 ⟨p, .inl (hheld ▸ hp), hu⟩
      rw [hlast, List.getLast?_concat]
      exact entries_finish hstores hlive (List.getElem?_eq_getElem (h.length ▸ hlt))

/-! ## Turns -/

/-- **The beginning**: some tasks are in hand, and all that are ready are about to end. -/
theorem start (s : State) (H : List (Task × Outcome))
    (h : ∀ e ∈ s.ready, (e.2.end? s.sources e.1).isSome = true) :
    Cascade (H.map Prod.fst) s (H ++ s.ends) [] H s := by
  constructor
  case ground | limits | parked => simp
  case tasks => exact .refl _
  case settled => exact h
  case queue => simp
  case ended => simp
  case caches => simp
  case gauge => exact fun _ => rfl

/-- The task that has been ready for the longest time is taken in hand. -/
theorem pick (h : Cascade hand s Q P [] t) {stage : Stage} {rest : List (Task × Stage)}
    (hready : t.ready = (x, stage) :: rest) (ho : stage.end? s.sources x = some o) :
    Cascade hand s Q P [(x, o)] { t with ready := rest } := by
  have hends : t.ends = (x, o) :: { t with ready := rest }.ends := by
    rw [ends, hready]
    refine List.filterMap_cons_some ?_
    rw [sources_of_ground h.ground, ho]
    rfl
  have hperm : t.tasks.Perm (x :: { t with ready := rest }.tasks) := by
    rw [State.tasks, hready]
    exact .refl _
  constructor
  case ground => exact h.ground
  case tasks => exact (hperm.symm.append_left _).trans h.tasks
  case settled => exact fun e he => h.settled e (hready ▸ List.mem_cons_of_mem _ he)
  case queue =>
    rw [← h.queue, hends, List.append_nil, List.append_assoc]
    rfl
  case parked => exact h.parked
  case ended => exact h.ended
  case limits => exact h.limits
  case caches =>
    intro c hc
    exact h.caches c (hc.mono (fun _ => id) fun y hy => hperm.mem_iff.2 hy)
  case gauge => exact h.gauge

/-- **A turn** carries the cascade on. -/
theorem turn (h : Cascade hand s Q P [] t) (hw : s.Wired behind hand) (hd : (s.crew hand).Nodup)
    (hready : t.ready ≠ []) : ∃ P', Cascade hand s Q P' [] t.turn := by
  cases he : t.ready with
  | nil => exact absurd he hready
  | cons e rest =>
    obtain ⟨o, ho⟩ := Option.isSome_iff_exists.1 (h.settled e (he ▸ List.mem_cons_self))
    have hnext := (h.pick he ho).finish hw hd
    have hturn : t.turn = { t with ready := rest }.finish e.1 o := by
      rw [State.turn, he]
      refine finish_of_end ?_
      rw [← ho]
      exact congrArg (e.2.end? · e.1) (sources_of_ground h.ground)
    exact ⟨_, hturn ▸ hnext⟩

/-- **All turns**: when no task is ready any more, what has ended is what was to end at first, followed
by what each of these tasks told. -/
theorem settle (h : Cascade hand s Q P [] t) (hw : s.Wired behind hand)
    (hd : (s.crew hand).Nodup) :
    ∃ P', Cascade hand s Q P' [] t.settle ∧ P' = Q ++ P'.flatMap s.tells := by
  have hturns : ∀ n t P, Cascade hand s Q P [] t → ∃ P', Cascade hand s Q P' [] (turns n t) := by
    intro n
    induction n with
    | zero => exact fun t P h => ⟨P, h⟩
    | succ n ih =>
      intro t P h
      rw [turns]
      split
      · exact ⟨P, h⟩
      · rename_i hready
        obtain ⟨P', h'⟩ := h.turn hw hd fun he => hready (List.isEmpty_iff.2 he)
        exact ih _ _ h'
  obtain ⟨P', h'⟩ := hturns t.work t P h
  have hqueue := h'.queue
  have hnone : (turns t.work t).ends = [] := by
    have hrest : (turns t.work t).ready = [] := ready_settle t
    rw [ends, hrest]
    rfl
  rw [hnone, List.append_nil, List.append_nil] at hqueue
  exact ⟨P', h', hqueue⟩

end Cascade

end State

end SigningKeys
