import SigningKeys.Proofs.Apart.Split
import SigningKeys.Proofs.Run.Cascades

/-!
# One side by itself

A run of one side by itself goes through states that look like those of the whole run, to anybody
who looks at this side only. Calls have other numbers there, because only those of this side are
counted.

* `Task.renumbered`, `Split.seen?`, `Split.seenEnd?`: what is left of tasks and of outcomes;
* `State.Twin`: a state of the side by itself, and one of the whole run;
* `Twin.confined`: what happens on the other side keeps states twins;
* **`Twin.call`**, `Twin.finish`, `Twin.advanceTask`: so do a call, the end of a task, and a turn;
* **`Twin.settle`**: so do all turns.
-/

namespace SigningKeys

/-- A role with the number that a call has among those of its side. -/
def Role.renumbered (π : Split) : Role → Role
  | .caller id => .caller (π.calls.idxOf id)
  | .fetch c => .fetch c

def Task.renumbered (π : Split) (x : Task) : Task := { x with role := x.role.renumbered π }

namespace Split

/-- What is left of a task when only the side `true` is looked at. -/
def seenTask? (π : Split) (x : Task) : Option Task :=
  if x.on π true then some (x.renumbered π) else none

/-- The same for a task with what it does next, or with the spot at which it is parked. -/
def seen? {α : Type} (π : Split) (e : Task × α) : Option (Task × α) :=
  (π.seenTask? e.1).map (·, e.2)

/-- What is left of the outcome of a call. -/
def seenEnd? (π : Split) (e : Nat × Outcome) : Option (Nat × Outcome) :=
  if π.call e.1 then some (π.calls.idxOf e.1, e.2) else none

variable {π : Split} {α : Type} {e : Task × α}

theorem seen?_of_on (h : e.1.on π true = true) : π.seen? e = some (e.1.renumbered π, e.2) := by
  rw [seen?, seenTask?, if_pos h]
  rfl

theorem seen?_of_not_on (h : e.1.on π true = false) : π.seen? e = none := by
  rw [seen?, seenTask?, h]
  rfl

theorem seen?_eq_none (h : e.1.on π false = true) : π.seen? e = none :=
  seen?_of_not_on (Bool.eq_false_iff.2 fun h' => Bool.false_ne_true (Task.eq_of_on h h'))

end Split

namespace State

/-- **A state of the side `true` by itself**, and a state of the whole run. -/
structure Twin (π : Split) (s' s : State) : Prop where
  now : s'.now = s.now
  delay' : s'.delay = Duration.zero
  delay : s.delay = Duration.zero
  offline' : π.offline = true → s'.network = .unreachable
  offline : π.offline = true → s.network = .unreachable
  sources : ∀ i, π.source i = true → s'.sources[i]? = s.sources[i]?
  buckets : ∀ i, π.bucket i = true → s'.buckets[i]? = s.buckets[i]?
  caches : ∀ c, π.cache c = true → s'.caches[c]? = s.caches[c]?
  held : ∀ k, π.provider k = true → s'.provider? k = s.provider? k
  /-- What is held besides is of no use to this side. -/
  housed : ∀ k p, s'.provider? k = some p → p.on π (π.provider k) = true
  ready : s'.ready = s.ready.filterMap π.seen?
  parked : s'.parked = s.parked.filterMap π.seen?
  ended : s'.ended = s.ended.filterMap π.seenEnd?
  started : s'.started = π.calls.length
  past : ∀ id ∈ π.calls, id < s.started
  nodup : π.calls.Nodup

variable {π : Split} {s s' t : State} {x : Task} {c i : Nat} {kid : String} {p inner : Provider}

/-! ## Lists -/

theorem filterMap_of_filter_eq {α β : Type} {v : α → Option β} {q : α → Bool} {l l' : List α}
    (hv : ∀ a, q a = true → v a = none) (h : l'.filter (!q ·) = l.filter (!q ·)) :
    l'.filterMap v = l.filterMap v := by
  have hall : ∀ l : List α, l.filterMap v = (l.filter (!q ·)).filterMap v := by
    intro l
    rw [List.filterMap_filter]
    refine List.filterMap_congr fun a _ => ?_
    cases hq : q a with
    | true => simp [hv a hq]
    | false => simp
  rw [hall l', hall l, h]

theorem getElem?_set_congr {α : Type} {own : Nat → Bool} {l l' : List α}
    (h : ∀ i, own i = true → l'[i]? = l[i]?) (j : Nat) (a : α) (i : Nat) (hi : own i = true) :
    (l'.set j a)[i]? = (l.set j a)[i]? := by
  rw [List.getElem?_set', List.getElem?_set', h i hi]

namespace Twin

/-- **What happens on the other side** is not seen. -/
theorem confined (h : Twin π s' s) (ht : Confined π false s t) : Twin π s' t := by
  have hheld : ∀ k, t.provider? k = s.provider? k := fun k => by rw [provider?, provider?, ht.held]
  constructor
  case now => exact h.now.trans ht.now.symm
  case delay' => exact h.delay'
  case delay => exact ht.delay.trans h.delay
  case offline' => exact h.offline'
  case offline => exact fun ho => ht.network.trans (h.offline ho)
  case sources => exact fun i hi => (h.sources i hi).trans (ht.sources i (by simp [hi])).symm
  case buckets => exact fun i hi => (h.buckets i hi).trans (ht.buckets i (by simp [hi])).symm
  case caches => exact fun c hc => (h.caches c hc).trans (ht.caches c (by simp [hc])).symm
  case held => exact fun k hk => (h.held k hk).trans (hheld k).symm
  case housed => exact h.housed
  case ready =>
    rw [h.ready]
    exact (filterMap_of_filter_eq
      (fun e he => Split.seen?_eq_none (Split.ready_iff.1 he).1) ht.ready).symm
  case parked =>
    rw [h.parked]
    exact (filterMap_of_filter_eq
      (fun e he => Split.seen?_eq_none (Split.parked_iff.1 he).1) ht.parked).symm
  case ended =>
    rw [h.ended]
    refine (filterMap_of_filter_eq (fun e he => if_neg ?_) ht.ended).symm
    rw [eq_of_beq (a := π.call e.1) he]
    exact Bool.false_ne_true
  case started => exact h.started
  case past => exact fun id hid => ht.started ▸ h.past id hid
  case nodup => exact h.nodup

theorem setSource (h : Twin π s' s) (i : Nat) (source : Source) :
    Twin π (s'.setSource i source) (s.setSource i source) :=
  { h with sources := getElem?_set_congr h.sources i source }

theorem setBucket (h : Twin π s' s) (i : Nat) (bucket : TokenBucket) :
    Twin π (s'.setBucket i bucket) (s.setBucket i bucket) :=
  { h with buckets := getElem?_set_congr h.buckets i bucket }

theorem setCache (h : Twin π s' s) (c : Nat) (cache : Cache) :
    Twin π (s'.setCache c cache) (s.setCache c cache) :=
  { h with caches := getElem?_set_congr h.caches c cache }

/-- The meter counts for both sides. -/
theorem setMeter (h : Twin π s' s) (m' m : Meter) :
    Twin π { s' with meter := m' } { s with meter := m } := { h with }

theorem enqueue (h : Twin π s' s) (hx : x.on π true = true) (stage : Stage) :
    Twin π (s'.enqueue (x.renumbered π) stage) (s.enqueue x stage) :=
  { h with
    ready := by
      rw [State.enqueue, State.enqueue, List.filterMap_append, h.ready,
        List.filterMap_cons_some (Split.seen?_of_on hx), List.filterMap_nil] }

theorem park (h : Twin π s' s) (hx : x.on π true = true) (spot : Spot) :
    Twin π (s'.park (x.renumbered π) spot) (s.park x spot) :=
  { h with
    parked := by
      rw [State.park, State.park, List.filterMap_append, h.parked,
        List.filterMap_cons_some (Split.seen?_of_on hx), List.filterMap_nil] }

/-! ## Calls -/

theorem await (h : Twin π s' s) (kid : String) (hc : π.cache c = true) (hp : inner.on π true = true)
    (cache : Cache) : (s'.await kid inner c cache).1 = (s.await kid inner c cache).1 ∧
      Twin π (s'.await kid inner c cache).2 (s.await kid inner c cache).2 := by
  unfold State.await
  cases cache.board? kid with
  | some e => exact ⟨rfl, (h.setCache c _).setMeter _ _⟩
  | none =>
    have hfetch : Task.on π true ⟨.fetch c, kid, inner⟩ = true := by
      simp [Task.on, Role.on, hc, hp]
    exact ⟨rfl, ((h.setCache c _).setMeter _ _).enqueue hfetch .calling⟩

/-- **A call of a provider of this side** gets as far in both states. -/
theorem call (h : Twin π s' s) (kid : String) (hp : p.on π true = true) :
    (State.call kid p s').1 = (State.call kid p s).1 ∧
      Twin π (State.call kid p s').2 (State.call kid p s).2 := by
  induction p generalizing s' s with
  | source i =>
    rw [State.call, State.call, callSource, callSource, h.sources i (eq_of_beq hp)]
    cases s.sources[i]? with
    | none => exact ⟨rfl, h⟩
    | some source =>
      dsimp only
      cases (source.arrive kid).2.1 with
      | true => exact ⟨rfl, h.setSource i _⟩
      | false => exact ⟨rfl, h.setSource i _⟩
  | remote r =>
    rw [State.call, State.call, h.now]
    exact ⟨rfl, h⟩
  | limited inner k ih =>
    obtain ⟨hk, hinner⟩ := Bool.and_eq_true_iff.1 hp
    rw [State.call, State.call, h.buckets k (eq_of_beq hk), h.now]
    cases s.buckets[k]? with
    | none => exact ⟨rfl, h⟩
    | some bucket =>
      have hset := h.setBucket k (bucket.acquire s.now 1).2
      dsimp only
      split
      · exact ih (hset.setMeter _ _) hinner
      all_goals exact ⟨rfl, hset.setMeter _ _⟩
  | cached inner c ih =>
    obtain ⟨hc, hinner⟩ := Bool.and_eq_true_iff.1 hp
    rw [State.call, State.call, h.caches c (eq_of_beq hc), h.now]
    cases s.caches[c]? with
    | none => exact ⟨rfl, h⟩
    | some cache =>
      dsimp only
      split
      · exact ⟨rfl, h.setMeter _ _⟩
      · exact h.await kid (eq_of_beq hc) hinner _
      · exact Twin.await (h.setMeter _ _) kid (eq_of_beq hc) hinner _

/-! ## The end of a task -/

theorem tasks (h : Twin π s' s) : s'.tasks = s.tasks.filterMap π.seenTask? := by
  have hmap : ∀ {α : Type} (l : List (Task × α)), (l.filterMap π.seen?).map (·.1) =
      (l.map (·.1)).filterMap π.seenTask? := by
    intro α l
    rw [List.map_filterMap, List.filterMap_map]
    refine List.filterMap_congr fun e _ => ?_
    rw [Split.seen?, Option.map_map]
    exact Option.map_id'
  rw [State.tasks, State.tasks, h.ready, h.parked, hmap, hmap, List.filterMap_append]

/-- A cache of this side is in reach in both states, or in none. -/
theorem holds_eq (h : Twin π s' s) (hs : s.Parted π) (hc : π.cache c = true) :
    s'.holds c = s.holds c := by
  have hmem : ∀ (u : State) (p : Provider), some p ∈ u.held ↔ ∃ k, u.provider? k = some p := by
    intro u p
    simp only [provider?, Option.join_eq_some_iff, List.mem_iff_getElem?]
  have hside : ∀ {p : Provider} {b : Bool}, p.on π b = true → p.uses c = true → b = true :=
    fun hp hu => (Provider.cache_of_uses hp hu).symm.trans hc
  rw [Bool.eq_iff_iff, holds_iff, holds_iff]
  constructor
  · rintro ⟨p, hp | ⟨x, hx, rfl⟩, hu⟩
    · obtain ⟨k, hk⟩ := (hmem s' p).1 hp
      have hown := hside (h.housed k p hk) hu
      exact ⟨p, .inl ((hmem s p).2 ⟨k, (h.held k hown).symm.trans hk⟩), hu⟩
    · rw [crew, List.nil_append, h.tasks] at hx
      obtain ⟨y, hy, hseen⟩ := List.mem_filterMap.1 hx
      obtain ⟨-, heq⟩ := Option.ite_none_right_eq_some.1 hseen
      cases heq
      exact ⟨_, .inr ⟨y, hy, rfl⟩, hu⟩
  · rintro ⟨p, hp | ⟨x, hx, rfl⟩, hu⟩
    · obtain ⟨k, hk⟩ := (hmem s p).1 hp
      have hown := hside (hs.held k p hk) hu
      exact ⟨p, .inl ((hmem s' p).2 ⟨k, (h.held k hown).trans hk⟩), hu⟩
    · obtain ⟨b, hb⟩ := hs.task x hx
      rw [hside (Task.on_iff.1 hb).2 hu] at hb
      refine ⟨_, .inr ⟨x.renumbered π, ?_, rfl⟩, hu⟩
      rw [crew, List.nil_append, h.tasks]
      exact List.mem_filterMap.2 ⟨x, hx, if_pos hb⟩

theorem seat_map {f : Task → Task} (e : Nat × Task) (l : List (Nat × Task)) :
    seat (e.1, f e.2) (l.map fun e => (e.1, f e.2)) =
      (seat e l).map fun e => (e.1, f e.2) := by
  induction l with
  | nil => rfl
  | cons g l ih =>
    rw [List.map_cons, seat, seat]
    split
    · rfl
    · rw [ih, List.map_cons]

theorem foldr_seat_map {f : Task → Task} (l : List (Nat × Task)) :
    (l.map fun e => (e.1, f e.2)).foldr seat [] =
      (l.foldr seat []).map fun e => (e.1, f e.2) := by
  induction l with
  | nil => rfl
  | cons e l ih => rw [List.map_cons, List.foldr_cons, List.foldr_cons, ih, seat_map]

/-- Who is parked, with the places of those who wait for a fetch of this side. -/
theorem filterMap_seen (hs : s.Parted π) (hc : π.cache c = true) (kid : String) :
    (s.parked.filterMap π.seen?).filterMap (fun e => (placeFor? c kid e).map (·, e.1)) =
      (s.parked.filterMap fun e => (placeFor? c kid e).map (·, e.1)).map
        fun e => (e.1, e.2.renumbered π) := by
  rw [List.filterMap_filterMap, List.map_filterMap]
  refine List.filterMap_congr fun e he => ?_
  cases hp : placeFor? c kid e with
  | none =>
    cases hon : e.1.on π true with
    | true =>
      have hsame : placeFor? c kid (e.1.renumbered π, e.2) = none := hp
      rw [Split.seen?_of_on hon]
      simp [hsame]
    | false =>
      rw [Split.seen?_of_not_on hon]
      rfl
  | some place =>
    have hon := hs.on_of_place he hp
    rw [hc] at hon
    have hsame : placeFor? c kid (e.1.renumbered π, e.2) = some place := hp
    rw [Split.seen?_of_on (Split.parked_iff.1 hon).1]
    simp [hsame]

theorem waiting_eq (h : Twin π s' s) (hs : s.Parted π) (hc : π.cache c = true) (kid : String) :
    s'.waiting c kid = (s.waiting c kid).map (·.renumbered π) := by
  rw [waiting, waiting, h.parked, filterMap_seen hs hc, foldr_seat_map, List.map_map, List.map_map]
  rfl

theorem tell (h : Twin π s' s) (hs : s.Parted π) (hc : π.cache c = true) (kid : String)
    (result : Except KeyError Jwk) : Twin π (s'.tell c kid result) (s.tell c kid result) := by
  have htold : ((s.waiting c kid).map (·, Stage.told result)).filterMap π.seen? =
      (s'.waiting c kid).map (·, .told result) := by
    rw [h.waiting_eq hs hc, List.filterMap_map, List.map_map, ← List.filterMap_eq_map]
    refine List.filterMap_congr fun x hx => ?_
    obtain ⟨hk, place, hmem⟩ := mem_waiting.1 hx
    have hplace : placeFor? c kid (x, .flight c place) = some place :=
      placeFor?_eq_some.2 ⟨hk, rfl⟩
    have hon := hs.on_of_place hmem hplace
    rw [hc] at hon
    exact Split.seen?_of_on (Split.parked_iff.1 hon).1
  refine { h with ready := ?_, parked := ?_ }
  · rw [State.tell, State.tell, List.filterMap_append, htold, h.ready]
  · rw [State.tell, State.tell, h.parked, List.filter_filterMap, List.filterMap_filter]
    refine List.filterMap_congr fun e _ => ?_
    cases hon : e.1.on π true with
    | true =>
      have hsame : placeFor? c kid (e.1.renumbered π, e.2) = placeFor? c kid e := rfl
      rw [Split.seen?_of_on hon]
      cases hp : placeFor? c kid e <;> simp [hsame, hp]
    | false =>
      rw [Split.seen?_of_not_on hon]
      simp

theorem store (h : Twin π s' s) (hc : π.cache c = true) (kid : String) (o : Outcome) :
    Twin π (s'.store c kid o) (s.store c kid o) := by
  unfold State.store
  rw [h.caches c hc, h.now]
  split
  · exact (h.setCache c _).setMeter _ _
  · exact h

theorem land (h : Twin π s' s) (hc : π.cache c = true) (kid : String) :
    Twin π (s'.land c kid) (s.land c kid) := by
  unfold State.land
  rw [h.caches c hc]
  split
  · exact h.setCache c _
  · exact h

/-- **A task of this side ends** in both states. -/
theorem finish (h : Twin π s' s) (hs : s.Parted π) (hx : x.on π true = true) (o : Outcome) :
    Twin π (s'.finish (x.renumbered π) o) (s.finish x o) := by
  have hrole := (Task.on_iff.1 hx).1
  unfold State.finish
  cases hr : x.role with
  | caller id =>
    rw [hr] at hrole
    have hcall : π.call id = true := eq_of_beq hrole
    have hren : (x.renumbered π).role = .caller (π.calls.idxOf id) := by
      rw [Task.renumbered, hr]
      rfl
    rw [hren]
    refine { h with ended := ?_ }
    have hseen : π.seenEnd? (id, o) = some (π.calls.idxOf id, o) := if_pos hcall
    rw [List.filterMap_append, h.ended, List.filterMap_cons_some hseen, List.filterMap_nil]
  | fetch c =>
    rw [hr] at hrole
    have hc : π.cache c = true := eq_of_beq hrole
    have hren : (x.renumbered π).role = .fetch c := by
      rw [Task.renumbered, hr]
      rfl
    rw [hren]
    dsimp only
    rw [h.holds_eq hs hc]
    split
    · have hstruck := (h.store hc x.kid o).land hc x.kid
      have hconfined := (confined_store s hc x.kid o).trans (confined_land _ hc x.kid)
      exact hstruck.tell (hconfined.parted hs) hc x.kid _
    · exact h

/-! ## Turns -/

/-- **A task of this side takes its turn** in both states. -/
theorem advanceTask (h : Twin π s' s) (hs : s.Parted π) {stage : Stage}
    (hx : π.ready true (x, stage) = true) :
    Twin π (s'.advanceTask (x.renumbered π) stage) (s.advanceTask x stage) := by
  obtain ⟨htask, hstage⟩ := Split.ready_iff.1 hx
  unfold State.advanceTask
  cases stage with
  | calling =>
    obtain ⟨hreach, hcall⟩ := h.call x.kid (Task.on_iff.1 htask).2
    have hconfined := (confined_call x.kid (Task.on_iff.1 htask).2 s).1
    rw [show (x.renumbered π).kid = x.kid from rfl,
      show (x.renumbered π).provider = x.provider from rfl]
    generalize State.call x.kid x.provider s' = l' at hreach hcall ⊢
    generalize State.call x.kid x.provider s = l at hreach hcall hconfined ⊢
    obtain ⟨r', t'⟩ := l'
    obtain ⟨r, t⟩ := l
    cases hreach
    cases r' with
    | ended o => exact Twin.finish hcall (hconfined.parted hs) htask o
    | waits spot => exact Twin.park hcall htask spot
    | fetches y => exact Twin.enqueue hcall htask (.fetching y)
  | admitted i n =>
    have hi : π.source i = true := eq_of_beq hstage
    dsimp only
    rw [h.sources i hi]
    cases s.sources[i]? with
    | none => exact h
    | some source => exact h.finish hs htask _
  | fetching y =>
    obtain ⟨o, ho⟩ := receiveKey_unreachable y x.kid
    obtain ⟨m', requests', heq'⟩ := ho s' (h.offline' hstage)
    obtain ⟨m, requests, heq⟩ := ho s (h.offline hstage)
    have hboth : Twin π { s' with meter := m', requests := requests' }
        { s with meter := m, requests } := { h with }
    have hparted : { s with meter := m, requests }.Parted π := { hs with }
    rw [show (x.renumbered π).kid = x.kid from rfl]
    dsimp only
    rw [heq', heq]
    exact hboth.finish hparted htask o
  | told result => exact h.finish hs htask _

/-- **All turns** keep states twins: those of the other side are not seen, and those of this side
are taken in the same order. -/
theorem settle (h : Twin π s' s) (hs : s.Parted π) :
    Twin π s'.settle s.settle ∧ s.settle.Parted π := by
  induction hn : s.work using Nat.strongRecOn generalizing s' s with
  | ind n ih =>
  cases hready : s.ready with
  | nil =>
    have hready' : s'.ready = [] := by rw [h.ready, hready]; rfl
    rw [settle_of_rest hready, settle_of_rest hready']
    exact ⟨h, hs⟩
  | cons e rest =>
    obtain ⟨x, stage⟩ := e
    have hne : s.ready ≠ [] := by rw [hready]; exact List.cons_ne_nil _ _
    obtain ⟨b, hb⟩ := hs.ready (x, stage) (hready ▸ List.mem_cons_self)
    have hturn := confined_turn hs hready hb
    have hwork : s.turn.work < n := hn ▸ work_turn hne
    rw [settle_of_ready hne]
    cases b with
    | false => exact ih _ hwork (h.confined hturn) (hturn.parted hs) rfl
    | true =>
      have hx := (Split.ready_iff.1 hb).1
      have hready' : s'.ready = (x.renumbered π, stage) :: rest.filterMap π.seen? := by
        rw [h.ready, hready, List.filterMap_cons_some (Split.seen?_of_on hx)]
      have hne' : s'.ready ≠ [] := by rw [hready']; exact List.cons_ne_nil _ _
      have hpick : Twin π { s' with ready := rest.filterMap π.seen? } { s with ready := rest } :=
        { h with ready := rfl }
      have hrest : { s with ready := rest }.Parted π :=
        { hs with ready := fun e he => hs.ready e (hready ▸ List.mem_cons_of_mem _ he) }
      have hboth : Twin π s'.turn s.turn := by
        rw [State.turn, State.turn, hready, hready']
        exact hpick.advanceTask hrest hb
      rw [settle_of_ready hne']
      exact ih _ hwork hboth (hturn.parted hs) rfl

end Twin

end State

end SigningKeys
