import SigningKeys.Proofs.Run.Steps

/-!
# Two sides

The sources, buckets, caches and providers of a state can be split into two sides such that every
provider is made of one side only. Tasks then are on one side, too, and wait there. What a task does
in its turn changes nothing on the other side.

* `Split`: which of all things are on which side;
* `Provider.on`, `Task.on`, `Stage.on`, `Spot.on`: whether all that something names is on a side;
* `State.Parted`: a state in which nothing is on both sides;
* `State.Confined`: what happened from one state to another one happened on one side;
* `confined_call`, `confined_finish`, **`confined_turn`**: a call, the end of a task, and a turn.
-/

namespace SigningKeys

/-- **A split into two sides.** -/
structure Split where
  source : Nat → Bool
  bucket : Nat → Bool
  cache : Nat → Bool
  provider : Nat → Bool
  /-- Whether no request reaches a server, so that key sets on the network are on both sides. -/
  offline : Bool
  /-- The numbers of the calls on the side `true`, in the order in which they began. -/
  calls : List Nat

/-- The side of a call. -/
def Split.call (π : Split) (id : Nat) : Bool := π.calls.contains id

/-- Whether a provider is made of one side only. -/
def Provider.on (π : Split) (b : Bool) : Provider → Bool
  | .source i => π.source i == b
  | .remote _ => π.offline
  | .limited inner k => π.bucket k == b && inner.on π b
  | .cached inner c => π.cache c == b && inner.on π b

def Role.on (π : Split) (b : Bool) : Role → Bool
  | .caller id => π.call id == b
  | .fetch c => π.cache c == b

/-- Whether a task is on a side, with the provider that it calls. -/
def Task.on (π : Split) (b : Bool) (x : Task) : Bool := x.role.on π b && x.provider.on π b

def Stage.on (π : Split) (b : Bool) : Stage → Bool
  | .calling | .told _ => true
  | .admitted i _ => π.source i == b
  | .fetching _ => π.offline

def Spot.on (π : Split) (b : Bool) : Spot → Bool
  | .gate i _ => π.source i == b
  | .flight c _ => π.cache c == b

namespace Split

/-- Whether a task is on a side, with what it does next. -/
def ready (π : Split) (b : Bool) (e : Task × Stage) : Bool := e.1.on π b && e.2.on π b

/-- Whether a task is on a side, with the spot at which it is parked. -/
def parked (π : Split) (b : Bool) (e : Task × Spot) : Bool := e.1.on π b && e.2.on π b

/-- Whether a call that ended is on a side. -/
def ended (π : Split) (b : Bool) (e : Nat × Outcome) : Bool := π.call e.1 == b

end Split

namespace State

/-- **Nothing is on both sides.** -/
structure Parted (π : Split) (s : State) : Prop where
  offline : π.offline = true → s.network = .unreachable
  held : ∀ k p, s.provider? k = some p → p.on π (π.provider k) = true
  ready : ∀ e ∈ s.ready, ∃ b, π.ready b e = true
  parked : ∀ e ∈ s.parked, ∃ b, π.parked b e = true

/-- **What happened on one side**: the other side is as it was. -/
structure Confined (π : Split) (b : Bool) (s t : State) : Prop where
  now : t.now = s.now
  delay : t.delay = s.delay
  network : t.network = s.network
  held : t.held = s.held
  started : t.started = s.started
  sources : ∀ i, π.source i ≠ b → t.sources[i]? = s.sources[i]?
  buckets : ∀ i, π.bucket i ≠ b → t.buckets[i]? = s.buckets[i]?
  caches : ∀ c, π.cache c ≠ b → t.caches[c]? = s.caches[c]?
  ready : t.ready.filter (!π.ready b ·) = s.ready.filter (!π.ready b ·)
  parked : t.parked.filter (!π.parked b ·) = s.parked.filter (!π.parked b ·)
  ended : t.ended.filter (!π.ended b ·) = s.ended.filter (!π.ended b ·)

end State

variable {π : Split} {b b' : Bool} {p inner : Provider} {x : Task} {c i : Nat} {kid : String}

/-! ## Sides -/

theorem Task.on_iff : x.on π b = true ↔ x.role.on π b = true ∧ x.provider.on π b = true :=
  Bool.and_eq_true_iff

theorem Task.eq_of_on (h : x.on π b = true) (h' : x.on π b' = true) : b = b' := by
  have hr := (Task.on_iff.1 h).1
  have hr' := (Task.on_iff.1 h').1
  unfold Role.on at hr hr'
  cases hrole : x.role with
  | caller id | fetch c =>
    rw [hrole] at hr hr'
    exact (eq_of_beq hr).symm.trans (eq_of_beq hr')

theorem Split.ready_iff {e : Task × Stage} :
    π.ready b e = true ↔ e.1.on π b = true ∧ e.2.on π b = true := Bool.and_eq_true_iff

theorem Split.parked_iff {e : Task × Spot} :
    π.parked b e = true ↔ e.1.on π b = true ∧ e.2.on π b = true := Bool.and_eq_true_iff

theorem Provider.cache_of_uses (h : p.on π b = true) (hu : p.uses c = true) : π.cache c = b := by
  induction p with
  | source i | remote r => cases hu
  | limited inner k ih => exact ih (Bool.and_eq_true_iff.1 h).2 hu
  | cached inner d ih =>
    obtain ⟨hd, hinner⟩ := Bool.and_eq_true_iff.1 h
    rw [uses, Bool.or_eq_true] at hu
    rcases hu with hc | hu
    · rw [← eq_of_beq hc]
      exact eq_of_beq hd
    · exact ih hinner hu

theorem Provider.on_core (h : p.on π b = true) : p.core.on π b = true := by
  induction p with
  | source i | remote r | cached inner c => exact h
  | limited inner k ih => exact ih (Bool.and_eq_true_iff.1 h).2

theorem State.mem_tasks_of_ready {s : State} {e : Task × Stage} (he : e ∈ s.ready) :
    e.1 ∈ s.tasks := List.mem_append_left _ (List.mem_map_of_mem he)

theorem State.mem_tasks_of_parked {s : State} {e : Task × Spot} (he : e ∈ s.parked) :
    e.1 ∈ s.tasks := List.mem_append_right _ (List.mem_map_of_mem he)

theorem State.Parted.task {s : State} (h : s.Parted π) (x : Task) (hx : x ∈ s.tasks) :
    ∃ b, x.on π b = true := by
  rcases List.mem_append.1 hx with hx | hx
  · obtain ⟨e, he, rfl⟩ := List.mem_map.1 hx
    obtain ⟨b, hb⟩ := h.ready e he
    exact ⟨b, (Split.ready_iff.1 hb).1⟩
  · obtain ⟨e, he, rfl⟩ := List.mem_map.1 hx
    obtain ⟨b, hb⟩ := h.parked e he
    exact ⟨b, (Split.parked_iff.1 hb).1⟩

/-- A parked task is on the only side on which it can be. -/
theorem State.Parted.on_side {s : State} (h : s.Parted π) {e : Task × Spot} (he : e ∈ s.parked)
    (hb : ∀ b', π.parked b' e = true → b = b') : π.parked b e = true := by
  obtain ⟨b', hb'⟩ := h.parked e he
  rw [hb b' hb']
  exact hb'

/-- Who waits for the fetch of a cache is on the side of the cache. -/
theorem State.Parted.on_of_place {s : State} (h : s.Parted π) {e : Task × Spot} (he : e ∈ s.parked)
    {place : Nat} (hp : placeFor? c kid e = some place) : π.parked (π.cache c) e = true :=
  h.on_side he fun b hb => by
    have hspot := (Split.parked_iff.1 hb).2
    rw [(placeFor?_eq_some.1 hp).2] at hspot
    exact eq_of_beq hspot

/-! ## What stays on a side -/

namespace State

variable {s t u : State}

namespace Confined

theorem refl (s : State) : Confined π b s s := by
  constructor <;> intros <;> rfl

theorem trans (h : Confined π b s t) (h' : Confined π b t u) : Confined π b s u where
  now := h'.now.trans h.now
  delay := h'.delay.trans h.delay
  network := h'.network.trans h.network
  held := h'.held.trans h.held
  started := h'.started.trans h.started
  sources i hi := (h'.sources i hi).trans (h.sources i hi)
  buckets i hi := (h'.buckets i hi).trans (h.buckets i hi)
  caches c hc := (h'.caches c hc).trans (h.caches c hc)
  ready := h'.ready.trans h.ready
  parked := h'.parked.trans h.parked
  ended := h'.ended.trans h.ended

theorem setSource (s : State) (h : π.source i = b) (source : Source) :
    Confined π b s (s.setSource i source) :=
  { refl s with sources := fun _ hj => List.getElem?_set_ne (by rintro rfl; exact hj h) }

theorem setBucket (s : State) (h : π.bucket i = b) (bucket : TokenBucket) :
    Confined π b s (s.setBucket i bucket) :=
  { refl s with buckets := fun _ hj => List.getElem?_set_ne (by rintro rfl; exact hj h) }

theorem setCache (s : State) (h : π.cache c = b) (cache : Cache) :
    Confined π b s (s.setCache c cache) :=
  { refl s with caches := fun _ hj => List.getElem?_set_ne (by rintro rfl; exact hj h) }

theorem setMeter (s : State) (m : Meter) : Confined π b s { s with meter := m } := { refl s with }

theorem enqueue (s : State) {stage : Stage} (h : π.ready b (x, stage) = true) :
    Confined π b s (s.enqueue x stage) :=
  { refl s with ready := by rw [State.enqueue, List.filter_append]; simp [h] }

theorem park (s : State) {spot : Spot} (h : π.parked b (x, spot) = true) :
    Confined π b s (s.park x spot) :=
  { refl s with parked := by rw [State.park, List.filter_append]; simp [h] }

/-- What is new in a list is on the side. -/
theorem mem_or {α : Type} {p : α → Bool} {l l' : List α} (h : l'.filter (!p ·) = l.filter (!p ·))
    {a : α} (ha : a ∈ l') : a ∈ l ∨ p a = true := by
  by_cases hp : p a = true
  · exact .inr hp
  · have hmem : a ∈ l'.filter (!p ·) := List.mem_filter.2 ⟨ha, by simp [hp]⟩
    rw [h] at hmem
    exact .inl (List.mem_of_mem_filter hmem)

/-- Nothing comes to be on both sides. -/
theorem parted (h : Confined π b s t) (hs : s.Parted π) : t.Parted π where
  offline ho := h.network.trans (hs.offline ho)
  held k p hp := hs.held k p (by rw [provider?, ← h.held]; exact hp)
  ready e he := (mem_or h.ready he).elim (hs.ready e) fun hb => ⟨b, hb⟩
  parked e he := (mem_or h.parked he).elim (hs.parked e) fun hb => ⟨b, hb⟩

end Confined

/-! ## Calls -/

theorem confined_await (s : State) (kid : String) (hc : π.cache c = b) (hp : inner.on π b = true)
    (cache : Cache) :
    Confined π b s (s.await kid inner c cache).2 ∧
      ∀ spot, (s.await kid inner c cache).1 = .waits spot → spot.on π b = true := by
  have hspot : ∀ place, (Spot.flight c place).on π b = true := fun place => by simp [Spot.on, hc]
  unfold await
  split
  · refine ⟨(Confined.setCache s hc _).trans (.setMeter _ _), ?_⟩
    rintro _ ⟨⟩
    exact hspot _
  · have htask : π.ready b (⟨.fetch c, kid, inner⟩, .calling) = true := by
      simp [Split.ready, Task.on, Role.on, Stage.on, hc, hp]
    refine ⟨((Confined.setCache s hc _).trans (.setMeter _ _)).trans (.enqueue _ htask), ?_⟩
    rintro _ ⟨⟩
    exact hspot _

/-- A call begins a fetch over the network only if key sets there are on both sides. -/
theorem offline_of_fetches {x : Exchange} (hp : p.on π b = true) (s : State)
    (h : (call kid p s).1 = .fetches x) : π.offline = true := by
  have hcalled := called kid p s
  rw [h] at hcalled
  generalize (call kid p s).2 = t at hcalled
  cases hcalled with
  | asked buckets core =>
    have hcore := Provider.on_core hp
    rw [core] at hcore
    exact hcore

/-- A fetch that reaches no server leaves nothing behind, but for being counted. -/
theorem receiveKey_unreachable (x : Exchange) (kid : String) :
    ∃ o, ∀ s : State, s.network = .unreachable →
      ∃ m requests, s.receiveKey kid x = (o, { s with meter := m, requests }) := by
  obtain ⟨e, he⟩ : ∃ e, ∀ d n, x.remote.fetch .unreachable d n = { result := .error e } := by
    by_cases hfits : x.remote.url.withoutUser.fitsRequest = true
    · refine ⟨x.remote.notAnswered, fun d n => ?_⟩
      rw [Remote.fetch, if_pos hfits, maxRedirects, Remote.follow]
      rfl
    · refine ⟨x.remote.notRequested, fun d n => ?_⟩
      rw [Remote.fetch, if_neg hfits]
  refine ⟨.error e, fun s hs => ⟨s.meter.recordFetch (some e.kind), s.requests ++ [], ?_⟩⟩
  have hfetch : x.remote.fetch s.network (s.wait x) s.requests.length = { result := .error e } := by
    rw [hs, he]
  rw [receiveKey, receive, hfetch]
  rfl

/-- **A call stays on its side.** -/
theorem confined_call (kid : String) (hp : p.on π b = true) (s : State) :
    Confined π b s (call kid p s).2 ∧
      ∀ spot, (call kid p s).1 = .waits spot → spot.on π b = true := by
  induction p generalizing s with
  | source i =>
    have hi : π.source i = b := eq_of_beq hp
    rw [call, callSource]
    split
    · exact ⟨.refl s, fun _ h => Reach.noConfusion h⟩
    · dsimp only
      split
      · exact ⟨.setSource s hi _, fun _ h => Reach.noConfusion h⟩
      · refine ⟨.setSource s hi _, ?_⟩
        rintro _ ⟨⟩
        exact hp
  | remote r => exact ⟨.refl s, fun _ h => Reach.noConfusion h⟩
  | limited inner k ih =>
    obtain ⟨hk, hinner⟩ := Bool.and_eq_true_iff.1 hp
    rw [call]
    split
    · exact ⟨.refl s, fun _ h => Reach.noConfusion h⟩
    · rename_i bucket _
      have hset : ∀ m, Confined π b s
          { s.setBucket k (bucket.acquire s.now 1).2 with meter := m } := fun m =>
        (Confined.setBucket s (eq_of_beq hk) _).trans (.setMeter _ m)
      dsimp only
      split
      · obtain ⟨hcall, hspot⟩ := ih hinner
          ((s.setBucket k (bucket.acquire s.now 1).2).record (.decision true))
        exact ⟨(hset _).trans hcall, hspot⟩
      all_goals exact ⟨hset _, fun _ h => Reach.noConfusion h⟩
  | cached inner c ih =>
    obtain ⟨hc, hinner⟩ := Bool.and_eq_true_iff.1 hp
    rw [call]
    split
    · exact ⟨.refl s, fun _ h => Reach.noConfusion h⟩
    · split
      · exact ⟨.setMeter s _, fun _ h => Reach.noConfusion h⟩
      · exact confined_await s kid (eq_of_beq hc) hinner _
      · obtain ⟨hawait, hspot⟩ := confined_await ((s.record (.lookup .expired)).gauge _) kid
          (eq_of_beq hc) hinner _
        exact ⟨(Confined.setMeter s _).trans hawait, hspot⟩

/-! ## Turns -/

theorem confined_tell (hs : s.Parted π) (hc : π.cache c = b) (kid : String)
    (result : Except KeyError Jwk) : Confined π b s (s.tell c kid result) := by
  have hplace : ∀ e ∈ s.parked, (placeFor? c kid e).isSome = true → π.parked b e = true := by
    intro e he hp
    obtain ⟨place, hplace⟩ := Option.isSome_iff_exists.1 hp
    exact hc ▸ hs.on_of_place he hplace
  refine { Confined.refl s with ready := ?_, parked := ?_ }
  · have htold : ((s.waiting c kid).map (·, Stage.told result)).filter (!π.ready b ·) = [] := by
      rw [List.filter_eq_nil_iff]
      intro e he
      obtain ⟨y, hy, rfl⟩ := List.mem_map.1 he
      obtain ⟨hk, place, hmem⟩ := mem_waiting.1 hy
      have hon := hplace _ hmem (by rw [placeFor?_eq_some.2 ⟨hk, rfl⟩]; rfl)
      have hready : π.ready b (y, .told result) = true :=
        Split.ready_iff.2 ⟨(Split.parked_iff.1 hon).1, rfl⟩
      simp [hready]
    rw [tell, List.filter_append, htold, List.append_nil]
  · rw [tell, List.filter_filter]
    refine List.filter_congr fun e he => ?_
    cases hp : placeFor? c kid e with
    | none => simp
    | some place => simp [hplace e he (by rw [hp]; rfl)]

theorem confined_store (s : State) (hc : π.cache c = b) (kid : String) (o : Outcome) :
    Confined π b s (s.store c kid o) := by
  unfold store
  split
  · exact (Confined.setCache s hc _).trans (.setMeter _ _)
  · exact .refl s

theorem confined_land (s : State) (hc : π.cache c = b) (kid : String) :
    Confined π b s (s.land c kid) := by
  unfold land
  split
  · exact .setCache s hc _
  · exact .refl s

/-- **A task ends on its side.** -/
theorem confined_finish (hs : s.Parted π) (hx : x.on π b = true) (o : Outcome) :
    Confined π b s (s.finish x o) := by
  have hrole := (Task.on_iff.1 hx).1
  unfold finish
  cases hr : x.role with
  | caller id =>
    rw [hr] at hrole
    have hend : π.ended b (id, o) = true := hrole
    exact { Confined.refl s with ended := by rw [List.filter_append]; simp [hend] }
  | fetch c =>
    rw [hr] at hrole
    have hc : π.cache c = b := eq_of_beq hrole
    dsimp only
    split
    · have hstruck := (confined_store s hc x.kid o).trans (confined_land _ hc x.kid)
      exact hstruck.trans (confined_tell (hstruck.parted hs) hc x.kid _)
    · exact .refl s

theorem confined_advanceTask (hs : s.Parted π) {stage : Stage} (hx : π.ready b (x, stage) = true) :
    Confined π b s (s.advanceTask x stage) := by
  obtain ⟨htask, hstage⟩ := Split.ready_iff.1 hx
  unfold advanceTask
  cases stage with
  | calling =>
    obtain ⟨hcall, hspot⟩ := confined_call x.kid (Task.on_iff.1 htask).2 s
    have hfetches : ∀ y, (call x.kid x.provider s).1 = .fetches y → π.offline = true :=
      fun y => offline_of_fetches (Task.on_iff.1 htask).2 s
    dsimp only
    cases hreach : call x.kid x.provider s with
    | mk r t =>
      rw [hreach] at hcall hspot hfetches
      cases r with
      | ended o => exact hcall.trans (confined_finish (hcall.parted hs) htask o)
      | waits spot => exact hcall.trans (.park t (Split.parked_iff.2 ⟨htask, hspot spot rfl⟩))
      | fetches y => exact hcall.trans (.enqueue t (Split.ready_iff.2 ⟨htask, hfetches y rfl⟩))
  | fetching y =>
    obtain ⟨o, ho⟩ := receiveKey_unreachable y x.kid
    obtain ⟨m, requests, heq⟩ := ho s (hs.offline hstage)
    have hreceived : Confined π b s { s with meter := m, requests } := { Confined.refl s with }
    dsimp only
    rw [heq]
    exact hreceived.trans (confined_finish (hreceived.parted hs) htask o)
  | admitted i n =>
    dsimp only
    split
    · exact confined_finish hs htask _
    · exact .refl s
  | told result => exact confined_finish hs htask _

/-- **A turn stays on the side of its task.** -/
theorem confined_turn (hs : s.Parted π) {stage : Stage} {rest : List (Task × Stage)}
    (hready : s.ready = (x, stage) :: rest) (hx : π.ready b (x, stage) = true) :
    Confined π b s s.turn := by
  have hpick : Confined π b s { s with ready := rest } :=
    { Confined.refl s with ready := by rw [hready]; simp [hx] }
  rw [turn, hready]
  exact hpick.trans (confined_advanceTask (hpick.parted hs) hx)

end State

end SigningKeys
