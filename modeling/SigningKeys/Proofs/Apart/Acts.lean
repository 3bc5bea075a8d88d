import Mathlib.Data.List.Find
import SigningKeys.Proofs.Apart.Twins
import SigningKeys.Proofs.Run.Numbered

/-!
# What users do to one side

Whatever the user of a run does to a thing of one side stays there, with all the turns that it
causes. When it is done to the same thing of a run of that side by itself, the states stay twins.

* `Confined.unpark`, `Twin.unpark`: a task leaves the spot at which it is parked;
* `Twin.release`, `Twin.abort?`, `Twin.drop`, `Twin.advance`: what is done to both states, each
  beside what is done on the other side only (`Twin.release_other` and so on);
* `Split.begin`: one more call of the side `true`;
* **`Twin.startWith`**: a call begins in both states, and from then on belongs to this side;
* `Twin.outcome?_eq`: calls of this side have the same outcomes.
-/

namespace SigningKeys

/-- One more call of the side `true`. -/
def Split.begin (π : Split) (id : Nat) : Split := { π with calls := π.calls ++ [id] }

variable {π : Split} {b : Bool} {x : Task} {c i k id : Nat} {kid : String} {p q : Provider}

/-! ## Lists -/

section Lists

variable {α β : Type} [BEq α] [LawfulBEq α] [BEq β] [LawfulBEq β]

theorem filter_erase_of_not {q : α → Bool} {a : α} (h : q a = false) (l : List α) :
    (l.erase a).filter q = l.filter q := by
  rw [← List.erase_filter, List.erase_of_not_mem]
  intro hmem
  rw [(List.mem_filter.1 hmem).2] at h
  cases h

/-- What is seen of a list without a thing, when nothing else looks like that thing. -/
theorem filterMap_erase {v : α → Option β} (hv : ∀ a a' b, v a = some b → v a' = some b → a = a')
    {a : α} {b : β} (h : v a = some b) (l : List α) :
    (l.erase a).filterMap v = (l.filterMap v).erase b := by
  induction l with
  | nil => rfl
  | cons c l ih =>
    rw [List.erase_cons]
    by_cases hc : c = a
    · rw [if_pos (beq_iff_eq.2 hc), List.filterMap_cons_some (hc ▸ h), List.erase_cons_head]
    · rw [if_neg (mt eq_of_beq hc)]
      cases hvc : v c with
      | none => rw [List.filterMap_cons_none hvc, List.filterMap_cons_none hvc, ih]
      | some d =>
        have hd : (d == b) ≠ true := fun hd => hc (hv c a b (eq_of_beq hd ▸ hvc) h)
        rw [List.filterMap_cons_some hvc, List.filterMap_cons_some hvc, ih, List.erase_cons,
          if_neg hd]

end Lists

namespace Split

theorem call_iff : π.call id = true ↔ id ∈ π.calls := List.contains_iff_mem

/-- The roles of this side keep apart when calls are numbered anew. -/
theorem renumbered_inj {r r' : Role} (hr : r.on π true = true)
    (h : r.renumbered π = r'.renumbered π) : r = r' := by
  cases r with
  | caller n =>
    cases r' with
    | caller m =>
      have hn : n ∈ π.calls := call_iff.1 (eq_of_beq (a := π.call n) hr)
      rw [(List.idxOf_inj hn).1 (Role.caller.inj h)]
    | fetch d => cases h
  | fetch d =>
    cases r' with
    | caller m => cases h
    | fetch d' => rw [Role.fetch.inj h]

theorem seen?_inj {α : Type} (e e' f : Task × α) (h : π.seen? e = some f)
    (h' : π.seen? e' = some f) : e = e' := by
  have hon : ∀ g : Task × α, π.seen? g = some f →
      g.1.on π true = true ∧ (g.1.renumbered π, g.2) = f := by
    intro g hg
    cases hg' : g.1.on π true with
    | false =>
      rw [seen?_of_not_on hg'] at hg
      cases hg
    | true => exact ⟨rfl, Option.some.inj ((seen?_of_on hg').symm.trans hg)⟩
  obtain ⟨⟨r, kid, p⟩, a⟩ := e
  obtain ⟨⟨r', kid', p'⟩, a'⟩ := e'
  obtain ⟨hx, rfl⟩ := hon _ h
  obtain ⟨-, heq⟩ := hon _ h'
  obtain ⟨htask, rfl⟩ := Prod.mk.inj heq
  obtain ⟨hrole, rfl, rfl⟩ := Task.mk.inj htask
  have hsame : r = r' := renumbered_inj (Task.on_iff.1 hx).1 hrole.symm
  rw [hsame]

end Split

namespace State

variable {s s' t : State}

/-! ## Tasks leave their spots -/

theorem Confined.unpark (s : State) {e : Task × Spot} (h : π.parked b e = true) :
    Confined π b s { s with parked := s.parked.erase e } :=
  { refl s with parked := filter_erase_of_not (by simp [h]) _ }

theorem Twin.unpark (h : Twin π s' s) (hx : x.on π true = true) (spot : Spot) :
    Twin π { s' with parked := s'.parked.erase (x.renumbered π, spot) }
      { s with parked := s.parked.erase (x, spot) } :=
  { h with
    parked := by
      rw [filterMap_erase Split.seen?_inj (Split.seen?_of_on (e := (x, spot)) hx), h.parked] }

/-- What happens on the other side, with all turns that it causes. -/
theorem Twin.settle_other (h : Twin π s' s) (hs : s.Parted π) (hrest : s'.ready = [])
    (ht : Confined π false s t) : Twin π s' t.settle ∧ t.settle.Parted π := by
  have hsettle := settle (h.confined ht) (ht.parted hs)
  rw [settle_of_rest hrest] at hsettle
  exact hsettle

/-! ## Gates -/

theorem eq_of_callAt? {spot : Spot} (h : (spot.callAt? i).isSome = true) :
    ∃ n, spot = .gate i n := by
  cases spot with
  | gate j n =>
    by_cases hj : j = i
    · exact ⟨n, by rw [hj]⟩
    · simp [Spot.callAt?, hj] at h
  | flight c place => cases h

/-- Who waits at the gate of a source is on the side of the source. -/
theorem Parted.on_of_gate (hs : s.Parted π) {e : Task × Spot} (he : e ∈ s.parked)
    (hi : (e.2.callAt? i).isSome = true) : π.parked (π.source i) e = true :=
  hs.on_side he fun b hb => by
    obtain ⟨n, hn⟩ := eq_of_callAt? hi
    have hspot := (Split.parked_iff.1 hb).2
    rw [hn] at hspot
    exact eq_of_beq hspot

theorem confined_openGate (hs : s.Parted π) (i : Nat) :
    Confined π (π.source i) s (s.openGate i) := by
  unfold openGate
  split
  · rename_i x j n hfind
    have hat := List.find?_some hfind
    have hon := hs.on_of_gate (List.mem_of_find?_eq_some hfind) hat
    obtain ⟨n', hspot⟩ := eq_of_callAt? hat
    cases hspot
    have hready : π.ready (π.source i) (x, .admitted i n) = true := hon
    exact (Confined.unpark s hon).trans (.enqueue _ hready)
  · split
    · exact .setSource s rfl _
    · exact .refl s

theorem confined_openGates (hs : s.Parted π) (i n : Nat) :
    Confined π (π.source i) s (n.repeat (·.openGate i) s) := by
  induction n with
  | zero => exact .refl s
  | succ n ih => exact ih.trans (confined_openGate (ih.parted hs) i)

namespace Twin

theorem openGate (h : Twin π s' s) (hs : s.Parted π) (hi : π.source i = true) :
    Twin π (s'.openGate i) (s.openGate i) := by
  have hfind : s'.parked.find? (fun e => (e.2.callAt? i).isSome) =
      (s.parked.find? fun e => (e.2.callAt? i).isSome).bind π.seen? := by
    rw [h.parked, List.find?_filterMap]
    refine congrArg (Option.bind · π.seen?) (List.find?_congr fun e he => ?_)
    cases hat : (e.2.callAt? i).isSome with
    | true =>
      have hon := hs.on_of_gate he hat
      rw [hi] at hon
      rw [Split.seen?_of_on (Split.parked_iff.1 hon).1]
      exact hat
    | false =>
      cases hon : e.1.on π true with
      | true =>
        rw [Split.seen?_of_on hon]
        exact hat
      | false => rw [Split.seen?_of_not_on hon, Option.any_none]
  unfold State.openGate
  rw [hfind, h.sources i hi]
  cases hf : s.parked.find? fun e => (e.2.callAt? i).isSome with
  | none =>
    cases s.sources[i]? with
    | none => exact h
    | some source => exact h.setSource i _
  | some e =>
    have hat := List.find?_some hf
    have hon := hs.on_of_gate (List.mem_of_find?_eq_some hf) hat
    rw [hi] at hon
    have hx := (Split.parked_iff.1 hon).1
    obtain ⟨x, spot⟩ := e
    rw [Option.bind_some, Split.seen?_of_on hx]
    cases spot with
    | gate j n => exact (h.unpark hx (.gate i n)).enqueue hx _
    | flight c place =>
      cases s.sources[i]? with
      | none => exact h
      | some source => exact h.setSource i _

theorem openGates (h : Twin π s' s) (hs : s.Parted π) (hi : π.source i = true) (n : Nat) :
    Twin π (n.repeat (·.openGate i) s') (n.repeat (·.openGate i) s) := by
  induction n with
  | zero => exact h
  | succ n ih => exact Twin.openGate ih ((confined_openGates hs i n).parted hs) hi

/-- **A gate of this side opens** in both states. -/
theorem release (h : Twin π s' s) (hs : s.Parted π) (hi : π.source i = true) (n : Nat) :
    Twin π (s'.release i n) (s.release i n) ∧ (s.release i n).Parted π :=
  settle (h.openGates hs hi n) ((confined_openGates hs i n).parted hs)

/-- A gate of the other side opens. -/
theorem release_other (h : Twin π s' s) (hs : s.Parted π) (hrest : s'.ready = [])
    (hi : π.source i = false) (n : Nat) :
    Twin π s' (s.release i n) ∧ (s.release i n).Parted π := by
  have hconfined := confined_openGates hs i n
  rw [hi] at hconfined
  exact h.settle_other hs hrest hconfined

end Twin

/-! ## Calls that are given up -/

theorem Parted.on_of_caller (hs : s.Parted π) {e : Task × Spot} (he : e ∈ s.parked)
    (hid : e.1.role = .caller id) : π.parked (π.call id) e = true :=
  hs.on_side he fun b hb => by
    have hrole := (Task.on_iff.1 (Split.parked_iff.1 hb).1).1
    rw [hid] at hrole
    exact eq_of_beq hrole

theorem confined_leave (s : State) (kid : String) {spot : Spot} (h : spot.on π b = true) :
    Confined π b s (s.leave kid spot) := by
  unfold leave
  cases spot with
  | gate i n => exact .refl s
  | flight c place =>
    dsimp only
    split
    · exact .setCache s (eq_of_beq h) _
    · exact .refl s

theorem confined_cancel? (hs : s.Parted π) (h : s.cancel? id = some t) :
    Confined π (π.call id) s t := by
  obtain ⟨e, he, rfl⟩ := Option.map_eq_some_iff.1 h
  have hrole := List.find?_some he
  have hon := hs.on_of_caller (List.mem_of_find?_eq_some he) (eq_of_beq hrole)
  exact (Confined.unpark s hon).trans (confined_leave _ e.1.kid (Split.parked_iff.1 hon).2)

namespace Twin

theorem leave (h : Twin π s' s) (kid : String) {spot : Spot} (hspot : spot.on π true = true) :
    Twin π (s'.leave kid spot) (s.leave kid spot) := by
  unfold State.leave
  cases spot with
  | gate i n => exact h
  | flight c place =>
    dsimp only
    rw [h.caches c (eq_of_beq hspot)]
    split
    · exact h.setCache c _
    · exact h

theorem parkedCall?_eq (h : Twin π s' s) (hs : s.Parted π) (hid : id ∈ π.calls) :
    s'.parkedCall? (π.calls.idxOf id) = (s.parkedCall? id).bind π.seen? := by
  rw [parkedCall?, parkedCall?, h.parked, List.find?_filterMap]
  refine congrArg (Option.bind · π.seen?) (List.find?_congr fun e he => ?_)
  have hown : (Role.caller id).on π true = true := beq_iff_eq.2 (Split.call_iff.2 hid)
  cases hon : e.1.on π true with
  | true =>
    rw [Split.seen?_of_on hon, Option.any_some, Bool.eq_iff_iff, beq_iff_eq, beq_iff_eq]
    refine ⟨fun hrole => (Split.renumbered_inj hown ?_).symm, fun hrole => ?_⟩
    · exact hrole.symm
    · exact congrArg (Role.renumbered π) hrole
  | false =>
    rw [Split.seen?_of_not_on hon, Option.any_none, eq_comm, beq_eq_false_iff_ne]
    intro hrole
    have hcaller := (Split.parked_iff.1 (hs.on_of_caller he hrole)).1
    rw [Split.call_iff.2 hid, hon] at hcaller
    cases hcaller

theorem cancel? (h : Twin π s' s) (hs : s.Parted π) (hid : id ∈ π.calls) :
    Option.Rel (Twin π) (s'.cancel? (π.calls.idxOf id)) (s.cancel? id) := by
  unfold State.cancel?
  rw [h.parkedCall?_eq hs hid]
  cases he : s.parkedCall? id with
  | none => exact .none
  | some e =>
    have hrole := List.find?_some he
    have hon := hs.on_of_caller (List.mem_of_find?_eq_some he) (eq_of_beq hrole)
    rw [Split.call_iff.2 hid] at hon
    obtain ⟨hx, hspot⟩ := Split.parked_iff.1 hon
    rw [Option.bind_some, Split.seen?_of_on hx]
    exact .some ((h.unpark hx e.2).leave e.1.kid hspot)

/-- **A call of this side is given up** in both states, if it waits. -/
theorem abort? (h : Twin π s' s) (hs : s.Parted π) (hid : id ∈ π.calls) :
    Option.Rel (fun t' t => Twin π t' t ∧ t.Parted π) (s'.abort? (π.calls.idxOf id))
      (s.abort? id) := by
  have hcancel := h.cancel? hs hid
  have hparted : ∀ t, s.cancel? id = some t → t.Parted π := fun t ht =>
    (confined_cancel? hs ht).parted hs
  rw [State.abort?, State.abort?]
  generalize s'.cancel? (π.calls.idxOf id) = o', s.cancel? id = o at hcancel hparted
  cases hcancel with
  | none => exact .none
  | some hboth => exact .some (settle hboth (hparted _ rfl))

/-- A call of the other side is given up. -/
theorem abort?_other (h : Twin π s' s) (hs : s.Parted π) (hrest : s'.ready = [])
    (hid : id ∉ π.calls) (ht : s.abort? id = some t) : Twin π s' t ∧ t.Parted π := by
  obtain ⟨u, hu, rfl⟩ := Option.map_eq_some_iff.1 ht
  have hconfined := confined_cancel? hs hu
  rw [Bool.eq_false_iff.2 (mt Split.call_iff.1 hid)] at hconfined
  exact h.settle_other hs hrest hconfined

/-! ## Providers, buckets and the clock -/

theorem provider?_drop (s : State) (k j : Nat) :
    (s.drop k).provider? j = if k = j then none else s.provider? j := by
  rw [provider?, provider?, State.drop, List.getElem?_set']
  split
  · cases s.held[j]? <;> rfl
  · rfl

end Twin

theorem parted_drop (hs : s.Parted π) (k : Nat) : (s.drop k).Parted π :=
  { hs with
    held := fun j p hp => by
      rw [Twin.provider?_drop] at hp
      exact hs.held j p (Option.ite_none_left_eq_some.1 hp).2 }

namespace Twin

/-- A provider is let go in both states. -/
theorem drop (h : Twin π s' s) (k : Nat) : Twin π (s'.drop k) (s.drop k) :=
  { h with
    held := fun j hj => by rw [provider?_drop, provider?_drop, h.held j hj]
    housed := fun j p hp => by
      rw [provider?_drop] at hp
      exact h.housed j p (Option.ite_none_left_eq_some.1 hp).2 }

/-- A provider of the other side is let go. -/
theorem drop_other (h : Twin π s' s) (hk : π.provider k = false) : Twin π s' (s.drop k) :=
  { h with
    held := fun j hj => by
      rw [provider?_drop, if_neg fun hkj => ?_]
      · exact h.held j hj
      · rw [hkj, hj] at hk
        cases hk }

theorem advance (h : Twin π s' s) (d : Duration) : Twin π (s'.advance d) (s.advance d) :=
  { h with now := congrArg (· + d.nanos) h.now }

end Twin

/-! ## Calls begin -/

/-- A number that is still free belongs to no task, and to no outcome. -/
theorem Numbered.fresh (h : s.Numbered []) (hid : s.started ≤ id) :
    (∀ y ∈ s.tasks, y.role ≠ .caller id) ∧ ∀ e ∈ s.ended, e.1 ≠ id := by
  have hle := h id
  rw [if_neg (Nat.not_lt.2 hid), Nat.le_zero, calls, Nat.add_eq_zero_iff] at hle
  refine ⟨fun y hy hrole => ?_, fun e he heq => ?_⟩
  · exact List.countP_eq_zero.1 hle.1 y hy (beq_iff_eq.2 hrole)
  · exact List.count_eq_zero.1 hle.2 (heq ▸ List.mem_map_of_mem he)

theorem Numbered.cancel?_eq_none (h : s.Numbered []) (hid : s.started ≤ id) :
    s.cancel? id = none := by
  rw [cancel?, Option.map_eq_none_iff, parkedCall?, List.find?_eq_none]
  intro e he hrole
  exact (h.fresh hid).1 e.1 (mem_tasks_of_parked he) (eq_of_beq hrole)

end State

namespace Split

theorem provider_on_begin (π : Split) (id : Nat) (p : Provider) (b : Bool) :
    p.on (π.begin id) b = p.on π b := by
  induction p with
  | source i | remote r => rfl
  | limited inner k ih | cached inner c ih => rw [Provider.on, Provider.on, ih]; rfl

theorem call_begin {n : Nat} (h : n ≠ id) : (π.begin id).call n = π.call n := by
  rw [Bool.eq_iff_iff, call_iff, call_iff, begin, List.mem_append, List.mem_singleton]
  exact or_iff_left h

theorem task_on_begin (hx : x.role ≠ .caller id) : x.on (π.begin id) b = x.on π b := by
  rw [Task.on, Task.on, provider_on_begin]
  unfold Role.on
  cases hr : x.role with
  | caller n =>
    have hn : n ≠ id := fun hn => hx (hr.trans (congrArg Role.caller hn))
    dsimp only
    rw [call_begin hn]
  | fetch c => rfl

theorem seen?_begin {α : Type} {e : Task × α} (he : e.1.role ≠ .caller id) :
    (π.begin id).seen? e = π.seen? e := by
  cases hon : e.1.on π true with
  | false =>
    rw [seen?_of_not_on hon, seen?_of_not_on ((task_on_begin he).trans hon)]
  | true =>
    rw [seen?_of_on hon, seen?_of_on ((task_on_begin he).trans hon)]
    have hrole : e.1.role.renumbered (π.begin id) = e.1.role.renumbered π := by
      have hown := (Task.on_iff.1 hon).1
      cases hr : e.1.role with
      | fetch c => rfl
      | caller n =>
        rw [hr] at hown
        have hn : n ∈ π.calls := call_iff.1 (eq_of_beq (a := π.call n) hown)
        exact congrArg Role.caller (List.idxOf_append_of_mem hn)
    rw [Task.renumbered, Task.renumbered, hrole]

theorem seenEnd?_begin {e : Nat × Outcome} (he : e.1 ≠ id) :
    (π.begin id).seenEnd? e = π.seenEnd? e := by
  rw [seenEnd?, seenEnd?, call_begin he]
  split
  · rename_i hcall
    rw [begin, List.idxOf_append_of_mem (call_iff.1 hcall)]
  · rfl

end Split

namespace State

variable {s s' : State}

/-- A number that is still free can be the number of a call of this side. -/
theorem Parted.begin (hs : s.Parted π) (hfresh : ∀ y ∈ s.tasks, y.role ≠ .caller id) :
    s.Parted (π.begin id) where
  offline := hs.offline
  held k p hp := (π.provider_on_begin id p _).trans (hs.held k p hp)
  ready e he := by
    obtain ⟨b, hb⟩ := hs.ready e he
    have hx := hfresh e.1 (mem_tasks_of_ready he)
    obtain ⟨htask, hstage⟩ := Split.ready_iff.1 hb
    exact ⟨b, Split.ready_iff.2 ⟨(Split.task_on_begin hx).trans htask, hstage⟩⟩
  parked e he := by
    obtain ⟨b, hb⟩ := hs.parked e he
    have hx := hfresh e.1 (mem_tasks_of_parked he)
    obtain ⟨htask, hspot⟩ := Split.parked_iff.1 hb
    exact ⟨b, Split.parked_iff.2 ⟨(Split.task_on_begin hx).trans htask, hspot⟩⟩

theorem parted_spawn (hs : s.Parted π) (hq : q.on π b = true) (hcall : π.call s.started = b)
    (kid : String) : (s.spawn q kid).Parted π := by
  have hready : π.ready b (⟨.caller s.started, kid, q⟩, .calling) = true :=
    Split.ready_iff.2 ⟨Task.on_iff.2 ⟨beq_iff_eq.2 hcall, hq⟩, rfl⟩
  have hcount : { s with started := s.started + 1 }.Parted π := { hs with }
  exact (Confined.enqueue { s with started := s.started + 1 } hready).parted hcount

theorem startWith_zero (h : s.delay = Duration.zero) (q : Provider) (kid : String)
    (hsettle : (s.spawn q kid).settle.delay = Duration.zero) :
    s.startWith q kid Duration.zero = (s.spawn q kid).settle := by
  have hsame : { s with delay := Duration.zero } = s := by rw [← h]
  rw [startWith, hsame, start, catchUp]
  generalize (s.spawn q kid).settle = t at hsettle
  rw [hsettle]
  obtain ⟨now, sources, buckets, caches, held, ready, parked, started, ended, meter, network,
    requests, delay⟩ := t
  cases hsettle
  rfl

namespace Twin

/-- One more call of this side is counted in both states. -/
theorem begin (h : Twin π s' s) (hn : s.Numbered []) :
    Twin (π.begin s.started) { s' with started := s'.started + 1 }
      { s with started := s.started + 1 } := by
  obtain ⟨htask, hended⟩ := hn.fresh (Nat.le_refl s.started)
  have hfree : s.started ∉ π.calls := fun hmem => Nat.lt_irrefl _ (h.past _ hmem)
  constructor
  case now => exact h.now
  case delay' => exact h.delay'
  case delay => exact h.delay
  case offline' => exact h.offline'
  case offline => exact h.offline
  case sources => exact h.sources
  case buckets => exact h.buckets
  case caches => exact h.caches
  case held => exact h.held
  case housed => exact fun k p hp => (π.provider_on_begin _ p _).trans (h.housed k p hp)
  case ready =>
    exact h.ready.trans (List.filterMap_congr fun e he =>
      (Split.seen?_begin (htask e.1 (mem_tasks_of_ready he))).symm)
  case parked =>
    exact h.parked.trans (List.filterMap_congr fun e he =>
      (Split.seen?_begin (htask e.1 (mem_tasks_of_parked he))).symm)
  case ended =>
    exact h.ended.trans (List.filterMap_congr fun e he => (Split.seenEnd?_begin (hended e he)).symm)
  case started => rw [h.started, Split.begin, List.length_append, List.length_singleton]
  case past =>
    intro id hid
    rcases List.mem_append.1 hid with hid | hid
    · exact Nat.lt_succ_of_lt (h.past id hid)
    · rw [List.mem_singleton.1 hid]
      exact Nat.lt_succ_self _
  case nodup =>
    refine List.nodup_append.2 ⟨h.nodup, List.nodup_singleton _, fun n hn m hm hnm => hfree ?_⟩
    rw [← List.mem_singleton.1 hm, ← hnm]
    exact hn

/-- A call that begins has the next number in both states. -/
theorem idxOf_started (h : Twin π s' s) :
    (π.begin s.started).calls.idxOf s.started = s'.started := by
  have hfree : s.started ∉ π.calls := fun hmem => Nat.lt_irrefl _ (h.past _ hmem)
  rw [h.started, Split.begin, List.idxOf_append_of_notMem hfree, List.idxOf_cons_self, Nat.add_zero]

theorem spawn (h : Twin π s' s) (hn : s.Numbered []) (hq : q.on π true = true) (kid : String) :
    Twin (π.begin s.started) (s'.spawn q kid) (s.spawn q kid) := by
  have hcall : (π.begin s.started).call s.started = true :=
    Split.call_iff.2 (List.mem_append_right _ List.mem_cons_self)
  have htask : Task.on (π.begin s.started) true ⟨.caller s.started, kid, q⟩ = true :=
    Task.on_iff.2 ⟨beq_iff_eq.2 hcall, (π.provider_on_begin _ q true).trans hq⟩
  have henqueue := (h.begin hn).enqueue htask .calling
  rw [Task.renumbered, Role.renumbered, h.idxOf_started] at henqueue
  exact henqueue

/-- **A call begins on this side** in both states. -/
theorem startWith (h : Twin π s' s) (hs : s.Parted π) (hn : s.Numbered []) (hq : q.on π true = true)
    (kid : String) :
    Twin (π.begin s.started) (s'.startWith q kid Duration.zero) (s.startWith q kid Duration.zero) ∧
      (s.startWith q kid Duration.zero).Parted (π.begin s.started) := by
  have hcall : (π.begin s.started).call s.started = true :=
    Split.call_iff.2 (List.mem_append_right _ List.mem_cons_self)
  have hparted := parted_spawn (hs.begin (hn.fresh (Nat.le_refl _)).1)
    ((π.provider_on_begin _ q true).trans hq) hcall kid
  obtain ⟨htwin, hsettle⟩ := settle (h.spawn hn hq kid) hparted
  rw [startWith_zero h.delay q kid htwin.delay, startWith_zero h.delay' q kid htwin.delay']
  exact ⟨htwin, hsettle⟩

/-- A call begins on the other side. -/
theorem startWith_other (h : Twin π s' s) (hs : s.Parted π) (hrest : s'.ready = [])
    (hq : q.on π false = true) (kid : String) :
    Twin π s' (s.startWith q kid Duration.zero) ∧ (s.startWith q kid Duration.zero).Parted π := by
  have hcall : π.call s.started = false :=
    Bool.eq_false_iff.2 fun hcall => Nat.lt_irrefl _ (h.past _ (Split.call_iff.1 hcall))
  have hready : π.ready false (⟨.caller s.started, kid, q⟩, .calling) = true :=
    Split.ready_iff.2 ⟨Task.on_iff.2 ⟨beq_iff_eq.2 hcall, hq⟩, rfl⟩
  have hcount : Twin π s' { s with started := s.started + 1 } :=
    { h with past := fun id hid => Nat.lt_succ_of_lt (h.past id hid) }
  obtain ⟨htwin, hsettle⟩ := hcount.settle_other { hs with } hrest (.enqueue _ hready)
  rw [startWith_zero h.delay q kid htwin.delay]
  exact ⟨htwin, hsettle⟩

/-- **Calls of this side have the same outcomes** in both states. -/
theorem outcome?_eq (h : Twin π s' s) (hid : id ∈ π.calls) :
    s'.outcome? (π.calls.idxOf id) = s.outcome? id := by
  rw [outcome?, outcome?, h.ended]
  induction s.ended with
  | nil => rfl
  | cons e l ih =>
    by_cases he : π.call e.1 = true
    · have hsame : (π.calls.idxOf id == π.calls.idxOf e.1) = (id == e.1) := by
        rw [Bool.eq_iff_iff, beq_iff_eq, beq_iff_eq, List.idxOf_inj hid]
      have hseen : π.seenEnd? e = some (π.calls.idxOf e.1, e.2) := if_pos he
      rw [List.filterMap_cons_some hseen, List.lookup_cons, List.lookup_cons, hsame, ih]
    · have hne : (id == e.1) = false :=
        beq_eq_false_iff_ne.2 fun heq => he (Split.call_iff.2 (heq ▸ hid))
      have hseen : π.seenEnd? e = none := if_neg he
      rw [List.filterMap_cons_none hseen, List.lookup_cons, hne, ih]

/-- Calls of this side are numbered anew by numbers that are not larger. -/
theorem started_le (h : Twin π s' s) : s'.started ≤ s.started := by
  have hsub : π.calls ⊆ List.range s.started := fun id hid => List.mem_range.2 (h.past id hid)
  have hle := (List.subperm_of_subset h.nodup hsub).length_le
  rw [List.length_range] at hle
  exact h.started ▸ hle

end Twin

end State

end SigningKeys
