import SigningKeys.Proofs.Pipeline.Ledger
import SigningKeys.Proofs.Run.Sound

/-!
# Trials of a source

In a trial the calls of a source begin, are let through its gate, end, and are given up, in whatever
order. The gate lets through the call that has waited longest; if none waits, it lets the next one
pass. A call may also be given up between the time that it is let through and its next turn. The
gate then opens again, since nothing went through.

* `Move.Fair`, `Move.Prompt`: what gates let through in a trial, and in which order tasks go on;
* `Visit`, `Gate`, `State.gate?`: a source and the calls at its gate;
* `Note`, `State.notes`, `State.diary`: what can be seen of a source in a trial;
* `Gate.Course`: everything that can happen at a gate, and what is noted of it;
* **`State.course`**: nothing else happens there, whatever the move.
-/

namespace SigningKeys

/-! ## What can happen -/

namespace Move

/-- **What can happen in a trial**: gates let through nothing but what has waited longest. -/
def Fair : Move → Prop
  | .pass _ => False
  | _ => True

/-- If a task takes its turn, it is the one that has been ready longest. -/
def Prompt : Move → Prop
  | .turn k => k = 0
  | _ => True

end Move

/-- The number of a call that was let through the gate of a source. -/
def Stage.callAt? (source : Nat) : Stage → Option Nat
  | .admitted i n => if i = source then some n else none
  | .calling | .fetching _ | .told _ => none

theorem Stage.callAt?_self (i n : Nat) : (Stage.admitted i n).callAt? i = some n := if_pos rfl

theorem Stage.callAt?_of_ne {i j : Nat} (h : j ≠ i) (n : Nat) :
    (Stage.admitted j n).callAt? i = none := if_neg h

theorem Spot.callAt?_self (i n : Nat) : (Spot.gate i n).callAt? i = some n := if_pos rfl

theorem Spot.callAt?_of_ne {i j : Nat} (h : j ≠ i) (n : Nat) : (Spot.gate j n).callAt? i = none :=
  if_neg h

/-- A call of a source: the number that it drew, and the task. -/
structure Visit where
  number : Nat
  task : Task
deriving DecidableEq

/-- The calls of a source among tasks. -/
def visits {α : Type} (callAt? : α → Option Nat) (l : List (Task × α)) : List Visit :=
  l.filterMap fun e => (callAt? e.2).map (⟨·, e.1⟩)

section

variable {α : Type} {callAt? : α → Option Nat} {l m : List (Task × α)} {e : Task × α}

theorem visits_append : visits callAt? (l ++ m) = visits callAt? l ++ visits callAt? m :=
  List.filterMap_append

theorem visits_cons_of_none (h : callAt? e.2 = none) : visits callAt? (e :: l) = visits callAt? l :=
  List.filterMap_cons_none (by rw [h]; rfl)

theorem visits_cons_of_some {n : Nat} (h : callAt? e.2 = some n) :
    visits callAt? (e :: l) = ⟨n, e.1⟩ :: visits callAt? l :=
  List.filterMap_cons_some (by rw [h]; rfl)

theorem visits_eq_nil (h : ∀ e ∈ l, callAt? e.2 = none) : visits callAt? l = [] :=
  List.filterMap_eq_nil_iff.2 fun e he => by rw [h e he]; rfl

theorem visits_sublist (h : l.Sublist m) : (visits callAt? l).Sublist (visits callAt? m) :=
  h.filterMap _

/-- Only tasks were left out that are no calls of the source. -/
theorem visits_filter {p : Task × α → Bool} (h : ∀ e ∈ l, p e = false → callAt? e.2 = none) :
    visits callAt? (l.filter p) = visits callAt? l := by
  rw [visits, visits, List.filterMap_filter]
  refine List.filterMap_congr fun e he => ?_
  cases hp : p e with
  | true => rfl
  | false => rw [h e he hp]; rfl

end

/-- **A source with its gate**: the calls that wait, in the order in which they came, and those that
were let through and have not gone on, in the order of their turns. -/
structure Gate where
  source : Source
  waiting : List Visit
  admitted : List Visit

/-- What can be seen of a source. -/
inductive Note where
  /-- A call arrives. -/
  | drew (v : Visit)
  /-- The gate is opened. -/
  | released
  /-- A call that waited is let through. -/
  | passed (v : Visit)
  /-- A call ends that the source answers. -/
  | ended (v : Visit) (o : Outcome) (waited : Bool)

namespace Gate

/-- What is noted if the gate opens. -/
def opening (g : Gate) : List Note := (g.waiting.take 1).map .passed

/-- The gate after it opened. -/
def opened (g : Gate) : Gate :=
  match g.waiting with
  | [] => { g with source := g.source.putPermit }
  | v :: rest => { g with waiting := rest, admitted := g.admitted ++ [v] }

/-- **Everything that can happen at a gate**, and what is noted of it. -/
inductive Course (prompt : Prop) (g : Gate) : List Note → Gate → Prop where
  /-- Nothing happens, or a call that waits is given up. -/
  | left {waiting : List Visit} (sublist : waiting.Sublist g.waiting) :
      Course prompt g [] { g with waiting }
  /-- A call arrives and is answered. -/
  | answered {x : Task} (passes : (g.source.arrive x.kid).2.1 = true) :
      Course prompt g
        [.drew ⟨g.source.calls, x⟩,
          .ended ⟨g.source.calls, x⟩ (g.source.outcome x.kid g.source.calls) false]
        { g with source := (g.source.arrive x.kid).2.2 }
  /-- A call arrives and waits. -/
  | waits {x : Task} (held : (g.source.arrive x.kid).2.1 = false) :
      Course prompt g [.drew ⟨g.source.calls, x⟩]
        { g with
          source := (g.source.arrive x.kid).2.2, waiting := g.waiting ++ [⟨g.source.calls, x⟩] }
  /-- A call that was let through is answered. -/
  | ends {front back : List Visit} {v : Visit} (admitted : g.admitted = front ++ v :: back)
      (first : prompt → front = []) :
      Course prompt g [.ended v (g.source.outcome v.task.kid v.number) true]
        { g with admitted := front ++ back }
  /-- The gate is opened. -/
  | released : Course prompt g (.released :: g.opening) g.opened
  /-- A call that was let through is given up. -/
  | revoked {front back : List Visit} {v : Visit} (admitted : g.admitted = front ++ v :: back) :
      Course prompt g g.opening { g with admitted := front ++ back }.opened

theorem Course.refl (prompt : Prop) (g : Gate) : Course prompt g [] g :=
  .left (List.Sublist.refl _)

end Gate

namespace State

/-- The calls that wait at the gate of a source. -/
def waitingAt (s : State) (i : Nat) : List Visit := visits (Spot.callAt? i) s.parked

/-- The calls that were let through the gate of a source and have not gone on. -/
def admittedAt (s : State) (i : Nat) : List Visit := visits (Stage.callAt? i) s.ready

/-- A source and the calls at its gate. -/
def gate? (s : State) (i : Nat) : Option Gate :=
  (s.sources[i]?).map (⟨·, s.waitingAt i, s.admittedAt i⟩)

end State

/-! ## What is noted -/

/-- What is noted of a source in a turn. -/
def Turn.notes (i : Nat) (T : Turn) : List Note :=
  match T.stage with
  | .calling =>
    if .called (.source i) T.task.kid ∈ T.events then
      let v : Visit := ⟨((T.before.sources[i]?).map Source.calls).getD 0, T.task⟩
      .drew v :: T.result?.toList.map (.ended v · false)
    else []
  | .admitted j n => if j = i then T.result?.toList.map (.ended ⟨n, T.task⟩ · true) else []
  | .fetching _ | .told _ => []

namespace State

/-- What is noted of a source if its gate opens. -/
def opening (s : State) (i : Nat) : List Note := ((s.gate? i).map Gate.opening).getD []

/-- **What is noted of a source** in a move. -/
def notes (s : State) (i : Nat) : Move → List Note
  | .openGate j => if j = i then .released :: s.opening i else []
  | .abort id =>
    match s.parkedCall? id, s.readyCall? id with
    | none, some (_, .admitted j _) => if j = i then s.opening i else []
    | _, _ => []
  | m => ((s.turn? m).map (Turn.notes i)).getD []

/-- **What is noted of a source** in a trial. -/
def diary (s : State) (i : Nat) : List Move → List Note
  | [] => []
  | m :: ms => s.notes i m ++ (s.apply m).diary i ms

/-! ## Views of a state -/

variable {s t : State} {i : Nat} {g : Gate} {source : Source}

theorem gate?_eq_some : s.gate? i = some g ↔
    s.sources[i]? = some g.source ∧ s.waitingAt i = g.waiting ∧ s.admittedAt i = g.admitted := by
  obtain ⟨source, waiting, admitted⟩ := g
  rw [gate?, Option.map_eq_some_iff]
  constructor
  · rintro ⟨source', hs, heq⟩
    cases heq
    exact ⟨hs, rfl, rfl⟩
  · rintro ⟨hs, rfl, rfl⟩
    exact ⟨source, hs, rfl⟩

theorem gate?_congr (hs : t.sources[i]? = s.sources[i]?) (hw : t.waitingAt i = s.waitingAt i)
    (ha : t.admittedAt i = s.admittedAt i) : t.gate? i = s.gate? i := by
  rw [gate?, gate?, hs, hw, ha]

theorem opening_eq (hg : s.gate? i = some g) : s.opening i = g.opening := by
  rw [opening, hg]
  rfl

/-- A ready task is taken out that was not let through the gate. -/
theorem gate?_without_other (hg : s.gate? i = some g) {front back : List (Task × Stage)}
    {e : Task × Stage} (hready : s.ready = front ++ e :: back) (he : e.2.callAt? i = none) :
    gate? { s with ready := front ++ back } i = some g := by
  obtain ⟨hs, hw, ha⟩ := gate?_eq_some.1 hg
  refine gate?_eq_some.2 ⟨hs, hw, ?_⟩
  rw [← ha, admittedAt, admittedAt, hready, visits_append, visits_append, visits_cons_of_none he]

/-- A ready task is taken out that was let through the gate. -/
theorem gate?_without_admitted (hg : s.gate? i = some g) {front back : List (Task × Stage)}
    {x : Task} {n : Nat} (hready : s.ready = front ++ (x, .admitted i n) :: back) :
    g.admitted = visits (Stage.callAt? i) front ++ ⟨n, x⟩ :: visits (Stage.callAt? i) back ∧
      gate? { s with ready := front ++ back } i = some { g with
        admitted := visits (Stage.callAt? i) front ++ visits (Stage.callAt? i) back } := by
  obtain ⟨hs, hw, ha⟩ := gate?_eq_some.1 hg
  refine ⟨?_, gate?_eq_some.2 ⟨hs, hw, visits_append⟩⟩
  rw [← ha, admittedAt, hready, visits_append, visits_cons_of_some (Stage.callAt?_self i n)]

/-! ## Gates open -/

theorem callAt?_eq_some {spot : Spot} {n : Nat} : spot.callAt? i = some n ↔ spot = .gate i n := by
  cases spot with
  | flight c place => constructor <;> intro h <;> cases h
  | gate j m =>
    by_cases hij : j = i
    · rw [hij, Spot.callAt?_self, Option.some_inj, Spot.gate.injEq, and_iff_right rfl]
    · rw [Spot.callAt?_of_ne hij, Spot.gate.injEq, iff_false_right fun h => hij h.1]
      exact Option.some_ne_none n ∘ Eq.symm

/-- The first call that waits at the gate of a source. -/
theorem waitingAt_cases (s : State) (j : Nat) :
    ((s.parked.find? fun e => (e.2.callAt? j).isSome) = none ∧ s.waitingAt j = []) ∨
      ∃ front back x n, s.parked = front ++ (x, .gate j n) :: back ∧
        (s.parked.find? fun e => (e.2.callAt? j).isSome) = some (x, .gate j n) ∧
        visits (Spot.callAt? j) front = [] ∧
        s.parked.erase (x, .gate j n) = front ++ back := by
  cases h : s.parked.find? fun e => (e.2.callAt? j).isSome with
  | none =>
    refine .inl ⟨rfl, visits_eq_nil fun e he => ?_⟩
    simpa using List.find?_eq_none.1 h e he
  | some e =>
    obtain ⟨x, spot⟩ := e
    obtain ⟨hspot, front, back, hparked, hfront⟩ := List.find?_eq_some_iff_append.1 h
    obtain ⟨n, hn⟩ := Option.isSome_iff_exists.1 hspot
    obtain rfl := callAt?_eq_some.1 hn
    have hnone : ∀ e ∈ front, e.2.callAt? j = none := fun e he => by simpa using hfront e he
    refine .inr ⟨front, back, x, n, hparked, rfl, visits_eq_nil hnone, ?_⟩
    have hnot : (x, Spot.gate j n) ∉ front := fun hmem => by
      rw [hnone _ hmem] at hn
      cases hn
    rw [hparked, List.erase_append_right _ hnot, List.erase_cons_head]

theorem gate?_setSource_self (hs : s.sources[i]? = some source) (source' : Source) :
    (s.setSource i source').gate? i = some ⟨source', s.waitingAt i, s.admittedAt i⟩ := by
  have hlt := (List.getElem?_eq_some_iff.1 hs).1
  exact gate?_eq_some.2 ⟨List.getElem?_set_self hlt, rfl, rfl⟩

/-- The gate of a source opens for nobody. -/
theorem gate?_putPermit {j : Nat} (hnobody : s.waitingAt j = [])
    (hs : s.sources[j]? = some source) (i : Nat) :
    (s.setSource j source.putPermit).gate? i =
      if j = i then (s.gate? i).map Gate.opened else s.gate? i := by
  split
  · next hij =>
    subst hij
    rw [gate?_setSource_self hs, gate?, hs, Option.map_some, Option.map_some, Gate.opened, hnobody]
  · next hij => exact gate?_congr (List.getElem?_set_ne hij) rfl rfl

/-- The gate of a source opens for the call that has waited longest. -/
theorem gate?_passed {front back : List (Task × Spot)} {x : Task} {j n : Nat}
    (hparked : s.parked = front ++ (x, .gate j n) :: back)
    (hfront : visits (Spot.callAt? j) front = []) (i : Nat) :
    ({ s with parked := front ++ back }.enqueue x (.admitted j n)).gate? i =
      if j = i then (s.gate? i).map Gate.opened else s.gate? i := by
  split
  · next hij =>
    subst hij
    have hwaiting : s.waitingAt j = ⟨n, x⟩ :: visits (Spot.callAt? j) back := by
      rw [waitingAt, hparked, visits_append, hfront, visits_cons_of_some (Spot.callAt?_self j n),
        List.nil_append]
    rw [gate?, gate?, Option.map_map]
    refine congrArg (Option.map · s.sources[j]?) (funext fun source => ?_)
    rw [Function.comp_apply, Gate.opened, hwaiting]
    dsimp only
    congr 1
    · rw [waitingAt, enqueue, visits_append, hfront, List.nil_append]
    · rw [admittedAt, enqueue, visits_append, visits_cons_of_some (Stage.callAt?_self j n)]
      rfl
  · next hij =>
    refine gate?_congr rfl ?_ ?_
    · rw [waitingAt, waitingAt, hparked, visits_append,
        visits_cons_of_none (Spot.callAt?_of_ne hij n), enqueue,
        visits_append]
    · rw [admittedAt, enqueue, visits_append, visits_cons_of_none (Stage.callAt?_of_ne hij n)]
      exact List.append_nil _

/-- **What an opening does** to the gate of each source. -/
theorem gate?_openGate (s : State) (i j : Nat) :
    (s.openGate j).gate? i = if j = i then (s.gate? i).map Gate.opened else s.gate? i := by
  rcases s.waitingAt_cases j with
    ⟨hfind, hnobody⟩ | ⟨front, back, x, n, hparked, hfind, hfront, herase⟩
  · rw [openGate, hfind]
    dsimp only
    cases hs : s.sources[j]? with
    | none =>
      dsimp only
      split
      · next hij =>
        rw [← hij, gate?, hs]
        rfl
      · rfl
    | some source => exact gate?_putPermit hnobody hs i
  · have hopen : s.openGate j = { s with parked := front ++ back }.enqueue x (.admitted j n) := by
      rw [openGate, hfind, ← herase]
    rw [hopen, gate?_passed hparked hfront]

/-! ## Calls that are given up -/

/-- The ready task of a call is its only one. -/
theorem strike_eq (h : s.Numbered []) (id : Nat) :
    (s.readyCall? id = none ∧ s.strike id = s) ∨ ∃ e front back, s.readyCall? id = some e ∧
      s.ready = front ++ e :: back ∧ s.strike id = { s with ready := front ++ back } := by
  rw [readyCall?, strike]
  cases hfind : s.ready.find? fun e => e.1.role == .caller id with
  | none =>
    have hall := List.find?_eq_none.1 hfind
    have hsame : s.ready.filter (fun e => !(e.1.role == .caller id)) = s.ready :=
      List.filter_eq_self.2 fun e he => by simpa using hall e he
    exact .inl ⟨rfl, by rw [hsame]⟩
  | some e =>
    obtain ⟨hrole, front, back, hready, hfront⟩ := List.find?_eq_some_iff_append.1 hfind
    have hone : s.ready.countP (fun e => e.1.role == .caller id) ≤ 1 := by
      have hcount := h id
      rw [calls, crew, List.nil_append, tasks, List.countP_append, List.countP_map] at hcount
      have hle : s.ready.countP (fun e => e.1.role == .caller id) ≤
          if id < s.started then 1 else 0 :=
        Nat.le_trans (Nat.le_trans (Nat.le_add_right _ _) (Nat.le_add_right _ _)) hcount
      exact Nat.le_trans hle (by split <;> omega)
    have hback : ∀ e ∈ back, (!(e.1.role == .caller id)) = true := by
      rw [hready, List.countP_append,
        List.countP_cons_of_pos (p := fun e : Task × Stage => e.1.role == .caller id) hrole] at hone
      have hzero : back.countP (fun e => e.1.role == .caller id) = 0 := by omega
      exact fun e he => by simpa using List.countP_eq_zero.1 hzero e he
    refine .inr ⟨e, front, back, rfl, hready, ?_⟩
    rw [hready, List.filter_append, List.filter_cons_of_neg (by simp [hrole]),
      List.filter_eq_self.2 hfront, List.filter_eq_self.2 hback]

/-- **What happens if a call is given up**: it waited, it was let through, or neither. -/
theorem giveUp_course (hn : s.Numbered []) (hg : s.gate? i = some g) (prompt : Prop) (id : Nat) :
    ∃ g', (s.giveUp id).gate? i = some g' ∧ g.Course prompt (s.notes i (.abort id)) g' := by
  rw [giveUp, cancel?, notes]
  cases hparked : s.parkedCall? id with
  | some e =>
    obtain ⟨hs, -, ha⟩ := gate?_eq_some.1 hg
    obtain ⟨cs, -, hleave⟩ := leave_eq { s with parked := s.parked.erase e } e.1.kid e.2
    have hsub : (visits (Spot.callAt? i) (s.parked.erase e)).Sublist g.waiting :=
      (gate?_eq_some.1 hg).2.1 ▸ visits_sublist List.erase_sublist
    refine ⟨_, ?_, .left hsub⟩
    change ({ s with parked := s.parked.erase e }.leave e.1.kid e.2).gate? i = _
    rw [hleave]
    exact gate?_eq_some.2 ⟨hs, rfl, ha⟩
  | none =>
    change ∃ g', (s.withdraw id).gate? i = some g' ∧ _
    rw [withdraw]
    obtain ⟨hnone, hstrike⟩ | ⟨⟨x, stage⟩, front, back, hsome, hready, hstrike⟩ := strike_eq hn id
    · rw [hnone, hstrike]
      exact ⟨g, hg, .refl _ _⟩
    · rw [hsome, hstrike]
      have hother := gate?_without_other hg hready
      cases stage with
      | calling | fetching _ | told _ => exact ⟨g, hother rfl, .refl _ _⟩
      | admitted j n =>
        dsimp only
        rw [gate?_openGate]
        split
        · next hij =>
          subst hij
          obtain ⟨hsplit, hwithout⟩ := gate?_without_admitted hg hready
          rw [hwithout, opening_eq hg]
          exact ⟨_, rfl, .revoked hsplit⟩
        · next hij => exact ⟨g, hother (Stage.callAt?_of_ne hij n), .refl _ _⟩

/-! ## Turns -/

/-- A task that ends leaves all gates as they are. -/
theorem gate?_finish (s : State) (x : Task) (o : Outcome) (i : Nat) :
    (s.finish x o).gate? i = s.gate? i := by
  rcases s.finish_cases x o with ⟨id, -, heq⟩ | ⟨c, -, -, heq⟩ | ⟨c, cs, m, -, -, heq⟩
  · rw [heq]
    rfl
  · rw [heq]
  · rw [heq]
    refine gate?_congr rfl ?_ ?_
    · refine visits_filter fun e _ he => ?_
      obtain ⟨y, spot⟩ := e
      cases spot with
      | flight c place => rfl
      | gate j n => simp [placeFor?, Spot.placeIn?] at he
    · refine visits_append.trans ?_
      rw [visits_eq_nil (l := List.map _ _), List.append_nil]
      · rfl
      · rintro e he
        obtain ⟨y, -, rfl⟩ := List.mem_map.1 he
        rfl

/-- The events of a call tell whether it comes to a source. -/
theorem count_called_source (kid : String) (p : Provider) (hs : s.sources[i]? = some source)
    {source' : Source} (ht : (call kid p s).2.sources[i]? = some source') :
    source'.callsFor kid =
      source.callsFor kid + (events kid p s).count (.called (.source i) kid) := by
  have hcalls := callsTo_call kid p s i kid
  rw [callsTo, callsTo, hs, ht] at hcalls
  exact Option.some.inj hcalls

/-- **What a call does to a source**: it does not come there, or it draws a number, and it is
answered or waits. -/
theorem call_source_cases (kid : String) (p : Provider) (hs : s.sources[i]? = some source) :
    (.called (.source i) kid ∉ events kid p s ∧
        (call kid p s).2.sources[i]? = some source ∧
        ∀ n, (call kid p s).1 ≠ .waits (.gate i n)) ∨
      .called (.source i) kid ∈ events kid p s ∧
        (call kid p s).2.sources[i]? = some (source.arrive kid).2.2 ∧
        (call kid p s).1 = if (source.arrive kid).2.1 then .ended (source.outcome kid source.calls)
          else .waits (.gate i source.calls) := by
  have hcount : ∀ source', (call kid p s).2.sources[i]? = some source' → source'.callsFor kid =
      source.callsFor kid + (events kid p s).count (.called (.source i) kid) :=
    fun _ => count_called_source kid p hs
  have hlt := (List.getElem?_eq_some_iff.1 hs).1
  have hnumber : (source.arrive kid).1 = source.calls := by
    unfold Source.arrive
    split <;> rfl
  have hcalled := called kid p s
  generalize call kid p s = c at hcalled hcount ⊢
  obtain ⟨r, t⟩ := c
  -- the count of the source tells the events of the call
  have hstays (ht : t.sources[i]? = some source) : .called (.source i) kid ∉ events kid p s := by
    have := hcount source ht
    exact List.count_eq_zero.1 (by omega)
  have hcomes (ht : t.sources[i]? = some (source.arrive kid).2.2) :
      .called (.source i) kid ∈ events kid p s := by
    have := hcount _ ht
    rw [callsFor_arrive, if_pos rfl] at this
    exact List.count_pos_iff.1 (by omega)
  cases hcalled with
  | refused | asked | hit => exact .inl ⟨hstays hs, hs, nofun⟩
  | joined | started => exact .inl ⟨hstays hs, hs, nofun⟩
  | @answered j source' _ _ _ core found passes =>
    by_cases hij : j = i
    · subst hij
      cases hs.symm.trans found
      have ht := List.getElem?_set_self (a := (source.arrive kid).2.2) hlt
      refine .inr ⟨hcomes ht, ht, ?_⟩
      rw [if_pos passes, hnumber]
    · have ht := (List.getElem?_set_ne (a := (source'.arrive kid).2.2) hij).trans hs
      exact .inl ⟨hstays ht, ht, nofun⟩
  | @gated j source' _ _ _ core found passes =>
    by_cases hij : j = i
    · subst hij
      cases hs.symm.trans found
      have ht := List.getElem?_set_self (a := (source.arrive kid).2.2) hlt
      refine .inr ⟨hcomes ht, ht, ?_⟩
      rw [if_neg (by rw [passes]; decide), hnumber]
    · have ht := (List.getElem?_set_ne (a := (source'.arrive kid).2.2) hij).trans hs
      refine .inl ⟨hstays ht, ht, fun n h => hij ?_⟩
      cases h
      rfl

/-- A call leaves those that wait at gates and those that were let through. -/
theorem Called.views {kid : String} {p : Provider} {r : Reach} (h : Called kid p s r t) (i : Nat) :
    t.waitingAt i = s.waitingAt i ∧ t.admittedAt i = s.admittedAt i := by
  refine ⟨by rw [waitingAt, h.parked, waitingAt], ?_⟩
  cases h with
  | started =>
    refine visits_append.trans ?_
    rw [visits_cons_of_none rfl]
    exact List.append_nil _
  | _ => rfl

/-- A task is parked anywhere but at the gate of the source. -/
theorem gate?_park (x : Task) {spot : Spot} (h : ∀ n, spot ≠ .gate i n) :
    (s.park x spot).gate? i = s.gate? i := by
  have hspot : spot.callAt? i = none := by
    by_contra hsome
    obtain ⟨n, hn⟩ := Option.ne_none_iff_exists'.1 hsome
    exact h n (callAt?_eq_some.1 hn)
  refine gate?_congr rfl (visits_append.trans ?_) rfl
  rw [visits_cons_of_none hspot]
  exact List.append_nil _

/-- A task becomes ready that was not let through the gate of the source. -/
theorem gate?_enqueue (x : Task) {stage : Stage} (h : stage.callAt? i = none) :
    (s.enqueue x stage).gate? i = s.gate? i := by
  refine gate?_congr rfl rfl (visits_append.trans ?_)
  rw [visits_cons_of_none h]
  exact List.append_nil _

/-- The end of a fetch over the network leaves all gates as they are. -/
theorem gate?_receive (s : State) (y : Exchange) (i : Nat) :
    (s.receive y).2.gate? i = s.gate? i := by
  have hquiet := s.quiet_receive y
  refine gate?_congr (congrArg (·[i]?) (receive_eq s y).1) ?_ ?_
  · rw [waitingAt, hquiet.parked, waitingAt]
  · rw [admittedAt, hquiet.ready, admittedAt]

/-- The turn of a task that makes its call. -/
theorem calling_course (hg : s.gate? i = some g) (prompt : Prop) (x : Task) :
    ∃ g', (s.advanceTask x .calling).gate? i = some g' ∧
      g.Course prompt (Turn.notes i ⟨x, .calling, s⟩) g' := by
  obtain ⟨hs, hw, ha⟩ := gate?_eq_some.1 hg
  have hcases := call_source_cases x.kid x.provider hs
  have hcalled := called x.kid x.provider s
  rw [Turn.notes, Turn.events, Turn.result?, verdict, advanceTask]
  dsimp only
  generalize call x.kid x.provider s = c at hcases hcalled ⊢
  obtain ⟨r, t⟩ := c
  obtain ⟨hwaiting, hadmitted⟩ := hcalled.views i
  rcases hcases with ⟨hnot, ht, hspot⟩ | ⟨hcomes, ht, hr⟩
  · have hgate : t.gate? i = some g := gate?_eq_some.2 ⟨ht, hwaiting.trans hw, hadmitted.trans ha⟩
    rw [if_neg hnot]
    cases r with
    | ended o => exact ⟨g, (gate?_finish t x o i).trans hgate, .refl _ _⟩
    | waits spot => exact ⟨g, (gate?_park x fun n h => hspot n (h ▸ rfl)).trans hgate, .refl _ _⟩
    | fetches y => exact ⟨g, (gate?_enqueue x rfl).trans hgate, .refl _ _⟩
  · dsimp only at ht hr
    rw [if_pos hcomes, hs]
    cases hpasses : (g.source.arrive x.kid).2.1 with
    | true =>
      rw [hpasses, if_pos rfl] at hr
      subst hr
      refine ⟨_, (gate?_finish t x _ i).trans ?_, .answered hpasses⟩
      exact gate?_eq_some.2 ⟨ht, hwaiting.trans hw, hadmitted.trans ha⟩
    | false =>
      rw [hpasses, if_neg (by decide)] at hr
      subst hr
      have hparked : (t.park x (.gate i g.source.calls)).waitingAt i =
          g.waiting ++ [⟨g.source.calls, x⟩] := by
        refine visits_append.trans ?_
        rw [visits_cons_of_some (Spot.callAt?_self i _)]
        exact congrArg (· ++ _) (hwaiting.trans hw)
      have hgate : (t.park x (.gate i g.source.calls)).gate? i = some { g with
          source := (g.source.arrive x.kid).2.2
          waiting := g.waiting ++ [⟨g.source.calls, x⟩] } :=
        gate?_eq_some.2 ⟨ht, hparked, hadmitted.trans ha⟩
      exact ⟨_, hgate, .waits hpasses⟩

/-- A ready task among the others. -/
theorem exists_split_ready {k : Nat} {e : Task × Stage} (hk : s.ready[k]? = some e) :
    ∃ front back, s.ready = front ++ e :: back ∧ s.ready.eraseIdx k = front ++ back ∧
      front.length = k := by
  obtain ⟨hlt, rfl⟩ := List.getElem?_eq_some_iff.1 hk
  refine ⟨s.ready.take k, s.ready.drop (k + 1), ?_, List.eraseIdx_eq_take_drop_succ _ _, ?_⟩
  · rw [List.getElem_cons_drop, List.take_append_drop]
  · rw [List.length_take, Nat.min_eq_left (Nat.le_of_lt hlt)]

/-- **What a turn does** to the gate of a source. -/
theorem turnAt_course {k : Nat} {x : Task} {stage : Stage} (hk : s.ready[k]? = some (x, stage))
    (hg : s.gate? i = some g) {prompt : Prop} (hprompt : prompt → k = 0) :
    ∃ g', (s.turnAt k).gate? i = some g' ∧
      g.Course prompt (Turn.notes i ⟨x, stage, { s with ready := s.ready.eraseIdx k }⟩) g' := by
  obtain ⟨front, back, hready, herase, hlength⟩ := exists_split_ready hk
  have hother := gate?_without_other hg hready
  rw [turnAt, hk, herase]
  dsimp only
  cases stage with
  | calling => exact calling_course (hother rfl) prompt x
  | told result => exact ⟨g, (gate?_finish _ _ _ _).trans (hother rfl), .refl _ _⟩
  | fetching y =>
    exact ⟨g, (gate?_finish _ _ _ _).trans ((gate?_receive _ y i).trans (hother rfl)), .refl _ _⟩
  | admitted j n =>
    rw [advanceTask, Turn.notes, Turn.result?, verdict]
    dsimp only
    by_cases hij : j = i
    · subst hij
      obtain ⟨hsplit, hwithout⟩ := gate?_without_admitted hg hready
      have hfirst : prompt → visits (Stage.callAt? j) front = [] := fun h => by
        rw [List.eq_nil_of_length_eq_zero (hlength.trans (hprompt h))]
        rfl
      rw [(gate?_eq_some.1 hg).1, if_pos rfl]
      exact ⟨_, (gate?_finish _ _ _ _).trans hwithout, .ends hsplit hfirst⟩
    · have hgate := hother (Stage.callAt?_of_ne hij n)
      rw [if_neg hij]
      refine ⟨g, ?_, .refl _ _⟩
      split
      · exact (gate?_finish _ _ _ _).trans hgate
      · exact hgate

/-! ## Moves -/

/-- A move that touches neither sources nor tasks, but for a call that begins. -/
theorem gate?_of_views (hg : s.gate? i = some g) (hs : t.sources = s.sources)
    (hparked : t.parked = s.parked) (hready : t.ready = s.ready) : t.gate? i = some g := by
  rw [← hg]
  exact gate?_congr (by rw [hs]) (by rw [waitingAt, hparked, waitingAt])
    (by rw [admittedAt, hready, admittedAt])

theorem gate?_spawn (hg : s.gate? i = some g) (p : Provider) (kid : String) :
    (s.spawn p kid).gate? i = some g :=
  (gate?_enqueue _ rfl).trans hg

theorem notes_turn (s : State) (i k : Nat) :
    s.notes i (.turn k) = ((s.ready[k]?).map fun e =>
      Turn.notes i ⟨e.1, e.2, { s with ready := s.ready.eraseIdx k }⟩).getD [] := by
  simp only [notes, turn?, Option.map_map]
  rfl

/-- **Everything that a move does** at the gate of a source. -/
theorem course (hn : s.Numbered []) (hg : s.gate? i = some g) {m : Move} (hfair : m.Fair) :
    ∃ g', (s.apply m).gate? i = some g' ∧ g.Course m.Prompt (s.notes i m) g' := by
  have hstays {prompt : Prop} {t : State} (h : t.gate? i = some g) :
      ∃ g', t.gate? i = some g' ∧ g.Course prompt [] g' := ⟨g, h, .refl _ _⟩
  cases m with
  | pass k => exact hfair.elim
  | bucket r | skip | drop p | delay d | advance d | fetchAll r | forgo k =>
    exact hstays (gate?_of_views hg rfl rfl rfl)
  | build base layers =>
    rw [apply]
    split
    · obtain ⟨bs, cs, heq, -⟩ := s.install_eq base layers
      rw [heq]
      exact hstays (gate?_of_views hg rfl rfl rfl)
    · exact hstays hg
  | get p kid =>
    rw [apply]
    split
    · exact hstays (gate?_spawn hg _ _)
    · exact hstays hg
  | callBucket b c =>
    rw [apply, callBucket]
    split
    · exact hstays (gate?_of_views hg rfl rfl rfl)
    · exact hstays hg
  | receive k =>
    rw [apply, receiveAt]
    split
    · exact hstays ((gate?_receive _ _ i).trans (gate?_of_views hg rfl rfl rfl))
    · exact hstays hg
  | abort id => exact giveUp_course hn hg _ id
  | openGate j =>
    rw [apply, notes, gate?_openGate]
    split
    · rw [hg, opening_eq hg]
      exact ⟨_, rfl, .released⟩
    · exact hstays hg
  | turn k =>
    rw [apply, notes_turn]
    cases hk : s.ready[k]? with
    | none =>
      rw [turnAt, hk]
      exact hstays hg
    | some e => exact turnAt_course hk hg id

end State

end SigningKeys
