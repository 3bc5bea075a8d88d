import SigningKeys.Proofs.Pipeline.Ledger
import SigningKeys.Proofs.Run.Waiting

/-!
# Fetches that begin, end and are given up

A fetch over the network begins when a key set is called, or when the user asks for the whole set.
It is under way until it ends or is given up, and other moves leave it alone.

* `State.underWay`: the fetches that are under way;
* `State.begins`, `State.completes`, `State.renounces`: what a move does to them;
* `underWay_apply`, **`underWay_run`**: a fetch that began has ended, was given up, or is under way.
-/

namespace SigningKeys

/-- The fetch over the network that a task goes on with. -/
def Stage.exchange? : Stage → Option Exchange
  | .fetching x => some x
  | .calling | .admitted _ _ | .told _ => none

/-- The fetch over the network that begins with an event. -/
def Event.exchange? (now : Instant) : Event → Option Exchange
  | .called (.remote r) _ => some ⟨r, now⟩
  | _ => none

/-- The fetches over the network that begin in a turn. -/
def Turn.begun (T : Turn) : List Exchange := T.events.filterMap (·.exchange? T.before.now)

namespace State

/-- **The fetches over the network that are under way**, for keys and for whole key sets. -/
def underWay (s : State) : List Exchange := s.ready.filterMap (·.2.exchange?) ++ s.reads

/-- The fetches that begin with a move. -/
def begins (s : State) : Move → List Exchange
  | .fetchAll r => [⟨r, s.now⟩]
  | m => (s.turn? m).toList.flatMap Turn.begun

/-- **The fetches that end with a move.** -/
def completes (s : State) : Move → List Exchange
  | .receive k => s.reads[k]?.toList
  | m => (s.turn? m).toList.filterMap (·.stage.exchange?)

/-- The fetches that are given up with a move: of a whole key set, or by the caller for whom it was
made. -/
def renounces (s : State) : Move → List Exchange
  | .forgo k => s.reads[k]?.toList
  | .abort id =>
    match s.parkedCall? id with
    | some _ => []
    | none => (s.ready.filter fun e => e.1.role == .caller id).filterMap (·.2.exchange?)
  | _ => []

/-- The fetches of a run that its moves single out, in their order. -/
def gather (f : State → Move → List Exchange) (s : State) : List Move → List Exchange
  | [] => []
  | m :: ms => f s m ++ gather f (s.apply m) ms

variable {s t : State}

/-! ## Turns -/

/-- A call begins the fetch that it comes to, and no other. -/
theorem begun_call (kid : String) (p : Provider) (s : State) :
    (events kid p s).filterMap (·.exchange? s.now) =
      match (call kid p s).1 with
      | .fetches x => [x]
      | .ended _ | .waits _ => [] := by
  induction p generalizing s with
  | source i =>
    rw [call, callSource]
    cases s.sources[i]? with
    | none => rfl
    | some source =>
      dsimp only
      split
      · rename_i heq
        split at heq <;> cases heq
      · rfl
      · rfl
  | remote r => rfl
  | cached inner c =>
    have hnone : ∀ x, (call kid (.cached inner c) s).1 ≠ .fetches x := by
      have hcalled := called kid (.cached inner c) s
      intro x hx
      rw [hx] at hcalled
      generalize (call kid (.cached inner c) s).2 = t at hcalled
      cases hcalled with
      | asked buckets core => cases core
    split
    · rename_i x hx
      exact absurd hx (hnone x)
    all_goals rfl
  | limited inner b ih =>
    have hlimiter := atLimiter kid inner b s
    generalize call kid (.limited inner b) s = result, events kid (.limited inner b) s = es
      at hlimiter ⊢
    cases hlimiter with
    | absent | stopped => rfl
    | @granted B B' found answer => exact ih (s.paid b B')

theorem underWay_of_ready_append {l : List (Task × Stage)} (hready : t.ready = s.ready ++ l)
    (hl : ∀ e ∈ l, e.2.exchange? = none) (hreads : t.reads = s.reads) :
    t.underWay = s.underWay := by
  rw [underWay, underWay, hready, hreads, List.filterMap_append,
    List.filterMap_eq_nil_iff.2 hl, List.append_nil]

theorem underWay_enqueue (s : State) (x : Task) {stage : Stage} (h : stage.exchange? = none) :
    (s.enqueue x stage).underWay = s.underWay :=
  underWay_of_ready_append rfl (List.forall_mem_singleton.2 h) rfl

theorem perm_underWay_enqueue (s : State) (x : Task) (e : Exchange) :
    (s.enqueue x (.fetching e)).underWay.Perm (e :: s.underWay) := by
  rw [underWay, enqueue, List.filterMap_append]
  exact (List.perm_append_singleton _ _).append_right _

theorem underWay_finish (s : State) (x : Task) (o : Outcome) :
    (s.finish x o).underWay = s.underWay := by
  rcases s.finish_cases x o with ⟨id, -, heq⟩ | ⟨c, -, -, heq⟩ | ⟨c, cs, m, -, -, heq⟩
  · rw [heq]
    rfl
  · rw [heq]
  · rw [heq]
    refine underWay_of_ready_append (l := (s.waiting c x.kid).map (·, .told o.share)) rfl ?_ rfl
    exact List.forall_mem_map.2 fun _ _ => rfl

theorem underWay_receive (s : State) (e : Exchange) : (s.receive e).2.underWay = s.underWay := by
  obtain ⟨now, delay, requests, m, -, heq⟩ := s.noteFetch_eq
    (e.remote.fetch s.network (s.wait e) s.requests.length)
  rw [receive]
  dsimp only
  rw [heq]
  rfl

theorem Called.underWay {kid : String} {p : Provider} {r : Reach} (h : Called kid p s r t) :
    t.underWay = s.underWay := by
  cases h with
  | started buckets core found stale flight =>
    exact underWay_of_ready_append rfl (List.forall_mem_singleton.2 rfl) rfl
  | _ => rfl

end State

namespace Turn

/-- **What a turn does to the fetches under way**: it begins some, but that of its own task it has
taken out. -/
theorem underWay_after (T : Turn) : T.after.underWay.Perm (T.begun ++ T.before.underWay) := by
  obtain ⟨x, stage, s⟩ := T
  cases stage with
  | calling =>
    have hcalled := State.called x.kid x.provider s
    have hbegun : begun ⟨x, .calling, s⟩ = _ := State.begun_call x.kid x.provider s
    rw [after, hbegun]
    dsimp only
    rw [State.advanceTask]
    generalize State.call x.kid x.provider s = called at hcalled ⊢
    obtain ⟨reach, t⟩ := called
    have hunder : t.underWay = s.underWay := hcalled.underWay
    rw [← hunder]
    cases reach with
    | ended o => exact .of_eq (State.underWay_finish _ _ _)
    | waits spot => exact .refl _
    | fetches y => exact State.perm_underWay_enqueue _ _ _
  | admitted i n =>
    change (s.advanceTask x (.admitted i n)).underWay.Perm s.underWay
    rw [State.advanceTask]
    split
    · exact .of_eq (State.underWay_finish _ _ _)
    · exact .refl _
  | fetching y =>
    refine .of_eq ((State.underWay_finish _ _ _).trans ?_)
    exact State.underWay_receive _ _
  | told result => exact .of_eq (State.underWay_finish _ _ _)

end Turn

namespace State

/-! ## Moves and runs -/

theorem underWay_openGate (s : State) (i : Nat) : (s.openGate i).underWay = s.underWay := by
  obtain ⟨x, j, n, rest, -, -, heq⟩ | ⟨source, -, heq⟩ | heq := s.openGate_cases i
  · rw [heq]
    exact underWay_enqueue _ _ rfl
  · rw [heq]
    rfl
  · rw [heq]

theorem perm_underWay_strike (s : State) (id : Nat) : s.underWay.Perm
    ((s.ready.filter fun e => e.1.role == .caller id).filterMap (·.2.exchange?) ++
      (s.strike id).underWay) := by
  rw [underWay, underWay, strike, ← List.append_assoc, ← List.filterMap_append]
  exact ((List.filter_append_perm _ _).symm.filterMap _).append_right _

theorem perm_underWay_giveUp (s : State) (id : Nat) :
    s.underWay.Perm (s.renounces (.abort id) ++ (s.giveUp id).underWay) := by
  rw [renounces, giveUp, cancel?]
  cases s.parkedCall? id with
  | some e =>
    obtain ⟨cs, -, hleave⟩ := leave_eq { s with parked := s.parked.erase e } e.1.kid e.2
    refine .of_eq ?_
    change s.underWay = ({ s with parked := s.parked.erase e }.leave e.1.kid e.2).underWay
    rw [hleave]
    rfl
  | none =>
    change s.underWay.Perm (_ ++ (s.withdraw id).underWay)
    have hstrike := s.perm_underWay_strike id
    obtain heq | ⟨i, heq⟩ := s.withdraw_cases id
    · rw [heq]
      exact hstrike
    · rw [heq, underWay_openGate]
      exact hstrike

theorem perm_underWay_forgo (s : State) (k : Nat) :
    s.underWay.Perm (s.reads[k]?.toList ++ (s.forgo k).underWay) := by
  have hreads : s.reads.Perm (s.reads[k]?.toList ++ s.reads.eraseIdx k) := by
    cases hk : s.reads[k]? with
    | none =>
      rw [List.eraseIdx_of_length_le (List.getElem?_eq_none_iff.1 hk)]
      exact .refl _
    | some x =>
      obtain ⟨hlt, rfl⟩ := List.getElem?_eq_some_iff.1 hk
      exact (List.getElem_cons_eraseIdx_perm hlt).symm
  refine (hreads.append_left _).trans ?_
  rw [← List.append_assoc, underWay, forgo, ← List.append_assoc]
  exact List.perm_append_comm.append_right _

theorem underWay_receiveAt (s : State) (k : Nat) :
    (s.receiveAt k).underWay = (s.forgo k).underWay := by
  unfold receiveAt
  split
  · exact underWay_receive _ _
  · rename_i hk
    rw [forgo, List.eraseIdx_of_length_le (List.getElem?_eq_none_iff.1 hk)]

theorem completes_of_turn? {s : State} {m : Move} {T : Turn} (hT : s.turn? m = some T) :
    s.completes m = T.stage.exchange?.toList := by
  cases m with
  | turn i =>
    change (s.turn? (.turn i)).toList.filterMap (·.stage.exchange?) = _
    rw [hT]
    cases hx : T.stage.exchange? <;> simp [hx]
  | _ => cases hT

/-- **What a move does to the fetches under way.** -/
theorem underWay_apply (s : State) (m : Move) : (s.underWay ++ s.begins m).Perm
    (s.completes m ++ (s.renounces m ++ (s.apply m).underWay)) := by
  cases hT : s.turn? m with
  | some T =>
    obtain ⟨i, hi, hbefore⟩ := turn?_eq_some hT
    have hbegins : s.begins m = T.begun := by
      cases m with
      | turn i =>
        change (s.turn? (.turn i)).toList.flatMap Turn.begun = _
        rw [hT]
        exact List.append_nil _
      | _ => cases hT
    have hrenounces : s.renounces m = [] := by
      cases m with
      | turn i => rfl
      | _ => cases hT
    have hready : s.underWay.Perm (T.stage.exchange?.toList ++ T.before.underWay) := by
      rw [hbefore, underWay, underWay, ← List.append_assoc]
      refine (((perm_ready hi).filterMap _).append_right _).trans (.of_eq ?_)
      cases hx : T.stage.exchange? <;> simp [hx]
    rw [hbegins, completes_of_turn? hT, hrenounces, List.nil_append, apply_of_turn? hT]
    refine (hready.append_right _).trans ?_
    rw [List.append_assoc]
    exact (List.perm_append_comm.trans T.underWay_after.symm).append_left _
  | none =>
    cases m with
    | bucket r | skip | drop p | delay d | advance d => exact .of_eq (List.append_nil _)
    | build base layers =>
      refine .of_eq ((List.append_nil _).trans ?_)
      change s.underWay = (s.apply _).underWay
      rw [apply]
      split
      · obtain ⟨bs, cs, heq, -⟩ := s.install_eq base layers
        rw [heq]
        rfl
      · rfl
    | get p kid =>
      refine .of_eq ((List.append_nil _).trans ?_)
      change s.underWay = (s.apply _).underWay
      rw [apply]
      split
      · exact (underWay_enqueue { s with started := s.started + 1 } _ rfl).symm
      · rfl
    | turn i =>
      have hi : s.ready[i]? = none := Option.map_eq_none_iff.1 hT
      change (_ ++ (s.turn? (.turn i)).toList.flatMap Turn.begun).Perm
        ((s.turn? (.turn i)).toList.filterMap (·.stage.exchange?) ++ ([] ++ (s.turnAt i).underWay))
      rw [hT, turnAt, hi]
      exact .of_eq (List.append_nil _)
    | openGate i => exact .of_eq ((List.append_nil _).trans (s.underWay_openGate i).symm)
    | pass k =>
      refine .of_eq ((List.append_nil _).trans ?_)
      change s.underWay = (s.pass k).underWay
      obtain ⟨x, j, n, rest, -, -, heq⟩ | heq := s.pass_cases k
      · rw [heq]
        exact (underWay_enqueue { s with parked := rest } _ rfl).symm
      · rw [heq]
    | abort id => exact (List.append_nil _).symm ▸ s.perm_underWay_giveUp id
    | callBucket b c =>
      refine .of_eq ((List.append_nil _).trans ?_)
      change s.underWay = (s.callBucket b c).underWay
      rw [callBucket]
      split <;> rfl
    | fetchAll r => exact .of_eq (List.append_assoc _ _ _)
    | receive k =>
      have hforgo := s.perm_underWay_forgo k
      rw [← underWay_receiveAt] at hforgo
      exact (List.append_nil _).symm ▸ hforgo
    | forgo k => exact (List.append_nil _).symm ▸ s.perm_underWay_forgo k

/-- **A fetch over the network that began has ended, was given up, or is still under way**, and only
once. -/
theorem underWay_run (s : State) (ms : List Move) : (s.underWay ++ s.gather begins ms).Perm
    (s.gather completes ms ++ (s.gather renounces ms ++ (s.run ms).underWay)) := by
  rw [List.perm_iff_count]
  intro x
  induction ms generalizing s with
  | nil => simp [gather]
  | cons m ms ih =>
    have hrest := ih (s.apply m)
    have hfirst := List.perm_iff_count.1 (s.underWay_apply m) x
    simp only [gather, run_cons, List.count_append] at hrest hfirst ⊢
    omega

end State

end SigningKeys
