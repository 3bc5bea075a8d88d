import SigningKeys.Blueprint
import SigningKeys.State.Moves
import SigningKeys.TokenBucket.Run

/-!
# Runs, move by move

A run is a list of moves, each of which is done whatever came before it. Nothing is assumed about
their order: any ready task may take the next turn, any call that waits at the gate of a source may
be let through, a fetch over the network may end at any time after it began, and calls may be given
up at any time.

* `Move`, `State.apply`: the moves, and what each of them does;
* `State.blank`, `State.run`: the state before anything is set up, and the state after a run;
* `Turn`, `State.history`: the turns of a run, the first one first;
* `Turn.result?`, `Turn.lands`: how a task ended, and how the fetch of a key by a cache ended;
* `exists_of_history_eq`: a turn of a history is a move of the run.
-/

namespace SigningKeys

/-- **What can happen in a run.** A move that makes no sense in a state leaves it as it is. -/
inductive Move where
  /-- A bucket is made. -/
  | bucket (r : Rate)
  /-- Layers are put in front of a source, of a key set on the network or of a provider that is
  held; what comes of it is held. -/
  | build (base : Provider) (layers : Layers)
  /-- A provider cannot be put together, and its number stays empty. -/
  | skip
  /-- A held provider is called. -/
  | get (provider : Nat) (kid : String)
  /-- One of the ready tasks takes its turn. -/
  | turn (index : Nat)
  /-- The gate of a source opens once. -/
  | openGate (source : Nat)
  /-- One of the parked tasks passes the gate at which it waits. -/
  | pass (index : Nat)
  /-- A call is given up. -/
  | abort (id : Nat)
  /-- A held provider is let go. -/
  | drop (provider : Nat)
  | advance (d : Duration)
  /-- The time is set that will pass while an answer of the network is held. -/
  | delay (d : Duration)
  /-- A bucket is called by its user. -/
  | callBucket (bucket : Nat) (call : BucketCall)
  /-- The user begins to fetch the whole key set of an address. -/
  | fetchAll (r : Remote)
  /-- One of these fetches ends. -/
  | receive (index : Nat)
  /-- One of these fetches is given up. -/
  | forgo (index : Nat)

namespace State

/-- Whether layers can be put in front of a provider. -/
def offers (s : State) : Provider → Bool
  | .source i => i < s.sources.length
  | .remote _ => true
  | p => s.held.contains (some p)

/-- Whether there is the bucket that a layer draws on. -/
def offersBucket (s : State) : Option BucketLayer → Bool
  | some (.shared b) => b < s.buckets.length
  | _ => true

/-- Hold one more provider, or none in its place. -/
def hold (s : State) (p : Option Provider) : State := { s with held := s.held ++ [p] }

/-- The turn of the task in a given place among the ready ones. -/
def turnAt (s : State) (i : Nat) : State :=
  match s.ready[i]? with
  | some (t, stage) => { s with ready := s.ready.eraseIdx i }.advanceTask t stage
  | none => s

/-- The parked task in a given place passes the gate at which it waits. -/
def pass (s : State) (k : Nat) : State :=
  match s.parked[k]? with
  | some (t, .gate i n) => { s with parked := s.parked.eraseIdx k }.enqueue t (.admitted i n)
  | _ => s

/-- The call of a caller is taken out of the ready tasks. -/
def strike (s : State) (id : Nat) : State :=
  { s with ready := s.ready.filter fun e => !(e.1.role == .caller id) }

/-- The ready task of a call. -/
def readyCall? (s : State) (id : Nat) : Option (Task × Stage) :=
  s.ready.find? fun e => e.1.role == .caller id

/-- **A call is given up that is ready.** If it was let through a gate, nothing goes through there,
and the gate opens again. -/
def withdraw (s : State) (id : Nat) : State :=
  match s.readyCall? id with
  | some (_, .admitted i _) => (s.strike id).openGate i
  | _ => s.strike id

/-- A call is given up. -/
def giveUp (s : State) (id : Nat) : State := (s.cancel? id).getD (s.withdraw id)

/-- The user begins to fetch a whole key set. -/
def ask (s : State) (r : Remote) : State := { s with reads := s.reads ++ [⟨r, s.now⟩] }

/-- A fetch of a whole key set is no longer under way. -/
def forgo (s : State) (k : Nat) : State := { s with reads := s.reads.eraseIdx k }

/-- A fetch of a whole key set ends, and is counted. -/
def receiveAt (s : State) (k : Nat) : State :=
  match s.reads[k]? with
  | some x => ((s.forgo k).receive x).2
  | none => s

/-- A bucket is called by its user. -/
def callBucket (s : State) (b : Nat) (c : BucketCall) : State :=
  match s.buckets[b]? with
  | some bucket => s.setBucket b (bucket.perform s.now c).2
  | none => s

/-- **One move.** -/
def apply (s : State) : Move → State
  | .bucket r => (s.addBucket (.full r s.now)).2
  | .build base layers =>
    if s.offers base && s.offersBucket layers.bucket then
      (s.install base layers).2.hold (s.install base layers).1
    else s
  | .skip => s.hold none
  | .get p kid =>
    match s.provider? p with
    | some q => s.spawn q kid
    | none => s
  | .turn i => s.turnAt i
  | .openGate i => s.openGate i
  | .pass k => s.pass k
  | .abort id => s.giveUp id
  | .drop p => s.drop p
  | .advance d => s.advance d
  | .delay d => { s with delay := d }
  | .callBucket b c => s.callBucket b c
  | .fetchAll r => s.ask r
  | .receive k => s.receiveAt k
  | .forgo k => s.forgo k

/-- The state before anything is set up. -/
def blank (sources : List Source) (network : Network) : State := { sources, network }

/-- **A run.** -/
def run (s : State) (ms : List Move) : State := ms.foldl apply s

@[simp] theorem run_nil (s : State) : s.run [] = s := rfl

@[simp] theorem run_cons (s : State) (m : Move) (ms : List Move) :
    s.run (m :: ms) = (s.apply m).run ms := rfl

theorem run_append (s : State) (ms ns : List Move) : s.run (ms ++ ns) = (s.run ms).run ns :=
  List.foldl_append

@[simp] theorem run_concat (s : State) (ms : List Move) (m : Move) :
    s.run (ms ++ [m]) = (s.run ms).apply m := run_append s ms [m]

end State

/-! ## Histories -/

/-- One turn of a run: whose it was, and the state from which it was taken. That task is no longer
among the ready ones of this state. -/
structure Turn where
  task : Task
  stage : Stage
  before : State

/-- How a task ends in its turn, if it does. -/
def State.verdict (s : State) (t : Task) : Stage → Option Outcome
  | .calling =>
    match (State.call t.kid t.provider s).1 with
    | .ended o => some o
    | .waits _ | .fetches _ => none
  | .admitted i n => (s.sources[i]?).map (·.outcome t.kid n)
  | .fetching x => some (s.receiveKey t.kid x).1
  | .told result => some (.ofExcept result)

namespace Turn

/-- The state after a turn. -/
def after (T : Turn) : State := T.before.advanceTask T.task T.stage

/-- How the task ended in this turn, if it did. -/
def result? (T : Turn) : Option Outcome := T.before.verdict T.task T.stage

/-- **How the fetch of a key by a cache ended** in this turn, if it did. -/
def lands (c : Nat) (kid : String) (T : Turn) : Option Outcome :=
  if T.task.role = .fetch c ∧ T.task.kid = kid then T.result? else none

theorem lands_eq_some {c : Nat} {kid : String} {T : Turn} {o : Outcome} :
    T.lands c kid = some o ↔ T.task.role = .fetch c ∧ T.task.kid = kid ∧ T.result? = some o := by
  unfold lands
  split
  · rename_i h
    exact ⟨fun ho => ⟨h.1, h.2, ho⟩, fun ho => ho.2.2⟩
  · rename_i h
    exact ⟨nofun, fun ho => absurd ⟨ho.1, ho.2.1⟩ h⟩

theorem lands_eq_none {T : Turn} (h : T.result? = none) (c : Nat) (kid : String) :
    T.lands c kid = none := by
  rw [lands, h, ite_self]

end Turn

namespace State

/-- The turn that a move is. -/
def turn? (s : State) : Move → Option Turn
  | .turn i => (s.ready[i]?).map fun e => ⟨e.1, e.2, { s with ready := s.ready.eraseIdx i }⟩
  | _ => none

/-- **The turns of a run.** -/
def history (s : State) : List Move → List Turn
  | [] => []
  | m :: ms => (s.turn? m).toList ++ (s.apply m).history ms

theorem history_append (s : State) (ms ns : List Move) :
    s.history (ms ++ ns) = s.history ms ++ (s.run ms).history ns := by
  induction ms generalizing s with
  | nil => rfl
  | cons m ms ih => rw [List.cons_append, history, history, ih, run_cons, List.append_assoc]

@[simp] theorem history_concat (s : State) (ms : List Move) (m : Move) :
    s.history (ms ++ [m]) = s.history ms ++ ((s.run ms).turn? m).toList := by
  rw [history_append, history, history, List.append_nil]

theorem turn?_eq_some {s : State} {m : Move} {T : Turn} (h : s.turn? m = some T) :
    ∃ i, s.ready[i]? = some (T.task, T.stage) ∧
      T.before = { s with ready := s.ready.eraseIdx i } := by
  cases m with
  | turn i =>
    obtain ⟨e, he, rfl⟩ := Option.map_eq_some_iff.1 h
    exact ⟨i, he, rfl⟩
  | _ => cases h

theorem apply_of_turn? {s : State} {m : Move} {T : Turn} (h : s.turn? m = some T) :
    s.apply m = T.after := by
  cases m with
  | turn i =>
    obtain ⟨e, he, rfl⟩ := Option.map_eq_some_iff.1 h
    rw [apply, turnAt, he]
    rfl
  | _ => cases h

/-- **A turn of a history is a move of the run**, with what came before it as its own history. -/
theorem exists_of_history_eq {s : State} {ms : List Move} {pre post : List Turn} {T : Turn}
    (h : s.history ms = pre ++ T :: post) :
    ∃ ms₁ m ms₂, ms = ms₁ ++ m :: ms₂ ∧ s.history ms₁ = pre ∧ (s.run ms₁).turn? m = some T ∧
      T.after.history ms₂ = post := by
  induction ms generalizing s pre with
  | nil => exact absurd h (by simp [history])
  | cons m ms ih =>
    rw [history] at h
    cases hm : s.turn? m with
    | none =>
      rw [hm] at h
      obtain ⟨ms₁, m', ms₂, rfl, hpre, hT, hpost⟩ := ih h
      exact ⟨m :: ms₁, m', ms₂, rfl, by rw [history, hm, hpre]; rfl, hT, hpost⟩
    | some X =>
      rw [hm] at h
      cases pre with
      | nil =>
        obtain ⟨hX, hpost⟩ := List.cons.inj h
        exact ⟨[], m, ms, rfl, rfl, hX ▸ hm, by rw [← hX, ← apply_of_turn? hm]; exact hpost⟩
      | cons Y pre =>
        obtain ⟨hX, hrest⟩ := List.cons.inj h
        obtain ⟨ms₁, m', ms₂, rfl, hpre, hT, hpost⟩ := ih hrest
        exact ⟨m :: ms₁, m', ms₂, rfl, by rw [history, hm, hpre, hX]; rfl, hT, hpost⟩

/-- The turn of a scheduler that is first come, first served. -/
theorem turn_eq_turnAt (s : State) : s.turn = s.turnAt 0 := by
  unfold turn turnAt
  cases h : s.ready with
  | nil => rfl
  | cons e rest => rfl

end State

end SigningKeys
