import Mathlib.Algebra.BigOperators.Finprod
import SigningKeys.Proofs.Source.Trials

/-!
# Sources can be depended on

Whatever happens in a trial, a source counts its calls, gives each of them a number of its own, and
answers it with that number; its gate lets through no more calls than it was opened for, and those
that wait in the order in which they came.

* `drawn`, `answers`, `passed`, `waited`, `timesOpened`: what the notes of a trial say;
* `Gate.Kept`: the invariant, of a gate and the notes that were made of it;
* **`Gate.Kept.course`**, `State.kept_run`: whatever happens keeps it, and so does a trial;
* `Source.Dependable`, and **`State.dependable`**: what can be relied on in a trial;
* `State.overtaken_ends_first`: calls need not end in the order in which they came.
-/

namespace SigningKeys

/-! ## What the notes say -/

namespace Note

def drew? : Note → Option Visit
  | .drew v => some v
  | _ => none

def passed? : Note → Option Visit
  | .passed v => some v
  | _ => none

def ended? : Note → Option (Visit × Outcome)
  | .ended v o _ => some (v, o)
  | _ => none

def waited? : Note → Option Visit
  | .ended v _ true => some v
  | _ => none

def isRelease : Note → Bool
  | .released => true
  | _ => false

end Note

/-- The calls, in the order in which they came. -/
def drawn (ns : List Note) : List Visit := ns.filterMap Note.drew?

/-- The calls that were let through after they had waited, in that order. -/
def passed (ns : List Note) : List Visit := ns.filterMap Note.passed?

/-- The calls that ended, in that order, and what came of them. -/
def answers (ns : List Note) : List (Visit × Outcome) := ns.filterMap Note.ended?

/-- Those of the calls that ended which had waited. -/
def waited (ns : List Note) : List Visit := ns.filterMap Note.waited?

/-- How often the gate was opened. -/
def timesOpened (ns : List Note) : Nat := ns.countP Note.isRelease

section

variable (ms ns : List Note) (v : Visit) (o : Outcome)

@[simp] theorem drawn_append : drawn (ms ++ ns) = drawn ms ++ drawn ns := List.filterMap_append

@[simp] theorem passed_append : passed (ms ++ ns) = passed ms ++ passed ns := List.filterMap_append

@[simp] theorem answers_append : answers (ms ++ ns) = answers ms ++ answers ns :=
  List.filterMap_append

@[simp] theorem waited_append : waited (ms ++ ns) = waited ms ++ waited ns := List.filterMap_append

@[simp] theorem timesOpened_append : timesOpened (ms ++ ns) = timesOpened ms + timesOpened ns :=
  List.countP_append

@[simp] theorem read_nil : drawn [] = [] ∧ passed [] = [] ∧ answers [] = [] ∧ waited [] = [] ∧
    timesOpened [] = 0 := ⟨rfl, rfl, rfl, rfl, rfl⟩

@[simp] theorem read_drew : drawn (.drew v :: ns) = v :: drawn ns ∧
    passed (.drew v :: ns) = passed ns ∧ answers (.drew v :: ns) = answers ns ∧
    waited (.drew v :: ns) = waited ns ∧ timesOpened (.drew v :: ns) = timesOpened ns :=
  ⟨rfl, rfl, rfl, rfl, rfl⟩

@[simp] theorem read_released : drawn (.released :: ns) = drawn ns ∧
    passed (.released :: ns) = passed ns ∧ answers (.released :: ns) = answers ns ∧
    waited (.released :: ns) = waited ns ∧ timesOpened (.released :: ns) = timesOpened ns + 1 :=
  ⟨rfl, rfl, rfl, rfl, List.countP_cons_of_pos rfl⟩

@[simp] theorem read_passed : drawn (.passed v :: ns) = drawn ns ∧
    passed (.passed v :: ns) = v :: passed ns ∧ answers (.passed v :: ns) = answers ns ∧
    waited (.passed v :: ns) = waited ns ∧ timesOpened (.passed v :: ns) = timesOpened ns :=
  ⟨rfl, rfl, rfl, rfl, rfl⟩

@[simp] theorem read_ended_at_once : drawn (.ended v o false :: ns) = drawn ns ∧
    passed (.ended v o false :: ns) = passed ns ∧
    answers (.ended v o false :: ns) = (v, o) :: answers ns ∧
    waited (.ended v o false :: ns) = waited ns ∧
    timesOpened (.ended v o false :: ns) = timesOpened ns :=
  ⟨rfl, rfl, rfl, rfl, rfl⟩

@[simp] theorem read_ended_waited : drawn (.ended v o true :: ns) = drawn ns ∧
    passed (.ended v o true :: ns) = passed ns ∧
    answers (.ended v o true :: ns) = (v, o) :: answers ns ∧
    waited (.ended v o true :: ns) = v :: waited ns ∧
    timesOpened (.ended v o true :: ns) = timesOpened ns :=
  ⟨rfl, rfl, rfl, rfl, rfl⟩

end

/-! ## Sources -/

namespace Source

variable (source : Source) (kid : String)

@[simp] theorem behaviour_arrive : (source.arrive kid).2.2.behaviour = source.behaviour := by
  unfold arrive
  split <;> rfl

@[simp] theorem gated_arrive : (source.arrive kid).2.2.gated = source.gated := by
  unfold arrive
  split <;> rfl

@[simp] theorem calls_arrive : (source.arrive kid).2.2.calls = source.calls + 1 := by
  unfold arrive
  split <;> rfl

/-- A gate that lets a call pass at once has no permit left. -/
theorem permit_arrive : (source.arrive kid).2.2.permit = (!source.gated && source.permit) := by
  unfold arrive
  cases hgated : source.gated <;> rfl

theorem passes_arrive : (source.arrive kid).2.1 = (!source.gated || source.permit) := by
  unfold arrive
  cases hgated : source.gated <;> rfl

@[simp] theorem behaviour_putPermit : source.putPermit.behaviour = source.behaviour := by
  unfold putPermit
  split <;> rfl

@[simp] theorem gated_putPermit : source.putPermit.gated = source.gated := by
  unfold putPermit
  split <;> rfl

@[simp] theorem calls_putPermit : source.putPermit.calls = source.calls := by
  unfold putPermit
  split <;> rfl

@[simp] theorem callsFor_putPermit : source.putPermit.callsFor kid = source.callsFor kid := by
  unfold putPermit
  split <;> rfl

end Source

/-! ## The invariant -/

namespace Gate

/-- **What holds of a gate** and of the notes that were made of it. -/
structure Kept (b : Behaviour) (hasGate : Bool) (ns : List Note) (g : Gate) : Prop where
  behaviour : g.source.behaviour = b
  gated : g.source.gated = hasGate
  numbers : (drawn ns).map Visit.number = List.range g.source.calls
  counts : ∀ kid, g.source.callsFor kid = ((drawn ns).map (·.task.kid)).count kid
  /-- A call that came has ended, was let through or waits, if it was not given up. -/
  once : ∀ v, ((answers ns).map (·.1)).count v + g.admitted.count v + g.waiting.count v ≤
    (drawn ns).count v
  order : (passed ns ++ g.waiting).Sublist (drawn ns)
  through : ∀ v, (waited ns).count v + g.admitted.count v ≤ (passed ns).count v
  outcomes : ∀ e ∈ answers ns, e.2 = b.outcome e.1.task.kid e.1.number
  releases : hasGate = true →
    (answers ns).length + g.admitted.length + g.source.permit.toNat ≤ timesOpened ns
  nobody : g.source.permit = true → g.waiting = []

namespace Kept

variable {b : Behaviour} {hasGate : Bool} {ns ms : List Note} {g g' : Gate} {prompt : Prop}
  {v : Visit}

/-- Calls that wait are given up. -/
theorem left (h : g.Kept b hasGate ns) {waiting : List Visit} (hsub : waiting.Sublist g.waiting) :
    Kept b hasGate ns { g with waiting } where
  behaviour := h.behaviour
  gated := h.gated
  numbers := h.numbers
  counts := h.counts
  once v := by
    have := h.once v
    have := hsub.count_le v
    dsimp only
    omega
  order := (hsub.append_left _).trans h.order
  through := h.through
  outcomes := h.outcomes
  releases := h.releases
  nobody hpermit := List.sublist_nil.1 (h.nobody hpermit ▸ hsub)

/-- A call that was let through is given up. What it was let through with is to spare. -/
theorem without (h : g.Kept b hasGate ns) {front back : List Visit}
    (hsplit : g.admitted = front ++ v :: back) :
    Kept b hasGate ns { g with admitted := front ++ back } ∧ (hasGate = true →
      (answers ns).length + (front ++ back).length + g.source.permit.toNat + 1 ≤
        timesOpened ns) := by
  have hsub : (front ++ back).Sublist g.admitted :=
    hsplit ▸ (List.sublist_cons_self v back).append_left front
  have hlength : g.admitted.length = (front ++ back).length + 1 := by
    rw [hsplit, List.length_append, List.length_append, List.length_cons, Nat.add_assoc]
  have hreleases := h.releases
  rw [hlength] at hreleases
  refine ⟨{ h with once := fun w => ?_, through := fun w => ?_, releases := fun hgate => ?_ },
    fun hgate => ?_⟩
  · have := h.once w
    have := hsub.count_le w
    dsimp only
    omega
  · have := h.through w
    have := hsub.count_le w
    dsimp only
    omega
  · have := hreleases hgate
    dsimp only
    omega
  · have := hreleases hgate
    omega

/-- A gate opens that was not opened in vain before. -/
theorem opening (h : g.Kept b hasGate ns) (hspare : hasGate = true →
    (answers ns).length + g.admitted.length + g.source.permit.toNat + 1 ≤
      timesOpened ns) :
    g.opened.Kept b hasGate (ns ++ g.opening) := by
  obtain ⟨source, waiting, admitted⟩ := g
  cases waiting with
  | nil =>
    rw [Gate.opening, List.take_nil, List.map_nil, List.append_nil]
    exact { h with
      behaviour := (source.behaviour_putPermit).trans h.behaviour
      gated := (source.gated_putPermit).trans h.gated
      numbers := h.numbers.trans (congrArg List.range source.calls_putPermit.symm)
      counts := fun kid => (source.callsFor_putPermit kid).trans (h.counts kid)
      releases := fun hgate => by
        have hspare := hspare hgate
        have := source.putPermit.permit.toNat_le
        dsimp only [Gate.opened] at hspare ⊢
        omega
      nobody := fun _ => rfl }
  | cons v rest =>
    have hnotes : Gate.opening ⟨source, v :: rest, admitted⟩ = [.passed v] := rfl
    rw [hnotes]
    constructor
    case behaviour => exact h.behaviour
    case gated => exact h.gated
    case numbers => simpa [Gate.opened] using h.numbers
    case counts => simpa [Gate.opened] using h.counts
    case outcomes => simpa using h.outcomes
    case nobody =>
      intro hpermit
      cases h.nobody hpermit
    case order => simpa [Gate.opened] using h.order
    case once =>
      intro w
      have := h.once w
      simp [Gate.opened, List.count_cons] at this ⊢
      omega
    case through =>
      intro w
      have := h.through w
      simp [Gate.opened, List.count_cons] at this ⊢
      omega
    case releases =>
      intro hgate
      have := hspare hgate
      simp [Gate.opened] at this ⊢
      omega

/-- The numbers and the counts after a call has come. -/
theorem drew (h : g.Kept b hasGate ns) (x : Task) :
    ((drawn ns ++ [(⟨g.source.calls, x⟩ : Visit)]).map Visit.number =
        List.range (g.source.arrive x.kid).2.2.calls) ∧
      ∀ kid, (g.source.arrive x.kid).2.2.callsFor kid =
        ((drawn ns ++ [(⟨g.source.calls, x⟩ : Visit)]).map (·.task.kid)).count kid := by
  constructor
  · rw [List.map_append, h.numbers, Source.calls_arrive, List.range_succ]
    rfl
  · intro kid
    rw [State.callsFor_arrive, h.counts, List.map_append, List.count_append, List.map_singleton,
      List.count_singleton]
    simp only [beq_iff_eq]

/-- A call comes and is answered. -/
theorem answered (h : g.Kept b hasGate ns) {x : Task}
    (hpasses : (g.source.arrive x.kid).2.1 = true) :
    Kept b hasGate
      (ns ++ [.drew ⟨g.source.calls, x⟩,
        .ended ⟨g.source.calls, x⟩ (g.source.outcome x.kid g.source.calls) false])
      { g with source := (g.source.arrive x.kid).2.2 } := by
  obtain ⟨hnumbers, hcounts⟩ := h.drew x
  constructor
  case behaviour => exact (g.source.behaviour_arrive _).trans h.behaviour
  case gated => exact (g.source.gated_arrive _).trans h.gated
  case numbers => simpa using hnumbers
  case counts => simpa using hcounts
  case once =>
    intro w
    have := h.once w
    simp [List.count_cons]
    omega
  case order =>
    simp only [passed_append, read_drew, read_ended_at_once, read_nil, List.append_nil,
      drawn_append]
    exact h.order.trans (List.sublist_append_left _ _)
  case through => simpa using h.through
  case outcomes =>
    intro e he
    simp at he
    rcases he with he | rfl
    · exact h.outcomes e he
    · rw [Source.outcome, h.behaviour]
  case releases =>
    intro hgate
    have := h.releases hgate
    rw [Source.passes_arrive, h.gated, hgate] at hpasses
    rw [show g.source.permit = true from hpasses] at this
    simp [Source.permit_arrive, h.gated, hgate] at this ⊢
    omega
  case nobody =>
    intro hpermit
    rw [Source.permit_arrive, Bool.and_eq_true] at hpermit
    exact h.nobody hpermit.2

/-- A call comes and waits. -/
theorem waits (h : g.Kept b hasGate ns) {x : Task}
    (hheld : (g.source.arrive x.kid).2.1 = false) :
    Kept b hasGate (ns ++ [.drew ⟨g.source.calls, x⟩])
      { g with
        source := (g.source.arrive x.kid).2.2, waiting := g.waiting ++ [⟨g.source.calls, x⟩] } := by
  obtain ⟨hnumbers, hcounts⟩ := h.drew x
  rw [Source.passes_arrive, Bool.or_eq_false_iff] at hheld
  have hpermit : (g.source.arrive x.kid).2.2.permit = false := by
    rw [Source.permit_arrive, hheld.2, Bool.and_false]
  constructor
  case behaviour => exact (g.source.behaviour_arrive _).trans h.behaviour
  case gated => exact (g.source.gated_arrive _).trans h.gated
  case numbers => simpa using hnumbers
  case counts => simpa using hcounts
  case once =>
    intro w
    have := h.once w
    simp [List.count_cons]
    omega
  case order =>
    simp only [passed_append, read_drew, read_nil, List.append_nil, drawn_append,
      ← List.append_assoc]
    exact h.order.append_right _
  case through => simpa using h.through
  case outcomes => simpa using h.outcomes
  case releases =>
    intro hgate
    have := h.releases hgate
    rw [hheld.2] at this
    simpa [hpermit] using this
  case nobody =>
    intro hpermit'
    cases hpermit.symm.trans hpermit'

/-- A call that was let through is answered. -/
theorem ends (h : g.Kept b hasGate ns) {front back : List Visit}
    (hsplit : g.admitted = front ++ v :: back) :
    Kept b hasGate (ns ++ [.ended v (g.source.outcome v.task.kid v.number) true])
      { g with admitted := front ++ back } := by
  have hcount : ∀ w, g.admitted.count w = (front ++ back).count w + [v].count w := fun w => by
    rw [hsplit, List.count_append, List.count_append, List.count_cons, List.count_singleton]
    omega
  constructor
  case behaviour => exact h.behaviour
  case gated => exact h.gated
  case numbers => simpa using h.numbers
  case counts => simpa using h.counts
  case nobody => exact h.nobody
  case order => simpa using h.order
  case once =>
    intro w
    have := h.once w
    rw [hcount] at this
    simp at this ⊢
    omega
  case through =>
    intro w
    have := h.through w
    rw [hcount] at this
    simp at this ⊢
    omega
  case outcomes =>
    intro e he
    simp at he
    rcases he with he | rfl
    · exact h.outcomes e he
    · rw [Source.outcome, h.behaviour]
  case releases =>
    intro hgate
    have := h.releases hgate
    rw [hsplit] at this
    simp at this ⊢
    omega

/-- The gate is opened. -/
theorem released (h : g.Kept b hasGate ns) :
    g.opened.Kept b hasGate (ns ++ .released :: g.opening) := by
  have hnoted : g.Kept b hasGate (ns ++ [.released]) := {
    behaviour := h.behaviour
    gated := h.gated
    numbers := by simpa using h.numbers
    counts := by simpa using h.counts
    once := by simpa using h.once
    order := by simpa using h.order
    through := by simpa using h.through
    outcomes := by simpa using h.outcomes
    releases := fun hgate => Nat.le_trans (by simpa using h.releases hgate) (by simp)
    nobody := h.nobody }
  have hspare : hasGate = true →
      (answers (ns ++ [.released])).length + g.admitted.length + g.source.permit.toNat + 1 ≤
        timesOpened (ns ++ [.released]) := fun hgate => by
    simpa using h.releases hgate
  rw [List.append_cons]
  exact hnoted.opening hspare

/-- **Whatever happens at a gate** keeps the invariant. -/
theorem course (h : g.Kept b hasGate ns) (hc : g.Course prompt ms g') :
    g'.Kept b hasGate (ns ++ ms) := by
  cases hc with
  | left sublist => exact (List.append_nil ns).symm ▸ h.left sublist
  | answered passes => exact h.answered passes
  | waits held => exact h.waits held
  | ends admitted _ => exact h.ends admitted
  | released => exact h.released
  | revoked admitted =>
    obtain ⟨hkept, hspare⟩ := h.without admitted
    exact hkept.opening hspare

end Kept

/-! ## In turn -/

/-- Those that were let through go on in the order in which they were. -/
def InTurn (ns : List Note) (g : Gate) : Prop := (waited ns ++ g.admitted).Sublist (passed ns)

namespace InTurn

variable {ns ms : List Note} {g g' : Gate} {prompt : Prop}

theorem opening (h : g.InTurn ns) : g.opened.InTurn (ns ++ g.opening) := by
  obtain ⟨source, waiting, admitted⟩ := g
  cases waiting with
  | nil => simpa [InTurn, Gate.opening, Gate.opened] using h
  | cons v rest =>
    have hnotes : Gate.opening ⟨source, v :: rest, admitted⟩ = [.passed v] := rfl
    rw [hnotes, InTurn]
    simp only [waited_append, passed_append, read_passed, read_nil, List.append_nil, Gate.opened,
      ← List.append_assoc]
    exact List.Sublist.append_right h [v]

/-- **It is kept if the one goes on that has been ready longest.** -/
theorem course (h : g.InTurn ns) (hc : g.Course prompt ms g') (hprompt : prompt) :
    g'.InTurn (ns ++ ms) := by
  cases hc with
  | left sublist => exact (List.append_nil ns).symm ▸ h
  | answered passes => simpa [InTurn] using h
  | waits held => simpa [InTurn] using h
  | ends admitted first =>
    rw [InTurn, admitted, first hprompt] at h
    simpa [InTurn, first hprompt] using h
  | released =>
    have hnoted : g.InTurn (ns ++ [.released]) := by simpa [InTurn] using h
    rw [List.append_cons]
    exact hnoted.opening
  | @revoked front back v admitted =>
    have hsub : (front ++ back).Sublist g.admitted :=
      admitted ▸ (List.sublist_cons_self v back).append_left front
    have hwithout : InTurn ns { g with admitted := front ++ back } := (hsub.append_left _).trans h
    exact hwithout.opening

end InTurn

end Gate

/-! ## Trials -/

namespace State

variable {s : State} {i : Nat} {g : Gate} {b : Behaviour} {hasGate : Bool} {ns : List Note}
  {behind : List Provider} {ms : List Move}

/-- **A trial keeps the invariant.** -/
theorem kept_run (hs : s.Sound behind []) (hg : s.gate? i = some g) (h : g.Kept b hasGate ns)
    (hfair : ∀ m ∈ ms, m.Fair) :
    ∃ g', (s.run ms).gate? i = some g' ∧ g'.Kept b hasGate (ns ++ s.diary i ms) ∧
      (g.InTurn ns → (∀ m ∈ ms, m.Prompt) → g'.InTurn (ns ++ s.diary i ms)) := by
  induction ms generalizing s g ns behind with
  | nil =>
    rw [diary, List.append_nil]
    exact ⟨g, hg, h, fun hin _ => hin⟩
  | cons m ms ih =>
    obtain ⟨hm, hms⟩ := List.forall_mem_cons.1 hfair
    obtain ⟨g', hg', hcourse⟩ := course hs.numbered hg hm
    obtain ⟨behind', -, hs'⟩ := hs.run [m]
    obtain ⟨g'', hg'', hkept, hin⟩ := ih hs' hg' (h.course hcourse) hms
    rw [List.append_assoc] at hkept hin
    refine ⟨g'', hg'', hkept, fun h₀ hprompt => ?_⟩
    obtain ⟨hm, hms⟩ := List.forall_mem_cons.1 hprompt
    exact hin (h₀.course hcourse hm) hms

/-- Nothing has happened at the gate of a source that is new. -/
theorem kept_blank {sources : List Source} (network : Network)
    (hs : sources[i]? = some { behaviour := b, gated := hasGate }) :
    ∃ g, (blank sources network).gate? i = some g ∧ g.Kept b hasGate [] ∧ g.InTurn [] := by
  refine ⟨⟨{ behaviour := b, gated := hasGate }, [], []⟩, gate?_eq_some.2 ⟨hs, rfl, rfl⟩, ?_,
    List.Sublist.refl _⟩
  constructor
  case behaviour | gated | numbers => rfl
  case counts => exact fun _ => rfl
  case once | through => exact fun _ => Nat.le_refl 0
  case order => exact List.Sublist.refl []
  case outcomes => nofun
  case releases => exact fun _ => Nat.le_refl 0
  case nobody => exact fun _ => rfl

end State

/-! ## What can be relied on -/

namespace Source

/-- **What can be relied on in a trial** of a source that gives sample keys, where `ns` was noted of
it and `waiting` are the calls at its gate. -/
structure Dependable (known : Option (List String)) (failing hasGate : Bool) (ns : List Note)
    (source : Source) (waiting : List Visit) (prompt : Prop) : Prop where
  /-- Every call is counted, for its id and in all. -/
  total : source.calls = (drawn ns).length
  perId : ∀ kid, source.callsFor kid = ((drawn ns).map (·.task.kid)).count kid
  asked : (Function.support source.callsFor).Finite
  sum : source.calls = ∑ᶠ kid, source.callsFor kid
  /-- The numbers are drawn in order, so that no two calls have the same. -/
  numbers : (drawn ns).map Visit.number = List.range source.calls
  /-- A call is answered at most once, with the number that it drew itself. -/
  own : ∀ e ∈ answers ns, e.1 ∈ drawn ns
  once : ((answers ns).map (·.1)).Nodup
  answered : ∀ e ∈ answers ns,
    e.2 = (Behaviour.sample known failing).outcome e.1.task.kid e.1.number
  /-- A record is marked with the number, which tells it from all others. -/
  marked : ∀ e ∈ answers ns, ∀ j, e.2 = .key j →
    j = Fixture.versioned e.1.task.kid (toString e.1.number) ∧
      j.text? "version" = some (toString e.1.number)
  apart : (answers ns).Pairwise fun d e => ∀ j k, d.2 = .key j → e.2 = .key k →
    j.text? "version" ≠ k.text? "version" ∧ j ≠ k
  /-- No more calls end than the gate was opened for, and one more opening is stored at most, -/
  stored : source.permit.toNat ≤ 1
  released : hasGate = true → (answers ns).length + source.permit.toNat ≤ timesOpened ns
  /-- which happens only while no call waits. -/
  nobody : source.permit = true → waiting = []
  /-- Calls are let through in the order in which they came, and end only if they were: whatever
  still waits came after all that had waited and ended. -/
  order : ((passed ns ++ waiting).map Visit.number).Pairwise (· < ·)
  through : ∀ v ∈ waited ns, v ∈ passed ns
  ahead : ∀ v ∈ waited ns, ∀ w ∈ waiting, v.number < w.number
  /-- They also end in that order, if it is always the one that takes its turn that has been ready
  longest. -/
  inTurn : prompt → ((waited ns).map Visit.number).Pairwise (· < ·)

theorem support_count (l : List String) :
    (Function.support fun kid => l.count kid) ⊆ l.toFinset := fun kid hkid => by
  have hmem : kid ∈ l := List.count_pos_iff.1 (Nat.pos_of_ne_zero hkid)
  simpa using hmem

/-- The counts of all that is in a list. -/
theorem finsum_count (l : List String) : ∑ᶠ kid, l.count kid = l.length := by
  rw [finsum_eq_sum_of_support_subset _ (support_count l), List.sum_toFinset_count_eq_length]

/-- A number is told by its digits. -/
theorem eq_of_toString_eq {m n : Nat} (h : toString m = toString n) : m = n := by
  have hdigits : Nat.toDigits 10 m = Nat.toDigits 10 n := by
    rw [← Nat.toList_repr, ← Nat.toList_repr]
    exact congrArg String.toList h
  rw [← Nat.ofDigitChars_ten_toDigits (n := m), hdigits, Nat.ofDigitChars_ten_toDigits]

theorem text?_versioned (kid version : String) :
    (Fixture.versioned kid version).text? "version" = some version := by
  rw [Jwk.text?, Fixture.versioned, Json.Members.get?_insert_self]
  rfl

end Source

namespace Gate.Kept

variable {known : Option (List String)} {failing hasGate : Bool} {ns : List Note} {g : Gate}

/-- A key that is among the answers is marked with the number of its call. -/
theorem marked (h : g.Kept (.sample known failing) hasGate ns) {e : Visit × Outcome} {j : Jwk}
    (he : e ∈ answers ns) (hj : e.2 = .key j) :
    j = Fixture.versioned e.1.task.kid (toString e.1.number) := by
  have houtcome := hj.symm.trans (h.outcomes e he)
  rw [Behaviour.outcome] at houtcome
  split at houtcome
  · cases houtcome
  · split at houtcome
    · exact Outcome.key.inj houtcome
    · cases houtcome

theorem nodup_drawn (h : g.Kept (.sample known failing) hasGate ns) :
    ((drawn ns).map Visit.number).Nodup := h.numbers ▸ List.nodup_range

theorem nodup_answers (h : g.Kept (.sample known failing) hasGate ns) :
    ((answers ns).map (·.1)).Nodup := by
  refine List.nodup_iff_count_le_one.2 fun v => ?_
  have := h.once v
  have := List.nodup_iff_count_le_one.1 (h.nodup_drawn.of_map _) v
  omega

theorem mem_drawn (h : g.Kept (.sample known failing) hasGate ns) :
    ∀ e ∈ answers ns, e.1 ∈ drawn ns := by
  intro e he
  have := h.once e.1
  have : 0 < ((answers ns).map (·.1)).count e.1 :=
    List.count_pos_iff.2 (List.mem_map_of_mem he)
  exact List.count_pos_iff.1 (by omega)

/-- No two answers are for calls with the same number. -/
theorem pairwise_number (h : g.Kept (.sample known failing) hasGate ns) :
    (answers ns).Pairwise fun d e => d.1.number ≠ e.1.number := by
  have hinj := List.inj_on_of_nodup_map h.nodup_drawn
  refine (List.pairwise_map.1 h.nodup_answers).imp_of_mem fun hd he hne hnumber => hne ?_
  exact hinj (h.mem_drawn _ hd) (h.mem_drawn _ he) hnumber

/-- **Records tell from which call they come.** -/
theorem apart (h : g.Kept (.sample known failing) hasGate ns) :
    (answers ns).Pairwise fun d e => ∀ j k, d.2 = .key j → e.2 = .key k →
      j.text? "version" ≠ k.text? "version" ∧ j ≠ k := by
  refine h.pairwise_number.imp_of_mem fun {d e} hd he hne j k hj hk => ?_
  have hversions : j.text? "version" ≠ k.text? "version" := by
    rw [h.marked hd hj, h.marked he hk, Source.text?_versioned, Source.text?_versioned]
    exact fun hsame => hne (Source.eq_of_toString_eq (Option.some.inj hsame))
  exact ⟨hversions, fun hjk => hversions (hjk ▸ rfl)⟩

/-- **What the invariant says of a source.** -/
theorem source_dependable (h : g.Kept (.sample known failing) hasGate ns) {prompt : Prop}
    (hin : prompt → g.InTurn ns) :
    g.source.Dependable known failing hasGate ns g.waiting prompt := by
  have hcounts := funext h.counts
  have hpassed : (passed ns).Sublist (drawn ns) := (List.sublist_append_left _ _).trans h.order
  have hrising {vs : List Visit} (hsub : vs.Sublist (drawn ns)) :
      (vs.map Visit.number).Pairwise (· < ·) := by
    have hrange := hsub.map Visit.number
    rw [h.numbers] at hrange
    exact List.pairwise_lt_range.sublist hrange
  have htotal : g.source.calls = (drawn ns).length := by
    rw [← List.length_map Visit.number, h.numbers, List.length_range]
  have hthrough : ∀ v ∈ waited ns, v ∈ passed ns := by
    intro v hv
    have := h.through v
    have := List.count_pos_iff.2 hv
    exact List.count_pos_iff.1 (by omega)
  constructor
  case total => exact htotal
  case perId => exact h.counts
  case asked =>
    rw [hcounts]
    exact (Finset.finite_toSet _).subset (Source.support_count _)
  case sum =>
    rw [hcounts, Source.finsum_count, List.length_map]
    exact htotal
  case numbers => exact h.numbers
  case own => exact h.mem_drawn
  case once => exact h.nodup_answers
  case answered => exact h.outcomes
  case marked =>
    intro e he j hj
    have hmarked := h.marked he hj
    exact ⟨hmarked, hmarked ▸ Source.text?_versioned _ _⟩
  case apart => exact h.apart
  case stored => exact Bool.toNat_le _
  case released => exact fun hgate => by have := h.releases hgate; omega
  case nobody => exact h.nobody
  case order => exact hrising h.order
  case through => exact hthrough
  case ahead =>
    intro v hv w hw
    have hpairs := List.pairwise_map.1 (hrising h.order)
    exact (List.pairwise_append.1 hpairs).2.2 v (hthrough v hv) w hw
  case inTurn =>
    exact fun hprompt => hrising
      (((List.sublist_append_left _ _).trans (hin hprompt)).trans hpassed)

end Gate.Kept

namespace State

/-- **A source can be depended on in every trial.** -/
theorem dependable {sources : List Source} (network : Network) {i : Nat}
    {known : Option (List String)} {failing hasGate : Bool} {ms : List Move}
    (hnew : sources[i]? = some { behaviour := .sample known failing, gated := hasGate })
    (hfair : ∀ m ∈ ms, m.Fair) :
    ∃ source, ((blank sources network).run ms).sources[i]? = some source ∧
      source.Dependable known failing hasGate ((blank sources network).diary i ms)
        (((blank sources network).run ms).waitingAt i) (∀ m ∈ ms, m.Prompt) := by
  obtain ⟨g₀, hg₀, hkept₀, hin₀⟩ := kept_blank network hnew
  obtain ⟨g, hg, hkept, hin⟩ := kept_run (sound_blank sources network) hg₀ hkept₀ hfair
  obtain ⟨hsource, hwaiting, -⟩ := gate?_eq_some.1 hg
  rw [List.nil_append] at hkept hin
  refine ⟨g.source, hsource, ?_⟩
  rw [hwaiting]
  exact hkept.source_dependable (hin hin₀)

/-- A sample source with a gate. -/
def gatedSample : State :=
  blank [{ behaviour := .sample none false, gated := true }] .unreachable

/-- Three calls of which the first two wait; the gate opens, its call is given up before it goes on,
so that the second one is let through and ends; the gate opens for nobody, and the third call comes
and passes at once. -/
def trialMoves : List Move :=
  [.build (.source 0) { bucket := none, cache := none }, .get 0 "a", .get 0 "b", .turn 0, .turn 0,
    .openGate 0, .abort 0, .turn 0, .openGate 0, .get 0 "a", .turn 0]

/-- The second call and the third one end, with numbers of their own. -/
theorem dependable_trial :
    ([{ behaviour := .sample none false, gated := true }] : List Source)[0]? =
        some { behaviour := .sample none false, gated := true } ∧
      (∀ m ∈ trialMoves, m.Fair) ∧
      ∃ source, (gatedSample.run trialMoves).sources[0]? = some source ∧
        source.Dependable none false true (gatedSample.diary 0 trialMoves)
          ((gatedSample.run trialMoves).waitingAt 0) (∀ m ∈ trialMoves, m.Prompt) ∧
        (answers (gatedSample.diary 0 trialMoves)).map (·.1.number) = [1, 2] := by
  have hfair : ∀ m ∈ trialMoves, m.Fair := by simp [trialMoves, Move.Fair]
  have hnew : ([{ behaviour := .sample none false, gated := true }] : List Source)[0]? =
      some { behaviour := .sample none false, gated := true } := rfl
  obtain ⟨source, hsource, hdependable⟩ := dependable .unreachable hnew hfair
  exact ⟨hnew, hfair, source, hsource, hdependable, by decide +kernel⟩

/-- Two calls that wait are let through, and the second one is the first to take its turn. -/
def overtaken : List Move :=
  [.build (.source 0) { bucket := none, cache := none }, .get 0 "a", .get 0 "b", .turn 0, .turn 0,
    .openGate 0, .openGate 0, .turn 1, .turn 0]

/-- **Calls that waited need not end in the order in which they came**, although they are let
through in that order. -/
theorem overtaken_ends_first :
    (∀ m ∈ overtaken, m.Fair) ∧
      (passed (gatedSample.diary 0 overtaken)).map Visit.number = [0, 1] ∧
      (waited (gatedSample.diary 0 overtaken)).map Visit.number = [1, 0] ∧
      ¬((waited (gatedSample.diary 0 overtaken)).map Visit.number).Pairwise (· < ·) := by
  have hwaited : (waited (gatedSample.diary 0 overtaken)).map Visit.number = [1, 0] := by
    decide +kernel
  refine ⟨by simp [overtaken, Move.Fair], by decide +kernel, hwaited, ?_⟩
  rw [hwaited]
  decide

end State

end SigningKeys
