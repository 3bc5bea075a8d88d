import SigningKeys.Proofs.Abort.Acts
import SigningKeys.Proofs.Apart.Steps

/-!
# Groups that share nothing do not interfere

Take a run of a scenario in which two groups of providers share nothing, and the same run without
the steps that are addressed to the second group. The first group cannot tell these runs apart: its
calls end in the same steps and in the same way, its sources are called as often, its caches store
as many keys, and its buckets answer the same. Only the numbers of its calls differ.

* `Parties.alone`: the steps that are not addressed to the second group;
* `Parties.Sees`: what the first group sees of a step is the same in both runs;
* `Mirror.newlyEnded_eq`: the calls that a step shows as ended;
* `Mirror.step`, `Mirror.run`: one step, and all of them;
* **`Scenario.alone_sees`**: the first group sees the same in every step.
-/

namespace SigningKeys

/-- The calls among some numbers that a step shows as ended, named by the places of the numbers. -/
def StepReport.endedOf (ids : List Nat) (r : StepReport) : List (Nat × Outcome) :=
  r.ended.filterMap fun e => if ids.contains e.1 then some (ids.idxOf e.1, e.2) else none

namespace Scene

/-- The scene after some steps. -/
def after (s : Scene) (xs : List Step) : Scene := (s.each step xs).2

/-- A step that may be left out. -/
def attempt (s : Scene) : Option Step → Option StepReport × Scene
  | some x => (some (s.step x).1, (s.step x).2)
  | none => (none, s)

/-- How many keys a cache stores that was put together as such and is still held. -/
def entriesAt? (s : Scene) (k : Nat) : Option Nat :=
  match s.setup? k with
  | some (.cached _ _, .cached _ c) => (s.state.caches[c]?).map Cache.size
  | _ => none

/-- What a step shows of caches is this, for all of them. -/
theorem entries_eq (s : Scene) : s.entries = (List.range s.setups.length).filterMap s.entriesAt? :=
  rfl

end Scene

namespace Parties

/-- **A run without the second group**: the steps that are left, and the numbers that the calls of
the first group have in the whole run. -/
def alone (P : Parties) : Scene → List Nat → List Step → List Step × List Nat
  | _, ids, [] => ([], ids)
  | s, ids, x :: xs =>
    let rest := P.alone (s.step x).2 (P.note s ids x) xs
    ((P.keep? s ids x).toList ++ rest.1, rest.2)

/-- **What the first group sees of a step** is the same in the run by itself, where the step may be
left out, and in the whole run. -/
structure Sees (P : Parties) (ids : List Nat) (r' : Option StepReport × Scene)
    (r : StepReport × Scene) : Prop where
  /-- The answer to a step that is not left out. -/
  reply : ∀ report, r'.1 = some report → report.reply = r.1.reply.renumbered ids
  /-- The calls that ended in this step. -/
  ended : (r'.1.map (·.ended)).getD [] = r.1.endedOf ids
  /-- All calls that have ended so far. -/
  outcome : ∀ id ∈ ids, r'.2.state.outcome? (ids.idxOf id) = r.2.state.outcome? id
  /-- The calls that sources have had. -/
  calls : ∀ i, P.source i = true → (r'.2.state.sources[i]?).map (·.calls) = r.1.calls[i]?
  callsFor : ∀ i kid, P.source i = true →
    (r'.2.state.sources[i]?).map (·.callsFor kid) = (r.2.state.sources[i]?).map (·.callsFor kid)
  entries : ∀ k, P.provider k = true → r'.2.entriesAt? k = r.2.entriesAt? k

end Parties

/-! ## Outcomes in the order of numbers -/

theorem idxOf_le {l : List Nat} (h : l.Pairwise (· < ·)) {a b : Nat} (ha : a ∈ l) (hb : b ∈ l)
    (hab : a ≤ b) : l.idxOf a ≤ l.idxOf b := by
  by_contra hlt
  have hget := List.pairwise_iff_getElem.1 h _ _ (List.idxOf_lt_length_iff.2 hb)
    (List.idxOf_lt_length_iff.2 ha) (Nat.not_le.1 hlt)
  rw [List.getElem_idxOf, List.getElem_idxOf] at hget
  omega

namespace Split

variable {π : Split} {e : Nat × Outcome} {f : Nat × Outcome}

theorem seenEnd?_eq_some (h : π.seenEnd? e = some f) :
    e.1 ∈ π.calls ∧ (π.calls.idxOf e.1, e.2) = f := by
  obtain ⟨hcall, heq⟩ := Option.ite_none_right_eq_some.1 h
  exact ⟨call_iff.1 hcall, Option.some.inj heq⟩

/-- To sort the outcomes of all calls and then to look at those of this side is the same as the
other way around. -/
theorem mergeSort_seenEnd (hordered : π.calls.Pairwise (· < ·)) {l : List (Nat × Outcome)}
    (hl : ∀ e ∈ l, ∀ f ∈ l, e.1 = f.1 → e = f) :
    (l.filterMap π.seenEnd?).mergeSort (fun a b => a.1 ≤ b.1) =
      (l.mergeSort fun a b => a.1 ≤ b.1).filterMap π.seenEnd? := by
  have hsorted : ∀ l : List (Nat × Outcome),
      (l.mergeSort fun a b => a.1 ≤ b.1).Pairwise fun a b => a.1 ≤ b.1 := by
    intro l
    have htrans : ∀ a b c : Nat × Outcome, decide (a.1 ≤ b.1) = true → decide (b.1 ≤ c.1) = true →
        decide (a.1 ≤ c.1) = true := fun a b c hab hbc =>
      decide_eq_true (Nat.le_trans (of_decide_eq_true hab) (of_decide_eq_true hbc))
    have htotal : ∀ a b : Nat × Outcome, (decide (a.1 ≤ b.1) || decide (b.1 ≤ a.1)) = true :=
      fun a b => by
        rw [Bool.or_eq_true, decide_eq_true_eq, decide_eq_true_eq]
        exact Nat.le_total a.1 b.1
    exact (List.pairwise_mergeSort htrans htotal l).imp fun hab => of_decide_eq_true hab
  have hperm : ((l.filterMap π.seenEnd?).mergeSort fun a b => a.1 ≤ b.1).Perm
      ((l.mergeSort fun a b => a.1 ≤ b.1).filterMap π.seenEnd?) :=
    (List.mergeSort_perm _ _).trans ((List.mergeSort_perm l _).symm.filterMap _)
  refine hperm.eq_of_pairwise (fun a b ha hb hab hba => ?_) (hsorted _)
    ((hsorted l).filterMap _ fun e f hef a ha b hb => ?_)
  · obtain ⟨e, he, hea⟩ := List.mem_filterMap.1 (List.mem_mergeSort.1 ha)
    obtain ⟨f, hf, hfb⟩ := List.mem_filterMap.1 hb
    obtain ⟨hmem, rfl⟩ := seenEnd?_eq_some hea
    obtain ⟨-, rfl⟩ := seenEnd?_eq_some hfb
    have hsame := (List.idxOf_inj hmem).1 (Nat.le_antisymm hab hba)
    rw [hl e he f (List.mem_mergeSort.1 hf) hsame]
  · obtain ⟨hmem, rfl⟩ := seenEnd?_eq_some ha
    obtain ⟨hmem', rfl⟩ := seenEnd?_eq_some hb
    exact idxOf_le hordered hmem hmem' hef

end Split

namespace Scene

variable {P : Parties} {π : Split} {s s' : Scene} {sources : List Source} {network : Network}

/-! ## Calls that ended -/

namespace Mirror

variable (h : Mirror P π sources network s' s)

include h

/-- What had ended before a step is seen as before. -/
theorem ended_eq {π' : Split} (hπ : π' = π ∨ π' = π.begin s.state.started) :
    s'.state.ended = s.state.ended.filterMap π'.seenEnd? := by
  rcases hπ with rfl | rfl
  · exact h.twin.ended
  · have hfresh := (h.reached.numbered.fresh (Nat.le_refl s.state.started)).2
    exact h.twin.ended.trans (List.filterMap_congr fun e he =>
      (Split.seenEnd?_begin (hfresh e he)).symm)

/-- Calls are numbered in the order in which they begin. -/
theorem ordered_of_cases {π' : Split} (hπ : π' = π ∨ π' = π.begin s.state.started) :
    π'.calls.Pairwise (· < ·) := by
  rcases hπ with rfl | rfl
  · exact h.ordered
  · refine List.pairwise_append.2 ⟨h.ordered, List.pairwise_singleton _ _, fun n hn m hm => ?_⟩
    rw [List.mem_singleton.1 hm]
    exact h.twin.past n hn

/-- A call had begun before a step in both runs, or in none. -/
theorem idxOf_lt_iff {π' : Split} (hπ : π' = π ∨ π' = π.begin s.state.started) {id : Nat}
    (hid : id ∈ π'.calls) :
    π'.calls.idxOf id < s'.state.started ↔ id < s.state.started := by
  have hold : ∀ n ∈ π.calls, π.calls.idxOf n < s'.state.started ∧ n < s.state.started := by
    intro n hn
    rw [h.twin.started]
    exact ⟨List.idxOf_lt_length_iff.2 hn, h.twin.past n hn⟩
  rcases hπ with rfl | rfl
  · exact iff_of_true (hold id hid).1 (hold id hid).2
  · rcases List.mem_append.1 hid with hmem | hnew
    · rw [Split.begin, List.idxOf_append_of_mem hmem]
      exact iff_of_true (hold id hmem).1 (hold id hmem).2
    · rw [List.mem_singleton.1 hnew, h.twin.idxOf_started]
      exact iff_of_false (Nat.lt_irrefl _) (Nat.lt_irrefl _)

/-- **The calls that a step shows as ended**, in the order of their numbers. -/
theorem newlyEnded_eq {π' : Split} {t' t : State}
    (hπ : π' = π ∨ π' = π.begin s.state.started) (htwin : State.Twin π' t' t)
    (hpre : s.state.ended <+: t.ended) (hn : t.Numbered []) :
    s'.newlyEnded t' = (s.newlyEnded t).filterMap π'.seenEnd? := by
  obtain ⟨new, hnew⟩ := hpre
  have hlist : (t'.ended.drop s'.shown).filter (·.1 < s'.state.started) =
      ((t.ended.drop s.shown).filter (·.1 < s.state.started)).filterMap π'.seenEnd? := by
    rw [htwin.ended, ← hnew, List.filterMap_append, ← h.ended_eq hπ, h.shown', h.shown,
      List.drop_left, List.drop_left, List.filter_filterMap, List.filterMap_filter]
    refine List.filterMap_congr fun e _ => ?_
    cases hseen : π'.seenEnd? e with
    | none => simp
    | some f =>
      obtain ⟨hmem, rfl⟩ := Split.seenEnd?_eq_some hseen
      simp [Option.filter_some, h.idxOf_lt_iff hπ hmem]
  rw [newlyEnded, newlyEnded, hlist, Split.mergeSort_seenEnd (h.ordered_of_cases hπ)]
  intro e he f hf hef
  have hout : ∀ g : Nat × Outcome,
      g ∈ (t.ended.drop s.shown).filter (·.1 < s.state.started) → t.outcome? g.1 = some g.2 :=
    fun g hg => hn.outcome?_eq (List.mem_of_mem_drop (List.mem_filter.1 hg).1)
  have hsame := hout f hf
  rw [← hef, hout e he] at hsame
  exact Prod.ext hef (Option.some.inj hsame)

end Mirror

/-! ## Runs -/

/-- The numbers of calls of the first group are given in order. -/
theorem note_cases (P : Parties) (π : Split) (s : Scene) (x : Step) :
    { π with calls := P.note s π.calls x } = π ∨
      { π with calls := P.note s π.calls x } = π.begin s.state.started := by
  cases x with
  | get k kid delay =>
    rw [Parties.note]
    split
    · exact .inr rfl
    · exact .inl rfl
  | _ => exact .inl rfl

/-- A step changes nothing but the state, and how many of the ended calls were shown. -/
theorem exists_step (s : Scene) (x : Step) :
    ∃ t, (s.perform x).2 = { s with state := t } ∧ s.state.Leads t ∧
      (s.step x).2 = { s with state := t, shown := t.ended.length } ∧
      (s.step x).1.reply = (s.perform x).1 ∧ (s.step x).1.ended = s.newlyEnded t ∧
      (s.step x).1.calls = t.sources.map (·.calls) := by
  obtain ⟨t, ht, hlead⟩ := s.leads_perform x
  refine ⟨t, ht, hlead, ?_, rfl, ?_, ?_⟩
  all_goals
    rw [step]
    dsimp only
    rw [ht]

theorem entriesAt?_eq (t' t : Scene) (htwin : State.Twin π t'.state t.state)
    (hparted : t.state.Parted π) (hsetups : t'.setups = t.setups) {k : Nat}
    (hk : π.provider k = true) : t'.entriesAt? k = t.entriesAt? k := by
  have hsame : t'.setup? k = t.setup? k := by rw [setup?, setup?, hsetups, htwin.held k hk]
  rw [entriesAt?, entriesAt?, hsame]
  split
  · rename_i inner limits p c hsetup
    obtain ⟨setup, -, hp⟩ := Option.bind_eq_some_iff.1 hsetup
    obtain ⟨q, hq, heq⟩ := Option.map_eq_some_iff.1 hp
    cases heq
    have hon := hparted.held k _ hq
    rw [hk] at hon
    have hc : π.cache c = true := eq_of_beq (Bool.and_eq_true_iff.1 hon).1
    rw [htwin.caches c hc]
  · rfl

theorem ended_of_leads (hs : s.Reached sources network) {t : State} (h : s.state.Leads t) :
    s.state.ended <+: t.ended := by
  obtain ⟨behind, hsound⟩ := hs.sound
  obtain ⟨ms, rfl⟩ := h
  obtain ⟨-, -, -, hend⟩ := State.run_induction (I := fun _ t => s.state.ended <+: t.ended)
    (fun _ h hp => h.trans (State.ended_part hp)) hsound.wired (List.prefix_refl _) ms
  exact hend

theorem ready_perform (h : s.state.ready = []) (x : Step) : (s.perform x).2.state.ready = [] := by
  rcases s.exists_act x with heq | ⟨a, heq⟩
  · rw [heq, h]
  · rw [heq]
    exact State.ready_act h a

theorem exists_attempt (hs : s.Reached sources network)
    (hshown : s.shown = s.state.ended.length) (o : Option Step) :
    ∃ t, ((o.map s.perform).elim s (·.2)).state = t ∧
      (s.attempt o).2 = { s with state := t, shown := t.ended.length } ∧
      (s.attempt o).2.Reached sources network ∧
      ((s.attempt o).1.map (·.ended)).getD [] = s.newlyEnded t ∧
      ∀ report, (s.attempt o).1 = some report →
        ∃ a, o.map s.perform = some a ∧ report.reply = a.1 := by
  cases o with
  | none =>
    refine ⟨s.state, rfl, ?_, hs, ?_, nofun⟩
    · rw [attempt, ← hshown]
    · rw [newlyEnded, hshown, List.drop_length, List.filter_nil, List.mergeSort_nil]
      rfl
  | some x =>
    obtain ⟨t, ht, -, hstep, hreply, hended, -⟩ := s.exists_step x
    refine ⟨t, congrArg Scene.state ht, hstep, reached_step hs x, hended, fun report hreport => ?_⟩
    cases hreport
    exact ⟨_, rfl, hreply⟩

/-- **One step** of both runs, or of the whole run only: the first group sees the same, and both
scenes go on to be alike. -/
theorem Mirror.step (h : Mirror P π sources network s' s) {x : Step} (hx : x.Plain) :
    Mirror P { π with calls := P.note s π.calls x } sources network
        (s'.attempt (P.keep? s π.calls x)).2 (s.step x).2 ∧
      P.Sees (P.note s π.calls x) (s'.attempt (P.keep? s π.calls x)) (s.step x) := by
  obtain ⟨htwin, hparted, hanswer⟩ := h.perform hx
  obtain ⟨t, ht, hlead, hstep, hreply, hended, hcalls⟩ := s.exists_step x
  obtain ⟨t', ht', hstep', hreached', hended', hreply'⟩ :=
    exists_attempt h.reached' h.shown' (P.keep? s π.calls x)
  have hrest := ready_perform h.rest x
  rw [ht'] at htwin
  rw [ht] at htwin hparted hrest
  have hreached := reached_step h.reached x
  have hπ := note_cases P π s x
  have hnumbered : t.Numbered [] := by
    have hn := hreached.numbered
    rw [hstep] at hn
    exact hn
  constructor
  · rw [hstep] at hreached ⊢
    rw [hstep'] at hreached' ⊢
    exact
      { reached' := hreached', reached := hreached, twin := htwin, parted := hparted
        follows := { h.follows with }, buckets := h.buckets, setups := h.setups, shown' := rfl
        shown := rfl, rest := hrest, ordered := h.ordered_of_cases hπ }
  · constructor
    case reply =>
      intro report hreport
      obtain ⟨a, ha, heq⟩ := hreply' report hreport
      rw [heq, hreply]
      exact hanswer a ha
    case ended =>
      rw [hended', h.newlyEnded_eq hπ htwin (ended_of_leads h.reached hlead) hnumbered,
        StepReport.endedOf, hended]
      rfl
    case outcome =>
      intro id hid
      rw [hstep, hstep']
      exact htwin.outcome?_eq hid
    case calls =>
      intro i hi
      rw [hcalls, List.getElem?_map, hstep', ← htwin.sources i ((h.source_eq i).trans hi)]
    case callsFor =>
      intro i kid hi
      rw [hstep, hstep']
      exact congrArg (Option.map _) (htwin.sources i ((h.source_eq i).trans hi))
    case entries =>
      intro k hk
      rw [hstep, hstep']
      have hsides := (h.provider_eq k).trans hk
      exact entriesAt?_eq { s' with state := t', shown := t'.ended.length }
        { s with state := t, shown := t.ended.length } htwin hparted h.setups hsides

/-- **Both runs go through scenes that are alike**, by induction on the steps. -/
theorem Mirror.run (h : Mirror P π sources network s' s) {xs : List Step}
    (hxs : ∀ x ∈ xs, x.Plain) :
    Mirror P { π with calls := (P.alone s π.calls xs).2 } sources network
      (s'.after (P.alone s π.calls xs).1) (s.after xs) := by
  induction xs generalizing s' s π with
  | nil => exact h
  | cons x xs ih =>
    have hstep := (h.step (hxs x List.mem_cons_self)).1
    have hrest := ih hstep fun y hy => hxs y (List.mem_cons_of_mem _ hy)
    rw [Parties.alone]
    cases hk : P.keep? s π.calls x with
    | none =>
      rw [hk] at hrest
      exact hrest
    | some x' =>
      rw [hk] at hrest
      exact hrest

end Scene

namespace Scenario

theorem shown_each {α β : Type} {f : Scene → α → β × Scene}
    (hf : ∀ s a, (f s a).2.shown = s.shown) (s : Scene) (as : List α) :
    (s.each f as).2.shown = s.shown := by
  induction as generalizing s with
  | nil => rfl
  | cons a as ih => exact (ih _).trans (hf s a)

theorem shown_opening (s : Scenario) : s.opening.shown = 0 := by
  have hbucket : ∀ (t : Scene) b, (t.addBucket b).2.shown = t.shown := by
    intro t b
    rw [Scene.addBucket]
    split <;> rfl
  have hprovider : ∀ (t : Scene) setup, (t.addProvider setup).2.shown = t.shown := by
    intro t setup
    rw [Scene.addProvider]
    split <;> rfl
  exact (shown_each hprovider _ _).trans (shown_each hbucket _ _)

/-- At the first step nothing has happened yet. -/
theorem mirror_opening {P : Parties} {s : Scenario} (h : s.Apart P) :
    ∃ π : Split, π.calls = [] ∧
      Scene.Mirror P π s.sources s.network s.opening s.opening := by
  obtain ⟨π, hcalls, hfollows, hparted, hidle⟩ := s.exists_split h
  have hshown : s.opening.shown = s.opening.state.ended.length := by
    rw [hidle.ended, s.shown_opening]
    rfl
  exact ⟨π, hcalls,
    { reached' := s.reached_opening, reached := s.reached_opening, parted := hparted
      twin := hidle.twin hparted hcalls, follows := hfollows, buckets := rfl, setups := rfl
      shown' := hshown, shown := hshown, rest := hidle.ready
      ordered := hcalls ▸ List.Pairwise.nil }⟩

/-- **Groups that share nothing do not interfere.** Take any steps of the compared kinds, and one
more step after them. In the run without the steps that are addressed to the second group, the first
group sees the same of this step, if it is not left out. If it is, the first group sees nothing of
it in the whole run: no call of its own ends, no source of its own is called, and its caches stay as
they are. -/
theorem alone_sees {P : Parties} {s : Scenario} (h : s.Apart P) (xs : List Step) (x : Step)
    (hxs : ∀ y ∈ xs, y.Plain) (hx : x.Plain) :
    let full := s.opening.after xs
    let rest := P.alone s.opening [] xs
    P.Sees (P.note full rest.2 x) ((s.opening.after rest.1).attempt (P.keep? full rest.2 x))
      (full.step x) := by
  obtain ⟨π, hcalls, hmirror⟩ := mirror_opening h
  have hrun := hmirror.run hxs
  rw [hcalls] at hrun
  exact (hrun.step hx).2

/-- Two sources whose gates are shut. In front of the first one there are a limiter and a cache, and
in front of the second one another cache. -/
def twoGates : Scenario where
  sources := [{ behaviour := .sample none false, gated := true },
    { behaviour := .sample none false, gated := true }]
  buckets := [(1, Duration.ofSeconds 60), (2, Duration.ofSeconds 60)]
  setups := [.cached (.source 1) none, .limited (.source 0) 0, .cached (.provider 1) none]

/-- The first group has the first source, the first bucket, the limiter and the cache before it. -/
def firstGate : Parties where
  source i := i = 0
  bucket b := b = 0
  provider k := k = 1 || k = 2

/-- Both caches are asked for the same key. Then a caller of the second cache gives up, its source
answers the other one, and the bucket of the second group is called. -/
def bothAsk : List Step :=
  [.get 0 "a" Duration.zero, .get 2 "a" Duration.zero, .get 0 "a" Duration.zero, .abort 0,
    .release 1 1, .bucket 1 (.acquire 1), .advance (Duration.ofSeconds 1), .bucket 0 (.acquire 1)]

/-- The call of the first group is the second one of the whole run, and the first one of the run
without the other group. In both runs it ends when the gate of its source opens. -/
theorem alone_sees_bothAsk :
    twoGates.Apart firstGate ∧
    firstGate.alone twoGates.opening [] bothAsk =
      ([.get 2 "a" Duration.zero, .advance (Duration.ofSeconds 1), .bucket 0 (.acquire 1)], [1]) ∧
    firstGate.Sees [1]
      ((twoGates.opening.after [.get 2 "a" Duration.zero, .advance (Duration.ofSeconds 1),
        .bucket 0 (.acquire 1)]).attempt (some (.release 0 1)))
      ((twoGates.opening.after bothAsk).step (.release 0 1)) ∧
    ((twoGates.opening.after bothAsk).step (.release 0 1)).1.ended.map (·.1) = [1] := by
  have hapart : twoGates.Apart firstGate := by
    rintro (_ | _ | _ | k) setup hk -
    case succ.succ.succ => cases hk
    all_goals
      cases hk
      exact ⟨fun inner hinner => by cases hinner; rfl, fun b hb => by cases hb <;> rfl, nofun⟩
  have hplain : ∀ y ∈ bothAsk, y.Plain := by simp [bothAsk, Step.Plain]
  have halone : firstGate.alone twoGates.opening [] bothAsk =
      ([.get 2 "a" Duration.zero, .advance (Duration.ofSeconds 1), .bucket 0 (.acquire 1)],
        [1]) := by
    decide +kernel
  have hsees := alone_sees hapart bothAsk (.release 0 1) hplain trivial
  dsimp only at hsees
  rw [halone] at hsees
  exact ⟨hapart, halone, hsees, by decide +kernel⟩

end Scenario

end SigningKeys
