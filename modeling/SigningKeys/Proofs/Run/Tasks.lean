import Mathlib.Data.List.Perm.Basic
import SigningKeys.Proofs.Run.Calls
import SigningKeys.Proofs.Run.Moves

/-!
# Who is there

Between two moves every task is ready or parked. In the middle of a turn one more task is in hand.
What holds of all tasks is stated for a state together with the tasks in hand, so that it can be
followed through a turn.

* `State.crew`, `State.inPlay`, `State.reaches`: the tasks, the providers that are still used, and
  the caches that can still be reached through them;
* `State.pending`: how often a task is about to make its call;
* `perm_*`: how the moves of tasks change the tasks: they take turns in hand, are parked, pass
  gates, are told a result;
* `mem_waiting`: who waits for the fetch of a key.
-/

namespace SigningKeys

/-- Whether a task makes its call. -/
def Stage.isCalling : Stage → Bool
  | .calling => true
  | .admitted _ _ | .fetching _ | .told _ => false

namespace State

/-- The tasks of a state, and those in hand. -/
def crew (s : State) (hand : List Task) : List Task := hand ++ s.tasks

/-- The providers that are held, or called by a task. -/
def inPlay (s : State) (hand : List Task) (p : Provider) : Prop :=
  some p ∈ s.held ∨ ∃ t ∈ s.crew hand, t.provider = p

/-- Whether a cache can be reached through a provider in play. -/
def reaches (s : State) (hand : List Task) (c : Nat) : Prop :=
  ∃ p, s.inPlay hand p ∧ p.uses c = true

/-- How often a task is about to make its call. -/
def pending (s : State) (x : Task) : Nat := s.ready.countP fun e => e.2.isCalling && e.1 == x

theorem mem_crew_of_parked {s : State} {e : Task × Spot} (he : e ∈ s.parked) (hand : List Task) :
    e.1 ∈ s.crew hand :=
  List.mem_append_right _ (List.mem_append_right _ (List.mem_map_of_mem he))

theorem holds_iff (s : State) (c : Nat) : s.holds c = true ↔ s.reaches [] c := by
  unfold holds reaches inPlay crew
  rw [Bool.or_eq_true, List.any_eq_true, List.any_eq_true, List.nil_append]
  constructor
  · rintro (⟨o, ho, hu⟩ | ⟨t, ht, hu⟩)
    · cases o with
      | none => cases hu
      | some p => exact ⟨p, .inl ho, hu⟩
    · exact ⟨t.provider, .inr ⟨t, ht, rfl⟩, hu⟩
  · rintro ⟨p, hp | ⟨t, ht, rfl⟩, hu⟩
    · exact .inl ⟨some p, hp, hu⟩
    · exact .inr ⟨t, ht, hu⟩

section Mono

variable {s t : State} {hand hand' : List Task} {c : Nat} {p : Provider}

theorem inPlay.mono (h : t.inPlay hand' p) (hheld : ∀ q, some q ∈ t.held → some q ∈ s.held)
    (hcrew : ∀ x ∈ t.crew hand', x ∈ s.crew hand) : s.inPlay hand p := by
  obtain hp | ⟨x, hx, rfl⟩ := h
  · exact .inl (hheld p hp)
  · exact .inr ⟨x, hcrew x hx, rfl⟩

theorem reaches.mono (h : t.reaches hand' c) (hheld : ∀ q, some q ∈ t.held → some q ∈ s.held)
    (hcrew : ∀ x ∈ t.crew hand', x ∈ s.crew hand) : s.reaches hand c := by
  obtain ⟨p, hp, hu⟩ := h
  exact ⟨p, hp.mono hheld hcrew, hu⟩

end Mono

/-! ## Tasks change places -/

theorem perm_ready {s : State} {i : Nat} {e : Task × Stage} (h : s.ready[i]? = some e) :
    s.ready.Perm (e :: s.ready.eraseIdx i) := by
  obtain ⟨hi, he⟩ := List.getElem?_eq_some_iff.1 h
  rw [← he]
  exact (List.getElem_cons_eraseIdx_perm hi).symm

theorem perm_eraseIdx_ready {s : State} {i : Nat} {e : Task × Stage} (h : s.ready[i]? = some e) :
    s.tasks.Perm (e.1 :: { s with ready := s.ready.eraseIdx i }.tasks) :=
  ((perm_ready h).map (·.1)).append_right _

theorem perm_enqueue (s : State) (t : Task) (stage : Stage) :
    (s.enqueue t stage).tasks.Perm (t :: s.tasks) := by
  unfold tasks enqueue
  dsimp only
  rw [List.map_append, List.append_assoc]
  exact List.perm_middle

theorem perm_park (s : State) (t : Task) (spot : Spot) : (s.park t spot).tasks.Perm (t :: s.tasks) := by
  unfold tasks park
  dsimp only
  rw [List.map_append, ← List.append_assoc]
  exact List.perm_append_singleton _ _

theorem perm_of_mem_parked {s : State} {e : Task × Spot} (h : e ∈ s.parked) :
    s.tasks.Perm (e.1 :: { s with parked := s.parked.erase e }.tasks) := by
  have hp : s.parked.Perm (e :: s.parked.erase e) := List.perm_cons_erase h
  exact ((hp.map (·.1)).append_left _).trans List.perm_middle

/-! ## Results are told -/

theorem perm_seat (e : Nat × Task) (l : List (Nat × Task)) : (seat e l).Perm (e :: l) := by
  induction l with
  | nil => exact .refl _
  | cons f l ih =>
    rw [seat]
    split
    · exact .refl _
    · exact (ih.cons f).trans (.swap e f l)

theorem perm_foldr_seat (l : List (Nat × Task)) : (l.foldr seat []).Perm l := by
  induction l with
  | nil => exact .refl _
  | cons e l ih => exact (perm_seat e _).trans (ih.cons e)

theorem perm_waiting (s : State) (c : Nat) (kid : String) :
    (s.waiting c kid ++ (s.parked.filter fun e => (placeFor? c kid e).isNone).map (·.1)).Perm
      (s.parked.map (·.1)) := by
  have hseat := (perm_foldr_seat (s.parked.filterMap fun e =>
    (placeFor? c kid e).map (·, e.1))).map (·.2)
  refine (hseat.append_right _).trans ?_
  induction s.parked with
  | nil => exact .refl _
  | cons e l ih =>
    cases h : placeFor? c kid e with
    | none =>
      rw [List.filterMap_cons_none (by rw [h]; rfl), List.filter_cons_of_pos (by rw [h]; rfl)]
      exact List.perm_middle.trans (ih.cons e.1)
    | some place =>
      rw [List.filterMap_cons_some (b := (place, e.1)) (by rw [h]; rfl),
        List.filter_cons_of_neg (by rw [h]; simp)]
      exact ih.cons e.1

theorem perm_tell (s : State) (c : Nat) (kid : String) (result : Except KeyError Jwk) :
    (s.tell c kid result).tasks.Perm s.tasks := by
  unfold tasks tell
  dsimp only
  rw [List.map_append, List.map_map, List.append_assoc]
  refine List.Perm.append_left _ ?_
  have hmap : (s.waiting c kid).map ((·.1) ∘ fun t => (t, Stage.told result)) =
      s.waiting c kid := List.map_id _
  rw [hmap]
  exact perm_waiting s c kid

theorem placeFor?_eq_some {c place : Nat} {kid : String} {e : Task × Spot} :
    placeFor? c kid e = some place ↔ e.1.kid = kid ∧ e.2 = .flight c place := by
  unfold placeFor?
  by_cases hk : e.1.kid = kid
  · rw [if_pos hk]
    cases he : e.2 with
    | gate i n => simp [Spot.placeIn?]
    | flight c' place' =>
      by_cases hc : c' = c
      · simp [Spot.placeIn?, hk, hc]
      · simp [Spot.placeIn?, hc]
  · rw [if_neg hk]
    simp [hk]

/-- **Who waits for the fetch of a key by a cache.** -/
theorem mem_waiting {s : State} {c : Nat} {kid : String} {t : Task} :
    t ∈ s.waiting c kid ↔ t.kid = kid ∧ ∃ place, (t, .flight c place) ∈ s.parked := by
  have hseat := (perm_foldr_seat (s.parked.filterMap fun e =>
    (placeFor? c kid e).map (·, e.1))).map (·.2)
  rw [waiting, hseat.mem_iff, List.mem_map]
  constructor
  · rintro ⟨⟨place, t⟩, hmem, rfl⟩
    obtain ⟨e, he, hp⟩ := List.mem_filterMap.1 hmem
    obtain ⟨place', hp', heq⟩ := Option.map_eq_some_iff.1 hp
    cases heq
    obtain ⟨hk, hs⟩ := placeFor?_eq_some.1 hp'
    exact ⟨hk, place, hs ▸ he⟩
  · rintro ⟨hk, place, he⟩
    refine ⟨(place, t), List.mem_filterMap.2 ⟨(t, .flight c place), he, ?_⟩, rfl⟩
    rw [placeFor?_eq_some.2 ⟨hk, rfl⟩]
    rfl

end State

end SigningKeys
