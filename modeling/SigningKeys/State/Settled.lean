import SigningKeys.State.Turn

/-!
# Runs come to rest

Each turn uses up some of the work that the ready tasks can still cause, so that `State.settle`
always leaves every task parked.

* `work_turn`: a turn leaves less work;
* `ready_settle`: **after `settle` no task is ready**.
-/

namespace SigningKeys.State

/-! ## Work -/

theorem foldr_weight_append (l m : List (Task × Stage)) (n : Nat) :
    (l ++ m).foldr (weight · + ·) n = l.foldr (weight · + ·) 0 + m.foldr (weight · + ·) n := by
  induction l with
  | nil => simp
  | cons e l ih => simp only [List.cons_append, List.foldr_cons, ih]; omega

theorem foldr_weight (l : List (Task × Stage)) (n : Nat) :
    l.foldr (weight · + ·) n = l.foldr (weight · + ·) 0 + n := by
  have h := foldr_weight_append l [] n
  rwa [List.append_nil] at h

theorem work_enqueue (s : State) (t : Task) (stage : Stage) :
    (s.enqueue t stage).work = s.work + weight (t, stage) := by
  simp only [work, enqueue]
  rw [foldr_weight_append, foldr_weight s.ready s.parked.length]
  simp only [List.foldr_cons, List.foldr_nil]
  omega

theorem work_park (s : State) (t : Task) (spot : Spot) : (s.park t spot).work = s.work + 1 := by
  simp only [work, park, List.length_append, List.length_singleton]
  rw [foldr_weight s.ready, foldr_weight s.ready s.parked.length]
  omega

/-! ## Telling moves tasks -/

theorem length_seat (e : Nat × Task) (l : List (Nat × Task)) :
    (seat e l).length = l.length + 1 := by
  induction l with
  | nil => rfl
  | cons f l ih =>
    rw [seat]
    split
    · rfl
    · rw [List.length_cons, ih, List.length_cons]

theorem length_foldr_seat (l : List (Nat × Task)) : (l.foldr seat []).length = l.length := by
  induction l with
  | nil => rfl
  | cons e l ih => rw [List.foldr_cons, length_seat, ih, List.length_cons]

theorem length_waiting (s : State) (c : Nat) (kid : String) :
    (s.waiting c kid).length + (s.parked.filter fun e => (placeFor? c kid e).isNone).length =
      s.parked.length := by
  rw [waiting, List.length_map, length_foldr_seat]
  induction s.parked with
  | nil => rfl
  | cons e l ih =>
    cases h : placeFor? c kid e with
    | none =>
      rw [List.filterMap_cons_none (by rw [h]; rfl), List.filter_cons_of_pos (by rw [h]; rfl)]
      simp only [List.length_cons]
      omega
    | some place =>
      rw [List.filterMap_cons_some (b := (place, e.1)) (by rw [h]; rfl),
        List.filter_cons_of_neg (by rw [h]; simp)]
      simp only [List.length_cons]
      omega

theorem foldr_weight_told (l : List Task) (result : Except KeyError Jwk) :
    (l.map (·, Stage.told result)).foldr (weight · + ·) 0 = l.length := by
  induction l with
  | nil => rfl
  | cons t l ih =>
    rw [List.map_cons, List.foldr_cons, ih, List.length_cons]
    exact Nat.add_comm _ _

theorem work_tell (s : State) (c : Nat) (kid : String) (result : Except KeyError Jwk) :
    (s.tell c kid result).work = s.work := by
  have h := length_waiting s c kid
  simp only [work, tell]
  rw [foldr_weight_append, foldr_weight (List.map _ _), foldr_weight_told,
    foldr_weight s.ready s.parked.length]
  omega

/-! ## Turns use up work -/

theorem work_store (s : State) (c : Nat) (kid : String) (o : Outcome) :
    (s.store c kid o).work = s.work := by
  unfold store
  split <;> rfl

theorem work_land (s : State) (c : Nat) (kid : String) : (s.land c kid).work = s.work := by
  unfold land
  split <;> rfl

theorem work_finish (s : State) (t : Task) (o : Outcome) : (s.finish t o).work = s.work := by
  unfold finish
  split
  · rfl
  · split
    · rw [work_tell, work_land, work_store]
    · rfl

theorem work_callSource (s : State) (kid : String) (i : Nat) :
    (s.callSource kid i).2.work = s.work := by
  unfold callSource
  split
  · rfl
  · dsimp only
    split <;> rfl

theorem work_noteFetch (s : State) (f : Fetch) : (s.noteFetch f).work = s.work := by
  unfold noteFetch
  dsimp only
  split <;> rfl

theorem work_receiveKey (s : State) (kid : String) (x : Exchange) :
    (s.receiveKey kid x).2.work = s.work := work_noteFetch s _

theorem work_await (s : State) (kid : String) (inner : Provider) (c : Nat) (cache : Cache) :
    (s.await kid inner c cache).2.work ≤ s.work + (2 * inner.height + 2) := by
  unfold await
  split
  · exact Nat.le_add_right _ _
  · exact Nat.le_of_eq (work_enqueue _ _ _)

/-- A call makes at most one new task, for a provider with fewer layers. -/
theorem work_call (kid : String) (p : Provider) (s : State) :
    (call kid p s).2.work ≤ s.work + 2 * p.height := by
  induction p generalizing s with
  | source i => exact Nat.le_of_eq (work_callSource s kid i)
  | remote r => exact Nat.le_add_right _ _
  | limited inner b ih =>
    rw [call]
    split
    · exact Nat.le_add_right _ _
    · dsimp only
      split
      · refine Nat.le_trans (ih _) ?_
        exact Nat.add_le_add_left (by rw [Provider.height]; omega) _
      all_goals exact Nat.le_add_right _ _
  | cached inner c _ =>
    rw [call, Provider.height]
    split
    · exact Nat.le_add_right _ _
    · split
      · exact Nat.le_add_right _ _
      · exact work_await s kid inner c _
      · exact work_await _ kid inner c _

theorem work_advanceTask (s : State) (t : Task) (stage : Stage) :
    (s.advanceTask t stage).work < s.work + weight (t, stage) := by
  unfold advanceTask
  split
  · have h := work_call t.kid t.provider s
    rw [weight]
    split
    · rename_i heq
      rw [heq] at h
      rw [work_finish]
      dsimp only at h
      omega
    · rename_i heq
      rw [heq] at h
      rw [work_park]
      dsimp only at h
      omega
    · rename_i heq
      rw [heq] at h
      rw [work_enqueue]
      dsimp only [weight] at h ⊢
      omega
  · split
    · rw [work_finish]; exact Nat.lt_succ_self _
    · exact Nat.lt_succ_self _
  · rw [work_finish, work_receiveKey]; exact Nat.lt_succ_self _
  · rw [work_finish]; exact Nat.lt_succ_self _

/-- **A turn leaves less work.** -/
theorem work_turn {s : State} (h : s.ready ≠ []) : s.turn.work < s.work := by
  unfold turn
  split
  · exact absurd ‹_› h
  · rename_i t stage rest heq
    refine Nat.lt_of_lt_of_eq (work_advanceTask _ t stage) ?_
    rw [work, work, heq, List.foldr_cons]
    exact Nat.add_comm _ _

theorem ready_turns {n : Nat} {s : State} (h : s.work ≤ n) : (turns n s).ready = [] := by
  induction n generalizing s with
  | zero =>
    by_cases he : s.ready = []
    · exact he
    · exact absurd (work_turn he) (by omega)
  | succ n ih =>
    rw [turns]
    split
    · exact List.isEmpty_iff.1 ‹_›
    · rename_i he
      have := work_turn (s := s) (fun h => he (List.isEmpty_iff.2 h))
      exact ih (by omega)

/-- **After `settle` no task is ready.** -/
@[simp] theorem ready_settle (s : State) : s.settle.ready = [] := ready_turns (Nat.le_refl _)

end SigningKeys.State
