import SigningKeys.Proofs.Run.Waiting

/-!
# Calls that begin

A turn can begin a call: the fetch of a cache. Such a call is made once, unless the run is over
before its turn has come.

* `Turn.made`: the calls that begin in a turn;
* **`made_run`**: how often fetches begin and are made in a run.
-/

namespace SigningKeys

namespace Turn

/-- The calls that begin in a turn. -/
def made (T : Turn) : List Task :=
  ((T.after.ready.drop T.before.ready.length).filter (·.2.isCalling)).map (·.1)

variable {T : Turn}

theorem made_eq {l : List (Task × Stage)} (h : T.after.ready = T.before.ready ++ l) :
    T.made = (l.filter (·.2.isCalling)).map (·.1) := by
  rw [made, h, List.drop_left]

theorem made_of_finish {t : State} {o : Outcome} (hready : t.ready = T.before.ready)
    (hafter : T.after = t.finish T.task o) : T.made = [] := by
  have hnone : ∃ l, (t.finish T.task o).ready = t.ready ++ l ∧ l.filter (·.2.isCalling) = [] := by
    rcases t.finish_cases T.task o with ⟨id, -, heq⟩ | ⟨d, -, -, heq⟩ | ⟨d, cs, m, -, -, heq⟩
    · exact ⟨[], by rw [heq, List.append_nil], rfl⟩
    · exact ⟨[], by rw [heq, List.append_nil], rfl⟩
    · refine ⟨(t.waiting d T.task.kid).map (·, .told o.share), by rw [heq]; rfl, ?_⟩
      rw [List.filter_eq_nil_iff]
      intro e he
      obtain ⟨y, -, rfl⟩ := List.mem_map.1 he
      exact Bool.false_ne_true
  obtain ⟨l, hl, hcalling⟩ := hnone
  rw [made_eq (by rw [hafter, hl, hready]), hcalling, List.map_nil]

theorem pending_after (T : Turn) (x : Task) :
    T.after.pending x = T.before.pending x + T.made.count x := by
  obtain ⟨l, hl⟩ := State.ready_after T
  rw [made_eq hl.symm, State.pending, State.pending, ← hl, List.countP_append, List.count,
    List.countP_map, List.countP_filter]
  congr 2
  funext e
  exact Bool.and_comm _ _

end Turn

namespace State

theorem pending_before {s : State} {m : Move} {T : Turn} (h : s.turn? m = some T) (x : Task) :
    s.pending x = T.before.pending x + if T.stage.isCalling && T.task == x then 1 else 0 := by
  obtain ⟨i, hi, hbefore⟩ := turn?_eq_some h
  rw [pending, (perm_ready hi).countP_eq, List.countP_cons, hbefore]
  rfl

/-- **Fetches are made once.** As often as a fetch begins in a run, it takes its turn to make its
call, or is about to. -/
theorem made_run (s : State) (ms : List Move) {x : Task} {c : Nat} (hx : x.role = .fetch c) :
    ((s.history ms).flatMap Turn.made).count x + s.pending x =
      (s.history ms).countP (fun T => T.stage.isCalling && T.task == x) + (s.run ms).pending x := by
  induction ms generalizing s with
  | nil => rfl
  | cons m ms ih =>
    have hrest := ih (s.apply m)
    rw [history, run_cons, List.flatMap_append, List.count_append, List.countP_append]
    cases hm : s.turn? m with
    | none =>
      have hstill := (still_apply hm).pending x c hx
      simp only [Option.toList_none, List.flatMap_nil, List.count_nil, List.countP_nil]
      omega
    | some T =>
      have hbefore := pending_before hm x
      have hafter := T.pending_after x
      rw [← apply_of_turn? hm] at hafter
      simp only [Option.toList_some, List.flatMap_cons, List.flatMap_nil, List.append_nil,
        List.countP_singleton]
      omega

end State

end SigningKeys
