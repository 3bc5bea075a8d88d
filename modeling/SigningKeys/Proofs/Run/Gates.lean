import SigningKeys.Proofs.Run.Traces

/-!
# Calls that go on later

A task that waits at the gate of a source, or was let through, had called its provider in an earlier
turn, was given its number by the source, and has not taken a turn since. Likewise a task that is
fetching a key set over the network had begun to do so in an earlier turn.

* `Reached`: how far a task had come with its call in its last turn;
* **`gated_run`**: all tasks at gates and on the network came there like that.
-/

namespace SigningKeys

/-- How far a task had come with its call, in the last turn that it took. -/
def Reached (r : Reach) (x : Task) : List Turn → Prop :=
  Since (fun A => A.task = x ∧ A.stage = .calling ∧
      (State.call x.kid x.provider A.before).1 = r)
    (fun Y => Y.task ≠ x)

namespace State

/-- All tasks that wait at gates, were let through, or come from the network, had called their
providers. -/
structure Gated (h : List Turn) (s : State) : Prop where
  parked : ∀ x i n, (x, .gate i n) ∈ s.parked → Reached (.waits (.gate i n)) x h
  ready : ∀ x i n, (x, .admitted i n) ∈ s.ready → Reached (.waits (.gate i n)) x h
  fetching : ∀ x e, (x, .fetching e) ∈ s.ready → Reached (.fetches e) x h

variable {s : State} {x : Task} {i n : Nat} {e : Exchange}

theorem mem_parked_of_finish {t : Task} {o : Outcome} {e : Task × Spot}
    (he : e ∈ (s.finish t o).parked) : e ∈ s.parked := by
  rcases s.finish_cases t o with ⟨id, -, heq⟩ | ⟨c, -, -, heq⟩ | ⟨c, cs, m, -, -, heq⟩
  · rw [heq] at he
    exact he
  · rw [heq] at he
    exact he
  · rw [heq] at he
    exact List.mem_of_mem_filter he

/-- What a task has to do that ends, no other task has but to be told of it. -/
theorem mem_ready_of_finish {t : Task} {o : Outcome} {stage : Stage}
    (he : (x, stage) ∈ (s.finish t o).ready) (hstage : ∀ result, stage ≠ .told result) :
    (x, stage) ∈ s.ready := by
  rcases s.finish_cases t o with ⟨id, -, heq⟩ | ⟨c, -, -, heq⟩ | ⟨c, cs, m, -, -, heq⟩
  · rw [heq] at he
    exact he
  · rw [heq] at he
    exact he
  · rw [heq] at he
    rcases List.mem_append.1 he with he | he
    · exact he
    · obtain ⟨y, -, hy⟩ := List.mem_map.1 he
      cases hy
      exact absurd rfl (hstage _)

/-- Who waits at a gate after a turn: those who did before, and the task if a source holds its
call. -/
theorem gate_of_after {T : Turn} (hx : (x, .gate i n) ∈ T.after.parked) :
    (x, .gate i n) ∈ T.before.parked ∨ T.task = x ∧ T.stage = .calling ∧
      (call x.kid x.provider T.before).1 = .waits (.gate i n) := by
  obtain ⟨t, stage, s⟩ := T
  rw [Turn.after] at hx
  dsimp only at hx ⊢
  cases stage with
  | calling =>
    rw [advanceTask] at hx
    have hcalled := called t.kid t.provider s
    cases hcall : call t.kid t.provider s with
    | mk r u =>
      rw [hcall] at hx hcalled
      cases r with
      | ended o => exact .inl (hcalled.parked ▸ mem_parked_of_finish hx)
      | fetches e =>
        have hx' : (x, .gate i n) ∈ u.parked := hx
        exact .inl (hcalled.parked ▸ hx')
      | waits spot =>
        rcases List.mem_append.1 hx with hx | hx
        · exact .inl (hcalled.parked ▸ hx)
        · obtain ⟨rfl, rfl⟩ := Prod.mk.inj (List.mem_singleton.1 hx)
          exact .inr ⟨rfl, rfl, by rw [hcall]⟩
  | admitted j k =>
    rw [advanceTask] at hx
    split at hx
    · exact .inl (mem_parked_of_finish hx)
    · exact .inl hx
  | fetching e => exact .inl ((s.quiet_receive e).parked ▸ mem_parked_of_finish hx)
  | told result => exact .inl (mem_parked_of_finish hx)

theorem admitted_of_after {T : Turn} (hx : (x, .admitted i n) ∈ T.after.ready) :
    (x, .admitted i n) ∈ T.before.ready := by
  have hcourse := T.course
  generalize T.after = t, T.result? = r, T.stage = stage at hcourse hx
  cases hcourse with
  | ends called => exact called.quiet.ready ▸ mem_ready_of_finish hx nofun
  | fetched received => exact (quiet_receiveKey received).ready ▸ mem_ready_of_finish hx nofun
  | admitted | told => exact mem_ready_of_finish hx nofun
  | lost => exact hx
  | fetches called =>
    cases called with
    | asked =>
      rcases List.mem_append.1 hx with hx | hx
      · exact hx
      · cases List.mem_singleton.1 hx
  | waits called =>
    cases called with
    | gated | joined => exact hx
    | started =>
      rcases List.mem_append.1 hx with hx | hx
      · exact hx
      · cases List.mem_singleton.1 hx

/-- Who is fetching a key set after a turn: those who did before, and the task if it has begun. -/
theorem fetching_of_after {T : Turn} (hx : (x, .fetching e) ∈ T.after.ready) :
    (x, .fetching e) ∈ T.before.ready ∨ T.task = x ∧ T.stage = .calling ∧
      (call x.kid x.provider T.before).1 = .fetches e := by
  obtain ⟨t, stage, s⟩ := T
  rw [Turn.after] at hx
  dsimp only at hx ⊢
  cases stage with
  | calling =>
    rw [advanceTask] at hx
    have hcalled := called t.kid t.provider s
    cases hcall : call t.kid t.provider s with
    | mk r u =>
      rw [hcall] at hx hcalled
      cases r with
      | ended o => exact .inl (hcalled.quiet.ready ▸ mem_ready_of_finish hx (by simp))
      | waits spot =>
        cases hcalled with
        | gated | joined => exact .inl hx
        | started =>
          rcases List.mem_append.1 hx with hx | hx
          · exact .inl hx
          · cases List.mem_singleton.1 hx
      | fetches e' =>
        cases hcalled with
        | asked =>
          rcases List.mem_append.1 hx with hx | hx
          · exact .inl hx
          · cases List.mem_singleton.1 hx
            exact .inr ⟨rfl, rfl, by rw [hcall]⟩
  | admitted j k =>
    rw [advanceTask] at hx
    split at hx
    · exact .inl (mem_ready_of_finish hx (by simp))
    · exact .inl hx
  | fetching e' => exact .inl ((s.quiet_receive e').ready ▸ mem_ready_of_finish hx (by simp))
  | told result => exact .inl (mem_ready_of_finish hx (by simp))

/-- **Every move keeps the invariant.** -/
theorem Gated.apply {behind : List Provider} {h : List Turn} (hs : s.Sound behind [])
    (hg : s.Gated h) (m : Move) : (s.apply m).Gated (h ++ (s.turn? m).toList) := by
  cases hm : s.turn? m with
  | none =>
    have hstill := still_apply hm
    rw [Option.toList_none, List.append_nil]
    constructor
    case parked => exact fun x i n hx => hg.parked x i n (hstill.parked _ hx)
    case ready =>
      exact fun x i n hx => (hstill.admitted x i n hx).elim (hg.ready x i n) (hg.parked x i n)
    case fetching => exact fun x e hx => hg.fetching x e (hstill.fetching x e hx)
  | some T =>
    have hother : ∀ y ∈ T.before.tasks, T.task ≠ y := by
      rintro y hy rfl
      exact hs.not_mem_before hm hy
    obtain ⟨j, -, hbefore⟩ := turn?_eq_some hm
    have hparked : T.before.parked = s.parked := by rw [hbefore]
    rw [apply_of_turn? hm]
    constructor
    case parked =>
      intro x i n hx
      rcases gate_of_after hx with hx | ⟨htask, hstage, hcall⟩
      · have hne := hother x (List.mem_append_right _ (List.mem_map_of_mem hx))
        exact (hg.parked x i n (hparked ▸ hx)).concat hne
      · exact .now h ⟨htask, hstage, hcall⟩
    case ready =>
      intro x i n hx
      have hx' := admitted_of_after hx
      have hne := hother x (List.mem_append_left _ (List.mem_map_of_mem hx'))
      rw [hbefore] at hx'
      exact (hg.ready x i n (List.mem_of_mem_eraseIdx hx')).concat hne
    case fetching =>
      intro x e hx
      rcases fetching_of_after hx with hx | ⟨htask, hstage, hcall⟩
      · have hne := hother x (List.mem_append_left _ (List.mem_map_of_mem hx))
        rw [hbefore] at hx
        exact (hg.fetching x e (List.mem_of_mem_eraseIdx hx)).concat hne
      · exact .now h ⟨htask, hstage, hcall⟩

/-- **All tasks at gates and on the network had called their providers, in every run.** -/
theorem gated_run (sources : List Source) (network : Network) (ms : List Move) :
    ((blank sources network).run ms).Gated ((blank sources network).history ms) := by
  induction ms using List.reverseRecOn with
  | nil =>
    exact ⟨fun x i n hx => absurd hx List.not_mem_nil, fun x i n hx => absurd hx List.not_mem_nil,
      fun x e hx => absurd hx List.not_mem_nil⟩
  | append_singleton ms m ih =>
    obtain ⟨behind, hs⟩ := sound_run sources network ms
    rw [run_concat, history_concat]
    exact ih.apply hs m

end State

end SigningKeys
