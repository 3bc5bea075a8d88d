import SigningKeys.Proofs.Run.Wired

/-!
# One outcome a call

Calls are numbered as they begin, so that a number belongs to one task until its call ends, and then
to one outcome.

* `State.calls`, `State.Numbered`: how often a number is given, and the invariant;
* `Numbered.part`: every part of a move keeps it;
* **`Numbered.outcome?_eq`**: the outcome of a call is the one with which it ended.
-/

namespace SigningKeys.State

/-- How often a number is given, to a call that goes on or to one that ended. -/
def calls (hand : List Task) (s : State) (id : Nat) : Nat :=
  (s.crew hand).countP (·.role == .caller id) + (s.ended.map (·.1)).count id

/-- **Numbers are given once**, and those to come are still free. -/
def Numbered (hand : List Task) (s : State) : Prop :=
  ∀ id, s.calls hand id ≤ if id < s.started then 1 else 0

theorem Numbered.frame {s t : State} {hand hand' : List Task} (h : s.Numbered hand)
    (hs : t.started = s.started)
    (hcrew : ∀ id, (t.crew hand').countP (·.role == .caller id) ≤
      (s.crew hand).countP (·.role == .caller id))
    (hended : t.ended = s.ended) : t.Numbered hand' := by
  intro id
  have hle := h id
  have hc := hcrew id
  unfold calls at hle ⊢
  rw [hs, hended]
  omega

variable {s t : State} {hand hand' : List Task}

/-- The number of a call that begins was free. -/
theorem Numbered.spawn (h : s.Numbered []) (p : Provider) (kid : String) :
    (s.spawn p kid).Numbered [] := by
  have hperm : ((s.spawn p kid).crew []).Perm (⟨.caller s.started, kid, p⟩ :: s.crew []) :=
    perm_enqueue _ _ _
  intro id
  have hle := h id
  unfold calls at hle ⊢
  rw [hperm.countP_eq, List.countP_cons]
  show _ + (s.ended.map (·.1)).count id ≤ if id < s.started + 1 then 1 else 0
  by_cases hid : s.started = id
  · rw [if_neg (by omega)] at hle
    rw [if_pos (by simp [hid]), if_pos (by omega)]
    omega
  · rw [if_neg (by simp [hid])]
    split at hle
    · rw [if_pos (by omega)]
      omega
    · rw [if_neg (by omega)]
      omega

/-- The number of a call that ends goes from the call to its outcome. -/
theorem Numbered.ended {x : Task} {number : Nat} (h : s.Numbered [x])
    (role : x.role = .caller number) (o : Outcome) :
    { s with ended := s.ended ++ [(number, o)] }.Numbered [] := by
  intro id
  have hle := h id
  have hcons : (s.crew [x]).countP (·.role == .caller id) =
      (s.crew []).countP (·.role == .caller id) + if x.role == .caller id then 1 else 0 :=
    List.countP_cons
  unfold calls at hle ⊢
  rw [hcons] at hle
  show (s.crew []).countP _ + ((s.ended ++ [(number, o)]).map (·.1)).count id ≤
    if id < s.started then 1 else 0
  rw [List.map_append, List.count_append]
  by_cases hid : number = id
  · rw [if_pos (by simp [role, hid])] at hle
    simp only [List.map_cons, List.map_nil, hid, List.count_singleton_self]
    omega
  · have hzero : ([(number, o)].map (·.1)).count id = 0 := by
      rw [List.count_eq_zero]
      simpa using Ne.symm hid
    rw [hzero]
    omega

/-- **Every part of a move keeps the invariant.** -/
theorem Numbered.part (h : s.Numbered hand) (hp : Part (hand, s) (hand', t)) :
    t.Numbered hand' := by
  cases hp with
  | quiet quiet =>
    obtain ⟨now, sources, buckets, meter, requests, delay, reads, -, -, -, rfl⟩ := quiet
    exact h.frame rfl (fun _ => Nat.le_refl _) rfl
  | skip | dropped => exact h.frame rfl (fun _ => Nat.le_refl _) rfl
  | @build _ base layers offered bucket =>
    obtain ⟨bs, cs, heq, -, -⟩ := s.install_eq base layers
    rw [heq]
    exact h.frame rfl (fun _ => Nat.le_refl _) rfl
  | spawn held => exact h.spawn _ _
  | pick ready =>
    exact h.frame rfl (fun _ => Nat.le_of_eq ((perm_eraseIdx_ready ready).countP_eq _).symm) rfl
  | gated core | joined core found stale flight =>
    exact h.frame rfl (fun _ => Nat.le_of_eq ((perm_park _ _ _).countP_eq _)) rfl
  | @started _ x inner c cache core found stale flight =>
    refine h.frame rfl (fun id => ?_) rfl
    have hperm : ((((s.setCache c ((cache.swept s.now x.kid).depart x.kid)).enqueue
        ⟨.fetch c, x.kid, inner⟩ .calling).park x (.flight c 0)).crew []).Perm
          (⟨.fetch c, x.kid, inner⟩ :: s.crew [x]) :=
      (perm_park _ _ _).trans (((perm_enqueue _ _ _).cons x).trans (.swap _ _ _))
    refine Nat.le_of_eq ((hperm.countP_eq _).trans ?_)
    exact List.countP_cons_of_neg (by simp)
  | ended role => exact h.ended role _
  | landed role live found =>
    refine h.frame rfl (fun id => ?_) rfl
    refine Nat.le_trans (Nat.le_of_eq ((perm_tell _ _ _ _).countP_eq _)) ?_
    exact (List.sublist_cons_self _ _).countP_le
  | lost role dead =>
    exact h.frame rfl (fun _ => (List.sublist_cons_self _ _).countP_le) rfl
  | passed passes =>
    have hperm := passes.perm
    obtain ⟨x, i, n, rest, -, -, rfl⟩ := passes
    exact h.frame rfl (fun _ => Nat.le_of_eq (hperm.countP_eq _)) rfl
  | @left _ x spot number parked role =>
    obtain ⟨cs, -, heq⟩ := leave_eq { s with parked := s.parked.erase (x, spot) } x.kid spot
    rw [heq]
    refine h.frame rfl (fun id => ?_) rfl
    rw [show s.crew [] = s.tasks from rfl, (perm_of_mem_parked parked).countP_eq]
    exact (List.sublist_cons_self _ _).countP_le
  | asked core =>
    exact h.frame rfl (fun _ => Nat.le_of_eq ((perm_enqueue _ _ _).countP_eq _)) rfl
  | struck =>
    exact h.frame rfl (fun _ => ((List.filter_sublist.map _).append_right _).countP_le) rfl

theorem numbered_blank (sources : List Source) (network : Network) :
    (blank sources network).Numbered [] := fun _ => Nat.zero_le _

/-- Calls that ended have ended for good. -/
theorem ended_part (hp : Part (hand, s) (hand', t)) : s.ended <+: t.ended := by
  cases hp with
  | quiet quiet =>
    obtain ⟨now, sources, buckets, meter, requests, delay, reads, -, -, -, rfl⟩ := quiet
    exact List.prefix_refl _
  | @build _ base layers offered bucket =>
    obtain ⟨bs, cs, heq, -, -⟩ := s.install_eq base layers
    rw [heq]
    exact List.prefix_refl _
  | ended role => exact List.prefix_append _ _
  | passed passes =>
    obtain ⟨x, i, n, rest, -, -, rfl⟩ := passes
    exact List.prefix_refl _
  | @left _ x spot number parked role =>
    obtain ⟨cs, -, heq⟩ := leave_eq { s with parked := s.parked.erase (x, spot) } x.kid spot
    exact heq ▸ List.prefix_refl s.ended
  | _ => exact List.prefix_refl _

/-- **The outcome of a call** is the one with which it ended. -/
theorem Numbered.outcome?_eq (h : s.Numbered []) {id : Nat} {o : Outcome}
    (ho : (id, o) ∈ s.ended) : s.outcome? id = some o := by
  have hcount : (s.ended.map (·.1)).count id ≤ 1 := by
    have hle := h id
    unfold calls at hle
    split at hle <;> omega
  unfold outcome?
  generalize s.ended = l at ho hcount
  induction l with
  | nil => exact absurd ho List.not_mem_nil
  | cons e l ih =>
    rw [List.map_cons, List.count_cons] at hcount
    rw [List.lookup_cons]
    rcases List.mem_cons.1 ho with rfl | ho
    · rw [beq_self_eq_true]
    · have hmem : id ∈ l.map (·.1) := List.mem_map_of_mem ho
      have hpos := List.count_pos_iff.2 hmem
      have hne : (e.1 == id) = false := by
        by_contra hc
        rw [Bool.not_eq_false] at hc
        rw [if_pos hc] at hcount
        omega
      have hne' : (id == e.1) = false := by
        rw [beq_eq_false_iff_ne] at hne ⊢
        exact hne.symm
      rw [hne']
      exact ih ho (by rw [hne] at hcount; simpa using hcount)

/-- A call that ends in a run has ended when the run is over. -/
theorem ended_of_mem_history {behind : List Provider} (hw : s.Wired behind []) {ms : List Move}
    {T : Turn} (hT : T ∈ s.history ms) {id : Nat} {o : Outcome} (hrole : T.task.role = .caller id)
    (ho : T.result? = some o) : (id, o) ∈ (s.run ms).ended := by
  obtain ⟨pre, post, hsplit⟩ := List.append_of_mem hT
  obtain ⟨ms₁, m, ms₂, rfl, -, hturn, -⟩ := exists_of_history_eq hsplit
  have hafter : (id, o) ∈ T.after.ended := by
    have hcourse := T.course
    generalize ha : T.after = t, hs : T.stage = stage at hcourse
    rw [ho] at hcourse
    generalize hr : some o = r at hcourse
    cases hcourse with
    | waits | fetches | lost => cases hr
    | ends | fetched | admitted | told =>
      cases hr
      rw [finish_caller _ hrole]
      exact List.mem_append_right _ (List.mem_singleton_self _)
  obtain ⟨behind₁, -, hw₁⟩ := hw.run ms₁
  obtain ⟨behind₂, -, hw₂⟩ := hw₁.run [m]
  rw [run_cons, run_nil, apply_of_turn? hturn] at hw₂
  rw [run_append, run_cons, apply_of_turn? hturn]
  obtain ⟨-, -, -, hend⟩ := run_induction (I := fun _ s => (id, o) ∈ s.ended)
    (fun _ h hp => (ended_part hp).subset h) hw₂ hafter ms₂
  exact hend

end SigningKeys.State
