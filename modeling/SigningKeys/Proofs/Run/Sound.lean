import SigningKeys.Proofs.Run.Flying
import SigningKeys.Proofs.Run.Numbered

/-!
# Sound states

The invariants of runs together: nothing dangles, caches agree with the tasks that fetch for them,
numbers are given once, and no two tasks are the same.

* `State.Sound`: the invariants;
* **`Sound.run`**, `sound_run`: they hold from then on, and in every run;
* `Sound.holds_of_apply`, `Sound.holds_before`: a cache in reach was in reach before.
-/

namespace SigningKeys.State

/-- **The invariants of runs.** -/
structure Sound (behind : List Provider) (hand : List Task) (s : State) : Prop where
  wired : s.Wired behind hand
  flying : s.Flying hand
  numbered : s.Numbered hand
  distinct : (s.crew hand).Nodup

variable {s t : State} {hand hand' : List Task} {behind : List Provider}

/-- A call that begins is a new task, and so is a fetch that starts. -/
theorem distinct_part (hf : s.Flying hand) (hn : s.Numbered hand) (h : (s.crew hand).Nodup)
    (hp : Part (hand, s) (hand', t)) : (t.crew hand').Nodup := by
  cases hp with
  | quiet quiet =>
    obtain ⟨now, sources, buckets, meter, requests, delay, reads, -, -, -, rfl⟩ := quiet
    exact h
  | @build _ base layers offered bucket =>
    obtain ⟨bs, cs, heq, -, -⟩ := s.install_eq base layers
    rw [heq]
    exact h
  | skip | dropped => exact h
  | @spawn _ p kid held =>
    refine (crew_enqueue _ _ _ _).nodup_iff.2 (List.nodup_cons.2 ⟨fun hx => ?_, h⟩)
    have hle := hn s.started
    have hpos : 0 < (s.crew []).countP (·.role == .caller s.started) :=
      List.countP_pos_iff.2 ⟨_, hx, beq_self_eq_true _⟩
    rw [if_neg (Nat.lt_irrefl _), calls] at hle
    omega
  | pick ready => exact (perm_eraseIdx_ready ready).nodup_iff.1 h
  | gated | joined => exact (perm_park _ _ _).nodup_iff.2 h
  | @started _ x inner c cache core found stale flight =>
    refine (perm_park _ _ _).nodup_iff.2 ((crew_enqueue _ [x] _ _).nodup_iff.2 ?_)
    refine List.nodup_cons.2 ⟨fun hx => ?_, h⟩
    have hreach : s.reaches [x] c :=
      ⟨_, .inr ⟨x, List.mem_cons_self, rfl⟩, Provider.uses_of_core_eq core⟩
    have hcount := hf.fetches c cache hreach found x.kid
    have hpos : 0 < (s.crew [x]).countP (·.fetches c x.kid) :=
      List.countP_pos_iff.2 ⟨_, hx, Task.fetches_eq_true.2 ⟨rfl, rfl⟩⟩
    rw [List.count_eq_zero_of_not_mem (Cache.flight?_eq_none.1 flight)] at hcount
    omega
  | landed => exact (perm_tell _ _ _ _).nodup_iff.2 (List.nodup_cons.1 h).2
  | ended | lost => exact (List.nodup_cons.1 h).2
  | passed passes =>
    have hperm := passes.perm
    obtain ⟨x, i, n, rest, -, -, rfl⟩ := passes
    exact hperm.nodup_iff.2 h
  | @left _ x spot _ parked role =>
    obtain ⟨cs, -, heq⟩ := leave_eq { s with parked := s.parked.erase (x, spot) } x.kid spot
    rw [heq]
    exact (List.nodup_cons.1 ((perm_of_mem_parked parked).nodup_iff.1 h)).2
  | asked => exact (perm_enqueue _ _ _).nodup_iff.2 h
  | struck => exact h.sublist ((List.filter_sublist.map _).append_right _)

namespace Sound

/-- **The invariants hold from then on.** -/
theorem run (h : s.Sound behind []) (ms : List Move) :
    ∃ behind', behind <+: behind' ∧ (s.run ms).Sound behind' [] := by
  obtain ⟨behind', hpre, hw, hf, hn, hd⟩ := run_induction
    (I := fun hand s => s.Flying hand ∧ s.Numbered hand ∧ (s.crew hand).Nodup)
    (fun hw h hp => ⟨h.1.part hw hp, h.2.1.part hp, distinct_part h.1 h.2.1 h.2.2 hp⟩) h.wired
    ⟨h.flying, h.numbered, h.distinct⟩ ms
  exact ⟨behind', hpre, hw, hf, hn, hd⟩

/-- A cache that there is, is in reach only if it was before the move. -/
theorem holds_of_apply (h : s.Sound behind []) {m : Move} {c : Nat} (hc : c < s.caches.length)
    (hlive : (s.apply m).holds c = true) : s.holds c = true := by
  by_contra hdead
  rw [holds_iff] at hdead hlive
  obtain ⟨-, -, -, hend, -⟩ := h.wired.keeps
    (I := fun hand s => ¬s.reaches hand c ∧ c < s.caches.length) (fun {_ _ _ _ _} hw hI hp => by
      obtain ⟨behind', hpre, hw'⟩ := hw.part hp
      refine ⟨fun hr => (hp.reaches hr).elim hI.1 (Nat.not_le.2 hI.2), ?_⟩
      rw [← hw'.caches]
      rw [← hw.caches] at hI
      exact Nat.lt_of_lt_of_le hI.2 hpre.length_le) ⟨hdead, hc⟩ m
  exact hend hlive

/-- The fetch of a cache does not keep the cache in reach. -/
theorem holds_before (h : s.Sound behind []) {m : Move} {T : Turn} (hT : s.turn? m = some T)
    {c : Nat} (hrole : T.task.role = .fetch c) (hlive : s.holds c = true) :
    T.before.holds c = true := by
  obtain ⟨i, hi, hbefore⟩ := turn?_eq_some hT
  have hperm := perm_eraseIdx_ready hi
  rw [hbefore, holds_iff]
  obtain ⟨p, hp | ⟨x, hx, rfl⟩, hu⟩ := (holds_iff s c).1 hlive
  · exact ⟨p, .inl hp, hu⟩
  · rcases List.mem_cons.1 (hperm.mem_iff.1 hx) with rfl | hx'
    · have hfits := h.wired.provider _ (.inr ⟨_, hx, rfl⟩)
      exact absurd (hfits.height_lt hu (h.wired.role _ hx c hrole)) (Nat.lt_irrefl _)
    · exact ⟨_, .inr ⟨x, hx', rfl⟩, hu⟩

theorem not_mem_before (h : s.Sound behind []) {m : Move} {T : Turn} (hT : s.turn? m = some T) :
    T.task ∉ T.before.tasks := by
  obtain ⟨i, hi, hbefore⟩ := turn?_eq_some hT
  rw [hbefore]
  exact (List.nodup_cons.1 ((perm_eraseIdx_ready hi).nodup_iff.1 h.distinct)).1

end Sound

theorem sound_blank (sources : List Source) (network : Network) :
    (blank sources network).Sound [] [] :=
  ⟨wired_blank sources network, flying_blank sources network, numbered_blank sources network,
    List.nodup_nil⟩

/-- **The invariants hold in every run.** -/
theorem sound_run (sources : List Source) (network : Network) (ms : List Move) :
    ∃ behind, ((blank sources network).run ms).Sound behind [] := by
  obtain ⟨behind, -, h⟩ := (sound_blank sources network).run ms
  exact ⟨behind, h⟩

end SigningKeys.State
