import Mathlib.Data.List.Induction
import SigningKeys.Proofs.Run.Caches
import SigningKeys.Proofs.Run.Sound

/-!
# Where things come from

Whatever a state holds was brought about by turns of the run that led to it. A stored key is what
the last successful fetch of its id brought, a fetch under way was started by a call, and a call
that was told a result had joined the fetch that ended with it.

* `Since`: some turn of a history was one thing, and all later ones are another;
* `Attached`, `Informed`: how a call came to wait for a fetch, and to be told how it ended;
* `State.Traced`: the invariant, of a state and the history that led to it;
* **`Traced.apply`**, `traced_run`: every move keeps it.
-/

namespace SigningKeys

/-! ## Histories -/

/-- Some turn of a history was one thing, and all later ones are another. -/
def Since (P Q : Turn → Prop) (h : List Turn) : Prop :=
  ∃ older X later, h = older ++ X :: later ∧ P X ∧ ∀ Y ∈ later, Q Y

namespace Since

variable {P Q : Turn → Prop} {h later : List Turn} {T : Turn}

theorem append (hs : Since P Q h) (hl : ∀ Y ∈ later, Q Y) : Since P Q (h ++ later) := by
  obtain ⟨older, X, mid, rfl, hP, hQ⟩ := hs
  refine ⟨older, X, mid ++ later, by rw [List.append_assoc, List.cons_append], hP, fun Y hY => ?_⟩
  exact (List.mem_append.1 hY).elim (hQ Y) (hl Y)

theorem concat (hs : Since P Q h) (hT : Q T) : Since P Q (h ++ [T]) :=
  hs.append fun _ hY => List.mem_singleton.1 hY ▸ hT

theorem now (h : List Turn) (hT : P T) : Since P Q (h ++ [T]) :=
  ⟨h, T, [], rfl, hT, fun _ hY => absurd hY List.not_mem_nil⟩

end Since

/-- A cache is fetching a key: a call started that, and no fetch of the key has ended since. -/
def Departed (c : Nat) (kid : String) : List Turn → Prop :=
  Since (fun S => ∃ inner, S.Starts c kid inner) (fun Y => Y.lands c kid = none)

/-- **How a call came to wait for a fetch**: in its turn the fetch was under way, or it was the call
that started it; the fetch has not ended since. -/
def Attached (c : Nat) (w : Task) (h : List Turn) : Prop :=
  ∃ older T later, h = older ++ T :: later ∧ T.task = w ∧ T.stage = .calling ∧
    Departed c w.kid (older ++ [T]) ∧ ∀ Y ∈ later, Y.lands c w.kid = none ∧ Y.task ≠ w

/-- **How a call came to be told a result**: it waited for a fetch, and the fetch ended. -/
def Informed (c : Nat) (w : Task) (o : Outcome) (h : List Turn) : Prop :=
  ∃ older L later, h = older ++ L :: later ∧ Attached c w older ∧ L.lands c w.kid = some o ∧
    ∀ Y ∈ L :: later, Y.task ≠ w

namespace State

/-- **Where things come from.** -/
structure Traced (behind : List Provider) (h : List Turn) (s : State) : Prop where
  clock : ∀ X ∈ h, X.after.now ≤ s.now
  fetches : ∀ X ∈ h, ∀ c, X.task.role = .fetch c → behind[c]? = some X.task.provider
  stored : ∀ (c : Nat) (cache : Cache), s.holds c = true → s.caches[c]? = some cache →
    ∀ kid e, cache.store.get? kid = some e →
      Since (fun L => L.lands c kid = some (.key e.key) ∧ L.after.now = e.since)
        (fun Y => ∀ j, Y.lands c kid ≠ some (.key j)) h
  flying : ∀ c kid, s.holds c = true → s.inFlight c kid → Departed c kid h
  parked : ∀ w c place, (w, .flight c place) ∈ s.parked → Attached c w h
  told : ∀ w result, (w, .told result) ∈ s.ready →
    ∃ c o, (∃ inner, w.provider.core = .cached inner c) ∧ result = o.share ∧ Informed c w o h

variable {s : State} {behind behind' : List Provider} {h : List Turn}

theorem Traced.still (hs : s.Sound behind []) (hpre : behind <+: behind') (ht : s.Traced behind h)
    {m : Move} (hm : s.turn? m = none) : (s.apply m).Traced behind' h := by
  have hstill := still_apply hm
  constructor
  case clock => exact fun X hX => Nat.le_trans (ht.clock X hX) hstill.later
  case fetches => exact fun X hX c hc => Provider.getElem?_mono hpre (ht.fetches X hX c hc)
  case stored =>
    intro c cache' hlive hc' kid e he
    rcases cache_still hstill hc' with ⟨cache, hc, hcore⟩ | ⟨hnew, -⟩
    · have hstore : cache'.store = cache.store := congrArg (·.2.1) hcore
      rw [hstore] at he
      exact ht.stored c cache (hs.holds_of_apply ((List.getElem?_eq_some_iff.1 hc).1) hlive) hc kid e he
    · rw [hnew] at he
      cases he
  case flying =>
    intro c kid hlive hflight
    obtain ⟨cache, hc, hk⟩ := inFlight_of_still hstill hflight
    exact ht.flying c kid (hs.holds_of_apply ((List.getElem?_eq_some_iff.1 hc).1) hlive) ⟨cache, hc, hk⟩
  case parked => exact fun w c place hw => ht.parked w c place (hstill.parked _ hw)
  case told => exact fun w result hw => ht.told w result (hstill.told w result hw)

section Turns

variable {m : Move} {T : Turn}

theorem Traced.stored_after (hs : s.Sound behind []) (ht : s.Traced behind h)
    (hT : s.turn? m = some T) {c : Nat} {cache' : Cache} (hlive : T.after.holds c = true)
    (hc' : T.after.caches[c]? = some cache') {kid : String} {e : Stored}
    (he : cache'.store.get? kid = some e) :
    Since (fun L => L.lands c kid = some (.key e.key) ∧ L.after.now = e.since)
      (fun Y => ∀ j, Y.lands c kid ≠ some (.key j)) (h ++ [T]) := by
  obtain ⟨cache, hc, hchanges⟩ := T.exists_before hc'
  obtain ⟨i, -, hbefore⟩ := turn?_eq_some hT
  have hcs : s.caches[c]? = some cache := by rw [hbefore] at hc; exact hc
  rw [← apply_of_turn? hT] at hlive
  have hlive' := hs.holds_of_apply ((List.getElem?_eq_some_iff.1 hcs).1) hlive
  have hold : ∀ k e, cache.store.get? k = some e → _ := ht.stored c cache hlive' hcs
  -- a look that finds nothing fresh leaves old keys of other ids
  have hswept : ∀ {k : String}, cache.fresh? T.before.now k = none →
      (cache.swept T.before.now k).store.get? kid = some e → cache.store.get? kid = some e := by
    intro k hstale hget
    rw [Cache.get?_swept hstale] at hget
    split at hget
    · cases hget
    · exact hget
  cases hchanges with
  | kept dead =>
    refine (hold kid e he).concat fun j hj => ?_
    obtain ⟨hrole, -, hresult⟩ := Turn.lands_eq_some.1 hj
    have hdead := dead _ hrole hresult
    rw [hs.holds_before hT hrole hlive'] at hdead
    cases hdead
  | joined _ _ stale _ result =>
    refine (hold kid e (hswept stale he)).concat fun j => ?_
    rw [Turn.lands_eq_none result]
    nofun
  | started _ _ stale _ result _ =>
    refine (hold kid e (hswept stale he)).concat fun j => ?_
    rw [Turn.lands_eq_none result]
    nofun
  | landed role live result =>
    rcases Cache.get?_keep he with ⟨hk, ho, hsince⟩ | ⟨he, hkey⟩
    · refine .now h ⟨Turn.lands_eq_some.2 ⟨role, hk.symm, ?_⟩, hsince.symm⟩
      rw [result, ho]
    · refine (hold kid e he).concat fun j hj => ?_
      obtain ⟨-, hk, hresult⟩ := Turn.lands_eq_some.1 hj
      rw [result] at hresult
      have hnone := hkey hk.symm
      rw [Option.some.inj hresult] at hnone
      cases hnone

theorem Traced.flying_after (hs : s.Sound behind []) (ht : s.Traced behind h)
    (hT : s.turn? m = some T) {c : Nat} {kid : String} (hlive : T.after.holds c = true)
    (hflight : T.after.inFlight c kid) : Departed c kid (h ++ [T]) := by
  obtain ⟨cache', hc', hk⟩ := hflight
  obtain ⟨cache, hc, hchanges⟩ := T.exists_before hc'
  obtain ⟨i, -, hbefore⟩ := turn?_eq_some hT
  have hcs : s.caches[c]? = some cache := by rw [hbefore] at hc; exact hc
  rw [← apply_of_turn? hT] at hlive
  have hlive' := hs.holds_of_apply ((List.getElem?_eq_some_iff.1 hcs).1) hlive
  have hold : kid ∈ cache.kids → Departed c kid h :=
    fun hk => ht.flying c kid hlive' ⟨cache, hcs, hk⟩
  cases hchanges with
  | kept dead =>
    refine (hold hk).concat ?_
    cases hlands : T.lands c kid with
    | none => rfl
    | some o =>
      obtain ⟨hrole, -, hresult⟩ := Turn.lands_eq_some.1 hlands
      have hdead := dead _ hrole hresult
      rw [hs.holds_before hT hrole hlive'] at hdead
      cases hdead
  | joined _ _ _ _ result =>
    rw [Cache.kids_withFlight] at hk
    exact (hold hk).concat (Turn.lands_eq_none result _ _)
  | started stage core _ _ result ready =>
    rcases List.mem_cons.1 hk with rfl | hk
    · exact .now h ⟨_, stage, rfl, core, ready⟩
    · exact (hold hk).concat (Turn.lands_eq_none result _ _)
  | landed role live result =>
    rw [Cache.kids_land, Cache.kids_keep, List.mem_filter, bne_iff_ne] at hk
    exact (hold hk.1).concat (if_neg fun h => hk.2 h.2.symm)

theorem Traced.parked_after (hs : s.Sound behind []) (ht : s.Traced behind h)
    (hT : s.turn? m = some T) {w : Task} {c place : Nat}
    (hw : (w, .flight c place) ∈ T.after.parked) : Attached c w (h ++ [T]) := by
  obtain ⟨i, hi, hbefore⟩ := turn?_eq_some hT
  have hmay : ∀ e ∈ T.before.parked, e.1.mayWaitAt e.2 := by
    rw [hbefore]
    exact hs.wired.parked
  rcases Turn.parked_before hw hmay with ⟨hpark, hlands⟩ |
    ⟨rfl, ⟨hstage, -, inner, hcore⟩, hresult, hflight⟩
  · have hne : T.task ≠ w := by
      rintro rfl
      exact hs.not_mem_before hT (List.mem_append_right _ (List.mem_map_of_mem hpark))
    rw [hbefore] at hpark
    obtain ⟨older, X, later, rfl, hX, hcall, hdep, hlater⟩ := ht.parked w c place hpark
    refine ⟨older, X, later ++ [T], by rw [List.append_assoc, List.cons_append], hX, hcall, hdep, ?_⟩
    intro Y hY
    rcases List.mem_append.1 hY with hY | hY
    · exact hlater Y hY
    · rw [List.mem_singleton.1 hY]
      exact ⟨hlands, hne⟩
  · refine ⟨h, T, [], rfl, rfl, hstage, ?_, fun Y hY => absurd hY List.not_mem_nil⟩
    rcases hflight with hflight | hstarts
    · have hmem : T.task ∈ s.tasks := (perm_eraseIdx_ready hi).mem_iff.2 List.mem_cons_self
      have hlive : s.holds c = true :=
        (holds_iff s c).2 ⟨_, .inr ⟨_, hmem, rfl⟩, Provider.uses_of_core_eq hcore⟩
      rw [hbefore] at hflight
      exact (ht.flying c _ hlive hflight).concat (Turn.lands_eq_none hresult _ _)
    · exact .now h hstarts

theorem Traced.told_after (hs : s.Sound behind []) (ht : s.Traced behind h)
    (hT : s.turn? m = some T) {w : Task} {result : Except KeyError Jwk}
    (hw : (w, .told result) ∈ T.after.ready) :
    ∃ c o, (∃ inner, w.provider.core = .cached inner c) ∧ result = o.share ∧
      Informed c w o (h ++ [T]) := by
  obtain ⟨i, hi, hbefore⟩ := turn?_eq_some hT
  have hne : w ∈ T.before.tasks → T.task ≠ w := by
    rintro hmem rfl
    exact hs.not_mem_before hT hmem
  rcases State.told_after hw with hready | ⟨c, place, o, hpark, hlands, rfl⟩
  · have htask := hne (List.mem_append_left _ (List.mem_map_of_mem hready))
    rw [hbefore] at hready
    obtain ⟨c, o, hcore, hres, older, L, later, rfl, hatt, hlands, hlater⟩ :=
      ht.told w result (List.mem_of_mem_eraseIdx hready)
    refine ⟨c, o, hcore, hres, older, L, later ++ [T], by rw [List.append_assoc, List.cons_append],
      hatt, hlands, fun Y hY => ?_⟩
    rw [← List.cons_append] at hY
    rcases List.mem_append.1 hY with hY | hY
    · exact hlater Y hY
    · rw [List.mem_singleton.1 hY]
      exact htask
  · have htask := hne (List.mem_append_right _ (List.mem_map_of_mem hpark))
    rw [hbefore] at hpark
    refine ⟨c, o, hs.wired.parked _ hpark, rfl, h, T, [], rfl, ht.parked w c place hpark, hlands, ?_⟩
    intro Y hY
    rw [List.mem_singleton.1 hY]
    exact htask

theorem Traced.turn (hs : s.Sound behind []) (hpre : behind <+: behind')
    (ht : s.Traced behind h) (hT : s.turn? m = some T) : T.after.Traced behind' (h ++ [T]) := by
  obtain ⟨i, hi, hbefore⟩ := turn?_eq_some hT
  constructor
  case clock =>
    intro X hX
    have hnow : T.before.now = s.now := by rw [hbefore]
    rcases List.mem_append.1 hX with hX | hX
    · exact Nat.le_trans (ht.clock X hX) (hnow ▸ T.now_after)
    · exact Nat.le_of_eq (congrArg (·.after.now) (List.mem_singleton.1 hX))
  case fetches =>
    intro X hX c hc
    refine Provider.getElem?_mono hpre ?_
    rcases List.mem_append.1 hX with hX | hX
    · exact ht.fetches X hX c hc
    · rw [List.mem_singleton.1 hX] at hc ⊢
      exact hs.wired.role _ ((perm_eraseIdx_ready hi).mem_iff.2 List.mem_cons_self) c hc
  case stored => exact fun c cache' hlive hc' kid e he => ht.stored_after hs hT hlive hc' he
  case flying => exact fun c kid hlive hflight => ht.flying_after hs hT hlive hflight
  case parked => exact fun w c place hw => ht.parked_after hs hT hw
  case told => exact fun w result hw => ht.told_after hs hT hw

end Turns

/-- **Every move keeps the invariant.** -/
theorem Traced.apply (hs : s.Sound behind []) (hpre : behind <+: behind')
    (ht : s.Traced behind h) (m : Move) :
    (s.apply m).Traced behind' (h ++ (s.turn? m).toList) := by
  cases hm : s.turn? m with
  | none =>
    rw [Option.toList_none, List.append_nil]
    exact ht.still hs hpre hm
  | some T =>
    rw [apply_of_turn? hm]
    exact ht.turn hs hpre hm

theorem traced_blank (sources : List Source) (network : Network) :
    (blank sources network).Traced [] [] := by
  constructor
  case clock | fetches => exact fun X hX => absurd hX List.not_mem_nil
  case stored => exact fun c cache _ hc => absurd hc (by simp [blank])
  case flying =>
    rintro c kid - ⟨cache, hc, -⟩
    exact absurd hc (by simp [blank])
  case parked => exact fun w c place hw => absurd hw List.not_mem_nil
  case told => exact fun w result hw => absurd hw List.not_mem_nil

/-- **Everything comes from somewhere in every run.** -/
theorem traced_run (sources : List Source) (network : Network) (ms : List Move) :
    ∃ behind, ((blank sources network).run ms).Sound behind [] ∧
      ((blank sources network).run ms).Traced behind ((blank sources network).history ms) := by
  induction ms using List.reverseRecOn with
  | nil => exact ⟨[], sound_blank sources network, traced_blank sources network⟩
  | append_singleton ms m ih =>
    obtain ⟨behind, hs, ht⟩ := ih
    obtain ⟨behind', hpre, hs'⟩ := hs.run [m]
    rw [run_concat, history_concat]
    exact ⟨behind', hs', ht.apply hs hpre m⟩

end State

end SigningKeys
