import SigningKeys.Proofs.Pipeline.Build
import SigningKeys.Proofs.Pipeline.Ledger
import SigningKeys.Proofs.Run.Sound
import SigningKeys.Scenario.Run

/-!
# Scenarios are runs

A scenario lets all ready tasks take their turns after each of its steps, first come, first served.
That is one of the many orders of moves, so what holds in every run holds in every scenario.

* `State.Leads`: a state leads to another one by moves;
* `Scene.Reached`: the state of a scene was reached by moves, and its buckets are there;
* `Scene.reached_step`, `Scene.reached_addProvider`, `Scene.reached_addBucket`: everything that a
  scenario does is made of moves;
* **`Scenario.reached_last`**, **`Scenario.run_reports`**: a scenario is a run, and reports what runs
  show.
-/

namespace SigningKeys

namespace State

/-- One state leads to another one by moves. -/
def Leads (s t : State) : Prop := ∃ ms, s.run ms = t

variable {s t u : State}

theorem Leads.refl (s : State) : s.Leads s := ⟨[], rfl⟩

theorem Leads.trans (h : s.Leads t) (h' : t.Leads u) : s.Leads u := by
  obtain ⟨ms, rfl⟩ := h
  obtain ⟨ns, rfl⟩ := h'
  exact ⟨ms ++ ns, run_append s ms ns⟩

theorem leads_apply (s : State) (m : Move) : s.Leads (s.apply m) := ⟨[m], rfl⟩

theorem leads_turns (n : Nat) (s : State) : s.Leads (turns n s) := by
  induction n generalizing s with
  | zero => exact .refl s
  | succ n ih =>
    rw [turns]
    split
    · exact .refl s
    · rw [turn_eq_turnAt]
      exact (s.leads_apply (.turn 0)).trans (ih _)

theorem leads_settle (s : State) : s.Leads s.settle := leads_turns _ s

theorem leads_startWith {p : Nat} {q : Provider} (hp : s.provider? p = some q) (kid : String)
    (delay : Duration) : s.Leads (s.startWith q kid delay) := by
  have hspawn : { s with delay }.apply (.get p kid) = { s with delay }.spawn q kid := by
    have hp' : { s with delay }.provider? p = some q := hp
    rw [apply, hp']
  have hstart : s.Leads ({ s with delay }.start q kid) :=
    (s.leads_apply (.delay delay)).trans
      ((hspawn ▸ leads_apply _ (.get p kid)).trans (leads_settle _))
  exact hstart.trans ⟨[.advance ({ s with delay }.start q kid).delay, .delay Duration.zero], rfl⟩

theorem leads_openGates (s : State) (i n : Nat) : s.Leads (n.repeat (·.openGate i) s) := by
  induction n with
  | zero => exact .refl s
  | succ n ih => exact ih.trans (leads_apply _ (.openGate i))

theorem leads_release (s : State) (i n : Nat) : s.Leads (s.release i n) :=
  (s.leads_openGates i n).trans (leads_settle _)

theorem leads_abort {id : Nat} (h : s.abort? id = some t) : s.Leads t := by
  obtain ⟨u, hu, rfl⟩ := Option.map_eq_some_iff.1 h
  have hgive : s.apply (.abort id) = u := by rw [apply, giveUp, hu]; rfl
  exact (hgive ▸ s.leads_apply (.abort id)).trans (leads_settle u)

/-- A fetch that ends at once is the last of those that are under way. -/
theorem leads_fetchAll (s : State) (r : Remote) : s.Leads (s.fetchAll r).2 := by
  have hask : (s.ask r).reads[s.reads.length]? = some ⟨r, s.now⟩ := List.getElem?_concat_length
  have hforgo : (s.ask r).forgo s.reads.length = s := by
    rw [forgo, ask, List.eraseIdx_append_of_length_le (Nat.le_refl _), Nat.sub_self,
      List.eraseIdx_cons_zero, List.append_nil]
  refine ⟨[.fetchAll r, .receive s.reads.length], ?_⟩
  rw [run_cons, run_cons, run_nil, apply, apply, receiveAt, hask, hforgo]
  rfl

end State

namespace Scene

/-- **The state of a scene was reached by moves**, and the buckets that it names are there. -/
structure Reached (sources : List Source) (network : Network) (s : Scene) : Prop where
  leads : (State.blank sources network).Leads s.state
  buckets : ∀ i, some i ∈ s.buckets → i < s.state.buckets.length

variable {sources : List Source} {network : Network} {s : Scene}

theorem lt_of_leads {s t : State} (h : s.Leads t) {i : Nat} (hi : i < s.buckets.length) :
    i < t.buckets.length := by
  obtain ⟨ms, rfl⟩ := h
  exact (List.getElem?_eq_some_iff.1
    (State.buckets_run s ms (List.getElem?_eq_getElem hi))).1

theorem Reached.move (h : s.Reached sources network) {t : State} (ht : s.state.Leads t) :
    { s with state := t }.Reached sources network :=
  ⟨h.leads.trans ht, fun i hi => lt_of_leads ht (h.buckets i hi)⟩

theorem Reached.bucket_lt (h : s.Reached sources network) {b i : Nat} (hb : s.bucket? b = .ok i) :
    i < s.state.buckets.length := by
  rw [bucket?] at hb
  cases hj : (s.buckets[b]?).join with
  | none =>
    rw [hj] at hb
    cases hb
  | some j =>
    rw [hj] at hb
    cases hb
    exact h.buckets i (List.mem_of_getElem? (Option.join_eq_some_iff.1 hj))

/-- The invariants of runs hold in scenes. -/
theorem Reached.sound (h : s.Reached sources network) : ∃ behind, s.state.Sound behind [] := by
  obtain ⟨ms, hms⟩ := h.leads
  obtain ⟨behind, hsound⟩ := State.sound_run sources network ms
  exact ⟨behind, hms ▸ hsound⟩

theorem Reached.offers (h : s.Reached sources network) {inner : Inner} {q : Provider}
    (hq : s.inner? inner = .ok q) : s.state.offers q = true := by
  cases inner with
  | source i =>
    rw [inner?] at hq
    split at hq
    · rename_i hi
      rw [← Except.ok.inj hq]
      exact decide_eq_true hi
    · cases hq
  | provider p =>
    rw [inner?] at hq
    split at hq
    · rename_i r hr
      cases hq
      have hheld : some q ∈ s.state.held := List.mem_of_getElem? (Option.join_eq_some_iff.1 hr)
      cases q with
      | source i =>
        -- a pipeline without layers is a bare source, which is there because nothing dangles
        obtain ⟨behind, hsound⟩ := h.sound
        have hfits : i < s.state.sources.length := hsound.wired.provider _ (.inl hheld)
        exact decide_eq_true hfits
      | remote r => rfl
      | limited inner b | cached inner c => exact List.contains_iff_mem.2 hheld
    · cases hq

/-! ## Steps -/

/-- **A step is made of moves.** -/
theorem leads_perform (s : Scene) (step : Step) :
    ∃ t, (s.perform step).2 = { s with state := t } ∧ s.state.Leads t := by
  cases step with
  | get p kid delay =>
    rw [perform]
    split
    · rename_i q hq
      have hlead := State.leads_startWith hq kid delay
      rw [get]
      split
      · exact ⟨_, rfl, hlead⟩
      · exact ⟨_, rfl, hlead⟩
    · exact ⟨s.state, rfl, .refl _⟩
  | advance d => exact ⟨_, rfl, s.state.leads_apply (.advance d)⟩
  | release i n => exact ⟨_, rfl, s.state.leads_release i n⟩
  | abort id =>
    rw [perform]
    split
    · rename_i t ht
      exact ⟨t, rfl, State.leads_abort ht⟩
    · exact ⟨s.state, rfl, .refl _⟩
  | drop p =>
    rw [perform]
    split
    · exact ⟨_, rfl, s.state.leads_apply (.drop p)⟩
    · exact ⟨s.state, rfl, .refl _⟩
  | fetchAll p =>
    rw [perform, fetchAll]
    split
    · rename_i r hr
      exact ⟨_, rfl, s.state.leads_fetchAll r⟩
    · exact ⟨s.state, rfl, .refl _⟩
  | bucket b call =>
    rw [perform, callBucket]
    split
    · exact ⟨s.state, rfl, .refl _⟩
    · rename_i i hi
      split
      · exact ⟨s.state, rfl, .refl _⟩
      · rename_i bucket hbucket
        have hcall : s.state.apply (.callBucket i call) =
            s.state.setBucket i (bucket.perform s.state.now call).2 := by
          rw [State.apply, State.callBucket, hbucket]
        exact ⟨_, rfl, hcall ▸ s.state.leads_apply (.callBucket i call)⟩
  | info p | debug p | callsFor i kid | hasCalls i n =>
    rw [perform]
    split
    · exact ⟨s.state, rfl, .refl _⟩
    · exact ⟨s.state, rfl, .refl _⟩
  | metrics => exact ⟨s.state, rfl, .refl _⟩

theorem reached_step (h : s.Reached sources network) (step : Step) :
    (s.step step).2.Reached sources network := by
  obtain ⟨t, ht, hlead⟩ := leads_perform s step
  rw [Scene.step]
  dsimp only
  rw [ht]
  exact ⟨(h.move hlead).leads, (h.move hlead).buckets⟩

/-! ## What is set up before -/

theorem refuse_eq_ok {α : Type} {x : Except KeyError α} {a : α} (h : refuse x = .ok a) :
    x = .ok a := by
  cases x with
  | error e => cases h
  | ok b => exact congrArg Except.ok (Except.ok.inj h)

/-- A blueprint shares the bucket that one of its changes names. -/
theorem mem_of_shared {blueprint : Blueprint} {changes : List Change} {b : Nat}
    (h : (blueprint.changes changes).bucket = .shared b) :
    blueprint.bucket = .shared b ∨ .share b ∈ changes := by
  induction changes generalizing blueprint with
  | nil => exact .inl h
  | cons c changes ih =>
    rcases ih h with h | h
    · cases c with
      | share b' =>
        cases h
        exact .inr List.mem_cons_self
      | limit capacity interval => cases h
      | cached enabled | cache capacity ttl | limited enabled | timeouts t => exact .inl h
    · exact .inr (List.mem_cons_of_mem _ h)

/-- Only buckets that a scene names are shared by its changes. -/
theorem exists_share {changes changes' : List Change} (h : changes.mapM s.change = .ok changes')
    {i : Nat} (hi : .share i ∈ changes') : ∃ b, s.bucket? b = .ok i := by
  induction changes generalizing changes' with
  | nil =>
    rw [List.mapM_nil] at h
    cases h
    exact absurd hi List.not_mem_nil
  | cons c changes ih =>
    rw [List.mapM_cons] at h
    obtain ⟨c', hc, h⟩ := bind_eq_ok h
    obtain ⟨rest, hrest, h⟩ := bind_eq_ok h
    cases h
    rcases List.mem_cons.1 hi with rfl | hi
    · cases c with
      | share b =>
        obtain ⟨j, hj, he⟩ := map_eq_ok hc
        cases he
        exact ⟨b, hj⟩
      | _ => cases hc
    · exact ih hrest hi

/-- A blueprint puts layers in front of what is there, if its source and its bucket are there. -/
theorem exists_layers_of_build {s t : State} {blueprint : Blueprint} {source : Option Provider}
    {p : Provider} (hsource : ∀ q, source = some q → s.offers q = true)
    (hbucket : ∀ i, blueprint.bucket = .shared i → i < s.buckets.length)
    (hbuild : s.build blueprint source = .ok (p, t)) :
    ∃ base layers, s.offers base = true ∧ s.offersBucket layers.bucket = true ∧
      s.install base layers = (p, t) := by
  obtain ⟨base, l, hbase, hl, hinstall⟩ := State.exists_install hbuild
  refine ⟨base, l, ?_, ?_, hinstall⟩
  · rcases hbase with hbase | ⟨-, r, -, rfl⟩
    · exact hsource base hbase
    · rfl
  · cases hb : l.bucket with
    | none => rfl
    | some layer =>
      rcases Blueprint.bucketLayer_eq (Blueprint.bucket_of_layers hl hb) with
        ⟨i, hshared, rfl⟩ | ⟨r, -, rfl⟩
      · exact decide_eq_true (hbucket i hshared)
      · rfl

/-- **A provider is put together by putting layers in front of what is there.** -/
theorem exists_layers (h : s.Reached sources network) {setup : Setup} {p : Provider} {t : State}
    (ha : s.assemble setup = .ok (p, t)) :
    ∃ base layers, s.state.offers base = true ∧ s.state.offersBucket layers.bucket = true ∧
      s.state.install base layers = (p, t) := by
  cases setup with
  | cached inner limits =>
    obtain ⟨q, hq, ha⟩ := bind_eq_ok (x := s.inner? inner) ha
    obtain ⟨l, -, ha⟩ := bind_eq_ok ha
    exact ⟨q, ⟨none, some l⟩, h.offers hq, rfl, Except.ok.inj ha⟩
  | limited inner bucket =>
    obtain ⟨q, hq, ha⟩ := bind_eq_ok (x := s.inner? inner) ha
    obtain ⟨i, hi, ha⟩ := bind_eq_ok ha
    exact ⟨q, ⟨some (.shared i), none⟩, h.offers hq, decide_eq_true (h.bucket_lt hi),
      Except.ok.inj ha⟩
  | remote site timeouts =>
    obtain ⟨address, -, ha⟩ := bind_eq_ok (x := Scene.address site) ha
    obtain ⟨r, -, ha⟩ := bind_eq_ok ha
    exact ⟨.remote r, ⟨none, none⟩, rfl, rfl, Except.ok.inj ha⟩
  | pipeline site changes inner =>
    obtain ⟨address, -, ha⟩ := bind_eq_ok (x := Scene.address site) ha
    obtain ⟨cs, hcs, ha⟩ := bind_eq_ok ha
    have hbucket : ∀ i, (Blueprint.changes { address } cs).bucket = .shared i →
        i < s.state.buckets.length := by
      intro i hi
      rcases mem_of_shared hi with hown | hshare
      · cases hown
      · obtain ⟨b, hb⟩ := exists_share hcs hshare
        exact h.bucket_lt hb
    cases inner with
    | none => exact exists_layers_of_build (fun _ hq => by cases hq) hbucket (refuse_eq_ok ha)
    | some i =>
      obtain ⟨source, hsource, ha⟩ := bind_eq_ok (x := (s.inner? i).map some) ha
      obtain ⟨q, hq, rfl⟩ := map_eq_ok hsource
      refine exists_layers_of_build (fun q' hq' => ?_) hbucket (refuse_eq_ok ha)
      rw [← Option.some.inj hq']
      exact h.offers hq

theorem reached_addProvider (h : s.Reached sources network) (setup : Setup) :
    (s.addProvider setup).2.Reached sources network := by
  rw [addProvider]
  cases ha : s.assemble setup with
  | error r =>
    have hmove := h.move (s.state.leads_apply .skip)
    exact ⟨hmove.leads, hmove.buckets⟩
  | ok built =>
    obtain ⟨p, t⟩ := built
    obtain ⟨base, layers, hbase, hbucket, hinstall⟩ := exists_layers h ha
    have hmove : s.state.apply (.build base layers) = t.hold (some p) := by
      rw [State.apply, hbase, hbucket, hinstall]
      rfl
    have hmove := h.move (hmove ▸ s.state.leads_apply (.build base layers))
    exact ⟨hmove.leads, hmove.buckets⟩

theorem reached_addBucket (h : s.Reached sources network) (b : Nat × Duration) :
    (s.addBucket b).2.Reached sources network := by
  rw [addBucket, TokenBucket.new]
  cases hr : Rate.check b.1 b.2 with
  | error e =>
    refine ⟨h.leads, fun i hi => ?_⟩
    rcases List.mem_append.1 hi with hi | hi
    · exact h.buckets i hi
    · cases List.mem_singleton.1 hi
  | ok r =>
    have hlead := s.state.leads_apply (.bucket r)
    refine ⟨h.leads.trans hlead, fun i hi => ?_⟩
    rcases List.mem_append.1 hi with hi | hi
    · exact lt_of_leads hlead (h.buckets i hi)
    · cases List.mem_singleton.1 hi
      change s.state.buckets.length < (s.state.buckets ++ [_]).length
      rw [List.length_append]
      exact Nat.lt_succ_self _

section Each

variable {α β : Type} {f : Scene → α → β × Scene}

/-- What every part of a list of things keeps, the whole list keeps. -/
theorem reached_each
    (hf : ∀ {s : Scene} (a : α), s.Reached sources network → (f s a).2.Reached sources network)
    (as : List α) (h : s.Reached sources network) : (s.each f as).2.Reached sources network := by
  induction as generalizing s with
  | nil => exact h
  | cons a as ih => exact ih (hf a h)

/-- Every answer was given in a scene that was reached. -/
theorem exists_reached_of_each
    (hf : ∀ {s : Scene} (a : α), s.Reached sources network → (f s a).2.Reached sources network)
    {as : List α} (h : s.Reached sources network) {k : Nat} {b : β}
    (hb : (s.each f as).1[k]? = some b) :
    ∃ t a, Reached sources network t ∧ as[k]? = some a ∧ (f t a).1 = b := by
  induction as generalizing s k with
  | nil => cases hb
  | cons a as ih =>
    cases k with
    | zero => exact ⟨s, a, h, rfl, Option.some.inj hb⟩
    | succ k => exact ih (hf a h) hb

end Each

end Scene

namespace Scenario

/-- The scene before the steps of a scenario. -/
def opening (s : Scenario) : Scene :=
  ((s.scene.each Scene.addBucket s.buckets).2.each Scene.addProvider s.setups).2

/-- The scene at the end of a scenario. -/
def last (s : Scenario) : Scene := (s.opening.each Scene.step s.steps).2

theorem reached_opening (s : Scenario) : s.opening.Reached s.sources s.network := by
  have hstart : s.scene.Reached s.sources s.network := ⟨.refl _, fun _ h => absurd h List.not_mem_nil⟩
  have hbuckets := Scene.reached_each (fun b h => Scene.reached_addBucket h b) s.buckets hstart
  exact Scene.reached_each (fun x h => Scene.reached_addProvider h x) s.setups hbuckets

/-- **Every scenario is a run.** -/
theorem reached_last (s : Scenario) : s.last.Reached s.sources s.network :=
  Scene.reached_each (fun x h => Scene.reached_step h x) s.steps s.reached_opening

/-- **What a scenario reports is what runs show**: every step in a scene that moves lead to, and the
meter and the requests at the end of one. -/
theorem run_reports (s : Scenario) :
    (∀ (k : Nat) report, s.run.steps[k]? = some report →
      ∃ scene step, Scene.Reached s.sources s.network scene ∧ s.steps[k]? = some step ∧
        (scene.step step).1 = report) ∧
    ∃ ms, s.run.readings = ((State.blank s.sources s.network).run ms).meter.readings ∧
      s.run.requests = ((State.blank s.sources s.network).run ms).requests.map Web.Url.requestText := by
  obtain ⟨ms, hms⟩ := s.reached_last.leads
  refine ⟨fun k report h => ?_, ms, hms ▸ rfl, hms ▸ rfl⟩
  exact Scene.exists_reached_of_each (fun x h => Scene.reached_step h x) s.reached_opening h

end Scenario

end SigningKeys
