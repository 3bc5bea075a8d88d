import SigningKeys.Proofs.Abort.Calls
import SigningKeys.Proofs.Run.Scenes

/-!
# What users do to states that are alike

Acts keep states alike, each of them with all the turns that it causes. So does the giving up of a
call that waits for a fetch when it happens in one of the states only.

* `Act`, `State.act`: what the user of a run does;
* `Alike.without`, **`Alike.cut`**: a call is given up in both states, or in one;
* `Alike.release`, `Alike.startWith`, `Alike.build`: gates, calls, and layers;
* **`Alike.act`**: every act keeps states alike;
* `Scene.exists_act`: the steps of scenarios are acts.
-/

namespace SigningKeys

/-- **What the user of a run does**: buckets and providers are made, called and let go, key sets are
fetched, calls are given up, gates open and time passes. -/
inductive Act where
  | bucket (r : Rate)
  | build (base : Provider) (layers : Layers)
  | get (provider : Nat) (kid : String) (delay : Duration)
  | advance (d : Duration)
  | release (source n : Nat)
  | abort (id : Nat)
  | drop (provider : Nat)
  | callBucket (bucket : Nat) (call : BucketCall)
  | fetchAll (r : Remote)

namespace State

/-- **An act**, with all turns that it causes. -/
def act (s : State) : Act → State
  | .bucket r => s.apply (.bucket r)
  | .build base layers => s.apply (.build base layers)
  | .get p kid delay =>
    match s.provider? p with
    | some q => s.startWith q kid delay
    | none => s
  | .advance d => s.advance d
  | .release i n => s.release i n
  | .abort id => (s.abort? id).getD s
  | .drop p => s.drop p
  | .callBucket b c => s.callBucket b c
  | .fetchAll r => (s.fetchAll r).2

variable {s s' t t' : State} {behind behind' : List Provider} {hand : List Task} {X : List Nat}
  {c id : Nat} {x : Task} {kid : String} {inner : Provider}

/-- An act is made of moves. -/
theorem leads_act (s : State) (a : Act) : s.Leads (s.act a) := by
  cases a with
  | bucket r => exact s.leads_apply (.bucket r)
  | build base layers => exact s.leads_apply (.build base layers)
  | get p kid delay =>
    rw [act]
    split
    · rename_i q hq
      exact leads_startWith hq kid delay
    · exact .refl s
  | advance d => exact s.leads_apply (.advance d)
  | release i n => exact s.leads_release i n
  | abort id =>
    rw [act]
    cases h : s.abort? id with
    | none => exact .refl s
    | some t => exact leads_abort h
  | drop p => exact s.leads_apply (.drop p)
  | callBucket b c => exact s.leads_apply (.callBucket b c)
  | fetchAll r => exact s.leads_fetchAll r

theorem Sound.act (hs : s.Sound behind []) (a : Act) : ∃ behind', (s.act a).Sound behind' [] := by
  obtain ⟨ms, hms⟩ := s.leads_act a
  obtain ⟨behind', -, h⟩ := hs.run ms
  exact ⟨behind', hms ▸ h⟩

/-- After an act no task is ready. -/
theorem ready_act (hrest : s.ready = []) (a : Act) : (s.act a).ready = [] := by
  cases a with
  | bucket r | advance d | drop p => exact hrest
  | build base layers =>
    rw [act, apply]
    split
    · obtain ⟨bs, cs, heq, -⟩ := s.install_eq base layers
      rw [heq]
      exact hrest
    · exact hrest
  | get p kid delay =>
    rw [act]
    split
    · exact ready_settle _
    · exact hrest
  | release i n => exact ready_settle _
  | abort id =>
    rw [act, abort?]
    cases s.cancel? id with
    | none => exact hrest
    | some t => exact ready_settle t
  | callBucket b c =>
    rw [act, callBucket]
    split <;> exact hrest
  | fetchAll r => exact (s.quiet_receive ⟨r, s.now⟩).ready.trans hrest

/-! ## Calls that are given up -/

/-- The call with a number is one task. -/
theorem Sound.eq_of_caller {y : Task} (hs : s.Sound behind hand) (hx : x ∈ s.crew hand)
    (hy : y ∈ s.crew hand) (hxr : x.role = .caller id) (hyr : y.role = .caller id) : x = y := by
  by_contra hne
  have hnodup : [x, y].Nodup := by simpa using hne
  have hsub : [x, y].Subperm (s.crew hand) := List.subperm_of_subset hnodup fun z hz => by
    rcases List.mem_pair.1 hz with rfl | rfl
    · exact hx
    · exact hy
  have htwo := hsub.countP_le (·.role == .caller id)
  have hone := hs.numbered id
  have hboth : [x, y].countP (·.role == .caller id) = 2 := by simp [hxr, hyr]
  unfold calls at hone
  split at hone <;> omega

/-- The parked tasks without those of a call. -/
def parkedWithout (s : State) (id : Nat) : List (Task × Spot) :=
  s.parked.filter fun e => !(e.1.role == .caller id)

/-- **What it is to give up a call.** -/
theorem giveUp_eq (hs : s.Sound behind []) (hrest : s.ready = []) (id : Nat) :
    ∃ cs, cs.map Cache.core = s.caches.map Cache.core ∧
      s.act (.abort id) = { s with parked := s.parkedWithout id, caches := cs } := by
  rw [act, abort?, cancel?]
  cases h : s.parkedCall? id with
  | none =>
    refine ⟨s.caches, rfl, ?_⟩
    have hnone : s.parkedWithout id = s.parked :=
      List.filter_eq_self.2 fun e he => by simpa using List.find?_eq_none.1 h e he
    rw [hnone]
    rfl
  | some e =>
    have hrole := List.find?_some h
    have hparked : s.parked.erase e = s.parkedWithout id := by
      have hnodup : (s.parked.map (·.1)).Nodup :=
        (List.nodup_append.1 (List.nodup_append.1 hs.distinct).2.1).2.1
      have he := List.mem_of_find?_eq_some h
      rw [(List.Nodup.of_map _ hnodup).erase_eq_filter]
      refine List.filter_congr fun f hf => ?_
      rw [bne, Bool.not_inj_iff, Bool.eq_iff_iff, beq_iff_eq]
      refine ⟨fun hfe => hfe ▸ hrole, fun hfr => ?_⟩
      exact List.inj_on_of_nodup_map hnodup hf he
        (hs.eq_of_caller (mem_crew_of_parked hf []) (mem_crew_of_parked he []) (eq_of_beq hfr)
          (eq_of_beq hrole))
    obtain ⟨cs, hcs, hleave⟩ := leave_eq { s with parked := s.parkedWithout id } e.1.kid e.2
    refine ⟨cs, hcs, ?_⟩
    rw [← hparked] at hleave ⊢
    exact (congrArg settle hleave).trans (settle_of_rest hrest)

theorem awaits_without (cs : List Cache) (w : Task) (c : Nat) :
    { s with parked := s.parkedWithout id, caches := cs }.awaits w c ↔
      s.awaits w c ∧ w.role ≠ .caller id := by
  unfold State.awaits parkedWithout
  simp only [List.mem_filter, Bool.not_eq_true', beq_eq_false_iff_ne]
  exact exists_and_right

theorem reaches_without {cs : List Cache}
    (h : { s with parked := s.parkedWithout id, caches := cs }.reaches hand c) : s.reaches hand c :=
  h.mono (fun _ hq => hq) fun _ hy =>
    (((List.filter_sublist.map _).append_left _).append_left _).subset hy

namespace Alike

/-- To give up a call changes caches in the places of waiting calls only. -/
theorem caches_without {cs' cs : List Cache} (h : Alike X hand s' s)
    (hcs' : cs'.map Cache.core = s'.caches.map Cache.core)
    (hcs : cs.map Cache.core = s.caches.map Cache.core) (hc : s'.reaches hand c) {d' : Cache}
    (hd' : cs'[c]? = some d') : ∃ d, cs[c]? = some d ∧ d'.Same d := by
  obtain ⟨e', he', hcore'⟩ := exists_core hcs' hd'
  obtain ⟨e, he, hsame⟩ := h.caches c hc e' he'
  obtain ⟨d, hd, hcore⟩ := exists_core hcs.symm he
  exact ⟨d, hd, (Cache.Same.of_core hcore').trans (hsame.trans (Cache.Same.of_core hcore))⟩

theorem limits_of_core {cs ds : List Cache} (h : cs.map Cache.core = ds.map Cache.core) :
    cs.map Cache.limits = ds.map Cache.limits := by
  have hmap := congrArg (List.map Prod.fst) h
  rw [List.map_map, List.map_map] at hmap
  exact hmap

/-- A call is given up in both states. -/
theorem without {cs' cs : List Cache} (h : Alike X hand s' s)
    (hcs' : cs'.map Cache.core = s'.caches.map Cache.core)
    (hcs : cs.map Cache.core = s.caches.map Cache.core) :
    Alike X hand { s' with parked := s'.parkedWithout id, caches := cs' }
      { s with parked := s.parkedWithout id, caches := cs } where
  ground := h.ground
  ready := h.ready
  limits := (limits_of_core hcs').trans (h.limits.trans (limits_of_core hcs).symm)
  caches _ hc _ hd' := h.caches_without hcs' hcs (reaches_without hc) hd'
  gated := by
    have hgated : ∀ (u : State) (cs : List Cache),
        { u with parked := u.parkedWithout id, caches := cs }.gated =
          u.gated.filter fun e => !(e.1.role == .caller id) := fun u cs => List.filter_comm _ _ _
    rw [hgated, hgated, h.gated]
  awaits w c := by rw [awaits_without, awaits_without, h.awaits, and_right_comm]
  ended := h.ended
  gauge hall := by
    have hlen : cs.length = s.caches.length := by simpa using congrArg List.length hcs
    exact h.gauge fun c hc => hall c (hlen.symm ▸ hc)
  past := h.past

/-- **A call is given up in one of the states only.** It waited for a fetch. -/
theorem cut {cs' : List Cache} (h : Alike X hand s' s)
    (hcs' : cs'.map Cache.core = s'.caches.map Cache.core)
    (hgate : ∀ e ∈ s'.gated, e.1.role ≠ .caller id) (hid : id < s.started) :
    Alike (id :: X) hand { s' with parked := s'.parkedWithout id, caches := cs' } s where
  ground := h.ground
  ready := h.ready
  limits := (limits_of_core hcs').trans h.limits
  caches _ hc _ hd' := h.caches_without hcs' rfl (reaches_without hc) hd'
  gated := by
    refine Eq.trans ?_ h.gated
    refine (List.filter_comm _ _ _).trans (List.filter_eq_self.2 fun e he => ?_)
    simpa using hgate e he
  awaits w c := by
    rw [awaits_without, h.awaits, and_assoc]
    refine and_congr_right fun _ => ?_
    unfold Task.spared
    rw [List.forall_mem_cons]
    exact and_comm
  ended id' hid' := h.ended id' fun hmem => hid' (List.mem_cons_of_mem _ hmem)
  gauge := h.gauge
  past := List.forall_mem_cons.2 ⟨hid, h.past⟩

/-! ## Gates -/

/-- A task passes the gate at which it waits. -/
theorem letThrough (h : Alike X [] s' s) {y : Task} {i n : Nat} (hy : (y, .gate i n) ∈ s.parked) :
    Alike X [] ({ s' with parked := s'.parked.erase (y, .gate i n) }.enqueue y (.admitted i n))
      ({ s with parked := s.parked.erase (y, .gate i n) }.enqueue y (.admitted i n)) where
  ground := h.ground
  ready := congrArg (· ++ [(y, Stage.admitted i n)]) h.ready
  limits := h.limits
  caches c hc := by
    have hy' : (y, Spot.gate i n) ∈ s'.gated := h.gated ▸ mem_gated.2 ⟨hy, rfl⟩
    have hperm := (perm_enqueue { s' with parked := s'.parked.erase (y, .gate i n) } y
      (.admitted i n)).trans (perm_of_mem_parked (mem_gated.1 hy').1).symm
    exact h.caches c (hc.mono (fun _ hq => hq) fun z hz => hperm.mem_iff.1 hz)
  gated := by
    have hgated : ∀ u : State,
        ({ u with parked := u.parked.erase (y, .gate i n) }.enqueue y (.admitted i n)).gated =
          u.gated.erase (y, .gate i n) := fun u => List.erase_filter.symm
    rw [hgated, hgated, h.gated]
  awaits w c := by
    have hawaits : ∀ u : State,
        ({ u with parked := u.parked.erase (y, .gate i n) }.enqueue y (.admitted i n)).awaits w c ↔
          u.awaits w c := by
      intro u
      refine exists_congr fun place => List.mem_erase_of_ne ?_
      intro he
      cases congrArg Prod.snd he
    rw [hawaits, hawaits]
    exact h.awaits w c
  ended := h.ended
  gauge := h.gauge
  past := h.past

theorem find?_gated (s : State) (i : Nat) :
    (s.parked.find? fun e => (e.2.callAt? i).isSome) =
      s.gated.find? fun e => (e.2.callAt? i).isSome := by
  rw [State.gated, List.find?_filter]
  refine congrArg (fun p => List.find? p s.parked) (funext fun e => ?_)
  cases e.2 with
  | gate j n => simp [Spot.isGate]
  | flight d place => rfl

theorem openGate (h : Alike X [] s' s) (i : Nat) : Alike X [] (s'.openGate i) (s.openGate i) := by
  have hfind : (s'.parked.find? fun e => (e.2.callAt? i).isSome) =
      s.parked.find? fun e => (e.2.callAt? i).isSome := by
    rw [find?_gated, find?_gated, h.gated]
  unfold State.openGate
  rw [hfind]
  cases hp : s.parked.find? fun e => (e.2.callAt? i).isSome with
  | none =>
    dsimp only
    rw [h.sources]
    cases s.sources[i]? with
    | none => exact h
    | some source => exact h.setSource _ _
  | some e =>
    obtain ⟨y, spot⟩ := e
    cases spot with
    | flight c place =>
      dsimp only
      rw [h.sources]
      cases s.sources[i]? with
      | none => exact h
      | some source => exact h.setSource _ _
    | gate j n =>
      have hmem := List.mem_of_find?_eq_some hp
      have hat := List.find?_some hp
      have hji : j = i := by
        by_contra hne
        rw [Spot.callAt?, if_neg hne] at hat
        cases hat
      exact hji ▸ h.letThrough (hji ▸ hmem)

/-- Gates that open make tasks ready that only have to end. -/
theorem openGates (h : Alike X [] s' s) (hrest : s.ready = []) (i n : Nat) :
    Alike X [] (n.repeat (·.openGate i) s') (n.repeat (·.openGate i) s) ∧
      ∀ e ∈ (n.repeat (·.openGate i) s).ready, ∃ j k, e.2 = .admitted j k := by
  induction n with
  | zero =>
    refine ⟨h, fun e he => ?_⟩
    rw [Nat.repeat, hrest] at he
    exact absurd he List.not_mem_nil
  | succ n ih =>
    refine ⟨ih.1.openGate i, fun e he => ?_⟩
    rw [Nat.repeat] at he
    obtain ⟨y, j, k, rest, -, -, heq⟩ | ⟨source, -, heq⟩ | heq :=
      openGate_cases (n.repeat (·.openGate i) s) i
    · rw [heq] at he
      rcases List.mem_append.1 he with he | he
      · exact ih.2 e he
      · rw [List.mem_singleton.1 he]
        exact ⟨j, k, rfl⟩
    · rw [heq] at he
      exact ih.2 e he
    · rw [heq] at he
      exact ih.2 e he

theorem release (h : Alike X [] s' s) (hs' : s'.Sound behind' []) (hs : s.Sound behind [])
    (hrest : s.ready = []) (i n : Nat) : Alike X [] (s'.release i n) (s.release i n) := by
  obtain ⟨hopen, hready⟩ := h.openGates hrest i n
  obtain ⟨ms', hms'⟩ := s'.leads_openGates i n
  obtain ⟨ms, hms⟩ := s.leads_openGates i n
  obtain ⟨behind₁', -, hs₁'⟩ := hs'.run ms'
  obtain ⟨behind₁, -, hs₁⟩ := hs.run ms
  rw [hms'] at hs₁'
  rw [hms] at hs₁
  refine hopen.settle_ending hs₁' hs₁ fun e he => ?_
  obtain ⟨j, k, hstage⟩ := hready e he
  -- the source of an open gate is there, because nothing dangles
  have hdo := hs₁.wired.ready e he
  have hmem : e.1 ∈ (n.repeat (·.openGate i) s).tasks :=
    List.mem_append_left _ (List.mem_map_of_mem he)
  have hfits := (hs₁.wired.provider e.1.provider (.inr ⟨e.1, hmem, rfl⟩)).core
  rw [hstage] at hdo ⊢
  rw [show e.1.provider.core = .source j from hdo] at hfits
  rw [Stage.end?, List.getElem?_eq_getElem hfits]
  rfl

/-! ## Calls -/

theorem startWith (h : Alike X [] s' s) (hs' : s'.Sound behind' []) (hs : s.Sound behind [])
    (hrest : s.ready = []) {p : Nat} {q : Provider} (hp : s.provider? p = some q) (kid : String)
    (delay : Duration) : Alike X [] (s'.startWith q kid delay) (s.startWith q kid delay) := by
  have hp' : s'.provider? p = some q := by rw [provider?, h.held]; exact hp
  have hheld : some q ∈ s'.held := List.mem_of_getElem? (Option.join_eq_some_iff.1 hp')
  have hspawn : ∀ {u : State}, u.provider? p = some q →
      u.run [.delay delay, .get p kid] = { u with delay }.spawn q kid := by
    intro u hu
    have hu' : { u with delay }.provider? p = some q := hu
    rw [run_cons, run_cons, run_nil, apply, apply, hu']
  obtain ⟨behind₁', -, hs₁'⟩ := hs'.run [.delay delay, .get p kid]
  obtain ⟨behind₁, -, hs₁⟩ := hs.run [.delay delay, .get p kid]
  rw [hspawn hp'] at hs₁'
  rw [hspawn hp] at hs₁
  have hbegun : Alike X [] { s' with delay, started := s.started + 1 }
      { s with delay, started := s.started + 1 } :=
    h.of_company (congrArg (fun g : State => { g with delay, started := s.started + 1 }) h.ground)
      rfl rfl (Nat.le_succ _)
  have hcalling : Alike X [] ({ s' with delay }.spawn q kid) ({ s with delay }.spawn q kid) := by
    unfold spawn
    dsimp only
    rw [h.started]
    exact hbegun.enqueue ⟨.caller s.started, kid, q⟩ .calling fun c hc => ⟨q, .inl hheld, hc⟩
  have hready : ({ s with delay }.spawn q kid).ready =
      [(⟨.caller s.started, kid, q⟩, .calling)] := by
    show s.ready ++ _ = _
    rw [hrest]
    rfl
  have hnew : Task.spared X ⟨.caller s.started, kid, q⟩ := by
    rintro id hid ⟨⟩
    exact Nat.lt_irrefl _ (h.past _ hid)
  have hsettled := hcalling.settle_calling hs₁' hs₁ hnew hready
  exact hsettled.of_company (congrArg (·.catchUp) hsettled.ground) rfl rfl (Nat.le_refl _)

/-! ## Layers -/

/-- Both states get the same new buckets and caches, and hold one more provider, which uses no
others than these and those of what is held. -/
theorem grow (h : Alike X [] s' s) (bs : List TokenBucket) (cs : List Cache) {p : Provider}
    (hp : ∀ c, p.uses c = true →
      (∃ q, some q ∈ s.held ∧ q.uses c = true) ∨ s.caches.length ≤ c) :
    Alike X []
      ({ s' with buckets := s'.buckets ++ bs, caches := s'.caches ++ cs }.hold (some p))
      ({ s with buckets := s.buckets ++ bs, caches := s.caches ++ cs }.hold (some p)) where
  ground := congrArg
    (fun g : State => { g with buckets := g.buckets ++ bs, held := g.held ++ [some p] }) h.ground
  ready := h.ready
  limits := by
    show (s'.caches ++ cs).map _ = (s.caches ++ cs).map _
    rw [List.map_append, List.map_append, h.limits]
  caches := by
    intro c hc d' hd'
    have hd : (s'.caches ++ cs)[c]? = some d' := hd'
    show ∃ d, (s.caches ++ cs)[c]? = some d ∧ d'.Same d
    rcases Nat.lt_or_ge c s'.caches.length with hlt | hge
    · have hreach : s'.reaches [] c := by
        obtain ⟨q, hq | hq, hu⟩ := hc
        · rcases List.mem_append.1 hq with hq | hq
          · exact ⟨q, .inl hq, hu⟩
          · rw [Option.some.inj (List.mem_singleton.1 hq)] at hu
            rcases hp c hu with ⟨r, hr, hru⟩ | hle
            · exact ⟨r, .inl (h.held ▸ hr), hru⟩
            · exact absurd (h.length ▸ hlt) (Nat.not_lt.2 hle)
        · exact ⟨q, .inr hq, hu⟩
      rw [List.getElem?_append_left hlt] at hd
      rw [List.getElem?_append_left (h.length ▸ hlt)]
      exact h.caches c hreach d' hd
    · rw [List.getElem?_append_right hge, h.length] at hd
      rw [List.getElem?_append_right (h.length ▸ hge)]
      exact ⟨d', hd, .refl d'⟩
  gated := h.gated
  awaits := h.awaits
  ended := h.ended
  gauge := by
    intro hall
    have hs : s.AllHeld := by
      intro c hc
      have hlt : c < (s.caches ++ cs).length :=
        Nat.lt_of_lt_of_le hc (by rw [List.length_append]; exact Nat.le_add_right _ _)
      obtain ⟨q, hq, hu⟩ := hall c hlt
      rcases List.mem_append.1 hq with hq | hq
      · exact ⟨q, hq, hu⟩
      · rw [Option.some.inj (List.mem_singleton.1 hq)] at hu
        exact (hp c hu).resolve_right (Nat.not_le.2 hc)
    refine ⟨(h.gauge hs).1, fun hu => (h.gauge hs).2 fun q r hq hr => ?_⟩
    exact hu q r (List.mem_append_left _ hq) (List.mem_append_left _ hr)
  past := h.past

theorem build (h : Alike X [] s' s) (base : Provider) (layers : Layers) :
    Alike X [] (s'.apply (.build base layers)) (s.apply (.build base layers)) := by
  have hoffers : s'.offers base = s.offers base ∧
      s'.offersBucket layers.bucket = s.offersBucket layers.bucket := by
    unfold offers offersBucket
    rw [h.sources, h.held, h.buckets]
    exact ⟨rfl, rfl⟩
  have hinstall : ∃ p bs cs,
      s'.install base layers =
        (p, { s' with buckets := s'.buckets ++ bs, caches := s'.caches ++ cs }) ∧
      s.install base layers =
        (p, { s with buckets := s.buckets ++ bs, caches := s.caches ++ cs }) := by
    obtain ⟨q, bs, hq', hq⟩ : ∃ q bs,
        s'.installBucket base layers.bucket = (q, { s' with buckets := s'.buckets ++ bs }) ∧
        s.installBucket base layers.bucket = (q, { s with buckets := s.buckets ++ bs }) := by
      cases layers.bucket with
      | none => exact ⟨base, [], by rw [List.append_nil]; rfl, by rw [List.append_nil]; rfl⟩
      | some layer =>
        cases layer with
        | own r =>
          refine ⟨.limited base s.buckets.length, [.full r s.now], ?_, rfl⟩
          rw [installBucket, addBucket, h.buckets, h.now]
        | shared b =>
          exact ⟨.limited base b, [], by rw [List.append_nil]; rfl, by rw [List.append_nil]; rfl⟩
    unfold install addCache
    rw [hq', hq]
    dsimp only
    cases layers.cache with
    | none => exact ⟨q, bs, [], by rw [List.append_nil], by rw [List.append_nil]⟩
    | some limits =>
      rw [h.length]
      exact ⟨_, bs, _, rfl, rfl⟩
  rw [State.apply, State.apply, hoffers.1, hoffers.2]
  cases hb : s.offers base && s.offersBucket layers.bucket with
  | false => exact h
  | true =>
    obtain ⟨p, bs, cs, heq', heq⟩ := hinstall
    obtain ⟨_, _, -, -, -, huses⟩ := s.install_eq base layers
    rw [if_pos rfl, if_pos rfl, heq', heq]
    rw [heq] at huses
    refine h.grow bs cs fun c hc => (huses c hc).imp_left fun hu => ?_
    rw [Bool.and_eq_true] at hb
    cases base with
    | source i | remote r => cases hu
    | limited inner b | cached inner c => exact ⟨_, by simpa [offers] using hb.1, hu⟩

/-! ## Providers that are let go -/

theorem drop (h : Alike X [] s' s) (hs : s.Sound behind []) (p : Nat) :
    Alike X [] (s'.drop p) (s.drop p) where
  ground := congrArg (·.drop p) h.ground
  ready := h.ready
  limits := h.limits
  caches c hc := h.caches c (hc.mono
    (fun _ hq => (List.mem_or_eq_of_mem_set hq).resolve_right (Option.some_ne_none _)) fun _ => id)
  gated := h.gated
  awaits := h.awaits
  ended := h.ended
  gauge := by
    intro hall
    have hs' : s.AllHeld := by
      intro c hc
      obtain ⟨q, hq, hu⟩ := hall c hc
      exact ⟨q, (List.mem_or_eq_of_mem_set hq).resolve_right (Option.some_ne_none _), hu⟩
    refine ⟨(h.gauge hs').1, fun hu => (h.gauge hs').2 ?_⟩
    obtain ⟨behind', hpre, hw⟩ := hs.wired.part (.dropped (p := p))
    have hsame : behind = behind' := hpre.eq_of_length (hs.wired.caches.trans hw.caches.symm)
    exact hs.wired.unforked (hsame ▸ hw.view hall hu)
  past := h.past

/-! ## All acts -/

theorem callBucket (h : Alike X [] s' s) (b : Nat) (call : BucketCall) :
    Alike X [] (s'.callBucket b call) (s.callBucket b call) := by
  unfold State.callBucket
  rw [h.buckets, h.now]
  split
  · exact h.setBucket _ _
  · exact h

/-- **Every act keeps states alike.** -/
theorem act (h : Alike X [] s' s) (hs' : s'.Sound behind' []) (hs : s.Sound behind [])
    (hrest : s.ready = []) (a : Act) : Alike X [] (s'.act a) (s.act a) := by
  cases a with
  | bucket r =>
    exact h.of_company (congrArg (fun g : State => g.apply (.bucket r)) h.ground) rfl rfl
      (Nat.le_refl _)
  | build base layers => exact h.build base layers
  | get p kid delay =>
    rw [State.act, State.act]
    have hp : s'.provider? p = s.provider? p := by rw [provider?, h.held, provider?]
    rw [hp]
    split
    · rename_i q hq
      exact h.startWith hs' hs hrest hq kid delay
    · exact h
  | advance d => exact h.of_company (congrArg (·.advance d) h.ground) rfl rfl (Nat.le_refl _)
  | release i n => exact h.release hs' hs hrest i n
  | abort id =>
    obtain ⟨cs', hcs', heq'⟩ := giveUp_eq hs' (h.ready.trans hrest) id
    obtain ⟨cs, hcs, heq⟩ := giveUp_eq hs hrest id
    rw [heq', heq]
    exact h.without hcs' hcs
  | drop p => exact h.drop hs p
  | callBucket b call => exact h.callBucket b call
  | fetchAll r =>
    rw [State.act, State.act, fetchAll, fetchAll, h.now]
    exact (h.receive ⟨r, s.now⟩).2

end Alike

end State

/-- **Every step of a scenario is an act**, or leaves the state as it is. -/
theorem Scene.exists_act (s : Scene) (step : Step) :
    (s.perform step).2.state = s.state ∨ ∃ a, (s.perform step).2.state = s.state.act a := by
  cases step with
  | get p kid delay =>
    rw [perform]
    split
    · rename_i q hq
      refine .inr ⟨.get p kid delay, ?_⟩
      rw [get, State.act, hq]
      split <;> rfl
    · exact .inl rfl
  | advance d => exact .inr ⟨.advance d, rfl⟩
  | release i n => exact .inr ⟨.release i n, rfl⟩
  | abort id =>
    rw [perform]
    split
    · rename_i t ht
      refine .inr ⟨.abort id, ?_⟩
      rw [State.act, ht]
      rfl
    · exact .inl rfl
  | drop p =>
    rw [perform]
    split
    · exact .inr ⟨.drop p, rfl⟩
    · exact .inl rfl
  | fetchAll p =>
    rw [perform, fetchAll]
    split
    · rename_i r _
      exact .inr ⟨.fetchAll r, rfl⟩
    · exact .inl rfl
  | bucket b call =>
    rw [perform, callBucket]
    split
    · exact .inl rfl
    · rename_i i _
      split
      · exact .inl rfl
      · rename_i bucket hbucket
        refine .inr ⟨.callBucket i call, ?_⟩
        rw [State.act, State.callBucket, hbucket]
        rfl
  | info p | debug p | callsFor i kid | hasCalls i n =>
    rw [perform]
    split
    · exact .inl rfl
    · exact .inl rfl
  | metrics => exact .inl rfl

end SigningKeys
