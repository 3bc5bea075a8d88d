import SigningKeys.Proofs.Apart.Acts
import SigningKeys.Proofs.Pipeline.Changes
import SigningKeys.Proofs.Run.Scenes

/-!
# Two parties in a scenario

The sources, buckets and providers of a scenario are split into two groups that share nothing: every
provider wraps, and draws on, things of its own group only. Then the state at the first step is
split into two sides, with the caches and buckets that were made for the providers.

* `Parties`, `Setup.Within`, `Scenario.Apart`: two groups that share nothing;
* `Split.grow`: the split after more things were made;
* `Scene.Follows`: a split of a state that goes with the groups;
* `Scene.exists_base`: what a provider wraps, and which bucket it draws on;
* **`Scenario.exists_split`**: the state at the first step is split into two sides.
-/

namespace SigningKeys

/-- **Two groups** of the sources, buckets and providers of a scenario; the first one is `true`. -/
structure Parties where
  source : Nat → Bool
  bucket : Nat → Bool
  provider : Nat → Bool

/-- The group of what a provider wraps. -/
def Parties.inner (P : Parties) : Inner → Bool
  | .source i => P.source i
  | .provider k => P.provider k

namespace Setup

/-- The source or provider that a provider wraps, if it is not a key set on the network. -/
def inner? : Setup → Option Inner
  | .cached inner _ | .limited inner _ => some inner
  | .remote _ _ => none
  | .pipeline _ _ inner => inner

/-- The bucket of the scenario that a provider draws on. A pipeline draws on the one that it was
told last to share, unless it was told after that to do without or to have one of its own. -/
def bucket? : Setup → Option Nat
  | .limited _ bucket => some bucket
  | .pipeline _ changes _ =>
    match Change.last Change.wantsLimiter? true changes,
      Change.last Change.bucket? (.own Rate.defaultCapacity Rate.defaultInterval) changes with
    | true, .shared bucket => some bucket
    | _, _ => none
  | .cached _ _ | .remote _ _ => none

/-- **Whether a provider is of one group only**, with all that it wraps and draws on. There is no
HTTP: if it wraps a key set on the network, no request reaches a server. -/
structure Within (P : Parties) (net : Network) (b : Bool) (setup : Setup) : Prop where
  wraps : ∀ inner, setup.inner? = some inner → P.inner inner = b
  draws : ∀ bucket, setup.bucket? = some bucket → P.bucket bucket = b
  offline : setup.inner? = none → net = .unreachable

end Setup

/-- **The groups share nothing**: whatever the providers of a group wrap and draw on is of their own
group. Providers that could not be put together do not matter. -/
def Scenario.Apart (P : Parties) (s : Scenario) : Prop :=
  ∀ k setup, s.setups[k]? = some setup → (s.opening.state.provider? k).isSome = true →
    setup.Within P s.network (P.provider k)

/-- Nobody has called anything yet. -/
structure State.Idle (s : State) : Prop where
  ready : s.ready = []
  parked : s.parked = []
  started : s.started = 0
  ended : s.ended = []
  delay : s.delay = Duration.zero

/-- A split of a state goes with the groups of a scenario. -/
structure Scene.Follows (P : Parties) (net : Network) (π : Split) (s : Scene) : Prop where
  source : π.source = P.source
  provider : π.provider = P.provider
  offline : net = .unreachable → π.offline = true
  bucket : ∀ b i, s.bucket? b = .ok i → π.bucket i = P.bucket b

theorem join_getElem?_concat {α : Type} {l : List (Option α)} {o : Option α} {k : Nat} {a : α}
    (h : ((l ++ [o])[k]?).join = some a) : (l[k]?).join = some a ∨ k = l.length ∧ o = some a := by
  rw [List.getElem?_append] at h
  split at h
  · exact .inl h
  · rename_i hk
    rw [List.getElem?_singleton] at h
    split at h
    · exact .inr ⟨by omega, h⟩
    · cases h

/-! ## New buckets and caches -/

/-- The split in which all buckets and caches are on one side that are not there yet. -/
def Split.grow (π : Split) (s : State) (b : Bool) : Split :=
  { π with
    bucket := fun i => if i < s.buckets.length then π.bucket i else b
    cache := fun c => if c < s.caches.length then π.cache c else b }

variable {π : Split} {b b' : Bool} {p base : Provider} {behind : List Provider}

theorem Provider.Fits.on_grow {n : Nat} {s : State} (h : p.Fits n s.buckets.length behind)
    (hlen : behind.length = s.caches.length) : p.on (π.grow s b) b' = p.on π b' := by
  induction p with
  | source i | remote r => rfl
  | limited inner k ih =>
    have hk : (π.grow s b).bucket k = π.bucket k := if_pos h.1
    rw [Provider.on, Provider.on, hk, ih h.2]
  | cached inner c ih =>
    have hlt : c < s.caches.length := hlen ▸ (List.getElem?_eq_some_iff.1 h.1).1
    have hc : (π.grow s b).cache c = π.cache c := if_pos hlt
    rw [Provider.on, Provider.on, hc, ih h.2]

namespace State

variable {s : State}

/-- What layers add is on the side of what they are put in front of. -/
theorem on_install (layers : Layers) (hbase : base.on (π.grow s b) b = true)
    (hshared : ∀ i, layers.bucket = some (.shared i) → (π.grow s b).bucket i = b) :
    (s.install base layers).1.on (π.grow s b) b = true := by
  have hbucket : (s.installBucket base layers.bucket).1.on (π.grow s b) b = true := by
    cases hl : layers.bucket with
    | none => exact hbase
    | some layer =>
      cases layer with
      | own r =>
        have hnew : (π.grow s b).bucket s.buckets.length = b := if_neg (Nat.lt_irrefl _)
        exact Bool.and_eq_true_iff.2 ⟨beq_iff_eq.2 hnew, hbase⟩
      | shared i => exact Bool.and_eq_true_iff.2 ⟨beq_iff_eq.2 (hshared i hl), hbase⟩
  have hcaches : (s.installBucket base layers.bucket).2.caches = s.caches := by
    cases layers.bucket with
    | none => rfl
    | some layer => cases layer <;> rfl
  rw [install]
  dsimp only
  cases layers.cache with
  | none => exact hbucket
  | some limits =>
    have hnew : (π.grow s b).cache s.caches.length = b := if_neg (Nat.lt_irrefl _)
    dsimp only [addCache]
    rw [hcaches]
    exact Bool.and_eq_true_iff.2 ⟨beq_iff_eq.2 hnew, hbucket⟩

/-- While nobody calls anything, only what is held has to be on one side. -/
theorem Idle.parted (h : s.Idle) (hoffline : π.offline = true → s.network = .unreachable)
    (hheld : ∀ k p, s.provider? k = some p → p.on π (π.provider k) = true) : s.Parted π where
  offline := hoffline
  held := hheld
  ready e he := by
    rw [h.ready] at he
    exact absurd he List.not_mem_nil
  parked e he := by
    rw [h.parked] at he
    exact absurd he List.not_mem_nil

/-- Before anybody calls anything, each side has the same by itself. -/
theorem Idle.twin (h : s.Idle) (hs : s.Parted π) (hcalls : π.calls = []) : Twin π s s where
  now := rfl
  delay' := h.delay
  delay := h.delay
  offline' := hs.offline
  offline := hs.offline
  sources _ _ := rfl
  buckets _ _ := rfl
  caches _ _ := rfl
  held _ _ := rfl
  housed := hs.held
  ready := by rw [h.ready, List.filterMap_nil]
  parked := by rw [h.parked, List.filterMap_nil]
  ended := by rw [h.ended, List.filterMap_nil]
  started := by rw [h.started, hcalls, List.length_nil]
  past id hid := by
    rw [hcalls] at hid
    exact absurd hid List.not_mem_nil
  nodup := hcalls ▸ List.nodup_nil

/-- Layers are put in front of a provider, and nobody calls anything. -/
theorem Idle.install (h : s.Idle) (base : Provider) (layers : Layers) :
    (s.install base layers).2.Idle := by
  obtain ⟨bs, cs, heq, -⟩ := s.install_eq base layers
  rw [heq]
  exact { h with }

end State

namespace Scene

variable {P : Parties} {s : Scene} {sources : List Source} {network : Network} {setup : Setup}
  {inner : Inner} {t : State}

/-! ## What providers are put together from -/

/-- What changes say last of the limiter and of its bucket, when buckets are looked up. -/
theorem last_of_change {changes cs : List Change}
    (h : List.Forall₂ (fun c c' => s.change c = .ok c') changes cs) (limiter : Bool)
    (bucket bucket' : BucketChoice)
    (hbucket : ∀ i, bucket' = .shared i → ∃ k, bucket = .shared k ∧ s.bucket? k = .ok i) :
    Change.last Change.wantsLimiter? limiter cs = Change.last Change.wantsLimiter? limiter changes ∧
      ∀ i, Change.last Change.bucket? bucket' cs = .shared i →
        ∃ k, Change.last Change.bucket? bucket changes = .shared k ∧ s.bucket? k = .ok i := by
  induction h generalizing limiter bucket bucket' with
  | nil => exact ⟨rfl, hbucket⟩
  | @cons c c' changes cs hc _ ih =>
    simp only [Change.last_cons]
    cases c with
    | share k =>
      obtain ⟨i, hi, rfl⟩ := map_eq_ok hc
      refine ih true _ _ fun j hj => ⟨k, rfl, ?_⟩
      cases hj
      exact hi
    | limit capacity interval =>
      cases hc
      exact ih true _ _ fun j hj => nomatch hj
    | cached enabled | cache capacity ttl | limited enabled | timeouts times =>
      cases hc
      exact ih _ _ _ hbucket

/-- A pipeline draws on the bucket that its limiter shares. -/
theorem exists_bucket {site : Site} {changes cs : List Change} {wrapped : Option Inner}
    {address : Web.Address} {layers : Layers} (hcs : changes.mapM s.change = .ok cs)
    (hlayers : (Blueprint.changes { address } cs).layers = .ok layers) {i : Nat}
    (hi : layers.bucket = some (.shared i)) :
    ∃ k, (Setup.pipeline site changes wrapped).bucket? = some k ∧ s.bucket? k = .ok i := by
  have hlimited : (Blueprint.changes { address } cs).limited = true := by
    have hbucket := (Blueprint.layers_eq_ok hlayers).1
    rw [hi] at hbucket
    by_contra hnot
    rw [if_neg hnot] at hbucket
    cases hbucket
  have hshared : (Blueprint.changes { address } cs).bucket = .shared i := by
    rcases Blueprint.bucketLayer_eq (Blueprint.bucket_of_layers hlayers hi) with
      ⟨j, hj, heq⟩ | ⟨r, -, heq⟩
    · rw [hj, BucketLayer.shared.inj heq]
    · cases heq
  rw [Blueprint.changes_eq] at hlimited hshared
  let plain := BucketChoice.own Rate.defaultCapacity Rate.defaultInterval
  obtain ⟨hsame, hbucket⟩ := last_of_change (mapM_eq_ok_iff.1 hcs) true plain plain fun j hj =>
    nomatch hj
  obtain ⟨k, hk, hname⟩ := hbucket i hshared
  have hlast : Change.last Change.wantsLimiter? true changes = true := hsame.symm.trans hlimited
  exact ⟨k, by rw [Setup.bucket?, hlast, hk], hname⟩

/-- **What a provider is put together from**: what it wraps, and the bucket that it draws on. -/
theorem exists_base (ha : s.assemble setup = .ok (p, t)) :
    ∃ base layers,
      ((∃ inner, setup.inner? = some inner ∧ s.inner? inner = .ok base) ∨
        setup.inner? = none ∧ ∃ r, base = .remote r) ∧
      s.state.install base layers = (p, t) ∧
      ∀ i, layers.bucket = some (.shared i) →
        ∃ k, setup.bucket? = some k ∧ s.bucket? k = .ok i := by
  cases setup with
  | cached inner limits =>
    obtain ⟨q, hq, ha⟩ := bind_eq_ok (x := s.inner? inner) ha
    obtain ⟨l, -, ha⟩ := bind_eq_ok ha
    exact ⟨q, ⟨none, some l⟩, .inl ⟨inner, rfl, hq⟩, Except.ok.inj ha, nofun⟩
  | limited inner k =>
    obtain ⟨q, hq, ha⟩ := bind_eq_ok (x := s.inner? inner) ha
    obtain ⟨i, hi, ha⟩ := bind_eq_ok ha
    refine ⟨q, ⟨some (.shared i), none⟩, .inl ⟨inner, rfl, hq⟩, Except.ok.inj ha,
      fun j hj => ⟨k, rfl, ?_⟩⟩
    cases hj
    exact hi
  | remote site timeouts =>
    obtain ⟨address, -, ha⟩ := bind_eq_ok (x := Scene.address site) ha
    obtain ⟨r, -, ha⟩ := bind_eq_ok ha
    exact ⟨.remote r, ⟨none, none⟩, .inr ⟨rfl, r, rfl⟩, Except.ok.inj ha, nofun⟩
  | pipeline site changes wrapped =>
    obtain ⟨address, -, ha⟩ := bind_eq_ok (x := Scene.address site) ha
    obtain ⟨cs, hcs, ha⟩ := bind_eq_ok ha
    cases wrapped with
    | none =>
      obtain ⟨base, layers, hbase, hlayers, hinstall⟩ := State.exists_install (refuse_eq_ok ha)
      rcases hbase with hbase | ⟨-, r, -, hr⟩
      · cases hbase
      · exact ⟨base, layers, .inr ⟨rfl, r, hr⟩, hinstall, fun i => exists_bucket hcs hlayers⟩
    | some inner =>
      obtain ⟨source, hsource, ha⟩ := bind_eq_ok (x := (s.inner? inner).map some) ha
      obtain ⟨q, hq, rfl⟩ := map_eq_ok hsource
      obtain ⟨base, layers, hbase, hlayers, hinstall⟩ := State.exists_install (refuse_eq_ok ha)
      rcases hbase with hbase | ⟨hnone, -⟩
      · rw [← Option.some.inj hbase] at hinstall
        exact ⟨q, layers, .inl ⟨inner, rfl, hq⟩, hinstall, fun i => exists_bucket hcs hlayers⟩
      · cases hnone

/-! ## One thing after the other -/

theorem Follows.of_bucket (h : s.Follows P network π) (hs : s.Reached sources network) :
    s.Follows P network (π.grow s.state b) where
  source := h.source
  provider := h.provider
  offline := h.offline
  bucket k i hi := (if_pos (hs.bucket_lt hi)).trans (h.bucket k i hi)

/-- What is held stays on its side when more buckets and caches are given sides. -/
theorem Reached.parted_grow (h : s.Reached sources network) (hidle : s.state.Idle)
    (hs : s.state.Parted π) (b : Bool) : s.state.Parted (π.grow s.state b) := by
  refine hidle.parted hs.offline fun k p hp => ?_
  obtain ⟨behind, hsound⟩ := h.sound
  have hheld : some p ∈ s.state.held := List.mem_of_getElem? (Option.join_eq_some_iff.1 hp)
  rw [(hsound.wired.provider p (.inl hheld)).on_grow hsound.wired.caches]
  exact hs.held k p hp

/-- What is found under the name of a thing is on the side of its group. -/
theorem Follows.on_inner (h : s.Follows P network π) (hparted : s.state.Parted π)
    (hbase : s.inner? inner = .ok base) : base.on π (P.inner inner) = true := by
  cases inner with
  | source i =>
    rw [inner?] at hbase
    split at hbase
    · cases hbase
      exact beq_iff_eq.2 (congrFun h.source i)
    · cases hbase
  | provider j =>
    rw [inner?] at hbase
    split at hbase
    · rename_i q hq
      cases hbase
      have hon := hparted.held j base hq
      rw [h.provider] at hon
      exact hon
    · cases hbase

theorem bucket?_eq_ok {k i : Nat} : s.bucket? k = .ok i ↔ (s.buckets[k]?).join = some i := by
  rw [bucket?]
  cases (s.buckets[k]?).join with
  | none => simp
  | some j => simp

/-- **A bucket is made.** It is of the group of its name. -/
theorem exists_split_addBucket (h : s.Follows P network π) (hs : s.Reached sources network)
    (hidle : s.state.Idle) (hparted : s.state.Parted π) (bucket : Nat × Duration) :
    ∃ π' : Split, π'.calls = π.calls ∧ (s.addBucket bucket).2.Follows P network π' ∧
      (s.addBucket bucket).2.state.Parted π' ∧ (s.addBucket bucket).2.state.Idle := by
  rw [Scene.addBucket, TokenBucket.new]
  cases Rate.check bucket.1 bucket.2 with
  | error e =>
    refine ⟨π, rfl, { h with bucket := fun k i hi => ?_ }, hparted, hidle⟩
    rcases join_getElem?_concat (bucket?_eq_ok.1 hi) with hold | ⟨-, hnew⟩
    · exact h.bucket k i (bucket?_eq_ok.2 hold)
    · cases hnew
  | ok r =>
    have hgrow := h.of_bucket (b := P.bucket s.buckets.length) hs
    refine ⟨π.grow s.state (P.bucket s.buckets.length), rfl,
      { hgrow with bucket := fun k i hi => ?_ }, { hs.parted_grow hidle hparted _ with },
      { hidle with }⟩
    rcases join_getElem?_concat (bucket?_eq_ok.1 hi) with hold | ⟨rfl, hnew⟩
    · exact hgrow.bucket k i (bucket?_eq_ok.2 hold)
    · rw [← Option.some.inj hnew]
      exact if_neg (Nat.lt_irrefl _)

theorem held_addBucket (s : Scene) (bucket : Nat × Duration) :
    (s.addBucket bucket).2.state.held = s.state.held := by
  rw [addBucket]
  split <;> rfl

theorem assemble_eq (hs : s.Reached sources network) (ha : s.assemble setup = .ok (p, t)) :
    t.held = s.state.held ∧ t.network = s.state.network := by
  obtain ⟨base, layers, -, -, hinstall⟩ := exists_layers hs ha
  obtain ⟨bs, cs, heq, -⟩ := s.state.install_eq base layers
  rw [hinstall] at heq
  have hheld := congrArg State.held heq
  have hnetwork := congrArg State.network heq
  exact ⟨hheld, hnetwork⟩

theorem held_addProvider (hs : s.Reached sources network) (setup : Setup) :
    ∃ o, (s.addProvider setup).2.state.held = s.state.held ++ [o] := by
  rw [addProvider]
  cases ha : s.assemble setup with
  | error r => exact ⟨none, rfl⟩
  | ok built => exact ⟨some built.1, congrArg (· ++ [some built.1]) (assemble_eq hs ha).1⟩

/-- **A provider is put together.** What is made for it is of its group. -/
theorem exists_split_addProvider (h : s.Follows P network π) (hs : s.Reached sources network)
    (hidle : s.state.Idle) (hparted : s.state.Parted π) (setup : Setup)
    (hwithin : ((s.addProvider setup).2.state.provider? s.state.held.length).isSome = true →
      setup.Within P network (P.provider s.state.held.length)) :
    ∃ π' : Split, π'.calls = π.calls ∧ (s.addProvider setup).2.Follows P network π' ∧
      (s.addProvider setup).2.state.Parted π' ∧ (s.addProvider setup).2.state.Idle := by
  rw [addProvider] at hwithin ⊢
  cases ha : s.assemble setup with
  | error r =>
    refine ⟨π, rfl, { h with }, { hparted with held := fun k p hp => ?_ }, { hidle with }⟩
    rcases join_getElem?_concat hp with hold | ⟨-, hnew⟩
    · exact hparted.held k p hold
    · cases hnew
  | ok built =>
    obtain ⟨p, t⟩ := built
    obtain ⟨hheld, hnetwork⟩ := assemble_eq hs ha
    have hthere : { t with held := t.held ++ [some p] }.provider? s.state.held.length = some p := by
      rw [State.provider?, hheld, List.getElem?_concat_length]
      rfl
    rw [ha] at hwithin
    obtain ⟨hwraps, hdraws, hoffline⟩ := hwithin (Option.isSome_iff_exists.2 ⟨p, hthere⟩)
    obtain ⟨base, layers, hbase, hinstall, hshared⟩ := exists_base ha
    have hgrow := h.of_bucket (b := P.provider s.state.held.length) hs
    have hsides := hs.parted_grow hidle hparted (P.provider s.state.held.length)
    have hon : base.on (π.grow s.state (P.provider s.state.held.length))
        (P.provider s.state.held.length) = true := by
      rcases hbase with ⟨inner, hinner, hbase⟩ | ⟨hnone, r, rfl⟩
      · have hside := hgrow.on_inner hsides hbase
        rw [hwraps inner hinner] at hside
        exact hside
      · exact hgrow.offline (hoffline hnone)
    have hon := State.on_install layers hon fun i hi => by
      obtain ⟨k, hk, hname⟩ := hshared i hi
      exact (hgrow.bucket k i hname).trans (hdraws k hk)
    have ht := hidle.install base layers
    rw [hinstall] at hon ht
    have hidle' : { t with held := t.held ++ [some p] }.Idle := { ht with }
    refine ⟨π.grow s.state (P.provider s.state.held.length), rfl, { hgrow with },
      hidle'.parted (fun ho => hnetwork.trans (hparted.offline ho)) fun k q hq => ?_, hidle'⟩
    rw [State.provider?, hheld] at hq
    rcases join_getElem?_concat hq with hold | ⟨rfl, hnew⟩
    · exact hsides.held k q hold
    · cases hnew
      rw [hgrow.provider]
      exact hon

/-! ## All of them -/

/-- Providers are there until all are put together. -/
theorem provider?_each (hs : s.Reached sources network) {k : Nat}
    (hp : s.state.provider? k = some p) (setups : List Setup) :
    (s.each addProvider setups).2.state.provider? k = some p := by
  induction setups generalizing s with
  | nil => exact hp
  | cons setup setups ih =>
    obtain ⟨o, ho⟩ := held_addProvider hs setup
    refine ih (reached_addProvider hs setup) ?_
    change ((s.addProvider setup).2.state.held[k]?).join = some p
    rw [ho, Option.join_eq_some_iff]
    exact Provider.getElem?_mono (List.prefix_append _ _) (Option.join_eq_some_iff.1 hp)

theorem held_each_addBucket (s : Scene) (buckets : List (Nat × Duration)) :
    (s.each addBucket buckets).2.state.held = s.state.held := by
  induction buckets generalizing s with
  | nil => rfl
  | cons bucket buckets ih => exact (ih _).trans (s.held_addBucket bucket)

theorem exists_split_buckets (h : s.Follows P network π) (hs : s.Reached sources network)
    (hidle : s.state.Idle) (hparted : s.state.Parted π) (buckets : List (Nat × Duration)) :
    ∃ π' : Split, π'.calls = π.calls ∧ (s.each addBucket buckets).2.Follows P network π' ∧
      (s.each addBucket buckets).2.state.Parted π' ∧ (s.each addBucket buckets).2.state.Idle := by
  induction buckets generalizing s π with
  | nil => exact ⟨π, rfl, h, hparted, hidle⟩
  | cons bucket buckets ih =>
    obtain ⟨π₁, hcalls, h₁, hparted₁, hidle₁⟩ := exists_split_addBucket h hs hidle hparted bucket
    obtain ⟨π₂, hcalls₂, hlast⟩ := ih h₁ (reached_addBucket hs bucket) hidle₁ hparted₁
    exact ⟨π₂, hcalls₂.trans hcalls, hlast⟩

theorem exists_split_providers (h : s.Follows P network π) (hs : s.Reached sources network)
    (hidle : s.state.Idle) (hparted : s.state.Parted π) (setups : List Setup)
    (hwithin : ∀ k setup, setups[k]? = some setup →
      ((s.each addProvider setups).2.state.provider? (s.state.held.length + k)).isSome = true →
        setup.Within P network (P.provider (s.state.held.length + k))) :
    ∃ π' : Split, π'.calls = π.calls ∧ (s.each addProvider setups).2.Follows P network π' ∧
      (s.each addProvider setups).2.state.Parted π' ∧
      (s.each addProvider setups).2.state.Idle := by
  induction setups generalizing s π with
  | nil => exact ⟨π, rfl, h, hparted, hidle⟩
  | cons setup setups ih =>
    have hs₁ := reached_addProvider hs setup
    obtain ⟨π₁, hcalls, h₁, hparted₁, hidle₁⟩ :=
      exists_split_addProvider h hs hidle hparted setup fun hsome => by
        obtain ⟨p, hp⟩ := Option.isSome_iff_exists.1 hsome
        exact hwithin 0 setup rfl (Option.isSome_iff_exists.2 ⟨p, provider?_each hs₁ hp setups⟩)
    obtain ⟨o, ho⟩ := held_addProvider hs setup
    have hlen : (s.addProvider setup).2.state.held.length = s.state.held.length + 1 := by
      rw [ho, List.length_append, List.length_singleton]
    obtain ⟨π₂, hcalls₂, hlast⟩ := ih h₁ hs₁ hidle₁ hparted₁ fun k next hk hsome => by
      rw [hlen, Nat.add_assoc, Nat.add_comm 1 k] at hsome ⊢
      exact hwithin (k + 1) next hk hsome
    exact ⟨π₂, hcalls₂.trans hcalls, hlast⟩

end Scene

/-- **The state at the first step is split into two sides** that go with the groups. -/
theorem Scenario.exists_split {P : Parties} {s : Scenario} (h : s.Apart P) :
    ∃ π : Split, π.calls = [] ∧ s.opening.Follows P s.network π ∧ s.opening.state.Parted π ∧
      s.opening.state.Idle := by
  obtain ⟨offline, hoffline⟩ : ∃ b : Bool, b = true ↔ s.network = .unreachable := by
    cases s.network with
    | unreachable => exact ⟨true, by simp⟩
    | served responses => exact ⟨false, by simp⟩
  let π : Split :=
    { source := P.source, bucket := P.bucket, cache := fun _ => true, provider := P.provider
      offline, calls := [] }
  have hs : s.scene.Reached s.sources s.network := ⟨.refl _, fun _ h => absurd h List.not_mem_nil⟩
  have hidle : s.scene.state.Idle := ⟨rfl, rfl, rfl, rfl, rfl⟩
  have hfollows : s.scene.Follows P s.network π := ⟨rfl, rfl, hoffline.2, nofun⟩
  obtain ⟨π₁, hcalls₁, hfollows₁, hparted₁, hidle₁⟩ :=
    Scene.exists_split_buckets hfollows hs hidle (hidle.parted hoffline.1 nofun) s.buckets
  have hheld : (s.scene.each Scene.addBucket s.buckets).2.state.held.length = 0 := by
    rw [Scene.held_each_addBucket]
    rfl
  obtain ⟨π₂, hcalls₂, hlast⟩ := Scene.exists_split_providers hfollows₁
    (Scene.reached_each (fun b h => Scene.reached_addBucket h b) s.buckets hs) hidle₁ hparted₁
    s.setups fun k setup hk hsome => by
      rw [hheld, Nat.zero_add] at hsome ⊢
      exact h k setup hk hsome
  exact ⟨π₂, hcalls₂.trans hcalls₁, hlast⟩

end SigningKeys
