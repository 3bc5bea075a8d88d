import SigningKeys.Proofs.Pipeline.Changes
import SigningKeys.Proofs.Settings.Environment

/-!
# The pipelines of settings

A pipeline has the layers that settings ask for, with the parameters that they give. Nothing in
these layers may be zero. Settings that come from variables have no zeros, so they can only be
refused for the place that they name.

* `Settings.Positive`: nothing is zero in what settings ask for;
* `Settings.blueprintAt`: the blueprint of settings, part by part;
* `Settings.Stands`: the pipeline that settings ask for;
* `Settings.positive_of_environment`: settings from variables have no zeros;
* `Settings.Configures`, and **`Settings.configures`**: what comes of settings.
-/

namespace SigningKeys

open Web

namespace Settings

/-- **Nothing is zero in what settings ask for.** -/
structure Positive (s : Settings) : Prop where
  connect : ∀ d, s.connectTimeout = some d → 0 < d.nanos
  request : ∀ d, s.requestTimeout = some d → 0 < d.nanos
  cache : s.cacheEnabled = true → 0 < s.cacheSize ∧ 0 < s.cacheTtl.nanos
  limit : s.limitEnabled = true → 0 < s.bucketSize ∧ 0 < s.refillInterval.nanos

/-- The blueprint of settings for a key set at an address. -/
def blueprintAt (s : Settings) (u : Url) : Blueprint :=
  { address := .web u
    timeouts := ⟨s.connectTimeout, s.requestTimeout⟩
    cached := s.cacheEnabled
    capacity := s.cacheSize
    ttl := s.cacheTtl
    limited := s.limitEnabled
    bucket := .own s.bucketSize s.refillInterval }

theorem blueprint_eq (s : Settings) : s.blueprint = s.location.endpoint.map s.blueprintAt := rfl

theorem positive_iff {s : Settings} {u : Url} :
    (s.blueprintAt u).complaints none = [] ↔ s.Positive := by
  rw [Blueprint.complaints_eq_nil]
  constructor
  · rintro ⟨hremote, hlimit, hcache⟩
    obtain ⟨-, hconnect, hrequest⟩ := hremote rfl
    exact ⟨hconnect, hrequest, hcache, fun h => hlimit h _ _ rfl⟩
  · rintro ⟨hconnect, hrequest, hcache, hlimit⟩
    refine ⟨fun _ => ⟨⟨u, rfl⟩, hconnect, hrequest⟩, fun h capacity interval hbucket => ?_, hcache⟩
    cases hbucket
    exact hlimit h

/-- The pipeline `p`, which was built in the state `t` and led to the state `t'`, is the key set at
`u` behind the limiter that settings ask for, if they ask for one, and outermost behind the cache
that they ask for, if they ask for one. Each layer has the parameters that they give. -/
structure Stands (s : Settings) (u : Url) (t t' : State) (p : Provider) : Prop where
  layers : ∃ base inner,
    base = .remote { url := u, timeouts := ⟨s.connectTimeout, s.requestTimeout⟩ } ∧
    (if s.limitEnabled then
      ∃ r : Rate, r.capacity = s.bucketSize ∧ r.interval = s.refillInterval ∧
        inner = .limited base t.buckets.length ∧ t'.buckets = t.buckets ++ [.full r t.now]
    else inner = base ∧ t'.buckets = t.buckets) ∧
    if s.cacheEnabled then
      ∃ l : CacheLimits, l.capacity = s.cacheSize ∧ l.ttl = s.cacheTtl ∧
        p = .cached inner t.caches.length ∧ t'.caches = t.caches ++ [{ limits := l }]
    else p = inner ∧ t'.caches = t.caches
  rest : t' = { t with buckets := t'.buckets, caches := t'.caches }

theorem stands_of_build {s : Settings} {u : Url} {t t' : State} {p : Provider}
    (h : t.build (s.blueprintAt u) none = .ok (p, t')) : s.Stands u t t' p := by
  obtain ⟨base, l, hsource, hl, hinstall⟩ := State.exists_install h
  obtain ⟨inner, hlimits, hcaches, hrest⟩ := State.stacks_install (s := t) hl base
  rw [hinstall] at hlimits hcaches hrest
  refine ⟨⟨base, inner, ?_, ?_, ?_⟩, hrest⟩
  · rcases hsource with hsome | ⟨-, r, hr, rfl⟩
    · cases hsome
    · rcases State.grounds_remote hr with hsome | ⟨-, v, hv, hbase⟩
      · cases hsome
      · cases hv
        exact hbase
  · unfold State.Limits at hlimits
    split
    · next hlimit =>
      rw [if_pos (show (s.blueprintAt u).limited = true from hlimit)] at hlimits
      rcases hlimits with ⟨i, hshared, -⟩ | ⟨r, hown, hinner, hbuckets⟩
      · cases hshared
      · obtain ⟨hcapacity, hinterval⟩ := BucketChoice.own.inj hown
        exact ⟨r, hcapacity.symm, hinterval.symm, hinner, hbuckets⟩
    · next hlimit =>
      rw [if_neg (show ¬ (s.blueprintAt u).limited = true from hlimit)] at hlimits
      exact hlimits
  · unfold State.Caches at hcaches
    split
    · next hcache =>
      rw [if_pos (show (s.blueprintAt u).cached = true from hcache)] at hcaches
      obtain ⟨l, hcapacity, httl, hp, hnew⟩ := hcaches
      exact ⟨l, hcapacity.symm, httl.symm, hp, hnew⟩
    · next hcache =>
      rw [if_neg (show ¬ (s.blueprintAt u).cached = true from hcache)] at hcaches
      exact hcaches

/-! ## Settings from variables -/

theorem Says.induction {α : Type} {env : List (String × String)} {name : String}
    {Spells : String → α → Prop} {otherwise a : α} {P : α → Prop}
    (h : Says env name Spells otherwise a) (ho : P otherwise)
    (hs : ∀ text b, Spells text b → P b) : P a := by
  unfold Says at h
  split at h
  · rwa [h]
  · exact hs _ a h

theorem SpellsTime.pos {unit : Nat} {text : String} {d : Duration} (h : SpellsTime unit text d)
    (hunit : 0 < unit) : 0 < d.nanos := by
  obtain ⟨n, hn, hd⟩ := h
  rw [hd]
  exact Nat.mul_pos hn.2.1 hunit

/-- **Settings from variables have no zeros**: neither what is spelled is zero, nor what has its
default. -/
theorem positive_of_environment {env : List (String × String)} {s : Settings}
    (h : ofEnvironment env = .ok s) : s.Positive := by
  have hspelled := ofEnvironment_eq_ok_iff.1 h
  have hmillis {t : Option Duration} {name : String}
      (ht : Says env name (fun text t => ∃ d, SpellsTime 1000000 text d ∧ t = some d) none t) :
      ∀ d, t = some d → 0 < d.nanos := by
    refine ht.induction (P := fun t => ∀ d, t = some d → 0 < d.nanos) (fun d hd => (by cases hd)) ?_
    rintro text _ ⟨d, hd, rfl⟩ e he
    cases he
    exact hd.pos (by decide)
  have hseconds {name : String} {otherwise d : Duration} (ho : 0 < otherwise.nanos)
      (hd : Says env name (SpellsTime 1000000000) otherwise d) : 0 < d.nanos :=
    hd.induction (P := fun d => 0 < d.nanos) ho fun text d hd => hd.pos (by decide)
  have hnumber {name : String} {otherwise n : Nat} (ho : 0 < otherwise)
      (hn : Says env name SpellsPositive otherwise n) : 0 < n :=
    hn.induction (P := fun n => 0 < n) ho fun text n hn => hn.2.1
  exact {
    connect := hmillis hspelled.connectTimeout
    request := hmillis hspelled.requestTimeout
    cache := fun _ => ⟨hnumber (by decide) hspelled.cacheSize,
      hseconds (by decide) hspelled.cacheTtl⟩
    limit := fun _ => ⟨hnumber (by decide) hspelled.bucketSize,
      hseconds (by decide) hspelled.refillInterval⟩ }

/-! ## What comes of settings -/

/-- **What comes of settings** in a state. -/
structure Configures (s : Settings) (t : State) : Prop where
  /-- Settings have a blueprint if and only if the place that they name has an address. -/
  accepts : (∃ b, s.blueprint = .ok b) ↔ ∃ u, s.location.endpoint = .ok u
  /-- Otherwise what is wrong with the place is told. -/
  refuses : ∀ e, s.blueprint = .error e ↔ s.location.endpoint = .error e
  /-- A pipeline is built unless something is zero that is asked for. -/
  builds : ∀ b, s.blueprint = .ok b → ((∃ p t', t.build b none = .ok (p, t')) ↔ s.Positive)
  /-- It has exactly the layers that are asked for, with the parameters that are given. -/
  layered : ∀ b p t', s.blueprint = .ok b → t.build b none = .ok (p, t') →
    ∃ u, s.location.endpoint = .ok u ∧ s.Stands u t t' p
  /-- Settings from variables that have a blueprint have a pipeline. -/
  loaded : ∀ env, ofEnvironment env = .ok s → ∀ b, s.blueprint = .ok b →
    ∃ p t', t.build b none = .ok (p, t')

/-- **Settings make the pipeline that they ask for**, and those from variables always make one if
the place that they name has an address. -/
theorem configures (s : Settings) (t : State) : s.Configures t := by
  have hbuilds : ∀ u, (∃ p t', t.build (s.blueprintAt u) none = .ok (p, t')) ↔ s.Positive := by
    intro u
    have hvoices := t.voices_build (s.blueprintAt u) none
    exact (Prod.exists.symm.trans hvoices.exists_ok_iff).trans positive_iff
  have hplace : ∀ b, s.blueprint = .ok b →
      ∃ u, s.location.endpoint = .ok u ∧ s.blueprintAt u = b := fun b => map_eq_ok
  constructor
  case accepts =>
    rw [blueprint_eq]
    cases s.location.endpoint <;> simp [Except.map]
  case refuses =>
    intro e
    rw [blueprint_eq]
    cases s.location.endpoint <;> simp [Except.map]
  case builds =>
    intro b hb
    obtain ⟨u, -, rfl⟩ := hplace b hb
    exact hbuilds u
  case layered =>
    intro b p t' hb hbuild
    obtain ⟨u, hu, rfl⟩ := hplace b hb
    exact ⟨u, hu, stands_of_build hbuild⟩
  case loaded =>
    intro env henv b hb
    obtain ⟨u, -, rfl⟩ := hplace b hb
    exact (hbuilds u).2 (positive_of_environment henv)

end Settings

end SigningKeys
