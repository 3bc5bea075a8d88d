import SigningKeys.Blueprint
import SigningKeys.Proofs.Except

/-!
# What blueprints build

* `Blueprint.layers_eq`, `Blueprint.layers_of_both`, `Blueprint.bucketLayer_eq`: the layers of a
  blueprint, and of one that asks for both;
* `State.exists_install`: to build is to put layers in front of a source;
* **`State.build_pipeline`**: what is built from it.
-/

namespace SigningKeys

/-- The layers are looked at one after the other. -/
theorem Blueprint.layers_eq (b : Blueprint) :
    b.layers =
      (if b.limited then b.bucketLayer.map some else .ok none) >>= fun bucket =>
        (if b.cached then (CacheLimits.check b.capacity b.ttl).map some else .ok none) >>= fun cache =>
          .ok { bucket, cache } := by
  unfold layers
  cases b.limited <;> cases b.cached <;> rfl

theorem Blueprint.layers_eq_ok {b : Blueprint} {l : Layers} (h : b.layers = .ok l) :
    (if b.limited then b.bucketLayer.map some else .ok none) = .ok l.bucket ∧
      (if b.cached then (CacheLimits.check b.capacity b.ttl).map some else .ok none) =
        .ok l.cache := by
  rw [layers_eq] at h
  obtain ⟨bucket, hbucket, h⟩ := bind_eq_ok h
  obtain ⟨cache, hcache, h⟩ := bind_eq_ok h
  cases h
  exact ⟨hbucket, hcache⟩

theorem Blueprint.layers_of_both {blueprint : Blueprint} {l : Layers}
    (h : blueprint.layers = .ok l) (hcached : blueprint.cached = true)
    (hlimited : blueprint.limited = true) :
    ∃ layer limits, l = ⟨some layer, some limits⟩ ∧ blueprint.bucketLayer = .ok layer := by
  obtain ⟨hbucket, hcache⟩ := layers_eq_ok h
  rw [hlimited] at hbucket
  rw [hcached] at hcache
  obtain ⟨layer, hlayer, hbucket⟩ := map_eq_ok hbucket
  obtain ⟨limits, -, hcache⟩ := map_eq_ok hcache
  obtain ⟨bucket, cache⟩ := l
  cases hbucket
  cases hcache
  exact ⟨layer, limits, rfl, hlayer⟩

theorem Blueprint.bucketLayer_eq {blueprint : Blueprint} {layer : BucketLayer}
    (h : blueprint.bucketLayer = .ok layer) :
    (∃ b, blueprint.bucket = .shared b ∧ layer = .shared b) ∨
      ∃ r : Rate, blueprint.bucket = .own r.capacity r.interval ∧ layer = .own r := by
  rw [bucketLayer] at h
  cases hb : blueprint.bucket with
  | shared b =>
    rw [hb] at h
    exact .inl ⟨b, rfl, (Except.ok.inj h).symm⟩
  | own capacity interval =>
    rw [hb] at h
    dsimp only [Rate.check] at h
    by_cases hc : 0 < capacity
    · by_cases hi : 0 < interval.nanos
      · rw [dif_pos hc, dif_pos hi] at h
        exact .inr ⟨⟨capacity, interval, hc, hi⟩, rfl, (Except.ok.inj h).symm⟩
      · rw [dif_pos hc, dif_neg hi] at h
        cases h
    · rw [dif_neg hc] at h
      cases h

theorem Blueprint.bucket_of_layers {blueprint : Blueprint} {l : Layers}
    (h : blueprint.layers = .ok l) {layer : BucketLayer} (hb : l.bucket = some layer) :
    blueprint.bucketLayer = .ok layer := by
  have hbucket := (layers_eq_ok h).1
  rw [hb] at hbucket
  cases hlimited : blueprint.limited with
  | false =>
    rw [hlimited] at hbucket
    cases hbucket
  | true =>
    rw [hlimited] at hbucket
    obtain ⟨own, hown, hsame⟩ := map_eq_ok hbucket
    cases hsame
    exact hown

/-- To build a blueprint is to put its layers in front of its source. -/
theorem State.exists_install {s t : State} {blueprint : Blueprint} {source : Option Provider}
    {p : Provider} (hb : s.build blueprint source = .ok (p, t)) :
    ∃ base l,
      (source = some base ∨
        source = none ∧ ∃ r, blueprint.remote = .ok r ∧ base = .remote r) ∧
      blueprint.layers = .ok l ∧ s.install base l = (p, t) := by
  cases source with
  | some q =>
    obtain ⟨l, hl, hb⟩ := bind_eq_ok (x := blueprint.layers) hb
    exact ⟨q, l, .inl rfl, hl, Except.ok.inj hb⟩
  | none =>
    obtain ⟨base, hbase, hb⟩ := bind_eq_ok (x := blueprint.remote.map Provider.remote) hb
    obtain ⟨l, hl, hb⟩ := bind_eq_ok hb
    obtain ⟨r, hr, rfl⟩ := map_eq_ok hbase
    exact ⟨.remote r, l, .inr ⟨rfl, r, hr, rfl⟩, hl, Except.ok.inj hb⟩

/-- **What blueprints with both layers build**: a new cache in front of a limiter, which draws on a
new full bucket or on the one that is shared. -/
theorem State.build_pipeline {s t : State} {blueprint : Blueprint} {source : Option Provider}
    {p : Provider} (hb : s.build blueprint source = .ok (p, t)) (hcached : blueprint.cached = true)
    (hlimited : blueprint.limited = true) :
    ∃ S b, p = .cached (.limited S b) s.caches.length ∧
      (source = some S ∨ source = none ∧ ∃ r, S = .remote r) ∧
      (blueprint.bucket = .shared b ∧ t.buckets = s.buckets ∨
        b = s.buckets.length ∧ ∃ r : Rate, blueprint.bucket = .own r.capacity r.interval ∧
          t.buckets = s.buckets ++ [.full r s.now]) := by
  obtain ⟨base, l, hsource, hl, hinstall⟩ := exists_install hb
  obtain ⟨layer, limits, rfl, hlayer⟩ := Blueprint.layers_of_both hl hcached hlimited
  have hsource : source = some base ∨ source = none ∧ ∃ r, base = .remote r :=
    hsource.imp_right fun ⟨hnone, r, _, hr⟩ => ⟨hnone, r, hr⟩
  rcases Blueprint.bucketLayer_eq hlayer with ⟨b, hshared, rfl⟩ | ⟨r, hown, rfl⟩
  · cases hinstall
    exact ⟨base, b, rfl, hsource, .inl ⟨hshared, rfl⟩⟩
  · cases hinstall
    exact ⟨base, _, rfl, hsource, .inr ⟨rfl, r, hown, rfl⟩⟩

end SigningKeys
