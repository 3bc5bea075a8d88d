import SigningKeys.Cache

/-!
# What is found in a cache

* `KeyStore.get?_erase`, `KeyStore.get?_insert`: what is stored for an id after a key was dropped or
  put in. To put one key in may drop others, but it never changes them;
* `Cache.fresh?`, `Cache.swept`: the key that a look finds young enough, and the cache after it;
* `Cache.kids`: the ids of the keys that are being fetched.
-/

namespace SigningKeys

namespace KeyStore

theorem lookup_without (entries : List (String × Stored)) (kid k : String) :
    (without entries kid).lookup k = if k = kid then none else entries.lookup k := by
  induction entries with
  | nil => exact (ite_self none).symm
  | cons e entries ih =>
    rw [without] at ih ⊢
    by_cases he : e.1 = kid
    · rw [List.filter_cons_of_neg (by simp [he]), ih]
      by_cases hk : k = kid
      · rw [if_pos hk, if_pos hk]
      · have hne : (k == e.1) = false := by simp [he, hk]
        rw [if_neg hk, if_neg hk, List.lookup_cons, hne]
    · rw [List.filter_cons_of_pos (by simp [he]), List.lookup_cons, List.lookup_cons, ih]
      by_cases hk : k = kid
      · have hne : (k == e.1) = false := by
          rw [hk]
          simp [Ne.symm he]
        rw [if_pos hk, if_pos hk, hne]
      · rw [if_neg hk, if_neg hk]

theorem get?_erase (s : KeyStore) (kid k : String) :
    (s.erase kid).get? k = if k = kid then none else s.get? k := by
  unfold erase
  split
  · exact lookup_without s.byKid kid k
  · rename_i h
    rw [Bool.not_eq_true, Option.isSome_eq_false_iff, Option.isNone_iff_eq_none] at h
    by_cases hk : k = kid
    · rw [if_pos hk, hk, h]
    · rw [if_neg hk]

theorem get?_makeRoom {capacity : Nat} {entries : List (String × Stored)} {order : List String}
    {k : String} {e : Stored} (h : (makeRoom capacity entries order).get? k = some e) :
    entries.lookup k = some e := by
  induction order generalizing entries with
  | nil => exact h
  | cons oldest order ih =>
    rw [makeRoom] at h
    split at h
    · exact h
    · have hw := ih h
      rw [lookup_without] at hw
      split at hw
      · cases hw
      · exact hw

/-- **What is stored after a key was put in**: that key, and what was stored before for other
ids. -/
theorem get?_insert {s : KeyStore} {capacity : Nat} {now : Instant} {kid k : String} {j : Jwk}
    {e : Stored} (h : (s.insert capacity now kid j).get? k = some e) :
    k = kid ∧ e = ⟨j, now⟩ ∨ k ≠ kid ∧ s.get? k = some e := by
  unfold insert at h
  by_cases hk : k = kid
  · rw [get?, hk, List.lookup_cons_self] at h
    exact .inl ⟨hk, (Option.some.inj h).symm⟩
  · have hne : (k == kid) = false := by simp [hk]
    rw [get?, List.lookup_cons, hne] at h
    have he := get?_makeRoom h
    change (s.erase kid).get? k = some e at he
    rw [get?_erase, if_neg hk] at he
    exact .inr ⟨hk, he⟩

theorem lookup_of_get?_eq_none {s : KeyStore} {ttl : Duration} {now : Instant} {kid : String}
    (h : s.get? kid = none) : s.lookup ttl now kid = (.absent, s) := by
  rw [lookup, h]

theorem lookup_of_get?_eq_some {s : KeyStore} {ttl : Duration} {now : Instant} {kid : String}
    {e : Stored} (h : s.get? kid = some e) :
    s.lookup ttl now kid =
      if elapsed now e.since < ttl.nanos then (.hit e.key, s) else (.expired, s.erase kid) := by
  rw [lookup, h]

end KeyStore

namespace Cache

/-- The key that a look finds, if it is young enough. -/
def fresh? (c : Cache) (now : Instant) (kid : String) : Option Jwk :=
  match (c.lookup now kid).1 with
  | .hit j => some j
  | .expired | .absent => none

/-- The cache after a look. -/
def swept (c : Cache) (now : Instant) (kid : String) : Cache := (c.lookup now kid).2

/-- The ids of the keys that are being fetched. -/
def kids (c : Cache) : List String := c.flights.map (·.kid)

variable {c : Cache} {now : Instant} {kid k : String}

/-- **What is fresh**: a key that was put in less than the time to live ago. -/
theorem fresh?_eq_some {j : Jwk} :
    c.fresh? now kid = some j ↔
      ∃ since, c.store.get? kid = some ⟨j, since⟩ ∧ elapsed now since < c.limits.ttl.nanos := by
  unfold fresh? lookup
  cases h : c.store.get? kid with
  | none =>
    rw [KeyStore.lookup_of_get?_eq_none h]
    simp
  | some e =>
    rw [KeyStore.lookup_of_get?_eq_some h]
    by_cases ha : elapsed now e.since < c.limits.ttl.nanos
    · rw [if_pos ha]
      constructor
      · intro hj
        cases hj
        exact ⟨e.since, rfl, ha⟩
      · rintro ⟨since, he, -⟩
        cases he
        rfl
    · rw [if_neg ha]
      constructor
      · intro hj
        cases hj
      · rintro ⟨since, he, hs⟩
        cases he
        exact absurd hs ha

/-- **What is not fresh**: a key that was put in the time to live ago or longer. -/
theorem fresh?_eq_none :
    c.fresh? now kid = none ↔
      ∀ e, c.store.get? kid = some e → c.limits.ttl.nanos ≤ elapsed now e.since := by
  constructor
  · intro h e he
    refine Nat.not_lt.1 fun hs => ?_
    exact Option.some_ne_none e.key ((fresh?_eq_some.2 ⟨e.since, he, hs⟩).symm.trans h)
  · intro hold
    refine Option.eq_none_iff_forall_ne_some.2 fun j hj => ?_
    obtain ⟨since, he, hs⟩ := fresh?_eq_some.1 hj
    exact absurd hs (Nat.not_lt.2 (hold _ he))

/-- A look at a cache that holds a fresh key. -/
theorem lookup_of_fresh {j : Jwk} (h : c.fresh? now kid = some j) :
    c.lookup now kid = (.hit j, c) := by
  obtain ⟨since, he, ha⟩ := fresh?_eq_some.1 h
  rw [lookup, KeyStore.lookup_of_get?_eq_some he, if_pos ha]

/-- A look at a cache that holds no fresh key. -/
theorem lookup_of_stale (h : c.fresh? now kid = none) :
    c.lookup now kid = (.absent, c) ∧ c.swept now kid = c ∨
      c.lookup now kid = (.expired, c.swept now kid) := by
  unfold swept lookup
  cases he : c.store.get? kid with
  | none =>
    rw [KeyStore.lookup_of_get?_eq_none he]
    exact .inl ⟨rfl, rfl⟩
  | some e =>
    rw [KeyStore.lookup_of_get?_eq_some he, if_neg (Nat.not_lt.2 (fresh?_eq_none.1 h e he))]
    exact .inr rfl

/-- A look that finds nothing fresh leaves nothing for the id, and all other keys. -/
theorem get?_swept (h : c.fresh? now kid = none) :
    (c.swept now kid).store.get? k = if k = kid then none else c.store.get? k := by
  unfold swept lookup
  cases he : c.store.get? kid with
  | none =>
    rw [KeyStore.lookup_of_get?_eq_none he]
    by_cases hk : k = kid
    · rw [if_pos hk, hk]
      exact he
    · rw [if_neg hk]
  | some e =>
    rw [KeyStore.lookup_of_get?_eq_some he, if_neg (Nat.not_lt.2 (fresh?_eq_none.1 h e he))]
    exact KeyStore.get?_erase c.store kid k

/-! ## Fetches under way -/

theorem flight?_isSome : (c.flight? kid).isSome = true ↔ kid ∈ c.kids := by
  unfold flight? kids
  rw [List.find?_isSome, List.mem_map]
  simp only [beq_iff_eq]

theorem flight?_eq_none : c.flight? kid = none ↔ kid ∉ c.kids := by
  rw [← flight?_isSome, Bool.not_eq_true, Option.isSome_eq_false_iff, Option.isNone_iff_eq_none]

@[simp] theorem kids_depart (c : Cache) (kid : String) : (c.depart kid).kids = kid :: c.kids := rfl

theorem kids_land (c : Cache) (kid : String) : (c.land kid).kids = c.kids.filter (· != kid) := by
  unfold land kids
  rw [List.filter_map]
  rfl

theorem kids_withFlight (c : Cache) (f : Flight) : (c.withFlight f).kids = c.kids := by
  unfold withFlight kids
  rw [List.map_map]
  refine List.map_congr_left fun g _ => ?_
  rw [Function.comp_apply]
  split
  · rename_i h
    exact h.symm
  · rfl

theorem kids_leave (c : Cache) (kid : String) (place : Nat) : (c.leave kid place).kids = c.kids := by
  unfold leave
  split
  · exact kids_withFlight _ _
  · rfl

@[simp] theorem store_leave (c : Cache) (kid : String) (place : Nat) :
    (c.leave kid place).store = c.store := by
  unfold leave
  split <;> rfl

@[simp] theorem limits_leave (c : Cache) (kid : String) (place : Nat) :
    (c.leave kid place).limits = c.limits := by
  unfold leave
  split <;> rfl

end Cache

end SigningKeys
