import Mathlib.Data.List.Nodup
import SigningKeys.Proofs.Run.Wired

/-!
# Fetches under way

What a cache notes about the fetches of keys agrees with the tasks that make them, as long as the
cache can be reached. A cache out of reach stays out of reach, and nobody waits for its fetches.

* `Task.fetches`, `State.fetching`: the tasks that fetch a key for a cache;
* `Cache.Apart`: no key is fetched twice at a time, or while it is stored;
* `State.Flying`: the invariant;
* **`Flying.part`**: every part of a move keeps the invariant.
-/

namespace SigningKeys

/-- Whether a task fetches a key for a cache. -/
def Task.fetches (c : Nat) (kid : String) (t : Task) : Bool := t.role == .fetch c && t.kid == kid

theorem Task.fetches_eq_true {c : Nat} {kid : String} {t : Task} :
    t.fetches c kid = true ↔ t.role = .fetch c ∧ t.kid = kid := by
  simp [fetches]

theorem Task.fetches_of_role_ne {c : Nat} {t : Task} (h : t.role ≠ .fetch c) (kid : String) :
    t.fetches c kid = false := by
  rw [← Bool.not_eq_true, fetches_eq_true]
  exact fun hr => h hr.1

theorem Task.fetches_caller {t : Task} {id : Nat} (h : t.role = .caller id) (c : Nat)
    (kid : String) : t.fetches c kid = false := by
  refine fetches_of_role_ne ?_ kid
  rw [h]
  exact nofun

/-- How many tasks fetch a key for a cache. -/
def State.fetching (s : State) (c : Nat) (kid : String) : Nat := s.tasks.countP (·.fetches c kid)

namespace Cache

/-- No key is fetched twice at a time, or while it is stored. -/
structure Apart (c : Cache) : Prop where
  once : c.kids.Nodup
  unstored : ∀ kid ∈ c.kids, c.store.get? kid = none

variable {c : Cache} {now : Instant} {kid : String}

theorem Apart.of_core {d : Cache} (h : c.Apart) (hd : d.core = c.core) : d.Apart := by
  simp only [core, Prod.mk.injEq] at hd
  obtain ⟨-, hstore, hkids⟩ := hd
  constructor
  · rw [hkids]
    exact h.once
  · rw [hkids, hstore]
    exact h.unstored

theorem Apart.swept (h : c.Apart) (hf : c.fresh? now kid = none) : (c.swept now kid).Apart := by
  refine ⟨h.once, fun k hk => ?_⟩
  rw [get?_swept hf]
  split
  · rfl
  · exact h.unstored k hk

theorem Apart.withFlight (h : c.Apart) (f : Flight) : (c.withFlight f).Apart :=
  h.of_core (by rw [core, core, kids_withFlight]; rfl)

theorem Apart.depart (h : c.Apart) (hf : c.fresh? now kid = none) (hl : c.flight? kid = none) :
    ((c.swept now kid).depart kid).Apart := by
  constructor
  · rw [kids_depart]
    exact List.nodup_cons.2 ⟨flight?_eq_none.1 hl, h.once⟩
  · intro k hk
    show (c.swept now kid).store.get? k = none
    obtain rfl | hk := List.mem_cons.1 hk
    · rw [get?_swept hf, if_pos rfl]
    · exact (h.swept hf).unstored k hk

theorem Apart.land (h : c.Apart) (now : Instant) (kid : String) (o : Outcome) :
    ((c.keep now kid o).land kid).Apart := by
  constructor
  · rw [kids_land, kids_keep]
    exact h.once.filter _
  · intro k hk
    rw [kids_land, kids_keep, List.mem_filter] at hk
    have hne : k ≠ kid := by simpa using hk.2
    cases hget : ((c.keep now kid o).land kid).store.get? k with
    | none => rfl
    | some e =>
      obtain ⟨rfl, -⟩ | ⟨hold, -⟩ := get?_keep hget
      · exact absurd rfl hne
      · exact absurd (hold.symm.trans (h.unstored k hk.1)) (Option.some_ne_none e)

end Cache

namespace State

/-- **The fetches under way.** -/
structure Flying (hand : List Task) (s : State) : Prop where
  apart : ∀ (c : Nat) (cache : Cache), s.caches[c]? = some cache → cache.Apart
  fetches : ∀ (c : Nat) (cache : Cache), s.reaches hand c → s.caches[c]? = some cache →
    ∀ kid, (s.crew hand).countP (·.fetches c kid) = cache.kids.count kid
  attended : ∀ x c place, (x, .flight c place) ∈ s.parked →
    ∃ cache, s.caches[c]? = some cache ∧ x.kid ∈ cache.kids

namespace Flying

variable {s t : State} {hand hand' : List Task}

/-- Caches look the same to their users, and the tasks that fetch for those within reach are the
same. -/
theorem frame (h : s.Flying hand) (hp : Part (hand, s) (hand', t))
    (hcaches : t.caches.map Cache.core = s.caches.map Cache.core)
    (hcount : ∀ c, t.reaches hand' c → ∀ kid,
      (t.crew hand').countP (·.fetches c kid) = (s.crew hand).countP (·.fetches c kid))
    (hparked : ∀ x c place, (x, .flight c place) ∈ t.parked → (x, .flight c place) ∈ s.parked) :
    t.Flying hand' := by
  constructor
  case apart =>
    intro c d hd
    obtain ⟨cache, hcache, hcore⟩ := exists_core hcaches hd
    exact (h.apart c cache hcache).of_core hcore
  case fetches =>
    intro c d hr hd kid
    obtain ⟨cache, hcache, hcore⟩ := exists_core hcaches hd
    have hkids : d.kids = cache.kids := congrArg (·.2.2) hcore
    have hlt := (List.getElem?_eq_some_iff.1 hcache).1
    rw [hcount c hr, hkids]
    exact h.fetches c cache ((hp.reaches hr).resolve_right (Nat.not_le.2 hlt)) hcache kid
  case attended =>
    intro x c place hx
    obtain ⟨cache, hcache, hmem⟩ := h.attended x c place (hparked x c place hx)
    obtain ⟨d, hd, hcore⟩ := exists_core hcaches.symm hcache
    have hkids : cache.kids = d.kids := congrArg (·.2.2) hcore
    exact ⟨d, hd, hkids ▸ hmem⟩

/-- One cache is replaced. The tasks that fetch for the others are the same, and those that fetch
for the new one agree with it. -/
theorem set {c : Nat} {cache cache' : Cache} (h : s.Flying hand) (hp : Part (hand, s) (hand', t))
    (hc : s.caches[c]? = some cache) (hcaches : t.caches = s.caches.set c cache')
    (hapart : cache'.Apart)
    (hother : ∀ d ≠ c, ∀ kid,
      (t.crew hand').countP (·.fetches d kid) = (s.crew hand).countP (·.fetches d kid))
    (hown : (∀ kid, (s.crew hand).countP (·.fetches c kid) = cache.kids.count kid) →
      ∀ kid, (t.crew hand').countP (·.fetches c kid) = cache'.kids.count kid)
    (hparked : ∀ x d place, (x, .flight d place) ∈ t.parked →
      (x, .flight d place) ∈ s.parked ∧ (d = c → x.kid ∈ cache.kids → x.kid ∈ cache'.kids) ∨
        d = c ∧ x.kid ∈ cache'.kids) : t.Flying hand' := by
  have hself : t.caches[c]? = some cache' := by
    rw [hcaches, List.getElem?_set_self (List.getElem?_eq_some_iff.1 hc).1]
  have hne : ∀ d ≠ c, t.caches[d]? = s.caches[d]? := by
    intro d hd
    rw [hcaches, List.getElem?_set_ne hd.symm]
  have hreach : ∀ d old, s.caches[d]? = some old → t.reaches hand' d → s.reaches hand d :=
    fun d old hd hr => (hp.reaches hr).resolve_right
      (Nat.not_le.2 (List.getElem?_eq_some_iff.1 hd).1)
  constructor
  case apart =>
    intro d dcache hd
    by_cases hdc : d = c
    · rw [hdc, hself] at hd
      exact Option.some.inj hd ▸ hapart
    · exact h.apart d dcache (hne d hdc ▸ hd)
  case fetches =>
    intro d dcache hr hd kid
    by_cases hdc : d = c
    · rw [hdc, hself] at hd
      rw [hdc] at hr ⊢
      rw [← Option.some.inj hd]
      exact hown (h.fetches c cache (hreach c cache hc hr) hc) kid
    · rw [hne d hdc] at hd
      rw [hother d hdc]
      exact h.fetches d dcache (hreach d dcache hd hr) hd kid
  case attended =>
    intro x d place hx
    rcases hparked x d place hx with ⟨hx, hkeep⟩ | ⟨rfl, hk⟩
    · obtain ⟨old, hold, hk⟩ := h.attended x d place hx
      by_cases hdc : d = c
      · rw [hdc, hc] at hold
        cases hold
        exact ⟨cache', hdc ▸ hself, hkeep hdc hk⟩
      · exact ⟨old, (hne d hdc).trans hold, hk⟩
    · exact ⟨cache', hself, hk⟩

theorem build {behind : List Provider} {base : Provider} {l : Layers} (h : s.Flying [])
    (hw : s.Wired behind [])
    (hp : Part ([], s) ([], (s.install base l).2.hold (s.install base l).1)) :
    ((s.install base l).2.hold (s.install base l).1).Flying [] := by
  obtain ⟨bs, cs, heq, hcs, -⟩ := s.install_eq base l
  rw [heq] at hp ⊢
  have hcaches : ∀ (c : Nat) (cache : Cache), (s.caches ++ cs)[c]? = some cache →
      s.caches[c]? = some cache ∨ s.caches.length ≤ c ∧ cache ∈ cs := by
    intro c cache hc
    rcases Nat.lt_or_ge c s.caches.length with hlt | hge
    · rw [List.getElem?_append_left hlt] at hc
      exact .inl hc
    · rw [List.getElem?_append_right hge] at hc
      exact .inr ⟨hge, List.mem_of_getElem? hc⟩
  have hnew : ∀ cache ∈ cs, cache.kids = [] := by
    intro cache hmem
    rw [Cache.kids, (hcs cache hmem).2]
    rfl
  constructor
  case apart =>
    intro c cache hc
    rcases hcaches c cache hc with hc | ⟨-, hmem⟩
    · exact h.apart c cache hc
    · exact ⟨by rw [hnew cache hmem]; exact List.nodup_nil, by simp [hnew cache hmem]⟩
  case fetches =>
    intro c cache hr hc kid
    rcases hcaches c cache hc with hc | ⟨hge, hmem⟩
    · have hlt := (List.getElem?_eq_some_iff.1 hc).1
      exact h.fetches c cache ((hp.reaches hr).resolve_right (Nat.not_le.2 hlt)) hc kid
    · rw [hnew cache hmem, List.count_nil, List.countP_eq_zero]
      intro x hx hfetch
      have hlt := (List.getElem?_eq_some_iff.1
        (hw.role x hx c (Task.fetches_eq_true.1 hfetch).1)).1
      rw [hw.caches] at hlt
      omega
  case attended =>
    intro x c place hx
    obtain ⟨cache, hc, hk⟩ := h.attended x c place hx
    have hlt := (List.getElem?_eq_some_iff.1 hc).1
    exact ⟨cache, (List.getElem?_append_left hlt).trans hc, hk⟩

theorem joined {x : Task} {c : Nat} {cache cache' : Cache} {place : Nat} (h : s.Flying [x])
    (hp : Part ([x], s) ([], (s.setCache c cache').park x (.flight c place)))
    (hc : s.caches[c]? = some cache) (hapart : cache'.Apart) (hkids : cache'.kids = cache.kids)
    (hmem : x.kid ∈ cache.kids) : ((s.setCache c cache').park x (.flight c place)).Flying [] := by
  have hperm : (((s.setCache c cache').park x (.flight c place)).crew []).Perm (s.crew [x]) :=
    perm_park _ _ _
  refine h.set hp hc rfl hapart (fun d _ kid => hperm.countP_eq _) ?_ ?_
  · intro hown kid
    rw [hkids, hperm.countP_eq, hown]
  · intro y d place hy
    rw [hkids]
    rcases List.mem_append.1 hy with hy | hy
    · exact .inl ⟨hy, fun _ => id⟩
    · cases List.mem_singleton.1 hy
      exact .inr ⟨rfl, hmem⟩

theorem started {x : Task} {inner : Provider} {c : Nat} {cache cache' : Cache} (h : s.Flying [x])
    (hp : Part ([x], s) ([], ((s.setCache c cache').enqueue ⟨.fetch c, x.kid, inner⟩
      .calling).park x (.flight c 0)))
    (hc : s.caches[c]? = some cache) (hapart : cache'.Apart)
    (hkids : cache'.kids = x.kid :: cache.kids) :
    (((s.setCache c cache').enqueue ⟨.fetch c, x.kid, inner⟩ .calling).park x
      (.flight c 0)).Flying [] := by
  have hperm : ((((s.setCache c cache').enqueue ⟨.fetch c, x.kid, inner⟩ .calling).park x
      (.flight c 0)).crew []).Perm (⟨.fetch c, x.kid, inner⟩ :: s.crew [x]) :=
    (perm_park _ _ _).trans (crew_enqueue (s.setCache c cache') [x] _ _)
  refine h.set hp hc rfl hapart ?_ ?_ ?_
  · intro d hd kid
    rw [hperm.countP_eq, List.countP_cons, Task.fetches_of_role_ne]
    · rfl
    · exact fun he => hd (Role.fetch.inj he).symm
  · intro hown kid
    rw [hkids, hperm.countP_eq, List.countP_cons, hown, List.count_cons]
    simp [Task.fetches]
  · intro y d place hy
    rw [hkids]
    rcases List.mem_append.1 hy with hy | hy
    · exact .inl ⟨hy, fun _ => List.mem_cons_of_mem _⟩
    · cases List.mem_singleton.1 hy
      exact .inr ⟨rfl, List.mem_cons_self⟩

theorem landed {x : Task} {c : Nat} {cache cache' : Cache} {o : Outcome} {m : Meter}
    (h : s.Flying [x])
    (hp : Part ([x], s) ([], { s.setCache c cache' with meter := m }.tell c x.kid o.share))
    (hrole : x.role = .fetch c) (hc : s.caches[c]? = some cache) (hapart : cache'.Apart)
    (hkids : cache'.kids = cache.kids.filter (· != x.kid)) :
    ({ s.setCache c cache' with meter := m }.tell c x.kid o.share).Flying [] := by
  have honce := List.nodup_iff_count_le_one.1 (h.apart c cache hc).once
  have hperm : (({ s.setCache c cache' with meter := m }.tell c x.kid o.share).crew []).Perm
      s.tasks := perm_tell { s.setCache c cache' with meter := m } c x.kid o.share
  have hcons : ∀ d kid, (s.crew [x]).countP (·.fetches d kid) =
      s.tasks.countP (·.fetches d kid) + if x.fetches d kid then 1 else 0 :=
    fun d kid => List.countP_cons
  refine h.set hp hc rfl hapart ?_ ?_ ?_
  · intro d hd kid
    have hx : x.role ≠ .fetch d := fun he => hd (Role.fetch.inj (he.symm.trans hrole))
    rw [hperm.countP_eq, hcons, Task.fetches_of_role_ne hx]
    rfl
  · intro hown kid
    have hbefore := hown kid
    rw [hcons] at hbefore
    rw [hkids, hperm.countP_eq]
    by_cases hk : kid = x.kid
    · -- the task in hand was the only one that fetched its key
      have hle := honce kid
      rw [if_pos (Task.fetches_eq_true.2 ⟨hrole, hk.symm⟩)] at hbefore
      rw [List.count_eq_zero_of_not_mem]
      · omega
      · simp [hk]
    · rw [if_neg fun hx => hk (Task.fetches_eq_true.1 hx).2.symm] at hbefore
      rw [List.count_filter (by simpa using hk)]
      exact hbefore
  · intro y d place hy
    obtain ⟨hy, hnot⟩ := List.mem_filter.1 hy
    refine .inl ⟨hy, fun hd hk => ?_⟩
    rw [hkids, List.mem_filter, bne_iff_ne]
    refine ⟨hk, fun he => ?_⟩
    -- those that waited for the fetch of the same key were told
    rw [placeFor?_eq_some.2 ⟨he, by rw [hd]⟩] at hnot
    cases hnot

/-- **Every part of a move keeps the invariant.** -/
theorem part {behind : List Provider} (hw : s.Wired behind hand) (h : s.Flying hand)
    (hp : Part (hand, s) (hand', t)) : t.Flying hand' := by
  have hp' := hp
  cases hp with
  | quiet quiet =>
    obtain ⟨now, sources, buckets, meter, requests, delay, reads, -, -, -, rfl⟩ := quiet
    exact h.frame hp' rfl (fun _ _ _ => rfl) (fun _ _ _ => id)
  | skip | dropped => exact h.frame hp' rfl (fun _ _ _ => rfl) (fun _ _ _ => id)
  | pick ready =>
    exact h.frame hp' rfl (fun _ _ _ => (perm_eraseIdx_ready ready).symm.countP_eq _)
      (fun _ _ _ => id)
  | gated core =>
    refine h.frame hp' rfl (fun _ _ _ => (perm_park _ _ _).countP_eq _) (fun y d place hy => ?_)
    rcases List.mem_append.1 hy with hy | hy
    · exact hy
    · exact absurd (congrArg Prod.snd (List.mem_singleton.1 hy)) Spot.noConfusion
  | passed passes =>
    have hperm := passes.perm
    obtain ⟨x, i, n, rest, -, hsub, rfl⟩ := passes
    exact h.frame hp' rfl (fun _ _ _ => hperm.countP_eq _) (fun _ _ _ hy => hsub.subset hy)
  | @spawn _ p kid held =>
    refine h.frame hp' rfl (fun c _ k => ?_) (fun _ _ _ => id)
    rw [spawn, (crew_enqueue _ [] _ _).countP_eq, List.countP_cons, Task.fetches_caller rfl]
    rfl
  | @ended _ x _ o role =>
    refine h.frame hp' rfl (fun c _ kid => ?_) (fun _ _ _ => id)
    show s.tasks.countP _ = (x :: s.tasks).countP _
    rw [List.countP_cons, Task.fetches_caller role]
    rfl
  | @lost _ x c role dead =>
    refine h.frame hp' rfl (fun d hr kid => ?_) (fun _ _ _ => id)
    -- the cache of the fetch is out of reach, so the fetch is for another one
    have hx : x.role ≠ .fetch d := by
      rw [role]
      rintro ⟨⟩
      rw [(holds_iff _ _).2 hr] at dead
      exact Bool.noConfusion dead
    show s.tasks.countP _ = (x :: s.tasks).countP _
    rw [List.countP_cons, Task.fetches_of_role_ne hx]
    rfl
  | @left _ x spot _ parked role =>
    obtain ⟨cs, hcs, heq⟩ := leave_eq { s with parked := s.parked.erase (x, spot) } x.kid spot
    rw [heq] at hp' ⊢
    refine h.frame hp' hcs (fun c _ kid => ?_) (fun _ _ _ hy => List.mem_of_mem_erase hy)
    refine Eq.symm (((perm_of_mem_parked parked).countP_eq _).trans ?_)
    rw [List.countP_cons, Task.fetches_caller role]
    rfl
  | @asked _ x e core =>
    exact h.frame hp' rfl (fun _ _ _ => (perm_enqueue s x (.fetching e)).countP_eq _)
      (fun _ _ _ => id)
  | struck =>
    refine h.frame hp' rfl (fun c _ kid => ?_) (fun _ _ _ hy => hy)
    show ((s.ready.filter _).map (·.1) ++ _).countP _ = (s.ready.map (·.1) ++ _).countP _
    simp only [List.countP_append, List.countP_map, List.countP_filter]
    congr 1
    refine List.countP_congr fun e _ => ?_
    simp only [Function.comp_apply, Bool.and_eq_true, Task.fetches_eq_true]
    constructor
    · exact And.left
    · intro he
      simp [he]
  | build => exact h.build hw hp'
  | joined core found stale flight =>
    exact h.joined hp' found (((h.apart _ _ found).swept stale).withFlight _)
      (Cache.kids_withFlight _ _) (Cache.flight?_isSome.1 (by rw [flight]; rfl))
  | started core found stale flight =>
    exact h.started hp' found ((h.apart _ _ found).depart stale flight) rfl
  | landed role live found =>
    exact h.landed hp' role found ((h.apart _ _ found).land _ _ _)
      (by rw [Cache.kids_land, Cache.kids_keep])

end Flying

theorem flying_blank (sources : List Source) (network : Network) :
    (blank sources network).Flying [] := by
  constructor
  case apart => exact fun c cache h => absurd h (by simp [blank])
  case fetches => exact fun c cache _ h => absurd h (by simp [blank])
  case attended => exact fun x c place h => absurd h List.not_mem_nil

end State

end SigningKeys
