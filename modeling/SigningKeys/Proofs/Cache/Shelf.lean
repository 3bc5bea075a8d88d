import Mathlib.Data.List.Nodup
import Mathlib.Data.List.Perm.Basic
import SigningKeys.Proofs.Cache.Lookup

/-!
# A store is a list

A store keeps its keys by id, and next to them the ids in the order in which they came. The two
always tell the same: together they are one list of keys, the oldest first. To look for a key can
only drop the key that was looked for, and to put one in drops what was stored for its id, or else
the oldest key of a full list.

* `Shelf`, `Shelf.lookup`, `Shelf.insert`: the list;
* `KeyStore.Lists`: a store tells the same as a list;
* `StoreStep`, `KeyStore.run`, `Shelf.run`: the passing of time, looks and keys that are put in, one
  after the other;
* `KeyStore.Tidy`: what holds of the two parts of a store;
* **`lists_run`**: a store and a list give the same answers and end up telling the same.
-/

namespace SigningKeys

/-- Keys with their ids, the oldest first. -/
abbrev Shelf := List (String × Stored)

namespace Shelf

/-- Look for a key. One that is too old is dropped, and nothing else. -/
def lookup (l : Shelf) (ttl : Duration) (now : Instant) (kid : String) : Lookup × Shelf :=
  match l.find? (·.1 == kid) with
  | none => (.absent, l)
  | some e =>
    if elapsed now e.2.since < ttl.nanos then (.hit e.2.key, l) else (.expired, l.filter (·.1 != kid))

/-- Put a key in, as the newest one. What was there for its id is dropped; if nothing was, a full
list drops the oldest key. -/
def insert (l : Shelf) (capacity : Nat) (now : Instant) (kid : String) (j : Jwk) : Shelf :=
  (if kid ∈ l.map (·.1) then l.filter (·.1 != kid)
    else if l.length = capacity then l.tail else l) ++ [(kid, ⟨j, now⟩)]

/-- A list with room for all its keys, in the order of their instants, none of which lies ahead. -/
structure Aged (capacity : Nat) (now : Instant) (l : Shelf) : Prop where
  length_le : l.length ≤ capacity
  sorted : l.Pairwise fun e e' => e.2.since ≤ e'.2.since
  since_le : ∀ e ∈ l, e.2.since ≤ now

variable {capacity : Nat} {now : Instant} {l : Shelf}

theorem Aged.later (h : l.Aged capacity now) (n : Nat) : l.Aged capacity (now + n) :=
  { h with since_le := fun e he => Nat.le_trans (h.since_le e he) (Nat.le_add_right _ _) }

theorem Aged.sublist {m : Shelf} (h : l.Aged capacity now) (hm : m.Sublist l) :
    m.Aged capacity now where
  length_le := Nat.le_trans hm.length_le h.length_le
  sorted := h.sorted.sublist hm
  since_le := fun e he => h.since_le e (hm.subset he)

theorem Aged.lookup (h : l.Aged capacity now) (ttl : Duration) (kid : String) :
    (l.lookup ttl now kid).2.Aged capacity now := by
  unfold Shelf.lookup
  split
  · exact h
  · split
    · exact h
    · exact h.sublist List.filter_sublist

theorem length_filter_lt {kid : String} (h : kid ∈ l.map (·.1)) :
    (l.filter (·.1 != kid)).length < l.length := by
  obtain ⟨e, he, rfl⟩ := List.mem_map.1 h
  refine List.length_filter_lt_length_iff_exists.2 ⟨e, he, ?_⟩
  simp

theorem Aged.insert (h : l.Aged capacity now) (hc : 0 < capacity) (kid : String) (j : Jwk) :
    (l.insert capacity now kid j).Aged capacity now := by
  -- what is dropped makes room for one more
  have hroom : ∃ m : Shelf, m.Sublist l ∧ m.length < capacity ∧
      l.insert capacity now kid j = m ++ [(kid, ⟨j, now⟩)] := by
    have hle := h.length_le
    unfold Shelf.insert
    split
    · rename_i hk
      exact ⟨_, List.filter_sublist, Nat.lt_of_lt_of_le (length_filter_lt hk) hle, rfl⟩
    · split
      · refine ⟨_, List.tail_sublist l, ?_, rfl⟩
        rw [List.length_tail]
        omega
      · exact ⟨l, List.Sublist.refl l, by omega, rfl⟩
  obtain ⟨m, hm, hlt, heq⟩ := hroom
  have hold := h.sublist hm
  rw [heq]
  constructor
  case length_le =>
    rw [List.length_append]
    exact hlt
  case sorted =>
    refine List.pairwise_append.2 ⟨hold.sorted, List.pairwise_singleton _ _, fun e he e' he' => ?_⟩
    rw [List.mem_singleton.1 he']
    exact hold.since_le e he
  case since_le =>
    intro e he
    rcases List.mem_append.1 he with he | he
    · exact hold.since_le e he
    · cases List.mem_singleton.1 he
      exact Nat.le_refl now

theorem find?_eq_some (h : (l.map (·.1)).Nodup) {kid : String} {e : String × Stored} :
    l.find? (·.1 == kid) = some e ↔ e ∈ l ∧ e.1 = kid := by
  constructor
  · intro he
    exact ⟨List.mem_of_find?_eq_some he, by simpa using List.find?_some he⟩
  · rintro ⟨he, hk⟩
    induction l with
    | nil => cases he
    | cons e' l ih =>
      rw [List.map_cons, List.nodup_cons] at h
      rcases List.mem_cons.1 he with rfl | he
      · rw [List.find?_cons_of_pos (by simp [hk])]
      · have hne : e'.1 ≠ kid := fun h' => h.1 (List.mem_map.2 ⟨e, he, hk.trans h'.symm⟩)
        rw [List.find?_cons_of_neg (by simpa using hne)]
        exact ih h.2 he

theorem find?_eq_none {kid : String} : l.find? (·.1 == kid) = none ↔ kid ∉ l.map (·.1) := by
  rw [List.find?_eq_none, List.mem_map]
  simp only [beq_iff_eq, not_exists, not_and]

end Shelf

namespace KeyStore

/-- **A store tells the same as a list**: the ids are those of the list, in its order, each of them
once, and the keys by id are the keys of the list. -/
structure Lists (s : KeyStore) (l : Shelf) : Prop where
  order_eq : s.order = l.map (·.1)
  perm : s.byKid.Perm l
  nodup : s.order.Nodup

variable {s : KeyStore} {l : Shelf} {kid : String} {now : Instant}

theorem Lists.keys_nodup (h : s.Lists l) : (l.map (·.1)).Nodup := h.order_eq ▸ h.nodup

/-- Both find the same key. -/
theorem Lists.get?_eq (h : s.Lists l) (kid : String) :
    s.get? kid = (l.find? (·.1 == kid)).map (·.2) := by
  have hlookup : ∀ m : List (String × Stored), m.lookup kid = (m.find? (·.1 == kid)).map (·.2) := by
    intro m
    induction m with
    | nil => rfl
    | cons e m ih =>
      by_cases he : e.1 = kid
      · rw [List.lookup_cons, List.find?_cons_of_pos (by simp [he]), he, beq_self_eq_true]
        rfl
      · have hne : (kid == e.1) = false := by simp [Ne.symm he]
        rw [List.lookup_cons, hne, List.find?_cons_of_neg (by simp [he])]
        exact ih
  have hfind : s.byKid.find? (·.1 == kid) = l.find? (·.1 == kid) := by
    refine Option.ext fun e => ?_
    rw [Shelf.find?_eq_some h.keys_nodup,
      Shelf.find?_eq_some ((h.perm.map _).nodup_iff.2 h.keys_nodup), h.perm.mem_iff]
  rw [get?, hlookup, hfind]

theorem Lists.get?_eq_none (h : s.Lists l) : s.get? kid = none ↔ kid ∉ l.map (·.1) := by
  rw [h.get?_eq, Option.map_eq_none_iff, Shelf.find?_eq_none]

theorem Lists.erase (h : s.Lists l) (kid : String) :
    (s.erase kid).Lists (l.filter (·.1 != kid)) := by
  unfold KeyStore.erase
  split
  · constructor
    case order_eq =>
      dsimp only
      rw [h.order_eq, List.filter_map]
      rfl
    case perm => exact h.perm.filter _
    case nodup => exact h.nodup.filter _
  · rename_i hnone
    rw [Option.not_isSome_iff_eq_none, h.get?_eq_none] at hnone
    have hself : l.filter (·.1 != kid) = l := by
      refine List.filter_eq_self.2 fun e he => ?_
      rw [bne_iff_ne]
      exact fun hk => hnone (List.mem_map.2 ⟨e, he, hk⟩)
    rwa [hself]

/-- To make room is to drop as many of the oldest keys as there are too many. -/
theorem lists_makeRoom {capacity : Nat} {entries : List (String × Stored)}
    (hp : entries.Perm l) (hn : (l.map (·.1)).Nodup) :
    (makeRoom capacity entries (l.map (·.1))).Lists (l.drop (l.length + 1 - capacity)) := by
  induction l generalizing entries with
  | nil =>
    rw [List.drop_nil]
    exact ⟨rfl, hp, List.nodup_nil⟩
  | cons e l ih =>
    have hlen := hp.length_eq
    rw [List.length_cons] at hlen ⊢
    rw [List.map_cons, makeRoom]
    split
    · have hzero : l.length + 1 + 1 - capacity = 0 := by omega
      rw [hzero, List.drop_zero]
      exact ⟨rfl, hp, hn⟩
    · have hdrop : l.length + 1 + 1 - capacity = l.length + 1 - capacity + 1 := by omega
      rw [hdrop, List.drop_succ_cons]
      rw [List.map_cons, List.nodup_cons] at hn
      refine ih ?_ hn.2
      -- the oldest key goes, and it is the only one of its id
      have hrest : (e :: l).filter (·.1 != e.1) = l := by
        rw [List.filter_cons_of_neg (by simp), List.filter_eq_self]
        intro e' he'
        rw [bne_iff_ne]
        exact fun hk => hn.1 (List.mem_map.2 ⟨e', he', hk⟩)
      have hfilter := hp.filter (·.1 != e.1)
      rw [hrest] at hfilter
      exact hfilter

/-- **To put a key in** does the same to a store and to a list that has no more keys than fit. -/
theorem Lists.insert {capacity : Nat} (h : s.Lists l) (hl : l.length ≤ capacity) (now : Instant)
    (kid : String) (j : Jwk) :
    (s.insert capacity now kid j).Lists (l.insert capacity now kid j) := by
  have herase := h.erase kid
  have hroom : (makeRoom capacity (s.erase kid).byKid (s.erase kid).order).Lists _ :=
    herase.order_eq ▸ lists_makeRoom herase.perm herase.keys_nodup
  have hdrop : (l.filter (·.1 != kid)).drop ((l.filter (·.1 != kid)).length + 1 - capacity) =
      if kid ∈ l.map (·.1) then l.filter (·.1 != kid)
        else if l.length = capacity then l.tail else l := by
    split
    · rename_i hk
      have hlt := Shelf.length_filter_lt hk
      have hzero : (l.filter (·.1 != kid)).length + 1 - capacity = 0 := by omega
      rw [hzero, List.drop_zero]
    · rename_i hk
      have hself : l.filter (·.1 != kid) = l := by
        refine List.filter_eq_self.2 fun e he => ?_
        rw [bne_iff_ne]
        exact fun hk' => hk (List.mem_map.2 ⟨e, he, hk'⟩)
      rw [hself]
      split
      · have hone : l.length + 1 - capacity = 1 := by omega
        rw [hone, List.drop_one]
      · have hzero : l.length + 1 - capacity = 0 := by omega
        rw [hzero, List.drop_zero]
  have hnew : kid ∉ (l.filter (·.1 != kid)).map (·.1) := by simp
  rw [KeyStore.insert, Shelf.insert, ← hdrop]
  constructor
  case order_eq =>
    dsimp only
    rw [hroom.order_eq, List.map_append]
    rfl
  case perm =>
    dsimp only
    exact (hroom.perm.cons _).trans (List.perm_append_singleton _ _).symm
  case nodup =>
    dsimp only
    rw [hroom.order_eq]
    refine List.Nodup.append hroom.keys_nodup (List.nodup_singleton kid) ?_
    rw [List.disjoint_singleton]
    exact fun hk => hnew (((List.drop_sublist _ _).map _).subset hk)

/-- **To look for a key** gives the same answer for a store and a list, and does the same to them. -/
theorem Lists.lookup (h : s.Lists l) (ttl : Duration) (now : Instant) (kid : String) :
    (s.lookup ttl now kid).1 = (l.lookup ttl now kid).1 ∧
      (s.lookup ttl now kid).2.Lists (l.lookup ttl now kid).2 := by
  have hget := h.get?_eq kid
  rw [KeyStore.lookup, Shelf.lookup]
  cases hfind : l.find? (·.1 == kid) with
  | none =>
    rw [hget, hfind]
    exact ⟨rfl, h⟩
  | some e =>
    rw [hget, hfind]
    dsimp only [Option.map_some]
    by_cases hage : elapsed now e.2.since < ttl.nanos
    · rw [if_pos hage, if_pos hage]
      exact ⟨rfl, h⟩
    · rw [if_neg hage, if_neg hage]
      exact ⟨rfl, h.erase kid⟩

end KeyStore

/-! ## Runs -/

/-- A step of a run of a store: time passes, a key is looked for, or one is put in. -/
inductive StoreStep where
  | pass (nanos : Nat)
  | lookup (kid : String)
  | insert (kid : String) (j : Jwk)

namespace StoreStep

/-- How far the clock moves in a run. -/
def duration : List StoreStep → Nat
  | [] => 0
  | .pass n :: steps => n + duration steps
  | .lookup _ :: steps | .insert _ _ :: steps => duration steps

theorem duration_append (steps more : List StoreStep) :
    duration (steps ++ more) = duration steps + duration more := by
  induction steps with
  | nil => simp [duration]
  | cons step steps ih =>
    cases step with
    | pass n => simp only [List.cons_append, duration, ih]; omega
    | lookup kid | insert kid j => exact ih

end StoreStep

/-- **A run of a store** from an instant on: what the looks find, and the store afterwards. -/
def KeyStore.run (s : KeyStore) (l : CacheLimits) (now : Instant) :
    List StoreStep → List Lookup × KeyStore
  | [] => ([], s)
  | .pass n :: steps => s.run l (now + n) steps
  | .lookup kid :: steps =>
    ((s.lookup l.ttl now kid).1 :: ((s.lookup l.ttl now kid).2.run l now steps).1,
      ((s.lookup l.ttl now kid).2.run l now steps).2)
  | .insert kid j :: steps => (s.insert l.capacity now kid j).run l now steps

/-- A run of a list, with the same steps. -/
def Shelf.run (m : Shelf) (l : CacheLimits) (now : Instant) :
    List StoreStep → List Lookup × Shelf
  | [] => ([], m)
  | .pass n :: steps => Shelf.run m l (now + n) steps
  | .lookup kid :: steps =>
    ((m.lookup l.ttl now kid).1 :: (Shelf.run (m.lookup l.ttl now kid).2 l now steps).1,
      (Shelf.run (m.lookup l.ttl now kid).2 l now steps).2)
  | .insert kid j :: steps => Shelf.run (m.insert l.capacity now kid j) l now steps

namespace KeyStore

/-- **The two parts of a store**: the ids are the keys of the map, each of them once, no more than
fit, and in the order in which their keys were put in. -/
structure Tidy (capacity : Nat) (s : KeyStore) : Prop where
  nodup : s.order.Nodup
  keys : (s.byKid.map (·.1)).Perm s.order
  size_le : s.size ≤ capacity
  sorted : s.order.Pairwise fun k k' => ∀ e e', s.get? k = some e → s.get? k' = some e' →
    e.since ≤ e'.since

variable {s : KeyStore} {m : Shelf} {capacity : Nat} {now : Instant}

theorem Lists.tidy (h : s.Lists m) (hm : m.Aged capacity now) : s.Tidy capacity := by
  have hkeys : (s.byKid.map (·.1)).Perm s.order := h.order_eq ▸ h.perm.map _
  have hget : ∀ e ∈ m, s.get? e.1 = some e.2 := by
    intro e he
    rw [h.get?_eq, (Shelf.find?_eq_some h.keys_nodup).2 ⟨he, rfl⟩]
    rfl
  have hsize : s.size ≤ capacity := Nat.le_trans (Nat.le_of_eq h.perm.length_eq) hm.length_le
  refine ⟨h.nodup, hkeys, hsize, ?_⟩
  rw [h.order_eq, List.pairwise_map]
  refine hm.sorted.imp_of_mem fun he he' hle x x' hx hx' => ?_
  rw [hget _ he] at hx
  rw [hget _ he'] at hx'
  cases hx
  cases hx'
  exact hle

theorem run_append (s : KeyStore) (l : CacheLimits) (now : Instant) (steps more : List StoreStep) :
    (s.run l now (steps ++ more)).2 =
      ((s.run l now steps).2.run l (now + StoreStep.duration steps) more).2 := by
  induction steps generalizing s now with
  | nil => rfl
  | cons step steps ih =>
    cases step with
    | pass n =>
      have hsum : now + n + StoreStep.duration steps =
          now + StoreStep.duration (.pass n :: steps) := Nat.add_assoc _ _ _
      rw [List.cons_append, run, run, ih, hsum]
    | lookup kid => exact ih _ _
    | insert kid j => exact ih _ _

/-- A store is empty as long as nothing is put in. -/
theorem run_empty {l : CacheLimits} {steps : List StoreStep}
    (h : ∀ kid j, .insert kid j ∉ steps) : (({} : KeyStore).run l now steps).2 = {} := by
  induction steps generalizing now with
  | nil => rfl
  | cons step steps ih =>
    have hrest : ∀ kid j, .insert kid j ∉ steps :=
      fun kid j hmem => h kid j (List.mem_cons_of_mem _ hmem)
    cases step with
    | pass n | lookup kid => exact ih hrest
    | insert kid j => exact absurd List.mem_cons_self (h kid j)

/-- **A store and a list give the same answers**, and end up telling the same. -/
theorem lists_run (l : CacheLimits) (steps : List StoreStep) (h : s.Lists m)
    (hm : m.Aged l.capacity now) :
    (s.run l now steps).1 = (Shelf.run m l now steps).1 ∧
      (s.run l now steps).2.Lists (Shelf.run m l now steps).2 ∧
      (Shelf.run m l now steps).2.Aged l.capacity (now + StoreStep.duration steps) := by
  induction steps generalizing s m now with
  | nil => exact ⟨rfl, h, hm⟩
  | cons step steps ih =>
    cases step with
    | pass n =>
      obtain ⟨hanswers, hlists, haged⟩ := ih h (hm.later n)
      rw [Nat.add_assoc] at haged
      exact ⟨hanswers, hlists, haged⟩
    | lookup kid =>
      obtain ⟨hfound, hswept⟩ := h.lookup l.ttl now kid
      obtain ⟨hanswers, hlists, haged⟩ := ih hswept (hm.lookup l.ttl kid)
      exact ⟨congrArg₂ (· :: ·) hfound hanswers, hlists, haged⟩
    | insert kid j => exact ih (h.insert hm.length_le now kid j) (hm.insert l.capacity_pos kid j)

theorem lists_empty : ({} : KeyStore).Lists [] := ⟨rfl, .nil, List.nodup_nil⟩

end KeyStore

theorem Shelf.aged_empty (capacity : Nat) (now : Instant) : Shelf.Aged capacity now [] :=
  ⟨Nat.zero_le _, .nil, fun _ h => absurd h List.not_mem_nil⟩

end SigningKeys
