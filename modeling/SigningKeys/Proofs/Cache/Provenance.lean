import SigningKeys.Proofs.Run.Fetches
import SigningKeys.Proofs.Run.Traces

/-!
# Where answers come from

A call of a cache that ends with a key got it from the store or from a fetch. In the first case it is
what the last successful fetch of that id brought, less than the time to live ago; in the second, the
fetch was under way when the call began, or the call had started it.

* `Turn.FromStore`, `Turn.FromFetch`: the two origins of an answer;
* `State.misses`: when a call has to fetch;
* **`provenance`**: every key comes from one of the origins, and a call starts a fetch if and only
  if it has to, in every run.
-/

namespace SigningKeys

namespace Turn

/-- **An answer from the store.** The call ends in its first turn, changes nothing but what limiters
in front of the cache do and what is counted, and takes no time. -/
structure FromStore (A : Turn) (earlier : List Turn) (c : Nat) (inner : Provider) (j : Jwk) :
    Prop where
  stage : A.stage = .calling
  alone : ∃ buckets meter, State.call A.task.kid A.task.provider A.before =
    (.ended (.key j), { A.before with buckets, meter })
  atOnce : A.after.now = A.before.now
  /-- The last fetch of the id that brought a key brought this one, and less than the time to live
  ago. -/
  last : ∃ cache, A.before.caches[c]? = some cache ∧
    Since (fun L => L.lands c A.task.kid = some (.key j) ∧ L.task.provider = inner ∧
        L.after.now ≤ A.before.now ∧ A.before.now < L.after.now + cache.limits.ttl.nanos)
      (fun Y => ∀ j', Y.lands c A.task.kid ≠ some (.key j')) earlier

/-- **An answer from a fetch.** The call had begun in an earlier turn, in which the fetch of the id
was under way or was started by the call. That fetch has ended with the key, and the call was told. -/
structure FromFetch (A : Turn) (earlier : List Turn) (c : Nat) (inner : Provider) (j : Jwk) :
    Prop where
  stage : A.stage = .told (.ok j)
  fetched : ∃ older L later, earlier = older ++ L :: later ∧ Attached c A.task older ∧
    L.lands c A.task.kid = some (.key j) ∧ L.task.provider = inner ∧
      L.after.now ≤ A.before.now ∧ ∀ Y ∈ L :: later, Y.task ≠ A.task

end Turn

namespace State

/-- **A cache has to fetch a key**: it is not doing so, and whatever it stores for the id is as old
as the time to live, or older. -/
def misses (s : State) (c : Nat) (kid : String) : Prop :=
  ∃ cache, s.caches[c]? = some cache ∧ cache.flight? kid = none ∧
    ∀ e, cache.store.get? kid = some e → cache.limits.ttl.nanos ≤ elapsed s.now e.since

variable {s : State} {behind : List Provider} {h : List Turn} {m : Move} {A : Turn} {c : Nat}
  {inner : Provider} {j : Jwk}

/-! ## Answers -/

theorem fromStore_of_calling (hs : s.Sound behind []) (ht : s.Traced behind h)
    (hA : s.turn? m = some A) (hcore : A.task.provider.core = .cached inner c)
    (hstage : A.stage = .calling) (hj : A.result? = some (.key j)) : A.FromStore h c inner j := by
  obtain ⟨i, hi, hbefore⟩ := turn?_eq_some hA
  have hmem : A.task ∈ s.tasks := (perm_eraseIdx_ready hi).mem_iff.2 List.mem_cons_self
  have hlive : s.holds c = true :=
    (holds_iff s c).2 ⟨_, .inr ⟨_, hmem, rfl⟩, Provider.uses_of_core_eq hcore⟩
  have hbehind := ((hs.wired.provider _ (.inr ⟨_, hmem, rfl⟩)).cached hcore).1
  have hcalled := called A.task.kid A.task.provider A.before
  cases hcall : call A.task.kid A.task.provider A.before with
  | mk r t =>
    rw [Turn.result?, hstage, verdict, hcall] at hj
    rw [hcall] at hcalled
    cases hcalled with
    | refused _ noKey =>
      rw [Option.some.inj hj] at noKey
      cases noKey
    | answered _ core => cases core.symm.trans hcore
    | gated | asked | joined | started => cases hj
    | @hit inner' d cache j' bs mt _ core found fresh =>
      obtain ⟨rfl, rfl⟩ := Provider.cached.inj (core.symm.trans hcore)
      cases hj
      have hafter : A.after = { A.before with buckets := bs, meter := mt }.finish A.task (.key j) := by
        rw [Turn.after, hstage, advanceTask, hcall]
      refine ⟨hstage, ⟨bs, mt, hcall⟩, by rw [hafter, now_finish], cache, found, ?_⟩
      obtain ⟨since, hget, hage⟩ := Cache.fresh?_eq_some.1 fresh
      rw [hbefore] at found hage ⊢
      obtain ⟨older, L, later, rfl, ⟨hlands, hsince⟩, hlater⟩ :=
        ht.stored d cache hlive found _ _ hget
      have hclock := ht.clock L (List.mem_append_right _ List.mem_cons_self)
      refine ⟨older, L, later, rfl, ⟨hlands, ?_, hclock, ?_⟩, hlater⟩
      · have hL := ht.fetches L (List.mem_append_right _ List.mem_cons_self) d
          (Turn.lands_eq_some.1 hlands).1
        exact Option.some.inj (hL.symm.trans hbehind)
      · dsimp only at hsince hage ⊢
        unfold elapsed Instant at *
        omega

theorem fromFetch_of_told (hs : s.Sound behind []) (ht : s.Traced behind h)
    (hA : s.turn? m = some A) (hcore : A.task.provider.core = .cached inner c)
    (hstage : A.stage = .told (.ok j)) : A.FromFetch h c inner j := by
  obtain ⟨i, hi, hbefore⟩ := turn?_eq_some hA
  have hready : (A.task, .told (.ok j)) ∈ s.ready := hstage ▸ List.mem_of_getElem? hi
  obtain ⟨d, o, ⟨inner', hinner⟩, hshare, older, L, later, rfl, hatt, hlands, hlater⟩ :=
    ht.told _ _ hready
  obtain ⟨rfl, rfl⟩ := Provider.cached.inj (hinner.symm.trans hcore)
  have hL : L ∈ older ++ L :: later := List.mem_append_right _ List.mem_cons_self
  have ho : o = .key j := by
    cases o with
    | key j' => rw [Except.ok.inj hshare]
    | error e | panic text => cases hshare
  refine ⟨hstage, older, L, later, rfl, hatt, ho ▸ hlands, ?_, ?_, hlater⟩
  · have hmem : A.task ∈ s.tasks := List.mem_append_left _ (List.mem_map_of_mem hready)
    have hbehind := ((hs.wired.provider _ (.inr ⟨_, hmem, rfl⟩)).cached hcore).1
    have hrole := ht.fetches L hL d (Turn.lands_eq_some.1 hlands).1
    exact Option.some.inj (hrole.symm.trans hbehind)
  · rw [hbefore]
    exact ht.clock L hL

/-! ## Fetches that start -/

/-- A turn of a call of a cache begins nothing, or the fetch that the cache has to make. -/
theorem made_cases (hcore : A.task.provider.core = .cached inner c) :
    A.made = [] ∨ A.made = [⟨.fetch c, A.task.kid, inner⟩] ∧ A.stage = .calling ∧
      A.before.misses c A.task.kid := by
  have hcourse := A.course
  generalize ha : A.after = t, A.result? = r, hs : A.stage = stage at hcourse
  cases hcourse with
  | ends called => exact .inl (Turn.made_of_finish called.quiet.ready ha)
  | fetched received => exact .inl (Turn.made_of_finish (quiet_receiveKey received).ready ha)
  | fetches called =>
    cases called with
    | asked => exact .inl (Turn.made_eq (by rw [ha]; rfl))
  | admitted | told => exact .inl (Turn.made_of_finish rfl ha)
  | lost => exact .inl (Turn.made_eq (l := []) (by rw [ha, List.append_nil]))
  | waits called =>
    cases called with
    | gated | joined => exact .inl (Turn.made_eq (l := []) (by rw [ha, List.append_nil]; rfl))
    | started _ core found stale flight =>
      obtain ⟨rfl, rfl⟩ := Provider.cached.inj (core.symm.trans hcore)
      refine .inr ⟨?_, rfl, _, found, flight, Cache.fresh?_eq_none.1 stale⟩
      rw [Turn.made_eq (by rw [ha]; rfl)]
      rfl

theorem made_of_misses (hstage : A.stage = .calling) (hp : A.task.provider = .cached inner c)
    (hmiss : A.before.misses c A.task.kid) : A.made = [⟨.fetch c, A.task.kid, inner⟩] := by
  obtain ⟨cache, hc, hflight, hold⟩ := hmiss
  have hstale := Cache.fresh?_eq_none.2 hold
  obtain ⟨m, hm⟩ := call_cached_of_stale inner hc hstale
  have hflight' : (cache.swept A.before.now A.task.kid).flight? A.task.kid = none := hflight
  rw [await_of_no_flight hflight'] at hm
  rw [Turn.made_eq (by rw [Turn.after, hstage, advanceTask, hp, hm]; rfl)]
  rfl

/-! ## Every run -/

/-- **Provenance and freshness.** In every run, a call of a cache that ends with a key got it from the
store or from a fetch; and it starts a fetch, one at most, if and only if the cache has to. -/
theorem provenance (sources : List Source) (network : Network) (ms : List Move)
    (earlier later : List Turn) (A : Turn) (inner : Provider) (c : Nat)
    (hA : (blank sources network).history ms = earlier ++ A :: later)
    (hcore : A.task.provider.core = .cached inner c) :
    (∀ j, A.result? = some (.key j) → A.FromStore earlier c inner j ∨ A.FromFetch earlier c inner j) ∧
      (A.made = [] ∨ A.made = [⟨.fetch c, A.task.kid, inner⟩]) ∧
      (A.task.provider = .cached inner c →
        (A.made = [⟨.fetch c, A.task.kid, inner⟩] ↔
          A.stage = .calling ∧ A.before.misses c A.task.kid)) := by
  obtain ⟨ms₁, m, ms₂, -, rfl, hT, -⟩ := exists_of_history_eq hA
  obtain ⟨behind, hs, ht⟩ := traced_run sources network ms₁
  refine ⟨fun j hj => ?_, ?_, fun hp => ⟨fun hmade => ?_, fun h => made_of_misses h.1 hp h.2⟩⟩
  · cases hstage : A.stage with
    | calling => exact .inl (fromStore_of_calling hs ht hT hcore hstage hj)
    | told result =>
      rw [Turn.result?, hstage] at hj
      cases result with
      | ok j' =>
        cases hj
        exact .inr (fromFetch_of_told hs ht hT hcore hstage)
      | error e => cases hj
    | admitted i n =>
      -- only a call that had reached a source waits at a gate
      obtain ⟨k, hk, -⟩ := turn?_eq_some hT
      have hsource : A.task.provider.core = .source i :=
        hs.wired.ready (A.task, .admitted i n) (hstage ▸ List.mem_of_getElem? hk)
      exact absurd (hsource.symm.trans hcore) nofun
    | fetching e =>
      -- only a call that had reached a key set is fetching one
      obtain ⟨k, hk, -⟩ := turn?_eq_some hT
      have hremote : A.task.provider.core = .remote e.remote :=
        hs.wired.ready (A.task, .fetching e) (hstage ▸ List.mem_of_getElem? hk)
      exact absurd (hremote.symm.trans hcore) nofun
  · exact (made_cases hcore).imp_right And.left
  · rcases made_cases hcore with hnone | ⟨-, hstage, hmiss⟩
    · rw [hnone] at hmade
      cases hmade
    · exact ⟨hstage, hmiss⟩

/-- Three calls for a key of a cache that keeps it for a second: at once, a nanosecond before the
second is over, and after the second. -/
def lapse : List Move :=
  [.build (.source 0) ⟨none, some ⟨1, Duration.ofSeconds 1, Nat.one_pos, Duration.second_pos⟩⟩,
    .get 0 "a", .turn 0, .turn 0, .turn 0,
    .advance ⟨999999999, by decide⟩, .get 0 "a", .turn 0,
    .advance ⟨1, by decide⟩, .get 0 "a", .turn 0]

/-- The turns of the three calls. -/
def lapseTurns : List Turn :=
  (blank [{ behaviour := .sample none false }] .unreachable).history lapse

/-- The second call is answered with the key that the first one fetched, the third one fetches it
again. -/
theorem provenance_lapse :
    ∃ A B, lapseTurns = lapseTurns.take 3 ++ [A, B] ∧
      A.FromStore (lapseTurns.take 3) 0 (.source 0) (Fixture.versioned "a" "0") ∧
      B.made = [⟨.fetch 0, "a", .source 0⟩] ∧ B.before.misses 0 "a" := by
  obtain ⟨A, B, hAB⟩ : ∃ A B, lapseTurns.drop 3 = [A, B] := ⟨_, _, rfl⟩
  have hcut : lapseTurns = lapseTurns.take 3 ++ [A, B] := by
    rw [← hAB, List.take_append_drop]
  have htells : (lapseTurns.drop 3).map (fun X => (X.task, X.stage.isCalling, X.result?, X.made)) =
      [(⟨.caller 1, "a", .cached (.source 0) 0⟩, true, some (.key (Fixture.versioned "a" "0")), []),
        (⟨.caller 2, "a", .cached (.source 0) 0⟩, true, none, [⟨.fetch 0, "a", .source 0⟩])] := by
    decide +kernel
  rw [hAB] at htells
  simp only [List.map_cons, List.map_nil, List.cons.injEq, Prod.mk.injEq, and_true] at htells
  obtain ⟨⟨hA, hstage, hresult, -⟩, hB, -, -, hmade⟩ := htells
  refine ⟨A, B, hcut, ?_, hmade, ?_⟩
  · rcases (provenance _ _ lapse _ [B] A (.source 0) 0 hcut (by rw [hA]; rfl)).1 _ hresult with h | h
    · exact h
    · rw [h.stage] at hstage
      cases hstage
  · have hcut' : lapseTurns = (lapseTurns.take 3 ++ [A]) ++ B :: [] := by
      rw [List.append_assoc]
      exact hcut
    have hiff := (provenance _ _ lapse _ [] B (.source 0) 0 hcut' (by rw [hB]; rfl)).2.2
    rw [hB] at hiff
    exact ((hiff rfl).1 hmade).2

end State

end SigningKeys
