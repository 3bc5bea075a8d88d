import SigningKeys.Proofs.Abort.Acts

/-!
# Callers who give up are not noticed

Take a run in which some calls are given up while they wait for fetches, and the same run without
that. After every act the sources and buckets of both runs are in the same state, and all other
calls have come to the same: the fetch goes on without those who wait for it. While no provider is
let go, the caches store equally many keys and the meters say the same, with one exception. All
caches share the gauge of stored keys, which tells the size of the one that stored last, and which of
two caches in front of the same one that is depends on the places at which they wait.

* `Entry`, `State.play`: runs with calls that are given up, and the same runs without that;
* `State.CutsWaiting`: the calls that are given up wait, behind a cache;
* `State.Agree`, `State.Tallies`: what others can see of a state, and what its caches and meter say;
* `Alike.play`: both runs go through states that are alike;
* **`cuts_invisible`**: they agree after every act;
* `gauge_tells_of_cuts`: the value of the gauge may differ.
-/

namespace SigningKeys

/-- An entry of a run that is compared with a shorter one: an act of both, or the giving up of a
call, which is left out in the shorter one. -/
inductive Entry where
  | both (a : Act)
  | cut (id : Nat)

namespace Entry

/-- The calls that are given up in one of the runs only. -/
def cuts (es : List Entry) : List Nat :=
  es.filterMap fun
    | both _ => none
    | cut id => some id

/-- No provider is let go. -/
def Dropless (es : List Entry) : Prop := ∀ p, both (.drop p) ∉ es

end Entry

namespace State

/-- **The states after the acts of a run**, with or without its cuts. -/
def play (cuts : Bool) (s : State) : List Entry → List State
  | [] => []
  | .both a :: es => s.act a :: (s.act a).play cuts es
  | .cut id :: es => (if cuts then s.act (.abort id) else s).play cuts es

/-- Every cut gives up a call that waits, of a provider with a cache in front of its source. -/
def CutsWaiting : State → List Entry → Prop
  | _, [] => True
  | s, .both a :: es => (s.act a).CutsWaiting es
  | s, .cut id :: es =>
    (∃ x spot c, s.parkedCall? id = some (x, spot) ∧ x.provider.uses c = true) ∧
      (s.act (.abort id)).CutsWaiting es

/-- **What others can see of a state**: which calls sources got, what buckets hold, and whether and
how calls have ended. -/
structure Agree (X : List Nat) (t' t : State) : Prop where
  sources : t'.sources = t.sources
  buckets : t'.buckets = t.buckets
  outcomes : ∀ id ∉ X, t'.outcome? id = t.outcome? id

/-- **What caches and meters say**: how many keys each cache stores, how often each event happened,
and the gauge. Its value is the same if no two caches stand in front of the same one. -/
structure Tallies (t' t : State) : Prop where
  sizes : ∀ c : Nat, (t'.caches[c]?).map Cache.size = (t.caches[c]?).map Cache.size
  counts : ∀ e, t'.meter.count e = t.meter.count e
  gauge : t'.meter.entries.isSome = t.meter.entries.isSome
  value : t.Unforked → t'.meter.entries = t.meter.entries

variable {s s' t t' : State} {behind behind' : List Provider} {X : List Nat} {es : List Entry}

/-! ## Caches that are held -/

theorem AllHeld.mono (h : s.AllHeld) (hheld : ∀ q, some q ∈ s.held → some q ∈ t.held)
    (hlen : t.caches.length = s.caches.length) : t.AllHeld := by
  intro c hc
  obtain ⟨q, hq, hu⟩ := h c (hlen ▸ hc)
  exact ⟨q, hheld q hq, hu⟩

theorem AllHeld.finish (h : s.AllHeld) (x : Task) (o : Outcome) : (s.finish x o).AllHeld := by
  refine h.mono (fun _ hq => (held_finish s x o).symm ▸ hq) ?_
  simpa using congrArg List.length (limits_finish s x o)

theorem AllHeld.quiet (h : s.AllHeld) (hquiet : s.Quiet t) : t.AllHeld := by
  obtain ⟨now, sources, buckets, meter, requests, delay, reads, -, -, -, rfl⟩ := hquiet
  exact h

theorem AllHeld.after {T : Turn} (h : T.before.AllHeld) : T.after.AllHeld := by
  have hcourse := T.course
  generalize T.after = t, T.result? = r, T.stage = stage at hcourse ⊢
  cases hcourse with
  | waits called =>
    cases called with
    | gated => exact h
    | joined | started => exact h.mono (fun _ hq => hq) List.length_set
  | ends called => exact (h.quiet called.quiet).finish _ _
  | fetches called =>
    have ht := h.quiet called.quiet_of_fetches
    exact ht
  | fetched received => exact (h.quiet (quiet_receiveKey received)).finish _ _
  | admitted | told => exact h.finish _ _
  | lost => exact h

theorem AllHeld.settle (h : s.AllHeld) : s.settle.AllHeld := by
  have hturns : ∀ n s, s.AllHeld → (turns n s).AllHeld := by
    intro n
    induction n with
    | zero => exact fun s h => h
    | succ n ih =>
      intro s h
      rw [turns]
      split
      · exact h
      · refine ih _ ?_
        rw [State.turn]
        split
        · exact h
        · rename_i x stage rest _
          exact AllHeld.after (T := ⟨x, stage, { s with ready := rest }⟩) h
  exact hturns _ s h

theorem AllHeld.openGate (h : s.AllHeld) (i : Nat) : (s.openGate i).AllHeld := by
  rcases openGate_cases s i with ⟨y, j, k, rest, -, -, heq⟩ | ⟨source, -, heq⟩ | heq
  · rw [heq]
    exact h
  · rw [heq]
    exact h
  · rw [heq]
    exact h

/-- A new cache is held by the provider that comes of it. -/
theorem AllHeld.build (h : s.AllHeld) (base : Provider) (layers : Layers) :
    ((s.install base layers).2.hold (s.install base layers).1).AllHeld := by
  have hbucket : (s.installBucket base layers.bucket).2.caches = s.caches ∧
      (s.installBucket base layers.bucket).2.held = s.held := by
    cases layers.bucket with
    | none => exact ⟨rfl, rfl⟩
    | some layer => cases layer <;> exact ⟨rfl, rfl⟩
  obtain ⟨hcaches, hheld⟩ := hbucket
  have hkept : ∀ p q, some q ∈ s.held →
      some q ∈ (s.installBucket base layers.bucket).2.held ++ [p] := fun p q hq =>
    List.mem_append_left _ (hheld.symm ▸ hq)
  rw [install]
  dsimp only
  cases layers.cache with
  | none => exact h.mono (hkept _) (congrArg List.length hcaches)
  | some limits =>
    intro c hc
    have hlen : ((s.installBucket base layers.bucket).2.caches ++ [{ limits : Cache }]).length =
        s.caches.length + 1 := by rw [List.length_append, hcaches]; rfl
    rcases Nat.lt_succ_iff_lt_or_eq.1 (Nat.lt_of_lt_of_eq hc hlen) with hlt | rfl
    · obtain ⟨q, hq, hu⟩ := h c hlt
      exact ⟨q, hkept _ q hq, hu⟩
    · refine ⟨_, List.mem_append_right _ (List.mem_singleton_self _), ?_⟩
      simp [addCache, Provider.uses, hcaches]

/-- **Only providers that are let go leave caches behind.** -/
theorem AllHeld.act (h : s.AllHeld) (hs : s.Sound behind []) (hrest : s.ready = []) {a : Act}
    (ha : ∀ p, a ≠ .drop p) : (s.act a).AllHeld := by
  cases a with
  | bucket r | advance d => exact h
  | build base layers =>
    rw [State.act, apply]
    split
    · exact h.build base layers
    · exact h
  | get p kid delay =>
    rw [State.act]
    split
    · rename_i q _
      exact AllHeld.settle (s := { s with delay }.spawn q kid) h
    · exact h
  | release i n =>
    have hopen : ∀ n : Nat, (n.repeat (·.openGate i) s).AllHeld := by
      intro n
      induction n with
      | zero => exact h
      | succ n ih => exact ih.openGate i
    exact (hopen n).settle
  | abort id =>
    obtain ⟨cs, hcs, heq⟩ := giveUp_eq hs hrest id
    rw [heq]
    exact h.mono (fun _ hq => hq) (by simpa using congrArg List.length hcs)
  | drop p => exact absurd rfl (ha p)
  | callBucket b call =>
    rw [State.act, State.callBucket]
    split
    · exact h
    · exact h
  | fetchAll r => exact h.quiet (s.quiet_receive ⟨r, s.now⟩)

/-! ## Both runs -/

theorem Agree.mono {Y : List Nat} (h : t'.Agree X t) (hsub : ∀ id ∈ X, id ∈ Y) : t'.Agree Y t :=
  ⟨h.sources, h.buckets, fun id hid => h.outcomes id fun hmem => hid (hsub id hmem)⟩

theorem outcome?_iff (hs : s.Sound behind []) {id : Nat} {o : Outcome} :
    s.outcome? id = some o ↔ (id, o) ∈ s.ended := by
  refine ⟨fun h => ?_, hs.numbered.outcome?_eq⟩
  obtain ⟨l, l', hsplit, -⟩ := List.lookup_eq_some_iff.1 h
  rw [hsplit]
  exact List.mem_append_right _ List.mem_cons_self

namespace Alike

theorem agree (h : Alike X [] s' s) (hs' : s'.Sound behind' []) (hs : s.Sound behind []) :
    s'.Agree X s where
  sources := h.sources
  buckets := h.buckets
  outcomes id hid := by
    ext o
    rw [outcome?_iff hs', outcome?_iff hs]
    exact h.ended id hid o

theorem tallies (h : Alike X [] s' s) (hall : s.AllHeld) : s'.Tallies s where
  sizes c := by
    cases hd' : s'.caches[c]? with
    | none =>
      rw [List.getElem?_eq_none_iff, h.length, ← List.getElem?_eq_none_iff] at hd'
      rw [hd']
    | some d' =>
      have hlt := (List.getElem?_eq_some_iff.1 hd').1
      obtain ⟨q, hq, hu⟩ := h.allHeld hall c hlt
      obtain ⟨d, hd, hsame⟩ := h.caches c ⟨q, .inl hq, hu⟩ d' hd'
      rw [hd]
      exact congrArg (fun store => some (KeyStore.size store)) hsame.store
  counts e := congrArg (List.count e) h.events
  gauge := (h.gauge hall).1
  value := (h.gauge hall).2

/-- **A cut** keeps states alike: a call with a cache in front of its source waits for a fetch. -/
theorem cut_of_waits (h : Alike X [] s' s) (hs' : s'.Sound behind' []) (hrest : s'.ready = [])
    {id c : Nat} {x : Task} {spot : Spot} (hx : s'.parkedCall? id = some (x, spot))
    (hc : x.provider.uses c = true) : Alike (id :: X) [] (s'.act (.abort id)) s := by
  obtain ⟨cs', hcs', heq⟩ := giveUp_eq hs' hrest id
  have hrole : x.role = .caller id := by
    have hfound := List.find?_some hx
    exact eq_of_beq hfound
  have hxcrew : x ∈ s'.crew [] := mem_crew_of_parked (List.mem_of_find?_eq_some hx) []
  have hgate : ∀ e ∈ s'.gated, e.1.role ≠ .caller id := by
    intro e he her
    obtain ⟨hparked, hat⟩ := mem_gated.1 he
    have hwaits := hs'.wired.parked e hparked
    cases hspot : e.2 with
    | flight d place =>
      rw [hspot] at hat
      cases hat
    | gate i n =>
      -- a call that waits at a gate has no cache in front of its source
      rw [hspot] at hwaits
      have hcore : e.1.provider.core = .source i := hwaits
      have hsame := hs'.eq_of_caller hxcrew (mem_crew_of_parked hparked []) hrole her
      rw [hsame, ← Provider.uses_core, hcore] at hc
      cases hc
  have hid : id < s.started := by
    have hpos : 0 < (s'.crew []).countP (·.role == .caller id) :=
      List.countP_pos_iff.2 ⟨x, hxcrew, beq_iff_eq.2 hrole⟩
    have hle := hs'.numbered id
    unfold calls at hle
    rw [← h.started]
    split at hle <;> omega
  rw [heq]
  exact h.cut hcs' hgate hid

/-- **Both runs go through states that are alike**, by induction on the entries. `D` says that no
provider is let go. -/
theorem play {D : Prop} (h : Alike X [] s' s) (hs' : s'.Sound behind' []) (hs : s.Sound behind [])
    (hrest : s.ready = []) (hwait : s'.CutsWaiting es) (hdrop : D → Entry.Dropless es)
    (hall : D → s.AllHeld) :
    List.Forall₂ (fun t' t => t'.Agree (Entry.cuts es ++ X) t ∧ (D → t'.Tallies t))
      (s'.play true es) (s.play false es) := by
  induction es generalizing s' s X behind' behind with
  | nil => exact .nil
  | cons e es ih =>
    cases e with
    | both a =>
      obtain ⟨behind₁', hs₁'⟩ := hs'.act a
      obtain ⟨behind₁, hs₁⟩ := hs.act a
      have hact := h.act hs' hs hrest a
      have hall₁ : D → (s.act a).AllHeld := fun hD =>
        (hall hD).act hs hrest fun p hp => hdrop hD p (hp ▸ List.mem_cons_self)
      refine .cons ⟨(hact.agree hs₁' hs₁).mono fun _ => List.mem_append_right _,
        fun hD => hact.tallies (hall₁ hD)⟩ ?_
      exact ih hact hs₁' hs₁ (ready_act hrest a) hwait
        (fun hD p hp => hdrop hD p (List.mem_cons_of_mem _ hp)) hall₁
    | cut id =>
      obtain ⟨⟨x, spot, c, hx, hc⟩, hrest'⟩ := hwait
      obtain ⟨behind₁', hs₁'⟩ := hs'.act (.abort id)
      have hcut := h.cut_of_waits hs' (h.ready.trans hrest) hx hc
      have hplay := ih hcut hs₁' hs hrest hrest'
        (fun hD p hp => hdrop hD p (List.mem_cons_of_mem _ hp)) hall
      refine hplay.imp fun t' t ht => ⟨ht.1.mono fun id' hid' => ?_, ht.2⟩
      exact List.perm_middle.mem_iff.1 hid'

end Alike

/-- **Callers who give up are not noticed.** In two runs of which one is the other without some of
its aborts, of calls that wait behind caches, what others can see is the same after every act: the
calls made to sources, the buckets, and whether and how the other calls have ended. If no provider is
let go, so are the sizes of caches, the counts of events, and whether the gauge was set; and its
value, unless two caches stand directly in front of the same one. -/
theorem cuts_invisible (sources : List Source) (network : Network) (es : List Entry)
    (hwait : (blank sources network).CutsWaiting es) :
    List.Forall₂
      (fun t' t => t'.Agree (Entry.cuts es) t ∧ (Entry.Dropless es → t'.Tallies t))
      ((blank sources network).play true es) ((blank sources network).play false es) := by
  have hsound := sound_blank sources network
  have hplay := (Alike.refl (blank sources network)).play hsound hsound rfl hwait id
    fun _ c hc => absurd hc (Nat.not_lt_zero c)
  rw [List.append_nil] at hplay
  exact hplay

/-- A source that holds every call at its gate. -/
def gatedSource : State := blank [{ behaviour := .scripted [.key []], gated := true }] .unreachable

/-- A cache for five keys. -/
def fiveKeys : Layers := ⟨none, some ⟨5, Duration.ofSeconds 60, by decide, Duration.minute_pos⟩⟩

/-- The call that made a cache fetch a key is given up while another one waits for the key. -/
def deserted : List Entry :=
  [.both (.build (.source 0) fiveKeys), .both (.get 0 "a" Duration.zero),
    .both (.get 0 "a" Duration.zero), .cut 0, .both (.release 0 1)]

/-- The call that is left gets the key when the gate opens, with or without the one that was given
up. -/
theorem cuts_invisible_deserted :
    gatedSource.CutsWaiting deserted ∧
    List.Forall₂
      (fun t' t => t'.Agree (Entry.cuts deserted) t ∧ (Entry.Dropless deserted → t'.Tallies t))
      (gatedSource.play true deserted) (gatedSource.play false deserted) ∧
    (gatedSource.play true deserted).map (fun t => ((t.outcome? 1).bind Outcome.key?).isSome) =
      [false, false, false, true] := by
  have hwait : gatedSource.CutsWaiting deserted := ⟨⟨_, _, 0, rfl, rfl⟩, trivial⟩
  exact ⟨hwait, cuts_invisible _ _ deserted hwait, by decide +kernel⟩

/-- Two caches in front of a third one. A call for a key that the third one fetches is given up, and
the other two wait for that fetch: one before that, the other one after that, at the place that was
left. -/
def forked : List Entry :=
  [.both (.build (.source 0) fiveKeys), .both (.build (.cached (.source 0) 0) fiveKeys),
    .both (.build (.cached (.source 0) 0) fiveKeys), .both (.release 0 1),
    .both (.get 1 "z" Duration.zero), .both (.get 0 "a" Duration.zero),
    .both (.get 1 "a" Duration.zero), .cut 1, .both (.get 2 "a" Duration.zero),
    .both (.release 0 1)]

/-- **The gauge tells of calls that were given up**: it says at last how many keys the cache stores
that was told last. -/
theorem gauge_tells_of_cuts :
    gatedSource.CutsWaiting forked ∧ Entry.Dropless forked ∧
    ((gatedSource.play true forked).getLast?.bind fun t => t.meter.entries) = some 2 ∧
    ((gatedSource.play false forked).getLast?.bind fun t => t.meter.entries) = some 1 := by
  refine ⟨⟨⟨_, _, 0, rfl, rfl⟩, trivial⟩, ?_, by decide +kernel, by decide +kernel⟩
  intro p hp
  simp [forked] at hp

end State

end SigningKeys
