import Mathlib.Logic.Relation
import SigningKeys.Proofs.Run.Steps

/-!
# Nothing dangles

Whatever a provider or a task names is there, and every task waits where its provider lets it wait.
A cache has one provider behind it for good, which all that fetch for it call.

* `Provider.Fits`: what a provider names is there;
* `Task.mayWaitAt`, `Task.mayDo`: where a task can be parked, and what it can do next;
* `State.Part`: the parts that moves are made of;
* `State.Wired`: the invariant;
* `Wired.part`, `Wired.parts`: every part keeps the invariant, and every move is made of parts;
* **`run_induction`**: what every part keeps holds in every run.
-/

namespace SigningKeys

namespace Provider

/-- Whether everything is there that a provider names, given how many sources and buckets there are
and what lies behind each cache. -/
def Fits (sources buckets : Nat) (behind : List Provider) : Provider → Prop
  | .source i => i < sources
  | .remote _ => True
  | .limited inner b => b < buckets ∧ inner.Fits sources buckets behind
  | .cached inner c => behind[c]? = some inner ∧ inner.Fits sources buckets behind

theorem getElem?_mono {α : Type} {xs ys : List α} (h : xs <+: ys) {i : Nat} {a : α}
    (hi : xs[i]? = some a) : ys[i]? = some a := by
  obtain ⟨hlt, ha⟩ := List.getElem?_eq_some_iff.1 hi
  rw [List.prefix_iff_getElem?.1 h i hlt, ha]

variable {a a' b b' c : Nat} {behind behind' : List Provider} {p inner : Provider}

theorem Fits.mono (ha : a ≤ a') (hb : b ≤ b') (hc : behind <+: behind')
    (h : p.Fits a b behind) : p.Fits a' b' behind' := by
  induction p with
  | source i => exact Nat.lt_of_lt_of_le h ha
  | remote r => trivial
  | limited inner d ih => exact ⟨Nat.lt_of_lt_of_le h.1 hb, ih h.2⟩
  | cached inner d ih => exact ⟨getElem?_mono hc h.1, ih h.2⟩

theorem Fits.core (h : p.Fits a b behind) : p.core.Fits a b behind := by
  induction p with
  | limited inner d ih => exact ih h.2
  | source i | remote r | cached inner d => exact h

theorem Fits.cached (h : p.Fits a b behind) (hp : p.core = .cached inner c) :
    behind[c]? = some inner ∧ inner.Fits a b behind := by
  have hcore := h.core
  rw [hp] at hcore
  exact hcore

theorem Fits.lt_of_uses (h : p.Fits a b behind) (hu : p.uses c = true) : c < behind.length := by
  induction p with
  | source i | remote r => cases hu
  | limited inner e ih => exact ih h.2 hu
  | cached inner e ih =>
    rw [uses, Bool.or_eq_true] at hu
    obtain he | hi := hu
    · rw [← eq_of_beq he]
      exact (List.getElem?_eq_some_iff.1 h.1).1
    · exact ih h.2 hi

/-- What lies behind a cache has fewer layers than any provider that uses the cache. -/
theorem Fits.height_lt (h : p.Fits a b behind) (hu : p.uses c = true)
    (hc : behind[c]? = some inner) : inner.height < p.height := by
  induction p with
  | source i | remote r => cases hu
  | limited q e ih => exact Nat.lt_succ_of_lt (ih h.2 hu)
  | cached q e ih =>
    rw [uses, Bool.or_eq_true] at hu
    obtain he | hi := hu
    · rw [eq_of_beq he] at h
      rw [Option.some.inj (hc.symm.trans h.1)]
      exact Nat.lt_succ_self _
    · exact Nat.lt_succ_of_lt (ih h.2 hi)

end Provider

namespace Task

/-- Whether a task can be parked at a spot. -/
def mayWaitAt (t : Task) : Spot → Prop
  | .gate i _ => t.provider.core = .source i
  | .flight c _ => ∃ inner, t.provider.core = .cached inner c

/-- Whether a task can have this to do at its next turn. -/
def mayDo (t : Task) : Stage → Prop
  | .calling => True
  | .admitted i _ => t.provider.core = .source i
  | .fetching e => t.provider.core = .remote e.remote
  | .told _ => ∃ inner c, t.provider.core = .cached inner c

end Task

namespace State

/-! ## Parts of moves -/

/-- **A part of a move**, on a state together with the tasks in hand. -/
inductive Part : List Task × State → List Task × State → Prop where
  | quiet {hand : List Task} {s t : State} (quiet : s.Quiet t) : Part (hand, s) (hand, t)
  /-- Layers are put in front of a provider. -/
  | build {s : State} {base : Provider} {layers : Layers} (offered : s.offers base = true)
      (bucket : s.offersBucket layers.bucket = true) :
      Part ([], s) ([], (s.install base layers).2.hold (s.install base layers).1)
  | skip {s : State} : Part ([], s) ([], s.hold none)
  /-- A held provider is called. -/
  | spawn {s : State} {p : Provider} {kid : String} (held : some p ∈ s.held) :
      Part ([], s) ([], s.spawn p kid)
  /-- A ready task is taken in hand. -/
  | pick {s : State} {i : Nat} {x : Task} {stage : Stage} (ready : s.ready[i]? = some (x, stage)) :
      Part ([], s) ([x], { s with ready := s.ready.eraseIdx i })
  /-- A source holds the task at its gate. -/
  | gated {s : State} {x : Task} {i n : Nat} (core : x.provider.core = .source i) :
      Part ([x], s) ([], s.park x (.gate i n))
  /-- The task begins to fetch a key set over the network. -/
  | asked {s : State} {x : Task} {e : Exchange} (core : x.provider.core = .remote e.remote) :
      Part ([x], s) ([], s.enqueue x (.fetching e))
  /-- The task waits for the fetch of its key that a cache makes already. -/
  | joined {s : State} {x : Task} {inner : Provider} {c : Nat} {cache : Cache} {f : Flight}
      (core : x.provider.core = .cached inner c) (found : s.caches[c]? = some cache)
      (stale : cache.fresh? s.now x.kid = none) (flight : cache.flight? x.kid = some f) :
      Part ([x], s) ([], (s.setCache c ((cache.swept s.now x.kid).withFlight f.board.2)).park x
        (.flight c f.board.1))
  /-- The task waits for the fetch of its key that a cache starts. -/
  | started {s : State} {x : Task} {inner : Provider} {c : Nat} {cache : Cache}
      (core : x.provider.core = .cached inner c) (found : s.caches[c]? = some cache)
      (stale : cache.fresh? s.now x.kid = none) (flight : cache.flight? x.kid = none) :
      Part ([x], s) ([], ((s.setCache c ((cache.swept s.now x.kid).depart x.kid)).enqueue
        ⟨.fetch c, x.kid, inner⟩ .calling).park x (.flight c 0))
  /-- The call of a caller ends. -/
  | ended {s : State} {x : Task} {id : Nat} {o : Outcome} (role : x.role = .caller id) :
      Part ([x], s) ([], { s with ended := s.ended ++ [(id, o)] })
  /-- The fetch of a cache in reach ends. -/
  | landed {s : State} {x : Task} {c : Nat} {cache : Cache} {o : Outcome} {m : Meter}
      (role : x.role = .fetch c) (live : s.holds c = true) (found : s.caches[c]? = some cache) :
      Part ([x], s) ([], { s.setCache c ((cache.keep s.now x.kid o).land x.kid) with
        meter := m }.tell c x.kid o.share)
  /-- The fetch of a cache out of reach ends. -/
  | lost {s : State} {x : Task} {c : Nat} (role : x.role = .fetch c) (dead : s.holds c = false) :
      Part ([x], s) ([], s)
  /-- A parked task passes its gate. -/
  | passed {s t : State} (passes : s.LetsThrough t) : Part ([], s) ([], t)
  /-- A call is given up that was parked. -/
  | left {s : State} {x : Task} {spot : Spot} {id : Nat} (parked : (x, spot) ∈ s.parked)
      (role : x.role = .caller id) :
      Part ([], s) ([], { s with parked := s.parked.erase (x, spot) }.leave x.kid spot)
  /-- A call is given up that was ready. -/
  | struck {s : State} {id : Nat} : Part ([], s) ([], s.strike id)
  | dropped {s : State} {p : Nat} : Part ([], s) ([], s.drop p)

theorem crew_enqueue (s : State) (hand : List Task) (x : Task) (stage : Stage) :
    ((s.enqueue x stage).crew hand).Perm (x :: s.crew hand) :=
  ((perm_enqueue s x stage).append_left hand).trans List.perm_middle

/-- **A cache out of reach stays out of reach**: a part of a move brings at most new caches into
reach. -/
theorem Part.reaches {hand hand' : List Task} {s t : State} (hp : Part (hand, s) (hand', t))
    {c : Nat} (h : t.reaches hand' c) : s.reaches hand c ∨ s.caches.length ≤ c := by
  cases hp with
  | quiet quiet =>
    obtain ⟨now, sources, buckets, meter, requests, delay, reads, -, -, -, rfl⟩ := quiet
    exact .inl (h.mono (fun _ => id) (fun _ => id))
  | @build _ base layers offered bucket =>
    obtain ⟨bs, cs, heq, -, -, huses⟩ := s.install_eq base layers
    rw [heq] at h
    obtain ⟨q, hq | ⟨y, hy, rfl⟩, hu⟩ := h
    · rcases List.mem_append.1 hq with hq | hq
      · exact .inl ⟨q, .inl hq, hu⟩
      · rw [Option.some.inj (List.mem_singleton.1 hq)] at hu
        refine (huses c hu).imp (fun hu => ?_) id
        cases base with
        | source i | remote r => cases hu
        | limited inner b | cached inner d =>
          exact ⟨_, .inl (by simpa [offers] using offered), hu⟩
    · exact .inl ⟨_, .inr ⟨y, hy, rfl⟩, hu⟩
  | skip =>
    refine .inl (h.mono (fun q hq => ?_) (fun _ => id))
    rcases List.mem_append.1 hq with hq | hq
    · exact hq
    · exact absurd (List.mem_singleton.1 hq) (Option.some_ne_none q)
  | @spawn _ p kid held =>
    obtain ⟨q, hq | ⟨y, hy, rfl⟩, hu⟩ := h
    · exact .inl ⟨q, .inl hq, hu⟩
    · rcases List.mem_cons.1 ((crew_enqueue _ _ _ _).mem_iff.1 hy) with rfl | hy
      · exact .inl ⟨p, .inl held, hu⟩
      · exact .inl ⟨_, .inr ⟨y, hy, rfl⟩, hu⟩
  | pick ready =>
    exact .inl (h.mono (fun _ => id) fun y hy => (perm_eraseIdx_ready ready).mem_iff.2 hy)
  | gated | joined =>
    exact .inl (h.mono (fun _ => id) fun y hy => (perm_park _ _ _).mem_iff.1 hy)
  | asked => exact .inl (h.mono (fun _ => id) fun y hy => (perm_enqueue _ _ _).mem_iff.1 hy)
  | @started _ x inner d cache core found stale flight =>
    obtain ⟨q, hq | ⟨y, hy, rfl⟩, hu⟩ := h
    · exact .inl ⟨q, .inl hq, hu⟩
    · have hy' := (crew_enqueue _ [x] _ _).mem_iff.1 ((perm_park _ _ _).mem_iff.1 hy)
      rcases List.mem_cons.1 hy' with rfl | hy
      · -- what lies behind the cache can be reached through the call that missed the key
        refine .inl ⟨x.provider, .inr ⟨x, List.mem_cons_self, rfl⟩, ?_⟩
        rw [← Provider.uses_core, core, Provider.uses, hu, Bool.or_true]
      · exact .inl ⟨_, .inr ⟨y, hy, rfl⟩, hu⟩
  | landed =>
    exact .inl (h.mono (fun _ => id) fun y hy =>
      List.mem_cons_of_mem _ ((perm_tell _ _ _ _).mem_iff.1 hy))
  | ended | lost => exact .inl (h.mono (fun _ => id) fun _ => List.mem_cons_of_mem _)
  | passed passes =>
    have hperm := passes.perm
    obtain ⟨x, i, n, rest, -, -, rfl⟩ := passes
    exact .inl (h.mono (fun _ => id) fun y hy => hperm.mem_iff.1 hy)
  | @left _ x spot _ parked role =>
    obtain ⟨cs, -, heq⟩ := leave_eq { s with parked := s.parked.erase (x, spot) } x.kid spot
    rw [heq] at h
    exact .inl (h.mono (fun _ hq => hq) fun y hy =>
      (perm_of_mem_parked parked).mem_iff.2 (List.mem_cons_of_mem _ hy))
  | struck =>
    exact .inl (h.mono (fun _ => id) fun y hy =>
      ((List.filter_sublist.map _).append_right _).subset hy)
  | dropped =>
    exact .inl (h.mono
      (fun q hq => (List.mem_or_eq_of_mem_set hq).resolve_right (Option.some_ne_none q))
      (fun _ => id))

/-- **Nothing dangles.** -/
structure Wired (behind : List Provider) (hand : List Task) (s : State) : Prop where
  caches : behind.length = s.caches.length
  provider : ∀ p, s.inPlay hand p → p.Fits s.sources.length s.buckets.length behind
  role : ∀ t ∈ s.crew hand, ∀ c, t.role = .fetch c → behind[c]? = some t.provider
  parked : ∀ e ∈ s.parked, e.1.mayWaitAt e.2
  ready : ∀ e ∈ s.ready, e.1.mayDo e.2

namespace Wired

variable {s t : State} {hand hand' : List Task} {behind behind' : List Provider}

/-- What is not new was wired before. -/
theorem frame (h : s.Wired behind hand) (hpre : behind <+: behind')
    (hlen : behind'.length = t.caches.length) (hs : s.sources.length ≤ t.sources.length)
    (hb : s.buckets.length ≤ t.buckets.length)
    (hplay : ∀ p, t.inPlay hand' p →
      s.inPlay hand p ∨ p.Fits t.sources.length t.buckets.length behind')
    (hrole : ∀ x ∈ t.crew hand', x ∈ s.crew hand ∨
      ∀ c, x.role = .fetch c → behind'[c]? = some x.provider)
    (hparked : ∀ e ∈ t.parked, e ∈ s.parked ∨ e.1.mayWaitAt e.2)
    (hready : ∀ e ∈ t.ready, e ∈ s.ready ∨ e.1.mayDo e.2) : t.Wired behind' hand' := by
  constructor
  case caches => exact hlen
  case provider =>
    intro p hp
    obtain hold | hnew := hplay p hp
    · exact (h.provider p hold).mono hs hb hpre
    · exact hnew
  case role =>
    intro x hx c hrc
    obtain hold | hnew := hrole x hx
    · exact Provider.getElem?_mono hpre (h.role x hold c hrc)
    · exact hnew c hrc
  case parked => exact fun e he => (hparked e he).elim (h.parked e) id
  case ready => exact fun e he => (hready e he).elim (h.ready e) id

theorem frame_crew (h : s.Wired behind hand) (hc : t.caches.length = s.caches.length)
    (hs : s.sources.length ≤ t.sources.length) (hb : s.buckets.length ≤ t.buckets.length)
    (hheld : ∀ q, some q ∈ t.held → some q ∈ s.held)
    (hcrew : ∀ x ∈ t.crew hand', x ∈ s.crew hand)
    (hparked : ∀ e ∈ t.parked, e ∈ s.parked ∨ e.1.mayWaitAt e.2)
    (hready : ∀ e ∈ t.ready, e ∈ s.ready ∨ e.1.mayDo e.2) : t.Wired behind hand' :=
  h.frame (List.prefix_refl _) (h.caches.trans hc.symm) hs hb
    (fun _ hp => .inl (hp.mono hheld hcrew)) (fun x hx => .inl (hcrew x hx)) hparked hready

theorem quiet (h : s.Wired behind hand) (ht : s.Quiet t) : t.Wired behind hand := by
  obtain ⟨now, sources, buckets, meter, requests, delay, reads, -, hs, hb, rfl⟩ := ht
  exact h.frame_crew rfl (Nat.le_of_eq hs.symm) hb (fun _ => id) (fun _ => id) (fun _ => .inl)
    (fun _ => .inl)

theorem park {x : Task} {spot : Spot} (h : s.Wired behind [x]) (hx : x.mayWaitAt spot) :
    (s.park x spot).Wired behind [] := by
  refine h.frame_crew rfl (Nat.le_refl _) (Nat.le_refl _) (fun _ => id) ?_ ?_ (fun _ => .inl)
  · intro y hy
    exact (perm_park s x spot).mem_iff.1 hy
  · intro e he
    obtain he | he := List.mem_append.1 he
    · exact .inl he
    · rw [List.mem_singleton.1 he]
      exact .inr hx

theorem asked {x : Task} {e : Exchange} (h : s.Wired behind [x])
    (hcore : x.provider.core = .remote e.remote) :
    (s.enqueue x (.fetching e)).Wired behind [] := by
  refine h.frame_crew rfl (Nat.le_refl _) (Nat.le_refl _) (fun _ => id) ?_ (fun _ => .inl) ?_
  · intro y hy
    exact (perm_enqueue s x _).mem_iff.1 hy
  · intro f hf
    obtain hf | hf := List.mem_append.1 hf
    · exact .inl hf
    · rw [List.mem_singleton.1 hf]
      exact .inr hcore

theorem setCache (h : s.Wired behind hand) (c : Nat) (cache : Cache) :
    (s.setCache c cache).Wired behind hand :=
  h.frame_crew List.length_set (Nat.le_refl _) (Nat.le_refl _) (fun _ => id) (fun _ => id)
    (fun _ => .inl) (fun _ => .inl)

theorem started {x : Task} {inner : Provider} {c : Nat} (h : s.Wired behind [x])
    (hcore : x.provider.core = .cached inner c) :
    (s.enqueue ⟨.fetch c, x.kid, inner⟩ .calling).Wired behind [x] := by
  have hfits := (h.provider _ (.inr ⟨x, List.mem_cons_self, rfl⟩)).cached hcore
  have hperm := crew_enqueue s [x] ⟨.fetch c, x.kid, inner⟩ .calling
  refine h.frame (List.prefix_refl _) h.caches (Nat.le_refl _) (Nat.le_refl _) ?_ ?_
    (fun _ => .inl) ?_
  · rintro p (hp | ⟨y, hy, rfl⟩)
    · exact .inl (.inl hp)
    · obtain rfl | hy := List.mem_cons.1 (hperm.mem_iff.1 hy)
      · exact .inr hfits.2
      · exact .inl (.inr ⟨y, hy, rfl⟩)
  · intro y hy
    obtain rfl | hy := List.mem_cons.1 (hperm.mem_iff.1 hy)
    · refine .inr ?_
      rintro _ ⟨⟩
      exact hfits.1
    · exact .inl hy
  · intro e he
    obtain he | he := List.mem_append.1 he
    · exact .inl he
    · rw [List.mem_singleton.1 he]
      exact .inr trivial

theorem tell {x : Task} {c : Nat} {kid : String} {result : Except KeyError Jwk}
    (h : s.Wired behind [x]) : (s.tell c kid result).Wired behind [] := by
  refine h.frame_crew rfl (Nat.le_refl _) (Nat.le_refl _) (fun _ => id) ?_ ?_ ?_
  · intro y hy
    exact List.mem_cons_of_mem _ ((perm_tell s c kid result).mem_iff.1 hy)
  · intro e he
    exact .inl (List.mem_of_mem_filter he)
  · intro e he
    obtain he | he := List.mem_append.1 he
    · exact .inl he
    · obtain ⟨y, hy, rfl⟩ := List.mem_map.1 he
      obtain ⟨-, place, hmem⟩ := mem_waiting.1 hy
      obtain ⟨inner, hinner⟩ := h.parked _ hmem
      exact .inr ⟨inner, c, hinner⟩

theorem passed (h : s.Wired behind []) (ht : s.LetsThrough t) : t.Wired behind [] := by
  have hperm := ht.perm
  obtain ⟨x, i, n, rest, hparked, hsub, rfl⟩ := ht
  refine h.frame_crew rfl (Nat.le_refl _) (Nat.le_refl _) (fun _ => id)
    (fun y hy => hperm.mem_iff.1 hy) (fun e he => .inl (hsub.subset he)) ?_
  intro e he
  obtain he | he := List.mem_append.1 he
  · exact .inl he
  · rw [List.mem_singleton.1 he]
    exact .inr (h.parked _ (hparked.mem_iff.2 List.mem_cons_self))

/-- What is held or taken from outside fits. -/
theorem fits_of_offers {p : Provider} (h : s.Wired behind hand) (hp : s.offers p = true) :
    p.Fits s.sources.length s.buckets.length behind := by
  cases p with
  | source i =>
    show i < s.sources.length
    exact of_decide_eq_true hp
  | remote r => trivial
  | limited inner b | cached inner c => exact h.provider _ (.inl (by simpa [offers] using hp))

/-- Layers fit in front of what fits. -/
theorem fits_install {base : Provider} {l : Layers} (h : s.Wired behind hand)
    (hbase : s.offers base = true) (hb : s.offersBucket l.bucket = true) :
    ∃ behind', behind <+: behind' ∧ behind'.length = (s.install base l).2.caches.length ∧
      (s.install base l).1.Fits s.sources.length (s.install base l).2.buckets.length behind' := by
  have hfits := h.fits_of_offers hbase
  have hbucket : (s.installBucket base l.bucket).1.Fits s.sources.length
        (s.installBucket base l.bucket).2.buckets.length behind ∧
      (s.installBucket base l.bucket).2.caches = s.caches := by
    cases hl : l.bucket with
    | none => exact ⟨hfits, rfl⟩
    | some layer =>
      rw [hl] at hb
      cases layer with
      | own r =>
        have hlen : (s.buckets ++ [TokenBucket.full r s.now]).length = s.buckets.length + 1 :=
          List.length_append
        refine ⟨⟨?_, hfits.mono (Nat.le_refl _) ?_ (List.prefix_refl _)⟩, rfl⟩
        · exact Nat.lt_of_lt_of_eq (Nat.lt_succ_self _) hlen.symm
        · exact Nat.le_trans (Nat.le_succ _) (Nat.le_of_eq hlen.symm)
      | shared b => exact ⟨⟨of_decide_eq_true hb, hfits⟩, rfl⟩
  obtain ⟨hq, hcaches⟩ := hbucket
  rw [install]
  dsimp only
  cases l.cache with
  | none => exact ⟨behind, List.prefix_refl _, by rw [h.caches]; exact congrArg _ hcaches.symm, hq⟩
  | some limits =>
    refine ⟨behind ++ [(s.installBucket base l.bucket).1], List.prefix_append _ _, ?_, ?_, ?_⟩
    · dsimp only [addCache]
      rw [List.length_append, List.length_append, hcaches, h.caches]
      rfl
    · rw [hcaches, ← h.caches]
      exact List.getElem?_concat_length
    · exact hq.mono (Nat.le_refl _) (Nat.le_refl _) (List.prefix_append _ _)

theorem build {base : Provider} {l : Layers} (h : s.Wired behind [])
    (hbase : s.offers base = true) (hb : s.offersBucket l.bucket = true) :
    ∃ behind', behind <+: behind' ∧
      ((s.install base l).2.hold (s.install base l).1).Wired behind' [] := by
  obtain ⟨behind', hpre, hlen, hfits⟩ := h.fits_install hbase hb
  obtain ⟨bs, cs, heq, -, -⟩ := s.install_eq base l
  rw [heq] at hlen hfits ⊢
  refine ⟨behind', hpre, h.frame hpre hlen (Nat.le_refl _) ?_ ?_ (fun _ => .inl) (fun _ => .inl)
    (fun _ => .inl)⟩
  · exact Nat.le_trans (Nat.le_add_right _ _) (Nat.le_of_eq List.length_append.symm)
  · rintro p (hp | hp)
    · obtain hp | hp := List.mem_append.1 hp
      · exact .inl (.inl hp)
      · rw [Option.some.inj (List.mem_singleton.1 hp)]
        exact .inr hfits
    · exact .inl (.inr hp)

/-- **Every part of a move keeps the invariant.** -/
theorem part (h : s.Wired behind hand) (hp : Part (hand, s) (hand', t)) :
    ∃ behind', behind <+: behind' ∧ t.Wired behind' hand' := by
  cases hp with
  | build offered bucket => exact h.build offered bucket
  | quiet quiet => exact ⟨behind, List.prefix_refl _, h.quiet quiet⟩
  | skip =>
    refine ⟨behind, List.prefix_refl _, h.frame_crew rfl (Nat.le_refl _) (Nat.le_refl _) ?_
      (fun _ => id) (fun _ => .inl) (fun _ => .inl)⟩
    intro q hq
    obtain hq | hq := List.mem_append.1 hq
    · exact hq
    · exact absurd (List.mem_singleton.1 hq) (Option.some_ne_none q)
  | @spawn _ p kid held =>
    refine ⟨behind, List.prefix_refl _, h.frame (List.prefix_refl _) h.caches (Nat.le_refl _)
      (Nat.le_refl _) ?_ ?_ (fun _ => .inl) ?_⟩
    · rintro q (hq | ⟨x, hx, rfl⟩)
      · exact .inl (.inl hq)
      · obtain rfl | hx := List.mem_cons.1 ((perm_enqueue _ _ _).mem_iff.1 hx)
        · exact .inl (.inl held)
        · exact .inl (.inr ⟨x, hx, rfl⟩)
    · intro x hx
      obtain rfl | hx := List.mem_cons.1 ((perm_enqueue _ _ _).mem_iff.1 hx)
      · exact .inr nofun
      · exact .inl hx
    · intro e he
      obtain he | he := List.mem_append.1 he
      · exact .inl he
      · rw [List.mem_singleton.1 he]
        exact .inr trivial
  | pick ready =>
    refine ⟨behind, List.prefix_refl _, h.frame_crew rfl (Nat.le_refl _) (Nat.le_refl _)
      (fun _ => id) ?_ (fun _ => .inl) (fun e he => .inl (List.mem_of_mem_eraseIdx he))⟩
    intro y hy
    exact (perm_eraseIdx_ready ready).mem_iff.2 hy
  | gated core => exact ⟨behind, List.prefix_refl _, h.park core⟩
  | asked core => exact ⟨behind, List.prefix_refl _, h.asked core⟩
  | joined core found stale flight =>
    exact ⟨behind, List.prefix_refl _, (h.setCache _ _).park ⟨_, core⟩⟩
  | started core found stale flight =>
    exact ⟨behind, List.prefix_refl _, ((h.setCache _ _).started core).park ⟨_, core⟩⟩
  | ended role =>
    exact ⟨behind, List.prefix_refl _, h.frame_crew rfl (Nat.le_refl _) (Nat.le_refl _)
      (fun _ => id) (fun _ => List.mem_cons_of_mem _) (fun _ => .inl) (fun _ => .inl)⟩
  | @landed _ x c cache o m role live found =>
    have hset : State.Wired behind [x] { s.setCache c ((cache.keep s.now x.kid o).land x.kid) with
        meter := m } :=
      (h.setCache _ _).quiet ⟨_, _, _, _, _, _, _, Nat.le_refl _, rfl, Nat.le_refl _, rfl⟩
    exact ⟨behind, List.prefix_refl _, hset.tell⟩
  | lost role dead =>
    exact ⟨behind, List.prefix_refl _, h.frame_crew rfl (Nat.le_refl _) (Nat.le_refl _)
      (fun _ => id) (fun _ => List.mem_cons_of_mem _) (fun _ => .inl) (fun _ => .inl)⟩
  | passed passes => exact ⟨behind, List.prefix_refl _, h.passed passes⟩
  | @left _ x spot _ parked role =>
    obtain ⟨cs, hcs, heq⟩ := leave_eq { s with parked := s.parked.erase (x, spot) } x.kid spot
    have hlen : cs.length = s.caches.length := by
      simpa using congrArg List.length hcs
    rw [heq]
    refine ⟨behind, List.prefix_refl _, h.frame_crew hlen (Nat.le_refl _) (Nat.le_refl _)
      (fun _ hq => hq) ?_ (fun e he => .inl (List.mem_of_mem_erase he)) (fun _ => .inl)⟩
    intro y hy
    exact (perm_of_mem_parked parked).mem_iff.2 (List.mem_cons_of_mem _ hy)
  | struck =>
    refine ⟨behind, List.prefix_refl _, h.frame_crew rfl (Nat.le_refl _) (Nat.le_refl _)
      (fun _ => id) ?_ (fun _ => .inl) (fun e he => .inl (List.mem_of_mem_filter he))⟩
    intro y hy
    exact ((List.filter_sublist.map _).append_right _).subset hy
  | dropped =>
    refine ⟨behind, List.prefix_refl _, h.frame_crew rfl (Nat.le_refl _) (Nat.le_refl _) ?_
      (fun _ => id) (fun _ => .inl) (fun _ => .inl)⟩
    intro q hq
    exact (List.mem_or_eq_of_mem_set hq).resolve_right (Option.some_ne_none q)

/-! ## Moves are made of parts -/

open Relation (ReflTransGen)

theorem part_finish {x : Task} (h : s.Wired behind [x]) (o : Outcome) :
    Part ([x], s) ([], s.finish x o) := by
  cases hrole : x.role with
  | caller id =>
    rw [finish_caller o hrole]
    exact .ended hrole
  | fetch c =>
    by_cases hc : s.holds c = true
    · have hlt : c < s.caches.length := by
        rw [← h.caches]
        exact (List.getElem?_eq_some_iff.1 (h.role x List.mem_cons_self c hrole)).1
      obtain ⟨m, heq⟩ := finish_fetch o hrole hc (List.getElem?_eq_getElem hlt)
      rw [heq]
      exact .landed hrole hc (List.getElem?_eq_getElem hlt)
    · rw [Bool.not_eq_true] at hc
      rw [finish_lost o hrole hc]
      exact .lost hrole hc

theorem parts_turn {x : Task} {stage : Stage} (h : s.Wired behind [x]) (hx : x.mayDo stage) :
    ReflTransGen Part ([x], s) ([], s.advanceTask x stage) := by
  have hcourse := (Turn.mk x stage s).course
  change ReflTransGen Part ([x], s) ([], (Turn.mk x stage s).after)
  generalize (Turn.mk x stage s).after = t, (Turn.mk x stage s).result? = r at hcourse ⊢
  cases hcourse with
  | ends called => exact .tail (.single (.quiet called.quiet)) ((h.quiet called.quiet).part_finish _)
  | fetched received =>
    have hquiet := quiet_receiveKey received
    exact .tail (.single (.quiet hquiet)) ((h.quiet hquiet).part_finish _)
  | fetches called =>
    cases called with
    | asked buckets core =>
      refine .tail (.single (.quiet ?_)) (.asked core)
      exact ⟨_, _, _, _, _, _, _, Nat.le_refl _, rfl, Nat.le_of_eq buckets.symm, rfl⟩
  | admitted found => exact .single (h.part_finish _)
  | told => exact .single (h.part_finish _)
  | @lost i n absent =>
    -- the source is there, because the provider of the task names it
    have hfits := (h.provider _ (.inr ⟨x, List.mem_cons_self, rfl⟩)).core
    rw [show x.provider.core = .source i from hx] at hfits
    exact absurd (List.getElem?_eq_none_iff.1 absent) (Nat.not_le.2 hfits)
  | waits called =>
    cases called with
    | @gated i source bs m buckets core found passes =>
      refine .tail (.single (.quiet ?_)) (.gated core)
      exact ⟨_, _, _, _, _, _, _, Nat.le_refl _, List.length_set, Nat.le_of_eq buckets.symm, rfl⟩
    | @joined inner c cache f bs m buckets core found stale flight =>
      have hquiet : s.Quiet { s with buckets := bs, meter := m } :=
        ⟨_, _, _, _, _, _, _, Nat.le_refl _, rfl, Nat.le_of_eq buckets.symm, rfl⟩
      exact .tail (.single (.quiet hquiet)) (.joined core found stale flight)
    | @started inner c cache bs m buckets core found stale flight =>
      have hquiet : s.Quiet { s with buckets := bs, meter := m } :=
        ⟨_, _, _, _, _, _, _, Nat.le_refl _, rfl, Nat.le_of_eq buckets.symm, rfl⟩
      exact .tail (.single (.quiet hquiet)) (.started core found stale flight)

theorem parts_openGate (s : State) (i : Nat) : ReflTransGen Part ([], s) ([], s.openGate i) := by
  obtain hp | ⟨source, hs, heq⟩ | heq := s.openGate_cases i
  · exact .single (.passed hp)
  · rw [heq]
    exact .single (.quiet ⟨_, _, _, _, _, _, _, Nat.le_refl _, List.length_set, Nat.le_refl _, rfl⟩)
  · rw [heq]

/-- **Every move is made of parts.** -/
theorem parts (h : s.Wired behind []) (m : Move) : ReflTransGen Part ([], s) ([], s.apply m) := by
  cases m with
  | bucket r =>
    refine .single (.quiet ⟨_, _, _, _, _, _, _, Nat.le_refl _, rfl, ?_, rfl⟩)
    exact Nat.le_trans (Nat.le_add_right _ _) (Nat.le_of_eq List.length_append.symm)
  | build base layers =>
    rw [apply]
    split
    · rename_i hb
      rw [Bool.and_eq_true] at hb
      exact .single (.build hb.1 hb.2)
    · exact .refl
  | skip => exact .single .skip
  | get p kid =>
    rw [apply]
    split
    · rename_i q hq
      refine .single (.spawn ?_)
      exact List.mem_of_getElem? (Option.join_eq_some_iff.1 hq)
    · exact .refl
  | turn i =>
    rw [apply, turnAt]
    split
    · rename_i x stage hi
      obtain ⟨behind', -, hw⟩ := h.part (.pick hi)
      exact .head (.pick hi) (hw.parts_turn (h.ready _ (List.mem_of_getElem? hi)))
    · exact .refl
  | openGate i => exact parts_openGate s i
  | pass k =>
    obtain hp | heq := s.pass_cases k
    · exact .single (.passed hp)
    · rw [apply, heq]
  | abort id =>
    obtain ⟨x, spot, hp, hr, heq⟩ | heq := s.giveUp_cases id
    · rw [apply, heq]
      exact .single (.left hp hr)
    · rw [apply, heq]
      rcases s.withdraw_cases id with heq | ⟨i, heq⟩
      · rw [heq]
        exact .single .struck
      · rw [heq]
        exact .head .struck (parts_openGate _ i)
  | drop p => exact .single .dropped
  | advance d =>
    exact .single (.quiet ⟨_, _, _, _, _, _, _, Nat.le_add_right _ _, rfl, Nat.le_refl _, rfl⟩)
  | delay d => exact .single (.quiet ⟨_, _, _, _, _, _, _, Nat.le_refl _, rfl, Nat.le_refl _, rfl⟩)
  | callBucket b c =>
    rw [apply, callBucket]
    split
    · exact .single (.quiet ⟨_, _, _, _, _, _, _, Nat.le_refl _, rfl,
        Nat.le_of_eq List.length_set.symm, rfl⟩)
    · exact .refl
  | fetchAll r | forgo k =>
    exact .single (.quiet ⟨_, _, _, _, _, _, _, Nat.le_refl _, rfl, Nat.le_refl _, rfl⟩)
  | receive k => exact .single (.quiet (s.quiet_receiveAt k))

end Wired

/-- Before anything is set up, there is nothing to dangle. -/
theorem wired_blank (sources : List Source) (network : Network) :
    (blank sources network).Wired [] [] := by
  constructor
  case caches => rfl
  case provider =>
    rintro p (hp | ⟨x, hx, -⟩)
    · exact absurd hp List.not_mem_nil
    · exact absurd hx List.not_mem_nil
  case role => exact fun x hx => absurd hx List.not_mem_nil
  case parked => exact fun e he => absurd he List.not_mem_nil
  case ready => exact fun e he => absurd he List.not_mem_nil

/-- What every part of a move keeps, a move keeps. -/
theorem Wired.keeps {I : List Task → State → Prop}
    (hI : ∀ {behind hand s hand' t}, s.Wired behind hand → I hand s → Part (hand, s) (hand', t) →
      I hand' t)
    {s : State} {behind : List Provider} (h : s.Wired behind []) (hs : I [] s) (m : Move) :
    ∃ behind', behind <+: behind' ∧ (s.apply m).Wired behind' [] ∧ I [] (s.apply m) := by
  suffices hkeep : ∀ a b : List Task × State, Relation.ReflTransGen Part a b →
      a.2.Wired behind a.1 → I a.1 a.2 →
      ∃ behind', behind <+: behind' ∧ b.2.Wired behind' b.1 ∧ I b.1 b.2 from
    hkeep _ _ (h.parts m) h hs
  intro a b hab ha hia
  induction hab with
  | refl => exact ⟨behind, List.prefix_refl _, ha, hia⟩
  | tail _ hp ih =>
    obtain ⟨mid, hpre, hw, hi⟩ := ih
    obtain ⟨behind', hpre', hw'⟩ := hw.part hp
    exact ⟨behind', hpre.trans hpre', hw', hI hw hi hp⟩

/-- **What every part of a move keeps holds in every run.** -/
theorem run_induction {I : List Task → State → Prop}
    (hI : ∀ {behind hand s hand' t}, s.Wired behind hand → I hand s → Part (hand, s) (hand', t) →
      I hand' t)
    {s : State} {behind : List Provider} (h : s.Wired behind []) (hs : I [] s) (ms : List Move) :
    ∃ behind', behind <+: behind' ∧ (s.run ms).Wired behind' [] ∧ I [] (s.run ms) := by
  induction ms generalizing s behind with
  | nil => exact ⟨behind, List.prefix_refl _, h, hs⟩
  | cons m ms ih =>
    obtain ⟨mid, hpre, hw, hi⟩ := h.keeps hI hs m
    obtain ⟨behind', hpre', hw', hi'⟩ := ih hw hi
    exact ⟨behind', hpre.trans hpre', hw', hi'⟩

/-- Nothing dangles in a run, and no cache ever goes. -/
theorem Wired.run {s : State} {behind : List Provider} (h : s.Wired behind []) (ms : List Move) :
    ∃ behind', behind <+: behind' ∧ (s.run ms).Wired behind' [] := by
  obtain ⟨behind', hpre, hw, -⟩ :=
    run_induction (I := fun _ _ => True) (fun _ _ _ => trivial) h trivial ms
  exact ⟨behind', hpre, hw⟩

end State

end SigningKeys
