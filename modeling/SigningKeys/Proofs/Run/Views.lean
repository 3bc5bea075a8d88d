import SigningKeys.Proofs.Run.Cascades

/-!
# The order of a cascade

Who waits for a fetch is told in the order of places, and that order changes when a call is given up.
But each cache waits for the cache behind it only. So among the fetches of caches that stand one
behind the other, the order in which a cascade ends them does not depend on places.

* `Provider.View`: caches no two of which stand in front of the same one;
* `Provider.view_uses`: the caches of one provider are a view;
* `eq_of_eq_append_flatMap`: a list that is told from its own elements;
* **`State.fetches_eq`**: two cascades that begin with the same tasks end the same fetches of a view, in
  the same order;
* `State.Cascades`: two such cascades, and what they have in common.
-/

namespace SigningKeys

namespace Provider

/-- **A view**: with a cache it has the one behind it, and no two caches in front of the same one. -/
structure View (behind : List Provider) (V : Nat → Bool) : Prop where
  closed : ∀ d c p inner, V d = true → behind[d]? = some p → p.core = .cached inner c → V c = true
  narrow : ∀ d e c p q inner inner', V d = true → V e = true → behind[d]? = some p →
    behind[e]? = some q → p.core = .cached inner c → q.core = .cached inner' c → d = e

variable {a b c d e : Nat} {behind : List Provider} {p q inner inner' : Provider}

/-- What lies behind a cache of a provider fits, and the provider uses all that it uses. -/
theorem Fits.of_uses (h : p.Fits a b behind) (hu : p.uses d = true) (hd : behind[d]? = some q) :
    q.Fits a b behind ∧ ∀ c, q.uses c = true → p.uses c = true := by
  induction p with
  | source i | remote r => cases hu
  | limited p' b' ih => exact ih h.2 hu
  | cached p' c' ih =>
    rw [uses, Bool.or_eq_true] at hu
    rcases hu with hc | hu
    · rw [eq_of_beq hc] at h
      rw [Option.some.inj (hd.symm.trans h.1)]
      exact ⟨h.2, fun c hc => by rw [uses, hc, Bool.or_true]⟩
    · obtain ⟨hfits, huses⟩ := ih h.2 hu
      exact ⟨hfits, fun c hc => by rw [uses, huses c hc, Bool.or_true]⟩

/-- No cache behind a provider stands in front of the cache that the provider reaches first. -/
theorem not_uses_of_core (h : p.Fits a b behind) (hp : p.core = .cached inner c)
    (hu : p.uses d = true) (hd : behind[d]? = some q) (hq : q.core = .cached inner' c) : False := by
  obtain ⟨hc, hinner⟩ := h.cached hp
  have hqfits := (h.of_uses hu hd).1
  have hlt := hqfits.height_lt (uses_of_core_eq hq) hc
  rw [← uses_core, hp, uses, Bool.or_eq_true] at hu
  rcases hu with he | hu
  · rw [← eq_of_beq he, hc] at hd
    rw [Option.some.inj hd] at hlt
    exact Nat.lt_irrefl _ hlt
  · exact Nat.lt_asymm hlt (hinner.height_lt hu hd)

theorem Fits.narrow (h : p.Fits a b behind) (hud : p.uses d = true) (hue : p.uses e = true)
    {pd pe : Provider} (hd : behind[d]? = some pd) (he : behind[e]? = some pe)
    (hcd : pd.core = .cached inner c) (hce : pe.core = .cached inner' c) : d = e := by
  induction p with
  | source i | remote r => cases hud
  | limited p' b' ih => exact ih h.2 hud hue
  | cached p' c' ih =>
    rw [uses, Bool.or_eq_true, beq_iff_eq] at hud hue
    rcases hud with rfl | hud
    · rcases hue with rfl | hue
      · rfl
      · rw [Option.some.inj (h.1.symm.trans hd)] at hue h
        exact (not_uses_of_core h.2 hcd hue he hce).elim
    · rcases hue with rfl | hue
      · rw [Option.some.inj (h.1.symm.trans he)] at hud h
        exact (not_uses_of_core h.2 hce hud hd hcd).elim
      · exact ih h.2 hud hue

/-- **The caches of a provider are a view**: they stand one behind the other. -/
theorem view_uses (h : p.Fits a b behind) : View behind (fun c => p.uses c) where
  closed _ c _ _ hu hd hq := (h.of_uses hu hd).2 c (uses_of_core_eq hq)
  narrow _ _ _ _ _ _ _ hud hue hd he hcd hce := h.narrow hud hue hd he hcd hce

end Provider

/-! ## Lists that are told from their own elements -/

theorem flatMap_filter {α β : Type} {f : α → List β} {p : α → Bool} {l : List α}
    (h : ∀ a ∈ l, p a = false → f a = []) : (l.filter p).flatMap f = l.flatMap f := by
  induction l with
  | nil => rfl
  | cons a l ih =>
    have hrest := ih fun b hb => h b (List.mem_cons_of_mem _ hb)
    cases hp : p a with
    | true => rw [List.filter_cons_of_pos hp, List.flatMap_cons, List.flatMap_cons, hrest]
    | false =>
      rw [List.filter_cons_of_neg (by simp [hp]), List.flatMap_cons, h a List.mem_cons_self hp, hrest,
        List.nil_append]

/-- A list that begins with `A` and goes on with what its own elements tell, each of them elements of a
greater rank, is the only one. -/
theorem eq_of_eq_append_flatMap {α : Type} (rank : α → Nat) {A F G : List α} {g : α → List α}
    (hF : F = A ++ F.flatMap g) (hG : G = A ++ G.flatMap g)
    (hFr : ∀ a ∈ F, ∀ b ∈ g a, rank a < rank b) (hGr : ∀ a ∈ G, ∀ b ∈ g a, rank a < rank b) :
    F = G := by
  -- what has a rank below `n + 1` is told by what has a rank below `n`
  have hlow : ∀ n (L : List α), L = A ++ L.flatMap g → (∀ a ∈ L, ∀ b ∈ g a, rank a < rank b) →
      L.filter (rank · < n + 1) = A.filter (rank · < n + 1) ++
        ((L.filter (rank · < n)).flatMap g).filter (rank · < n + 1) := by
    intro n L hL hr
    have hsplit : (L.flatMap g).filter (rank · < n + 1) =
        ((L.filter (rank · < n)).flatMap g).filter (rank · < n + 1) := by
      rw [List.filter_flatMap, List.filter_flatMap]
      refine (flatMap_filter fun a ha hlarge => ?_).symm
      rw [List.filter_eq_nil_iff]
      intro b hb hsmall
      have hlt := hr a ha b hb
      rw [decide_eq_false_iff_not] at hlarge
      rw [decide_eq_true_iff] at hsmall
      omega
    conv_lhs => rw [hL]
    rw [List.filter_append, hsplit]
  have hsame : ∀ n, F.filter (rank · < n) = G.filter (rank · < n) := by
    intro n
    induction n with
    | zero => simp
    | succ n ih => rw [hlow n F hF hFr, hlow n G hG hGr, ih]
  have hall : ∀ L : List α, ∃ n, ∀ m ≥ n, L.filter (rank · < m) = L := by
    intro L
    induction L with
    | nil => exact ⟨0, fun _ _ => rfl⟩
    | cons a L ih =>
      obtain ⟨n, hn⟩ := ih
      refine ⟨max n (rank a + 1), fun m hm => ?_⟩
      rw [List.filter_cons_of_pos (by rw [decide_eq_true_iff]; omega), hn m (by omega)]
  obtain ⟨n, hn⟩ := hall F
  obtain ⟨m, hm⟩ := hall G
  rw [← hn (max n m) (by omega), ← hm (max n m) (by omega)]
  exact hsame _

/-! ## The fetches of a view -/

/-- Whether a task is a fetch of one of some caches. -/
def Task.fetchesIn (V : Nat → Bool) (x : Task) : Bool :=
  match x.role with
  | .fetch c => V c
  | .caller _ => false

/-- Whether a task is none of the calls with some numbers. -/
def Task.spared (X : List Nat) (x : Task) : Prop := ∀ id ∈ X, x.role ≠ .caller id

theorem Task.fetchesIn_eq_true {V : Nat → Bool} {x : Task} :
    x.fetchesIn V = true ↔ ∃ c, x.role = .fetch c ∧ V c = true := by
  unfold fetchesIn
  cases x.role with
  | caller id => simp
  | fetch c => simp

theorem Task.spared_of_fetch {x : Task} {c : Nat} (h : x.role = .fetch c) (X : List Nat) :
    x.spared X := by
  intro id _ hr
  rw [h] at hr
  cases hr

namespace State

/-- A task waits for the fetch of its key by a cache. -/
def awaits (s : State) (w : Task) (c : Nat) : Prop := ∃ place, (w, .flight c place) ∈ s.parked

/-- **All that wait for fetches in another state wait for them here**, but for some calls. Their places
may be different. -/
def Lacks (X : List Nat) (s' s : State) : Prop :=
  ∀ w c, s'.awaits w c ↔ s.awaits w c ∧ w.spared X

variable {s s' t t' : State} {behind behind' : List Provider} {hand : List Task} {X : List Nat}
  {Q P P' : List (Task × Outcome)} {V : Nat → Bool}

theorem mem_tells_iff {e w : Task × Outcome} :
    w ∈ s.tells e ↔ ∃ c, e.1.role = .fetch c ∧ w.1.kid = e.1.kid ∧ s.awaits w.1 c ∧
      w.2 = .ofExcept e.2.share := by
  rw [mem_tells]
  constructor
  · rintro ⟨c, place, hc, hk, hmem, ho⟩
    exact ⟨c, hc, hk, ⟨place, hmem⟩, ho⟩
  · rintro ⟨c, hc, hk, ⟨place, hmem⟩, ho⟩
    exact ⟨c, place, hc, hk, hmem, ho⟩

theorem awaits.mem {w : Task} {c : Nat} (h : s.awaits w c) : w ∈ s.crew hand := by
  obtain ⟨place, hmem⟩ := h
  exact mem_crew_of_parked hmem hand

theorem Wired.core_of_awaits {w : Task} {c : Nat} (hw : s.Wired behind hand) (h : s.awaits w c) :
    ∃ inner, w.provider.core = .cached inner c := by
  obtain ⟨place, hmem⟩ := h
  exact hw.parked _ hmem

theorem nodup_tells (hd : (s.crew hand).Nodup) (e : Task × Outcome) : (s.tells e).Nodup := by
  unfold tells
  split
  · rename_i c _
    have hparked : (s.parked.map (·.1)).Nodup :=
      (List.nodup_append.1 (List.nodup_append.1 hd).2.1).2.1
    have hwaiting := (List.nodup_append.1 ((perm_waiting s c e.1.kid).nodup_iff.2 hparked)).1
    exact hwaiting.map fun x y h => congrArg Prod.fst h
  · exact List.nodup_nil

/-- A fetch tells at most one fetch of a view. -/
theorem eq_of_tells (hV : Provider.View behind V) (hw : s.Wired behind hand) {e v w : Task × Outcome}
    (hv : v ∈ s.tells e) (hvV : v.1.fetchesIn V = true) (hwt : w ∈ s.tells e)
    (hwV : w.1.fetchesIn V = true) : v = w := by
  obtain ⟨c, hc, hvk, hva, hvo⟩ := mem_tells_iff.1 hv
  obtain ⟨c', hc', hwk, hwa, hwo⟩ := mem_tells_iff.1 hwt
  cases hc.symm.trans hc'
  obtain ⟨d, hvd, hd⟩ := Task.fetchesIn_eq_true.1 hvV
  obtain ⟨d', hwd, hd'⟩ := Task.fetchesIn_eq_true.1 hwV
  obtain ⟨inner, hinner⟩ := hw.core_of_awaits hva
  obtain ⟨inner', hinner'⟩ := hw.core_of_awaits hwa
  have hsame := hV.narrow d d' c _ _ _ _ hd hd' (hw.role _ hva.mem d hvd) (hw.role _ hwa.mem d' hwd)
    hinner hinner'
  subst hsame
  have htask := hw.eq_of_fetch hva.mem hwa.mem hvd hwd (hvk.trans hwk.symm)
  exact Prod.ext htask (hvo.trans hwo.symm)

theorem tells_eq (hV : Provider.View behind V) (hw : s.Wired behind hand)
    (hd : (s.crew hand).Nodup) (hd' : (s'.crew hand).Nodup) (h : Lacks X s' s)
    (e : Task × Outcome) : (s'.tells e).filter (·.1.fetchesIn V) =
      (s.tells e).filter (·.1.fetchesIn V) := by
  have hmem : ∀ w, w ∈ (s'.tells e).filter (·.1.fetchesIn V) ↔
      w ∈ (s.tells e).filter (·.1.fetchesIn V) := by
    intro w
    rw [List.mem_filter, List.mem_filter, mem_tells_iff, mem_tells_iff]
    constructor
    · rintro ⟨⟨c, hc, hk, ha, ho⟩, hwV⟩
      exact ⟨⟨c, hc, hk, ((h _ _).1 ha).1, ho⟩, hwV⟩
    · rintro ⟨⟨c, hc, hk, ha, ho⟩, hwV⟩
      obtain ⟨d, hwd, -⟩ := Task.fetchesIn_eq_true.1 hwV
      exact ⟨⟨c, hc, hk, (h _ _).2 ⟨ha, Task.spared_of_fetch hwd X⟩, ho⟩, hwV⟩
  have hperm := (List.perm_ext_iff_of_nodup ((nodup_tells hd' e).filter _)
    ((nodup_tells hd e).filter _)).2 hmem
  have htrue : ∀ l : List (Task × Outcome), l.Pairwise fun _ _ => True :=
    fun l => List.pairwise_of_forall fun _ _ => trivial
  refine hperm.eq_of_pairwise (fun v w hv hwt _ _ => ?_) (htrue _) (htrue _)
  obtain ⟨hv, hvV⟩ := List.mem_filter.1 ((hmem v).1 hv)
  obtain ⟨hwt, hwV⟩ := List.mem_filter.1 hwt
  exact eq_of_tells hV hw hv hvV hwt hwV

/-- What a fetch of a view is told by, is in the view. -/
theorem filter_tells_eq_nil (hV : Provider.View behind V) (hw : s.Wired behind hand)
    {e : Task × Outcome} (he : e.1.fetchesIn V = false) :
    (s.tells e).filter (·.1.fetchesIn V) = [] := by
  rw [List.filter_eq_nil_iff]
  intro w hwt hwV
  obtain ⟨c, hc, -, ha, -⟩ := mem_tells_iff.1 hwt
  obtain ⟨d, hwd, hd⟩ := Task.fetchesIn_eq_true.1 hwV
  obtain ⟨inner, hinner⟩ := hw.core_of_awaits ha
  have hVc := hV.closed d c _ _ hd (hw.role _ ha.mem d hwd) hinner
  rw [Task.fetchesIn_eq_true.2 ⟨c, hc, hVc⟩] at he
  cases he

/-- A task that is told has more layers than the one that it waited for. -/
theorem height_lt_of_tells (hw : s.Wired behind hand) {e w : Task × Outcome}
    (hmem : e.1 ∈ s.crew hand) (hwt : w ∈ s.tells e) : e.1.provider.height < w.1.provider.height := by
  obtain ⟨c, hc, -, ha, -⟩ := mem_tells_iff.1 hwt
  obtain ⟨inner, hinner⟩ := hw.core_of_awaits ha
  have hfits := hw.provider _ (.inr ⟨w.1, ha.mem, rfl⟩)
  exact hfits.height_lt (Provider.uses_of_core_eq hinner) (hw.role _ hmem c hc)

/-- **Cascades that begin with the same tasks end the same fetches of a view**, in the same order. -/
theorem fetches_eq (hV : Provider.View behind V) (hw : s.Wired behind hand)
    (hd : (s.crew hand).Nodup) (hd' : (s'.crew hand).Nodup) (h : Lacks X s' s)
    (hP : P = Q ++ P.flatMap s.tells) (hP' : P' = Q ++ P'.flatMap s'.tells)
    (hmem : ∀ e ∈ P, e.1 ∈ s.crew hand) (hmem' : ∀ e ∈ P', e.1 ∈ s.crew hand) :
    P'.filter (·.1.fetchesIn V) = P.filter (·.1.fetchesIn V) := by
  have hview : ∀ (u : State) (L : List (Task × Outcome)), L = Q ++ L.flatMap u.tells →
      (∀ e, (u.tells e).filter (·.1.fetchesIn V) = (s.tells e).filter (·.1.fetchesIn V)) →
      L.filter (·.1.fetchesIn V) = Q.filter (·.1.fetchesIn V) ++
        (L.filter (·.1.fetchesIn V)).flatMap fun e => (s.tells e).filter (·.1.fetchesIn V) := by
    intro u L hL hu
    conv_lhs => rw [hL]
    rw [List.filter_append, List.filter_flatMap]
    refine congrArg (Q.filter (·.1.fetchesIn V) ++ ·)
      (Eq.trans ?_ (flatMap_filter fun e _ he => ?_).symm)
    · exact congrArg (fun f => List.flatMap f L) (funext hu)
    · exact filter_tells_eq_nil hV hw he
  have hrank : ∀ L : List (Task × Outcome), (∀ e ∈ L, e.1 ∈ s.crew hand) →
      ∀ e ∈ L.filter (·.1.fetchesIn V), ∀ w ∈ (s.tells e).filter (·.1.fetchesIn V),
        e.1.provider.height < w.1.provider.height := by
    intro L hL e he w hwt
    exact height_lt_of_tells hw (hL e (List.mem_of_mem_filter he)) (List.mem_of_mem_filter hwt)
  exact eq_of_eq_append_flatMap (fun e => e.1.provider.height)
    (hview s' P' hP' fun e => tells_eq hV hw hd hd' h e) (hview s P hP fun _ => rfl)
    (hrank P' hmem') (hrank P hmem)

/-- **Two cascades that begin with the same tasks**, and all that has ended in them. -/
structure Cascades (X : List Nat) (hand : List Task) (behind : List Provider) (s' s : State)
    (Q P' P : List (Task × Outcome)) : Prop where
  wired : s.Wired behind hand
  nodup : (s.crew hand).Nodup
  nodup' : (s'.crew hand).Nodup
  lacks : Lacks X s' s
  queue : P = Q ++ P.flatMap s.tells
  queue' : P' = Q ++ P'.flatMap s'.tells
  crew : ∀ e ∈ P, e.1 ∈ s.crew hand
  crew' : ∀ e ∈ P', e.1 ∈ s.crew hand

namespace Cascades

variable {c : Nat}

theorem filter_view (h : Cascades X hand behind s' s Q P' P) (hV : Provider.View behind V) :
    P'.filter (·.1.fetchesIn V) = P.filter (·.1.fetchesIn V) :=
  fetches_eq hV h.wired h.nodup h.nodup' h.lacks h.queue h.queue' h.crew h.crew'

/-- They end the fetches of a cache in the same order. -/
theorem filter_fetch (h : Cascades X hand behind s' s Q P' P) (c : Nat) :
    P'.filter (·.1.role == .fetch c) = P.filter (·.1.role == .fetch c) := by
  by_cases hx : ∃ x ∈ s.crew hand, x.role = .fetch c
  · obtain ⟨x, hx, hrole⟩ := hx
    have hfits : (Provider.cached x.provider c).Fits s.sources.length s.buckets.length behind :=
      ⟨h.wired.role x hx c hrole, h.wired.provider _ (.inr ⟨x, hx, rfl⟩)⟩
    have hview := h.filter_view (Provider.view_uses hfits)
    have hrefine : ∀ l : List (Task × Outcome), l.filter (·.1.role == .fetch c) =
        (l.filter (·.1.fetchesIn fun d => (Provider.cached x.provider c).uses d)).filter
          (·.1.role == .fetch c) := by
      intro l
      rw [List.filter_filter]
      refine List.filter_congr fun e _ => ?_
      cases hec : e.1.role == .fetch c with
      | false => rfl
      | true =>
        have huses : (Provider.cached x.provider c).uses c = true := by simp [Provider.uses]
        rw [Task.fetchesIn_eq_true.2 ⟨c, eq_of_beq hec, huses⟩]
        rfl
    rw [hrefine P', hrefine P, hview]
  · have hnone : ∀ l : List (Task × Outcome), (∀ e ∈ l, e.1 ∈ s.crew hand) →
        l.filter (·.1.role == .fetch c) = [] := by
      intro l hl
      rw [List.filter_eq_nil_iff]
      exact fun e he hec => hx ⟨e.1, hl e he, eq_of_beq hec⟩
    rw [hnone P' h.crew', hnone P h.crew]

theorem mem_fetch_iff (h : Cascades X hand behind s' s Q P' P) {e : Task × Outcome}
    (he : e.1.role = .fetch c) : e ∈ P' ↔ e ∈ P := by
  have hmem : ∀ l : List (Task × Outcome), e ∈ l ↔ e ∈ l.filter (·.1.role == .fetch c) := by
    intro l
    rw [List.mem_filter, he, beq_self_eq_true]
    exact (and_iff_left rfl).symm
  rw [hmem P', hmem P, h.filter_fetch c]

/-- **They end the same tasks**, but for the calls that one of the states lacks. -/
theorem mem_iff (h : Cascades X hand behind s' s Q P' P) {e : Task × Outcome}
    (he : e.1.spared X) : e ∈ P' ↔ e ∈ P := by
  have htells : ∀ f, e ∈ s'.tells f ↔ e ∈ s.tells f := by
    intro f
    rw [mem_tells_iff, mem_tells_iff]
    constructor
    · rintro ⟨c, hc, hk, ha, ho⟩
      exact ⟨c, hc, hk, ((h.lacks _ _).1 ha).1, ho⟩
    · rintro ⟨c, hc, hk, ha, ho⟩
      exact ⟨c, hc, hk, (h.lacks _ _).2 ⟨ha, he⟩, ho⟩
  have hfetch : ∀ f, e ∈ s.tells f → (f ∈ P' ↔ f ∈ P) := by
    intro f hf
    obtain ⟨c, hc, -⟩ := mem_tells_iff.1 hf
    exact h.mem_fetch_iff hc
  rw [h.queue, h.queue', List.mem_append, List.mem_append, List.mem_flatMap, List.mem_flatMap]
  refine or_congr_right ⟨?_, ?_⟩
  · rintro ⟨f, hf, hef⟩
    have hef' := (htells f).1 hef
    exact ⟨f, (hfetch f hef').1 hf, hef'⟩
  · rintro ⟨f, hf, hef⟩
    exact ⟨f, (hfetch f hef).2 hf, (htells f).2 hef⟩

/-- They do the same to a cache. -/
theorem foldl_upon (h : Cascades X hand behind s' s Q P' P) (c : Nat) (now : Instant)
    (cache : Cache) :
    P'.foldl (Cache.upon c now) cache = P.foldl (Cache.upon c now) cache := by
  have hfilter : ∀ l : List (Task × Outcome), l.foldl (Cache.upon c now) cache =
      (l.filter (·.1.role == .fetch c)).foldl (Cache.upon c now) cache := by
    intro l
    rw [List.foldl_filter]
    refine congrArg (fun f => List.foldl f cache l) (funext fun d => funext fun e => ?_)
    by_cases he : e.1.role = .fetch c
    · rw [if_pos (beq_iff_eq.2 he)]
    · rw [if_neg (by simpa using he), Cache.upon, if_neg he]
  rw [hfilter P', hfilter P, h.filter_fetch c]

end Cascades

end State

end SigningKeys
