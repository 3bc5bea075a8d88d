import SigningKeys.Proofs.Pipeline.Exchanges
import SigningKeys.Proofs.Pipeline.Metered
import SigningKeys.Proofs.Remote.Published
import SigningKeys.Proofs.Run.Fetches
import SigningKeys.Proofs.Run.Sound

/-!
# The books of a run

Every call is entered into the meter by its events: the layers of a provider enter what they do,
from the outside in. All that remains of a turn, and all moves that are no turns, enter nothing, but
for fetches over the network that end.

* `State.Books`, `exists_books`: what a call enters, layer by layer;
* `Turn.Entries`, `Sound.entries`: what a turn enters;
* `enters_apply`, **`enters_run`**: what a move and a run enter.
-/

namespace SigningKeys

namespace State

/-- **What a call enters**: the fetches that it starts, and what it counts as. -/
structure Books (kid : String) (p : Provider) (s : State) (l : List (Task × Stage)) : Prop where
  ready : (call kid p s).2.ready = s.ready ++ l
  starts : ∀ e ∈ l, ∃ inner c, .called (.cached inner c) kid ∈ events kid p s ∧
    e = (⟨.fetch c, kid, inner⟩, .calling)
  looked : Meter.Looked (events kid p s) s.meter (call kid p s).2.meter
  enters : Meter.Enters (events kid p s) l.length 0 s.meter (call kid p s).2.meter

variable {s : State} {kid : String} {inner : Provider} {b c : Nat}

/-! ## Calls -/

/-- A call that starts nothing. -/
theorem Books.of_ready {p : Provider} (hready : (call kid p s).2.ready = s.ready)
    (hlooked : Meter.Looked (events kid p s) s.meter (call kid p s).2.meter)
    (henters : Meter.Enters (events kid p s) 0 0 s.meter (call kid p s).2.meter) :
    Books kid p s [] :=
  ⟨by rw [hready, List.append_nil], fun e he => absurd he List.not_mem_nil, hlooked, henters⟩

/-- A call that starts nothing and enters nothing. -/
theorem Books.of_same {p : Provider} {es : List Event} (hevents : events kid p s = es)
    (hes : Event.Uncounted es) (hmeter : (call kid p s).2.meter = s.meter)
    (hready : (call kid p s).2.ready = s.ready) : Books kid p s [] := by
  subst hevents
  refine .of_ready hready ?_ ?_
  · rw [hmeter]
    exact .of_same hes.looks fun _ _ => rfl
  · rw [hmeter]
    exact .of_events_eq hes rfl

theorem books_source (kid : String) (i : Nat) (s : State) : Books kid (.source i) s [] := by
  have hsame : (call kid (.source i) s).2.meter = s.meter ∧
      (call kid (.source i) s).2.ready = s.ready := by
    rw [call, callSource]
    cases s.sources[i]? with
    | none => exact ⟨rfl, rfl⟩
    | some source =>
      dsimp only
      split <;> exact ⟨rfl, rfl⟩
  exact .of_same rfl ⟨rfl, fun _ => rfl⟩ hsame.1 hsame.2

/-- A fetch that begins is not counted. -/
theorem books_remote (kid : String) (r : Remote) (s : State) : Books kid (.remote r) s [] :=
  .of_same rfl ⟨rfl, fun _ => rfl⟩ rfl rfl

/-! ### Caches -/

section

variable {cache : Cache}

theorem call_cached_of_absent (inner : Provider) (hc : s.caches[c]? = some cache)
    (hlookup : cache.lookup s.now kid = (.absent, cache)) :
    call kid (.cached inner c) s = s.await kid inner c cache := by
  rw [call, hc]
  dsimp only
  rw [hlookup]

theorem call_cached_of_expired (inner : Provider) (hc : s.caches[c]? = some cache)
    (hlookup : cache.lookup s.now kid = (.expired, cache.swept s.now kid)) :
    call kid (.cached inner c) s =
      ((s.record (.lookup .expired)).gauge (cache.swept s.now kid).size).await kid inner c
        (cache.swept s.now kid) := by
  rw [call, hc]
  dsimp only
  rw [hlookup]

theorem books_hit {j : Jwk} (hc : s.caches[c]? = some cache)
    (hfresh : cache.fresh? s.now kid = some j) : Books kid (.cached inner c) s [] := by
  have hcall : call kid (.cached inner c) s = _ := call_cached_of_fresh hc hfresh
  refine .of_ready ?_ ?_ ?_
  · rw [hcall]
    rfl
  · rw [hcall]
    exact .of_record rfl (by decide)
  · rw [hcall]
    exact Meter.enters_hit inner c kid s.meter

theorem books_joined {f : Flight} (hc : s.caches[c]? = some cache) (hapart : cache.Apart)
    (hflight : cache.flight? kid = some f) : Books kid (.cached inner c) s [] := by
  have hmem : kid ∈ cache.kids := Cache.flight?_isSome.1 (by rw [hflight]; rfl)
  -- a key that is being fetched is not stored, so nothing is too old
  have hlookup : cache.lookup s.now kid = (.absent, cache) := by
    rw [Cache.lookup, KeyStore.lookup_of_get?_eq_none (hapart.unstored kid hmem)]
  have hcall := call_cached_of_absent inner hc hlookup
  rw [await_of_flight hflight] at hcall
  refine .of_ready ?_ ?_ ?_
  · rw [hcall]
    rfl
  · rw [hcall]
    exact .of_record rfl (by decide)
  · rw [hcall]
    exact Meter.enters_joined inner c kid s.meter

theorem books_started (hc : s.caches[c]? = some cache) (hstale : cache.fresh? s.now kid = none)
    (hflight : cache.flight? kid = none) :
    Books kid (.cached inner c) s [(⟨.fetch c, kid, inner⟩, .calling)] := by
  have hstarts : ∀ e ∈ [((⟨.fetch c, kid, inner⟩ : Task), Stage.calling)], ∃ inner' c',
      .called (.cached inner' c') kid ∈ events kid (.cached inner c) s ∧
        e = (⟨.fetch c', kid, inner'⟩, .calling) :=
    fun e he => ⟨inner, c, List.mem_cons_self, List.mem_singleton.1 he⟩
  obtain ⟨hlookup, -⟩ | hlookup := Cache.lookup_of_stale hstale
  · have hcall := call_cached_of_absent inner hc hlookup
    rw [await_of_no_flight hflight] at hcall
    refine ⟨?_, hstarts, ?_, ?_⟩
    · rw [hcall]
      rfl
    · rw [hcall]
      exact .of_record rfl (by decide)
    · rw [hcall]
      exact Meter.enters_missed inner c kid s.meter
  · have hcall := call_cached_of_expired inner hc hlookup
    have hflight' : (cache.swept s.now kid).flight? kid = none := hflight
    rw [await_of_no_flight hflight'] at hcall
    refine ⟨?_, hstarts, ?_, ?_⟩
    · rw [hcall]
      rfl
    · rw [hcall]
      refine Meter.Looked.behind [] (.of_record rfl (by decide)) rfl fun e he => ?_
      exact Meter.count_record_of_not_look (by decide) he _
    · rw [hcall]
      exact Meter.enters_expired inner c kid s.meter _

theorem books_cached (hlen : c < s.caches.length)
    (hapart : ∀ cache : Cache, s.caches[c]? = some cache → cache.Apart) :
    ∃ l, Books kid (.cached inner c) s l := by
  obtain ⟨cache, hc⟩ : ∃ cache, s.caches[c]? = some cache := ⟨_, List.getElem?_eq_getElem hlen⟩
  cases hf : cache.fresh? s.now kid with
  | some j => exact ⟨_, books_hit hc hf⟩
  | none =>
    cases hl : cache.flight? kid with
    | some f => exact ⟨_, books_joined hc (hapart cache hc) hl⟩
    | none => exact ⟨_, books_started hc hf hl⟩

end

/-! ### Limiters -/

theorem books_granted {B B' : TokenBucket} {l : List (Task × Stage)} (hB : s.buckets[b]? = some B)
    (ha : B.acquire s.now 1 = (.ok none, B')) (h : Books kid inner (s.paid b B') l) :
    Books kid (.limited inner b) s l := by
  obtain ⟨hcall, hevents⟩ := call_granted kid inner hB ha
  have hmeter : (s.paid b B').meter = s.meter.record (.decision true) := rfl
  constructor
  case ready => rw [hcall, h.ready]; rfl
  case starts =>
    intro e he
    obtain ⟨inner', c, hmem, heq⟩ := h.starts e he
    rw [hevents]
    exact ⟨inner', c, List.mem_cons_of_mem _ (List.mem_cons_of_mem _ hmem), heq⟩
  case looked =>
    have hlooked := h.looked
    rw [hmeter] at hlooked
    rw [hcall, hevents]
    exact hlooked.behind [_, _] rfl fun e he =>
      Meter.count_record_of_not_look (by decide) he _
  case enters =>
    have henters := (Meter.enters_granted inner b kid s.meter).trans h.enters
    rw [Nat.zero_add] at henters
    rw [hcall, hevents]
    exact henters

theorem books_refused {B B' : TokenBucket} {w : Duration} (hB : s.buckets[b]? = some B)
    (ha : B.acquire s.now 1 = (.ok (some w), B')) : Books kid (.limited inner b) s [] := by
  obtain ⟨hcall, hevents⟩ := call_refused kid inner hB ha
  refine .of_ready ?_ ?_ ?_
  · rw [hcall]
    rfl
  · rw [hcall, hevents]
    exact .of_same rfl fun e he => Meter.count_record_of_not_look (by decide) he _
  · rw [hcall, hevents]
    exact Meter.enters_refused inner b kid w s.meter

theorem books_failed {B B' : TokenBucket} {fault : BucketFault} (hB : s.buckets[b]? = some B)
    (ha : B.acquire s.now 1 = (.error fault, B')) : Books kid (.limited inner b) s [] := by
  have hevents : events kid (.limited inner b) s =
      [.called (.limited inner b) kid, .asked inner b (.error fault)] := by
    rw [events, hB]
    dsimp only
    rw [ha]
  have hcall : (call kid (.limited inner b) s).2 = s.setBucket b B' := by
    rw [call, hB]
    dsimp only
    rw [ha]
    cases fault <;> rfl
  refine .of_same hevents ⟨rfl, fun _ => rfl⟩ ?_ ?_
  · rw [hcall]
    rfl
  · rw [hcall]
    rfl

theorem books_absent (hB : s.buckets[b]? = none) : Books kid (.limited inner b) s [] := by
  have hcall : call kid (.limited inner b) s = (.absent "bucket", s) := by rw [call, hB]
  have hevents : events kid (.limited inner b) s = [.called (.limited inner b) kid] := by
    rw [events, hB]
  refine .of_same hevents ⟨rfl, fun _ => rfl⟩ ?_ ?_
  · rw [hcall]
  · rw [hcall]

/-- **Every call is booked**, if its cache is there. -/
theorem exists_books (kid : String)
    (h : ∀ (c : Nat) (cache : Cache), s.caches[c]? = some cache → cache.Apart)
    (p : Provider) (hp : ∀ inner c, p.core = .cached inner c → c < s.caches.length) :
    ∃ l, Books kid p s l := by
  induction p generalizing s with
  | source i => exact ⟨[], books_source kid i s⟩
  | remote r => exact ⟨[], books_remote kid r s⟩
  | cached inner c => exact books_cached (hp inner c rfl) (h c)
  | limited inner b ih =>
    cases hB : s.buckets[b]? with
    | none => exact ⟨[], books_absent hB⟩
    | some B =>
      cases ha : B.acquire s.now 1 with
      | mk answer B' =>
        cases answer with
        | error fault => exact ⟨[], books_failed hB ha⟩
        | ok wait =>
          cases wait with
          | none =>
            obtain ⟨l, hl⟩ := ih (s := s.paid b B') h hp
            exact ⟨l, books_granted hB ha hl⟩
          | some w => exact ⟨[], books_refused hB ha⟩

/-! ## Turns -/

theorem events_finish (s : State) (x : Task) (o : Outcome) :
    (s.finish x o).meter.events = s.meter.events := by
  cases hrole : x.role with
  | caller id => rw [finish_caller o hrole]
  | fetch c =>
    rw [finish, hrole]
    dsimp only
    split
    · rw [store, land]
      split <;> split <;> rfl
    · rfl

end State

/-- **What a turn enters.** -/
structure Turn.Entries (T : Turn) : Prop where
  looked : Meter.Looked T.events T.before.meter T.after.meter
  enters : Meter.Enters T.events T.made.length T.stage.exchange?.toList.length T.before.meter
    T.after.meter
  /-- Only a cache that is called starts a fetch. -/
  made : ∀ x ∈ T.made, ∃ inner c, .called (.cached inner c) T.task.kid ∈ T.events ∧
    x = ⟨.fetch c, T.task.kid, inner⟩

namespace Turn

variable {T : Turn}

/-- A turn in which no call is made and no fetch ends enters nothing. -/
theorem Entries.of_finish {o : Outcome} (hevents : T.events = [])
    (hstage : T.stage.exchange? = none) (hafter : T.after = T.before.finish T.task o) :
    T.Entries := by
  have hsame : T.after.meter.events = T.before.meter.events := by
    rw [hafter, State.events_finish]
  constructor
  case looked =>
    rw [hevents]
    exact Meter.Looked.of_events_eq (.of_same rfl fun _ _ => rfl) hsame
  case enters =>
    rw [hevents, hstage, made_of_finish rfl hafter]
    exact .of_events_eq .nil hsame
  case made =>
    rw [made_of_finish rfl hafter]
    exact fun x hx => absurd hx List.not_mem_nil

/-- A turn in which a fetch over the network ends enters that it does. -/
theorem Entries.of_receive {x : Exchange} (hstage : T.stage = .fetching x) : T.Entries := by
  have hevents : T.events = [] := by rw [events, hstage]
  have hafter : T.after =
      (T.before.receive x).2.finish T.task (T.before.receiveKey T.task.kid x).1 := by
    rw [after, hstage]
    rfl
  have hmeter : (T.before.receive x).2.meter = T.before.meter.recordFetch _ :=
    T.before.meter_noteFetch _
  have hsame : T.after.meter.events = (T.before.receive x).2.meter.events := by
    rw [hafter, State.events_finish]
  have hmade : T.made = [] := made_of_finish (T.before.quiet_receive x).ready hafter
  rw [hmeter] at hsame
  constructor
  case looked =>
    rw [hevents]
    refine Meter.Looked.of_events_eq (.of_same rfl fun e he => ?_) hsame
    rw [Meter.recordFetch, Meter.count_record_of_not_look (by simp [Meter.lookMetrics]) he,
      Meter.count_record_of_not_look (by simp [Meter.lookMetrics]) he]
  case enters =>
    rw [hevents, hmade, hstage]
    exact (Meter.enters_fetched .nil _ _).trans (.of_events_eq .nil hsame)
  case made =>
    rw [hmade]
    exact fun x hx => absurd hx List.not_mem_nil

/-- A turn in which a call is made enters what the call enters. -/
theorem Entries.of_books {l : List (Task × Stage)} (hstage : T.stage = .calling)
    (h : State.Books T.task.kid T.task.provider T.before l) : T.Entries := by
  have hevents : T.events = State.events T.task.kid T.task.provider T.before := by
    rw [events, hstage]
  have hcalled := State.called T.task.kid T.task.provider T.before
  have hnever : T.stage.exchange?.toList.length = 0 := by rw [hstage]; rfl
  obtain ⟨hready, hstarts, hlooked, henters⟩ := h
  rw [← hevents, ← hnever] at henters
  rw [← hevents] at hstarts hlooked
  cases hcall : State.call T.task.kid T.task.provider T.before with
  | mk reach t =>
    rw [hcall] at hcalled hready hlooked henters
    cases reach with
    | ended o =>
      have hafter : T.after = t.finish T.task o := by
        rw [after, hstage, State.advanceTask, hcall]
      have hquiet : t.ready = T.before.ready := hcalled.quiet.ready
      -- a call that ends at once starts nothing
      have hnone : l = [] := List.append_right_eq_self.1 (hready.symm.trans hquiet)
      have hsame : T.after.meter.events = t.meter.events := by
        rw [hafter, State.events_finish]
      constructor
      case looked => exact hlooked.of_events_eq hsame
      case enters =>
        rw [made_of_finish hquiet hafter]
        rw [hnone] at henters
        have hall := henters.trans (.of_events_eq .nil hsame)
        rwa [List.append_nil] at hall
      case made =>
        rw [made_of_finish hquiet hafter]
        exact fun x hx => absurd hx List.not_mem_nil
    | waits spot =>
      have hafter : T.after = t.park T.task spot := by
        rw [after, hstage, State.advanceTask, hcall]
      have hcalling : ∀ e ∈ l, e.2.isCalling = true := by
        intro e he
        obtain ⟨inner, c, -, rfl⟩ := hstarts e he
        rfl
      have hmade : T.made = l.map (·.1) := by
        rw [made_eq (by rw [hafter]; exact hready), List.filter_eq_self.2 hcalling]
      constructor
      case looked =>
        rw [hafter]
        exact hlooked
      case enters =>
        rw [hmade, List.length_map, hafter]
        exact henters
      case made =>
        intro x hx
        rw [hmade] at hx
        obtain ⟨e, he, rfl⟩ := List.mem_map.1 hx
        obtain ⟨inner, c, hmem, heq⟩ := hstarts e he
        exact ⟨inner, c, hmem, congrArg Prod.fst heq⟩
    | fetches x =>
      have hafter : T.after = t.enqueue T.task (.fetching x) := by
        rw [after, hstage, State.advanceTask, hcall]
      have hquiet : t.ready = T.before.ready := hcalled.quiet_of_fetches.ready
      have hnone : l = [] := List.append_right_eq_self.1 (hready.symm.trans hquiet)
      have hmade : T.made = [] := made_eq (l := [(T.task, .fetching x)]) <| by
        rw [hafter, State.enqueue, hquiet]
      constructor
      case looked =>
        rw [hafter]
        exact hlooked
      case enters =>
        rw [hmade, hafter]
        rw [hnone] at henters
        exact henters
      case made =>
        rw [hmade]
        exact fun x hx => absurd hx List.not_mem_nil

end Turn

namespace State

variable {s : State} {behind : List Provider}

/-- **Every turn of a sound state is entered.** -/
theorem Sound.entries (h : s.Sound behind []) {m : Move} {T : Turn} (hT : s.turn? m = some T) :
    T.Entries := by
  obtain ⟨i, hi, hbefore⟩ := turn?_eq_some hT
  cases hstage : T.stage with
  | calling =>
    have hapart : ∀ (c : Nat) (cache : Cache), T.before.caches[c]? = some cache → cache.Apart := by
      rw [hbefore]
      exact h.flying.apart
    have hfits := h.wired.provider T.task.provider
      (.inr ⟨T.task, (perm_eraseIdx_ready hi).mem_iff.2 List.mem_cons_self, rfl⟩)
    have hcache : ∀ inner c, T.task.provider.core = .cached inner c →
        c < T.before.caches.length := by
      intro inner c hcore
      have hlt := (List.getElem?_eq_some_iff.1 (hfits.cached hcore).1).1
      rw [hbefore]
      exact Nat.lt_of_lt_of_eq hlt h.wired.caches
    obtain ⟨l, hl⟩ := exists_books T.task.kid hapart T.task.provider hcache
    exact .of_books hstage hl
  | admitted i n =>
    have hevents : T.events = [] := by rw [Turn.events, hstage]
    cases hsource : T.before.sources[i]? with
    | some source =>
      exact .of_finish hevents (by rw [hstage]; rfl)
        (by rw [Turn.after, hstage, advanceTask, hsource])
    | none =>
      have hafter : T.after = T.before := by rw [Turn.after, hstage, advanceTask, hsource]
      have hmade : T.made = [] := Turn.made_eq (l := []) (by rw [hafter, List.append_nil])
      constructor
      case looked =>
        rw [hevents, hafter]
        exact .of_same rfl fun _ _ => rfl
      case enters =>
        rw [hevents, hafter, hmade, hstage]
        exact .of_events_eq .nil rfl
      case made =>
        rw [hmade]
        exact fun x hx => absurd hx List.not_mem_nil
  | fetching x => exact .of_receive hstage
  | told result =>
    have hevents : T.events = [] := by rw [Turn.events, hstage]
    exact .of_finish hevents (by rw [hstage]; rfl) (by rw [Turn.after, hstage, advanceTask])

/-! ## Runs -/

/-- **A move that is no turn tells the meter of the fetch that ends with it**, or nothing. -/
theorem meter_still {m : Move} (hm : s.turn? m = none) :
    s.completes m = [] ∧ (s.apply m).meter = s.meter ∨
      ∃ x error, s.completes m = [x] ∧ (s.apply m).meter = s.meter.recordFetch error := by
  have hcompletes : (∀ k, m ≠ .receive k) → s.completes m = [] := by
    intro hreceive
    rw [completes, hm]
    · rfl
    · exact hreceive
  have hgate : ∀ (t : State) (i : Nat), (t.openGate i).meter = t.meter := by
    intro t i
    obtain ⟨x, j, n, rest, -, -, heq⟩ | ⟨source, -, heq⟩ | heq := t.openGate_cases i <;> rw [heq]
    · rfl
    · rfl
  cases m with
  | bucket r | skip | drop p | delay d | advance d | fetchAll r | forgo k =>
    exact .inl ⟨hcompletes (by simp), rfl⟩
  | build base layers =>
    refine .inl ⟨hcompletes (by simp), ?_⟩
    rw [apply]
    split
    · obtain ⟨bs, cs, heq, -⟩ := s.install_eq base layers
      rw [heq]
      rfl
    · rfl
  | get p kid =>
    refine .inl ⟨hcompletes (by simp), ?_⟩
    rw [apply]
    split <;> rfl
  | turn i =>
    have hi : s.ready[i]? = none := Option.map_eq_none_iff.1 hm
    exact .inl ⟨hcompletes (by simp), by rw [apply, turnAt, hi]⟩
  | openGate i => exact .inl ⟨hcompletes (by simp), hgate s i⟩
  | pass k =>
    refine .inl ⟨hcompletes (by simp), ?_⟩
    obtain ⟨x, j, n, rest, -, -, heq⟩ | heq := s.pass_cases k
    · rw [apply, heq]
      rfl
    · rw [apply, heq]
  | abort id =>
    refine .inl ⟨hcompletes (by simp), ?_⟩
    obtain ⟨x, spot, -, -, heq⟩ | heq := s.giveUp_cases id
    · obtain ⟨cs, -, hleave⟩ := leave_eq { s with parked := s.parked.erase (x, spot) } x.kid spot
      rw [apply, heq, hleave]
    · obtain hstrike | ⟨i, hstrike⟩ := s.withdraw_cases id
      · rw [apply, heq, hstrike]
        rfl
      · rw [apply, heq, hstrike, hgate]
        rfl
  | callBucket b c =>
    refine .inl ⟨hcompletes (by simp), ?_⟩
    rw [apply, callBucket]
    split <;> rfl
  | receive k =>
    cases hk : s.reads[k]? with
    | none =>
      rw [completes, apply, receiveAt, hk]
      exact .inl ⟨rfl, rfl⟩
    | some x =>
      rw [completes, apply, receiveAt, hk]
      exact .inr ⟨x, _, rfl, (s.forgo k).meter_noteFetch _⟩

/-- **What a move enters.** -/
theorem enters_apply (h : s.Sound behind []) (m : Move) :
    Meter.Enters ((s.turn? m).toList.flatMap Turn.events)
      ((s.turn? m).toList.flatMap Turn.made).length (s.completes m).length s.meter
      (s.apply m).meter := by
  cases hT : s.turn? m with
  | some T =>
    obtain ⟨i, -, hbefore⟩ := turn?_eq_some hT
    have hmeter : T.before.meter = s.meter := by rw [hbefore]
    rw [Option.toList_some, List.flatMap_singleton, List.flatMap_singleton, completes_of_turn? hT,
      apply_of_turn? hT, ← hmeter]
    exact (h.entries hT).enters
  | none =>
    obtain ⟨hnone, hmeter⟩ | ⟨x, error, hone, hmeter⟩ := meter_still hT
    · rw [hnone, hmeter]
      exact .of_events_eq .nil rfl
    · rw [hone, hmeter]
      exact Meter.enters_fetched .nil _ _

/-- **What a run enters.** -/
theorem enters_run (h : s.Sound behind []) (ms : List Move) :
    Meter.Enters (s.ledger ms) ((s.history ms).flatMap Turn.made).length
      (s.gather completes ms).length s.meter (s.run ms).meter := by
  induction ms generalizing s behind with
  | nil => exact .of_events_eq .nil rfl
  | cons m ms ih =>
    obtain ⟨behind', -, h'⟩ := h.run [m]
    have hall := (enters_apply h m).trans (ih h')
    rw [ledger, history, List.flatMap_append, List.flatMap_append, List.length_append, gather,
      List.length_append]
    exact hall

end State

end SigningKeys
