import SigningKeys.Proofs.Pipeline.Ledger

/-!
# What events enter into a meter

Some events of a run are counted: that a cache is called, that a limiter decides, and that a fetch
over the network ends. A meter holds one count a metric; some of them belong together.

* `Event.callsCache`, `Event.decides`: the events that are counted;
* `Meter.lookMetrics`, `Meter.fetchMetrics`, `Meter.total`: the counts that belong together;
* `Meter.Looked`: a call of a cache counts as one look;
* `Meter.Enters`, **`Enters.trans`**: what events enter, one after the other.
-/

namespace SigningKeys

/-! ## What counts -/

namespace Event

/-- Whether a provider is called. -/
def isCall : Event → Bool
  | .called _ _ => true
  | .asked _ _ _ => false

/-- Whether a cache is called. -/
def callsCache : Event → Bool
  | .called (.cached _ _) _ => true
  | _ => false

/-- Whether a limiter decides to let a call pass, or not to. -/
def decides (allowed : Bool) : Event → Bool
  | .asked _ _ (.ok wait) => wait.isNone == allowed
  | _ => false

/-- No cache is called, and no limiter decides. -/
structure Uncounted (es : List Event) : Prop where
  looks : es.countP callsCache = 0
  decides : ∀ allowed, es.countP (decides allowed) = 0

theorem Uncounted.nil : Uncounted [] := ⟨rfl, fun _ => rfl⟩

end Event

namespace Meter

/-- What a call of a cache can count as. -/
def lookMetrics : List Metric := [.lookup .hit, .lookup .miss, .coalesced]

/-- What a fetch can count as that succeeds, or fails. -/
def fetchMetrics : Bool → List Metric
  | true => [.fetch none]
  | false => ErrorKind.all.map fun k => .fetch (some k)

/-- How often some events happened, taken together. -/
def total (m : Meter) (es : List Metric) : Nat := (es.map m.count).sum

/-- **Each call of a cache counts as one look**, and nothing else does. -/
def Looked (es : List Event) (m m' : Meter) : Prop :=
  es.countP Event.callsCache = 0 ∧ (∀ e ∈ lookMetrics, m'.count e = m.count e) ∨
    es.countP Event.callsCache = 1 ∧ ∃ e ∈ lookMetrics,
      ∀ e' ∈ lookMetrics, m'.count e' = m.count e' + if e = e' then 1 else 0

/-- **What some events enter into a meter**, when caches start a number of fetches and a number of
fetches of key sets end. -/
structure Enters (es : List Event) (started fetched : Nat) (m m' : Meter) : Prop where
  looks : m'.total lookMetrics = m.total lookMetrics + es.countP Event.callsCache
  misses : m'.count (.lookup .miss) = m.count (.lookup .miss) + started
  expired : m'.count (.lookup .expired) ≤ m.count (.lookup .expired) + started
  decisions : ∀ allowed,
    m'.count (.decision allowed) = m.count (.decision allowed) + es.countP (Event.decides allowed)
  timings : m'.count (.timing true) + m'.count (.timing false) =
    m.count (.timing true) + m.count (.timing false) + fetched
  timed : ∀ success, m.total (fetchMetrics success) = m.count (.timing success) →
    m'.total (fetchMetrics success) = m'.count (.timing success)

variable {m m' m'' : Meter} {es es' : List Event} {n n' k k' : Nat}

/-! ## Entries -/

theorem total_record {L : List Metric} (hL : L.Nodup) (m : Meter) (e : Metric) :
    (m.record e).total L = m.total L + if e ∈ L then 1 else 0 := by
  unfold total
  induction L with
  | nil => rfl
  | cons a L ih =>
    obtain ⟨ha, hL⟩ := List.nodup_cons.1 hL
    simp only [List.map_cons, List.sum_cons, ih hL, count_record, List.mem_cons]
    by_cases he : e = a
    · subst he
      rw [if_pos rfl, if_neg ha, if_pos (.inl rfl)]
      omega
    · rw [if_neg he, Nat.add_zero, Nat.add_assoc]
      simp [he]

@[simp] theorem looks_record (m : Meter) (e : Metric) : (m.record e).total lookMetrics =
    m.total lookMetrics + if e ∈ lookMetrics then 1 else 0 := total_record (by decide) m e

@[simp] theorem fetches_record (m : Meter) (e : Metric) (success : Bool) :
    (m.record e).total (fetchMetrics success) =
      m.total (fetchMetrics success) + if e ∈ fetchMetrics success then 1 else 0 :=
  total_record (by cases success <;> decide) m e

theorem Enters.trans (h : Enters es n k m m') (h' : Enters es' n' k' m' m'') :
    Enters (es ++ es') (n + n') (k + k') m m'' := by
  constructor
  case looks => rw [h'.looks, h.looks, List.countP_append, Nat.add_assoc]
  case misses => rw [h'.misses, h.misses, Nat.add_assoc]
  case expired =>
    have hfirst := h.expired
    have hsecond := h'.expired
    omega
  case decisions =>
    intro allowed
    rw [h'.decisions, h.decisions, List.countP_append, Nat.add_assoc]
  case timings => rw [h'.timings, h.timings, Nat.add_assoc]
  case timed => exact fun success hm => h'.timed success (h.timed success hm)

/-- A meter that stays as it is. -/
theorem Enters.of_events_eq (hes : Event.Uncounted es) (h : m'.events = m.events) :
    Enters es 0 0 m m' := by
  have hcount : m'.count = m.count := funext fun e => congrArg (·.count e) h
  have htotal : ∀ L, m'.total L = m.total L := fun L => by rw [total, total, hcount]
  constructor
  case looks => rw [htotal, hes.looks, Nat.add_zero]
  case misses => exact congrFun hcount _
  case expired => exact Nat.le_of_eq (congrFun hcount _)
  case decisions =>
    intro allowed
    rw [hcount, hes.decides, Nat.add_zero]
  case timings => rw [hcount, Nat.add_zero]
  case timed =>
    rw [hcount]
    exact fun success hm => (htotal _).trans hm

/-- What is no fetch of a key set, and no key that was too old. -/
theorem enters_record {e : Metric}
    (hlook : es.countP Event.callsCache = if e ∈ lookMetrics then 1 else 0)
    (hmiss : n = if e = .lookup .miss then 1 else 0)
    (hdecides : ∀ allowed,
      es.countP (Event.decides allowed) = if e = .decision allowed then 1 else 0)
    (hexpired : e ≠ .lookup .expired) (hfetch : ∀ success, e ∉ fetchMetrics success)
    (htiming : ∀ success, e ≠ .timing success) : Enters es n 0 m (m.record e) := by
  constructor
  case looks => rw [looks_record, hlook]
  case misses => rw [count_record, hmiss]
  case expired =>
    rw [count_record, if_neg hexpired]
    exact Nat.le_add_right _ _
  case decisions => exact fun allowed => by rw [count_record, hdecides]
  case timings =>
    rw [count_record, count_record, if_neg (htiming _), if_neg (htiming _)]
    rfl
  case timed =>
    intro success hm
    rw [fetches_record, count_record, if_neg (hfetch _), if_neg (htiming _)]
    exact hm

theorem enters_hit (inner : Provider) (c : Nat) (kid : String) (m : Meter) :
    Enters [.called (.cached inner c) kid] 0 0 m (m.record (.lookup .hit)) := by
  refine enters_record ?_ ?_ ?_ ?_ ?_ ?_ <;> simp +decide [Event.callsCache, Event.decides]

theorem enters_joined (inner : Provider) (c : Nat) (kid : String) (m : Meter) :
    Enters [.called (.cached inner c) kid] 0 0 m (m.record .coalesced) := by
  refine enters_record ?_ ?_ ?_ ?_ ?_ ?_ <;> simp +decide [Event.callsCache, Event.decides]

theorem enters_missed (inner : Provider) (c : Nat) (kid : String) (m : Meter) :
    Enters [.called (.cached inner c) kid] 1 0 m (m.record (.lookup .miss)) := by
  refine enters_record ?_ ?_ ?_ ?_ ?_ ?_ <;> simp +decide [Event.callsCache, Event.decides]

/-- A key was too old. -/
theorem enters_expired (inner : Provider) (c : Nat) (kid : String) (m : Meter) (size : Nat) :
    Enters [.called (.cached inner c) kid] 1 0 m
      (((m.record (.lookup .expired)).setEntries size).record (.lookup .miss)) := by
  have hnone : Enters [] 0 0 (m.record (.lookup .expired))
      ((m.record (.lookup .expired)).setEntries size) := .of_events_eq .nil rfl
  have hmissed := hnone.trans (enters_missed inner c kid _)
  constructor
  case looks => exact hmissed.looks.trans (by simp +decide)
  case misses => exact hmissed.misses.trans (by simp)
  case expired => simp
  case decisions => exact fun allowed => (hmissed.decisions allowed).trans (by simp)
  case timings => exact hmissed.timings.trans (by simp)
  case timed =>
    refine fun success hm => hmissed.timed success ?_
    cases success <;> simpa +decide using hm

theorem enters_granted (inner : Provider) (b : Nat) (kid : String) (m : Meter) :
    Enters [.called (.limited inner b) kid, .asked inner b (.ok none)] 0 0 m
      (m.record (.decision true)) := by
  refine enters_record ?_ ?_ ?_ ?_ ?_ ?_ <;> simp +decide [Event.callsCache, Event.decides]

theorem enters_refused (inner : Provider) (b : Nat) (kid : String) (w : Duration) (m : Meter) :
    Enters [.called (.limited inner b) kid, .asked inner b (.ok (some w))] 0 0 m
      (m.record (.decision false)) := by
  refine enters_record ?_ ?_ ?_ ?_ ?_ ?_ <;> simp +decide [Event.callsCache, Event.decides]

/-- A fetch of a key set ended. -/
theorem enters_fetched (hes : Event.Uncounted es) (m : Meter) (error : Option ErrorKind) :
    Enters es 0 1 m (m.recordFetch error) := by
  constructor
  case looks =>
    rw [recordFetch, looks_record, looks_record, hes.looks]
    simp [lookMetrics]
  case misses => simp [recordFetch]
  case expired => simp [recordFetch]
  case decisions => simp [recordFetch, hes.decides]
  case timings => cases error <;> simp [recordFetch] <;> omega
  case timed =>
    intro success hm
    rw [recordFetch, fetches_record, fetches_record, hm]
    have hall : ∀ kind, kind ∈ ErrorKind.all := fun kind => by cases kind <;> decide
    cases success <;> cases error <;> simp [fetchMetrics, hall]

/-! ## Looks -/

theorem Looked.of_record {e : Metric} (hes : es.countP Event.callsCache = 1)
    (he : e ∈ lookMetrics) : Looked es m (m.record e) :=
  .inr ⟨hes, e, he, fun e' _ => m.count_record e e'⟩

theorem Looked.of_same (hes : es.countP Event.callsCache = 0)
    (h : ∀ e ∈ lookMetrics, m'.count e = m.count e) : Looked es m m' := .inl ⟨hes, h⟩

theorem Looked.of_events_eq (h : Looked es m m') (hsame : m''.events = m'.events) :
    Looked es m m'' := by
  have hcount : m''.count = m'.count := funext fun e => congrArg (·.count e) hsame
  rw [Looked, hcount]
  exact h

/-- What is counted apart from looks makes no difference. -/
theorem Looked.behind (es' : List Event) (h : Looked es m' m'')
    (hes : es'.countP Event.callsCache = 0)
    (hsame : ∀ e ∈ lookMetrics, m'.count e = m.count e) : Looked (es' ++ es) m m'' := by
  rw [Looked, List.countP_append, hes, Nat.zero_add]
  obtain ⟨hcalls, hstay⟩ | ⟨hcalls, e, he, hone⟩ := h
  · exact .inl ⟨hcalls, fun e he => (hstay e he).trans (hsame e he)⟩
  · exact .inr ⟨hcalls, e, he, fun e' he' => by rw [hone e' he', hsame e' he']⟩

theorem count_record_of_not_look {x e : Metric} (hx : x ∉ lookMetrics) (he : e ∈ lookMetrics)
    (m : Meter) : (m.record x).count e = m.count e := by
  have hne : x ≠ e := fun h => hx (h ▸ he)
  rw [count_record, if_neg hne, Nat.add_zero]

end Meter

end SigningKeys
