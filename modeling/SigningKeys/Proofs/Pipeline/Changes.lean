import SigningKeys.Proofs.Pipeline.Build

/-!
# Blueprints after changes

What is built after any changes of a blueprint depends, for each part of it, only on the last change
that says something about this part. So changes of different layers can come in any order. What is
wrong with a blueprint is told in a fixed order as well: first the key set on the network, then the
bucket, then the cache.

* `Change.last`: what the last of the changes that say something says;
* `Blueprint.changes_eq`: the blueprint after changes, part by part;
* `Change.layer`, `Blueprint.changes_congr`: the order of changes of different layers is irrelevant;
* `Blueprint.complaints`: all that is wrong, in the order in which it is looked at;
* `State.Composes`: what comes of changes, and **`composes`**: it does, for all of them;
* `build_other_scheme`: an address of another scheme is refused whatever the parameters are.
-/

namespace SigningKeys

open Web

namespace Change

/-- Whether a change asks for a cache, or for none. -/
def wantsCache? : Change → Option Bool
  | .cached enabled => some enabled
  | .cache _ _ => some true
  | _ => none

/-- How many keys a change lets be stored, and for how long. -/
def limits? : Change → Option (Nat × Duration)
  | .cache capacity ttl => some (capacity, ttl)
  | _ => none

/-- Whether a change asks for a limiter, or for none. -/
def wantsLimiter? : Change → Option Bool
  | .limited enabled => some enabled
  | .limit _ _ | .share _ => some true
  | _ => none

/-- The bucket that a change asks for. -/
def bucket? : Change → Option BucketChoice
  | .limit capacity interval => some (.own capacity interval)
  | .share bucket => some (.shared bucket)
  | _ => none

/-- The times to wait that a change asks for. -/
def timeouts? : Change → Option Timeouts
  | .timeouts t => some t
  | _ => none

/-- **What the last of the changes that say something says**, or `otherwise` if none of them does. -/
def last {α : Type} (said? : Change → Option α) (otherwise : α) (cs : List Change) : α :=
  (cs.filterMap said?).getLastD otherwise

theorem last_cons {α : Type} (said? : Change → Option α) (a : α) (c : Change) (cs : List Change) :
    last said? a (c :: cs) = last said? ((said? c).getD a) cs := by
  cases h : said? c with
  | none => rw [last, last, List.filterMap_cons_none h, Option.getD_none]
  | some b => rw [last, last, List.filterMap_cons_some h, List.getLastD_cons, Option.getD_some]

/-- The part of a pipeline that a change is about. -/
inductive Layer where
  | cache
  | limiter
  | network
deriving DecidableEq

/-- The layer that a change is about. -/
def layer : Change → Layer
  | .cached _ | .cache _ _ => .cache
  | .limited _ | .limit _ _ | .share _ => .limiter
  | .timeouts _ => .network

/-- A change says something only about its own layer. -/
theorem eq_none_of_layer (c : Change) :
    (c.layer ≠ .cache → c.wantsCache? = none ∧ c.limits? = none) ∧
      (c.layer ≠ .limiter → c.wantsLimiter? = none ∧ c.bucket? = none) ∧
      (c.layer ≠ .network → c.timeouts? = none) := by
  cases c <;> simp [layer, wantsCache?, limits?, wantsLimiter?, bucket?, timeouts?]

/-- What is said of one layer is not touched by changes of others. -/
theorem last_filter {α : Type} {said? : Change → Option α} {k : Layer}
    (h : ∀ c : Change, c.layer ≠ k → said? c = none) (a : α) (cs : List Change) :
    last said? a (cs.filter (·.layer = k)) = last said? a cs := by
  unfold last
  rw [List.filterMap_filter]
  congr 2
  funext c
  by_cases hc : c.layer = k
  · simp [hc]
  · simp [hc, h c hc]

end Change

/-- No time to wait is zero. -/
def Timeouts.Positive (t : Timeouts) : Prop :=
  (∀ d, t.connect = some d → 0 < d.nanos) ∧ ∀ d, t.request = some d → 0 < d.nanos

namespace Blueprint

/-- The blueprint in which each part is what the last of some changes about it says. Parts that none
of them is about are as in `b`. -/
def settled (b : Blueprint) (cs : List Change) : Blueprint :=
  { address := b.address
    timeouts := Change.last Change.timeouts? b.timeouts cs
    cached := Change.last Change.wantsCache? b.cached cs
    capacity := (Change.last Change.limits? (b.capacity, b.ttl) cs).1
    ttl := (Change.last Change.limits? (b.capacity, b.ttl) cs).2
    limited := Change.last Change.wantsLimiter? b.limited cs
    bucket := Change.last Change.bucket? b.bucket cs }

/-- **The blueprint after changes, part by part.** -/
theorem changes_eq (b : Blueprint) (cs : List Change) : b.changes cs = b.settled cs := by
  induction cs generalizing b with
  | nil => rfl
  | cons c cs ih =>
    change (b.change c).changes cs = _
    rw [ih]
    simp only [settled, Change.last_cons]
    cases c <;> rfl

/-- **The order of changes of different layers is irrelevant.** -/
theorem changes_congr (b : Blueprint) {cs ds : List Change}
    (h : ∀ k : Change.Layer, cs.filter (·.layer = k) = ds.filter (·.layer = k)) :
    b.changes cs = b.changes ds := by
  have hlast {α : Type} {said? : Change → Option α} (k : Change.Layer)
      (hk : ∀ c : Change, c.layer ≠ k → said? c = none) (a : α) :
      Change.last said? a cs = Change.last said? a ds := by
    rw [← Change.last_filter hk, h k, Change.last_filter hk]
  rw [changes_eq, changes_eq, settled, settled,
    hlast .network fun c => c.eq_none_of_layer.2.2,
    hlast .cache fun c hc => (c.eq_none_of_layer.1 hc).1,
    hlast .cache fun c hc => (c.eq_none_of_layer.1 hc).2,
    hlast .limiter fun c hc => (c.eq_none_of_layer.2.1 hc).1,
    hlast .limiter fun c hc => (c.eq_none_of_layer.2.1 hc).2]

/-! ## What is wrong with a blueprint -/

/-- Nothing is zero in the layers that a blueprint asks for. -/
def Positive (b : Blueprint) : Prop :=
  (b.limited = true → ∀ capacity interval, b.bucket = .own capacity interval →
    0 < capacity ∧ 0 < interval.nanos) ∧
  (b.cached = true → 0 < b.capacity ∧ 0 < b.ttl.nanos)

/-- The complaint about something that is wrong. -/
def complain (wrong : Bool) (message : String) : List KeyError :=
  if wrong then [.invalidConfiguration message] else []

/-- What is wrong with the scheme of an address. -/
def schemeComplaints : Address → List KeyError
  | .web _ => []
  | .other scheme => complain true ("Unsupported jwks uri scheme '" ++ scheme ++ "'")

/-- What is wrong with times to wait. -/
def timeoutComplaints (t : Timeouts) : List KeyError :=
  complain (t.connect.any Duration.isZero)
      "Invalid connect timeout value '0'. Must be positive." ++
    complain (t.request.any Duration.isZero)
      "Invalid request timeout value '0'. Must be positive."

/-- What is wrong with a bucket. One that there already is has been looked at before. -/
def bucketComplaints : BucketChoice → List KeyError
  | .own capacity interval =>
    complain (capacity = 0) "Invalid bucket size." ++
      complain interval.isZero "Invalid bucket refill rate."
  | .shared _ => []

/-- What is wrong with the limits of a cache. -/
def cacheComplaints (capacity : Nat) (ttl : Duration) : List KeyError :=
  complain (capacity = 0) "Invalid cache size." ++ complain ttl.isZero "Invalid cache expiration."

/-- What is wrong with the layers of a blueprint. Those that are not asked for are not looked at. -/
def layerComplaints (b : Blueprint) : List KeyError :=
  (if b.limited then bucketComplaints b.bucket else []) ++
    if b.cached then cacheComplaints b.capacity b.ttl else []

/-- **All that is wrong with a blueprint**, in the order in which it is looked at. The key set on the
network is not looked at when there is a source in its place. -/
def complaints (b : Blueprint) (source : Option Provider) : List KeyError :=
  (if source.isNone then schemeComplaints b.address ++ timeoutComplaints b.timeouts else []) ++
    b.layerComplaints

end Blueprint

/-- The first of some complaints is what comes of `x`; if there is none, `x` succeeds. -/
def Voices {α : Type} (x : Except KeyError α) (complaints : List KeyError) : Prop :=
  ∀ e, x = .error e ↔ complaints.head? = some e

namespace Voices

variable {α β : Type} {x : Except KeyError α} {es fs : List KeyError}

theorem ok (a : α) : Voices (.ok a : Except KeyError α) [] := by
  intro e
  simp

theorem bind {f : α → Except KeyError β} (hx : Voices x es) (hf : ∀ a, x = .ok a → Voices (f a) fs) :
    Voices (x >>= f) (es ++ fs) := by
  intro e
  cases x with
  | error d =>
    have hd := (hx d).1 rfl
    obtain ⟨es', rfl⟩ := List.head?_eq_some_iff.1 hd
    simp [bind, Except.bind]
  | ok a =>
    have hes : es = [] := by
      cases es with
      | nil => rfl
      | cons d es => exact absurd ((hx d).2 rfl) (by simp)
    subst hes
    exact hf a rfl e

theorem map {f : α → β} (hx : Voices x es) : Voices (x.map f) es := by
  intro e
  rw [← hx e]
  cases x <;> simp [Except.map]

theorem exists_ok_iff (hx : Voices x es) : (∃ a, x = .ok a) ↔ es = [] := by
  cases x with
  | ok a =>
    refine ⟨fun _ => ?_, fun _ => ⟨a, rfl⟩⟩
    cases es with
    | nil => rfl
    | cons d es => exact absurd ((hx d).2 rfl) (by simp)
  | error d =>
    refine ⟨fun ⟨a, ha⟩ => (by cases ha), fun h => ?_⟩
    rw [h] at hx
    exact absurd ((hx d).1 rfl) (by simp)

/-- A check in front of everything else. -/
theorem guard (wrong : Bool) (message : String) (hx : Voices x es) :
    Voices (if wrong then .error (.invalidConfiguration message) else x)
      (Blueprint.complain wrong message ++ es) := by
  cases wrong with
  | false => exact hx
  | true =>
    intro e
    simp [Blueprint.complain]

end Voices

/-! ## What is said of each layer -/

theorem voices_requireWeb (a : Address) : Voices (requireWeb a) (Blueprint.schemeComplaints a) := by
  cases a with
  | web u => exact .ok u
  | other scheme =>
    intro e
    simp [requireWeb, Blueprint.schemeComplaints, Blueprint.complain]

theorem Remote.voices_check (a : Address) (t : Timeouts) :
    Voices (Remote.check a t) (Blueprint.schemeComplaints a ++ Blueprint.timeoutComplaints t) := by
  refine (voices_requireWeb a).bind fun url _ => ?_
  rw [Blueprint.timeoutComplaints, ← List.append_nil (Blueprint.complain (t.request.any _) _)]
  exact ((Voices.ok _).guard _ _).guard _ _

theorem Rate.voices_check (capacity : Nat) (interval : Duration) :
    Voices (Rate.check capacity interval)
      (Blueprint.bucketComplaints (.own capacity interval)) := by
  intro e
  by_cases hc : capacity = 0
  · simp [Rate.check, Blueprint.bucketComplaints, Blueprint.complain, hc]
  · by_cases hi : interval.nanos = 0 <;>
      simp [Rate.check, Blueprint.bucketComplaints, Blueprint.complain, Duration.isZero,
        Nat.pos_iff_ne_zero, hc, hi]

theorem CacheLimits.voices_check (capacity : Nat) (ttl : Duration) :
    Voices (CacheLimits.check capacity ttl) (Blueprint.cacheComplaints capacity ttl) := by
  intro e
  by_cases hc : capacity = 0
  · simp [CacheLimits.check, Blueprint.cacheComplaints, Blueprint.complain, hc]
  · by_cases ht : ttl.nanos = 0 <;>
      simp [CacheLimits.check, Blueprint.cacheComplaints, Blueprint.complain, Duration.isZero,
        Nat.pos_iff_ne_zero, hc, ht]

namespace Blueprint

theorem voices_bucketLayer (b : Blueprint) : Voices b.bucketLayer (bucketComplaints b.bucket) := by
  unfold bucketLayer
  cases b.bucket with
  | own capacity interval => exact (Rate.voices_check capacity interval).map
  | shared bucket => exact .ok _

/-- A layer that is not asked for is not looked at. -/
theorem voices_asked {α : Type} {x : Except KeyError α} {es : List KeyError} (hx : Voices x es)
    (asked : Bool) : Voices (if asked then x.map some else .ok none) (if asked then es else []) := by
  cases asked with
  | false => exact .ok none
  | true => exact hx.map

theorem voices_layers (b : Blueprint) : Voices b.layers b.layerComplaints := by
  rw [layers_eq]
  refine (voices_asked b.voices_bucketLayer b.limited).bind fun bucket _ => ?_
  rw [← List.append_nil (if b.cached then _ else _)]
  exact (voices_asked (CacheLimits.voices_check b.capacity b.ttl) b.cached).bind fun _ _ => .ok _

end Blueprint

theorem State.voices_build (s : State) (b : Blueprint) (source : Option Provider) :
    Voices (s.build b source) (b.complaints source) := by
  have hinstall (base : Provider) :
      Voices (b.layers >>= fun l => .ok (s.install base l)) (b.layerComplaints ++ []) :=
    b.voices_layers.bind fun _ _ => .ok _
  rw [List.append_nil] at hinstall
  cases source with
  | some p => exact hinstall p
  | none =>
    exact (Remote.voices_check b.address b.timeouts).map.bind
      (f := fun base => b.layers >>= fun l => .ok (s.install base l)) fun base _ => hinstall base

/-! ## What is built -/

namespace State

/-- `inner` is `base` behind the limiter that a blueprint asks for, if it asks for one: its bucket is
a new full one, or one that there already is. -/
def Limits (s t : State) (b : Blueprint) (base inner : Provider) : Prop :=
  if b.limited then
    (∃ i, b.bucket = .shared i ∧ inner = .limited base i ∧ t.buckets = s.buckets) ∨
      ∃ r : Rate, b.bucket = .own r.capacity r.interval ∧
        inner = .limited base s.buckets.length ∧ t.buckets = s.buckets ++ [.full r s.now]
  else inner = base ∧ t.buckets = s.buckets

/-- `p` is `inner` behind the cache that a blueprint asks for, if it asks for one. -/
def Caches (s t : State) (b : Blueprint) (inner p : Provider) : Prop :=
  if b.cached then
    ∃ l : CacheLimits, b.capacity = l.capacity ∧ b.ttl = l.ttl ∧
      p = .cached inner s.caches.length ∧ t.caches = s.caches ++ [{ limits := l }]
  else p = inner ∧ t.caches = s.caches

/-- What a pipeline stands on: the source that is given, or the key set on the network. -/
def Grounds (b : Blueprint) (source : Option Provider) (base : Provider) : Prop :=
  source = some base ∨
    source = none ∧ ∃ u, b.address = .web u ∧ base = .remote { url := u, timeouts := b.timeouts }

theorem grounds_remote {b : Blueprint} {r : Remote} (h : b.remote = .ok r) :
    Grounds b none (.remote r) := by
  obtain ⟨u, hu, h⟩ := bind_eq_ok h
  have hweb : b.address = .web u := by
    cases haddress : b.address with
    | web v =>
      rw [haddress] at hu
      exact congrArg Address.web (Except.ok.inj hu)
    | other scheme =>
      rw [haddress] at hu
      cases hu
  refine .inr ⟨rfl, u, hweb, ?_⟩
  split at h
  · cases h
  · split at h
    · cases h
    · exact congrArg Provider.remote (Except.ok.inj h).symm

theorem limits_installBucket {s : State} {b : Blueprint} {layer : Option BucketLayer}
    (h : (if b.limited then b.bucketLayer.map some else .ok none) = .ok layer) (base : Provider) :
    s.Limits (s.installBucket base layer).2 b base (s.installBucket base layer).1 := by
  unfold Limits
  cases hlimited : b.limited with
  | false =>
    rw [hlimited] at h
    cases h
    exact ⟨rfl, rfl⟩
  | true =>
    rw [hlimited] at h
    obtain ⟨own, hown, rfl⟩ := map_eq_ok h
    rcases Blueprint.bucketLayer_eq hown with ⟨i, hshared, rfl⟩ | ⟨r, hrate, rfl⟩
    · exact .inl ⟨i, hshared, rfl, rfl⟩
    · exact .inr ⟨r, hrate, rfl, rfl⟩

theorem limits_of_check {capacity : Nat} {ttl : Duration} {l : CacheLimits}
    (h : CacheLimits.check capacity ttl = .ok l) : capacity = l.capacity ∧ ttl = l.ttl := by
  unfold CacheLimits.check at h
  split at h
  · split at h
    · cases h
      exact ⟨rfl, rfl⟩
    · cases h
  · cases h

/-- To put layers in front of a provider is to put a limiter there, then a cache, and nothing
else. -/
theorem stacks_install {s : State} {b : Blueprint} {l : Layers} (h : b.layers = .ok l)
    (base : Provider) :
    ∃ inner, s.Limits (s.install base l).2 b base inner ∧
      s.Caches (s.install base l).2 b inner (s.install base l).1 ∧
      (s.install base l).2 =
        { s with buckets := (s.install base l).2.buckets, caches := (s.install base l).2.caches } := by
  obtain ⟨hbucket, hcache⟩ := Blueprint.layers_eq_ok h
  have hlimits := limits_installBucket (s := s) hbucket base
  obtain ⟨layer, cache⟩ := l
  have hcaches : (s.installBucket base layer).2.caches = s.caches := by
    rcases layer with _ | ⟨r⟩ | ⟨i⟩ <;> rfl
  have hrest : (s.installBucket base layer).2 =
      { s with buckets := (s.installBucket base layer).2.buckets } := by
    rcases layer with _ | ⟨r⟩ | ⟨i⟩ <;> rfl
  refine ⟨(s.installBucket base layer).1, ?_⟩
  cases hcached : b.cached with
  | false =>
    rw [hcached] at hcache
    cases hcache
    refine ⟨hlimits, ?_, ?_⟩
    · rw [Caches, hcached]
      exact ⟨rfl, hcaches⟩
    · change (s.installBucket base layer).2 = { s with
        buckets := (s.installBucket base layer).2.buckets
        caches := (s.installBucket base layer).2.caches }
      rw [hcaches]
      exact hrest
  | true =>
    rw [hcached] at hcache
    obtain ⟨limits, hcheck, rfl⟩ := map_eq_ok hcache
    obtain ⟨hcapacity, httl⟩ := limits_of_check hcheck
    have hinstall : s.install base ⟨layer, some limits⟩ =
        (.cached (s.installBucket base layer).1 s.caches.length,
          { (s.installBucket base layer).2 with caches := s.caches ++ [{ limits }] }) := by
      rw [← hcaches]
      rfl
    rw [hinstall]
    refine ⟨hlimits, ?_, ?_⟩
    · rw [Caches, hcached]
      exact ⟨limits, hcapacity, httl, rfl, rfl⟩
    · rw [hrest]

/-- **What comes of changes** of the blueprint of an address, on top of a source if one is given. -/
structure Composes (s : State) (address : Address) (cs : List Change) (source : Option Provider) :
    Prop where
  /-- A pipeline is built unless something is zero in a layer that is asked for, or the key set on the
  network, if it is asked for, has an address of another scheme or a time to wait that is zero. -/
  builds : (∃ p t, s.build (Blueprint.changes { address } cs) source = .ok (p, t)) ↔
    (source = none → (∃ u, address = .web u) ∧
      (Blueprint.settled { address } cs).timeouts.Positive) ∧
    (Blueprint.settled { address } cs).Positive
  /-- What is wrong is told, the first of it if there is more. -/
  complains : ∀ e, s.build (Blueprint.changes { address } cs) source = .error e ↔
    ((Blueprint.settled { address } cs).complaints source).head? = some e
  /-- What is built is the source or the key set on the network, behind a limiter if the last change
  about that asks for it, and outermost a cache if the last change about that does. The parameters
  are those that were given last. -/
  layered : ∀ p t, s.build (Blueprint.changes { address } cs) source = .ok (p, t) →
    ∃ base inner, Grounds (Blueprint.settled { address } cs) source base ∧
      s.Limits t (Blueprint.settled { address } cs) base inner ∧
      s.Caches t (Blueprint.settled { address } cs) inner p ∧
      t = { s with buckets := t.buckets, caches := t.caches }
  /-- The order of changes of different layers is irrelevant. -/
  independent : ∀ ds : List Change,
    (∀ k : Change.Layer, cs.filter (·.layer = k) = ds.filter (·.layer = k)) →
      s.build (Blueprint.changes { address } ds) source =
        s.build (Blueprint.changes { address } cs) source

end State

namespace Blueprint

theorem complain_eq_nil {wrong : Bool} {message : String} :
    complain wrong message = [] ↔ wrong = false := by
  cases wrong <;> simp [complain]

theorem schemeComplaints_eq_nil {a : Address} : schemeComplaints a = [] ↔ ∃ u, a = .web u := by
  cases a <;> simp [schemeComplaints, complain]

theorem any_isZero_eq_false {o : Option Duration} :
    o.any Duration.isZero = false ↔ ∀ d, o = some d → 0 < d.nanos := by
  cases o <;> simp [Duration.isZero, Nat.pos_iff_ne_zero]

theorem timeoutComplaints_eq_nil {t : Timeouts} : timeoutComplaints t = [] ↔ t.Positive := by
  simp only [timeoutComplaints, Timeouts.Positive, List.append_eq_nil_iff, complain_eq_nil,
    any_isZero_eq_false]

theorem bucketComplaints_eq_nil {choice : BucketChoice} :
    bucketComplaints choice = [] ↔
      ∀ capacity interval, choice = .own capacity interval → 0 < capacity ∧ 0 < interval.nanos := by
  cases choice <;>
    simp [bucketComplaints, complain_eq_nil, Duration.isZero, Nat.pos_iff_ne_zero]

theorem cacheComplaints_eq_nil {capacity : Nat} {ttl : Duration} :
    cacheComplaints capacity ttl = [] ↔ 0 < capacity ∧ 0 < ttl.nanos := by
  simp [cacheComplaints, complain_eq_nil, Duration.isZero, Nat.pos_iff_ne_zero]

theorem layerComplaints_eq_nil {b : Blueprint} : b.layerComplaints = [] ↔ b.Positive := by
  rw [layerComplaints, Positive, List.append_eq_nil_iff, ← bucketComplaints_eq_nil,
    ← cacheComplaints_eq_nil]
  cases b.limited <;> cases b.cached <;> simp

theorem complaints_eq_nil {b : Blueprint} {source : Option Provider} :
    b.complaints source = [] ↔
      (source = none → (∃ u, b.address = .web u) ∧ b.timeouts.Positive) ∧ b.Positive := by
  rw [complaints, List.append_eq_nil_iff, ← schemeComplaints_eq_nil, ← timeoutComplaints_eq_nil,
    ← layerComplaints_eq_nil]
  cases source <;> simp

end Blueprint

/-- **What is built depends on the last change of each part only.** -/
theorem State.composes (s : State) (address : Address) (cs : List Change)
    (source : Option Provider) : s.Composes address cs source := by
  have hvoices := s.voices_build (Blueprint.changes { address } cs) source
  constructor
  case builds =>
    refine (Prod.exists.symm.trans hvoices.exists_ok_iff).trans ?_
    rw [Blueprint.changes_eq]
    exact Blueprint.complaints_eq_nil
  case complains =>
    rw [← Blueprint.changes_eq]
    exact hvoices
  case layered =>
    intro p t h
    obtain ⟨base, l, hsource, hl, hinstall⟩ := exists_install h
    rw [Blueprint.changes_eq] at hsource hl
    obtain ⟨inner, hlimits, hcaches, hrest⟩ := stacks_install (s := s) hl base
    rw [hinstall] at hlimits hcaches hrest
    refine ⟨base, inner, ?_, hlimits, hcaches, hrest⟩
    rcases hsource with hsome | ⟨rfl, r, hr, rfl⟩
    · exact .inl hsome
    · exact grounds_remote hr
  case independent =>
    intro ds h
    rw [Blueprint.changes_congr _ h]

/-- An address of another scheme is refused, though nothing that is asked for is zero. -/
theorem State.build_other_scheme :
    (Address.parse "ftp://a/b").toOption = some (.other "ftp") ∧
      ¬ ((∃ p t, State.build {} (Blueprint.changes { address := .other "ftp" } []) none =
          .ok (p, t)) ↔
        (Blueprint.settled { address := .other "ftp" } []).timeouts.Positive ∧
          (Blueprint.settled { address := .other "ftp" } []).Positive) := by
  refine ⟨by decide +kernel, fun h => ?_⟩
  have htimeouts : (Blueprint.settled { address := .other "ftp" } []).timeouts.Positive :=
    ⟨fun d hd => (by cases hd), fun d hd => (by cases hd)⟩
  have hlayers : (Blueprint.settled { address := .other "ftp" } []).Positive := by
    rw [← Blueprint.layerComplaints_eq_nil]
    decide +kernel
  obtain ⟨p, t, hbuild⟩ := h.2 ⟨htimeouts, hlayers⟩
  cases hbuild

end SigningKeys
