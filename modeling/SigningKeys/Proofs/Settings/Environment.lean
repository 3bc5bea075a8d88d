import SigningKeys.Proofs.Except
import SigningKeys.Proofs.Settings.Values

/-!
# What variables spell

Settings are read from variables one after the other. Each setting depends on its own variable only,
and the first variable from which nothing can be read decides what is told.

* `Item.order`: what is read, in this order;
* `Item.Accepts`, `Item.Refuses`: whether something can be read, and what is told if not;
* `SpelledBy`: the settings that variables spell;
* `FirstFault`, `Tells`: the first fault of several, and a computation that tells it;
* **`ofEnvironment_eq_ok_iff`**, `tells_ofEnvironment`: settings are those that are spelled, and
  what is told is the first fault;
* `ReadExactly`, and **`readExactly`**: the same as one statement.
-/

namespace SigningKeys.Settings

variable {env : List (String × String)} {name : String}

/-! ## Single variables -/

/-- The text of a number that a setting can be. -/
def SpellsPositive (text : String) (n : Nat) : Prop :=
  SpellsNumber text n ∧ 1 ≤ n ∧ n ≤ maxNumber

/-- The text of a length of time, counted in units of `unit` nanoseconds. -/
def SpellsTime (unit : Nat) (text : String) (d : Duration) : Prop :=
  ∃ n, SpellsPositive text n ∧ d.nanos = n * unit

/-- What is read from variables. -/
inductive Item where
  /-- Where the key set is published. -/
  | location
  /-- A truth value. -/
  | flag (name : String)
  /-- A number that is not zero. -/
  | number (name : String)

namespace Item

/-- **What is read from variables, in this order.** -/
def order : List Item :=
  [.location, .flag "JWKS_CACHE_ENABLED", .number "JWKS_CACHE_SIZE",
    .number "JWKS_CACHE_TTL_SECONDS", .flag "JWKS_RATE_LIMIT_ENABLED",
    .number "JWKS_RATE_LIMIT_BUCKET_SIZE", .number "JWKS_RATE_LIMIT_REFILL_SECONDS",
    .number "JWKS_HTTP_TIMEOUT_MS", .number "JWKS_CONNECT_TIMEOUT_MS"]

/-- **Whether something can be read.** A place must be named in exactly one of two ways; what else
is not set has a default. -/
def Accepts (env : List (String × String)) : Item → Prop
  | .location => (env.lookup "JWKS_URL").isSome = !(env.lookup "JWKS_DOMAIN").isSome
  | .flag name => ∀ text, env.lookup name = some text → ∃ b, SpellsBoolean text b
  | .number name => ∀ text, env.lookup name = some text → ∃ n, SpellsPositive text n

/-- **What is told of that from which nothing can be read.** -/
inductive Refuses (env : List (String × String)) : Item → SettingsFault → Prop
  | both {url domain : String} (hurl : env.lookup "JWKS_URL" = some url)
    (hdomain : env.lookup "JWKS_DOMAIN" = some domain) :
    Refuses env .location (.invalid "JWKS_URL and JWKS_DOMAIN are mutually exclusive")
  | neither (hurl : env.lookup "JWKS_URL" = none) (hdomain : env.lookup "JWKS_DOMAIN" = none) :
    Refuses env .location (.missing "JWKS_URL")
  | notBoolean {name text : String} (h : env.lookup name = some text)
    (hno : ∀ b, ¬ SpellsBoolean text b) :
    Refuses env (.flag name) (.invalid (name ++ " must be a valid value, got '" ++ text ++ "': " ++
      ValueFault.notBoolean.message))
  | noNumber {name text : String} {f : ValueFault} (h : env.lookup name = some text)
    (hno : NoNumber text f) :
    Refuses env (.number name)
      (.invalid (name ++ " must be a valid value, got '" ++ text ++ "': " ++ f.message))
  | zero {name text : String} (h : env.lookup name = some text) (hzero : SpellsNumber text 0) :
    Refuses env (.number name) (.invalid (name ++ " must be greater than 0"))

end Item

theorem readVariable_eq_ok_iff {α : Type} {read : String → Except ValueFault α} {o : Option α} :
    readVariable read env name = .ok o ↔
      (env.lookup name = none ∧ o = none) ∨
        ∃ text a, env.lookup name = some text ∧ read (Text.trimBlank text) = .ok a ∧
          o = some a := by
  unfold readVariable
  cases env.lookup name with
  | none => simp [eq_comm]
  | some text => cases h : read (Text.trimBlank text) <;> simp [h, eq_comm]

theorem readVariable_eq_error_iff {α : Type} {read : String → Except ValueFault α}
    {f : SettingsFault} :
    readVariable read env name = .error f ↔
      ∃ text g, env.lookup name = some text ∧ read (Text.trimBlank text) = .error g ∧
        f = .invalid (name ++ " must be a valid value, got '" ++ text ++ "': " ++ g.message) := by
  unfold readVariable
  cases env.lookup name with
  | none => simp
  | some text => cases h : read (Text.trimBlank text) <;> simp [h, eq_comm]

theorem exists_given_iff {α : Type} {text? : Option String} {P : String → α → Prop} :
    (∃ o : Option α, (text? = none ∧ o = none) ∨
        ∃ text a, text? = some text ∧ P text a ∧ o = some a) ↔
      ∀ text, text? = some text → ∃ a, P text a := by
  cases text? <;> simp

/-- What is read for an item is accepted or refused as the item is. -/
structure Reads {α : Type} (env : List (String × String)) (x : Except SettingsFault α) (i : Item) :
    Prop where
  accepts : (∃ a, x = .ok a) ↔ i.Accepts env
  refuses : ∀ f, x = .error f ↔ i.Refuses env f

/-- A place is named in exactly one of two ways. -/
theorem reads_location : Reads env (readLocation env) .location := by
  constructor
  case accepts =>
    unfold readLocation Item.Accepts
    cases env.lookup "JWKS_URL" <;> cases env.lookup "JWKS_DOMAIN" <;> simp
  case refuses =>
    intro f
    constructor
    · intro h
      unfold readLocation at h
      split at h
      · next hurl hdomain =>
        cases h
        exact .both hurl hdomain
      · cases h
      · cases h
      · next hurl hdomain =>
        cases h
        exact .neither hurl hdomain
    · intro h
      unfold readLocation
      cases h with
      | both hurl hdomain => rw [hurl, hdomain]
      | neither hurl hdomain => rw [hurl, hdomain]

/-- A truth value is read from its words. -/
theorem reads_flag (name : String) :
    Reads env (readVariable readBoolean env name) (.flag name) := by
  constructor
  case accepts =>
    simp only [readVariable_eq_ok_iff, readBoolean_trimBlank, Item.Accepts]
    exact exists_given_iff
  case refuses =>
    intro f
    rw [readVariable_eq_error_iff]
    constructor
    · rintro ⟨text, g, h, hread, rfl⟩
      have hno : ∀ b, ¬ SpellsBoolean text b := by
        intro b hb
        rw [readBoolean_trimBlank.2 hb] at hread
        cases hread
      rw [readBoolean_eq_error hread]
      exact .notBoolean h hno
    · intro h
      cases h with
      | notBoolean h hno =>
        rename_i text
        cases hread : readBoolean (Text.trimBlank text) with
        | ok b => exact absurd (readBoolean_trimBlank.1 hread) (hno b)
        | error g =>
          rw [readBoolean_eq_error hread] at hread
          exact ⟨text, .notBoolean, h, hread, rfl⟩

theorem readPositive_eq (env : List (String × String)) (name : String) :
    readPositive env name = readVariable readNumber env name >>= fun n =>
      if n = some 0 then .error (.invalid (name ++ " must be greater than 0")) else .ok n := by
  unfold readPositive
  congr 1
  funext n
  split
  · rfl
  · next h => rw [if_neg h]; rfl

theorem readPositive_eq_ok_iff {o : Option Nat} :
    readPositive env name = .ok o ↔
      (env.lookup name = none ∧ o = none) ∨
        ∃ text n, env.lookup name = some text ∧ SpellsPositive text n ∧ o = some n := by
  simp only [readPositive_eq, bind_eq_ok_iff, readVariable_eq_ok_iff, readNumber_trimBlank]
  constructor
  · rintro ⟨n, hread, h⟩
    split at h
    · cases h
    · next hzero =>
      cases h
      rcases hread with hnone | ⟨text, n, htext, ⟨hn, hle⟩, rfl⟩
      · exact .inl hnone
      · refine .inr ⟨text, n, htext, ⟨hn, ?_, hle⟩, rfl⟩
        exact Nat.one_le_iff_ne_zero.2 fun h => hzero (congrArg some h)
  · rintro (⟨hnone, rfl⟩ | ⟨text, n, htext, ⟨hn, hpos, hle⟩, rfl⟩)
    · exact ⟨none, .inl ⟨hnone, rfl⟩, rfl⟩
    · refine ⟨some n, .inr ⟨text, n, htext, ⟨hn, hle⟩, rfl⟩, if_neg fun h => ?_⟩
      cases h
      exact absurd hpos (by decide)

theorem readPositive_eq_error_iff {f : SettingsFault} :
    readPositive env name = .error f ↔ (Item.number name).Refuses env f := by
  rw [readPositive_eq]
  constructor
  · intro h
    cases hread : readVariable readNumber env name with
    | error g =>
      rw [hread] at h
      cases h
      obtain ⟨text, g, htext, hg, rfl⟩ := readVariable_eq_error_iff.1 hread
      exact .noNumber htext (readNumber_trimBlank_error.1 hg)
    | ok n =>
      rw [hread] at h
      change (if n = some 0 then _ else _) = _ at h
      split at h
      · next hzero =>
        subst hzero
        cases h
        rcases readVariable_eq_ok_iff.1 hread with ⟨-, hnone⟩ | ⟨text, a, htext, ha, hsome⟩
        · cases hnone
        · cases hsome
          exact .zero htext (readNumber_trimBlank.1 ha).1
      · cases h
  · intro h
    cases h with
    | noNumber htext hno =>
      rw [readVariable_eq_error_iff.2 ⟨_, _, htext, readNumber_trimBlank_error.2 hno, rfl⟩]
      rfl
    | zero htext hzero =>
      rw [readVariable_eq_ok_iff.2
        (.inr ⟨_, 0, htext, readNumber_trimBlank.2 ⟨hzero, Nat.zero_le _⟩, rfl⟩)]
      rfl

/-- A number is read from its words, but not zero. -/
theorem reads_number (name : String) : Reads env (readPositive env name) (.number name) := by
  constructor
  case accepts =>
    simp only [readPositive_eq_ok_iff, Item.Accepts]
    exact exists_given_iff
  case refuses => exact fun f => readPositive_eq_error_iff

/-- What is accepted is not refused. -/
theorem Reads.accepts_iff {α : Type} {x : Except SettingsFault α} {i : Item} (h : Reads env x i) :
    i.Accepts env ↔ ∀ f, ¬ i.Refuses env f := by
  rw [← h.accepts]
  simp only [← h.refuses]
  cases x <;> simp

/-! ## Several variables -/

/-- **The first fault of several items**: the one of the first item that is not accepted. -/
def FirstFault (env : List (String × String)) (is : List Item) (f : SettingsFault) : Prop :=
  ∃ before i after, is = before ++ i :: after ∧ (∀ j ∈ before, j.Accepts env) ∧ i.Refuses env f

theorem not_firstFault_nil {f : SettingsFault} : ¬ FirstFault env [] f := by
  rintro ⟨before, i, after, h, -⟩
  simp at h

theorem firstFault_cons {i : Item} {is : List Item} {f : SettingsFault} :
    FirstFault env (i :: is) f ↔ i.Refuses env f ∨ i.Accepts env ∧ FirstFault env is f := by
  constructor
  · rintro ⟨before, j, after, his, hbefore, hj⟩
    rcases List.cons_eq_append_iff.1 his with ⟨rfl, hcons⟩ | ⟨before, rfl, hrest⟩
    · cases hcons
      exact .inl hj
    · obtain ⟨hi, hbefore⟩ := List.forall_mem_cons.1 hbefore
      exact .inr ⟨hi, before, j, after, hrest, hbefore, hj⟩
  · rintro (hi | ⟨hi, before, j, after, rfl, hbefore, hj⟩)
    · exact ⟨[], i, is, rfl, fun j hj => absurd hj List.not_mem_nil, hi⟩
    · exact ⟨i :: before, j, after, rfl, List.forall_mem_cons.2 ⟨hi, hbefore⟩, hj⟩

/-- What comes of reading items: it fails with the first fault of them, if there is one. -/
structure Tells {α : Type} (env : List (String × String)) (x : Except SettingsFault α)
    (is : List Item) : Prop where
  accepts : (∃ a, x = .ok a) ↔ ∀ i ∈ is, i.Accepts env
  refuses : ∀ f, x = .error f ↔ FirstFault env is f

namespace Tells

variable {α β : Type}

theorem ok (a : α) : Tells env (.ok a) [] where
  accepts := ⟨fun _ i hi => absurd hi List.not_mem_nil, fun _ => ⟨a, rfl⟩⟩
  refuses := fun f => ⟨fun h => (by cases h), fun h => absurd h not_firstFault_nil⟩

/-- One more item is read before the others. -/
theorem bind {x : Except SettingsFault α} {k : α → Except SettingsFault β} {i : Item}
    {is : List Item} (hx : Reads env x i) (hk : ∀ a, Tells env (k a) is) :
    Tells env (x >>= k) (i :: is) := by
  constructor
  case accepts =>
    rw [List.forall_mem_cons, ← hx.accepts]
    cases x with
    | error f => simp [Bind.bind, Except.bind]
    | ok a => exact (hk a).accepts.trans (and_iff_right ⟨a, rfl⟩).symm
  case refuses =>
    intro f
    rw [firstFault_cons, ← hx.refuses f, ← hx.accepts]
    cases x with
    | error g => simp [Bind.bind, Except.bind]
    | ok a => simpa [Bind.bind, Except.bind] using (hk a).refuses f

end Tells

/-- **The first variable from which nothing can be read decides.** -/
theorem tells_ofEnvironment (env : List (String × String)) :
    Tells env (ofEnvironment env) Item.order :=
  .bind reads_location fun _ =>
  .bind (reads_flag _) fun _ =>
  .bind (reads_number _) fun _ =>
  .bind (reads_number _) fun _ =>
  .bind (reads_flag _) fun _ =>
  .bind (reads_number _) fun _ =>
  .bind (reads_number _) fun _ =>
  .bind (reads_number _) fun _ =>
  .bind (reads_number _) fun _ => .ok _

/-! ## Settings -/

/-- `a` is what the variable `name` spells, or `otherwise` if the variable is not set. -/
def Says {α : Type} (env : List (String × String)) (name : String) (Spells : String → α → Prop)
    (otherwise a : α) : Prop :=
  match env.lookup name with
  | none => a = otherwise
  | some text => Spells text a

/-- **The settings that variables spell.** Each of them is about one variable, and about two if it
is the place. -/
structure SpelledBy (env : List (String × String)) (s : Settings) : Prop where
  location :
    (∃ text, env.lookup "JWKS_URL" = some text ∧ env.lookup "JWKS_DOMAIN" = none ∧
      s.location = .url text) ∨
    ∃ text, env.lookup "JWKS_URL" = none ∧ env.lookup "JWKS_DOMAIN" = some text ∧
      s.location = .domain text
  cacheEnabled : Says env "JWKS_CACHE_ENABLED" SpellsBoolean true s.cacheEnabled
  cacheSize : Says env "JWKS_CACHE_SIZE" SpellsPositive CacheLimits.defaultCapacity s.cacheSize
  cacheTtl : Says env "JWKS_CACHE_TTL_SECONDS" (SpellsTime 1000000000) CacheLimits.defaultTtl
    s.cacheTtl
  limitEnabled : Says env "JWKS_RATE_LIMIT_ENABLED" SpellsBoolean true s.limitEnabled
  bucketSize : Says env "JWKS_RATE_LIMIT_BUCKET_SIZE" SpellsPositive Rate.defaultCapacity
    s.bucketSize
  refillInterval : Says env "JWKS_RATE_LIMIT_REFILL_SECONDS" (SpellsTime 1000000000)
    Rate.defaultInterval s.refillInterval
  requestTimeout : Says env "JWKS_HTTP_TIMEOUT_MS"
    (fun text t => ∃ d, SpellsTime 1000000 text d ∧ t = some d) none s.requestTimeout
  connectTimeout : Says env "JWKS_CONNECT_TIMEOUT_MS"
    (fun text t => ∃ d, SpellsTime 1000000 text d ∧ t = some d) none s.connectTimeout

theorem readLocation_eq_ok_iff {l : KeyLocation} :
    readLocation env = .ok l ↔
      (∃ text, env.lookup "JWKS_URL" = some text ∧ env.lookup "JWKS_DOMAIN" = none ∧
        l = .url text) ∨
      ∃ text, env.lookup "JWKS_URL" = none ∧ env.lookup "JWKS_DOMAIN" = some text ∧
        l = .domain text := by
  unfold readLocation
  cases env.lookup "JWKS_URL" <;> cases env.lookup "JWKS_DOMAIN" <;> simp [eq_comm]

theorem ofNanosCapped_eq_iff {n : Nat} {d : Duration} (hn : n ≤ maxNanos) :
    Duration.ofNanosCapped n = d ↔ d.nanos = n := by
  have hnanos : (Duration.ofNanosCapped n).nanos = n := Nat.min_eq_left hn
  constructor
  · rintro rfl
    exact hnanos
  · exact fun h => Duration.ext_nanos (hnanos.trans h.symm)

/-- Numbers of 64 bits count out exact times, in seconds and in what is less. -/
theorem spellsTime_iff {unit : Nat} {text : String} {d : Duration} (hunit : unit ≤ 1000000000) :
    SpellsTime unit text d ↔
      ∃ n, SpellsPositive text n ∧ Duration.ofNanosCapped (n * unit) = d := by
  refine exists_congr fun n => and_congr_right fun hn => (ofNanosCapped_eq_iff ?_).symm
  calc n * unit ≤ maxNumber * 1000000000 := Nat.mul_le_mul hn.2.2 hunit
    _ ≤ maxNanos := by decide

theorem says_iff {α β : Type} {P : String → α → Prop} {f : α → β} {b c : β} :
    (∃ o : Option α, ((env.lookup name = none ∧ o = none) ∨
        ∃ text a, env.lookup name = some text ∧ P text a ∧ o = some a) ∧ (o.map f).getD b = c) ↔
      Says env name (fun text c => ∃ a, P text a ∧ f a = c) b c := by
  unfold Says
  cases env.lookup name with
  | none => simp [eq_comm]
  | some text => simp

theorem says_boolean {b c : Bool} :
    (∃ o, readVariable readBoolean env name = .ok o ∧ o.getD b = c) ↔
      Says env name SpellsBoolean b c := by
  have h := @says_iff env name Bool Bool SpellsBoolean id b c
  simp only [Option.map_id, id, exists_eq_right] at h
  simp only [readVariable_eq_ok_iff, readBoolean_trimBlank]
  exact h

theorem says_positive {n m : Nat} :
    (∃ o, readPositive env name = .ok o ∧ o.getD n = m) ↔ Says env name SpellsPositive n m := by
  have h := @says_iff env name Nat Nat SpellsPositive id n m
  simp only [Option.map_id, id, exists_eq_right] at h
  simp only [readPositive_eq_ok_iff]
  exact h

theorem says_seconds {d t : Duration} :
    (∃ o, readPositive env name = .ok o ∧ (o.map Duration.ofSeconds).getD d = t) ↔
      Says env name (SpellsTime 1000000000) d t := by
  simp only [readPositive_eq_ok_iff, says_iff]
  unfold Says
  cases env.lookup name with
  | none => exact Iff.rfl
  | some text => exact (spellsTime_iff (Nat.le_refl _)).symm

theorem says_millis {t : Option Duration} :
    (∃ o, readPositive env name = .ok o ∧ o.map Duration.ofMillis = t) ↔
      Says env name (fun text t => ∃ d, SpellsTime 1000000 text d ∧ t = some d) none t := by
  have hmap : ∀ o : Option Nat, o.map Duration.ofMillis =
      (o.map fun n => some (Duration.ofMillis n)).getD none := by
    intro o
    cases o <;> rfl
  simp only [readPositive_eq_ok_iff, hmap, says_iff]
  unfold Says
  cases env.lookup name with
  | none => exact Iff.rfl
  | some text =>
    simp only [spellsTime_iff (show 1000000 ≤ 1000000000 by decide)]
    constructor
    · rintro ⟨n, hn, rfl⟩
      exact ⟨_, ⟨n, hn, rfl⟩, rfl⟩
    · rintro ⟨_, ⟨n, hn, rfl⟩, rfl⟩
      exact ⟨n, hn, rfl⟩

/-- **Settings are those that variables spell.** -/
theorem ofEnvironment_eq_ok_iff {s : Settings} : ofEnvironment env = .ok s ↔ SpelledBy env s := by
  constructor
  · intro h
    obtain ⟨location, hlocation, h⟩ := bind_eq_ok h
    obtain ⟨cacheEnabled, hcacheEnabled, h⟩ := bind_eq_ok h
    obtain ⟨cacheSize, hcacheSize, h⟩ := bind_eq_ok h
    obtain ⟨cacheTtl, hcacheTtl, h⟩ := bind_eq_ok h
    obtain ⟨limitEnabled, hlimitEnabled, h⟩ := bind_eq_ok h
    obtain ⟨bucketSize, hbucketSize, h⟩ := bind_eq_ok h
    obtain ⟨refill, hrefill, h⟩ := bind_eq_ok h
    obtain ⟨request, hrequest, h⟩ := bind_eq_ok h
    obtain ⟨connect, hconnect, h⟩ := bind_eq_ok h
    cases h
    exact {
      location := readLocation_eq_ok_iff.1 hlocation
      cacheEnabled := says_boolean.1 ⟨cacheEnabled, hcacheEnabled, rfl⟩
      cacheSize := says_positive.1 ⟨cacheSize, hcacheSize, rfl⟩
      cacheTtl := says_seconds.1 ⟨cacheTtl, hcacheTtl, rfl⟩
      limitEnabled := says_boolean.1 ⟨limitEnabled, hlimitEnabled, rfl⟩
      bucketSize := says_positive.1 ⟨bucketSize, hbucketSize, rfl⟩
      refillInterval := says_seconds.1 ⟨refill, hrefill, rfl⟩
      requestTimeout := says_millis.1 ⟨request, hrequest, rfl⟩
      connectTimeout := says_millis.1 ⟨connect, hconnect, rfl⟩ }
  · intro h
    have hlocation := readLocation_eq_ok_iff.2 h.location
    obtain ⟨cacheEnabled, hcacheEnabled, heq₁⟩ := says_boolean.2 h.cacheEnabled
    obtain ⟨cacheSize, hcacheSize, heq₂⟩ := says_positive.2 h.cacheSize
    obtain ⟨cacheTtl, hcacheTtl, heq₃⟩ := says_seconds.2 h.cacheTtl
    obtain ⟨limitEnabled, hlimitEnabled, heq₄⟩ := says_boolean.2 h.limitEnabled
    obtain ⟨bucketSize, hbucketSize, heq₅⟩ := says_positive.2 h.bucketSize
    obtain ⟨refill, hrefill, heq₆⟩ := says_seconds.2 h.refillInterval
    obtain ⟨request, hrequest, heq₇⟩ := says_millis.2 h.requestTimeout
    obtain ⟨connect, hconnect, heq₈⟩ := says_millis.2 h.connectTimeout
    unfold ofEnvironment
    rw [hlocation, hcacheEnabled, hcacheSize, hcacheTtl, hlimitEnabled, hbucketSize, hrefill,
      hrequest, hconnect]
    obtain ⟨⟩ := s
    subst heq₁ heq₂ heq₃ heq₄ heq₅ heq₆ heq₇ heq₈
    rfl

/-! ## Environments -/

theorem Item.accepts_iff (i : Item) : i.Accepts env ↔ ∀ f, ¬ i.Refuses env f := by
  cases i with
  | location => exact reads_location.accepts_iff
  | flag name => exact (reads_flag name).accepts_iff
  | number name => exact (reads_number name).accepts_iff

section Congr

variable {env' : List (String × String)}

theorem readVariable_congr {α : Type} (read : String → Except ValueFault α)
    (h : env'.lookup name = env.lookup name) :
    readVariable read env' name = readVariable read env name := by
  rw [readVariable, readVariable, h]

theorem readPositive_congr (h : env'.lookup name = env.lookup name) :
    readPositive env' name = readPositive env name := by
  rw [readPositive_eq, readPositive_eq, readVariable_congr readNumber h]

/-- Variables of other names are not looked at. -/
theorem ofEnvironment_congr (h : ∀ name ∈ variableNames, env'.lookup name = env.lookup name) :
    ofEnvironment env' = ofEnvironment env := by
  have hlocation : readLocation env' = readLocation env := by
    rw [readLocation, readLocation, h "JWKS_URL" (by decide), h "JWKS_DOMAIN" (by decide)]
  unfold ofEnvironment
  rw [hlocation, readVariable_congr _ (h "JWKS_CACHE_ENABLED" (by decide)),
    readPositive_congr (h "JWKS_CACHE_SIZE" (by decide)),
    readPositive_congr (h "JWKS_CACHE_TTL_SECONDS" (by decide)),
    readVariable_congr _ (h "JWKS_RATE_LIMIT_ENABLED" (by decide)),
    readPositive_congr (h "JWKS_RATE_LIMIT_BUCKET_SIZE" (by decide)),
    readPositive_congr (h "JWKS_RATE_LIMIT_REFILL_SECONDS" (by decide)),
    readPositive_congr (h "JWKS_HTTP_TIMEOUT_MS" (by decide)),
    readPositive_congr (h "JWKS_CONNECT_TIMEOUT_MS" (by decide))]

end Congr

/-- **What is read from variables**: the settings that they spell, or the first fault. -/
structure ReadExactly (env : List (String × String)) : Prop where
  /-- Settings are read if and only if nothing is wrong with any variable. -/
  accepts : (∃ s, ofEnvironment env = .ok s) ↔ ∀ i ∈ Item.order, i.Accepts env
  /-- The settings are those that the variables spell. -/
  values : ∀ s, ofEnvironment env = .ok s ↔ SpelledBy env s
  /-- Otherwise the first item with which something is wrong is told of, whatever there is behind
  it. -/
  refuses : ∀ f, ofEnvironment env = .error f ↔
    ∃ before i after, Item.order = before ++ i :: after ∧ (∀ j ∈ before, j.Accepts env) ∧
      i.Refuses env f
  /-- Something is wrong with an item if and only if there is something to be told of it. -/
  faults : ∀ i : Item, ¬ i.Accepts env ↔ ∃ f, i.Refuses env f
  /-- Variables of other names do not matter. -/
  others : ∀ env' : List (String × String),
    (∀ name ∈ variableNames, env'.lookup name = env.lookup name) →
      ofEnvironment env' = ofEnvironment env

/-- **Exactly what the grammar of the variables allows is read from them.** -/
theorem readExactly (env : List (String × String)) : ReadExactly env where
  accepts := (tells_ofEnvironment env).accepts
  values := fun _ => ofEnvironment_eq_ok_iff
  refuses := (tells_ofEnvironment env).refuses
  faults := fun i => by rw [i.accepts_iff, not_forall_not]
  others := fun _ h => ofEnvironment_congr h

/-- White space, a sign and zeros in front do not count; an unknown truth value does before a number
that is zero. -/
example :
    let number := [("JWKS_DOMAIN", "a.b"), ("JWKS_CACHE_SIZE", "\u00a0+007\n")]
    let both := [("JWKS_CACHE_SIZE", "0"), ("JWKS_URL", ""), ("JWKS_CACHE_ENABLED", "yes")]
    (ofEnvironment number).toOption = some { location := .domain "a.b", cacheSize := 7 } ∧
      (match ofEnvironment both with
        | .error f => f.message
        | .ok _ => "") = "Invalid configuration value: JWKS_CACHE_ENABLED must be a valid value, " ++
          "got 'yes': provided string was not `true` or `false`" := by
  decide +kernel

end SigningKeys.Settings
