import SigningKeys.Fixture
import SigningKeys.Proofs.Json.Lines
import SigningKeys.Proofs.Jwk.Written
import SigningKeys.Proofs.Resolver.Calls
import SigningKeys.Proofs.Settings.Pipeline
import SigningKeys.Resolver

/-!
# What the resolver writes

The resolver calls its pipeline once for each key id, in order, whatever came of the ids before. The
pipeline starts at rest, and each call leaves it at rest, so every call ends with a record or an
error. What the resolver writes is an account of these results: a record is a line of its own that
is read as the record again, an error is a complaint, and the exit code says whether there were any.

* `Resolves`, `State.Rested.resolveAll`: calls one after the other;
* `Resolver.rested_pipeline`: the pipeline of an environment starts at rest;
* `Transcript.stdout`, `Transcript.stderr`: the texts that are written;
* `Resolver.Reports`, and **`Resolver.reports`**: what the resolver writes of its calls.
-/

namespace SigningKeys

open Json

/-! ## Calls one after the other -/

/-- **Calls one after the other**: each of them is one more call, begins where the one before it
ended, and ends with the outcome that is noted. Meanwhile the time passes that was to pass. -/
inductive Resolves (p : Provider) : State → List Lapse → List Resolution → State → Prop
  | nil (s : State) (lapses : List Lapse) : Resolves p s lapses [] s
  | cons {s t : State} {lapses : List Lapse} {kid : String} {o : Outcome}
      {results : List Resolution}
      (started : (s.attempt p kid (lapses.headD {})).started = s.started + 1)
      (ended : (s.attempt p kid (lapses.headD {})).ended = s.ended ++ [(s.started, o)])
      (now : (s.attempt p kid (lapses.headD {})).now = s.now + (lapses.headD {}).nanos)
      (rest : Resolves p (s.attempt p kid (lapses.headD {})) lapses.tail results t) :
      Resolves p s lapses (⟨kid, o⟩ :: results) t

/-- As many calls were started as there are results. -/
theorem Resolves.started_eq {p : Provider} {s t : State} {lapses : List Lapse}
    {results : List Resolution} (h : Resolves p s lapses results t) :
    t.started = s.started + results.length := by
  induction h with
  | nil s lapses => rfl
  | cons started _ _ _ ih =>
    rw [ih, started, List.length_cons]
    omega

/-- The times that are to pass, one after the other. -/
theorem Lapse.sum_nanos (lapses : List Lapse) :
    (lapses.map nanos).sum = (lapses.headD {}).nanos + (lapses.tail.map nanos).sum := by
  cases lapses with
  | nil => rfl
  | cons l lapses => exact List.sum_cons

namespace State

variable {s : State} {p : Provider} {kid : String} {o : Outcome} {l : Lapse}

/-- The outcome of an attempt that ends well is the one that its call ended with. -/
theorem Rested.resolve_eq (h : s.Rested p) (hwell : s.AttemptsWell p kid l o) :
    s.resolve p kid l = (o, s.attempt p kid l) := by
  have hfresh : s.ended.lookup s.started = none := by
    refine List.lookup_eq_none_iff.2 fun e he => ?_
    exact bne_iff_ne.2 (Nat.ne_of_gt (h.numbers e he))
  have houtcome : (s.attempt p kid l).outcome? s.started = some o := by
    rw [outcome?, hwell.ended, List.lookup_append, hfresh, Option.none_or, List.lookup_cons_self]
  rw [resolve, houtcome, Option.getD_some]

/-- **A pipeline at rest is called for each key id**, and every call ends. The clock shows no more
than the longest duration at the end. -/
theorem Rested.resolveAll (h : s.Rested p) (hp : p.OnNetwork) {lapses : List Lapse}
    (hn : s.now + (lapses.map Lapse.nanos).sum ≤ maxNanos) (kids : List String) :
    Resolves p s lapses (resolveAll p s lapses kids).1 (resolveAll p s lapses kids).2 ∧
      (SigningKeys.resolveAll p s lapses kids).1.map (·.kid) = kids ∧
      ∀ r ∈ (SigningKeys.resolveAll p s lapses kids).1, r.outcome.Told := by
  induction kids generalizing s lapses with
  | nil => exact ⟨.nil s lapses, rfl, nofun⟩
  | cons kid kids ih =>
    obtain ⟨o, hwell⟩ := h.attempt hp (Nat.le_trans (Nat.le_add_right _ _) hn) kid (lapses.headD {})
    rw [Lapse.sum_nanos, ← Nat.add_assoc, ← hwell.now] at hn
    obtain ⟨hcalls, hkids, htold⟩ := ih hwell.rested hn
    rw [SigningKeys.resolveAll, h.resolve_eq hwell]
    refine ⟨.cons hwell.started hwell.ended hwell.now hcalls, ?_,
      List.forall_mem_cons.2 ⟨hwell.told, htold⟩⟩
    rw [List.map_cons, hkids]

end State

/-! ## The pipeline of an environment -/

namespace Resolver

variable {env : List (String × String)} {network : Network} {p : Provider} {s : State}

/-- **The pipeline of an environment** is a key set on the network, and nothing goes on at first. -/
theorem rested_pipeline (h : pipeline env network = .ok (p, s)) :
    s.Rested p ∧ p.OnNetwork ∧ s.now = 0 := by
  unfold pipeline at h
  split at h
  · cases h
  next settings hsettings =>
  split at h
  · cases h
  next b hb =>
  split at h
  · cases h
  next t hbuild =>
  cases h
  obtain ⟨u, -, rfl⟩ := map_eq_ok (settings.blueprint_eq ▸ hb)
  obtain ⟨⟨base, inner, hbase, hlimit, hcache⟩, hrest⟩ := Settings.stands_of_build hbuild
  have hinner : inner.Fetches ∧ ∀ B ∈ t.buckets, B.Sound 0 0 := by
    subst hbase
    split at hlimit
    · obtain ⟨r, -, -, rfl, hbuckets⟩ := hlimit
      refine ⟨⟨_, rfl⟩, ?_⟩
      rw [hbuckets]
      exact List.forall_mem_singleton.2 (Level.sound_full r 0)
    · obtain ⟨rfl, hbuckets⟩ := hlimit
      refine ⟨⟨_, rfl⟩, ?_⟩
      rw [hbuckets]
      nofun
  have hpipeline : p.OnNetwork ∧ ∀ (c : Nat) (cache : Cache), t.caches[c]? = some cache →
      cache.Rested := by
    split at hcache
    · obtain ⟨l, -, -, rfl, hcaches⟩ := hcache
      refine ⟨.inr ⟨inner, _, rfl, hinner.1⟩, fun c cache hc => ?_⟩
      rw [hcaches] at hc
      have hnew := List.mem_singleton.1 (List.mem_of_getElem? hc)
      exact hnew ▸ ⟨rfl, nofun⟩
    · obtain ⟨rfl, hcaches⟩ := hcache
      refine ⟨.inl hinner.1, fun c cache hc => ?_⟩
      rw [hcaches] at hc
      cases hc
  rw [hrest]
  exact ⟨{
    ready := rfl
    parked := rfl
    held := List.mem_singleton.2 rfl
    numbers := nofun
    buckets := hinner.2
    caches := hpipeline.2 }, hpipeline.1, rfl⟩

end Resolver

/-! ## What is written of results -/

namespace Outcome.Told

variable {o : Outcome}

theorem readable {j : Jwk} (h : o.Told) (hkey : o.key? = some j) : j.Readable := by
  cases h with
  | key hj => exact Option.some.inj hkey ▸ hj
  | error e => cases hkey

theorem key_or_error (h : o.Told) : (∃ j, o = .key j) ∨ ∃ e, o = .error e := by
  cases h with
  | key hj => exact .inl ⟨_, rfl⟩
  | error e => exact .inr ⟨e, rfl⟩

end Outcome.Told

namespace Resolution

variable {r : Resolution} {results : List Resolution}

/-- The error that a call ended with. -/
def fault? (r : Resolution) : Option KeyError :=
  match r.outcome with
  | .error e => some e
  | _ => none

/-- What can be reported is either a line or a complaint. -/
theorem isSome_line?_eq (h : r.outcome.Told) : r.line?.isSome = r.complaint?.isNone := by
  obtain ⟨kid, o⟩ := r
  cases (h : o.Told) <;> rfl

theorem complaint?_eq (h : r.outcome.Told) :
    r.complaint? = r.fault?.map fun e => r.kid ++ ": " ++ e.message := by
  obtain ⟨kid, o⟩ := r
  cases (h : o.Told) <;> rfl

/-- The lines are those of the records. -/
theorem filterMap_line? (results : List Resolution) :
    results.filterMap line? = (results.filterMap (·.outcome.key?)).map Jwk.render :=
  List.map_filterMap.symm

/-- Each result has its line or its complaint. -/
theorem length_lines_add_length_complaints (h : ∀ r ∈ results, r.outcome.Told) :
    (results.filterMap line?).length + (results.filterMap complaint?).length = results.length := by
  induction results with
  | nil => rfl
  | cons r results ih =>
    obtain ⟨hr, hresults⟩ := List.forall_mem_cons.1 h
    have hone := isSome_line?_eq hr
    rw [List.filterMap_cons, List.filterMap_cons, List.length_cons, ← ih hresults]
    cases hline : r.line? <;> cases hcomplaint : r.complaint? <;> simp_all <;> omega

/-- The text of the complaints. -/
theorem lines_complaints (h : ∀ r ∈ results, r.outcome.Told) :
    Text.lines (results.filterMap complaint?) = String.join (results.filterMap fun r =>
      r.fault?.map fun e => r.kid ++ ": " ++ e.message ++ "\n") := by
  rw [Text.lines, List.map_filterMap]
  congr 1
  refine List.filterMap_congr fun r hr => ?_
  rw [complaint?_eq (h r hr), Option.map_map]
  rfl

/-- There are no complaints if and only if every call brought a record. -/
theorem complaints_eq_nil_iff :
    results.filterMap complaint? = [] ↔ ∀ r ∈ results, ∃ j, r.outcome = .key j := by
  rw [List.filterMap_eq_nil_iff]
  refine forall₂_congr fun r _ => ?_
  obtain ⟨kid, o⟩ := r
  cases o <;> simp [complaint?]

theorem complaints_ne_nil_iff (h : ∀ r ∈ results, r.outcome.Told) :
    results.filterMap complaint? ≠ [] ↔ ∃ r ∈ results, ∃ e, r.outcome = .error e := by
  constructor
  · intro hne
    obtain ⟨complaint, hcomplaint⟩ := List.exists_mem_of_ne_nil _ hne
    obtain ⟨r, hr, hsome⟩ := List.mem_filterMap.1 hcomplaint
    rw [complaint?_eq (h r hr)] at hsome
    rcases (h r hr).key_or_error with ⟨j, hj⟩ | herror
    · rw [fault?, hj] at hsome
      cases hsome
    · exact ⟨r, hr, herror⟩
  · rintro ⟨r, hr, e, he⟩ hnil
    obtain ⟨j, hj⟩ := complaints_eq_nil_iff.1 hnil r hr
    cases he.symm.trans hj

end Resolution

/-! ## What the resolver writes -/

namespace Transcript

/-- The text on the standard output: a newline is behind each line. -/
def stdout (w : Transcript) : String := Text.lines w.output

/-- The text on the error output: a newline is behind each complaint. -/
def stderr (w : Transcript) : String := Text.lines w.errors

end Transcript

namespace Resolver

/-- **What the resolver writes** of the `results` of its calls for `kids`, which led from the state
`s` to the state `t` while time passed as in `lapses`. -/
structure Reports (p : Provider) (kids : List String) (s : State) (lapses : List Lapse)
    (results : List Resolution) (t : State) (w : Transcript) : Prop where
  /-- The pipeline was called for each key id, in order, and for nothing else. -/
  calls : Resolves p s lapses results t
  order : results.map (·.kid) = kids
  started : t.started = s.started + kids.length
  /-- Each call brought a record or an error. -/
  ends : ∀ r ∈ results, (∃ j, r.outcome = .key j) ∨ ∃ e, r.outcome = .error e
  /-- There is a line for each record, in order, -/
  output : w.output = (results.filterMap (·.outcome.key?)).map Jwk.render
  /-- which is found again in the text, -/
  lines : w.stdout.toList.splitOn '\n' = w.output.map String.toList ++ [[]]
  /-- and is read as the record. -/
  parses : ∀ j ∈ results.filterMap (·.outcome.key?), (∀ e ∈ j.additional, FloatFree e.2) →
    Jwk.parse (encode j.render) = .ok j
  /-- The text of the complaints is made of the errors, in order. -/
  stderr : w.stderr = String.join (results.filterMap fun r =>
    r.fault?.map fun e => r.kid ++ ": " ++ e.message ++ "\n")
  /-- Each key id is accounted for, and only once. -/
  once : ∀ r ∈ results, r.line?.isSome = r.complaint?.isNone
  accounts : w.output.length + w.errors.length = kids.length
  /-- The exit code says whether every call brought a record. -/
  success : w.code = 0 ↔ ∀ r ∈ results, ∃ j, r.outcome = .key j
  failure : w.code = 1 ↔ ∃ r ∈ results, ∃ e, r.outcome = .error e

variable {kids : List String} {env : List (String × String)} {network : Network} {p : Provider}
  {s : State} {lapses : List Lapse}

/-- What the resolver writes if it has key ids and a pipeline. -/
theorem run_eq (hkids : kids ≠ []) (hpipeline : pipeline env network = .ok (p, s))
    (lapses : List Lapse) :
    run kids env network lapses =
      let results := (resolveAll p s lapses kids).1
      { code := if (results.filterMap Resolution.complaint?).isEmpty then 0 else 1
        output := results.filterMap Resolution.line?
        errors := results.filterMap Resolution.complaint?
        requests := (resolveAll p s lapses kids).2.requests.map Web.Url.requestText } := by
  rw [run, if_neg (by rwa [List.isEmpty_iff]), hpipeline]

theorem exitCode_eq_zero_iff (complaints : List String) :
    (if complaints.isEmpty then 0 else 1) = 0 ↔ complaints = [] := by
  cases complaints <;> simp

theorem exitCode_eq_one_iff (complaints : List String) :
    (if complaints.isEmpty then 0 else 1) = 1 ↔ complaints ≠ [] := by
  cases complaints <;> simp

/-- **The resolver reports on every key id**, and its exit code is true: whatever the servers
answer, however long they hold their answers, and however much time passes between two key ids. All
of this takes no longer than the longest duration, since no clock shows more. -/
theorem reports (hkids : kids ≠ []) (hpipeline : pipeline env network = .ok (p, s))
    (hlapses : (lapses.map Lapse.nanos).sum ≤ maxNanos) :
    Reports p kids s lapses (resolveAll p s lapses kids).1 (resolveAll p s lapses kids).2
      (run kids env network lapses) := by
  obtain ⟨hrested, hnetwork, hnow⟩ := rested_pipeline hpipeline
  have hn : s.now + (lapses.map Lapse.nanos).sum ≤ maxNanos := by
    rwa [hnow, Nat.zero_add]
  obtain ⟨hcalls, hresults, htold⟩ := hrested.resolveAll hnetwork hn kids
  rw [run_eq hkids hpipeline lapses]
  generalize (resolveAll p s lapses kids).1 = results at *
  generalize (resolveAll p s lapses kids).2 = t at *
  have hlength : results.length = kids.length := by rw [← hresults, List.length_map]
  have hends : ∀ r ∈ results, (∃ j, r.outcome = .key j) ∨ ∃ e, r.outcome = .error e :=
    fun r hr => (htold r hr).key_or_error
  have hread : ∀ j ∈ results.filterMap (·.outcome.key?), j.Readable := by
    intro j hj
    obtain ⟨r, hr, hkey⟩ := List.mem_filterMap.1 hj
    exact (htold r hr).readable hkey
  exact {
    calls := hcalls
    order := hresults
    started := hlength ▸ hcalls.started_eq
    ends := hends
    output := Resolution.filterMap_line? results
    lines := Text.splitOn_lines fun line hline => by
      obtain ⟨r, -, hr⟩ := List.mem_filterMap.1 hline
      obtain ⟨j, -, rfl⟩ := Option.map_eq_some_iff.1 hr
      exact newline_not_mem_render j.toValue
    parses := fun j hj => Jwk.parse_written (hread j hj)
    stderr := Resolution.lines_complaints htold
    once := fun r hr => Resolution.isSome_line?_eq (htold r hr)
    accounts := hlength ▸ Resolution.length_lines_add_length_complaints htold
    success := (exitCode_eq_zero_iff _).trans Resolution.complaints_eq_nil_iff
    failure := (exitCode_eq_one_iff _).trans (Resolution.complaints_ne_nil_iff htold) }

/-- The key ids that are resolved. -/
def trialIds : List String := ["a", "a", "a", "b", "a"]

/-- A pipeline whose requests may take one millisecond, whose records live for one second, and whose
bucket gains a token every second after the first two. -/
def trialVariables : List (String × String) :=
  [("JWKS_URL", "http://[::1]/jwks"), ("JWKS_HTTP_TIMEOUT_MS", "1"),
    ("JWKS_CACHE_TTL_SECONDS", "1"), ("JWKS_RATE_LIMIT_BUCKET_SIZE", "2"),
    ("JWKS_RATE_LIMIT_REFILL_SECONDS", "1")]

/-- The first answer is held, the second one is a set with one key, all others are failures. -/
def trialNetwork : Network :=
  .served [{ held := true }, { body := encode (JwkSet.toValue (Fixture.keySet ["a"])).render },
    { status := 500 }]

/-- The first answer is held for two milliseconds, and a second passes before the last call. -/
def trialLapses : List Lapse :=
  [{ during := .ofMillis 2 }, {}, {}, { after := .ofSeconds 1 }]

/-- The first request takes too long. The second one brings a record, which the third call finds in
the cache. The fourth call finds the bucket empty. In the second before the last call a token was
gained, and the record has expired. -/
theorem reports_trial :
    trialIds ≠ [] ∧ ∃ p s, pipeline trialVariables trialNetwork = .ok (p, s) ∧
      (trialLapses.map Lapse.nanos).sum ≤ maxNanos ∧
      Reports p trialIds s trialLapses (resolveAll p s trialLapses trialIds).1
        (resolveAll p s trialLapses trialIds).2
        (run trialIds trialVariables trialNetwork trialLapses) ∧
      (run trialIds trialVariables trialNetwork trialLapses).code = 1 ∧
      (run trialIds trialVariables trialNetwork trialLapses).output =
        [(Fixture.edwards "a").render, (Fixture.edwards "a").render] ∧
      (run trialIds trialVariables trialNetwork trialLapses).errors =
        ["a: JWKS fetch failed: Cannot obtain jwks from url http://[::1]/jwks: " ++
            "error sending request for url (http://[::1]/jwks)",
          "b: The rate limit has been reached, please wait 998 milliseconds",
          "a: JWKS fetch failed: Cannot obtain jwks from url http://[::1]/jwks: " ++
            "status 500 Internal Server Error"] := by
  have hkids : trialIds ≠ [] := List.cons_ne_nil _ _
  have hlapses : (trialLapses.map Lapse.nanos).sum ≤ maxNanos := by decide +kernel
  have hsome : (pipeline trialVariables trialNetwork).toOption.isSome = true := by decide +kernel
  cases hpipeline : pipeline trialVariables trialNetwork with
  | error message =>
    rw [hpipeline] at hsome
    cases hsome
  | ok built =>
    exact ⟨hkids, built.1, built.2, rfl, hlapses, reports hkids hpipeline hlapses,
      by decide +kernel, by decide +kernel, by decide +kernel⟩

end Resolver

end SigningKeys
