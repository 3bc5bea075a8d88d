import SigningKeys.Proofs.Run.Calls
import SigningKeys.State.Turn

/-!
# What a key set on the network answers

A fetch follows redirects until an answer ends it. What that answer publishes decides every call for
a key, and nothing else does: neither earlier calls, nor the rest of the pipeline, nor what happens
while the fetch is under way.

* `Remote.Final`: the answer that ends a fetch;
* `Response.Publishes`, `Remote.Publishes`: the key set that an answer, or an address, publishes;
* `result_fetch_of_publishes`, `fetchFailed_of_not_publishes`: a fetch brings what is published;
* `receiveKey_eq_key_iff`, `receiveKey_notFound_iff`, `receiveKey_failed_iff`: how a call ends;
* `State.AnswersAsPublished`, **`answers_as_published`**: what a call answers, and what it leaves.
-/

namespace SigningKeys

open Web

/-! ## Sets and answers -/

namespace JwkSet

variable {set : JwkSet} {kid : String}

theorem find?_eq_some_iff {j : Jwk} : set.find? kid = some j ↔
    ∃ before after, set.keys = before ++ j :: after ∧ j.kid = kid ∧ ∀ x ∈ before, x.kid ≠ kid := by
  rw [find?, List.find?_eq_some_iff_append]
  simp only [beq_iff_eq, Bool.not_eq_true', beq_eq_false_iff_ne]
  constructor
  · rintro ⟨hkid, before, after, hkeys, hbefore⟩
    exact ⟨before, after, hkeys, hkid, hbefore⟩
  · rintro ⟨before, after, hkeys, hkid, hbefore⟩
    exact ⟨hkid, before, after, hkeys, hbefore⟩

theorem find?_eq_none_iff : set.find? kid = none ↔ ∀ x ∈ set.keys, x.kid ≠ kid := by
  rw [find?, List.find?_eq_none]
  simp only [beq_iff_eq, ne_eq]

end JwkSet

namespace Response

/-- Where an answer sends the caller. -/
def onward? (answer : Response) (current : Url) : Option Url :=
  if isRedirect answer.status then answer.location.bind current.redirect? else none

/-- **An answer publishes a key set**: it is a success, its body comes whole, and the body is the
document of the set. -/
structure Publishes (answer : Response) (set : JwkSet) : Prop where
  success : isSuccess answer.status = true
  whole : answer.truncated = false
  document : JwkSet.parse answer.body = .ok set

end Response

namespace Remote

variable {r : Remote} {net : Network} {wait : Response → Duration} {hops n : Nat}
  {current next : Url} {answer : Response} {set : JwkSet}

/-- Whether an answer comes, and comes in time. -/
def receives (r : Remote) (wait : Response → Duration) (answer : Response) : Bool :=
  !(answer.dropped || r.timesOut (wait answer))

/-- **The answer that ends a fetch**, from request number `n` for `current` on: an answer that sends
the caller nowhere, after at most `hops` that send it on. -/
inductive Final (r : Remote) (net : Network) (wait : Response → Duration) :
    Nat → Url → Nat → Response → Prop where
  /-- The request is answered at last. -/
  | here {hops n : Nat} {current : Url} {answer : Response}
      (answered : net.response? n = some answer) (received : r.receives wait answer = true)
      (ends : answer.onward? current = none) : Final r net wait hops current n answer
  /-- The request is redirected. -/
  | onward {hops n : Nat} {current next : Url} {answer last : Response}
      (answered : net.response? n = some answer) (received : r.receives wait answer = true)
      (leads : answer.onward? current = some next)
      (rest : Final r net wait hops next (n + 1) last) :
      Final r net wait (hops + 1) current n last

/-- **An address publishes a key set** to a fetch whose first request has number `n`. -/
def Publishes (r : Remote) (net : Network) (wait : Response → Duration) (n : Nat)
    (set : JwkSet) : Prop :=
  r.url.withoutUser.fitsRequest = true ∧
    ∃ answer, r.Final net wait maxRedirects r.url n answer ∧ answer.Publishes set

/-! ## One request -/

theorem follow_of_none (h : net.response? n = none) :
    (r.follow net wait hops current n).result = .error r.notAnswered := by
  rw [follow, h]

theorem follow_of_not_receives (h : net.response? n = some answer)
    (hr : r.receives wait answer = false) :
    (r.follow net wait hops current n).result = .error r.notAnswered := by
  rw [follow, h]
  dsimp only
  rw [receives, Bool.not_eq_false'] at hr
  rw [if_pos hr]

theorem follow_of_ends (h : net.response? n = some answer) (hr : r.receives wait answer = true)
    (ho : answer.onward? current = none) :
    (r.follow net wait hops current n).result = r.read answer := by
  rw [follow, h]
  dsimp only
  rw [receives, Bool.not_eq_true'] at hr
  rw [if_neg (ne_true_of_eq_false hr)]
  rw [Response.onward?] at ho
  split at ho
  · rename_i hredirect
    rw [hredirect, if_neg Bool.noConfusion, ho]
  · rename_i hredirect
    rw [eq_false_of_ne_true hredirect, Bool.not_false, if_pos rfl]

theorem follow_of_leads (h : net.response? n = some answer) (hr : r.receives wait answer = true)
    (ho : answer.onward? current = some next) :
    (r.follow net wait hops current n).result =
      match hops with
      | 0 => .error (r.tooManyRedirects current)
      | hops + 1 => (r.follow net wait hops next (n + 1)).result := by
  rw [follow, h]
  dsimp only
  rw [receives, Bool.not_eq_true'] at hr
  rw [if_neg (ne_true_of_eq_false hr)]
  rw [Response.onward?] at ho
  split at ho
  · rename_i hredirect
    rw [hredirect, if_neg Bool.noConfusion, ho]
    cases hops <;> rfl
  · cases ho

/-! ## A whole fetch -/

theorem follow_of_final (h : r.Final net wait hops current n answer) :
    (r.follow net wait hops current n).result = r.read answer := by
  induction h with
  | here answered received ends => exact follow_of_ends answered received ends
  | onward answered received leads _ ih =>
    rw [follow_of_leads answered received leads]
    exact ih

/-- Without an answer that ends the fetch, a request fails unless it is redirected. -/
theorem follow_of_stuck (h : ∀ answer, ¬r.Final net wait hops current n answer)
    (hleads : ∀ answer next, net.response? n = some answer → r.receives wait answer = true →
      answer.onward? current = some next →
        ∃ t, (r.follow net wait hops current n).result = .error (.fetchFailed t)) :
    ∃ t, (r.follow net wait hops current n).result = .error (.fetchFailed t) := by
  cases hanswer : net.response? n with
  | none => exact ⟨_, follow_of_none hanswer⟩
  | some answer =>
    cases hr : r.receives wait answer with
    | false => exact ⟨_, follow_of_not_receives hanswer hr⟩
    | true =>
      cases ho : answer.onward? current with
      | none => exact absurd (.here hanswer hr ho) (h answer)
      | some next => exact hleads answer next hanswer hr ho

/-- A fetch that no answer ends fails. -/
theorem follow_of_not_final (h : ∀ answer, ¬r.Final net wait hops current n answer) :
    ∃ t, (r.follow net wait hops current n).result = .error (.fetchFailed t) := by
  induction hops generalizing current n with
  | zero => exact follow_of_stuck h fun _ _ hanswer hr ho => ⟨_, follow_of_leads hanswer hr ho⟩
  | succ hops ih =>
    refine follow_of_stuck h fun answer next hanswer hr ho => ?_
    rw [follow_of_leads hanswer hr ho]
    exact ih fun last hlast => h last (.onward hanswer hr ho hlast)

theorem read_of_publishes (h : answer.Publishes set) :
    r.read answer = if set.keys.isEmpty then .error r.empty else .ok set.keys := by
  rw [read, h.success, h.whole, h.document]
  rfl

theorem read_of_not_publishes (h : ∀ set, ¬answer.Publishes set) :
    ∃ t, r.read answer = .error (.fetchFailed t) := by
  rw [read]
  split
  · exact ⟨_, rfl⟩
  · rename_i hsuccess
    split
    · exact ⟨_, rfl⟩
    · rename_i hwhole
      split
      · exact ⟨_, rfl⟩
      · rename_i set hparse
        rw [Bool.not_eq_true', Bool.not_eq_false] at hsuccess
        exact absurd ⟨hsuccess, eq_false_of_ne_true hwhole, hparse⟩ (h set)

/-- **A fetch brings what is published**, or says that it is nothing. -/
theorem result_fetch_of_publishes (h : r.Publishes net wait n set) :
    (r.fetch net wait n).result =
      if set.keys.isEmpty then .error r.empty else .ok set.keys := by
  obtain ⟨hfits, answer, hfinal, hpublishes⟩ := h
  rw [fetch, if_pos hfits, follow_of_final hfinal, read_of_publishes hpublishes]

/-- **A fetch fails if nothing is published.** -/
theorem fetchFailed_of_not_publishes (h : ∀ set, ¬r.Publishes net wait n set) :
    ∃ t, (r.fetch net wait n).result = .error (.fetchFailed t) := by
  rw [fetch]
  split
  · rename_i hfits
    by_cases hfinal : ∃ answer, r.Final net wait maxRedirects r.url n answer
    · obtain ⟨answer, hfinal⟩ := hfinal
      rw [follow_of_final hfinal]
      exact read_of_not_publishes fun set hset => h set ⟨hfits, answer, hfinal, hset⟩
    · exact follow_of_not_final fun answer hanswer => hfinal ⟨answer, hanswer⟩
  · exact ⟨_, rfl⟩

/-- What is fetched depends on no answer but those to come. -/
theorem follow_congr {net' : Network} {n' : Nat}
    (h : ∀ k, net'.response? (n' + k) = net.response? (n + k)) (hops : Nat) (current : Url) :
    r.follow net' wait hops current n' = r.follow net wait hops current n := by
  have hnow : net'.response? n' = net.response? n := h 0
  have hnext : ∀ k, net'.response? (n' + 1 + k) = net.response? (n + 1 + k) := fun k => by
    rw [Nat.add_assoc, Nat.add_assoc]
    exact h (1 + k)
  induction hops generalizing current n n' with
  | zero => rw [follow, follow, hnow]
  | succ hops ih =>
    have hrest := fun next => ih hnext next (hnext 0) fun k => by
      have := hnext (1 + k)
      rwa [← Nat.add_assoc, ← Nat.add_assoc] at this
    rw [follow, follow, hnow]
    simp only [hrest]

theorem fetch_congr {net' : Network} {n' : Nat}
    (h : ∀ k, net'.response? (n' + k) = net.response? (n + k)) :
    r.fetch net' wait n' = r.fetch net wait n := by
  rw [fetch, fetch, follow_congr h]

end Remote

/-- The kind of the error of a fetch. -/
def Fetch.error? (f : Fetch) : Option ErrorKind :=
  match f.result with
  | .ok _ => none
  | .error e => some e.kind

theorem Fetch.error?_eq_none {f : Fetch} : f.error? = none ↔ ∃ keys, f.result = .ok keys := by
  rw [error?]
  cases f.result with
  | ok keys => exact iff_of_true rfl ⟨keys, rfl⟩
  | error e => exact iff_of_false nofun nofun

/-! ## A call for a key -/

namespace State

/-- **An address publishes a key set** to a fetch that ends now. -/
def publishes (s : State) (x : Exchange) (set : JwkSet) : Prop :=
  x.remote.Publishes s.network (s.wait x) s.requests.length set

/-- **A call for a key on the network** begins a fetch, and is answered at the end of the fetch as
the published key set says. -/
structure AnswersAsPublished (s : State) (kid : String) (x : Exchange) : Prop where
  /-- A call of the provider begins such a fetch now, and does no more. -/
  begins : call kid (.remote x.remote) s = (.fetches ⟨x.remote, s.now⟩, s)
  /-- The end of the fetch ends the call. -/
  concludes : ∀ role p, s.advanceTask ⟨role, kid, p⟩ (.fetching x) =
    (s.receiveKey kid x).2.finish ⟨role, kid, p⟩ (s.receiveKey kid x).1
  /-- A key is the first one of the set that bears its id. -/
  key : ∀ j, (s.receiveKey kid x).1 = .key j ↔
    ∃ set before after, s.publishes x set ∧ set.keys = before ++ j :: after ∧ j.kid = kid ∧
      ∀ k ∈ before, k.kid ≠ kid
  /-- It is not found in a set that is empty, or in which no key bears the id. -/
  notFound : (∃ t, (s.receiveKey kid x).1 = .error (.keyNotFound t)) ↔
    ∃ set, s.publishes x set ∧ ∀ k ∈ set.keys, k.kid ≠ kid
  /-- The fetch failed if no set is published. -/
  failed : (∃ t, (s.receiveKey kid x).1 = .error (.fetchFailed t)) ↔ ¬∃ set, s.publishes x set
  /-- The call ends in one of these three ways. -/
  ends : (∃ j, (s.receiveKey kid x).1 = .key j) ∨
    (∃ t, (s.receiveKey kid x).1 = .error (.keyNotFound t)) ∨
      ∃ t, (s.receiveKey kid x).1 = .error (.fetchFailed t)
  /-- The fetch of all keys brings the set, if there is a key in it. -/
  fetched : ∀ keys, (s.receive x).1 = .ok keys ↔ keys ≠ [] ∧ s.publishes x ⟨keys⟩
  /-- A key is found if the fetch of all keys brings one that bears the id. -/
  found : (∃ j, (s.receiveKey kid x).1 = .key j) ↔
    ∃ keys, (s.receive x).1 = .ok keys ∧ ∃ k ∈ keys, k.kid = kid
  /-- The call leaves what the fetch of all keys leaves. -/
  leaves : (s.receiveKey kid x).2 = (s.receive x).2
  /-- One fetch is counted and one time is measured: a success if all keys could be fetched, whether
  or not the key is among them. -/
  counted : ∃ error, (s.receiveKey kid x).2.meter.events =
      .fetch error :: .timing error.isNone :: s.meter.events ∧
    (error = none ↔ ∃ keys, (s.receive x).1 = .ok keys)
  /-- Nothing is kept but the requests, what the meter was told and the time that passed. -/
  kept : ∃ now delay requests meter,
    (s.receiveKey kid x).2 = { s with now, delay, requests, meter }
  /-- The answer depends on nothing but the address, the answers to come and the time for which they
  are waited for. -/
  stateless : ∀ (t : State) (y : Exchange), y.remote = x.remote → t.wait y = s.wait x →
    (∀ k, t.network.response? (t.requests.length + k) =
      s.network.response? (s.requests.length + k)) →
      (t.receiveKey kid y).1 = (s.receiveKey kid x).1

variable {s : State} {x : Exchange} {kid : String} {set : JwkSet}

theorem meter_noteFetch (s : State) (f : Fetch) :
    (s.noteFetch f).meter = s.meter.recordFetch f.error? := by
  unfold noteFetch Fetch.error?
  dsimp only
  split <;> rfl

theorem receive_of_publishes (h : s.publishes x set) :
    (s.receive x).1 = if set.keys.isEmpty then .error x.remote.empty else .ok set.keys :=
  Remote.result_fetch_of_publishes h

theorem receive_of_not_publishes (h : ¬∃ set, s.publishes x set) :
    ∃ t, (s.receive x).1 = .error (.fetchFailed t) :=
  Remote.fetchFailed_of_not_publishes fun set hset => h ⟨set, hset⟩

/-- The key of an id in a published set. -/
theorem receiveKey_of_find (h : s.publishes x set) {j : Jwk} (hj : set.find? kid = some j) :
    (s.receiveKey kid x).1 = .key j := by
  rw [JwkSet.find?] at hj
  have hkeys : set.keys.isEmpty = false := by
    cases hempty : set.keys with
    | nil =>
      rw [hempty] at hj
      cases hj
    | cons => rfl
  rw [receiveKey_eq, receive_of_publishes h, hkeys, if_neg Bool.false_ne_true]
  change Outcome.ofExcept (x.remote.select kid set.keys) = _
  rw [Remote.select, hj]
  rfl

theorem receiveKey_of_lacks (h : s.publishes x set) (hj : set.find? kid = none) :
    ∃ t, (s.receiveKey kid x).1 = .error (.keyNotFound t) := by
  rw [JwkSet.find?] at hj
  rw [receiveKey_eq, receive_of_publishes h]
  split
  · exact ⟨_, rfl⟩
  · change ∃ t, Outcome.ofExcept (x.remote.select kid set.keys) = _
    rw [Remote.select, hj]
    exact ⟨_, rfl⟩

theorem receiveKey_of_not_publishes (h : ¬∃ set, s.publishes x set) :
    ∃ t, (s.receiveKey kid x).1 = .error (.fetchFailed t) := by
  obtain ⟨t, ht⟩ := receive_of_not_publishes h
  rw [receiveKey_eq, ht]
  exact ⟨t, rfl⟩

/-- **The three ways in which a call ends.** -/
theorem receiveKey_cases (kid : String) (x : Exchange) (s : State) :
    (∃ set j, s.publishes x set ∧ set.find? kid = some j ∧ (s.receiveKey kid x).1 = .key j) ∨
      (∃ set t, s.publishes x set ∧ set.find? kid = none ∧
        (s.receiveKey kid x).1 = .error (.keyNotFound t)) ∨
      (¬∃ set, s.publishes x set) ∧
        ∃ t, (s.receiveKey kid x).1 = .error (.fetchFailed t) := by
  by_cases h : ∃ set, s.publishes x set
  · obtain ⟨set, hset⟩ := h
    cases hj : set.find? kid with
    | some j => exact .inl ⟨set, j, hset, hj, receiveKey_of_find hset hj⟩
    | none =>
      obtain ⟨t, ht⟩ := receiveKey_of_lacks hset hj
      exact .inr (.inl ⟨set, t, hset, hj, ht⟩)
  · exact .inr (.inr ⟨h, receiveKey_of_not_publishes h⟩)

theorem receiveKey_eq_key_iff {j : Jwk} : (s.receiveKey kid x).1 = .key j ↔
    ∃ set, s.publishes x set ∧ set.find? kid = some j := by
  refine ⟨fun h => ?_, fun ⟨set, hset, hj⟩ => receiveKey_of_find hset hj⟩
  obtain ⟨set, j', hset, hj, heq⟩ | ⟨_, t, -, -, heq⟩ | ⟨-, t, heq⟩ := receiveKey_cases kid x s
  · cases h.symm.trans heq
    exact ⟨set, hset, hj⟩
  · cases h.symm.trans heq
  · cases h.symm.trans heq

theorem receiveKey_notFound_iff : (∃ t, (s.receiveKey kid x).1 = .error (.keyNotFound t)) ↔
    ∃ set, s.publishes x set ∧ set.find? kid = none := by
  refine ⟨fun ⟨t, h⟩ => ?_, fun ⟨set, hset, hj⟩ => receiveKey_of_lacks hset hj⟩
  obtain ⟨_, j, -, -, heq⟩ | ⟨set, t', hset, hj, -⟩ | ⟨-, t', heq⟩ := receiveKey_cases kid x s
  · cases h.symm.trans heq
  · exact ⟨set, hset, hj⟩
  · cases h.symm.trans heq

theorem receiveKey_failed_iff : (∃ t, (s.receiveKey kid x).1 = .error (.fetchFailed t)) ↔
    ¬∃ set, s.publishes x set := by
  refine ⟨fun ⟨t, h⟩ => ?_, receiveKey_of_not_publishes⟩
  obtain ⟨_, j, -, -, heq⟩ | ⟨_, t', -, -, heq⟩ | ⟨hnone, -⟩ := receiveKey_cases kid x s
  · cases h.symm.trans heq
  · cases h.symm.trans heq
  · exact hnone

theorem receive_eq_ok_iff (keys : List Jwk) :
    (s.receive x).1 = .ok keys ↔ keys ≠ [] ∧ s.publishes x ⟨keys⟩ := by
  constructor
  · intro hok
    by_cases h : ∃ set, s.publishes x set
    · obtain ⟨set, hset⟩ := h
      rw [receive_of_publishes hset] at hok
      split at hok
      · cases hok
      · rename_i hkeys
        rw [← Except.ok.inj hok]
        exact ⟨fun hnil => hkeys (List.isEmpty_iff.2 hnil), hset⟩
    · obtain ⟨t, ht⟩ := receive_of_not_publishes h
      rw [ht] at hok
      cases hok
  · rintro ⟨hkeys, hset⟩
    rw [receive_of_publishes hset, if_neg fun hempty => hkeys (List.isEmpty_iff.1 hempty)]

/-- **What is answered is what is published**, whatever came before, whatever the network answers,
whichever key is asked for and however long ago the fetch began. -/
theorem answers_as_published (s : State) (kid : String) (x : Exchange) :
    s.AnswersAsPublished kid x := by
  constructor
  case begins => rfl
  case concludes => exact fun _ _ => rfl
  case key =>
    intro j
    rw [receiveKey_eq_key_iff]
    simp only [JwkSet.find?_eq_some_iff, exists_and_left]
  case notFound =>
    rw [receiveKey_notFound_iff]
    simp only [JwkSet.find?_eq_none_iff]
  case failed => exact receiveKey_failed_iff
  case ends =>
    obtain ⟨_, j, -, -, heq⟩ | ⟨_, t, -, -, heq⟩ | ⟨-, hfailed⟩ := receiveKey_cases kid x s
    · exact .inl ⟨j, heq⟩
    · exact .inr (.inl ⟨t, heq⟩)
    · exact .inr (.inr hfailed)
  case fetched => exact receive_eq_ok_iff
  case found =>
    constructor
    · rintro ⟨j, hj⟩
      obtain ⟨set, hset, hfind⟩ := receiveKey_eq_key_iff.1 hj
      obtain ⟨before, after, -, hkid, -⟩ := JwkSet.find?_eq_some_iff.1 hfind
      have hmem : j ∈ set.keys := List.mem_of_find?_eq_some hfind
      exact ⟨set.keys, (receive_eq_ok_iff _).2 ⟨List.ne_nil_of_mem hmem, hset⟩, j, hmem, hkid⟩
    · rintro ⟨keys, hok, k, hk, hkid⟩
      obtain ⟨-, hset⟩ := (receive_eq_ok_iff keys).1 hok
      cases hfind : JwkSet.find? ⟨keys⟩ kid with
      | some j => exact ⟨j, receiveKey_of_find hset hfind⟩
      | none => exact absurd hkid (JwkSet.find?_eq_none_iff.1 hfind k hk)
  case leaves => rfl
  case counted =>
    refine ⟨(x.remote.fetch s.network (s.wait x) s.requests.length).error?, ?_,
      Fetch.error?_eq_none⟩
    rw [receiveKey_eq, receive]
    dsimp only
    rw [meter_noteFetch]
    rfl
  case kept =>
    obtain ⟨now, delay, requests, meter, -, heq⟩ := s.noteFetch_eq
      (x.remote.fetch s.network (s.wait x) s.requests.length)
    exact ⟨now, delay, requests, meter, heq⟩
  case stateless =>
    intro t y hremote hwait hcoming
    rw [receiveKey_eq, receiveKey_eq, receive, receive]
    dsimp only
    rw [hremote, hwait, Remote.fetch_congr hcoming]

end State

end SigningKeys
