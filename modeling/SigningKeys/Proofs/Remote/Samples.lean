import SigningKeys.Fixture
import SigningKeys.Proofs.Jwk.Material
import SigningKeys.Proofs.Jwk.Written
import SigningKeys.Proofs.Remote.Published

/-!
# Served sample keys

A server that answers with the document of some sample keys has exactly these keys, whatever their
ids are. The document is written here as a server would write it, member by member.

* `Fixture.document`, `Fixture.body`: the documents of a sample key, and of several;
* `Fixture.ofValue?_document`, `Fixture.material_edwards`: a sample key is read from its document,
  and has material;
* `Fixture.parse_body`: the written document is read as the set of the sample keys;
* `State.Serves`, `State.ServesExactly`, **`State.serves_exactly`**: what is answered for any id.
-/

namespace SigningKeys

open Json

namespace Fixture

/-! ## Documents -/

/-- The document of a sample key. -/
def document (kid : String) : Value :=
  .object [("kid", .str kid), ("kty", .str "OKP"), ("crv", .str "Ed25519"), ("alg", .str "EdDSA"),
    ("use", .str "sig"), ("x", .str (Base64Url.encode (publicBytes kid)))]

/-- The document of several sample keys. -/
def body (kids : List String) : Value := .object [("keys", .arr (kids.map document))]

/-- The members of a sample key, in the order in which they are written. -/
theorem toMembers_edwards (kid : String) :
    (edwards kid).toMembers = [("alg", .str "EdDSA"), ("crv", .str "Ed25519"), ("kid", .str kid),
      ("kty", .str "OKP"), ("use", .str "sig"),
      ("x", .str (Base64Url.encode (publicBytes kid)))] := rfl

theorem document_eq (kid : String) : document kid = (edwards kid).toValue := by
  rw [Jwk.toValue, toMembers_edwards]
  simp only [document, Value.object, Members.ofList, Members.insert, List.foldl, String.reduceLT,
    String.reduceEq, if_true, if_false]

theorem body_eq (kids : List String) : body kids = (keySet kids).toValue := by
  rw [JwkSet.toValue, keySet, List.map_map, body,
    List.map_congr_left fun kid _ => document_eq kid]
  rfl

/-- A sample key is what its document describes. -/
theorem ofValue?_document (kid : String) : Jwk.ofValue? (document kid) = some (edwards kid) := by
  rw [document_eq, Jwk.toValue, toMembers_edwards, edwards]
  generalize Base64Url.encode (publicBytes kid) = x
  rfl

/-! ## Reading -/

theorem readable_edwards (kid : String) : (edwards kid).Readable where
  sorted := List.pairwise_pair.2 (by decide : "crv" < "x")
  further := List.forall_mem_cons.2 ⟨by decide,
    List.forall_mem_singleton.2 (by decide : "x" ∉ Jwk.fieldNames)⟩
  shaped := List.forall_mem_cons.2 ⟨.str _, List.forall_mem_singleton.2 (.str _)⟩

/-- All members of a sample key are strings. -/
theorem plain_edwards (n : Nat) (kid : String) : (edwards kid).toMembers.Plain n := by
  have hstrings : ∀ e ∈ (edwards kid).toMembers, ∃ s, e.2 = .str s := by
    rw [toMembers_edwards]
    simp
  intro e he
  obtain ⟨s, hs⟩ := hstrings e he
  rw [hs]
  exact ⟨.str s, .str s⟩

/-- **The written document of sample keys** is read as their set. -/
theorem parse_body (kids : List String) :
    JwkSet.parse (encode (body kids).render) = .ok (keySet kids) := by
  rw [body_eq]
  refine JwkSet.parse_written (fun j hj => ?_) (fun j hj => ?_)
  · obtain ⟨kid, -, rfl⟩ := List.mem_map.1 hj
    exact readable_edwards kid
  · obtain ⟨kid, -, rfl⟩ := List.mem_map.1 hj
    exact plain_edwards 124 kid

/-- A sample key has material. -/
theorem material_edwards (kid : String) :
    (edwards kid).material = .ok (.edwards (publicBytes kid)) :=
  Jwk.material_eq_ok_iff.2 ⟨rfl, List.forall_mem_singleton.2 rfl⟩

/-! ## Ids -/

/-- A set of sample keys has the key of each of its ids. -/
theorem find?_keySet {kids : List String} {kid : String} (h : kid ∈ kids) :
    (keySet kids).find? kid = some (edwards kid) := by
  cases hfind : (keySet kids).find? kid with
  | none =>
    exact absurd rfl (JwkSet.find?_eq_none_iff.1 hfind (edwards kid) (List.mem_map_of_mem h))
  | some j =>
    obtain ⟨before, after, hkeys, hkid, -⟩ := JwkSet.find?_eq_some_iff.1 hfind
    have hmem : j ∈ (keySet kids).keys := by
      rw [hkeys]
      exact List.mem_append_right _ List.mem_cons_self
    obtain ⟨kid', -, rfl⟩ := List.mem_map.1 hmem
    exact congrArg (some ∘ edwards) hkid

theorem find?_keySet_of_not_mem {kids : List String} {kid : String} (h : kid ∉ kids) :
    (keySet kids).find? kid = none := by
  refine JwkSet.find?_eq_none_iff.2 (List.forall_mem_map.2 fun kid' hkid' heq => h ?_)
  rwa [← (heq : kid' = kid)]

end Fixture

/-! ## Answers -/

namespace State

variable {s : State} {x : Exchange} {kids : List String}

/-- **A server serves sample keys** to a fetch that ends now: its request is made, and answered in
time and in full with the document of the keys. -/
structure Serves (s : State) (x : Exchange) (kids : List String) : Prop where
  fits : x.remote.url.withoutUser.fitsRequest = true
  answered : ∃ answer, s.network.response? s.requests.length = some answer ∧
    x.remote.receives (s.wait x) answer = true ∧ answer.status = 200 ∧ answer.truncated = false ∧
    answer.body = encode (Fixture.body kids).render

theorem Serves.publishes (h : s.Serves x kids) : s.publishes x (Fixture.keySet kids) := by
  obtain ⟨hfits, answer, hanswer, hreceived, hstatus, hwhole, hbody⟩ := h
  have hends : answer.onward? x.remote.url = none := by
    rw [Response.onward?, hstatus]
    rfl
  refine ⟨hfits, answer, .here hanswer hreceived hends, ?_, hwhole, ?_⟩
  · rw [hstatus]
    rfl
  · rw [hbody]
    exact Fixture.parse_body kids

/-- **What is answered where sample keys are served.** -/
structure ServesExactly (s : State) (x : Exchange) (kids : List String) : Prop where
  /-- A call begins a fetch, for whatever id it is made. -/
  begins : ∀ kid, call kid (.remote x.remote) s = (.fetches ⟨x.remote, s.now⟩, s)
  /-- With the fetch, a call for an id of the list ends with its sample key. -/
  found : ∀ kid ∈ kids, ∀ role p, s.advanceTask ⟨role, kid, p⟩ (.fetching x) =
    (s.receive x).2.finish ⟨role, kid, p⟩ (.key (Fixture.edwards kid))
  /-- Every other id is not found. -/
  missing : ∀ kid ∉ kids, ∃ t, ∀ role p, s.advanceTask ⟨role, kid, p⟩ (.fetching x) =
    (s.receive x).2.finish ⟨role, kid, p⟩ (.error (.keyNotFound t))
  /-- All keys are fetched in the order of the list. -/
  fetched : kids ≠ [] → (s.receive x).1 = .ok (kids.map Fixture.edwards)
  /-- In an empty list no key is found. -/
  empty : kids = [] → ∃ t, (s.receive x).1 = .error (.keyNotFound t)
  /-- A sample key is what its own document describes, and it has material. -/
  usable : ∀ kid, Jwk.ofValue? (Fixture.document kid) = some (Fixture.edwards kid) ∧
    ∃ m, (Fixture.edwards kid).material = .ok m

theorem advanceTask_fetching (s : State) (role : Role) (kid : String) (p : Provider)
    (x : Exchange) : s.advanceTask ⟨role, kid, p⟩ (.fetching x) =
      (s.receive x).2.finish ⟨role, kid, p⟩ (s.receiveKey kid x).1 := rfl

/-- **A served document of sample keys resolves exactly their ids**, whatever the ids are. -/
theorem serves_exactly (h : s.Serves x kids) : s.ServesExactly x kids := by
  have hset := h.publishes
  constructor
  case begins => exact fun _ => rfl
  case found =>
    intro kid hkid role p
    rw [advanceTask_fetching, receiveKey_of_find hset (Fixture.find?_keySet hkid)]
  case missing =>
    intro kid hkid
    obtain ⟨t, ht⟩ := receiveKey_of_lacks hset (Fixture.find?_keySet_of_not_mem hkid)
    refine ⟨t, fun role p => ?_⟩
    rw [advanceTask_fetching, ht]
  case fetched =>
    intro hne
    refine (receive_eq_ok_iff _).2 ⟨fun hnil => hne (List.map_eq_nil_iff.1 hnil), hset⟩
  case empty =>
    rintro rfl
    exact ⟨_, receive_of_publishes hset⟩
  case usable =>
    exact fun kid => ⟨Fixture.ofValue?_document kid, _, Fixture.material_edwards kid⟩

/-- Some ids, one of them twice. -/
def sampleIds : List String := ["", "a\"b", "\n", "é", ""]

/-- A fetch of the sample keys of these ids, from where they are served. -/
def sampleExchange : Exchange where
  remote := { url := { scheme := .https, host := .name "keys.example" } }
  since := 0

/-- A run in which they are served there. -/
def sampleServer : State where
  network := .served [{ body := encode (Fixture.body sampleIds).render }]

theorem serves_exactly_samples :
    sampleServer.Serves sampleExchange sampleIds ∧
      (∀ role p, sampleServer.advanceTask ⟨role, "", p⟩ (.fetching sampleExchange) =
        (sampleServer.receive sampleExchange).2.finish ⟨role, "", p⟩
          (.key (Fixture.edwards ""))) ∧
      ∃ t, ∀ role p, sampleServer.advanceTask ⟨role, "a", p⟩ (.fetching sampleExchange) =
        (sampleServer.receive sampleExchange).2.finish ⟨role, "a", p⟩
          (.error (.keyNotFound t)) := by
  have hserves : sampleServer.Serves sampleExchange sampleIds :=
    ⟨by decide +kernel, _, rfl, rfl, rfl, rfl, rfl⟩
  have hexact := serves_exactly hserves
  exact ⟨hserves, hexact.found "" (by decide), hexact.missing "a" (by decide)⟩

end State

end SigningKeys
