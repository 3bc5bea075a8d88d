import SigningKeys.Jwk.Material
import SigningKeys.Proofs.Except
import SigningKeys.Proofs.Jwk.Record
import SigningKeys.Proofs.Text.Base64Url

/-!
# Records with material

Which records are verification keys, and what is wrong with the others. The type of a key says which
components it has; each of them is the text of some bytes. A record is searched for faults in a
fixed order, and the first one found is reported.

* `Jwk.componentNames`, `Jwk.HasComponent`: what a record needs;
* `Material.kty`, `Material.components`: what the material of a record says about it;
* `Jwk.FirstFault`, `Jwk.MaterialFault.error`: the fault that is reported, and how;
* `Jwk.material_eq_ok_iff`, `Jwk.material_eq_error_iff`: the material, and the error;
* **`Jwk.material_exact`**: the material of any record.
-/

namespace SigningKeys

open Json

/-! ## What a record needs -/

/-- The type of the key. -/
def Material.kty : Material → String
  | .rsa _ _ => "RSA"
  | .ellipticCurve _ _ => "EC"
  | .edwards _ => "OKP"

/-- The components under their names. -/
def Material.components : Material → List (String × List UInt8)
  | .rsa modulus exponent => [("n", modulus), ("e", exponent)]
  | .ellipticCurve x y => [("x", x), ("y", y)]
  | .edwards x => [("x", x)]

theorem Material.eq_of_components {m m' : Material} (hkty : m.kty = m'.kty)
    (h : m.components = m'.components) : m = m' := by
  cases m <;> cases m' <;> simp_all [kty, components]

namespace Jwk

/-- The components of a type of key, in the order in which they are looked up; none for a type that
is not supported. -/
def componentNames (kty : String) : Option (List String) :=
  if kty = "RSA" then some ["n", "e"]
  else if kty = "EC" then some ["x", "y"]
  else if kty = "OKP" then some ["x"]
  else none

theorem componentNames_kty (m : Material) :
    componentNames m.kty = some (m.components.map Prod.fst) := by
  cases m <;> rfl

variable {j : Jwk} {names : List String}

/-- A component that is a string, and the string is the text of some bytes. -/
def HasComponent (j : Jwk) (name : String) : Prop :=
  ∃ t, Members.get? name j.additional = some (.str t) ∧ Base64Url.Canonical (encode t)

/-- What can be wrong with the material of a record. -/
inductive MaterialFault where
  | unsupported
  | missing (name : String)
  | malformed (fault : Base64Url.Fault)

/-- The error that reports a fault of a record. -/
def MaterialFault.error (j : Jwk) : MaterialFault → KeyError
  | .unsupported =>
    .invalidKey ("Unsupported key type '" ++ j.kty ++ "' for kid " ++ j.kid)
  | .missing name => .invalidKey ("Missing '" ++ name ++ "' component for kid " ++ j.kid)
  | .malformed f =>
    .invalidKey ("Invalid key material for kid " ++ j.kid ++ ": Base64 error: " ++ f.message)

/-- The first fault of a record: its type, else the first component that is no string, else the
first whose string is the text of no bytes. -/
inductive FirstFault (j : Jwk) : MaterialFault → Prop where
  | unsupported (hkty : componentNames j.kty = none) : FirstFault j .unsupported
  | missing {front rest : List String} {name : String}
      (hkty : componentNames j.kty = some (front ++ name :: rest))
      (hfront : ∀ n ∈ front, ∃ t, j.text? n = some t)
      (hname : j.text? name = none) : FirstFault j (.missing name)
  | malformed {front rest : List String} {name t : String} {f : Base64Url.Fault}
      (hkty : componentNames j.kty = some (front ++ name :: rest))
      (htexts : ∀ n ∈ front ++ name :: rest, ∃ t, j.text? n = some t)
      (hfront : ∀ n ∈ front, j.HasComponent n)
      (hname : j.text? name = some t)
      (hfault : Base64Url.decode (encode t) = .error f) : FirstFault j (.malformed f)

/-! ## One component -/

theorem text?_eq_some {name t : String} :
    j.text? name = some t ↔ Members.get? name j.additional = some (.str t) := by
  rw [text?, Option.bind_eq_some_iff]
  constructor
  · rintro ⟨v, hv, ht⟩
    rw [hv, text?_eq_some_iff.1 ht]
  · exact fun h => ⟨_, h, rfl⟩

theorem component_eq_ok_iff {name t : String} :
    j.component name = .ok t ↔ j.text? name = some t := by
  rw [component]
  cases j.text? name <;> simp

theorem component_eq_error_iff {name : String} {e : KeyError} :
    j.component name = .error e ↔ j.text? name = none ∧ e = (MaterialFault.missing name).error j := by
  rw [component]
  cases j.text? name <;> simp [MaterialFault.error, eq_comm]

/-- A text is decoded to the bytes that it is the text of. -/
theorem decoded_eq_ok_iff {t : String} {bs : List UInt8} :
    j.decoded t = .ok bs ↔ t = Base64Url.encode bs := by
  have htext : t = Base64Url.encode bs ↔ Base64Url.decode (encode t) = .ok bs := by
    rw [Base64Url.decode_eq_ok_iff, ← encode_ofList]
    refine ⟨fun h => h ▸ rfl, fun h => ?_⟩
    rw [← Option.some_inj, ← decode?_encode t, h, decode?_encode]
    rfl
  rw [htext, decoded]
  cases Base64Url.decode (encode t) <;> simp

theorem decoded_eq_error_iff {t : String} {e : KeyError} :
    j.decoded t = .error e ↔
      ∃ f, Base64Url.decode (encode t) = .error f ∧ e = (MaterialFault.malformed f).error j := by
  rw [decoded]
  cases Base64Url.decode (encode t) <;> simp [MaterialFault.error, eq_comm]

theorem exists_decoded_iff {t : String} :
    (∃ bs, j.decoded t = .ok bs) ↔ Base64Url.Canonical (encode t) := by
  rw [← Base64Url.exists_decode_iff, decoded]
  cases Base64Url.decode (encode t) <;> simp

/-- The text of a component that is there. -/
def textOf (j : Jwk) (name : String) : String := (j.text? name).getD ""

theorem text?_of_textOf {name : String} (h : ∃ t, j.text? name = some t) :
    j.text? name = some (j.textOf name) := by
  obtain ⟨t, ht⟩ := h
  rw [textOf, ht]
  rfl

theorem hasComponent_iff_text {name : String} :
    j.HasComponent name ↔ ∃ t, j.text? name = some t ∧ Base64Url.Canonical (encode t) := by
  simp only [text?_eq_some]
  rfl

/-- A component is there if it is found and decoded. -/
theorem hasComponent_iff {name : String} :
    j.HasComponent name ↔
      (∃ t, j.text? name = some t) ∧ ∃ bs, j.decoded (j.textOf name) = .ok bs := by
  rw [exists_decoded_iff, hasComponent_iff_text]
  constructor
  · rintro ⟨t, ht, hc⟩
    have := text?_of_textOf ⟨t, ht⟩
    rw [ht, Option.some_inj] at this
    exact ⟨⟨t, ht⟩, this ▸ hc⟩
  · exact fun ⟨ht, hc⟩ => ⟨_, text?_of_textOf ht, hc⟩

/-! ## All components -/

theorem mapM_component_eq_ok_iff {ts : List String} :
    names.mapM j.component = .ok ts ↔
      (∀ n ∈ names, ∃ t, j.text? n = some t) ∧ ts = names.map j.textOf := by
  rw [mapM_eq_ok_iff]
  simp only [component_eq_ok_iff]
  induction names generalizing ts with
  | nil => simp
  | cons n names ih =>
    rw [List.forall₂_cons_left_iff]
    simp only [ih, List.forall_mem_cons, List.map_cons]
    constructor
    · rintro ⟨t, ts', ht, ⟨hall, rfl⟩, rfl⟩
      have := text?_of_textOf ⟨t, ht⟩
      rw [ht, Option.some_inj] at this
      exact ⟨⟨⟨t, ht⟩, hall⟩, by rw [this]⟩
    · rintro ⟨⟨hn, hall⟩, rfl⟩
      exact ⟨_, _, text?_of_textOf hn, ⟨hall, rfl⟩, rfl⟩

/-- The material of a record of a supported type: all components are looked up, then decoded. -/
theorem exists_material_eq (h : componentNames j.kty = some names) :
    ∃ build : List (List UInt8) → Material,
      (j.material = do
        let ts ← names.mapM j.component
        let bs ← ts.mapM j.decoded
        return build bs) ∧
      ∀ bs, bs.length = names.length →
        (build bs).kty = j.kty ∧ (build bs).components = names.zip bs := by
  rw [componentNames] at h
  split_ifs at h with hrsa hec hokp
  · cases h
    refine ⟨fun bs => .rsa (bs.getD 0 []) (bs.getD 1 []), ?_, fun bs hbs => ?_⟩
    · rw [material, if_pos hrsa]
      simp
    · obtain ⟨n, e, rfl⟩ := List.length_eq_two.1 hbs
      exact ⟨hrsa.symm, rfl⟩
  · cases h
    refine ⟨fun bs => .ellipticCurve (bs.getD 0 []) (bs.getD 1 []), ?_, fun bs hbs => ?_⟩
    · rw [material, if_neg hrsa, if_pos hec]
      simp
    · obtain ⟨x, y, rfl⟩ := List.length_eq_two.1 hbs
      exact ⟨hec.symm, rfl⟩
  · cases h
    refine ⟨fun bs => .edwards (bs.getD 0 []), ?_, fun bs hbs => ?_⟩
    · rw [material, if_neg hrsa, if_neg hec, if_pos hokp]
      simp
    · obtain ⟨x, rfl⟩ := List.length_eq_one_iff.1 hbs
      exact ⟨hokp.symm, rfl⟩

theorem material_of_unsupported (h : componentNames j.kty = none) :
    j.material = .error (MaterialFault.unsupported.error j) := by
  rw [componentNames] at h
  split_ifs at h with hrsa hec hokp
  rw [material, if_neg hrsa, if_neg hec, if_neg hokp]
  rfl

/-- A record of a supported type has material exactly if it has all components. -/
theorem exists_material_iff (h : componentNames j.kty = some names) :
    (∃ m, j.material = .ok m) ↔ ∀ name ∈ names, j.HasComponent name := by
  obtain ⟨build, hm, -⟩ := exists_material_eq h
  simp only [hasComponent_iff, hm, bind_eq_ok_iff, mapM_component_eq_ok_iff]
  constructor
  · rintro ⟨m, ts, ⟨htexts, rfl⟩, bs, hbs, -⟩ name hname
    refine ⟨htexts name hname, ?_⟩
    exact exists_mapM_eq_ok_iff.1 ⟨bs, hbs⟩ _ (List.mem_map_of_mem hname)
  · intro hall
    have hdecoded : ∀ t ∈ names.map j.textOf, ∃ bs, j.decoded t = .ok bs :=
      List.forall_mem_map.2 fun n hn => (hall n hn).2
    obtain ⟨bs, hbs⟩ := exists_mapM_eq_ok_iff.2 hdecoded
    exact ⟨build bs, _, ⟨fun n hn => (hall n hn).1, rfl⟩, bs, hbs, rfl⟩

theorem forall₂_decoded_iff {bs : List (List UInt8)} :
    List.Forall₂ (fun t b => j.decoded t = .ok b) (names.map j.textOf) bs ↔
      bs.length = names.length ∧ ∀ e ∈ names.zip bs, j.textOf e.1 = Base64Url.encode e.2 := by
  rw [List.forall₂_map_left_iff]
  simp only [decoded_eq_ok_iff]
  rw [List.forall₂_iff_zip]
  exact ⟨fun ⟨hlength, h⟩ => ⟨hlength.symm, fun e he => h he⟩,
    fun ⟨hlength, h⟩ => ⟨hlength.symm, fun he => h _ he⟩⟩

/-- The material of a record has the type of the record, and its components are written in it. -/
theorem material_eq_ok_iff {m : Material} :
    j.material = .ok m ↔ m.kty = j.kty ∧
      ∀ e ∈ m.components, j.text? e.1 = some (Base64Url.encode e.2) := by
  have hnames := componentNames_kty m
  have hzip : (m.components.map Prod.fst).zip (m.components.map Prod.snd) = m.components :=
    (List.zip_of_prod rfl rfl).symm
  constructor
  · intro h
    cases hkty : componentNames j.kty with
    | none =>
      rw [material_of_unsupported hkty] at h
      cases h
    | some names =>
      obtain ⟨build, hm, hbuild⟩ := exists_material_eq hkty
      rw [hm, bind_eq_ok_iff] at h
      obtain ⟨ts, hts, h⟩ := h
      obtain ⟨bs, hbs, h⟩ := bind_eq_ok h
      cases h
      obtain ⟨htexts, rfl⟩ := mapM_component_eq_ok_iff.1 hts
      obtain ⟨hlength, hwritten⟩ := forall₂_decoded_iff.1 (mapM_eq_ok_iff.1 hbs)
      obtain ⟨hk, hc⟩ := hbuild bs hlength
      refine ⟨hk, fun e he => ?_⟩
      rw [hc] at he
      rw [text?_of_textOf (htexts _ (List.of_mem_zip he).1), hwritten e he]
  · rintro ⟨hk, hall⟩
    obtain ⟨build, hm, hbuild⟩ := exists_material_eq (hk ▸ hnames)
    have hlength : (m.components.map Prod.snd).length = (m.components.map Prod.fst).length := by
      rw [List.length_map, List.length_map]
    have htexts : ∀ n ∈ m.components.map Prod.fst, ∃ t, j.text? n = some t :=
      List.forall_mem_map.2 fun e he => ⟨_, hall e he⟩
    have hwritten : ∀ e ∈ m.components, j.textOf e.1 = Base64Url.encode e.2 := fun e he => by
      rw [textOf, hall e he]
      rfl
    have hbs := mapM_eq_ok_iff.2 (forall₂_decoded_iff.2 ⟨hlength, hzip.symm ▸ hwritten⟩)
    have hsame : build (m.components.map Prod.snd) = m :=
      Material.eq_of_components ((hbuild _ hlength).1.trans hk.symm)
        ((hbuild _ hlength).2.trans hzip)
    rw [hm, bind_eq_ok_iff]
    exact ⟨_, mapM_component_eq_ok_iff.2 ⟨htexts, rfl⟩,
      bind_eq_ok_iff.2 ⟨_, hbs, congrArg Except.ok hsame⟩⟩

/-- A record is refused for its first fault. -/
theorem material_eq_error_iff {e : KeyError} :
    j.material = .error e ↔ ∃ f, j.FirstFault f ∧ e = f.error j := by
  cases hkty : componentNames j.kty with
  | none =>
    rw [material_of_unsupported hkty, Except.error.injEq]
    constructor
    · rintro rfl
      exact ⟨_, .unsupported hkty, rfl⟩
    · rintro ⟨f, hf, rfl⟩
      cases hf with
      | unsupported => rfl
      | missing h => rw [hkty] at h; cases h
      | malformed h => rw [hkty] at h; cases h
  | some names =>
    obtain ⟨build, hm, -⟩ := exists_material_eq hkty
    rw [hm, bind_eq_error_iff, mapM_eq_error_iff]
    constructor
    · rintro (⟨front, name, rest, rfl, hfront, hname⟩ | ⟨ts, hts, h⟩)
      · obtain ⟨htext, rfl⟩ := component_eq_error_iff.1 hname
        refine ⟨_, .missing hkty (fun n hn => ?_) htext, rfl⟩
        exact (hfront n hn).imp fun t ht => component_eq_ok_iff.1 ht
      · obtain ⟨htexts, rfl⟩ := mapM_component_eq_ok_iff.1 hts
        rcases bind_eq_error_iff.1 h with h | ⟨bs, -, h⟩
        · rw [List.mapM_map, mapM_eq_error_iff] at h
          obtain ⟨front, name, rest, rfl, hfront, hname⟩ := h
          obtain ⟨f, hf, rfl⟩ := decoded_eq_error_iff.1 hname
          refine ⟨_, .malformed hkty htexts (fun n hn => ?_) (text?_of_textOf ?_) hf, rfl⟩
          · exact hasComponent_iff.2 ⟨htexts n (List.mem_append_left _ hn), hfront n hn⟩
          · exact htexts name (List.mem_append_right _ List.mem_cons_self)
        · cases h
    · rintro ⟨f, hf, rfl⟩
      cases hf with
      | unsupported h => rw [hkty] at h; cases h
      | missing h hfront hname =>
        rw [hkty, Option.some_inj] at h
        refine .inl ⟨_, _, _, h, fun n hn => ?_, component_eq_error_iff.2 ⟨hname, rfl⟩⟩
        exact (hfront n hn).imp fun t ht => component_eq_ok_iff.2 ht
      | malformed h htexts hfront hname hfault =>
        rw [hkty, Option.some_inj] at h
        subst h
        refine .inr ⟨_, mapM_component_eq_ok_iff.2 ⟨htexts, rfl⟩, bind_eq_error_iff.2 (.inl ?_)⟩
        rw [List.mapM_map, mapM_eq_error_iff]
        refine ⟨_, _, _, rfl, fun n hn => (hasComponent_iff.1 (hfront n hn)).2, ?_⟩
        refine decoded_eq_error_iff.2 ⟨_, ?_, rfl⟩
        rw [textOf, hname]
        exact hfault

/-! ## The material of any record -/

/-- Two records of the same type with the same components. -/
structure SameComponents (j j' : Jwk) : Prop where
  kty : j'.kty = j.kty
  texts : ∀ names, componentNames j.kty = some names →
    ∀ name ∈ names, j'.text? name = j.text? name

theorem SameComponents.symm {j' : Jwk} (h : j.SameComponents j') : j'.SameComponents j :=
  ⟨h.kty.symm, fun names hnames name hname => (h.texts names (h.kty ▸ hnames) name hname).symm⟩

theorem SameComponents.firstFault {j' : Jwk} (h : j.SameComponents j') {f : MaterialFault}
    (hf : j.FirstFault f) : j'.FirstFault f := by
  cases hf with
  | unsupported hkty => exact .unsupported (h.kty ▸ hkty)
  | missing hkty hfront hname =>
    have hsame := h.texts _ hkty
    refine .missing (h.kty ▸ hkty) (fun n hn => ?_) ?_
    · rw [hsame n (List.mem_append_left _ hn)]
      exact hfront n hn
    · rw [hsame _ (List.mem_append_right _ List.mem_cons_self)]
      exact hname
  | malformed hkty htexts hfront hname hfault =>
    have hsame := h.texts _ hkty
    refine .malformed (h.kty ▸ hkty) (fun n hn => ?_) (fun n hn => ?_) ?_ hfault
    · rw [hsame n hn]
      exact htexts n hn
    · rw [hasComponent_iff_text, hsame n (List.mem_append_left _ hn)]
      exact hasComponent_iff_text.1 (hfront n hn)
    · rw [hsame _ (List.mem_append_right _ List.mem_cons_self)]
      exact hname

theorem SameComponents.material {j' : Jwk} (h : j.SameComponents j') {m : Material}
    (hm : j.material = .ok m) : j'.material = .ok m := by
  obtain ⟨hkty, hall⟩ := material_eq_ok_iff.1 hm
  refine material_eq_ok_iff.2 ⟨hkty.trans h.kty.symm, fun e he => ?_⟩
  rw [h.texts _ (hkty ▸ componentNames_kty m) _ (List.mem_map_of_mem he)]
  exact hall e he

/-- What the material of a record is. -/
structure MaterialExact (j : Jwk) : Prop where
  /-- There is material exactly if the type is supported and all its components are strings that
  are the texts of some bytes. -/
  accepted : (∃ m, j.material = .ok m) ↔
    ∃ names, componentNames j.kty = some names ∧ ∀ name ∈ names, j.HasComponent name
  /-- The material has the type of the record, and its components are those written in it. -/
  decoded : ∀ m, j.material = .ok m ↔ m.kty = j.kty ∧ ∀ e ∈ m.components,
    Members.get? e.1 j.additional = some (.str (Base64Url.encode e.2))
  /-- Every other record is refused, and the error reports its first fault. -/
  refused : ∀ e, j.material = .error e ↔ ∃ f, j.FirstFault f ∧ e = f.error j
  /-- A refusal always says that the key is invalid. -/
  invalid : ∀ e, j.material = .error e → ∃ text, e = .invalidKey text
  /-- Nothing else of the record matters: any other of the same type with the same components has
  the same material, or the same first fault. -/
  independent : ∀ j', j.SameComponents j' →
    (∀ m, j'.material = .ok m ↔ j.material = .ok m) ∧
      ∀ f, j'.FirstFault f ↔ j.FirstFault f

/-- **The material of any record.** -/
theorem material_exact (j : Jwk) : j.MaterialExact := by
  constructor
  case accepted =>
    cases hkty : componentNames j.kty with
    | none =>
      rw [material_of_unsupported hkty]
      exact ⟨nofun, nofun⟩
    | some names =>
      rw [exists_material_iff hkty]
      exact ⟨fun h => ⟨names, rfl, h⟩, fun ⟨_, hsome, h⟩ => Option.some.inj hsome ▸ h⟩
  case decoded =>
    intro m
    rw [material_eq_ok_iff]
    simp only [text?_eq_some]
  case refused => exact fun e => material_eq_error_iff
  case invalid =>
    intro e he
    obtain ⟨f, -, rfl⟩ := material_eq_error_iff.1 he
    cases f <;> exact ⟨_, rfl⟩
  case independent =>
    intro j' h
    exact ⟨fun m => ⟨h.symm.material, h.material⟩,
      fun f => ⟨h.symm.firstFault, h.firstFault⟩⟩

end Jwk

end SigningKeys
