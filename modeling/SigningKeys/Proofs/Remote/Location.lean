import SigningKeys.KeyLocation
import SigningKeys.Proofs.Web.Authority

/-!
# Where domains publish their keys

The key set of a domain lies at the well-known path, behind the authority that the domain names.

* `NamesScheme`, `IsBase`: the address of a domain, which begins with `https` unless it is told
  otherwise;
* `wellKnownBelow`, `join_wellKnownPath`: the address of the key set behind an authority;
* `endpointOfDomain_eq_ok_iff`, `endpointOfDomain_eq_error_iff`: the address of the key set of a
  domain, and what can be wrong with the domain;
* `Locates`, and **`locates`**: what comes of the text of a domain.
-/

namespace SigningKeys.KeyLocation

open Web

/-- A text holds the separator of a scheme. -/
def NamesScheme (text : String) : Prop := [':', '/', '/'] <:+: text.toList

/-- `base` is the address of a domain: `https` is meant unless the text names a scheme. -/
def IsBase (domain base : String) : Prop :=
  (NamesScheme domain ∧ base = domain) ∨ (¬ NamesScheme domain ∧ base = "https://" ++ domain)

theorem namesScheme_iff {cs : List Char} : namesScheme cs = true ↔ [':', '/', '/'] <:+: cs := by
  fun_induction namesScheme cs with
  | case1 rest => exact ⟨fun _ => ⟨[], rest, rfl⟩, fun _ => rfl⟩
  | case2 c rest hno ih =>
    rw [ih, List.infix_cons_iff, or_iff_right]
    rintro ⟨back, hback⟩
    cases hback
    exact hno back rfl rfl
  | case3 => simp

instance (text : String) : Decidable (NamesScheme text) :=
  decidable_of_iff (namesScheme text.toList = true) namesScheme_iff

theorem baseText_of_namesScheme {domain : String} (h : NamesScheme domain) :
    baseText domain = domain :=
  if_pos (namesScheme_iff.2 h)

theorem baseText_of_not_namesScheme {domain : String} (h : ¬ NamesScheme domain) :
    baseText domain = "https://" ++ domain :=
  if_neg (mt namesScheme_iff.1 h)

theorem isBase_iff {domain base : String} : IsBase domain base ↔ base = baseText domain := by
  unfold IsBase
  by_cases h : NamesScheme domain
  · simp [h, baseText_of_namesScheme]
  · simp [h, baseText_of_not_namesScheme]

theorem exists_isBase_iff {domain : String} {P : String → Prop} :
    (∃ base, IsBase domain base ∧ P base) ↔ P (baseText domain) := by
  simp [isBase_iff]

/-- The address of the key set behind the authority of `u`. -/
def wellKnownBelow (u : Url) : Url :=
  { u with path := [".well-known", "jwks.json"], query := none, fragment := none }

theorem pathText_wellKnownBelow (u : Url) :
    (wellKnownBelow u).pathText = "/.well-known/jwks.json" := by
  cbv

theorem text_wellKnownBelow (u : Url) :
    (wellKnownBelow u).text =
      u.scheme.name ++ "://" ++ u.userText ++ u.host.text ++ u.portText ++
        "/.well-known/jwks.json" := by
  have htail : (wellKnownBelow u).tailText = "" := rfl
  rw [Url.text, pathText_wellKnownBelow, htail, String.append_empty]
  rfl

/-- **The well-known path can be asked for everywhere.** -/
theorem join_wellKnownPath (u : Url) : u.join wellKnownPath = .ok (.web (wellKnownBelow u)) := by
  have hs : significant wellKnownPath = '/' :: ".well-known/jwks.json".toList := by decide +kernel
  rw [u.join_of_slash hs fun c t h => (by cases h; rfl)]
  have htail : splitTail ".well-known/jwks.json".toList =
      (".well-known/jwks.json".toList, none, none) := by decide +kernel
  have hpath :
      walk [] (segments ".well-known/jwks.json".toList) = [".well-known", "jwks.json"] := by
    decide +kernel
  rw [htail, hpath]
  rfl

theorem wellKnown_eq (given : String) (u : Url) : wellKnown given u = .ok (wellKnownBelow u) := by
  rw [wellKnown, join_wellKnownPath]
  rfl

/-! ## What can be wrong with a domain -/

section Endpoint

variable {text : String} {u v : Url}

theorem endpointOfDomain_of_empty (h : Text.trimBlank text = "") :
    endpointOfDomain text = .error (.invalidConfiguration "A domain is required") := by
  unfold endpointOfDomain
  simp only [h]
  rfl

theorem endpointOfDomain_of_nonempty (h : Text.trimBlank text ≠ "") :
    endpointOfDomain text =
      accept (Text.trimBlank text) (Address.parse (baseText (Text.trimBlank text))) >>=
        wellKnown (Text.trimBlank text) := by
  unfold endpointOfDomain
  simp only
  rw [if_neg (by simpa using h)]
  rfl

theorem endpointOfDomain_of_fault (h : Text.trimBlank text ≠ "") {f : UrlFault}
    (hf : Address.parse (baseText (Text.trimBlank text)) = .error f) :
    endpointOfDomain text = .error (.invalidConfiguration
      ("Invalid jwks uri '" ++ Text.trimBlank text ++ "': " ++ f.message)) := by
  rw [endpointOfDomain_of_nonempty h, hf]
  rfl

theorem endpointOfDomain_of_other (h : Text.trimBlank text ≠ "") {scheme : String}
    (ho : Address.parse (baseText (Text.trimBlank text)) = .ok (.other scheme)) :
    endpointOfDomain text = .error (.invalidConfiguration
      ("Unsupported jwks uri scheme '" ++ scheme ++ "'")) := by
  rw [endpointOfDomain_of_nonempty h, ho]
  rfl

theorem endpointOfDomain_of_web (h : Text.trimBlank text ≠ "")
    (hu : Address.parse (baseText (Text.trimBlank text)) = .ok (.web u)) :
    endpointOfDomain text = .ok (wellKnownBelow u) := by
  rw [endpointOfDomain_of_nonempty h, hu]
  exact wellKnown_eq (Text.trimBlank text) u

/-- **The address of the key set of a domain.** -/
theorem endpointOfDomain_eq_ok_iff :
    endpointOfDomain text = .ok v ↔ Text.trimBlank text ≠ "" ∧
      ∃ u, Address.parse (baseText (Text.trimBlank text)) = .ok (.web u) ∧
        wellKnownBelow u = v := by
  by_cases h : Text.trimBlank text = ""
  · simp [endpointOfDomain_of_empty h, h]
  · cases hparse : Address.parse (baseText (Text.trimBlank text)) with
    | error f => simp [endpointOfDomain_of_fault h hparse]
    | ok a =>
      cases a with
      | web u => simp [endpointOfDomain_of_web h hparse, h]
      | other scheme => simp [endpointOfDomain_of_other h hparse]

/-- **What is told of a domain whose key set has no address.** -/
theorem endpointOfDomain_eq_error_iff {e : KeyError} :
    endpointOfDomain text = .error e ↔
      (Text.trimBlank text = "" ∧ e = .invalidConfiguration "A domain is required") ∨
      (Text.trimBlank text ≠ "" ∧
        ((∃ f, Address.parse (baseText (Text.trimBlank text)) = .error f ∧
          e = .invalidConfiguration
            ("Invalid jwks uri '" ++ Text.trimBlank text ++ "': " ++ f.message)) ∨
        ∃ scheme, Address.parse (baseText (Text.trimBlank text)) = .ok (.other scheme) ∧
          e = .invalidConfiguration ("Unsupported jwks uri scheme '" ++ scheme ++ "'"))) := by
  by_cases h : Text.trimBlank text = ""
  · simp [endpointOfDomain_of_empty h, h, eq_comm]
  · cases hparse : Address.parse (baseText (Text.trimBlank text)) with
    | error f => simp [endpointOfDomain_of_fault h hparse, h, eq_comm]
    | ok a =>
      cases a with
      | web u => simp [endpointOfDomain_of_web h hparse, h]
      | other scheme => simp [endpointOfDomain_of_other h hparse, h, eq_comm]

end Endpoint

/-- **What comes of the text of a domain.** -/
structure Locates (text : String) : Prop where
  /-- A key set has an address if and only if the text is not blank and its base is an address of
  the web. -/
  accepts : (∃ v, endpointOfDomain text = .ok v) ↔
    Text.trimBlank text ≠ "" ∧
      ∃ base, IsBase (Text.trimBlank text) base ∧ ∃ u, Address.parse base = .ok (.web u)
  /-- The address has the authority of the base, the well-known path and nothing behind it. -/
  shape : ∀ v, endpointOfDomain text = .ok v →
    ∃ base, IsBase (Text.trimBlank text) base ∧
      ∃ u, Address.parse base = .ok (.web u) ∧ u.SameAuthority v ∧
        v.pathText = "/.well-known/jwks.json" ∧ v.query = none ∧ v.fragment = none ∧
        v.text = u.scheme.name ++ "://" ++ u.userText ++ u.host.text ++ u.portText ++
          "/.well-known/jwks.json"
  /-- The well-known path is an address below every base. -/
  joins : ∀ u : Url, ∃ v, u.join wellKnownPath = .ok (.web v) ∧ u.SameAuthority v
  /-- A domain that names no scheme is asked with `https`. -/
  secure : ¬ NamesScheme (Text.trimBlank text) →
    ∀ v, endpointOfDomain text = .ok v → v.scheme = .https
  /-- What is wrong is always a matter of configuration. -/
  refuses : ∀ e, endpointOfDomain text = .error e → ∃ detail, e = .invalidConfiguration detail

/-- **A domain that is an address of the web has a key set at the well-known path.** -/
theorem locates (text : String) : Locates text := by
  constructor
  case accepts =>
    simp only [endpointOfDomain_eq_ok_iff, exists_isBase_iff]
    constructor
    · rintro ⟨v, hne, u, hu, -⟩
      exact ⟨hne, u, hu⟩
    · rintro ⟨hne, u, hu⟩
      exact ⟨_, hne, u, hu, rfl⟩
  case shape =>
    intro v hv
    obtain ⟨-, u, hu, rfl⟩ := endpointOfDomain_eq_ok_iff.1 hv
    exact ⟨_, isBase_iff.2 rfl, u, hu, ⟨rfl, rfl, rfl, rfl, rfl⟩, pathText_wellKnownBelow u, rfl,
      rfl, text_wellKnownBelow u⟩
  case joins => exact fun u => ⟨_, join_wellKnownPath u, rfl, rfl, rfl, rfl, rfl⟩
  case secure =>
    intro hno v hv
    obtain ⟨-, u, hu, rfl⟩ := endpointOfDomain_eq_ok_iff.1 hv
    rw [baseText_of_not_namesScheme hno, parse_https] at hu
    obtain ⟨w, hw, hwu⟩ := map_eq_ok hu
    cases hwu
    exact (scheme_webFrom hw : u.scheme = .https)
  case refuses =>
    intro e he
    rcases endpointOfDomain_eq_error_iff.1 he with ⟨-, h⟩ | ⟨-, ⟨f, -, h⟩ | ⟨scheme, -, h⟩⟩
    · exact ⟨_, h⟩
    · exact ⟨_, h⟩
    · exact ⟨_, h⟩

end SigningKeys.KeyLocation
