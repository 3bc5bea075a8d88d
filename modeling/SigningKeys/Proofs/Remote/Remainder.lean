import SigningKeys.Proofs.Remote.Location

/-!
# What stands behind a domain

A path, a query or a fragment behind a domain has nothing to do with the place of its key set, as
long as it does not hold the separator of a scheme. If it does, the whole text is taken for an
address that names its scheme, which the domain does not.

* `Bare`: a host, or a host and a port; `Follows`: what can follow it;
* `Bare.namesScheme_append_iff`, `trimBlank_append`: the separator, and the blanks at the end;
* `Bare.parse_append`: the address that a domain and what follows it spell;
* `FollowedBy`, and **`endpointOfDomain_append`**: what comes of a domain and of what follows it.
-/

namespace SigningKeys.KeyLocation

open Web

/-- A host, or a host and a port. A text that ends in a control character is none: controls are
dropped at the end of an address, but not inside of it. -/
structure Bare (d : String) : Prop where
  trimmed : Text.trimBlank d = d
  /-- It ends with a visible character, and with no colon. -/
  back : ∀ c ∈ d.toList.getLast?, c ≠ ':' ∧ 0x20 < c.toNat
  /-- Nothing in it ends a host. -/
  inside : ∀ c ∈ d.toList, c ≠ '/' ∧ c ≠ '\\' ∧ c ≠ '?' ∧ c ≠ '#'

/-- Whether a text is a host, or a host and a port. -/
def isBare (d : String) : Bool :=
  Text.trimBlank d == d && d.toList.getLast?.all (fun c => c != ':' && 0x20 < c.toNat) &&
    d.toList.all fun c => c != '/' && c != '\\' && c != '?' && c != '#'

theorem isBare_iff {d : String} : isBare d = true ↔ Bare d := by
  simp only [isBare, Bool.and_eq_true, beq_iff_eq, Option.all_eq_true, List.all_eq_true,
    bne_iff_ne, decide_eq_true_eq, and_assoc]
  exact ⟨fun ⟨h₁, h₂, h₃⟩ => ⟨h₁, h₂, h₃⟩, fun ⟨h₁, h₂, h₃⟩ => ⟨h₁, h₂, h₃⟩⟩

instance (d : String) : Decidable (Bare d) := decidable_of_iff (isBare d = true) isBare_iff

/-- A path, a query or a fragment. -/
def Follows (s : String) : Prop :=
  ∃ c rest, s.toList = c :: rest ∧ (c = '/' ∨ c = '?' ∨ c = '#')

section Bare

variable {d s : String} {u : Url}

theorem Bare.of_concat (hd : Bare d) {front : List Char} {z : Char} (h : d.toList = front ++ [z]) :
    z ≠ ':' ∧ 0x20 < z.toNat :=
  hd.back z (by rw [h]; exact List.getLast?_concat)

theorem Bare.exists_concat (hd : Bare d) (hne : d ≠ "") :
    ∃ front z, d.toList = front ++ [z] ∧ 0x20 < z.toNat := by
  have hne' : d.toList ≠ [] := fun h => hne (String.toList_eq_nil_iff.1 h)
  have hlast := (List.dropLast_append_getLast hne').symm
  exact ⟨_, _, hlast, (hd.of_concat hlast).2⟩

/-! ## The separator of a scheme -/

/-- A separator does not begin in a domain. -/
theorem separator_append {ds cs : List Char} (hslash : ∀ c ∈ ds, c ≠ '/')
    (hback : ∀ front c, ds = front ++ [c] → c ≠ ':') :
    [':', '/', '/'] <:+: ds ++ cs ↔ [':', '/', '/'] <:+: cs := by
  induction ds with
  | nil => rfl
  | cons d ds ih =>
    rw [List.cons_append, List.infix_cons_iff, or_iff_right,
      ih (fun c hc => hslash c (List.mem_cons_of_mem d hc))
        fun front c h => hback (d :: front) c (by rw [h]; rfl)]
    rintro ⟨more, hmore⟩
    cases ds with
    | nil => exact hback [] d rfl (List.cons.inj hmore).1.symm
    | cons e ds => exact hslash e (by simp) (List.cons.inj (List.cons.inj hmore).2).1.symm

theorem separator_rdropWhile {p : Char → Bool} (hp : p '/' = false) {cs : List Char} :
    [':', '/', '/'] <:+: cs.rdropWhile p ↔ [':', '/', '/'] <:+: cs := by
  constructor
  · exact fun h => h.trans (List.rdropWhile_prefix (p := p) cs).isInfix
  · rintro ⟨front, more, rfl⟩
    have hsplit (more : List Char) :
        front ++ [':', '/', '/'] ++ more = (front ++ [':', '/']) ++ '/' :: more := by simp
    rw [hsplit, Text.rdropWhile_append_cons hp]
    exact ⟨front, more.rdropWhile p, hsplit _⟩

/-- What is left of a domain and what follows it. -/
theorem trimBlank_append (hd : Bare d) (hne : d ≠ "") (hs : Follows s) :
    ∃ s', Follows s' ∧ Text.trimBlank (d ++ s) = d ++ s' ∧ (NamesScheme s' ↔ NamesScheme s) := by
  obtain ⟨c, rest, hcs, hc⟩ := hs
  have hblank : Text.isBlank c = false := by rcases hc with rfl | rfl | rfl <;> rfl
  have htrims := Text.trims_trimBlank d
  rw [hd.trimmed] at htrims
  refine ⟨String.ofList (c :: rest.rdropWhile Text.isBlank),
    ⟨c, _, String.toList_ofList, hc⟩, ?_, ?_⟩
  · rw [Text.trimBlank, String.toList_append, hcs,
      Text.trimWhere_append htrims (fun h => hne (String.toList_eq_nil_iff.1 h)) hblank,
      String.ofList_append, String.ofList_toList]
  · have hfront : (c :: rest).rdropWhile Text.isBlank = c :: rest.rdropWhile Text.isBlank :=
      Text.rdropWhile_append_cons hblank [] rest
    rw [NamesScheme, NamesScheme, String.toList_ofList, hcs, ← hfront,
      separator_rdropWhile (by rfl)]

theorem Bare.namesScheme_append_iff (hd : Bare d) : NamesScheme (d ++ s) ↔ NamesScheme s := by
  rw [NamesScheme, String.toList_append]
  exact separator_append (fun c hc => (hd.inside c hc).1) fun _ _ h => (hd.of_concat h).1

theorem Bare.not_namesScheme (hd : Bare d) : ¬ NamesScheme d := by
  have hempty : d ++ "" = d := String.append_empty
  rw [← hempty, hd.namesScheme_append_iff]
  decide

/-! ## Behind the authority -/

/-- **What counts of a domain** counts before what follows it, too. -/
theorem Bare.significantEnd_append (hd : Bare d) (hne : d ≠ "") {c : Char} {rest : List Char}
    (hs : s.toList = c :: rest) (hc : 0x20 < c.toNat) :
    significantEnd (d ++ s).toList = significantEnd d.toList ++ c :: significantEnd rest := by
  obtain ⟨front, z, hfront, hz⟩ := hd.exists_concat hne
  rw [String.toList_append, hs, hfront, Web.significantEnd_append hz hc]

theorem Bare.significantEnd_ne_nil (hd : Bare d) (hne : d ≠ "") : significantEnd d.toList ≠ [] := by
  obtain ⟨front, z, hfront, hz⟩ := hd.exists_concat hne
  rw [hfront, significantEnd_append_cons hz]
  simp

/-- The authority is the domain, and nothing else. -/
theorem Bare.endsAuthority_significantEnd (hd : Bare d) {c : Char}
    (hc : c ∈ significantEnd d.toList) : endsAuthority true c = false := by
  have := hd.inside c (mem_of_mem_significantEnd hc)
  simp [endsAuthority, isSlash, this]

theorem Bare.afterSlashes_append (hd : Bare d) (hne : d ≠ "") (rest : List Char) :
    afterSlashes (significantEnd d.toList ++ rest) = significantEnd d.toList ++ rest := by
  obtain ⟨a, tail, htail⟩ := List.exists_cons_of_ne_nil (hd.significantEnd_ne_nil hne)
  have ha : endsAuthority true a = false :=
    hd.endsAuthority_significantEnd (by rw [htail]; exact List.mem_cons_self)
  rw [htail]
  exact List.dropWhile_cons_of_neg (by simp_all [endsAuthority])

theorem Bare.parse_eq (hd : Bare d) (hne : d ≠ "") :
    Address.parse ("https://" ++ d) =
      (webFrom .https (significantEnd d.toList)).map .web := by
  have hslash := hd.afterSlashes_append hne []
  rw [List.append_nil] at hslash
  rw [parse_https, hslash]

/-- **A domain and what follows it** spell an address with the authority of the domain. -/
theorem Bare.parse_append (hd : Bare d) (hne : d ≠ "") {c : Char} {rest : List Char}
    (hs : s.toList = c :: rest) (hc : c = '/' ∨ c = '?' ∨ c = '#') :
    Address.parse ("https://" ++ (d ++ s)) =
      (webFrom .https (significantEnd d.toList)).map fun u =>
        .web (u.withTail (c :: significantEnd rest)) := by
  have hvisible : 0x20 < c.toNat := by rcases hc with rfl | rfl | rfl <;> decide
  have hends : endsAuthority true c = true := by rcases hc with rfl | rfl | rfl <;> rfl
  rw [parse_https, hd.significantEnd_append hne hs hvisible, hd.afterSlashes_append hne,
    webFrom_append (fun _ => hd.endsAuthority_significantEnd) hends]
  cases webFrom .https (significantEnd d.toList) <;> rfl

theorem Bare.parse_of_endpointOfDomain (hd : Bare d) (hu : endpointOfDomain d = .ok u) :
    d ≠ "" ∧ ∃ w, webFrom .https (significantEnd d.toList) = .ok w ∧ wellKnownBelow w = u := by
  obtain ⟨hne, w, hw, hwu⟩ := endpointOfDomain_eq_ok_iff.1 hu
  rw [hd.trimmed] at hne hw
  rw [baseText_of_not_namesScheme hd.not_namesScheme, hd.parse_eq hne] at hw
  obtain ⟨w', hw', heq⟩ := map_eq_ok hw
  cases heq
  exact ⟨hne, w, hw', hwu⟩

end Bare

/-- What comes of a domain, and of what follows it. -/
structure FollowedBy (d s : String) (u : Url) : Prop where
  /-- What does not hold the separator of a scheme is ignored. -/
  ignored : ¬ NamesScheme s → endpointOfDomain (d ++ s) = .ok u
  /-- Otherwise a key set is found only where the domain begins with a scheme of the web itself. -/
  scheme : NamesScheme s → ∀ v, endpointOfDomain (d ++ s) = .ok v →
    ∃ rest, schemeOf? (significant d) = some (v.scheme.name, rest)
  /-- A domain without a colon does not. -/
  relative : NamesScheme s → ':' ∉ d.toList →
    endpointOfDomain (d ++ s) = .error (.invalidConfiguration
      ("Invalid jwks uri '" ++ Text.trimBlank (d ++ s) ++ "': relative URL without a base"))

/-- **A path, a query or a fragment behind a domain is ignored** unless it holds the separator of a
scheme. -/
theorem endpointOfDomain_append {d s : String} {u : Url} (hd : Bare d) (hs : Follows s)
    (hu : endpointOfDomain d = .ok u) : FollowedBy d s u := by
  obtain ⟨hne, w, hw, rfl⟩ := hd.parse_of_endpointOfDomain hu
  obtain ⟨s', ⟨c, rest, hcs, hc⟩, htrim, hnames⟩ := trimBlank_append hd hne hs
  have hvisible : 0x20 < c.toNat := by rcases hc with rfl | rfl | rfl <;> decide
  have hne' : Text.trimBlank (d ++ s) ≠ "" := by
    rw [htrim]
    simp [hne]
  -- with the separator, the text is read as it stands
  have hread (h : NamesScheme s) : baseText (Text.trimBlank (d ++ s)) = d ++ s' := by
    rw [htrim, baseText_of_namesScheme (hd.namesScheme_append_iff.2 (hnames.2 h))]
  have hscheme : schemeOf? (significant (d ++ s')) =
      (schemeOf? (significant d)).map fun s => (s.1, s.2 ++ c :: significantEnd rest) := by
    obtain ⟨front, z, hfront, hz⟩ := hd.exists_concat hne
    rw [significant_append hfront hcs hz hvisible, schemeOf?_append hc]
  constructor
  case ignored =>
    intro h
    rw [← hnames, ← hd.namesScheme_append_iff] at h
    refine endpointOfDomain_eq_ok_iff.2 ⟨hne', w.withTail (c :: significantEnd rest), ?_, rfl⟩
    rw [htrim, baseText_of_not_namesScheme h, hd.parse_append hne hcs hc, hw]
    rfl
  case scheme =>
    intro h v hv
    obtain ⟨-, x, hx, rfl⟩ := endpointOfDomain_eq_ok_iff.1 hv
    rw [hread h, Address.parse, hscheme] at hx
    cases hd' : schemeOf? (significant d) with
    | none => rw [hd'] at hx; cases hx
    | some front =>
      rw [hd'] at hx
      have hname : x.scheme.name = front.1 := Address.ofScheme_eq_ok_web hx
      exact ⟨front.2, congrArg (fun name => some (name, front.2)) hname.symm⟩
  case relative =>
    intro h hcolon
    have hnone : schemeOf? (significant d) = none :=
      schemeOf?_of_not_mem fun hmem => hcolon (mem_of_mem_significant hmem)
    have hfault : Address.parse (baseText (Text.trimBlank (d ++ s))) = .error .noScheme := by
      rw [hread h, Address.parse, hscheme, hnone]
      rfl
    have hmessage : "': " ++ UrlFault.noScheme.message = "': relative URL without a base" := by
      decide +kernel
    rw [endpointOfDomain_of_fault hne' hfault, String.append_assoc, hmessage]

-- A control character at the end of a domain is dropped there only.
example : (endpointOfDomain "[::1]\x1f").toOption.isSome = true ∧
    (endpointOfDomain ("[::1]\x1f" ++ "/")).toOption = none := by
  decide +kernel

theorem bare_loopback : Bare "[::1]:8443" := by decide +kernel

theorem endpointOfDomain_loopback :
    endpointOfDomain "[::1]:8443" = .ok {
      scheme := .https, host := .ipv6 [0, 0, 0, 0, 0, 0, 0, 1], port := some 8443,
      path := [".well-known", "jwks.json"] } := by
  rw [← toOption_eq_some_iff]
  decide +kernel

/-- A host and a port before a path, a query and a fragment without the separator. -/
theorem endpointOfDomain_append_port :
    Bare "[::1]:8443" ∧ Follows "/a b?c=http:d#é" ∧
      ∃ u, endpointOfDomain "[::1]:8443" = .ok u ∧
        FollowedBy "[::1]:8443" "/a b?c=http:d#é" u := by
  have hs : Follows "/a b?c=http:d#é" := ⟨'/', _, rfl, .inl rfl⟩
  exact ⟨bare_loopback, hs, _, endpointOfDomain_loopback,
    endpointOfDomain_append bare_loopback hs endpointOfDomain_loopback⟩

/-- A query that holds an address keeps the key set of a domain from being found. -/
theorem endpointOfDomain_append_address :
    Bare "[::1]:8443" ∧ Follows "/?next=https://login.example.com/" ∧
      (∃ u, endpointOfDomain "[::1]:8443" = .ok u) ∧
      ∀ u, endpointOfDomain ("[::1]:8443" ++ "/?next=https://login.example.com/") ≠ .ok u := by
  refine ⟨bare_loopback, ⟨'/', _, rfl, .inl rfl⟩, ⟨_, endpointOfDomain_loopback⟩, fun u hu => ?_⟩
  have hnone : (endpointOfDomain
      ("[::1]:8443" ++ "/?next=https://login.example.com/")).toOption = none := by
    decide +kernel
  rw [hu] at hnone
  cases hnone

end SigningKeys.KeyLocation
