import SigningKeys.Proofs.Except
import SigningKeys.Proofs.Text.Words
import SigningKeys.Web.Url

/-!
# The authority of an address

The authority of an address is what stands before its path: scheme, user, host and port. It is read
without regard to what comes after it, and a reference that begins with a slash keeps it.

* `Url.SameAuthority`: addresses with the same authority;
* **`Url.join_of_slash`**: references that begin with one slash;
* **`webFrom_append`**: an authority and what comes after it;
* `significantEnd_append`: what counts of a text, and of what comes after it;
* `parse_https`: addresses that begin with `https` and two slashes;
* `schemeOf?_append`, `Address.ofScheme_eq_ok_web`: the scheme that a text begins with.
-/

namespace SigningKeys.Web

open Text (takeWhile_append_cons dropWhile_append_cons rdropWhile_append_cons)

/-- Addresses with the same scheme, user, password, host and port. -/
structure Url.SameAuthority (u v : Url) : Prop where
  scheme : v.scheme = u.scheme
  user : v.user = u.user
  password : v.password = u.password
  host : v.host = u.host
  port : v.port = u.port

/-! ## References -/

theorem splitTail_fst (cs : List Char) :
    (splitTail cs).1 = (cs.takeWhile (· != '#')).takeWhile (· != '?') := by
  unfold splitTail
  simp only
  split <;> rfl

theorem splitTail_cons {c : Char} (hhash : (c != '#') = true) (hmark : (c != '?') = true)
    (cs : List Char) : splitTail (c :: cs) = (c :: (splitTail cs).1, (splitTail cs).2) := by
  have hfront : (c :: cs).takeWhile (· != '#') = c :: cs.takeWhile (· != '#') :=
    List.takeWhile_cons_of_pos hhash
  have hpath : (c :: cs.takeWhile (· != '#')).takeWhile (· != '?') =
      c :: (cs.takeWhile (· != '#')).takeWhile (· != '?') := List.takeWhile_cons_of_pos hmark
  simp only [splitTail, hfront, hpath, List.length_cons, List.drop_succ_cons]
  split <;> rfl

/-- **A reference that begins with one slash** names a path from the root on. -/
theorem Url.join_of_slash (u : Url) {s : String} {rest : List Char}
    (hs : significant s = '/' :: rest) (hrest : ∀ c t, rest = c :: t → isSlash true c = false) :
    u.join s = .ok (.web { u with
      path := walk [] (segments (splitTail rest).1)
      query := queryOf (splitTail rest).2.1
      fragment := fragmentOf (splitTail rest).2.2 }) := by
  have hscheme : schemeOf? ('/' :: rest) = none := rfl
  have hsecond : ((splitTail rest).1.head?.map (isSlash true)).getD false = false := by
    rw [splitTail_fst]
    cases rest with
    | nil => rfl
    | cons c t =>
      have hc := hrest c t rfl
      by_cases hhash : (c != '#') = true <;> by_cases hmark : (c != '?') = true <;>
        simp [hhash, hmark, hc]
  unfold Url.join
  simp only [hs, hscheme, joinRelative, splitTail_cons (c := '/') rfl rfl]
  simp [hsecond, isSlash, Except.map]

/-! ## Addresses of the web -/

section WebFrom

variable {scheme : Scheme} {authority : List Char} {u : Url}

/-- The address with what comes after its authority read from `tail`. -/
def Url.withTail (u : Url) (tail : List Char) : Url :=
  { u with
    path := walk [] (segments ((splitTail tail).1.drop 1))
    query := queryOf (splitTail tail).2.1
    fragment := fragmentOf (splitTail tail).2.2 }

/-- **An authority is read without regard to what comes after it.** -/
theorem webFrom_append (ha : ∀ c ∈ authority, endsAuthority true c = false) {c : Char}
    (hc : endsAuthority true c = true) (rest : List Char) :
    webFrom scheme (authority ++ c :: rest) =
      (webFrom scheme authority).map (·.withTail (c :: rest)) := by
  have halone : authority.takeWhile (!endsAuthority true ·) = authority :=
    List.takeWhile_eq_self_iff.2 fun c hc => by rw [ha c hc]; rfl
  have hboth : (authority ++ c :: rest).takeWhile (!endsAuthority true ·) = authority := by
    rw [takeWhile_append_cons (by rw [hc]; rfl), halone]
  unfold webFrom
  simp only [hboth, halone, List.drop_left, List.drop_length]
  split
  · rfl
  · cases hostOf (splitHost false (splitUser authority).2).1 with
    | error f => rfl
    | ok host =>
      cases portOf (splitHost false (splitUser authority).2).2 with
      | error f => rfl
      | ok port => rfl

theorem scheme_webFrom {cs : List Char} (h : webFrom scheme cs = .ok u) : u.scheme = scheme := by
  unfold webFrom at h
  simp only at h
  split at h
  · cases h
  · obtain ⟨host, -, h⟩ := bind_eq_ok h
    obtain ⟨port, -, h⟩ := bind_eq_ok h
    cases h
    rfl

end WebFrom

/-! ## What counts of a text -/

section Significant

variable {cs rest : List Char} {c z : Char}

/-- Tabulators and line ends do not count. -/
def counts (c : Char) : Bool := c != '\t' && c != '\n' && c != '\r'

/-- The characters of a text that count where an address ends with it. -/
def significantEnd (cs : List Char) : List Char :=
  (cs.rdropWhile (·.toNat ≤ 0x20)).filter counts

theorem significant_eq (text : String) :
    significant text = significantEnd (text.toList.dropWhile (·.toNat ≤ 0x20)) := rfl

theorem mem_of_mem_significantEnd (h : c ∈ significantEnd cs) : c ∈ cs :=
  (List.rdropWhile_prefix _ cs).subset (List.mem_of_mem_filter h)

theorem mem_of_mem_significant {text : String} (h : c ∈ significant text) : c ∈ text.toList :=
  (List.dropWhile_sublist _).subset (mem_of_mem_significantEnd h)

theorem counts_of_visible (hc : 0x20 < c.toNat) : counts c = true := by
  simp only [counts, bne_iff_ne, Bool.and_eq_true]
  refine ⟨⟨?_, ?_⟩, ?_⟩ <;> rintro rfl <;> exact absurd hc (by decide)

/-- What stands before a visible character does not stand at the end. -/
theorem significantEnd_append_cons (hc : 0x20 < c.toNat) (cs rest : List Char) :
    significantEnd (cs ++ c :: rest) = cs.filter counts ++ c :: significantEnd rest := by
  unfold significantEnd
  rw [rdropWhile_append_cons (by simpa using hc), List.filter_append,
    List.filter_cons_of_pos (counts_of_visible hc)]

/-- **A text that ends in a visible character** counts in the same way before another one. -/
theorem significantEnd_append (hz : 0x20 < z.toNat) (hc : 0x20 < c.toNat) (cs rest : List Char) :
    significantEnd (cs ++ [z] ++ c :: rest) =
      significantEnd (cs ++ [z]) ++ c :: significantEnd rest := by
  rw [significantEnd_append_cons hc, significantEnd_append_cons hz cs [], List.filter_append,
    List.filter_cons_of_pos (counts_of_visible hz)]
  rfl

theorem significant_append {text more : String} (htext : text.toList = cs ++ [z])
    (hmore : more.toList = c :: rest) (hz : 0x20 < z.toNat) (hc : 0x20 < c.toNat) :
    significant (text ++ more) = significant text ++ c :: significantEnd rest := by
  have hz' : decide (z.toNat ≤ 0x20) = false := by simpa using hz
  rw [significant_eq, significant_eq, String.toList_append, htext, hmore, List.append_assoc,
    List.singleton_append, dropWhile_append_cons hz', dropWhile_append_cons hz',
    ← significantEnd_append hz hc, List.append_assoc, List.singleton_append]

theorem significant_https (text : String) :
    significant ("https://" ++ text) = "https://".toList ++ significantEnd text.toList := by
  have htext : ("https://" ++ text).toList = "https:/".toList ++ '/' :: text.toList := by
    rw [String.toList_append]
    rfl
  rw [significant_eq, htext]
  exact significantEnd_append_cons (c := '/') (by decide) "https:/".toList text.toList

/-- **Addresses that begin with `https` and two slashes.** -/
theorem parse_https (text : String) :
    Address.parse ("https://" ++ text) =
      (webFrom .https (afterSlashes (significantEnd text.toList))).map .web := by
  unfold Address.parse
  rw [significant_https]
  rfl

end Significant

/-! ## Schemes -/

/-- The characters of the scheme at the front of a text. -/
def schemeFront (cs : List Char) : List Char :=
  cs.takeWhile fun c => isLetter c || isDecimal c || c == '+' || c == '-' || c == '.'

/-- The scheme with the characters `front`, if a colon follows them. -/
def schemeBehind (front : List Char) : List Char → Option (String × List Char)
  | ':' :: rest =>
    if (front.head?.map isLetter).getD false then some (String.ofList (front.map lower), rest)
    else none
  | _ => none

theorem schemeOf?_eq (cs : List Char) :
    schemeOf? cs = schemeBehind (schemeFront cs) (cs.drop (schemeFront cs).length) := rfl

theorem schemeBehind_append {c : Char} (hc : c ≠ ':') (front cs rest : List Char) :
    schemeBehind front (cs ++ c :: rest) =
      (schemeBehind front cs).map fun s => (s.1, s.2 ++ c :: rest) := by
  fun_cases schemeBehind front cs with
  | case1 more hletter => rw [List.cons_append, schemeBehind, if_pos hletter]; rfl
  | case2 more hletter => rw [List.cons_append, schemeBehind, if_neg hletter]; rfl
  | case3 cs hno =>
    cases cs with
    | nil => exact schemeBehind.eq_2 _ _ fun more h => hc (by cases h; rfl)
    | cons x more => exact schemeBehind.eq_2 _ _ fun more' h => hno more (by cases h; rfl)

/-- **A scheme is read without regard to what stands behind the authority.** -/
theorem schemeOf?_append {c : Char} (hc : c = '/' ∨ c = '?' ∨ c = '#') (cs rest : List Char) :
    schemeOf? (cs ++ c :: rest) = (schemeOf? cs).map fun s => (s.1, s.2 ++ c :: rest) := by
  have hfront : schemeFront (cs ++ c :: rest) = schemeFront cs :=
    takeWhile_append_cons (by rcases hc with rfl | rfl | rfl <;> rfl) cs rest
  have hlen : (schemeFront cs).length ≤ cs.length := (List.takeWhile_prefix _).length_le
  have hcolon : c ≠ ':' := by rcases hc with rfl | rfl | rfl <;> decide
  rw [schemeOf?_eq, schemeOf?_eq, hfront, List.drop_append_of_le_length hlen,
    schemeBehind_append hcolon]

theorem schemeOf?_of_not_mem {cs : List Char} (h : ':' ∉ cs) : schemeOf? cs = none := by
  unfold schemeOf?
  simp only
  split
  case h_1 rest heq => exact absurd (List.mem_of_mem_drop (heq ▸ List.mem_cons_self)) h
  case h_2 => rfl

theorem SchemeKind.name_of_ofName {name : String} {scheme : Scheme}
    (h : SchemeKind.ofName name = .web scheme) : scheme.name = name := by
  unfold SchemeKind.ofName at h
  split at h
  case isTrue hname => cases h; exact hname.symm
  case isFalse =>
    split at h
    case isTrue hname => cases h; exact hname.symm
    case isFalse => split at h <;> [cases h; split at h <;> cases h]

/-- **An address of the web has the scheme that it begins with.** -/
theorem Address.ofScheme_eq_ok_web {name : String} {cs : List Char} {u : Url}
    (h : Address.ofScheme name cs = .ok (.web u)) : u.scheme.name = name := by
  unfold Address.ofScheme at h
  split at h
  case h_1 scheme hkind =>
    obtain ⟨w, hw, hwu⟩ := map_eq_ok h
    cases hwu
    rw [scheme_webFrom hw, SchemeKind.name_of_ofName hkind]
  case h_2 | h_3 =>
    obtain ⟨_, -, h⟩ := map_eq_ok h
    cases h
  case h_4 =>
    split at h
    · obtain ⟨_, -, h⟩ := map_eq_ok h
      cases h
    · cases h

end SigningKeys.Web
