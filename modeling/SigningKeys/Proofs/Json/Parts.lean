import SigningKeys.Proofs.Json.Grammar
import SigningKeys.Proofs.Json.Typed

/-!
# Reading words, numbers and strings

What is read of a well-formed number or string does not depend on what follows it.

* `Stops`: what may follow a value;
* `Yields`: what a reader makes of a part of a text, whatever follows it;
* `yields_number`: numbers;
* **`exists_textBytes_closed`**, `exists_text_closed`: a string is read as what its letters stand
  for.
-/

namespace SigningKeys.Json

/-! ## Blanks and ends -/

theorem skipBlank_append {gap : List UInt8} (h : Blank gap) (bs : List UInt8) :
    skipBlank (gap ++ bs) = skipBlank bs :=
  List.dropWhile_append_of_pos h

/-- **The text ends, or goes on with a blank, a comma or a closing bracket.** -/
def Stops (rest : List UInt8) : Prop :=
  ∀ b ∈ rest.head?, b ∈ [0x20, 0x0A, 0x09, 0x0D, 0x2C, 0x5D, 0x7D]

theorem stops_nil : Stops [] := fun _ h => (by cases h)

theorem stops_cons {b : UInt8} (h : b ∈ [0x20, 0x0A, 0x09, 0x0D, 0x2C, 0x5D, 0x7D])
    (rest : List UInt8) : Stops (b :: rest) := fun c hc => by
  cases hc
  exact h

theorem Stops.blank_append {rest : List UInt8} (h : Stops rest) {gap : List UInt8}
    (hgap : Blank gap) : Stops (gap ++ rest) := by
  cases gap with
  | nil => exact h
  | cons b gap =>
    refine stops_cons ?_ _
    have hb := hgap b List.mem_cons_self
    simp only [isBlankByte, Bool.or_eq_true, beq_iff_eq] at hb
    rcases hb with ((rfl | rfl) | rfl) | rfl <;> simp

theorem Stops.head_ne {b : UInt8} {rest : List UInt8} (h : Stops (b :: rest)) {c : UInt8}
    (hc : c ∉ [0x20, 0x0A, 0x09, 0x0D, 0x2C, 0x5D, 0x7D]) : b ≠ c :=
  fun heq => hc (heq ▸ h b rfl)

theorem Stops.not_isDigit {rest : List UInt8} (h : Stops rest) :
    ∀ b ∈ rest.head?, isDigit b = false := by
  intro b hb
  have := h b hb
  simp only [List.mem_cons, List.not_mem_nil, or_false] at this
  rcases this with rfl | rfl | rfl | rfl | rfl | rfl | rfl <;> rfl

/-- What `r` makes of a part of a text, whatever follows it. -/
def Yields {α : Type} (r : Reader α) (bs : List UInt8) (x : Except Fault α) : Prop :=
  ∀ rest, Stops rest → r (bs ++ rest) = x.map (·, rest)

theorem keyword_append (word rest : List UInt8) : keyword word (word ++ rest) = .ok rest := by
  induction word with
  | nil => cases rest <;> rfl
  | cons w ws ih => rw [List.cons_append, keyword, if_pos rfl, ih]

/-! ## Numbers -/

theorem digits_append {ds rest : List UInt8} (hds : ∀ d ∈ ds, isDigit d = true)
    (hrest : ∀ b ∈ rest.head?, isDigit b = false) : digits (ds ++ rest) = (ds, rest) := by
  have hnone : rest.takeWhile isDigit = [] ∧ rest.dropWhile isDigit = rest := by
    cases rest with
    | nil => exact ⟨rfl, rfl⟩
    | cons b rest => simp [hrest b rfl]
  rw [digits, List.takeWhile_append_of_pos hds, List.dropWhile_append_of_pos hds, hnone.1, hnone.2,
    List.append_nil]

theorem Digits.append {ds rest : List UInt8} (h : Digits ds) (hrest : Stops rest) :
    digits (ds ++ rest) = (ds, rest) :=
  digits_append h.2 hrest.not_isDigit

theorem Exponent.not_isDigit {es : List UInt8} (h : Exponent es) {rest : List UInt8}
    (hrest : Stops rest) : ∀ b ∈ (es ++ rest).head?, isDigit b = false := by
  cases h with
  | none => exact hrest.not_isDigit
  | some he =>
    intro b hb
    cases hb
    rcases he with rfl | rfl <;> rfl

theorem Tail.not_isDigit {es : List UInt8} (h : Tail es) {rest : List UInt8}
    (hrest : Stops rest) : ∀ b ∈ (es ++ rest).head?, isDigit b = false := by
  cases h with
  | whole hes => exact hes.not_isDigit hrest
  | fraction =>
    intro b hb
    cases hb
    rfl

/-- An exponent after its sign. -/
def exponentDigits (negative : Bool) (significand : Nat) (exponent : Int) (down : Bool) :
    Reader Number := fun bs =>
  match digits bs with
  | ([], []) => .error .endOfValue
  | ([], _ :: _) => .error .badNumber
  | (ds, rest) =>
    match gather maxExponent 0 ds with
    | (e, []) =>
      (scaled negative significand (if down then exponent - e else exponent + e)).map (·, rest)
    | (_, _ :: _) =>
      if significand ≠ 0 && !down then .error .numberTooLarge
      else .ok (.float (Binary64.ofFloat negative 0), rest)

section

variable (negative : Bool) (significand : Nat) (exponent : Int)

theorem exponentPart_digit {d : UInt8} (hd : isDigit d = true) (bs : List UInt8) :
    exponentPart negative significand exponent (d :: bs) =
      exponentDigits negative significand exponent false (d :: bs) := by
  have hplus : d ≠ 0x2B := isDigit_ne hd rfl
  have hminus : d ≠ 0x2D := isDigit_ne hd rfl
  simp only [exponentPart, List.cons.injEq, hplus, hminus, false_and, imp_self, implies_true]
  rfl

theorem yields_exponentDigits (down : Bool) {ds : List UInt8} (hds : Digits ds) :
    ∃ x, Yields (exponentDigits negative significand exponent down) ds x := by
  obtain ⟨d, ds, rfl⟩ := List.exists_cons_of_ne_nil hds.1
  cases hgather : gather maxExponent 0 (d :: ds) with
  | mk e left =>
    cases left with
    | nil =>
      refine ⟨scaled negative significand (if down then exponent - e else exponent + e),
        fun rest hrest => ?_⟩
      simp only [exponentDigits, hds.append hrest, hgather]
    | cons =>
      refine ⟨if significand ≠ 0 && !down then .error .numberTooLarge
        else .ok (.float (Binary64.ofFloat negative 0)), fun rest hrest => ?_⟩
      simp only [exponentDigits, hds.append hrest, hgather]
      split <;> rfl

theorem yields_exponentPart {sign ds : List UInt8}
    (hsign : sign = [] ∨ sign = [0x2B] ∨ sign = [0x2D]) (hds : Digits ds) :
    ∃ x, Yields (exponentPart negative significand exponent) (sign ++ ds) x := by
  rcases hsign with rfl | rfl | rfl
  · obtain ⟨x, hx⟩ := yields_exponentDigits negative significand exponent false hds
    obtain ⟨d, ds, rfl⟩ := List.exists_cons_of_ne_nil hds.1
    exact ⟨x, fun rest hrest => (exponentPart_digit negative significand exponent
      (hds.2 d List.mem_cons_self) (ds ++ rest)).trans (hx rest hrest)⟩
  · exact yields_exponentDigits negative significand exponent false hds
  · exact yields_exponentDigits negative significand exponent true hds

theorem afterFraction_of_stops {rest : List UInt8} (h : Stops rest) :
    afterFraction negative significand exponent rest =
      (scaled negative significand exponent).map (·, rest) := by
  unfold afterFraction
  split
  case h_1 => exact absurd rfl (h.head_ne (c := 0x65) (by decide))
  case h_2 => exact absurd rfl (h.head_ne (c := 0x45) (by decide))
  case h_3 => rfl

theorem yields_afterFraction {es : List UInt8} (h : Exponent es) :
    ∃ x, Yields (afterFraction negative significand exponent) es x := by
  cases h with
  | none => exact ⟨_, fun rest hrest => afterFraction_of_stops _ _ _ hrest⟩
  | some he hsign hds =>
    rcases he with rfl | rfl <;> exact yields_exponentPart negative significand exponent hsign hds

theorem yields_fractionPart {ds es : List UInt8} (hds : Digits ds) (hes : Exponent es) :
    ∃ x, Yields (fractionPart negative significand exponent) (ds ++ es) x := by
  obtain ⟨d, ds, rfl⟩ := List.exists_cons_of_ne_nil hds.1
  cases hgather : gather maxSignificand significand (d :: ds) with
  | mk s left =>
    obtain ⟨x, hx⟩ := yields_afterFraction negative s
      (exponent - (((d :: ds).length - left.length : Nat) : Int)) hes
    refine ⟨x, fun rest hrest => ?_⟩
    have hdigits := digits_append hds.2 (hes.not_isDigit hrest)
    rw [List.append_assoc, fractionPart, hdigits]
    dsimp only
    rw [hgather]
    exact hx rest hrest

end

/-- A whole number that fits ends where the text does. -/
theorem afterWhole_of_stops {rest : List UInt8} (h : Stops rest) (negative : Bool)
    (significand dropped : Nat) :
    afterWhole negative significand dropped rest =
      (if dropped = 0 then .ok (whole negative significand)
        else scaled negative significand dropped).map (·, rest) := by
  unfold afterWhole
  split
  case h_1 => exact absurd rfl (h.head_ne (c := 0x2E) (by decide))
  case h_2 => exact absurd rfl (h.head_ne (c := 0x65) (by decide))
  case h_3 => exact absurd rfl (h.head_ne (c := 0x45) (by decide))
  case h_4 => split <;> rfl

theorem yields_afterWhole (negative : Bool) (significand dropped : Nat) {es : List UInt8}
    (h : Tail es) : ∃ x, Yields (afterWhole negative significand dropped) es x := by
  cases h with
  | fraction hds hes => exact yields_fractionPart negative significand dropped hds hes
  | whole hes =>
    cases hes with
    | none => exact ⟨_, fun rest hrest => afterWhole_of_stops hrest negative significand dropped⟩
    | some he hsign hds =>
      rcases he with rfl | rfl <;> exact yields_exponentPart negative significand dropped hsign hds

theorem not_leading_zero {d : UInt8} {ds : List UInt8} (hzero : d = 0x30 → ds = []) :
    ¬(decide (d = 0x30) && !ds.isEmpty) = true := by
  intro h
  obtain ⟨hd, hne⟩ := Bool.and_eq_true_iff.1 h
  simp [hzero (of_decide_eq_true hd)] at hne

/-- What is read of digits with no zero in front. -/
theorem number_append {d : UInt8} {ds bs : List UInt8} (hds : Digits (d :: ds))
    (hzero : d = 0x30 → ds = []) (hbs : ∀ b ∈ bs.head?, isDigit b = false) (negative : Bool) :
    number negative (d :: ds ++ bs) =
      afterWhole negative (gather maxSignificand 0 (d :: ds)).1
        (gather maxSignificand 0 (d :: ds)).2.length bs := by
  rw [number, digits_append hds.2 hbs]
  dsimp only
  rw [if_neg (not_leading_zero hzero)]

/-- **What is read of a number does not depend on what follows it.** -/
theorem yields_number (negative : Bool) {bs : List UInt8} (h : Unsigned bs) :
    ∃ x, Yields (number negative) bs x := by
  cases h with
  | mk hds hzero hes =>
    obtain ⟨x, hx⟩ := yields_afterWhole negative _ _ hes
    refine ⟨x, fun rest hrest => ?_⟩
    rw [List.append_assoc, number_append hds hzero (hes.not_isDigit hrest)]
    exact hx rest hrest

/-! ## Strings -/

/-- A byte as a character. -/
theorem toNat_ofNat_byte (b : UInt8) : (Char.ofNat b.toNat).toNat = b.toNat := by
  have hb : b.toNat < 256 := b.toNat_lt
  have hvalid : b.toNat.isValidChar := .inl (by omega)
  rw [Char.ofNat, dif_pos hvalid]
  rfl

theorem exists_hexByte? {b : UInt8} (h : IsHex b) : ∃ n, hexByte? b = some n := by
  simp only [IsHex, UInt8.le_iff_toNat_le] at h
  simp only [hexByte?, Unicode.hexValue?, toNat_ofNat_byte]
  split_ifs with hdigit hupper hlower
  · exact ⟨_, rfl⟩
  · exact ⟨_, rfl⟩
  · exact ⟨_, rfl⟩
  · simp at hdigit hupper hlower h
    omega

theorem exists_shortEscape? {e : UInt8}
    (h : e ∈ [0x22, 0x5C, 0x2F, 0x62, 0x66, 0x6E, 0x72, 0x74]) : ∃ c, shortEscape? e = some c := by
  simp only [List.mem_cons, List.not_mem_nil, or_false] at h
  rcases h with rfl | rfl | rfl | rfl | rfl | rfl | rfl | rfl <;> exact ⟨_, rfl⟩

/-- The letter of a code unit is no short escape. -/
theorem shortEscape?_u : shortEscape? 0x75 = none := rfl

theorem exists_unit? {h₁ h₂ h₃ h₄ : UInt8} (h : IsHex h₁ ∧ IsHex h₂ ∧ IsHex h₃ ∧ IsHex h₄) :
    ∃ u, unit? h₁ h₂ h₃ h₄ = some u := by
  obtain ⟨a, ha⟩ := exists_hexByte? h.1
  obtain ⟨b, hb⟩ := exists_hexByte? h.2.1
  obtain ⟨c, hc⟩ := exists_hexByte? h.2.2.1
  obtain ⟨d, hd⟩ := exists_hexByte? h.2.2.2
  exact ⟨_, by rw [unit?, ha, hb, hc, hd]⟩

section

variable (acc : List UInt8)

/-- A byte that opens no escape. -/
theorem textBytes_cons {b : UInt8} (h : b ≠ 0x5C) (rest : List UInt8) :
    textBytes acc (b :: rest) =
      if b = 0x22 then .ok (acc.reverse, rest)
      else if b < 0x20 then .error .controlCharacter
      else textBytes (b :: acc) rest := by
  rw [textBytes.eq_def]
  dsimp only
  rw [if_neg h]

theorem textBytes_quote (rest : List UInt8) :
    textBytes acc (0x22 :: rest) = .ok (acc.reverse, rest) :=
  (textBytes_cons acc (by decide) rest).trans (if_pos rfl)

theorem textBytes_plain {b : UInt8} (h : 0x20 ≤ b ∧ b ≠ 0x22 ∧ b ≠ 0x5C) (rest : List UInt8) :
    textBytes acc (b :: rest) = textBytes (b :: acc) rest := by
  rw [textBytes_cons acc h.2.2, if_neg h.2.1, if_neg (UInt8.not_lt.2 h.1)]

theorem textBytes_short {e c : UInt8} (h : shortEscape? e = some c) (rest : List UInt8) :
    textBytes acc (0x5C :: e :: rest) = textBytes (c :: acc) rest := by
  rw [textBytes.eq_def]
  dsimp only
  rw [if_neg (by decide), if_pos rfl, h]

/-- What is made of the bytes after the escape of a leading surrogate: the other half comes next,
as an escape too. -/
def otherHalf (u : Nat) : Reader (List UInt8)
  | [] => .error .endOfString
  | s :: rest =>
    if s = 0x5C then
      match rest with
      | [] => .error .endOfString
      | t :: rest =>
        if t = 0x75 then
          match rest with
          | k₁ :: k₂ :: k₃ :: k₄ :: rest =>
            match unit? k₁ k₂ k₃ k₄ with
            | none => .error .badEscape
            | some v =>
              if isTrail v then textBytes (bytesBack (ofPair u v) ++ acc) rest
              else .error .loneSurrogate
          | _ => .error .endOfString
        else .error .missingSurrogate
    else .error .missingSurrogate

section

variable {h₁ h₂ h₃ h₄ : UInt8} {u : Nat} (h : unit? h₁ h₂ h₃ h₄ = some u)

include h

/-- What is made of the escape of a code unit. -/
theorem textBytes_code (rest : List UInt8) :
    textBytes acc (0x5C :: 0x75 :: h₁ :: h₂ :: h₃ :: h₄ :: rest) =
      if isTrail u then .error .loneSurrogate
      else if isLead u then otherHalf acc u rest
      else textBytes (bytesBack u ++ acc) rest := by
  rw [textBytes.eq_def]
  dsimp only
  rw [if_neg (by decide), if_pos rfl, shortEscape?_u]
  dsimp only
  rw [if_pos rfl, h]
  rfl

theorem textBytes_trail (htrail : isTrail u = true) (rest : List UInt8) :
    textBytes acc (0x5C :: 0x75 :: h₁ :: h₂ :: h₃ :: h₄ :: rest) = .error .loneSurrogate :=
  (textBytes_code acc h rest).trans (if_pos htrail)

theorem textBytes_unit (htrail : isTrail u = false) (hlead : isLead u = false)
    (rest : List UInt8) :
    textBytes acc (0x5C :: 0x75 :: h₁ :: h₂ :: h₃ :: h₄ :: rest) =
      textBytes (bytesBack u ++ acc) rest := by
  rw [textBytes_code acc h, htrail, hlead]
  rfl

theorem textBytes_lead (htrail : isTrail u = false) (hlead : isLead u = true)
    (rest : List UInt8) :
    textBytes acc (0x5C :: 0x75 :: h₁ :: h₂ :: h₃ :: h₄ :: rest) = otherHalf acc u rest := by
  rw [textBytes_code acc h, htrail, hlead]
  rfl

end

theorem otherHalf_pair {k₁ k₂ k₃ k₄ : UInt8} {u v : Nat} (hv : unit? k₁ k₂ k₃ k₄ = some v)
    (rest : List UInt8) :
    otherHalf acc u (0x5C :: 0x75 :: k₁ :: k₂ :: k₃ :: k₄ :: rest) =
      if isTrail v then textBytes (bytesBack (ofPair u v) ++ acc) rest
      else .error .loneSurrogate := by
  simp only [otherHalf, if_true, hv]

theorem otherHalf_alone (u : Nat) {b : UInt8} (hb : b ≠ 0x5C) (rest : List UInt8) :
    otherHalf acc u (b :: rest) = .error .missingSurrogate :=
  if_neg hb

theorem otherHalf_escaped (u : Nat) {e : UInt8} (he : e ≠ 0x75) (rest : List UInt8) :
    otherHalf acc u (0x5C :: e :: rest) = .error .missingSurrogate := by
  simp only [otherHalf, if_true, if_neg he]

end

theorem closed_cons (l : Letter) (ls : List Letter) : closed (l :: ls) = l.bytes ++ closed ls := by
  simp [closed]

/-- Letters in front of others, and the bytes that they stand for. -/
theorem textBytes_front {ls ls' : List Letter} {front bs : List UInt8}
    {x : Except Fault (List UInt8)} (hfront : closed ls' = front ++ closed ls)
    (hbs : ∀ acc rest, textBytes acc (front ++ rest) = textBytes (bs.reverse ++ acc) rest)
    (hx : ∀ acc rest, textBytes acc (closed ls ++ rest) = x.map fun cs => (acc.reverse ++ cs, rest))
    (acc rest : List UInt8) :
    textBytes acc (closed ls' ++ rest) =
      (x.map (bs ++ ·)).map fun cs => (acc.reverse ++ cs, rest) := by
  rw [hfront, List.append_assoc, hbs, hx]
  cases x with
  | error f => rfl
  | ok cs => simp [Except.map, List.append_assoc]

/-- **A string is read as what its letters stand for**, or not at all. -/
theorem exists_textBytes_closed : ∀ ls : List Letter, ∃ x : Except Fault (List UInt8),
    x.toOption = spell ls ∧
      ∀ acc rest, textBytes acc (closed ls ++ rest) = x.map fun bs => (acc.reverse ++ bs, rest)
  | [] => ⟨.ok [], rfl, fun acc rest => by
      simp [closed, textBytes_quote, Except.map]⟩
  | .plain b h :: ls => by
    obtain ⟨x, hspell, hx⟩ := exists_textBytes_closed ls
    refine ⟨x.map ([b] ++ ·), ?_, textBytes_front (closed_cons _ ls)
      (fun acc rest => textBytes_plain acc h rest) hx⟩
    rw [toOption_map, hspell]
    rfl
  | .short e h :: ls => by
    obtain ⟨x, hspell, hx⟩ := exists_textBytes_closed ls
    obtain ⟨c, hc⟩ := exists_shortEscape? h
    refine ⟨x.map ([c] ++ ·), ?_, textBytes_front (closed_cons _ ls)
      (fun acc rest => textBytes_short acc hc rest) hx⟩
    rw [toOption_map, hspell, spell, hc]
    cases spell ls <;> rfl
  | .unit h₁ h₂ h₃ h₄ h :: ls => by
    obtain ⟨u, hu⟩ := exists_unit? h
    cases htrail : isTrail u with
    | true =>
      refine ⟨.error .loneSurrogate, ?_, fun acc rest => ?_⟩
      · simp [spell, hu, htrail, Except.toOption]
      · exact textBytes_trail acc hu htrail _
    | false =>
      cases hlead : isLead u with
      | false =>
        obtain ⟨x, hspell, hx⟩ := exists_textBytes_closed ls
        refine ⟨x.map ((bytesBack u).reverse ++ ·), ?_, textBytes_front (closed_cons _ ls)
          (fun acc rest => ?_) hx⟩
        · rw [toOption_map, hspell]
          simp [spell, hu, htrail, hlead]
        · rw [List.reverse_reverse]
          exact textBytes_unit acc hu htrail hlead rest
      | true =>
        have hfirst := fun acc rest => textBytes_lead acc hu htrail hlead rest
        match ls with
        | [] =>
          refine ⟨.error .missingSurrogate, ?_, fun acc rest => ?_⟩
          · simp [spell, hu, htrail, hlead, Except.toOption]
          · exact (hfirst acc _).trans (otherHalf_alone acc u (by decide) rest)
        | .plain b hb :: ls =>
          refine ⟨.error .missingSurrogate, ?_, fun acc rest => ?_⟩
          · simp [spell, hu, htrail, hlead, Except.toOption]
          · exact (hfirst acc _).trans (otherHalf_alone acc u hb.2.2 _)
        | .short e he :: ls =>
          have hne : e ≠ 0x75 := fun heq => absurd (heq ▸ he) (by decide)
          refine ⟨.error .missingSurrogate, ?_, fun acc rest => ?_⟩
          · simp [spell, hu, htrail, hlead, Except.toOption]
          · exact (hfirst acc _).trans (otherHalf_escaped acc u hne _)
        | .unit k₁ k₂ k₃ k₄ hk :: ls =>
          obtain ⟨v, hv⟩ := exists_unit? hk
          -- the two units make one code point
          have hclosed : closed (.unit h₁ h₂ h₃ h₄ h :: .unit k₁ k₂ k₃ k₄ hk :: ls) =
              [0x5C, 0x75, h₁, h₂, h₃, h₄, 0x5C, 0x75, k₁, k₂, k₃, k₄] ++ closed ls := by
            rw [closed_cons, closed_cons]
            rfl
          cases hsecond : isTrail v with
          | false =>
            refine ⟨.error .loneSurrogate, ?_, fun acc rest => ?_⟩
            · simp [spell, hu, htrail, hlead, hv, hsecond, Except.toOption]
            · refine ((hfirst acc _).trans (otherHalf_pair acc hv _)).trans ?_
              exact if_neg (ne_true_of_eq_false hsecond)
          | true =>
            obtain ⟨x, hspell, hx⟩ := exists_textBytes_closed ls
            refine ⟨x.map ((bytesBack (ofPair u v)).reverse ++ ·), ?_,
              textBytes_front hclosed (fun acc rest => ?_) hx⟩
            · rw [toOption_map, hspell]
              simp [spell, hu, htrail, hlead, hv, hsecond]
            · rw [List.reverse_reverse]
              refine ((hfirst acc _).trans (otherHalf_pair acc hv rest)).trans ?_
              exact if_pos hsecond

theorem exists_text_closed (ls : List Letter) : ∃ x : Except Fault String,
    x.toOption = spellText ls ∧ ∀ rest, text (closed ls ++ rest) = x.map (·, rest) := by
  obtain ⟨x, hspell, hx⟩ := exists_textBytes_closed ls
  rw [spellText, ← hspell]
  cases x with
  | error f => exact ⟨.error f, rfl, fun rest => by simp [text, hx, Except.map, bind, Except.bind]⟩
  | ok bs =>
    cases hdecode : decode? bs with
    | none =>
      refine ⟨.error .badUtf8, hdecode.symm, fun rest => ?_⟩
      simp [text, hx, Except.map, bind, Except.bind, hdecode]
    | some s =>
      refine ⟨.ok s, hdecode.symm, fun rest => ?_⟩
      simp [text, hx, Except.map, bind, Except.bind, hdecode]

theorem text_closed {ls : List Letter} {s : String} (h : spellText ls = some s)
    (rest : List UInt8) : text (closed ls ++ rest) = .ok (s, rest) := by
  obtain ⟨x, hspell, hx⟩ := exists_text_closed ls
  rw [h] at hspell
  cases x with
  | error => cases hspell
  | ok t =>
    obtain rfl := Option.some.inj hspell
    exact hx rest

end SigningKeys.Json
