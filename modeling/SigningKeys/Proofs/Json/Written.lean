import SigningKeys.Json.Writer
import SigningKeys.Proofs.Json.Reading
import SigningKeys.Proofs.Json.Shape
import SigningKeys.Proofs.Text.Words

/-!
# Written values

A written value is read as itself.

* `utf8`, `encode_ofList`, `decode?_encode`: characters as bytes, and back;
* `exists_letters`: a written string spells the string;
* `yields_whole`: a written integer;
* `items_written`, `fields_written`: written items and members;
* `FloatFree`, `yields_int`: values without floating-point numbers, and integers;
* **`yields_written`**: a written value is read as itself.
-/

namespace SigningKeys.Json

/-! ## Characters as bytes -/

/-- The bytes of characters. -/
def utf8 (cs : List Char) : List UInt8 := cs.flatMap String.utf8EncodeChar

theorem utf8_append (cs ds : List Char) : utf8 (cs ++ ds) = utf8 cs ++ utf8 ds :=
  List.flatMap_append

theorem utf8_cons (c : Char) (cs : List Char) :
    utf8 (c :: cs) = String.utf8EncodeChar c ++ utf8 cs := rfl

theorem toList_loop (a : ByteArray) (i : Nat) (acc : List UInt8) :
    ByteArray.toList.loop a i acc = acc.reverse ++ a.data.toList.drop i := by
  fun_induction ByteArray.toList.loop a i acc with
  | case1 i acc h ih =>
    have hi : i < a.data.toList.length := h
    have hget : a.get! i = a.data.toList[i] := getElem!_pos a.data i h
    rw [ih, List.drop_eq_getElem_cons hi, ← hget, List.reverse_cons, List.append_assoc]
    rfl
  | case2 i acc h =>
    have hi : a.data.toList.length ≤ i := Nat.le_of_not_lt h
    rw [List.drop_eq_nil_of_le hi, List.append_nil]

theorem toList_eq (a : ByteArray) : a.toList = a.data.toList := by
  rw [ByteArray.toList, toList_loop]
  rfl

theorem encode_ofList (cs : List Char) : encode (String.ofList cs) = utf8 cs := by
  rw [encode, String.toUTF8_eq_toByteArray, toList_eq, String.toByteArray_ofList, List.utf8Encode,
    List.data_toByteArray]
  rfl

theorem encode_eq (s : String) : encode s = utf8 s.toList := by
  rw [← encode_ofList, String.ofList_toList]

theorem decode?_encode (s : String) : decode? (encode s) = some s := by
  have hbytes : (⟨(encode s).toArray⟩ : ByteArray) = s.toByteArray := by
    rw [encode, String.toUTF8_eq_toByteArray, toList_eq]
  rw [decode?, hbytes, String.fromUTF8?, dif_pos s.isValidUTF8]
  rfl

/-! ## Strings -/

theorem high_le {n : Nat} (h : 128 ≤ n) (h' : n < 256) : 0x80 ≤ UInt8.ofNat n := by
  rw [UInt8.le_iff_toNat_le, UInt8.toNat_ofNat_of_lt' h']
  exact h

/-- The bytes of a character: one that is its code point, or several that are none of ASCII. -/
theorem mem_utf8EncodeChar {c : Char} {b : UInt8} (h : b ∈ String.utf8EncodeChar c) :
    (c.toNat < 0x80 ∧ b = UInt8.ofNat c.toNat) ∨ 0x80 ≤ b := by
  have hval : c.toNat = c.val.toNat := rfl
  rw [String.utf8EncodeChar.eq_1] at h
  split_ifs at h with h₁ h₂ h₃
  · exact .inl ⟨by omega, List.mem_singleton.1 h⟩
  all_goals
    simp only [List.mem_cons, List.not_mem_nil, or_false] at h
  · rcases h with rfl | rfl <;> exact .inr (high_le (by omega) (by omega))
  · rcases h with rfl | rfl | rfl <;> exact .inr (high_le (by omega) (by omega))
  · rcases h with rfl | rfl | rfl | rfl <;> exact .inr (high_le (by omega) (by omega))

/-- Letters that are written as `bs` and stand for `cs`. -/
def Spells (ls : List Letter) (bs cs : List UInt8) : Prop :=
  ls.flatMap Letter.bytes = bs ∧ ∀ ls', spell (ls ++ ls') = (spell ls').map (cs ++ ·)

theorem spells_nil : Spells [] [] [] := ⟨rfl, fun ls' => by simp⟩

theorem Spells.append {ls ms : List Letter} {bs bs' cs cs' : List UInt8} (h : Spells ls bs cs)
    (h' : Spells ms bs' cs') : Spells (ls ++ ms) (bs ++ bs') (cs ++ cs') := by
  refine ⟨by rw [List.flatMap_append, h.1, h'.1], fun ls' => ?_⟩
  rw [List.append_assoc, h.2, h'.2, Option.map_map]
  simp [Function.comp_def, List.append_assoc]

theorem spells_plain {b : UInt8} (h : 0x20 ≤ b ∧ b ≠ 0x22 ∧ b ≠ 0x5C) :
    Spells [.plain b h] [b] [b] :=
  ⟨rfl, fun _ => rfl⟩

theorem spells_short {e b : UInt8} (h : e ∈ [0x22, 0x5C, 0x2F, 0x62, 0x66, 0x6E, 0x72, 0x74])
    (hb : shortEscape? e = some b) : Spells [.short e h] [0x5C, e] [b] := by
  refine ⟨rfl, fun ls' => ?_⟩
  rw [List.singleton_append, spell, hb]
  cases spell ls' <;> rfl

theorem spells_unit {h₁ h₂ h₃ h₄ : UInt8} (h : IsHex h₁ ∧ IsHex h₂ ∧ IsHex h₃ ∧ IsHex h₄) {u : Nat}
    (hu : unit? h₁ h₂ h₃ h₄ = some u) (htrail : isTrail u = false) (hlead : isLead u = false) :
    Spells [.unit h₁ h₂ h₃ h₄ h] [0x5C, 0x75, h₁, h₂, h₃, h₄]
      (String.utf8EncodeChar (Char.ofNat u)) := by
  refine ⟨rfl, fun ls' => ?_⟩
  simp [spell, hu, htrail, hlead, bytesBack]

/-- Bytes that need no escape. -/
theorem exists_spells_plain {bs : List UInt8} (h : ∀ b ∈ bs, 0x20 ≤ b ∧ b ≠ 0x22 ∧ b ≠ 0x5C) :
    ∃ ls, Spells ls bs bs := by
  induction bs with
  | nil => exact ⟨[], spells_nil⟩
  | cons b bs ih =>
    obtain ⟨ls, hls⟩ := ih fun b' hb' => h b' (List.mem_cons_of_mem b hb')
    exact ⟨_, (spells_plain (h b List.mem_cons_self)).append hls⟩

/-- The hexadecimal digits of a control character. -/
theorem hexPadded_control : ∀ n : Fin 32,
    let a := UInt8.ofNat (Text.hexDigit (n / 16)).toNat
    let b := UInt8.ofNat (Text.hexDigit n).toNat
    utf8 (Text.hexPadded 4 n) = [0x30, 0x30, a, b] ∧ IsHex a ∧ IsHex b ∧
      unit? 0x30 0x30 a b = some n.1 := by
  decide +kernel

/-- The bytes of a character that needs no escape. -/
theorem plain_of_mem {c : Char} (hc : 0x20 ≤ c.toNat) (hquote : c ≠ '"') (hslash : c ≠ '\\')
    {b : UInt8} (hb : b ∈ String.utf8EncodeChar c) : 0x20 ≤ b ∧ b ≠ 0x22 ∧ b ≠ 0x5C := by
  rcases mem_utf8EncodeChar hb with ⟨hascii, rfl⟩ | hhigh
  · have htoNat : (UInt8.ofNat c.toNat).toNat = c.toNat :=
      UInt8.toNat_ofNat_of_lt' (Nat.lt_trans hascii (by decide))
    have hne {n : Nat} (h : c ≠ Char.ofNat n) {m : UInt8} (hm : m.toNat = n) :
        UInt8.ofNat c.toNat ≠ m := fun heq => h <| by
      rw [← hm, ← heq, htoNat, Char.ofNat_toNat]
    refine ⟨?_, hne (n := 0x22) hquote rfl, hne (n := 0x5C) hslash rfl⟩
    rw [UInt8.le_iff_toNat_le, htoNat]
    exact hc
  · refine ⟨UInt8.le_trans (by decide) hhigh, ?_, ?_⟩
    · rintro rfl
      exact absurd hhigh (by decide)
    · rintro rfl
      exact absurd hhigh (by decide)

/-- **A written character** stands for its bytes. -/
theorem exists_spells_char (c : Char) :
    ∃ ls, Spells ls (utf8 (writtenChar c)) (String.utf8EncodeChar c) := by
  unfold writtenChar
  split_ifs with hquote hslash hback htab hline hfeed hreturn hcontrol
  · obtain rfl := beq_iff_eq.1 hquote
    exact ⟨_, spells_short (e := 0x22) (by decide) rfl⟩
  · obtain rfl := beq_iff_eq.1 hslash
    exact ⟨_, spells_short (e := 0x5C) (by decide) rfl⟩
  · obtain rfl := beq_iff_eq.1 hback
    exact ⟨_, spells_short (e := 0x62) (by decide) rfl⟩
  · obtain rfl := beq_iff_eq.1 htab
    exact ⟨_, spells_short (e := 0x74) (by decide) rfl⟩
  · obtain rfl := beq_iff_eq.1 hline
    exact ⟨_, spells_short (e := 0x6E) (by decide) rfl⟩
  · obtain rfl := beq_iff_eq.1 hfeed
    exact ⟨_, spells_short (e := 0x66) (by decide) rfl⟩
  · obtain rfl := beq_iff_eq.1 hreturn
    exact ⟨_, spells_short (e := 0x72) (by decide) rfl⟩
  · obtain ⟨hdigits, ha, hb, hunit⟩ := hexPadded_control ⟨c.toNat, hcontrol⟩
    have htrail : isTrail c.toNat = false := by
      simp only [isTrail, Bool.and_eq_false_iff, decide_eq_false_iff_not]
      omega
    have hlead : isLead c.toNat = false := by
      simp only [isLead, Bool.and_eq_false_iff, decide_eq_false_iff_not]
      omega
    have hspells := spells_unit ⟨by decide, by decide, ha, hb⟩ hunit htrail hlead
    rw [utf8_append, hdigits]
    rw [Char.ofNat_toNat] at hspells
    exact ⟨_, hspells⟩
  · have hsame : utf8 [c] = String.utf8EncodeChar c := List.append_nil _
    rw [hsame]
    exact exists_spells_plain fun b hb => plain_of_mem (by omega) (fun h => hquote (by simp [h]))
      (fun h => hslash (by simp [h])) hb

theorem exists_spells_chars (cs : List Char) :
    ∃ ls, Spells ls (utf8 (cs.flatMap writtenChar)) (utf8 cs) := by
  induction cs with
  | nil => exact ⟨[], spells_nil⟩
  | cons c cs ih =>
    obtain ⟨ls, hls⟩ := ih
    obtain ⟨ms, hms⟩ := exists_spells_char c
    rw [List.flatMap_cons, utf8_append, utf8_cons]
    exact ⟨ms ++ ls, hms.append hls⟩

/-- **A written string** spells the string. -/
theorem exists_letters (s : String) :
    ∃ ls, utf8 (writtenText s) = 0x22 :: closed ls ∧ spellText ls = some s := by
  obtain ⟨ls, hbytes, hspell⟩ := exists_spells_chars s.toList
  refine ⟨ls, ?_, ?_⟩
  · rw [closed, hbytes, writtenText, utf8_append]
    rfl
  · have hspells := hspell []
    rw [List.append_nil] at hspells
    rw [spellText, hspells, spell, Option.map_some, List.append_nil, ← encode_eq]
    exact decode?_encode s

/-! ## Integers -/

/-- A decimal digit as a byte. -/
def digitByte (c : Char) : UInt8 := UInt8.ofNat c.toNat

theorem toNat_digitByte {c : Char} (h : c.isDigit = true) : (digitByte c).toNat = c.toNat := by
  have hle : c.toNat ≤ 57 := (Char.isDigit_iff_toNat.1 h).2
  exact UInt8.toNat_ofNat_of_lt' (Nat.lt_of_le_of_lt hle (by decide))

theorem isDigit_digitByte {c : Char} (h : c.isDigit = true) : isDigit (digitByte c) = true := by
  obtain ⟨hlow, hhigh⟩ := Char.isDigit_iff_toNat.1 h
  simp only [isDigit, Bool.and_eq_true, decide_eq_true_eq, UInt8.le_iff_toNat_le, toNat_digitByte h]
  exact ⟨hlow, hhigh⟩

theorem utf8_digits {cs : List Char} (h : ∀ c ∈ cs, c.isDigit = true) :
    utf8 cs = cs.map digitByte := by
  induction cs with
  | nil => rfl
  | cons c cs ih =>
    have hle : c.toNat ≤ 57 := (Char.isDigit_iff_toNat.1 (h c List.mem_cons_self)).2
    have hval : c.val.toNat ≤ 127 := Nat.le_trans hle (by decide)
    rw [utf8_cons, String.utf8EncodeChar.eq_1, if_pos hval,
      ih fun c' hc' => h c' (List.mem_cons_of_mem c hc')]
    rfl

/-- Digits whose number fits are all gathered. -/
theorem gather_eq {limit : Nat} {cs : List Char} {m : Nat} (hcs : ∀ c ∈ cs, c.isDigit = true)
    (h : Nat.ofDigitChars 10 cs m ≤ limit) :
    gather limit m (cs.map digitByte) = (Nat.ofDigitChars 10 cs m, []) := by
  induction cs generalizing m with
  | nil => rfl
  | cons c cs ih =>
    have hvalue : m * 10 + digitValue (digitByte c) = 10 * m + (c.toNat - '0'.toNat) := by
      rw [digitValue, toNat_digitByte (hcs c List.mem_cons_self), Nat.mul_comm]
      rfl
    rw [Nat.ofDigitChars_cons] at h ⊢
    rw [List.map_cons, gather, hvalue,
      if_neg (Nat.not_lt.2 (Nat.le_trans (Text.le_ofDigitChars cs _) h))]
    exact ih (fun c' hc' => hcs c' (List.mem_cons_of_mem c hc')) h

/-- Only zero begins with the digit zero. -/
theorem eq_zero_of_head?_toDigits (n : Nat) (h : (Nat.toDigits 10 n).head? = some '0') : n = 0 := by
  induction n using Nat.strongRecOn with
  | ind n ih =>
    rcases Nat.lt_or_ge n 10 with hn | hn
    · rw [Nat.toDigits_of_lt_base hn] at h
      have hzero : ∀ m : Fin 10, m.1.digitChar = '0' → m.1 = 0 := by decide
      exact hzero ⟨n, hn⟩ (Option.some.inj h)
    · obtain ⟨c, cs, hcs⟩ :=
        List.exists_cons_of_ne_nil (Nat.toDigits_ne_nil (b := 10) (n := n / 10))
      rw [Nat.toDigits_of_base_le (by decide) hn, hcs, List.cons_append, List.head?_cons] at h
      have hdiv := ih (n / 10) (Nat.div_lt_self (by omega) (by decide))
        (by rw [hcs, List.head?_cons, h])
      omega

/-- **A written whole number.** -/
theorem yields_whole (negative : Bool) {n : Nat} (h : n ≤ maxSignificand) :
    Yields (number negative) (utf8 (Nat.toDigits 10 n)) (.ok (whole negative n)) := by
  have hdigit : ∀ c ∈ Nat.toDigits 10 n, c.isDigit = true := fun c hc =>
    Nat.isDigit_of_mem_toDigits (by decide) (by decide) hc
  have hnumber : Nat.ofDigitChars 10 (Nat.toDigits 10 n) 0 = n :=
    Nat.ofDigitChars_toDigits (by decide) (by decide)
  have hgather : gather maxSignificand 0 ((Nat.toDigits 10 n).map digitByte) = (n, []) := by
    have hall := gather_eq hdigit (hnumber.symm ▸ h)
    rwa [hnumber] at hall
  intro rest hrest
  rw [utf8_digits hdigit]
  obtain ⟨c, cs, hcs⟩ := List.exists_cons_of_ne_nil (Nat.toDigits_ne_nil (b := 10) (n := n))
  -- a zero in front would be refused, but only zero itself is written with one
  have hzero : digitByte c = 0x30 → cs.map digitByte = [] := by
    intro hc
    have hchar : c = '0' := by
      have htoNat := toNat_digitByte (hdigit c (hcs ▸ List.mem_cons_self))
      rw [hc] at htoNat
      rw [← Char.ofNat_toNat c, ← htoNat]
      rfl
    have hn := eq_zero_of_head?_toDigits n (by rw [hcs, hchar]; rfl)
    subst hn
    cases hcs
    rfl
  have hds : Digits ((Nat.toDigits 10 n).map digitByte) := by
    refine ⟨fun h => Nat.toDigits_ne_nil (List.map_eq_nil_iff.1 h), fun d hd => ?_⟩
    obtain ⟨c, hc, rfl⟩ := List.mem_map.1 hd
    exact isDigit_digitByte (hdigit c hc)
  rw [hcs, List.map_cons] at hds hgather ⊢
  rw [number_append hds hzero hrest.not_isDigit, hgather, afterWhole_of_stops hrest]
  rfl

/-- The written digits of a whole number begin with one. -/
theorem exists_digit_toDigits (n : Nat) :
    ∃ b t, utf8 (Nat.toDigits 10 n) = b :: t ∧ isDigit b = true := by
  have hdigit : ∀ c ∈ Nat.toDigits 10 n, c.isDigit = true := fun c hc =>
    Nat.isDigit_of_mem_toDigits (by decide) (by decide) hc
  obtain ⟨c, cs, hcs⟩ := List.exists_cons_of_ne_nil (Nat.toDigits_ne_nil (b := 10) (n := n))
  rw [utf8_digits hdigit, hcs]
  exact ⟨_, _, rfl, isDigit_digitByte (hdigit c (hcs ▸ List.mem_cons_self))⟩

/-! ## Items and members -/

theorem utf8_charsOfItems (first : Bool) (vs : List Value) :
    utf8 (Value.charsOfItems first vs) =
      listed first ((vs.map fun v => bare (utf8 v.chars)).map Padded.bytes) := by
  induction vs generalizing first with
  | nil => rfl
  | cons v vs ih =>
    rw [Value.charsOfItems, utf8_append, utf8_append, ih, List.map_cons, List.map_cons, listed_cons,
      bytes_bare]
    cases first <;> rfl

/-- **A written member**, as a field. -/
theorem exists_field (e : String × Value) : ∃ f : Field,
    f.bytes = utf8 (writtenText e.1 ++ ':' :: e.2.chars) ∧ spellText f.name = some e.1 ∧
      f.value.core = utf8 e.2.chars := by
  obtain ⟨ls, hbytes, hspell⟩ := exists_letters e.1
  refine ⟨⟨[], ls, [], bare (utf8 e.2.chars), blank_nil, blank_nil⟩, ?_, hspell, rfl⟩
  rw [utf8_append, hbytes]
  simp [Field.bytes, Field.inner, bare, utf8_cons]
  rfl

theorem utf8_charsOfMembers {fieldOf : String × Value → Field}
    (h : ∀ e, (fieldOf e).bytes = utf8 (writtenText e.1 ++ ':' :: e.2.chars)) (first : Bool)
    (m : List (String × Value)) :
    utf8 (Value.charsOfMembers first m) = listed first ((m.map fieldOf).map Field.bytes) := by
  induction m generalizing first with
  | nil => rfl
  | cons e m ih =>
    obtain ⟨k, v⟩ := e
    rw [Value.charsOfMembers, List.map_cons, List.map_cons, listed_cons, h]
    simp only [utf8_append, ih, List.append_assoc]
    cases first <;> rfl

/-- Written items are read as what they were written for. -/
theorem items_written_of {α : Type} {r : Reader α} {f : α → Value} {as : List α}
    (hopens : ∀ a ∈ as, Opens (utf8 (f a).chars))
    (h : ∀ a ∈ as, Yields r (utf8 (f a).chars) (.ok a)) (rest : List UInt8) :
    items r (utf8 (Value.charsOfItems true (as.map f)) ++ 0x5D :: rest) = .ok (as, rest) := by
  have hcores : ∀ p ∈ as.map fun a => bare (utf8 (f a).chars), Opens p.core := by
    simpa [bare] using hopens
  have hyields : ∀ p ∈ as.map fun a => bare (utf8 (f a).chars),
      Yields r p.core (outcome r p.core) := by
    simpa [bare] using fun a ha => (h a ha).outcome_eq.symm ▸ h a ha
  have hitems := items_listed hcores hyields blank_nil rest
  have hself : as.mapM ((fun p => outcome r p.core) ∘ fun a => bare (utf8 (f a).chars)) = .ok as :=
    mapM_eq_ok_iff.2 (List.forall₂_same.2 fun a ha => (h a ha).outcome_eq)
  have hparts : (as.map f).map (fun v => bare (utf8 v.chars)) =
      as.map fun a => bare (utf8 (f a).chars) := List.map_map
  rw [List.nil_append, List.mapM_map, hself] at hitems
  rw [utf8_charsOfItems, hparts]
  exact hitems

/-- Written items are read as themselves. -/
theorem items_written {d : Nat} {vs : List Value} (hopens : ∀ v ∈ vs, Opens (utf8 v.chars))
    (h : ∀ v ∈ vs, Yields (value d) (utf8 v.chars) (.ok v)) (rest : List UInt8) :
    items (value d) (utf8 (Value.charsOfItems true vs) ++ 0x5D :: rest) = .ok (vs, rest) := by
  have hitems := items_written_of (f := id) hopens h rest
  rwa [List.map_id] at hitems

/-- A member is read behind those that were read before. -/
theorem yields_entry {d : Nat} {f : Field} {e : String × Value} (hname : spellText f.name = some e.1)
    (h : Yields (value d) f.value.core (.ok e.2)) (es : List (String × Value)) :
    Yields (named (entry d) es) f.inner (.ok (es ++ [e])) :=
  yields_named hname fun rest hrest =>
    entry_eq_ok_iff.2 ⟨e.2, h.behindColon (skipsBlank_value d) rest hrest, rfl⟩

/-- Written members are read as themselves. -/
theorem fields_written {d : Nat} {m : List (String × Value)}
    (h : ∀ e ∈ m, Yields (value d) (utf8 e.2.chars) (.ok e.2)) (rest : List UInt8) :
    fields (entry d) [] (utf8 (Value.charsOfMembers true m) ++ 0x7D :: rest) = .ok (m, rest) := by
  choose fieldOf hbytes hname hcore using exists_field
  have hentry (e : String × Value) (he : e ∈ m) (es : List (String × Value)) :
      Yields (named (entry d) es) (fieldOf e).inner (.ok (es ++ [e])) :=
    yields_entry (hname e) (hcore e ▸ h e he) es
  have hyields : ∀ f ∈ m.map fieldOf, ∀ es,
      Yields (named (entry d) es) f.inner (outcome (named (entry d) es) f.inner) := by
    intro f hf es
    obtain ⟨e, he, rfl⟩ := List.mem_map.1 hf
    exact (hentry e he es).outcome_eq.symm ▸ hentry e he es
  have hfields := fields_listed hyields [] blank_nil rest
  have hfold (es : List (String × Value)) : (m.map fieldOf).foldlM
      (fun es f => outcome (named (entry d) es) f.inner) es = .ok (es ++ m) := by
    -- for any members that were read before, as they are put behind them
    clear hfields hyields h
    induction m generalizing es with
    | nil => rw [List.append_nil]; rfl
    | cons e m ih =>
      rw [List.map_cons, List.foldlM_cons, (hentry e List.mem_cons_self es).outcome_eq]
      have hrest := ih (fun e' he' => hentry e' (List.mem_cons_of_mem e he')) (es ++ [e])
      rw [List.append_assoc] at hrest
      exact hrest
  rw [List.nil_append, ← utf8_charsOfMembers hbytes, hfold] at hfields
  exact hfields

/-! ## Values -/

/-- A value without floating-point numbers. -/
inductive FloatFree : Value → Prop
  | null : FloatFree .null
  | bool (b : Bool) : FloatFree (.bool b)
  | int (n : Int) : FloatFree (.num (.int n))
  | str (s : String) : FloatFree (.str s)
  | arr {vs : List Value} (h : ∀ v ∈ vs, FloatFree v) : FloatFree (.arr vs)
  | obj {m : Members} (h : ∀ e ∈ m, FloatFree e.2) : FloatFree (.obj m)

theorem render_ofNat (n : Nat) : (Number.int n).render = Nat.toDigits 10 n :=
  Nat.toList_repr

theorem render_negSucc (n : Nat) :
    (Number.int (.negSucc n)).render = '-' :: Nat.toDigits 10 (n + 1) := by
  have hrepr : (Number.int (.negSucc n)).render = ("-" ++ Nat.repr (n + 1)).toList := rfl
  rw [hrepr, String.toList_append, Nat.toList_repr]
  rfl

theorem utf8_chars_arr (vs : List Value) :
    utf8 (Value.arr vs).chars = 0x5B :: (utf8 (Value.charsOfItems true vs) ++ [0x5D]) := by
  rw [Value.chars, utf8_append]
  rfl

theorem utf8_chars_obj (m : Members) :
    utf8 (Value.obj m).chars = 0x7B :: (utf8 (Value.charsOfMembers true m) ++ [0x7D]) := by
  rw [Value.chars, utf8_append]
  rfl

/-- A written value begins with neither a blank nor a closing bracket. -/
theorem opens_written {v : Value} (h : FloatFree v) : Opens (utf8 v.chars) := by
  cases h with
  | null => exact ⟨0x6E, nullRest, by decide +kernel, rfl, by decide⟩
  | bool b =>
    cases b with
    | true => exact ⟨0x74, trueRest, by decide +kernel, rfl, by decide⟩
    | false => exact ⟨0x66, falseRest, by decide +kernel, rfl, by decide⟩
  | int n =>
    cases n with
    | ofNat n =>
      obtain ⟨b, t, hbt, hb⟩ := exists_digit_toDigits n
      exact ⟨b, t, (congrArg utf8 (render_ofNat n)).trans hbt, isBlankByte_of_isDigit hb,
        isDigit_ne hb rfl⟩
    | negSucc n =>
      exact ⟨0x2D, utf8 (Nat.toDigits 10 (n + 1)), congrArg utf8 (render_negSucc n), rfl,
        by decide⟩
  | str s =>
    obtain ⟨ls, hbytes, -⟩ := exists_letters s
    exact ⟨0x22, closed ls, hbytes, rfl, by decide⟩
  | arr => exact ⟨0x5B, _, rfl, rfl, by decide⟩
  | obj => exact ⟨0x7B, _, rfl, rfl, by decide⟩

/-- What a value is, by its first byte. -/
theorem yields_of_valueCase {depth : Nat} {b : UInt8} {t bs : List UInt8} {v : Value}
    (hbs : bs = b :: t) (hb : isBlankByte b = false)
    (h : ∀ rest, Stops rest → ValueCase depth b (t ++ rest) v rest) :
    Yields (value depth) bs (.ok v) := fun rest hrest => by
  subst hbs
  exact value_eq_ok_iff.2 ⟨b, t ++ rest, skipBlank_cons_of_not_blank hb _, h rest hrest⟩

/-- **A written integer is read as itself.** -/
theorem yields_int {n : Int} (h : (Number.int n).InRange) (depth : Nat) :
    Yields (value depth) (utf8 (Number.int n).render) (.ok (.num (.int n))) := by
  obtain ⟨hlow, hhigh⟩ := h
  cases n with
  | ofNat n =>
    have hmax : n ≤ maxSignificand := by
      have hn : ((n : Nat) : Int) ≤ 18446744073709551615 := hhigh
      exact Int.ofNat_le.1 hn
    obtain ⟨b, t, hbt, hb⟩ := exists_digit_toDigits n
    refine yields_of_valueCase ((congrArg utf8 (render_ofNat n)).trans hbt)
      (isBlankByte_of_isDigit hb) fun rest hrest => .above hb ?_
    rw [← List.cons_append, ← hbt]
    exact yields_whole false hmax rest hrest
  | negSucc n =>
    have hmin : n + 1 ≤ 9223372036854775808 := by omega
    have hwhole : whole true (n + 1) = .int (.negSucc n) := by
      rw [whole, if_neg (by decide), if_pos (by simp [hmin])]
      rfl
    refine yields_of_valueCase (t := utf8 (Nat.toDigits 10 (n + 1)))
      (congrArg utf8 (render_negSucc n)) rfl fun rest hrest => .below ?_
    rw [← hwhole]
    exact yields_whole true (Nat.le_trans hmin (by decide)) rest hrest

/-- **A written value is read as itself.** -/
theorem yields_written {n : Nat} {v : Value} (h : Shaped n v) (hfree : FloatFree v) :
    Yields (value n) (utf8 v.chars) (.ok v) := by
  induction h with
  | null =>
    exact yields_of_valueCase (t := nullRest) (by decide +kernel) rfl
      fun rest _ => .null (keyword_append nullRest rest)
  | bool b =>
    cases b with
    | true =>
      exact yields_of_valueCase (t := trueRest) (by decide +kernel) rfl
        fun rest _ => .yes (keyword_append trueRest rest)
    | false =>
      exact yields_of_valueCase (t := falseRest) (by decide +kernel) rfl
        fun rest _ => .no (keyword_append falseRest rest)
  | num hrange =>
    cases hfree with
    | int n => exact yields_int hrange _
  | str s =>
    obtain ⟨ls, hbytes, hspell⟩ := exists_letters s
    exact yields_of_valueCase hbytes rfl fun rest _ => .str (text_closed hspell rest)
  | @arr n vs _ ih =>
    cases hfree with
    | arr hfree =>
      refine yields_of_valueCase (utf8_chars_arr vs) rfl fun rest _ => .arr ?_
      rw [List.append_assoc]
      exact items_written (fun v hv => opens_written (hfree v hv))
        (fun v hv => ih v hv (hfree v hv)) rest
  | @obj n m hm _ ih =>
    cases hfree with
    | obj hfree =>
      refine yields_of_valueCase (utf8_chars_obj m) rfl fun rest _ =>
        .obj ((fields_keepLast_eq_ok_iff n).2 ⟨m, ?_, Members.ofList_of_perm hm (.refl m)⟩)
      rw [List.append_assoc]
      exact fields_written (fun e he => ih e he (hfree e he)) rest

end SigningKeys.Json
