import SigningKeys.Proofs.Text.Words
import SigningKeys.Settings.Environment

/-!
# The texts of values

What a text has to look like for a value to be read from it, and what is wrong with a text from
which none can be read.

* `Numeral`, `NoNumeral`: the words for numbers, and what is wrong with other words;
* `readNumber_eq_ok_iff`, `readNumber_eq_error_iff`: numbers are read from the ones, and what is
  wrong is told of the others;
* `SpellsBoolean`, `SpellsNumber`, `NoNumber`: texts, which are words with white space around them;
* `readBoolean_trimBlank`, `readNumber_trimBlank`: values are read from texts.
-/

namespace SigningKeys.Settings

open Text (Trims isBlank trimBlank)

/-- **The words for numbers**: decimal digits, with a plus sign before them or not. -/
inductive Numeral : List Char → Nat → Prop
  | unsigned {ds : List Char} (hne : ds ≠ []) (hds : ∀ c ∈ ds, c.isDigit = true) :
    Numeral ds (Nat.ofDigitChars 10 ds 0)
  | signed {ds : List Char} (hne : ds ≠ []) (hds : ∀ c ∈ ds, c.isDigit = true) :
    Numeral ('+' :: ds) (Nat.ofDigitChars 10 ds 0)

/-- What is wrong with the digits after those that make up `n`: one of them is none, or the ones up
to somewhere make up a number that is too large. What comes first counts. -/
inductive Derails (n : Nat) (ds : List Char) : ValueFault → Prop
  | badDigit (front rest : List Char) {c : Char} (hds : ds = front ++ c :: rest)
    (hfront : ∀ d ∈ front, d.isDigit = true) (hle : Nat.ofDigitChars 10 front n ≤ maxNumber)
    (hc : c.isDigit = false) : Derails n ds .badDigit
  | tooLarge (front rest : List Char) (hds : ds = front ++ rest)
    (hfront : ∀ d ∈ front, d.isDigit = true) (hlt : maxNumber < Nat.ofDigitChars 10 front n) :
    Derails n ds .tooLarge

/-- **What is wrong with a word that is to be a number** of 64 bits. -/
inductive NoNumeral : List Char → ValueFault → Prop
  | empty : NoNumeral [] .empty
  | sign : NoNumeral ['+'] .badDigit
  | unsigned {c : Char} {ds : List Char} {f : ValueFault} (hc : c ≠ '+')
    (h : Derails 0 (c :: ds) f) : NoNumeral (c :: ds) f
  | signed {c : Char} {ds : List Char} {f : ValueFault} (h : Derails 0 (c :: ds) f) :
    NoNumeral ('+' :: c :: ds) f

/-! ## Digits -/

section Digits

variable {n m : Nat} {c : Char} {ds : List Char} {f : ValueFault}

theorem readDigits_cons (hc : c.isDigit = true) :
    readDigits n (c :: ds) =
      if maxNumber < 10 * n + (c.toNat - '0'.toNat) then .error .tooLarge
      else readDigits (10 * n + (c.toNat - '0'.toNat)) ds := by
  rw [readDigits, if_pos hc, Nat.mul_comm n 10]
  rfl

theorem readDigits_eq_ok_iff (hn : n ≤ maxNumber) :
    readDigits n ds = .ok m ↔
      (∀ d ∈ ds, d.isDigit = true) ∧ Nat.ofDigitChars 10 ds n = m ∧ m ≤ maxNumber := by
  induction ds generalizing n with
  | nil =>
    rw [readDigits, Nat.ofDigitChars_nil, Except.ok.injEq]
    constructor
    · rintro rfl
      exact ⟨fun d hd => absurd hd List.not_mem_nil, rfl, hn⟩
    · exact fun h => h.2.1
  | cons c ds ih =>
    rw [List.forall_mem_cons, Nat.ofDigitChars_cons]
    by_cases hc : c.isDigit = true
    · rw [readDigits_cons hc]
      split
      · next hlt =>
        have hle := Text.le_ofDigitChars ds (10 * n + (c.toNat - '0'.toNat))
        refine ⟨fun h => (by cases h), ?_⟩
        rintro ⟨-, rfl, hm⟩
        omega
      · next hlt =>
        rw [ih (Nat.not_lt.1 hlt)]
        simp [hc]
    · rw [readDigits, if_neg hc]
      simp [hc]

/-- What is too large already stays so. -/
theorem derails_of_lt (hn : maxNumber < n) : Derails n ds f ↔ f = .tooLarge := by
  constructor
  · rintro (⟨front, -, -, -, hle, -⟩ | -)
    · exact absurd (Nat.le_trans (Text.le_ofDigitChars front n) hle) (Nat.not_le.2 hn)
    · rfl
  · rintro rfl
    exact .tooLarge [] ds rfl (fun d hd => absurd hd List.not_mem_nil) hn

theorem derails_cons (hn : n ≤ maxNumber) (hc : c.isDigit = true) :
    Derails n (c :: ds) f ↔ Derails (10 * n + (c.toNat - '0'.toNat)) ds f := by
  constructor
  · rintro (⟨front, rest, hds, hfront, hle, hbad⟩ | ⟨front, rest, hds, hfront, hlt⟩)
    · rcases List.cons_eq_append_iff.1 hds with ⟨rfl, hcons⟩ | ⟨front, rfl, hrest⟩
      · cases hcons
        rw [hc] at hbad
        cases hbad
      · exact .badDigit front rest hrest (List.forall_mem_cons.1 hfront).2 hle hbad
    · rcases List.cons_eq_append_iff.1 hds with ⟨rfl, -⟩ | ⟨front, rfl, hrest⟩
      · exact absurd hlt (Nat.not_lt.2 hn)
      · exact .tooLarge front rest hrest (List.forall_mem_cons.1 hfront).2 hlt
  · rintro (⟨front, rest, hds, hfront, hle, hbad⟩ | ⟨front, rest, hds, hfront, hlt⟩)
    · exact .badDigit (c :: front) rest (congrArg (c :: ·) hds)
        (List.forall_mem_cons.2 ⟨hc, hfront⟩) hle hbad
    · exact .tooLarge (c :: front) rest (congrArg (c :: ·) hds)
        (List.forall_mem_cons.2 ⟨hc, hfront⟩) hlt

theorem readDigits_eq_error_iff (hn : n ≤ maxNumber) :
    readDigits n ds = .error f ↔ Derails n ds f := by
  induction ds generalizing n with
  | nil =>
    refine ⟨fun h => (by cases h), ?_⟩
    rintro (⟨front, rest, hds, -, -, -⟩ | ⟨front, rest, hds, -, hlt⟩)
    · simp at hds
    · rw [(List.append_eq_nil_iff.1 hds.symm).1] at hlt
      exact absurd hlt (Nat.not_lt.2 hn)
  | cons c ds ih =>
    by_cases hc : c.isDigit = true
    · rw [readDigits_cons hc, derails_cons hn hc]
      split
      · next hlt =>
        rw [derails_of_lt hlt, Except.error.injEq]
        exact eq_comm
      · next hlt => exact ih (Nat.not_lt.1 hlt)
    · rw [readDigits, if_neg hc, Except.error.injEq]
      constructor
      · rintro rfl
        exact .badDigit [] ds rfl (fun d hd => absurd hd List.not_mem_nil) hn
          (Bool.eq_false_iff.2 hc)
      · rintro (- | ⟨front, rest, hds, hfront, hlt⟩)
        · rfl
        · rcases List.cons_eq_append_iff.1 hds with ⟨rfl, -⟩ | ⟨front, rfl, -⟩
          · exact absurd hlt (Nat.not_lt.2 hn)
          · exact absurd (hfront c List.mem_cons_self) hc

end Digits

/-! ## Words -/

section Words

variable {s : String} {c : Char} {word ds : List Char} {n : Nat} {f : ValueFault}

theorem numeral_nil : ¬ Numeral [] n := by
  intro h
  cases h with
  | unsigned hne => exact hne rfl

theorem numeral_signed : Numeral ('+' :: ds) n ↔
    ds ≠ [] ∧ (∀ d ∈ ds, d.isDigit = true) ∧ Nat.ofDigitChars 10 ds 0 = n := by
  constructor
  · intro h
    cases h with
    | unsigned hne hds => exact absurd (hds '+' List.mem_cons_self) (by decide)
    | signed hne hds => exact ⟨hne, hds, rfl⟩
  · rintro ⟨hne, hds, rfl⟩
    exact .signed hne hds

theorem numeral_unsigned (hc : c ≠ '+') : Numeral (c :: ds) n ↔
    (∀ d ∈ c :: ds, d.isDigit = true) ∧ Nat.ofDigitChars 10 (c :: ds) 0 = n := by
  constructor
  · intro h
    cases h with
    | unsigned hne hds => exact ⟨hds, rfl⟩
    | signed hne hds => exact absurd rfl hc
  · rintro ⟨hds, rfl⟩
    exact .unsigned (List.cons_ne_nil c ds) hds

theorem noNumeral_nil : NoNumeral [] f ↔ f = .empty := by
  constructor
  · intro h
    cases h
    rfl
  · rintro rfl
    exact .empty

theorem noNumeral_sign : NoNumeral ['+'] f ↔ f = .badDigit := by
  constructor
  · intro h
    cases h with
    | sign => rfl
    | unsigned hc => exact absurd rfl hc
  · rintro rfl
    exact .sign

theorem noNumeral_signed : NoNumeral ('+' :: c :: ds) f ↔ Derails 0 (c :: ds) f := by
  refine ⟨fun h => ?_, .signed⟩
  cases h with
  | unsigned hc => exact absurd rfl hc
  | signed h => exact h

theorem noNumeral_unsigned (hc : c ≠ '+') : NoNumeral (c :: ds) f ↔ Derails 0 (c :: ds) f := by
  refine ⟨fun h => ?_, .unsigned hc⟩
  cases h with
  | sign => exact absurd rfl hc
  | unsigned _ h => exact h
  | signed => exact absurd rfl hc

/-- A word is read by its first character. -/
theorem readNumber_cases (s : String) :
    (s.toList = [] ∧ readNumber s = .error .empty) ∨
      (s.toList = ['+'] ∧ readNumber s = .error .badDigit) ∨
      (∃ c ds, s.toList = '+' :: c :: ds ∧ readNumber s = readDigits 0 (c :: ds)) ∨
      ∃ c ds, s.toList = c :: ds ∧ c ≠ '+' ∧ readNumber s = readDigits 0 (c :: ds) := by
  unfold readNumber
  cases s.toList with
  | nil => exact .inl ⟨rfl, rfl⟩
  | cons c ds =>
    by_cases hc : c = '+'
    · subst hc
      cases ds with
      | nil => exact .inr (.inl ⟨rfl, rfl⟩)
      | cons c ds => exact .inr (.inr (.inl ⟨c, ds, rfl, rfl⟩))
    · refine .inr (.inr (.inr ⟨c, ds, rfl, hc, ?_⟩))
      split <;> simp_all

/-- **What numbers are read from.** -/
theorem readNumber_eq_ok_iff : readNumber s = .ok n ↔ Numeral s.toList n ∧ n ≤ maxNumber := by
  rcases readNumber_cases s with ⟨h, hread⟩ | ⟨h, hread⟩ | ⟨c, ds, h, hread⟩ | ⟨c, ds, h, hc, hread⟩
  · simp [h, hread, numeral_nil]
  · simp [h, hread, numeral_signed]
  · rw [h, hread, readDigits_eq_ok_iff (Nat.zero_le _), numeral_signed]
    simp [and_assoc]
  · rw [h, hread, readDigits_eq_ok_iff (Nat.zero_le _), numeral_unsigned hc, and_assoc]

/-- **What is told of other words.** -/
theorem readNumber_eq_error_iff : readNumber s = .error f ↔ NoNumeral s.toList f := by
  rcases readNumber_cases s with ⟨h, hread⟩ | ⟨h, hread⟩ | ⟨c, ds, h, hread⟩ | ⟨c, ds, h, hc, hread⟩
  · rw [h, hread, noNumeral_nil, Except.error.injEq, eq_comm]
  · rw [h, hread, noNumeral_sign, Except.error.injEq, eq_comm]
  · rw [h, hread, noNumeral_signed, readDigits_eq_error_iff (Nat.zero_le _)]
  · rw [h, hread, noNumeral_unsigned hc, readDigits_eq_error_iff (Nat.zero_le _)]

end Words

/-! ## Texts -/

/-- The text of a truth value: the word for it, with white space around it. -/
def SpellsBoolean (text : String) (b : Bool) : Prop :=
  Trims isBlank text.toList (if b then "true" else "false").toList

/-- The text of a number: a word for it, with white space around it. -/
def SpellsNumber (text : String) (n : Nat) : Prop :=
  ∃ word, Trims isBlank text.toList word ∧ Numeral word n

/-- What is wrong with a text that is to be a number. -/
def NoNumber (text : String) (f : ValueFault) : Prop :=
  ∃ word, Trims isBlank text.toList word ∧ NoNumeral word f

theorem readBoolean_eq_ok_iff {s : String} {b : Bool} :
    readBoolean s = .ok b ↔ s.toList = (if b then "true" else "false").toList := by
  rw [String.toList_inj]
  unfold readBoolean
  split
  · next h => cases b <;> simp [h]
  · next h =>
    split
    · next h' => cases b <;> simp [h']
    · next h' => cases b <;> simp [h, h']

theorem readBoolean_eq_error {s : String} {f : ValueFault} (h : readBoolean s = .error f) :
    f = .notBoolean := by
  unfold readBoolean at h
  split at h
  · cases h
  · split at h
    · cases h
    · exact (Except.error.inj h).symm

/-- **What truth values are read from.** -/
theorem readBoolean_trimBlank {text : String} {b : Bool} :
    readBoolean (trimBlank text) = .ok b ↔ SpellsBoolean text b := by
  rw [readBoolean_eq_ok_iff, Text.toList_trimBlank_eq_iff]
  rfl

theorem exists_trims_iff {text : String} {P : List Char → Prop} :
    (∃ word, Trims isBlank text.toList word ∧ P word) ↔ P (trimBlank text).toList := by
  constructor
  · rintro ⟨word, hword, h⟩
    rwa [Text.toList_trimBlank_eq_iff.2 hword]
  · exact fun h => ⟨_, Text.trims_trimBlank text, h⟩

theorem readNumber_trimBlank {text : String} {n : Nat} :
    readNumber (trimBlank text) = .ok n ↔ SpellsNumber text n ∧ n ≤ maxNumber := by
  rw [readNumber_eq_ok_iff, SpellsNumber, exists_trims_iff]

theorem readNumber_trimBlank_error {text : String} {f : ValueFault} :
    readNumber (trimBlank text) = .error f ↔ NoNumber text f := by
  rw [readNumber_eq_error_iff, NoNumber, exists_trims_iff]

end SigningKeys.Settings
