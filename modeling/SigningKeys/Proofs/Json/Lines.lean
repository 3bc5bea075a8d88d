import Mathlib.Tactic.SplitIfs
import SigningKeys.Json.Writer

/-!
# Written values are lines

A written value has no control character, whatever strings and numbers it holds: those of a string
are escaped, and no other text has any. So written values that end in newlines can be told apart
again.

* `Printed`: characters that are no control characters;
* **`printed_chars`**: written values have no control characters;
* `Text.lines`, **`Text.splitOn_lines`**: texts that end in newlines are found again.
-/

namespace SigningKeys.Json

/-- Characters none of which is a control character. -/
def Printed (cs : List Char) : Prop := ∀ c ∈ cs, 0x20 ≤ c.toNat

theorem printed_nil : Printed [] := nofun

theorem printed_append {cs ds : List Char} : Printed (cs ++ ds) ↔ Printed cs ∧ Printed ds :=
  List.forall_mem_append

theorem printed_cons {c : Char} {cs : List Char} :
    Printed (c :: cs) ↔ 0x20 ≤ c.toNat ∧ Printed cs :=
  List.forall_mem_cons

theorem printed_of_all {cs : List Char} (h : (cs.all fun c => 0x20 ≤ c.toNat) = true) :
    Printed cs := fun c hc => of_decide_eq_true (List.all_eq_true.1 h c hc)

theorem Printed.sublist {cs ds : List Char} (h : Printed ds) (hs : cs.Sublist ds) : Printed cs :=
  fun c hc => h c (hs.subset hc)

/-! ## Strings -/

theorem toNat_hexDigit (n : Nat) : 0x20 ≤ (Text.hexDigit n).toNat := by
  have hall : ∀ d < 16, 0x20 ≤ (Text.hexDigit d).toNat := by decide
  have hmod : Text.hexDigit n = Text.hexDigit (n % 16) := by
    rw [Text.hexDigit, Text.hexDigit, Nat.mod_mod]
  rw [hmod]
  exact hall _ (Nat.mod_lt n (by decide))

theorem printed_hexPadded (w n : Nat) : Printed (Text.hexPadded w n) := by
  induction w generalizing n with
  | zero => exact printed_nil
  | succ w ih =>
    exact printed_append.2 ⟨ih _, printed_cons.2 ⟨toNat_hexDigit n, printed_nil⟩⟩

theorem printed_writtenChar (c : Char) : Printed (writtenChar c) := by
  have hshort (d : Char) (hd : 0x20 ≤ d.toNat) : Printed ['\\', d] :=
    printed_cons.2 ⟨by decide, printed_cons.2 ⟨hd, printed_nil⟩⟩
  unfold writtenChar
  split_ifs with _ _ _ _ _ _ _ hcontrol
  · exact hshort '"' (by decide)
  · exact hshort '\\' (by decide)
  · exact hshort 'b' (by decide)
  · exact hshort 't' (by decide)
  · exact hshort 'n' (by decide)
  · exact hshort 'f' (by decide)
  · exact hshort 'r' (by decide)
  · exact printed_append.2 ⟨hshort 'u' (by decide), printed_hexPadded 4 _⟩
  · exact printed_cons.2 ⟨Nat.le_of_not_lt hcontrol, printed_nil⟩

theorem printed_writtenText (s : String) : Printed (writtenText s) := by
  have hquote : Printed ['"'] := printed_cons.2 ⟨by decide, printed_nil⟩
  refine printed_append.2 ⟨printed_cons.2 ⟨by decide, fun c hc => ?_⟩, hquote⟩
  obtain ⟨d, -, hc⟩ := List.mem_flatMap.1 hc
  exact printed_writtenChar d c hc

/-! ## Numbers -/

theorem printed_digitsOf (n : Nat) : Printed (digitsOf n) := fun c hc => by
  have hdigit := Nat.isDigit_of_mem_toDigits (by decide) (by decide) hc
  have hlow : 48 ≤ c.toNat := (Char.isDigit_iff_toNat.1 hdigit).1
  omega

theorem printed_replicate (n : Nat) : Printed (List.replicate n '0') := fun c hc => by
  rw [List.eq_of_mem_replicate hc]
  decide

theorem printed_positional {ds : List Char} (h : Printed ds) (first : Nat) :
    Printed (Binary64.positional ds first) := by
  have hzero : Printed ['0', '.'] := printed_cons.2 ⟨by decide, printed_cons.2 ⟨by decide, printed_nil⟩⟩
  have hpoint : Printed ['.', '0'] := printed_cons.2 ⟨by decide, printed_cons.2 ⟨by decide, printed_nil⟩⟩
  unfold Binary64.positional
  split
  · exact printed_append.2 ⟨printed_append.2 ⟨hzero, printed_replicate _⟩, h⟩
  · dsimp only
    split
    · exact printed_append.2 ⟨printed_append.2 ⟨h, printed_replicate _⟩, hpoint⟩
    · exact printed_append.2 ⟨h.sublist (List.take_sublist _ _),
        printed_cons.2 ⟨by decide, h.sublist (List.drop_sublist _ _)⟩⟩

theorem printed_scientific {ds : List Char} (h : Printed ds) (first : Nat) :
    Printed (Binary64.scientific ds first) := by
  have hexponent (sign : Char) (hsign : 0x20 ≤ sign.toNat) (n : Nat) :
      Printed ('e' :: sign :: digitsOf n) :=
    printed_cons.2 ⟨by decide, printed_cons.2 ⟨hsign, printed_digitsOf n⟩⟩
  unfold Binary64.scientific
  refine printed_append.2 ⟨?_, ?_⟩
  · split
    · exact printed_nil
    · exact h
    · obtain ⟨hd, hrest⟩ := printed_cons.1 h
      exact printed_cons.2 ⟨hd, printed_cons.2 ⟨by decide, hrest⟩⟩
  · split
    · exact hexponent '-' (by decide) _
    · exact hexponent '+' (by decide) _

theorem printed_float (f : Binary64) : Printed f.text.toList := by
  have hsign : Printed (if f.isNegative then ['-'] else []) := by
    split
    · exact printed_cons.2 ⟨by decide, printed_nil⟩
    · exact printed_nil
  have hzero : Printed ['0', '.', '0'] := printed_of_all rfl
  unfold Binary64.text
  dsimp only
  split
  · rw [String.toList_ofList]
    exact printed_append.2 ⟨hsign, hzero⟩
  · rw [String.toList_ofList]
    refine printed_append.2 ⟨hsign, ?_⟩
    split
    · exact printed_positional (printed_digitsOf _) _
    · exact printed_scientific (printed_digitsOf _) _

theorem printed_number (n : Number) : Printed n.render := by
  cases n with
  | float f => exact printed_float f
  | int n =>
    cases n with
    | ofNat n =>
      have hrender : (Number.int n).render = digitsOf n := Nat.toList_repr
      exact hrender ▸ printed_digitsOf n
    | negSucc n =>
      have hrender : (Number.int (.negSucc n)).render = '-' :: digitsOf (n + 1) := by
        have hrepr : (Number.int (.negSucc n)).render = ("-" ++ Nat.repr (n + 1)).toList := rfl
        rw [hrepr, String.toList_append, Nat.toList_repr]
        rfl
      rw [hrender]
      exact printed_cons.2 ⟨by decide, printed_digitsOf _⟩

/-! ## Values -/

theorem printed_comma (first : Bool) : Printed (if first then [] else [',']) := by
  cases first
  · exact printed_cons.2 ⟨by decide, printed_nil⟩
  · exact printed_nil

mutual

/-- **A written value has no control character.** -/
theorem printed_chars (v : Value) : Printed v.chars := by
  cases v with
  | null => exact printed_of_all rfl
  | bool b => cases b <;> exact printed_of_all rfl
  | num n => exact printed_number n
  | str s => exact printed_writtenText s
  | arr vs =>
    rw [Value.chars]
    exact printed_append.2 ⟨printed_cons.2 ⟨by decide, printed_charsOfItems true vs⟩,
      printed_cons.2 ⟨by decide, printed_nil⟩⟩
  | obj ms =>
    rw [Value.chars]
    exact printed_append.2 ⟨printed_cons.2 ⟨by decide, printed_charsOfMembers true ms⟩,
      printed_cons.2 ⟨by decide, printed_nil⟩⟩

theorem printed_charsOfItems (first : Bool) (vs : List Value) :
    Printed (Value.charsOfItems first vs) := by
  cases vs with
  | nil => exact printed_nil
  | cons v vs =>
    rw [Value.charsOfItems]
    exact printed_append.2 ⟨printed_append.2 ⟨printed_comma first, printed_chars v⟩,
      printed_charsOfItems false vs⟩

theorem printed_charsOfMembers (first : Bool) (ms : List (String × Value)) :
    Printed (Value.charsOfMembers first ms) := by
  match ms with
  | [] => exact printed_nil
  | (k, v) :: ms =>
    have hvalue : Printed (':' :: v.chars ++ Value.charsOfMembers false ms) :=
      printed_append.2 ⟨printed_cons.2 ⟨by decide, printed_chars v⟩, printed_charsOfMembers false ms⟩
    have hname := printed_append.2 ⟨printed_comma first, printed_writtenText k⟩
    rw [Value.charsOfMembers, List.append_assoc]
    exact printed_append.2 ⟨hname, hvalue⟩

end

theorem newline_not_mem_render (v : Value) : '\n' ∉ v.render.toList := fun h => by
  rw [Value.render, String.toList_ofList] at h
  exact absurd (printed_chars v _ h) (by decide)

end SigningKeys.Json

namespace SigningKeys.Text

/-! ## Lines -/

/-- Texts, each of them with a newline behind it. -/
def lines (ts : List String) : String := String.join (ts.map (· ++ "\n"))

/-- **Texts without newlines are found again** between the newlines behind them. -/
theorem splitOn_lines {ts : List String} (h : ∀ t ∈ ts, '\n' ∉ t.toList) :
    (lines ts).toList.splitOn '\n' = ts.map String.toList ++ [[]] := by
  induction ts with
  | nil => rfl
  | cons t ts ih =>
    obtain ⟨ht, hts⟩ := List.forall_mem_cons.1 h
    have hcons : (lines (t :: ts)).toList = t.toList ++ '\n' :: (lines ts).toList := by
      rw [lines, List.map_cons, String.join_cons, String.toList_append, String.toList_append,
        List.append_assoc]
      rfl
    rw [hcons, List.splitOn_append_cons_self, List.splitOn_eq_singleton ht, ih hts]
    rfl

end SigningKeys.Text
