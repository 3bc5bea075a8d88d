import Mathlib.Data.List.DropRight
import SigningKeys.Text.Blank

/-!
# Words

To trim is to take characters away at both ends until one stands there that is to stay.

* `Trims`: what is left of a text, said without the way to it; **`trimWhere_eq_iff`**: it is what
  trimming gives;
* `trimWhere_append`: what is put behind a trimmed text is trimmed at its own end only;
* `le_ofDigitChars`: digits do not make a number smaller.
-/

namespace SigningKeys.Text

variable {p : Char → Bool} {cs word : List Char}

/-- `word` is `cs` without the characters at its ends that satisfy `p`. -/
structure Trims (p : Char → Bool) (cs word : List Char) : Prop where
  /-- Nothing else is missing. -/
  within : ∃ before after, cs = before ++ word ++ after ∧
    (∀ c ∈ before, p c = true) ∧ ∀ c ∈ after, p c = true
  /-- Nothing more can be taken away in front. -/
  front : ∀ c rest, word = c :: rest → p c = false
  /-- Nothing more can be taken away at the end. -/
  back : ∀ rest c, word = rest ++ [c] → p c = false

theorem trimWhere_eq (p : Char → Bool) (cs : List Char) :
    trimWhere p cs = (cs.dropWhile p).rdropWhile p := rfl

theorem dropWhile_append_of_all {before : List Char} (h : ∀ c ∈ before, p c = true)
    (cs : List Char) : (before ++ cs).dropWhile p = cs.dropWhile p := by
  rw [List.dropWhile_append, List.dropWhile_eq_nil_iff.2 h, List.isEmpty_nil, if_pos rfl]

theorem rdropWhile_append_of_all {after : List Char} (h : ∀ c ∈ after, p c = true)
    (cs : List Char) : (cs ++ after).rdropWhile p = cs.rdropWhile p := by
  unfold List.rdropWhile
  rw [List.reverse_append, dropWhile_append_of_all fun c hc => h c (List.mem_reverse.1 hc)]

theorem rdropWhile_of_back (h : ∀ rest c, cs = rest ++ [c] → p c = false) :
    cs.rdropWhile p = cs := by
  rw [List.rdropWhile_eq_self_iff]
  intro hne
  rw [h cs.dropLast (cs.getLast hne) (List.dropLast_append_getLast hne).symm]
  exact Bool.false_ne_true

/-- A character that stays keeps all that stands before it. -/
theorem rdropWhile_append_cons {c : Char} (hc : p c = false) (cs rest : List Char) :
    (cs ++ c :: rest).rdropWhile p = cs ++ c :: rest.rdropWhile p := by
  induction rest using List.reverseRecOn with
  | nil =>
    rw [List.rdropWhile_nil, List.rdropWhile_concat_neg _ _ _ (by simp [hc])]
  | append_singleton rest x ih =>
    rw [← List.cons_append, ← List.append_assoc, List.rdropWhile_concat, List.rdropWhile_concat]
    split
    · exact ih
    · simp

theorem takeWhile_append_cons {c : Char} (hc : p c = false) (cs rest : List Char) :
    (cs ++ c :: rest).takeWhile p = cs.takeWhile p := by
  induction cs with
  | nil => exact List.takeWhile_cons_of_neg (by simp [hc])
  | cons a cs ih => rw [List.cons_append, List.takeWhile_cons, List.takeWhile_cons, ih]

theorem dropWhile_append_cons {c : Char} (hc : p c = false) (cs rest : List Char) :
    (cs ++ c :: rest).dropWhile p = cs.dropWhile p ++ c :: rest := by
  rw [List.dropWhile_append]
  split
  case isTrue hnil =>
    rw [List.isEmpty_iff.1 hnil, List.dropWhile_cons_of_neg (by simp [hc]), List.nil_append]
  case isFalse => rfl

/-- Trimming leaves what is said to be left. -/
theorem trims_trimWhere (p : Char → Bool) (cs : List Char) : Trims p cs (trimWhere p cs) := by
  constructor
  case within =>
    refine ⟨cs.takeWhile p, (cs.dropWhile p).rtakeWhile p, ?_, ?_, ?_⟩
    · rw [trimWhere_eq, List.append_assoc, List.rdropWhile_append_rtakeWhile,
        List.takeWhile_append_dropWhile]
    · exact fun c hc => List.mem_takeWhile_imp hc
    · exact fun c hc => List.mem_rtakeWhile_imp hc
  case front =>
    intro c rest h
    obtain ⟨after, hafter⟩ := List.rdropWhile_prefix (p := p) (l := cs.dropWhile p)
    rw [← trimWhere_eq, h] at hafter
    have hhead := List.head?_dropWhile_not p cs
    rw [← hafter] at hhead
    simpa using hhead
  case back =>
    intro rest c h
    rw [trimWhere_eq] at h
    have hne : (cs.dropWhile p).rdropWhile p ≠ [] := by simp [h]
    have hlast := List.rdropWhile_last_not p _ hne
    simpa [h] using hlast

/-- **What trimming leaves.** -/
theorem trimWhere_eq_iff : trimWhere p cs = word ↔ Trims p cs word := by
  constructor
  · rintro rfl
    exact trims_trimWhere p cs
  · rintro ⟨⟨before, after, rfl, hbefore, hafter⟩, hfront, hback⟩
    rw [trimWhere_eq, List.append_assoc, dropWhile_append_of_all hbefore]
    cases word with
    | nil => rw [List.nil_append, List.dropWhile_eq_nil_iff.2 hafter, List.rdropWhile_nil]
    | cons c rest =>
      rw [List.cons_append, List.dropWhile_cons_of_neg (by simp [hfront c rest rfl]),
        ← List.cons_append, rdropWhile_append_of_all hafter, rdropWhile_of_back hback]

theorem toList_trimBlank_eq_iff {s : String} :
    (trimBlank s).toList = word ↔ Trims isBlank s.toList word := by
  rw [trimBlank, String.toList_ofList, trimWhere_eq_iff]

theorem trims_trimBlank (s : String) : Trims isBlank s.toList (trimBlank s).toList :=
  toList_trimBlank_eq_iff.1 rfl

/-- What stays at both ends is not trimmed, and what is put behind it is trimmed at its own end
only. -/
theorem trimWhere_append {c : Char} (hcs : Trims p cs cs) (hne : cs ≠ []) (hc : p c = false)
    (rest : List Char) : trimWhere p (cs ++ c :: rest) = cs ++ c :: rest.rdropWhile p := by
  obtain ⟨a, tail, rfl⟩ := List.exists_cons_of_ne_nil hne
  rw [trimWhere_eq, List.cons_append, List.dropWhile_cons_of_neg (by simp [hcs.front a tail rfl]),
    ← List.cons_append, rdropWhile_append_cons hc]

/-- More digits do not make a number smaller. -/
theorem le_ofDigitChars (ds : List Char) (n : Nat) : n ≤ Nat.ofDigitChars 10 ds n := by
  rw [Nat.ofDigitChars_eq_ofDigitChars_zero]
  exact Nat.le_trans (Nat.le_mul_of_pos_left n (Nat.pow_pos (by decide))) (Nat.le_add_right _ _)

end SigningKeys.Text
