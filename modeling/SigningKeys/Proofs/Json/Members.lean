import Mathlib.Data.List.Induction
import Mathlib.Data.List.Perm.Basic
import SigningKeys.Json.Value

/-!
# Members in the order of their names

The members of an object stand in the order of their names, each name once. So they are determined
by what the names stand for, and members that are given in any order come to the same object.

* `Members.Sorted`: members in the order of their names;
* `Members.last?`, `Members.get?_ofList`: the last value of a name counts;
* **`Members.Sorted.ext`**: sorted members are equal if all names stand for the same;
* `Members.mapMaybe`, `Members.get?_filter`: members that are left out or changed;
* `Members.ofList_of_perm`: sorted members, given in any order.
-/

namespace SigningKeys.Json.Members

/-- Members in the order of their names, each name once. -/
def Sorted (m : Members) : Prop := m.Pairwise fun a b => a.1 < b.1

/-- The last value of a name among members in any order. -/
def last? (name : String) (es : List (String × Value)) : Option Value :=
  (es.filter (·.1 = name)).getLast?.map (·.2)

variable {name other : String} {v w : Value} {m n : Members}

theorem get?_insert (name other : String) (v : Value) (m : Members) :
    get? other (insert name v m) = if other = name then some v else get? other m := by
  split
  case isTrue h => rw [h, get?_insert_self]
  case isFalse h => exact get?_insert_of_ne v m h

theorem mem_of_mem_insert {e : String × Value} (h : e ∈ insert name v m) :
    e = (name, v) ∨ e ∈ m := by
  induction m with
  | nil => exact .inl (List.mem_singleton.1 h)
  | cons d rest ih =>
    obtain ⟨k, w⟩ := d
    rw [insert] at h
    split at h
    · exact (List.mem_cons.1 h).imp_right (List.mem_cons_of_mem _)
    · split at h
      · exact List.mem_cons.1 h
      · rcases List.mem_cons.1 h with rfl | h
        · exact .inr List.mem_cons_self
        · exact (ih h).imp_right (List.mem_cons_of_mem _)

theorem Sorted.insert (h : Sorted m) (name : String) (v : Value) :
    Sorted (insert name v m) := by
  induction m with
  | nil => exact List.pairwise_singleton _ _
  | cons d rest ih =>
    obtain ⟨k, w⟩ := d
    obtain ⟨hk, hrest⟩ := List.pairwise_cons.1 h
    rw [Members.insert]
    split
    case isTrue heq =>
      subst heq
      exact List.pairwise_cons.2 ⟨hk, hrest⟩
    case isFalse hne =>
      split
      case isTrue hlt =>
        refine List.pairwise_cons.2 ⟨fun e he => ?_, h⟩
        rcases List.mem_cons.1 he with rfl | he
        · exact hlt
        · exact String.lt_trans hlt (hk e he)
      case isFalse hge =>
        have hlt : k < name := by
          rcases Std.Trichotomous.rel_or_eq_or_rel_swap (r := fun a b : String => a < b)
            (a := name) (b := k) with h | h | h
          · exact absurd h hge
          · exact absurd h hne
          · exact h
        refine List.pairwise_cons.2 ⟨fun e he => ?_, ih hrest⟩
        rcases mem_of_mem_insert he with rfl | he
        · exact hlt
        · exact hk e he

theorem ofList_concat (es : List (String × Value)) (e : String × Value) :
    ofList (es ++ [e]) = insert e.1 e.2 (ofList es) := by
  simp [ofList]

theorem sorted_ofList (es : List (String × Value)) : Sorted (ofList es) := by
  induction es using List.reverseRecOn with
  | nil => exact .nil
  | append_singleton es e ih =>
    rw [ofList_concat]
    exact ih.insert _ _

/-- The members of an object are among those that were given. -/
theorem mem_of_mem_ofList {e : String × Value} {es : List (String × Value)} (h : e ∈ ofList es) :
    e ∈ es := by
  induction es using List.reverseRecOn with
  | nil => cases h
  | append_singleton es d ih =>
    rw [ofList_concat] at h
    rcases mem_of_mem_insert h with rfl | h
    · exact List.mem_append_right _ List.mem_cons_self
    · exact List.mem_append_left _ (ih h)

theorem last?_concat (es : List (String × Value)) (e : String × Value) :
    last? name (es ++ [e]) = if name = e.1 then some e.2 else last? name es := by
  by_cases h : name = e.1
  · simp [last?, h]
  · simp [last?, h, Ne.symm h]

/-- **The last value of a name counts.** -/
theorem get?_ofList (name : String) (es : List (String × Value)) :
    get? name (ofList es) = last? name es := by
  induction es using List.reverseRecOn with
  | nil => rfl
  | append_singleton es e ih => rw [ofList_concat, get?_insert, ih, last?_concat]

/-! ## What sorted members are -/

theorem get?_eq_none_of_lt (h : ∀ e ∈ m, name < e.1) : get? name m = none := by
  induction m with
  | nil => rfl
  | cons d rest ih =>
    have hne : name ≠ d.1 := fun heq =>
      String.lt_irrefl _ (heq ▸ h d List.mem_cons_self)
    rw [get?, if_neg hne]
    exact ih fun e he => h e (List.mem_cons_of_mem _ he)

theorem mem_of_get? (h : get? name m = some v) : (name, v) ∈ m := by
  induction m with
  | nil => cases h
  | cons d rest ih =>
    rw [get?] at h
    split at h
    case isTrue heq =>
      obtain rfl := Option.some.inj h
      exact heq ▸ List.mem_cons_self
    case isFalse => exact List.mem_cons_of_mem _ (ih h)

theorem Sorted.get?_of_mem (hm : Sorted m) (h : (name, v) ∈ m) : get? name m = some v := by
  induction m with
  | nil => cases h
  | cons d rest ih =>
    obtain ⟨hd, hrest⟩ := List.pairwise_cons.1 hm
    rcases List.mem_cons.1 h with rfl | h
    · rw [get?, if_pos rfl]
    · have hne : name ≠ d.1 := fun heq => String.lt_irrefl _ (heq ▸ hd _ h)
      rw [get?, if_neg hne]
      exact ih hrest h

theorem Sorted.nodup (hm : Sorted m) : m.Nodup := by
  refine List.Pairwise.imp (fun {a b} hlt => ?_) hm
  intro heq
  exact String.lt_irrefl b.1 (heq ▸ hlt)

/-- **Sorted members are equal if all names stand for the same.** -/
theorem Sorted.ext (hm : Sorted m) (hn : Sorted n) (h : ∀ name, get? name m = get? name n) :
    m = n := by
  refine List.Perm.eq_of_pairwise (fun a b _ _ hab hba => ?_) hm hn ?_
  · exact absurd hba (String.lt_asymm hab)
  · refine (List.perm_ext_iff_of_nodup hm.nodup hn.nodup).2 fun ⟨name, v⟩ => ?_
    exact ⟨fun hv => mem_of_get? (h name ▸ hm.get?_of_mem hv),
      fun hv => mem_of_get? (h name ▸ hn.get?_of_mem hv)⟩

/-- A name stands there once at most. -/
theorem Sorted.filter_eq (hm : Sorted m) (name : String) :
    m.filter (·.1 = name) = ((get? name m).map (name, ·)).toList := by
  induction m with
  | nil => rfl
  | cons d rest ih =>
    obtain ⟨hd, hrest⟩ := List.pairwise_cons.1 hm
    obtain ⟨k, w⟩ := d
    by_cases h : name = k
    · subst h
      have hnone : get? name rest = none := get?_eq_none_of_lt hd
      simp [get?, ih hrest, hnone]
    · simp [get?, h, Ne.symm h, ih hrest]

/-! ## Members that are left out or changed -/

/-- The members with what `f` makes of their values; a member of which it makes nothing is left
out. -/
def mapMaybe (f : String → Value → Option Value) (m : Members) : Members :=
  m.filterMap fun e => (f e.1 e.2).map (e.1, ·)

theorem get?_filter (p : String → Bool) (name : String) (m : Members) :
    get? name (m.filter fun e => p e.1) = if p name then get? name m else none := by
  induction m with
  | nil => simp [get?]
  | cons d rest ih =>
    by_cases hd : p d.1
    · rw [List.filter_cons, if_pos hd, get?, get?, ih]
      by_cases h : name = d.1
      · simp [h, hd]
      · simp [h]
    · rw [List.filter_cons, if_neg hd, ih, get?]
      by_cases h : name = d.1
      · simp [h, hd]
      · simp [h]

theorem Sorted.filter (hm : Sorted m) (p : String × Value → Bool) : Sorted (m.filter p) :=
  List.Pairwise.filter p hm

theorem Sorted.mapMaybe (hm : Sorted m) (f : String → Value → Option Value) :
    Sorted (mapMaybe f m) := by
  refine List.Pairwise.filterMap _ (fun a b hab c hc d hd => ?_) hm
  obtain ⟨v, -, rfl⟩ := Option.map_eq_some_iff.1 hc
  obtain ⟨w, -, rfl⟩ := Option.map_eq_some_iff.1 hd
  exact hab

theorem Sorted.get?_mapMaybe (hm : Sorted m) (f : String → Value → Option Value) (name : String) :
    get? name (Members.mapMaybe f m) = (get? name m).bind (f name) := by
  induction m with
  | nil => rfl
  | cons d rest ih =>
    obtain ⟨hd, hrest⟩ := List.pairwise_cons.1 hm
    have ih := ih hrest
    by_cases h : name = d.1
    · have hnone : get? name rest = none := get?_eq_none_of_lt fun e he => h ▸ hd e he
      rw [hnone] at ih
      cases hf : f d.1 d.2 with
      | none => simpa [Members.mapMaybe, get?, h, hf] using h ▸ ih
      | some w => simp [Members.mapMaybe, get?, h, hf]
    · cases hf : f d.1 d.2 with
      | none => simpa [Members.mapMaybe, get?, h, hf] using ih
      | some w => simpa [Members.mapMaybe, get?, h, hf] using ih

theorem last?_eq_none_iff {es : List (String × Value)} :
    last? name es = none ↔ ∀ v, (name, v) ∉ es := by
  rw [last?, Option.map_eq_none_iff, List.getLast?_eq_none_iff, List.filter_eq_nil_iff]
  exact ⟨fun h v hv => h _ hv (decide_eq_true rfl),
    fun h e he hname => h e.2 (of_decide_eq_true hname ▸ he)⟩

theorem last?_filter (p : String → Bool) (es : List (String × Value)) :
    last? name (es.filter fun e => p e.1) = if p name then last? name es else none := by
  rw [last?, List.filter_filter]
  split
  case isTrue h =>
    have hsame : es.filter (fun e => decide (e.1 = name) && p e.1) = es.filter (·.1 = name) := by
      refine List.filter_congr fun e _ => ?_
      by_cases he : e.1 = name
      · simp [he, h]
      · simp [he]
    rw [hsame, last?]
  case isFalse h =>
    have hnil : es.filter (fun e => decide (e.1 = name) && p e.1) = [] := by
      refine List.filter_eq_nil_iff.2 fun e _ he => ?_
      obtain ⟨hname, hp⟩ := Bool.and_eq_true_iff.1 he
      exact h (of_decide_eq_true hname ▸ hp)
    rw [hnil]
    rfl

/-! ## Members in another order -/

theorem last?_of_perm {es : List (String × Value)} (hm : Sorted m) (h : es.Perm m)
    (name : String) : last? name es = get? name m := by
  have hfilter := h.filter (·.1 = name)
  rw [hm.filter_eq] at hfilter
  cases hget : get? name m with
  | none =>
    rw [hget] at hfilter
    simp [last?, hfilter.eq_nil]
  | some v =>
    rw [hget] at hfilter
    simp [last?, hfilter.eq_singleton]

/-- **Sorted members, given in any order.** -/
theorem ofList_of_perm {es : List (String × Value)} (hm : Sorted m) (h : es.Perm m) :
    ofList es = m :=
  (sorted_ofList es).ext hm fun name => (get?_ofList name es).trans (last?_of_perm hm h name)

end SigningKeys.Json.Members
