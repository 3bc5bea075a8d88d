import SigningKeys.Proofs.Json.Members
import SigningKeys.Proofs.Json.Typed

/-!
# The shape of read values

Not every value can be read: integers have bounds, lists and objects stand within one another only so
deep, and members are in the order of their names.

* `exists_of_mem_items`, `fields_induction`: what holds of the parts that are read;
* `Number.InRange`, `inRange_number`: numbers;
* `Shaped`: values that may be read;
* **`shaped_value`**: a value that is read has this shape.
-/

namespace SigningKeys.Json

/-! ## Parts that are read -/

section

variable {α σ : Type}

theorem exists_of_mem_itemsFrom {item : Reader α} {fuel : Nat} {first : Bool} {bs : List UInt8}
    {as : List α} {rest : List UInt8} (h : itemsFrom item fuel first bs = .ok (as, rest)) :
    ∀ a ∈ as, ∃ front back, item front = .ok (a, back) := by
  induction fuel generalizing first bs as with
  | zero => cases h
  | succ fuel ih =>
    rcases itemsFrom_eq_ok_iff.1 h with ⟨_, rfl⟩ | ⟨bs₁, a, bs₂, as', _, ha, has, rfl⟩
    · intro b hb
      cases hb
    · intro b hb
      rcases List.mem_cons.1 hb with rfl | hb
      · exact ⟨bs₁, bs₂, ha⟩
      · exact ih has b hb

/-- The items of a list have been read. -/
theorem exists_of_mem_items {item : Reader α} {bs : List UInt8} {as : List α} {rest : List UInt8}
    (h : items item bs = .ok (as, rest)) : ∀ a ∈ as, ∃ front back, item front = .ok (a, back) :=
  exists_of_mem_itemsFrom h

theorem fieldsFrom_induction {field : σ → String → Reader σ} {P : σ → Prop}
    (hfield : ∀ s name bs s' rest, P s → field s name bs = .ok (s', rest) → P s') {fuel : Nat}
    {first : Bool} {s t : σ} {bs rest : List UInt8} (hs : P s)
    (h : fieldsFrom field fuel first s bs = .ok (t, rest)) : P t := by
  induction fuel generalizing first s bs with
  | zero => cases h
  | succ fuel ih =>
    rcases fieldsFrom_eq_ok_iff.1 h with ⟨_, rfl⟩ | ⟨_, _, _, s', _, _, _, hs', h⟩
    · exact hs
    · exact ih (hfield _ _ _ _ _ hs hs') h

/-- What every field keeps up holds after all of them. -/
theorem fields_induction {field : σ → String → Reader σ} {P : σ → Prop}
    (hfield : ∀ s name bs s' rest, P s → field s name bs = .ok (s', rest) → P s') {s t : σ}
    {bs rest : List UInt8} (hs : P s) (h : fields field s bs = .ok (t, rest)) : P t :=
  fieldsFrom_induction hfield hs h

end

/-- The values of the members that are read have been read. -/
theorem exists_of_mem_fields {depth : Nat} {bs : List UInt8} {es : List (String × Value)}
    {rest : List UInt8} (h : fields (entry depth) [] bs = .ok (es, rest)) :
    ∀ e ∈ es, ∃ front back, value depth front = .ok (e.2, back) := by
  refine fields_induction
    (P := fun es => ∀ e ∈ es, ∃ front back, value depth front = .ok (e.2, back))
    (fun es name bs es' rest hes hentry e he => ?_) (fun _ he => (by cases he)) h
  obtain ⟨v, hv, rfl⟩ := entry_eq_ok_iff.1 hentry
  rcases List.mem_append.1 he with he | he
  · exact hes e he
  · obtain rfl := List.mem_singleton.1 he
    obtain ⟨front, -, hread⟩ := bind_eq_ok hv
    exact ⟨front, rest, hread⟩

/-! ## Numbers -/

/-- A number that may be read: integers have bounds. -/
def Number.InRange : Number → Prop
  | .int n => -9223372036854775808 ≤ n ∧ n ≤ 18446744073709551615
  | .float _ => True

section

variable {negative : Bool} {significand : Nat} {exponent : Int} {n : Number}
  {bs rest : List UInt8}

theorem inRange_scaled (h : scaled negative significand exponent = .ok n) : n.InRange := by
  unfold scaled at h
  split at h
  · cases h
    trivial
  · cases h

theorem inRange_exponentPart (h : exponentPart negative significand exponent bs = .ok (n, rest)) :
    n.InRange := by
  unfold exponentPart at h
  dsimp only at h
  split at h
  · cases h
  · cases h
  · split at h
    · obtain ⟨m, hm, heq⟩ := map_eq_ok h
      cases heq
      exact inRange_scaled hm
    · split_ifs at h
      cases h
      trivial

theorem inRange_afterFraction (h : afterFraction negative significand exponent bs = .ok (n, rest)) :
    n.InRange := by
  unfold afterFraction at h
  split at h
  · exact inRange_exponentPart h
  · exact inRange_exponentPart h
  · obtain ⟨m, hm, heq⟩ := map_eq_ok h
    cases heq
    exact inRange_scaled hm

theorem inRange_fractionPart (h : fractionPart negative significand exponent bs = .ok (n, rest)) :
    n.InRange := by
  unfold fractionPart at h
  split at h
  · cases h
  · cases h
  · exact inRange_afterFraction h

theorem inRange_whole (h : significand ≤ maxSignificand) : (whole negative significand).InRange := by
  have hmax : significand ≤ 18446744073709551615 := h
  unfold whole
  split_ifs with hsign hsmall
  · exact ⟨by omega, by omega⟩
  · simp only [Bool.and_eq_true, decide_eq_true_eq] at hsmall
    exact ⟨by omega, by omega⟩
  · trivial

theorem inRange_afterWhole {dropped : Nat} (hmax : significand ≤ maxSignificand)
    (h : afterWhole negative significand dropped bs = .ok (n, rest)) : n.InRange := by
  unfold afterWhole at h
  split at h
  · exact inRange_fractionPart h
  · exact inRange_exponentPart h
  · exact inRange_exponentPart h
  · split at h
    · cases h
      exact inRange_whole hmax
    · obtain ⟨m, hm, heq⟩ := map_eq_ok h
      cases heq
      exact inRange_scaled hm

theorem gather_le {limit m : Nat} (hm : m ≤ limit) (ds : List UInt8) :
    (gather limit m ds).1 ≤ limit := by
  induction ds generalizing m with
  | nil => exact hm
  | cons d ds ih =>
    rw [gather]
    split
    case isTrue => exact hm
    case isFalse h => exact ih (Nat.le_of_not_lt h)

/-- **Integers that are read have bounds.** -/
theorem inRange_number (h : number negative bs = .ok (n, rest)) : n.InRange := by
  unfold number at h
  split at h
  · cases h
  · cases h
  case h_3 d ds _ _ =>
    have hmax := gather_le (Nat.zero_le maxSignificand) (d :: ds)
    split_ifs at h
    generalize gather maxSignificand 0 (d :: ds) = gathered at h hmax
    exact inRange_afterWhole hmax h

end

/-! ## Values -/

/-- **A value that may be read**, with at most `n` lists and objects within one another. -/
inductive Shaped : Nat → Value → Prop
  | null {n} : Shaped n .null
  | bool {n} (b : Bool) : Shaped n (.bool b)
  | num {n k} (h : Number.InRange k) : Shaped n (.num k)
  | str {n} (s : String) : Shaped n (.str s)
  | arr {n vs} (h : ∀ v ∈ vs, Shaped n v) : Shaped (n + 1) (.arr vs)
  | obj {n m} (hm : Members.Sorted m) (h : ∀ e ∈ m, Shaped n e.2) : Shaped (n + 1) (.obj m)

theorem Shaped.mono {n m : Nat} {v : Value} (h : Shaped n v) (hnm : n ≤ m) : Shaped m v := by
  induction h generalizing m with
  | null => exact .null
  | bool b => exact .bool b
  | num hk => exact .num hk
  | str s => exact .str s
  | @arr n vs _ ih =>
    obtain ⟨m, rfl⟩ := Nat.exists_eq_add_of_le' (Nat.le_of_add_left_le hnm)
    exact .arr fun v hv => ih v hv (Nat.le_of_succ_le_succ hnm)
  | @obj n _ hsorted _ ih =>
    obtain ⟨m, rfl⟩ := Nat.exists_eq_add_of_le' (Nat.le_of_add_left_le hnm)
    exact .obj hsorted fun e he => ih e he (Nat.le_of_succ_le_succ hnm)

/-- **A value that is read has this shape.** -/
theorem shaped_value {depth : Nat} {bs : List UInt8} {v : Value} {rest : List UInt8}
    (h : value depth bs = .ok (v, rest)) : Shaped depth v := by
  -- on the depth: the parts of a list or an object are read with one level less
  induction depth using Nat.strongRecOn generalizing bs v rest with
  | ind depth ih =>
    obtain ⟨b, t, -, hcase⟩ := value_eq_ok_iff.1 h
    cases hcase with
    | null => exact .null
    | yes => exact .bool true
    | no => exact .bool false
    | below hn => exact .num (inRange_number hn)
    | above _ hn => exact .num (inRange_number hn)
    | str => exact .str _
    | @arr depth _ vs _ hvs =>
      refine .arr fun v hv => ?_
      obtain ⟨front, back, hread⟩ := exists_of_mem_items hvs v hv
      exact ih depth (Nat.lt_succ_self depth) hread
    | @obj depth _ m _ hm =>
      obtain ⟨es, hes, rfl⟩ := (fields_keepLast_eq_ok_iff depth).1 hm
      refine .obj (Members.sorted_ofList es) fun e he => ?_
      obtain ⟨front, back, hread⟩ := exists_of_mem_fields hes e (Members.mem_of_mem_ofList he)
      exact ih depth (Nat.lt_succ_self depth) hread

end SigningKeys.Json
