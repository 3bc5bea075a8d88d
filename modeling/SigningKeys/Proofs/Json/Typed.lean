import Mathlib.Tactic.SplitIfs
import SigningKeys.Json.Reader
import SigningKeys.Jwk.Reader
import SigningKeys.Proofs.Except

/-!
# Values of a known type are values

A value of a known type is read as any value is: the reader of the type accepts what the reader of
all values accepts, as far as the value has the type, and stops at the same place.

* `ValueCase`, `value_eq_ok_iff`: what a value is, by its first byte;
* `Sifts`: one reader accepts what another one does, as far as a function lets it through;
* `sifts_string`, `sifts_optional`, `sifts_strings`, `Sifts.items`, `sifts_fields`: readers of a
  known type sift the reader of all values;
* `entries`: the members of an object as they stand there, a name that comes again included;
* **`document_eq_obj_iff`**: an object is made of its members.
-/

namespace SigningKeys.Json

/-! ## Blanks -/

theorem skipBlank_cons_of_not_blank {b : UInt8} (h : isBlankByte b = false) (bs : List UInt8) :
    skipBlank (b :: bs) = b :: bs := by
  simp [skipBlank, h]

theorem skipBlank_skipBlank (bs : List UInt8) : skipBlank (skipBlank bs) = skipBlank bs := by
  induction bs with
  | nil => rfl
  | cons b bs ih =>
    cases h : isBlankByte b with
    | true =>
      have hb : skipBlank (b :: bs) = skipBlank bs := by simp [skipBlank, h]
      rw [hb, ih]
    | false => rw [skipBlank_cons_of_not_blank h, skipBlank_cons_of_not_blank h]

/-! ## Values -/

/-- The member of an object that is read next, folded into those that were read before. -/
def keepLast (depth : Nat) (m : Members) (name : String) : Reader Members := fun bs =>
  (behindColon (value depth) bs).map fun (v, rest) => (Members.insert name v m, rest)

/-- **What a value is**, by its first byte: `ValueCase depth b bs v rest` says that the value `v`, of
at most `depth` lists and objects within one another, begins with `b` and leaves `rest` of the
`bs` that follow. -/
inductive ValueCase : Nat → UInt8 → List UInt8 → Value → List UInt8 → Prop
  | null {depth bs rest} (h : keyword nullRest bs = .ok rest) : ValueCase depth 0x6E bs .null rest
  | yes {depth bs rest} (h : keyword trueRest bs = .ok rest) :
    ValueCase depth 0x74 bs (.bool true) rest
  | no {depth bs rest} (h : keyword falseRest bs = .ok rest) :
    ValueCase depth 0x66 bs (.bool false) rest
  | below {depth bs n rest} (h : number true bs = .ok (n, rest)) :
    ValueCase depth 0x2D bs (.num n) rest
  | above {depth b bs n rest} (hb : isDigit b = true) (h : number false (b :: bs) = .ok (n, rest)) :
    ValueCase depth b bs (.num n) rest
  | str {depth bs s rest} (h : text bs = .ok (s, rest)) : ValueCase depth 0x22 bs (.str s) rest
  | arr {depth bs vs rest} (h : items (value depth) bs = .ok (vs, rest)) :
    ValueCase (depth + 1) 0x5B bs (.arr vs) rest
  | obj {depth bs m rest} (h : fields (keepLast depth) [] bs = .ok (m, rest)) :
    ValueCase (depth + 1) 0x7B bs (.obj m) rest

theorem value_eq (depth : Nat) (bs : List UInt8) :
    value depth bs =
      match skipBlank bs with
      | [] => .error .endOfValue
      | b :: rest =>
        match scalar? b rest with
        | some r => r
        | none =>
          match depth with
          | 0 => .error .tooDeep
          | d + 1 =>
            if b = 0x5B then (items (value d) rest).map fun (vs, rest) => (.arr vs, rest)
            else (fields (keepLast d) [] rest).map fun (m, rest) => (.obj m, rest) := by
  rw [value]
  rfl

/-- A digit is none of the other bytes that a value may begin with. -/
theorem isDigit_ne {b c : UInt8} (hb : isDigit b = true) (hc : isDigit c = false) : b ≠ c :=
  fun h => by rw [h, hc] at hb; cases hb

theorem isBlankByte_of_isDigit {b : UInt8} (h : isDigit b = true) : isBlankByte b = false := by
  have hne {c : UInt8} (hc : isDigit c = false) : b ≠ c := isDigit_ne h hc
  simp [isBlankByte, hne (c := 0x20) rfl, hne (c := 0x0A) rfl, hne (c := 0x09) rfl,
    hne (c := 0x0D) rfl]

/-- A value without parts, by its first byte. -/
theorem valueCase_of_scalar {depth : Nat} {b : UInt8} {bs : List UInt8} {v : Value}
    {rest : List UInt8} (h : scalar? b bs = some (.ok (v, rest))) : ValueCase depth b bs v rest := by
  unfold scalar? at h
  split_ifs at h with hnull hyes hno hbelow habove hstr
  · obtain ⟨_, hread, heq⟩ := map_eq_ok (Option.some.inj h)
    cases heq
    exact hnull ▸ .null hread
  · obtain ⟨_, hread, heq⟩ := map_eq_ok (Option.some.inj h)
    cases heq
    exact hyes ▸ .yes hread
  · obtain ⟨_, hread, heq⟩ := map_eq_ok (Option.some.inj h)
    cases heq
    exact hno ▸ .no hread
  · obtain ⟨⟨n, _⟩, hread, heq⟩ := map_eq_ok (Option.some.inj h)
    cases heq
    exact hbelow ▸ .below hread
  · obtain ⟨⟨n, _⟩, hread, heq⟩ := map_eq_ok (Option.some.inj h)
    cases heq
    exact .above habove hread
  · obtain ⟨⟨s, _⟩, hread, heq⟩ := map_eq_ok (Option.some.inj h)
    cases heq
    exact hstr ▸ .str hread
  · cases h

/-- A value with parts begins with a bracket or a brace. -/
theorem scalar?_eq_none {b : UInt8} {bs : List UInt8} (h : scalar? b bs = none) :
    b = 0x5B ∨ b = 0x7B := by
  unfold scalar? at h
  split_ifs at h with hnull hyes hno hbelow habove hstr hparts
  simpa using hparts

theorem scalar?_list (bs : List UInt8) : scalar? 0x5B bs = none := rfl

theorem scalar?_object (bs : List UInt8) : scalar? 0x7B bs = none := rfl

/-- A number without a sign, by its first digit. -/
theorem scalar?_digit {b : UInt8} (hb : isDigit b = true) (bs : List UInt8) :
    scalar? b bs = some ((number false (b :: bs)).map fun (n, rest) => (.num n, rest)) := by
  have hne {c : UInt8} (hc : isDigit c = false) : b ≠ c := isDigit_ne hb hc
  rw [scalar?, if_neg (hne rfl), if_neg (hne rfl), if_neg (hne rfl), if_neg (hne rfl), if_pos hb]

theorem value_eq_ok_iff {depth : Nat} {bs : List UInt8} {v : Value} {rest : List UInt8} :
    value depth bs = .ok (v, rest) ↔ ∃ b t, skipBlank bs = b :: t ∧ ValueCase depth b t v rest := by
  rw [value_eq]
  constructor
  · intro h
    cases hbs : skipBlank bs with
    | nil => rw [hbs] at h; cases h
    | cons b t =>
      rw [hbs] at h
      refine ⟨b, t, rfl, ?_⟩
      dsimp only at h
      cases hscalar : scalar? b t with
      | some r =>
        rw [hscalar] at h
        exact valueCase_of_scalar (hscalar.trans (congrArg some h))
      | none =>
        rw [hscalar] at h
        cases depth with
        | zero => cases h
        | succ depth =>
          dsimp only at h
          rcases scalar?_eq_none hscalar with rfl | rfl
          · obtain ⟨⟨vs, _⟩, hread, heq⟩ := map_eq_ok h
            cases heq
            exact .arr hread
          · obtain ⟨⟨m, _⟩, hread, heq⟩ := map_eq_ok h
            cases heq
            exact .obj hread
  · rintro ⟨b, t, hbs, h⟩
    rw [hbs]
    cases h with
    | null h | yes h | no h | below h | str h => simp [scalar?, h, isDigit, Except.map]
    | above hb h => simp [scalar?_digit hb, h, Except.map]
    | arr h => simp [scalar?_list, h, Except.map]
    | obj h => simp [scalar?_object, h, Except.map]

/-! ## Lists, objects and documents -/

section

variable {α σ : Type}

theorem complete_eq_ok_iff {r : Reader α} {bs : List UInt8} {a : α} :
    complete r bs = .ok a ↔ ∃ rest, r bs = .ok (a, rest) ∧ skipBlank rest = [] := by
  rw [complete, bind_eq_ok_iff]
  constructor
  · rintro ⟨⟨b, rest⟩, hread, hend⟩
    dsimp only at hend
    split at hend
    case h_1 hrest => exact ⟨rest, Except.ok.inj hend ▸ hread, hrest⟩
    case h_2 => cases hend
  · rintro ⟨rest, hread, hrest⟩
    refine ⟨(a, rest), hread, ?_⟩
    dsimp only
    rw [hrest]

theorem mapM_cons_eq_some {β : Type} {f : β → Option α} {b : β} {bs : List β} {as : List α} :
    (b :: bs).mapM f = some as ↔
      ∃ a as', f b = some a ∧ bs.mapM f = some as' ∧ as = a :: as' := by
  simp only [List.mapM_cons, bind, Option.bind_eq_some_iff, pure, Option.some.injEq]
  constructor
  · rintro ⟨a, ha, as', has, heq⟩
    exact ⟨a, as', ha, has, heq.symm⟩
  · rintro ⟨a, as', ha, has, heq⟩
    exact ⟨a, ha, as', has, heq.symm⟩

/-- A list ends, or has one more item. -/
theorem itemsFrom_eq_ok_iff {item : Reader α} {fuel : Nat} {first : Bool} {bs : List UInt8}
    {as : List α} {rest : List UInt8} :
    itemsFrom item (fuel + 1) first bs = .ok (as, rest) ↔
      (nextItem first bs = .ok (.done rest) ∧ as = []) ∨
        ∃ bs₁ a bs₂ as', nextItem first bs = .ok (.more bs₁) ∧ item bs₁ = .ok (a, bs₂) ∧
          itemsFrom item fuel false bs₂ = .ok (as', rest) ∧ as = a :: as' := by
  rw [itemsFrom, bind_eq_ok_iff]
  constructor
  · rintro ⟨next, hnext, h⟩
    cases next with
    | done bs₁ =>
      cases h
      exact .inl ⟨hnext, rfl⟩
    | more bs₁ =>
      obtain ⟨⟨a, bs₂⟩, ha, h⟩ := bind_eq_ok h
      obtain ⟨⟨as', bs₃⟩, has, h⟩ := bind_eq_ok h
      cases h
      exact .inr ⟨bs₁, a, bs₂, as', hnext, ha, has, rfl⟩
  · rintro (⟨hnext, rfl⟩ | ⟨bs₁, a, bs₂, as', hnext, ha, has, rfl⟩)
    · exact ⟨.done rest, hnext, rfl⟩
    · exact ⟨.more bs₁, hnext, bind_eq_ok_iff.2
        ⟨(a, bs₂), ha, bind_eq_ok_iff.2 ⟨(as', rest), has, rfl⟩⟩⟩

/-- An object ends, or has one more field. -/
theorem fieldsFrom_eq_ok_iff {field : σ → String → Reader σ} {fuel : Nat} {first : Bool} {s t : σ}
    {bs rest : List UInt8} :
    fieldsFrom field (fuel + 1) first s bs = .ok (t, rest) ↔
      (nextField first bs = .ok (.done rest) ∧ t = s) ∨
        ∃ bs₁ name bs₂ s' bs₃, nextField first bs = .ok (.more bs₁) ∧ text bs₁ = .ok (name, bs₂) ∧
          field s name bs₂ = .ok (s', bs₃) ∧
          fieldsFrom field fuel false s' bs₃ = .ok (t, rest) := by
  rw [fieldsFrom, bind_eq_ok_iff]
  constructor
  · rintro ⟨next, hnext, h⟩
    cases next with
    | done bs₁ =>
      cases h
      exact .inl ⟨hnext, rfl⟩
    | more bs₁ =>
      obtain ⟨⟨name, bs₂⟩, hname, h⟩ := bind_eq_ok h
      obtain ⟨⟨s', bs₃⟩, hfield, h⟩ := bind_eq_ok h
      exact .inr ⟨bs₁, name, bs₂, s', bs₃, hnext, hname, hfield, h⟩
  · rintro (⟨hnext, rfl⟩ | ⟨bs₁, name, bs₂, s', bs₃, hnext, hname, hfield, h⟩)
    · exact ⟨.done rest, hnext, rfl⟩
    · exact ⟨.more bs₁, hnext, bind_eq_ok_iff.2
        ⟨(name, bs₂), hname, bind_eq_ok_iff.2 ⟨(s', bs₃), hfield, h⟩⟩⟩

end

/-! ## Readers that sift others -/

/-- `r` accepts what `base` accepts, as far as `f` lets it through, and stops at the same place. -/
def Sifts {α β : Type} (r : Reader α) (base : Reader β) (f : β → Option α) : Prop :=
  ∀ bs a rest, r bs = .ok (a, rest) ↔ ∃ b, base bs = .ok (b, rest) ∧ f b = some a

namespace Sifts

variable {α β γ : Type} {r : Reader α} {base : Reader β} {f : β → Option α}

theorem map (h : Sifts r base f) (g : α → γ) :
    Sifts (fun bs => do let (a, rest) ← r bs; .ok (g a, rest)) base fun b => (f b).map g := by
  intro bs c rest
  constructor
  · intro hc
    obtain ⟨⟨a, _⟩, ha, heq⟩ := bind_eq_ok hc
    cases heq
    obtain ⟨b, hb, hf⟩ := (h bs a rest).1 ha
    exact ⟨b, hb, by simp [hf]⟩
  · rintro ⟨b, hb, hf⟩
    obtain ⟨a, ha, rfl⟩ := Option.map_eq_some_iff.1 hf
    exact bind_eq_ok_iff.2 ⟨(a, rest), (h bs a rest).2 ⟨b, hb, ha⟩, rfl⟩

theorem behindColon (h : Sifts r base f) : Sifts (behindColon r) (behindColon base) f := by
  intro bs a rest
  constructor
  · intro ha
    obtain ⟨bs', hcolon, ha⟩ := bind_eq_ok ha
    obtain ⟨b, hb, hf⟩ := (h bs' a rest).1 ha
    exact ⟨b, bind_eq_ok_iff.2 ⟨bs', hcolon, hb⟩, hf⟩
  · rintro ⟨b, hb, hf⟩
    obtain ⟨bs', hcolon, hb⟩ := bind_eq_ok hb
    exact bind_eq_ok_iff.2 ⟨bs', hcolon, (h bs' a rest).2 ⟨b, hb, hf⟩⟩

theorem complete (h : Sifts r base f) (bs : List UInt8) (a : α) :
    complete r bs = .ok a ↔ ∃ b, complete base bs = .ok b ∧ f b = some a := by
  simp only [complete_eq_ok_iff]
  constructor
  · rintro ⟨rest, ha, hrest⟩
    obtain ⟨b, hb, hf⟩ := (h bs a rest).1 ha
    exact ⟨b, ⟨rest, hb, hrest⟩, hf⟩
  · rintro ⟨b, ⟨rest, hb, hrest⟩, hf⟩
    exact ⟨rest, (h bs a rest).2 ⟨b, hb, hf⟩, hrest⟩

/-- Items that sift others make a list that sifts the list of the others. -/
theorem items (h : Sifts r base f) : Sifts (items r) (items base) (List.mapM f) := by
  suffices hfrom : ∀ fuel first,
      Sifts (itemsFrom r fuel first) (itemsFrom base fuel first) (List.mapM f) from
    fun bs => hfrom (bs.length + 1) true bs
  intro fuel
  induction fuel with
  | zero =>
    intro first bs as rest
    exact ⟨fun h => (by cases h), fun ⟨_, h, _⟩ => (by cases h)⟩
  | succ fuel ih =>
    intro first bs as rest
    simp only [itemsFrom_eq_ok_iff]
    constructor
    · rintro (⟨hnext, rfl⟩ | ⟨bs₁, a, bs₂, as, hnext, ha, has, rfl⟩)
      · exact ⟨[], .inl ⟨hnext, rfl⟩, rfl⟩
      · obtain ⟨b, hb, hf⟩ := (h bs₁ a bs₂).1 ha
        obtain ⟨others, hothers, hmap⟩ := (ih false bs₂ as rest).1 has
        exact ⟨b :: others, .inr ⟨bs₁, b, bs₂, others, hnext, hb, hothers, rfl⟩,
          mapM_cons_eq_some.2 ⟨a, as, hf, hmap, rfl⟩⟩
    · rintro ⟨_, ⟨hnext, rfl⟩ | ⟨bs₁, b, bs₂, others, hnext, hb, hothers, rfl⟩, hmap⟩
      · obtain rfl : as = [] := by simpa using hmap.symm
        exact .inl ⟨hnext, rfl⟩
      · obtain ⟨a, as', hf, hrest, rfl⟩ := mapM_cons_eq_some.1 hmap
        exact .inr ⟨bs₁, a, bs₂, as', hnext, (h bs₁ a bs₂).2 ⟨b, hb, hf⟩,
          (ih false bs₂ as' rest).2 ⟨others, hothers, hrest⟩, rfl⟩

end Sifts

/-! ## Typed values -/

theorem sifts_string (depth : Nat) : Sifts string (value depth) Value.text? := by
  intro bs s rest
  simp only [value_eq_ok_iff, string]
  cases hbs : skipBlank bs with
  | nil => exact ⟨fun h => (by cases h), fun ⟨_, ⟨_, _, h, _⟩, _⟩ => (by cases h)⟩
  | cons b t =>
    dsimp only
    split
    case isTrue hb =>
      subst hb
      constructor
      · exact fun h => ⟨.str s, ⟨0x22, t, rfl, .str h⟩, rfl⟩
      · rintro ⟨v, ⟨_, _, heq, hv⟩, htext⟩
        cases heq
        cases hv with
        | str h =>
          cases htext
          exact h
        | above hb => cases hb
    case isFalse hb =>
      constructor
      · intro h
        cases h
      · rintro ⟨v, ⟨_, _, heq, hv⟩, htext⟩
        cases heq
        cases hv with
        | str => exact absurd rfl hb
        | _ => cases htext

/-- A value that may be `null`. -/
theorem sifts_optional {α : Type} {depth : Nat} {r : Reader α} {f : Value → Option α}
    (h : Sifts r (value depth) f) :
    Sifts (optional r) (value depth) fun v => Jwk.optionalField f (some v) := by
  intro bs o rest
  have hskip : value depth (skipBlank bs) = value depth bs := by
    rw [value_eq, value_eq, skipBlank_skipBlank]
  rw [optional]
  split
  case h_1 t hbs =>
    -- both readers take the word
    simp only [value_eq_ok_iff, hbs]
    constructor
    · intro ho
      obtain ⟨_, hread, heq⟩ := map_eq_ok ho
      cases heq
      exact ⟨.null, ⟨0x6E, t, rfl, .null hread⟩, rfl⟩
    · rintro ⟨v, ⟨_, _, heq, hv⟩, hf⟩
      cases heq
      cases hv with
      | null hread =>
        cases hf
        exact map_eq_ok_iff.2 ⟨rest, hread, rfl⟩
      | above hb => cases hb
  case h_2 hnull =>
    have hfield {v : Value} (hv : value depth bs = .ok (v, rest)) :
        Jwk.optionalField f (some v) = (f v).map some := by
      obtain ⟨b, t, hbs, hv⟩ := value_eq_ok_iff.1 hv
      cases hv with
      | null => exact absurd hbs (hnull t)
      | _ => rfl
    rw [map_eq_ok_iff]
    constructor
    · rintro ⟨⟨a, _⟩, ha, heq⟩
      cases heq
      obtain ⟨v, hv, hf⟩ := (h _ a rest).1 ha
      rw [hskip] at hv
      exact ⟨v, hv, (hfield hv).trans (congrArg _ hf)⟩
    · rintro ⟨v, hv, hf⟩
      obtain ⟨a, ha, rfl⟩ := Option.map_eq_some_iff.1 ((hfield hv).symm.trans hf)
      rw [← hskip] at hv
      exact ⟨(a, rest), (h _ a rest).2 ⟨v, hv, ha⟩, rfl⟩

theorem texts?_eq_mapM (vs : List Value) : Value.texts? vs = vs.mapM Value.text? := by
  induction vs with
  | nil => rfl
  | cons v vs ih =>
    cases v with
    | str s =>
      rw [Value.texts?, ih, List.mapM_cons]
      cases vs.mapM Value.text? <;> rfl
    | _ => rfl

theorem sifts_strings (depth : Nat) : Sifts (strings depth) (value depth) Jwk.textsOf? := by
  intro bs ss rest
  simp only [value_eq_ok_iff, strings, sequence]
  cases hbs : skipBlank bs with
  | nil => exact ⟨fun h => (by cases h), fun ⟨_, ⟨_, _, h, _⟩, _⟩ => (by cases h)⟩
  | cons b t =>
    dsimp only
    split
    case isTrue hb =>
      subst hb
      cases depth with
      | zero =>
        constructor
        · intro h
          cases h
        · rintro ⟨v, ⟨_, _, heq, hv⟩, _⟩
          cases heq
          cases hv with
          | above hb => cases hb
      | succ depth =>
        dsimp only
        rw [(sifts_string depth).items t ss rest]
        constructor
        · rintro ⟨vs, hvs, hss⟩
          exact ⟨.arr vs, ⟨0x5B, t, rfl, .arr hvs⟩, (texts?_eq_mapM vs).trans hss⟩
        · rintro ⟨v, ⟨_, _, heq, hv⟩, hss⟩
          cases heq
          cases hv with
          | arr hvs => exact ⟨_, hvs, (texts?_eq_mapM _).symm.trans hss⟩
          | above hb => cases hb
    case isFalse hb =>
      constructor
      · intro h
        cases h
      · rintro ⟨v, ⟨_, _, heq, hv⟩, hss⟩
        cases heq
        cases hv with
        | arr => exact absurd rfl hb
        | _ => cases hss

/-! ## The members of an object -/

/-- One more member of an object. -/
def entry (depth : Nat) (es : List (String × Value)) (name : String) :
    Reader (List (String × Value)) := fun bs =>
  (behindColon (value depth) bs).map fun (v, rest) => (es ++ [(name, v)], rest)

/-- The members of an object as they stand there, a name that comes again included. -/
def entries (depth : Nat) : Reader (List (String × Value)) := fun bs =>
  match skipBlank bs with
  | [] => .error .endOfValue
  | b :: rest =>
    if b = 0x7B then
      match depth with
      | 0 => .error .tooDeep
      | d + 1 => fields (entry d) [] rest
    else .error (wrongType "an object" b rest)

theorem entry_eq_ok_iff {depth : Nat} {es es' : List (String × Value)} {name : String}
    {bs rest : List UInt8} :
    entry depth es name bs = .ok (es', rest) ↔
      ∃ v, behindColon (value depth) bs = .ok (v, rest) ∧ es' = es ++ [(name, v)] := by
  rw [entry, map_eq_ok_iff]
  constructor
  · rintro ⟨⟨v, _⟩, hv, heq⟩
    cases heq
    exact ⟨v, hv, rfl⟩
  · rintro ⟨v, hv, rfl⟩
    exact ⟨(v, rest), hv, rfl⟩

/-- Members are read behind those that were read before. -/
theorem prefix_of_fieldsFrom_entry {depth fuel : Nat} {first : Bool} {es es' : List (String × Value)}
    {bs rest : List UInt8} (h : fieldsFrom (entry depth) fuel first es bs = .ok (es', rest)) :
    es <+: es' := by
  induction fuel generalizing first es bs with
  | zero => cases h
  | succ fuel ih =>
    rcases fieldsFrom_eq_ok_iff.1 h with ⟨_, rfl⟩ | ⟨_, name, _, es₁, _, _, _, hentry, h⟩
    · exact List.prefix_rfl
    · obtain ⟨v, _, rfl⟩ := entry_eq_ok_iff.1 hentry
      exact (List.prefix_append _ _).trans (ih h)

section

variable {σ : Type} {depth : Nat} {field : σ → String → Reader σ}
  {step : σ → String × Value → Option σ}

/-- Fields that are folded into a state, after members that were read before. -/
theorem fieldsFrom_eq_ok_iff_entry
    (h : ∀ s name, Sifts (field s name) (behindColon (value depth)) fun v => step s (name, v))
    (fuel : Nat) (first : Bool) (s t : σ) (es : List (String × Value)) (bs rest : List UInt8) :
    fieldsFrom field fuel first s bs = .ok (t, rest) ↔
      ∃ es', fieldsFrom (entry depth) fuel first es bs = .ok (es ++ es', rest) ∧
        es'.foldlM step s = some t := by
  induction fuel generalizing first s es bs with
  | zero => exact ⟨fun h => (by cases h), fun ⟨_, h, _⟩ => (by cases h)⟩
  | succ fuel ih =>
    simp only [fieldsFrom_eq_ok_iff]
    constructor
    · rintro (⟨hnext, rfl⟩ | ⟨bs₁, name, bs₂, s₁, bs₃, hnext, hname, hfield, hrest⟩)
      · exact ⟨[], .inl ⟨hnext, List.append_nil es⟩, rfl⟩
      · obtain ⟨v, hv, hstep⟩ := (h s name bs₂ s₁ bs₃).1 hfield
        obtain ⟨es', hes, hfold⟩ := (ih false s₁ (es ++ [(name, v)]) bs₃).1 hrest
        rw [List.append_assoc] at hes
        refine ⟨(name, v) :: es', .inr ⟨bs₁, name, bs₂, _, bs₃, hnext, hname,
          entry_eq_ok_iff.2 ⟨v, hv, rfl⟩, hes⟩, ?_⟩
        rw [List.foldlM_cons]
        exact Option.bind_eq_some_iff.2 ⟨s₁, hstep, hfold⟩
    · rintro ⟨es', ⟨hnext, heq⟩ | ⟨bs₁, name, bs₂, es₁, bs₃, hnext, hname, hentry, hrest⟩, hfold⟩
      · obtain rfl : es' = [] := List.append_right_eq_self.1 heq
        exact .inl ⟨hnext, (Option.some.inj hfold).symm⟩
      · obtain ⟨v, hv, rfl⟩ := entry_eq_ok_iff.1 hentry
        obtain ⟨es₂, hes⟩ := prefix_of_fieldsFrom_entry hrest
        obtain rfl : (name, v) :: es₂ = es' := by
          rw [List.append_assoc] at hes
          exact List.append_cancel_left hes
        rw [List.foldlM_cons] at hfold
        obtain ⟨s₁, hstep, hfold⟩ := Option.bind_eq_some_iff.1 hfold
        rw [← hes] at hrest
        exact .inr ⟨bs₁, name, bs₂, s₁, bs₃, hnext, hname, (h s name bs₂ s₁ bs₃).2 ⟨v, hv, hstep⟩,
          (ih false s₁ _ bs₃).2 ⟨es₂, hrest, hfold⟩⟩

/-- Fields that sift values make an object that sifts its members. -/
theorem sifts_fields (step : σ → String × Value → Option σ)
    (h : ∀ s name, Sifts (field s name) (behindColon (value depth)) fun v => step s (name, v))
    (s : σ) : Sifts (fields field s) (fields (entry depth) []) fun es => es.foldlM step s :=
  fun bs t rest => fieldsFrom_eq_ok_iff_entry h (bs.length + 1) true s t [] bs rest

end

theorem fields_keepLast_eq_ok_iff (depth : Nat) {bs : List UInt8} {m : Members}
    {rest : List UInt8} :
    fields (keepLast depth) [] bs = .ok (m, rest) ↔
      ∃ es, fields (entry depth) [] bs = .ok (es, rest) ∧ Members.ofList es = m := by
  have hkeep (m : Members) (name : String) : Sifts (keepLast depth m name)
      (behindColon (value depth)) fun v => some (Members.insert name v m) := by
    intro bs m' rest
    rw [keepLast, map_eq_ok_iff]
    constructor
    · rintro ⟨⟨v, _⟩, hv, heq⟩
      cases heq
      exact ⟨v, hv, rfl⟩
    · rintro ⟨v, hv, heq⟩
      cases heq
      exact ⟨(v, rest), hv, rfl⟩
  have hsifts := sifts_fields (fun m e => some (Members.insert e.1 e.2 m)) hkeep []
  have hfold (es : List (String × Value)) :
      es.foldlM (fun m e => some (Members.insert e.1 e.2 m)) [] = some (Members.ofList es) :=
    List.foldlM_pure
  rw [hsifts bs m rest]
  simp only [hfold, Option.some.injEq]

theorem entries_eq_ok_iff {depth : Nat} {bs : List UInt8} {es : List (String × Value)}
    {rest : List UInt8} :
    entries depth bs = .ok (es, rest) ↔ ∃ d t, depth = d + 1 ∧ skipBlank bs = 0x7B :: t ∧
      fields (entry d) [] t = .ok (es, rest) := by
  rw [entries]
  constructor
  · intro h
    split at h
    case h_1 => cases h
    case h_2 b t hbs =>
      split_ifs at h with hb
      subst hb
      cases depth with
      | zero => cases h
      | succ d => exact ⟨d, t, rfl, hbs, h⟩
  · rintro ⟨d, t, rfl, hbs, h⟩
    rw [hbs]
    exact h

/-- An object is made of its members: the last one of a name counts. -/
theorem value_eq_obj_iff {depth : Nat} {bs : List UInt8} {m : Members} {rest : List UInt8} :
    value depth bs = .ok (.obj m, rest) ↔
      ∃ es, entries depth bs = .ok (es, rest) ∧ Members.ofList es = m := by
  simp only [value_eq_ok_iff, entries_eq_ok_iff]
  constructor
  · rintro ⟨b, t, hbs, hv⟩
    cases hv with
    | @obj depth _ _ _ hm =>
      obtain ⟨es, hes, rfl⟩ := (fields_keepLast_eq_ok_iff depth).1 hm
      exact ⟨es, ⟨depth, t, rfl, hbs, hes⟩, rfl⟩
  · rintro ⟨es, ⟨d, t, rfl, hbs, hes⟩, rfl⟩
    exact ⟨0x7B, t, hbs, .obj ((fields_keepLast_eq_ok_iff d).2 ⟨es, hes, rfl⟩)⟩

/-- **A document is an object** if it is made of members, of which the last one of a name counts. -/
theorem document_eq_obj_iff {bs : List UInt8} {m : Members} :
    document bs = .ok (.obj m) ↔
      ∃ es, complete (entries maxDepth) bs = .ok es ∧ Members.ofList es = m := by
  simp only [document, complete_eq_ok_iff, value_eq_obj_iff]
  constructor
  · rintro ⟨rest, ⟨es, hes, rfl⟩, hrest⟩
    exact ⟨es, ⟨rest, hes, hrest⟩, rfl⟩
  · rintro ⟨es, ⟨rest, hes, hrest⟩, rfl⟩
    exact ⟨rest, ⟨es, hes, rfl⟩, hrest⟩

end SigningKeys.Json
