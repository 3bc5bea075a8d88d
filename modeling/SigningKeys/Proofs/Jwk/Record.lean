import SigningKeys.Proofs.Json.Members
import SigningKeys.Proofs.Json.Typed

/-!
# Records are objects

A record is read straight from its text. It is what one would make of the text's value: an object
whose fields have their types, each once, from which only fields that are `null` are dropped.

* `Jwk.Fits`, `Jwk.Admissible`: the members that a record may have;
* `Jwk.kept`: what a record keeps of a member;
* `Draft.accept`, `sifts_jwk`: a record is read as the members of an object are;
* `Draft.own`, `Draft.of_ofEntries?`, `Draft.exists_ofEntries?_iff`: what becomes of the members;
* **`Jwk.factors`**: reading a record is reading an object.
-/

namespace SigningKeys

open Json

/-! ## What a record may have -/

namespace Jwk

/-- **Whether a value may stand under a name.** Under a name that is not the record's own, any
may. -/
def Fits : String → Value → Prop
  | "kid", v | "kty", v => ∃ s, v = .str s
  | "alg", v | "use", v | "x5t", v | "x5u", v => v = .null ∨ ∃ s, v = .str s
  | "x5c", v => v = .null ∨ ∃ ss, v = textList ss
  | "key_ops", v => v = .null ∨ (∃ s, v = .str s) ∨ ∃ ss, v = textList ss
  | _, _ => True

/-- **What a record keeps of a value.** A field that is `null` is dropped, unless it has to be
there; one operation becomes a list. -/
def kept : String → Value → Option Value
  | "alg", .null | "use", .null | "key_ops", .null | "x5c", .null | "x5t", .null | "x5u", .null =>
    none
  | "key_ops", .str s => some (textList [s])
  | _, v => some v

theorem mem_fieldNames {name : String} :
    name ∈ fieldNames ↔ name = "kid" ∨ name = "kty" ∨ name = "alg" ∨ name = "use" ∨
      name = "key_ops" ∨ name = "x5c" ∨ name = "x5t" ∨ name = "x5u" := by
  simp [fieldNames]

theorem fits_of_not_mem {name : String} (h : name ∉ fieldNames) (v : Value) : Fits name v := by
  simp only [mem_fieldNames, not_or] at h
  simp [Fits, h]

theorem text?_eq_some_iff {v : Value} {s : String} : v.text? = some s ↔ v = .str s := by
  cases v <;> simp [Value.text?]

theorem texts?_eq_some_iff {vs : List Value} {ss : List String} :
    Value.texts? vs = some ss ↔ vs = ss.map .str := by
  induction vs generalizing ss with
  | nil => simp [Value.texts?, eq_comm]
  | cons v vs ih =>
    cases v with
    | str s =>
      rw [Value.texts?, Option.map_eq_some_iff]
      cases ss with
      | nil => simp
      | cons t ts => simp [ih, and_comm]
    | _ => cases ss <;> simp [Value.texts?]

theorem textsOf?_eq_some_iff {v : Value} {ss : List String} :
    textsOf? v = some ss ↔ v = textList ss := by
  cases v <;> simp [textsOf?, textList, texts?_eq_some_iff]

theorem textOrTexts?_eq_some_iff {v : Value} {ss : List String} :
    textOrTexts? v = some ss ↔ (∃ s, v = .str s ∧ ss = [s]) ∨ v = textList ss := by
  cases v with
  | str s => simp [textOrTexts?, textList, eq_comm]
  | _ => simp [textOrTexts?, textList, texts?_eq_some_iff]

/-- `read` reads the values that may stand under `name`, and `shown` gives what is kept of them. -/
structure Reads {α : Type} (name : String) (read : Value → Option α) (shown : α → Option Value) :
    Prop where
  fits : ∀ v a, read v = some a → Fits name v ∧ shown a = kept name v
  total : ∀ v, Fits name v → ∃ a, read v = some a

theorem reads_text {name : String} (h : name = "kid" ∨ name = "kty") :
    Reads name Value.text? fun s => some (.str s) where
  fits v s hread := by
    obtain rfl := text?_eq_some_iff.1 hread
    rcases h with rfl | rfl <;> exact ⟨⟨s, rfl⟩, rfl⟩
  total v hfits := by
    rcases h with rfl | rfl <;> exact hfits.imp fun s h => text?_eq_some_iff.2 h

theorem optionalField_some {α : Type} {v : Value} (h : v ≠ .null) (read : Value → Option α) :
    optionalField read (some v) = (read v).map some := by
  cases v with
  | null => exact absurd rfl h
  | _ => rfl

theorem optionalField_eq_some {α : Type} {read : Value → Option α} {v : Value} {o : Option α}
    (h : optionalField read (some v) = some o) :
    (v = .null ∧ o = none) ∨ v ≠ .null ∧ ∃ a, read v = some a ∧ o = some a := by
  by_cases hnull : v = .null
  · subst hnull
    exact .inl ⟨rfl, (Option.some.inj h).symm⟩
  · rw [optionalField_some hnull] at h
    obtain ⟨a, ha, rfl⟩ := Option.map_eq_some_iff.1 h
    exact .inr ⟨hnull, a, ha, rfl⟩

theorem optionalField_of_eq_some {α : Type} {read : Value → Option α} {v : Value} {a : α}
    (h : read v = some a) : ∃ o, optionalField read (some v) = some o := by
  cases v with
  | null => exact ⟨none, rfl⟩
  | _ => exact ⟨some a, congrArg (Option.map some) h⟩

theorem reads_optional_text {name : String}
    (h : name = "alg" ∨ name = "use" ∨ name = "x5t" ∨ name = "x5u") :
    Reads name (fun v => optionalField Value.text? (some v)) (Option.map .str) where
  fits v o hread := by
    rcases optionalField_eq_some hread with ⟨rfl, rfl⟩ | ⟨-, s, hs, rfl⟩
    · rcases h with rfl | rfl | rfl | rfl <;> exact ⟨.inl rfl, rfl⟩
    · obtain rfl := text?_eq_some_iff.1 hs
      rcases h with rfl | rfl | rfl | rfl <;> exact ⟨.inr ⟨s, rfl⟩, rfl⟩
  total v hfits := by
    have hv : v = .null ∨ ∃ s, v = .str s := by rcases h with rfl | rfl | rfl | rfl <;> exact hfits
    rcases hv with rfl | ⟨s, rfl⟩
    · exact ⟨none, rfl⟩
    · exact ⟨some s, rfl⟩

theorem reads_certificates :
    Reads "x5c" (fun v => optionalField textsOf? (some v)) (Option.map textList) where
  fits v o hread := by
    rcases optionalField_eq_some hread with ⟨rfl, rfl⟩ | ⟨-, ss, hss, rfl⟩
    · exact ⟨.inl rfl, rfl⟩
    · obtain rfl := textsOf?_eq_some_iff.1 hss
      exact ⟨.inr ⟨ss, rfl⟩, rfl⟩
  total v hfits := by
    rcases hfits with rfl | ⟨ss, hss⟩
    · exact ⟨none, rfl⟩
    · exact optionalField_of_eq_some (textsOf?_eq_some_iff.2 hss)

theorem reads_operations :
    Reads "key_ops" (fun v => optionalField textOrTexts? (some v)) (Option.map textList) where
  fits v o hread := by
    rcases optionalField_eq_some hread with ⟨rfl, rfl⟩ | ⟨-, ss, hss, rfl⟩
    · exact ⟨.inl rfl, rfl⟩
    · rcases textOrTexts?_eq_some_iff.1 hss with ⟨s, rfl, rfl⟩ | rfl
      · exact ⟨.inr (.inl ⟨s, rfl⟩), rfl⟩
      · exact ⟨.inr (.inr ⟨ss, rfl⟩), rfl⟩
  total v hfits := by
    rcases hfits with rfl | ⟨s, hs⟩ | ⟨ss, hss⟩
    · exact ⟨none, rfl⟩
    · exact optionalField_of_eq_some (textOrTexts?_eq_some_iff.2 (.inl ⟨s, hs, rfl⟩))
    · exact optionalField_of_eq_some (textOrTexts?_eq_some_iff.2 (.inr hss))

end Jwk

/-! ## One more member -/

/-- What is read of a field that has not been seen yet. -/
def unseen {α : Type} (seen read : Option α) : Option α := if seen.isSome then none else read

theorem unseen_eq_some_iff {α : Type} {seen read : Option α} {a : α} :
    unseen seen read = some a ↔ seen = none ∧ read = some a := by
  cases seen <;> simp [unseen]

namespace Draft

open Jwk

/-- The draft with one more member, if the member may stand there. -/
def accept (d : Draft) (name : String) (v : Value) : Option Draft :=
  if name = "kid" then (unseen d.kid v.text?).map fun a => { d with kid := some a }
  else if name = "kty" then (unseen d.kty v.text?).map fun a => { d with kty := some a }
  else if name = "alg" then
    (unseen d.alg (optionalField Value.text? (some v))).map fun a => { d with alg := some a }
  else if name = "use" then
    (unseen d.keyUse (optionalField Value.text? (some v))).map fun a => { d with keyUse := some a }
  else if name = "key_ops" then
    (unseen d.keyOps (optionalField textOrTexts? (some v))).map fun a => { d with keyOps := some a }
  else if name = "x5c" then
    (unseen d.x5c (optionalField textsOf? (some v))).map fun a => { d with x5c := some a }
  else if name = "x5t" then
    (unseen d.x5t (optionalField Value.text? (some v))).map fun a => { d with x5t := some a }
  else if name = "x5u" then
    (unseen d.x5u (optionalField Value.text? (some v))).map fun a => { d with x5u := some a }
  else some { d with additional := d.additional.insert name v }

theorem sifts_once {α : Type} {depth : Nat} {r : Reader α} {read : Value → Option α}
    (h : Sifts r (value depth) read) (name : String) (seen : Option α) :
    Sifts (once name seen r) (behindColon (value depth)) fun v => unseen seen (read v) := by
  intro bs a rest
  cases seen with
  | none => exact h.behindColon bs a rest
  | some b =>
    constructor
    · intro hread
      cases hread
    · rintro ⟨v, _, hread⟩
      cases hread

theorem sifts_operations (depth : Nat) : Sifts (operations depth) (value depth)
    fun v => optionalField textOrTexts? (some v) := by
  have hoptional : Sifts (optional (value depth)) (value depth) fun v =>
      optionalField some (some v) :=
    sifts_optional fun bs v rest =>
      ⟨fun h => ⟨v, h, rfl⟩, fun ⟨_, h, heq⟩ => Option.some.inj heq ▸ h⟩
  intro bs o rest
  rw [operations, bind_eq_ok_iff]
  constructor
  · rintro ⟨⟨w, rest'⟩, hw, h⟩
    obtain ⟨v, hv, hwv⟩ := (hoptional bs w rest').1 hw
    rcases optionalField_eq_some hwv with ⟨rfl, rfl⟩ | ⟨hnull, _, heq, rfl⟩
    · cases h
      exact ⟨.null, hv, rfl⟩
    · obtain rfl := Option.some.inj heq
      dsimp only at h
      split at h
      case h_1 ops hops =>
        cases h
        exact ⟨v, hv, (optionalField_some hnull _).trans (congrArg _ hops)⟩
      case h_2 => cases h
  · rintro ⟨v, hv, h⟩
    rcases optionalField_eq_some h with ⟨rfl, rfl⟩ | ⟨hnull, ops, hops, rfl⟩
    · exact ⟨(none, rest), (hoptional bs none rest).2 ⟨.null, hv, rfl⟩, rfl⟩
    · refine ⟨(some v, rest), (hoptional bs _ rest).2 ⟨v, hv, optionalField_some hnull some⟩, ?_⟩
      dsimp only
      rw [hops]

theorem accept_of_not_mem {name : String} (h : name ∉ fieldNames) (d : Draft) (v : Value) :
    d.accept name v = some { d with additional := d.additional.insert name v } := by
  simp only [mem_fieldNames, not_or] at h
  simp [accept, h]

theorem member_of_not_mem {name : String} (h : name ∉ fieldNames) (depth : Nat) (d : Draft)
    (bs : List UInt8) :
    d.member depth name bs = (do
      let (v, rest) ← behindColon (value depth) bs
      .ok ({ d with additional := d.additional.insert name v }, rest)) := by
  simp only [mem_fieldNames, not_or] at h
  simp [member, h]

/-- **A member is read as any member is**, and kept if it may stand there. -/
theorem sifts_member (depth : Nat) (d : Draft) (name : String) :
    Sifts (d.member depth name) (behindColon (value depth)) (d.accept name) := by
  by_cases hname : name ∈ fieldNames
  · rcases mem_fieldNames.1 hname with rfl | rfl | rfl | rfl | rfl | rfl | rfl | rfl
    · exact (sifts_once (sifts_string depth) "kid" d.kid).map fun a => { d with kid := some a }
    · exact (sifts_once (sifts_string depth) "kty" d.kty).map fun a => { d with kty := some a }
    · exact (sifts_once (sifts_optional (sifts_string depth)) "alg" d.alg).map
        fun a => { d with alg := some a }
    · exact (sifts_once (sifts_optional (sifts_string depth)) "use" d.keyUse).map
        fun a => { d with keyUse := some a }
    · exact (sifts_once (sifts_operations depth) "key_ops" d.keyOps).map
        fun a => { d with keyOps := some a }
    · exact (sifts_once (sifts_optional (sifts_strings depth)) "x5c" d.x5c).map
        fun a => { d with x5c := some a }
    · exact (sifts_once (sifts_optional (sifts_string depth)) "x5t" d.x5t).map
        fun a => { d with x5t := some a }
    · exact (sifts_once (sifts_optional (sifts_string depth)) "x5u" d.x5u).map
        fun a => { d with x5u := some a }
  · intro bs d' rest
    rw [member_of_not_mem hname, bind_eq_ok_iff]
    constructor
    · rintro ⟨⟨v, _⟩, hv, heq⟩
      cases heq
      exact ⟨v, hv, accept_of_not_mem hname d v⟩
    · rintro ⟨v, hv, haccept⟩
      rw [accept_of_not_mem hname] at haccept
      cases haccept
      exact ⟨(v, rest), hv, rfl⟩

/-! ## What has become of a member -/

/-- **What the draft has kept of a field**: `none` if it has not been seen, `some none` if it was
`null`. -/
def own (d : Draft) (name : String) : Option (Option Value) :=
  if name = "kid" then d.kid.map fun s => some (.str s)
  else if name = "kty" then d.kty.map fun s => some (.str s)
  else if name = "alg" then d.alg.map (Option.map .str)
  else if name = "use" then d.keyUse.map (Option.map .str)
  else if name = "key_ops" then d.keyOps.map (Option.map textList)
  else if name = "x5c" then d.x5c.map (Option.map textList)
  else if name = "x5t" then d.x5t.map (Option.map .str)
  else if name = "x5u" then d.x5u.map (Option.map .str)
  else none

theorem own_of_not_mem {name : String} (h : name ∉ fieldNames) (d : Draft) : d.own name = none := by
  simp only [mem_fieldNames, not_or] at h
  simp [own, h]

/-- **The place of a field in a draft**: what was read of it, how it is read, what is kept of it, and
the draft that has it. -/
structure Slot (α : Type) (d : Draft) (name : String) where
  seen : Option α
  read : Value → Option α
  shown : α → Option Value
  fill : α → Draft
  reads : Reads name read shown
  accept : ∀ v, d.accept name v = (unseen seen (read v)).map fill
  own : d.own name = seen.map shown
  own_fill : ∀ a other, (fill a).own other = if other = name then some (shown a) else d.own other
  additional_fill : ∀ a, (fill a).additional = d.additional

/-- Each field has its place. -/
theorem exists_slot {name : String} (h : name ∈ fieldNames) (d : Draft) :
    ∃ α, Nonempty (Slot α d name) := by
  rcases mem_fieldNames.1 h with rfl | rfl | rfl | rfl | rfl | rfl | rfl | rfl
  · exact ⟨_, ⟨d.kid, _, _, fun a => { d with kid := some a },
      reads_text (.inl rfl), fun _ => rfl, rfl,
      fun a other => by by_cases h : other = "kid" <;> simp [Draft.own, h], fun _ => rfl⟩⟩
  · exact ⟨_, ⟨d.kty, _, _, fun a => { d with kty := some a },
      reads_text (.inr rfl), fun _ => rfl, rfl,
      fun a other => by by_cases h : other = "kty" <;> simp [Draft.own, h], fun _ => rfl⟩⟩
  · exact ⟨_, ⟨d.alg, _, _, fun a => { d with alg := some a },
      reads_optional_text (.inl rfl), fun _ => rfl, rfl,
      fun a other => by by_cases h : other = "alg" <;> simp [Draft.own, h], fun _ => rfl⟩⟩
  · exact ⟨_, ⟨d.keyUse, _, _, fun a => { d with keyUse := some a },
      reads_optional_text (.inr (.inl rfl)), fun _ => rfl, rfl,
      fun a other => by by_cases h : other = "use" <;> simp [Draft.own, h], fun _ => rfl⟩⟩
  · exact ⟨_, ⟨d.keyOps, _, _, fun a => { d with keyOps := some a },
      reads_operations, fun _ => rfl, rfl,
      fun a other => by by_cases h : other = "key_ops" <;> simp [Draft.own, h], fun _ => rfl⟩⟩
  · exact ⟨_, ⟨d.x5c, _, _, fun a => { d with x5c := some a },
      reads_certificates, fun _ => rfl, rfl,
      fun a other => by by_cases h : other = "x5c" <;> simp [Draft.own, h], fun _ => rfl⟩⟩
  · exact ⟨_, ⟨d.x5t, _, _, fun a => { d with x5t := some a },
      reads_optional_text (.inr (.inr (.inl rfl))), fun _ => rfl, rfl,
      fun a other => by by_cases h : other = "x5t" <;> simp [Draft.own, h], fun _ => rfl⟩⟩
  · exact ⟨_, ⟨d.x5u, _, _, fun a => { d with x5u := some a },
      reads_optional_text (.inr (.inr (.inr rfl))), fun _ => rfl, rfl,
      fun a other => by by_cases h : other = "x5u" <;> simp [Draft.own, h], fun _ => rfl⟩⟩

/-- A field may be accepted if it has not been seen and its value fits. -/
theorem exists_accept_iff {name : String} (h : name ∈ fieldNames) {d : Draft} {v : Value} :
    (∃ d', d.accept name v = some d') ↔ d.own name = none ∧ Fits name v := by
  obtain ⟨α, ⟨slot⟩⟩ := exists_slot h d
  rw [slot.accept v, slot.own, Option.map_eq_none_iff]
  constructor
  · rintro ⟨d', h⟩
    obtain ⟨a, ha, -⟩ := Option.map_eq_some_iff.1 h
    obtain ⟨hseen, hread⟩ := unseen_eq_some_iff.1 ha
    exact ⟨hseen, (slot.reads.fits v a hread).1⟩
  · rintro ⟨hseen, hfits⟩
    obtain ⟨a, hread⟩ := slot.reads.total v hfits
    exact ⟨slot.fill a, Option.map_eq_some_iff.2 ⟨a, unseen_eq_some_iff.2 ⟨hseen, hread⟩, rfl⟩⟩

theorem own_accept {name : String} (h : name ∈ fieldNames) {d d' : Draft} {v : Value}
    (haccept : d.accept name v = some d') (other : String) :
    d'.own other = if other = name then some (kept name v) else d.own other := by
  obtain ⟨α, ⟨slot⟩⟩ := exists_slot h d
  rw [slot.accept v] at haccept
  obtain ⟨a, ha, rfl⟩ := Option.map_eq_some_iff.1 haccept
  rw [slot.own_fill, (slot.reads.fits v a (unseen_eq_some_iff.1 ha).2).2]

theorem additional_accept {name : String} (h : name ∈ fieldNames) {d d' : Draft} {v : Value}
    (haccept : d.accept name v = some d') : d'.additional = d.additional := by
  obtain ⟨α, ⟨slot⟩⟩ := exists_slot h d
  rw [slot.accept v] at haccept
  obtain ⟨a, -, rfl⟩ := Option.map_eq_some_iff.1 haccept
  exact slot.additional_fill a

/-! ## What has become of all members -/

/-- The draft of an object's members, in the order in which they stand there. -/
def ofEntries? (es : List (String × Value)) : Option Draft :=
  es.foldlM (fun d e => d.accept e.1 e.2) {}

theorem ofEntries?_concat_eq_some_iff {es : List (String × Value)} {e : String × Value}
    {d : Draft} :
    ofEntries? (es ++ [e]) = some d ↔ ∃ d₀, ofEntries? es = some d₀ ∧ d₀.accept e.1 e.2 = some d := by
  simp [ofEntries?, List.foldlM_append, Option.bind_eq_some_iff]

/-- **What becomes of the members.** A draft has of each field what is kept of its last value, and the
members that are not its own. -/
theorem of_ofEntries? {es : List (String × Value)} {d : Draft} (h : ofEntries? es = some d) :
    (∀ name ∈ fieldNames, d.own name = (Members.last? name es).map (kept name)) ∧
      d.additional = Members.ofList (es.filter (·.1 ∉ fieldNames)) := by
  induction es using List.reverseRecOn generalizing d with
  | nil =>
    cases h
    refine ⟨fun name hname => ?_, rfl⟩
    rcases mem_fieldNames.1 hname with rfl | rfl | rfl | rfl | rfl | rfl | rfl | rfl <;> rfl
  | append_singleton es e ih =>
    obtain ⟨d₀, hd₀, haccept⟩ := ofEntries?_concat_eq_some_iff.1 h
    obtain ⟨hown, hadditional⟩ := ih hd₀
    by_cases he : e.1 ∈ fieldNames
    · refine ⟨fun name hname => ?_, ?_⟩
      · rw [own_accept he haccept, Members.last?_concat]
        split
        case isTrue heq => rw [heq, Option.map_some]
        case isFalse => exact hown name hname
      · rw [additional_accept he haccept, hadditional, List.filter_append]
        simp [he]
    · rw [accept_of_not_mem he] at haccept
      cases haccept
      refine ⟨fun name hname => ?_, ?_⟩
      · have hne : name ≠ e.1 := fun heq => he (heq ▸ hname)
        rw [Members.last?_concat, if_neg hne]
        exact hown name hname
      · have hkept : (es ++ [e]).filter (·.1 ∉ fieldNames) =
            es.filter (·.1 ∉ fieldNames) ++ [e] := by
          simp [List.filter_append, he]
        rw [hkept, Members.ofList_concat, ← hadditional]

theorem once_concat_iff {es : List (String × Value)} {e : String × Value} :
    (∀ name ∈ fieldNames, ((es ++ [e]).filter (·.1 = name)).length ≤ 1) ↔
      (∀ name ∈ fieldNames, (es.filter (·.1 = name)).length ≤ 1) ∧
        (e.1 ∈ fieldNames → es.filter (·.1 = e.1) = []) := by
  simp only [List.filter_append, List.length_append]
  constructor
  · intro h
    refine ⟨fun name hname => Nat.le_trans (Nat.le_add_right _ _) (h name hname), fun he => ?_⟩
    have hone := h e.1 he
    simp only [List.filter_cons_of_pos, decide_true, List.length_cons] at hone
    exact List.eq_nil_of_length_eq_zero (by omega)
  · rintro ⟨honce, hnone⟩ name hname
    by_cases heq : e.1 = name
    · subst heq
      simp [hnone hname]
    · simpa [heq] using honce name hname

/-- All members are accepted if no field comes twice and all values fit. -/
theorem exists_ofEntries?_iff {es : List (String × Value)} :
    (∃ d, ofEntries? es = some d) ↔
      (∀ name ∈ fieldNames, (es.filter (·.1 = name)).length ≤ 1) ∧ ∀ e ∈ es, Fits e.1 e.2 := by
  -- from the end: whether the last member may stand there depends on those before it
  induction es using List.reverseRecOn with
  | nil => exact ⟨fun _ => ⟨fun _ _ => Nat.zero_le 1, fun _ h => (by cases h)⟩, fun _ => ⟨{}, rfl⟩⟩
  | append_singleton es e ih =>
    have hown {d : Draft} (hd : ofEntries? es = some d) (he : e.1 ∈ fieldNames) :
        d.own e.1 = none ↔ es.filter (·.1 = e.1) = [] := by
      rw [(of_ofEntries? hd).1 e.1 he, Option.map_eq_none_iff, Members.last?,
        Option.map_eq_none_iff, List.getLast?_eq_none_iff]
    rw [once_concat_iff]
    constructor
    · rintro ⟨d', h⟩
      obtain ⟨d, hd, haccept⟩ := ofEntries?_concat_eq_some_iff.1 h
      obtain ⟨honce, hfits⟩ := ih.1 ⟨d, hd⟩
      have hlast : (e.1 ∈ fieldNames → es.filter (·.1 = e.1) = []) ∧ Fits e.1 e.2 := by
        by_cases he : e.1 ∈ fieldNames
        · obtain ⟨hnone, hfit⟩ := (exists_accept_iff he).1 ⟨d', haccept⟩
          exact ⟨fun _ => (hown hd he).1 hnone, hfit⟩
        · exact ⟨fun h => absurd h he, fits_of_not_mem he e.2⟩
      refine ⟨⟨honce, hlast.1⟩, fun e' he' => ?_⟩
      rcases List.mem_append.1 he' with he' | he'
      · exact hfits e' he'
      · exact List.mem_singleton.1 he' ▸ hlast.2
    · rintro ⟨⟨honce, hnone⟩, hfits⟩
      obtain ⟨d, hd⟩ := ih.2 ⟨honce, fun e' he' => hfits e' (List.mem_append_left _ he')⟩
      have haccept : ∃ d', d.accept e.1 e.2 = some d' := by
        by_cases he : e.1 ∈ fieldNames
        · exact (exists_accept_iff he).2 ⟨(hown hd he).2 (hnone he), hfits e (by simp)⟩
        · exact ⟨_, accept_of_not_mem he d e.2⟩
      obtain ⟨d', haccept⟩ := haccept
      exact ⟨d', ofEntries?_concat_eq_some_iff.2 ⟨d, hd, haccept⟩⟩

end Draft

/-! ## Records -/

namespace Jwk

/-- What a record has under a name of its own. -/
def own (j : Jwk) (name : String) : Option Value :=
  if name = "kid" then some (.str j.kid)
  else if name = "kty" then some (.str j.kty)
  else if name = "alg" then j.alg.map .str
  else if name = "use" then j.keyUse.map .str
  else if name = "key_ops" then j.keyOps.map textList
  else if name = "x5c" then j.x5c.map textList
  else if name = "x5t" then j.x5t.map .str
  else if name = "x5u" then j.x5u.map .str
  else none

theorem own_of_not_mem {name : String} (h : name ∉ fieldNames) (j : Jwk) : j.own name = none := by
  simp only [mem_fieldNames, not_or] at h
  simp [own, h]

theorem get?_optionalMember (name other : String) (v : Option Value) (m : Members) :
    Members.get? other (optionalMember name v m) =
      if other = name then v.or (Members.get? other m) else Members.get? other m := by
  cases v with
  | none => simp [optionalMember]
  | some v => simp [optionalMember, Members.get?_insert]

/-- **What a record writes under a name**: its field, or the further member. -/
theorem get?_toMembers (j : Jwk) (name : String) :
    Members.get? name j.toMembers = (j.own name).or (Members.get? name j.additional) := by
  by_cases h : name ∈ fieldNames
  · rcases mem_fieldNames.1 h with rfl | rfl | rfl | rfl | rfl | rfl | rfl | rfl <;>
      simp [toMembers, Members.get?_insert, get?_optionalMember, own]
  · rw [own_of_not_mem h]
    simp only [mem_fieldNames, not_or] at h
    simp [toMembers, Members.get?_insert, get?_optionalMember, h]

theorem sorted_optionalMember {m : Members} (h : Members.Sorted m) (name : String)
    (v : Option Value) : Members.Sorted (optionalMember name v m) := by
  cases v with
  | none => exact h
  | some v => exact h.insert name v

theorem sorted_toMembers {j : Jwk} (h : Members.Sorted j.additional) :
    Members.Sorted j.toMembers := by
  unfold toMembers
  apply_rules [Members.Sorted.insert, sorted_optionalMember]

/-- The record of an object's members, in the order in which they stand there. -/
def ofEntries? (es : List (String × Value)) : Option Jwk :=
  (Draft.ofEntries? es).bind fun d => d.finish.toOption

theorem ofEntries?_eq_some_iff {es : List (String × Value)} {j : Jwk} :
    ofEntries? es = some j ↔ ∃ d, Draft.ofEntries? es = some d ∧ d.finish = .ok j := by
  simp only [ofEntries?, Option.bind_eq_some_iff, toOption_eq_some_iff]

theorem exists_finish_iff {d : Draft} :
    (∃ j, d.finish = .ok j) ↔ d.own "kid" ≠ none ∧ d.own "kty" ≠ none := by
  cases hkid : d.kid with
  | none => simp [Draft.finish, Draft.own, hkid]
  | some kid => cases hkty : d.kty <;> simp [Draft.finish, Draft.own, hkid, hkty]

theorem finish_eq_ok {d : Draft} {j : Jwk} (h : d.finish = .ok j) :
    (∀ name, j.own name = (d.own name).join) ∧ j.additional = d.additional := by
  unfold Draft.finish at h
  split at h
  case h_1 => cases h
  case h_2 => cases h
  case h_3 kid kty hkid hkty =>
    cases h
    refine ⟨fun name => ?_, rfl⟩
    by_cases hname : name ∈ fieldNames
    · rcases mem_fieldNames.1 hname with rfl | rfl | rfl | rfl | rfl | rfl | rfl | rfl
      · exact (congrArg (fun o => (o.map fun s => some (Value.str s)).join) hkid).symm
      · exact (congrArg (fun o => (o.map fun s => some (Value.str s)).join) hkty).symm
      · exact Option.join_map_eq_map_join.symm
      · exact Option.join_map_eq_map_join.symm
      · exact Option.join_map_eq_map_join.symm
      · exact Option.join_map_eq_map_join.symm
      · exact Option.join_map_eq_map_join.symm
      · exact Option.join_map_eq_map_join.symm
    · rw [own_of_not_mem hname, Draft.own_of_not_mem hname]
      rfl

theorem jwk_eq_ok_iff {depth : Nat} {bs : List UInt8} {j : Jwk} {rest : List UInt8} :
    jwk depth bs = .ok (j, rest) ↔ ∃ d t, depth = d + 1 ∧ skipBlank bs = 0x7B :: t ∧
      ∃ draft, fields (Draft.member d) {} t = .ok (draft, rest) ∧ draft.finish = .ok j := by
  rw [jwk]
  constructor
  · intro h
    split at h
    case h_1 => cases h
    case h_2 b t hbs =>
      split_ifs at h with hb
      subst hb
      cases depth with
      | zero => cases h
      | succ d =>
        obtain ⟨⟨draft, _⟩, hdraft, h⟩ := bind_eq_ok h
        obtain ⟨_, hj, heq⟩ := bind_eq_ok h
        cases heq
        exact ⟨d, t, rfl, hbs, draft, hdraft, hj⟩
  · rintro ⟨d, t, rfl, hbs, draft, hdraft, hj⟩
    rw [hbs]
    exact bind_eq_ok_iff.2 ⟨(draft, rest), hdraft, bind_eq_ok_iff.2 ⟨j, hj, rfl⟩⟩

/-- **A record is read as the members of an object are.** -/
theorem sifts_jwk (depth : Nat) : Sifts (jwk depth) (entries depth) ofEntries? := by
  have hfields (d : Nat) : Sifts (fields (Draft.member d) {}) (fields (entry d) [])
      Draft.ofEntries? :=
    sifts_fields (fun d e => Draft.accept d e.1 e.2) (Draft.sifts_member d) {}
  intro bs j rest
  simp only [jwk_eq_ok_iff, entries_eq_ok_iff, ofEntries?_eq_some_iff]
  constructor
  · rintro ⟨d, t, hdepth, hbs, draft, hdraft, hj⟩
    obtain ⟨es, hes, hfold⟩ := (hfields d t draft rest).1 hdraft
    exact ⟨es, ⟨d, t, hdepth, hbs, hes⟩, draft, hfold, hj⟩
  · rintro ⟨es, ⟨d, t, hdepth, hbs, hes⟩, draft, hfold, hj⟩
    exact ⟨d, t, hdepth, hbs, draft, (hfields d t draft rest).2 ⟨es, hes, hfold⟩, hj⟩

/-- The members that make a record: no field twice, every value of its field's type, and a key id and
a key type among them. -/
structure Admissible (es : List (String × Value)) : Prop where
  once : ∀ name ∈ fieldNames, (es.filter (·.1 = name)).length ≤ 1
  fits : ∀ e ∈ es, Fits e.1 e.2
  kid : ∃ v, ("kid", v) ∈ es
  kty : ∃ v, ("kty", v) ∈ es

/-- Admissible members make a record, and no others do. -/
theorem exists_ofEntries?_iff {es : List (String × Value)} :
    (∃ j, ofEntries? es = some j) ↔ Admissible es := by
  have hseen {d : Draft} (hd : Draft.ofEntries? es = some d) {name : String}
      (hname : name ∈ fieldNames) : d.own name ≠ none ↔ ∃ v, (name, v) ∈ es := by
    rw [(Draft.of_ofEntries? hd).1 name hname, Ne, Option.map_eq_none_iff,
      Members.last?_eq_none_iff, not_forall_not]
  have hkid : "kid" ∈ fieldNames := mem_fieldNames.2 (.inl rfl)
  have hkty : "kty" ∈ fieldNames := mem_fieldNames.2 (.inr (.inl rfl))
  constructor
  · rintro ⟨j, h⟩
    obtain ⟨d, hd, hj⟩ := ofEntries?_eq_some_iff.1 h
    obtain ⟨honce, hfits⟩ := Draft.exists_ofEntries?_iff.1 ⟨d, hd⟩
    obtain ⟨kid, kty⟩ := exists_finish_iff.1 ⟨j, hj⟩
    exact ⟨honce, hfits, (hseen hd hkid).1 kid, (hseen hd hkty).1 kty⟩
  · rintro ⟨honce, hfits, kid, kty⟩
    obtain ⟨d, hd⟩ := Draft.exists_ofEntries?_iff.2 ⟨honce, hfits⟩
    obtain ⟨j, hj⟩ := exists_finish_iff.2 ⟨(hseen hd hkid).2 kid, (hseen hd hkty).2 kty⟩
    exact ⟨j, ofEntries?_eq_some_iff.2 ⟨d, hd, hj⟩⟩

section

variable {es es' : List (String × Value)} {j k : Jwk}

/-- The further members are those that are not the record's own. -/
theorem additional_of_ofEntries? (h : ofEntries? es = some j) :
    j.additional = (Members.ofList es).filter (·.1 ∉ fieldNames) := by
  obtain ⟨d, hd, hj⟩ := ofEntries?_eq_some_iff.1 h
  rw [(finish_eq_ok hj).2, (Draft.of_ofEntries? hd).2]
  refine (Members.sorted_ofList _).ext ((Members.sorted_ofList es).filter _) fun name => ?_
  rw [Members.get?_ofList, Members.last?_filter (fun n => n ∉ fieldNames),
    Members.get?_filter (fun n => n ∉ fieldNames), Members.get?_ofList]

theorem own_of_ofEntries? (h : ofEntries? es = some j) {name : String}
    (hname : name ∈ fieldNames) :
    j.own name = (Members.get? name (Members.ofList es)).bind (kept name) := by
  obtain ⟨d, hd, hj⟩ := ofEntries?_eq_some_iff.1 h
  rw [(finish_eq_ok hj).1, (Draft.of_ofEntries? hd).1 name hname, Members.get?_ofList]
  cases Members.last? name es <;> rfl

theorem kept_of_not_mem {name : String} (h : name ∉ fieldNames) (v : Value) :
    kept name v = some v := by
  simp only [mem_fieldNames, not_or] at h
  simp [kept, h]

/-- **A record writes what is kept of the object that it was read from.** -/
theorem toMembers_of_ofEntries? (h : ofEntries? es = some j) :
    j.toMembers = (Members.ofList es).mapMaybe kept := by
  have hadditional := additional_of_ofEntries? h
  have hsorted := Members.sorted_ofList es
  refine (sorted_toMembers (hadditional ▸ hsorted.filter _)).ext (hsorted.mapMaybe kept)
    fun name => ?_
  rw [get?_toMembers, hadditional, Members.get?_filter (fun n => n ∉ fieldNames),
    hsorted.get?_mapMaybe]
  by_cases hname : name ∈ fieldNames
  · simp [hname, own_of_ofEntries? h hname]
  · have hkept : kept name = some := funext (kept_of_not_mem hname)
    simp [hname, own_of_not_mem hname, hkept]

/-- A record is what it has under its names. -/
theorem ext_own (hown : ∀ name, j.own name = k.own name) (hadditional : j.additional = k.additional) :
    j = k := by
  have htexts : Function.Injective textList := fun a b hab =>
    (List.map_injective_iff.2 fun _ _ => Value.str.inj) (Value.arr.inj hab)
  have hstr : Function.Injective Value.str := fun _ _ => Value.str.inj
  have hkid : j.kid = k.kid := hstr (Option.some.inj (hown "kid"))
  have hkty : j.kty = k.kty := hstr (Option.some.inj (hown "kty"))
  have halg : j.alg = k.alg := Option.map_injective hstr (hown "alg")
  have huse : j.keyUse = k.keyUse := Option.map_injective hstr (hown "use")
  have hops : j.keyOps = k.keyOps := Option.map_injective htexts (hown "key_ops")
  have hx5c : j.x5c = k.x5c := Option.map_injective htexts (hown "x5c")
  have hx5t : j.x5t = k.x5t := Option.map_injective hstr (hown "x5t")
  have hx5u : j.x5u = k.x5u := Option.map_injective hstr (hown "x5u")
  cases j
  cases k
  simp_all

/-- Records that are read from the same object are the same. -/
theorem eq_of_ofEntries? (hj : ofEntries? es = some j) (hk : ofEntries? es' = some k)
    (h : Members.ofList es = Members.ofList es') : j = k := by
  refine ext_own (fun name => ?_) ?_
  · by_cases hname : name ∈ fieldNames
    · rw [own_of_ofEntries? hj hname, own_of_ofEntries? hk hname, h]
    · rw [own_of_not_mem hname, own_of_not_mem hname]
  · rw [additional_of_ofEntries? hj, additional_of_ofEntries? hk, h]

theorem Admissible.of_filter_eq (h : ∀ name, es.filter (·.1 = name) = es'.filter (·.1 = name))
    (ha : Admissible es) : Admissible es' := by
  have hmem (e : String × Value) : e ∈ es ↔ e ∈ es' := by
    simpa using congrArg (e ∈ ·) (h e.1)
  exact ⟨fun name hname => h name ▸ ha.once name hname, fun e he => ha.fits e ((hmem e).2 he),
    ha.kid.imp fun v => (hmem _).1, ha.kty.imp fun v => (hmem _).1⟩

/-- **The order of the members does not matter**, as long as those of one name keep theirs. -/
theorem ofEntries?_congr (h : ∀ name, es.filter (·.1 = name) = es'.filter (·.1 = name)) :
    ofEntries? es = ofEntries? es' := by
  have hlist : Members.ofList es = Members.ofList es' :=
    (Members.sorted_ofList es).ext (Members.sorted_ofList es') fun name => by
      rw [Members.get?_ofList, Members.get?_ofList, Members.last?, h, Members.last?]
  cases hj : ofEntries? es with
  | none =>
    cases hk : ofEntries? es' with
    | none => rfl
    | some k =>
      have ha := (exists_ofEntries?_iff.1 ⟨k, hk⟩).of_filter_eq fun name => (h name).symm
      obtain ⟨j, hj'⟩ := exists_ofEntries?_iff.2 ha
      rw [hj] at hj'
      cases hj'
  | some j =>
    obtain ⟨k, hk⟩ := exists_ofEntries?_iff.2 ((exists_ofEntries?_iff.1 ⟨j, hj⟩).of_filter_eq h)
    rw [hk, eq_of_ofEntries? hj hk hlist]

end

/-! ## Documents -/

/-- The members of a document that is an object, as they stand there. -/
def documentEntries (bs : List UInt8) : Except Fault (List (String × Value)) :=
  complete (entries maxDepth) bs

theorem parse_eq_ok_iff {bs : List UInt8} {j : Jwk} :
    parse bs = .ok j ↔ ∃ es, documentEntries bs = .ok es ∧ ofEntries? es = some j :=
  (sifts_jwk maxDepth).complete bs j

theorem parse_eq_ok_iff_of_entries {bs : List UInt8} {es : List (String × Value)}
    (h : documentEntries bs = .ok es) {j : Jwk} : parse bs = .ok j ↔ ofEntries? es = some j := by
  rw [parse_eq_ok_iff]
  exact ⟨fun ⟨_, hes, hj⟩ => Except.ok.inj (hes.symm.trans h) ▸ hj, fun hj => ⟨es, h, hj⟩⟩

/-- **Reading a record is reading an object**: what is read, what is written for it, and what has no
influence on it. -/
structure Factors (bs : List UInt8) : Prop where
  /-- A document is an object if it is made of members; the last one of a name counts. -/
  object : ∀ m, document bs = .ok (.obj m) ↔
    ∃ es, documentEntries bs = .ok es ∧ Members.ofList es = m
  /-- A document is a record if it is an object of admissible members. -/
  parses : (∃ j, parse bs = .ok j) ↔
    ∃ m es, document bs = .ok (.obj m) ∧ documentEntries bs = .ok es ∧ Admissible es
  /-- The record is written as the object, without fields that are `null` and with one operation
  as a list. -/
  written : ∀ j m, parse bs = .ok j → document bs = .ok (.obj m) →
    j.toValue = .obj (Members.mapMaybe kept m)
  /-- The further members are those that are not the record's own. -/
  additional : ∀ j m, parse bs = .ok j → document bs = .ok (.obj m) →
    j.additional = m.filter (·.1 ∉ fieldNames)
  /-- The same members in another order make the same record. -/
  reordered : ∀ bs' es es', documentEntries bs = .ok es → documentEntries bs' = .ok es' →
    (∀ name, es.filter (·.1 = name) = es'.filter (·.1 = name)) →
    ∀ j, parse bs = .ok j ↔ parse bs' = .ok j

/-- **Reading a record factors through reading a document.** -/
theorem factors (bs : List UInt8) : Factors bs where
  object m := document_eq_obj_iff
  parses := by
    constructor
    · rintro ⟨j, hj⟩
      obtain ⟨es, hes, hj⟩ := parse_eq_ok_iff.1 hj
      exact ⟨_, es, document_eq_obj_iff.2 ⟨es, hes, rfl⟩, hes, exists_ofEntries?_iff.1 ⟨j, hj⟩⟩
    · rintro ⟨m, es, -, hes, ha⟩
      obtain ⟨j, hj⟩ := exists_ofEntries?_iff.2 ha
      exact ⟨j, (parse_eq_ok_iff_of_entries hes).2 hj⟩
  written j m hj hm := by
    obtain ⟨es, hes, rfl⟩ := document_eq_obj_iff.1 hm
    rw [toValue, toMembers_of_ofEntries? ((parse_eq_ok_iff_of_entries hes).1 hj)]
  additional j m hj hm := by
    obtain ⟨es, hes, rfl⟩ := document_eq_obj_iff.1 hm
    exact additional_of_ofEntries? ((parse_eq_ok_iff_of_entries hes).1 hj)
  reordered bs' es es' hes hes' h j := by
    rw [parse_eq_ok_iff_of_entries hes, parse_eq_ok_iff_of_entries hes', ofEntries?_congr h]

end Jwk

end SigningKeys
