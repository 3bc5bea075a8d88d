import SigningKeys.Proofs.Json.Skipping
import SigningKeys.Proofs.Jwk.Record

/-!
# Sets are read as their records are

A record is read in a set as it is read alone, and the further members of a set are skipped.

* `settles_jwk`: what is read of a record does not depend on where it stands;
* `KeysMember`, `Further`, `Margins`: the members of a set, and the blanks around them;
* `yields_keys`, `yields_further`: what the members of a set are read as;
* **`JwkSet.readsKeys`**: a set is read as its records are;
* `Sample.set`: a set with further members.
-/

namespace SigningKeys

open Json

/-! ## Records -/

section

variable {α : Type} {r : Nat → Reader α} {n : Nat} {f : Field}

theorem settles_once (h : Settles r n f.value.core) (hskips : ∀ d, SkipsBlank (r d)) (name : String)
    (seen : Option α) : Settles (fun d => Draft.once name seen (r d)) n f.behindName := by
  cases seen with
  | none => exact h.behindColon hskips
  | some => exact ⟨.error (.duplicateField name), fun _ _ _ _ => rfl⟩

end

section

variable {n : Nat}

theorem skipsBlank_operations (depth : Nat) : SkipsBlank (Draft.operations depth) := fun bs => by
  rw [Draft.operations, Draft.operations, skipsBlank_optional]

/-- The operations that a value or `null` is. -/
def operationsOf : Option Value → Except Fault (Option (List String))
  | none => .ok none
  | some v =>
    match Jwk.textOrTexts? v with
    | some ops => .ok (some ops)
    | none => .error (.noVariant "KeyOps")

theorem settles_operations {bs : List UInt8} (h : Spelled n bs) :
    Settles Draft.operations n bs := by
  obtain ⟨x, hx⟩ := settles_optional h (settles_value h)
  refine ⟨x >>= operationsOf, fun d hd rest hrest => ?_⟩
  have hread := hx d hd rest hrest
  dsimp only at hread
  rw [Draft.operations, hread]
  cases x with
  | error => rfl
  | ok v =>
    cases v with
    | none => rfl
    | some v =>
      simp only [operationsOf, Except.map, bind, Except.bind]
      cases Jwk.textOrTexts? v <;> rfl

/-- **Every member of a record settles.** -/
theorem settles_member {f : Field} (h : Spelled n f.value.core) (draft : Draft) (name : String) :
    Settles (fun d => Draft.member d draft name) n f.behindName := by
  have hstring := settles_string h
  have hskips : ∀ _ : Nat, SkipsBlank string := fun _ => skipsBlank_string
  have hoptional := settles_optional h hstring
  have hoptionals : ∀ _ : Nat, SkipsBlank (optional string) := fun _ => skipsBlank_optional string
  by_cases hname : name ∈ Jwk.fieldNames
  · rcases Jwk.mem_fieldNames.1 hname with rfl | rfl | rfl | rfl | rfl | rfl | rfl | rfl
    · exact (settles_once hstring hskips "kid" draft.kid).map
        fun a => { draft with kid := some a }
    · exact (settles_once hstring hskips "kty" draft.kty).map
        fun a => { draft with kty := some a }
    · exact (settles_once hoptional hoptionals "alg" draft.alg).map
        fun a => { draft with alg := some a }
    · exact (settles_once hoptional hoptionals "use" draft.keyUse).map
        fun a => { draft with keyUse := some a }
    · exact (settles_once (settles_operations h) skipsBlank_operations "key_ops" draft.keyOps).map
        fun a => { draft with keyOps := some a }
    · exact (settles_once (settles_optional h (settles_strings h))
        (fun d => skipsBlank_optional (strings d)) "x5c" draft.x5c).map
        fun a => { draft with x5c := some a }
    · exact (settles_once hoptional hoptionals "x5t" draft.x5t).map
        fun a => { draft with x5t := some a }
    · exact (settles_once hoptional hoptionals "x5u" draft.x5u).map
        fun a => { draft with x5u := some a }
  · have hmember := funext fun d => funext (Draft.member_of_not_mem hname d draft)
    rw [hmember]
    exact ((settles_value h).behindColon skipsBlank_value).map
      fun v => { draft with additional := draft.additional.insert name v }

theorem skipsBlank_jwk (depth : Nat) : SkipsBlank (jwk depth) := fun bs => by
  rw [jwk, jwk, skipBlank_skipBlank]

/-- **What is read of a record does not depend on where it stands.** -/
theorem settles_jwk {bs : List UInt8} (h : Spelled n bs) : Settles jwk n bs := by
  have hother {b : UInt8} {t : List UInt8} (h : Spelled n (b :: t)) (hblank : isBlankByte b = false)
      (hb : b ≠ 0x7B) : Settles jwk n (b :: t) := by
    refine settles_of_wrongType h "struct Jwk" fun _ rest => ?_
    simp only [jwk, skipBlank_cons_of_not_blank hblank, if_neg hb]
  cases h.form with
  | scalar hb => exact hother h (not_blank hb) (ne_of_not_mem hb (by decide))
  | list => exact hother h rfl (by decide)
  | @object n gap hgap fs hfs =>
    refine ⟨fs.foldlM (fun s f => outcome (named (Draft.member n) s) f.inner) {} >>= Draft.finish,
      fun d hd rest _ => ?_⟩
    obtain ⟨d, rfl, hle⟩ := exists_pred_of_lt hd
    have hfields := fields_listed (fun f hf s => (settles_named Draft.member fun name =>
      settles_member (hfs f hf) s name).yields hle) {} hgap rest
    simp only [jwk]
    rw [objectOf_append, skipBlank_cons_of_not_blank rfl]
    dsimp only
    rw [if_pos rfl, hfields]
    cases fs.foldlM (fun s f => outcome (named (Draft.member n) s) f.inner) {} with
    | error => rfl
    | ok draft => cases hj : draft.finish <;> simp [Except.map, bind, Except.bind, hj]

end

/-! ## The members of a set -/

/-- A record in a set is read as it is alone. -/
theorem yields_element (v : Document 125) {d : Nat} (hd : 125 ≤ d) :
    Yields (jwk d) v.core (Jwk.parse v.bytes) := by
  obtain ⟨x, hx⟩ := settles_jwk v.spelled
  have hparse : Jwk.parse v.bytes = x :=
    complete_padded (skipsBlank_jwk maxDepth) (hx maxDepth (by decide))
  rw [hparse]
  exact hx d hd

/-- **The member of a set that holds its keys**: a list of the given documents, under a name that
says `keys`. -/
structure KeysMember (vs : List (Document 125)) extends Field where
  spells : spellText name = some "keys"
  inside : List UInt8
  blank_inside : Blank inside
  core_eq : value.core = listOf inside (vs.map Document.toPadded)

/-- The member as it is usually written. -/
def KeysMember.plain (vs : List (Document 125)) : KeysMember vs where
  lead := []
  name := [.plain 0x6B (by decide), .plain 0x65 (by decide), .plain 0x79 (by decide),
    .plain 0x73 (by decide)]
  gap := []
  value := bare (listOf [] (vs.map Document.toPadded))
  blank_lead := blank_nil
  blank_gap := blank_nil
  spells := by decide +kernel
  inside := []
  blank_inside := blank_nil
  core_eq := rfl

example : (KeysMember.plain []).bytes = encode "\"keys\":[]" := by decide +kernel

/-- **A further member of a set**: any value, under a name that says something else than `keys`. -/
structure Further extends Field where
  spells : ∃ s, spellText name = some s ∧ s ≠ "keys"
  spelled : ∃ n, Spelled n value.core

/-- The blanks around and behind the opening brace of an object. -/
structure Margins where
  lead : List UInt8
  gap : List UInt8
  trail : List UInt8
  blank_lead : Blank lead
  blank_gap : Blank gap
  blank_trail : Blank trail

/-- An object as a whole document. -/
def Margins.around (m : Margins) (fs : List Field) : List UInt8 :=
  m.lead ++ objectOf m.gap fs ++ m.trail

/-- The keys of a set are read one after the other. -/
theorem yields_keys {vs : List (Document 125)} (keys : KeysMember vs) :
    Yields (named (setMember 126) none) keys.inner
      ((vs.mapM fun v => Jwk.parse v.bytes).map some) := by
  refine yields_named keys.spells fun rest _ => ?_
  have hparts : keys.behindName ++ rest = keys.gap ++ 0x3A :: (keys.value.lead ++
      (listOf keys.inside (vs.map Document.toPadded) ++ rest)) := by
    simp [Field.behindName, keys.core_eq, List.append_assoc]
  have hopens : ∀ p ∈ vs.map Document.toPadded, Opens p.core := by
    simpa using fun v _ => v.spelled.opens
  have helements : ∀ p ∈ vs.map Document.toPadded, Yields (jwk 125) p.core (Jwk.parse p.bytes) := by
    simpa using fun v _ => yields_element v (Nat.le_refl _)
  have hitems := items_listed hopens helements keys.blank_inside rest
  have hlist : jwks 126 (keys.value.lead ++ (listOf keys.inside (vs.map Document.toPadded) ++ rest)) =
      (vs.mapM fun v => Jwk.parse v.bytes).map (·, rest) := by
    rw [jwks, (skipsBlank_sequence 126 jwk).append keys.value.blank_lead, Json.sequence,
      listOf_append, skipBlank_cons_of_not_blank rfl]
    rw [List.mapM_map] at hitems
    exact hitems
  have honce : Draft.once "keys" (none : Option (List Jwk)) (jwks 126) (keys.gap ++
      0x3A :: (keys.value.lead ++ (listOf keys.inside (vs.map Document.toPadded) ++ rest))) =
      (vs.mapM fun v => Jwk.parse v.bytes).map (·, rest) := by
    rw [Draft.once, if_neg (by decide), behindColon, colon_append keys.blank_gap]
    exact hlist
  rw [hparts, setMember, if_pos rfl, honce]
  cases vs.mapM fun v => Jwk.parse v.bytes <;> rfl

/-- A further member is skipped. -/
theorem yields_further (f : Further) (seen : Option (List Jwk)) :
    Yields (named (setMember 126) seen) f.inner (.ok seen) := by
  obtain ⟨s, hs, hne⟩ := f.spells
  obtain ⟨n, hspelled⟩ := f.spelled
  refine yields_named hs fun rest hrest => ?_
  have hparts : f.behindName ++ rest =
      f.gap ++ 0x3A :: (f.value.lead ++ (f.value.core ++ rest)) := by
    simp [Field.behindName, List.append_assoc]
  rw [hparts, setMember, if_neg hne, colon_append f.blank_gap]
  simp only [bind, Except.bind]
  rw [skipValue_append f.value.blank_lead hspelled hrest]
  rfl

/-! ## Sets -/

section

variable {vs : List (Document 125)}

/-- Further members leave the keys as they are. -/
theorem foldlM_further (fs : List Further) (seen : Option (List Jwk)) :
    (fs.map Further.toField).foldlM
      (fun seen f => outcome (named (setMember 126) seen) f.inner) seen = .ok seen := by
  induction fs with
  | nil => rfl
  | cons f fs ih =>
    rw [List.map_cons, List.foldlM_cons, (yields_further f seen).outcome_eq]
    exact ih

theorem skipsBlank_jwkSet (depth : Nat) : SkipsBlank (jwkSet depth) := fun bs => by
  rw [jwkSet, jwkSet, skipBlank_skipBlank]

/-- An object is read as a set by what its members are read as. -/
theorem parse_around (m : Margins) {fs : List Field}
    (h : ∀ f ∈ fs, ∀ seen, ∃ x, Yields (named (setMember 126) seen) f.inner x) :
    JwkSet.parse (m.around fs) =
      (fs.foldlM (fun seen f => outcome (named (setMember 126) seen) f.inner) none).map
        fun js => ⟨js.getD []⟩ := by
  refine complete_padded (p := ⟨m.lead, objectOf m.gap fs, m.trail, m.blank_lead, m.blank_trail⟩)
    (skipsBlank_jwkSet maxDepth) fun rest _ => ?_
  have hmembers (f : Field) (hf : f ∈ fs) (seen : Option (List Jwk)) :
      Yields (named (setMember 126) seen) f.inner (outcome (named (setMember 126) seen) f.inner) :=
    (h f hf seen).elim fun x hx => hx.outcome_eq.symm ▸ hx
  have hfields := fields_listed hmembers none m.blank_gap rest
  rw [jwkSet, objectOf_append, skipBlank_cons_of_not_blank rfl]
  dsimp only [maxDepth]
  rw [if_pos (by decide), if_pos rfl, hfields, map_map, map_map]

theorem exists_yields_keys (keys : KeysMember vs) (seen : Option (List Jwk)) :
    ∃ x, Yields (named (setMember 126) seen) keys.inner x := by
  cases seen with
  | none => exact ⟨_, yields_keys keys⟩
  | some js => exact ⟨.error (.duplicateField "keys"), yields_named keys.spells fun _ _ => rfl⟩

end

/-- **What a set is read as**, if its keys are the given documents. -/
structure JwkSet.ReadsKeys (vs : List (Document 125)) (bs : List UInt8) : Prop where
  /-- Reading the set is reading the keys one after the other. -/
  outcome : JwkSet.parse bs = (vs.mapM fun v => Jwk.parse v.bytes).map JwkSet.mk
  /-- The set is read if every key is. -/
  parses : (∃ s, JwkSet.parse bs = .ok s) ↔ ∀ v ∈ vs, ∃ j, Jwk.parse v.bytes = .ok j
  /-- The keys of the set are the records, in the same order. -/
  keys : ∀ s, JwkSet.parse bs = .ok s → List.Forall₂ (fun v j => Jwk.parse v.bytes = .ok j) vs s.keys

/-- **A set is read as its records are**, each of them alone. Its further members have no influence,
and a set without keys is empty. -/
theorem JwkSet.readsKeys (vs : List (Document 125)) (keys : KeysMember vs)
    (before after : List Further) (m : Margins) :
    JwkSet.ReadsKeys vs (m.around
        (before.map Further.toField ++ keys.toField :: after.map Further.toField)) ∧
      JwkSet.parse (m.around (before.map Further.toField)) = .ok ⟨[]⟩ := by
  have hfurther (fs : List Further) : ∀ f ∈ fs.map Further.toField, ∀ seen,
      ∃ x, Yields (named (setMember 126) seen) f.inner x := by
    intro f hf seen
    obtain ⟨f, -, rfl⟩ := List.mem_map.1 hf
    exact ⟨_, yields_further f seen⟩
  have hset : JwkSet.parse (m.around
      (before.map Further.toField ++ keys.toField :: after.map Further.toField)) =
        (vs.mapM fun v => Jwk.parse v.bytes).map JwkSet.mk := by
    have hall : ∀ f ∈ before.map Further.toField ++ keys.toField :: after.map Further.toField,
        ∀ seen, ∃ x, Yields (named (setMember 126) seen) f.inner x := by
      intro f hf
      rcases List.mem_append.1 hf with hf | hf
      · exact hfurther before f hf
      · rcases List.mem_cons.1 hf with rfl | hf
        · exact exists_yields_keys keys
        · exact hfurther after f hf
    rw [parse_around m hall]
    simp only [List.foldlM_append, List.foldlM_cons, foldlM_further, (yields_keys keys).outcome_eq,
      bind, Except.bind]
    cases vs.mapM fun v => Jwk.parse v.bytes <;> rfl
  have hnone : JwkSet.parse (m.around (before.map Further.toField)) = .ok ⟨[]⟩ := by
    rw [parse_around m (hfurther before), foldlM_further]
    rfl
  refine ⟨⟨hset, ?_, fun s hs => ?_⟩, hnone⟩
  · rw [hset, ← exists_mapM_eq_ok_iff]
    simp only [map_eq_ok_iff]
    exact ⟨fun ⟨_, js, hjs, _⟩ => ⟨js, hjs⟩, fun ⟨js, hjs⟩ => ⟨_, js, hjs, rfl⟩⟩
  · rw [hset] at hs
    obtain ⟨js, hjs, rfl⟩ := map_eq_ok hs
    exact mapM_eq_ok_iff.1 hjs

/-! ## A set with further members -/

namespace Sample

/-- The letters of a text in which every byte stands for itself. -/
def letters (s : String) : List Letter :=
  (encode s).filterMap fun b =>
    if h : 0x20 ≤ b ∧ b ≠ 0x22 ∧ b ≠ 0x5C then some (.plain b h) else none

/-- A member without blanks. -/
def field (name : String) (core : List UInt8) : Field where
  lead := []
  name := letters name
  gap := []
  value := bare core
  blank_lead := blank_nil
  blank_gap := blank_nil

/-- The record `{"kid":"a","kty":"oct"}`. -/
def record : Document 125 where
  toPadded := bare (objectOf [] [field "kid" (0x22 :: closed (letters "a")),
    field "kty" (0x22 :: closed (letters "oct"))])
  spelled := .object blank_nil _ <| List.forall_mem_cons.2
    ⟨.text _, List.forall_mem_singleton.2 (.text _)⟩

/-- A further member that looks like a key of the set. -/
def kid : Further where
  toField := field "kid" (0x22 :: closed (letters "b"))
  spells := ⟨"kid", by decide +kernel, by decide⟩
  spelled := ⟨0, .text _⟩

/-- A further member with a list in its value. -/
def more : Further where
  toField := field "more" (listOf [] [bare (0x6E :: nullRest)])
  spells := ⟨"more", by decide +kernel, by decide⟩
  spelled := ⟨1, .list blank_nil _ (List.forall_mem_singleton.2 .null)⟩

/-- A set with a further member before its keys, and another one behind them. -/
def set : List UInt8 :=
  Margins.around ⟨[], [], [], blank_nil, blank_nil, blank_nil⟩
    ([kid].map Further.toField ++ (KeysMember.plain [record]).toField ::
      [more].map Further.toField)

example : set =
    encode ("\x7b\"kid\":\"b\",\"keys\":[\x7b\"kid\":\"a\",\"kty\":\"oct\"\x7d]," ++
      "\"more\":[null]\x7d") := by
  decide +kernel

example : (JwkSet.parse set).toOption.map (·.keys.map (·.kid)) = some ["a"] := by decide +kernel

end Sample

end SigningKeys
