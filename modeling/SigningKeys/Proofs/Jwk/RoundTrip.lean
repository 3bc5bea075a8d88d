import SigningKeys.Proofs.Json.Written
import SigningKeys.Proofs.Jwk.Record

/-!
# Written records are read as themselves

A record that was read, alone or in a set, is written as an object that is read as the same record,
in whatever order its members are written. Floating-point numbers are left out of account.

* `Jwk.Readable`: what is known of a record that was read;
* `Jwk.ofEntries?_of_perm`: the members of a record make this record;
* `Jwk.documentEntries_written`: written members are read as themselves;
* **`Jwk.parse_render`**: a written record is read as itself.
-/

namespace SigningKeys

open Json

namespace Jwk

/-! ## Records that were read -/

/-- **What is known of a record that was read.** -/
structure Readable (j : Jwk) : Prop where
  sorted : Members.Sorted j.additional
  further : ∀ e ∈ j.additional, e.1 ∉ fieldNames
  shaped : ∀ e ∈ j.additional, Shaped 126 e.2

theorem readable_of_jwk {depth : Nat} (hdepth : depth ≤ maxDepth) {bs : List UInt8} {j : Jwk}
    {rest : List UInt8} (h : jwk depth bs = .ok (j, rest)) : Readable j := by
  obtain ⟨es, hes, hj⟩ := (sifts_jwk depth bs j rest).1 h
  obtain ⟨d, t, rfl, -, hfields⟩ := entries_eq_ok_iff.1 hes
  have hadditional := additional_of_ofEntries? hj
  refine ⟨hadditional ▸ (Members.sorted_ofList es).filter _, fun e he => ?_, fun e he => ?_⟩
  · rw [hadditional] at he
    exact of_decide_eq_true (List.mem_filter.1 he).2
  · rw [hadditional] at he
    have hmem := Members.mem_of_mem_ofList (List.mem_filter.1 he).1
    obtain ⟨front, back, hread⟩ := exists_of_mem_fields hfields e hmem
    exact (shaped_value hread).mono (Nat.le_of_succ_le_succ hdepth)

theorem exists_of_mem_jwks {depth : Nat} {bs : List UInt8} {js : List Jwk} {rest : List UInt8}
    (h : jwks (depth + 1) bs = .ok (js, rest)) :
    ∀ j ∈ js, ∃ front back, jwk depth front = .ok (j, back) := by
  rw [jwks, Json.sequence] at h
  split at h
  case h_1 => cases h
  case h_2 =>
    split_ifs at h
    exact exists_of_mem_items h

/-- A member of a set keeps up that the keys have been read. -/
theorem exists_of_mem_setMember {depth : Nat} {keys keys' : Option (List Jwk)} {name : String}
    {bs rest : List UInt8}
    (hkeys : ∀ js, keys = some js → ∀ j ∈ js, ∃ front back, jwk depth front = .ok (j, back))
    (h : setMember (depth + 1) keys name bs = .ok (keys', rest)) :
    ∀ js, keys' = some js → ∀ j ∈ js, ∃ front back, jwk depth front = .ok (j, back) := by
  rw [setMember] at h
  split_ifs at h
  · obtain ⟨⟨js, _⟩, honce, heq⟩ := bind_eq_ok h
    cases heq
    rw [Draft.once] at honce
    split_ifs at honce
    obtain ⟨front, -, hread⟩ := bind_eq_ok honce
    intro js' hjs
    cases hjs
    exact exists_of_mem_jwks hread
  · obtain ⟨_, _, h⟩ := bind_eq_ok h
    obtain ⟨_, _, heq⟩ := bind_eq_ok h
    cases heq
    exact hkeys

/-- The records of a set have been read. -/
theorem exists_of_mem_keys {bs : List UInt8} {s : JwkSet} (h : JwkSet.parse bs = .ok s) :
    ∀ j ∈ s.keys, ∃ front back, jwk 125 front = .ok (j, back) := by
  obtain ⟨rest, h, -⟩ := complete_eq_ok_iff.1 h
  rw [jwkSet] at h
  split at h
  case h_1 => cases h
  case h_2 b t _ =>
    split_ifs at h
    · obtain ⟨⟨keys, _⟩, hkeys, heq⟩ := map_eq_ok h
      cases heq
      have hread := fields_induction (fun _ _ _ _ _ => exists_of_mem_setMember)
        (fun js hjs => (by cases hjs)) hkeys
      cases keys with
      | none => exact fun j hj => (by cases hj)
      | some js => exact hread js rfl
    · obtain ⟨next, _, h⟩ := bind_eq_ok h
      cases next with
      | done =>
        cases h
        exact fun j hj => (by cases hj)
      | more =>
        obtain ⟨⟨js, _⟩, hjs, h⟩ := bind_eq_ok h
        obtain ⟨_, _, heq⟩ := bind_eq_ok h
        cases heq
        exact exists_of_mem_jwks hjs

/-! ## The members of a record -/

section

variable {j : Jwk} {name : String} {v : Value}

/-- What a record has under a name of its own. -/
structure Owned (name : String) (v : Value) : Prop where
  fits : Fits name v
  kept : kept name v = some v
  shaped : Shaped 126 v
  free : FloatFree v

theorem shaped_textList (ss : List String) : Shaped 126 (textList ss) := by
  refine .arr fun v hv => ?_
  obtain ⟨s, -, rfl⟩ := List.mem_map.1 hv
  exact .str s

theorem floatFree_textList (ss : List String) : FloatFree (textList ss) := by
  refine .arr fun v hv => ?_
  obtain ⟨s, -, rfl⟩ := List.mem_map.1 hv
  exact .str s

theorem owned_of_own (h : j.own name = some v) : Owned name v := by
  by_cases hname : name ∈ fieldNames
  · rcases mem_fieldNames.1 hname with rfl | rfl | rfl | rfl | rfl | rfl | rfl | rfl
    · cases h
      exact ⟨⟨_, rfl⟩, rfl, .str _, .str _⟩
    · cases h
      exact ⟨⟨_, rfl⟩, rfl, .str _, .str _⟩
    · obtain ⟨s, -, rfl⟩ := Option.map_eq_some_iff.1 h
      exact ⟨.inr ⟨s, rfl⟩, rfl, .str _, .str _⟩
    · obtain ⟨s, -, rfl⟩ := Option.map_eq_some_iff.1 h
      exact ⟨.inr ⟨s, rfl⟩, rfl, .str _, .str _⟩
    · obtain ⟨ss, -, rfl⟩ := Option.map_eq_some_iff.1 h
      exact ⟨.inr (.inr ⟨ss, rfl⟩), rfl, shaped_textList ss, floatFree_textList ss⟩
    · obtain ⟨ss, -, rfl⟩ := Option.map_eq_some_iff.1 h
      exact ⟨.inr ⟨ss, rfl⟩, rfl, shaped_textList ss, floatFree_textList ss⟩
    · obtain ⟨s, -, rfl⟩ := Option.map_eq_some_iff.1 h
      exact ⟨.inr ⟨s, rfl⟩, rfl, .str _, .str _⟩
    · obtain ⟨s, -, rfl⟩ := Option.map_eq_some_iff.1 h
      exact ⟨.inr ⟨s, rfl⟩, rfl, .str _, .str _⟩
  · rw [own_of_not_mem hname] at h
    cases h

/-- The further members of a record have none of its own names. -/
theorem Readable.get?_additional (hj : Readable j) (hname : name ∈ fieldNames) :
    Members.get? name j.additional = none := by
  cases h : Members.get? name j.additional with
  | none => rfl
  | some v => exact absurd hname (hj.further _ (Members.mem_of_get? h))

/-- **A member of a record** is one of its own, or one of the further ones. -/
theorem Readable.mem_toMembers (hj : Readable j) (h : (name, v) ∈ j.toMembers) :
    Owned name v ∨ (name, v) ∈ j.additional := by
  have hget := (sorted_toMembers hj.sorted).get?_of_mem h
  rw [get?_toMembers] at hget
  cases hown : j.own name with
  | none =>
    rw [hown] at hget
    exact .inr (Members.mem_of_get? hget)
  | some w =>
    rw [hown] at hget
    cases hget
    exact .inl (owned_of_own hown)

theorem Readable.admissible (hj : Readable j) : Admissible j.toMembers where
  once name _ := by
    rw [(sorted_toMembers hj.sorted).filter_eq]
    cases Members.get? name j.toMembers <;> simp
  fits e he := by
    rcases hj.mem_toMembers he with howned | hfurther
    · exact howned.fits
    · exact fits_of_not_mem (hj.further e hfurther) e.2
  kid := ⟨_, Members.mem_of_get? (get?_toMembers j "kid")⟩
  kty := ⟨_, Members.mem_of_get? (get?_toMembers j "kty")⟩

theorem Admissible.of_perm {es es' : List (String × Value)} (h : es.Perm es')
    (ha : Admissible es) : Admissible es' where
  once name hname := (h.filter _).length_eq ▸ ha.once name hname
  fits e he := ha.fits e (h.mem_iff.2 he)
  kid := ha.kid.imp fun _ => h.mem_iff.1
  kty := ha.kty.imp fun _ => h.mem_iff.1

/-- **The members of a record make this record**, in whatever order they are. -/
theorem ofEntries?_of_perm (hj : Readable j) {ms : Members} (h : ms.Perm j.toMembers) :
    ofEntries? ms = some j := by
  have hsorted := sorted_toMembers hj.sorted
  have hlist : Members.ofList ms = j.toMembers := Members.ofList_of_perm hsorted h
  obtain ⟨k, hk⟩ := exists_ofEntries?_iff.2 (hj.admissible.of_perm h.symm)
  rw [hk]
  -- both records have the same under each of their own names, and the same further members
  refine congrArg some (ext_own (fun name => ?_) ?_)
  · by_cases hname : name ∈ fieldNames
    · rw [own_of_ofEntries? hk hname, hlist, get?_toMembers, hj.get?_additional hname,
        Option.or_none]
      cases hown : j.own name with
      | none => rfl
      | some v => exact (owned_of_own hown).kept
    · rw [own_of_not_mem hname, own_of_not_mem hname]
  · rw [additional_of_ofEntries? hk, hlist]
    refine (hsorted.filter _).ext hj.sorted fun name => ?_
    rw [Members.get?_filter (fun n => n ∉ fieldNames), get?_toMembers]
    by_cases hname : name ∈ fieldNames
    · simp [hname, hj.get?_additional hname]
    · simp [hname, own_of_not_mem hname]

end

/-! ## Written records -/

/-- Written members are read as themselves. -/
theorem documentEntries_written {ms : Members} (h : ∀ e ∈ ms, Shaped 126 e.2)
    (hfree : ∀ e ∈ ms, FloatFree e.2) :
    documentEntries (encode (Value.obj ms).render) = .ok ms := by
  rw [Value.render, encode_ofList, utf8_chars_obj]
  refine complete_eq_ok_iff.2 ⟨[], entries_eq_ok_iff.2 ⟨126, _, rfl, rfl, ?_⟩, rfl⟩
  exact fields_written (fun e he => yields_written (h e he) (hfree e he)) []

/-- **A written record is read as itself**, in whatever order its members are written, if it was read
alone or in a set and its further members hold no floating-point number. -/
theorem parse_render {bs : List UInt8} {j : Jwk}
    (hread : parse bs = .ok j ∨ ∃ s, JwkSet.parse bs = .ok s ∧ j ∈ s.keys)
    (hfree : ∀ e ∈ j.additional, FloatFree e.2) :
    parse (encode j.render) = .ok j ∧
      ∀ ms, ms.Perm j.toMembers → parse (encode (Value.obj ms).render) = .ok j := by
  have hj : Readable j := by
    rcases hread with hj | ⟨s, hs, hmem⟩
    · obtain ⟨rest, hj, -⟩ := complete_eq_ok_iff.1 hj
      exact readable_of_jwk (Nat.le_refl maxDepth) hj
    · obtain ⟨front, back, hj⟩ := exists_of_mem_keys hs j hmem
      exact readable_of_jwk (by decide) hj
  have hany (ms : Members) (hms : ms.Perm j.toMembers) :
      parse (encode (Value.obj ms).render) = .ok j := by
    have hparts : ∀ e ∈ ms, Shaped 126 e.2 ∧ FloatFree e.2 := by
      intro e he
      rcases hj.mem_toMembers (hms.mem_iff.1 he) with howned | hfurther
      · exact ⟨howned.shaped, howned.free⟩
      · exact ⟨hj.shaped e hfurther, hfree e hfurther⟩
    have hentries := documentEntries_written (fun e he => (hparts e he).1)
      fun e he => (hparts e he).2
    exact (parse_eq_ok_iff_of_entries hentries).2 (ofEntries?_of_perm hj hms)
  exact ⟨hany j.toMembers (.refl _), hany⟩

/-- A record with the least and the greatest integer. -/
def edges : Jwk where
  kid := "é"
  kty := "oct"
  keyOps := some ["sign"]
  additional := [("k", .arr [.num (.int (-9223372036854775808)),
    .obj [("max", .num (.int 18446744073709551615))]])]

/-- A set that holds the record, written in another way. -/
def edgesText : String :=
  "\x7b\"keys\": [\x7b\"kid\": \"\\u00e9\", \"kty\": \"oct\", \"key_ops\": \"sign\", \"alg\": null, " ++
    "\"k\": [-9223372036854775808, \x7b\"max\": 18446744073709551615\x7d]\x7d]\x7d"

theorem parse_render_edges :
    JwkSet.parse (encode edgesText) = .ok ⟨[edges]⟩ ∧ parse (encode edges.render) = .ok edges := by
  have hset : JwkSet.parse (encode edgesText) = .ok ⟨[edges]⟩ :=
    toOption_eq_some_iff.1 (by decide +kernel)
  have hfree : ∀ e ∈ edges.additional, FloatFree e.2 := by
    refine List.forall_mem_singleton.2 (.arr (List.forall_mem_cons.2 ⟨.int _, ?_⟩))
    exact List.forall_mem_singleton.2 (.obj (List.forall_mem_singleton.2 (.int _)))
  exact ⟨hset, (parse_render (.inr ⟨_, hset, List.mem_singleton.2 rfl⟩) hfree).1⟩

end Jwk

end SigningKeys
