import SigningKeys.Proofs.Jwk.KeySet
import SigningKeys.Proofs.Jwk.RoundTrip

/-!
# Written records and written sets

A written record is read as itself, alone or in a set, and so is a written set.

* `Members.Plain`: members that hold no floating-point number and are not nested too deep;
* `Jwk.parse_written`: a written record;
* **`JwkSet.parse_written`**: a written set.
-/

namespace SigningKeys

open Json

/-- Members that hold no floating-point number, and at most `n` lists and objects within one
another. -/
def Json.Members.Plain (n : Nat) (ms : Members) : Prop :=
  ∀ e ∈ ms, Shaped n e.2 ∧ FloatFree e.2

/-! ## Records -/

/-- The written members of a record are read as the record. -/
theorem yields_record {d : Nat} {ms : Members} {j : Jwk} (hms : ms.Plain d)
    (hj : Jwk.ofEntries? ms = some j) :
    Yields (jwk (d + 1)) (utf8 (Value.obj ms).chars) (.ok j) := by
  intro rest hrest
  rw [utf8_chars_obj, List.cons_append, List.append_assoc]
  refine (Jwk.sifts_jwk _ _ _ _).2 ⟨ms, entries_eq_ok_iff.2 ⟨d, _, rfl, rfl, ?_⟩, hj⟩
  exact fields_written (fun e he => yields_written (hms e he).1 (hms e he).2) rest

namespace Jwk

variable {j : Jwk}

theorem Readable.ofEntries?_toMembers (hj : j.Readable) : ofEntries? j.toMembers = some j :=
  ofEntries?_of_perm hj (.refl _)

/-- A record has plain members if its further members hold no floating-point number. -/
theorem Readable.plain (hj : j.Readable) (hfree : ∀ e ∈ j.additional, FloatFree e.2) :
    j.toMembers.Plain 126 := by
  intro e he
  rcases hj.mem_toMembers he with howned | hfurther
  · exact ⟨howned.shaped, howned.free⟩
  · exact ⟨hj.shaped e hfurther, hfree e hfurther⟩

/-- **A written record** is read as itself. -/
theorem parse_written (hj : j.Readable) (hfree : ∀ e ∈ j.additional, FloatFree e.2) :
    parse (encode j.render) = .ok j := by
  have hread := yields_record (hj.plain hfree) hj.ofEntries?_toMembers [] stops_nil
  rw [List.append_nil] at hread
  rw [render, toValue, Value.render, encode_ofList]
  exact complete_eq_ok_iff.2 ⟨[], hread, rfl⟩

end Jwk

/-! ## Sets -/

section

variable {js : List Jwk}

/-- The written keys of a set are read as its keys. -/
theorem yields_written_keys (hread : ∀ j ∈ js, j.Readable)
    (hplain : ∀ j ∈ js, j.toMembers.Plain 124) :
    Yields (jwks 126) (utf8 (Value.arr (js.map Jwk.toValue)).chars) (.ok js) := by
  intro rest _
  have hopens : ∀ j ∈ js, Opens (utf8 j.toValue.chars) := fun j hj =>
    opens_written (.obj fun e he => (hplain j hj e he).2)
  have hyields : ∀ j ∈ js, Yields (jwk 125) (utf8 j.toValue.chars) (.ok j) := fun j hj =>
    yields_record (hplain j hj) (hread j hj).ofEntries?_toMembers
  have hitems := items_written_of hopens hyields rest
  rw [utf8_chars_arr, List.cons_append, List.append_assoc, jwks, Json.sequence,
    skipBlank_cons_of_not_blank rfl]
  exact hitems

/-- **A written set** is read as itself. -/
theorem JwkSet.parse_written (hread : ∀ j ∈ js, j.Readable)
    (hplain : ∀ j ∈ js, j.toMembers.Plain 124) :
    JwkSet.parse (encode (JwkSet.toValue ⟨js⟩).render) = .ok ⟨js⟩ := by
  obtain ⟨f, hbytes, hname, hcore⟩ := exists_field ("keys", Value.arr (js.map Jwk.toValue))
  -- the set as an object of one member
  have hset : encode (JwkSet.toValue ⟨js⟩).render =
      (Margins.mk [] [] [] blank_nil blank_nil blank_nil).around [f] := by
    have hvalue : JwkSet.toValue ⟨js⟩ = .obj [("keys", .arr (js.map Jwk.toValue))] := rfl
    have hone : Value.charsOfMembers true [("keys", .arr (js.map Jwk.toValue))] =
        writtenText "keys" ++ ':' :: (Value.arr (js.map Jwk.toValue)).chars :=
      List.append_nil _
    rw [hvalue, Value.render, encode_ofList, utf8_chars_obj, hone, Margins.around, objectOf,
      List.map_singleton, hbytes]
    simp [listed]
  have hkeys : Yields (named (setMember 126) none) f.inner (.ok (some js)) := by
    have hbehind := (hcore ▸ yields_written_keys hread hplain).behindColon (f := f)
      (skipsBlank_sequence 126 jwk)
    refine yields_named hname fun rest hrest => ?_
    have honce : Draft.once "keys" (none : Option (List Jwk)) (jwks 126) (f.behindName ++ rest) =
        .ok (js, rest) := hbehind rest hrest
    rw [setMember, if_pos rfl, honce]
    rfl
  have hseen : ∀ g ∈ [f], ∀ seen, ∃ x, Yields (named (setMember 126) seen) g.inner x := by
    refine List.forall_mem_singleton.2 fun seen => ?_
    cases seen with
    | none => exact ⟨_, hkeys⟩
    | some js => exact ⟨.error (.duplicateField "keys"), yields_named hname fun _ _ => rfl⟩
  rw [hset, parse_around _ hseen, List.foldlM_cons, hkeys.outcome_eq]
  rfl

end

end SigningKeys
