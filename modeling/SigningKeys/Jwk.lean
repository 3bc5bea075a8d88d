import SigningKeys.Json.Value

/-!
# Key records

A `Jwk` is one public key as an issuer publishes it: eight named fields, and every other member of
the record in `additional`.

* `Jwk.operations`, `Jwk.text?`: what callers read off a record;
* `Jwk.toValue`, `Jwk.ofValue?`: the record as a document value, and back.
-/

namespace SigningKeys

open Json

/-- A published key. -/
structure Jwk where
  kid : String
  kty : String
  alg : Option String := none
  keyUse : Option String := none
  keyOps : Option (List String) := none
  x5c : Option (List String) := none
  x5t : Option String := none
  x5u : Option String := none
  additional : Members := []
deriving DecidableEq

namespace Jwk

/-- The names of the fields that a record has of its own. -/
def fieldNames : List String := ["kid", "kty", "alg", "use", "key_ops", "x5c", "x5t", "x5u"]

/-- The allowed operations joined by commas; none for an empty list. -/
def operations (j : Jwk) : Option String :=
  match j.keyOps with
  | none | some [] => none
  | some ops => some (",".intercalate ops)

/-- The text of a further member. -/
def text? (j : Jwk) (name : String) : Option String :=
  (Members.get? name j.additional).bind Value.text?

/-- A list of texts as a value. -/
def textList (ts : List String) : Value := .arr (ts.map .str)

/-- A member that is there only if it has a value. -/
def optionalMember (name : String) (v : Option Value) (m : Members) : Members :=
  match v with
  | some v => m.insert name v
  | none => m

/-- **The record as a value**: the further members and the fields that are there. -/
def toMembers (j : Jwk) : Members :=
  j.additional
    |> optionalMember "x5u" (j.x5u.map .str)
    |> optionalMember "x5t" (j.x5t.map .str)
    |> optionalMember "x5c" (j.x5c.map textList)
    |> optionalMember "key_ops" (j.keyOps.map textList)
    |> optionalMember "use" (j.keyUse.map .str)
    |> optionalMember "alg" (j.alg.map .str)
    |> Members.insert "kty" (.str j.kty)
    |> Members.insert "kid" (.str j.kid)

/-- The record as a value. -/
def toValue (j : Jwk) : Value := .obj j.toMembers

/-- A field that may be absent or `null`. -/
def optionalField {α : Type} (read : Value → Option α) : Option Value → Option (Option α)
  | none | some .null => some none
  | some v => (read v).map some

/-- One text or a list of texts. -/
def textOrTexts? : Value → Option (List String)
  | .str s => some [s]
  | .arr vs => Value.texts? vs
  | _ => none

/-- A list of texts. -/
def textsOf? : Value → Option (List String)
  | .arr vs => Value.texts? vs
  | _ => none

/-- **The record that an object describes**, if its fields have the right types. -/
def ofMembers? (m : Members) : Option Jwk := do
  let kid ← (m.get? "kid").bind Value.text?
  let kty ← (m.get? "kty").bind Value.text?
  let alg ← optionalField Value.text? (m.get? "alg")
  let keyUse ← optionalField Value.text? (m.get? "use")
  let keyOps ← optionalField textOrTexts? (m.get? "key_ops")
  let x5c ← optionalField textsOf? (m.get? "x5c")
  let x5t ← optionalField Value.text? (m.get? "x5t")
  let x5u ← optionalField Value.text? (m.get? "x5u")
  let additional := m.filter fun e => !fieldNames.contains e.1
  some { kid, kty, alg, keyUse, keyOps, x5c, x5t, x5u, additional }

/-- The record that a value describes. -/
def ofValue? : Value → Option Jwk
  | .obj m => ofMembers? m
  | _ => none

end Jwk

/-- The keys that an issuer publishes. -/
structure JwkSet where
  keys : List Jwk
deriving DecidableEq

namespace JwkSet

/-- The first record of a set with the given key id. -/
def find? (s : JwkSet) (kid : String) : Option Jwk := s.keys.find? (·.kid == kid)

/-- The set as a value. -/
def toValue (s : JwkSet) : Value := .object [("keys", .arr (s.keys.map Jwk.toValue))]

end JwkSet

end SigningKeys
