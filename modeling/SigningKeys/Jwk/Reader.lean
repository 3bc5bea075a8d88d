import SigningKeys.Jwk
import SigningKeys.Json.Reader
import SigningKeys.Json.Writer

/-!
# Reading key records

A record is read member by member. A field of its own must have its type, and may stand there only
once; any other member is kept, the last one of a name. A record without `kid` or `kty` is none.

* `Draft`: the part of a record that has been read;
* `jwk`, `jwkSet`: one record, and a set of records;
* `Jwk.parse`, `JwkSet.parse`: whole documents.
-/

namespace SigningKeys

open Json

/-- The part of a record that has been read. `none` stands for a field that has not been seen, and
`some none` for one that was `null`. -/
structure Draft where
  kid : Option String := none
  kty : Option String := none
  alg : Option (Option String) := none
  keyUse : Option (Option String) := none
  keyOps : Option (Option (List String)) := none
  x5c : Option (Option (List String)) := none
  x5t : Option (Option String) := none
  x5u : Option (Option String) := none
  additional : Members := []

namespace Draft

/-- The value of a field that has not been seen yet, behind its colon. A field that comes again is
refused by its name alone. -/
def once {α : Type} (name : String) (seen : Option α) (r : Reader α) : Reader α := fun bs =>
  if seen.isSome then .error (.duplicateField name) else behindColon r bs

/-- The operations of a record: absent, one text, or a list of texts. -/
def operations (depth : Nat) : Reader (Option (List String)) := fun bs => do
  let (v, rest) ← optional (value depth) bs
  match v with
  | none => .ok (none, rest)
  | some v =>
    match Jwk.textOrTexts? v with
    | some ops => .ok (some ops, rest)
    | none => .error (.noVariant "KeyOps")

/-- **The draft with one more member**, whose colon and value are read. -/
def member (depth : Nat) (d : Draft) (name : String) : Reader Draft := fun bs =>
  if name = "kid" then do
    let (v, rest) ← once name d.kid string bs
    .ok ({ d with kid := some v }, rest)
  else if name = "kty" then do
    let (v, rest) ← once name d.kty string bs
    .ok ({ d with kty := some v }, rest)
  else if name = "alg" then do
    let (v, rest) ← once name d.alg (optional string) bs
    .ok ({ d with alg := some v }, rest)
  else if name = "use" then do
    let (v, rest) ← once name d.keyUse (optional string) bs
    .ok ({ d with keyUse := some v }, rest)
  else if name = "key_ops" then do
    let (v, rest) ← once name d.keyOps (operations depth) bs
    .ok ({ d with keyOps := some v }, rest)
  else if name = "x5c" then do
    let (v, rest) ← once name d.x5c (optional (strings depth)) bs
    .ok ({ d with x5c := some v }, rest)
  else if name = "x5t" then do
    let (v, rest) ← once name d.x5t (optional string) bs
    .ok ({ d with x5t := some v }, rest)
  else if name = "x5u" then do
    let (v, rest) ← once name d.x5u (optional string) bs
    .ok ({ d with x5u := some v }, rest)
  else do
    let (v, rest) ← behindColon (value depth) bs
    .ok ({ d with additional := d.additional.insert name v }, rest)

/-- The record of a draft whose object has ended. -/
def finish (d : Draft) : Except Fault Jwk :=
  match d.kid, d.kty with
  | none, _ => .error (.missingField "kid")
  | some _, none => .error (.missingField "kty")
  | some kid, some kty =>
    .ok { kid, kty, alg := d.alg.join, keyUse := d.keyUse.join, keyOps := d.keyOps.join,
          x5c := d.x5c.join, x5t := d.x5t.join, x5u := d.x5u.join, additional := d.additional }

end Draft

/-- **One record**, as one of at most `depth` lists and objects within one another. -/
def jwk (depth : Nat) : Reader Jwk := fun bs =>
  match skipBlank bs with
  | [] => .error .endOfValue
  | b :: rest =>
    if b = 0x7B then
      match depth with
      | 0 => .error .tooDeep
      | d + 1 => do
        let (draft, rest) ← fields (Draft.member d) {} rest
        let j ← draft.finish
        .ok (j, rest)
    else .error (wrongType "struct Jwk" b rest)

/-- The records of a set. -/
def jwks (depth : Nat) : Reader (List Jwk) := sequence depth jwk

/-- The members of a set: its keys, which may stand there only once, and members that are
skipped. -/
def setMember (depth : Nat) (keys : Option (List Jwk)) (name : String) :
    Reader (Option (List Jwk)) := fun bs =>
  if name = "keys" then do
    let (js, rest) ← Draft.once name keys (jwks depth) bs
    .ok (some js, rest)
  else do
    let rest ← skipValue (← colon bs)
    .ok (keys, rest)

/-- The end of a list of one item. -/
def endOfOne (bs : List UInt8) : Except Fault (List UInt8) :=
  match skipBlank bs with
  | [] => .error .endOfList
  | b :: rest =>
    if b = 0x5D then .ok rest
    else if b = 0x2C then
      match skipBlank rest with
      | 0x5D :: _ => .error .trailingComma
      | _ => .error .trailingCharacters
    else .error .trailingCharacters

/-- A set written as a list, whose only item are the keys. -/
def listedSet (depth : Nat) : Reader JwkSet := fun bs => do
  match ← nextItem true bs with
  | .done rest => .ok (⟨[]⟩, rest)
  | .more rest =>
    let (js, rest) ← jwks depth rest
    let rest ← endOfOne rest
    .ok (⟨js⟩, rest)

/-- **A set of records**: an object with its keys under `keys`, or a list of the keys. A set without
keys is empty. -/
def jwkSet (depth : Nat) : Reader JwkSet := fun bs =>
  match skipBlank bs with
  | [] => .error .endOfValue
  | b :: rest =>
    if b = 0x7B || b = 0x5B then
      match depth with
      | 0 => .error .tooDeep
      | d + 1 =>
        if b = 0x7B then
          (fields (setMember d) none rest).map fun (js, rest) => (⟨js.getD []⟩, rest)
        else listedSet d rest
    else .error (wrongType "struct JwkSet" b rest)

/-- A whole document as one record. -/
def Jwk.parse (bs : List UInt8) : Except Fault Jwk := complete (jwk maxDepth) bs

/-- A whole document as a set of records. -/
def JwkSet.parse (bs : List UInt8) : Except Fault JwkSet := complete (jwkSet maxDepth) bs

/-- The text of a record. -/
def Jwk.render (j : Jwk) : String := j.toValue.render

/-- Whether reading the text of a record gives the record back. -/
def Jwk.roundTrips (j : Jwk) : Bool :=
  match Jwk.parse (encode j.render) with
  | .ok k => k = j
  | .error _ => false

end SigningKeys
