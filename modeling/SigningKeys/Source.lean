import SigningKeys.Fixture
import SigningKeys.Outcome

/-!
# Sources of keys for trials

A source answers calls by a rule that is fixed beforehand, and counts them. A source with a gate
holds every call until it is released.

* `Behaviour.outcome`: how the `n`-th call of a source ends;
* `Source.arrive`: a call arrives, and learns its number and whether it may pass;
* `Source.putPermit`: a release that finds nobody waiting lets the next call pass.
-/

namespace SigningKeys

open Json

/-- How a scripted call ends. -/
inductive Reaction where
  /-- A plain record with further members, which replace its own. -/
  | key (extra : Members)
  | configuration (text : String)
  | limited (wait : Duration)
  | missing (text : String)
  | fetch (text : String)
  | material (text : String)
  | panic (text : String)

namespace Reaction

/-- The record that a plain success answers with: the requested id and the number of the call. -/
def plainRecord (kid : String) (n : Nat) : Members :=
  Members.ofList [("kid", .str kid), ("kty", .str "OKP"), ("version", .ofNat n)]

/-- A text with the number of the call behind it. -/
def numbered (text : String) (n : Nat) : String := text ++ " " ++ toString n

/-- The end of call number `n`, which asks for `kid`. -/
def outcome (r : Reaction) (kid : String) (n : Nat) : Outcome :=
  match r with
  | .key extra =>
    let members := extra.foldl (fun m e => m.insert e.1 e.2) (plainRecord kid n)
    match Jwk.ofMembers? members with
    | some j => .key j
    | none => .panic "scripted record is no key"
  | .configuration text => .error (.invalidConfiguration (numbered text n))
  | .limited wait => .error (.rateLimited wait)
  | .missing text => .error (.keyNotFound (numbered text n))
  | .fetch text => .error (.fetchFailed (numbered text n))
  | .material text => .error (.invalidKey (numbered text n))
  | .panic text => .panic (numbered text n)

end Reaction

/-- The rule by which a source answers. -/
inductive Behaviour where
  /-- A sample key for each of the known ids (for every id if none are named), marked with the
  number of the call; or nothing but failures. -/
  | sample (known : Option (List String)) (failing : Bool)
  /-- One reaction a call; the last one repeats. -/
  | scripted (reactions : List Reaction)

namespace Behaviour

/-- **How call number `n` ends**, which asks for `kid`. -/
def outcome (b : Behaviour) (kid : String) (n : Nat) : Outcome :=
  match b with
  | .sample known failing =>
    if failing then .error (.fetchFailed ("mock failure " ++ toString n))
    else if (known.map (·.contains kid)).getD true then .key (Fixture.versioned kid (toString n))
    else .error (.keyNotFound ("mock has no key " ++ kid))
  | .scripted reactions =>
    ((reactions[n]?.or reactions.getLast?).getD (.key [])).outcome kid n

end Behaviour

/-- A source: its rule, whether it has a gate, and what it counted. -/
structure Source where
  behaviour : Behaviour
  gated : Bool := false
  /-- Whether the next call may pass the gate at once. -/
  permit : Bool := false
  calls : Nat := 0
  /-- The calls for each id that was ever asked for. -/
  callsByKid : List (String × Nat) := []

namespace Source

/-- How many calls asked for an id. -/
def callsFor (s : Source) (kid : String) : Nat := (s.callsByKid.lookup kid).getD 0

/-- One more call for an id. -/
def countFor (kid : String) : List (String × Nat) → List (String × Nat)
  | [] => [(kid, 1)]
  | (k, n) :: rest => if k = kid then (k, n + 1) :: rest else (k, n) :: countFor kid rest

/-- Count a call. -/
def count (s : Source) (kid : String) : Source :=
  { s with calls := s.calls + 1, callsByKid := countFor kid s.callsByKid }

/-- **A call arrives**: its number, whether it passes at once, and the source afterwards. Passing a
gate uses up the permit. -/
def arrive (s : Source) (kid : String) : Nat × Bool × Source :=
  let counted := s.count kid
  if s.gated then (s.calls, s.permit, { counted with permit := false })
  else (s.calls, true, counted)

/-- How call number `n` ends. -/
def outcome (s : Source) (kid : String) (n : Nat) : Outcome := s.behaviour.outcome kid n

/-- Let the next call pass the gate. A second permit is lost. -/
def putPermit (s : Source) : Source := if s.gated then { s with permit := true } else s

/-- The ids of a sample source as a term. -/
def knownText : Option (List String) → String
  | none => "None"
  | some kids => "Some(\x7b" ++ ", ".intercalate (kids.eraseDups.map Text.quoted) ++ "\x7d)"

/-- The counts by id as a term. -/
def countsText (counts : List (String × Nat)) : String :=
  "\x7b" ++ ", ".intercalate (counts.map fun e => Text.quoted e.1 ++ ": " ++ toString e.2) ++ "\x7d"

/-- The source as a term. -/
def debug (s : Source) : String :=
  match s.behaviour with
  | .scripted _ => "ScriptSource"
  | .sample known failing =>
    "MockKeyProvider \x7b known_kids: " ++ knownText known ++ ", fail: " ++ toString failing ++
      ", gate: " ++ (if s.gated then "Some(Notify)" else "None") ++
      ", calls: " ++ toString s.calls ++ ", calls_by_kid: Mutex \x7b data: " ++
      countsText s.callsByKid ++ ", poisoned: false, .. \x7d \x7d"

end Source

end SigningKeys
