import SigningKeys.Jwk
import SigningKeys.KeyError

/-!
# Outcomes of calls

* `Outcome`: how a call for a key ends;
* `Outcome.share`: what the callers of a cache are told about the fetch that they waited for.
-/

namespace SigningKeys

/-- How a call for a key ends. -/
inductive Outcome where
  | key (j : Jwk)
  | error (e : KeyError)
  /-- The source broke down in the middle of the call. -/
  | panic (text : String)
deriving DecidableEq

namespace Outcome

/-- The outcome that a result spells. -/
def ofExcept : Except KeyError Jwk → Outcome
  | .ok j => .key j
  | .error e => .error e

/-- The key of a successful call. -/
def key? : Outcome → Option Jwk
  | .key j => some j
  | _ => none

/-- The text about a fetch that broke down. The number of the broken task is not told. -/
def brokenFetchText (text : String) : String :=
  "Key fetch task failed: task N panicked with message " ++ Text.quoted text

/-- **What waiting callers are told**: the result of the fetch, or that it broke down. -/
def share : Outcome → Except KeyError Jwk
  | .key j => .ok j
  | .error e => .error e
  | .panic text => .error (.fetchFailed (brokenFetchText text))

end Outcome

end SigningKeys
