import SigningKeys.Duration
import SigningKeys.Text.Quoted

/-!
# Why a key was not resolved

* `KeyError`, `KeyError.message`, `KeyError.debug`: the error of one call and its two texts;
* `KeyError.retryAfter`, `KeyError.retryable`, `KeyError.kind`: what a caller or a meter reads off
  it.
-/

namespace SigningKeys

/-- The kinds of error. -/
inductive ErrorKind where
  | invalidConfiguration
  | rateLimited
  | keyNotFound
  | fetchFailed
  | invalidKey
deriving DecidableEq

namespace ErrorKind

/-- Every kind once. -/
def all : List ErrorKind :=
  [.invalidConfiguration, .rateLimited, .keyNotFound, .fetchFailed, .invalidKey]

/-- The name of a kind as a label of a measured count. -/
def label : ErrorKind → String
  | .invalidConfiguration => "invalid_configuration"
  | .rateLimited => "rate_limited"
  | .keyNotFound => "key_not_found"
  | .fetchFailed => "fetch_failed"
  | .invalidKey => "invalid_key"

/-- The full name of a kind. -/
def name : ErrorKind → String
  | .invalidConfiguration => "InvalidConfiguration"
  | .rateLimited => "RateLimited"
  | .keyNotFound => "KeyNotFound"
  | .fetchFailed => "FetchFailed"
  | .invalidKey => "InvalidKey"

/-- The kind with a given full name. -/
def ofName? (s : String) : Option ErrorKind := all.find? (·.name == s)

end ErrorKind

/-- The error of one call to a key provider, or of its configuration. -/
inductive KeyError where
  /-- A bucket, cache or key source is set up wrongly, or a token count is out of range. -/
  | invalidConfiguration (detail : String)
  /-- The bucket had no token left; one can be had after the wait. -/
  | rateLimited (wait : Duration)
  /-- The source has no record of the key. -/
  | keyNotFound (detail : String)
  /-- The source could not be read. -/
  | fetchFailed (detail : String)
  /-- The record's material is no verification key. -/
  | invalidKey (detail : String)
deriving DecidableEq

namespace KeyError

/-- The kind of an error. -/
def kind : KeyError → ErrorKind
  | .invalidConfiguration _ => .invalidConfiguration
  | .rateLimited _ => .rateLimited
  | .keyNotFound _ => .keyNotFound
  | .fetchFailed _ => .fetchFailed
  | .invalidKey _ => .invalidKey

/-- The error for people to read. -/
def message : KeyError → String
  | .invalidConfiguration t => "Configuration error: " ++ t
  | .rateLimited w =>
    "The rate limit has been reached, please wait " ++ toString w.millis ++ " milliseconds"
  | .keyNotFound t => "Signing key not found: " ++ t
  | .fetchFailed t => "JWKS fetch failed: " ++ t
  | .invalidKey t => "Invalid public key: " ++ t

/-- The error as a term: its kind and what it carries. -/
def debug : KeyError → String
  | .rateLimited w => "RateLimited \x7b retry_after: " ++ w.text ++ " \x7d"
  | .invalidConfiguration t => "InvalidConfiguration(" ++ Text.quoted t ++ ")"
  | .keyNotFound t => "KeyNotFound(" ++ Text.quoted t ++ ")"
  | .fetchFailed t => "FetchFailed(" ++ Text.quoted t ++ ")"
  | .invalidKey t => "InvalidKey(" ++ Text.quoted t ++ ")"

/-- The wait that a refusal advises. -/
def retryAfter : KeyError → Option Duration
  | .rateLimited w => some w
  | _ => none

/-- Whether the same call may succeed later: faults of configuration and of key material stay. -/
def retryable : KeyError → Bool
  | .rateLimited _ | .fetchFailed _ | .keyNotFound _ => true
  | .invalidConfiguration _ | .invalidKey _ => false

end KeyError

end SigningKeys
