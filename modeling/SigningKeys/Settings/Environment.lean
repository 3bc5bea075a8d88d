import SigningKeys.Settings

/-!
# Settings from environment variables

* `Settings.ofEnvironment`: the settings that a list of variables spells, or the first fault in the
  order in which they are read;
* `SettingsFault.message`: the complaint.

A value may have white space around it. A number is written in decimal digits, with a plus sign
before them or not, and fits 64 bits.
-/

namespace SigningKeys

/-- Why variables spell no settings. -/
inductive SettingsFault where
  | missing (name : String)
  | invalid (detail : String)
deriving DecidableEq

/-- The complaint about a fault. -/
def SettingsFault.message : SettingsFault → String
  | .missing name => "Missing required environment variable: " ++ name
  | .invalid detail => "Invalid configuration value: " ++ detail

/-- Why a text is not the value that it should be. -/
inductive ValueFault where
  | notBoolean
  | empty
  | badDigit
  | tooLarge
deriving DecidableEq

/-- The complaint about a text. -/
def ValueFault.message : ValueFault → String
  | .notBoolean => "provided string was not `true` or `false`"
  | .empty => "cannot parse integer from empty string"
  | .badDigit => "invalid digit found in string"
  | .tooLarge => "number too large to fit in target type"

namespace Settings

/-- The largest number that a variable can hold. -/
def maxNumber : Nat := 18446744073709551615

/-- A truth value in words. -/
def readBoolean (s : String) : Except ValueFault Bool :=
  if s = "true" then .ok true
  else if s = "false" then .ok false
  else .error .notBoolean

/-- Decimal digits after those that make up `n`. The first fault decides. -/
def readDigits (n : Nat) : List Char → Except ValueFault Nat
  | [] => .ok n
  | c :: rest =>
    if c.isDigit then
      let m := n * 10 + (c.toNat - 48)
      if maxNumber < m then .error .tooLarge else readDigits m rest
    else .error .badDigit

/-- A number in decimal digits, with a plus sign before them or not. -/
def readNumber (s : String) : Except ValueFault Nat :=
  match s.toList with
  | [] => .error .empty
  | ['+'] => .error .badDigit
  | '+' :: digits => readDigits 0 digits
  | digits => readDigits 0 digits

/-- The value of a variable, if it is set. -/
def readVariable {α : Type} (read : String → Except ValueFault α)
    (env : List (String × String)) (name : String) : Except SettingsFault (Option α) :=
  match env.lookup name with
  | none => .ok none
  | some text =>
    match read (Text.trimBlank text) with
    | .ok a => .ok (some a)
    | .error f =>
      .error (.invalid (name ++ " must be a valid value, got '" ++ text ++ "': " ++ f.message))

/-- The number that a variable holds, which must not be zero. -/
def readPositive (env : List (String × String)) (name : String) :
    Except SettingsFault (Option Nat) := do
  match ← readVariable readNumber env name with
  | some 0 => .error (.invalid (name ++ " must be greater than 0"))
  | n => return n

/-- Where the variables say that the key set is published. -/
def readLocation (env : List (String × String)) : Except SettingsFault KeyLocation :=
  match env.lookup "JWKS_URL", env.lookup "JWKS_DOMAIN" with
  | some _, some _ => .error (.invalid "JWKS_URL and JWKS_DOMAIN are mutually exclusive")
  | some url, none => .ok (.url url)
  | none, some domain => .ok (.domain domain)
  | none, none => .error (.missing "JWKS_URL")

/-- The variables that are read. -/
def variableNames : List String :=
  ["JWKS_URL", "JWKS_DOMAIN", "JWKS_CACHE_ENABLED", "JWKS_CACHE_SIZE", "JWKS_CACHE_TTL_SECONDS",
    "JWKS_RATE_LIMIT_ENABLED", "JWKS_RATE_LIMIT_BUCKET_SIZE", "JWKS_RATE_LIMIT_REFILL_SECONDS",
    "JWKS_HTTP_TIMEOUT_MS", "JWKS_CONNECT_TIMEOUT_MS"]

/-- **The settings that variables spell.** What is not said has its default. -/
def ofEnvironment (env : List (String × String)) : Except SettingsFault Settings := do
  let location ← readLocation env
  let cacheEnabled ← readVariable readBoolean env "JWKS_CACHE_ENABLED"
  let cacheSize ← readPositive env "JWKS_CACHE_SIZE"
  let cacheTtl ← readPositive env "JWKS_CACHE_TTL_SECONDS"
  let limitEnabled ← readVariable readBoolean env "JWKS_RATE_LIMIT_ENABLED"
  let bucketSize ← readPositive env "JWKS_RATE_LIMIT_BUCKET_SIZE"
  let refill ← readPositive env "JWKS_RATE_LIMIT_REFILL_SECONDS"
  let request ← readPositive env "JWKS_HTTP_TIMEOUT_MS"
  let connect ← readPositive env "JWKS_CONNECT_TIMEOUT_MS"
  let base : Settings := { location }
  return {
    location
    cacheEnabled := cacheEnabled.getD base.cacheEnabled
    cacheSize := cacheSize.getD base.cacheSize
    cacheTtl := (cacheTtl.map Duration.ofSeconds).getD base.cacheTtl
    limitEnabled := limitEnabled.getD base.limitEnabled
    bucketSize := bucketSize.getD base.bucketSize
    refillInterval := (refill.map Duration.ofSeconds).getD base.refillInterval
    requestTimeout := request.map Duration.ofMillis
    connectTimeout := connect.map Duration.ofMillis }

end Settings

end SigningKeys
