import SigningKeys.Base64Url
import SigningKeys.Jwk
import SigningKeys.Json.Scanner
import SigningKeys.KeyError

/-!
# Key material

The material of a key is a list of components, each the Base64 text of some bytes under a name that
depends on the type of the key. Nothing else of a record matters for it.

* `Material`: the components of a key, decoded;
* `Jwk.material`: the material of a record, or the first thing that is wrong with it.
-/

namespace SigningKeys

/-- The decoded components of a key. -/
inductive Material where
  | rsa (modulus exponent : List UInt8)
  | ellipticCurve (x y : List UInt8)
  | edwards (x : List UInt8)
deriving DecidableEq

namespace Jwk

/-- The text of a component that must be there. -/
def component (j : Jwk) (name : String) : Except KeyError String :=
  match j.text? name with
  | some t => .ok t
  | none =>
    .error (.invalidKey ("Missing '" ++ name ++ "' component for kid " ++ j.kid))

/-- The bytes of a component's text. -/
def decoded (j : Jwk) (t : String) : Except KeyError (List UInt8) :=
  match Base64Url.decode (Json.encode t) with
  | .ok bs => .ok bs
  | .error f =>
    .error (.invalidKey
      ("Invalid key material for kid " ++ j.kid ++ ": Base64 error: " ++ f.message))

/-- **The key material of a record.** All components are looked up before the first is decoded. -/
def material (j : Jwk) : Except KeyError Material :=
  if j.kty = "RSA" then do
    let n ← j.component "n"
    let e ← j.component "e"
    return .rsa (← j.decoded n) (← j.decoded e)
  else if j.kty = "EC" then do
    let x ← j.component "x"
    let y ← j.component "y"
    return .ellipticCurve (← j.decoded x) (← j.decoded y)
  else if j.kty = "OKP" then do
    let x ← j.component "x"
    return .edwards (← j.decoded x)
  else
    .error (.invalidKey ("Unsupported key type '" ++ j.kty ++ "' for kid " ++ j.kid))

end Jwk

end SigningKeys
