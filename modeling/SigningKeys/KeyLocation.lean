import SigningKeys.KeyError
import SigningKeys.Web.Url

/-!
# Where a key set is published

A key set has an address of its own, or lies at the well-known path of a domain.

* `KeyLocation.endpoint`: the address of the key set, or why there is none;
* `requireWeb`: only addresses with scheme `http` or `https` can be fetched from.
-/

namespace SigningKeys

open Web

/-- What a user says about the place of a key set. -/
inductive KeyLocation where
  /-- The full address of the document. -/
  | url (text : String)
  /-- A domain that serves it at the well-known path. -/
  | domain (text : String)
deriving DecidableEq

/-- The path below a domain at which its key set lies. -/
def wellKnownPath : String := "/.well-known/jwks.json"

/-- The address of the web that an address is, if its scheme allows fetching. -/
def requireWeb : Address → Except KeyError Url
  | .web u => .ok u
  | .other s => .error (.invalidConfiguration ("Unsupported jwks uri scheme '" ++ s ++ "'"))

namespace KeyLocation

/-- The address of the web that was read, if it was one. A fault names the text that the user
gave. -/
def accept (given : String) : Except UrlFault Address → Except KeyError Url
  | .error f =>
    .error (.invalidConfiguration ("Invalid jwks uri '" ++ given ++ "': " ++ f.message))
  | .ok a => requireWeb a

/-- The address that `base` spells. -/
def address (given base : String) : Except KeyError Url := accept given (Address.parse base)

/-- The address of the key set below the address of a domain. -/
def wellKnown (given : String) (base : Url) : Except KeyError Url :=
  accept given (base.join wellKnownPath)

/-- Whether a text holds the separator of a scheme. -/
def namesScheme : List Char → Bool
  | ':' :: '/' :: '/' :: _ => true
  | _ :: rest => namesScheme rest
  | [] => false

/-- The address of a domain: `https` is meant unless the text names a scheme. -/
def baseText (domain : String) : String :=
  if namesScheme domain.toList then domain else "https://" ++ domain

/-- The address of the key set of a domain. -/
def endpointOfDomain (text : String) : Except KeyError Url :=
  let domain := Text.trimBlank text
  if domain.isEmpty then .error (.invalidConfiguration "A domain is required")
  else address domain (baseText domain) >>= wellKnown domain

/-- The address of a key set, as it was given. -/
def endpointOfUrl (text : String) : Except KeyError Url :=
  let url := Text.trimBlank text
  if url.isEmpty then .error (.invalidConfiguration "Cannot build provider without url to jwks")
  else address url url

/-- **The address of the key set.** -/
def endpoint : KeyLocation → Except KeyError Url
  | .url text => endpointOfUrl text
  | .domain text => endpointOfDomain text

end KeyLocation

end SigningKeys
