import SigningKeys.Jwk.Reader
import SigningKeys.KeyLocation
import SigningKeys.Network

/-!
# Key sets on the network

* `Remote`: the address of a key set, and how long to wait for it;
* `Remote.fetch`: the keys that are published there, or why they could not be had;
* `Remote.select`: the key of an id among those that were published.

Every message names the address that was configured, also after redirects.
-/

namespace SigningKeys

open Web

/-- How long to wait for a connection and for a whole request. -/
structure Timeouts where
  connect : Option Duration := none
  request : Option Duration := none
deriving DecidableEq

namespace Web.Url

/-- The address as a server is asked for it. -/
def requestText (u : Url) : String := "GET " ++ { u.withoutUser with fragment := none }.text

/-- Where a redirect leads, seen from the address that sent it. One that leads to no address that a
request can hold leads nowhere. -/
def redirect? (u : Url) (location : String) : Option Url :=
  match u.join location with
  | .ok (.web v) => if v.fitsRequest then some v else none
  | _ => none

end Web.Url

/-- A key set that is fetched over the network. -/
structure Remote where
  url : Url
  timeouts : Timeouts := {}
deriving DecidableEq

/-- What a fetch came to: its result, the requests that it made, and whether it waited for an answer
that was held. -/
structure Fetch where
  result : Except KeyError (List Jwk)
  requests : List Url := []
  waited : Bool := false

namespace Remote

/-- The key set at an address with given times to wait, none of which may be empty. -/
def check (address : Address) (timeouts : Timeouts) : Except KeyError Remote := do
  let url ← requireWeb address
  if timeouts.connect.any Duration.isZero then
    .error (.invalidConfiguration "Invalid connect timeout value '0'. Must be positive.")
  else if timeouts.request.any Duration.isZero then
    .error (.invalidConfiguration "Invalid request timeout value '0'. Must be positive.")
  else .ok { url, timeouts }

/-- The complaint about a key set that could not be had. -/
def cannotObtain (r : Remote) (detail : String) : KeyError :=
  .fetchFailed ("Cannot obtain jwks from url " ++ r.url.text ++ ": " ++ detail)

/-- The complaint about an address that no request can hold. -/
def notRequested (r : Remote) : KeyError :=
  r.cannotObtain ("builder error for url (" ++ r.url.withoutUser.text ++ ")")

/-- The complaint about a request that was not answered. -/
def notAnswered (r : Remote) : KeyError :=
  r.cannotObtain ("error sending request for url (" ++ r.url.withoutUser.text ++ ")")

/-- The complaint about one redirect too many. -/
def tooManyRedirects (r : Remote) (last : Url) : KeyError :=
  r.cannotObtain ("error following redirect for url (" ++ last.withoutUser.text ++ ")")

/-- The complaint about a body that is no key set. -/
def malformed (r : Remote) : KeyError :=
  .fetchFailed ("Failed to parse jwks from " ++ r.url.text ++ ": error decoding response body")

/-- The complaint about a key set without keys. -/
def empty (r : Remote) : KeyError := .keyNotFound ("No keys found in " ++ r.url.text)

/-- **The keys that a final answer publishes.** -/
def read (r : Remote) (answer : Response) : Except KeyError (List Jwk) :=
  if !isSuccess answer.status then .error (r.cannotObtain ("status " ++ statusText answer.status))
  else if answer.truncated then .error r.malformed
  else match JwkSet.parse answer.body with
    | .error _ => .error r.malformed
    | .ok set => if set.keys.isEmpty then .error r.empty else .ok set.keys

/-- Whether a wait is longer than the request may take. -/
def timesOut (r : Remote) (wait : Duration) : Bool :=
  r.timeouts.request.any fun t => t.nanos < wait.nanos

/-- Ask for `current`, following at most `hops` redirects. `n` is the number of the request, and
`wait` says how long an answer has been waited for. -/
def follow (r : Remote) (net : Network) (wait : Response → Duration) :
    (hops : Nat) → (current : Url) → (n : Nat) → Fetch
  | hops, current, n =>
    match net.response? n with
    | none => { result := .error r.notAnswered }
    | some answer =>
      let ended (result : Except KeyError (List Jwk)) : Fetch :=
        { result, requests := [current], waited := answer.held }
      if answer.dropped || r.timesOut (wait answer) then ended (.error r.notAnswered)
      else if !isRedirect answer.status then ended (r.read answer)
      else match answer.location.bind current.redirect? with
        | none => ended (r.read answer)
        | some next =>
          match hops with
          | 0 => ended (.error (r.tooManyRedirects current))
          | hops + 1 =>
            let rest := r.follow net wait hops next (n + 1)
            { rest with
              requests := current :: rest.requests
              waited := answer.held || rest.waited }

/-- **Fetch the key set**, with request number `n` as the first one. When no request can hold the
address, none is made. -/
def fetch (r : Remote) (net : Network) (wait : Response → Duration) (n : Nat) : Fetch :=
  if r.url.withoutUser.fitsRequest then r.follow net wait maxRedirects r.url n
  else { result := .error r.notRequested }

/-- **The published key of an id**: the first one that bears it. -/
def select (r : Remote) (kid : String) (keys : List Jwk) : Except KeyError Jwk :=
  match keys.find? (·.kid == kid) with
  | some j => .ok j
  | none => .error (.keyNotFound ("No key found in " ++ r.url.text ++ " with kid " ++ kid))

/-- The key set as a term. -/
def debug (r : Remote) : String :=
  "UrlKeySource \x7b url: " ++ Text.quoted r.url.text ++ ", .. \x7d"

end Remote

end SigningKeys
