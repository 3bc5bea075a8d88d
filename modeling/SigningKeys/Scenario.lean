import SigningKeys.Blueprint
import SigningKeys.TokenBucket.Run

/-!
# Scenarios

A scenario lays down sources, buckets and providers, and the steps of a run in which they are used.
Everything is named by its place in the scenario.

* `Setup`: how a provider is put together;
* `Step`, `Reply`: what is done in a step, and what it answers;
* `Scenario`, `Report`: a whole run, and everything that it shows.
-/

namespace SigningKeys

/-- What a provider calls. -/
inductive Inner where
  | source (i : Nat)
  | provider (p : Nat)
deriving DecidableEq

/-- How the address of a key set is given: as a user of the library would say it, or as an address
that is only parsed. -/
inductive Site where
  | given (location : KeyLocation)
  | raw (text : String)
deriving DecidableEq

/-- How a provider is put together. -/
inductive Setup where
  /-- A cache, with limits of its own or the default ones. -/
  | cached (inner : Inner) (limits : Option (Nat × Duration))
  | limited (inner : Inner) (bucket : Nat)
  | remote (site : Site) (timeouts : Timeouts)
  | pipeline (site : Site) (changes : List Change) (inner : Option Inner)
deriving DecidableEq

/-- Why a provider could not be put together, or a step not be done. -/
inductive Refusal where
  | error (e : KeyError)
  /-- Something that it refers to is not there. -/
  | unavailable (what : String)
deriving DecidableEq

/-- A step of a run. -/
inductive Step where
  /-- Begin a call; with a time that passes during the call, if one is given. -/
  | get (provider : Nat) (kid : String) (delay : Duration)
  | advance (d : Duration)
  | release (source n : Nat)
  | abort (id : Nat)
  | drop (provider : Nat)
  /-- Fetch a whole key set. -/
  | fetchAll (provider : Nat)
  | info (provider : Nat)
  | debug (provider : Nat)
  | bucket (b : Nat) (call : BucketCall)
  | callsFor (source : Nat) (kid : String)
  /-- Whether a source has had so many calls. -/
  | hasCalls (source n : Nat)
  | metrics
deriving DecidableEq

/-- What a provider tells about itself. -/
inductive Info where
  | cached (capacity : Nat) (ttl : Duration) (entries : Nat) (inner : String)
  | limited (bucket inner : String)
  | remote (url : String)
deriving DecidableEq

/-- What a step answers. -/
inductive Reply where
  | nothing
  | outcome (o : Outcome)
  | pending (id : Nat)
  | cancelled (yes : Bool)
  | dropped (yes : Bool)
  | keys (r : Except KeyError (List Jwk))
  | info (i : Info)
  | text (t : String)
  | bucket (r : BucketReply)
  | calls (n : Nat)
  | reached (yes : Bool)
  | readings (r : List (String × Nat))
  | unavailable (what : String)

/-- Sources, buckets, providers and a network, and what is done with them. -/
structure Scenario where
  sources : List Source := []
  /-- The capacity and the interval of each bucket. -/
  buckets : List (Nat × Duration) := []
  setups : List Setup := []
  network : Network := .unreachable
  steps : List Step := []

/-- What a step shows: its answer, the calls that each source has had, how many keys each cache
stores that is held as such, and the calls that ended, by number. -/
structure StepReport where
  reply : Reply
  calls : List Nat
  entries : List Nat
  ended : List (Nat × Outcome)

/-- What a run shows. -/
structure Report where
  buckets : List (Option KeyError)
  setups : List (Option Refusal)
  steps : List StepReport
  readings : List (String × Nat)
  requests : List String

end SigningKeys
