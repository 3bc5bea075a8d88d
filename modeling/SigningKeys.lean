import SigningKeys.Base64Url
import SigningKeys.Blueprint
import SigningKeys.Cache
import SigningKeys.Cache.Store
import SigningKeys.Duration
import SigningKeys.Fixture
import SigningKeys.Json.Decimal
import SigningKeys.Json.Fault
import SigningKeys.Json.Reader
import SigningKeys.Json.Scanner
import SigningKeys.Json.Shortest
import SigningKeys.Json.Value
import SigningKeys.Json.Writer
import SigningKeys.Jwk
import SigningKeys.Jwk.Material
import SigningKeys.Jwk.Reader
import SigningKeys.KeyError
import SigningKeys.KeyLocation
import SigningKeys.Main
import SigningKeys.Meter
import SigningKeys.Network
import SigningKeys.Outcome
import SigningKeys.Proofs.Cache.Lookup
import SigningKeys.Proofs.Run.Moves
import SigningKeys.Proofs.TokenBucket.Eager
import SigningKeys.Proofs.TokenBucket.Refill
import SigningKeys.Provider
import SigningKeys.Remote
import SigningKeys.Resolver
import SigningKeys.Scenario
import SigningKeys.Scenario.Run
import SigningKeys.Scenario.Scene
import SigningKeys.Settings
import SigningKeys.Settings.Environment
import SigningKeys.Source
import SigningKeys.State
import SigningKeys.State.Call
import SigningKeys.State.Moves
import SigningKeys.State.Settled
import SigningKeys.State.Turn
import SigningKeys.Text.Blank
import SigningKeys.Text.Quoted
import SigningKeys.TokenBucket
import SigningKeys.TokenBucket.Run
import SigningKeys.Unicode.Composition
import SigningKeys.Unicode.CompositionTable
import SigningKeys.Unicode.Direction
import SigningKeys.Unicode.Hidden
import SigningKeys.Unicode.Mapping
import SigningKeys.Unicode.MappingTable
import SigningKeys.Unicode.PropertyTable
import SigningKeys.Unicode.Ranges
import SigningKeys.Web.Domain
import SigningKeys.Web.Ip
import SigningKeys.Web.Percent
import SigningKeys.Web.Punycode
import SigningKeys.Web.Url
import SigningKeys.Proofs.Run.Calls
import SigningKeys.Proofs.Run.Tasks
import SigningKeys.Proofs.Run.Wired
import SigningKeys.Proofs.Run.Flying
import SigningKeys.Proofs.Run.Waiting
import SigningKeys.Proofs.Run.Numbered
import SigningKeys.Proofs.Run.Caches
import SigningKeys.Proofs.Cache.SingleFlight
import SigningKeys.Proofs.Run.Traces
import SigningKeys.Proofs.Cache.Provenance
import SigningKeys.Proofs.TokenBucket.Acquire
import SigningKeys.Proofs.Pipeline.Ledger
import SigningKeys.Proofs.Run.Gates
import SigningKeys.Proofs.Pipeline.Accounting
import SigningKeys.Proofs.Run.Scenes
import SigningKeys.Proofs.TokenBucket.Window
import SigningKeys.Proofs.Cache.Shelf
import SigningKeys.Proofs.Cache.Contents
import SigningKeys.Proofs.Cache.Failure
import SigningKeys.Proofs.Run.Cascades
import SigningKeys.Proofs.Run.Views
import SigningKeys.Proofs.Abort.Alike
import SigningKeys.Proofs.Abort.Calls
import SigningKeys.Proofs.Abort.Acts
import SigningKeys.Proofs.Abort.Invisible
import SigningKeys.Proofs.Pipeline.Changes
import SigningKeys.Proofs.Json.Members
import SigningKeys.Proofs.Json.Typed
import SigningKeys.Proofs.Jwk.Record
import SigningKeys.Proofs.Json.Skipping
import SigningKeys.Proofs.Jwk.KeySet
import SigningKeys.Proofs.Json.Shape
import SigningKeys.Proofs.Json.Written
import SigningKeys.Proofs.Jwk.RoundTrip
import SigningKeys.Proofs.TokenBucket.Wait
import SigningKeys.Proofs.TokenBucket.Probes
import SigningKeys.Proofs.TokenBucket.Refusal
import SigningKeys.Proofs.Pipeline.Retry
import SigningKeys.Proofs.Apart.Split
import SigningKeys.Proofs.Apart.Twins
import SigningKeys.Proofs.Apart.Acts
import SigningKeys.Proofs.Apart.Parties
import SigningKeys.Proofs.Apart.Alone
import SigningKeys.Proofs.TokenBucket.TwoCalls
import SigningKeys.Proofs.TokenBucket.Careful
import SigningKeys.Proofs.TokenBucket.Overflow
import SigningKeys.Proofs.Pipeline.Stopped
import SigningKeys.Proofs.Remote.Published
import SigningKeys.Proofs.Pipeline.Metered
import SigningKeys.Proofs.Pipeline.Exchanges
import SigningKeys.Proofs.Pipeline.Books
import SigningKeys.Proofs.Pipeline.Gauge
import SigningKeys.Proofs.Pipeline.Balance
import SigningKeys.Proofs.Text.Words
import SigningKeys.Proofs.Settings.Values
import SigningKeys.Proofs.Settings.Environment
import SigningKeys.Proofs.Settings.Pipeline
import SigningKeys.Proofs.Remote.Location
import SigningKeys.Proofs.Remote.Remainder
import SigningKeys.Proofs.Jwk.Material
import SigningKeys.Proofs.Jwk.Written
import SigningKeys.Proofs.Remote.Samples
import SigningKeys.Proofs.Json.Lines
import SigningKeys.Proofs.Resolver.Calls
import SigningKeys.Proofs.Resolver.Transcript
import SigningKeys.Proofs.Source.Trials
import SigningKeys.Proofs.Source.Dependable
