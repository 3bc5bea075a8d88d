import SigningKeys.Blueprint

/-!
# Settings

* `Settings`: the values that a pipeline is configured by;
* `Settings.blueprint`: the pipeline that they ask for.
-/

namespace SigningKeys

/-- The values that a pipeline is configured by. -/
structure Settings where
  location : KeyLocation
  cacheEnabled : Bool := true
  cacheSize : Nat := CacheLimits.defaultCapacity
  cacheTtl : Duration := CacheLimits.defaultTtl
  limitEnabled : Bool := true
  bucketSize : Nat := Rate.defaultCapacity
  refillInterval : Duration := Rate.defaultInterval
  requestTimeout : Option Duration := none
  connectTimeout : Option Duration := none
deriving DecidableEq

namespace Settings

/-- Set the parameters of the cache, which is then asked for. -/
def withCache (s : Settings) (size : Nat) (ttl : Duration) : Settings :=
  { s with cacheEnabled := true, cacheSize := size, cacheTtl := ttl }

/-- Set the parameters of the bucket, which is then asked for. -/
def withLimit (s : Settings) (size : Nat) (interval : Duration) : Settings :=
  { s with limitEnabled := true, bucketSize := size, refillInterval := interval }

/-- Set the times to wait. -/
def withTimeouts (s : Settings) (request connect : Option Duration) : Settings :=
  { s with requestTimeout := request, connectTimeout := connect }

/-- What the settings say about the layers. -/
def changes (s : Settings) : List Change :=
  [.cache s.cacheSize s.cacheTtl, .cached s.cacheEnabled,
    .limit s.bucketSize s.refillInterval, .limited s.limitEnabled,
    .timeouts ⟨s.connectTimeout, s.requestTimeout⟩]

/-- **The pipeline that the settings ask for**, if they name a place for the key set. -/
def blueprint (s : Settings) : Except KeyError Blueprint :=
  s.location.endpoint.map fun u => Blueprint.changes { address := .web u } s.changes

end Settings

end SigningKeys
