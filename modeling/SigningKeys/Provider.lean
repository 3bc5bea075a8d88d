import SigningKeys.Remote

/-!
# Providers

A provider answers calls for keys. It is a source, a key set on the network, or one of these behind
layers: a bucket that limits the calls, a cache that answers from memory. Sources, buckets and
caches are named by number, because several providers may share one.

* `Provider`: the tree of the layers;
* `Provider.uses`: whether a cache is one of them.
-/

namespace SigningKeys

/-- What answers calls for keys. -/
inductive Provider where
  | source (id : Nat)
  | remote (r : Remote)
  /-- Calls of the inner provider, each for one token of a bucket. -/
  | limited (inner : Provider) (bucket : Nat)
  /-- Calls of the inner provider for the keys that a cache does not hold. -/
  | cached (inner : Provider) (cache : Nat)
deriving DecidableEq

namespace Provider

/-- Whether a cache is one of the layers. -/
def uses (cache : Nat) : Provider → Bool
  | .source _ | .remote _ => false
  | .limited inner _ => inner.uses cache
  | .cached inner c => c == cache || inner.uses cache

/-- How many layers there are. -/
def height : Provider → Nat
  | .source _ | .remote _ => 0
  | .limited inner _ => inner.height + 1
  | .cached inner _ => inner.height + 1

end Provider

end SigningKeys
