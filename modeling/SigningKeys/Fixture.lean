import SigningKeys.Base64Url
import SigningKeys.Jwk
import SigningKeys.Json.Scanner

/-!
# Sample keys

Records whose material is derived from the key id, so that the same id always gives the same record.

* `Fixture.edwards`, `Fixture.rsa`: a record for an id;
* `Fixture.keySet`: the set of the records for a list of ids.
-/

namespace SigningKeys.Fixture

/-- The modulus of the sample RSA key. -/
def modulus : String :=
  "vGChUGMTWZNfRsXxd-BtzC4RDYOMqtIhWHol--HNib5SgudWBg6rEcxvR6LWrx57N6vfo68wwT9_FHlZpaK6NX" ++
    "A_dWFW4f3NftfWLL7Bqy90sO4vijM6LMSE6rnl5VB9_Gsynk7_jyTgYWdTwKur0YRec93eha9oCEXmy7Ob1I2d" ++
    "J8OQmv2GlvA7XZalMxAq4rFnXLzNQ7hCsHrUJP1p7_7SolWm9vTokkmckzSI_mAH2R27Z56DmI7jUkL9fLU-jz" ++
    "-fz4bkNg-mPz4R-kUmM_ld3-xvto79BtxJvOw5qqtLNnRjiDzoqRv-WrBdw5Vj8Pvrg1fwscfVWHlmq-1pFQ"

/-- A number that depends on every byte of a key id. -/
def seed (kid : String) : UInt8 := (Json.encode kid).foldl (fun acc b => acc * 31 + b) 0

/-- The 32 bytes of the sample public key of an id. -/
def publicBytes (kid : String) : List UInt8 :=
  (List.range 32).map fun i => (seed kid + UInt8.ofNat i) * 7

/-- The sample Ed25519 record of an id. -/
def edwards (kid : String) : Jwk :=
  { kid, kty := "OKP", alg := some "EdDSA", keyUse := some "sig"
    additional := [("crv", .str "Ed25519"), ("x", .str (Base64Url.encode (publicBytes kid)))] }

/-- The sample RSA record of an id. -/
def rsa (kid : String) : Jwk :=
  { kid, kty := "RSA", alg := some "RS256", keyUse := some "sig"
    additional := [("e", .str "AQAB"), ("n", .str modulus)] }

/-- The sample Ed25519 record of an id, marked with a version. -/
def versioned (kid version : String) : Jwk :=
  { edwards kid with
    additional := Json.Members.insert "version" (.str version) (edwards kid).additional }

/-- The set of the sample Ed25519 records of some ids. -/
def keySet (kids : List String) : JwkSet := ⟨kids.map edwards⟩

end SigningKeys.Fixture
