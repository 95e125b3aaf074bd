import GatewayConfig.Sha256
import GatewayConfig.Uuid

/-!
# Version tokens

A token names one state of one document. A link gets a fresh token, the token of stored bytes is
a digest of them, and tokens are combined by hashing a byte string in which every part can be told
from its neighbours: `combineText` ends each token with a zero byte, and `rootText` puts every
member on a line of its own.
-/

namespace GatewayConfig

/-- An opaque token. Two tokens are compared as texts and never interpreted. -/
structure Version where
  /-- The text of the token. -/
  token : String
  deriving DecidableEq, Repr

namespace Version

/-- The first eight bytes of the digest, in hexadecimal. -/
def hashed (b : Bytes) : Version := ⟨Bytes.hex ((Sha256.digest b).take 8)⟩

/-- The token of a byte string. -/
def ofBytes (b : Bytes) : Version := hashed b

/-- A fresh token, made from the next identifier of the supply. -/
def fresh (s : UuidSupply) : Version × UuidSupply := (ofBytes s.draw.1, s.draw.2)

/-- What is hashed for an ordered list of tokens: each token and a zero byte. -/
def combineText (tokens : List Version) : Bytes :=
  tokens.flatMap fun v => Bytes.ofText v.token ++ [0]

/-- The token of an ordered list of tokens. -/
def combine (tokens : List Version) : Version := hashed (combineText tokens)

/-- What is hashed for the members of a group: a heading, then a line for each member. -/
def rootText (members : List (String × Version)) : Bytes :=
  Bytes.ofText "root" ++
    members.flatMap fun (id, v) => 10 :: Bytes.ofText id ++ 61 :: Bytes.ofText v.token

/-- The aggregate token of the members of a group, in request order. -/
def root (members : List (String × Version)) : Version := hashed (rootText members)

end Version

end GatewayConfig
