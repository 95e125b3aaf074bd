import GatewayConfig.InvalidRequest
import GatewayConfig.Store.Backend
import GatewayConfig.Version

/-!
# Links and their stored form

A subdocument holds either bytes of its own or the id of a reference document. A client sends the
payload as a link body, with a four-byte marker in front. The store keeps a record: a tag, the
version with its length in one byte, and the payload.
-/

namespace GatewayConfig.Store

/-- What a subdocument holds. -/
inductive Payload where
  /-- Bytes of its own. -/
  | inline (bytes : Bytes)
  /-- The id of a reference document. -/
  | reference (id : String)
  deriving DecidableEq, Repr

namespace Payload

/-- The marker of a link body that names a reference. -/
def referenceMarker : Bytes := [0, 0, 0, 0]

/-- The marker of a link body that carries the bytes themselves. -/
def inlineMarker : Bytes := [0, 0, 0, 1]

/-- Read a link body. -/
def ofLinkBody (body : Bytes) : Except InvalidRequest Payload :=
  if body.length < 4 then .error (.linkBodyLength body.length)
  else
    let (marker, rest) := (body.take 4, body.drop 4)
    if marker = referenceMarker then
      match Bytes.text? rest with
      | none => .error .referenceIdEncoding
      | some id => if id = "" then .error .referenceIdEmpty else .ok (.reference id)
    else if marker = inlineMarker then .ok (.inline rest)
    else .error (.linkBodyMarker marker)

/-- The link body of a payload. -/
def toLinkBody : Payload → Bytes
  | inline bytes => inlineMarker ++ bytes
  | reference id => referenceMarker ++ Bytes.ofText id

end Payload

/-- A stored link. -/
structure Record where
  /-- The version given to the link when it was written. -/
  version : Version
  /-- What the subdocument holds. -/
  payload : Payload
  deriving DecidableEq, Repr

namespace Record

/-- The tag of a record that holds bytes, the letter `I`. -/
def inlineTag : UInt8 := 73

/-- The tag of a record that holds a reference id, the letter `R`. -/
def referenceTag : UInt8 := 82

/-- The stored form of a link. A version longer than 255 bytes is cut to fit its length byte. -/
def encode (r : Record) : Bytes :=
  let version := (Bytes.ofText r.version.token).take 255
  let (tag, body) := match r.payload with
    | .inline bytes => (inlineTag, bytes)
    | .reference id => (referenceTag, Bytes.ofText id)
  tag :: UInt8.ofNat version.length :: (version ++ body)

/-- The payload that a tag and the rest of a record stand for. -/
def decodePayload (tag : UInt8) (body : Bytes) : Except Damage Payload :=
  if tag = inlineTag then .ok (.inline body)
  else if tag = referenceTag then
    match Bytes.text? body with
    | none => .error .referenceEncoding
    | some id => .ok (.reference id)
  else .error .unknownTag

/-- Read a stored form. -/
def decode (raw : Bytes) : Except Damage Record :=
  match raw with
  | [] => .error .emptyRecord
  | [_] => .error .missingVersion
  | tag :: length :: rest =>
    if rest.length < length.toNat then .error .truncatedVersion
    else
      match Bytes.text? (rest.take length.toNat) with
      | none => .error .versionEncoding
      | some version =>
        match decodePayload tag (rest.drop length.toNat) with
        | .error damage => .error damage
        | .ok payload => .ok ⟨⟨version⟩, payload⟩

end Record

end GatewayConfig.Store
