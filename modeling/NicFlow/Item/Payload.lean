import NicFlow.Address.Ipv4
import NicFlow.Field.Check
import NicFlow.Item.Rule
import NicFlow.Item.Type

/-! Payloads of pattern items. Most are read from the JSON form of their message; Ethernet and IPv4
payloads are written with their addresses as texts. -/

namespace NicFlow

open Wire

structure ItemPayload where
  shape : ItemShape
  value : shape.Value

/-- The written form of an Ethernet payload. -/
def ethernetForm : Message :=
  ⟨"EthJson", .ofList [("dst", .string), ("src", .string), ("type", .uint32)]⟩

/-- The written form of an IPv4 header. -/
def ipv4HeaderForm : Message :=
  ⟨"Ipv4HdrJson", .ofList
    [("version_ihl", .uint32), ("type_of_service", .uint32), ("total_length", .uint32),
     ("packet_id", .uint32), ("fragment_offset", .uint32), ("time_to_live", .uint32),
     ("next_proto_id", .uint32), ("hdr_checksum", .uint32), ("src_addr", .string),
     ("dst_addr", .string)]⟩

/-- The reader of the written form of an IPv4 payload; the header is there even if not given. -/
def ipv4FormReader : RecordReader Json ipv4HeaderForm.Value :=
  ⟨"Ipv4Json", [{ name := "hdr" }], true, ipv4HeaderForm.fields.default,
    fun _ document _ => ipv4HeaderForm.read true document⟩

/-- An address of a written Ethernet payload; the empty text is no address. -/
def parseHardwareAddress (field text : String) :
    Except PayloadError (Option etherAddress.Value) :=
  if text.isEmpty then .ok none
  else
    match Mac.parse? text with
    | some mac => .ok (some (mac.octets, ()))
    | none => .error (.mac field text)

/-- An address of a written IPv4 payload; the empty text is address zero. -/
def parseIpv4Address (field text : String) : Except PayloadError UInt32 :=
  if text.isEmpty then .ok 0
  else
    match Ipv4.parse? text with
    | some address => .ok address
    | none => .error (.ipv4 field text)

def decodeEthernet (raw : Json) : Except PayloadError (ItemShape.Value .eth) := do
  let ((dst : String), (src : String), type, _) ← (ethernetForm.read true raw).mapError .json
  let dst ← parseHardwareAddress "dst" dst
  let src ← parseHardwareAddress "src" src
  return (dst, src, type, ())

def decodeIpv4 (raw : Json) : Except PayloadError (ItemShape.Value .ipv4) := do
  let (versionIhl, typeOfService, totalLength, packetId, fragmentOffset, timeToLive, nextProtoId,
    hdrChecksum, (src : String), (dst : String), _) ← (ipv4FormReader.read raw).mapError .json
  let src ← parseIpv4Address "hdr.src_addr" src
  let dst ← parseIpv4Address "hdr.dst_addr" dst
  return (some (versionIhl, typeOfService, totalLength, packetId, fragmentOffset, timeToLive,
    nextProtoId, hdrChecksum, src, dst, ()), ())

namespace ItemShape

/-- Reads a payload; no level of it may hold unknown fields. -/
def decode (shape : ItemShape) (raw : Json) : Except PayloadError shape.Value :=
  match shape with
  | .eth => decodeEthernet raw
  | .ipv4 => decodeIpv4 raw
  | shape => (shape.message.read true raw).mapError .json

end ItemShape

namespace ItemPayload

def decode (shape : ItemShape) (raw : Json) : Except PayloadError ItemPayload := do
  let value ← shape.decode raw
  return ⟨shape, value⟩

/-- Checks a payload in a role against its spec, which must have the same shape. -/
def check (candidate spec : ItemPayload) (role : Role) : Except FieldError Unit :=
  if same : spec.shape = candidate.shape then
    candidate.shape.check (same ▸ spec.value) candidate.value role
  else .error (.shapeMismatch spec.shape.messageName candidate.shape.messageName)

def encode (payload : ItemPayload) : Bytes := payload.shape.message.encode payload.value

def pack (payload : ItemPayload) : Packed := .of payload.shape.messageName payload.encode

end ItemPayload

end NicFlow
