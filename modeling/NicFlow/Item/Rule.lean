import NicFlow.Address.Mac
import NicFlow.Field.Check
import NicFlow.Item.Shape

/-! The field rules of item payloads. A shape that has rules is strict; payloads of the other shapes
are taken as they are. -/

namespace NicFlow

open Wire

/-- When the value of a candidate is checked against the spec. -/
inductive CrossCheck where
  | always
  /-- Only if the candidate sets the field, and then also its range. -/
  | whenSet
  /-- Only if the spec sets the field. -/
  | whenSpecSet
deriving DecidableEq, Repr

inductive FieldRule where
  /-- A number with an optional maximum. -/
  | number (path : List String) (max : Option Nat) (cross : CrossCheck)
  /-- A hardware address of six bytes, or none. -/
  | address (field : String)
  /-- A number written as at most `width` bytes. -/
  | octets (field : String) (width : Nat)
deriving Repr

namespace FieldRule

/-- Bytes as a number, the first byte the highest. -/
def octetsNumber (bytes : Bytes) : Nat :=
  bytes.foldl (fun value octet => value * 256 + octet.toNat) 0

/-- The number of an address, zero if there is none of six bytes. -/
def addressNumber (bytes : Option Bytes) : Nat :=
  match bytes.bind Mac.ofOctets? with
  | some mac => mac.number
  | none => 0

def checkOctets (field : String) (width : Nat) (bytes : Bytes) : Except FieldError Nat :=
  if bytes.length > width then
    .error (.invalid field s!"at most {width} bytes, got {bytes.length}")
  else .ok (octetsNumber bytes)

def checkOptionalMax (field : String) (value : Nat) : Option Nat → Except FieldError Unit
  | some max => checkMax field value max
  | none => .ok ()

/-- Checks a candidate against a spec by one rule. -/
def check (rule : FieldRule) (fields : Fields) (spec candidate : fields.Value) (role : Role) :
    Except FieldError Unit :=
  match rule with
  | .number path max cross => do
    let field := ".".intercalate path
    let specValue := fields.number spec path
    let value := fields.number candidate path
    match cross with
    | .always =>
      checkCross field specValue value role
      checkOptionalMax field value max
    | .whenSet =>
      if value = 0 then return ()
      checkCross field specValue value role
      checkOptionalMax field value max
    | .whenSpecSet =>
      if specValue ≠ 0 then checkCross field specValue value role
      checkOptionalMax field value max
  | .address field => do
    let bytes := fields.bytes? candidate [field, "addr_bytes"]
    match bytes with
    | some bytes =>
      if bytes.length ≠ 6 then
        .error (.invalid field s!"expected 6 address bytes, got {bytes.length}")
    | none => .ok ()
    checkCross field (addressNumber (fields.bytes? spec [field, "addr_bytes"]))
      (addressNumber bytes) role
  | .octets field width => do
    let specValue ← checkOctets field width ((fields.bytes? spec [field]).getD [])
    let value ← checkOctets field width ((fields.bytes? candidate [field]).getD [])
    checkCross field specValue value role

end FieldRule

namespace ItemShape

/-- A field of eight bits. -/
def octet (path : List String) : FieldRule := .number path (some 255) .always

/-- A field of sixteen bits. -/
def short (path : List String) : FieldRule := .number path (some 65535) .always

/-- A field of thirty-two bits. -/
def word (path : List String) : FieldRule := .number path none .always

/-- The rules of a strict shape, in the order in which they are checked. -/
def rules? : ItemShape → Option (List FieldRule)
  | .eth => some
    [.address "dst", .address "src", .number ["type"] (some 65535) .whenSet]
  | .vlan => some [short ["tci"], short ["inner_type"]]
  | .ipv4 => some
    [octet ["hdr", "version_ihl"], octet ["hdr", "type_of_service"],
     short ["hdr", "total_length"], short ["hdr", "packet_id"],
     short ["hdr", "fragment_offset"], octet ["hdr", "time_to_live"],
     octet ["hdr", "next_proto_id"], short ["hdr", "hdr_checksum"],
     word ["hdr", "src_addr"], word ["hdr", "dst_addr"]]
  | .icmp => some
    [octet ["hdr", "icmp_type"], octet ["hdr", "icmp_code"], short ["hdr", "icmp_cksum"],
     short ["hdr", "icmp_ident"], short ["hdr", "icmp_seq_nb"]]
  | .udp => some
    [.number ["hdr", "src_port"] (some 65535) .whenSet,
     .number ["hdr", "dst_port"] (some 65535) .whenSet,
     .number ["hdr", "dgram_len"] (some 65535) .whenSet,
     .number ["hdr", "dgram_cksum"] (some 65535) .whenSet]
  | .tcp => some
    [short ["hdr", "src_port"], short ["hdr", "dst_port"], word ["hdr", "sent_seq"],
     word ["hdr", "recv_ack"], octet ["hdr", "data_off"], octet ["hdr", "tcp_flags"],
     short ["hdr", "rx_win"], short ["hdr", "cksum"], short ["hdr", "tcp_urp"]]
  | .sctp => some
    [short ["hdr", "src_port"], short ["hdr", "dst_port"], word ["hdr", "tag"],
     word ["hdr", "cksum"]]
  | .vxlan => some [octet ["flags"], .octets "rsvd0" 3, .octets "vni" 3, octet ["rsvd1"]]
  | .pppoe => some
    [.number ["version_type"] (some 255) .whenSpecSet,
     .number ["code"] (some 255) .whenSpecSet,
     .number ["session_id"] (some 65535) .whenSpecSet,
     .number ["length"] (some 65535) .whenSpecSet]
  | .pppoeProtoId => some [short ["proto_id"]]
  | .mark => some [word ["id"]]
  | .metadata => some [word ["data"]]
  | .tag => some [word ["data"], octet ["index"]]
  | _ => none

def isStrict (shape : ItemShape) : Bool := shape.rules?.isSome

/-- Checks a candidate against a spec by all rules of the shape. -/
def check (shape : ItemShape) (spec candidate : shape.Value) (role : Role) :
    Except FieldError Unit :=
  (shape.rules?.getD []).forM fun rule => rule.check shape.message.fields spec candidate role

end ItemShape

end NicFlow
