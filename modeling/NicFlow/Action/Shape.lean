import NicFlow.Wire.Tree
import NicFlow.Wire.Message

/-! The messages that carry the configurations of actions. Several action types can share a message,
and some take a free-form one. -/

namespace NicFlow

open Wire

/-- How configurations are laid out: as a declared message or as a free-form one. -/
inductive ConfLayout where
  | declared (message : Message)
  | freeForm

namespace ConfLayout

def Value : ConfLayout → Type
  | .declared message => message.Value
  | .freeForm => Struct

/-- The full name of the message. -/
def messageName : ConfLayout → String
  | .declared message => message.fullName
  | .freeForm => "google.protobuf.Struct"

def encode : (layout : ConfLayout) → layout.Value → Bytes
  | .declared message, value => message.encode value
  | .freeForm, value => Tree.encodeStruct value

end ConfLayout

inductive ActionShape where
  | jump | mark | queue | count | rss | vf | phyPort | portId | meter | security | ofSetMplsTtl
  | ofSetNwTtl | ofPushVlan | ofSetVlanVid | ofSetVlanPcp | ofPopMpls | ofPushMpls | freeForm
  | rawEncap | rawDecap | setIpv4 | setIpv6 | setTp | setTtl | setMac | tcpDelta | setTag | setMeta
  | setDscp | age | vfPciAddr
deriving DecidableEq, Repr

namespace ActionShape

def all : List ActionShape :=
  [.jump, .mark, .queue, .count, .rss, .vf, .phyPort, .portId, .meter, .security, .ofSetMplsTtl,
   .ofSetNwTtl, .ofPushVlan, .ofSetVlanVid, .ofSetVlanPcp, .ofPopMpls, .ofPushMpls, .freeForm,
   .rawEncap, .rawDecap, .setIpv4, .setIpv6, .setTp, .setTtl, .setMac, .tcpDelta, .setTag,
   .setMeta, .setDscp, .age, .vfPciAddr]

def layout : ActionShape → ConfLayout
  | .jump => .declared ⟨"RteFlowActionJump", .ofWords ["group"]⟩
  | .mark => .declared ⟨"RteFlowActionMark", .ofWords ["id"]⟩
  | .queue => .declared ⟨"RteFlowActionQueue", .ofWords ["index"]⟩
  | .count => .declared ⟨"RteFlowActionCount", .ofWords ["shared", "reserved", "id"]⟩
  | .rss => .declared ⟨"RteFlowActionRss",
    .ofList
      [("func", .uint32), ("level", .uint32), ("types", .uint64), ("key_len", .uint32),
       ("queue_num", .uint32), ("key", .bytes), ("queue", .words)]⟩
  | .vf => .declared ⟨"RteFlowActionVf", .ofWords ["original", "reserved", "id"]⟩
  | .phyPort => .declared ⟨"RteFlowActionPhyPort", .ofWords ["original", "reserved", "index"]⟩
  | .portId => .declared ⟨"RteFlowActionPortId", .ofWords ["original", "reserved", "id"]⟩
  | .meter => .declared ⟨"RteFlowActionMeter", .ofWords ["mtr_id"]⟩
  | .security => .declared ⟨"RteFlowActionSecurity", .ofList [("security_session", .uint64)]⟩
  | .ofSetMplsTtl => .declared ⟨"RteFlowActionOfSetMplsTtl", .ofWords ["mpls_ttl"]⟩
  | .ofSetNwTtl => .declared ⟨"RteFlowActionOfSetNwTtl", .ofWords ["nw_ttl"]⟩
  | .ofPushVlan => .declared ⟨"RteFlowActionOfPushVlan", .ofWords ["ethertype"]⟩
  | .ofSetVlanVid => .declared ⟨"RteFlowActionOfSetVlanVid", .ofWords ["vlan_vid"]⟩
  | .ofSetVlanPcp => .declared ⟨"RteFlowActionOfSetVlanPcp", .ofWords ["vlan_pcp"]⟩
  | .ofPopMpls => .declared ⟨"RteFlowActionOfPopMpls", .ofWords ["ethertype"]⟩
  | .ofPushMpls => .declared ⟨"RteFlowActionOfPushMpls", .ofWords ["ethertype"]⟩
  | .freeForm => .freeForm
  | .rawEncap => .declared ⟨"RteFlowActionRawEncap",
    .ofList [("data", .bytes), ("preserve", .bytes), ("size", .uint32)]⟩
  | .rawDecap => .declared ⟨"RteFlowActionRawDecap", .ofList [("data", .bytes), ("size", .uint32)]⟩
  | .setIpv4 => .declared ⟨"RteFlowActionSetIpv4", .ofWords ["ipv4_addr"]⟩
  | .setIpv6 => .declared ⟨"RteFlowActionSetIpv6", .ofList [("ipv6_addr", .bytes)]⟩
  | .setTp => .declared ⟨"RteFlowActionSetTp", .ofWords ["port"]⟩
  | .setTtl => .declared ⟨"RteFlowActionSetTtl", .ofWords ["ttl_value"]⟩
  | .setMac => .declared ⟨"RteFlowActionSetMac", .ofList [("mac_addr", .bytes)]⟩
  | .tcpDelta => .declared ⟨"RteFlowActionTcpDelta", .ofWords ["value"]⟩
  | .setTag => .declared ⟨"RteFlowActionSetTag", .ofWords ["data", "mask", "index"]⟩
  | .setMeta => .declared ⟨"RteFlowActionSetMeta", .ofWords ["data", "mask"]⟩
  | .setDscp => .declared ⟨"RteFlowActionSetDscp", .ofWords ["dscp"]⟩
  | .age => .declared ⟨"RteFlowActionAge", .ofWords ["timeout", "reserved"]⟩
  | .vfPciAddr => .declared ⟨"RteFlowActionVfPciAddr", .ofList [("addr", .string)]⟩

/-- The configurations of a shape. -/
abbrev Value (shape : ActionShape) : Type := shape.layout.Value

/-- The full name of the message. -/
def messageName (shape : ActionShape) : String := shape.layout.messageName

end ActionShape

end NicFlow
