import NicFlow.Action.Shape

/-! The types of actions, with their names and numbers. -/

namespace NicFlow

inductive ActionType where
  | terminator | void | passthru | jump | mark | flag | queue | drop | count | rss | pf | vf
  | phyPort | portId | meter | security | ofSetMplsTtl | ofDecMplsTtl | ofSetNwTtl | ofDecNwTtl
  | ofCopyTtlOut | ofCopyTtlIn | ofPopVlan | ofPushVlan | ofSetVlanVid | ofSetVlanPcp | ofPopMpls
  | ofPushMpls | vxlanEncap | vxlanDecap | nvgreEncap | nvgreDecap | rawEncap | rawDecap
  | setIpv4Src | setIpv4Dst | setIpv6Src | setIpv6Dst | setTpSrc | setTpDst | macSwap | decTtl
  | setTtl | setMacSrc | setMacDst | incTcpSeq | decTcpSeq | incTcpAck | decTcpAck | setTag
  | setMeta | setIpv4Dscp | setIpv6Dscp | age | sample | shared | vfPciAddr
deriving DecidableEq, Repr

namespace ActionType

def all : List ActionType :=
  [.terminator, .void, .passthru, .jump, .mark, .flag, .queue, .drop, .count, .rss, .pf, .vf,
   .phyPort, .portId, .meter, .security, .ofSetMplsTtl, .ofDecMplsTtl, .ofSetNwTtl, .ofDecNwTtl,
   .ofCopyTtlOut, .ofCopyTtlIn, .ofPopVlan, .ofPushVlan, .ofSetVlanVid, .ofSetVlanPcp, .ofPopMpls,
   .ofPushMpls, .vxlanEncap, .vxlanDecap, .nvgreEncap, .nvgreDecap, .rawEncap, .rawDecap,
   .setIpv4Src, .setIpv4Dst, .setIpv6Src, .setIpv6Dst, .setTpSrc, .setTpDst, .macSwap, .decTtl,
   .setTtl, .setMacSrc, .setMacDst, .incTcpSeq, .decTcpSeq, .incTcpAck, .decTcpAck, .setTag,
   .setMeta, .setIpv4Dscp, .setIpv6Dscp, .age, .sample, .shared, .vfPciAddr]

/-- The name without the part that all names share. -/
def label : ActionType → String
  | .terminator => "END"
  | .void => "VOID"
  | .passthru => "PASSTHRU"
  | .jump => "JUMP"
  | .mark => "MARK"
  | .flag => "FLAG"
  | .queue => "QUEUE"
  | .drop => "DROP"
  | .count => "COUNT"
  | .rss => "RSS"
  | .pf => "PF"
  | .vf => "VF"
  | .phyPort => "PHY_PORT"
  | .portId => "PORT_ID"
  | .meter => "METER"
  | .security => "SECURITY"
  | .ofSetMplsTtl => "OF_SET_MPLS_TTL"
  | .ofDecMplsTtl => "OF_DEC_MPLS_TTL"
  | .ofSetNwTtl => "OF_SET_NW_TTL"
  | .ofDecNwTtl => "OF_DEC_NW_TTL"
  | .ofCopyTtlOut => "OF_COPY_TTL_OUT"
  | .ofCopyTtlIn => "OF_COPY_TTL_IN"
  | .ofPopVlan => "OF_POP_VLAN"
  | .ofPushVlan => "OF_PUSH_VLAN"
  | .ofSetVlanVid => "OF_SET_VLAN_VID"
  | .ofSetVlanPcp => "OF_SET_VLAN_PCP"
  | .ofPopMpls => "OF_POP_MPLS"
  | .ofPushMpls => "OF_PUSH_MPLS"
  | .vxlanEncap => "VXLAN_ENCAP"
  | .vxlanDecap => "VXLAN_DECAP"
  | .nvgreEncap => "NVGRE_ENCAP"
  | .nvgreDecap => "NVGRE_DECAP"
  | .rawEncap => "RAW_ENCAP"
  | .rawDecap => "RAW_DECAP"
  | .setIpv4Src => "SET_IPV4_SRC"
  | .setIpv4Dst => "SET_IPV4_DST"
  | .setIpv6Src => "SET_IPV6_SRC"
  | .setIpv6Dst => "SET_IPV6_DST"
  | .setTpSrc => "SET_TP_SRC"
  | .setTpDst => "SET_TP_DST"
  | .macSwap => "MAC_SWAP"
  | .decTtl => "DEC_TTL"
  | .setTtl => "SET_TTL"
  | .setMacSrc => "SET_MAC_SRC"
  | .setMacDst => "SET_MAC_DST"
  | .incTcpSeq => "INC_TCP_SEQ"
  | .decTcpSeq => "DEC_TCP_SEQ"
  | .incTcpAck => "INC_TCP_ACK"
  | .decTcpAck => "DEC_TCP_ACK"
  | .setTag => "SET_TAG"
  | .setMeta => "SET_META"
  | .setIpv4Dscp => "SET_IPV4_DSCP"
  | .setIpv6Dscp => "SET_IPV6_DSCP"
  | .age => "AGE"
  | .sample => "SAMPLE"
  | .shared => "SHARED"
  | .vfPciAddr => "VFPCIADDR"

def name (type : ActionType) : String := "RTE_FLOW_ACTION_TYPE_" ++ type.label

def ofName? (name : String) : Option ActionType := all.find? fun type => type.name = name

/-- Action types are numbered in the order of their declaration, but for the one that is resolved
before a rule is sent. -/
def number (type : ActionType) : Nat :=
  if type = .vfPciAddr then 1000 else type.ctorIdx

def ofNumber? (number : Int) : Option ActionType := all.find? fun type => (type.number : Int) = number

/-- The message that carries the payload; `none` for types that carry nothing. -/
def shape? : ActionType → Option ActionShape
  | .jump => some .jump
  | .mark => some .mark
  | .queue => some .queue
  | .count => some .count
  | .rss => some .rss
  | .vf => some .vf
  | .phyPort => some .phyPort
  | .portId => some .portId
  | .meter => some .meter
  | .security => some .security
  | .ofSetMplsTtl => some .ofSetMplsTtl
  | .ofSetNwTtl => some .ofSetNwTtl
  | .ofPushVlan => some .ofPushVlan
  | .ofSetVlanVid => some .ofSetVlanVid
  | .ofSetVlanPcp => some .ofSetVlanPcp
  | .ofPopMpls => some .ofPopMpls
  | .ofPushMpls => some .ofPushMpls
  | .vxlanEncap => some .freeForm
  | .nvgreEncap => some .freeForm
  | .rawEncap => some .rawEncap
  | .rawDecap => some .rawDecap
  | .setIpv4Src => some .setIpv4
  | .setIpv4Dst => some .setIpv4
  | .setIpv6Src => some .setIpv6
  | .setIpv6Dst => some .setIpv6
  | .setTpSrc => some .setTp
  | .setTpDst => some .setTp
  | .setTtl => some .setTtl
  | .setMacSrc => some .setMac
  | .setMacDst => some .setMac
  | .incTcpSeq => some .tcpDelta
  | .decTcpSeq => some .tcpDelta
  | .incTcpAck => some .tcpDelta
  | .decTcpAck => some .tcpDelta
  | .setTag => some .setTag
  | .setMeta => some .setMeta
  | .setIpv4Dscp => some .setDscp
  | .setIpv6Dscp => some .setDscp
  | .age => some .age
  | .sample => some .freeForm
  | .shared => some .freeForm
  | .vfPciAddr => some .vfPciAddr
  | _ => none

/-- Whether elements of the type carry nothing. -/
def isInert (type : ActionType) : Bool := type.shape?.isNone

instance : ToString ActionType := ⟨name⟩

/-- What is said about a name that no type has. -/
def unknownMessage (name : String) : String := s!"unknown action type '{name}'"

end ActionType

end NicFlow
