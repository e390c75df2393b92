import NicFlow.Item.Shape

/-! The types of pattern items, with their names and numbers. -/

namespace NicFlow

inductive ItemType where
  | terminator | void | invert | any | pf | vf | phyPort | portId | raw | eth | vlan | ipv4 | ipv6
  | icmp | udp | tcp | sctp | vxlan | eTag | nvgre | mpls | gre | fuzzy | gtp | gtpc | gtpu | esp
  | geneve | vxlanGpe | arpEthIpv4 | ipv6Ext | icmp6 | icmp6NdNs | icmp6NdNa | icmp6NdOpt
  | icmp6NdOptSlaEth | icmp6NdOptTlaEth | mark | metadata | greKey | gtpPsc | pppoes | pppoed
  | pppoeProtoId | nsh | igmp | ah | higig2 | tag | l2tpv3oip | pfcp | ecpri
deriving DecidableEq, Repr

namespace ItemType

def all : List ItemType :=
  [.terminator, .void, .invert, .any, .pf, .vf, .phyPort, .portId, .raw, .eth, .vlan, .ipv4, .ipv6,
   .icmp, .udp, .tcp, .sctp, .vxlan, .eTag, .nvgre, .mpls, .gre, .fuzzy, .gtp, .gtpc, .gtpu, .esp,
   .geneve, .vxlanGpe, .arpEthIpv4, .ipv6Ext, .icmp6, .icmp6NdNs, .icmp6NdNa, .icmp6NdOpt,
   .icmp6NdOptSlaEth, .icmp6NdOptTlaEth, .mark, .metadata, .greKey, .gtpPsc, .pppoes, .pppoed,
   .pppoeProtoId, .nsh, .igmp, .ah, .higig2, .tag, .l2tpv3oip, .pfcp, .ecpri]

/-- The name without the part that all names share. -/
def label : ItemType → String
  | .terminator => "END"
  | .void => "VOID"
  | .invert => "INVERT"
  | .any => "ANY"
  | .pf => "PF"
  | .vf => "VF"
  | .phyPort => "PHY_PORT"
  | .portId => "PORT_ID"
  | .raw => "RAW"
  | .eth => "ETH"
  | .vlan => "VLAN"
  | .ipv4 => "IPV4"
  | .ipv6 => "IPV6"
  | .icmp => "ICMP"
  | .udp => "UDP"
  | .tcp => "TCP"
  | .sctp => "SCTP"
  | .vxlan => "VXLAN"
  | .eTag => "E_TAG"
  | .nvgre => "NVGRE"
  | .mpls => "MPLS"
  | .gre => "GRE"
  | .fuzzy => "FUZZY"
  | .gtp => "GTP"
  | .gtpc => "GTPC"
  | .gtpu => "GTPU"
  | .esp => "ESP"
  | .geneve => "GENEVE"
  | .vxlanGpe => "VXLAN_GPE"
  | .arpEthIpv4 => "ARP_ETH_IPV4"
  | .ipv6Ext => "IPV6_EXT"
  | .icmp6 => "ICMP6"
  | .icmp6NdNs => "ICMP6_ND_NS"
  | .icmp6NdNa => "ICMP6_ND_NA"
  | .icmp6NdOpt => "ICMP6_ND_OPT"
  | .icmp6NdOptSlaEth => "ICMP6_ND_OPT_SLA_ETH"
  | .icmp6NdOptTlaEth => "ICMP6_ND_OPT_TLA_ETH"
  | .mark => "MARK"
  | .metadata => "META"
  | .greKey => "GRE_KEY"
  | .gtpPsc => "GTP_PSC"
  | .pppoes => "PPPOES"
  | .pppoed => "PPPOED"
  | .pppoeProtoId => "PPPOE_PROTO_ID"
  | .nsh => "NSH"
  | .igmp => "IGMP"
  | .ah => "AH"
  | .higig2 => "HIGIG2"
  | .tag => "TAG"
  | .l2tpv3oip => "L2TPV3OIP"
  | .pfcp => "PFCP"
  | .ecpri => "ECPRI"

def name (type : ItemType) : String := "RTE_FLOW_ITEM_TYPE_" ++ type.label

def ofName? (name : String) : Option ItemType := all.find? fun type => type.name = name

/-- Item types are numbered in the order of their declaration. -/
def number (type : ItemType) : Nat := type.ctorIdx

def ofNumber? (number : Int) : Option ItemType := all.find? fun type => (type.number : Int) = number

/-- The message that carries the payload; `none` for types that carry nothing. -/
def shape? : ItemType → Option ItemShape
  | .any => some .any
  | .vf => some .vf
  | .phyPort => some .phyPort
  | .portId => some .portId
  | .raw => some .raw
  | .eth => some .eth
  | .vlan => some .vlan
  | .ipv4 => some .ipv4
  | .ipv6 => some .ipv6
  | .icmp => some .icmp
  | .udp => some .udp
  | .tcp => some .tcp
  | .sctp => some .sctp
  | .vxlan => some .vxlan
  | .eTag => some .eTag
  | .nvgre => some .nvgre
  | .mpls => some .mpls
  | .gre => some .gre
  | .fuzzy => some .fuzzy
  | .gtp => some .gtp
  | .gtpc => some .gtp
  | .gtpu => some .gtp
  | .esp => some .esp
  | .geneve => some .geneve
  | .vxlanGpe => some .vxlanGpe
  | .arpEthIpv4 => some .arpEthIpv4
  | .ipv6Ext => some .ipv6Ext
  | .icmp6 => some .icmp6
  | .icmp6NdNs => some .icmp6NdNs
  | .icmp6NdNa => some .icmp6NdNa
  | .icmp6NdOpt => some .icmp6NdOpt
  | .icmp6NdOptSlaEth => some .icmp6NdOptSlaEth
  | .icmp6NdOptTlaEth => some .icmp6NdOptTlaEth
  | .mark => some .mark
  | .metadata => some .metadata
  | .greKey => some .greKey
  | .gtpPsc => some .gtpPsc
  | .pppoes => some .pppoe
  | .pppoed => some .pppoe
  | .pppoeProtoId => some .pppoeProtoId
  | .nsh => some .nsh
  | .igmp => some .igmp
  | .ah => some .ah
  | .higig2 => some .higig2
  | .tag => some .tag
  | .l2tpv3oip => some .l2tpv3oip
  | .pfcp => some .pfcp
  | .ecpri => some .ecpri
  | _ => none

/-- Whether elements of the type carry nothing. -/
def isInert (type : ItemType) : Bool := type.shape?.isNone

instance : ToString ItemType := ⟨name⟩

/-- What is said about a name that no type has. -/
def unknownMessage (name : String) : String := s!"unknown item type '{name}'"

end ItemType

end NicFlow
