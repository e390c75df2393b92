import NicFlow.Wire.Tree
import NicFlow.Wire.Message

/-! The messages that carry the payloads of pattern items. Several item types can share a message. -/

namespace NicFlow

open Wire

def etherAddress : Fields := .ofList [("addr_bytes", .bytes)]

def ipv4Header : Fields := .ofWords
    ["version_ihl", "type_of_service", "total_length", "packet_id", "fragment_offset",
     "time_to_live", "next_proto_id", "hdr_checksum", "src_addr", "dst_addr"]

def ipv6Header : Fields := .ofList
    [("vtc_flow", .uint32), ("payload_len", .uint32), ("proto", .uint32), ("hop_limits", .uint32),
     ("src_addr", .bytes), ("dst_addr", .bytes)]

def icmpHeader : Fields := .ofWords ["icmp_type", "icmp_code", "icmp_cksum", "icmp_ident", "icmp_seq_nb"]

def udpHeader : Fields := .ofWords ["src_port", "dst_port", "dgram_len", "dgram_cksum"]

def tcpHeader : Fields := .ofWords
    ["src_port", "dst_port", "sent_seq", "recv_ack", "data_off", "tcp_flags", "rx_win", "cksum",
     "tcp_urp"]

def sctpHeader : Fields := .ofWords ["src_port", "dst_port", "tag", "cksum"]

def espHeader : Fields := .ofWords ["spi", "seq"]

def higig2Header : Fields := .ofWords
    ["ksop", "tc", "mcst", "resv", "dst_modid", "dst_pid", "src_modid", "src_pid", "lbid",
     "ppd_type", "resv1", "dp"]

def ecpriHeader : Fields := .ofWords ["revision", "c", "type", "size"]

inductive ItemShape where
  | any | vf | phyPort | portId | raw | eth | vlan | ipv4 | ipv6 | icmp | udp | tcp | sctp | vxlan
  | eTag | nvgre | mpls | gre | fuzzy | gtp | esp | geneve | vxlanGpe | arpEthIpv4 | ipv6Ext
  | icmp6 | icmp6NdNs | icmp6NdNa | icmp6NdOpt | icmp6NdOptSlaEth | icmp6NdOptTlaEth | mark
  | metadata | greKey | gtpPsc | pppoe | pppoeProtoId | nsh | igmp | ah | higig2 | tag | l2tpv3oip
  | pfcp | ecpri
deriving DecidableEq, Repr

namespace ItemShape

def all : List ItemShape :=
  [.any, .vf, .phyPort, .portId, .raw, .eth, .vlan, .ipv4, .ipv6, .icmp, .udp, .tcp, .sctp, .vxlan,
   .eTag, .nvgre, .mpls, .gre, .fuzzy, .gtp, .esp, .geneve, .vxlanGpe, .arpEthIpv4, .ipv6Ext,
   .icmp6, .icmp6NdNs, .icmp6NdNa, .icmp6NdOpt, .icmp6NdOptSlaEth, .icmp6NdOptTlaEth, .mark,
   .metadata, .greKey, .gtpPsc, .pppoe, .pppoeProtoId, .nsh, .igmp, .ah, .higig2, .tag, .l2tpv3oip,
   .pfcp, .ecpri]

def message : ItemShape → Message
  | .any => ⟨"RteFlowItemAny", .ofWords ["num"]⟩
  | .vf => ⟨"RteFlowItemVf", .ofWords ["id"]⟩
  | .phyPort => ⟨"RteFlowItemPhyPort", .ofWords ["index"]⟩
  | .portId => ⟨"RteFlowItemPortId", .ofWords ["id"]⟩
  | .raw => ⟨"RteFlowItemRaw",
    .ofList
      [("relative", .uint32), ("search", .uint32), ("reserved", .uint32), ("offset", .int32),
       ("limit", .uint32), ("length", .uint32), ("pattern", .bytes)]⟩
  | .eth => ⟨"RteFlowItemEth",
    .ofList
      [("dst", .message "RteEtherAddr" etherAddress),
       ("src", .message "RteEtherAddr" etherAddress), ("type", .uint32)]⟩
  | .vlan => ⟨"RteFlowItemVlan", .ofWords ["tci", "inner_type"]⟩
  | .ipv4 => ⟨"RteFlowItemIpv4", .ofList [("hdr", .message "RteIpv4Hdr" ipv4Header)]⟩
  | .ipv6 => ⟨"RteFlowItemIpv6", .ofList [("hdr", .message "RteIpv6Hdr" ipv6Header)]⟩
  | .icmp => ⟨"RteFlowItemIcmp", .ofList [("hdr", .message "RteIcmpHdr" icmpHeader)]⟩
  | .udp => ⟨"RteFlowItemUdp", .ofList [("hdr", .message "RteUdpHdr" udpHeader)]⟩
  | .tcp => ⟨"RteFlowItemTcp", .ofList [("hdr", .message "RteTcpHdr" tcpHeader)]⟩
  | .sctp => ⟨"RteFlowItemSctp", .ofList [("hdr", .message "RteSctpHdr" sctpHeader)]⟩
  | .vxlan => ⟨"RteFlowItemVxlan",
    .ofList [("flags", .uint32), ("rsvd0", .bytes), ("vni", .bytes), ("rsvd1", .uint32)]⟩
  | .eTag => ⟨"RteFlowItemETag",
    .ofWords ["epcp_edei_in_ecid_b", "rsvd_grp_ecid_b", "in_ecid_e", "ecid_e", "inner_type"]⟩
  | .nvgre => ⟨"RteFlowItemNvgre",
    .ofList
      [("c_k_s_rsvd0_ver", .uint32), ("protocol", .uint32), ("tni", .bytes), ("flow_id", .uint32)]⟩
  | .mpls => ⟨"RteFlowItemMpls", .ofList [("label_tc_s", .bytes), ("ttl", .uint32)]⟩
  | .gre => ⟨"RteFlowItemGre", .ofWords ["c_rsvd0_ver", "protocol"]⟩
  | .fuzzy => ⟨"RteFlowItemFuzzy", .ofWords ["thresh"]⟩
  | .gtp => ⟨"RteFlowItemGtp", .ofWords ["v_pt_rsv_flags", "msg_type", "msg_len", "teid"]⟩
  | .esp => ⟨"RteFlowItemEsp", .ofList [("hdr", .message "RteEspHdr" espHeader)]⟩
  | .geneve => ⟨"RteFlowItemGeneve",
    .ofList
      [("ver_opt_len_o_c_rsvd0", .uint32), ("protocol", .uint32), ("vni", .bytes),
       ("rsvd1", .uint32)]⟩
  | .vxlanGpe => ⟨"RteFlowItemVxlanGpe",
    .ofList
      [("flags", .uint32), ("rsvd0", .bytes), ("protocol", .uint32), ("vni", .bytes),
       ("rsvd1", .uint32)]⟩
  | .arpEthIpv4 => ⟨"RteFlowItemArpEthIpv4",
    .ofList
      [("hrd", .uint32), ("pro", .uint32), ("hln", .uint32), ("pln", .uint32), ("op", .uint32),
       ("sha", .message "RteEtherAddr" etherAddress), ("spa", .uint32),
       ("tha", .message "RteEtherAddr" etherAddress), ("tpa", .uint32)]⟩
  | .ipv6Ext => ⟨"RteFlowItemIpv6Ext", .ofWords ["next_hdr"]⟩
  | .icmp6 => ⟨"RteFlowItemIcmp6", .ofWords ["type", "code", "checksum"]⟩
  | .icmp6NdNs => ⟨"RteFlowItemIcmp6NdNs",
    .ofList
      [("type", .uint32), ("code", .uint32), ("checksum", .uint32), ("reserved", .uint32),
       ("target_addr", .bytes)]⟩
  | .icmp6NdNa => ⟨"RteFlowItemIcmp6NdNa",
    .ofList
      [("type", .uint32), ("code", .uint32), ("checksum", .uint32), ("rso_reserved", .uint32),
       ("target_addr", .bytes)]⟩
  | .icmp6NdOpt => ⟨"RteFlowItemIcmp6NdOpt", .ofWords ["type", "length"]⟩
  | .icmp6NdOptSlaEth => ⟨"RteFlowItemIcmp6NdOptSlaEth",
    .ofList
      [("type", .uint32), ("length", .uint32), ("sla", .message "RteEtherAddr" etherAddress)]⟩
  | .icmp6NdOptTlaEth => ⟨"RteFlowItemIcmp6NdOptTlaEth",
    .ofList
      [("type", .uint32), ("length", .uint32), ("tla", .message "RteEtherAddr" etherAddress)]⟩
  | .mark => ⟨"RteFlowItemMark", .ofWords ["id"]⟩
  | .metadata => ⟨"RteFlowItemMeta", .ofWords ["data"]⟩
  | .greKey => ⟨"RteFlowItemGreKey", .ofWords ["key"]⟩
  | .gtpPsc => ⟨"RteFlowItemGtpPsc", .ofWords ["pdu_type", "qfi"]⟩
  | .pppoe => ⟨"RteFlowItemPppoe", .ofWords ["version_type", "code", "session_id", "length"]⟩
  | .pppoeProtoId => ⟨"RteFlowItemPppoeProtoId", .ofWords ["proto_id"]⟩
  | .nsh => ⟨"RteFlowItemNsh",
    .ofWords
      ["version", "oam_pkt", "reserved", "ttl", "length", "reserved1", "mdtype", "next_proto",
       "spi", "sindex"]⟩
  | .igmp => ⟨"RteFlowItemIgmp", .ofWords ["type", "max_resp_time", "checksum", "group"]⟩
  | .ah => ⟨"RteFlowItemAh", .ofWords ["next_hdr", "payload_len", "reserved", "spi", "seq_num"]⟩
  | .higig2 => ⟨"RteFlowItemHigig2Hdr", .ofList [("hdr", .message "RteHigig2Frc" higig2Header)]⟩
  | .tag => ⟨"RteFlowItemTag", .ofWords ["data", "index"]⟩
  | .l2tpv3oip => ⟨"RteFlowItemL2tpv3oip", .ofWords ["session_id"]⟩
  | .pfcp => ⟨"RteFlowItemPfcp",
    .ofList
      [("s_field", .uint32), ("msg_type", .uint32), ("msg_len", .uint32), ("seid", .uint64)]⟩
  | .ecpri => ⟨"RteFlowItemEcpri",
    .ofList [("hdr", .message "RteEcpriCommonHdr" ecpriHeader), ("payload", .words)]⟩

/-- The payloads of a shape. -/
abbrev Value (shape : ItemShape) : Type := shape.message.Value

/-- The full name of the message. -/
def messageName (shape : ItemShape) : String := shape.message.fullName

end ItemShape

end NicFlow
