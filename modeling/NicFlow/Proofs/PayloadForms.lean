import NicFlow.Action.Conf
import NicFlow.Item.Payload
import NicFlow.Proofs.AddressTexts
import NicFlow.Proofs.JsonForms
import NicFlow.Proofs.TracedResults

/-! Payloads come back from the form in which they are written: that of their message, or, for Ethernet
and IPv4, one with the addresses as texts. -/

namespace NicFlow

open Wire Log Traced

theorem ItemShape.message_namedApart (shape : ItemShape) : shape.message.fields.namedApart = true := by
  cases shape <;> decide

theorem ActionShape.message_namedApart (shape : ActionShape) {message : Message}
    (declared : shape.layout = .declared message) : message.fields.namedApart = true := by
  cases shape <;> cases declared <;> decide

theorem Wire.Message.read_toJson {message : Message} (apart : message.fields.namedApart = true)
    (closed : Bool) (value : message.Value) : message.read closed (message.toJson value) = .ok value :=
  message.fields.read_of_assigns message.name (message.fields.names_nodup apart)
    (Fields.assign_form? closed message.fields apart value)

/-- The JSON form of a declared configuration; a free-form one has none of its own. -/
def ConfLayout.toJson? : (layout : ConfLayout) → layout.Value → Option Json
  | .declared message, value => some (message.toJson value)
  | .freeForm, _ => none

private theorem ItemShape.decode_toJson {shape : ItemShape} (byMac : shape ≠ .eth) (byIp : shape ≠ .ipv4)
    (value : shape.Value) : shape.decode (shape.message.toJson value) = .ok value := by
  have decodes : ∀ raw, shape.decode raw = (shape.message.read true raw).mapError .json := by
    intro raw
    cases shape <;> first | rfl | exact absurd rfl byMac | exact absurd rfl byIp
  rw [decodes, shape.message.read_toJson shape.message_namedApart]
  rfl

private theorem ConfLayout.decode_toJson? {layout : ConfLayout}
    (apart : ∀ message, layout = .declared message → message.fields.namedApart = true)
    {value : layout.Value} {json : Json} (written : layout.toJson? value = some json) :
    layout.decode json = .ok value := by
  cases layout with
  | declared message =>
    cases written
    exact mapError_eq_ok_iff.mpr (message.read_toJson (apart message rfl) false value)
  | freeForm => cases written

private theorem ActionShape.exists_toJson? {shape : ActionShape} (declared : shape ≠ .freeForm)
    (value : shape.Value) : ∃ json, shape.layout.toJson? value = some json := by
  cases shape <;> first | exact ⟨_, rfl⟩ | exact absurd rfl declared

private theorem parseHardwareAddress_text (field : String) (address : Option Mac) :
    parseHardwareAddress field (address.elim "" Mac.render) =
      .ok (address.map fun mac => (mac.octets, ())) := by
  cases address with
  | none => rfl
  | some mac =>
    have given : ¬ mac.render.isEmpty = true := fun empty => mac.render_ne_empty (String.isEmpty_iff.mp empty)
    simp only [parseHardwareAddress, Option.elim_some, given, mac.parse?_render]
    rfl

private theorem parseIpv4Address_render (field : String) (address : UInt32) :
    parseIpv4Address field (Ipv4.render address) = .ok address := by
  have given : ¬ (Ipv4.render address).isEmpty = true :=
    fun empty => Ipv4.render_ne_empty address (String.isEmpty_iff.mp empty)
  simp only [parseIpv4Address, given, Ipv4.parse?_render]
  rfl

/-- An Ethernet payload as it is written; an address that it does not have is the empty text. -/
def writtenEthernet (dst src : Option Mac) (type : UInt32) : Json :=
  .ofFields [("dst", .string (dst.elim "" Mac.render)), ("src", .string (src.elim "" Mac.render)),
    ("type", .ofNat type.toNat)]

private theorem decodeEthernet_written (dst src : Option Mac) (type : UInt32) :
    decodeEthernet (writtenEthernet dst src type) =
      .ok (dst.map (fun mac => (mac.octets, ())), src.map (fun mac => (mac.octets, ())), type, ()) := by
  have read : ethernetForm.read true (writtenEthernet dst src type) =
      .ok (dst.elim "" Mac.render, src.elim "" Mac.render, type, ()) :=
    ethernetForm.read_toJson (by decide) true (dst.elim "" Mac.render, src.elim "" Mac.render, type, ())
  apply bind_eq_ok_iff.mpr ⟨_, mapError_eq_ok_iff.mpr read, ?_⟩
  apply bind_eq_ok_iff.mpr ⟨_, parseHardwareAddress_text "dst" dst, ?_⟩
  exact bind_eq_ok_iff.mpr ⟨_, parseHardwareAddress_text "src" src, rfl⟩

/-- An IPv4 header as it is written, with its addresses as texts. -/
def writtenIpv4Header (versionIhl typeOfService totalLength packetId fragmentOffset timeToLive nextProtoId
    hdrChecksum src dst : UInt32) : Json :=
  .ofFields [("version_ihl", .ofNat versionIhl.toNat), ("type_of_service", .ofNat typeOfService.toNat),
    ("total_length", .ofNat totalLength.toNat), ("packet_id", .ofNat packetId.toNat),
    ("fragment_offset", .ofNat fragmentOffset.toNat), ("time_to_live", .ofNat timeToLive.toNat),
    ("next_proto_id", .ofNat nextProtoId.toNat), ("hdr_checksum", .ofNat hdrChecksum.toNat),
    ("src_addr", .string (Ipv4.render src)), ("dst_addr", .string (Ipv4.render dst))]

private theorem decodeIpv4_written (versionIhl typeOfService totalLength packetId fragmentOffset timeToLive nextProtoId
    hdrChecksum src dst : UInt32) :
    decodeIpv4 (.ofFields [("hdr", writtenIpv4Header versionIhl typeOfService totalLength packetId
      fragmentOffset timeToLive nextProtoId hdrChecksum src dst)]) =
    .ok (some (versionIhl, typeOfService, totalLength, packetId, fragmentOffset, timeToLive, nextProtoId,
      hdrChecksum, src, dst, ()), ()) := by
  have inner : ipv4HeaderForm.read true (writtenIpv4Header versionIhl typeOfService totalLength packetId
      fragmentOffset timeToLive nextProtoId hdrChecksum src dst) = .ok (versionIhl, typeOfService, totalLength,
        packetId, fragmentOffset, timeToLive, nextProtoId, hdrChecksum, Ipv4.render src, Ipv4.render dst, ()) :=
    ipv4HeaderForm.read_toJson (by decide) true (versionIhl, typeOfService, totalLength, packetId,
      fragmentOffset, timeToLive, nextProtoId, hdrChecksum, Ipv4.render src, Ipv4.render dst, ())
  have assigns (header : Json) (old : ipv4HeaderForm.Value) :
      ipv4FormReader.assign 0 header old = ipv4HeaderForm.read true header := rfl
  have known : ipv4FormReader.position? "hdr" = some 0 := by decide
  have read := RecordReader.read_single known ((assigns _ _).trans inner) (by decide)
  apply bind_eq_ok_iff.mpr ⟨_, mapError_eq_ok_iff.mpr read, ?_⟩
  apply bind_eq_ok_iff.mpr ⟨_, parseIpv4Address_render "hdr.src_addr" src, ?_⟩
  exact bind_eq_ok_iff.mpr ⟨_, parseIpv4Address_render "hdr.dst_addr" dst, rfl⟩

/-- Every payload and every declared configuration comes back from its JSON form, absent messages being
null. Ethernet and IPv4 payloads come back from the form with their addresses as texts. -/
theorem payloads_read_back :
    (∀ shape : ItemShape, shape ≠ .eth → shape ≠ .ipv4 → ∀ value : shape.Value,
      shape.decode (shape.message.toJson value) = .ok value) ∧
    (∀ shape : ActionShape, shape ≠ .freeForm → ∀ value : shape.Value,
      ∃ json, shape.layout.toJson? value = some json ∧ shape.layout.decode json = .ok value) ∧
    (∀ (dst src : Option Mac) (type : UInt32), ItemShape.decode .eth (writtenEthernet dst src type) =
      .ok (dst.map (fun mac => (mac.octets, ())), src.map (fun mac => (mac.octets, ())), type, ())) ∧
    ∀ versionIhl typeOfService totalLength packetId fragmentOffset timeToLive nextProtoId hdrChecksum
        src dst : UInt32,
      ItemShape.decode .ipv4 (.ofFields [("hdr", writtenIpv4Header versionIhl typeOfService totalLength
          packetId fragmentOffset timeToLive nextProtoId hdrChecksum src dst)]) =
        .ok (some (versionIhl, typeOfService, totalLength, packetId, fragmentOffset, timeToLive, nextProtoId,
          hdrChecksum, src, dst, ()), ()) := by
  refine ⟨fun _ => ItemShape.decode_toJson, ?_, decodeEthernet_written, decodeIpv4_written⟩
  intro shape declared value
  obtain ⟨json, written⟩ := ActionShape.exists_toJson? declared value
  exact ⟨json, written, ConfLayout.decode_toJson? (fun _ => shape.message_namedApart) written⟩

/-- A negative offset, a header that is absent, and the largest number of 64 bits. -/
theorem payloads_read_back_extremes :
    (ItemShape.raw ≠ .eth ∧ ItemShape.raw ≠ .ipv4 ∧ ActionShape.rss ≠ .freeForm) ∧
    ItemShape.decode .raw (.object [("length", .ofNat 0), ("limit", .ofNat 300), ("offset", .ofInt (-5)),
        ("pattern", .array [.ofNat 0, .ofNat 255]), ("relative", .ofNat 1), ("reserved", .ofNat 0),
        ("search", .ofNat 0)]) =
      .ok ((1 : UInt32), (0 : UInt32), (0 : UInt32), (-5 : Int32), (300 : UInt32), (0 : UInt32),
        ([0, 255] : Bytes), ()) ∧
    ItemShape.decode .ecpri (.object [("hdr", .null), ("payload", .array [])]) =
      .ok (none, ([] : List UInt32), ()) ∧
    ActionShape.rss.layout.decode (.object [("func", .ofNat 1), ("key", .array []), ("key_len", .ofNat 0),
        ("level", .ofNat 0), ("queue", .array [.ofNat 7]), ("queue_num", .ofNat 1),
        ("types", .ofNat 0xffffffffffffffff)]) =
      .ok ((1 : UInt32), (0 : UInt32), (0xffffffffffffffff : UInt64), (0 : UInt32), (1 : UInt32), ([] : Bytes),
        ([7] : List UInt32), ()) := by
  have byMac : ItemShape.raw ≠ .eth := by decide
  have byIp : ItemShape.raw ≠ .ipv4 := by decide
  have declared : ActionShape.rss ≠ .freeForm := by decide
  refine ⟨⟨byMac, byIp, declared⟩, ?_, ?_, ?_⟩
  · exact payloads_read_back.1 .raw byMac byIp
      ((1 : UInt32), (0 : UInt32), (0 : UInt32), (-5 : Int32), (300 : UInt32), (0 : UInt32), ([0, 255] : Bytes), ())
  · exact payloads_read_back.1 .ecpri (by decide) (by decide) (none, ([] : List UInt32), ())
  · obtain ⟨json, written, decoded⟩ := payloads_read_back.2.1 .rss declared
      ((1 : UInt32), (0 : UInt32), (0xffffffffffffffff : UInt64), (0 : UInt32), (1 : UInt32), ([] : Bytes),
        ([7] : List UInt32), ())
    cases written
    exact decoded

end NicFlow
