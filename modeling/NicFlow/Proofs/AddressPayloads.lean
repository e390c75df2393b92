import NicFlow.Item.Payload
import NicFlow.Proofs.ClosedRecords
import NicFlow.Proofs.DecimalTexts
import NicFlow.Proofs.MacAddressTexts

/-! Ethernet and IPv4 payloads, which are written with their addresses as texts. A payload of the right form is
accepted exactly if each of its addresses is empty or well written, and the first that is not is the error: no
text turns into the address zero unless it says so. -/

namespace NicFlow

open Wire Log Traced

/-- The address that stands for a text, none for the empty text. -/
structure Mac.Fills (text : String) (address : Option etherAddress.Value) : Prop where
  absent_iff : address = none ↔ text = ""
  octets : ∀ found, address = some found → ∃ mac : Mac, text.toLower = mac.render ∧ found = (mac.octets, ())

/-- The number that stands for a text: zero for the empty text and for the address of four zeros, and else the
number of the octets that are written. It is the number that the lenient reader finds. -/
structure Ipv4.Fills (text : String) (address : UInt32) : Prop where
  zero_iff : address = 0 ↔ text = "" ∨ text = "0.0.0.0"
  number : text ≠ "" → Ipv4.Dotted text address
  lenient : Ipv4.ofText text = address

inductive FirstRefused (accepted : String → Prop) (first second : String × String) : String → String → Prop where
  | first (refused : ¬ accepted first.2) : FirstRefused accepted first second first.1 first.2
  | second (fine : accepted first.2) (refused : ¬ accepted second.2) :
      FirstRefused accepted first second second.1 second.2

/-- A reader of single texts, with what stands for a text and the fault of one that nothing stands for. -/
structure ReadsTexts {β : Type} (parse : String → String → Except PayloadError β) (fills : String → β → Prop)
    (fault : String → String → PayloadError) : Prop where
  ok_iff : ∀ {field text value}, parse field text = .ok value ↔ fills text value
  error_iff : ∀ {field text error}, parse field text = .error error ↔
    error = fault field text ∧ ¬ ∃ value, fills text value

/-- A payload in which two texts are read, if it has the right form at all. -/
structure ReadsTwoTexts {φ β γ : Type} (parse : String → String → Except PayloadError β) (fits : φ → Prop)
    (first second : φ → String × String) (build : φ → β → β → γ) (result : Except PayloadError γ) : Prop where
  formed : ∀ form, fits form → result =
    parse (first form).1 (first form).2 >>= fun left =>
    parse (second form).1 (second form).2 >>= fun right => .ok (build form left right)
  misformed : (¬ ∃ form, fits form) → ∃ reason, result = .error (.json reason)

namespace ReadsTwoTexts

variable {φ β γ : Type} {parse : String → String → Except PayloadError β} {fills : String → β → Prop}
  {fault : String → String → PayloadError} {fits : φ → Prop} {first second : φ → String × String}
  {build : φ → β → β → γ} {result : Except PayloadError γ}

theorem ok_iff (both : ReadsTwoTexts parse fits first second build result) (reads : ReadsTexts parse fills fault)
    {value : γ} : result = .ok value ↔ ∃ form left right, fits form ∧
      fills (first form).2 left ∧ fills (second form).2 right ∧ value = build form left right := by
  constructor
  · intro decoded
    by_cases formed : ∃ form, fits form
    · obtain ⟨form, fit⟩ := formed
      rw [both.formed form fit] at decoded
      obtain ⟨left, leftRead, decoded⟩ := bind_eq_ok_iff.mp decoded
      obtain ⟨right, rightRead, decoded⟩ := bind_eq_ok_iff.mp decoded
      cases decoded
      exact ⟨form, left, right, fit, reads.ok_iff.mp leftRead, reads.ok_iff.mp rightRead, rfl⟩
    · obtain ⟨reason, refused⟩ := both.misformed formed
      rw [refused] at decoded
      cases decoded
  · rintro ⟨form, left, right, fit, leftFills, rightFills, rfl⟩
    rw [both.formed form fit]
    apply bind_eq_ok_iff.mpr ⟨left, reads.ok_iff.mpr leftFills, ?_⟩
    exact bind_eq_ok_iff.mpr ⟨right, reads.ok_iff.mpr rightFills, rfl⟩

theorem error_iff (both : ReadsTwoTexts parse fits first second build result) (reads : ReadsTexts parse fills fault)
    {error : PayloadError} (other : ∀ reason, error ≠ .json reason) : result = .error error ↔
      ∃ form field text, fits form ∧ error = fault field text ∧
        FirstRefused (fun text => ∃ value, fills text value) (first form) (second form) field text := by
  constructor
  · intro failed
    by_cases formed : ∃ form, fits form
    · obtain ⟨form, fit⟩ := formed
      rw [both.formed form fit] at failed
      rcases bind_eq_error_iff.mp failed with refused | ⟨left, fine, failed⟩
      · obtain ⟨rfl, unfilled⟩ := reads.error_iff.mp refused
        exact ⟨form, _, _, fit, rfl, .first unfilled⟩
      · rcases bind_eq_error_iff.mp failed with refused | ⟨right, _, impossible⟩
        · obtain ⟨rfl, unfilled⟩ := reads.error_iff.mp refused
          exact ⟨form, _, _, fit, rfl, .second ⟨left, reads.ok_iff.mp fine⟩ unfilled⟩
        · cases impossible
    · obtain ⟨reason, refused⟩ := both.misformed formed
      rw [refused] at failed
      cases failed
      exact absurd rfl (other reason)
  · rintro ⟨form, _, _, fit, rfl, refused | ⟨⟨left, fine⟩, refused⟩⟩
    · rw [both.formed form fit]
      exact bind_eq_error_iff.mpr (Or.inl (reads.error_iff.mpr ⟨rfl, refused⟩))
    · rw [both.formed form fit]
      apply bind_eq_error_iff.mpr (Or.inr ⟨left, reads.ok_iff.mpr fine, ?_⟩)
      exact bind_eq_error_iff.mpr (Or.inl (reads.error_iff.mpr ⟨rfl, refused⟩))

private theorem json_iff (both : ReadsTwoTexts parse fits first second build result) (reads : ReadsTexts parse fills fault)
    (other : ∀ field text reason, fault field text ≠ .json reason) :
    (∃ reason, result = .error (.json reason)) ↔ ¬ ∃ form, fits form := by
  refine ⟨?_, both.misformed⟩
  rintro ⟨reason, failed⟩ ⟨form, fit⟩
  rw [both.formed form fit] at failed
  rcases bind_eq_error_iff.mp failed with refused | ⟨left, _, failed⟩
  · exact other _ _ _ (reads.error_iff.mp refused).1.symm
  · rcases bind_eq_error_iff.mp failed with refused | ⟨right, _, impossible⟩
    · exact other _ _ _ (reads.error_iff.mp refused).1.symm
    · cases impossible

end ReadsTwoTexts

section Addresses

variable {field text : String} {error : PayloadError}

theorem Mac.fills_iff {address : Option etherAddress.Value} : Mac.Fills text address ↔
    text = "" ∧ address = none ∨ ∃ mac : Mac, Mac.parse? text = some mac ∧ address = some (mac.octets, ()) := by
  simp only [Mac.parse?_eq_some_iff]
  constructor
  · intro fills
    cases address with
    | none => exact Or.inl ⟨fills.absent_iff.mp rfl, rfl⟩
    | some found =>
      obtain ⟨mac, written, rfl⟩ := fills.octets found rfl
      exact Or.inr ⟨mac, written, rfl⟩
  · rintro (⟨rfl, rfl⟩ | ⟨mac, written, rfl⟩)
    · exact ⟨iff_of_true rfl rfl, nofun⟩
    · refine ⟨iff_of_false nofun ?_, ?_⟩
      · rintro rfl
        cases Mac.parse?_eq_some_iff.mpr written
      · rintro _ ⟨⟩
        exact ⟨mac, written, rfl⟩

private theorem parseHardwareAddress_ok_iff (field : String) {address : Option etherAddress.Value} :
    parseHardwareAddress field text = .ok address ↔ Mac.Fills text address := by
  rw [Mac.fills_iff]
  unfold parseHardwareAddress
  split
  next empty =>
    have unread : Mac.parse? "" = none := rfl
    rw [String.isEmpty_iff] at empty
    simp [empty, unread, eq_comm]
  next given =>
    rw [String.isEmpty_iff] at given
    cases Mac.parse? text with
    | none => simp [given]
    | some mac =>
      simp only [given, false_and, false_or, Except.ok.injEq, Option.some.injEq, existsAndEq, true_and]
      exact eq_comm

private theorem parseHardwareAddress_error_iff : parseHardwareAddress field text = .error error ↔
    error = .mac field text ∧ ¬ ∃ address, Mac.Fills text address := by
  simp only [← parseHardwareAddress_ok_iff field]
  unfold parseHardwareAddress
  split
  next => simp
  next => cases Mac.parse? text <;> simp [eq_comm]

theorem Ipv4.fills_iff {address : UInt32} :
    Ipv4.Fills text address ↔ text = "" ∧ address = 0 ∨ Ipv4.parse? text = some address := by
  rw [Ipv4.parse?_eq_some_iff, ← Ipv4.dotted_iff]
  constructor
  · intro fills
    by_cases empty : text = ""
    · exact Or.inl ⟨empty, fills.zero_iff.mpr (Or.inl empty)⟩
    · exact Or.inr (fills.number empty)
  · rintro (⟨rfl, rfl⟩ | dotted)
    · exact ⟨iff_of_true rfl (Or.inl rfl), fun given => absurd rfl given, rfl⟩
    · have written := Ipv4.dotted_iff.mp dotted
      have zero : Ipv4.render 0 = "0.0.0.0" := rfl
      refine ⟨?_, fun _ => dotted, Ipv4.ofText_eq_iff.mpr (Or.inl dotted)⟩
      rw [written, ← zero, or_iff_right (Ipv4.render_ne_empty address)]
      exact Ipv4.render_inj.symm

private theorem parseIpv4Address_ok_iff (field : String) {address : UInt32} :
    parseIpv4Address field text = .ok address ↔ Ipv4.Fills text address := by
  rw [Ipv4.fills_iff]
  unfold parseIpv4Address
  split
  next empty =>
    have unread : Ipv4.parse? "" = none := rfl
    rw [String.isEmpty_iff] at empty
    simp [empty, unread, eq_comm]
  next given =>
    rw [String.isEmpty_iff] at given
    cases Ipv4.parse? text with
    | none => simp [given]
    | some address => simp [given]

private theorem parseIpv4Address_error_iff : parseIpv4Address field text = .error error ↔
    error = .ipv4 field text ∧ ¬ ∃ address, Ipv4.Fills text address := by
  simp only [← parseIpv4Address_ok_iff field]
  unfold parseIpv4Address
  split
  next => simp
  next => cases Ipv4.parse? text <;> simp [eq_comm]

theorem readsHardwareAddresses : ReadsTexts parseHardwareAddress Mac.Fills .mac :=
  ⟨parseHardwareAddress_ok_iff _, parseHardwareAddress_error_iff⟩

theorem readsIpv4Addresses : ReadsTexts parseIpv4Address Ipv4.Fills .ipv4 :=
  ⟨parseIpv4Address_ok_iff _, parseIpv4Address_error_iff⟩

end Addresses

/-- The written form of an Ethernet payload with what stands for its addresses. -/
def ethernetOf : ethernetForm.Value → Option etherAddress.Value → Option etherAddress.Value → ItemShape.eth.Value
  | (_, _, type, _), dst, src => (dst, src, type, ())

/-- The written form of an IPv4 header with the numbers of its addresses. -/
def ipv4Of : ipv4HeaderForm.Value → UInt32 → UInt32 → ItemShape.ipv4.Value
  | (versionIhl, typeOfService, totalLength, packetId, fragmentOffset, timeToLive, nextProtoId, hdrChecksum, _),
      src, dst =>
    (some (versionIhl, typeOfService, totalLength, packetId, fragmentOffset, timeToLive, nextProtoId, hdrChecksum,
      src, dst, ()), ())

/-- At most a header is given, in the strict form of a header with these values; without it every field of the
header has its default. -/
def FitsIpv4 (document : Json) (header : ipv4HeaderForm.Value) : Prop :=
  ∃ entries, document.Gives ["hdr"] entries ∧ ipv4HeaderForm.Fits ((entries.lookup "hdr").getD (.object [])) header

section Decoding

variable {raw : Json}

private theorem read_ethernetForm_iff {form : ethernetForm.Value} :
    ethernetForm.read true raw = .ok form ↔ ethernetForm.Fits raw form :=
  Message.read_ok_iff rfl (by decide)

private theorem read_ipv4HeaderForm_iff {header : ipv4HeaderForm.Value} :
    ipv4HeaderForm.read true raw = .ok header ↔ ipv4HeaderForm.Fits raw header :=
  Message.read_ok_iff rfl (by decide)

private theorem ipv4FormReader_strict : ipv4FormReader.Strict := by
  refine ⟨rfl, ?_, ?_, List.nodup_singleton "hdr"⟩
  · intro field member
    rw [List.mem_singleton.mp member]
  · intro field member
    rw [List.mem_singleton.mp member]

private theorem read_ipv4Form_iff {header : ipv4HeaderForm.Value} :
    ipv4FormReader.read raw = .ok header ↔ FitsIpv4 raw header := by
  refine ipv4FormReader_strict.read_ok_iff.trans (exists_congr fun entries => and_congr_right fun gives => ?_)
  rw [← read_ipv4HeaderForm_iff]
  have names := gives.declared
  have distinct := gives.keys_nodup (List.nodup_singleton "hdr")
  match entries with
  | [] =>
    have empty : ipv4HeaderForm.read true (Json.object []) = .ok ipv4HeaderForm.fields.default := rfl
    rw [List.lookup_nil, Option.getD_none, empty]
    rfl
  | [(key, document)] =>
    obtain rfl : key = "hdr" := List.mem_singleton.mp (names _ List.mem_cons_self)
    have put : ipv4FormReader.put ipv4FormReader.start ("hdr", document) = ipv4HeaderForm.read true document := rfl
    rw [List.lookup_cons_self, Option.getD_some, List.foldlM_cons, put]
    simp only [List.foldlM_nil, bind_pure]
  | (key, document) :: (other, next) :: rest =>
    obtain rfl : key = "hdr" := List.mem_singleton.mp (names _ List.mem_cons_self)
    obtain rfl : other = "hdr" := List.mem_singleton.mp (names _ (List.mem_cons_of_mem _ List.mem_cons_self))
    exact absurd List.mem_cons_self (List.nodup_cons.mp distinct).1

theorem decodeEthernet_reads : ReadsTwoTexts parseHardwareAddress (ethernetForm.Fits raw)
    (fun form => ("dst", ethernetForm.fields.text form ["dst"]))
    (fun form => ("src", ethernetForm.fields.text form ["src"])) ethernetOf (decodeEthernet raw) := by
  constructor
  · rintro ⟨dst, src, type, _⟩ fits
    rw [decodeEthernet, read_ethernetForm_iff.mpr fits]
    rfl
  · intro misfit
    cases read : ethernetForm.read true raw with
    | ok form => exact absurd ⟨form, read_ethernetForm_iff.mp read⟩ misfit
    | error reason =>
      rw [decodeEthernet, read]
      exact ⟨reason, rfl⟩

theorem decodeIpv4_reads : ReadsTwoTexts parseIpv4Address (FitsIpv4 raw)
    (fun header => ("hdr.src_addr", ipv4HeaderForm.fields.text header ["src_addr"]))
    (fun header => ("hdr.dst_addr", ipv4HeaderForm.fields.text header ["dst_addr"])) ipv4Of (decodeIpv4 raw) := by
  constructor
  · rintro ⟨versionIhl, typeOfService, totalLength, packetId, fragmentOffset, timeToLive, nextProtoId, hdrChecksum,
      src, dst, _⟩ fits
    rw [decodeIpv4, read_ipv4Form_iff.mpr fits]
    rfl
  · intro misfit
    cases read : ipv4FormReader.read raw with
    | ok header => exact absurd ⟨header, read_ipv4Form_iff.mp read⟩ misfit
    | error reason =>
      rw [decodeIpv4, read]
      exact ⟨reason, rfl⟩

end Decoding

/-- An Ethernet payload is accepted exactly if it has the strict form of one and each address is empty, and then
absent, or an address with these octets; an IPv4 payload exactly if it has its strict form and each address is
empty or four octets joined by dots. Only the empty text and the one of four zeros give the number zero. Any
other text is an error that names the first field in question and quotes its text. The lenient reader finds the
same numbers as the strict one, and addresses and their texts determine each other. -/
theorem written_addresses_exact :
    (∀ raw, (∀ value, ItemShape.decode .eth raw = .ok value ↔ ∃ form dst src, ethernetForm.Fits raw form ∧
        Mac.Fills (ethernetForm.fields.text form ["dst"]) dst ∧ Mac.Fills (ethernetForm.fields.text form ["src"]) src ∧
        value = ethernetOf form dst src) ∧
      (∀ field text, ItemShape.decode .eth raw = .error (.mac field text) ↔ ∃ form, ethernetForm.Fits raw form ∧
        FirstRefused (fun text => ∃ address, Mac.Fills text address) ("dst", ethernetForm.fields.text form ["dst"])
          ("src", ethernetForm.fields.text form ["src"]) field text) ∧
      ((∃ reason, ItemShape.decode .eth raw = .error (.json reason)) ↔ ¬ ∃ form, ethernetForm.Fits raw form)) ∧
    (∀ raw, (∀ value, ItemShape.decode .ipv4 raw = .ok value ↔ ∃ header src dst, FitsIpv4 raw header ∧
        Ipv4.Fills (ipv4HeaderForm.fields.text header ["src_addr"]) src ∧
        Ipv4.Fills (ipv4HeaderForm.fields.text header ["dst_addr"]) dst ∧ value = ipv4Of header src dst) ∧
      (∀ field text, ItemShape.decode .ipv4 raw = .error (.ipv4 field text) ↔ ∃ header, FitsIpv4 raw header ∧
        FirstRefused (fun text => ∃ address, Ipv4.Fills text address)
          ("hdr.src_addr", ipv4HeaderForm.fields.text header ["src_addr"])
          ("hdr.dst_addr", ipv4HeaderForm.fields.text header ["dst_addr"]) field text) ∧
      ((∃ reason, ItemShape.decode .ipv4 raw = .error (.json reason)) ↔ ¬ ∃ header, FitsIpv4 raw header)) ∧
    (∀ address, Ipv4.ofText (Ipv4.render address) = address) ∧
    ∀ text, Ipv4.render (Ipv4.ofText text) = text ↔ ∃ address, Ipv4.Dotted text address := by
  refine ⟨fun raw => ⟨fun value => ?_, fun field text => ?_, ?_⟩,
    fun raw => ⟨fun value => ?_, fun field text => ?_, ?_⟩, fun address => ?_, fun text => ?_⟩
  · exact decodeEthernet_reads.ok_iff readsHardwareAddresses
  · have other : ∀ reason, PayloadError.mac field text ≠ .json reason := nofun
    refine (decodeEthernet_reads.error_iff readsHardwareAddresses other).trans ?_
    constructor
    · rintro ⟨form, _, _, fits, ⟨⟩, refused⟩
      exact ⟨form, fits, refused⟩
    · rintro ⟨form, fits, refused⟩
      exact ⟨form, field, text, fits, rfl, refused⟩
  · exact decodeEthernet_reads.json_iff readsHardwareAddresses nofun
  · exact decodeIpv4_reads.ok_iff readsIpv4Addresses
  · have other : ∀ reason, PayloadError.ipv4 field text ≠ .json reason := nofun
    refine (decodeIpv4_reads.error_iff readsIpv4Addresses other).trans ?_
    constructor
    · rintro ⟨header, _, _, fits, ⟨⟩, refused⟩
      exact ⟨header, fits, refused⟩
    · rintro ⟨header, fits, refused⟩
      exact ⟨header, field, text, fits, rfl, refused⟩
  · exact decodeIpv4_reads.json_iff readsIpv4Addresses nofun
  · exact Ipv4.ofText_eq_iff.mpr (Or.inl (Ipv4.dotted_iff.mpr rfl))
  · constructor
    · intro again
      exact ⟨Ipv4.ofText text, Ipv4.dotted_iff.mpr again.symm⟩
    · rintro ⟨address, dotted⟩
      rw [Ipv4.ofText_eq_iff.mpr (Or.inl dotted), Ipv4.dotted_iff.mp dotted]

example : ItemShape.decode .ipv4 (.object [("hdr", .object [("dst_addr", .string "10.56.217")])]) =
    .error (.ipv4 "hdr.dst_addr" "10.56.217") := rfl

end NicFlow
