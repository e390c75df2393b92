import NicFlow.Item.Rule
import NicFlow.Proofs.TracedResults

/-! What the strict shapes ask of a payload, value by value. The values are those of the message in the
order in which they are encoded, and the first one at fault is reported. -/

namespace NicFlow

open Wire FieldRule Log Traced

mutual

def Wire.Kind.paths : Kind → List (List String)
  | .message _ fields => fields.paths
  | _ => [[]]

def Wire.Fields.paths : Fields → List (List String)
  | .nil => []
  | .cons name kind rest => kind.paths.map (name :: ·) ++ rest.paths

end

inductive Part where
  | number (path : List String)
  /-- The bytes of a hardware address. -/
  | address (field : String)
  /-- A number that is written as bytes. -/
  | octets (field : String)

namespace Part

def ofPath : List String → Part
  | [field, "addr_bytes"] => .address field
  | ["rsvd0"] => .octets "rsvd0"
  | ["vni"] => .octets "vni"
  | path => .number path

def name : Part → String
  | .number path => ".".intercalate path
  | .address field => field
  | .octets field => field

end Part

def CrossCheck.Applies : CrossCheck → (spec candidate : Nat) → Prop
  | .always, _, _ => True
  | .whenSet, _, candidate => candidate ≠ 0
  | .whenSpecSet, spec, _ => spec ≠ 0

/-- Nothing is set that the spec leaves unset, and a range ends where it begins or above. -/
def Role.Allows (role : Role) (spec candidate : Nat) : Prop :=
  (spec = 0 → candidate = 0) ∧ (role = .last → spec ≤ candidate)

/-- Why two numbers are not allowed beside each other. -/
inductive Role.Refuses (role : Role) (field : String) (spec candidate : Nat) : FieldError → Prop where
  | unset (absent : spec = 0) (set : candidate ≠ 0) : role.Refuses field spec candidate (.specMissing field role)
  | below (ranged : role = .last) (lower : candidate < spec) :
      role.Refuses field spec candidate (.lastBelowSpec field spec candidate)

namespace ItemShape

def strictShapes : List ItemShape :=
  [.eth, .vlan, .ipv4, .icmp, .udp, .tcp, .sctp, .vxlan, .pppoe, .pppoeProtoId, .mark, .metadata, .tag]

def parts (shape : ItemShape) : List Part := shape.message.fields.paths.map Part.ofPath

def octetFields : ItemShape → List String
  | .ipv4 => ["version_ihl", "type_of_service", "time_to_live", "next_proto_id"]
  | .icmp => ["icmp_type", "icmp_code"]
  | .tcp => ["data_off", "tcp_flags"]
  | .vxlan => ["flags", "rsvd1"]
  | .pppoe => ["version_type", "code"]
  | .tag => ["index"]
  | _ => []

def shortFields : ItemShape → List String
  | .eth => ["type"]
  | .vlan => ["tci", "inner_type"]
  | .ipv4 => ["total_length", "packet_id", "fragment_offset", "hdr_checksum"]
  | .icmp => ["icmp_cksum", "icmp_ident", "icmp_seq_nb"]
  | .udp => ["src_port", "dst_port", "dgram_len", "dgram_cksum"]
  | .tcp => ["src_port", "dst_port", "rx_win", "cksum", "tcp_urp"]
  | .sctp => ["src_port", "dst_port"]
  | .pppoe => ["session_id", "length"]
  | .pppoeProtoId => ["proto_id"]
  | _ => []

/-- The largest number that the field at a path holds, if it is narrower than the word it is sent as. -/
def limit? (shape : ItemShape) (path : List String) : Option Nat :=
  if path.getLastD "" ∈ shape.octetFields then some 255
  else if path.getLastD "" ∈ shape.shortFields then some 65535
  else none

/-- The type of an Ethernet payload and the ports, length and checksum of UDP may be left open by a
candidate, the fields of PPPoE by the spec. -/
def crossCheck : ItemShape → Part → CrossCheck
  | .eth, .number _ => .whenSet
  | .udp, .number _ => .whenSet
  | .pppoe, .number _ => .whenSpecSet
  | _, _ => .always

section Keeping

variable (addressed : Option Bytes → Nat) (shape : ItemShape) (spec candidate : shape.Value) (role : Role)

def addressAt (shape : ItemShape) (value : shape.Value) (field : String) : Option Bytes :=
  shape.message.fields.bytes? value [field, "addr_bytes"]

def octetsAt (shape : ItemShape) (value : shape.Value) (field : String) : Bytes :=
  (shape.message.fields.bytes? value [field]).getD []

/-- A value as a number; it depends on what counts as the number of an address. -/
def numberAt (addressed : Option Bytes → Nat) (shape : ItemShape) (value : shape.Value) : Part → Nat
  | .number path => shape.message.fields.number value path
  | .address field => addressed (shape.addressAt value field)
  | .octets field => octetsNumber (shape.octetsAt value field)

def Formed : Part → Prop
  | .number _ => True
  | .address field => ∀ bytes, shape.addressAt candidate field = some bytes → bytes.length = 6
  | .octets field => (shape.octetsAt spec field).length ≤ 3 ∧ (shape.octetsAt candidate field).length ≤ 3

def Compares (part : Part) : Prop :=
  role ≠ .spec ∧ (shape.crossCheck part).Applies (shape.numberAt addressed spec part)
    (shape.numberAt addressed candidate part)

def Bounded : Part → Prop
  | .number path =>
    ∀ max, shape.limit? path = some max → shape.message.fields.number candidate path ≤ max
  | _ => True

/-- All that is asked of one value of a candidate. -/
structure Keeps (part : Part) : Prop where
  formed : shape.Formed spec candidate part
  allowed : shape.Compares addressed spec candidate role part →
    role.Allows (shape.numberAt addressed spec part) (shape.numberAt addressed candidate part)
  bounded : shape.Bounded candidate part

/-- All that is asked of a candidate. -/
def Accepts : Prop := ∀ part ∈ shape.parts, shape.Keeps addressed spec candidate role part

/-- One value of a candidate is at fault, with the error that says so. Bytes of a wrong length are not
compared, and a number is compared before its width is looked at. -/
inductive Offends : Part → FieldError → Prop where
  | address {field bytes} (given : shape.addressAt candidate field = some bytes) (length : bytes.length ≠ 6) :
      Offends (.address field) (.invalid field s!"expected 6 address bytes, got {bytes.length}")
  | specOctets {field} (long : 3 < (shape.octetsAt spec field).length) :
      Offends (.octets field)
        (.invalid field s!"at most 3 bytes, got {(shape.octetsAt spec field).length}")
  | octets {field} (short : (shape.octetsAt spec field).length ≤ 3)
      (long : 3 < (shape.octetsAt candidate field).length) :
      Offends (.octets field)
        (.invalid field s!"at most 3 bytes, got {(shape.octetsAt candidate field).length}")
  | compared {part error} (formed : shape.Formed spec candidate part)
      (compares : shape.Compares addressed spec candidate role part)
      (refuses : role.Refuses part.name (shape.numberAt addressed spec part)
        (shape.numberAt addressed candidate part) error) :
      Offends part error
  | wide {path max}
      (allowed : shape.Compares addressed spec candidate role (.number path) →
        role.Allows (shape.numberAt addressed spec (.number path))
          (shape.numberAt addressed candidate (.number path)))
      (limited : shape.limit? path = some max) (above : max < shape.message.fields.number candidate path) :
      Offends (.number path)
        (.outOfRange (Part.number path).name max (shape.message.fields.number candidate path))

end Keeping

end ItemShape

section Numbers

variable {field : String} {spec candidate : Nat} {role : Role} {error : FieldError}

theorem checkCross_ok_iff :
    checkCross field spec candidate role = .ok () ↔ (role ≠ .spec → role.Allows spec candidate) := by
  unfold checkCross Role.Allows
  by_cases own : role = .spec
  · simp [own]
  · by_cases unset : spec = 0 ∧ candidate ≠ 0
    · simp [own, unset]
    · by_cases below : role = .last ∧ candidate < spec
      · simp [unset, below]
      · simp only [own, unset, below, ↓reduceIte, true_iff]
        rintro -
        constructor
        · intro absent
          by_contra set
          exact unset ⟨absent, set⟩
        · intro ranged
          by_contra lower
          exact below ⟨ranged, Nat.lt_of_not_le lower⟩

theorem checkCross_error_iff :
    checkCross field spec candidate role = .error error ↔
      role ≠ .spec ∧ role.Refuses field spec candidate error := by
  unfold checkCross
  constructor
  · intro failed
    split at failed
    · cases failed
    next beside =>
      split at failed
      next unset =>
        cases failed
        exact ⟨beside, .unset unset.1 unset.2⟩
      · split at failed
        next below =>
          cases failed
          exact ⟨beside, .below below.1 below.2⟩
        · cases failed
  · rintro ⟨beside, refuses⟩
    rw [if_neg beside]
    cases refuses with
    | unset absent set => rw [if_pos ⟨absent, set⟩]
    | below ranged lower =>
      have given : ¬ (spec = 0 ∧ candidate ≠ 0) := by omega
      rw [if_neg given, if_pos ⟨ranged, lower⟩]

theorem checkOptionalMax_ok_iff {value : Nat} {max : Option Nat} :
    checkOptionalMax field value max = .ok () ↔ ∀ bound, max = some bound → value ≤ bound := by
  cases max with
  | none => simp [checkOptionalMax]
  | some max => simp [checkOptionalMax, checkMax]

private theorem checkOptionalMax_error_iff {value : Nat} {max : Option Nat} :
    checkOptionalMax field value max = .error error ↔
      ∃ bound, max = some bound ∧ bound < value ∧ error = .outOfRange field bound value := by
  cases max with
  | none => simp [checkOptionalMax]
  | some max =>
    simp only [checkOptionalMax, checkMax, Option.some.injEq, exists_eq_left']
    split
    next above => simp [above, eq_comm]
    next within => simp [within]

private theorem checkOctets_ok_iff {width value : Nat} {bytes : Bytes} :
    checkOctets field width bytes = .ok value ↔ bytes.length ≤ width ∧ value = octetsNumber bytes := by
  unfold checkOctets
  split
  next long => simp [Nat.not_le_of_lt long]
  next short => simp [Nat.le_of_not_lt short, eq_comm]

private theorem checkOctets_error_iff {width : Nat} {bytes : Bytes} :
    checkOctets field width bytes = .error error ↔
      width < bytes.length ∧ error = .invalid field s!"at most {width} bytes, got {bytes.length}" := by
  unfold checkOctets
  split
  next long => simp [long, eq_comm]
  next short => simp [short]

end Numbers

section Checking

variable {fields : Fields} {spec candidate : fields.Value} {role : Role} {error : FieldError}

private theorem check_number_eq {path : List String} {max : Option Nat} {cross : CrossCheck}
    (applies : cross.Applies (fields.number spec path) (fields.number candidate path)) :
    (FieldRule.number path max cross).check fields spec candidate role =
      checkCross (".".intercalate path) (fields.number spec path) (fields.number candidate path) role >>=
        fun _ => checkOptionalMax (".".intercalate path) (fields.number candidate path) max := by
  cases cross with
  | always => rfl
  | whenSet =>
    have set : fields.number candidate path ≠ 0 := applies
    simp only [FieldRule.check, if_neg set]
  | whenSpecSet =>
    have set : fields.number spec path ≠ 0 := applies
    simp only [FieldRule.check, if_pos set]

private theorem check_number_uncompared {path : List String} {max : Option Nat} {cross : CrossCheck}
    (spared : ¬ cross.Applies (fields.number spec path) (fields.number candidate path)) :
    (FieldRule.number path max cross).check fields spec candidate role =
      checkOptionalMax (".".intercalate path) (fields.number candidate path) max := by
  cases cross with
  | always => exact absurd trivial spared
  | whenSet =>
    have unset : fields.number candidate path = 0 := Decidable.not_not.mp spared
    simp only [FieldRule.check, unset]
    exact (checkOptionalMax_ok_iff.mpr fun bound _ => Nat.zero_le bound).symm
  | whenSpecSet =>
    have unset : ¬ fields.number spec path ≠ 0 := spared
    simp only [FieldRule.check, if_neg unset]

theorem check_number_ok_iff {path : List String} {max : Option Nat} {cross : CrossCheck} :
    (FieldRule.number path max cross).check fields spec candidate role = .ok () ↔
      (role ≠ .spec ∧ cross.Applies (fields.number spec path) (fields.number candidate path) →
        role.Allows (fields.number spec path) (fields.number candidate path)) ∧
      ∀ bound, max = some bound → fields.number candidate path ≤ bound := by
  by_cases applies : cross.Applies (fields.number spec path) (fields.number candidate path)
  · rw [check_number_eq applies, check_then_ok_iff, checkCross_ok_iff, checkOptionalMax_ok_iff]
    simp only [applies, and_true]
  · rw [check_number_uncompared applies, checkOptionalMax_ok_iff]
    simp only [applies, and_false, false_implies, true_and]

theorem check_number_error_iff {path : List String} {max : Option Nat} {cross : CrossCheck} :
    (FieldRule.number path max cross).check fields spec candidate role = .error error ↔
      ((role ≠ .spec ∧ cross.Applies (fields.number spec path) (fields.number candidate path)) ∧
        role.Refuses (".".intercalate path) (fields.number spec path) (fields.number candidate path) error) ∨
      ((role ≠ .spec ∧ cross.Applies (fields.number spec path) (fields.number candidate path) →
        role.Allows (fields.number spec path) (fields.number candidate path)) ∧
        ∃ bound, max = some bound ∧ bound < fields.number candidate path ∧
          error = .outOfRange (".".intercalate path) bound (fields.number candidate path)) := by
  by_cases applies : cross.Applies (fields.number spec path) (fields.number candidate path)
  · rw [check_number_eq applies, check_then_error_iff, checkCross_ok_iff, checkCross_error_iff,
      checkOptionalMax_error_iff]
    simp only [applies, and_true]
  · rw [check_number_uncompared applies, checkOptionalMax_error_iff]
    simp only [applies, and_false, false_and, false_or, false_implies, true_and]

private theorem check_address_eq {field : String} :
    (FieldRule.address field).check fields spec candidate role =
      (match fields.bytes? candidate [field, "addr_bytes"] with
        | some bytes =>
          if bytes.length ≠ 6 then .error (.invalid field s!"expected 6 address bytes, got {bytes.length}")
          else .ok ()
        | none => .ok ()) >>= fun _ =>
      checkCross field (addressNumber (fields.bytes? spec [field, "addr_bytes"]))
        (addressNumber (fields.bytes? candidate [field, "addr_bytes"])) role := by
  simp only [FieldRule.check]
  cases fields.bytes? candidate [field, "addr_bytes"] with
  | none => rfl
  | some bytes =>
    simp only
    split <;> rfl

theorem check_address_ok_iff {field : String} :
    (FieldRule.address field).check fields spec candidate role = .ok () ↔
      (∀ bytes, fields.bytes? candidate [field, "addr_bytes"] = some bytes → bytes.length = 6) ∧
      (role ≠ .spec → role.Allows (addressNumber (fields.bytes? spec [field, "addr_bytes"]))
        (addressNumber (fields.bytes? candidate [field, "addr_bytes"]))) := by
  rw [check_address_eq, check_then_ok_iff, checkCross_ok_iff]
  cases fields.bytes? candidate [field, "addr_bytes"] with
  | none => simp
  | some bytes => simp

theorem check_address_error_iff {field : String} :
    (FieldRule.address field).check fields spec candidate role = .error error ↔
      (∃ bytes, fields.bytes? candidate [field, "addr_bytes"] = some bytes ∧ bytes.length ≠ 6 ∧
        error = .invalid field s!"expected 6 address bytes, got {bytes.length}") ∨
      (∀ bytes, fields.bytes? candidate [field, "addr_bytes"] = some bytes → bytes.length = 6) ∧
        role ≠ .spec ∧ role.Refuses field (addressNumber (fields.bytes? spec [field, "addr_bytes"]))
          (addressNumber (fields.bytes? candidate [field, "addr_bytes"])) error := by
  rw [check_address_eq, check_then_error_iff, checkCross_error_iff]
  cases fields.bytes? candidate [field, "addr_bytes"] with
  | none => simp
  | some bytes => by_cases whole : bytes.length = 6 <;> simp [whole, eq_comm]

private theorem check_octets_ok_iff {field : String} {width : Nat} :
    (FieldRule.octets field width).check fields spec candidate role = .ok () ↔
      ((fields.bytes? spec [field]).getD []).length ≤ width ∧
      ((fields.bytes? candidate [field]).getD []).length ≤ width ∧
      (role ≠ .spec → role.Allows (octetsNumber ((fields.bytes? spec [field]).getD []))
        (octetsNumber ((fields.bytes? candidate [field]).getD []))) := by
  simp only [FieldRule.check, bind_eq_ok_iff, checkOctets_ok_iff, checkCross_ok_iff]
  constructor
  · rintro ⟨_, ⟨specShort, rfl⟩, _, ⟨short, rfl⟩, allowed⟩
    exact ⟨specShort, short, allowed⟩
  · rintro ⟨specShort, short, allowed⟩
    exact ⟨_, ⟨specShort, rfl⟩, _, ⟨short, rfl⟩, allowed⟩

private theorem check_octets_error_iff {field : String} {width : Nat} :
    (FieldRule.octets field width).check fields spec candidate role = .error error ↔
      (width < ((fields.bytes? spec [field]).getD []).length ∧
        error = .invalid field s!"at most {width} bytes, got {((fields.bytes? spec [field]).getD []).length}") ∨
      ((fields.bytes? spec [field]).getD []).length ≤ width ∧
        ((width < ((fields.bytes? candidate [field]).getD []).length ∧ error =
          .invalid field s!"at most {width} bytes, got {((fields.bytes? candidate [field]).getD []).length}") ∨
        ((fields.bytes? candidate [field]).getD []).length ≤ width ∧
          role ≠ .spec ∧ role.Refuses field (octetsNumber ((fields.bytes? spec [field]).getD []))
            (octetsNumber ((fields.bytes? candidate [field]).getD [])) error) := by
  simp only [FieldRule.check, bind_eq_error_iff, checkOctets_ok_iff, checkOctets_error_iff,
    checkCross_error_iff]
  refine or_congr_right ⟨?_, ?_⟩
  · rintro ⟨_, ⟨specShort, rfl⟩, long | ⟨_, ⟨short, rfl⟩, refused⟩⟩
    · exact ⟨specShort, Or.inl long⟩
    · exact ⟨specShort, Or.inr ⟨short, refused⟩⟩
  · rintro ⟨specShort, long | ⟨short, refused⟩⟩
    · exact ⟨_, ⟨specShort, rfl⟩, Or.inl long⟩
    · exact ⟨_, ⟨specShort, rfl⟩, Or.inr ⟨_, ⟨short, rfl⟩, refused⟩⟩

end Checking

namespace ItemShape

section Rules

def ruleOf (shape : ItemShape) : Part → FieldRule
  | .number path => .number path (shape.limit? path) (shape.crossCheck (.number path))
  | .address field => .address field
  | .octets field => .octets field 3

/-- A strict shape has one rule for each of its values, in their order. -/
theorem rules?_eq {shape : ItemShape} (strict : shape ∈ strictShapes) :
    shape.rules? = some (shape.parts.map shape.ruleOf) := by
  simp only [strictShapes, List.mem_cons, List.not_mem_nil, or_false] at strict
  rcases strict with rfl | rfl | rfl | rfl | rfl | rfl | rfl | rfl | rfl | rfl | rfl | rfl | rfl <;> rfl

variable {shape : ItemShape} {spec candidate : shape.Value} {role : Role} {part : Part} {error : FieldError}

theorem check_ruleOf_ok_iff :
    (shape.ruleOf part).check shape.message.fields spec candidate role = .ok () ↔
      shape.Keeps addressNumber spec candidate role part := by
  cases part with
  | number path =>
    rw [ruleOf, check_number_ok_iff]
    exact ⟨fun ⟨allowed, bounded⟩ => ⟨trivial, allowed, bounded⟩, fun keeps => ⟨keeps.allowed, keeps.bounded⟩⟩
  | address field =>
    rw [ruleOf, check_address_ok_iff]
    constructor
    · rintro ⟨formed, allowed⟩
      exact ⟨formed, fun compares => allowed compares.1, trivial⟩
    · rintro ⟨formed, allowed, _⟩
      exact ⟨formed, fun beside => allowed ⟨beside, by simp [crossCheck, CrossCheck.Applies]⟩⟩
  | octets field =>
    rw [ruleOf, check_octets_ok_iff]
    constructor
    · rintro ⟨specShort, short, allowed⟩
      exact ⟨⟨specShort, short⟩, fun compares => allowed compares.1, trivial⟩
    · rintro ⟨⟨specShort, short⟩, allowed, _⟩
      exact ⟨specShort, short, fun beside => allowed ⟨beside, by simp [crossCheck, CrossCheck.Applies]⟩⟩

private theorem check_ruleOf_error_iff :
    (shape.ruleOf part).check shape.message.fields spec candidate role = .error error ↔
      shape.Offends addressNumber spec candidate role part error := by
  have beyond : ∀ length : Nat, s!"at most {3} bytes, got {length}" = s!"at most 3 bytes, got {length}" :=
    fun _ => rfl
  cases part with
  | number path =>
    rw [ruleOf, check_number_error_iff]
    constructor
    · rintro (⟨compares, refuses⟩ | ⟨allowed, max, limited, above, rfl⟩)
      · exact .compared trivial compares refuses
      · exact .wide allowed limited above
    · intro offends
      cases offends with
      | compared _ compares refuses => exact Or.inl ⟨compares, refuses⟩
      | wide allowed limited above => exact Or.inr ⟨allowed, _, limited, above, rfl⟩
  | address field =>
    have always : shape.crossCheck (.address field) = .always := by cases shape <;> rfl
    rw [ruleOf, check_address_error_iff]
    constructor
    · rintro (⟨bytes, given, length, rfl⟩ | ⟨formed, beside, refuses⟩)
      · exact .address given length
      · exact .compared formed ⟨beside, always ▸ trivial⟩ refuses
    · intro offends
      cases offends with
      | address given length => exact Or.inl ⟨_, given, length, rfl⟩
      | compared formed compares refuses => exact Or.inr ⟨formed, compares.1, refuses⟩
  | octets field =>
    have always : shape.crossCheck (.octets field) = .always := by cases shape <;> rfl
    rw [ruleOf, check_octets_error_iff, beyond, beyond]
    constructor
    · rintro (⟨long, rfl⟩ | ⟨specShort, ⟨long, rfl⟩ | ⟨short, beside, refuses⟩⟩)
      · exact .specOctets long
      · exact .octets specShort long
      · exact .compared ⟨specShort, short⟩ ⟨beside, always ▸ trivial⟩ refuses
    · intro offends
      cases offends with
      | specOctets long => exact Or.inl ⟨long, rfl⟩
      | octets specShort long => exact Or.inr ⟨specShort, Or.inl ⟨long, rfl⟩⟩
      | compared formed compares refuses =>
        exact Or.inr ⟨formed.1, Or.inr ⟨formed.2, compares.1, refuses⟩⟩

theorem check_eq (strict : shape ∈ strictShapes) :
    shape.check spec candidate role = shape.parts.forM fun part =>
      (shape.ruleOf part).check shape.message.fields spec candidate role := by
  rw [check, rules?_eq strict, Option.getD_some]
  exact List.forM_map ..

end Rules

section Exactness

/-- The number of an address that has six bytes; every other address counts as zero. -/
def wholeNumber : Option Bytes → Nat
  | some bytes => if bytes.length = 6 then octetsNumber bytes else 0
  | none => 0

theorem addressNumber_eq : addressNumber = wholeNumber := by
  funext bytes
  cases bytes with
  | none => rfl
  | some bytes =>
    by_cases whole : bytes.length = 6
    · simp [addressNumber, wholeNumber, Mac.ofOctets?, Mac.number, octetsNumber, whole]
    · simp [addressNumber, wholeNumber, Mac.ofOctets?, whole]

/-- A candidate of a strict shape is accepted exactly if all its values keep what is asked of them;
otherwise the first value at fault is named. -/
theorem strict_shapes_exact {shape : ItemShape} (strict : shape ∈ strictShapes)
    (spec candidate : shape.Value) (role : Role) :
    (shape.check spec candidate role = .ok () ↔ shape.Accepts wholeNumber spec candidate role) ∧
    ∀ error, shape.check spec candidate role = .error error ↔
      ∃ before part after, shape.parts = before ++ part :: after ∧
        (∀ earlier ∈ before, shape.Keeps wholeNumber spec candidate role earlier) ∧
        shape.Offends wholeNumber spec candidate role part error := by
  rw [check_eq strict, ← addressNumber_eq]
  constructor
  · rw [forM_eq_ok_iff]
    simp only [check_ruleOf_ok_iff, Accepts]
  · intro error
    rw [forM_eq_error_iff]
    simp only [check_ruleOf_ok_iff, check_ruleOf_error_iff]

/-- A code that is too wide is found before the session that ends too early, though a code need not be
set by the spec. -/
theorem strict_shapes_exact_wide_code :
    ItemShape.pppoe ∈ strictShapes ∧
      ItemShape.check .pppoe ((0 : UInt32), (0 : UInt32), (10 : UInt32), (0 : UInt32), ())
        ((0 : UInt32), (300 : UInt32), (9 : UInt32), (0 : UInt32), ()) .last =
        .error (.outOfRange "code" 255 300) := by
  have strict : ItemShape.pppoe ∈ strictShapes := by decide
  refine ⟨strict, ((strict_shapes_exact strict _ _ _).2 _).mpr
    ⟨[.number ["version_type"]], .number ["code"], [.number ["session_id"], .number ["length"]], rfl, ?_, ?_⟩⟩
  · intro earlier member
    rw [List.mem_singleton.mp member]
    exact ⟨trivial, fun compares => absurd rfl compares.2, fun max _ => Nat.zero_le max⟩
  · exact .wide (fun compares => absurd rfl compares.2) rfl (by decide)

/-- The number of an address that is there, whatever its length. -/
def presentNumber (bytes : Option Bytes) : Nat := bytes.elim 0 octetsNumber

/-- An address of one byte in a spec does not count as set. -/
theorem short_address_unset :
    ItemShape.Accepts presentNumber .eth (some ([1], ()), none, (0 : UInt32), ())
        (some ([255, 255, 255, 255, 255, 255], ()), none, (0 : UInt32), ()) .mask ∧
      ItemShape.check .eth (some ([1], ()), none, (0 : UInt32), ())
        (some ([255, 255, 255, 255, 255, 255], ()), none, (0 : UInt32), ()) .mask =
        .error (.specMissing "dst" .mask) := by
  refine ⟨?_, rfl⟩
  intro part member
  have parts : ItemShape.parts .eth = [.address "dst", .address "src", .number ["type"]] := rfl
  rw [parts] at member
  simp only [List.mem_cons, List.not_mem_nil, or_false] at member
  rcases member with rfl | rfl | rfl
  · refine ⟨fun bytes given => ?_, fun _ => ?_, trivial⟩
    · cases given
      rfl
    · exact ⟨fun absent => absurd absent (by decide), nofun⟩
  · refine ⟨fun bytes given => ?_, fun _ => ?_, trivial⟩
    · cases given
    · exact ⟨fun _ => rfl, nofun⟩
  · exact ⟨trivial, fun compares => absurd rfl compares.2, fun max _ => Nat.zero_le max⟩

end Exactness

end ItemShape

end NicFlow
