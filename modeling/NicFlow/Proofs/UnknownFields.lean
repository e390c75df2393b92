import NicFlow.Action.Conf
import NicFlow.Item.Payload
import NicFlow.Proofs.JsonForms

/-! What becomes of fields that nobody has declared. In a payload of an item they are an error, however
deep they stand and whatever else the payload holds; in a configuration of an action they leave no trace. -/

namespace NicFlow

open Wire Log Traced

def Wire.Fields.kind? : Fields → (name : String) → Option Kind
  | .nil, _ => none
  | .cons first kind rest, name => if first = name then some kind else rest.kind? name

/-- An object that is given for a message has a key that is none of its fields, or an object in it that is
given for a nested message. -/
inductive Wire.Fields.Strays : Fields → Json → Prop where
  | undeclared {fields entries key value} (member : (key, value) ∈ entries) (unknown : key ∉ fields.names) :
      Strays fields (.object entries)
  | nested {fields entries key value name inner} (member : (key, value) ∈ entries)
      (declared : fields.kind? key = some (.message name inner)) (strays : Strays inner value) :
      Strays fields (.object entries)

namespace Wire

variable {fields : Fields} {key : String} {value : Json}

theorem Fields.position?_eq_none (name : String) (closed : Bool) (unknown : key ∉ fields.names) :
    (fields.reader (α := Json) name closed).position? key = none := by
  rw [position?_reader, List.findIdx?_eq_none_iff]
  intro declared member
  apply decide_eq_false
  intro same
  exact unknown (same ▸ member)

private theorem Fields.assign_error (fields : Fields) {closed : Bool} {kind : Kind} {position : Nat} {error : ReadError}
    (declared : fields.kind? key = some kind) (found : fields.names.findIdx? (· = key) = some position)
    (refused : kind.read closed value = .error error) (record : fields.Value) :
    fields.assign closed position value record = .error error := by
  cases fields with
  | nil => cases declared
  | cons name first rest =>
    obtain ⟨old, others⟩ := record
    by_cases same : name = key
    · simp only [kind?, same, ↓reduceIte, Option.some.injEq] at declared
      simp only [names, List.findIdx?_cons, same, decide_true, ↓reduceIte, Option.some.injEq] at found
      subst declared found
      simp only [assign, refused]
      rfl
    · simp only [kind?, same, ↓reduceIte] at declared
      simp only [names, List.findIdx?_cons, same, decide_false, Bool.false_eq_true, ↓reduceIte,
        Option.map_eq_some_iff] at found
      obtain ⟨position, found, rfl⟩ := found
      have later := rest.assign_error declared found refused others
      simp only [assign, later]
      rfl

private theorem Fields.Strays.ne_null {payload : Json} (strays : fields.Strays payload) : payload ≠ .null := by
  intro absent
  rw [absent] at strays
  cases strays

theorem Fields.Strays.refused {payload : Json} (strays : fields.Strays payload) (name : String) :
    ∃ error, fields.read name true payload = .error error := by
  induction strays generalizing name with
  | undeclared member unknown =>
    apply RecordReader.read_error_of_mem rfl member
    intro position found
    rw [Fields.position?_eq_none name true unknown] at found
    cases found
  | @nested fields entries key value inner _ member declared strays ih =>
    apply RecordReader.read_error_of_mem rfl member
    intro position found record
    obtain ⟨error, refused⟩ := ih inner
    refine ⟨error, fields.assign_error declared ?_ ?_ record⟩
    · rw [← Fields.position?_reader fields name true]
      exact found
    · exact (readOption_present strays.ne_null).trans (congrArg (Except.map some) refused)

end Wire

def ItemShape.writtenFields : ItemShape → Fields
  | .eth => ethernetForm.fields
  | .ipv4 => .cons "hdr" (.message ipv4HeaderForm.name ipv4HeaderForm.fields) .nil
  | shape => shape.message.fields

private theorem ipv4FormReader_error_of_strays {payload : Json}
    (strays : (ItemShape.writtenFields .ipv4).Strays payload) :
    ∃ error, ipv4FormReader.read payload = .error error := by
  cases strays with
  | undeclared member unknown =>
    apply RecordReader.read_error_of_mem rfl member
    intro position found
    have absent : ipv4FormReader.position? _ = none := Fields.position?_eq_none "Ipv4Json" true unknown
    rw [absent] at found
    cases found
  | @nested _ entries key value name inner member declared strays =>
    apply RecordReader.read_error_of_mem rfl member
    intro position found record
    simp only [ItemShape.writtenFields, Fields.kind?] at declared
    split at declared <;> cases declared
    exact strays.refused ipv4HeaderForm.name

private theorem ItemShape.decode_error_of_strays {shape : ItemShape} {payload : Json}
    (strays : shape.writtenFields.Strays payload) : ∃ error, shape.decode payload = .error (.json error) := by
  have plain {message : Message} (strays : message.fields.Strays payload) :
      ∃ error, (message.read true payload).mapError PayloadError.json = .error (.json error) := by
    obtain ⟨error, refused⟩ := strays.refused message.name
    exact ⟨error, mapError_eq_error_iff.mpr ⟨error, refused, rfl⟩⟩
  cases shape with
  | eth =>
    obtain ⟨error, refused⟩ := plain strays
    exact ⟨error, bind_eq_error_iff.mpr (Or.inl refused)⟩
  | ipv4 =>
    obtain ⟨error, refused⟩ := ipv4FormReader_error_of_strays strays
    exact ⟨error, bind_eq_error_iff.mpr (Or.inl (mapError_eq_error_iff.mpr ⟨error, refused, rfl⟩))⟩
  | _ => exact plain strays

/-- The names of the fields of a declared configuration. -/
def ConfLayout.fieldNames : ConfLayout → List String
  | .declared message => message.fields.names
  | .freeForm => []

private theorem ActionShape.decode_insertSorted {shape : ActionShape} (declared : shape ≠ .freeForm) {key : String}
    (unknown : key ∉ shape.layout.fieldNames) (value : Json) (entries : List (String × Json)) :
    shape.layout.decode (.object (insertSorted key value entries)) = shape.layout.decode (.object entries) := by
  have layout : shape.layout ≠ .freeForm := by
    cases shape <;> first | exact absurd rfl declared | exact ConfLayout.noConfusion
  cases form : shape.layout with
  | declared message =>
    rw [form] at unknown
    have absent := Fields.position?_eq_none message.name false unknown
    exact congrArg (Except.mapError PayloadError.json) (RecordReader.read_insertSorted rfl absent value)
  | freeForm => exact absurd form layout

/-- A payload of an item with a key that no message on the way declares is refused. In a configuration of
an action such a key may be added or given any other value, and the result stays the same, error or not. -/
theorem unknown_fields_refused_or_ignored :
    (∀ (shape : ItemShape) (payload : Json), shape.writtenFields.Strays payload →
      ∃ error, shape.decode payload = .error (.json error)) ∧
    ∀ shape : ActionShape, shape ≠ .freeForm → ∀ key, key ∉ shape.layout.fieldNames →
      ∀ (value : Json) (entries : List (String × Json)),
        shape.layout.decode (.object (insertSorted key value entries)) = shape.layout.decode (.object entries) :=
  ⟨fun _ _ => ItemShape.decode_error_of_strays,
    fun _ declared _ unknown => ActionShape.decode_insertSorted declared unknown⟩

/-- A key two levels down is found, and a wrong index stays the error that it was. -/
theorem unknown_fields_refused_or_ignored_nested :
    let address : Json := .object [("octets", .array [])]
    let payload : Json := .object [("hrd", .ofNat 1), ("tha", address)]
    (ItemShape.writtenFields .arpEthIpv4).Strays payload ∧
      (∃ error, ItemShape.decode .arpEthIpv4 payload = .error (.json error)) ∧
      ActionShape.queue ≠ .freeForm ∧ "priority" ∉ ActionShape.queue.layout.fieldNames ∧
      ActionShape.queue.layout.decode (.object [("index", .string "three"), ("priority", .null)]) =
        ActionShape.queue.layout.decode (.object [("index", .string "three")]) := by
  intro address payload
  have inner : Fields.Strays etherAddress address := .undeclared List.mem_cons_self (by decide)
  have strays : (ItemShape.writtenFields .arpEthIpv4).Strays payload :=
    .nested (List.mem_cons_of_mem _ List.mem_cons_self) rfl inner
  have declared : ActionShape.queue ≠ .freeForm := by decide
  have unknown : "priority" ∉ ActionShape.queue.layout.fieldNames := by decide
  exact ⟨strays, unknown_fields_refused_or_ignored.1 .arpEthIpv4 payload strays, declared, unknown,
    unknown_fields_refused_or_ignored.2 .queue declared "priority" unknown .null [("index", .string "three")]⟩

end NicFlow
