import NicFlow.Proofs.JsonForms
import NicFlow.Wire.Message

/-! Records that refuse what they do not know. A closed record without required fields is read exactly if
the document gives values to some of its fields, by name or in the order of their declaration, and each of
these values can be read; all other fields keep what they start with. -/

namespace NicFlow

open Log Traced

/-- A document gives values to some of the fields with these names: an object that has no other keys, and
none of them twice, or a list that is not longer than the names. -/
inductive Json.Gives (names : List String) : Json → List (String × Json) → Prop where
  | object {entries} (distinct : (entries.map Prod.fst).Nodup) (declared : ∀ entry ∈ entries, entry.1 ∈ names) :
      Gives names (.object entries) entries
  | list {elements} (short : elements.length ≤ names.length) : Gives names (.array elements) (names.zip elements)

private theorem Json.gives_object_iff {names : List String} {fields entries : List (String × Json)} :
    (Json.object fields).Gives names entries ↔
      entries = fields ∧ (fields.map Prod.fst).Nodup ∧ ∀ entry ∈ fields, entry.1 ∈ names := by
  constructor
  · rintro (⟨distinct, declared⟩ | _)
    exact ⟨rfl, distinct, declared⟩
  · rintro ⟨rfl, distinct, declared⟩
    exact .object distinct declared

private theorem Json.gives_list_iff {names : List String} {elements : List Json} {entries : List (String × Json)} :
    (Json.array elements).Gives names entries ↔ entries = names.zip elements ∧ elements.length ≤ names.length := by
  constructor
  · rintro (_ | short)
    exact ⟨rfl, short⟩
  · rintro ⟨rfl, short⟩
    exact .list short

theorem Json.Gives.keys_nodup {names : List String} {document : Json} {entries : List (String × Json)}
    (gives : document.Gives names entries) (distinct : names.Nodup) : (entries.map Prod.fst).Nodup := by
  cases gives with
  | object distinct declared => exact distinct
  | @list elements short =>
    rw [List.zip_eq_zip_take_min, List.map_fst_zip (by simp)]
    exact (List.take_sublist _ names).nodup distinct

theorem Json.Gives.declared {names : List String} {document : Json} {entries : List (String × Json)}
    (gives : document.Gives names entries) : ∀ entry ∈ entries, entry.1 ∈ names := by
  cases gives with
  | object distinct declared => exact declared
  | list short => exact fun entry member => (List.of_mem_zip member).1

namespace RecordReader

variable {σ : Type} {reader : RecordReader Json σ} {entries : List (String × Json)} {record value : σ}

def names (reader : RecordReader Json σ) : List String := reader.fields.map FieldName.name

/-- Reads an entry into the field that it names. -/
def put (reader : RecordReader Json σ) (record : σ) (entry : String × Json) : Read σ :=
  reader.assign (reader.names.idxOf entry.1) entry.2 record

/-- A closed reader that requires no field, and knows each by one name. -/
structure Strict (reader : RecordReader Json σ) : Prop where
  closed : reader.closed = true
  unaliased : ∀ field ∈ reader.fields, field.aliases = []
  defaulted : ∀ field ∈ reader.fields, field.presence = .defaulted
  distinct : reader.names.Nodup

private theorem Strict.position?_eq (strict : reader.Strict) (key : String) :
    reader.position? key = if key ∈ reader.names then some (reader.names.idxOf key) else none := by
  split
  next known =>
    have found := List.getElem?_idxOf known
    rw [names, List.getElem?_map] at found
    obtain ⟨field, declared, named⟩ := Option.map_eq_some_iff.mp found
    rw [← named]
    exact position?_of_getElem? strict.unaliased strict.distinct (named ▸ declared)
  next unknown =>
    cases found : reader.position? key with
    | none => rfl
    | some position =>
      obtain ⟨field, declared, named⟩ := Option.map_eq_some_iff.mp (name_of_position? strict.unaliased found)
      exact absurd (named ▸ List.mem_map_of_mem (List.mem_of_getElem? declared)) unknown

theorem Strict.missing?_eq_none (strict : reader.Strict) (seen : List Nat) : reader.missing? seen = none := by
  apply RecordReader.missing?_eq_none
  intro position field declared required
  rw [strict.defaulted field (List.mem_of_getElem? declared)] at required
  cases required

private theorem unread_cons_iff {names : List String} {key : String} {seen : List Nat} (known : key ∈ names) :
    (∀ other ∈ entries, other.1 ∈ names ∧ names.idxOf other.1 ∉ names.idxOf key :: seen) ↔
      key ∉ entries.map Prod.fst ∧ ∀ other ∈ entries, other.1 ∈ names ∧ names.idxOf other.1 ∉ seen := by
  simp only [List.mem_cons, not_or]
  constructor
  · intro unread
    refine ⟨?_, fun other member => ⟨(unread other member).1, (unread other member).2.2⟩⟩
    intro repeated
    obtain ⟨other, member, same⟩ := List.mem_map.mp repeated
    exact (unread other member).2.1 (congrArg names.idxOf same)
  · rintro ⟨single, unread⟩ other member
    refine ⟨(unread other member).1, ?_, (unread other member).2⟩
    intro same
    have key : key = other.1 := (List.idxOf_inj known).mp same.symm
    exact single (key ▸ List.mem_map_of_mem member)

private theorem Strict.readEntries_ok_iff (strict : reader.Strict) {seen : List Nat} :
    (∃ known, reader.readEntries seen record entries = .ok (known, value)) ↔
      (entries.map Prod.fst).Nodup ∧ (∀ entry ∈ entries, entry.1 ∈ reader.names ∧ reader.names.idxOf entry.1 ∉ seen) ∧
      entries.foldlM reader.put record = .ok value := by
  induction entries generalizing seen record with
  | nil => simp [readEntries, Pure.pure, Except.pure]
  | cons entry rest ih =>
    rw [readEntries, strict.position?_eq, List.foldlM_cons, bind_eq_ok_iff, List.map_cons, List.nodup_cons,
      List.forall_mem_cons]
    by_cases known : entry.1 ∈ reader.names
    · by_cases read : reader.names.idxOf entry.1 ∈ seen
      · simp [known, read]
      · have goesOn : (∃ result, (reader.assign (reader.names.idxOf entry.1) entry.2 record >>= fun middle =>
            reader.readEntries (reader.names.idxOf entry.1 :: seen) middle rest) = .ok (result, value)) ↔
            ∃ middle, reader.put record entry = .ok middle ∧
              ∃ result, reader.readEntries (reader.names.idxOf entry.1 :: seen) middle rest = .ok (result, value) := by
          simp only [bind_eq_ok_iff, put]
          tauto
        simp only [known, read, ↓reduceIte, true_and, not_false_eq_true, goesOn, ih, unread_cons_iff known]
        constructor
        · rintro ⟨middle, put, distinct, ⟨single, unread⟩, read⟩
          exact ⟨⟨single, distinct⟩, unread, middle, put, read⟩
        · rintro ⟨⟨single, distinct⟩, unread, middle, put, read⟩
          exact ⟨middle, put, distinct, ⟨single, unread⟩, read⟩
    · simp [known, strict.closed]

private theorem Strict.readPositions_ok_iff (strict : reader.Strict) {length : Nat} {before fields : List FieldName}
    {elements : List Json} (declared : reader.fields = before ++ fields) :
    reader.readPositions length .whole fields before.length elements record = .ok value ↔
      elements.length ≤ fields.length ∧
      ((fields.map FieldName.name).zip elements).foldlM reader.put record = .ok value := by
  induction fields generalizing before elements record with
  | nil =>
    cases elements with
    | nil => simp [readPositions, Pure.pure, Except.pure]
    | cons element rest => simp [readPositions]
  | cons field fields ih =>
    have later : reader.fields = (before ++ [field]) ++ fields := by
      rw [declared, List.append_assoc]
      rfl
    have ih (elements : List Json) (record : σ) :
        reader.readPositions length .whole fields (before.length + 1) elements record = .ok value ↔
          elements.length ≤ fields.length ∧
          ((fields.map FieldName.name).zip elements).foldlM reader.put record = .ok value := by
      have further := @ih record (before ++ [field]) elements later
      rwa [List.length_append] at further
    cases elements with
    | nil =>
      have optional : field.presence = .defaulted := by
        apply strict.defaulted
        rw [declared]
        exact List.mem_append_right _ List.mem_cons_self
      have read : reader.readPositions length .whole (field :: fields) before.length [] record =
          reader.readPositions length .whole fields (before.length + 1) [] record := by
        rw [readPositions]
        simp [Ending.demand, optional, Bind.bind, Except.bind]
      rw [read, ih]
      simp
    | cons element rest =>
      have place : reader.names.idxOf field.name = before.length := by
        have apart := strict.distinct
        rw [names, declared, List.map_append, List.map_cons] at apart ⊢
        have new : field.name ∉ before.map FieldName.name := fun old =>
          (List.nodup_append.mp apart).2.2 _ old _ List.mem_cons_self rfl
        rw [List.idxOf_append_of_notMem new, List.idxOf_cons_self, List.length_map, Nat.add_zero]
      rw [readPositions, bind_eq_ok_iff]
      simp only [ih, List.map_cons, List.zip_cons_cons, List.foldlM_cons, bind_eq_ok_iff, put, place,
        List.length_cons, Nat.add_le_add_iff_right, and_left_comm, exists_and_left]

/-- A strict record is what the given values make of the record that it starts with. -/
theorem Strict.read_ok_iff (strict : reader.Strict) {document : Json} : reader.read document = .ok value ↔
    ∃ entries, document.Gives reader.names entries ∧ entries.foldlM reader.put reader.start = .ok value := by
  cases document with
  | object fields =>
    have entered : (∃ known, reader.readEntries [] reader.start fields = .ok (known, value)) ↔
        (fields.map Prod.fst).Nodup ∧ (∀ entry ∈ fields, entry.1 ∈ reader.names) ∧
        fields.foldlM reader.put reader.start = .ok value := by
      rw [strict.readEntries_ok_iff]
      simp only [List.not_mem_nil, not_false_eq_true, and_true]
    rw [read_object]
    simp only [bind_eq_ok_iff, Prod.exists, strict.missing?_eq_none, Except.ok.injEq, existsAndEq, and_true,
      Json.gives_object_iff, and_assoc, true_and, entered]
  | array elements =>
    have read : reader.read (.array elements) =
        reader.readPositions elements.length .whole reader.fields 0 elements reader.start := by
      rw [read, readView_json]
      rfl
    have positioned : reader.readPositions elements.length .whole reader.fields 0 elements reader.start = .ok value ↔
        elements.length ≤ reader.fields.length ∧
        ((reader.fields.map FieldName.name).zip elements).foldlM reader.put reader.start = .ok value :=
      strict.readPositions_ok_iff (List.nil_append reader.fields).symm
    simp only [read, positioned, Json.gives_list_iff, names, List.length_map, and_assoc, existsAndEq, true_and]
  | null | bool | number | string =>
    refine iff_of_false ?_ ?_
    · rw [read, readView_json]
      rintro ⟨⟩
    · rintro ⟨_, ⟨⟩, _⟩

end RecordReader

section Values

variable {document : Json}

private theorem readInteger_ok_iff {kind : Wanted} {low high value : Int} {wanted : String} :
    readInteger kind low high wanted document = .ok value ↔ document = .ofInt value ∧ low ≤ value ∧ value ≤ high := by
  constructor
  · intro read
    rw [readInteger, readView_json] at read
    split at read
    next found seen =>
      split at read
      next bounds =>
        cases read
        cases document <;> cases seen
        exact ⟨rfl, bounds⟩
      next => cases read
    next => cases read
  · rintro ⟨rfl, above, below⟩
    exact readInteger_ofInt above below

private theorem readUInt32_ok_iff {word : UInt32} : readUInt32 document = .ok word ↔ document = .ofNat word.toNat := by
  constructor
  · intro read
    rw [readUInt32] at read
    cases found : readInteger .natural 0 0xffffffff "u32" document with
    | error error =>
      rw [found] at read
      cases read
    | ok value =>
      rw [found] at read
      cases read
      obtain ⟨rfl, above, below⟩ := readInteger_ok_iff.mp found
      have same : ((UInt32.ofNat value.toNat).toNat : Int) = value := by
        rw [UInt32.toNat_ofNat']
        omega
      rw [Json.ofNat, same]
      rfl
  · rintro rfl
    exact readUInt32_ofNat word

private theorem readString_ok_iff {text : String} : readString document = .ok text ↔ document = .string text := by
  rw [readString, readView_json]
  cases document <;> simp [Json.view]

end Values

namespace Wire

/-- Whether a field holds a word or a text, which have one JSON form each. -/
def Kind.isPlain : Kind → Bool
  | .uint32 => true
  | .string => true
  | _ => false

def Fields.arePlain : Fields → Bool
  | .nil => true
  | .cons _ kind rest => kind.isPlain && rest.arePlain

/-- The values that a message has after some were given: each field that is named has the value that is given
for it, and the others keep theirs. -/
def Fields.Becomes (entries : List (String × Json)) : (fields : Fields) → (old value : fields.Value) → Prop
  | .nil, _, _ => True
  | .cons name kind rest, (old, others), (value, values) =>
    (entries.lookup name).getD (kind.toJson old) = kind.toJson value ∧ rest.Becomes entries others values

theorem Kind.read_ok_iff {kind : Kind} (plain : kind.isPlain = true) (closed : Bool) {document : Json}
    {value : kind.Value} : kind.read closed document = .ok value ↔ document = kind.toJson value := by
  cases kind with
  | uint32 => exact readUInt32_ok_iff
  | string => exact readString_ok_iff
  | uint64 | int32 | bytes | words | message | messages => cases plain

theorem Kind.toJson_inj {kind : Kind} (plain : kind.isPlain = true) {left right : kind.Value} :
    kind.toJson left = kind.toJson right ↔ left = right := by
  rw [← read_ok_iff plain true, (read_ok_iff plain true).mpr rfl]
  exact ⟨Except.ok.inj, congrArg Except.ok⟩

theorem Fields.becomes_of_absent {fields : Fields} (plain : fields.arePlain = true) {entries : List (String × Json)}
    (absent : ∀ name ∈ fields.names, entries.lookup name = none) {old value : fields.Value} :
    fields.Becomes entries old value ↔ value = old := by
  cases fields with
  | nil => exact iff_of_true trivial rfl
  | cons name kind rest =>
    obtain ⟨plainKind, plainRest⟩ := Bool.and_eq_true_iff.mp plain
    obtain ⟨first, later⟩ := List.forall_mem_cons.mp absent
    obtain ⟨old, others⟩ := old
    obtain ⟨value, values⟩ := value
    rw [Becomes, first, Option.getD_none, kind.toJson_inj plainKind, becomes_of_absent plainRest later, eq_comm]
    exact (Prod.ext_iff (x := (value, values)) (y := (old, others))).symm

theorem Fields.assign_ok_iff {fields : Fields} (plain : fields.arePlain = true) (distinct : fields.names.Nodup)
    (closed : Bool) {entry : String × Json} (known : entry.1 ∈ fields.names) {old value : fields.Value} :
    fields.assign closed (fields.names.idxOf entry.1) entry.2 old = .ok value ↔ fields.Becomes [entry] old value := by
  cases fields with
  | nil => cases known
  | cons name kind rest =>
    obtain ⟨plainKind, plainRest⟩ := Bool.and_eq_true_iff.mp plain
    obtain ⟨single, distinct⟩ := List.nodup_cons.mp distinct
    obtain ⟨old, others⟩ := old
    obtain ⟨value, values⟩ := value
    by_cases here : entry.1 = name
    · have place : (cons name kind rest).names.idxOf entry.1 = 0 := by
        rw [here]
        exact List.idxOf_cons_self
      have given : [entry].lookup name = some entry.2 := by rw [lookup_cons_ite, if_pos here.symm]
      have absent : ∀ other ∈ rest.names, [entry].lookup other = none := by
        intro other member
        have apart : other ≠ entry.1 := fun same => single (here ▸ same ▸ member)
        rw [lookup_cons_ite, if_neg apart, List.lookup_nil]
      rw [place, assign, Becomes, given, Option.getD_some, becomes_of_absent plainRest absent,
        ← kind.read_ok_iff plainKind closed]
      refine Iff.trans bind_eq_ok_iff ?_
      constructor
      · rintro ⟨_, read, same⟩
        cases same
        exact ⟨read, rfl⟩
      · rintro ⟨read, rfl⟩
        exact ⟨value, read, rfl⟩
    · have place : (cons name kind rest).names.idxOf entry.1 = rest.names.idxOf entry.1 + 1 :=
        List.idxOf_cons_ne _ (Ne.symm here)
      have inside : entry.1 ∈ rest.names := (List.mem_cons.mp known).resolve_left here
      have absent : [entry].lookup name = none := by rw [lookup_cons_ite, if_neg (Ne.symm here), List.lookup_nil]
      rw [place, assign, Becomes, absent, Option.getD_none, kind.toJson_inj plainKind,
        ← assign_ok_iff plainRest distinct closed inside]
      refine Iff.trans bind_eq_ok_iff ?_
      constructor
      · rintro ⟨_, read, same⟩
        cases same
        exact ⟨rfl, read⟩
      · rintro ⟨rfl, read⟩
        exact ⟨values, read, rfl⟩

private theorem Fields.becomes_cons_iff {fields : Fields} (plain : fields.arePlain = true) {key : String} {document : Json}
    {entries : List (String × Json)} (single : key ∉ entries.map Prod.fst) {old value : fields.Value} :
    fields.Becomes ((key, document) :: entries) old value ↔
      ∃ middle, fields.Becomes [(key, document)] old middle ∧ fields.Becomes entries middle value := by
  cases fields with
  | nil => exact iff_of_true trivial ⟨(), trivial, trivial⟩
  | cons name kind rest =>
    obtain ⟨plainKind, plainRest⟩ := Bool.and_eq_true_iff.mp plain
    obtain ⟨old, others⟩ := old
    obtain ⟨value, values⟩ := value
    have first : (((key, document) :: entries).lookup name).getD (kind.toJson old) = kind.toJson value ↔
        ∃ middle, ([(key, document)].lookup name).getD (kind.toJson old) = kind.toJson middle ∧
          (entries.lookup name).getD (kind.toJson middle) = kind.toJson value := by
      simp only [lookup_cons_ite, List.lookup_nil]
      by_cases here : name = key
      · have absent : entries.lookup name = none := by
          rw [here, List.lookup_eq_none_iff]
          intro entry member
          exact bne_iff_ne.mpr fun same => single (same ▸ List.mem_map_of_mem member)
        simp only [if_pos here, Option.getD_some, absent, Option.getD_none, kind.toJson_inj plainKind, existsAndEq,
          and_true]
      · simp only [if_neg here, Option.getD_none, kind.toJson_inj plainKind, existsAndEq, true_and]
    rw [Becomes, first, becomes_cons_iff plainRest single]
    constructor
    · rintro ⟨⟨middle, given, kept⟩, middles, others, left⟩
      exact ⟨(middle, middles), ⟨given, others⟩, kept, left⟩
    · rintro ⟨⟨middle, middles⟩, ⟨given, others⟩, kept, left⟩
      exact ⟨⟨middle, given, kept⟩, middles, others, left⟩

theorem Fields.names_reader (fields : Fields) (name : String) (closed : Bool) :
    (fields.reader (α := Json) name closed).names = fields.names := by
  simp [RecordReader.names, reader, fieldNames, Function.comp_def]

private theorem Fields.strict_reader {fields : Fields} (distinct : fields.names.Nodup) (name : String) :
    (fields.reader (α := Json) name true).Strict := by
  refine ⟨rfl, ?_, ?_, fields.names_reader name true ▸ distinct⟩
  · intro field member
    obtain ⟨_, _, rfl⟩ := List.mem_map.mp member
    rfl
  · intro field member
    obtain ⟨_, _, rfl⟩ := List.mem_map.mp member
    rfl

private theorem Fields.foldlM_put_ok_iff {fields : Fields} (plain : fields.arePlain = true) (distinct : fields.names.Nodup)
    {name : String} {entries : List (String × Json)} (apart : (entries.map Prod.fst).Nodup)
    (known : ∀ entry ∈ entries, entry.1 ∈ fields.names) {old value : fields.Value} :
    entries.foldlM (fields.reader name true).put old = .ok value ↔ fields.Becomes entries old value := by
  induction entries generalizing old with
  | nil =>
    rw [becomes_of_absent plain fun _ _ => rfl, List.foldlM_nil]
    simp [Pure.pure, Except.pure, eq_comm]
  | cons entry rest ih =>
    obtain ⟨single, apart⟩ := List.nodup_cons.mp apart
    obtain ⟨inside, known⟩ := List.forall_mem_cons.mp known
    have put (middle : fields.Value) : (fields.reader name true).put old entry = .ok middle ↔
        fields.Becomes [entry] old middle := by
      rw [RecordReader.put, fields.names_reader]
      exact assign_ok_iff plain distinct true inside
    rw [List.foldlM_cons, bind_eq_ok_iff, becomes_cons_iff plain single]
    exact exists_congr fun middle => and_congr (put middle) (ih apart known)

/-- A document has the strict form of a message with these values: it gives values to fields of the message
only, to each at most once, and those that are left out have their default. -/
def Message.Fits (message : Message) (document : Json) (value : message.Value) : Prop :=
  ∃ entries, document.Gives message.fields.names entries ∧
    message.fields.Becomes entries message.fields.default value

theorem Message.read_ok_iff {message : Message} (plain : message.fields.arePlain = true)
    (distinct : message.fields.names.Nodup) {document : Json} {value : message.Value} :
    message.read true document = .ok value ↔ message.Fits document value := by
  refine (Fields.strict_reader distinct message.name).read_ok_iff.trans (exists_congr fun entries => ?_)
  rw [Fields.names_reader]
  refine and_congr_right fun gives => ?_
  exact Fields.foldlM_put_ok_iff plain distinct (gives.keys_nodup distinct) gives.declared

end Wire

end NicFlow
