import Mathlib.Data.List.Forall2
import Mathlib.Data.List.Nodup
import NicFlow.Document.Record
import NicFlow.Proofs.SortedEntries
import NicFlow.Proofs.TracedResults

/-! Records that are read from objects of JSON. The fields of an object come sorted by name, in an order
that is not that of the record; since each is read by itself, a record still comes back from its entries. -/

namespace NicFlow

open Log Traced

section Values

theorem readView_json {β : Type} (wanted : Wanted) (read : View Json → Read β) (document : Json) :
    readView wanted read document = read document.view := by
  show (read document.view).mapError _ = _
  cases read document.view <;> rfl

theorem readString_string (value : String) : readString (Json.string value) = .ok value := rfl

theorem readInteger_ofInt {kind : Wanted} {low high value : Int} {wanted : String} (above : low ≤ value)
    (below : value ≤ high) : readInteger kind low high wanted (Json.ofInt value) = .ok value := by
  rw [readInteger, readView_json]
  exact if_pos ⟨above, below⟩

theorem readUInt8_ofNat (value : UInt8) : readUInt8 (Json.ofNat value.toNat) = .ok value := by
  have small := value.toNat_lt
  have read : readInteger .natural 0 255 "u8" (Json.ofNat value.toNat) = .ok value.toNat := by
    apply readInteger_ofInt <;> omega
  rw [readUInt8, read]
  simp [Except.map]

theorem readUInt32_ofNat (value : UInt32) : readUInt32 (Json.ofNat value.toNat) = .ok value := by
  have small := value.toNat_lt
  have read : readInteger .natural 0 0xffffffff "u32" (Json.ofNat value.toNat) = .ok value.toNat := by
    apply readInteger_ofInt <;> omega
  rw [readUInt32, read]
  simp [Except.map]

theorem readUInt64_ofNat (value : UInt64) : readUInt64 (Json.ofNat value.toNat) = .ok value := by
  have small := value.toNat_lt
  have read : readInteger .natural 0 0xffffffffffffffff "u64" (Json.ofNat value.toNat) =
      .ok value.toNat := by
    apply readInteger_ofInt <;> omega
  rw [readUInt64, read]
  simp [Except.map]

theorem readInt32_ofInt (value : Int32) : readInt32 (Json.ofInt value.toInt) = .ok value := by
  have low := value.le_toInt
  have high := value.toInt_lt
  have read : readInteger .integer (-0x80000000) 0x7fffffff "i32" (Json.ofInt value.toInt) =
      .ok value.toInt := by
    apply readInteger_ofInt <;> omega
  rw [readInt32, read]
  simp [Except.map]

theorem readOption_present {β : Type} {read : Json → Read β} {document : Json} (present : document ≠ .null) :
    readOption read document = (read document).map some := by
  cases document with
  | null => exact absurd rfl present
  | bool | number | string | array | object => rfl

theorem readList_ok_iff {β : Type} {read : Json → Read β} {documents : List Json} {values : List β} :
    readList read (.array documents) = .ok values ↔
      List.Forall₂ (fun document value => read document = .ok value) documents values := by
  rw [readList, readView_json, ← mapM_eq_ok_iff]
  simp only [Json.view]
  cases documents.mapM read <;> simp [Bind.bind, Except.bind, Ending.demand, Pure.pure, Except.pure]

theorem readList_map {β γ : Type} {read : Json → Read γ} {write : β → Json} {values : List β} {results : List γ}
    (each : List.Forall₂ (fun value result => read (write value) = .ok result) values results) :
    readList read (.array (values.map write)) = .ok results :=
  readList_ok_iff.mpr (List.forall₂_map_left_iff.mpr each)

end Values

namespace RecordReader

variable {σ : Type} {reader : RecordReader Json σ} {entries : List (String × Json)}

theorem read_object (entries : List (String × Json)) :
    reader.read (.object entries) = reader.readEntries [] reader.start entries >>= fun (seen, record) =>
      match reader.missing? seen with
      | some name => .error (.missingField name)
      | none => .ok record := by
  rw [read, readView_json]
  rfl

/-- Where the fields are that a list of entries names. -/
def positions (reader : RecordReader Json σ) (entries : List (String × Json)) : List (Option Nat) :=
  (entries.map Prod.fst).map reader.position?

private theorem readEntries_takes {take : Nat → σ → σ} (seen : List Nat) (record : σ)
    (comm : ∀ left right record, take left (take right record) = take right (take left record))
    (idem : ∀ position record, take position (take position record) = take position record)
    (distinct : (reader.positions entries).Nodup)
    (assigns : ∀ entry ∈ entries, ∃ position, reader.position? entry.1 = some position ∧
      ∀ record, reader.assign position entry.2 record = .ok (take position record))
    (fresh : ∀ position ∈ seen, some position ∉ reader.positions entries) :
    ∃ read result, reader.readEntries seen record entries = .ok (read, result) ∧
      (∀ position, take position record = record ∨ some position ∈ reader.positions entries →
        take position result = result) ∧
      ∀ position, position ∈ seen ∨ some position ∈ reader.positions entries → position ∈ read := by
  induction entries generalizing seen record with
  | nil =>
    refine ⟨seen, record, rfl, ?_, ?_⟩
    · intro position taken
      exact taken.resolve_right List.not_mem_nil
    · intro position known
      exact known.resolve_right List.not_mem_nil
  | cons entry rest ih =>
    obtain ⟨position, found, assigned⟩ := assigns entry List.mem_cons_self
    have split : reader.positions (entry :: rest) = some position :: reader.positions rest := by
      rw [← found]
      rfl
    rw [split] at distinct fresh
    obtain ⟨absent, distinct⟩ := List.nodup_cons.mp distinct
    have unread : position ∉ seen := fun member => fresh position member List.mem_cons_self
    have later : ∀ other ∈ position :: seen, some other ∉ reader.positions rest := by
      intro other member
      rcases List.mem_cons.mp member with rfl | inside
      · exact absent
      · exact fun named => fresh other inside (List.mem_cons_of_mem _ named)
    obtain ⟨read, result, reads, taken, known⟩ := ih (position :: seen) (take position record) distinct
      (fun other member => assigns other (List.mem_cons_of_mem _ member)) later
    refine ⟨read, result, ?_, ?_, ?_⟩
    · rw [readEntries, found]
      simp only [unread, ↓reduceIte, assigned]
      exact reads
    · intro other reason
      apply taken
      rw [split] at reason
      rcases reason with kept | named
      · exact Or.inl ((comm other position record).trans (congrArg (take position) kept))
      · rcases List.mem_cons.mp named with same | inside
        · cases same
          exact Or.inl (idem position record)
        · exact Or.inr inside
    · intro other named
      apply known
      rw [split] at named
      simp only [List.mem_cons, Option.some.injEq] at named ⊢
      tauto

theorem missing?_eq_none {seen : List Nat}
    (read : ∀ position field, reader.fields[position]? = some field → field.presence = .required →
      position ∈ seen) : reader.missing? seen = none := by
  rw [missing?, Option.map_eq_none_iff, List.find?_eq_none]
  intro (field, position) member
  have found := List.mk_mem_zipIdx_iff_getElem?.mp member
  simp only [decide_eq_true_eq]
  intro ⟨required, unread⟩
  exact unread (read position field found required)

section Names

variable {α : Type} {reader : RecordReader α σ}

theorem name_of_position? (unaliased : ∀ field ∈ reader.fields, field.aliases = []) {key : String}
    {position : Nat} (found : reader.position? key = some position) :
    (reader.fields[position]?).map FieldName.name = some key := by
  obtain ⟨inside, named, _⟩ := List.findIdx?_eq_some_iff_getElem.mp found
  rw [unaliased _ (List.getElem_mem inside), decide_eq_true_eq] at named
  have same := named.resolve_right List.not_mem_nil
  rw [List.getElem?_eq_getElem inside, Option.map_some, same]

theorem position?_of_getElem? (unaliased : ∀ field ∈ reader.fields, field.aliases = [])
    (distinct : (reader.fields.map FieldName.name).Nodup) {position : Nat} {field : FieldName}
    (found : reader.fields[position]? = some field) : reader.position? field.name = some position := by
  obtain ⟨inside, rfl⟩ := List.getElem?_eq_some_iff.mp found
  refine List.findIdx?_eq_some_iff_getElem.mpr ⟨inside, decide_eq_true (Or.inl rfl), ?_⟩
  intro earlier before
  have listed : earlier < reader.fields.length := Nat.lt_trans before inside
  rw [decide_eq_true_eq, unaliased _ (List.getElem_mem listed)]
  intro same
  exact List.pairwise_iff_getElem.mp (List.pairwise_map.mp distinct) earlier position listed inside before
    (same.resolve_right List.not_mem_nil)

end Names

/-- The entries of those fields for which a value is given. -/
def written (reader : RecordReader Json σ) (given : Nat → Option Json) : List (String × Json) :=
  reader.fields.zipIdx.filterMap fun (field, position) => (given position).map fun value => (field.name, value)

private theorem mem_written_iff {given : Nat → Option Json} {key : String} {value : Json} :
    (key, value) ∈ reader.written given ↔
      ∃ position field, reader.fields[position]? = some field ∧ field.name = key ∧ given position = some value := by
  simp only [written, List.mem_filterMap, Prod.exists, List.mk_mem_zipIdx_iff_getElem?, Option.map_eq_some_iff,
    Prod.mk.injEq]
  constructor
  · rintro ⟨field, position, declared, _, here, rfl, rfl⟩
    exact ⟨position, field, declared, rfl, here⟩
  · rintro ⟨position, field, declared, rfl, here⟩
    exact ⟨field, position, declared, value, here, rfl, rfl⟩

private theorem keys_written_sublist (given : Nat → Option Json) :
    ((reader.written given).map Prod.fst).Sublist (reader.fields.map FieldName.name) := by
  have names : reader.fields.map FieldName.name = reader.fields.zipIdx.map fun entry => entry.1.name := by
    conv_lhs => rw [← List.zipIdx_map_fst 0 reader.fields, List.map_map]
    rfl
  rw [written, names]
  induction reader.fields.zipIdx with
  | nil => exact List.Sublist.refl _
  | cons first rest ih =>
    obtain ⟨field, position⟩ := first
    simp only [List.filterMap_cons]
    cases given position with
    | none => exact ih.cons field.name
    | some value => exact ih.cons_cons field.name

/-- How a written record comes back. `take` takes one field over from the record: this is what reading
its value does, and where no value is given, the field is so from the start. -/
structure Restores (reader : RecordReader Json σ) (take : Nat → σ → σ) (given : Nat → Option Json) :
    Prop where
  unaliased : ∀ field ∈ reader.fields, field.aliases = []
  distinct : (reader.fields.map FieldName.name).Nodup
  comm : ∀ left right record, take left (take right record) = take right (take left record)
  idem : ∀ position record, take position (take position record) = take position record
  present : ∀ position value, given position = some value →
    ∀ record, reader.assign position value record = .ok (take position record)
  absent : ∀ position, given position = none → take position reader.start = reader.start
  declared : ∀ position value, given position = some value → position < reader.fields.length
  required : ∀ position field, reader.fields[position]? = some field → field.presence = .required →
    (given position).isSome

namespace Restores

variable {take : Nat → σ → σ} {given : Nat → Option Json}

private theorem mem_positions (restores : reader.Restores take given) (perm : entries.Perm (reader.written given))
    {position : Nat} {field : FieldName} (declared : reader.fields[position]? = some field)
    (here : (given position).isSome) : some position ∈ reader.positions entries := by
  obtain ⟨value, here⟩ := Option.isSome_iff_exists.mp here
  have member := mem_written_iff.mpr ⟨position, field, declared, rfl, here⟩
  have found := position?_of_getElem? restores.unaliased restores.distinct declared
  exact List.mem_map.mpr ⟨field.name, List.mem_map_of_mem (perm.mem_iff.mpr member), found⟩

/-- The entries of an object are sorted by key, which the record does not show. -/
theorem read (restores : reader.Restores take given) :
    ∃ result, reader.read (.ofFields (reader.written given)) = .ok result ∧
      ∀ position, take position result = result := by
  have keys := (keys_written_sublist given).nodup restores.distinct
  have perm := perm_sortByKey keys
  have assigns : ∀ entry ∈ sortByKey (reader.written given),
      ∃ position, reader.position? entry.1 = some position ∧
        ∀ record, reader.assign position entry.2 record = .ok (take position record) := by
    intro (key, value) member
    obtain ⟨position, field, declared, rfl, here⟩ := mem_written_iff.mp (perm.mem_iff.mp member)
    exact ⟨position, position?_of_getElem? restores.unaliased restores.distinct declared,
      restores.present position value here⟩
  have apart : (reader.positions (sortByKey (reader.written given))).Nodup := by
    apply List.Nodup.map_on _ ((perm.map Prod.fst).nodup_iff.mpr keys)
    intro left leftMember right _ same
    obtain ⟨entry, member, rfl⟩ := List.mem_map.mp leftMember
    obtain ⟨position, found, _⟩ := assigns entry member
    have named := name_of_position? restores.unaliased found
    rw [same] at found
    rw [name_of_position? restores.unaliased found] at named
    exact (Option.some.inj named).symm
  have fresh : ∀ position ∈ [], some position ∉ reader.positions (sortByKey (reader.written given)) := by
    intro position impossible
    cases impossible
  obtain ⟨read, result, reads, taken, known⟩ :=
    readEntries_takes [] reader.start restores.comm restores.idem apart assigns fresh
  have complete : reader.missing? read = none := by
    apply missing?_eq_none
    intro position field declared required
    apply known
    exact Or.inr (restores.mem_positions perm declared (restores.required position field declared required))
  refine ⟨result, ?_, ?_⟩
  · rw [Json.ofFields, read_object, reads]
    simp only [Bind.bind, Except.bind, complete]
  · intro position
    apply taken
    cases here : given position with
    | none => exact Or.inl (restores.absent position here)
    | some value =>
      right
      apply restores.mem_positions perm (List.getElem?_eq_getElem (restores.declared position value here))
      rw [here, Option.isSome_some]

end Restores

theorem read_single {key : String} {value : Json}
    {position : Nat} {record : σ} (known : reader.position? key = some position)
    (assigned : reader.assign position value reader.start = .ok record)
    (enough : reader.missing? [position] = none) :
    reader.read (.object [(key, value)]) = .ok record := by
  have entries : reader.readEntries [] reader.start [(key, value)] = .ok ([position], record) := by
    simp [readEntries, known, assigned, Bind.bind, Except.bind]
  show Except.mapError _ (reader.readEntries [] reader.start [(key, value)] >>= _) = _
  rw [entries]
  simp [Bind.bind, Except.bind, Except.mapError, Ending.demand, enough]

/-- An entry that cannot be read is met, whatever stands before or behind it. -/
theorem read_error_of_mem (closed : reader.closed = true) {key : String} {value : Json}
    (member : (key, value) ∈ entries)
    (unreadable : ∀ position, reader.position? key = some position →
      ∀ record, ∃ error, reader.assign position value record = .error error) :
    ∃ error, reader.read (.object entries) = .error error := by
  have met : ∀ seen record, ∃ error, reader.readEntries seen record entries = .error error := by
    induction entries with
    | nil => cases member
    | cons entry rest ih =>
      intro seen record
      simp only [readEntries, closed, ↓reduceIte]
      rcases List.mem_cons.mp member with rfl | inside
      · cases found : reader.position? key with
        | none => exact ⟨_, rfl⟩
        | some position =>
          obtain ⟨error, refused⟩ := unreadable position found record
          by_cases read : position ∈ seen
          · exact ⟨_, if_pos read⟩
          · simp only [read, ↓reduceIte, refused]
            exact ⟨error, rfl⟩
      · cases reader.position? entry.1 with
        | none => exact ⟨_, rfl⟩
        | some position =>
          by_cases read : position ∈ seen
          · exact ⟨_, if_pos read⟩
          · simp only [read, ↓reduceIte]
            cases reader.assign position entry.2 record with
            | error error => exact ⟨error, rfl⟩
            | ok next => exact ih inside _ _
  obtain ⟨error, refused⟩ := met [] reader.start
  rw [read_object, refused]
  exact ⟨error, rfl⟩

private theorem readEntries_filter (lenient : reader.closed = false) (seen : List Nat) (record : σ)
    (entries : List (String × Json)) :
    reader.readEntries seen record entries =
      reader.readEntries seen record (entries.filter fun entry => (reader.position? entry.1).isSome) := by
  induction entries generalizing seen record with
  | nil => rfl
  | cons entry rest ih =>
    cases found : reader.position? entry.1 with
    | none =>
      rw [List.filter_cons_of_neg (by simp [found]), ← ih, readEntries]
      simp only [found, lenient, Bool.false_eq_true, ↓reduceIte]
      rfl
    | some position =>
      rw [List.filter_cons_of_pos (by simp [found]), readEntries, readEntries]
      simp only [found, ih]

theorem read_insertSorted (lenient : reader.closed = false) {key : String}
    (unknown : reader.position? key = none) (value : Json) :
    reader.read (.object (insertSorted key value entries)) = reader.read (.object entries) := by
  have dropped : (reader.position? key).isSome = false := by rw [unknown, Option.isSome_none]
  rw [read_object, read_object, readEntries_filter lenient, readEntries_filter lenient _ _ entries,
    filter_insertSorted_of_key (fun name => (reader.position? name).isSome) dropped]

section Invariant

variable {α : Type} [Document α] {reader : RecordReader α σ} {Holds : σ → Prop}

private theorem holds_of_readEntries (assign : ∀ position document record next, Holds record →
      reader.assign position document record = .ok next → Holds next)
    {fields : List (String × α)} {seen known : List Nat} {record next : σ} (holds : Holds record)
    (read : reader.readEntries seen record fields = .ok (known, next)) : Holds next := by
  induction fields generalizing seen record with
  | nil =>
    cases read
    exact holds
  | cons entry rest ih =>
    rw [readEntries] at read
    split at read
    · split at read
      · cases read
      · obtain ⟨_, _, read⟩ := bind_eq_ok_iff.mp read
        exact ih holds read
    · split at read
      · cases read
      · obtain ⟨middle, assigned, read⟩ := bind_eq_ok_iff.mp read
        exact ih (assign _ _ _ _ holds assigned) read

omit [Document α] in
private theorem holds_of_readPositions (assign : ∀ position document record next, Holds record →
      reader.assign position document record = .ok next → Holds next)
    {length position : Nat} {ending : Ending} {fields : List FieldName} {elements : List α}
    {record next : σ} (holds : Holds record)
    (read : reader.readPositions length ending fields position elements record = .ok next) : Holds next := by
  induction fields generalizing position elements record with
  | nil =>
    cases elements with
    | nil =>
      unfold readPositions at read
      split at read <;> cases read
      exact holds
    | cons element rest =>
      unfold readPositions at read
      split at read <;> cases read
  | cons field fields ih =>
    cases elements with
    | nil =>
      rw [readPositions] at read
      obtain ⟨_, _, read⟩ := bind_eq_ok_iff.mp read
      split at read
      · exact ih holds read
      · cases read
    | cons element rest =>
      rw [readPositions] at read
      obtain ⟨middle, assigned, read⟩ := bind_eq_ok_iff.mp read
      exact ih (assign _ _ _ _ holds assigned) read

/-- What holds from the start and is kept by every field holds of every record that is read. -/
theorem holds_of_read (start : Holds reader.start)
    (assign : ∀ position document record next, Holds record →
      reader.assign position document record = .ok next → Holds next)
    {document : α} {result : σ} (read : reader.read document = .ok result) : Holds result := by
  have viewed := mapError_eq_ok_iff.mp read
  dsimp only at viewed
  split at viewed
  · obtain ⟨⟨seen, middle⟩, read, viewed⟩ := bind_eq_ok_iff.mp viewed
    obtain ⟨_, _, viewed⟩ := bind_eq_ok_iff.mp viewed
    dsimp only at viewed
    split at viewed
    · cases viewed
    · cases viewed
      exact holds_of_readEntries assign start read
  · split at viewed
    · exact holds_of_readPositions assign start viewed
    · cases viewed
  · cases viewed

end Invariant

section Decision

variable {α : Type} [Document α] {reader : RecordReader α σ} {place : Nat} {Shows : α → Prop}
  {Holds : σ → Prop}

/-- Whether something holds of a record that is read depends on the value of one field alone. -/
structure Decides (reader : RecordReader α σ) (place : Nat) (Shows : α → Prop) (Holds : σ → Prop) :
    Prop where
  start : ¬ Holds reader.start
  assigned : ∀ document record next, reader.assign place document record = .ok next →
    (Holds next ↔ Shows document)
  kept : ∀ position document record next, position < reader.fields.length → position ≠ place →
    reader.assign position document record = .ok next → (Holds next ↔ Holds record)

theorem Decides.readEntries (decides : reader.Decides place Shows Holds) {fields : List (String × α)}
    {seen known : List Nat} {record next : σ} (unread : place ∉ seen → ¬ Holds record)
    (read : reader.readEntries seen record fields = .ok (known, next)) :
    Holds next ↔ Holds record ∨
      ∃ entry ∈ fields, reader.position? entry.1 = some place ∧ Shows entry.2 := by
  induction fields generalizing seen record with
  | nil =>
    cases read
    simp
  | cons entry rest ih =>
    rw [RecordReader.readEntries] at read
    simp only [List.exists_mem_cons_iff]
    split at read
    next unknown =>
      split at read
      · cases read
      · obtain ⟨_, _, read⟩ := bind_eq_ok_iff.mp read
        simp only [ih unread read, unknown, reduceCtorEq, false_and, false_or]
    next position found =>
      split at read
      · cases read
      next new =>
        obtain ⟨middle, assigned, read⟩ := bind_eq_ok_iff.mp read
        obtain ⟨inside, _⟩ := List.findIdx?_eq_some_iff_getElem.mp found
        by_cases here : position = place
        · subst here
          have later : position ∉ position :: seen → ¬ Holds middle :=
            fun absent => absurd List.mem_cons_self absent
          rw [ih later read, decides.assigned _ _ _ assigned, found]
          simp only [unread new, true_and, false_or]
        · have same := decides.kept position _ _ _ inside here assigned
          have later : place ∉ position :: seen → ¬ Holds middle := fun absent =>
            same.not.mpr (unread fun member => absent (List.mem_cons_of_mem _ member))
          rw [ih later read, same, found]
          simp only [Option.some.injEq, here, false_and, false_or]

theorem Decides.read (decides : reader.Decides place Shows Holds)
    (unlisted : Document.listsAsRecords α = false) {document : α} {result : σ}
    (read : reader.read document = .ok result) :
    ∃ fields ending, Document.view .record document = .mapping fields ending ∧ ending.demand = .ok () ∧
      (Holds result ↔ ∃ entry ∈ fields, reader.position? entry.1 = some place ∧ Shows entry.2) := by
  have viewed := mapError_eq_ok_iff.mp read
  dsimp only at viewed
  split at viewed
  next fields ending shown =>
    obtain ⟨⟨seen, middle⟩, entries, viewed⟩ := bind_eq_ok_iff.mp viewed
    obtain ⟨_, ended, viewed⟩ := bind_eq_ok_iff.mp viewed
    dsimp only at viewed
    split at viewed
    · cases viewed
    · cases viewed
      refine ⟨fields, ending, shown, ended, ?_⟩
      rw [decides.readEntries (fun _ => decides.start) entries, or_iff_right decides.start]
  · rw [unlisted] at viewed
    cases viewed
  · cases viewed

end Decision

end RecordReader

section Contents

variable {α β : Type} [Document α] {read : α → Read β} {Shows : α → Prop} {Holds : β → Prop}

theorem readOption_ok_cases {document : α} {value : Option β}
    (got : readOption read document = .ok value) :
    Document.view .optional document = .null ∧ value = none ∨
      Document.view .optional document ≠ .null ∧ ∃ inner, read document = .ok inner ∧ value = some inner := by
  rw [readOption] at got
  split at got
  next null =>
    cases got
    exact Or.inl ⟨null, rfl⟩
  · cases got
  next present _ =>
    cases result : read document with
    | error => rw [result] at got; cases got
    | ok inner =>
      rw [result] at got
      cases got
      exact Or.inr ⟨present, inner, rfl, rfl⟩

/-- Something holds of one of the values of a list if and only if one of its elements shows it. -/
theorem exists_mem_readList_iff {document : α} {values : List β}
    (each : ∀ element value, read element = .ok value → (Holds value ↔ Shows element))
    (listed : readList read document = .ok values) :
    ∃ elements ending, Document.view .sequence document = .sequence elements ending ∧
      ending.demand = .ok () ∧ ((∃ value ∈ values, Holds value) ↔ ∃ element ∈ elements, Shows element) := by
  have viewed := mapError_eq_ok_iff.mp listed
  dsimp only at viewed
  split at viewed
  next elements ending shown =>
    obtain ⟨results, mapped, viewed⟩ := bind_eq_ok_iff.mp viewed
    obtain ⟨_, ended, viewed⟩ := bind_eq_ok_iff.mp viewed
    cases viewed
    have all := mapM_eq_ok_iff.mp mapped
    refine ⟨elements, ending, shown, ended, ?_⟩
    constructor
    · rintro ⟨value, member, holds⟩
      obtain ⟨element, inside, got⟩ := exists_of_forall₂ all member
      exact ⟨element, inside, (each element value got).mp holds⟩
    · rintro ⟨element, member, shows⟩
      obtain ⟨value, inside, got⟩ := exists_of_forall₂ all.flip member
      exact ⟨value, inside, (each element value got).mpr shows⟩
  · cases viewed

end Contents

end NicFlow
