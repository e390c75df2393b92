import NicFlow.Proofs.ClusterCheck
import NicFlow.Proofs.RuleForms
import NicFlow.Yaml.Text

/-! Where payloads that are null come from. JSON gives none, for null is read as nothing there, and the
translation for pods makes none. A YAML document can have a number that is not finite, which JSON does not
know: it is read as a null that is there. -/

namespace NicFlow

open Log Traced Translation
open Text (Place)

section Json

variable {document : Json}

private theorem ne_null_of_readOption {payload : Option Json}
    (read : readOption Document.raw document = .ok payload) : payload ≠ some .null := by
  rw [readOption_raw] at read
  cases read
  cases document <;> simp [unlessNull]

private theorem PatternItem.nullFree_of_read {item : PatternItem}
    (read : PatternItem.reader.read document = .ok item) : item.NullFree := by
  refine RecordReader.holds_of_read ⟨nofun, nofun, nofun⟩ ?_ read
  intro position document record next free assigned
  rcases position with _ | _ | _ | position
  all_goals
    obtain ⟨payload, got, same⟩ := bind_eq_ok_iff.mp assigned
    cases same
  · exact ⟨free.spec, free.last, free.mask⟩
  · exact ⟨ne_null_of_readOption got, free.last, free.mask⟩
  · exact ⟨free.spec, ne_null_of_readOption got, free.mask⟩
  · exact ⟨free.spec, free.last, ne_null_of_readOption got⟩

private theorem exists_read_of_readList {β : Type} {read : Json → Read β} {values : List β}
    (listed : readList read document = .ok values) {value : β} (member : value ∈ values) :
    ∃ element, read element = .ok value := by
  cases document with
  | array elements =>
    obtain ⟨element, _, got⟩ := exists_of_forall₂ (readList_ok_iff.mp listed) member
    exact ⟨element, got⟩
  | null | bool | number | string | object => cases listed

private theorem ClusterRule.nullFree_of_read {rule : ClusterRule}
    (read : ClusterRule.reader.read document = .ok rule) : rule.NullFree := by
  have start : ClusterRule.NullFree (ClusterRule.reader (α := Json)).start := List.forall_mem_nil _
  refine RecordReader.holds_of_read start ?_ read
  intro position document record next free assigned
  rcases position with _ | _ | _ | position
  all_goals
    obtain ⟨value, got, same⟩ := bind_eq_ok_iff.mp assigned
    cases same
  · exact free
  · intro item member
    obtain ⟨element, got⟩ := exists_read_of_readList got member
    exact PatternItem.nullFree_of_read got
  · exact free
  · exact free

theorem ClusterConfig.nullFree_of_read {config : ClusterConfig}
    (read : ClusterConfig.reader.read document = .ok config) : config.NullFree := by
  have start : ClusterConfig.NullFree (ClusterConfig.reader (α := Json)).start := List.forall_mem_nil _
  refine RecordReader.holds_of_read start ?_ read
  intro position document record next free assigned
  rcases position with _ | position
  all_goals
    obtain ⟨value, got, same⟩ := bind_eq_ok_iff.mp assigned
    cases same
  · exact free
  · intro rule member
    obtain ⟨element, got⟩ := exists_read_of_readList got member
    exact ClusterRule.nullFree_of_read got

end Json

private theorem exists_mem_flatMap_iff {α β : Type} {elements : List α} {f : α → List β}
    {Holds : β → Prop} :
    (∃ value ∈ elements.flatMap f, Holds value) ↔ ∃ element ∈ elements, ∃ value ∈ f element, Holds value := by
  simp only [List.mem_flatMap]
  constructor
  · rintro ⟨value, ⟨element, inside, member⟩, holds⟩
    exact ⟨element, inside, value, member, holds⟩
  · rintro ⟨element, inside, value, member, holds⟩
    exact ⟨value, ⟨element, inside, member⟩, holds⟩

namespace Yaml

/-- How a number is written that is not finite. -/
def notFiniteWords : List String :=
  [".inf", ".Inf", ".INF", "+.inf", "+.Inf", "+.INF", "-.inf", "-.Inf", "-.INF", ".nan", ".NaN", ".NAN"]

namespace Node

/-- The value of a field with this name. -/
def named? (name : String) (field : Node × Node) : Option Node :=
  match field.1 with
  | .scalar _ _ text => if text = name then some field.2 else none
  | _ => none

def fieldsOf (name : String) : Node → List Node
  | .mapping _ fields => fields.filterMap (named? name)
  | _ => []

def elements : Node → List Node
  | .sequence _ elements => elements
  | _ => []

def itemPayloads (item : Node) : List Node :=
  item.fieldsOf "spec" ++ item.fieldsOf "last" ++ item.fieldsOf "mask"

def ruleItems (rule : Node) : List Node := (rule.fieldsOf "pattern").flatMap elements

/-- The payloads in the patterns of the rules of a document. -/
def payloads (root : Node) : List Node :=
  (((root.fieldsOf "rules").flatMap elements).flatMap ruleItems).flatMap itemPayloads

/-- A number that is not finite, without quotes around it. -/
def NotFinite : Node → Prop
  | .scalar _ true text => text ∈ notFiniteWords
  | _ => False

end Node

/-- The document that a text begins with. -/
def document (text : String) : Node := (Stream.ofTokens (Token.all (unifyBreaks text.toList))).root

private theorem read_document {α : Type} {read : Site → Read α} {text : String} {value : α}
    (got : Yaml.read read text = .ok value) : read (.root (document text)) = .ok value := by
  rw [Yaml.read] at got
  split at got
  · cases got
  · obtain ⟨first, read, checked⟩ := bind_eq_ok_iff.mp got
    obtain ⟨_, _, same⟩ := bind_eq_ok_iff.mp checked
    cases same
    exact read

private theorem mem_map_toList {text : String} {words : List String} :
    text.toList ∈ words.map String.toList ↔ text ∈ words := by
  simp [List.mem_map, String.toList_inj]

private theorem unsigned_mem_iff {text : String} :
    unsigned text.toList ∈ [".inf", ".Inf", ".INF"].map String.toList ↔
      text ∈ [".inf", ".Inf", ".INF", "+.inf", "+.Inf", "+.INF", "-.inf", "-.Inf", "-.INF"] := by
  rw [← mem_map_toList]
  unfold unsigned
  split <;> simp_all

private theorem specialNumber?_isSome_iff {text : String} :
    (specialNumber? text.toList).isSome = true ↔ text ∈ notFiniteWords := by
  have words : notFiniteWords =
      [".inf", ".Inf", ".INF", "+.inf", "+.Inf", "+.INF", "-.inf", "-.Inf", "-.INF"] ++
        [".nan", ".NaN", ".NAN"] := rfl
  rw [words, List.mem_append, ← unsigned_mem_iff, ← mem_map_toList, specialNumber?]
  split
  next infinite => exact iff_of_true rfl (Or.inl infinite)
  next finite =>
    rw [or_iff_right finite]
    split
    next none => exact iff_of_true rfl none
    next number => exact iff_of_false nofun number

private theorem jsonOfWord_ne_null (text : List Char) : jsonOfWord text ≠ .null := by
  intro impossible
  rw [jsonOfWord] at impossible
  split at impossible <;> cases impossible

private theorem jsonOfPlain_null_iff {text : List Char} (written : ¬ (text.isEmpty ∨ isNull text)) :
    jsonOfPlain text = some .null ↔ (specialNumber? text).isSome = true := by
  have shown : (text.isEmpty ∨ isNull text ∨ (specialNumber? text).isSome) ↔
      (specialNumber? text).isSome = true := by
    rw [← or_assoc, or_iff_right written]
  simp only [jsonOfPlain, shown]
  split
  next special => exact iff_of_true rfl special
  next ordinary =>
    refine iff_of_false ?_ ordinary
    intro null
    split at null
    · cases null
    · exact jsonOfWord_ne_null text (Option.some.inj null)
    · split at null
      · cases null
      · split at null
        · cases null
        · exact jsonOfWord_ne_null text (Option.some.inj null)

namespace Site

variable {site : Site}

private theorem written_of_mem {text : String} (word : text ∈ notFiniteWords) :
    ¬ (text.toList.isEmpty ∨ isNull text.toList) := by
  have each : ∀ word ∈ notFiniteWords, ¬ (word.toList.isEmpty ∨ isNull word.toList) := by decide
  exact each text word

private theorem jsonOf_sequence_ne_null {path : Path} {place : Place} {elements : List Node} {json : Json}
    (read : jsonOf path (.sequence place elements) = .ok json) : json ≠ .null := by
  rw [jsonOf] at read
  split at read
  · cases read
  · cases results : jsonOfElements path 0 elements <;> rw [results] at read <;> cases read
    exact nofun

private theorem jsonOf_mapping_ne_null {path : Path} {place : Place} {fields : List (Node × Node)} {json : Json}
    (read : jsonOf path (.mapping place fields) = .ok json) : json ≠ .null := by
  rw [jsonOf] at read
  split at read
  · cases read
  · cases results : jsonOfFields path "a string key" fields <;> rw [results] at read <;> cases read
    exact nofun

private theorem jsonOf_null_iff {path : Path} {node : Node} {json : Json}
    (written : ∀ place text, node = .scalar place true text → ¬ (text.toList.isEmpty ∨ isNull text.toList))
    (read : jsonOf path node = .ok json) : json = .null ↔ node.NotFinite := by
  cases node with
  | scalar place plain text =>
    rw [jsonOf.eq_def] at read
    cases plain with
    | false =>
      cases read
      exact iff_of_false nofun nofun
    | true =>
      dsimp only at read
      rw [Node.NotFinite, ← specialNumber?_isSome_iff, ← jsonOfPlain_null_iff (written place text rfl)]
      split at read
      next value known =>
        cases read
        rw [known, Option.some.injEq]
      next => cases read
  | sequence => exact iff_of_false (jsonOf_sequence_ne_null read) nofun
  | mapping => exact iff_of_false (jsonOf_mapping_ne_null read) nofun
  | broken => cases read

private theorem readOption_null_iff {payload : Option Json}
    (read : readOption Document.raw site = .ok payload) :
    payload = some .null ↔ site.node.NotFinite := by
  obtain ⟨path, node, namePlace⟩ := site
  rcases readOption_ok_cases read with ⟨null, rfl⟩ | ⟨present, json, raw, rfl⟩
  · refine iff_of_false nofun ?_
    intro special
    cases node with
    | scalar place plain text =>
      cases plain with
      | false => cases special
      | true =>
        rw [Node.NotFinite] at special
        have shown : Document.view .optional (⟨path, .scalar place true text, namePlace⟩ : Site) =
            .string (String.ofList text.toList) := if_neg (written_of_mem special)
        cases shown.symm.trans null
    | sequence => cases special
    | mapping => cases special
    | broken => cases special
  · rw [Option.some.injEq]
    refine jsonOf_null_iff ?_ raw
    rintro place text rfl empty
    apply present
    exact if_pos empty

private theorem exists_fieldSite_iff {path : Path} {wanted name : String} {fields : List (Node × Node)}
    {Shows : Node → Prop} (ended : (fieldSites path wanted fields).2.demand = .ok ()) :
    (∃ entry ∈ (fieldSites path wanted fields).1, entry.1 = name ∧ Shows entry.2.node) ↔
      ∃ node ∈ fields.filterMap (Node.named? name), Shows node := by
  induction fields with
  | nil => simp [fieldSites]
  | cons field rest ih =>
    obtain ⟨key, value⟩ := field
    cases key with
    | scalar place plain text =>
      rw [fieldSites] at ended ⊢
      rw [List.filterMap_cons, List.exists_mem_cons_iff, ih ended]
      by_cases same : text = name <;> simp [Node.named?, same]
    | sequence | mapping | broken => cases ended

private theorem exists_field_iff {sites : List (String × Site)} {ending : Ending} {name : String}
    {Shows : Node → Prop} (viewed : site.view .record = .mapping sites ending)
    (ended : ending.demand = .ok ()) :
    (∃ entry ∈ sites, entry.1 = name ∧ Shows entry.2.node) ↔
      ∃ node ∈ site.node.fieldsOf name, Shows node := by
  obtain ⟨path, node, namePlace⟩ := site
  cases node with
  | mapping place fields =>
    simp only [view] at viewed
    split at viewed
    · cases viewed
    · cases viewed
      exact exists_fieldSite_iff ended
  | scalar place plain text =>
    cases plain with
    | false => cases viewed
    | true =>
      simp only [view, viewPlain] at viewed
      split at viewed
      · cases viewed
        simp [Node.fieldsOf]
      · cases viewed
  | sequence =>
    simp only [view] at viewed
    split at viewed <;> cases viewed
  | broken => cases viewed

private theorem exists_elementSite_iff {path : Path} {index : Nat} {elements : List Node}
    {Shows : Node → Prop} :
    (∃ element ∈ elementSites path index elements, Shows element.node) ↔ ∃ node ∈ elements, Shows node := by
  induction elements generalizing index with
  | nil => simp [elementSites]
  | cons node rest ih => rw [elementSites, List.exists_mem_cons_iff, List.exists_mem_cons_iff, ih]

private theorem exists_element_iff {sites : List Site} {ending : Ending} {Shows : Node → Prop}
    (viewed : site.view .sequence = .sequence sites ending) :
    (∃ element ∈ sites, Shows element.node) ↔ ∃ node ∈ site.node.elements, Shows node := by
  obtain ⟨path, node, namePlace⟩ := site
  cases node with
  | sequence place elements =>
    simp only [view] at viewed
    split at viewed
    · cases viewed
    · cases viewed
      exact exists_elementSite_iff
  | scalar place plain text =>
    cases plain with
    | false => cases viewed
    | true =>
      simp only [view, viewPlain] at viewed
      split at viewed
      · cases viewed
        simp [Node.elements]
      · cases viewed
  | mapping =>
    simp only [view] at viewed
    split at viewed <;> cases viewed
  | broken => cases viewed

private theorem holds_iff {σ : Type} {reader : RecordReader Site σ} {place : Nat} {name : String}
    {Holds : σ → Prop} (Shows : Node → Prop) (unaliased : ∀ field ∈ reader.fields, field.aliases = [])
    (distinct : (reader.fields.map FieldName.name).Nodup)
    (named : (reader.fields[place]?).map FieldName.name = some name)
    (decides : reader.Decides place (fun site => Shows site.node) Holds) {result : σ}
    (read : reader.read site = .ok result) : Holds result ↔ ∃ node ∈ site.node.fieldsOf name, Shows node := by
  have known (key : String) : reader.position? key = some place ↔ key = name := by
    obtain ⟨field, declared, rfl⟩ := Option.map_eq_some_iff.mp named
    constructor
    · intro found
      have same := RecordReader.name_of_position? unaliased found
      rw [named] at same
      exact (Option.some.inj same).symm
    · rintro rfl
      exact RecordReader.position?_of_getElem? unaliased distinct declared
  obtain ⟨fields, ending, viewed, ended, holds⟩ := decides.read rfl read
  rw [holds, ← exists_field_iff viewed ended]
  simp only [known]

private theorem exists_mem_iff {β : Type} {read : Site → Read β} {Holds : β → Prop} (Shows : Node → Prop)
    (each : ∀ element value, read element = .ok value → (Holds value ↔ Shows element.node)) {values : List β}
    (listed : readList read site = .ok values) :
    (∃ value ∈ values, Holds value) ↔ ∃ node ∈ site.node.elements, Shows node := by
  obtain ⟨elements, ending, viewed, _, holds⟩ := exists_mem_readList_iff each listed
  rw [holds]
  exact exists_element_iff viewed

private theorem exists_value_iff {σ β : Type} {reader : RecordReader Site σ} {place : Nat} {name : String}
    {values : σ → List β} {read : Site → Read β} {Holds : β → Prop} (Shows : Node → Prop)
    (unaliased : ∀ field ∈ reader.fields, field.aliases = [])
    (distinct : (reader.fields.map FieldName.name).Nodup)
    (named : (reader.fields[place]?).map FieldName.name = some name) (start : values reader.start = [])
    (assigned : ∀ document record next, reader.assign place document record = .ok next →
      readList read document = .ok (values next))
    (kept : ∀ position document record next, position < reader.fields.length → position ≠ place →
      reader.assign position document record = .ok next → values next = values record)
    (each : ∀ element value, read element = .ok value → (Holds value ↔ Shows element.node)) {result : σ}
    (got : reader.read site = .ok result) : (∃ value ∈ values result, Holds value) ↔
      ∃ node ∈ (site.node.fieldsOf name).flatMap Node.elements, Shows node := by
  have decides : reader.Decides place (fun site => ∃ node ∈ site.node.elements, Shows node)
      (fun record => ∃ value ∈ values record, Holds value) := by
    refine ⟨?_, ?_, ?_⟩
    · simp [start]
    · intro document record next assigns
      exact exists_mem_iff Shows each (assigned document record next assigns)
    · intro position document record next inside other assigns
      rw [kept position document record next inside other assigns]
  have holds := holds_iff (fun node => ∃ element ∈ node.elements, Shows element) unaliased distinct named decides got
  rw [holds, exists_mem_flatMap_iff]

end Site

end Yaml

section Yaml

open Yaml

variable {site : Site}

/-- The payload of an item whose field is at a position. -/
def PatternItem.payloadAt (item : PatternItem) : Nat → Option Json
  | 1 => item.spec
  | 2 => item.last
  | 3 => item.mask
  | _ => none

private theorem PatternItem.payloadAt_assigned {item next : PatternItem} {place : Nat}
    (bounded : 1 ≤ place ∧ place ≤ 3) (assigned : reader.assign place site item = .ok next) :
    readOption Document.raw site = .ok (next.payloadAt place) := by
  obtain rfl | rfl | rfl : place = 1 ∨ place = 2 ∨ place = 3 := by omega
  all_goals
    obtain ⟨payload, got, same⟩ := bind_eq_ok_iff.mp assigned
    cases same
    exact got

private theorem PatternItem.payloadAt_kept {item next : PatternItem} {position place : Nat}
    (inside : position < 4) (other : position ≠ place) (assigned : reader.assign position site item = .ok next) :
    next.payloadAt place = item.payloadAt place := by
  obtain rfl | rfl | rfl | rfl : position = 0 ∨ position = 1 ∨ position = 2 ∨ position = 3 := by omega
  all_goals
    obtain ⟨payload, got, same⟩ := bind_eq_ok_iff.mp assigned
    cases same
    rcases place with _ | _ | _ | _ | place
  all_goals first | rfl | exact absurd rfl other

private theorem PatternItem.payloadAt_null_iff {item : PatternItem} (place : Nat) {name : String}
    (bounded : 1 ≤ place ∧ place ≤ 3)
    (named : ((reader (α := Site)).fields[place]?).map FieldName.name = some name)
    (read : reader.read site = .ok item) :
    item.payloadAt place = some .null ↔ ∃ payload ∈ site.node.fieldsOf name, payload.NotFinite := by
  have decides : reader.Decides place (fun site : Site => site.node.NotFinite)
      (fun item => item.payloadAt place = some .null) := by
    refine ⟨?_, ?_, ?_⟩
    · obtain rfl | rfl | rfl : place = 1 ∨ place = 2 ∨ place = 3 := by omega
      all_goals exact nofun
    · intro document record next assigned
      exact Site.readOption_null_iff (payloadAt_assigned bounded assigned)
    · intro position document record next inside other assigned
      rw [payloadAt_kept inside other assigned]
  exact Site.holds_iff Node.NotFinite (by simp [reader]) (by decide) named decides read

private theorem PatternItem.not_nullFree_iff {item : PatternItem} (read : reader.read site = .ok item) :
    ¬ item.NullFree ↔ ∃ payload ∈ site.node.itemPayloads, payload.NotFinite := by
  have spec := payloadAt_null_iff 1 (by decide) rfl read
  have last := payloadAt_null_iff 2 (by decide) rfl read
  have mask := payloadAt_null_iff 3 (by decide) rfl read
  simp only [Node.itemPayloads, List.mem_append, or_and_right, exists_or, ← spec, ← last, ← mask]
  constructor
  · intro bound
    by_contra free
    simp only [not_or] at free
    exact bound ⟨free.1.1, free.1.2, free.2⟩
  · rintro ((null | null) | null) free
    · exact free.spec null
    · exact free.last null
    · exact free.mask null

private theorem ClusterRule.pattern_assigned {rule next : ClusterRule}
    (assigned : reader.assign 1 site rule = .ok next) :
    readList PatternItem.reader.read site = .ok next.pattern := by
  obtain ⟨pattern, got, same⟩ := bind_eq_ok_iff.mp assigned
  cases same
  exact got

private theorem ClusterRule.pattern_kept {rule next : ClusterRule} {position : Nat} (inside : position < 4)
    (other : position ≠ 1) (assigned : reader.assign position site rule = .ok next) : next.pattern = rule.pattern := by
  obtain rfl | rfl | rfl : position = 0 ∨ position = 2 ∨ position = 3 := by omega
  all_goals
    obtain ⟨value, got, same⟩ := bind_eq_ok_iff.mp assigned
    cases same
    rfl

private theorem ClusterRule.not_nullFree_iff {rule : ClusterRule} (read : reader.read site = .ok rule) :
    ¬ rule.NullFree ↔ ∃ item ∈ site.node.ruleItems, ∃ payload ∈ item.itemPayloads, payload.NotFinite := by
  have items := Site.exists_value_iff (fun node => ∃ payload ∈ node.itemPayloads, payload.NotFinite)
    (by simp [reader]) (by decide) rfl rfl (fun _ _ _ => pattern_assigned)
    (fun _ _ _ _ => pattern_kept) (fun _ _ => PatternItem.not_nullFree_iff) read
  rw [Node.ruleItems, ← items]
  simp only [NullFree, not_forall, exists_prop]

private theorem ClusterConfig.rules_assigned {config next : ClusterConfig}
    (assigned : reader.assign 1 site config = .ok next) : readList ClusterRule.reader.read site = .ok next.rules := by
  obtain ⟨rules, got, same⟩ := bind_eq_ok_iff.mp assigned
  cases same
  exact got

private theorem ClusterConfig.rules_kept {config next : ClusterConfig} {position : Nat} (inside : position < 2)
    (other : position ≠ 1) (assigned : reader.assign position site config = .ok next) : next.rules = config.rules := by
  obtain rfl : position = 0 := by omega
  obtain ⟨value, got, same⟩ := bind_eq_ok_iff.mp assigned
  cases same
  rfl

private theorem ClusterConfig.not_nullFree_iff {config : ClusterConfig} (read : reader.read site = .ok config) :
    ¬ config.NullFree ↔ ∃ payload ∈ site.node.payloads, payload.NotFinite := by
  have rules := Site.exists_value_iff
    (fun node => ∃ item ∈ node.ruleItems, ∃ payload ∈ item.itemPayloads, payload.NotFinite)
    (by simp [reader]) (by decide) rfl rfl (fun _ _ _ => rules_assigned)
    (fun _ _ _ _ => rules_kept) (fun _ _ => ClusterRule.not_nullFree_iff) read
  have bound : ¬ config.NullFree ↔ ∃ rule ∈ config.rules, ¬ rule.NullFree := by
    simp only [NullFree, not_forall, exists_prop]
  rw [bound, rules, Node.payloads]
  simp only [exists_mem_flatMap_iff]

private theorem ClusterConfig.nullFree_iff_of_readYaml {text : String} {config : ClusterConfig}
    (read : Yaml.read reader.read text = .ok config) :
    config.NullFree ↔ ∀ payload ∈ (Yaml.document text).payloads, ¬ payload.NotFinite := by
  have null := not_nullFree_iff (read_document read)
  rw [← not_iff_not, null]
  simp only [Site.root, not_forall, not_not, exists_prop]

end Yaml

theorem NodeConfig.back_iff (config : NodeConfig) :
    NodeConfig.reader.read config.toJson = .ok config ↔ config.NullFree := by
  rw [NodeConfig.read_toJson, Except.ok.injEq, NodeConfig.settled_eq_iff]

section FanOut

variable {config : ClusterConfig} {pods : List Pod} {nodes : List NodeConfig}

private theorem nullFree_nodeRule {rule : ClusterRule} (free : rule.NullFree) (addresses : List String) :
    (nodeRule rule addresses).NullFree := by
  refine ⟨free, ?_⟩
  intro action member
  rcases List.mem_append.mp member with device | ending
  · obtain ⟨address, _, rfl⟩ := List.mem_map.mp device
    intro impossible
    cases impossible
  · cases List.mem_singleton.mp ending
    intro impossible
    cases impossible

private theorem nullFree_of_fanOut (free : config.NullFree) (ok : (fanOut config pods).result = .ok nodes)
    {node : NodeConfig} (member : node ∈ nodes) : node.NullFree := by
  intro translated inside
  obtain ⟨rule, given, addresses, rfl, _⟩ := Check.nodeRule_of_mem ok member inside
  exact nullFree_nodeRule (free rule given) addresses

end FanOut

/-- Rules and configurations of nodes come back from JSON exactly if none of their payloads is null. What
the translation gives to a node comes back if no payload in the patterns of the cluster is null. Read from
JSON none is; read from YAML one is if and only if a payload is written as a number that is not finite. -/
theorem rules_read_back :
    (∀ rule : FlowRule, FlowRule.reader.read rule.toJson = .ok rule ↔ rule.NullFree) ∧
    (∀ config : NodeConfig, NodeConfig.reader.read config.toJson = .ok config ↔ config.NullFree) ∧
    (∀ (config : ClusterConfig) (pods : List Pod) (nodes : List NodeConfig), config.NullFree →
      (fanOut config pods).result = .ok nodes →
        ∀ node ∈ nodes, NodeConfig.reader.read node.toJson = .ok node) ∧
    (∀ (document : Json) (config : ClusterConfig),
      ClusterConfig.reader.read document = .ok config → config.NullFree) ∧
    ∀ (text : String) (config : ClusterConfig), Yaml.read ClusterConfig.reader.read text = .ok config →
      (config.NullFree ↔ ∀ payload ∈ (Yaml.document text).payloads, ¬ payload.NotFinite) := by
  refine ⟨?_, NodeConfig.back_iff, ?_, ?_, ?_⟩
  · intro rule
    rw [FlowRule.read_toJson, Except.ok.injEq, FlowRule.settled_eq_iff]
  · intro config pods nodes free ok node member
    exact (node.back_iff).mpr (nullFree_of_fanOut free ok member)
  · intro document config read
    exact ClusterConfig.nullFree_of_read read
  · intro text config read
    exact ClusterConfig.nullFree_iff_of_readYaml read

def infiniteText : String :=
  "rules:\n- pattern:\n  - type: RTE_FLOW_ITEM_TYPE_ETH\n    spec: .inf\n"

/-- What is read from the text with an infinite payload. -/
def infiniteConfig : ClusterConfig :=
  ⟨⟨[]⟩, [⟨0, [⟨"RTE_FLOW_ITEM_TYPE_ETH", some .null, none, none⟩], [], none⟩]⟩

private def isInfinite : Read ClusterConfig → Bool
  | .ok ⟨⟨[]⟩, [⟨0, [⟨"RTE_FLOW_ITEM_TYPE_ETH", some .null, none, none⟩], [], none⟩]⟩ => true
  | _ => false

private theorem read_infiniteText : Yaml.read ClusterConfig.reader.read infiniteText = .ok infiniteConfig := by
  have infinite : isInfinite (Yaml.read ClusterConfig.reader.read infiniteText) = true := by decide +kernel
  unfold isInfinite at infinite
  split at infinite
  next read => exact read
  · cases infinite

private theorem not_nullFree_infinite : ¬ infiniteConfig.NullFree := by
  intro free
  exact (free _ (List.mem_singleton_self _) _ (List.mem_singleton_self _)).spec rfl

/-- A pod's rule comes back, with the action that names its device. -/
theorem rules_read_back_routePod :
    let pattern : Json := .array [.object [("spec", .null), ("type", .string "RTE_FLOW_ITEM_TYPE_ETH")]]
    let document : Json := .object [("rules", .array [.object [("pattern", pattern)]])]
    (∃ config, ClusterConfig.reader.read document = .ok config ∧ config.NullFree) ∧
      (∃ payload ∈ (Yaml.document infiniteText).payloads, payload.NotFinite) ∧
      Check.routeConfig.NullFree ∧ ∃ nodes, (fanOut Check.routeConfig [Check.routePod]).result = .ok nodes ∧
        ∃ node ∈ nodes, node.nodeName = "worker" ∧ NodeConfig.reader.read node.toJson = .ok node := by
  intro pattern document
  have read : ClusterConfig.reader.read document =
      .ok ⟨⟨[]⟩, [⟨0, [⟨"RTE_FLOW_ITEM_TYPE_ETH", none, none, none⟩], [], none⟩]⟩ := rfl
  have infinite : ∃ payload ∈ (Yaml.document infiniteText).payloads, payload.NotFinite := by
    by_contra finite
    simp only [not_exists, not_and] at finite
    exact not_nullFree_infinite ((rules_read_back.2.2.2.2 _ _ read_infiniteText).mpr finite)
  have free : Check.routeConfig.NullFree := by
    intro rule given
    cases List.mem_singleton.mp given
    exact List.forall_mem_nil _
  obtain ⟨nodes, ok⟩ := Check.fanOut_routePod
  have placed : ∃ pod ∈ ordered Check.routeConfig [Check.routePod], pod.nodeName = some "worker" :=
    ⟨Check.routePod, mem_ordered_iff.mpr ⟨List.mem_singleton_self _, by decide⟩, rfl⟩
  obtain ⟨node, member, named⟩ := ((distributes_of_ok ok).names "worker").mpr placed
  exact ⟨⟨_, read, rules_read_back.2.2.2.1 document _ read⟩, infinite, free, nodes, ok, node, member, named,
    rules_read_back.2.2.1 Check.routeConfig [Check.routePod] nodes free ok node member⟩

/-- What the translation gives for the infinite payload to the node of a pod. -/
def infiniteNode : NodeConfig :=
  ⟨"worker", [⟨0, [⟨"RTE_FLOW_ITEM_TYPE_ETH", some .null, none, none⟩], [⟨"RTE_FLOW_ACTION_TYPE_END", none⟩], none⟩]⟩

/-- An infinite payload is read as a null that is there, and its node does not come back. -/
theorem infinite_payload_not_read_back :
    Yaml.read ClusterConfig.reader.read infiniteText = .ok infiniteConfig ∧ ¬ infiniteConfig.NullFree ∧
      (fanOut infiniteConfig [Check.routePod]).result = .ok [infiniteNode] ∧
      NodeConfig.reader.read infiniteNode.toJson ≠ .ok infiniteNode := by
  have alone : ordered infiniteConfig [Check.routePod] = [Check.routePod] :=
    List.perm_singleton.mp (ordered_perm infiniteConfig [Check.routePod])
  refine ⟨read_infiniteText, not_nullFree_infinite, ?_, ?_⟩
  · refine fanOut_ok_iff.mpr ⟨[("worker", infiniteNode.rules)], ?_, rfl⟩
    rw [alone]
    exact .cons rfl .nil
  · intro back
    have free := infiniteNode.back_iff.mp back
    exact ((free _ (List.mem_singleton_self _)).pattern _ (List.mem_singleton_self _)).spec rfl

end NicFlow
