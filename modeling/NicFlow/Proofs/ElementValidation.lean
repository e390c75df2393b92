import NicFlow.Proofs.TracedResults
import NicFlow.Rule.Validation

/-! Acceptance of single items and actions. It depends on neither the position of an element nor the
scope of its rule; the position occurs in the errors only. -/

namespace NicFlow.Validation

open Log Traced

/-- An element of a rule. -/
inductive Element where
  | item (index : Nat)
  | action (index : Nat)

/-- The element that an error blames; `none` if it blames the rule as a whole. -/
def blamed? : FlowError → Option Element
  | .unknownItemType index _ | .itemDecode index _ _ _ | .itemMissingSpec index _ _
  | .itemField index _ _ _ => some (.item index)
  | .unknownActionType index _ | .confMissing index _ | .confForbidden index _
  | .actionDecode index _ _ | .actionField index _ _ => some (.action index)
  | .patternNotTerminated _ | .actionsNotTerminated _ | .noActions | .invalidAttr _ _ => none

/-- Elements whose payloads have field rules are accepted without reservation. -/
def verdictOf (strict : Bool) : Verdict := if strict then .accepted else .acceptedUnvalidated

section Items

/-- What the payload of a role is read as. -/
inductive ReadsPayload (shape : ItemShape) : Option Json → Option ItemPayload → Prop where
  | absent : ReadsPayload shape none none
  | present {raw payload} (decoded : ItemPayload.decode shape raw = .ok payload) :
      ReadsPayload shape (some raw) (some payload)

/-- The payloads of an item keep the field rules, and a range end or a mask has a spec. -/
structure PayloadsAgree (spec last mask : Option ItemPayload) : Prop where
  own : ∀ payload, spec = some payload → payload.check payload .spec = .ok ()
  range : ∀ payload, last = some payload →
    ∃ base, spec = some base ∧ payload.check base .last = .ok ()
  masking : ∀ payload, mask = some payload →
    ∃ base, spec = some base ∧ payload.check base .mask = .ok ()

/-- An item is acceptable by itself, and this is what it becomes. -/
inductive AcceptsItem (item : PatternItem) : ValidatedItem → Prop where
  | inert {type} (known : ItemType.ofName? item.type = some type) (inert : type.shape? = none) :
      AcceptsItem item ⟨type, none, none, none, .accepted⟩
  | shaped {type shape spec last mask} (known : ItemType.ofName? item.type = some type)
      (shaped : type.shape? = some shape) (readsSpec : ReadsPayload shape item.spec spec)
      (readsLast : ReadsPayload shape item.last last) (readsMask : ReadsPayload shape item.mask mask)
      (agree : PayloadsAgree spec last mask) :
      AcceptsItem item ⟨type, spec, last, mask, verdictOf shape.isStrict⟩

variable {index : Nat} {type : ItemType} {shape : ItemShape} {role : Role}

private theorem decodePayload_ok_iff {raw : Json} {payload : ItemPayload} :
    (decodePayload shape raw).result = .ok payload ↔ ItemPayload.decode shape raw = .ok payload := by
  unfold decodePayload
  split
  next decoded => simp [decoded]
  next failed => simp [failed]

theorem decodeRole_ok_iff {raw : Option Json} {payload : Option ItemPayload} :
    (decodeRole index type shape role raw).result = .ok payload ↔ ReadsPayload shape raw payload := by
  constructor
  · intro accepted
    cases raw with
    | none =>
      cases accepted
      exact .absent
    | some raw =>
      obtain ⟨value, decoded, same⟩ := bind_ok_iff.mp accepted
      cases same
      exact .present (decodePayload_ok_iff.mp (mapError_ok_iff.mp decoded))
  · intro reads
    cases reads with
    | absent => rfl
    | present decoded =>
      exact bind_ok_iff.mpr ⟨_, mapError_ok_iff.mpr (decodePayload_ok_iff.mpr decoded), rfl⟩

private theorem checkPayloads_ok_iff {spec last mask : Option ItemPayload} {checked : Unit} :
    checkPayloads index type spec last mask = .ok checked ↔ PayloadsAgree spec last mask := by
  cases spec with
  | none =>
    constructor
    · intro accepted
      cases last with
      | some last => cases accepted
      | none => cases mask with
        | some mask => cases accepted
        | none => exact ⟨nofun, nofun, nofun⟩
    · intro agree
      cases last with
      | some last =>
        obtain ⟨_, impossible, _⟩ := agree.range last rfl
        cases impossible
      | none => cases mask with
        | some mask =>
          obtain ⟨_, impossible, _⟩ := agree.masking mask rfl
          cases impossible
        | none => rfl
  | some spec =>
    have split : PayloadsAgree (some spec) last mask ↔ spec.check spec .spec = .ok () ∧
        (∀ payload, last = some payload → payload.check spec .last = .ok ()) ∧
        ∀ payload, mask = some payload → payload.check spec .mask = .ok () := by
      constructor
      · rintro ⟨own, range, masking⟩
        exact ⟨own spec rfl, by simpa using range, by simpa using masking⟩
      · rintro ⟨own, range, masking⟩
        exact ⟨by simpa using own, by simpa using range, by simpa using masking⟩
    rw [split]
    unfold checkPayloads
    cases last <;> cases mask <;> simp [bind_eq_ok_iff, mapError_eq_ok_iff, Unique.exists_iff]

theorem validateItem_ok_iff {item : PatternItem} {validated : ValidatedItem} :
    (validateItem index item).result = .ok validated ↔ AcceptsItem item validated := by
  unfold validateItem
  constructor
  · intro accepted
    split at accepted
    · cases accepted
    next type known =>
      split at accepted
      next inert =>
        have same : validated = ⟨type, none, none, none, .accepted⟩ := by
          split at accepted <;> cases accepted <;> rfl
        rw [same]
        exact .inert known inert
      next shape shaped =>
        simp only [bind_ok_iff, decodeRole_ok_iff, result_of, checkPayloads_ok_iff] at accepted
        obtain ⟨spec, readsSpec, last, readsLast, mask, readsMask, _, agree, accepted⟩ := accepted
        have accepts := AcceptsItem.shaped known shaped readsSpec readsLast readsMask agree
        split at accepted
        next strict =>
          cases accepted
          simpa [verdictOf, strict] using accepts
        next lenient =>
          obtain ⟨_, _, same⟩ := bind_ok_iff.mp accepted
          cases same
          simpa [verdictOf, lenient] using accepts
  · intro accepts
    cases accepts with
    | inert known inert =>
      simp only [known, inert]
      split <;> rfl
    | @shaped type shape spec last mask known shaped readsSpec readsLast readsMask agree =>
      simp only [known, shaped, bind_ok_iff, decodeRole_ok_iff, result_of, checkPayloads_ok_iff]
      refine ⟨spec, readsSpec, last, readsLast, mask, readsMask, (), agree, ?_⟩
      cases strict : shape.isStrict <;> simp [verdictOf]
      rfl

/-- The faults of the payload of a role, as it is read. -/
def readingFaults (type : ItemType) (shape : ItemShape) (role : Role) :
    Option Json → List (Nat → FlowError)
  | none => []
  | some raw => (failures (ItemPayload.decode shape raw)).map fun source index =>
      .itemDecode index type role source

/-- The faults of a payload beside its spec. -/
def fieldFaults (type : ItemType) (role : Role) :
    (spec payload : Option ItemPayload) → List (Nat → FlowError)
  | _, none => []
  | none, some _ => [fun index => .itemMissingSpec index type role]
  | some spec, some payload => (failures (payload.check spec role)).map fun source index =>
      .itemField index type role source

/-- The payload of a role, if there is one and it can be read. -/
def payload? (shape : ItemShape) (raw : Option Json) : Option ItemPayload :=
  raw.bind fun raw => (ItemPayload.decode shape raw).toOption

/-- All that is wrong with an item by itself, each fault as the error it makes at a position. -/
def itemFaults (item : PatternItem) : List (Nat → FlowError) :=
  match ItemType.ofName? item.type with
  | none => [fun index => .unknownItemType index item.type]
  | some type =>
    match type.shape? with
    | none => []
    | some shape =>
      let spec := payload? shape item.spec
      readingFaults type shape .spec item.spec ++ (readingFaults type shape .last item.last ++
        (readingFaults type shape .mask item.mask ++ (fieldFaults type .spec spec spec ++
          (fieldFaults type .last spec (payload? shape item.last) ++
            fieldFaults type .mask spec (payload? shape item.mask)))))

theorem ReadsPayload.payload?_eq {raw : Option Json} {payload : Option ItemPayload}
    (reads : ReadsPayload shape raw payload) : payload? shape raw = payload := by
  cases reads with
  | absent => rfl
  | present decoded => simp [payload?, decoded, Except.toOption]

theorem failsFirst_decodeRole (raw : Option Json) :
    FailsFirst (decodeRole index type shape role raw).result
      ((readingFaults type shape role raw).map (· index)) := by
  cases raw with
  | none => exact failsFirst_ok none
  | some raw =>
    have result : (decodeRole index type shape role (some raw)).result =
        ((ItemPayload.decode shape raw).mapError (.itemDecode index type role)) >>=
          fun payload => .ok (some payload) := by
      simp only [decodeRole, decodePayload, result_bind, result_mapError]
      cases ItemPayload.decode shape raw <;> rfl
    have faults := (failsFirst_failures (ItemPayload.decode shape raw)).mapError
      (FlowError.itemDecode index type role)
    rw [result, readingFaults, List.map_map, ← List.append_nil (List.map _ _)]
    exact faults.bind fun payload _ => failsFirst_ok (some payload)

theorem failsFirst_check (spec payload : ItemPayload) :
    FailsFirst ((payload.check spec role).mapError (.itemField index type role))
      ((fieldFaults type role (some spec) (some payload)).map (· index)) := by
  rw [fieldFaults, List.map_map]
  exact (failsFirst_failures _).mapError _

private theorem failsFirst_checkPayloads (spec last mask : Option ItemPayload) :
    FailsFirst (checkPayloads index type spec last mask)
      ((fieldFaults type .spec spec spec ++ (fieldFaults type .last spec last ++
        fieldFaults type .mask spec mask)).map (· index)) := by
  rw [List.map_append, List.map_append]
  cases spec with
  | none =>
    cases last with
    | some last => exact failsFirst_error _ _
    | none => cases mask with
      | some mask => exact failsFirst_error _ _
      | none => exact failsFirst_ok ()
  | some spec =>
    refine (failsFirst_check spec spec).bind fun _ _ => ?_
    cases last with
    | none => cases mask with
      | none => exact failsFirst_ok ()
      | some mask => exact failsFirst_check spec mask
    | some last =>
      refine (failsFirst_check spec last).bind fun _ _ => ?_
      cases mask with
      | none => exact failsFirst_ok ()
      | some mask => exact failsFirst_check spec mask

theorem failsFirst_validateItem (index : Nat) (item : PatternItem) :
    FailsFirst (validateItem index item).result ((itemFaults item).map (· index)) := by
  cases known : ItemType.ofName? item.type with
  | none =>
    simp only [validateItem, itemFaults, known]
    exact failsFirst_error _ []
  | some type =>
    cases shaped : type.shape? with
    | none =>
      rw [validateItem_ok_iff.mpr (.inert known shaped)]
      simp only [itemFaults, known, shaped]
      exact failsFirst_ok _
    | some shape =>
      simp only [validateItem, itemFaults, known, shaped, result_bind, result_of]
      rw [List.map_append, List.map_append, List.map_append, ← List.append_nil (List.map _ (_ ++ _))]
      refine (failsFirst_decodeRole item.spec).bind fun spec readsSpec => ?_
      refine (failsFirst_decodeRole item.last).bind fun last readsLast => ?_
      refine (failsFirst_decodeRole item.mask).bind fun mask readsMask => ?_
      rw [(decodeRole_ok_iff.mp readsSpec).payload?_eq, (decodeRole_ok_iff.mp readsLast).payload?_eq,
        (decodeRole_ok_iff.mp readsMask).payload?_eq]
      refine (failsFirst_checkPayloads spec last mask).bind fun _ _ => ?_
      split <;> exact failsFirst_ok _

theorem blamed?_of_readingFaults {raw : Option Json} {fault : Nat → FlowError}
    (member : fault ∈ readingFaults type shape role raw) (index : Nat) :
    blamed? (fault index) = some (.item index) := by
  cases raw with
  | none => cases member
  | some raw =>
    obtain ⟨source, _, rfl⟩ := List.mem_map.mp member
    rfl

theorem blamed?_of_fieldFaults {spec payload : Option ItemPayload} {fault : Nat → FlowError}
    (member : fault ∈ fieldFaults type role spec payload) (index : Nat) :
    blamed? (fault index) = some (.item index) := by
  cases payload with
  | none => cases spec <;> cases member
  | some payload => cases spec with
    | none =>
      rw [List.mem_singleton.mp member]
      rfl
    | some spec =>
      obtain ⟨source, _, rfl⟩ := List.mem_map.mp member
      rfl

theorem blamed?_of_itemFaults {item : PatternItem} {fault : Nat → FlowError}
    (member : fault ∈ itemFaults item) (index : Nat) :
    blamed? (fault index) = some (.item index) := by
  unfold itemFaults at member
  split at member
  · rw [List.mem_singleton.mp member]
    rfl
  · split at member
    · cases member
    · simp only [List.mem_append] at member
      rcases member with member | member | member | member | member | member
      · exact blamed?_of_readingFaults member index
      · exact blamed?_of_readingFaults member index
      · exact blamed?_of_readingFaults member index
      · exact blamed?_of_fieldFaults member index
      · exact blamed?_of_fieldFaults member index
      · exact blamed?_of_fieldFaults member index

theorem itemFaults_eq_nil_iff {item : PatternItem} :
    itemFaults item = [] ↔ ∃ validated, AcceptsItem item validated := by
  have refused := (failsFirst_validateItem 0 item).ok_iff
  simpa only [validateItem_ok_iff, List.map_eq_nil_iff] using refused.symm

/-- An item keeps its type, and has a payload in each role exactly if it is given one and its type
carries one. -/
structure ItemFollows (item : PatternItem) (validated : ValidatedItem) : Prop where
  type : ItemType.ofName? item.type = some validated.type
  spec : validated.spec.isSome = (item.spec.isSome && !validated.type.isInert)
  last : validated.last.isSome = (item.last.isSome && !validated.type.isInert)
  mask : validated.mask.isSome = (item.mask.isSome && !validated.type.isInert)
  shape : ∀ payload, (validated.spec = some payload ∨ validated.last = some payload ∨
    validated.mask = some payload) → validated.type.shape? = some payload.shape
  verdict : validated.verdict = .acceptedUnvalidated ↔
    ∃ shape, validated.type.shape? = some shape ∧ shape.isStrict = false

private theorem verdictOf_eq_iff {strict : Bool} : verdictOf strict = .acceptedUnvalidated ↔ strict = false := by
  cases strict <;> simp [verdictOf]

theorem ReadsPayload.isSome_eq {raw : Option Json} {payload : Option ItemPayload}
    (reads : ReadsPayload shape raw payload) : payload.isSome = raw.isSome := by
  cases reads <;> rfl

private theorem shape_of_decodeItem {raw : Json} {payload : ItemPayload}
    (decoded : ItemPayload.decode shape raw = .ok payload) : payload.shape = shape := by
  obtain ⟨value, _, same⟩ := bind_eq_ok_iff.mp decoded
  cases same
  rfl

theorem ReadsPayload.shape_eq {raw : Option Json} {payload : ItemPayload}
    (reads : ReadsPayload shape raw (some payload)) : payload.shape = shape := by
  cases reads with
  | present decoded => exact shape_of_decodeItem decoded

theorem AcceptsItem.follows {item : PatternItem} {validated : ValidatedItem}
    (accepts : AcceptsItem item validated) : ItemFollows item validated := by
  cases accepts with
  | inert known inert =>
    refine ⟨known, ?_, ?_, ?_, by simp, by simp [inert]⟩ <;> simp [ItemType.isInert, inert]
  | @shaped type shape _ _ _ known shaped readsSpec readsLast readsMask agree =>
    have active : type.isInert = false := by simp [ItemType.isInert, shaped]
    refine ⟨known, ?_, ?_, ?_, ?_, ?_⟩
    · simp [readsSpec.isSome_eq, active]
    · simp [readsLast.isSome_eq, active]
    · simp [readsMask.isSome_eq, active]
    · rintro payload (rfl | rfl | rfl)
      · rw [readsSpec.shape_eq, shaped]
      · rw [readsLast.shape_eq, shaped]
      · rw [readsMask.shape_eq, shaped]
    · simp [verdictOf_eq_iff, shaped]

end Items

section Actions

/-- An action is acceptable by itself, and this is what it becomes. -/
inductive AcceptsAction (action : RuleAction) : ValidatedAction → Prop where
  | bare {type} (known : ActionType.ofName? action.type = some type) (bare : action.conf = none)
      (free : type.confPolicy ≠ .required) : AcceptsAction action ⟨type, none, .accepted⟩
  | configured {type shape raw conf} (known : ActionType.ofName? action.type = some type)
      (given : action.conf = some raw) (shaped : type.shape? = some shape)
      (decoded : ActionConf.decode shape raw = .ok conf) (checked : conf.check conf = .ok ()) :
      AcceptsAction action ⟨type, some conf, verdictOf shape.isStrict⟩

def confFaults (type : ActionType) (shape : ActionShape) (raw : Json) : List (Nat → FlowError) :=
  match ActionConf.decode shape raw with
  | .error source => [fun index => .actionDecode index type source]
  | .ok conf => (failures (conf.check conf)).map fun source index => .actionField index type source

/-- All that is wrong with an action by itself, each fault as the error it makes at a position. -/
def actionFaults (action : RuleAction) : List (Nat → FlowError) :=
  match ActionType.ofName? action.type with
  | none => [fun index => .unknownActionType index action.type]
  | some type =>
    match type.shape?, action.conf with
    | none, some _ => [fun index => .confForbidden index type]
    | some shape, some raw => confFaults type shape raw
    | _, none => if type.confPolicy = .required then [fun index => .confMissing index type] else []

variable {index : Nat} {type : ActionType} {shape : ActionShape} {raw : Json}

private theorem confPolicy_forbidden_iff : type.confPolicy = .forbidden ↔ type.shape? = none := by
  cases type <;> decide

private theorem validateConf_ok_iff {validated : ValidatedAction} :
    (validateConf index type shape raw).result = .ok validated ↔
      ∃ conf, ActionConf.decode shape raw = .ok conf ∧ conf.check conf = .ok () ∧
        validated = ⟨type, some conf, verdictOf shape.isStrict⟩ := by
  simp only [validateConf, bind_ok_iff, result_of, mapError_eq_ok_iff]
  cases shape.isStrict <;> simp [verdictOf, Unique.exists_iff, Except.bind, eq_comm]

theorem validateAction_eq {action : RuleAction} (known : ActionType.ofName? action.type = some type) :
    validateAction index action =
      match type.shape?, action.conf with
      | none, some _ => .fail (.confForbidden index type)
      | some shape, some raw => validateConf index type shape raw
      | _, none =>
        if type.confPolicy = .required then .fail (.confMissing index type)
        else return ⟨type, none, .accepted⟩ := by
  have forbidden := @confPolicy_forbidden_iff type
  simp only [validateAction, known]
  cases shaped : type.shape? <;> cases policy : type.confPolicy <;> cases action.conf <;>
    simp_all

theorem validateAction_ok_iff {action : RuleAction} {validated : ValidatedAction} :
    (validateAction index action).result = .ok validated ↔ AcceptsAction action validated := by
  constructor
  · intro accepted
    cases known : ActionType.ofName? action.type with
    | none =>
      simp only [validateAction, known] at accepted
      cases accepted
    | some type =>
      rw [validateAction_eq known] at accepted
      split at accepted
      · cases accepted
      next shape raw shaped given =>
        obtain ⟨conf, decoded, checked, rfl⟩ := validateConf_ok_iff.mp accepted
        exact .configured known given shaped decoded checked
      next bare =>
        split at accepted
        · cases accepted
        next free =>
          cases accepted
          exact .bare known bare free
  · intro accepts
    cases accepts with
    | bare known bare free =>
      rw [validateAction_eq known, bare]
      simp [free]
    | configured known given shaped decoded checked =>
      rw [validateAction_eq known, given, shaped]
      exact validateConf_ok_iff.mpr ⟨_, decoded, checked, rfl⟩

private theorem failsFirst_validateConf :
    FailsFirst (validateConf index type shape raw).result
      ((confFaults type shape raw).map (· index)) := by
  simp only [validateConf, confFaults, result_bind, result_of]
  cases ActionConf.decode shape raw with
  | error source => exact failsFirst_error _ []
  | ok conf =>
    have faults := (failsFirst_failures (conf.check conf)).mapError (FlowError.actionField index type)
    rw [List.map_map, ← List.append_nil (List.map _ _)]
    refine faults.bind fun _ _ => ?_
    split <;> exact failsFirst_ok _

theorem failsFirst_validateAction (index : Nat) (action : RuleAction) :
    FailsFirst (validateAction index action).result ((actionFaults action).map (· index)) := by
  cases known : ActionType.ofName? action.type with
  | none =>
    simp only [validateAction, actionFaults, known]
    exact failsFirst_error _ []
  | some type =>
    rw [validateAction_eq known]
    simp only [actionFaults, known]
    split
    · exact failsFirst_error _ []
    · exact failsFirst_validateConf
    · split
      · exact failsFirst_error _ []
      · exact failsFirst_ok _

private theorem blamed?_of_confFaults {fault : Nat → FlowError} (member : fault ∈ confFaults type shape raw)
    (index : Nat) : blamed? (fault index) = some (.action index) := by
  unfold confFaults at member
  split at member
  · rw [List.mem_singleton.mp member]
    rfl
  · obtain ⟨source, _, rfl⟩ := List.mem_map.mp member
    rfl

theorem blamed?_of_actionFaults {action : RuleAction} {fault : Nat → FlowError}
    (member : fault ∈ actionFaults action) (index : Nat) :
    blamed? (fault index) = some (.action index) := by
  unfold actionFaults at member
  split at member
  · rw [List.mem_singleton.mp member]
    rfl
  · split at member
    · rw [List.mem_singleton.mp member]
      rfl
    · exact blamed?_of_confFaults member index
    · split at member
      · rw [List.mem_singleton.mp member]
        rfl
      · cases member

theorem actionFaults_eq_nil_iff {action : RuleAction} :
    actionFaults action = [] ↔ ∃ validated, AcceptsAction action validated := by
  have refused := (failsFirst_validateAction 0 action).ok_iff
  simpa only [validateAction_ok_iff, List.map_eq_nil_iff] using refused.symm

/-- An action keeps its type, and has a configuration exactly if it is given one and its type
carries one. -/
structure ActionFollows (action : RuleAction) (validated : ValidatedAction) : Prop where
  type : ActionType.ofName? action.type = some validated.type
  conf : validated.conf.isSome = (action.conf.isSome && !validated.type.isInert)
  shape : ∀ conf, validated.conf = some conf → validated.type.shape? = some conf.shape
  verdict : validated.verdict = .acceptedUnvalidated ↔
    ∃ conf, validated.conf = some conf ∧ conf.shape.isStrict = false

theorem shape_of_decodeConf {conf : ActionConf} (decoded : ActionConf.decode shape raw = .ok conf) :
    conf.shape = shape := by
  obtain ⟨value, _, same⟩ := bind_eq_ok_iff.mp decoded
  cases same
  rfl

theorem AcceptsAction.follows {action : RuleAction} {validated : ValidatedAction}
    (accepts : AcceptsAction action validated) : ActionFollows action validated := by
  cases accepts with
  | bare known bare free => exact ⟨known, by simp [bare], by simp, by simp⟩
  | configured known given shaped decoded checked =>
    have same := shape_of_decodeConf decoded
    refine ⟨known, ?_, ?_, ?_⟩
    · simp [given, ActionType.isInert, shaped]
    · rintro conf ⟨⟩
      rw [same, shaped]
    · simp [verdictOf_eq_iff, same]

theorem AcceptsAction.conf_read {action : RuleAction} {validated : ValidatedAction} {conf : ActionConf}
    (accepts : AcceptsAction action validated) (present : validated.conf = some conf) :
    ∃ raw, action.conf = some raw ∧ ActionConf.decode conf.shape raw = .ok conf := by
  cases accepts with
  | bare => cases present
  | @configured type shape raw other known given shaped decoded checked =>
    cases present
    exact ⟨raw, given, by rw [shape_of_decodeConf decoded, decoded]⟩

end Actions

end NicFlow.Validation
