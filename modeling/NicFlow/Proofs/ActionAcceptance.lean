import NicFlow.Proofs.DeviceActions

/-! Which actions are acceptable by themselves, and what is said about the others. A configuration is judged
by its own values: neither another configuration beside it nor the role it stands in matters. -/

namespace NicFlow

open Wire Log Traced Reconciliation

namespace ActionType

theorem mem_all (type : ActionType) : type ∈ all := by
  cases type <;> decide

private theorem labels_nodup : (all.map label).Nodup := by
  decide +kernel

theorem name_inj {left right : ActionType} (same : left.name = right.name) : left = right := by
  apply List.inj_on_of_nodup_map labels_nodup left.mem_all right.mem_all
  exact (String.append_right_inj _).mp same

theorem ofName?_eq_some_iff {name : String} {type : ActionType} : ofName? name = some type ↔ name = type.name := by
  constructor
  · intro known
    exact (name_of_ofName? known).symm
  · rintro rfl
    cases found : ofName? type.name with
    | none =>
      have different := List.find?_eq_none.mp found type type.mem_all
      simp at different
    | some other => rw [name_inj (name_of_ofName? found)]

private theorem ofName?_eq_none_iff {name : String} : ofName? name = none ↔ ∀ type : ActionType, name ≠ type.name := by
  rw [Option.eq_none_iff_forall_ne_some]
  simp only [ne_eq, ofName?_eq_some_iff]

theorem confPolicy_required_iff {type : ActionType} :
    type.confPolicy = .required ↔ type.isInert = false ∧ type ≠ .count := by
  cases type <;> decide

end ActionType

section Bounds

structure LimitedValue where
  field : String
  value : UInt32
  max : Nat

/-- The values of a configuration that are limited, in the order in which they are looked at. -/
def ActionConf.limited : ActionConf → List LimitedValue
  | ⟨.vf, (original, _, id, _)⟩ => [⟨"original", original, 1⟩, ⟨"id", id, 255⟩]
  | ⟨.portId, (original, _, id, _)⟩ => [⟨"original", original, 1⟩, ⟨"id", id, 65535⟩]
  | ⟨.queue, (index, _)⟩ => [⟨"index", index, 65535⟩]
  | ⟨.setTp, (port, _)⟩ => [⟨"port", port, 65535⟩]
  | ⟨.setTag, (_, _, index, _)⟩ => [⟨"index", index, 255⟩]
  | ⟨.setTtl, (ttl, _)⟩ => [⟨"ttl_value", ttl, 255⟩]
  | ⟨.ofSetNwTtl, (ttl, _)⟩ => [⟨"nw_ttl", ttl, 255⟩]
  | ⟨.ofSetMplsTtl, (ttl, _)⟩ => [⟨"mpls_ttl", ttl, 255⟩]
  | ⟨.setDscp, (dscp, _)⟩ => [⟨"dscp", dscp, 63⟩]
  | ⟨.ofSetVlanVid, (vid, _)⟩ => [⟨"vlan_vid", vid, 4095⟩]
  | ⟨.ofSetVlanPcp, (pcp, _)⟩ => [⟨"vlan_pcp", pcp, 7⟩]
  | _ => []

/-- The limits are kept, and an address can be read. -/
structure ActionConf.Within (conf : ActionConf) : Prop where
  limits : ∀ limited ∈ conf.limited, limited.value.toNat ≤ limited.max
  address : ∀ text, deviceAddress? conf = some text → ∃ vf, PciAddress.parse text = .ok vf

/-- The first bound that a configuration breaks. -/
inductive ActionConf.Breaks (conf : ActionConf) : FieldError → Prop where
  | limit {before limited after} (split : conf.limited = before ++ limited :: after)
      (kept : ∀ earlier ∈ before, earlier.value.toNat ≤ earlier.max)
      (above : limited.max < limited.value.toNat) :
      conf.Breaks (.outOfRange limited.field limited.max limited.value.toNat)
  | address {text error} (given : deviceAddress? conf = some text)
      (refused : PciAddress.parse text = .error error) : conf.Breaks (.invalid "addr" error.message)

private theorem checkMax_ok_iff {field : String} {value max : Nat} : checkMax field value max = .ok () ↔ value ≤ max := by
  simp [checkMax]

private theorem checkMax_error_iff {field : String} {value max : Nat} {error : FieldError} :
    checkMax field value max = .error error ↔ max < value ∧ error = .outOfRange field max value := by
  unfold checkMax
  split
  next above => simp [above, eq_comm]
  next within => simp [within]

variable {conf : ActionConf} {error : FieldError}

private theorem eq_addressConf {text : String} (given : deviceAddress? conf = some text) : conf = addressConf text := by
  obtain ⟨address, rfl⟩ := exists_addressConf (shape_of_deviceAddress? given)
  cases given
  rfl

namespace ActionConf

theorem check_eq {spec : ActionConf} (same : spec.shape = conf.shape) (role : Role) :
    conf.check spec role = conf.check conf := by
  rw [check, check, if_pos same, if_pos rfl]

private theorem check_of_plain (plain : deviceAddress? conf = none) :
    conf.check conf = conf.limited.forM fun limited => checkMax limited.field limited.value.toNat limited.max := by
  obtain ⟨shape, value⟩ := conf
  cases shape with
  | vfPciAddr => cases plain
  | _ => rfl

theorem check_ok_iff : conf.check conf = .ok () ↔ conf.Within := by
  cases given : deviceAddress? conf with
  | none =>
    rw [check_of_plain given, forM_eq_ok_iff]
    simp only [checkMax_ok_iff]
    constructor
    · intro kept
      refine ⟨kept, ?_⟩
      intro text impossible
      rw [given] at impossible
      cases impossible
    · intro within
      exact within.limits
  | some text =>
    have same := eq_addressConf given
    subst same
    rw [check_addressConf_iff]
    constructor
    · intro readable
      refine ⟨List.forall_mem_nil _, ?_⟩
      rintro _ ⟨⟩
      exact readable
    · intro within
      exact within.address text rfl

theorem check_error_iff : conf.check conf = .error error ↔ conf.Breaks error := by
  cases given : deviceAddress? conf with
  | none =>
    rw [check_of_plain given, forM_eq_error_iff]
    simp only [checkMax_ok_iff, checkMax_error_iff]
    constructor
    · rintro ⟨before, limited, after, split, kept, above, rfl⟩
      exact .limit split kept above
    · intro breaks
      cases breaks with
      | limit split kept above => exact ⟨_, _, _, split, kept, above, rfl⟩
      | address impossible =>
        rw [given] at impossible
        cases impossible
  | some text =>
    have same := eq_addressConf given
    subst same
    rw [check_addressConf, mapError_eq_error_iff]
    constructor
    · rintro ⟨reason, refused, rfl⟩
      apply Breaks.address given
      cases parsed : PciAddress.parse text with
      | ok vf => simp [parsed, Except.map] at refused
      | error source =>
        rw [parsed] at refused
        cases refused
        rfl
    · intro breaks
      cases breaks with
      | limit impossible =>
        exact absurd impossible (by simp [limited, addressConf])
      | address given refused =>
        cases given
        exact ⟨_, congrArg (Except.map fun _ => ()) refused, rfl⟩

end ActionConf

end Bounds

namespace Validation

/-- What is asked of an action by itself. -/
structure Admissible (action : RuleAction) (type : ActionType) : Prop where
  named : action.type = type.name
  inert : type.isInert = true → action.conf = none
  given : type.isInert = false → type ≠ .count → action.conf.isSome = true
  conf : ∀ raw, action.conf = some raw → ∀ shape, type.shape? = some shape →
    ∃ conf, ActionConf.decode shape raw = .ok conf ∧ conf.Within

/-- The violation that is met first: of the type, of whether there is a configuration, of its form, and of
the bounds of its values. -/
inductive Violates (index : Nat) (action : RuleAction) : FlowError → Prop where
  | type (unknown : ∀ type : ActionType, action.type ≠ type.name) :
      Violates index action (.unknownActionType index action.type)
  | forbidden {type : ActionType} (named : action.type = type.name) (inert : type.isInert = true)
      (given : action.conf.isSome = true) : Violates index action (.confForbidden index type)
  | missing {type : ActionType} (named : action.type = type.name) (carries : type.isInert = false)
      (needs : type ≠ .count) (absent : action.conf = none) : Violates index action (.confMissing index type)
  | form {type : ActionType} {shape raw source} (named : action.type = type.name)
      (shaped : type.shape? = some shape) (given : action.conf = some raw)
      (refused : ActionConf.decode shape raw = .error source) :
      Violates index action (.actionDecode index type source)
  | bounds {type : ActionType} {shape raw conf source} (named : action.type = type.name)
      (shaped : type.shape? = some shape) (given : action.conf = some raw)
      (decoded : ActionConf.decode shape raw = .ok conf) (breaks : conf.Breaks source) :
      Violates index action (.actionField index type source)

variable {index : Nat} {action : RuleAction} {type : ActionType} {shape : ActionShape} {raw : Json}
  {error : FlowError}

theorem isInert_iff : type.isInert = true ↔ type.shape? = none := by
  simp [ActionType.isInert]

private theorem not_isInert_iff : type.isInert = false ↔ ∃ shape, type.shape? = some shape := by
  simp [ActionType.isInert, Option.isSome_iff_exists]

private theorem acceptsAction_iff : (∃ validated, AcceptsAction action validated) ↔ ∃ type, Admissible action type := by
  constructor
  · rintro ⟨validated, accepts⟩
    cases accepts with
    | @bare type known bare free =>
      refine ⟨type, ActionType.ofName?_eq_some_iff.mp known, fun _ => bare, ?_, ?_⟩
      · intro carries needs
        exact absurd (ActionType.confPolicy_required_iff.mpr ⟨carries, needs⟩) free
      · intro raw given
        rw [bare] at given
        cases given
    | @configured type shape raw conf known given shaped decoded checked =>
      refine ⟨type, ActionType.ofName?_eq_some_iff.mp known, ?_, fun _ _ => by simp [given], ?_⟩
      · intro inert
        rw [isInert_iff.mp inert] at shaped
        cases shaped
      · intro other same otherShape sameShape
        rw [given] at same
        rw [shaped] at sameShape
        cases same
        cases sameShape
        exact ⟨conf, decoded, ActionConf.check_ok_iff.mp checked⟩
  · rintro ⟨type, named, inert, given, readable⟩
    have known := ActionType.ofName?_eq_some_iff.mpr named
    cases conf : action.conf with
    | none =>
      refine ⟨_, .bare known conf ?_⟩
      intro required
      obtain ⟨carries, needs⟩ := ActionType.confPolicy_required_iff.mp required
      have present := given carries needs
      rw [conf] at present
      cases present
    | some raw =>
      have carries : type.isInert = false := by
        by_contra inactive
        rw [inert (by simpa using inactive)] at conf
        cases conf
      obtain ⟨shape, shaped⟩ := not_isInert_iff.mp carries
      obtain ⟨value, decoded, within⟩ := readable raw conf shape shaped
      exact ⟨_, .configured known conf shaped decoded (ActionConf.check_ok_iff.mpr within)⟩

theorem validateConf_error_iff :
    (validateConf index type shape raw).result = .error error ↔
      (∃ source, ActionConf.decode shape raw = .error source ∧ error = .actionDecode index type source) ∨
      ∃ conf, ActionConf.decode shape raw = .ok conf ∧
        ∃ source, conf.Breaks source ∧ error = .actionField index type source := by
  simp only [validateConf, bind_error_iff, result_of, mapError_eq_error_iff, mapError_eq_ok_iff,
    ActionConf.check_error_iff]
  apply or_congr_right
  apply exists_congr
  intro conf
  apply and_congr_right
  intro _
  cases shape.isStrict <;> simp [Except.bind]

private theorem validateAction_error_iff :
    (validateAction index action).result = .error error ↔ Violates index action error := by
  cases known : ActionType.ofName? action.type with
  | none =>
    have unknown := ActionType.ofName?_eq_none_iff.mp known
    simp only [validateAction, known, result_fail]
    constructor
    · intro failed
      cases failed
      exact .type unknown
    · intro violates
      cases violates with
      | type _ => rfl
      | forbidden named | missing named | form named | bounds named => exact absurd named (unknown _)
  | some type =>
    have named := ActionType.ofName?_eq_some_iff.mp known
    rw [validateAction_eq known]
    constructor
    · intro failed
      split at failed
      next raw bare given =>
        cases failed
        exact .forbidden named (isInert_iff.mpr bare) (by simp [given])
      next shape raw shaped given =>
        rcases validateConf_error_iff.mp failed with ⟨source, refused, rfl⟩ | ⟨conf, decoded, source, breaks, rfl⟩
        · exact .form named shaped given refused
        · exact .bounds named shaped given decoded breaks
      next absent =>
        split at failed
        next required =>
          cases failed
          obtain ⟨carries, needs⟩ := ActionType.confPolicy_required_iff.mp required
          exact .missing named carries needs absent
        next => cases failed
    · have only : ∀ other : ActionType, action.type = other.name → other = type := by
        intro other same
        exact ActionType.name_inj (same.symm.trans named)
      intro violates
      cases violates with
      | type unknown => exact absurd named (unknown type)
      | forbidden same inert given =>
        cases only _ same
        obtain ⟨raw, given⟩ := Option.isSome_iff_exists.mp given
        simp [isInert_iff.mp inert, given]
      | missing same carries needs absent =>
        cases only _ same
        simp [absent, ActionType.confPolicy_required_iff.mpr ⟨carries, needs⟩]
      | form same shaped given refused =>
        cases only _ same
        simp only [shaped, given]
        exact validateConf_error_iff.mpr (Or.inl ⟨_, refused, rfl⟩)
      | bounds same shaped given decoded breaks =>
        cases only _ same
        simp only [shaped, given]
        exact validateConf_error_iff.mpr (Or.inr ⟨_, decoded, _, breaks, rfl⟩)

/-- The action that ends a list. -/
def endAction : RuleAction := ⟨ActionType.terminator.name, none⟩

private theorem validateActions_ended (scope : Scope) (action : RuleAction) :
    (validateActions scope [action, endAction]).result =
      (validateAction 0 action).result.map fun validated => [validated, ⟨.terminator, none, .accepted⟩] := by
  have ends : (validateAction 1 endAction).result = .ok ⟨.terminator, none, .accepted⟩ := by
    apply validateAction_ok_iff.mpr
    exact .bare (by decide) rfl (by decide)
  have present : ¬ (([action, endAction] : List RuleAction).isEmpty = true ∧ scope = .node) := by simp
  rw [validateActions, if_neg present]
  simp only [forEachFrom, result_bind, result_pure, result_of, Nat.zero_add, ends]
  cases (validateAction 0 action).result <;> rfl

/-- The result says whether the action is admissible, and if not, what is violated first. -/
structure Judges {α : Type} (index : Nat) (action : RuleAction) (result : Except FlowError α) : Prop where
  accepted : (∃ validated, result = .ok validated) ↔ ∃ type, Admissible action type
  refused : ∀ error, result = .error error ↔ Violates index action error

private theorem judges_validateAction (index : Nat) (action : RuleAction) :
    Judges index action (validateAction index action).result := by
  constructor
  · simp only [validateAction_ok_iff]
    exact acceptsAction_iff
  · intro error
    exact validateAction_error_iff

theorem Judges.map {α β : Type} {result : Except FlowError α} (judges : Judges index action result)
    (f : α → β) : Judges index action (result.map f) := by
  obtain ⟨accepted, refused⟩ := judges
  constructor
  · rw [← accepted]
    cases result <;> simp [Except.map]
  · intro error
    rw [← refused]
    cases result <;> simp [Except.map]

/-- The conditions of an action are exact, also where it stands in a list that ends after it, in a node or
in the cluster. -/
theorem action_acceptance_exact :
    (∀ index action, Judges index action (validateAction index action).result) ∧
    (∀ scope action, Judges 0 action (validateActions scope [action, endAction]).result) ∧
    ∀ (candidate spec other : ActionConf) (role otherRole : Role), spec.shape = candidate.shape →
      other.shape = candidate.shape → candidate.check spec role = candidate.check other otherRole := by
  refine ⟨judges_validateAction, ?_, ?_⟩
  · intro scope action
    rw [validateActions_ended]
    exact (judges_validateAction 0 action).map _
  · intro candidate spec other role otherRole same otherSame
    rw [ActionConf.check_eq same, ActionConf.check_eq otherSame]

/-- An index one above its limit is found after a flag that is fine, and would be beside any other index and
in any role. -/
theorem action_acceptance_exact_wide_index :
    (validateAction 3 ⟨ActionType.vf.name, some (writtenIndex 256)⟩).result =
        .error (.actionField 3 .vf (.outOfRange "id" 255 256)) ∧
      (vfConf 7).shape = (vfConf 256).shape ∧ (vfConf 256).check (vfConf 7) .last = (vfConf 256).check (vfConf 256) := by
  refine ⟨?_, rfl, action_acceptance_exact.2.2 (vfConf 256) (vfConf 7) (vfConf 256) .last .spec rfl rfl⟩
  have split : (vfConf 256).limited = [⟨"original", 0, 1⟩] ++ ⟨"id", 256, 255⟩ :: [] := rfl
  apply ((action_acceptance_exact.1 3 ⟨ActionType.vf.name, some (writtenIndex 256)⟩).refused _).mpr
  apply Violates.bounds rfl rfl rfl (decode_writtenIndex 256)
  apply ActionConf.Breaks.limit split
  · intro earlier member
    rw [List.mem_singleton.mp member]
    decide
  · decide

end Validation

end NicFlow
