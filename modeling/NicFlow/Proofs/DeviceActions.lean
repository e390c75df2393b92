import NicFlow.Proofs.RecordReading
import NicFlow.Proofs.RuleResolution

/-! Actions that name devices. Validation ties their type to their configuration, whose address can
be read, so that resolution replaces exactly them, by what could have been written in their place. -/

namespace NicFlow.Reconciliation

open Log Traced Validation

def addressConf (address : String) : ActionConf := ⟨.vfPciAddr, (address, ())⟩

/-- A validated action that names a device has an address that can be read, and no other action has
an address. -/
inductive Addressed : ValidatedAction → Prop where
  | device {address vf} (parsed : PciAddress.parse address = .ok vf) :
      Addressed ⟨.vfPciAddr, some (addressConf address), .accepted⟩
  | other {action : ValidatedAction} (different : action.type ≠ .vfPciAddr)
      (plain : action.conf.bind deviceAddress? = none) : Addressed action

theorem Addressed.parsed {action : ValidatedAction} {address : String} (addressed : Addressed action)
    (named : action.conf = some (addressConf address)) : ∃ vf, PciAddress.parse address = .ok vf := by
  cases addressed with
  | device parsed =>
    cases named
    exact ⟨_, parsed⟩
  | other different plain =>
    rw [named] at plain
    cases plain

private theorem shape?_eq_vfPciAddr_iff {type : ActionType} :
    type.shape? = some .vfPciAddr ↔ type = .vfPciAddr := by
  cases type <;> decide

private theorem deviceAddress?_eq_none {conf : ActionConf} (other : conf.shape ≠ .vfPciAddr) :
    deviceAddress? conf = none := by
  cases named : deviceAddress? conf with
  | none => rfl
  | some address => exact absurd (shape_of_deviceAddress? named) other

theorem exists_addressConf {conf : ActionConf} (device : conf.shape = .vfPciAddr) :
    ∃ address, conf = addressConf address := by
  obtain ⟨shape, value⟩ := conf
  subst device
  obtain ⟨address, _⟩ := value
  exact ⟨address, rfl⟩

theorem check_addressConf (address : String) :
    (addressConf address).check (addressConf address) =
      ((PciAddress.parse address).map fun _ => ()).mapError fun error => .invalid "addr" error.message := by
  have check : (addressConf address).check (addressConf address) =
      (ConfRule.pciAddress "addr").check (.ofList [("addr", .string)]) (address, ()) >>= fun _ => .ok () := rfl
  have text : (Wire.Fields.ofList [("addr", .string)]).text (address, ()) ["addr"] = address := rfl
  simp only [check, ConfRule.check, text]
  cases PciAddress.parse address <;> rfl

theorem check_addressConf_iff {address : String} :
    (addressConf address).check (addressConf address) = .ok () ↔
      ∃ vf, PciAddress.parse address = .ok vf := by
  rw [check_addressConf, mapError_eq_ok_iff]
  cases PciAddress.parse address <;> simp [Except.map]

theorem AcceptsAction.addressed {action : RuleAction} {validated : ValidatedAction}
    (accepts : AcceptsAction action validated) : Addressed validated := by
  cases accepts with
  | @bare type known bare free =>
    refine .other ?_ rfl
    rintro rfl
    exact free rfl
  | @configured type shape raw conf known given shaped decoded checked =>
    have same := shape_of_decodeConf decoded
    by_cases device : shape = .vfPciAddr
    · obtain ⟨address, rfl⟩ := exists_addressConf (same.trans device)
      obtain ⟨vf, parsed⟩ := check_addressConf_iff.mp checked
      subst device
      cases shape?_eq_vfPciAddr_iff.mp shaped
      exact .device parsed
    · refine .other ?_ (deviceAddress?_eq_none (same ▸ device))
      rintro rfl
      exact device (Option.some.inj (shaped.symm.trans (shape?_eq_vfPciAddr_iff.mpr rfl)))

theorem addressed_of_validates {rule : FlowRule} {validated : ValidatedRule}
    (valid : Validates rule validated) : ∀ action ∈ validated.action, Addressed action := by
  intro action member
  obtain ⟨⟨_, _, _, accepted⟩, _⟩ := validateRule_ok_iff.mp valid
  obtain ⟨_, _, accepts⟩ := exists_of_forall₂ accepted member
  exact AcceptsAction.addressed accepts

section Replacement

variable {lookup : VfLookup} {pf : PciAddress}

/-- On a physical function, an action that names a device becomes one that names its index there, a
word of at most eight bits; other actions are kept. -/
inductive Replaces (lookup : VfLookup) (pf : PciAddress) : ValidatedAction → ValidatedAction → Prop where
  | kept {action} (other : action.type ≠ .vfPciAddr) : Replaces lookup pf action action
  | device {address vf number} {id : UInt32} (parsed : PciAddress.parse address = .ok vf)
      (found : (lookup pf vf).result = .ok number) (same : id = UInt32.ofNat number) (small : id ≤ 255) :
      Replaces lookup pf ⟨.vfPciAddr, some (addressConf address), .accepted⟩
        ⟨.vf, some ⟨.vf, ((0 : UInt32), (0 : UInt32), id, ())⟩, .accepted⟩

/-- The written form of a configuration that names an index. -/
def writtenIndex (id : UInt32) : Json := .object [("id", .ofNat id.toNat)]

/-- The same on written actions: instead of a device, its index is written. -/
inductive WritesIndex (lookup : VfLookup) (pf : PciAddress) : RuleAction → RuleAction → Prop where
  | kept {action} (other : action.type ≠ ActionType.vfPciAddr.name) : WritesIndex lookup pf action action
  | device {raw address vf number} {id : UInt32}
      (read : ActionConf.decode .vfPciAddr raw = .ok (addressConf address))
      (parsed : PciAddress.parse address = .ok vf) (found : (lookup pf vf).result = .ok number)
      (same : id = UInt32.ofNat number) :
      WritesIndex lookup pf ⟨ActionType.vfPciAddr.name, some raw⟩
        ⟨ActionType.vf.name, some (writtenIndex id)⟩

private theorem check_vfConf_iff {number : Nat} :
    (vfConf number).check (vfConf number) = .ok () ↔ UInt32.ofNat number ≤ 255 := by
  have check : (vfConf number).check (vfConf number) =
      checkMax "original" (0 : UInt32).toNat 1 >>= fun _ =>
        checkMax "id" (UInt32.ofNat number).toNat 255 >>= fun _ => .ok () := rfl
  rw [check, bind_eq_ok_iff, UInt32.le_iff_toNat_le]
  simp [checkMax, bind_eq_ok_iff]

theorem Replaces.of_resolves {action resolved : ValidatedAction} (addressed : Addressed action)
    (resolves : ResolvesAction lookup pf action resolved) : Replaces lookup pf action resolved := by
  cases addressed with
  | device parsed =>
    cases resolves with
    | kept plain => cases plain
    | replaced named parsed found fits =>
      cases named
      exact .device parsed found rfl (check_vfConf_iff.mp fits)
  | other different plain =>
    cases resolves with
    | kept _ => exact .kept different
    | replaced named _ _ _ =>
      rw [plain] at named
      cases named

theorem name_of_ofName? {name : String} {type : ActionType} (known : ActionType.ofName? name = some type) :
    type.name = name := by
  simpa using List.find?_some known

theorem decode_writtenIndex (id : UInt32) :
    ActionConf.decode .vf (writtenIndex id) = .ok ⟨.vf, ((0 : UInt32), (0 : UInt32), id, ())⟩ := by
  let reader : RecordReader Json (ActionShape.Value .vf) :=
    (Wire.Fields.ofWords ["original", "reserved", "id"]).reader "RteFlowActionVf" false
  have known : reader.position? "id" = some 2 := by decide
  have assigned : reader.assign 2 (Json.ofNat id.toNat) reader.start =
      .ok ((0 : UInt32), (0 : UInt32), id, ()) := by
    show Wire.Fields.assign false (Wire.Fields.ofWords ["original", "reserved", "id"]) 2 _
      ((0 : UInt32), (0 : UInt32), (0 : UInt32), ()) = _
    simp only [Wire.Fields.ofWords, Wire.Fields.assign, Wire.Kind.read, readUInt32_ofNat]
    rfl
  have read : reader.read (writtenIndex id) = .ok ((0 : UInt32), (0 : UInt32), id, ()) :=
    RecordReader.read_single known assigned (by decide)
  show (reader.read (writtenIndex id)).mapError PayloadError.json >>= _ = _
  rw [read]
  rfl
theorem Replaces.written {action : RuleAction} {validated resolved : ValidatedAction}
    (accepts : AcceptsAction action validated) (replaces : Replaces lookup pf validated resolved) :
    ∃ direct, WritesIndex lookup pf action direct ∧ AcceptsAction direct resolved := by
  cases replaces with
  | kept other =>
    refine ⟨action, .kept ?_, accepts⟩
    intro device
    have known := accepts.follows.type
    rw [device] at known
    exact other (Option.some.inj known).symm
  | @device address vf number id parsed found same small =>
    have known := accepts.follows.type
    obtain ⟨raw, given, decoded⟩ := accepts.conf_read rfl
    have direct : WritesIndex lookup pf ⟨ActionType.vfPciAddr.name, some raw⟩
        ⟨ActionType.vf.name, some (writtenIndex id)⟩ := .device decoded parsed found same
    rw [name_of_ofName? known, ← given] at direct
    have checked := check_vfConf_iff.mpr (same ▸ small)
    have named : ActionType.ofName? ActionType.vf.name = some .vf := by decide
    subst same
    exact ⟨_, direct, .configured named rfl rfl (decode_writtenIndex _) checked⟩

theorem written_of_replaces {actions : List RuleAction} {validated resolved : List ValidatedAction}
    (accepted : List.Forall₂ AcceptsAction actions validated)
    (replaced : List.Forall₂ (Replaces lookup pf) validated resolved) :
    ∃ direct, List.Forall₂ (WritesIndex lookup pf) actions direct ∧
      List.Forall₂ AcceptsAction direct resolved := by
  induction accepted generalizing resolved with
  | nil =>
    cases replaced
    exact ⟨[], .nil, .nil⟩
  | cons accepts _ ih =>
    cases replaced with
    | cons replaces others =>
      obtain ⟨first, writes, acceptsFirst⟩ := Replaces.written accepts replaces
      obtain ⟨rest, written, acceptsRest⟩ := ih others
      exact ⟨first :: rest, .cons writes written, .cons acceptsFirst acceptsRest⟩

private theorem Replaces.terminator_iff {action resolved : ValidatedAction}
    (replaces : Replaces lookup pf action resolved) :
    action.type = .terminator ↔ resolved.type = .terminator := by
  cases replaces with
  | kept other => rfl
  | device parsed found same small => simp

private theorem checkActionsEnd_ok_iff {actions : List ValidatedAction} :
    checkActionsEnd actions = .ok () ↔
      actions.getLast?.map (fun action => decide (action.type = .terminator)) ≠ some false := by
  unfold checkActionsEnd
  cases actions.getLast? with
  | none => simp
  | some action => by_cases ended : action.type = .terminator <;> simp [ended]

private theorem checkActionsEnd_of_replaces {validated resolved : List ValidatedAction}
    (replaced : List.Forall₂ (Replaces lookup pf) validated resolved)
    (ended : checkActionsEnd validated = .ok ()) : checkActionsEnd resolved = .ok () := by
  let ends (action : ValidatedAction) : Bool := decide (action.type = .terminator)
  have last := getLast?_of_forall₂ (f := fun action => some (ends action)) (g := ends) replaced
    fun _ _ replaces => congrArg some (decide_eq_decide.mpr replaces.terminator_iff)
  have same : validated.getLast?.map ends = resolved.getLast?.map ends := by
    rw [← last]
    cases validated.getLast? <;> rfl
  rw [checkActionsEnd_ok_iff] at ended ⊢
  exact same ▸ ended

/-- The rule with the written indices is valid, and is validated as what the rule is resolved to. -/
theorem validates_written {rule : FlowRule} {validated : ValidatedRule} {direct : List RuleAction}
    {resolved : List ValidatedAction} (valid : Validates rule validated)
    (replaced : List.Forall₂ (Replaces lookup pf) validated.action resolved)
    (accepted : List.Forall₂ AcceptsAction direct resolved) :
    Validates { rule with action := direct } { validated with action := resolved } := by
  obtain ⟨⟨portId, attr, items, actions⟩, patternEnds, acts, actionsEnd, flags⟩ :=
    validateRule_ok_iff.mp valid
  refine validateRule_ok_iff.mpr
    ⟨⟨portId, attr, items, accepted⟩, patternEnds, ?_, checkActionsEnd_of_replaces replaced actionsEnd, flags⟩
  rintro node rfl
  have empty : rule.action.length = 0 := by
    rw [actions.length_eq, replaced.length_eq, ← accepted.length_eq]
    rfl
  exact acts node (List.length_eq_zero_iff.mp empty)

end Replacement

end NicFlow.Reconciliation
