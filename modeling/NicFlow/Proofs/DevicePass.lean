import NicFlow.Proofs.DeviceActions
import NicFlow.Proofs.PassDiscipline
import NicFlow.Proofs.PassPhases
import NicFlow.Proofs.RequestEncoding

/-! What a pass sends of rules that name devices. They are sent with the indices of the devices on the
first listed port of the rule, and the ports are asked for at most once. -/

namespace NicFlow.Reconciliation

open Log Traced Validation

/-- The answers to the questions for the ports. -/
def listings (calls : List Answered) : List (Except RpcError (List Port)) :=
  calls.filterMap fun
    | ⟨.listPorts, answer⟩ => some answer
    | _ => none

def NamesDevice (rule : FlowRule) : Prop :=
  ∃ action ∈ rule.action, action.type = ActionType.vfPciAddr.name

/-- The first listed port of a number is a port of the physical function. -/
def OnPort (calls : List Answered) (portId : UInt32) (pf : PciAddress) : Prop :=
  ∃ ports port, .ok ports ∈ listings calls ∧ ports.find? (·.portId = portId) = some port ∧
    PciAddress.parse port.pci = .ok pf

/-- What a validated rule is sent as: itself if it names no device, and else with the indices of its
devices in their places. -/
inductive SentAs (lookup : VfLookup) (calls : List Answered) (rule : ValidatedRule) :
    ValidatedRule → Prop where
  | unchanged (plain : ∀ action ∈ rule.action, action.type ≠ .vfPciAddr) : SentAs lookup calls rule rule
  | replaced {pf action} (names : ∃ action ∈ rule.action, action.type = .vfPciAddr)
      (port : OnPort calls rule.portId pf)
      (replaced : List.Forall₂ (Replaces lookup pf) rule.action action) :
      SentAs lookup calls rule { rule with action }

/-- The rule as it could have been written directly, with the indices of its devices. -/
inductive WrittenAs (lookup : VfLookup) (calls : List Answered) (rule : FlowRule) : FlowRule → Prop where
  | unchanged (plain : ¬ NamesDevice rule) : WrittenAs lookup calls rule rule
  | replaced {pf action} (port : OnPort calls rule.portId pf)
      (written : List.Forall₂ (WritesIndex lookup pf) rule.action action) :
      WrittenAs lookup calls rule { rule with action }

variable {lookup : VfLookup} {cache after : FlowCache} {ports : List Port} {calls : List Answered}

section Rules

variable {rule : FlowRule} {validated resolved : ValidatedRule}

theorem namesDevice_iff : namesDevice validated = true ↔
    ∃ action ∈ validated.action, action.type = .vfPciAddr := by
  simp [namesDevice]

theorem namesDevice_of_validates (valid : Validates rule validated) :
    namesDevice validated = true ↔ NamesDevice rule := by
  obtain ⟨⟨_, _, _, accepted⟩, _⟩ := validateRule_ok_iff.mp valid
  rw [namesDevice_iff]
  constructor
  · rintro ⟨action, member, device⟩
    obtain ⟨origin, present, accepts⟩ := exists_of_forall₂ accepted member
    have known := accepts.follows.type
    rw [device] at known
    exact ⟨origin, present, (name_of_ofName? known).symm⟩
  · rintro ⟨origin, present, device⟩
    obtain ⟨action, member, accepts⟩ := exists_of_forall₂ accepted.flip present
    have known : ActionType.ofName? ActionType.vfPciAddr.name = some .vfPciAddr := by decide
    have same := accepts.follows.type
    rw [device, known] at same
    exact ⟨action, member, (Option.some.inj same).symm⟩

private theorem replaces_of_resolves {pf : PciAddress} {actions : List ValidatedAction}
    (valid : Validates rule validated)
    (resolves : List.Forall₂ (ResolvesAction lookup pf) validated.action actions) :
    List.Forall₂ (Replaces lookup pf) validated.action actions := by
  have both := (List.forall₂_and_left _ _).mpr ⟨addressed_of_validates valid, resolves⟩
  exact both.imp fun _ _ ⟨addressed, resolves⟩ => Replaces.of_resolves addressed resolves

private theorem sentAs_of_resolves (valid : Validates rule validated)
    (asked : namesDevice validated = true → .ok ports ∈ listings calls)
    (resolves : ResolvesRule lookup ports validated resolved) :
    SentAs lookup calls validated resolved := by
  cases resolves with
  | kept plain =>
    refine .unchanged fun action member device => ?_
    rw [namesDevice_iff.mpr ⟨action, member, device⟩] at plain
    cases plain
  | replaced names listed parsed actions =>
    exact .replaced (namesDevice_iff.mp names) ⟨ports, _, asked names, listed, parsed⟩
      (replaces_of_resolves valid actions)

theorem SentAs.written (valid : Validates rule validated)
    (sent : SentAs lookup calls validated resolved) :
    ∃ direct, WrittenAs lookup calls rule direct ∧ Validates direct resolved := by
  obtain ⟨⟨portId, _, _, accepted⟩, _⟩ := validateRule_ok_iff.mp valid
  cases sent with
  | unchanged plain =>
    refine ⟨rule, .unchanged fun names => ?_, valid⟩
    obtain ⟨action, member, device⟩ := namesDevice_iff.mp ((namesDevice_of_validates valid).mpr names)
    exact plain action member device
  | replaced names port replaced =>
    obtain ⟨direct, written, accepts⟩ := written_of_replaces accepted replaced
    rw [portId] at port
    exact ⟨_, .replaced port written, validates_written valid replaced accepts⟩

end Rules

section Errors

variable {rule : ValidatedRule} {index position : Nat} {error : PciError}

private theorem pci_of_resolveAction {portId : UInt32} {pf : PciAddress} {place : Nat}
    {action : ValidatedAction} (addressed : Addressed action)
    (failed : (resolveAction lookup index portId pf place action).result =
      .error (.vf position (.pci error))) :
    position = index ∧ ∃ address vf, action.conf = some (addressConf address) ∧
      PciAddress.parse address = .ok vf ∧ (lookup pf vf).result = .error (.pci error) := by
  cases addressed with
  | other different plain =>
    simp [resolveAction, plain] at failed
  | @device address vf parsed =>
    have named : (some (addressConf address)).bind deviceAddress? = some address := rfl
    simp only [resolveAction, named, parsed] at failed
    rcases bind_error_iff.mp failed with refused | ⟨_, accepted, failed⟩
    · cases refused
    · cases accepted
      rcases bind_error_iff.mp failed with refused | ⟨number, _, failed⟩
      · obtain ⟨source, found, same⟩ := mapError_error_iff.mp refused
        cases same
        exact ⟨rfl, address, vf, rfl, parsed, found⟩
      · rcases bind_error_iff.mp failed with refused | ⟨_, _, impossible⟩
        · obtain ⟨_, _, same⟩ := mapError_eq_error_iff.mp refused
          cases same
        · cases impossible

/-- Where an address comes from that resolution cannot read: from a port or from the lookup. -/
inductive PciSource (lookup : VfLookup) (ports : List Port) (rule : ValidatedRule) (error : PciError) :
    Prop where
  | port {port} (listed : ports.find? (·.portId = rule.portId) = some port)
      (unread : PciAddress.parse port.pci = .error error)
  | lookup {port pf action address vf} (listed : ports.find? (·.portId = rule.portId) = some port)
      (parsed : PciAddress.parse port.pci = .ok pf) (member : action ∈ rule.action)
      (named : action.conf = some (addressConf address)) (read : PciAddress.parse address = .ok vf)
      (failed : (lookup pf vf).result = .error (.pci error))

private theorem pci_of_resolveRule (addressed : ∀ action ∈ rule.action, Addressed action)
    (failed : (resolveRule lookup ports index rule).result = .error (.vf position (.pci error))) :
    position = index ∧ PciSource lookup ports rule error := by
  unfold resolveRule at failed
  split at failed
  · split at failed
    · cases failed
    next port listed =>
      rcases bind_error_iff.mp failed with refused | ⟨pf, accepted, failed⟩
      · obtain ⟨source, unread, same⟩ := mapError_eq_error_iff.mp refused
        cases same
        exact ⟨rfl, .port listed unread⟩
      · have parsed := mapError_eq_ok_iff.mp accepted
        rcases bind_error_iff.mp failed with refused | ⟨_, _, impossible⟩
        · obtain ⟨before, action, rest, split, _, refused⟩ := forEachFrom_error refused
          have member : action ∈ rule.action := split ▸ List.mem_append_right _ List.mem_cons_self
          obtain ⟨same, address, vf, named, read, failed⟩ :=
            pci_of_resolveAction (addressed action member) refused
          exact ⟨same, .lookup listed parsed member named read failed⟩
        · cases impossible
  · cases failed

end Errors

section Course

/-- The rules that resolution ends with, and the ports that it asked for if it had to. -/
theorem Asking.resolves {validated resolved : List ValidatedRule}
    (asking : Asking lookup validated calls (.ok resolved)) :
    ∃ ports, List.Forall₂ (ResolvesRule lookup ports) validated resolved ∧
      ∀ rule ∈ validated, namesDevice rule = true → .ok ports ∈ listings calls := by
  cases asking.resolution with
  | finished listing resolves =>
    obtain ⟨ports, listed⟩ := listing.listed
    refine ⟨ports, resolves ports listed, fun rule member names => ?_⟩
    cases asking with
    | unasked plain => exact absurd names (by simpa using List.any_eq_false.mp plain rule member)
    | listed _ resolution =>
      cases listed _ List.mem_cons_self
      exact List.mem_cons_self

theorem Asking.names {validated : List ValidatedRule} {result : Except AgentError (List ValidatedRule)}
    (asking : Asking lookup validated calls result) (asked : listings calls ≠ []) :
    ∃ rule ∈ validated, namesDevice rule = true := by
  cases asking with
  | unasked => exact absurd rfl asked
  | unlisted names => exact List.any_eq_true.mp names
  | listed names => exact List.any_eq_true.mp names

theorem Asking.pci {rules : List FlowRule} {validated : List ValidatedRule} {index : Nat}
    {error : PciError} (valid : List.Forall₂ Validates rules validated)
    (asking : Asking lookup validated calls (.error (.vf index (.pci error)))) :
    ∃ rule validated ports, rules[index]? = some rule ∧ Validates rule validated ∧
      .ok ports ∈ listings calls ∧ PciSource lookup ports validated error := by
  cases asking with
  | @listed ports _ names resolution =>
    obtain ⟨before, rule, rest, split, _, failed⟩ := forEachFrom_error resolution
    have found : validated[before.length]? = some rule := by simp [split]
    obtain ⟨origin, present, validates⟩ := getElem?_of_forall₂ valid found
    obtain ⟨same, source⟩ := pci_of_resolveRule (addressed_of_validates validates) failed
    rw [Nat.zero_add] at same
    exact ⟨origin, rule, ports, same ▸ present, validates, List.mem_cons_self, source⟩

private theorem listings_append (first rest : List Answered) :
    listings (first ++ rest) = listings first ++ listings rest := List.filterMap_append ..

section Installing

variable {requests : List CreateRequest} {unvalidated : Nat} {result : Except AgentError ReconcileReport}

theorem Installation.asked {request : CreateRequest} {answer : Except RpcError UInt32}
    (installation : Installation cache requests unvalidated calls after result)
    (sent : ⟨.create request, answer⟩ ∈ calls) : request ∈ requests := by
  have created : ∀ {installed asked}, Installs cache asked installed →
      ⟨.create request, answer⟩ ∈ creations installed → request ∈ asked := by
    intro installed asked installs member
    obtain ⟨record, inside, same⟩ := List.mem_map.mp member
    cases same
    exact installs.asked record inside
  have kept : ∀ records, (⟨.create request, answer⟩ : Answered) ∉ destructions records := by
    intro records member
    obtain ⟨record, inside, same⟩ := List.mem_map.mp member
    cases same
  cases installation with
  | uncreated split installs absent =>
    subst split
    rcases List.mem_append.mp sent with member | last
    · exact List.mem_append_left _ (created installs member)
    · cases List.mem_singleton.mp last
      exact List.mem_append_right _ List.mem_cons_self
  | undestroyed gone installs split =>
    rcases List.mem_append.mp sent with member | member
    · exact created installs member
    · rcases List.mem_append.mp member with member | last
      · exact absurd member (kept _)
      · cases List.mem_singleton.mp last
  | finished installs counted =>
    rcases List.mem_append.mp sent with member | member
    · exact created installs member
    · exact absurd member (kept _)

theorem Installation.rpc {error : AgentError}
    (installation : Installation cache requests unvalidated calls after (.error error)) :
    ∃ source, error = .rpc source := by
  cases installation with
  | uncreated => exact ⟨_, rfl⟩
  | undestroyed => exact ⟨_, rfl⟩

end Installing

end Course

section Pass

variable {rules : List FlowRule} {result : Except AgentError ReconcileReport}

theorem Course.created (course : Course lookup cache rules calls after result)
    {request : CreateRequest} {answer : Except RpcError UInt32}
    (sent : ⟨.create request, answer⟩ ∈ calls) :
    ∃ rule ∈ rules, ∃ validated resolved, Validates rule validated ∧
      SentAs lookup calls validated resolved ∧ request = resolved.toRequest := by
  cases course with
  | invalid => cases sent
  | unresolved valid asking => cases asking <;> simp at sent
  | @installing validated resolved listing later _ _ valid asking installation =>
    have inside : ⟨.create request, answer⟩ ∈ later := by
      refine (List.mem_append.mp sent).resolve_left fun member => ?_
      cases asking <;> simp at member
    obtain ⟨last, present, rfl⟩ := List.mem_map.mp (installation.asked inside)
    obtain ⟨ports, resolves, asked⟩ := asking.resolves
    obtain ⟨middle, member, becomes⟩ := exists_of_forall₂ resolves present
    obtain ⟨rule, given, validates⟩ := exists_of_forall₂ valid member
    refine ⟨rule, given, middle, last, validates, sentAs_of_resolves validates ?_ becomes, rfl⟩
    intro names
    rw [listings_append]
    exact List.mem_append_left _ (asked middle member names)

theorem Course.pci {index : Nat} {error : PciError}
    (course : Course lookup cache rules calls after (.error (.vf index (.pci error)))) :
    ∃ rule validated ports, rules[index]? = some rule ∧ Validates rule validated ∧
      .ok ports ∈ listings calls ∧ PciSource lookup ports validated error := by
  cases course with
  | unresolved valid asking => exact asking.pci valid
  | installing valid asking installation =>
    obtain ⟨_, impossible⟩ := installation.rpc
    cases impossible

end Pass

end NicFlow.Reconciliation
