import NicFlow.Agent.Reconciliation
import NicFlow.Proofs.RuleValidation

/-! What validation and device lookup make of single rules. Positions occur in errors
only, so rules are accepted one by one and their order does not matter. -/

namespace NicFlow

open Log Traced

/-- The rule passes validation for use on a node, and this is what it becomes. -/
def Validates (rule : FlowRule) (validated : ValidatedRule) : Prop :=
  (Validation.validateRule .node rule).result = .ok validated

/-- The rule passes validation for use on a node. -/
def Valid (rule : FlowRule) : Prop := ∃ validated, Validates rule validated

theorem Check.validateAt_ok_iff {index : Nat} {rule : FlowRule} {validated : ValidatedRule} :
    (validateAt index rule).result = .ok validated ↔ Validates rule validated :=
  mapError_ok_iff

theorem not_valid_of_refused {rule : FlowRule} {source : FlowError}
    (refused : (Validation.validateRule .node rule).result = .error source) : ¬ Valid rule := by
  rintro ⟨validated, accepted⟩
  rw [Validates, refused] at accepted
  cases accepted

theorem Check.validate_all_ok {rules : List FlowRule} {validated : List ValidatedRule}
    (accepted : (forEachFrom validateAt 0 rules).result = .ok validated) :
    List.Forall₂ Validates rules validated := by
  have uniform : ∀ index rule validated,
      (validateAt index rule).result = .ok validated ↔ Validates rule validated :=
    fun _ _ _ => validateAt_ok_iff
  exact (forEachFrom_ok_iff uniform 0 _ _).mp accepted

theorem valid_of_validates {rules : List FlowRule} {validated : List ValidatedRule}
    (related : List.Forall₂ Validates rules validated) : ∀ rule ∈ rules, Valid rule := by
  intro rule member
  obtain ⟨validated, _, validates⟩ := exists_of_forall₂ related.flip member
  exact ⟨validated, validates⟩

theorem Check.validate_all_error {rules : List FlowRule} {error : AgentError}
    (failed : (forEachFrom validateAt 0 rules).result = .error error) :
    ∃ before rule rest source, rules = before ++ rule :: rest ∧
      (∀ earlier ∈ before, Valid earlier) ∧
      (Validation.validateRule .node rule).result = .error source ∧
      error = .flow before.length source := by
  obtain ⟨before, rule, rest, split, valid, refused⟩ := forEachFrom_error failed
  obtain ⟨source, reason, same⟩ := mapError_error_iff.mp refused
  rw [Nat.zero_add] at same
  refine ⟨before, rule, rest, source, split, ?_, reason, same⟩
  intro earlier member
  obtain ⟨_, validated, accepted⟩ := valid earlier member
  exact ⟨validated, validateAt_ok_iff.mp accepted⟩

namespace Reconciliation

variable {lookup : VfLookup} {ports : List Port}

/-- What an action becomes on a physical function. -/
inductive ResolvesAction (lookup : VfLookup) (pf : PciAddress) :
    ValidatedAction → ValidatedAction → Prop where
  | kept {action} (plain : action.conf.bind deviceAddress? = none) : ResolvesAction lookup pf action action
  | replaced {action address vf number} (named : action.conf.bind deviceAddress? = some address)
      (parsed : PciAddress.parse address = .ok vf) (found : (lookup pf vf).result = .ok number)
      (fits : (vfConf number).check (vfConf number) = .ok ()) :
      ResolvesAction lookup pf action ⟨.vf, some (vfConf number), .accepted⟩

/-- What a rule becomes on the listed ports. -/
inductive ResolvesRule (lookup : VfLookup) (ports : List Port) : ValidatedRule → ValidatedRule → Prop where
  | kept {rule} (plain : namesDevice rule = false) : ResolvesRule lookup ports rule rule
  | replaced {rule port pf action} (names : namesDevice rule = true)
      (listed : ports.find? (·.portId = rule.portId) = some port)
      (parsed : PciAddress.parse port.pci = .ok pf)
      (actions : List.Forall₂ (ResolvesAction lookup pf) rule.action action) :
      ResolvesRule lookup ports rule { rule with action }

private theorem resolveAction_ok_iff {index : Nat} {portId : UInt32} {pf : PciAddress} {position : Nat}
    {action resolved : ValidatedAction} :
    (resolveAction lookup index portId pf position action).result = .ok resolved ↔
      ResolvesAction lookup pf action resolved := by
  unfold resolveAction
  constructor
  · intro accepted
    split at accepted
    next plain =>
      cases accepted
      exact .kept plain
    next address named =>
      simp only [bind_ok_iff, mapError_ok_iff, mapError_eq_ok_iff, result_of] at accepted
      obtain ⟨vf, parsed, number, found, _, fits, _, _, same⟩ := accepted
      cases same
      exact .replaced named parsed found fits
  · intro resolves
    cases resolves with
    | kept plain => simp [plain]
    | replaced named parsed found fits => simp [named, parsed, found, fits, Except.mapError, Except.bind]

theorem resolveRule_ok_iff (index : Nat) {rule resolved : ValidatedRule} :
    (resolveRule lookup ports index rule).result = .ok resolved ↔
      ResolvesRule lookup ports rule resolved := by
  unfold resolveRule
  have uniform pf : ∀ position action resolved,
      (resolveAction lookup index rule.portId pf position action).result = .ok resolved ↔
        ResolvesAction lookup pf action resolved :=
    fun _ _ _ => resolveAction_ok_iff
  constructor
  · intro accepted
    split at accepted
    next names =>
      split at accepted
      · cases accepted
      next port listed =>
        simp only [bind_ok_iff, mapError_eq_ok_iff, result_of] at accepted
        obtain ⟨pf, parsed, action, all, same⟩ := accepted
        cases same
        exact .replaced names listed parsed ((forEachFrom_ok_iff (uniform pf) 0 _ _).mp all)
    next plain =>
      cases accepted
      exact .kept (by simpa using plain)
  · intro resolves
    cases resolves with
    | kept plain => simp [plain]
    | replaced names listed parsed related =>
      have all := (forEachFrom_ok_iff (uniform _) 0 _ _).mpr related
      simp [names, listed, parsed, all, Except.mapError, Except.bind]

/-- The request that a rule asks for, once it is validated and its devices are resolved. -/
def request? (lookup : VfLookup) (ports : List Port) (rule : FlowRule) : Option CreateRequest :=
  match (Validation.validateRule .node rule).result with
  | .ok validated => (resolveRule lookup ports 0 validated).result.toOption.map ValidatedRule.toRequest
  | .error _ => none

theorem request?_of_resolved {rule : FlowRule} {validated resolved : ValidatedRule}
    (valid : Validates rule validated) (resolves : ResolvesRule lookup ports validated resolved) :
    request? lookup ports rule = some resolved.toRequest := by
  rw [Validates] at valid
  simp [request?, valid, (resolveRule_ok_iff 0).mpr resolves, Except.toOption]

theorem request?_of_unresolved {rule : FlowRule} {validated : ValidatedRule} {index : Nat}
    {error : AgentError} (valid : Validates rule validated)
    (failed : (resolveRule lookup ports index validated).result = .error error) :
    request? lookup ports rule = none := by
  rw [Validates] at valid
  cases resolved : (resolveRule lookup ports 0 validated).result with
  | error other => simp [request?, valid, resolved, Except.toOption]
  | ok value =>
    have accepted := (resolveRule_ok_iff index).mpr ((resolveRule_ok_iff 0).mp resolved)
    rw [failed] at accepted
    cases accepted

theorem requests_of_resolved {rules : List FlowRule} {validated resolved : List ValidatedRule}
    (valid : List.Forall₂ Validates rules validated)
    (resolves : List.Forall₂ (ResolvesRule lookup ports) validated resolved) :
    rules.map (request? lookup ports) = (resolved.map ValidatedRule.toRequest).map some := by
  induction valid generalizing resolved with
  | nil =>
    cases resolves
    rfl
  | cons first rest ih =>
    cases resolves with
    | cons resolved others =>
      simp only [List.map_cons, request?_of_resolved first resolved, ih others]

section Verdicts

theorem shape_of_deviceAddress? {conf : ActionConf} {address : String}
    (named : deviceAddress? conf = some address) : conf.shape = .vfPciAddr := by
  obtain ⟨shape, value⟩ := conf
  cases shape <;> simp_all [deviceAddress?]

private theorem accepted_of_deviceAddress? {action : RuleAction} {validated : ValidatedAction}
    {address : String} (accepts : Validation.AcceptsAction action validated)
    (named : validated.conf.bind deviceAddress? = some address) : validated.verdict = .accepted := by
  cases accepts with
  | bare => rfl
  | configured known given shaped decoded checked =>
    have strict := Validation.shape_of_decodeConf decoded
    rw [shape_of_deviceAddress? named] at strict
    subst strict
    rfl

/-- Every action that names a device was fully validated. -/
def DevicesAccepted (actions : List ValidatedAction) : Prop :=
  ∀ action ∈ actions, ∀ address,
    action.conf.bind deviceAddress? = some address → action.verdict = .accepted

private theorem devicesAccepted_of_validateRule {scope : Scope} {rule : FlowRule} {validated : ValidatedRule}
    (valid : (Validation.validateRule scope rule).result = .ok validated) :
    DevicesAccepted validated.action := by
  obtain ⟨⟨_, _, _, accepted⟩, _⟩ := Validation.validateRule_ok_iff.mp valid
  intro action member address named
  obtain ⟨_, _, accepts⟩ := exists_of_forall₂ accepted member
  exact accepted_of_deviceAddress? accepts named

private theorem any_verdict_of_resolved {pf : PciAddress} {actions resolved : List ValidatedAction}
    (accepted : DevicesAccepted actions)
    (related : List.Forall₂ (ResolvesAction lookup pf) actions resolved) (verdict : Verdict) :
    resolved.any (·.verdict = verdict) = actions.any (·.verdict = verdict) := by
  induction related with
  | nil => rfl
  | @cons action result _ _ resolves _ ih =>
    have same : result.verdict = action.verdict := by
      cases resolves with
      | kept plain => rfl
      | replaced named parsed found fits =>
        exact (accepted action List.mem_cons_self _ named).symm
    rw [List.any_cons, List.any_cons, same,
      ih fun other member => accepted other (List.mem_cons_of_mem _ member)]

private theorem verdict_of_resolvesRule {rule : FlowRule} {validated resolved : ValidatedRule}
    (valid : Validates rule validated) (resolves : ResolvesRule lookup ports validated resolved) :
    resolved.verdict = validated.verdict := by
  cases resolves with
  | kept plain => rfl
  | replaced names listed parsed related =>
    have verdicts := any_verdict_of_resolved (devicesAccepted_of_validateRule valid) related
    simp only [ValidatedRule.verdict, verdicts]

/-- The rule is accepted, but parts of it are not validated. -/
def partlyValidated (rule : FlowRule) : Bool :=
  match (Validation.validateRule .node rule).result with
  | .ok validated => validated.verdict = .acceptedUnvalidated
  | .error _ => false

theorem partlyValidated_of_validates {rule : FlowRule} {validated : ValidatedRule}
    (valid : Validates rule validated) :
    partlyValidated rule = decide (validated.verdict = .acceptedUnvalidated) := by
  rw [Validates] at valid
  simp only [partlyValidated, valid]

theorem countP_verdict_of_resolved {rules : List FlowRule} {validated resolved : List ValidatedRule}
    (valid : List.Forall₂ Validates rules validated)
    (resolves : List.Forall₂ (ResolvesRule lookup ports) validated resolved) :
    resolved.countP (·.verdict = .acceptedUnvalidated) = rules.countP partlyValidated := by
  induction valid generalizing resolved with
  | nil =>
    cases resolves
    rfl
  | cons first _ ih =>
    cases resolves with
    | cons resolves others =>
      rw [List.countP_cons, List.countP_cons, ih others, partlyValidated_of_validates first,
        verdict_of_resolvesRule first resolves]

end Verdicts

end Reconciliation

end NicFlow
