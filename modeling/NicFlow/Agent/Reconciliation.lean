import NicFlow.Agent.Check
import NicFlow.Flow.Cache
import NicFlow.Service.Program

/-! A reconciliation pass makes the flows of a node agree with its rules: after all rules are validated
and their devices resolved, missing flows are created, and then flows that no rule asks for are
destroyed. The cache follows the acknowledgements of the service, one call at a time. -/

namespace NicFlow

open Log

/-- What a pass did. -/
structure ReconcileReport where
  created : Nat
  destroyed : Nat
  unchanged : Nat
  /-- Rules that were only partially validated. -/
  unvalidated : Nat
deriving DecidableEq, Repr

namespace Reconciliation

def target : String := "flowconfig_agent::reconcile"

/-- Whether a rule names a device by its address. -/
def namesDevice (rule : ValidatedRule) : Bool := rule.action.any (·.type = .vfPciAddr)

/-- The configuration of the action that names a virtual function by its index. -/
def vfConf (index : Nat) : ActionConf :=
  ⟨.vf, ((0 : UInt32), (0 : UInt32), UInt32.ofNat index, ())⟩

/-- The address in a configuration, if it holds one. -/
def deviceAddress? (conf : ActionConf) : Option String :=
  match conf with
  | ⟨.vfPciAddr, (address, _)⟩ => some address
  | _ => none

/-- Replaces an action that names a device by one that names its index on the port. -/
def resolveAction (lookup : VfLookup) (index : Nat) (portId : UInt32) (pf : PciAddress)
    (position : Nat) (action : ValidatedAction) : Traced AgentError ValidatedAction :=
  match action.conf.bind deviceAddress? with
  | none => return action
  | some address => do
    let vf ← .of ((PciAddress.parse address).mapError fun error => .vf index (.pci error))
    let number ← (lookup pf vf).mapError (.vf index)
    let conf := vfConf number
    .of ((conf.check conf).mapError fun error => .flow index (.actionField position .vf error))
    .report (.debug target s!"port {portId}: {vf.render} is VF {number} of {pf.render}")
    return ⟨.vf, some conf, .accepted⟩

/-- Resolves the devices that a rule names, on the first listed port of the rule. -/
def resolveRule (lookup : VfLookup) (ports : List Port) (index : Nat) (rule : ValidatedRule) :
    Traced AgentError ValidatedRule :=
  if namesDevice rule then
    match ports.find? (·.portId = rule.portId) with
    | none => .fail (.unknownPort index rule.portId)
    | some port => do
      let pf ← .of ((PciAddress.parse port.pci).mapError fun error => .vf index (.pci error))
      let action ← Traced.forEachFrom (resolveAction lookup index rule.portId pf) 0 rule.action
      return { rule with action }
  else return rule

/-- Resolves all rules; the ports are asked for only if a rule names a device. -/
def resolveRules (lookup : VfLookup) (cache : FlowCache) (rules : List ValidatedRule) :
    Program FlowCache (Except AgentError (List ValidatedRule)) :=
  if rules.any namesDevice then
    .call cache .listPorts fun answer =>
      match answer with
      | .error error => .done cache (.error (.rpc error))
      | .ok ports => .ofTraced cache (Traced.forEachFrom (resolveRule lookup ports) 0 rules)
  else .done cache (.ok rules)

/-- Creates the flows that are not in the cache, in order; returns how many were created and how many
were there before. -/
def createMissing (created unchanged : Nat) (cache : FlowCache) :
    List CreateRequest → Program FlowCache (Except AgentError (Nat × Nat))
  | [] => .done cache (.ok (created, unchanged))
  | request :: rest =>
    let fingerprint := Fingerprint.ofRequest request
    if cache.has fingerprint then createMissing created (unchanged + 1) cache rest
    else
      .call cache (.create request) fun answer =>
        match answer with
        | .error error => .done cache (.error (.rpc error))
        | .ok flowId =>
          .report (.debug target
            s!"created flow {flowId} on port {request.portId} ({fingerprint})")
            (createMissing (created + 1) unchanged (cache.add fingerprint ⟨flowId, request⟩) rest)

/-- Destroys flows in order and forgets each as its end is acknowledged. -/
def destroyStale (destroyed : Nat) (cache : FlowCache) :
    List (Fingerprint × FlowRecord) → Program FlowCache (Except AgentError Nat)
  | [] => .done cache (.ok destroyed)
  | (fingerprint, record) :: rest =>
    .call cache (.destroy record.rule.portId record.flowId) fun answer =>
      match answer with
      | .error error => .done cache (.error (.rpc error))
      | .ok () =>
        .report (.debug target
          s!"destroyed flow {record.flowId} on port {record.rule.portId} ({fingerprint})")
          (destroyStale (destroyed + 1) (cache.delete fingerprint) rest)

/-- What a finished pass reports. -/
def summaryEvents (report : ReconcileReport) : List Event :=
  (.info target
    s!"created {report.created} destroyed {report.destroyed} unchanged {report.unchanged} rules") ::
  (if report.unvalidated = 0 then []
    else [.warn target s!"{report.unvalidated} rules were only partially validated"])

/-- Makes the installed flows those of the resolved rules. -/
def install (cache : FlowCache) (rules : List ValidatedRule) :
    Program FlowCache (Except AgentError ReconcileReport) :=
  let requests := rules.map ValidatedRule.toRequest
  let desired := requests.map Fingerprint.ofRequest
  let unvalidated := rules.countP (·.verdict = .acceptedUnvalidated)
  (createMissing 0 0 cache requests).andThen fun cache (created, unchanged) =>
    (destroyStale 0 cache (cache.complement desired)).andThen fun cache destroyed =>
      let report := ⟨created, destroyed, unchanged, unvalidated⟩
      .reportAll (summaryEvents report) (.done cache (.ok report))

/-- The work of one pass. -/
def span (rules : List FlowRule) : Span := ⟨.info, target, "reconcile", [("rules", rules.length)]⟩

/-- One pass over the rules of a node. -/
def pass (lookup : VfLookup) (cache : FlowCache) (rules : List FlowRule) :
    Program FlowCache (Except AgentError ReconcileReport) :=
  .within (span rules)
    ((Program.ofTraced cache (Traced.forEachFrom Check.validateAt 0 rules)).andThen
      fun cache validated => (resolveRules lookup cache validated).andThen install)

end Reconciliation

end NicFlow
