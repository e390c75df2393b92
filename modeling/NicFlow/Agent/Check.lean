import NicFlow.Agent.Error
import NicFlow.Flow.Fingerprint

/-! Offline checks: the rules of a node, and the rules of a cluster together with pods, are validated
and named by their fingerprints. -/

namespace NicFlow

open Log

/-- A rule that passed, with the node it is for. -/
structure CheckedRule where
  node : String
  index : Nat
  fingerprint : Fingerprint
  verdict : Verdict
deriving DecidableEq

namespace Check

/-- Validates the rule at a position for use on a node. -/
def validateAt (index : Nat) (rule : FlowRule) : Traced AgentError ValidatedRule :=
  (Validation.validateRule .node rule).mapError (.flow index)

def checkRuleAt (node : String) (index : Nat) (rule : FlowRule) : Traced AgentError CheckedRule := do
  let validated ← validateAt index rule
  return ⟨node, index, Fingerprint.ofRequest validated.toRequest, validated.verdict⟩

def checkNodeRules (node : String) (rules : List FlowRule) : Traced AgentError (List CheckedRule) :=
  Traced.forEachFrom (checkRuleAt node) 0 rules

/-- What can be checked of a cluster rule without pods. -/
def checkClusterRule (index : Nat) (rule : ClusterRule) : Traced AgentError Unit := do
  let _ ← (Validation.validatePattern rule.pattern).mapError (.flow index)
  .of ((Validation.validateAttributes (rule.attr.getD .default)).mapError (.flow index))
  .of ((Translation.checkRule rule).mapError (.clusterRule index))

/-- Checks cluster rules, and then the rules that they become for the given pods. -/
def checkClusterRules (config : ClusterConfig) (pods : List Pod) :
    Traced AgentError (List CheckedRule) := do
  let _ ← Traced.forEachFrom checkClusterRule 0 config.rules
  let nodes ← (Translation.fanOut config pods).mapError .translate
  let checked ← Traced.forEach (fun node => checkNodeRules node.nodeName node.rules) nodes
  return checked.flatten

end Check

end NicFlow
