import NicFlow.Agent.VfLookup
import NicFlow.Cluster.Translation
import NicFlow.Rule.Error
import NicFlow.Service.Call

/-! Why a check or a pass of the agent fails. Errors of rules carry the position of the rule. -/

namespace NicFlow

inductive AgentError where
  | unreadable (path reason : String)
  | unparsable (path reason : String)
  | flow (index : Nat) (source : FlowError)
  | clusterRule (index : Nat) (source : TranslateError)
  | vf (index : Nat) (source : VfError)
  | unknownPort (index : Nat) (portId : UInt32)
  | wrongNode (expected found : String)
  | translate (source : TranslateError)
  | rpc (source : RpcError)
  | tracing (directive : String)

def AgentError.message : AgentError → String
  | .unreadable path reason => s!"cannot read {path}: {reason}"
  | .unparsable path reason => s!"cannot parse {path}: {reason}"
  | .flow index source => s!"rule {index}: {source.message}"
  | .clusterRule index source => s!"cluster rule {index}: {source.message}"
  | .vf index source => s!"rule {index}: {source.message}"
  | .unknownPort index portId => s!"rule {index}: no port {portId} on the flow service"
  | .wrongNode expected found =>
    s!"rule file is for node '{found}', this is node '{expected}'"
  | .translate source => source.message
  | .rpc source => source.message
  | .tracing directive => s!"invalid tracing configuration: '{directive}'"

end NicFlow
