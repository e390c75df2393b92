import NicFlow.Address.Endpoint
import NicFlow.Agent.Reconciliation
import NicFlow.Agent.RuleFile
import NicFlow.CommandLine.Arguments
import NicFlow.Service.Readiness

/-! A session of the agent: it waits for the flow service and then makes the flows of its node agree
with the rule file, once or again and again until it is stopped. The state of a session is its cache. -/

namespace NicFlow

open Log CommandLine

namespace Session

def target : String := "flowconfig_agent"

/-- The rules of the file, which must be for this node if it names one. -/
def loadRules (files : Files) (arguments : RunArguments) : Traced AgentError (List FlowRule) := do
  let config ← RuleFile.loadNodeConfig files arguments.rules
  if config.nodeName ≠ "" ∧ config.nodeName ≠ arguments.nodeName then
    .fail (.wrongNode arguments.nodeName config.nodeName)
  else return config.rules

/-- Loads the rules and makes one pass over them. -/
def resync (files : Files) (lookup : VfLookup) (arguments : RunArguments) (cache : FlowCache) :
    Program FlowCache (Except AgentError Unit) :=
  (Program.ofTraced cache (loadRules files arguments)).andThen fun cache rules =>
    (Reconciliation.pass lookup cache rules).andThen fun cache _ => .done cache (.ok ())

/-- What a session reports when it is stopped; the flows stay installed. -/
def stopEvents (cache : FlowCache) : List Event :=
  (.info target s!"stopping, {cache.size} rules installed") ::
    cache.fingerprints.map fun fingerprint =>
      .debug target s!"left installed: {fingerprint}"

def failureEvents (period : Duration) : Except AgentError Unit → List Event
  | .ok () => []
  | .error error =>
    [.warn target s!"reconciliation failed, retrying in {period.render}: {error.message}"]

/-- Makes a number of passes and is then stopped. A pass that fails is reported and does not end the
session. -/
def passes (files : Files) (lookup : VfLookup) (arguments : RunArguments) :
    (count : Nat) → FlowCache → Program FlowCache (Except AgentError Unit)
  | 0, cache => .reportAll (stopEvents cache) (.done cache (.ok ()))
  | count + 1, cache =>
    (resync files lookup arguments cache).bind fun cache result =>
      .reportAll (failureEvents arguments.resyncPeriod result)
        (if count = 0 then passes files lookup arguments count cache
        else .sleep arguments.resyncPeriod (passes files lookup arguments count cache))

/-- The one pass of a session that is not repeated, or a number of passes. -/
def work (files : Files) (lookup : VfLookup) (arguments : RunArguments) (count : Nat)
    (cache : FlowCache) : Program FlowCache (Except AgentError Unit) :=
  if arguments.once then resync files lookup arguments cache
  else passes files lookup arguments count cache

/-- Opens the connection, which is used only when a call is made. -/
def connect (endpoint : String) (timeout : Duration) : Traced RpcError Unit :=
  if Endpoint.isValid endpoint then
    .report (.debug "flowconfig_rpc::client"
      s!"flow service client for {endpoint}, timeout {timeout.render}")
  else .fail (.invalidEndpoint endpoint "invalid URI")

/-- Waits until the service answers. -/
def awaitService : Program FlowCache (Except AgentError (List Port)) :=
  (waitReady FlowCache.empty .default).bind fun cache result =>
    .done cache (result.mapError .rpc)

/-- What is reported before the first pass. -/
def readyEvents (arguments : RunArguments) (ports : List Port) : List Event :=
  [.info target s!"flow service at {arguments.endpoint} is ready with {ports.length} ports",
    Validation.registryEvent]

/-- A whole session, stopped after a number of passes unless it makes only one. -/
def run (files : Files) (lookup : VfLookup) (arguments : RunArguments) (count : Nat) :
    Program FlowCache (Except AgentError Unit) :=
  .report (.info target s!"starting flow agent on node {arguments.nodeName}")
    ((Program.ofTraced FlowCache.empty
        ((connect arguments.endpoint arguments.rpcTimeout).mapError .rpc)).andThen fun _ () =>
      awaitService.andThen fun cache ports =>
        .reportAll (readyEvents arguments ports) (work files lookup arguments count cache))

end Session

end NicFlow
