import NicFlow.Agent.Error
import NicFlow.Yaml.Text

/-! Files of rules and pods, written in YAML. -/

namespace NicFlow

open Log

/-- How files are read: the text at a path, or why there is none. -/
abbrev Files := String → Except String String

namespace RuleFile

/-- Reads the document at a path. -/
def load {α : Type} (files : Files) (read : Yaml.Site → Read α) (path : String) :
    Traced AgentError α := do
  let text ← .of ((files path).mapError (.unreadable path))
  let value ← .of ((Yaml.read read text).mapError fun error => .unparsable path error.message)
  .report (.debug "flowconfig_agent::config" s!"loaded {path}")
  return value

def loadNodeConfig (files : Files) (path : String) : Traced AgentError NodeConfig :=
  load files NodeConfig.reader.read path

def loadClusterConfig (files : Files) (path : String) : Traced AgentError ClusterConfig :=
  load files ClusterConfig.reader.read path

def loadPods (files : Files) (path : String) : Traced AgentError (List Pod) :=
  load files (readList Pod.reader.read) path

end RuleFile

end NicFlow
