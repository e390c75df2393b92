import NicFlow.CommandLine.Help
import NicFlow.CommandLine.Words
import NicFlow.Time.Duration

/-! The commands of the program and their options. -/

namespace NicFlow.CommandLine

inductive RuleFileKind where
  | node
  | cluster
deriving DecidableEq, Repr

structure ValidateArguments where
  file : String
  kind : RuleFileKind
  pods : Option String
deriving DecidableEq, Repr

structure RunArguments where
  nodeName : String
  endpoint : String
  rpcTimeout : Duration
  resyncPeriod : Duration
  rules : String
  sysfs : String
  once : Bool
deriving DecidableEq, Repr

inductive Command where
  | validate (arguments : ValidateArguments)
  | run (arguments : RunArguments)
deriving DecidableEq, Repr

/-- The files that a command reads. -/
def Command.paths : Command → List String
  | .validate arguments => arguments.file :: arguments.pods.toList
  | .run arguments => [arguments.rules]

structure Arguments where
  tracing : Option String
  command : Command
deriving DecidableEq, Repr

def option (name : String) (kind : ValueKind) : OptionSpec := ⟨name, .value kind, false, none⟩

def required (name : String) (kind : ValueKind) : OptionSpec := ⟨name, .value kind, true, none⟩

/-- The option that answers with help. -/
def helpOption (text summary : String) : OptionSpec :=
  ⟨"help", .answer (.help text) (.help summary), false, some 'h'⟩

def versionOption : OptionSpec := ⟨"version", .answer .version .version, false, some 'V'⟩

def programSpec : CommandSpec where
  options := [option "tracing" .text, helpOption Help.program Help.program, versionOption]
  operands := []
  subcommands := ["validate", "run", "help"]

def validateSpec : CommandSpec where
  options := [option "kind" (.choice ["node", "cluster"]), option "pods" .path,
    helpOption Help.validate Help.validateSummary]
  operands := [⟨"FILE", .path⟩]
  subcommands := []

def runSpec : CommandSpec where
  options := [required "node-name" .text, option "grpc-endpoint" .text,
    option "rpc-timeout" .number, option "resync-period" .number, required "rules" .path,
    option "sysfs" .path, ⟨"once", .flag, false, none⟩, helpOption Help.run Help.run]
  operands := []
  subcommands := []

/-- The text of an option, or its default. -/
def textOr (given : List (String × String)) (name default : String) : String :=
  (given.lookup name).getD default

def numberOr (given : List (String × String)) (name : String) (default : Nat) : Nat :=
  ((given.lookup name).bind number?).getD default

def ValidateArguments.ofGiven (given : List (String × String)) : ValidateArguments where
  file := textOr given "FILE" ""
  kind := if given.lookup "kind" = some "cluster" then .cluster else .node
  pods := given.lookup "pods"

/-- Two reconciliations are at least a second apart. -/
def RunArguments.ofGiven (given : List (String × String)) : RunArguments where
  nodeName := textOr given "node-name" ""
  endpoint := textOr given "grpc-endpoint" "http://127.0.0.1:31000"
  rpcTimeout := .ofMilliseconds (numberOr given "rpc-timeout" 2000)
  resyncPeriod := .ofSeconds (max 1 (numberOr given "resync-period" 30))
  rules := textOr given "rules" ""
  sysfs := textOr given "sysfs" "/sys"
  once := (given.lookup "once").isSome

/-- The answer to a question for help; it is about the subcommands that are named one after the
other, and only the program has subcommands. -/
def helpAnswer : List String → UsageError
  | [] => .help Help.program
  | ["validate"] => .help Help.validate
  | ["run"] => .help Help.run
  | ["help"] => .help Help.help
  | _ => .unknownSubcommand

def readCommand (name : String) (words : List String) : Except UsageError Command := do
  if name = "validate" then
    let given ← validateSpec.read words
    return .validate (.ofGiven given)
  else if name = "run" then
    let given ← runSpec.read words
    return .run (.ofGiven given)
  else .error (helpAnswer words)

/-- Reads the words of a command line. The words of the command are checked before what stands in
front of it. -/
def Arguments.read (words : List String) : Except UsageError Arguments := do
  let (reading, subcommand) ← programSpec.readWords .start words
  match subcommand with
  | some (name, rest) =>
    let command ← readCommand name rest
    let reading ← reading.settle
    return ⟨reading.given.lookup "tracing", command⟩
  | none =>
    let reading ← reading.settle
    .error (if reading.given.isEmpty then .nothingGiven else .missingSubcommand)

end NicFlow.CommandLine
