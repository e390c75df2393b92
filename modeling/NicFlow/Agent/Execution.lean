import NicFlow.Agent.Session
import NicFlow.Log.Filter
import NicFlow.Log.Line

/-! What the program does with a command line: it answers at once, or it validates a file, or it runs a
session. -/

namespace NicFlow

open Log CommandLine

/-- What a run of the program leaves behind: its exit code, its output, and the events it shows, each by
the first line of its message. -/
structure Outcome where
  code : Nat
  output : String
  events : List Event
deriving DecidableEq, Repr

namespace Execution

/-- How a command line begins. -/
inductive Start where
  | ended (outcome : Outcome)
  | command (filter : Filter) (command : Command)

def silent (code : Nat) (output : String) : Outcome := ⟨code, output, []⟩

/-- Only what is asked for is written as output; errors of a command line have a code of their own. -/
def answerOutcome : UsageError → Outcome
  | .help text => silent 0 text
  | .version => silent 0 Help.version
  | _ => silent 2 ""

def start (words : List String) : Start :=
  match Arguments.read words with
  | .error error => .ended (answerOutcome error)
  | .ok arguments =>
    match Filter.parse (arguments.tracing.getD "") with
    | .error _ => .ended (silent 1 "")
    | .ok filter => .command filter arguments.command

/-- How an error that ends a run is reported. -/
def errorEvent (error : AgentError) : Event := .error Session.target error.message

/-- What is left of the events of a run and of the output after them. -/
def ended (filter : Filter) (code : Nat) (output : String) (events : List Event) : Outcome :=
  let shown := events.filter filter.shows
  ⟨code, String.join (shown.map Event.moreLines) ++ output, shown.map Event.firstLine⟩

/-- The end of a run: an error is reported and makes the code nonzero. -/
def finish {α : Type} (filter : Filter) (output : α → String) (result : Except AgentError α)
    (events : List Event) : Outcome :=
  match result with
  | .ok value => ended filter 0 (output value) events
  | .error error => ended filter 1 "" (events ++ [errorEvent error])

def checkedLine (rule : CheckedRule) : String :=
  s!"{rule.node}\t{rule.index}\t{rule.fingerprint}\t{rule.verdict.name}\n"

/-- Checks the file of a command. -/
def checkFile (files : Files) (arguments : ValidateArguments) :
    Traced AgentError (List CheckedRule) := do
  .report Validation.registryEvent
  match arguments.kind with
  | .node =>
    let config ← RuleFile.loadNodeConfig files arguments.file
    Check.checkNodeRules config.nodeName config.rules
  | .cluster =>
    let config ← RuleFile.loadClusterConfig files arguments.file
    let pods ← match arguments.pods with
      | some path => RuleFile.loadPods files path
      | none => pure []
    Check.checkClusterRules config pods

def validate (files : Files) (filter : Filter) (arguments : ValidateArguments) : Outcome :=
  let checked := checkFile files arguments
  finish filter (fun rules => String.join (rules.map checkedLine)) checked.result checked.events

/-- Runs a session against a service; returns the service as it is left too. -/
def session {τ : Type} (serve : (call : Call) → τ → call.Answer × τ) (service : τ) (files : Files)
    (lookup : VfLookup) (count : Nat) (filter : Filter) (arguments : RunArguments) : Outcome × τ :=
  let run := (Session.run files lookup arguments count).run serve service
  (finish filter (fun _ => "") run.value run.events, run.service)

/-- Runs the program on a command line. `lookup` finds virtual functions below a root, and a session
that is not ended by its only pass is stopped after `count` passes. -/
def run {τ : Type} (serve : (call : Call) → τ → call.Answer × τ) (service : τ) (files : Files)
    (lookup : String → VfLookup) (count : Nat) (words : List String) : Outcome × τ :=
  match start words with
  | .ended outcome => (outcome, service)
  | .command filter (.validate arguments) => (validate files filter arguments, service)
  | .command filter (.run arguments) =>
    session serve service files (lookup arguments.sysfs) count filter arguments

end Execution

end NicFlow
