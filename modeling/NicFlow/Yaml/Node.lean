import NicFlow.Yaml.Token

/-! The nodes of a YAML document. A text that breaks off leaves a document whose last nodes are broken; what
comes before them can still be read. -/

namespace NicFlow.Yaml

open Text (Place)

inductive Node where
  | scalar (place : Place) (plain : Bool) (text : String)
  | sequence (place : Place) (elements : List Node)
  | mapping (place : Place) (fields : List (Node × Node))
  | broken (problem : Problem)
deriving Inhabited

namespace Node

/-- A node that is left out. -/
def empty (place : Place) : Node := .scalar place true ""

def place : Node → Place
  | .scalar place _ _ => place
  | .sequence place _ => place
  | .mapping place _ => place
  | .broken problem => problem.place

mutual

/-- The first problem of a node. -/
def problem? : Node → Option Problem
  | .scalar _ _ _ => none
  | .sequence _ elements => elementsProblem? elements
  | .mapping _ fields => fieldsProblem? fields
  | .broken problem => some problem

def elementsProblem? : List Node → Option Problem
  | [] => none
  | element :: rest => element.problem?.or (elementsProblem? rest)

def fieldsProblem? : List (Node × Node) → Option Problem
  | [] => none
  | (key, value) :: rest => (key.problem?.or value.problem?).or (fieldsProblem? rest)

end

end Node

end NicFlow.Yaml
