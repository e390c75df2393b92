import NicFlow.Yaml.Node
import NicFlow.Yaml.Scalar

/-! The nodes of a document as typed readers see them, each with the way to it from the root. What a plain
scalar means depends on what is wanted of it: a text can be any scalar, and an empty one can be an empty
container. -/

namespace NicFlow.Yaml

open Text (Place)

/-- The way from the root of a document to a node. -/
inductive Path where
  | root
  | element (parent : Path) (index : Nat)
  | field (parent : Path) (name : String)

namespace Path

def text : Path → String
  | .root => "."
  | .element parent index => s!"{parent.text}[{index}]"
  | .field .root name => name
  | .field parent name => s!"{parent.text}.{name}"

/-- How many containers are around a node. -/
def depth : Path → Nat
  | .root => 0
  | .element parent _ => parent.depth + 1
  | .field parent _ => parent.depth + 1

/-- The way to the container of a node. -/
def parent : Path → Path
  | .root => .root
  | .element parent _ => parent
  | .field parent _ => parent

/-- Whether a container there would be too deep in a document. -/
def isTooDeep (path : Path) : Bool := 128 ≤ path.depth

end Path

/-- A node in its document. -/
structure Site where
  path : Path
  node : Node
  /-- Where the name of the field is, if the node is the value of one. -/
  namePlace : Place

namespace Site

def root (node : Node) : Site := ⟨.root, node, .start⟩

/-- An error that knows its place keeps it. -/
def locateAt (path : Path) (place : Place) : ReadError → ReadError
  | .unreadable reason => .unreadable reason
  | .located path place error => .located path place error
  | error => .located path.text place error

@[simp] theorem locateAt_locateAt (outer inner : Path) (outerPlace innerPlace : Place)
    (error : ReadError) :
    locateAt outer outerPlace (locateAt inner innerPlace error) =
      locateAt inner innerPlace error := by
  cases error <;> rfl

def tooDeep (place : Place) : ReadError :=
  .located Path.root.text place (.refused "recursion limit exceeded")

/-- The error of a name that is a container. -/
def nameError (path : Path) (wanted : String) : Node → ReadError
  | .sequence place _ => locateAt path place (.wrongType .sequence wanted)
  | .mapping place _ => locateAt path place (.wrongType .mapping wanted)
  | .broken problem => .unreadable problem.message
  | .scalar place _ text => locateAt path place (.wrongType (.string text) wanted)

def elementSites (path : Path) (index : Nat) : List Node → List Site
  | [] => []
  | node :: rest => ⟨.element path index, node, .start⟩ :: elementSites path (index + 1) rest

/-- The fields up to the first one whose name is no scalar. -/
def fieldSites (path : Path) (wanted : String) : List (Node × Node) → List (String × Site) × Ending
  | [] => ([], .whole)
  | (.scalar place _ name, node) :: rest =>
    let (sites, ending) := fieldSites path wanted rest
    ((name, ⟨.field path name, node, place⟩) :: sites, ending)
  | (name, _) :: _ => ([], .stopped (nameError path wanted name))

/-- A plain scalar in the light of what is wanted. -/
def viewPlain (text : List Char) : Wanted → View Site
  | .optional => if text.isEmpty ∨ isNull text then .null else .string (String.ofList text)
  | .bool =>
    match bool? text with
    | some value => .bool value
    | none => .other (foundPlain text)
  | .natural =>
    match natural? text with
    | some value => .number (.integer value)
    | none => .other (foundPlain text)
  | .integer =>
    match integer? text with
    | some value => .number (.integer value)
    | none => .other (foundPlain text)
  | .string => .string (String.ofList text)
  | .sequence => if text.isEmpty then .sequence [] .whole else .other (foundPlain text)
  | .mapping => if text.isEmpty then .mapping [] .whole else .other (foundPlain text)
  | .record => if text.isEmpty then .mapping [] .whole else .other (foundPlain text)

/-- How the names of fields are called where something else stands. -/
def nameWanted : Wanted → String
  | .record => "field identifier"
  | _ => "a string"

def view (wanted : Wanted) (site : Site) : View Site :=
  match site.node with
  | .scalar _ true text => viewPlain text.toList wanted
  | .scalar _ false text => .string text
  | .sequence place elements =>
    if site.path.isTooDeep then .broken (tooDeep place)
    else .sequence (elementSites site.path 0 elements) .whole
  | .mapping place fields =>
    if site.path.isTooDeep then .broken (tooDeep place)
    else
      let (sites, ending) := fieldSites site.path (nameWanted wanted) fields
      .mapping sites ending
  | .broken problem => .broken (.unreadable problem.message)

mutual

/-- The JSON value of a node; of two fields with one name the later one counts. -/
def jsonOf (path : Path) : Node → Read Json
  | .scalar place true text =>
    match jsonOfPlain text.toList with
    | some value => .ok value
    | none => .error (locateAt path place (.refused "JSON number out of range"))
  | .scalar _ false text => .ok (.string text)
  | .sequence place elements =>
    if path.isTooDeep then .error (tooDeep place) else (jsonOfElements path 0 elements).map .array
  | .mapping place fields =>
    if path.isTooDeep then .error (tooDeep place)
    else (jsonOfFields path "a string key" fields).map .ofFields
  | .broken problem => .error (.unreadable problem.message)

def jsonOfElements (path : Path) (index : Nat) : List Node → Read (List Json)
  | [] => .ok []
  | element :: rest => do
    let element ← jsonOf (.element path index) element
    let rest ← jsonOfElements path (index + 1) rest
    return element :: rest

def jsonOfFields (path : Path) (wanted : String) : List (Node × Node) → Read (List (String × Json))
  | [] => .ok []
  | (.scalar _ _ name, value) :: rest => do
    let value ← jsonOf (.field path name) value
    let rest ← jsonOfFields path "a string" rest
    return (name, value) :: rest
  | (name, _) :: _ => .error (nameError path wanted name)

end

end Site

instance : Document Site where
  listsAsRecords := false
  view := Site.view
  skip site :=
    match site.node.problem? with
    | some problem => .error (.unreadable problem.message)
    | none => .ok ()
  raw site := Site.jsonOf site.path site.node
  locate site := Site.locateAt site.path site.node.place
  locateName site := Site.locateAt site.path.parent site.namePlace

end NicFlow.Yaml
