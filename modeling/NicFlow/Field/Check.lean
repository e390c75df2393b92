import NicFlow.Document.Basic

/-! Why payloads are refused, and the rules that values of single fields keep. A mask or a range end
may only speak of what its spec speaks of, and a range ends where it begins or above. -/

namespace NicFlow

/-- What a payload of an item stands for: the value to match, the end of a range, or a mask. -/
inductive Role where
  | spec | last | mask
deriving DecidableEq, Repr

def Role.name : Role → String
  | .spec => "spec"
  | .last => "last"
  | .mask => "mask"

/-- Why the JSON form of a payload is refused. -/
inductive PayloadError where
  | json (error : ReadError)
  | mac (field value : String)
  | ipv4 (field value : String)
  | notAnObject (found : String)

def PayloadError.message : PayloadError → String
  | .json error => error.message
  | .mac field value => s!"invalid mac address in field '{field}': '{value}'"
  | .ipv4 field value => s!"invalid ipv4 address in field '{field}': '{value}'"
  | .notAnObject found => s!"expected a JSON object, got {found}"

inductive FieldError where
  | specMissing (field : String) (role : Role)
  | lastBelowSpec (field : String) (spec last : Nat)
  | outOfRange (field : String) (max value : Nat)
  | invalid (field reason : String)
  | shapeMismatch (expected found : String)
deriving DecidableEq, Repr

def FieldError.message : FieldError → String
  | .specMissing field role =>
    s!"spec.{field} must be specified when {role.name}.{field} is set"
  | .lastBelowSpec field spec last =>
    s!"last.{field} ({last}) must not be lower than spec.{field} ({spec})"
  | .outOfRange field max value => s!"{field} must be in 0-{max} range, got {value}"
  | .invalid field reason => s!"invalid {field}: {reason}"
  | .shapeMismatch expected found =>
    s!"payload shape mismatch: expected {expected}, found {found}"

/-- Checks the value of a candidate against that of the spec. -/
def checkCross (field : String) (spec candidate : Nat) (role : Role) : Except FieldError Unit :=
  if role = .spec then .ok ()
  else if spec = 0 ∧ candidate ≠ 0 then .error (.specMissing field role)
  else if role = .last ∧ candidate < spec then .error (.lastBelowSpec field spec candidate)
  else .ok ()

def checkMax (field : String) (value max : Nat) : Except FieldError Unit :=
  if value > max then .error (.outOfRange field max value) else .ok ()

end NicFlow
