import NicFlow.Number.Double
import NicFlow.Sorted

/-! JSON values. A number is an integer or a double, never both: `2` and `2.0` stay apart. The fields
of an object are kept in increasing order of their keys, each key once. -/

namespace NicFlow

inductive Number where
  | integer (value : Int)
  | double (value : Double)
deriving DecidableEq, Inhabited, Repr

/-- The double nearest to a number. -/
def Number.toDouble : Number → Double
  | .integer value => Double.ofInt value
  | .double value => value

inductive Json where
  | null
  | bool (value : Bool)
  | number (value : Number)
  | string (value : String)
  | array (elements : List Json)
  | object (fields : List (String × Json))
deriving Inhabited, Repr

namespace Json

def ofNat (value : Nat) : Json := .number (.integer value)

def ofInt (value : Int) : Json := .number (.integer value)

/-- An object of fields in any order. -/
def ofFields (fields : List (String × Json)) : Json := .object (sortByKey fields)

/-- The field of an object. -/
def field? (key : String) : Json → Option Json
  | .object fields => fields.lookup key
  | _ => none

end Json

end NicFlow
