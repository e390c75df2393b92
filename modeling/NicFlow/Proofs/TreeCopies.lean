import Mathlib.Data.List.Forall2
import NicFlow.Action.Conf

/-! The free-form message copied from a JSON object holds what the object holds, at every depth and in
order. Only the numbers change, each to its double. -/

namespace NicFlow

open Wire

namespace Json

mutual

/-- The value with each number replaced by its double. -/
def rounded : Json → Json
  | .null => .null
  | .bool value => .bool value
  | .number value => .number (.double value.toDouble)
  | .string value => .string value
  | .array elements => .array (roundedElements elements)
  | .object fields => .object (roundedFields fields)

def roundedElements : List Json → List Json
  | [] => []
  | element :: rest => element.rounded :: roundedElements rest

def roundedFields : List (String × Json) → List (String × Json)
  | [] => []
  | (key, value) :: rest => (key, value.rounded) :: roundedFields rest

end

/-- The values agree everywhere, up to the double value of their numbers. -/
inductive Agree : Json → Json → Prop where
  | null : Agree .null .null
  | bool (value : Bool) : Agree (.bool value) (.bool value)
  | number {left right : Number} (same : left.toDouble = right.toDouble) :
      Agree (.number left) (.number right)
  | string (value : String) : Agree (.string value) (.string value)
  | array {left right : List Json} (elements : List.Forall₂ Agree left right) :
      Agree (.array left) (.array right)
  | object {left right : List (String × Json)} (keys : left.map Prod.fst = right.map Prod.fst)
      (values : List.Forall₂ Agree (left.map Prod.snd) (right.map Prod.snd)) :
      Agree (.object left) (.object right)

section Cases

private theorem agree_bool_iff {left right : Bool} : Agree (.bool left) (.bool right) ↔ left = right := by
  constructor
  · intro agree
    cases agree
    rfl
  · intro same
    rw [same]
    exact .bool right

private theorem agree_number_iff {left right : Number} :
    Agree (.number left) (.number right) ↔ left.toDouble = right.toDouble := by
  refine ⟨fun agree => ?_, .number⟩
  cases agree with
  | number same => exact same

private theorem agree_string_iff {left right : String} : Agree (.string left) (.string right) ↔ left = right := by
  constructor
  · intro agree
    cases agree
    rfl
  · intro same
    rw [same]
    exact .string right

private theorem agree_array_iff {left right : List Json} :
    Agree (.array left) (.array right) ↔ List.Forall₂ Agree left right := by
  refine ⟨fun agree => ?_, .array⟩
  cases agree with
  | array elements => exact elements

private theorem agree_object_iff {left right : List (String × Json)} :
    Agree (.object left) (.object right) ↔ left.map Prod.fst = right.map Prod.fst ∧
      List.Forall₂ Agree (left.map Prod.snd) (right.map Prod.snd) := by
  refine ⟨fun agree => ?_, fun both => .object both.1 both.2⟩
  cases agree with
  | object keys values => exact ⟨keys, values⟩

end Cases

end Json

namespace Wire.Tree

mutual

/-- The JSON value of a tree; an unset one has none, and the code of a null is not seen. -/
def toJson? : Tree → Option Json
  | .unset => none
  | .null _ => some .null
  | .number value => some (.number (.double value))
  | .string value => some (.string value)
  | .bool value => some (.bool value)
  | .struct fields => do return .object (← fieldsToJson? fields)
  | .list elements => do return .array (← elementsToJson? elements)

def elementsToJson? : List Tree → Option (List Json)
  | [] => some []
  | element :: rest => do return (← element.toJson?) :: (← elementsToJson? rest)

def fieldsToJson? : Struct → Option (List (String × Json))
  | [] => some []
  | (key, value) :: rest => do return (key, ← value.toJson?) :: (← fieldsToJson? rest)

end

mutual

theorem toJson?_ofJson (value : Json) : (ofJson value).toJson? = some value.rounded := by
  cases value with
  | null => rfl
  | bool value => rfl
  | number value => rfl
  | string value => rfl
  | array elements =>
    simp only [ofJson, toJson?, elementsToJson?_ofElements elements, Json.rounded]
    rfl
  | object fields =>
    simp only [ofJson, toJson?, fieldsToJson?_ofFields fields, Json.rounded]
    rfl

private theorem elementsToJson?_ofElements (elements : List Json) :
    elementsToJson? (ofElements elements) = some (Json.roundedElements elements) := by
  match elements with
  | [] => rfl
  | element :: rest =>
    simp only [ofElements, elementsToJson?, toJson?_ofJson element, elementsToJson?_ofElements rest]
    rfl

private theorem fieldsToJson?_ofFields (fields : List (String × Json)) :
    fieldsToJson? (ofFields fields) = some (Json.roundedFields fields) := by
  match fields with
  | [] => rfl
  | (key, value) :: rest =>
    simp only [ofFields, fieldsToJson?, toJson?_ofJson value, fieldsToJson?_ofFields rest]
    rfl

end

mutual

theorem ofJson_eq_iff (left right : Json) : ofJson left = ofJson right ↔ left.Agree right := by
  cases left <;> cases right
  case null.null => exact iff_of_true rfl .null
  case bool.bool => rw [ofJson, ofJson, bool.injEq, Json.agree_bool_iff]
  case number.number => rw [ofJson, ofJson, number.injEq, Json.agree_number_iff]
  case string.string => rw [ofJson, ofJson, string.injEq, Json.agree_string_iff]
  case array.array left right =>
    rw [ofJson, ofJson, list.injEq, Json.agree_array_iff]
    exact ofElements_eq_iff left right
  case object.object left right =>
    rw [ofJson, ofJson, struct.injEq, Json.agree_object_iff]
    exact ofFields_eq_iff left right
  all_goals exact iff_of_false nofun nofun

private theorem ofElements_eq_iff (left right : List Json) :
    ofElements left = ofElements right ↔ List.Forall₂ Json.Agree left right := by
  match left, right with
  | [], [] => exact iff_of_true rfl .nil
  | [], _ :: _ => exact iff_of_false nofun nofun
  | _ :: _, [] => exact iff_of_false nofun nofun
  | left :: leftRest, right :: rightRest =>
    rw [ofElements, ofElements, List.cons.injEq, List.forall₂_cons]
    exact and_congr (ofJson_eq_iff left right) (ofElements_eq_iff leftRest rightRest)

private theorem ofFields_eq_iff (left right : List (String × Json)) :
    ofFields left = ofFields right ↔ left.map Prod.fst = right.map Prod.fst ∧
      List.Forall₂ Json.Agree (left.map Prod.snd) (right.map Prod.snd) := by
  match left, right with
  | [], [] => exact iff_of_true rfl ⟨rfl, .nil⟩
  | [], _ :: _ => exact iff_of_false nofun nofun
  | _ :: _, [] => exact iff_of_false nofun nofun
  | (leftKey, left) :: leftRest, (rightKey, right) :: rightRest =>
    rw [ofFields, ofFields, List.cons.injEq, Prod.mk.injEq, ofJson_eq_iff left right,
      ofFields_eq_iff leftRest rightRest]
    simp only [List.map_cons, List.cons.injEq, List.forall₂_cons]
    exact and_and_and_comm

end

end Wire.Tree

example : decodeFreeForm (.object [("", .array [.null, .object [], .array []])]) =
    .ok [("", .list [.null 0, .struct [], .list []])] := rfl

end NicFlow
