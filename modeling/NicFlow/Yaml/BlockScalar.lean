import NicFlow.Yaml.Cursor

/-! Scalars that are written as indented lines below their header. A literal one keeps its line breaks, a
folded one joins lines that do not begin with a blank. -/

namespace NicFlow.Yaml

open Text (Place)

namespace BlockScalar

/-- What becomes of the line breaks at the end. -/
inductive Chomping where
  | strip
  /-- The first one is kept. -/
  | clip
  | keep
deriving DecidableEq

def chomping? : Char → Option Chomping
  | '-' => some .strip
  | '+' => some .keep
  | _ => none

structure Header where
  chomping : Chomping
  /-- How far the lines are indented from the enclosing block, if it is said. -/
  indentation : Option Nat

def context (start : Place) : Option (String × Place) := some ("while scanning a block scalar", start)

/-- Reads what follows the indicator of a scalar: a sign and a digit in any order, and the end of the
line. -/
def readHeader (start : Place) (cursor : Cursor) : Except Problem (Header × Cursor) := do
  let sign (cursor : Cursor) : Option Chomping × Cursor :=
    match cursor.rest.head?.bind chomping? with
    | some chomping => (some chomping, cursor.next)
    | none => (none, cursor)
  let (first, cursor) := sign cursor
  let (indentation, cursor) ←
    match cursor.rest with
    | digit :: _ =>
      if digit = '0' then
        .error (cursor.problem "found an indentation indicator equal to 0" (context start))
      else if digit.isDigit then .ok (some (digit.toNat - 48), cursor.next)
      else .ok (none, cursor)
    | [] => .ok (none, cursor)
  let (second, cursor) := if first.isSome then (none, cursor) else sign cursor
  let cursor := (cursor.skipWhile isBlank).skipComment
  if cursor.rest.head?.all isBreak then
    return (⟨(first.or second).getD .clip, indentation⟩, cursor.next)
  else .error (cursor.problem "did not find expected comment or line break" (context start))

/-- What precedes the next line that is not empty. -/
structure EmptyLines where
  breaks : List Char
  /-- The greatest column that was reached. -/
  widest : Nat
  next : Cursor

/-- Passes over empty lines, and over the spaces before the next content up to the indentation. -/
def emptyLines (start : Place) (indentation : Option Nat) :
    (fuel : Nat) → EmptyLines → Except Problem EmptyLines
  | 0, lines => .ok lines
  | fuel + 1, ⟨breaks, widest, cursor⟩ =>
    let spaces := (cursor.rest.takeWhile (· = ' ')).length
    let cursor := cursor.advance (indentation.elim spaces (min spaces))
    let widest := max widest cursor.place.column
    match cursor.rest with
    | [] => .ok ⟨breaks, widest, cursor⟩
    | character :: _ =>
      if character = '\t' ∧ indentation.all (cursor.place.column < ·) then
        .error (cursor.problem "found a tab character where an indentation space is expected"
          (context start))
      else if isBreak character then
        emptyLines start indentation fuel ⟨breaks ++ [character], widest, cursor.next⟩
      else .ok ⟨breaks, widest, cursor⟩

/-- The lines read so far. -/
structure Lines where
  text : List Char
  /-- The break that ends the last line. -/
  lineBreak : List Char
  /-- Whether the last line begins with a blank. -/
  blank : Bool
  /-- The empty lines after the last line. -/
  empty : EmptyLines

/-- Adds the lines that begin at the column of the indentation. -/
def readLines (literal : Bool) (start : Place) (indentation : Nat) :
    (fuel : Nat) → Lines → Except Problem Lines
  | 0, lines => .ok lines
  | fuel + 1, ⟨text, lineBreak, blank, empty⟩ => do
    let cursor := empty.next
    match cursor.rest with
    | [] => return ⟨text, lineBreak, blank, empty⟩
    | character :: _ =>
      if cursor.place.column ≠ indentation then return ⟨text, lineBreak, blank, empty⟩
      else
        let joins := ¬literal ∧ lineBreak = ['\n'] ∧ ¬blank ∧ ¬isBlank character
        let between :=
          if ¬joins then lineBreak else if empty.breaks.isEmpty then [' '] else []
        let line := cursor.rest.takeWhile (¬isBreak ·)
        let cursor := cursor.advance line.length
        let next ← emptyLines start (some indentation) fuel ⟨[], 0, cursor.next⟩
        readLines literal start indentation fuel
          ⟨text ++ between ++ empty.breaks ++ line, cursor.rest.take 1, isBlank character, next⟩

/-- The text of the scalar whose indicator stands here, and what follows it. Unless its header says so,
the first line shows its indentation, which is the least column of nested content at least. -/
def read (literal : Bool) (least : Nat) (cursor : Cursor) : Except Problem (List Char × Cursor) := do
  let start := cursor.place
  let fuel := cursor.rest.length + 1
  let (header, cursor) ← readHeader start cursor.next
  let given := header.indentation.map (least - 1 + ·)
  let empty ← emptyLines start given fuel ⟨[], 0, cursor⟩
  let indentation := given.getD (max 1 (max least empty.widest))
  let lines ← readLines literal start indentation fuel ⟨[], [], false, empty⟩
  let tail :=
    match header.chomping with
    | .strip => []
    | .clip => lines.lineBreak
    | .keep => lines.lineBreak ++ lines.empty.breaks
  return (lines.text ++ tail, lines.empty.next)

end BlockScalar

end NicFlow.Yaml
