import NicFlow.Document.Basic

/-! What is left of a YAML text from a place on, the classes of characters by which it is cut, and
what makes a text no YAML. -/

namespace NicFlow.Yaml

open Text (Place)

/-- What makes a text no YAML. -/
structure Problem where
  reason : String
  place : Place
  /-- What was being read, and where that begins. -/
  context : Option (String × Place)
deriving DecidableEq, Inhabited

/-- A context that begins where the problem is needs no place of its own. -/
def Problem.message (problem : Problem) : String :=
  problem.reason ++ problem.place.suffix ++
    match problem.context with
    | none => ""
    | some (activity, start) =>
      ", " ++ activity ++ (if start = problem.place then "" else start.suffix)

structure Cursor where
  rest : List Char
  place : Place

def isBlank (character : Char) : Bool := character = ' ' ∨ character = '\t'

def isBreak (character : Char) : Bool :=
  character = '\n' ∨ character = '\u2028' ∨ character = '\u2029'

def isSpace (character : Char) : Bool := isBlank character || isBreak character

/-- Whether a text begins with a blank or a line break, or is at its end. -/
def atSpace : List Char → Bool
  | [] => true
  | character :: _ => isSpace character

def isFlowIndicator (character : Char) : Bool := character ∈ [',', '[', ']', '\x7b', '\x7d']

/-- The characters that begin something else than a plain scalar. -/
def isIndicator (character : Char) : Bool :=
  isFlowIndicator character ||
    character ∈ ['-', '?', ':', '#', '&', '*', '!', '|', '>', '\'', '"', '%', '@', '`']

/-- What the spaces between two words of a scalar stand for: a single line break is a blank, and of
several the first one is dropped. -/
def folded (gap : List Char) : List Char :=
  match gap.filter isBreak with
  | [] => gap
  | ['\n'] => [' ']
  | '\n' :: breaks => breaks
  | breaks => breaks

namespace Cursor

/-- Passes over a character; after a line break a new line begins. -/
def next (cursor : Cursor) : Cursor :=
  match cursor.rest with
  | [] => cursor
  | character :: rest =>
    if isBreak character then ⟨rest, ⟨cursor.place.line + 1, 0⟩⟩
    else ⟨rest, cursor.place.right 1⟩

def advance (cursor : Cursor) : (count : Nat) → Cursor
  | 0 => cursor
  | count + 1 => cursor.next.advance count

def skipWhile (cursor : Cursor) (condition : Char → Bool) : Cursor :=
  cursor.advance (cursor.rest.takeWhile condition).length

/-- The blanks and line breaks that begin here. -/
def gap (cursor : Cursor) : List Char := cursor.rest.takeWhile isSpace

/-- Whether a line begins here with three equal characters that stand alone. -/
def atMark (cursor : Cursor) (character : Char) : Bool :=
  cursor.place.column = 0 && cursor.rest.take 3 = List.replicate 3 character &&
    atSpace (cursor.rest.drop 3)

/-- Whether a document begins or ends here. -/
def atDocumentMark (cursor : Cursor) : Bool := cursor.atMark '-' || cursor.atMark '.'

/-- Passes over a comment, if one begins here. -/
def skipComment (cursor : Cursor) : Cursor :=
  if cursor.rest.head? = some '#' then cursor.skipWhile (¬isBreak ·) else cursor

def problem (cursor : Cursor) (reason : String) (context : Option (String × Place)) : Problem :=
  ⟨reason, cursor.place, context⟩

end Cursor

end NicFlow.Yaml
