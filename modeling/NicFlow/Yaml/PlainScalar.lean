import NicFlow.Yaml.Cursor

/-! Scalars without quotes. Words are joined over blanks and line breaks; a scalar ends before a comment,
the mark of a value, a mark of documents, a line of an outer block, and, in a flow collection, before an
indicator. -/

namespace NicFlow.Yaml

open Text (Place)

namespace PlainScalar

/-- A scalar as it was read, and the next content. -/
structure Read where
  text : List Char
  /-- Whether a line ends between the scalar and the next content. -/
  endsLine : Bool
  next : Cursor

/-- Whether a scalar begins with this character. -/
def begins (flow : Bool) : List Char → Bool
  | [] => false
  | character :: rest =>
    if character = '-' then ¬rest.head?.any isBlank
    else if character = '?' ∨ character = ':' then ¬flow && ¬atSpace rest
    else ¬isSpace character && ¬isIndicator character

/-- Whether a colon stands here that is followed by an indicator. -/
def atStrayColon : List Char → Bool
  | ':' :: character :: _ => character = '?' || isFlowIndicator character
  | _ => false

/-- The characters up to a space or the end of the scalar. -/
def word (flow : Bool) : List Char → List Char
  | [] => []
  | character :: rest =>
    if isSpace character || (character = ':' && atSpace rest) then []
    else if flow && (isFlowIndicator character || atStrayColon (character :: rest)) then []
    else character :: word flow rest

/-- The first tab before the least column of a line, among some characters after the given line. -/
def misplacedTab? (line least : Nat) : (count : Nat) → Cursor → Option Cursor
  | 0, _ => none
  | count + 1, cursor =>
    if cursor.rest.head? = some '\t' ∧ cursor.place.line ≠ line ∧ cursor.place.column < least then
      some cursor
    else misplacedTab? line least count cursor.next

/-- Reads on after a gap. In block style the lines of a scalar begin at the least column or to the right of
it. -/
def readFrom (flow : Bool) (least : Nat) (start : Place) :
    (fuel : Nat) → (gap : List Char) → Cursor → Except Problem Read
  | 0, gap, cursor => .ok ⟨[], gap.any isBreak, cursor⟩
  | fuel + 1, gap, cursor =>
    if cursor.atDocumentMark || cursor.rest.head? = some '#' then .ok ⟨[], gap.any isBreak, cursor⟩
    else
      let context := some ("while scanning a plain scalar", start)
      let word := word flow cursor.rest
      let cursor := cursor.advance word.length
      let (text, gap) := if word.isEmpty then ([], gap) else (folded gap ++ word, [])
      if flow && atStrayColon cursor.rest then .error (cursor.problem "found unexpected ':'" context)
      else if cursor.gap.isEmpty then .ok ⟨text, gap.any isBreak, cursor⟩
      else
        match misplacedTab? cursor.place.line least cursor.gap.length cursor with
        | some tab => .error (tab.problem "found a tab character that violates indentation" context)
        | none =>
          let next := cursor.advance cursor.gap.length
          if ¬flow ∧ next.place.column < least then .ok ⟨text, cursor.gap.any isBreak, next⟩
          else
            (readFrom flow least start fuel cursor.gap next).map fun found =>
              { found with text := text ++ found.text }

def read (flow : Bool) (least : Nat) (cursor : Cursor) : Except Problem Read :=
  readFrom flow least cursor.place (cursor.rest.length + 1) [] cursor

end PlainScalar

end NicFlow.Yaml
