import NicFlow.Text.Split
import NicFlow.Yaml.Cursor

/-! Scalars in single or double quotes. Line breaks are folded in both; escapes are for double quotes. -/

namespace NicFlow.Yaml

open Text (Place)

namespace QuotedScalar

def quote (double : Bool) : Char := if double then '"' else '\''

/-- The character of an escape in double quotes. -/
def escaped? (character : Char) : Option Char :=
  ([('0', 0), ('a', 7), ('b', 8), ('t', 9), ('\t', 9), ('n', 10), ('v', 11), ('f', 12), ('r', 13),
    ('e', 27), (' ', 32), ('"', 34), ('/', 47), ('\\', 92), ('N', 0x85), ('_', 0xA0), ('L', 0x2028),
    ('P', 0x2029)].lookup character).map Char.ofNat

/-- How many hexadecimal digits an escape takes. -/
def escapeWidth? (character : Char) : Option Nat :=
  [('x', 2), ('u', 4), ('U', 8)].lookup character

def isScalarValue (code : Nat) : Bool := code < 0xD800 ∨ (0xE000 ≤ code ∧ code < 0x110000)

/-- The character of the escape whose backslash stands here, and its length. -/
def escape (start : Place) (cursor : Cursor) : Except Problem (Char × Nat) :=
  let context := some ("while parsing a quoted scalar", start)
  let name := cursor.next.rest.head?
  match name.bind escapeWidth?, name.bind escaped? with
  | some width, _ =>
    let digits := cursor.advance 2
    match Text.ofHex? (digits.rest.take width) with
    | some code =>
      if (digits.rest.take width).length < width then
        .error (digits.problem "did not find expected hexdecimal number" context)
      else if isScalarValue code then .ok (Char.ofNat code, width + 2)
      else .error (digits.problem "found invalid Unicode character escape code" context)
    | none => .error (digits.problem "did not find expected hexdecimal number" context)
  | none, some character => .ok (character, 2)
  | none, none => .error (cursor.problem "found unknown escape character" context)

/-- Reads on up to the closing quote. -/
def readFrom (double : Bool) (start : Place) :
    (fuel : Nat) → Cursor → Except Problem (List Char × Cursor)
  | 0, cursor => .ok ([], cursor)
  | fuel + 1, cursor => do
    let context := some ("while scanning a quoted scalar", start)
    let push (text : List Char) (count : Nat) : Except Problem (List Char × Cursor) :=
      (readFrom double start fuel (cursor.advance count)).map fun (rest, next) => (text ++ rest, next)
    if cursor.atDocumentMark then .error (cursor.problem "found unexpected document indicator" context)
    else
      match cursor.rest with
      | [] => .error (cursor.problem "found unexpected end of stream" context)
      | character :: rest =>
        if character = quote double then
          if ¬double ∧ rest.head? = some '\'' then push ['\''] 2 else .ok ([], cursor.next)
        else if isSpace character then push (folded cursor.gap) cursor.gap.length
        else if double ∧ character = '\\' then
          if rest.head?.any isBreak then
            let gap := (cursor.advance 2).gap
            push (gap.filter isBreak) (gap.length + 2)
          else
            let (character, length) ← escape start cursor
            push [character] length
        else
          let word := cursor.rest.takeWhile fun character =>
            ¬isSpace character ∧ character ≠ quote double ∧ character ≠ '\\'
          push (if word.isEmpty then [character] else word) (max 1 word.length)

/-- The text of the scalar whose opening quote stands here, and what follows its closing quote. -/
def read (double : Bool) (cursor : Cursor) : Except Problem (List Char × Cursor) :=
  readFrom double cursor.place (cursor.rest.length + 1) cursor.next

end QuotedScalar

end NicFlow.Yaml
