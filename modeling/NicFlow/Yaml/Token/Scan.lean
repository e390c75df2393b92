import NicFlow.Yaml.Cursor
import NicFlow.Yaml.Token

/-! The state of cutting a text into tokens. Whether something is a key shows only when its colon is met,
so a token that may begin a key waits until then. Blocks are told by their columns. -/

namespace NicFlow.Yaml

open Text (Place)

/-- Something that is a key if a colon follows it on its line. -/
structure PossibleKey where
  place : Place
  /-- The number of tokens before it. -/
  position : Nat
  /-- Whether nothing but a key can stand there. -/
  required : Bool

structure Scan where
  cursor : Cursor
  /-- The number of tokens that were taken. -/
  taken : Nat
  /-- The tokens that wait. -/
  waiting : List Token
  /-- What may be a key in the innermost collection. -/
  key : Option PossibleKey
  /-- What may be a key in the collections around each open flow collection. -/
  outerKeys : List (Option PossibleKey)
  /-- Whether a key may begin here. -/
  keyAllowed : Bool
  /-- The columns of the open blocks, the innermost first. -/
  columns : List Nat

abbrev Scanned := Except Problem Scan

namespace Scan

/-- A mark of byte order at the beginning of a text takes a column and is nothing else. -/
def start (text : List Char) : Scan :=
  let cursor : Cursor := ⟨text, .start⟩
  { cursor := if text.head? = some '\uFEFF' then cursor.next else cursor
    taken := 0, waiting := [], key := none, outerKeys := [], keyAllowed := true, columns := [] }

def inFlow (scan : Scan) : Bool := ¬scan.outerKeys.isEmpty

/-- The least column of what belongs to the innermost block. -/
def least (scan : Scan) : Nat := scan.columns.head?.elim 0 (· + 1)

def fail {α : Type} (scan : Scan) (reason : String) : Except Problem α :=
  .error (scan.cursor.problem reason none)

/-- Adds a token that begins here, and passes over its characters. -/
def push (scan : Scan) (kind : TokenKind) (length : Nat) : Scan :=
  { scan with
    waiting := scan.waiting ++ [⟨kind, scan.cursor.place⟩], cursor := scan.cursor.advance length }

/-- Puts a token in front of all but the first waiting ones. -/
def insert (scan : Scan) (position : Nat) (token : Token) : Scan :=
  { scan with waiting := scan.waiting.take position ++ token :: scan.waiting.drop position }

/-- What lacked a colon where it had to be a key is an error. -/
def missingColon (scan : Scan) (key : PossibleKey) : Problem :=
  scan.cursor.problem "could not find expected ':'" (some ("while scanning a simple key", key.place))

/-- Gives up what may be a key in the innermost collection. -/
def dropKey (scan : Scan) : Scanned :=
  match scan.key with
  | some key =>
    if key.required then .error (scan.missingColon key) else .ok { scan with key := none }
  | none => .ok scan

/-- Notes that a key may begin here. -/
def saveKey (scan : Scan) : Scanned := do
  if ¬scan.keyAllowed then return scan
  let required := ¬scan.inFlow ∧ scan.columns.head? = some scan.cursor.place.column
  let scan ← scan.dropKey
  return { scan with
    key := some ⟨scan.cursor.place, scan.taken + scan.waiting.length, required⟩ }

/-- A key ends on its line and takes no more than 1024 characters. -/
def isStale (scan : Scan) (key : PossibleKey) : Bool :=
  key.place.line < scan.cursor.place.line || key.place.column + 1024 < scan.cursor.place.column

/-- Gives up what can no longer be a key. -/
def dropStaleKeys (scan : Scan) : Scanned :=
  match (scan.key :: scan.outerKeys).reduceOption.find? fun key => scan.isStale key && key.required with
  | some key => .error (scan.missingColon key)
  | none =>
    let fresh := Option.filter fun key => ¬scan.isStale key
    .ok { scan with key := fresh scan.key, outerKeys := scan.outerKeys.map fresh }

/-- Opens a block at the column of a place, unless one is open there. Its token goes in front of all but
the first waiting ones. -/
def openBlock (scan : Scan) (kind : TokenKind) (place : Place) (position : Nat) : Scan :=
  if scan.inFlow || scan.columns.head?.any (place.column ≤ ·) then scan
  else { scan.insert position ⟨kind, place⟩ with columns := place.column :: scan.columns }

/-- Closes the blocks whose columns are to go. -/
def closeBlocks (scan : Scan) (goes : Nat → Bool) : Scan :=
  if scan.inFlow then scan
  else
    let closed := scan.columns.takeWhile goes
    { scan with
      waiting := scan.waiting ++ closed.map fun _ => ⟨.blockEnd, scan.cursor.place⟩
      columns := scan.columns.drop closed.length }

/-- Closes all blocks, for what stands outside of documents. -/
def leave (scan : Scan) : Scanned := do
  let scan ← (scan.closeBlocks fun _ => true).dropKey
  return { scan with keyAllowed := false }

/-- Passes over blanks, comments and line breaks. Where a key may begin in block style, a tab is not
passed over. -/
def skipGap (scan : Scan) : (fuel : Nat) → Scan
  | 0 => scan
  | fuel + 1 =>
    let tabs := scan.inFlow || ¬scan.keyAllowed
    let blank (character : Char) : Bool := character = ' ' || (tabs && character = '\t')
    let cursor := (scan.cursor.skipWhile blank).skipComment
    if cursor.rest.head?.any isBreak then
      { scan with cursor := cursor.next, keyAllowed := scan.keyAllowed || ¬scan.inFlow }.skipGap fuel
    else { scan with cursor := cursor }

end Scan

end NicFlow.Yaml
