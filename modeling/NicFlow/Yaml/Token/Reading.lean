import NicFlow.Yaml.BlockScalar
import NicFlow.Yaml.PlainScalar
import NicFlow.Yaml.QuotedScalar
import NicFlow.Yaml.Token.Scan

/-! Cutting a text into tokens. Anchors, aliases and tags are no tokens. -/

namespace NicFlow.Yaml

open Text (Place)

namespace Scan

/-- A number of a version: up to nine digits. -/
def versionNumber (context : Option (String × Place)) (cursor : Cursor) :
    Except Problem (Nat × Cursor) :=
  let digits := cursor.rest.takeWhile Char.isDigit
  if digits.length > 9 then
    .error ((cursor.advance 9).problem "found extremely long version number" context)
  else
    match Text.ofDecimal? digits with
    | some number => .ok (number, cursor.advance digits.length)
    | none => .error (cursor.problem "did not find expected version number" context)

/-- The directive that begins here, which tells the version of the language. -/
def readVersion (cursor : Cursor) : Except Problem (TokenKind × Cursor) := do
  let directive := some ("while scanning a directive", cursor.place)
  let context := some ("while scanning a %YAML directive", cursor.place)
  let name := cursor.next.rest.takeWhile fun character =>
    character.isAlphanum ∨ character = '_' ∨ character = '-'
  let after := cursor.next.advance name.length
  if name.isEmpty then
    .error (after.problem "could not find expected directive name" directive)
  else if ¬atSpace after.rest then
    .error (after.problem "found unexpected non-alphabetical character" directive)
  else if name ≠ "YAML".toList then
    .error (after.problem "found unknown directive name" directive)
  else
    let (major, cursor) ← versionNumber context (after.skipWhile isBlank)
    if cursor.rest.head? ≠ some '.' then
      .error (cursor.problem "did not find expected digit or '.' character" context)
    else
      let (minor, cursor) ← versionNumber context cursor.next
      let cursor := (cursor.skipWhile isBlank).skipComment
      if cursor.rest.head?.all isBreak then return (.version major minor, cursor.next)
      else .error (cursor.problem "did not find expected comment or line break" directive)

def readDirective (scan : Scan) : Scanned := do
  let scan ← scan.leave
  let (version, next) ← readVersion scan.cursor
  return { scan.push version 0 with cursor := next }

def readDocumentMark (scan : Scan) (kind : TokenKind) : Scanned := do
  let scan ← scan.leave
  return scan.push kind 3

/-- The end of a text stands on a line of its own. -/
def readTextEnd (scan : Scan) : Scanned := do
  let place := scan.cursor.place
  let place := if place.column = 0 then place else ⟨place.line + 1, 0⟩
  let scan ← { scan with cursor := ⟨[], place⟩ }.leave
  return scan.push .textEnd 0

def readOpening (scan : Scan) (kind : TokenKind) : Scanned := do
  let scan ← scan.saveKey
  return { scan.push kind 1 with
    key := none, outerKeys := scan.key :: scan.outerKeys, keyAllowed := true }

def readClosing (scan : Scan) (kind : TokenKind) : Scanned := do
  let scan ← scan.dropKey
  return { scan.push kind 1 with
    key := scan.outerKeys.head?.getD none, outerKeys := scan.outerKeys.tail, keyAllowed := false }

def readComma (scan : Scan) : Scanned := do
  let scan ← scan.dropKey
  return { scan.push .comma 1 with keyAllowed := true }

def readDash (scan : Scan) : Scanned := do
  if ¬scan.inFlow ∧ ¬scan.keyAllowed then
    scan.fail "block sequence entries are not allowed in this context"
  let scan ← (scan.openBlock .sequenceStart scan.cursor.place scan.waiting.length).dropKey
  return { scan.push .dash 1 with keyAllowed := true }

/-- A key that is marked as such. -/
def readKey (scan : Scan) : Scanned := do
  if ¬scan.inFlow ∧ ¬scan.keyAllowed then
    scan.fail "mapping keys are not allowed in this context"
  let scan ← (scan.openBlock .mappingStart scan.cursor.place scan.waiting.length).dropKey
  return { scan.push .key 1 with keyAllowed := ¬scan.inFlow }

/-- A colon makes a key of what may be one, and begins a mapping in front of the key. -/
def readValue (scan : Scan) : Scanned :=
  match scan.key with
  | some key =>
    let position := key.position - scan.taken
    let scan := (scan.insert position ⟨.key, key.place⟩).openBlock .mappingStart key.place position
    .ok { scan.push .value 1 with key := none, keyAllowed := false }
  | none =>
    if ¬scan.inFlow ∧ ¬scan.keyAllowed then
      scan.fail "mapping values are not allowed in this context"
    else
      let scan := scan.openBlock .mappingStart scan.cursor.place scan.waiting.length
      .ok { scan.push .value 1 with keyAllowed := ¬scan.inFlow }

def scalar (plain : Bool) (text : List Char) : TokenKind := .scalar plain (String.ofList text)

def readQuoted (scan : Scan) (double : Bool) : Scanned := do
  let scan ← scan.saveKey
  let (text, next) ← QuotedScalar.read double scan.cursor
  return { scan.push (scalar false text) 0 with cursor := next, keyAllowed := false }

def readBlock (scan : Scan) (literal : Bool) : Scanned := do
  let scan ← scan.dropKey
  let (text, next) ← BlockScalar.read literal scan.least scan.cursor
  return { scan.push (scalar false text) 0 with cursor := next, keyAllowed := true }

def readPlain (scan : Scan) : Scanned := do
  let scan ← scan.saveKey
  let found ← PlainScalar.read scan.inFlow scan.least scan.cursor
  return { scan.push (scalar true found.text) 0 with
    cursor := found.next, keyAllowed := found.endsLine }

/-- Reads what begins here after a gap. -/
def readToken (scan : Scan) : Scanned :=
  let cursor := scan.cursor
  match cursor.rest with
  | [] => scan.readTextEnd
  | character :: rest =>
    let alone := scan.inFlow || atSpace rest
    if cursor.place.column = 0 ∧ character = '%' then scan.readDirective
    else if cursor.atMark '-' then scan.readDocumentMark .documentStart
    else if cursor.atMark '.' then scan.readDocumentMark .documentEnd
    else if character = '[' then scan.readOpening .openBracket
    else if character = '\x7b' then scan.readOpening .openBrace
    else if character = ']' then scan.readClosing .closeBracket
    else if character = '\x7d' then scan.readClosing .closeBrace
    else if character = ',' then scan.readComma
    else if character = '-' ∧ atSpace rest then scan.readDash
    else if character = '?' ∧ alone then scan.readKey
    else if character = ':' ∧ alone then scan.readValue
    else if character = '|' ∧ ¬scan.inFlow then scan.readBlock true
    else if character = '>' ∧ ¬scan.inFlow then scan.readBlock false
    else if character = '\'' then scan.readQuoted false
    else if character = '"' then scan.readQuoted true
    else if PlainScalar.begins scan.inFlow cursor.rest then scan.readPlain
    else
      .error (cursor.problem "found character that cannot start any token"
        (some ("while scanning for the next token", cursor.place)))

/-- Reads at least one more token. -/
def readMore (scan : Scan) : Scanned := do
  let scan ← (scan.skipGap (scan.cursor.rest.length + 1)).dropStaleKeys
  (scan.closeBlocks (scan.cursor.place.column < ·)).readToken

/-- Whether the first waiting token may begin a key. -/
def mayBeKey (scan : Scan) : Bool :=
  (scan.key :: scan.outerKeys).any fun key => key.any (·.position = scan.taken)

/-- The tokens from here on, in order; reading one more token and taking one are a step each. -/
def tokens : (fuel : Nat) → Scan → List Token
  | 0, _ => []
  | fuel + 1, scan =>
    let readOn (next : Scanned) : List Token :=
      match next with
      | .error problem => [.broken problem]
      | .ok scan => scan.tokens fuel
    match scan.waiting with
    | [] => readOn scan.readMore
    | token :: waiting =>
      match scan.dropStaleKeys with
      | .error problem => [.broken problem]
      | .ok scan =>
        if scan.mayBeKey then readOn scan.readMore
        else if token.kind = .textEnd then [token]
        else
          token :: { scan with taken := scan.taken + 1, waiting := waiting }.tokens fuel

end Scan

/-- The tokens of a text. A character makes at most one token, and four with the ends of blocks and the
beginning of a key. -/
def Token.all (text : List Char) : List Token := (Scan.start text).tokens (8 * text.length + 16)

end NicFlow.Yaml
