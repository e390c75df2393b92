import NicFlow.Text.Split

/-! Addresses of a flow service. An address is a local socket or a URI: a path, an authority, or a
scheme followed by an authority and a path. Only the form is checked. -/

namespace NicFlow.Endpoint

def isAsciiLetter (character : Char) : Bool :=
  ('a' ≤ character ∧ character ≤ 'z') ∨ ('A' ≤ character ∧ character ≤ 'Z')

def isSchemeCharacter (character : Char) : Bool :=
  isAsciiLetter character ∨ character.isDigit ∨ character ∈ ['+', '-', '.', '~']

/-- The characters that a URI is made of, without the percent sign. -/
def isUriCharacter (character : Char) : Bool :=
  isAsciiLetter character ∨ character.isDigit ∨
    character ∈ ['!', '#', '$', '&', '\'', '(', ')', '*', '+', ',', '-', '.', '/', ':', ';', '=', '?',
      '@', '[', ']', '_', '~']

/-- A path may hold more characters than a URI, among them all that are not ASCII. -/
def isPathCharacter (character : Char) : Bool :=
  (isUriCharacter character ∧ character ∉ ['#', '?']) ∨
    character ∈ ['%', '\\', '^', '|', '"', '\x7b', '\x7d'] ∨ 0x7F ≤ character.toNat

def isQueryCharacter (character : Char) : Bool :=
  (isPathCharacter character ∧ character ≠ '"') ∨ character ∈ ['?', '`']

/-- A path with its query; a fragment is not looked at. -/
def isPathAndQuery (text : List Char) : Bool :=
  match text.dropWhile isPathCharacter with
  | [] => true
  | '#' :: _ => true
  | '?' :: rest =>
    match rest.dropWhile isQueryCharacter with
    | [] => true
    | character :: _ => character = '#'
  | _ => false

/-- What has been seen of an authority. -/
structure AuthorityState where
  /-- Colons after the last bracket or user. -/
  colons : Nat
  opened : Bool
  closed : Bool
  /-- A percent sign after the last bracket or user. -/
  percent : Bool
  /-- The last character was the sign that ends a user. -/
  afterUser : Bool

def AuthorityState.start : AuthorityState := ⟨0, false, false, false, false⟩

/-- Reads one character of an authority. -/
def AuthorityState.push (state : AuthorityState) (character : Char) : Option AuthorityState :=
  let state := { state with afterUser := false }
  if character = ':' then
    if state.colons ≥ 8 then none else some { state with colons := state.colons + 1 }
  else if character = '[' then
    if state.percent ∨ state.opened then none else some { state with opened := true }
  else if character = ']' then
    if ¬state.opened ∨ state.closed then none
    else some { state with closed := true, colons := 0, percent := false }
  else if character = '@' then some { state with colons := 0, percent := false, afterUser := true }
  else if character = '%' then some { state with percent := true }
  else if isUriCharacter character then some state
  else none

def AuthorityState.isComplete (state : AuthorityState) : Bool :=
  state.opened = state.closed ∧ state.colons ≤ 1 ∧ ¬state.afterUser ∧ ¬state.percent

def isAuthority (text : List Char) : Bool :=
  match text.foldlM AuthorityState.push AuthorityState.start with
  | some state => state.isComplete
  | none => false

/-- The text before a path, query or fragment, and the rest. -/
def splitAuthority (text : List Char) : List Char × List Char :=
  text.span fun character => character ∉ ['/', '?', '#']

/-- The scheme of an address and what follows its separator. -/
def splitScheme (text : List Char) : Option (List Char × List Char) :=
  match text.span isSchemeCharacter with
  | (scheme, ':' :: '/' :: '/' :: rest) => some (scheme, rest)
  | _ => none

def isUri (text : List Char) : Bool :=
  match text with
  | [] => false
  | ['*'] => true
  | '/' :: _ => isPathAndQuery text
  | _ =>
    match splitScheme text with
    | none => isAuthority text ∧ (splitAuthority text).2 = []
    | some (scheme, rest) =>
      let (authority, path) := splitAuthority rest
      scheme.length ≤ 64 ∧ authority ≠ [] ∧ isAuthority authority ∧ isPathAndQuery path

/-- The longest address in bytes. -/
def maxLength : Nat := 65534

/-- Whether a flow service can have the address. -/
def isValid (address : String) : Bool :=
  match address.toList with
  | 'u' :: 'n' :: 'i' :: 'x' :: ':' :: _ => true
  | text => address.utf8ByteSize ≤ maxLength ∧ isUri text

end NicFlow.Endpoint
