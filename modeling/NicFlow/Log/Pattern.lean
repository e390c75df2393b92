import NicFlow.Text.Numeric
import NicFlow.Text.Split

/-! Which texts are patterns of field values. Patterns are regular expressions without counted
repetition; shorthand classes, word boundaries and letters of either case have no meaning beyond ASCII,
so they are admitted only where a pattern is limited to ASCII. -/

namespace NicFlow.Log

/-- How a part of a pattern is read, as its flags say. -/
structure PatternOptions where
  /-- Whether characters beyond ASCII can match. -/
  unicode : Bool := true
  ignoresCase : Bool := false
  /-- Whether blanks and comments are passed over. -/
  ignoresBlanks : Bool := false
deriving DecidableEq, Repr

/-- What an escape or a single character stands for. -/
inductive PatternAtom where
  | character (value : Char)
  /-- A character given by two hexadecimal digits. -/
  | byte (value : Char)
  | digitsBlanksOrWords (negated : Bool)
  | textEnd
  | wordBoundary

namespace PatternOptions

/-- The text after blanks and after comments, which go on to the end of their line. -/
def skipFrom (options : PatternOptions) : (inComment : Bool) → List Char → List Char
  | _, [] => []
  | true, character :: rest => options.skipFrom (character ≠ '\n') rest
  | false, character :: rest =>
    if ¬options.ignoresBlanks then character :: rest
    else if Text.isBlank character then options.skipFrom false rest
    else if character = '#' then options.skipFrom true rest
    else character :: rest

def skip (options : PatternOptions) (text : List Char) : List Char := options.skipFrom false text

/-- Whether an atom may stand outside brackets. -/
def admits (options : PatternOptions) : PatternAtom → Bool
  | .character _ => ¬(options.unicode ∧ options.ignoresCase)
  | .byte value => if options.unicode then ¬options.ignoresCase else value.toNat < 0x80
  | .digitsBlanksOrWords negated => ¬options.unicode ∧ ¬negated
  | .textEnd => true
  | .wordBoundary => ¬options.unicode

/-- Whether a character may stand in brackets. -/
def admitsMember (options : PatternOptions) (value : Char) : Bool :=
  if options.unicode then ¬options.ignoresCase else value.toNat < 0x80

/-- The character of hexadecimal digits and the text after them. -/
def readHex (options : PatternOptions) : (count value : Nat) → List Char → Option (Char × List Char)
  | 0, value, rest =>
    if value < 0xD800 ∨ (0xDFFF < value ∧ value < 0x110000) then some (Char.ofNat value, rest)
    else none
  | count + 1, value, text =>
    match options.skip text with
    | [] => none
    | digit :: rest =>
      (Text.hexValue? digit).bind fun number => options.readHex count (value * 16 + number) rest

/-- What an escape stands for, with the text after it. -/
def readEscape (options : PatternOptions) : List Char → Option (PatternAtom × List Char)
  | [] => none
  | escape :: rest =>
    if escape = 'x' then
      (options.readHex 2 0 rest).map fun (value, rest) => (.byte value, rest)
    else if escape = 'u' ∨ escape = 'U' then
      (options.readHex (if escape = 'u' then 4 else 8) 0 rest).map fun (value, rest) =>
        (.character value, rest)
    else if escape ∈ ['d', 's', 'w'] then some (.digitsBlanksOrWords false, rest)
    else if escape ∈ ['D', 'S', 'W'] then some (.digitsBlanksOrWords true, rest)
    else if escape ∈ ['A', 'z'] then some (.textEnd, rest)
    else if escape ∈ ['b', 'B', '<', '>'] then some (.wordBoundary, rest)
    else if escape ∈ ['a', 'f', 'n', 'r', 't', 'v'] ∨
        (escape.toNat < 0x80 ∧ ¬escape.isAlphanum) then some (.character escape, rest)
    else none

/-- One member of a class, with the text after it. -/
def readMember (options : PatternOptions) : List Char → Option (PatternAtom × List Char)
  | [] => none
  | '\\' :: rest => options.readEscape rest
  | character :: rest => some (.character character, rest)

/-- The text after a member of a class, or after two of them in order with a hyphen in between. -/
def passMembers (options : PatternOptions) (text : List Char) : Option (List Char) := do
  let (first, rest) ← options.readMember text
  let single (rest : List Char) : Option (List Char) :=
    match first with
    | .character value | .byte value => if options.admitsMember value then some rest else none
    | .digitsBlanksOrWords negated =>
      if options.admits (.digitsBlanksOrWords negated) then some rest else none
    | _ => none
  match options.skip rest with
  | '-' :: after =>
    match options.skip after with
    | [] => none
    | ']' :: _ | '-' :: _ => single ('-' :: after)
    | after =>
      let (last, rest) ← options.readMember after
      match first, last with
      | .character low, .character high | .character low, .byte high
      | .byte low, .character high | .byte low, .byte high =>
        if low ≤ high ∧ options.admitsMember low ∧ options.admitsMember high then some rest else none
      | _, _ => none
  | rest => single rest

/-- Hyphens at the start of a class are members of it. -/
def passHyphens (options : PatternOptions) : (fuel : Nat) → (any : Bool) → List Char → Bool × List Char
  | 0, any, text => (any, text)
  | fuel + 1, any, text =>
    match options.skip text with
    | '-' :: rest => options.passHyphens fuel true rest
    | text => (any, text)

/-- The text after the start of a class: a caret, hyphens, and, before all other members, a closing
bracket. -/
def openClass (options : PatternOptions) (text : List Char) : Option (List Char) :=
  let (negated, text) := match options.skip text with
    | '^' :: rest => (true, rest)
    | text => (false, text)
  let (hyphens, text) := options.passHyphens (text.length + 1) false text
  let (members, text) := match hyphens, text with
    | false, ']' :: rest => (true, rest)
    | _, _ => (hyphens, text)
  if (negated ∧ ¬options.unicode) ∨ (members ∧ options.unicode ∧ options.ignoresCase) then none
  else some text

def classNames : List String :=
  ["alnum", "alpha", "ascii", "blank", "cntrl", "digit", "graph", "lower", "print", "punct", "space",
    "upper", "word", "xdigit"]

/-- A named class after its bracket: whether it is negated, and the text after it. -/
def readNamedClass : List Char → Option (Bool × List Char)
  | ':' :: rest =>
    let (negated, rest) := match rest with
      | '^' :: rest => (true, rest)
      | _ => (false, rest)
    match rest.span fun character => character ≠ ':' with
    | (name, ':' :: ']' :: rest) =>
      if String.ofList name ∈ classNames then some (negated, rest) else none
    | _ => none
  | _ => none

/-- The text after a class, whose first bracket is open. `inner` counts the classes that are open
inside it. Every step takes a character, so the length of the text is enough fuel. -/
def passClass (options : PatternOptions) : (fuel inner : Nat) → List Char → Option (List Char)
  | 0, _, _ => none
  | fuel + 1, inner, text =>
    match options.skip text with
    | [] => none
    | '[' :: rest =>
      match readNamedClass rest with
      | some (negated, rest) =>
        if (if options.unicode then options.ignoresCase else negated) then none
        else options.passClass fuel inner rest
      | none => (options.openClass rest).bind (options.passClass fuel (inner + 1))
    | ']' :: rest => if inner = 0 then some rest else options.passClass fuel (inner - 1) rest
    | '&' :: '&' :: rest | '-' :: '-' :: rest | '~' :: '~' :: rest =>
      options.passClass fuel inner rest
    | text => (options.passMembers text).bind (options.passClass fuel inner)

/-- The options after flags; those that follow a hyphen are taken back. -/
def withFlags (options : PatternOptions) (flags : List Char) : PatternOptions :=
  let value (flag : Char) (old : Bool) : Bool :=
    match flags.span fun character => character ≠ '-' with
    | (set, unset) => if flag ∈ set then true else if flag ∈ unset then false else old
  { unicode := value 'u' options.unicode
    ignoresCase := value 'i' options.ignoresCase
    ignoresBlanks := value 'x' options.ignoresBlanks }

end PatternOptions

/-- Flags, each of them at most once, with something after a hyphen. -/
def areFlags (flags : List Char) : Bool :=
  flags.all (· ∈ ['i', 'm', 's', 'U', 'u', 'R', 'x', '-']) ∧ flags.Nodup ∧
    flags.getLast? ≠ some '-'

/-- What has been read of a pattern. -/
structure PatternState where
  options : PatternOptions := {}
  /-- The options outside each open group, the innermost first. -/
  outer : List PatternOptions := []
  /-- The names of groups. -/
  names : List (List Char) := []
  /-- Whether there is something that can be repeated. -/
  repeatable : Bool := false

namespace PatternState

/-- The state after something that can be repeated. -/
def afterAtom (state : PatternState) : PatternState := { state with repeatable := true }

def inGroup (state : PatternState) (options : PatternOptions) : PatternState :=
  { state with options := options, outer := state.options :: state.outer, repeatable := false }

/-- A letter, then letters, numbers and a few marks. -/
def isGroupName : List Char → Bool
  | [] => false
  | first :: rest =>
    (first = '_' ∨ Text.isAlphabetic first) ∧
      rest.all fun character => character ∈ ['_', '.', '[', ']'] ∨ Text.isAlphanumeric character

/-- A group with a name, after the opening angle. -/
def openNamed (state : PatternState) (text : List Char) : Option (PatternState × List Char) :=
  match text.span fun character => character ≠ '>' with
  | (name, '>' :: rest) =>
    if isGroupName name ∧ state.names.all (· ≠ name) then
      some ({ state.inGroup state.options with names := name :: state.names }, rest)
    else none
  | _ => none

/-- A group, or flags for the rest of the group they stand in, after the opening parenthesis. -/
def openGroup (state : PatternState) (text : List Char) : Option (PatternState × List Char) :=
  match state.options.skip text with
  | '?' :: 'P' :: '<' :: rest | '?' :: '<' :: rest => state.openNamed rest
  | '?' :: rest =>
    match rest.span fun character => character ≠ ':' ∧ character ≠ ')' with
    | (flags, ending :: rest) =>
      let options := state.options.withFlags flags
      if ¬areFlags flags then none
      else if ending = ':' then some (state.inGroup options, rest)
      else if flags = [] then none
      else some ({ state with options := options, repeatable := false }, rest)
    | _ => none
  | rest => some (state.inGroup state.options, rest)

/-- Whether a pattern can go on with a text and end after it. Every step takes a character, so the
length of the text is enough fuel. -/
def accepts : (fuel : Nat) → PatternState → List Char → Bool
  | 0, _, _ => false
  | fuel + 1, state, text =>
    match state.options.skip text with
    | [] => state.outer = []
    | '(' :: rest =>
      match state.openGroup rest with
      | some (state, rest) => accepts fuel state rest
      | none => false
    | ')' :: rest =>
      match state.outer with
      | [] => false
      | options :: outer =>
        accepts fuel { state with options := options, outer := outer, repeatable := true } rest
    | '|' :: rest => accepts fuel { state with repeatable := false } rest
    | '[' :: rest =>
      match (state.options.openClass rest).bind (state.options.passClass rest.length 0) with
      | some rest => accepts fuel state.afterAtom rest
      | none => false
    | '\x7b' :: _ => false
    | '\\' :: rest =>
      match state.options.readEscape rest with
      | some (atom, rest) => state.options.admits atom && accepts fuel state.afterAtom rest
      | none => false
    | character :: rest =>
      if character ∈ ['?', '*', '+'] then state.repeatable && accepts fuel state.afterAtom rest
      else if character ∈ ['^', '$'] then accepts fuel state.afterAtom rest
      else if character = '.' then state.options.unicode && accepts fuel state.afterAtom rest
      else state.options.admits (.character character) && accepts fuel state.afterAtom rest

end PatternState

/-- Whether a text is a pattern. -/
def isPattern (text : List Char) : Bool := PatternState.accepts (text.length + 1) {} text

end NicFlow.Log
