import NicFlow.Yaml.Node.Reading
import NicFlow.Yaml.Site
import NicFlow.Yaml.Token.Reading

/-! Reading a value from a YAML text: block and flow collections, scalars of all styles, comments, and marks
of documents. The text holds one document; anchors, aliases and tags are not read. -/

namespace NicFlow.Yaml

/-- Line breaks as one character each. -/
def unifyBreaks : List Char → List Char
  | [] => []
  | '\r' :: '\n' :: rest => '\n' :: unifyBreaks rest
  | '\r' :: rest => '\n' :: unifyBreaks rest
  | '\u0085' :: rest => '\n' :: unifyBreaks rest
  | character :: rest => character :: unifyBreaks rest

/-- Of the control characters a text holds tabs and line breaks only. -/
def isAllowed (character : Char) : Bool :=
  let code := character.toNat
  character ∈ ['\t', '\n', '\r', '\u0085'] ∨ (0x20 ≤ code ∧ code ≤ 0x7E) ∨
    (0xA0 ≤ code ∧ code ≠ 0xFFFE ∧ code ≠ 0xFFFF)

/-- The bytes in front of the first character that is not allowed. -/
def refusedAt? (offset : Nat) : List Char → Option Nat
  | [] => none
  | character :: rest =>
    if isAllowed character then refusedAt? (offset + character.utf8Size) rest else some offset

def refusal (offset : Nat) : String :=
  "control characters are not allowed" ++ (if offset = 0 then "" else s!" at position {offset}")

/-- What a stream has wrong outside of its first document. -/
def Stream.check (stream : Stream) : Read Unit :=
  match stream.problem with
  | some problem => .error (.unreadable problem.message)
  | none =>
    if stream.more then
      .error (.unreadable
        "deserializing from YAML containing more than one document is not supported")
    else .ok ()

/-- Reads the value of a text. What is wrong in a document is found in the order of its visit, and then
what is wrong behind it. -/
def read {α : Type} (read : Site → Read α) (text : String) : Read α :=
  match refusedAt? 0 text.toList with
  | some offset => .error (.unreadable (refusal offset))
  | none => do
    let stream := Stream.ofTokens (Token.all (unifyBreaks text.toList))
    let value ← read (.root stream.root)
    stream.check
    return value

end NicFlow.Yaml
