import NicFlow.Json.Basic
import NicFlow.Text.Split

/-! JSON text as a document that stands as far as the text can be read. What is wrong with a number or
a string, and where the text breaks off, is kept in its place in the document, so that a reader meets
the errors in the order in which it visits the document. -/

namespace NicFlow

inductive SyntaxError where
  | endOfValue
  | endOfList
  | endOfObject
  | endOfString
  | expectedColon
  | expectedListCommaOrEnd
  | expectedObjectCommaOrEnd
  | expectedIdent
  | expectedValue
  | invalidEscape
  | invalidNumber
  | numberOutOfRange
  | loneSurrogate
  | unexpectedEndOfHexEscape
  | controlCharacter
  | keyMustBeString
  | trailingComma
  | trailingCharacters
deriving DecidableEq, Repr

def SyntaxError.message : SyntaxError → String
  | .endOfValue => "EOF while parsing a value"
  | .endOfList => "EOF while parsing a list"
  | .endOfObject => "EOF while parsing an object"
  | .endOfString => "EOF while parsing a string"
  | .expectedColon => "expected `:`"
  | .expectedListCommaOrEnd => "expected `,` or `]`"
  | .expectedObjectCommaOrEnd => "expected `,` or `\x7d`"
  | .expectedIdent => "expected ident"
  | .expectedValue => "expected value"
  | .invalidEscape => "invalid escape"
  | .invalidNumber => "invalid number"
  | .numberOutOfRange => "number out of range"
  | .loneSurrogate => "lone leading surrogate in hex escape"
  | .unexpectedEndOfHexEscape => "unexpected end of hex escape"
  | .controlCharacter => "control character (\\u0000-\\u001F) found while parsing a string"
  | .keyMustBeString => "key must be a string"
  | .trailingComma => "trailing comma"
  | .trailingCharacters => "trailing characters"

/-- Why a text cannot be read on: as reported by a reader that wants what comes next, by one that
only passes over it, and by one that has all it wants and expects the end. -/
structure Fault where
  wanted : SyntaxError
  passed : SyntaxError
  closed : SyntaxError

namespace Fault

def always (error : SyntaxError) : Fault := ⟨error, error, error⟩

end Fault

/-- A document read from JSON text. -/
inductive TextDocument where
  | null
  | bool (value : Bool)
  | number (value : Except SyntaxError Number)
  | string (value : Except SyntaxError String)
  | array (elements : List TextDocument) (fault : Option Fault)
  | object (fields : List (Except SyntaxError String × TextDocument)) (fault : Option Fault)
  | broken (fault : Fault)

namespace TextDocument

def isBlank (character : Char) : Bool :=
  character = ' ' ∨ character = '\n' ∨ character = '\t' ∨ character = '\r'

/-- Decimal digits gathered into a significand of 64 bits. -/
structure Significand where
  value : Nat
  /-- The power of ten that the dropped or fractional digits stand for. -/
  exponent : Int
  full : Bool

def Significand.empty : Significand := ⟨0, 0, false⟩

/-- Adds a digit before the point; once the significand is full, digits only count. -/
def Significand.pushWhole (significand : Significand) (digit : Char) : Significand :=
  let next := significand.value * 10 + (digit.toNat - 48)
  if significand.full ∨ next ≥ 0x10000000000000000 then
    { significand with exponent := significand.exponent + 1, full := true }
  else { significand with value := next }

/-- Adds a digit after the point; once the significand is full, digits are dropped. -/
def Significand.pushFraction (significand : Significand) (digit : Char) : Significand :=
  let next := significand.value * 10 + (digit.toNat - 48)
  if significand.full ∨ next ≥ 0x10000000000000000 then { significand with full := true }
  else { significand with value := next, exponent := significand.exponent - 1 }

def signed (negative : Bool) (value : Double) : Number :=
  .double (if negative then value.negate else value)

/-- The number of a literal without point and exponent. An integer outside the 64 bit ranges is a
double, and so is a negative zero. -/
def wholeNumber (negative : Bool) (significand : Significand) : Except SyntaxError Number :=
  if significand.full then
    match Double.scaled significand.value significand.exponent with
    | some value => .ok (signed negative value)
    | none => .error .numberOutOfRange
  else if ¬negative then .ok (.integer significand.value)
  else if significand.value = 0 ∨ significand.value > 0x8000000000000000 then
    .ok (signed true (Double.ofNat significand.value))
  else .ok (.integer (-significand.value))

/-- The number of a literal with a point or an exponent. -/
def fractionalNumber (negative : Bool) (significand : Significand) (exponent : Int) :
    Except SyntaxError Number :=
  match Double.scaled significand.value (significand.exponent + exponent) with
  | some value => .ok (signed negative value)
  | none => .error .numberOutOfRange

/-- What a scan found: a document and the text after it, or nothing after it if it broke off. -/
abbrev Scanned := TextDocument × Option (List Char)

def brokenNumber (wanted : SyntaxError) : Scanned :=
  (.broken ⟨wanted, .invalidNumber, wanted⟩, none)

/-- The error of a reader that needs a digit: the text ends, or something else stands there. -/
def missingDigit : List Char → Scanned
  | [] => brokenNumber .endOfValue
  | _ => brokenNumber .invalidNumber

def scanExponent (negative : Bool) (significand : Significand) (text : List Char) : Scanned :=
  let (minus, text) :=
    match text with
    | '+' :: rest => (false, rest)
    | '-' :: rest => (true, rest)
    | _ => (false, text)
  let digits := text.takeWhile Char.isDigit
  if digits.isEmpty then missingDigit text
  else
    let size : Nat := digits.foldl (fun size digit => size * 10 + (digit.toNat - 48)) 0
    let exponent : Int := if minus then -(size : Int) else size
    (.number (fractionalNumber negative significand exponent), some (text.drop digits.length))

def scanFraction (negative : Bool) (significand : Significand) (text : List Char) : Scanned :=
  let digits := text.takeWhile Char.isDigit
  let rest := text.drop digits.length
  if digits.isEmpty then missingDigit text
  else
    let significand := digits.foldl
      (fun significand digit => significand.pushFraction digit) { significand with full := false }
    match rest with
    | 'e' :: rest | 'E' :: rest => scanExponent negative significand rest
    | _ => (.number (fractionalNumber negative significand 0), some rest)

/-- Scans a number whose sign has been taken. -/
def scanNumber (negative : Bool) (text : List Char) : Scanned :=
  let digits := text.takeWhile Char.isDigit
  let rest := text.drop digits.length
  match digits with
  | [] => missingDigit text
  | '0' :: _ :: _ => brokenNumber .invalidNumber
  | _ =>
    let significand := digits.foldl Significand.pushWhole Significand.empty
    match rest with
    | '.' :: rest => scanFraction negative significand rest
    | 'e' :: rest | 'E' :: rest => scanExponent negative significand rest
    | _ => (.number (wholeNumber negative significand), some rest)

/-- The four hexadecimal digits of an escape and the text after them. -/
def scanHex (text : List Char) : Except SyntaxError (Nat × List Char) :=
  let digits := text.take 4
  if (String.ofList digits).utf8ByteSize < 4 then .error .endOfString
  else
    match digits.mapM Text.hexValue? with
    | some [first, second, third, fourth] =>
      .ok (((first * 16 + second) * 16 + third) * 16 + fourth, text.drop 4)
    | _ => .error .invalidEscape

def isLeading (unit : Nat) : Bool := 0xD800 ≤ unit ∧ unit < 0xDC00

def isTrailing (unit : Nat) : Bool := 0xDC00 ≤ unit ∧ unit < 0xE000

/-- The second half of a pair of units after the first one. -/
def scanTrailing : List Char → Except SyntaxError (Nat × List Char)
  | [] | ['\\'] => .error .endOfString
  | '\\' :: 'u' :: rest =>
    match scanHex rest with
    | .error error => .error error
    | .ok (unit, rest) => if isTrailing unit then .ok (unit, rest) else .error .loneSurrogate
  | _ => .error .unexpectedEndOfHexEscape

/-- The outcome of scanning a string: what a reader gets, and where the text goes on for one that
passes over it. -/
structure ScannedString where
  value : Except SyntaxError String
  rest : Except SyntaxError (List Char)

/-- Scans a string after its opening quote. `problem` is the first thing wrong with its value. -/
def scanString (problem : Option SyntaxError) (done : List Char) :
    (fuel : Nat) → List Char → ScannedString
  | 0, _ | _, [] => stop problem .endOfString
  | _ + 1, '"' :: rest =>
    ⟨match problem with
      | some error => .error error
      | none => .ok (String.ofList done.reverse), .ok rest⟩
  | fuel + 1, '\\' :: rest =>
    match rest with
    | [] => stop problem .endOfString
    | 'u' :: rest =>
      match scanHex rest with
      | .error error => stop problem error
      | .ok (unit, rest) =>
        if isTrailing unit then scanString (problem <|> some .loneSurrogate) done fuel rest
        else if isLeading unit then
          match scanTrailing rest with
          | .error error => scanString (problem <|> some error) done fuel rest
          | .ok (second, rest) =>
            let code := 0x10000 + (unit - 0xD800) * 0x400 + (second - 0xDC00)
            scanString problem (Char.ofNat code :: done) fuel rest
        else scanString problem (Char.ofNat unit :: done) fuel rest
    | escape :: rest =>
      let push (character : Char) := scanString problem (character :: done) fuel rest
      match escape with
      | '"' => push '"'
      | '\\' => push '\\'
      | '/' => push '/'
      | 'b' => push (Char.ofNat 8)
      | 'f' => push (Char.ofNat 12)
      | 'n' => push '\n'
      | 'r' => push '\r'
      | 't' => push '\t'
      | _ => stop problem .invalidEscape
  | fuel + 1, character :: rest =>
    if character.toNat < 0x20 then stop problem .controlCharacter
    else scanString problem (character :: done) fuel rest
where
  stop (problem : Option SyntaxError) (error : SyntaxError) : ScannedString :=
    ⟨.error (problem.getD error), .error error⟩

/-- The rest of a word such as `null` after its first letter. -/
def scanWord (value : TextDocument) : List Char → List Char → Scanned
  | [], rest => (value, some rest)
  | _ :: _, [] => (.broken (.always .endOfValue), none)
  | expected :: word, character :: rest =>
    if character = expected then scanWord value word rest
    else (.broken (.always .expectedIdent), none)

/-- What stands before an element of a list or a field of an object. -/
inductive Lead where
  | finished (rest : List Char)
  | next (rest : List Char)
  | failed (fault : Fault)

def elementLead (first : Bool) (text : List Char) : Lead :=
  match text.dropWhile isBlank with
  | [] => .failed (.always .endOfList)
  | ']' :: rest => .finished rest
  | character :: rest =>
    if first then .next (character :: rest)
    else if character = ',' then
      match rest.dropWhile isBlank with
      | [] => .failed ⟨.endOfValue, .endOfValue, .trailingCharacters⟩
      | ']' :: _ => .failed ⟨.trailingComma, .expectedValue, .trailingComma⟩
      | rest => .next rest
    else .failed ⟨.expectedListCommaOrEnd, .expectedListCommaOrEnd, .trailingCharacters⟩

/-- `next` holds the text after the opening quote of the key. -/
def fieldLead (first : Bool) (text : List Char) : Lead :=
  match text.dropWhile isBlank with
  | [] => .failed (.always .endOfObject)
  | '\x7d' :: rest => .finished rest
  | character :: rest =>
    if first then
      if character = '"' then .next rest else .failed (.always .keyMustBeString)
    else if character = ',' then
      match rest.dropWhile isBlank with
      | [] => .failed ⟨.endOfValue, .endOfObject, .trailingCharacters⟩
      | '"' :: rest => .next rest
      | '\x7d' :: _ => .failed ⟨.trailingComma, .keyMustBeString, .trailingComma⟩
      | _ => .failed (.always .keyMustBeString)
    else .failed (.always .expectedObjectCommaOrEnd)

mutual

/-- Scans a value. The fuel bounds the nesting and the number of elements; the length of the text
is enough. -/
def scanValue : (fuel : Nat) → List Char → Scanned
  | 0, _ => (.broken (.always .endOfValue), none)
  | fuel + 1, text =>
    match text.dropWhile isBlank with
    | [] => (.broken (.always .endOfValue), none)
    | 'n' :: rest => scanWord .null ['u', 'l', 'l'] rest
    | 't' :: rest => scanWord (.bool true) ['r', 'u', 'e'] rest
    | 'f' :: rest => scanWord (.bool false) ['a', 'l', 's', 'e'] rest
    | '-' :: rest => scanNumber true rest
    | '"' :: rest =>
      match scanString none [] (rest.length + 1) rest with
      | ⟨value, .ok rest⟩ => (.string value, some rest)
      | ⟨.error wanted, .error passed⟩ => (.broken ⟨wanted, passed, wanted⟩, none)
      | ⟨.ok _, .error passed⟩ => (.broken (.always passed), none)
    | '[' :: rest =>
      let (elements, fault, rest) := scanElements fuel true rest
      (.array elements fault, rest)
    | '\x7b' :: rest =>
      let (fields, fault, rest) := scanFields fuel true rest
      (.object fields fault, rest)
    | character :: rest =>
      if character.isDigit then scanNumber false (character :: rest)
      else (.broken (.always .expectedValue), none)

def scanElements : (fuel : Nat) → (first : Bool) → List Char →
    List TextDocument × Option Fault × Option (List Char)
  | 0, _, _ => ([], some (.always .endOfList), none)
  | fuel + 1, first, text =>
    match elementLead first text with
    | .failed fault => ([], some fault, none)
    | .finished rest => ([], none, some rest)
    | .next rest =>
      match scanValue fuel rest with
      | (element, none) => ([element], none, none)
      | (element, some rest) =>
        let (elements, fault, rest) := scanElements fuel false rest
        (element :: elements, fault, rest)

def scanFields : (fuel : Nat) → (first : Bool) → List Char →
    List (Except SyntaxError String × TextDocument) × Option Fault × Option (List Char)
  | 0, _, _ => ([], some (.always .endOfObject), none)
  | fuel + 1, first, text =>
    match fieldLead first text with
    | .failed fault => ([], some fault, none)
    | .finished rest => ([], none, some rest)
    | .next rest =>
      match scanString none [] (rest.length + 1) rest with
      | ⟨.error wanted, .error passed⟩ => ([], some ⟨wanted, passed, wanted⟩, none)
      | ⟨.ok _, .error passed⟩ => ([], some (.always passed), none)
      | ⟨key, .ok rest⟩ =>
        match rest.dropWhile isBlank with
        | [] => ([(key, .broken (.always .endOfObject))], none, none)
        | ':' :: rest =>
          match scanValue fuel rest with
          | (value, none) => ([(key, value)], none, none)
          | (value, some rest) =>
            let (fields, fault, rest) := scanFields fuel false rest
            ((key, value) :: fields, fault, rest)
        | _ => ([(key, .broken (.always .expectedColon))], none, none)

end

mutual

/-- The first thing wrong for a reader that only passes over the document. -/
def passedFault? : TextDocument → Option SyntaxError
  | .array elements fault =>
    passedFaultInElements? elements <|> fault.map Fault.passed
  | .object fields fault => passedFaultInFields? fields <|> fault.map Fault.passed
  | .broken fault => some fault.passed
  | _ => none

def passedFaultInElements? : List TextDocument → Option SyntaxError
  | [] => none
  | element :: rest => element.passedFault? <|> passedFaultInElements? rest

def passedFaultInFields? : List (Except SyntaxError String × TextDocument) → Option SyntaxError
  | [] => none
  | (_, value) :: rest => value.passedFault? <|> passedFaultInFields? rest

end

mutual

/-- The value of a document, or the first thing wrong with it. -/
def toJson : TextDocument → Except SyntaxError Json
  | .null => .ok .null
  | .bool value => .ok (.bool value)
  | .number value => value.map .number
  | .string value => value.map .string
  | .array elements fault => do
    let elements ← elementsToJson elements
    match fault with
    | some fault => .error fault.wanted
    | none => .ok (.array elements)
  | .object fields fault => do
    let fields ← fieldsToJson fields
    match fault with
    | some fault => .error fault.wanted
    | none => .ok (.ofFields fields)
  | .broken fault => .error fault.wanted

def elementsToJson : List TextDocument → Except SyntaxError (List Json)
  | [] => .ok []
  | element :: rest => do
    let element ← element.toJson
    let rest ← elementsToJson rest
    return element :: rest

def fieldsToJson : List (Except SyntaxError String × TextDocument) →
    Except SyntaxError (List (String × Json))
  | [] => .ok []
  | (key, value) :: rest => do
    let key ← key
    let value ← value.toJson
    let rest ← fieldsToJson rest
    return (key, value) :: rest

end

/-- The document of a whole text, with what is left after it. -/
def ofText (text : String) : Scanned := scanValue (text.length + 1) text.toList

/-- What is wrong with the text after a complete document. -/
def trailing? : Option (List Char) → Option SyntaxError
  | none => none
  | some rest => if (rest.dropWhile isBlank).isEmpty then none else some .trailingCharacters

end TextDocument

/-- Reads a JSON text that holds one value. -/
def Json.parse (text : String) : Except SyntaxError Json := do
  let (document, rest) := TextDocument.ofText text
  let value ← document.toJson
  match TextDocument.trailing? rest with
  | some error => .error error
  | none => .ok value

end NicFlow
