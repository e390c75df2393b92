import NicFlow.Text.Split

/-! Reading the words of a command line against the options and operands of a command. An option is
read when the next word shows that its value is complete, and its value is checked then. -/

namespace NicFlow.CommandLine

/-- Why a command line is not run. The last three are answers rather than errors. -/
inductive UsageError where
  | unknownArgument
  | missingArgument
  /-- A value is missing, or is not one of the possible values. -/
  | invalidValue
  /-- A value does not have the form that its option asks for. -/
  | malformedValue
  /-- A value is given to an option that takes none. -/
  | tooManyValues
  /-- An option is given twice. -/
  | conflict
  | unknownSubcommand
  | missingSubcommand
  /-- Nothing is given at all. -/
  | nothingGiven
  | help (text : String)
  | version
deriving DecidableEq, Repr

/-- What the value of an option or operand can be. -/
inductive ValueKind where
  | text
  /-- A text that is not empty. -/
  | path
  /-- A number of 64 bits. -/
  | number
  | choice (values : List String)
deriving DecidableEq, Repr

/-- The number of a text of decimal digits, with or without a plus sign. -/
def number? (text : String) : Option Nat :=
  let digits := match text.toList with
    | '+' :: rest => rest
    | text => text
  (Text.ofDecimal? digits).filter (· < 0x10000000000000000)

def ValueKind.check (value : String) : ValueKind → Except UsageError Unit
  | .text => .ok ()
  | .path => if value.isEmpty then .error .invalidValue else .ok ()
  | .number => if (number? value).isSome then .ok () else .error .malformedValue
  | .choice values => if value ∈ values then .ok () else .error .invalidValue

/-- What an option does. -/
inductive OptionKind where
  | value (kind : ValueKind)
  | flag
  /-- Answers at once instead of running the command. -/
  | answer (longAnswer shortAnswer : UsageError)

structure OptionSpec where
  name : String
  kind : OptionKind
  required : Bool
  /-- The letter by which the option can be given too. -/
  letter : Option Char

structure Operand where
  name : String
  kind : ValueKind
deriving DecidableEq, Repr

structure CommandSpec where
  options : List OptionSpec
  operands : List Operand
  subcommands : List String

/-- What has been read of the words of a command. -/
structure Reading where
  /-- The values that are complete, by the name of their option or operand. -/
  given : List (String × String)
  /-- An option or operand whose value is not checked yet, or not even read. -/
  pending : Option (String × ValueKind × Option String)
  /-- How many operands were read. -/
  position : Nat
  /-- Whether all further words are operands. -/
  operandsOnly : Bool

namespace Reading

def start : Reading := ⟨[], none, 0, false⟩

/-- Whether the next word may be the value of an option. -/
def awaitsValue (reading : Reading) : Bool :=
  match reading.pending with
  | some (_, _, none) => true
  | _ => false

/-- Adds a complete value; no option is given twice. -/
def record (reading : Reading) (name : String) (kind : ValueKind) (value : String) :
    Except UsageError Reading := do
  if (reading.given.lookup name).isSome then .error .conflict
  kind.check value
  return { reading with given := reading.given ++ [(name, value)] }

/-- Completes what is pending. -/
def settle (reading : Reading) : Except UsageError Reading :=
  match reading.pending with
  | none => .ok reading
  | some (_, _, none) => .error .invalidValue
  | some (name, kind, some value) => { reading with pending := none }.record name kind value

end Reading

namespace CommandSpec

/-- Reads an option, which may have a value attached. -/
def readOption (reading : Reading) (option : OptionSpec) (attached : Option String) (short : Bool) :
    Except UsageError Reading :=
  match option.kind, attached with
  | .value kind, some value => do (← reading.settle).record option.name kind value
  | .value kind, none => do
    return { ← reading.settle with pending := some (option.name, kind, none) }
  | .flag, none => do (← reading.settle).record option.name .text ""
  | .answer longAnswer shortAnswer, none => do
    let _ ← reading.settle
    .error (if short then shortAnswer else longAnswer)
  | _, some _ => .error .tooManyValues

def readLong (spec : CommandSpec) (reading : Reading) (text : List Char) :
    Except UsageError Reading :=
  let (name, attached) := match Text.splitFirst '=' text with
    | some (name, value) => (name, some (String.ofList value))
    | none => (text, none)
  match spec.options.find? (·.name = String.ofList name) with
  | some option => readOption reading option attached false
  | none => .error .unknownArgument

/-- Reads options given by their letters. -/
def readShort (spec : CommandSpec) (reading : Reading) : List Char → Except UsageError Reading
  | [] => .ok reading
  | letter :: rest =>
    match spec.options.find? (·.letter = some letter) with
    | some option => do
      let reading ← readOption reading option none true
      spec.readShort reading rest
    | none => .error .unknownArgument

/-- Reads a word that is neither an option nor the value of one. -/
def readOperand (spec : CommandSpec) (reading : Reading) (word : String) :
    Except UsageError Reading :=
  match spec.operands[reading.position]? with
  | some operand => do
    return { ← reading.settle with
      pending := some (operand.name, operand.kind, some word)
      position := reading.position + 1 }
  | none =>
    if reading.operandsOnly ∧ word ∈ spec.subcommands then .error .unknownArgument
    else if spec.subcommands.isEmpty then .error .unknownArgument
    else .error .unknownSubcommand

/-- Reads one word that is not a subcommand. -/
def readWord (spec : CommandSpec) (reading : Reading) (word : String) :
    Except UsageError Reading :=
  if reading.operandsOnly then spec.readOperand reading word
  else
    match word.toList with
    | ['-', '-'] => .ok { reading with operandsOnly := true }
    | '-' :: '-' :: text => spec.readLong reading text
    | '-' :: first :: rest => spec.readShort reading (first :: rest)
    | _ =>
      match reading.pending with
      | some (name, kind, none) => .ok { reading with pending := some (name, kind, some word) }
      | _ => spec.readOperand reading word

/-- Reads words up to a subcommand; returns it with the words after it. -/
def readWords (spec : CommandSpec) (reading : Reading) :
    List String → Except UsageError (Reading × Option (String × List String))
  | [] => .ok (reading, none)
  | word :: rest =>
    if word ∈ spec.subcommands ∧ ¬reading.operandsOnly ∧ ¬reading.awaitsValue then
      .ok (reading, some (word, rest))
    else do
      let reading ← spec.readWord reading word
      spec.readWords reading rest

/-- Checks that everything required is given. -/
def checkRequired (spec : CommandSpec) (given : List (String × String)) : Except UsageError Unit :=
  let required := (spec.options.filter (·.required)).map (·.name) ++ spec.operands.map (·.name)
  if required.all fun name => (given.lookup name).isSome then .ok () else .error .missingArgument

/-- The values given to a command that has no subcommands. -/
def read (spec : CommandSpec) (words : List String) : Except UsageError (List (String × String)) := do
  let (reading, _) ← spec.readWords .start words
  let reading ← reading.settle
  spec.checkRequired reading.given
  return reading.given

end CommandSpec

end NicFlow.CommandLine
