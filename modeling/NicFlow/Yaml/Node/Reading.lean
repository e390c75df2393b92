import NicFlow.Yaml.Node

/-! Building the nodes of a document from tokens. Where the tokens do not fit, the node is broken, and so is
all that would follow it. -/

namespace NicFlow.Yaml

open Text (Place)

namespace Node

/-- A node, and the tokens after it. -/
abbrev Built := Node × List Token

/-- The first of some tokens; a text has one left until its end. -/
def first : List Token → Token
  | token :: _ => token
  | [] => ⟨.textEnd, .start⟩

/-- What is wrong where a token does not fit. -/
def misfit (token : Token) (reason : String) (context : Option (String × Place)) : Problem :=
  match token.kind with
  | .broken problem => problem
  | _ => ⟨reason, token.place, context⟩

/-- Gives up the rest of a document. -/
def giveUp (problem : Problem) : Built := (.broken problem, [.broken problem])

/-- A node that is left out in front of the first token. -/
def missing (tokens : List Token) : Node :=
  match (first tokens).kind with
  | .broken problem => .broken problem
  | _ => .empty (first tokens).place

/-- A node that is left out behind an indicator. -/
def missingAfter (token : Token) : Node := .empty (token.place.right 1)

/-- The kinds of tokens that follow a key or a value that is left out of a block mapping. -/
def endsBlockField : TokenKind → Bool
  | .key | .value | .blockEnd => true
  | _ => false

/-- The kinds of tokens that follow an element that is left out of a sequence in a block mapping. -/
def endsInnerElement : TokenKind → Bool
  | .dash | .key | .value | .blockEnd => true
  | _ => false

def endsBlockElement : TokenKind → Bool
  | .dash | .blockEnd => true
  | _ => false

def endsFlowKey (closing : TokenKind) (kind : TokenKind) : Bool :=
  kind = .value || kind = .comma || kind = closing

def endsFlowValue (closing : TokenKind) (kind : TokenKind) : Bool := kind = .comma || kind = closing

mutual

/-- Builds the node that begins here. In block style it can be a block; the value of a field can even be a
sequence whose elements are not indented. -/
def build : (fuel : Nat) → (block inField : Bool) → List Token → Built
  | 0, _, _, tokens => (missing tokens, tokens)
  | fuel + 1, block, inField, tokens =>
    let token := first tokens
    let place := token.place
    let refuse : Built :=
      giveUp (misfit token "did not find expected node content"
        (some (if block then "while parsing a block node" else "while parsing a flow node", place)))
    match token.kind with
    | .scalar plain text => (.scalar place plain text, tokens.tail)
    | .openBracket =>
      let (elements, tokens) := buildFlowElements fuel place tokens.tail
      (.sequence place elements, tokens)
    | .openBrace =>
      let (fields, tokens) := buildFlowFields fuel place tokens.tail
      (.mapping place fields, tokens)
    | .sequenceStart =>
      if block then
        let (elements, tokens) := buildElements fuel place tokens.tail
        (.sequence place elements, tokens)
      else refuse
    | .mappingStart =>
      if block then
        let (fields, tokens) := buildFields fuel place tokens.tail
        (.mapping place fields, tokens)
      else refuse
    | .dash =>
      if inField then
        let (elements, tokens) := buildInnerElements fuel tokens
        (.sequence place elements, tokens)
      else refuse
    | _ => refuse

/-- Builds the elements of a block sequence, which begins at a place. -/
def buildElements : (fuel : Nat) → Place → List Token → List Node × List Token
  | 0, _, tokens => ([], tokens)
  | fuel + 1, start, tokens =>
    let token := first tokens
    match token.kind with
    | .dash =>
      let (element, tokens) :=
        if endsBlockElement (first tokens.tail).kind then (missingAfter token, tokens.tail)
        else build fuel true false tokens.tail
      let (elements, tokens) := buildElements fuel start tokens
      (element :: elements, tokens)
    | .blockEnd => ([], tokens.tail)
    | _ =>
      let (node, tokens) := giveUp (misfit token "did not find expected '-' indicator"
        (some ("while parsing a block collection", start)))
      ([node], tokens)

/-- Builds the elements of a sequence that is not indented. -/
def buildInnerElements : (fuel : Nat) → List Token → List Node × List Token
  | 0, tokens => ([], tokens)
  | fuel + 1, tokens =>
    let token := first tokens
    match token.kind with
    | .dash =>
      let (element, tokens) :=
        if endsInnerElement (first tokens.tail).kind then (missingAfter token, tokens.tail)
        else build fuel true false tokens.tail
      let (elements, tokens) := buildInnerElements fuel tokens
      (element :: elements, tokens)
    | .broken problem => ([.broken problem], tokens)
    | _ => ([], tokens)

/-- Builds the fields of a block mapping, which begins at a place. -/
def buildFields : (fuel : Nat) → Place → List Token → List (Node × Node) × List Token
  | 0, _, tokens => ([], tokens)
  | fuel + 1, start, tokens =>
    let token := first tokens
    match token.kind with
    | .key =>
      let (key, tokens) :=
        if endsBlockField (first tokens.tail).kind then (missingAfter token, tokens.tail)
        else build fuel true true tokens.tail
      let (value, tokens) := buildValue fuel tokens
      let (fields, tokens) := buildFields fuel start tokens
      ((key, value) :: fields, tokens)
    | .blockEnd => ([], tokens.tail)
    | _ =>
      let (node, tokens) := giveUp (misfit token "did not find expected key"
        (some ("while parsing a block mapping", start)))
      ([(node, node)], tokens)

/-- Builds the value of a field in a block mapping. -/
def buildValue : (fuel : Nat) → List Token → Built
  | 0, tokens => (missing tokens, tokens)
  | fuel + 1, tokens =>
    let token := first tokens
    match token.kind with
    | .value =>
      if endsBlockField (first tokens.tail).kind then (missingAfter token, tokens.tail)
      else build fuel true true tokens.tail
    | _ => (missing tokens, tokens)

/-- Builds the elements of a flow sequence, which begins at a place, up to its end. -/
def buildFlowElements : (fuel : Nat) → Place → List Token → List Node × List Token
  | 0, _, tokens => ([], tokens)
  | fuel + 1, start, tokens =>
    match (first tokens).kind with
    | .closeBracket => ([], tokens.tail)
    | kind =>
      let (element, tokens) :=
        if kind = .key then
          let (key, value, rest) := buildPair fuel tokens.tail
          (.mapping (first tokens).place [(key, value)], rest)
        else build fuel false false tokens
      let (elements, tokens) :=
        match (first tokens).kind with
        | .comma => buildFlowElements fuel start tokens.tail
        | .closeBracket => ([], tokens.tail)
        | _ =>
          let (node, tokens) := giveUp (misfit (first tokens) "did not find expected ',' or ']'"
            (some ("while parsing a flow sequence", start)))
          ([node], tokens)
      (element :: elements, tokens)

/-- Builds the only field of a mapping that is an element of a flow sequence. -/
def buildPair : (fuel : Nat) → List Token → Node × Node × List Token
  | 0, tokens => (missing tokens, missing tokens, tokens)
  | fuel + 1, tokens =>
    let (key, tokens) :=
      if endsFlowKey .closeBracket (first tokens).kind then
        (missingAfter (first tokens), tokens.tail)
      else build fuel false false tokens
    let (value, tokens) := buildFlowValue fuel .closeBracket tokens
    (key, value, tokens)

/-- Builds the fields of a flow mapping, which begins at a place, up to its end. -/
def buildFlowFields : (fuel : Nat) → Place → List Token → List (Node × Node) × List Token
  | 0, _, tokens => ([], tokens)
  | fuel + 1, start, tokens =>
    match (first tokens).kind with
    | .closeBrace => ([], tokens.tail)
    | kind =>
      let (key, value, tokens) :=
        if kind = .key then
          let (key, tokens) :=
            if endsFlowKey .closeBrace (first tokens.tail).kind then
              (missing tokens.tail, tokens.tail)
            else build fuel false false tokens.tail
          let (value, tokens) := buildFlowValue fuel .closeBrace tokens
          (key, value, tokens)
        else
          let (key, tokens) := build fuel false false tokens
          (key, missing tokens, tokens)
      let (fields, tokens) :=
        match (first tokens).kind with
        | .comma => buildFlowFields fuel start tokens.tail
        | .closeBrace => ([], tokens.tail)
        | _ =>
          let (node, tokens) := giveUp (misfit (first tokens) "did not find expected ',' or '\x7d'"
            (some ("while parsing a flow mapping", start)))
          ([(node, node)], tokens)
      ((key, value) :: fields, tokens)

/-- Builds the value of a field in a flow collection. -/
def buildFlowValue : (fuel : Nat) → (closing : TokenKind) → List Token → Built
  | 0, _, tokens => (missing tokens, tokens)
  | fuel + 1, closing, tokens =>
    if (first tokens).kind ≠ .value then (missing tokens, tokens)
    else if endsFlowValue closing (first tokens.tail).kind then (missing tokens.tail, tokens.tail)
    else build fuel false false tokens.tail

end

/-- Reads the directives in front of a document up to its mark. A version may be told once. -/
def readDirectives : (told : Bool) → List Token → Except Problem (List Token)
  | told, token :: tokens =>
    match token.kind with
    | .version major minor =>
      if told then .error ⟨"found duplicate %YAML directive", token.place, none⟩
      else if major = 1 ∧ (minor = 1 ∨ minor = 2) then readDirectives true tokens
      else .error ⟨"found incompatible YAML document", token.place, none⟩
    | .documentStart => .ok tokens
    | _ => .error (misfit token "did not find expected <document start>" none)
  | _, [] => .ok []

/-- Whether a token leaves a document behind its mark empty. -/
def endsDocument : TokenKind → Bool
  | .version _ _ | .documentStart | .documentEnd | .textEnd => true
  | _ => false

/-- Builds the first document of a text. A text without documents is an empty node. -/
def buildDocument (tokens : List Token) : Built :=
  let fuel := 4 * tokens.length + 8
  match (first tokens).kind with
  | .textEnd => (missing tokens, tokens)
  | .version _ _ | .documentStart =>
    match readDirectives false tokens with
    | .error problem => giveUp problem
    | .ok tokens =>
      if endsDocument (first tokens).kind then (missing tokens, tokens)
      else build fuel true false tokens
  | _ => build fuel true false tokens

end Node

/-- The first document of a text. -/
structure Stream where
  root : Node
  /-- What stands behind it where a document ends, if it cannot be read. -/
  problem : Option Problem
  /-- Whether there is more than one document. -/
  more : Bool

def isDocumentEnd (token : Token) : Bool := token.kind = .documentEnd

/-- What the tokens of a text make. -/
def Stream.ofTokens (tokens : List Token) : Stream :=
  let (root, tokens) := Node.buildDocument tokens
  match (Node.first tokens).kind with
  | .broken problem => ⟨root, some problem, false⟩
  | _ => ⟨root, none, (Node.first (tokens.dropWhile isDocumentEnd)).kind ≠ .textEnd⟩

end NicFlow.Yaml
