import NicFlow.Yaml.Cursor

/-! The tokens of a YAML text. Blocks have tokens of their own where they begin and end, and so do keys. -/

namespace NicFlow.Yaml

open Text (Place)

inductive TokenKind where
  | version (major minor : Nat)
  | documentStart
  | documentEnd
  | sequenceStart
  | mappingStart
  | blockEnd
  | openBracket
  | closeBracket
  | openBrace
  | closeBrace
  | dash
  | comma
  | key
  | value
  /-- A scalar; only a plain one can stand for something else than its text. -/
  | scalar (plain : Bool) (text : String)
  | textEnd
  /-- From here on the text has no tokens. -/
  | broken (problem : Problem)
deriving DecidableEq

structure Token where
  kind : TokenKind
  place : Place
deriving DecidableEq

def Token.broken (problem : Problem) : Token := ⟨.broken problem, problem.place⟩

end NicFlow.Yaml
