import NicFlow.Text.Mark
import NicFlow.Text.Unassigned

/-! Two quoted forms of a text: the JSON form, and the form in which messages show a text, where
everything that is not printable is written as its code point. Not printable are all blanks but the
space, code points that show nothing or stand for nothing, and marks that join the character before
them. -/

namespace NicFlow.Text

/-- Controls, formats, separators and private characters, as closed ranges. The space is not a
separator here. -/
def controlRanges : List (Nat × Nat) :=
  [(0x0, 0x1F), (0x7F, 0xA0), (0xAD, 0xAD), (0x600, 0x605), (0x61C, 0x61C), (0x6DD, 0x6DD),
   (0x70F, 0x70F), (0x890, 0x891), (0x8E2, 0x8E2), (0x1680, 0x1680), (0x180E, 0x180E),
   (0x2000, 0x200F), (0x2028, 0x202F), (0x205F, 0x2064), (0x2066, 0x206F), (0x3000, 0x3000),
   (0xE000, 0xF8FF), (0xFEFF, 0xFEFF), (0xFFF9, 0xFFFB), (0x110BD, 0x110BD), (0x110CD, 0x110CD),
   (0x13430, 0x1343F), (0x1BCA0, 0x1BCA3), (0x1D173, 0x1D17A), (0xE0001, 0xE0001),
   (0xE0020, 0xE007F), (0xF0000, 0xFFFFD), (0x100000, 0x10FFFD)]

/-- Letters that fill the place of a missing one and show nothing, as closed ranges. -/
def fillerRanges : List (Nat × Nat) :=
  [(0x115F, 0x1160), (0x3164, 0x3164), (0xFFA0, 0xFFA0)]

def isPrintable (character : Char) : Bool :=
  if character.toNat < 0x7F then 0x20 ≤ character.toNat
  else ¬inRanges (controlRanges ++ fillerRanges) character ∧ ¬isMark character ∧
    ¬isUnassigned character

/-- Lower-case hexadecimal, padded with zeros to the width. -/
def hex (width value : Nat) : String :=
  let digits := String.ofList (Nat.toDigits 16 value)
  "".pushn '0' (width - digits.length) ++ digits

/-- Decimal, padded with zeros to the width. -/
def decimal (width value : Nat) : String :=
  let digits := toString value
  "".pushn '0' (width - digits.length) ++ digits

def jsonEscape (character : Char) : String :=
  if character = '"' then "\\\""
  else if character = '\\' then "\\\\"
  else if character = '\n' then "\\n"
  else if character = '\r' then "\\r"
  else if character = '\t' then "\\t"
  else if character.toNat = 8 then "\\b"
  else if character.toNat = 12 then "\\f"
  else if character.toNat < 0x20 then "\\u" ++ hex 4 character.toNat
  else character.toString

/-- The text as a JSON string. -/
def jsonQuoted (text : String) : String :=
  "\"" ++ String.join (text.toList.map jsonEscape) ++ "\""

def shownEscape (character : Char) : String :=
  if character = '"' then "\\\""
  else if character = '\\' then "\\\\"
  else if character = '\n' then "\\n"
  else if character = '\r' then "\\r"
  else if character = '\t' then "\\t"
  else if character.toNat = 0 then "\\0"
  else if isPrintable character then character.toString
  else "\\u\x7b" ++ hex 1 character.toNat ++ "\x7d"

/-- The text as messages quote it. -/
def shownQuoted (text : String) : String :=
  "\"" ++ String.join (text.toList.map shownEscape) ++ "\""

end NicFlow.Text
