import NicFlow.Log.Event
import NicFlow.Text.Quoted
import NicFlow.Text.Split

/-! Messages in log lines. Controls that a terminal acts upon are written as codes. A break in a message
ends its line: what follows has neither level nor target, and is output like any other. -/

namespace NicFlow.Log

/-- A character as a log line shows it. -/
def lineEscape (character : Char) : String :=
  let code := character.toNat
  if code ∈ [0x07, 0x08, 0x0C, 0x1B, 0x7F] then "\\x" ++ Text.hex 2 code
  else if 0x80 ≤ code ∧ code ≤ 0x9F then "\\u\x7b" ++ Text.hex 2 code ++ "\x7d"
  else character.toString

namespace Event

/-- The lines of a message, as they are shown. -/
def lines (event : Event) : List String :=
  (Text.splitAll '\n' event.message.toList).map fun line => String.join (line.map lineEscape)

/-- The event by the first line of its message. -/
def firstLine (event : Event) : Event := { event with message := event.lines.headD "" }

/-- The output after the first line of a message. -/
def moreLines (event : Event) : String := String.join (event.lines.tail.map (· ++ "\n"))

end Event

end NicFlow.Log
