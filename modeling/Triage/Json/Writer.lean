import Triage.Value.Display

namespace Triage
namespace Json

/-!
Writing JSON text.

The text is plain: every character outside the printable ones of plain text is escaped, the
characters above the first plane as a pair of escapes.  A comma and a colon are followed by
a blank.
-/

/-- The escape of one 16-bit unit. -/
def unitEscape (n : Nat) : String := "\\u" ++ Text.hex 4 n

/-- One character of a JSON string. -/
def charText (c : Char) : String :=
  let n := c.toNat
  if c == '"' then "\\\""
  else if c == '\\' then "\\\\"
  else if c == '\n' then "\\n"
  else if c == '\r' then "\\r"
  else if c == '\t' then "\\t"
  else if c == '\x08' then "\\b"
  else if c == '\x0c' then "\\f"
  else if 0x20 ≤ n && n < 0x7F then c.toString
  else if n < 0x10000 then unitEscape n
  else unitEscape (0xD800 + (n - 0x10000) / 0x400) ++ unitEscape (0xDC00 + (n - 0x10000) % 0x400)

def stringText (s : String) : String :=
  "\"" ++ String.join (s.toList.map charText) ++ "\""

/-- The text of a key; what is not a text is shown the way it is written elsewhere. -/
def keyText : Value -> String
  | .null => "null"
  | .bool b => if b then "true" else "false"
  | .number (.real x) => Number.Form.json.write x
  | other => other.display

mutual

def write : Value -> String
  | .null => "null"
  | .bool b => if b then "true" else "false"
  | .number (.whole n) => toString n
  | .number (.real x) => Number.Form.json.write x
  | .text s => stringText s
  | .list items => "[" ++ String.intercalate ", " (writeAll items) ++ "]"
  | .pair first second => "[" ++ write first ++ ", " ++ write second ++ "]"
  | .mapping entries => "\x7b" ++ String.intercalate ", " (writeEntries entries) ++ "\x7d"
  | other => stringText other.display

def writeAll : List Value -> List String
  | [] => []
  | item :: items => write item :: writeAll items

/-- Writes every entry of a mapping. -/
def writeEntries : List (Value × Value) -> List String
  | [] => []
  | (key, value) :: entries =>
      (stringText (keyText key) ++ ": " ++ write value) :: writeEntries entries

end

end Json
end Triage
