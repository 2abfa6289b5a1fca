import Triage.Value
import Triage.Text.Quoted

namespace Triage
namespace Value

/-!
How a value is shown.

Inside another value, and in most complaints, a text is quoted.  On its own a text stands as
it is, and so do a day and a stamp.
-/

mutual

/-- A value spelled out, texts in quotes. -/
def literal : Value -> String
  | .null => "None"
  | .bool b => if b then "True" else "False"
  | .number q => q.text
  | .text s => Text.quoted s
  | .bytes bs => Text.quotedBytes bs
  | .date d => d.display
  | .stamp s => s.display
  | .list items => Text.bracketed (literals items)
  | .pair first second => "(" ++ literal first ++ ", " ++ literal second ++ ")"
  | .set items =>
      if items.isEmpty then "set()"
      else "\x7b" ++ String.intercalate ", " (literals items) ++ "\x7d"
  | .mapping entries => "\x7b" ++ String.intercalate ", " (entryLiterals entries) ++ "\x7d"

/-- Every value of a list spelled out. -/
def literals : List Value -> List String
  | [] => []
  | item :: items => literal item :: literals items

/-- Every entry of a mapping spelled out. -/
def entryLiterals : List (Value × Value) -> List String
  | [] => []
  | (key, value) :: entries => (literal key ++ ": " ++ literal value) :: entryLiterals entries

end

def display : Value -> String
  | .text s => s
  | .date d => d.text
  | .stamp s => s.textWith " "
  | other => other.literal

/-- A list of texts spelled out. -/
def textsLiteral (items : List String) : String := Text.bracketed (items.map Text.quoted)

end Value
end Triage
