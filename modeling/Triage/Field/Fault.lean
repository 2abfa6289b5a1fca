import Triage.Value.Display

namespace Triage
namespace Field

/-!
Faults of single fields.

A fault names the field by the path that leads to it, says what is wrong, and keeps the value
it found.  It has a short wording, and a long one that also shows the value.
-/

/-- What is wrong with the value of a field. -/
inductive Cause where
  | missing
  | text
  | undecodableText
  | whole
  | wholeText
  | wholeFraction
  | wholeSize
  | notFinite
  | flag
  | flagText
  | list
  | mapping
  | record (model : String)
  | moment
  | momentText (reason : String)
  | dayText (reason : String)
  | choice (allowed : List String)
  | rejected (reason : String)
deriving DecidableEq, Repr

/-- Alternatives in quotes, separated by commas and a final "or". -/
def alternatives : List String -> String
  | [] => ""
  | [only] => "'" ++ only ++ "'"
  | [first, last] => "'" ++ first ++ "' or '" ++ last ++ "'"
  | first :: rest => "'" ++ first ++ "', " ++ alternatives rest

/-- The wording of a cause. -/
def Cause.message : Cause -> String
  | .missing => "Field required"
  | .text => "Input should be a valid string"
  | .undecodableText =>
      "Input should be a valid string, unable to parse raw data as a unicode string"
  | .whole => "Input should be a valid integer"
  | .wholeText => "Input should be a valid integer, unable to parse string as an integer"
  | .wholeFraction => "Input should be a valid integer, got a number with a fractional part"
  | .wholeSize => "Unable to parse input string as an integer, exceeded maximum size"
  | .notFinite => "Input should be a finite number"
  | .flag => "Input should be a valid boolean"
  | .flagText => "Input should be a valid boolean, unable to interpret input"
  | .list => "Input should be a valid list"
  | .mapping => "Input should be a valid dictionary"
  | .record model => "Input should be a valid dictionary or instance of " ++ model
  | .moment => "Input should be a valid datetime"
  | .momentText reason => "Input should be a valid datetime, " ++ reason
  | .dayText reason => "Input should be a valid datetime or date, " ++ reason
  | .choice allowed => "Input should be " ++ alternatives allowed
  | .rejected reason => "Value error, " ++ reason

def Cause.code : Cause -> String
  | .missing => "missing"
  | .text => "string_type"
  | .undecodableText => "string_unicode"
  | .whole => "int_type"
  | .wholeText => "int_parsing"
  | .wholeFraction => "int_from_float"
  | .wholeSize => "int_parsing_size"
  | .notFinite => "finite_number"
  | .flag => "bool_type"
  | .flagText => "bool_parsing"
  | .list => "list_type"
  | .mapping => "dict_type"
  | .record _ => "model_type"
  | .moment => "datetime_type"
  | .momentText _ => "datetime_parsing"
  | .dayText _ => "datetime_from_date_parsing"
  | .choice _ => "enum"
  | .rejected _ => "value_error"

structure Fault where
  path : List String
  cause : Cause
  found : Value

/-- The same fault one step further from the root. -/
def Fault.under (step : String) (fault : Fault) : Fault :=
  { fault with path := step :: fault.path }

/-- The short wording; the root itself is called a rule. -/
def Fault.message (fault : Fault) : String :=
  (if fault.path.isEmpty then "rule" else String.intercalate "." fault.path) ++ ": " ++
    fault.cause.message

/-- The short wording of several faults. -/
def messages (faults : List Fault) : String :=
  String.intercalate "; " (faults.map Fault.message)

/-- Characters from the front that fit into a number of UTF-8 bytes. -/
def takeBytes : Nat -> List Char -> List Char
  | _, [] => []
  | room, c :: rest =>
      if c.utf8Size ≤ room then c :: takeBytes (room - c.utf8Size) rest else []

/-- A shown value, shortened in the middle when it takes more than fifty bytes. -/
def shorten (s : String) : String :=
  if s.utf8ByteSize ≤ 50 then s
  else
    let cs := s.toList
    String.ofList (takeBytes 25 cs) ++ "..." ++
      String.ofList (takeBytes 24 cs.reverse).reverse

/-- Where more is written about the faults of a code. -/
def furtherLine (code : String) : String :=
  "\n    For further information visit https://errors.pydantic.dev/2.14/v/" ++ code

/-- The long wording of one fault. -/
def Fault.report (fault : Fault) : String :=
  (if fault.path.isEmpty then "" else String.intercalate "." fault.path ++ "\n") ++
    "  " ++ fault.cause.message ++ " [type=" ++ fault.cause.code ++ ", input_value=" ++
    shorten fault.found.literal ++ ", input_type=" ++ fault.found.kindName ++ "]" ++
    furtherLine fault.cause.code

/-- The long wording of several faults of one record. -/
def report (model : String) (faults : List Fault) : String :=
  toString faults.length ++ " validation error" ++ (if faults.length == 1 then "" else "s") ++
    " for " ++ model ++ "\n" ++ String.intercalate "\n" (faults.map Fault.report)

end Field
end Triage
