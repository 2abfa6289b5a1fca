import Triage.Failure

namespace Triage
namespace Template

/-!
Faults of message templates.

Whether a template works can depend on the values it is filled with, so every fault here may
come up while a message is made, not only while a template is read.
-/

/-- What is wrong with the form of a template or of a layout. -/
inductive Form where
  | loneOpening
  | loneClosing
  | openingInName
  | unclosedField
  | unclosedLayout
  | unfinishedConversion
  | colonExpected
  | unknownConversion (c : Char)
  | emptyStep
  | unclosedItem
  | afterItem
  | tooManyDigits
  | nestedTooDeep
  | missingPrecision
  | bothSeparators
  | separator (mark kind : Char)
  | layout (text : String)
  | layoutKind (c : Char)
  | sign
  | space
  | zero
  | alternate
  | numericAlignment
deriving DecidableEq, Repr

/-- A character as complaints about layouts show it. -/
def shownChar (c : Char) : String :=
  if 32 < c.toNat && c.toNat < 128 then c.toString
  else "\\x" ++ String.ofList (Nat.toDigits 16 c.toNat)

/-- The wording of a complaint about a form. -/
def Form.message : Form -> String
  | .loneOpening => "Single '\x7b' encountered in format string"
  | .loneClosing => "Single '\x7d' encountered in format string"
  | .openingInName => "unexpected '\x7b' in field name"
  | .unclosedField => "expected '\x7d' before end of string"
  | .unclosedLayout => "unmatched '\x7b' in format spec"
  | .unfinishedConversion => "end of string while looking for conversion specifier"
  | .colonExpected => "expected ':' after conversion specifier"
  | .unknownConversion c =>
      "Unknown conversion specifier " ++
        (if 32 < c.toNat && c.toNat < 127 then c.toString
        else "\\x" ++ String.ofList (Nat.toDigits 16 c.toNat))
  | .emptyStep => "Empty attribute in format string"
  | .unclosedItem => "Missing ']' in format string"
  | .afterItem => "Only '.' or '[' may follow ']' in format field specifier"
  | .tooManyDigits => "Too many decimal digits in format string"
  | .nestedTooDeep => "Max string recursion exceeded"
  | .missingPrecision => "Format specifier missing precision"
  | .bothSeparators => "Cannot specify both ',' and '_'."
  | .separator mark kind => "Cannot specify '" ++ mark.toString ++ "' with '" ++ shownChar kind ++ "'."
  | .layout text => "Invalid format specifier '" ++ text ++ "' for object of type 'str'"
  | .layoutKind c => "Unknown format code '" ++ shownChar c ++ "' for object of type 'str'"
  | .sign => "Sign not allowed in string format specifier"
  | .space => "Space not allowed in string format specifier"
  | .zero => "Negative zero coercion (z) not allowed in string format specifier"
  | .alternate => "Alternate form (#) not allowed in string format specifier"
  | .numericAlignment => "'=' alignment not allowed in string format specifier"

/-- Why a template gives no message. -/
inductive Fault where
  | form (form : Form)
  | unknownName (name : String)
  | position (number : Nat)
  | itemRange
  | member (owner name : String)
  | itemName
  | noItems (owner : String)
  | noLayout (owner : String)
deriving DecidableEq, Repr

namespace Fault

/-- The wording of a fault. -/
def message : Fault -> String
  | form cause => cause.message
  | unknownName name => name
  | position number =>
      "Replacement index " ++ toString number ++ " out of range for positional args tuple"
  | itemRange => "string index out of range"
  | member owner name => owner ++ " has no attribute '" ++ name ++ "'"
  | itemName => "string indices must be integers, not 'str'"
  | noItems owner => owner ++ " is not subscriptable"
  | noLayout owner => "unsupported format string passed to " ++ owner ++ ".__format__"

/-- The kind of trouble that a fault is. -/
def trouble : Fault -> Trouble
  | form _ => .badValue
  | unknownName _ => .missingKey
  | position _ => .badIndex
  | itemRange => .badIndex
  | member _ _ => .missingMember
  | itemName => .wrongType
  | noItems _ => .wrongType
  | noLayout _ => .wrongType

/--
Whether a message falls back on the standard template.  Faults that treat a text as something
it is not are left to whoever sends the message.
-/
def fallsBack (fault : Fault) : Bool := fault.trouble != .wrongType

/-- The name of a fault's kind, where the kind falls back. -/
def kindName (fault : Fault) : String :=
  match fault.trouble with
  | .missingKey => "KeyError"
  | .badIndex => "IndexError"
  | .missingMember => "AttributeError"
  | _ => "ValueError"

/-- A fault spelled out with its kind. -/
def display (fault : Fault) : String :=
  fault.kindName ++ "(" ++ Text.quoted fault.message ++ ")"

def failure (fault : Fault) : Failure :=
  match fault with
  | unknownName name => .missingKey name
  | _ => .plain fault.trouble fault.message

end Fault
end Template
end Triage
