import Triage.Template.Layout

namespace Triage
namespace Template

/-!
Message templates.

A template is literal text with fields between braces.  A field names one of the texts it is
filled with, may step into it, may spell it out, and may give it a layout.  A template is taken
in from the left, and filling it stops at the first fault, so a form is only complained of
once everything in front of it could be filled.
-/

/-! ## Form -/

/-- A field as it is written. -/
structure Slot where
  path : List Char
  conversion : Option Char
  layout : List Char
deriving DecidableEq, Repr

/-- A part of a template. -/
inductive Piece where
  | literal (text : List Char)
  | slot (slot : Slot)
deriving DecidableEq, Repr

/-- A template taken apart: its parts, and the fault of form behind the last of them. -/
structure Form.Parts where
  pieces : List Piece
  fault : Option Form
deriving DecidableEq, Repr

/-- What follows a run of literal text. -/
inductive Next where
  | finished
  | broken (form : Form)
  | slot (rest : List Char)

/-- Takes literal text off the front.  In it a doubled brace stands for one. -/
def readLiteral : List Char -> List Char × Next
  | [] => ([], .finished)
  | ['\x7b'] => ([], .broken .loneOpening)
  | '\x7b' :: '\x7b' :: rest =>
      let (text, next) := readLiteral rest
      ('\x7b' :: text, next)
  | '\x7b' :: rest => ([], .slot rest)
  | '\x7d' :: '\x7d' :: rest =>
      let (text, next) := readLiteral rest
      ('\x7d' :: text, next)
  | '\x7d' :: _ => ([], .broken .loneClosing)
  | c :: rest =>
      let (text, next) := readLiteral rest
      (c :: text, next)

/-- Takes a path off the front, with the mark that ends it; brackets hide such marks. -/
def readPath (bracketed : Bool) : List Char -> Except Form (List Char × Char × List Char)
  | [] => .error .unclosedField
  | c :: rest =>
      if bracketed then
        (readPath (c != ']') rest).map fun found => (c :: found.1, found.2)
      else if c == '\x7b' then .error .openingInName
      else if c == '\x7d' || c == ':' || c == '!' then .ok ([], c, rest)
      else (readPath (c == '[') rest).map fun found => (c :: found.1, found.2)

/-- Takes a layout off the front, up to the brace that closes its field. -/
def readLayout (depth : Nat) : List Char -> Except Form (List Char × List Char)
  | [] => .error .unclosedLayout
  | c :: rest =>
      if c == '\x7b' then (readLayout (depth + 1) rest).map fun found => (c :: found.1, found.2)
      else if c == '\x7d' then
        match depth with
        | 0 => .ok ([], rest)
        | depth + 1 => (readLayout depth rest).map fun found => (c :: found.1, found.2)
      else (readLayout depth rest).map fun found => (c :: found.1, found.2)

/-- Takes a field off the front, its opening brace being gone. -/
def readSlot (cs : List Char) : Except Form (Slot × List Char) := do
  let (path, mark, rest) <- readPath false cs
  let withLayout (conversion : Option Char) (cs : List Char) : Except Form (Slot × List Char) :=
    (readLayout 0 cs).map fun found => (⟨path, conversion, found.1⟩, found.2)
  if mark == '\x7d' then pure (⟨path, none, []⟩, rest)
  else if mark == ':' then withLayout none rest
  else match rest with
    | [] => throw .unfinishedConversion
    | conversion :: '\x7d' :: rest => pure (⟨path, some conversion, []⟩, rest)
    | conversion :: ':' :: rest => withLayout (some conversion) rest
    | [conversion] => withLayout (some conversion) []
    | _ :: _ :: _ => throw .colonExpected

/-- Takes a template apart; every field shortens the text, whose length bounds the fields. -/
def partsWithin : Nat -> List Char -> Form.Parts
  | 0, _ => ⟨[], none⟩
  | bound + 1, cs =>
      let (text, next) := readLiteral cs
      match next with
      | .finished => ⟨[.literal text], none⟩
      | .broken form => ⟨[.literal text], some form⟩
      | .slot rest =>
          match readSlot rest with
          | .error form => ⟨[.literal text], some form⟩
          | .ok (slot, rest) =>
              let later := partsWithin bound rest
              ⟨.literal text :: .slot slot :: later.pieces, later.fault⟩

/-- Takes a template apart. -/
def parts (cs : List Char) : Form.Parts := partsWithin (cs.length + 1) cs

/-! ## Paths -/

/-- What members of a text are for: they work on it, or they stand behind an operator. -/
inductive Role where
  | function
  | operator
deriving DecidableEq, Repr

/-- What a path can lead to: a text, the kind of all texts, or a member of one or of the other. -/
inductive Place where
  | text (s : String)
  | textKind
  | ofText (role : Role) (name : String)
  | ofKind (role : Role) (name : String)
deriving DecidableEq, Repr

/-- The functions of a text. -/
def functionNames : List String := [
  "capitalize", "casefold", "center", "count", "encode", "endswith", "expandtabs", "find",
  "format", "format_map", "index", "isalnum", "isalpha", "isascii", "isdecimal", "isdigit",
  "isidentifier", "islower", "isnumeric", "isprintable", "isspace", "istitle", "isupper", "join",
  "ljust", "lower", "lstrip", "maketrans", "partition", "removeprefix", "removesuffix", "replace",
  "rfind", "rindex", "rjust", "rpartition", "rsplit", "rstrip", "split", "splitlines",
  "startswith", "strip", "swapcase", "title", "translate", "upper", "zfill", "__dir__",
  "__format__", "__getnewargs__", "__getstate__", "__init_subclass__", "__new__", "__reduce__",
  "__reduce_ex__", "__sizeof__", "__subclasshook__"]

/-- The members of a text behind operators. -/
def operatorNames : List String := [
  "__add__", "__contains__", "__delattr__", "__eq__", "__ge__", "__getattribute__",
  "__getitem__", "__gt__", "__hash__", "__init__", "__iter__", "__le__", "__len__", "__lt__",
  "__mod__", "__mul__", "__ne__", "__repr__", "__rmod__", "__rmul__", "__setattr__", "__str__"]

/-- The role of a member of texts. -/
def roleOf (name : String) : Option Role :=
  if functionNames.contains name then some .function
  else if operatorNames.contains name then some .operator
  else none

namespace Place

/-- A place as complaints name it. -/
def owner : Place -> String
  | text _ => "str"
  | textKind => "type"
  | ofText .function _ => "builtin_function_or_method"
  | ofText .operator _ => "method-wrapper"
  | ofKind .function _ => "method_descriptor"
  | ofKind .operator _ => "wrapper_descriptor"

def display : Place -> String
  | text s => s
  | textKind => "<class 'str'>"
  | ofText .function name => "<built-in method " ++ name ++ " of str object>"
  | ofText .operator name => "<method-wrapper '" ++ name ++ "' of str object>"
  | ofKind .function name => "<method '" ++ name ++ "' of 'str' objects>"
  | ofKind .operator name => "<slot wrapper '" ++ name ++ "' of 'str' objects>"

/-- A place spelled out, in plain characters only or not. -/
def literal (plain : Bool) : Place -> String
  | text s => if plain then Text.quotedPlain s else Text.quoted s
  | other => other.display

def memberOfMember (place : Place) (own name : String) : Except Fault Place :=
  if name == "__name__" then .ok (text own)
  else if name == "__qualname__" then .ok (text ("str." ++ own))
  else .error (.member ("'" ++ place.owner ++ "' object") name)

def member (place : Place) (name : String) : Except Fault Place :=
  match place with
  | text _ =>
      if name == "__class__" then .ok textKind
      else match roleOf name with
        | some role => .ok (ofText role name)
        | none => .error (.member "'str' object" name)
  | textKind =>
      if name == "__name__" || name == "__qualname__" then .ok (text "str")
      else if name == "__module__" then .ok (text "builtins")
      else match roleOf name with
        | some role => .ok (ofKind role name)
        | none => .error (.member "type object 'str'" name)
  | ofText _ own => place.memberOfMember own name
  | ofKind _ own => place.memberOfMember own name

/-- The item of a place under a number or a name; a text has its characters. -/
def item (place : Place) (number : Option Nat) : Except Fault Place :=
  match place, number with
  | text s, some position =>
      match s.toList[position]? with
      | some c => .ok (text c.toString)
      | none => .error .itemRange
  | text _, none => .error .itemName
  | textKind, _ => .error (.noItems "type 'str'")
  | _, _ => .error (.noItems ("'" ++ place.owner ++ "' object"))

end Place

/-- The number that a name is, if it only has digits. -/
def numberOf (name : List Char) : Except Fault (Option Nat) := do
  let (found, rest) <- Layout.number name
  pure (if rest.isEmpty then found else none)

/-- The place of the first name of a path. -/
def start (fields : List (String × String)) (name : List Char) : Except Fault Place := do
  if name.isEmpty then throw (.position 0)
  match <- numberOf name with
  | some number => throw (.position number)
  | none =>
      match fields.lookup (String.ofList name) with
      | some s => pure (.text s)
      | none => throw (.unknownName (String.ofList name))

/-- Whether a character begins a step. -/
def beginsStep (c : Char) : Bool := c == '.' || c == '['

/-- Takes the steps of a path; each shortens what is left of it. -/
def walk : Nat -> Place -> List Char -> Except Fault Place
  | 0, place, _ => .ok place
  | _ + 1, place, [] => .ok place
  | bound + 1, place, '.' :: rest => do
      let name := rest.takeWhile fun c => !beginsStep c
      if name.isEmpty then throw (.form .emptyStep)
      walk bound (<- place.member (String.ofList name)) (rest.drop name.length)
  | bound + 1, place, '[' :: rest => do
      let name := rest.takeWhile (· != ']')
      if name.length = rest.length then throw (.form .unclosedItem)
      let number <- numberOf name
      if name.isEmpty then throw (.form .emptyStep)
      walk bound (<- place.item number) (rest.drop (name.length + 1))
  | _ + 1, _, _ :: _ => .error (.form .afterItem)

def follow (fields : List (String × String)) (path : List Char) : Except Fault Place := do
  let name := path.takeWhile fun c => !beginsStep c
  walk path.length (<- start fields name) (path.drop name.length)

/-! ## Filling -/

def convert (place : Place) (conversion : Option Char) : Except Fault Place :=
  match conversion with
  | none => .ok place
  | some 's' => .ok (.text place.display)
  | some 'r' => .ok (.text (place.literal false))
  | some 'a' => .ok (.text (place.literal true))
  | some c => .error (.form (.unknownConversion c))

def set (layout : List Char) (place : Place) : Except Fault String :=
  match place with
  | .text s => Layout.apply layout s
  | other => if layout.isEmpty then .ok other.display else .error (.noLayout other.owner)

/-- Fills a template whose layouts may hold fields, to a depth. -/
def fillWithin (fields : List (String × String)) : Nat -> List Char -> Except Fault String
  | 0, _ => .error (.form .nestedTooDeep)
  | depth + 1, cs => do
      let split := parts cs
      let texts <- split.pieces.mapM fun piece =>
        match piece with
        | .literal text => pure (String.ofList text)
        | .slot slot => do
            let place <- convert (<- follow fields slot.path) slot.conversion
            let layout <-
              if slot.layout.contains '\x7b' then
                (fillWithin fields depth slot.layout).map String.toList
              else pure slot.layout
            set layout place
      match split.fault with
      | some form => throw (.form form)
      | none => pure (String.join texts)

/-- The depth to which layouts may hold fields. -/
def depth : Nat := 2

/-- Fills a template with named texts. -/
def fill (template : String) (fields : List (String × String)) : Except Fault String :=
  fillWithin fields depth template.toList

end Template
end Triage
