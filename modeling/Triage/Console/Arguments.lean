import Triage.Number.Reading

namespace Triage
namespace Console

/-!
Arguments of the command line.

A command line is read from the left.  What starts with a dash is an option, which may be cut
short as long as one can tell which one is meant; after two dashes nothing is an option any
more.  Reading ends early when somebody asks for help or when the line cannot be meant.
-/

/-- What becomes of a command line that calls for no command. -/
inductive Halt where
  | help
  | misuse
deriving DecidableEq, Repr

/-- What an option takes. -/
inductive Takes where
  | help
  | nothing
  | text
  | whole
deriving DecidableEq, Repr

/-- What may stand on a line besides options. -/
inductive Subject where
  | none
  | one
  | oneAtMost
  /-- A command, with everything that follows it. -/
  | command
deriving DecidableEq, Repr

/-- What a line may look like. -/
structure Form where
  options : List (String × Takes)
  subject : Subject

/-- A form, with the options that ask for help. -/
def Form.of (options : List (String × Takes)) (subject : Subject) : Form :=
  ⟨[("-h", .help), ("--help", .help)] ++ options, subject⟩

inductive Argument where
  | plain (text : String)
  /-- A known option; some have a value attached, behind an equals sign or without one. -/
  | option (name : String) (takes : Takes) (attached : Option (Bool × String))
  | stray
  /-- Two dashes. -/
  | dashes

namespace Argument

/-- Splits a text at its first equals sign. -/
def halves (text : String) : String × Option String :=
  match text.splitOn "=" with
  | first :: second :: rest => (first, some (String.intercalate "=" (second :: rest)))
  | _ => (text, .none)

/-- Whether a text reads as a negative number. -/
def isNegativeNumber (text : String) : Bool :=
  match text.toList with
  | '-' :: rest =>
      let digits (cs : List Char) : Bool := !cs.isEmpty && cs.all fun c => Text.isDigit c
      digits rest || (let whole := rest.takeWhile fun c => c != '.'
        match rest.drop whole.length with
        | '.' :: fraction => digits fraction && whole.all fun c => Text.isDigit c
        | _ => false)
  | _ => false

/-- The options that a text may be short for. -/
def candidates (form : Form) (text : String) : List Argument :=
  if text.startsWith "--" then
    let (name, value) := halves text
    (form.options.filter fun known => known.1.startsWith name).map fun known =>
      .option known.1 known.2 (value.map fun value => (true, value))
  else
    let short := String.ofList (text.toList.take 2)
    form.options.filterMap fun known =>
      if known.1 == short then
        some (.option known.1 known.2 (some (false, String.ofList (text.toList.drop 2))))
      else if known.1.startsWith text then some (.option known.1 known.2 .none)
      else .none

/-- An argument that starts with a dash; more than one option may not be meant. -/
def ofDashed (form : Form) (text : String) : Except Halt Argument :=
  let (name, value) := halves text
  match form.options.lookup text, form.options.lookup name, value with
  | some takes, _, _ => .ok (.option text takes .none)
  | .none, some takes, some value => .ok (.option name takes (some (true, value)))
  | .none, _, _ =>
      match candidates form text with
      | [] => .ok (if isNegativeNumber text || text.contains ' ' then .plain text else .stray)
      | [one] => .ok one
      | _ => .error .misuse

/-- One argument, unless it follows two dashes. -/
def ofText (form : Form) (text : String) : Except Halt Argument :=
  if text == "--" then .ok .dashes
  else if text.startsWith "-" && text != "-" then ofDashed form text
  else .ok (.plain text)

def ofTexts (form : Form) : List String -> Except Halt (List (String × Argument))
  | [] => .ok []
  | text :: texts => do
      match <- ofText form text with
      | .dashes => pure ((text, .dashes) :: texts.map fun text => (text, .plain text))
      | argument => do pure ((text, argument) :: (<- ofTexts form texts))

end Argument

/-- What a line says. -/
structure Found where
  options : List (String × String)
  subject : Option String
  /-- What follows a command. -/
  rest : List String
  /-- Whether something stands on the line that does not belong there. -/
  hasStrays : Bool
deriving DecidableEq, Repr

namespace Found

def nothing : Found := ⟨[], none, [], false⟩

/-- Notes an option. -/
def with_ (found : Found) (name value : String) : Found :=
  { found with options := found.options ++ [(name, value)] }

/-- Notes something that does not belong there. -/
def stray (found : Found) : Found := { found with hasStrays := true }

/-- The value of an option, the last one when it is repeated. -/
def value? (found : Found) (name : String) : Option String := found.options.reverse.lookup name

/-- Whether an option is there. -/
def has (found : Found) (name : String) : Bool := (found.value? name).isSome

/-- Whether something besides options is still to come. -/
def awaits (found : Found) (subject : Subject) : Bool :=
  subject != .none && found.subject.isNone

end Found

/-- Whether an option takes a text as its value. -/
def Takes.accepts (takes : Takes) (text : String) : Bool :=
  match takes with
  | .whole => (Number.readInt text).toOption.isSome
  | _ => true

/-- An option that asks for help, with what is attached to it: more short options at most. -/
def askHelp (attached : Option (Bool × String)) (isLong : Bool) : Halt :=
  match attached with
  | none => .help
  | some (behindEquals, text) =>
      let others := text.toList.dropWhile fun c => c == 'h'
      if behindEquals || isLong then .misuse
      else match others with
        | '=' :: _ => .misuse
        | '-' :: _ => .misuse
        | _ => .help

/-- Reads arguments from the left. -/
def scan (subject : Subject) : List (String × Argument) -> Found -> Except Halt Found
  | [], found => .ok found
  | (_, .stray) :: later, found => scan subject later found.stray
  | (_, .option name .help attached) :: _, _ => .error (askHelp attached (name.startsWith "--"))
  | (_, .option name .nothing attached) :: later, found =>
      if attached.isSome then .error .misuse else scan subject later (found.with_ name "")
  | (_, .option name takes (some (_, value))) :: later, found =>
      if takes.accepts value then scan subject later (found.with_ name value) else .error .misuse
  | (_, .option name takes none) :: (_, .plain value) :: later, found =>
      if takes.accepts value then scan subject later (found.with_ name value) else .error .misuse
  | (_, .option _ _ none) :: _, _ => .error .misuse
  | (_, .dashes) :: later, found =>
      if subject == .command then .error .misuse
      else if found.awaits subject && (subject == .oneAtMost || !later.isEmpty) then
        scan subject later found
      else scan subject later found.stray
  | (_, .plain text) :: (_, .dashes) :: later, found =>
      if subject == .command then
        .ok { found with subject := some text, rest := "--" :: later.map Prod.fst }
      else if found.awaits subject then scan subject later { found with subject := some text }
      else scan subject later found.stray
  | (_, .plain text) :: later, found =>
      if subject == .command then
        .ok { found with subject := some text, rest := later.map Prod.fst }
      else if found.awaits subject then scan subject later { found with subject := some text }
      else scan subject later found.stray

/-- Reads a line of a form. -/
def Form.read (form : Form) (texts : List String) : Except Halt Found := do
  let found <- scan form.subject (<- Argument.ofTexts form texts) .nothing
  if form.subject == .one && found.subject.isNone then throw .misuse
  pure found

end Console
end Triage
