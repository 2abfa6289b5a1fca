import Triage.Text.Quoted
import Triage.Value.Display
import Triage.Yaml.Cursor
import Triage.Yaml.Plain

namespace Triage
namespace Yaml
namespace Writer

/-!
Writing YAML.

Collections are written as blocks, a list no deeper than the key it belongs to.  A text stands
plain where it would be read back as that text; otherwise it is put in single quotes, and in
double quotes when it holds characters that have to be escaped.  Lines are folded at the
first gap beyond the eightieth column.
-/

/-- The column beyond which a text is continued on the next line. -/
def width : Nat := 80

/-- The styles of a text. -/
inductive Style where
  | plain
  | single
  | double
deriving DecidableEq, Repr

/-- Whether a character is printable plain text, or ends a line there. -/
def isSimple (c : Char) : Bool := c == '\n' || ('\x20' ≤ c && c ≤ '\x7e')

/-- Whether some space is next to a line break, in the given order. -/
def hasNeighbours (first second : Char) : List Char -> Bool
  | a :: b :: rest => (a == first && b == second) || hasNeighbours first second (b :: rest)
  | _ => false

/-- Whether a character after the first one is taken for a mark of the layout. -/
def hasInnerMark : List Char -> Bool
  | before :: c :: rest =>
      (c == ':' && endsWord rest.head?) || (c == '#' && endsWord (some before)) ||
        hasInnerMark (c :: rest)
  | _ => false

/-- Whether the beginning of a text is taken for a mark of the layout. -/
def hasLeadingMark (cs : List Char) : Bool :=
  match cs with
  | [] => false
  | c :: rest =>
      "#,[]\x7b\x7d&*!|>'\"%@\x60".toList.contains c ||
        ((c == '?' || c == ':' || c == '-') && endsWord rest.head?) ||
        ['-', '-', '-'].isPrefixOf cs || ['.', '.', '.'].isPrefixOf cs

/-- Whether a character is a space or a line feed. -/
def isLoose (c : Option Char) : Bool := c == some ' ' || c == some '\n'

def styleOf (text : String) : Style :=
  let cs := text.toList
  if !cs.all isSimple || hasNeighbours ' ' '\n' cs || hasNeighbours '\n' ' ' cs then .double
  else if Plain.tagOf text != .text || isLoose cs.head? || isLoose cs.getLast? ||
      cs.contains '\n' || hasLeadingMark cs || hasInnerMark cs then .single
  else .plain

/-- Spaces up to a column. -/
def pad (column : Nat) : List Char := List.replicate column ' '

/-- What is written so far and the column it ends in. -/
structure Line where
  done : List Char
  column : Nat

/-- Writes characters within a line. -/
def Line.put (line : Line) (cs : List Char) : Line := ⟨line.done ++ cs, line.column + cs.length⟩

/-- Begins a new line, indented. -/
def Line.break_ (line : Line) (indent : Nat) : Line := ⟨line.done ++ '\n' :: pad indent, indent⟩

/-- The class of a character in a text that is folded. -/
def classOf (c : Char) : Nat := if c == ' ' then 0 else if c == '\n' then 1 else 2

/-- Writes a run of characters of one class. -/
def putRun (fold : Bool) (indent : Nat) (first last : Bool) (line : Line) (run : List Char) :
    Line :=
  match (run.head?.map classOf).getD 2 with
  | 0 =>
      if fold && run.length == 1 && line.column > width && !first && !last then line.break_ indent
      else line.put run
  | 1 => ⟨line.done ++ List.replicate (run.length + 1) '\n' ++ pad indent, indent⟩
  | _ => line.put (run.flatMap fun c => if c == '\'' then ['\'', '\''] else [c])

/-- Writes runs one after another. -/
def putRuns (fold : Bool) (indent : Nat) : Bool -> Line -> List (List Char) -> Line
  | _, line, [] => line
  | first, line, run :: runs =>
      putRuns fold indent false (putRun fold indent first runs.isEmpty line run) runs

/-- A text with runs of spaces and lines folded, as it stands between single quotes. -/
def foldedText (fold : Bool) (indent column : Nat) (cs : List Char) : List Char :=
  (putRuns fold indent true ⟨[], column⟩ (cs.splitBy fun a b => classOf a == classOf b)).done

/-- A plain text, whose quotes stand for themselves. -/
def plainText (fold : Bool) (indent : Nat) : Bool -> Line -> List (List Char) -> Line
  | _, line, [] => line
  | first, line, run :: runs =>
      let line :=
        if (run.head?.map classOf) == some 2 then line.put run
        else putRun fold indent first runs.isEmpty line run
      plainText fold indent false line runs

/-- Characters with a short escape. -/
def shortEscapes : List (Char × Char) := [
  ('\x00', '0'), ('\x07', 'a'), ('\x08', 'b'), ('\t', 't'), ('\n', 'n'), ('\x0b', 'v'),
  ('\x0c', 'f'), ('\r', 'r'), ('\x1b', 'e'), ('"', '"'), ('\\', '\\'), ('\x85', 'N'),
  ('\u00A0', '_'), ('\u2028', 'L'), ('\u2029', 'P')]

/-- The escape of a character that needs one. -/
def escape? (c : Char) : Option (List Char) :=
  let capitals (width : Nat) : List Char := (Text.hex width c.toNat).toList.map Char.toUpper
  match shortEscapes.lookup c with
  | some letter => some ['\\', letter]
  | none =>
      if '\x20' ≤ c && c ≤ '\x7e' then none
      else if c.toNat ≤ 0xFF then some ('\\' :: 'x' :: capitals 2)
      else if c.toNat ≤ 0xFFFF then some ('\\' :: 'u' :: capitals 4)
      else some ('\\' :: 'U' :: capitals 8)

/--
Writes the characters between double quotes.  `held` are plain characters not written yet; a
line is continued in front of a space, which then is escaped, or behind an escape.
-/
def doubleText (fold : Bool) (indent : Nat) : Bool -> List Char -> Line -> List Char -> Line
  | _, held, line, [] => line.put held
  | first, held, line, c :: rest =>
      let inside := fold && !first && !rest.isEmpty
      match escape? c with
      | some escaped =>
          let line := (line.put held).put escaped
          if inside && line.column > width + 1 then
            let line := (line.put ['\\']).break_ indent
            let line := if rest.head? == some ' ' then line.put ['\\'] else line
            doubleText fold indent false [] line rest
          else doubleText fold indent false [] line rest
      | none =>
          if inside && (c == ' ' || held.isEmpty) && line.column + held.length > width then
            let line := (line.put (held ++ ['\\'])).break_ indent
            let line := if c == ' ' then line.put ['\\'] else line
            doubleText fold indent false [c] line rest
          else doubleText fold indent false (held ++ [c]) line rest

/-- Writes a text that begins at a column. -/
def text (fold : Bool) (indent column : Nat) (s : String) : String :=
  let cs := s.toList
  match styleOf s with
  | .plain =>
      String.ofList (plainText fold indent true ⟨[], column⟩
        (cs.splitBy fun a b => classOf a == classOf b)).done
  | .single => "'" ++ String.ofList (foldedText fold indent (column + 1) cs) ++ "'"
  | .double =>
      "\"" ++ String.ofList (doubleText fold indent true [] ⟨[], column + 1⟩ cs).done ++ "\""

/-- Writes a value that is no collection. -/
def scalar (fold : Bool) (indent column : Nat) : Value -> String
  | .null => "null"
  | .bool b => if b then "true" else "false"
  | .number (.whole n) => toString n
  | .number (.real x) => Number.Form.yaml.write x
  | .text s => text fold indent column s
  | other => text fold indent column other.display

/-- A line break and the spaces that begin the next line. -/
def newLine (indent : Nat) : String := String.ofList ('\n' :: pad indent)

mutual

/-- Writes a value behind the mark that announces it, a key's colon or the dash of an item. -/
def behind (indent column : Nat) (isUnderKey : Bool) : Value -> String
  | .list [] => " []"
  | .mapping [] => " \x7b\x7d"
  | .list (item :: more) =>
      if isUnderKey then newLine indent ++ items indent (item :: more)
      else " " ++ items (indent + 2) (item :: more)
  | .mapping (entry :: more) =>
      (if isUnderKey then newLine (indent + 2) else " ") ++ entries (indent + 2) (entry :: more)
  | other => " " ++ scalar true (indent + 2) (column + 1) other

def items (indent : Nat) : List Value -> String
  | [] => ""
  | [item] => "-" ++ behind indent (indent + 1) false item
  | item :: more =>
      "-" ++ behind indent (indent + 1) false item ++ newLine indent ++ items indent more

/-- Writes the entries of a mapping. -/
def entries (indent : Nat) : List (Value × Value) -> String
  | [] => ""
  | (key, value) :: more =>
      let name := scalar false indent indent key
      let written := name ++ ":" ++ behind indent (indent + name.length + 1) true value
      if more.isEmpty then written else written ++ newLine indent ++ entries indent more

end

def document : Value -> String
  | .list [] => "[]\n"
  | .mapping [] => "\x7b\x7d\n"
  | .list (item :: more) => items 0 (item :: more) ++ "\n"
  | .mapping (entry :: more) => entries 0 (entry :: more) ++ "\n"
  | other => scalar true 2 0 other ++ "\n"

end Writer
end Yaml
end Triage
