import Triage.Number.Binary64
import Triage.Text.Digit
import Triage.Yaml.Cursor

namespace Triage
namespace Yaml

/-!
Tokens of YAML, and the texts within it: plain, quoted and block texts.

Indentation shows up as tokens that open and close blocks, so that the grammar of nodes need
not look at columns.

Each function reads one text that starts at a place and returns it with the place behind it.
A text that goes over several lines is folded: a single break becomes a space, and of more
breaks the first is dropped.
-/

inductive Token where
  | version (major : Nat)
  | tagHandle (name meaning : String)
  | directive
  | documentStart
  | documentEnd
  | openSequence
  | openMapping
  | closeBlock
  | openList
  | closeList
  | openRecord
  | closeRecord
  | entry
  | comma
  | key
  | value
  | alias_ (name : String)
  | anchor (name : String)
  | tag (handle : Option String) (rest : String)
  | scalar (plain : Bool) (text : String)
deriving DecidableEq, Repr, Inhabited

namespace Token

/-- What a break between two parts of a folded text stands for, given the breaks after it. -/
def folded (first : Char) (more : List Char) : List Char :=
  if first != '\n' then first :: more else if more.isEmpty then [' '] else more

/-- Whether a character within a collection in brackets ends a plain text. -/
def isBracketMark (c : Char) : Bool := [',', '?', '[', ']', '\x7b', '\x7d'].contains c

/-- Whether a plain text ends before a character, given the one after it. -/
def endsPlain (inBrackets : Bool) (c : Char) (next : Option Char) : Bool :=
  isGap c || isBreak c ||
    (c == ':' && (endsWord next ||
      (inBrackets && ((next.map fun n => isBracketMark n && n != '?').getD false)))) ||
    (inBrackets && isBracketMark c)

/-- How many characters belong to a plain text without blanks. -/
def plainLength (inBrackets : Bool) : List Char -> Nat
  | [] => 0
  | c :: rest => if endsPlain inBrackets c rest.head? then 0 else plainLength inBrackets rest + 1

/-- The breaks and spaces after a first break, until a text or a mark between documents. -/
def plainBreaks : Nat -> Cursor -> List Char -> Option (List Char) × Cursor
  | 0, cursor, breaks => (some breaks.reverse, cursor)
  | fuel + 1, cursor, breaks =>
      if cursor.peek == some ' ' then plainBreaks fuel cursor.step breaks
      else match cursor.lineBreak? with
        | none => (some breaks.reverse, cursor)
        | some (c, next) =>
            if next.atAnyMark then (none, next) else plainBreaks fuel next (c :: breaks)

/-- What lies between two parts of a plain text; nothing when the text ends here. -/
structure Between where
  filling : List Char
  cursor : Cursor
  crossed : Bool

/-- Reads what may lie between two parts of a plain text. -/
def plainBetween (cursor : Cursor) : Between :=
  let (spaces, cursor) := cursor.span (· == ' ')
  match cursor.lineBreak? with
  | none => ⟨spaces, cursor, false⟩
  | some (first, next) =>
      if next.atAnyMark then ⟨[], next, true⟩
      else match plainBreaks (next.rest.length + 1) next [] with
        | (none, next) => ⟨[], next, true⟩
        | (some breaks, next) => ⟨folded first breaks, next, true⟩

/-- A plain text read so far. -/
structure PlainText where
  done : List Char
  cursor : Cursor
  /-- Whether the last blanks crossed a line, so that a key may start behind them. -/
  crossed : Bool

/-- Reads the parts of a plain text; `filling` is what lies before the next part. -/
def plainParts (inBrackets : Bool) (indent : Int) : Nat -> List Char -> PlainText -> PlainText
  | 0, _, text => text
  | fuel + 1, filling, text =>
      let length := plainLength inBrackets text.cursor.rest
      if text.cursor.peek == some '#' || length == 0 then text
      else
        let part := text.cursor.rest.take length
        let between := plainBetween (text.cursor.skip length)
        let text := ⟨text.done ++ filling ++ part, between.cursor, between.crossed⟩
        if between.filling.isEmpty || between.cursor.peek == some '#' ||
            (!inBrackets && (between.cursor.column : Int) < indent) then text
        else plainParts inBrackets indent fuel between.filling text

/-- Reads a plain text inside a block of the given indentation. -/
def readPlain (inBrackets : Bool) (indent : Int) (cursor : Cursor) : PlainText :=
  plainParts inBrackets (indent + 1) (cursor.rest.length + 1) [] ⟨[], cursor, false⟩

/-- Characters that stand for others after a backslash. -/
def escapes : List (Char × Char) := [
  ('0', '\x00'), ('a', '\x07'), ('b', '\x08'), ('t', '\t'), ('\t', '\t'), ('n', '\n'),
  ('v', '\x0b'), ('f', '\x0c'), ('r', '\r'), ('e', '\x1b'), (' ', ' '), ('"', '"'),
  ('\\', '\\'), ('/', '/'), ('N', '\x85'), ('_', '\u00A0'), ('L', '\u2028'), ('P', '\u2029')]

/-- How many digits follow a letter that announces a code. -/
def codeWidth? (c : Char) : Option Nat := [('x', 2), ('u', 4), ('U', 8)].lookup c

/-- The value of a hexadecimal digit. -/
def hexValue? (c : Char) : Option Nat :=
  if '0' ≤ c && c ≤ '9' then some (c.toNat - 48)
  else if 'a' ≤ c && c ≤ 'f' then some (c.toNat - 87)
  else if 'A' ≤ c && c ≤ 'F' then some (c.toNat - 55)
  else none

/-- Reads exactly a number of hexadecimal digits. -/
def readHex? (width : Nat) (cs : List Char) : Option Nat :=
  let digits := (cs.take width).filterMap hexValue?
  if digits.length == width then some (digits.foldl (fun value d => 16 * value + d) 0) else none

/-- The character of a code. -/
def charOfCode (code : Nat) : Except Fault Char :=
  if code < 0x110000 then .ok (Char.ofNat code)
  else if code < Number.twoTo 31 then
    .error (.failed (.badValue "chr() arg not in range(0x110000)"))
  else .error (.failed (.outOfRange "Python int too large to convert to C int"))

/-- The breaks inside a quoted text after a first one, blanks at the ends of lines dropped. -/
def quotedBreaks : Nat -> Cursor -> List Char -> Except Fault (List Char × Cursor)
  | 0, cursor, breaks => .ok (breaks.reverse, cursor)
  | fuel + 1, cursor, breaks =>
      if cursor.atAnyMark then .error .malformed
      else
        let cursor := cursor.skipWhile isGap
        match cursor.lineBreak? with
        | some (c, next) => quotedBreaks fuel next (c :: breaks)
        | none => .ok (breaks.reverse, cursor)

/-- Reads a quoted text up to its closing quote; `done` holds what was read, in reverse. -/
def quotedParts (quote : Char) : Nat -> Cursor -> List Char -> Except Fault (String × Cursor)
  | 0, _, _ => .error .malformed
  | fuel + 1, cursor, done =>
      match cursor.rest with
      | [] => .error .malformed
      | c :: rest =>
          if c == quote then
            if quote == '\'' && rest.head? == some '\'' then
              quotedParts quote fuel (cursor.skip 2) ('\'' :: done)
            else .ok (String.ofList done.reverse, cursor.step)
          else if c == '\\' && quote == '"' then
            match rest with
            | [] => .error .malformed
            | e :: digits =>
                match escapes.lookup e, codeWidth? e with
                | some meant, _ => quotedParts quote fuel (cursor.skip 2) (meant :: done)
                | none, some width =>
                    match readHex? width digits with
                    | none => .error .malformed
                    | some code => do
                        let meant <- charOfCode code
                        quotedParts quote fuel (cursor.skip (2 + width)) (meant :: done)
                | none, none =>
                    match cursor.step.lineBreak? with
                    | none => .error .malformed
                    | some (_, next) => do
                        let (breaks, next) <- quotedBreaks (next.rest.length + 1) next []
                        quotedParts quote fuel next (breaks.reverse ++ done)
          else if isGap c || isBreak c then
            let (gap, next) := cursor.span isGap
            match next.lineBreak? with
            | some (first, next) => do
                let (breaks, next) <- quotedBreaks (next.rest.length + 1) next []
                quotedParts quote fuel next ((folded first breaks).reverse ++ done)
            | none => quotedParts quote fuel next (gap.reverse ++ done)
          else quotedParts quote fuel cursor.step (c :: done)

/-- Reads a text in quotes. -/
def readQuoted (quote : Char) (cursor : Cursor) : Except Fault (String × Cursor) :=
  quotedParts quote (cursor.rest.length + 1) cursor.step []

/-- What to do with the breaks at the end of a block text. -/
inductive Chomping where
  | strip
  | clip
  | keep
deriving DecidableEq, Repr

/-- The chomping that a sign asks for. -/
def chomping? : Option Char -> Option Chomping
  | some '+' => some .keep
  | some '-' => some .strip
  | _ => none

/-- The indentation that a digit asks for; zero is refused. -/
def indentDigit? (c : Option Char) : Option Nat := c.bind Text.plainDigit?

/-- Reads the signs after the mark of a block text. -/
def blockHeader (cursor : Cursor) : Except Fault (Chomping × Option Nat × Cursor) := do
  let (chomping, cursor) := match chomping? cursor.peek with
    | some chomping => (some chomping, cursor.step)
    | none => (none, cursor)
  let (increment, cursor) := match indentDigit? cursor.peek with
    | some digit => (some digit, cursor.step)
    | none => (none, cursor)
  let (chomping, cursor) := match chomping, chomping? cursor.peek with
    | none, some chomping => if increment.isSome then (some chomping, cursor.step) else (none, cursor)
    | known, _ => (known, cursor)
  if increment == some 0 || !endsEntry cursor.peek then throw .malformed
  let cursor := cursor.skipComment
  if !endsLine cursor.peek then throw .malformed
  pure (chomping.getD .clip, increment, cursor.skipBreak)

/-- Leading breaks of a block text and the deepest indentation among them. -/
def blockIndentation : Nat -> Cursor -> List Char -> Nat -> List Char × Nat × Cursor
  | 0, cursor, breaks, deepest => (breaks.reverse, deepest, cursor)
  | fuel + 1, cursor, breaks, deepest =>
      if cursor.peek == some ' ' then
        blockIndentation fuel cursor.step breaks (max deepest cursor.step.column)
      else match cursor.lineBreak? with
        | some (c, next) => blockIndentation fuel next (c :: breaks) deepest
        | none => (breaks.reverse, deepest, cursor)

/-- Moves over spaces up to a column. -/
def skipIndent (indent : Nat) (cursor : Cursor) : Cursor :=
  cursor.skip (min (indent - cursor.column) (cursor.rest.takeWhile (· == ' ')).length)

/-- Empty lines of a block text. -/
def blockBreaks (indent : Nat) : Nat -> Cursor -> List Char -> List Char × Cursor
  | 0, cursor, breaks => (breaks.reverse, cursor)
  | fuel + 1, cursor, breaks =>
      let cursor := skipIndent indent cursor
      match cursor.lineBreak? with
      | some (c, next) => blockBreaks indent fuel next (c :: breaks)
      | none => (breaks.reverse, cursor)

/-- What the lines of a block text come to: the text, its last break, and empty lines behind. -/
structure BlockText where
  done : List Char
  lastBreak : List Char
  breaks : List Char
  cursor : Cursor

/-- Reads the lines of a block text. -/
def blockLines (fold : Bool) (indent : Nat) : Nat -> BlockText -> BlockText
  | 0, text => text
  | fuel + 1, text =>
      if text.cursor.column != indent || text.cursor.rest.isEmpty then text
      else
        let startsText := !((text.cursor.peek.map isGap).getD false)
        let (line, cursor) := text.cursor.span fun c => !isBreak c
        let (lastBreak, cursor) := match cursor.lineBreak? with
          | some (c, next) => ([c], next)
          | none => ([], cursor)
        let (breaks, cursor) := blockBreaks indent (cursor.rest.length + 1) cursor []
        let done := text.done ++ text.breaks ++ line
        if cursor.column == indent && !cursor.rest.isEmpty then
          let folds := fold && lastBreak == ['\n'] && startsText &&
            !((cursor.peek.map isGap).getD false)
          let filling := if !folds then lastBreak else if breaks.isEmpty then [' '] else []
          blockLines fold indent fuel ⟨done ++ filling, lastBreak, breaks, cursor⟩
        else ⟨done, lastBreak, breaks, cursor⟩

/-- Reads a block text whose mark comes next, inside a block of the given indentation. -/
def readBlock (fold : Bool) (indent : Int) (cursor : Cursor) :
    Except Fault (String × Cursor) := do
  let (chomping, increment, cursor) <- blockHeader cursor.step
  let least := max 1 (indent + 1).toNat
  let fuel := cursor.rest.length + 1
  let (breaks, indent, cursor) := match increment with
    | none =>
        let (breaks, deepest, cursor) := blockIndentation fuel cursor [] 0
        (breaks, max least deepest, cursor)
    | some increment =>
        let indent := least + increment - 1
        let (breaks, cursor) := blockBreaks indent fuel cursor []
        (breaks, indent, cursor)
  let text := blockLines fold indent fuel ⟨[], [], breaks, cursor⟩
  let ending := match chomping with
    | .strip => []
    | .clip => text.lastBreak
    | .keep => text.lastBreak ++ text.breaks
  pure (String.ofList (text.done ++ ending), text.cursor)

end Token
end Yaml
end Triage
