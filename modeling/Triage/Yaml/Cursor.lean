import Triage.Failure

namespace Triage
namespace Yaml

/-!
A place in a YAML text.

Layout decides structure, so a place knows its line and its column besides the characters
that follow.  Five characters break lines; two of them also stand for themselves in a text
that is folded over lines.
-/

/-- Why a text is not read. -/
inductive Fault where
  | malformed
  | failed (failure : Failure)

/-- Characters that may occur in a text. -/
def isAllowed (c : Char) : Bool :=
  let n := c.toNat
  c == '\t' || c == '\n' || c == '\r' || (0x20 ≤ n && n ≤ 0x7E) || n == 0x85 ||
    (0xA0 ≤ n && n ≤ 0xFFFD) || 0x10000 ≤ n

/-- The line and paragraph separators, which are kept where other breaks become line feeds. -/
def isSeparator (c : Char) : Bool := c == '\u2028' || c == '\u2029'

/-- Characters that end a line. -/
def isBreak (c : Char) : Bool := c == '\n' || c == '\r' || c == '\x85' || isSeparator c

/-- Blanks within a line. -/
def isGap (c : Char) : Bool := c == ' ' || c == '\t'

/-- Whether nothing, a blank or the end of a line comes next. -/
def endsWord : Option Char -> Bool
  | none => true
  | some c => isGap c || isBreak c

/-- Whether nothing, a space or the end of a line comes next. -/
def endsEntry : Option Char -> Bool
  | none => true
  | some c => c == ' ' || isBreak c

/-- Whether the line ends here. -/
def endsLine : Option Char -> Bool
  | none => true
  | some c => isBreak c

/-- Letters, digits, hyphens and underscores. -/
def isNameChar (c : Char) : Bool :=
  ('0' ≤ c && c ≤ '9') || ('A' ≤ c && c ≤ 'Z') || ('a' ≤ c && c ≤ 'z') || c == '-' || c == '_'

/-- A place in a text. -/
structure Cursor where
  rest : List Char
  index : Nat
  line : Nat
  column : Nat

namespace Cursor

/-- The start of a text. -/
def start (text : List Char) : Cursor := ⟨text, 0, 0, 0⟩

/-- The next character. -/
def peek (cursor : Cursor) : Option Char := cursor.rest.head?

/-- The character after the given number of further ones. -/
def peekAt (cursor : Cursor) (n : Nat) : Option Char := cursor.rest[n]?

/-- Moves over one character; a byte order mark takes no column. -/
def step (cursor : Cursor) : Cursor :=
  match cursor.rest with
  | [] => cursor
  | c :: rest =>
      if isBreak c && !(c == '\r' && rest.head? == some '\n') then
        ⟨rest, cursor.index + 1, cursor.line + 1, 0⟩
      else
        ⟨rest, cursor.index + 1, cursor.line,
          if c == '\uFEFF' then cursor.column else cursor.column + 1⟩

/-- Moves over a number of characters. -/
def skip : Nat -> Cursor -> Cursor
  | 0, cursor => cursor
  | n + 1, cursor => skip n cursor.step

/-- Moves over the characters of a class. -/
def skipWhile (cursor : Cursor) (test : Char -> Bool) : Cursor :=
  cursor.skip (cursor.rest.takeWhile test).length

/-- The characters of a class that come next, and the place after them. -/
def span (cursor : Cursor) (test : Char -> Bool) : List Char × Cursor :=
  let taken := cursor.rest.takeWhile test
  (taken, cursor.skip taken.length)

/-- Moves to the end of the line. -/
def skipLine (cursor : Cursor) : Cursor := cursor.skipWhile fun c => !isBreak c

/-- Moves over spaces and a comment. -/
def skipComment (cursor : Cursor) : Cursor :=
  let cursor := cursor.skipWhile (· == ' ')
  if cursor.peek == some '#' then cursor.skipLine else cursor

/-- The line break that comes next, as it counts in a text. -/
def lineBreak? (cursor : Cursor) : Option (Char × Cursor) :=
  match cursor.rest with
  | '\r' :: '\n' :: _ => some ('\n', cursor.skip 2)
  | c :: _ =>
      if isSeparator c then some (c, cursor.step)
      else if isBreak c then some ('\n', cursor.step)
      else none
  | [] => none

/-- Moves over a line break if one comes next. -/
def skipBreak (cursor : Cursor) : Cursor :=
  match cursor.lineBreak? with
  | some (_, next) => next
  | none => cursor

/-- Whether one of the marks between documents comes next. -/
def atMark (cursor : Cursor) (mark : Char) : Bool :=
  cursor.rest.take 3 == [mark, mark, mark] && endsWord (cursor.peekAt 3)

/-- Whether either mark between documents comes next. -/
def atAnyMark (cursor : Cursor) : Bool := cursor.atMark '-' || cursor.atMark '.'

end Cursor
end Yaml
end Triage
