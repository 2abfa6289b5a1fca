import Triage.Number.Binary64
import Triage.Template.Fault
import Triage.Text.Digit

namespace Triage
namespace Template

/-!
Layouts: how a text is set into a field of a message.

A layout may give a width with an alignment and a filling, and a most number of characters.
It knows more options, which only make sense for numbers and are refused for texts.
-/

/-- Where a text stands in a wider field. -/
inductive Alignment where
  | left
  | right
  | middle
  | numeric
deriving DecidableEq, Repr

/-- The alignment of a mark. -/
def alignment? (c : Char) : Option Alignment :=
  [('<', Alignment.left), ('>', .right), ('^', .middle), ('=', .numeric)].lookup c

/-- The options of a layout. -/
structure Layout where
  fill : Char
  alignment : Alignment
  sign : Option Char
  zero : Bool
  alternate : Bool
  width : Option Nat
  separator : Option Char
  precision : Option Nat
  kind : Char
deriving Repr

namespace Layout

/-- The largest number a template may write. -/
def largest : Nat := Number.twoTo 63 - 1

/-- Reads a number at the front, if there is one. -/
def number (cs : List Char) : Except Fault (Option Nat × List Char) :=
  let digits := cs.takeWhile Text.isDigit
  if digits.isEmpty then .ok (none, cs)
  else
    let value := Text.ofDigits (digits.filterMap Text.digitValue?)
    if largest < value then .error (.form .tooManyDigits)
    else .ok (some value, cs.drop digits.length)

/-- Takes a character off the front if it is a given one. -/
def taken (c : Char) (cs : List Char) : Bool × List Char :=
  if cs.head? == some c then (true, cs.drop 1) else (false, cs)

/-- Reads filling and alignment. -/
def readAlignment (cs : List Char) : Option Char × Option Alignment × List Char :=
  match cs with
  | c :: d :: rest =>
      match alignment? d, alignment? c with
      | some alignment, _ => (some c, some alignment, rest)
      | none, some alignment => (none, some alignment, d :: rest)
      | none, none => (none, none, cs)
  | [c] =>
      match alignment? c with
      | some alignment => (none, some alignment, [])
      | none => (none, none, cs)
  | [] => (none, none, [])

/-- Reads the marks between thousands. -/
def readSeparator (cs : List Char) : Except Fault (Option Char × List Char) :=
  let (comma, cs) := taken ',' cs
  let (bar, cs) := taken '_' cs
  if (comma && bar) || (bar && cs.head? == some ',') then .error (.form .bothSeparators)
  else .ok (if comma then some ',' else if bar then some '_' else none, cs)

/-- Reads the most number of characters after a point. -/
def readPrecision (cs : List Char) : Except Fault (Option Nat × List Char) :=
  match cs with
  | '.' :: rest => do
      match <- number rest with
      | (none, _) => throw (.form .missingPrecision)
      | found => pure found
  | _ => .ok (none, cs)

/-- Whether thousands may be marked in a kind. -/
def separates (mark kind : Char) : Bool :=
  "defgEG%F".contains kind || (mark == '_' && "boxX".contains kind)

def read (text : List Char) : Except Fault Layout := do
  let (fill, alignment, cs) := readAlignment text
  let (sign, cs) := match cs with
    | c :: rest => if c == ' ' || c == '+' || c == '-' then (some c, rest) else (none, cs)
    | [] => (none, cs)
  let (zero, cs) := taken 'z' cs
  let (alternate, cs) := taken '#' cs
  let (zeroFill, cs) := if fill.isNone then taken '0' cs else (false, cs)
  let (width, cs) <- number cs
  let (separator, cs) <- readSeparator cs
  let (precision, cs) <- readPrecision cs
  let kind <- match cs with
    | [] => pure 's'
    | [c] => pure c
    | _ => throw (.form (.layout (String.ofList text)))
  match separator with
  | some mark => if !separates mark kind then throw (.form (.separator mark kind))
  | none => pure ()
  pure {
    fill := fill.getD (if zeroFill then '0' else ' ')
    alignment := alignment.getD .left
    sign, zero, alternate, width, separator, precision, kind }

/-- Refuses the options that a text cannot follow. -/
def checkText (layout : Layout) : Except Fault Unit :=
  if layout.kind != 's' then .error (.form (.layoutKind layout.kind))
  else if layout.sign == some ' ' then .error (.form .space)
  else if layout.sign.isSome then .error (.form .sign)
  else if layout.zero then .error (.form .zero)
  else if layout.alternate then .error (.form .alternate)
  else if layout.alignment == .numeric then .error (.form .numericAlignment)
  else .ok ()

/-- Sets a text. -/
def set (layout : Layout) (cs : List Char) : List Char :=
  let kept := match layout.precision with
    | some most => cs.take most
    | none => cs
  let missing := layout.width.getD 0 - kept.length
  let before := match layout.alignment with
    | .right => missing
    | .middle => missing / 2
    | _ => 0
  List.replicate before layout.fill ++ kept ++ List.replicate (missing - before) layout.fill

/-- Sets a text by a written layout. -/
def apply (text : List Char) (s : String) : Except Fault String :=
  if text.isEmpty then .ok s
  else do
    let layout <- read text
    layout.checkText
    pure (String.ofList (layout.set s.toList))

end Layout
end Template
end Triage
