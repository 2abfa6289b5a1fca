import Triage.Text.Digit
import Triage.Value

namespace Triage
namespace Yaml

/-!
What an untagged plain text means.

A few words are truth values or nothing, some spellings are numbers or stamps, and all else
is text.  A writer asks the same question: a text that would be read as anything else has to
be quoted.
-/

/-- The kinds of nodes. -/
inductive Tag where
  | null
  | bool
  | int
  | float
  | binary
  | stamp
  | ordered
  | pairs
  | set
  | text
  | sequence
  | mapping
  | merge
  | standIn
  | unknown
deriving DecidableEq, Repr, Inhabited

namespace Tag

/-- The address that the names of known kinds begin with. -/
def home : String := "tag:yaml.org,2002:"

/-- The known kinds by name. -/
def names : List (String × Tag) := [
  ("null", null), ("bool", bool), ("int", int), ("float", float), ("binary", binary),
  ("timestamp", stamp), ("omap", ordered), ("pairs", pairs), ("set", set), ("str", text),
  ("seq", sequence), ("map", mapping), ("merge", merge), ("value", standIn)]

/-- The kind of a written address. -/
def ofAddress (address : String) : Tag :=
  (names.find? fun entry => home ++ entry.1 == address).elim unknown Prod.snd

end Tag

namespace Plain

/-- Whether a character is a plain digit. -/
def isDigit (c : Char) : Bool := (Text.plainDigit? c).isSome

/-- Whether a character is a plain digit or an underscore. -/
def isDigitOrBar (c : Char) : Bool := isDigit c || c == '_'

/-- Drops a sign. -/
def unsigned : List Char -> List Char
  | '+' :: rest => rest
  | '-' :: rest => rest
  | cs => cs

/-- Whether all characters are of a class and there is one. -/
def someOf (test : Char -> Bool) (cs : List Char) : Bool := !cs.isEmpty && cs.all test

/-- A digit followed by digits and underscores. -/
def isCount : List Char -> Bool
  | c :: rest => isDigit c && rest.all isDigitOrBar
  | [] => false

/-- A count that does not begin with zero. -/
def isPositive (cs : List Char) : Bool := isCount cs && cs.head? != some '0'

/-- One or two digits below sixty. -/
def isSixtieth : List Char -> Bool
  | [c] => isDigit c
  | [c, d] => '0' ≤ c && c ≤ '5' && isDigit d
  | _ => false

/-- Splits at every occurrence of a character. -/
def splitAt (mark : Char) : List Char -> List (List Char)
  | [] => [[]]
  | c :: rest =>
      match splitAt mark rest with
      | [] => [[]]
      | part :: parts => if c == mark then [] :: part :: parts else (c :: part) :: parts

/-- A count and at least one sixtieth, separated by colons. -/
def isSexagesimal (first : List Char -> Bool) (cs : List Char) : Bool :=
  match splitAt ':' cs with
  | part :: more => first part && !more.isEmpty && more.all isSixtieth
  | [] => false

/-- Whether a text is a whole number. -/
def isInt (cs : List Char) : Bool :=
  let body := unsigned cs
  let isHex (c : Char) : Bool :=
    isDigitOrBar c || ('a' ≤ c && c ≤ 'f') || ('A' ≤ c && c ≤ 'F')
  (match body with
    | '0' :: 'b' :: rest => someOf (fun c => c == '0' || c == '1' || c == '_') rest
    | '0' :: 'x' :: rest => someOf isHex rest
    | '0' :: rest => rest.all fun c => ('0' ≤ c && c ≤ '7') || c == '_'
    | other => isPositive other) || isSexagesimal isPositive body

/-- Nothing, or an exponent with its sign. -/
def isExponent : List Char -> Bool
  | [] => true
  | e :: sign :: digits => (e == 'e' || e == 'E') && (sign == '+' || sign == '-') &&
      someOf isDigit digits
  | _ => false

/-- Whether a text is a number with a point. -/
def isFloat (cs : List Char) : Bool :=
  let body := unsigned cs
  let whole := body.takeWhile fun c => c != '.'
  let fraction := (body.drop whole.length).drop 1
  let places := fraction.takeWhile isDigitOrBar
  let exponent := fraction.drop places.length
  let word := String.ofList cs
  let hasPoint := body.contains '.'
  (hasPoint && isCount whole && isExponent exponent) ||
    (cs.head? == some '.' && isCount places && isExponent exponent) ||
    (hasPoint && isSexagesimal isCount whole && exponent.isEmpty) ||
    [".inf", ".Inf", ".INF"].contains (String.ofList body) ||
    [".nan", ".NaN", ".NAN"].contains word

/-- The parts of a written stamp. -/
structure StampParts where
  year : Nat
  month : Nat
  day : Nat
  /-- Whether month and day are written with two digits each. -/
  full : Bool
  time : Option (Nat × Nat × Nat)
  fraction : List Char
  /-- Minutes ahead of UTC. -/
  zone : Option Int

/-- Reads between one and a number of plain digits. -/
def digitsUpTo (most : Nat) (cs : List Char) : Option (List Char × List Char) :=
  let digits := (cs.take most).takeWhile isDigit
  if digits.isEmpty then none else some (digits, cs.drop digits.length)

/-- Reads exactly a number of plain digits. -/
def exactly (width : Nat) (cs : List Char) : Option (Nat × List Char) := do
  let (digits, rest) <- digitsUpTo width cs
  if digits.length == width then
    some (Text.ofDigits (digits.filterMap Text.plainDigit?), rest)
  else none

/-- The value of digits. -/
def count (digits : List Char) : Nat := Text.ofDigits (digits.filterMap Text.plainDigit?)

/-- Drops a character that has to come next. -/
def after (c : Char) : List Char -> Option (List Char)
  | d :: rest => if c == d then some rest else none
  | [] => none

/-- Reads the distance from UTC that may end a stamp. -/
def readZone (cs : List Char) : Option (Option Int) :=
  match cs.dropWhile fun c => c == ' ' || c == '\t' with
  | [] => if cs.isEmpty then some none else none
  | ['Z'] => some (some 0)
  | sign :: rest => do
      if sign != '+' && sign != '-' then none
      let (hours, rest) <- digitsUpTo 2 rest
      let minutes <- if rest.isEmpty then some 0 else do
        let (minutes, rest) <- exactly 2 (<- after ':' rest)
        if rest.isEmpty then some minutes else none
      let size : Int := 60 * count hours + minutes
      some (some (if sign == '-' then -size else size))

/-- Drops what may stand between day and time. -/
def afterDay : List Char -> Option (List Char)
  | 'T' :: rest => some rest
  | 't' :: rest => some rest
  | c :: rest =>
      if c == ' ' || c == '\t' then some (rest.dropWhile fun d => d == ' ' || d == '\t') else none
  | [] => none

/-- Reads the parts of a stamp. -/
def stampParts? (cs : List Char) : Option StampParts := do
  let (year, rest) <- exactly 4 cs
  let (month, rest) <- digitsUpTo 2 (<- after '-' rest)
  let (day, rest) <- digitsUpTo 2 (<- after '-' rest)
  let full := month.length == 2 && day.length == 2
  if rest.isEmpty then pure ⟨year, count month, count day, full, none, [], none⟩
  else
    let (hour, rest) <- digitsUpTo 2 (<- afterDay rest)
    let (minute, rest) <- exactly 2 (<- after ':' rest)
    let (second, rest) <- exactly 2 (<- after ':' rest)
    let (fraction, rest) := match rest with
      | '.' :: tail => (tail.takeWhile isDigit, tail.dropWhile isDigit)
      | other => ([], other)
    let zone <- readZone rest
    pure ⟨year, count month, count day, full, some (count hour, minute, second), fraction, zone⟩

/-- Whether a text is a stamp. -/
def isStamp (cs : List Char) : Bool :=
  match stampParts? cs with
  | some parts => parts.full || parts.time.isSome
  | none => false

def trueWords : List String := ["yes", "true", "on"]

def falseWords : List String := ["no", "false", "off"]

/-- A word in small letters, with a capital first, or in capitals. -/
def spellings (word : String) : List String := [word, word.capitalize, word.toUpper]

/-- The kind of a plain text. -/
def tagOf (text : String) : Tag :=
  let cs := text.toList
  if ((trueWords ++ falseWords).flatMap spellings).contains text then .bool
  else if isFloat cs then .float
  else if isInt cs then .int
  else if text == "<<" then .merge
  else if (["", "~"] ++ spellings "null").contains text then .null
  else if isStamp cs then .stamp
  else if text == "=" then .standIn
  else .text

end Plain
end Yaml
end Triage
