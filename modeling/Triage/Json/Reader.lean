import Triage.Value
import Triage.Number.Reading

namespace Triage
namespace Json

/-!
Reading JSON text.

Besides standard JSON the reader takes the words `NaN`, `Infinity` and `-Infinity`.  A number
with a fraction or an exponent is a double, any other a whole number of any size.  Of equal
keys the last value counts.  A complaint names the first place where reading cannot go on.
-/

/-- What is wrong at the place of a complaint. -/
inductive Cause where
  | expectingValue
  | expectingKey
  | expectingColon
  | expectingComma
  | unterminatedString
  | controlCharacter
  | badEscape
  | badCodeEscape
  | extraData
  | byteOrderMark
deriving DecidableEq, Repr

/-- The wording of a cause. -/
def Cause.message : Cause -> String
  | .expectingValue => "Expecting value"
  | .expectingKey => "Expecting property name enclosed in double quotes"
  | .expectingColon => "Expecting ':' delimiter"
  | .expectingComma => "Expecting ',' delimiter"
  | .unterminatedString => "Unterminated string starting at"
  | .controlCharacter => "Invalid control character at"
  | .badEscape => "Invalid \\escape"
  | .badCodeEscape => "Invalid \\uXXXX escape"
  | .extraData => "Extra data"
  | .byteOrderMark => "Unexpected UTF-8 BOM (decode using utf-8-sig)"

/-- A cause and how many characters of the text were left at its place. -/
inductive Fault where
  | syntax_ (cause : Cause) (left : Nat)
  | number (fault : Number.IntFault)
deriving DecidableEq, Repr

/-- Line, column and offset of a place, counted from one, one and zero. -/
def placeText (text : List Char) (offset : Nat) : String :=
  let before := text.take offset
  let line := before.count '\n' + 1
  let column := (before.reverse.takeWhile fun c => c != '\n').length + 1
  "line " ++ toString line ++ " column " ++ toString column ++ " (char " ++
    toString offset ++ ")"

/-- The wording of a fault. -/
def Fault.message (text : String) : Fault -> String
  | .syntax_ cause left =>
      let cs := text.toList
      cause.message ++ ": " ++ placeText cs (cs.length - left)
  | .number fault => fault.message

/-- A complaint at the start of some rest of the text. -/
def fail {A : Type} (cause : Cause) (rest : List Char) : Except Fault A :=
  .error (.syntax_ cause rest.length)

/-- Drops white space, of which JSON knows four characters. -/
def skip (cs : List Char) : List Char :=
  cs.dropWhile fun c => c == ' ' || c == '\t' || c == '\n' || c == '\r'

/-- The value of a hexadecimal digit. -/
def hexValue? (c : Char) : Option Nat :=
  if '0' ≤ c && c ≤ '9' then some (c.toNat - 48)
  else if 'a' ≤ c && c ≤ 'f' then some (c.toNat - 87)
  else if 'A' ≤ c && c ≤ 'F' then some (c.toNat - 55)
  else none

/-- Reads four hexadecimal digits that do not end the text. -/
def readUnit? (cs : List Char) : Option (Nat × List Char) :=
  let digits := (cs.take 4).filterMap hexValue?
  if digits.length == 4 && cs.length > 4 then
    some (digits.foldl (fun value d => 16 * value + d) 0, cs.drop 4)
  else none

/-- The character of a unit, joined with a second unit when the two form a pair. -/
def joinUnits (unit : Nat) (rest : List Char) : Char × List Char :=
  let second := match rest with
    | '\\' :: 'u' :: tail => readUnit? tail
    | _ => none
  match second with
  | some (low, tail) =>
      if 0xD800 ≤ unit && unit < 0xDC00 && 0xDC00 ≤ low && low < 0xE000 then
        (Char.ofNat (0x10000 + (unit - 0xD800) * 0x400 + (low - 0xDC00)), tail)
      else (if 0xD800 ≤ unit && unit < 0xE000 then '\uFFFD' else Char.ofNat unit, rest)
  | none => (if 0xD800 ≤ unit && unit < 0xE000 then '\uFFFD' else Char.ofNat unit, rest)

/-- The character that a short escape stands for. -/
def shortEscape? (c : Char) : Option Char :=
  if c == '"' || c == '\\' || c == '/' then some c
  else if c == 'b' then some '\x08'
  else if c == 'f' then some '\x0c'
  else if c == 'n' then some '\n'
  else if c == 'r' then some '\r'
  else if c == 't' then some '\t'
  else none

/--
Reads the characters of a string up to its closing quote; `start` is how many characters were
left at the opening one, and the collected characters are in reverse.
-/
def readChars (start : Nat) : Nat -> List Char -> List Char -> Except Fault (String × List Char)
  | 0, _, _ => .error (.syntax_ .unterminatedString start)
  | _ + 1, [], _ => .error (.syntax_ .unterminatedString start)
  | fuel + 1, c :: rest, done =>
      if c == '"' then .ok (String.ofList done.reverse, rest)
      else if c == '\\' then
        match rest with
        | [] => .error (.syntax_ .unterminatedString start)
        | e :: tail =>
            if e == 'u' then
              match readUnit? tail with
              | none => fail .badCodeEscape rest
              | some (unit, tail) =>
                  let (joined, tail) := joinUnits unit tail
                  readChars start fuel tail (joined :: done)
            else match shortEscape? e with
              | some meant => readChars start fuel tail (meant :: done)
              | none => fail .badEscape (c :: rest)
      else if c.toNat < 0x20 then fail .controlCharacter (c :: rest)
      else readChars start fuel rest (c :: done)

/-- Reads a string whose opening quote was just passed. -/
def readString (cs : List Char) : Except Fault (String × List Char) :=
  readChars (cs.length + 1) (cs.length + 1) cs []

/-- Whether a character is a plain digit. -/
def isPlain (c : Char) : Bool := (Text.plainDigit? c).isSome

/-- The fraction at the front, if there is one. -/
def fractionPart (cs : List Char) : List Char × List Char :=
  match cs with
  | '.' :: tail =>
      let digits := tail.takeWhile isPlain
      if digits.isEmpty then ([], cs) else ('.' :: digits, tail.dropWhile isPlain)
  | _ => ([], cs)

/-- The exponent at the front, if there is one. -/
def exponentPart (cs : List Char) : List Char × List Char :=
  match cs with
  | e :: tail =>
      let (sign, rest) := match tail with
        | '+' :: more => (['+'], more)
        | '-' :: more => (['-'], more)
        | more => ([], more)
      let digits := rest.takeWhile isPlain
      if (e == 'e' || e == 'E') && !digits.isEmpty then
        (e :: (sign ++ digits), rest.dropWhile isPlain)
      else ([], cs)
  | [] => ([], cs)

/-- Reads a number at the front. -/
def readNumber (cs : List Char) : Except Fault (Value × List Char) :=
  let (sign, rest) := match cs with
    | '-' :: rest => (['-'], rest)
    | rest => ([], rest)
  let whole := match rest with
    | '0' :: _ => ['0']
    | _ => rest.takeWhile isPlain
  if whole.isEmpty then fail .expectingValue cs
  else
    let (fraction, rest) := fractionPart (rest.drop whole.length)
    let (exponent, rest) := exponentPart rest
    let text := String.ofList (sign ++ whole ++ fraction ++ exponent)
    if fraction.isEmpty && exponent.isEmpty then
      match Number.readInt text with
      | .ok n => .ok (.int n, rest)
      | .error fault => .error (.number fault)
    else .ok (.float ((Number.readFloat? text).getD 0.0), rest)

/-- The values that are written as words. -/
def words : List (List Char × Value) := [
  ("null".toList, .null),
  ("true".toList, .bool true),
  ("false".toList, .bool false),
  ("NaN".toList, .float (0.0 / 0.0)),
  ("Infinity".toList, .float (1.0 / 0.0)),
  ("-Infinity".toList, .float (-1.0 / 0.0))]

/-- Reads a word or a number at the front. -/
def readPlain (cs : List Char) : Except Fault (Value × List Char) :=
  match words.find? fun word => word.1.isPrefixOf cs with
  | some (word, value) => .ok (value, cs.drop word.length)
  | none => readNumber cs

mutual

/-- Reads a value at the front; the fuel bounds the values and separators still to come. -/
def readValue : Nat -> List Char -> Except Fault (Value × List Char)
  | 0, cs => fail .expectingValue cs
  | fuel + 1, cs =>
      match cs with
      | '"' :: rest => do
          let (s, rest) <- readString rest
          pure (.text s, rest)
      | '[' :: rest =>
          match skip rest with
          | ']' :: after => .ok (.list [], after)
          | items => do
              let (items, rest) <- readItems fuel items
              pure (.list items, rest)
      | '\x7b' :: rest =>
          match skip rest with
          | '\x7d' :: after => .ok (.mapping [], after)
          | entries => do
              let (entries, rest) <- readEntries fuel entries []
              pure (.mapping entries, rest)
      | cs => readPlain cs

/-- Reads the items of a list up to its closing bracket. -/
def readItems : Nat -> List Char -> Except Fault (List Value × List Char)
  | 0, cs => fail .expectingValue cs
  | fuel + 1, cs => do
      let (item, rest) <- readValue fuel cs
      match skip rest with
      | ']' :: after => pure ([item], after)
      | ',' :: more => do
          let (items, rest) <- readItems fuel (skip more)
          pure (item :: items, rest)
      | other => fail .expectingComma other

/-- Reads the entries of an object up to its closing brace. -/
def readEntries : Nat -> List Char -> List (Value × Value) ->
    Except Fault (List (Value × Value) × List Char)
  | 0, cs, _ => fail .expectingKey cs
  | fuel + 1, cs, done =>
      match cs with
      | '"' :: rest => do
          let (key, rest) <- readString rest
          match skip rest with
          | ':' :: more => do
              let (value, rest) <- readValue fuel (skip more)
              let done := Value.putEntry done (.text key) value
              match skip rest with
              | '\x7d' :: after => pure (done, after)
              | ',' :: more => readEntries fuel (skip more) done
              | other => fail .expectingComma other
          | other => fail .expectingColon other
      | other => fail .expectingKey other

end

/-- Reads a whole text. -/
def read (text : String) : Except Fault Value := do
  let cs := text.toList
  if cs.head? == some '\uFEFF' then fail .byteOrderMark cs
  else
    let (value, rest) <- readValue (cs.length + 1) (skip cs)
    match skip rest with
    | [] => pure value
    | other => fail .extraData other

end Json
end Triage
