import Triage.Text.Printable

namespace Triage
namespace Text

/-!
Quoted text.

A quoted text stands between single quotes, or between double quotes when it holds a single
quote and no double one.  The enclosing quote and the backslash are escaped, and so is every
character that may not be shown.
-/

/-- Lower-case hexadecimal digits, padded with zeros to a width. -/
def hex (width n : Nat) : String :=
  let digits := Nat.toDigits 16 n
  String.ofList (List.replicate (width - digits.length) '0' ++ digits)

/-- The escape of a character that is not shown: two, four or eight hexadecimal digits. -/
def codeEscape (c : Char) : String :=
  let n := c.toNat
  if n < 0x100 then "\\x" ++ hex 2 n
  else if n < 0x10000 then "\\u" ++ hex 4 n
  else "\\U" ++ hex 8 n

/-- One character of a quoted text, given the enclosing quote and the characters to show. -/
def quotedChar (shown : Char -> Bool) (quote c : Char) : String :=
  if c == quote || c == '\\' then String.ofList ['\\', c]
  else if c == '\t' then "\\t"
  else if c == '\n' then "\\n"
  else if c == '\r' then "\\r"
  else if shown c then c.toString
  else codeEscape c

def enclosingQuote (s : String) : Char :=
  if s.toList.contains '\'' && !s.toList.contains '"' then '"' else '\''

/-- Quotes a text, showing only the given characters as they are. -/
def quotedWith (shown : Char -> Bool) (s : String) : String :=
  let quote := enclosingQuote s
  quote.toString ++ String.join (s.toList.map (quotedChar shown quote)) ++ quote.toString

/-- Quotes a text, showing every printable character. -/
def quoted (s : String) : String :=
  quotedWith isPrintable s

/-- Quotes a text in plain characters only. -/
def quotedPlain (s : String) : String :=
  quotedWith (fun c => 0x20 ≤ c.toNat && c.toNat < 0x7F) s

/-- Quotes a row of bytes, with the letter that marks bytes in front. -/
def quotedBytes (bytes : List UInt8) : String :=
  let s := String.ofList (bytes.map fun b => Char.ofNat b.toNat)
  "b" ++ quotedWith (fun c => 0x20 ≤ c.toNat && c.toNat < 0x7F) s

/-- The texts of a sequence, separated by a comma and a blank, in square brackets. -/
def bracketed (items : List String) : String :=
  "[" ++ String.intercalate ", " items ++ "]"

end Text
end Triage
