namespace Triage
namespace Text

/-!
Blank characters and trimming.

Two classes occur.  Field values are trimmed of every blank, which includes the four
information separators; texts that are read as numbers or instants are trimmed only of
white space proper, which does not.
-/

/-- White space as the character property of that name lists it. -/
def isSpace (c : Char) : Bool :=
  let n := c.toNat
  (9 ≤ n && n ≤ 13) || n == 0x20 || n == 0x85 || n == 0xA0 || n == 0x1680 ||
    (0x2000 ≤ n && n ≤ 0x200A) || n == 0x2028 || n == 0x2029 || n == 0x202F ||
    n == 0x205F || n == 0x3000

/-- A blank is white space or one of the separators U+001C to U+001F. -/
def isBlank (c : Char) : Bool :=
  isSpace c || (0x1C ≤ c.toNat && c.toNat ≤ 0x1F)

theorem isBlank_of_isSpace {c : Char} (space : isSpace c = true) : isBlank c = true := by
  simp [isBlank, space]

/-- Removes the longest run of characters of a class from both ends. -/
def trimOf (drop : Char -> Bool) (cs : List Char) : List Char :=
  (((cs.dropWhile drop).reverse).dropWhile drop).reverse

/-- Removes blanks from both ends. -/
def trim (s : String) : String :=
  String.ofList (trimOf isBlank s.toList)

/-- Removes white space from both ends. -/
def trimSpace (s : String) : String :=
  String.ofList (trimOf isSpace s.toList)

/-- Whether only blanks occur, the empty text included. -/
def allBlank (s : String) : Bool :=
  s.toList.all isBlank

/-- Drops a run from the front and says how the text came apart. -/
theorem takeWhile_append_dropWhile_eq (drop : Char -> Bool) (cs : List Char) :
    cs.takeWhile drop ++ cs.dropWhile drop = cs :=
  List.takeWhile_append_dropWhile

theorem trimOf_nil (drop : Char -> Bool) : trimOf drop [] = [] := rfl

end Text
end Triage
