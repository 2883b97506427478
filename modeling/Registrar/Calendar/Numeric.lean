import Registrar.Calendar.Date
import Registrar.Text.Numeral

/-!
# Dates in numbers

A date is written as year, month and day with hyphens between them.  The year has up to four
digits, or a sign and any number of them; month and day have one or two.  Blanks may stand around
each number, but not inside it and not between a sign and its digits.

* `Date.read?`: the date that a text names.
-/

namespace Registrar.Date

/-- The characters without the blanks in front. -/
def skipBlanks (cs : List Char) : List Char := cs.dropWhile Text.isBlank

/-- The digits in front, at most `most` of them, and what follows them. -/
def takeNumber? (most : Nat) (cs : List Char) : Option (Nat × List Char) :=
  let digits := (cs.take most).takeWhile Char.isDigit
  (Text.digits? digits).map (·, cs.drop digits.length)

/-- The year in front and what follows it. -/
def takeYear? : List Char → Option (Int × List Char)
  | '-' :: cs => (takeNumber? cs.length cs).map fun (n, rest) => (-(n : Int), rest)
  | '+' :: cs => (takeNumber? cs.length cs).map fun (n, rest) => ((n : Int), rest)
  | cs => (takeNumber? 4 cs).map fun (n, rest) => ((n : Int), rest)

/-- What follows a hyphen that may have blanks in front. -/
def afterHyphen? (cs : List Char) : Option (List Char) := Text.after? ['-'] (skipBlanks cs)

/-- The years that a date in numbers may have. -/
def inRange (year : Int) : Bool := -262143 ≤ year && year ≤ 262142

/-- The date that a text names. -/
def read? (raw : String) : Option Date := do
  let (year, rest) ← takeYear? (skipBlanks raw.toList)
  let (month, rest) ← takeNumber? 2 (skipBlanks (← afterHyphen? rest))
  let (day, rest) ← takeNumber? 2 (skipBlanks (← afterHyphen? rest))
  if skipBlanks rest = [] ∧ inRange year then ofYmd? year month day else none

end Registrar.Date
