import Registrar.Calendar.Date
import Registrar.Text.Lowercase
import Registrar.Text.Numeral

/-!
# Academic periods

A year has two terms: January to June and August to December.  July belongs to neither.  A
period is a term of a year.

* `Period.label` writes a period and `Period.read` reads one, in English or Spanish, in any
  letter case and with any blanks inside the name of the term.
* `Period.next`: the period that follows.
* `Period.contains`, `Period.hasEnded`: where a date lies.
-/

namespace Registrar

/-- Half a year of teaching. -/
inductive Term where
  /-- January to June. -/
  | a
  /-- August to December. -/
  | b
  deriving DecidableEq

namespace Term

/-- The terms of a year, in order. -/
def all : List Term := [a, b]

/-- The name of a term. -/
def label : Term → String
  | a => "January-June"
  | b => "August-December"

/-- The letter that stands for a term. -/
def code : Term → String
  | a => "A"
  | b => "B"

/-- The month in which a term begins. -/
def firstMonth : Term → Nat
  | a => 1
  | b => 8

/-- The month at whose end a term ends. -/
def lastMonth : Term → Nat
  | a => 6
  | b => 12

/-- The term with this name, in English or Spanish; letter case and blanks do not matter. -/
def read? (raw : List Char) : Option Term :=
  let name := Text.lowercase (.ofList (raw.filter (!Text.isBlank ·)))
  if name = "january-june" ∨ name = "enero-junio" then some a
  else if name = "august-december" ∨ name = "agosto-diciembre" then some b
  else none

end Term

/-- A term of a year. -/
structure Period where
  /-- The year. -/
  year : Int
  /-- The term. -/
  term : Term
  deriving DecidableEq

/-- Why no period can be read from a text. -/
inductive PeriodError where
  /-- No term has this name. -/
  | unknownLabel (label : String)
  /-- There is a term and no year. -/
  | missingYear
  /-- The year is not four digits. -/
  | invalidYear (year : String)
  deriving DecidableEq

/-- What the caller is told. -/
def PeriodError.message : PeriodError → String
  | unknownLabel label =>
    "unrecognized term label '" ++ label ++ "' (expected January-June or August-December)"
  | missingYear => "period is missing its year"
  | invalidYear year => "invalid year '" ++ year ++ "' (expected four digits)"

namespace Period

/-- The text of a period: its term and its year. -/
def label (p : Period) : String := p.term.label ++ " " ++ Text.numeral p.year

/-- The period that follows. -/
def next (p : Period) : Period :=
  match p.term with
  | .a => ⟨p.year, .b⟩
  | .b => ⟨p.year + 1, .a⟩

/-- The first period comes before the second one. -/
def before (p q : Period) : Bool :=
  p.year < q.year || (p.year = q.year && p.term = .a && q.term = .b)

/-- The date lies in the period. -/
def contains (p : Period) (d : Date) : Bool :=
  d.year = p.year && p.term.firstMonth ≤ d.month && d.month ≤ p.term.lastMonth

/-- The period is over on the date. -/
def hasEnded (p : Period) (d : Date) : Bool :=
  p.year < d.year || (d.year = p.year && p.term.lastMonth < d.month)

/-- A trimmed text cut into the name of a term and the digits of a year.  The year is what
follows the last blank, if that is all digits; a last word that mixes digits with others is no
year. -/
def cut (cs : List Char) : Except PeriodError (List Char × Option (List Char)) :=
  match Text.cutLast? Text.isBlank cs with
  | some (label, year) =>
    if year.all Char.isDigit then .ok (label, some year)
    else if year.any Char.isDigit then .error (.invalidYear (.ofList year))
    else .ok (cs, none)
  | none => .ok (cs, none)

/-- The period that a text names: a term, a blank and a year of four digits. -/
def read (raw : String) : Except PeriodError Period := do
  let (label, year) ← cut (Text.trimChars raw.toList)
  match Term.read? label, year with
  | none, _ => .error (.unknownLabel (.ofList label))
  | some _, none => .error .missingYear
  | some term, some digits =>
    if digits.length = 4 then
      match Text.int32? digits with
      | some year => .ok ⟨year.toInt, term⟩
      | none => .error (.invalidYear (.ofList digits))
    else .error (.invalidYear (.ofList digits))

end Period

end Registrar
