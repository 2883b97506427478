import Registrar.Calendar.Period
import Registrar.Rejection

/-!
# Which periods are open

Courses are authored for periods that have not begun.  `openPeriods` lists them as of a date:
what is left of this year and the whole of the next one.  `Period.assess` says whether a period
is among them and, if not, why.
-/

namespace Registrar

/-- The periods that may be authored on a date, earliest first. -/
def openPeriods (today : Date) : List Period :=
  let y := today.year
  if today.month ≤ 7 then [⟨y, .b⟩, ⟨y + 1, .a⟩, ⟨y + 1, .b⟩]
  else [⟨y + 1, .a⟩, ⟨y + 1, .b⟩]

/-- A period may be authored when it is open; otherwise it is in progress, has passed, or is
not open yet. -/
def Period.assess (p : Period) (today : Date) : Except PeriodIssue Unit :=
  if p ∈ openPeriods today then .ok ()
  else if p.contains today then .error .inProgress
  else match openPeriods today with
    | earliest :: _ => if p.before earliest then .error .alreadyPassed else .error .notYetOpen
    | [] => .error .notYetOpen

end Registrar
