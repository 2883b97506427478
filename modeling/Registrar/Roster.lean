import Registrar.Records
import Registrar.Table

/-!
# Rosters

A roster holds the subjects and the courses of a campus and answers the questions that are asked
of its records.  Subjects are found by their tokens and courses by their numbers.

* `Roster.putSubject`, `Roster.putCourse`: add an entry, or replace the one that is there.
* `Roster.records`: the answers, of a directory as well as of subjects and courses in memory.  A
  course that is not on the roster has neither a modality nor a period, and nobody is enrolled in
  it.
-/

namespace Registrar

/-- A course of the campus. -/
structure Course where
  /-- How the course is held, as it is written. -/
  modality : String
  /-- The number of seats that are taken. -/
  enrolled : UInt32
  /-- The period in which the course is held, as it is written. -/
  period : Option String
  deriving DecidableEq

/-- The subjects and the courses of a campus. -/
structure Roster where
  /-- The subjects, by token. -/
  subjects : Table String Subject
  /-- The courses, by number. -/
  courses : Table Int64 Course

namespace Roster

/-- The roster without entries. -/
def empty : Roster := ⟨.empty, .empty⟩

/-- The roster with the subject of one token set. -/
def putSubject (r : Roster) (token : String) (s : Subject) : Roster :=
  { r with subjects := r.subjects.insert token s }

/-- The roster with the course of one number set. -/
def putCourse (r : Roster) (id : Int64) (c : Course) : Roster :=
  { r with courses := r.courses.insert id c }

/-- The answers of a roster, which is never out of order.  They are those of a directory that was
read from a file, and also those of subjects and of courses that are kept in memory, one by one:
both look the entry up, and count nobody where there is none. -/
def records (r : Roster) : Records where
  subject token := .ok (r.subjects.get? token)
  modality id := .ok ((r.courses.get? id).map (·.modality))
  enrollment id := .ok (((r.courses.get? id).map (·.enrolled)).getD 0)
  period id := .ok ((r.courses.get? id).bind (·.period))

end Roster

end Registrar
