import Registrar.FileContent
import Registrar.Roster
import Registrar.Yaml.Markup

/-!
# Directory files

A directory file lists subjects and courses.  It makes a roster when every role in it is known
and no token and no course number stands in it twice.

* `Directory.read?`: what a file says, in the words of the file.
* `Directory.roster`: the roster that it makes, or the first thing that is wrong: the subjects
  are looked at before the courses, and the role of a subject before its token.
* `Roster.load`: the roster in a file.
-/

namespace Registrar

/-- What a directory file says about a subject. -/
structure SubjectEntry where
  /-- The token. -/
  token : String
  /-- The number of the person. -/
  id : Int64
  /-- The name of the person. -/
  name : String
  /-- The address of the person. -/
  email : String
  /-- The name of the role. -/
  role : String

/-- What a directory file says about a course. -/
structure CourseEntry where
  /-- The number of the course. -/
  id : Int64
  /-- The course. -/
  course : Course

/-- What a directory file says. -/
structure Directory where
  /-- The subjects, in the order of the file. -/
  subjects : List SubjectEntry
  /-- The courses, in the order of the file. -/
  courses : List CourseEntry

/-- Why a directory file makes no roster. -/
inductive DirectoryError where
  /-- No text can be read from the file. -/
  | unreadable
  /-- The text is no directory. -/
  | malformed
  /-- No role has the name that is given for the subject with a token. -/
  | unknownRole (token role : String)
  /-- Two subjects have this token. -/
  | duplicateSubject (token : String)
  /-- Two courses have this number. -/
  | duplicateCourse (id : Int64)
  deriving DecidableEq

/-- What the caller is told, unless only the system can say what is wrong. -/
def DirectoryError.message? : DirectoryError → Option String
  | unreadable => none
  | malformed => some "invalid directory file:"
  | unknownRole token role => some ("subject '" ++ token ++ "' has unknown role '" ++ role ++ "'")
  | duplicateSubject token => some ("duplicate subject token '" ++ token ++ "'")
  | duplicateCourse id => some ("duplicate course id '" ++ Text.numeral id.toInt ++ "'")

open Markup in
/-- What a part of a file says about a subject. -/
def SubjectEntry.read? {δ : Type} [Markup δ] (d : δ) : Option SubjectEntry := do
  let fields ← record? ["token", "id", "name", "email", "role"] d
  return {
    token := ← field? fields "token" text?
    id := ← field? fields "id" int64?
    name := ← fieldOr fields "name" text? ""
    email := ← fieldOr fields "email" text? ""
    role := ← field? fields "role" text? }

open Markup in
/-- What a part of a file says about a course. -/
def CourseEntry.read? {δ : Type} [Markup δ] (d : δ) : Option CourseEntry := do
  let fields ← record? ["id", "modality", "enrolled", "period"] d
  let id ← field? fields "id" int64?
  let modality ← field? fields "modality" text?
  let enrolled ← fieldOr fields "enrolled" word32? 0
  let period ← fieldOpt fields "period" text?
  return ⟨id, modality, enrolled, period⟩

namespace Directory

open Markup in
/-- What a file says.  Both lists may be missing. -/
def read? {δ : Type} [Markup δ] (d : δ) : Option Directory := do
  let fields ← record? ["subjects", "courses"] d
  let subjects ← fieldOr fields "subjects" (listOf? SubjectEntry.read?) []
  let courses ← fieldOr fields "courses" (listOf? CourseEntry.read?) []
  return ⟨subjects, courses⟩

/-- A subject is added to a roster. -/
def addSubject (r : Roster) (e : SubjectEntry) : Except DirectoryError Roster :=
  match Role.read e.role with
  | .error _ => .error (.unknownRole e.token e.role)
  | .ok role =>
    if r.subjects.contains e.token then .error (.duplicateSubject e.token)
    else .ok (r.putSubject e.token ⟨e.id, e.name, e.email, role⟩)

/-- A course is added to a roster. -/
def addCourse (r : Roster) (e : CourseEntry) : Except DirectoryError Roster :=
  if r.courses.contains e.id then .error (.duplicateCourse e.id)
  else .ok (r.putCourse e.id e.course)

/-- The roster that a directory makes. -/
def roster (d : Directory) : Except DirectoryError Roster := do
  d.courses.foldlM addCourse (← d.subjects.foldlM addSubject .empty)

end Directory

namespace Roster

/-- The roster that a text describes; a blank text describes the empty one. -/
def read (text : String) : Except DirectoryError Roster :=
  if Text.blank text then .ok empty
  else match Yaml.Document.decode? Directory.read? text with
    | some d => d.roster
    | none => .error .malformed

/-- The roster in a file, which must be there. -/
def load : FileContent → Except DirectoryError Roster
  | .text content => read content
  | _ => .error .unreadable

end Roster

end Registrar
