import Registrar.Calendar.Assessment
import Registrar.Stage.Basic

/-!
# Authoring a course

Two stages look at requests that create or edit a course.  One lets a course be authored only for
a period that has not begun; the other settles who will own it.  Requests that do something else
go on.
-/

namespace Registrar.Stage

/-! ### The period -/

/-- Why a period that is not open is refused. -/
def issueMessage (p : Period) (today : Date) : PeriodIssue → String
  | .alreadyPassed => p.label ++ " has already passed"
  | .inProgress => p.label ++ " is already in progress"
  | .notYetOpen => p.label ++ " is not open for authoring yet; open terms: " ++
      ", ".intercalate ((openPeriods today).map Period.label)
  | .unparsable => p.label ++ " could not be read"

/-- The request goes on if the period is open; what is noted is the period as it is written in
this library. -/
def openPeriodReply (today : Date) (p : Period) (r : Request) : Reply :=
  match p.assess today with
  | .error issue => .reject r (.invalidPeriod issue) (issueMessage p today issue)
  | .ok () => .proceed (((r.note .validatedPeriod (.string p.label)).note .periodYear
      (.int p.year)).note .periodTerm (.string p.term.code))

/-- What is said about the period that a request names.  Only an edit need not name one. -/
def periodReply (today : Date) (r : Request) : Reply :=
  if r.authors then
    match r.fact? .periodRequested with
    | none =>
      if r.does "edit" then .proceed r
      else .reject r (.invalidPeriod .unparsable)
        "an academic period is required to create a course"
    | some (.string raw) =>
      match Period.read raw with
      | .ok p => openPeriodReply today p r
      | .error e => .reject r (.invalidPeriod .unparsable) e.message
    | some _ => .reject r (.invalidPeriod .unparsable)
        "period must be a string such as 'January-June 2026'"
  else .proceed r

/-- Refuses periods that have begun or lie too far ahead. -/
def academicPeriod (today : Date) : Stage := .ofReply "academic_period" (periodReply today)

/-! ### The owner -/

/-- The owner that a request names. -/
inductive NamedOwner where
  /-- It names nobody. -/
  | absent
  /-- It names the teacher with this number. -/
  | id (n : Int64)
  /-- What it names is no number. -/
  | malformed
  deriving DecidableEq

/-- The owner that a request names. -/
def namedOwner (r : Request) : NamedOwner :=
  match r.fact? .ownerIdRequested with
  | none => .absent
  | some v =>
    match v.int64? with
    | some n => .id n
    | none => .malformed

/-- The request goes on with an owner, who was assigned or named. -/
def ownedBy (r : Request) (owner : Int64) (assigned : Bool) : Reply :=
  .proceed ((r.note .ownerIdRequested (.int owner.toInt)).note .autoAssigned (.bool assigned))

/-- A teacher owns what the teacher authors, and may name nobody else. -/
def teacherReply (r : Request) : Reply :=
  match r.int64? .subjectId with
  | none => .reject r .ownerRequired "teacher identity is unknown; cannot assign ownership"
  | some subject =>
    match namedOwner r with
    | .absent => ownedBy r subject true
    | .id owner =>
      if owner = subject then ownedBy r owner false
      else .reject r .cannotAssignOtherTeacher
        ("teacher " ++ Text.numeral subject.toInt ++ " cannot assign course ownership to " ++
          Text.numeral owner.toInt)
    | .malformed => .reject r .invalidOwnerId "ownerIdRequested is not a numeric id"

/-- An admin authors for a teacher, who must be named. -/
def adminReply (r : Request) : Reply :=
  match namedOwner r with
  | .absent => .reject r .ownerRequired "admins must name the owning teacher"
  | .id owner =>
    if 0 < owner then ownedBy r owner false
    else .reject r .invalidOwnerId
      ("owner id must be positive, got " ++ Text.numeral owner.toInt)
  | .malformed => .reject r .invalidOwnerId "ownerIdRequested is not a numeric id"

/-- What is said about the owner of a course.  Students never author one. -/
def ownerReply (r : Request) : Reply :=
  if r.authors then
    match r.role with
    | none => .reject r .notAuthorizedToAuthorCourses
        "no role resolved; only teachers and admins author courses"
    | some .student => .reject r .notAuthorizedToAuthorCourses "students cannot author courses"
    | some .teacher => teacherReply r
    | some .admin => adminReply r
  else .proceed r

/-- Settles who will own a course. -/
def assignOwner : Stage := .ofReply "auto_assign_owner" ownerReply

end Registrar.Stage
