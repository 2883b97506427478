/-!
# Rejections

Why a request was refused: a kind from a closed list, and a sentence for people.

* `RejectionKind.code` is the stable name of a kind and `RejectionKind.label` adds what is wrong
  with a period.
* `RejectionKind.status` is the status that an HTTP service would answer with.
-/

namespace Registrar

/-- What is wrong with a requested academic period. -/
inductive PeriodIssue where
  /-- The period is over. -/
  | alreadyPassed
  /-- The period has begun and is not over. -/
  | inProgress
  /-- The period lies too far ahead. -/
  | notYetOpen
  /-- No period can be read from the request. -/
  | unparsable
  deriving DecidableEq

namespace PeriodIssue

/-- The issues, in the order in which they are declared. -/
def all : List PeriodIssue := [alreadyPassed, inProgress, notYetOpen, unparsable]

/-- The stable name of an issue. -/
def code : PeriodIssue → String
  | alreadyPassed => "already_passed"
  | inProgress => "in_progress"
  | notYetOpen => "not_yet_open"
  | unparsable => "unparsable"

end PeriodIssue

/-- Why a request was refused. -/
inductive RejectionKind where
  /-- The token is malformed or belongs to nobody. -/
  | invalidToken
  /-- The resource is closed to the role. -/
  | roleNotAuthorized
  /-- The role lacks the permission that the action needs. -/
  | permissionDenied
  /-- The course has no free seat. -/
  | capacityExceeded
  /-- The course to enroll in is unknown. -/
  | courseNotFound
  /-- The course is over. -/
  | enrollmentClosed
  /-- The requested academic period is refused. -/
  | invalidPeriod (issue : PeriodIssue)
  /-- A teacher named somebody else as the owner of a course. -/
  | cannotAssignOtherTeacher
  /-- Nobody can be made the owner of the course. -/
  | ownerRequired
  /-- The named owner is not an id. -/
  | invalidOwnerId
  /-- The role does not author courses. -/
  | notAuthorizedToAuthorCourses
  deriving DecidableEq

namespace RejectionKind

/-- The stable name of a kind. -/
def code : RejectionKind → String
  | invalidToken => "invalid_token"
  | roleNotAuthorized => "role_not_authorized"
  | permissionDenied => "permission_denied"
  | capacityExceeded => "capacity_exceeded"
  | courseNotFound => "course_not_found"
  | enrollmentClosed => "enrollment_closed"
  | invalidPeriod _ => "invalid_period"
  | cannotAssignOtherTeacher => "cannot_assign_other_teacher"
  | ownerRequired => "owner_required"
  | invalidOwnerId => "invalid_owner_id"
  | notAuthorizedToAuthorCourses => "not_authorized_to_author_courses"

/-- The kinds that carry no period issue, in the order in which they are declared. -/
def plain : List RejectionKind :=
  [invalidToken, roleNotAuthorized, permissionDenied, capacityExceeded, courseNotFound,
    enrollmentClosed, cannotAssignOtherTeacher, ownerRequired, invalidOwnerId,
    notAuthorizedToAuthorCourses]

/-- The name of a kind together with what is wrong with a period. -/
def label : RejectionKind → String
  | invalidPeriod issue => "invalid_period/" ++ issue.code
  | kind => kind.code

/-- The status that an HTTP service answers a refusal with. -/
def status : RejectionKind → Nat
  | invalidToken => 401
  | roleNotAuthorized | permissionDenied | cannotAssignOtherTeacher
  | notAuthorizedToAuthorCourses => 403
  | courseNotFound => 404
  | capacityExceeded | enrollmentClosed => 409
  | invalidPeriod _ | ownerRequired | invalidOwnerId => 422

end RejectionKind

/-- A refusal: its kind and the sentence that explains it. -/
structure Rejection where
  /-- Why the request was refused. -/
  kind : RejectionKind
  /-- The explanation for people. -/
  message : String
  deriving DecidableEq

/-- A refusal in one line. -/
def Rejection.line (r : Rejection) : String := r.kind.label ++ ": " ++ r.message

end Registrar
