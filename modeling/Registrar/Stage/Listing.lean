import Registrar.Stage.Basic
import Registrar.Subject

/-!
# Listing courses

For each role there is a stage that grants requests in that role and notes how much of the course
list is shown.  Behind them stands a stage that refuses whatever none of them claimed.
-/

namespace Registrar

/-- How much of the course list a role is shown. -/
def Role.scope : Role → ViewScope
  | admin => .all
  | teacher => .byTeacher
  | student => .byStudent

/-- The fact that tells whose courses are shown. -/
def ViewScope.holder? : ViewScope → Option Fact
  | all => none
  | byTeacher => some .viewOwnerId
  | byStudent => some .viewStudentId

namespace Stage

/-- Requests in the role are granted with the scope of the role; others go on. -/
def viewReply (role : Role) (r : Request) : Reply :=
  if r.role = some role then
    let scope := role.scope
    let filtered := r.note .viewFilter (.string scope.name)
    match scope.holder?, filtered.fact? .subjectId with
    | some holder, some id => .approve (filtered.note holder id)
    | _, _ => .approve filtered
  else .proceed r

/-- Grants requests in one role. -/
def view (role : Role) : Stage := .ofReply (role.name ++ "_view") (viewReply role)

/-- What is said about requests that no stage claimed. -/
def unclaimedReply (r : Request) : Reply :=
  match r.role with
  | some role => .reject r .roleNotAuthorized
      ("no course listing is defined for role '" ++ role.name ++ "'")
  | none => .reject r .roleNotAuthorized "no role resolved; cannot list courses"

/-- Refuses requests that no stage claimed. -/
def denyUnclaimed : Stage := .ofReply "deny_unmatched" unclaimedReply

end Stage

end Registrar
