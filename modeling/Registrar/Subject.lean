import Registrar.Role

/-!
# Subjects and listing scopes

A subject is a person the campus knows, found by the token that the person shows.  A scope says
how much of the course list a subject is shown.
-/

namespace Registrar

/-- A person the campus knows. -/
structure Subject where
  /-- The number of the person. -/
  id : Int64
  /-- The name of the person. -/
  name : String
  /-- The address of the person. -/
  email : String
  /-- The role in which the person acts. -/
  role : Role
  deriving DecidableEq

/-- How much of the course list a subject is shown. -/
inductive ViewScope where
  /-- Every course. -/
  | all
  /-- The courses that the subject gives. -/
  | byTeacher
  /-- The courses that the subject takes. -/
  | byStudent
  deriving DecidableEq

/-- The stable name of a scope. -/
def ViewScope.name : ViewScope → String
  | all => "ALL"
  | byTeacher => "BY_TEACHER"
  | byStudent => "BY_STUDENT"

/-- The scopes, in the order in which they are declared. -/
def ViewScope.list : List ViewScope := [.all, .byTeacher, .byStudent]

end Registrar
