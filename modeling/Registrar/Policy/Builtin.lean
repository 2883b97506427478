import Registrar.Policy.Tables

/-!
# Built-in policy

The tables that hold before any file or variable changes them.
-/

namespace Registrar.Tables

/-- The roles that the resources are open to. -/
def builtinResources : List (String × List Role) :=
  [("course.list", [.student, .teacher, .admin]),
    ("course.view", [.student, .teacher, .admin]),
    ("course.create", [.teacher, .admin]),
    ("course.edit", [.teacher, .admin]),
    ("course.clone", [.teacher, .admin]),
    ("course.delete", [.admin]),
    ("course.enroll", [.student, .admin]),
    ("material.upload", [.teacher, .admin]),
    ("material.view", [.student, .teacher, .admin]),
    ("grade.submit", [.teacher, .admin]),
    ("report.generate", [.teacher, .admin]),
    ("user.manage", [.admin])]

/-- The permissions of students. -/
def studentPermissions : List String := ["list_courses", "view_course", "enroll", "view_material"]

/-- The permissions of teachers. -/
def teacherPermissions : List String :=
  ["list_courses", "view_course", "create_course", "edit_course", "clone_course",
    "upload_material", "view_material", "grade", "generate_report"]

/-- The permissions that the actions need. -/
def builtinActions : List (String × String) :=
  [("list", "list_courses"),
    ("view", "view_course"),
    ("create", "create_course"),
    ("edit", "edit_course"),
    ("clone", "clone_course"),
    ("delete", "delete_course"),
    ("enroll", "enroll"),
    ("upload", "upload_material"),
    ("grade", "grade"),
    ("report", "generate_report"),
    ("manage_users", "manage_users")]

/-- The seat limits of the modalities. -/
def builtinLimits : List (String × UInt32) := [("presencial", 35), ("hibrido", 35), ("virtual", 45)]

/-- The built-in tables, without a note of where their entries came from. -/
def builtin : Tables where
  revision := 1
  resourceRoles := .ofList (builtinResources.map fun (name, roles) => (name, .ofList roles))
  rolePermissions :=
    ⟨some (.ofList studentPermissions), some (.ofList teacherPermissions),
      some (.ofList [allPermissions])⟩
  actionPermissions := .ofList builtinActions
  capacity := ⟨.ofList builtinLimits, 45, .allow⟩
  provenance := .empty

/-- The entries that the tables have. -/
def targets (t : Tables) : List Target :=
  t.resourceRoles.keys.map .resource ++ t.rolePermissions.entries.map (.role ·.1) ++
    t.actionPermissions.keys.map .action ++ t.capacity.limits.keys.map .limit ++
    [.defaultLimit, .unresolvedCourse]

/-- The built-in tables with the note that all their entries are built in; the revision is the
first one. -/
def initial : Tables :=
  builtin.targets.foldl (fun t target => t.setProvenance target.path .builtin) builtin

end Registrar.Tables
