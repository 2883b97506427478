import Registrar.Modality
import Registrar.Role
import Registrar.Table

/-!
# Policy tables

What decides who may do what: the roles that a resource is open to, the permissions that a role
holds, the permission that an action needs, and the seats that a course may have.

* `Tables` holds the answers, a revision number that every change raises, and for each entry
  where it came from.
* `Tables.allowedRoles`, `Tables.permissions`, `Tables.requiredPermission`, `Tables.seatLimit`
  and their kin are the questions that can be asked.
* `Target` names an entry, and `Tables.record` notes a change to one.

Resources are looked up trimmed, actions trimmed and in lower case, and modalities under their
key.
-/

namespace Registrar

/-- The permission that stands for every permission. -/
def allPermissions : String := "all"

/-- What happens to an enrollment in a course that cannot be found. -/
inductive UnresolvedCourse where
  /-- It goes on. -/
  | allow
  /-- It is refused. -/
  | reject
  deriving DecidableEq, Inhabited

/-- The name of what happens. -/
def UnresolvedCourse.name : UnresolvedCourse → String
  | allow => "allow"
  | reject => "reject"

/-- What happens, by its exact name. -/
def UnresolvedCourse.named? (name : String) : Option UnresolvedCourse :=
  if name = "allow" then some allow else if name = "reject" then some reject else none

/-- Where an entry of the tables came from. -/
inductive Source where
  /-- It was there from the start. -/
  | builtin
  /-- A policy file. -/
  | file
  /-- The environment of the process. -/
  | env
  /-- A change while the process was running. -/
  | admin
  deriving DecidableEq

/-- The sources, in the order in which they are declared. -/
def Source.all : List Source := [.builtin, .file, .env, .admin]

/-- The name of a source. -/
def Source.name : Source → String
  | builtin => "Builtin"
  | file => "File"
  | env => "Env"
  | admin => "Admin"

/-- An entry of the tables. -/
inductive Target where
  /-- The roles of a resource. -/
  | resource (name : String)
  /-- The permissions of a role. -/
  | role (role : Role)
  /-- The permission that an action needs. -/
  | action (verb : String)
  /-- The seat limit of a modality. -/
  | limit (key : String)
  /-- The seat limit of all other modalities. -/
  | defaultLimit
  /-- What happens to courses that cannot be found. -/
  | unresolvedCourse
  deriving DecidableEq

/-- The path under which the source of an entry is kept. -/
def Target.path : Target → String
  | resource name => "resource_roles." ++ name
  | role r => "role_permissions." ++ r.name
  | action verb => "action_permissions." ++ verb
  | limit key => "capacity.limits." ++ key
  | defaultLimit => "capacity.default_limit"
  | unresolvedCourse => "capacity.unresolved_course"

/-- Where the entry at a path came from. -/
structure Provenance where
  /-- The path of the entry. -/
  path : String
  /-- Where it came from. -/
  source : Source
  deriving DecidableEq

/-- How many seats courses have. -/
structure Capacity where
  /-- The seat limits by the key of the modality. -/
  limits : Table String UInt32
  /-- The seat limit of every other modality. -/
  defaultLimit : UInt32
  /-- What happens to an enrollment in a course that cannot be found. -/
  unresolvedCourse : UnresolvedCourse
  deriving DecidableEq

/-- The tables that requests are judged by. -/
structure Tables where
  /-- The number of changes so far; it stays at its greatest value. -/
  revision : UInt64
  /-- The roles that a resource is open to. -/
  resourceRoles : Table String RoleSet
  /-- The permissions that a role holds. -/
  rolePermissions : RoleMap TextSet
  /-- The permission that an action needs. -/
  actionPermissions : Table String String
  /-- How many seats courses have. -/
  capacity : Capacity
  /-- Where the entries came from, by path. -/
  provenance : Table String Provenance
  deriving DecidableEq

/-- The word under which an action is looked up. -/
def actionKey (action : String) : String := Text.lowerAscii (Text.trim action)

namespace Tables

/-- Tables that hold nothing. -/
def empty : Tables :=
  ⟨0, .empty, .empty, .empty, ⟨.empty, 0, .allow⟩, .empty⟩

/-! ### Questions -/

/-- The roles that a resource is open to; a resource without entry is open to all. -/
def allowedRoles (t : Tables) (resource : String) : Option RoleSet :=
  t.resourceRoles.get? (Text.trim resource)

/-- The permissions that a role holds. -/
def permissions (t : Tables) (role : Role) : Option TextSet := t.rolePermissions.get? role

/-- The role holds a permission. -/
def hasPermission (t : Tables) (role : Role) (permission : String) : Bool :=
  (t.permissions role).any (·.contains permission)

/-- The role holds every permission. -/
def hasAllPermissions (t : Tables) (role : Role) : Bool := t.hasPermission role allPermissions

/-- The permission that an action needs; an action without entry needs none. -/
def requiredPermission (t : Tables) (action : String) : Option String :=
  t.actionPermissions.get? (actionKey action)

/-- The number of seats of a course of a modality. -/
def seatLimit (t : Tables) (modality : Modality) : UInt32 :=
  (t.capacity.limits.get? modality.key).getD t.capacity.defaultLimit

/-! ### Keeping track of changes -/

/-- The source of the entry at a path. -/
def setProvenance (t : Tables) (path : String) (source : Source) : Tables :=
  { t with provenance := t.provenance.insert path ⟨path, source⟩ }

/-- One more change. -/
def raiseRevision (t : Tables) : Tables :=
  { t with
    revision := if t.revision = 18446744073709551615 then t.revision else t.revision + 1 }

/-- A change to an entry is noted. -/
def record (t : Tables) (target : Target) (source : Source) : Tables :=
  t.raiseRevision.setProvenance target.path source

end Tables

end Registrar
