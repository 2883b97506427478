import Registrar.Policy.Tables

/-!
# Amendments

Changes that are made to the tables while the process is being set up.  An amendment adds to
the sets of roles and permissions and never takes from them; the other entries it replaces.
-/

namespace Registrar

/-- A change to one entry of the tables. -/
inductive Amendment where
  /-- A resource is opened to more roles. -/
  | openResource (resource : String) (roles : List Role)
  /-- A role is granted more permissions. -/
  | grant (role : Role) (permissions : List String)
  /-- An action needs this permission from now on. -/
  | require (action permission : String)
  /-- Courses of a modality have this many seats from now on. -/
  | limitSeats (modality : Modality) (limit : UInt32)
  /-- This happens from now on to enrollments in courses that cannot be found. -/
  | treatUnresolved (policy : UnresolvedCourse)
  deriving DecidableEq

/-- The entry that is changed. -/
def Amendment.target : Amendment → Target
  | openResource resource _ => .resource (Text.trim resource)
  | grant role _ => .role role
  | require action _ => .action (actionKey action)
  | limitSeats modality _ => .limit modality.key
  | treatUnresolved _ => .unresolvedCourse

namespace Tables

/-- The tables with the entry changed, without a note of the change. -/
def write (t : Tables) : Amendment → Tables
  | .openResource resource roles =>
    let key := Text.trim resource
    let set := ((t.resourceRoles.get? key).getD .empty).addAll roles
    { t with resourceRoles := t.resourceRoles.insert key set }
  | .grant role permissions =>
    let set := ((t.rolePermissions.get? role).getD .empty).addAll permissions
    { t with rolePermissions := t.rolePermissions.set role set }
  | .require action permission =>
    { t with actionPermissions := t.actionPermissions.insert (actionKey action) permission }
  | .limitSeats modality limit =>
    { t with capacity.limits := t.capacity.limits.insert modality.key limit }
  | .treatUnresolved policy => { t with capacity.unresolvedCourse := policy }

/-- The tables after an amendment, which is noted as a change by an admin. -/
def amend (t : Tables) (a : Amendment) : Tables := (t.write a).record a.target .admin

variable (t : Tables)

theorem allowedRoles_openResource (resource other : String) (roles : List Role) :
    (t.write (.openResource resource roles)).allowedRoles other =
      if Text.trim other = Text.trim resource then
        some (((t.allowedRoles resource).getD .empty).addAll roles)
      else t.allowedRoles other :=
  Table.get?_insert ..

theorem hasPermission_grant (role other : Role) (permissions : List String) (permission : String) :
    (t.write (.grant role permissions)).hasPermission other permission =
      (t.hasPermission other permission || other == role && permissions.contains permission) := by
  simp only [hasPermission, Tables.permissions, write, RoleMap.get?_set]
  by_cases h : other = role
  · subst h
    rw [if_pos rfl, Option.any_some, TextSet.contains_addAll, beq_self_eq_true, Bool.true_and]
    cases t.rolePermissions.get? other <;> rfl
  · simp [h]

theorem seatLimit_limitSeats (modality other : Modality) (limit : UInt32) :
    (t.write (.limitSeats modality limit)).seatLimit other =
      if other.key = modality.key then limit else t.seatLimit other := by
  simp only [seatLimit, write, Table.get?_insert]
  split <;> rfl

end Tables

end Registrar
